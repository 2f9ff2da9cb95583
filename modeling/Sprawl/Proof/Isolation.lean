/-
This file proves which requests keep the rows of other workspaces apart.
-/

import Sprawl.Api.Routes
import Sprawl.Proof.Handle

namespace Sprawl

open Effect

/-- The workspace in the path of a request. -/
def ApiRequest.path : ApiRequest → Option Uuid
  | .workspace workspaceId _ => some workspaceId
  | .simulateFailure _ => none

/-- The request addresses no workspace of its token, neither by path nor by session. -/
def ApiRequest.Foreign (claims : TokenClaims) (db : Database) : ApiRequest → Prop
  | .workspace workspaceId _ => workspaceId ≠ claims.workspaceId
  | .simulateFailure sessionId => ∀ workspace ∈ db.workspaces,
      workspace.demoSessionId = some sessionId → workspace.id ≠ claims.workspaceId

/-- The handler of the route refuses the request before it reads a row, or its page is empty. -/
def Route.Refused (claims : TokenClaims) : Route → Prop
  | .listSecrets limit offset =>
      validPage limit offset = false ∨ pageRefused limit offset = true ∨ limit = 0
  | .listInvestigations limit offset | .listRotations limit offset
  | .listAuditEvents limit offset =>
      validPage limit offset = false ∨ pageRefused limit offset = true
  | .approveRotation _ | .rejectRotation _ | .confirmStep _ _ => ¬ mayDecide claims
  | _ => False

/-- No simulated failure is refused. -/
def ApiRequest.Refused (claims : TokenClaims) : ApiRequest → Prop
  | .workspace _ route => route.Refused claims
  | .simulateFailure _ => False

section Tenants

/-- A secret with a given identifier and fingerprint. -/
def plainSecret (workspaceId id : Uuid) (fingerprint : String) : Secret where
  id := id
  workspaceId := workspaceId
  fingerprint := fingerprint
  type := "aws_iam_key"
  provider := some "aws"
  health := .unknown
  environment := .unknown
  exposureStatus := .unknown
  severityScore := none
  severityBucket := none
  rotatable := false
  firstSeen := 0
  lastSeen := 0

/-- A workspace with one secret, a running investigation and a rotation that is provisioning. -/
def tenant (workspaceId secretId rowId : Uuid) : Database :=
  { Database.empty 0 with
    workspaces :=
      [{ id := workspaceId, kind := .standard, demoSessionId := none, expiresAt := none }]
    secrets := [plainSecret workspaceId secretId "fingerprint"]
    investigations :=
      [{ id := rowId, workspaceId, secretId, status := .running, traceId := none, coverage := none
         startedAt := 0, finishedAt := none }]
    rotations :=
      [{ id := rowId, workspaceId, secretId, status := .provisioning, plan := some []
         planError := none, coverage := [], newSecretRef := none, planExpiresAt := none
         createdBy := none, createdAt := 0, updatedAt := 0 }]
    auditLog :=
      [{ id := 0, entry := { workspaceId, actor := demoActor, action := "rotation.proposed" }
         prevHash := genesisHash, hash := genesisHash, createdAt := 0 }] }

/-- A workspace with a number of secrets. -/
def crowd (workspaceId : Uuid) (count : Nat) : Database :=
  { Database.empty 0 with
    workspaces :=
      [{ id := workspaceId, kind := .standard, demoSessionId := none, expiresAt := none }]
    secrets := (List.range count).map fun id =>
      plainSecret workspaceId id (String.ofList (List.replicate id 'f')) }

/-- A demo workspace without a rotation. -/
def demoTenant (workspaceId : Uuid) (sessionId : String) : Database :=
  { Database.empty 0 with
    workspaces :=
      [{ id := workspaceId, kind := .demo, demoSessionId := some sessionId, expiresAt := none }] }

theorem Database.empty_valid : (Database.empty 0).Valid := by
  constructor <;> simp [Database.empty, References]

theorem tenant_valid (workspaceId secretId rowId : Uuid) :
    (tenant workspaceId secretId rowId).Valid := by
  constructor <;>
    simp [tenant, Database.empty, References, plainSecret, List.filter_cons, apply_ite]

theorem crowd_valid (workspaceId : Uuid) (count : Nat) : (crowd workspaceId count).Valid := by
  have ids : ((crowd workspaceId count).secrets.map (·.id)).Nodup := by
    simp [crowd, plainSecret, Function.comp_def, List.nodup_range]
  have fingerprints : ((crowd workspaceId count).secrets.map fun secret =>
      (secret.workspaceId, secret.fingerprint)).Nodup := by
    simp only [crowd, List.map_map]
    refine List.Nodup.map ?_ List.nodup_range
    intro first second same
    simpa [plainSecret] using congrArg (fun key => key.2.length) same
  constructor <;> first | exact ids | exact fingerprints | simp [crowd, Database.empty, References,
    plainSecret]

theorem crowd_length (workspaceId : Uuid) (count : Nat) :
    ((crowd workspaceId count).secretsOf workspaceId).length = count := by
  have all : (crowd workspaceId count).secretsOf workspaceId =
      (crowd workspaceId count).secrets := by
    simp [Database.secretsOf, crowd, plainSecret]
  rw [all]
  simp [crowd]

theorem demoTenant_valid (workspaceId : Uuid) (sessionId : String) :
    (demoTenant workspaceId sessionId).Valid := by
  constructor <;> simp [demoTenant, Database.empty, References]

section Apart

variable {workspaceId other : Uuid} (apart : workspaceId ≠ other)
include apart

theorem tenant_ofWorkspace (secretId rowId : Uuid) :
    (tenant workspaceId secretId rowId).ofWorkspace other =
      (Database.empty 0).ofWorkspace other := by
  simp [tenant, Database.empty, Database.ofWorkspace, plainSecret, apart]

theorem crowd_ofWorkspace (count : Nat) :
    (crowd workspaceId count).ofWorkspace other = (Database.empty 0).ofWorkspace other := by
  simp [crowd, Database.empty, Database.ofWorkspace, plainSecret, apart]

theorem demoTenant_ofWorkspace (sessionId : String) :
    (demoTenant workspaceId sessionId).ofWorkspace other =
      (Database.empty 0).ofWorkspace other := by
  simp [demoTenant, Database.empty, Database.ofWorkspace, apart]

end Apart

end Tenants

/-- Pages with different totals differ. -/
theorem pageEnvelope_total {data other : List Json} {total otherTotal : Nat} {limit offset : Int}
    (same : pageEnvelope data total limit offset = pageEnvelope other otherTotal limit offset) :
    total = otherTotal := by
  simp only [pageEnvelope, Json.obj.injEq, List.cons.injEq, Prod.mk.injEq, Json.int.injEq,
    true_and, and_true] at same
  exact Int.ofNat.inj same.2

variable [Sha256] [UuidCodec]

/-- A request on another workspace changes no row, and its response depends only on the rows of the
workspace of its token. -/
structure Isolated (claims : TokenClaims) (request : ApiRequest) : Prop where
  unchanged : ∀ around (db : Database), db.Valid → request.Foreign claims db →
    (request.respond db around claims).2 = db
  blind : ∀ around (first second : Database), first.Valid → second.Valid →
    request.Foreign claims first → request.Foreign claims second →
    first.ofWorkspace claims.workspaceId = second.ofWorkspace claims.workspaceId →
    (request.respond first around claims).1 = (request.respond second around claims).1

attribute [local simp] query issueApi orRaise orNotFound execute requireSecret ExceptT.run_bind
  ApiSession.answer ApiHandler.respond respondPage Response.of Except.map Database.apiAnswer
  Database.secretsOf Database.investigationsOf Database.rotationsOf Database.auditOf
  Database.joinSecrets newestFirst

section Refusals

variable (db : Database) (around : Surroundings) (claims : TokenClaims) (workspaceId : Uuid)
  (uuids : List Uuid) {limit offset : Int}

/-- A list handler fails with the page that the database refuses. -/
theorem respondPage_refused {handler : ApiHandler Json}
    (refused : validPage limit offset = false ∨ pageRefused limit offset = true)
    (fails : pageRefused limit offset = true →
      handler.respond db uuids 200 = (.failure internalError, db)) :
    respondPage db uuids limit offset handler =
      (.failure (if validPage limit offset then internalError else unprocessable), db) := by
  unfold respondPage
  cases valid : validPage limit offset with
  | false => simp
  | true =>
      rw [valid] at refused
      simp only [Bool.true_eq_false, false_or] at refused
      simpa using fails refused

theorem listSecrets_refused (refused : pageRefused limit offset = true) :
    (listSecrets workspaceId limit offset).respond db uuids 200 = (.failure internalError, db) := by
  simp [listSecrets, pageOf, refused]

/-- A list handler raises what its page raises. -/
theorem listPage_refused {ρ : Type} {page : ApiHandler (Except SqlError (List ρ))}
    {count : ApiHandler Nat} {out : ρ → Document} {limit offset : Int}
    (raises : ∀ session, page.run.run ApiSession.answer session = (.ok (.error .data), session)) :
    (listPage page count out limit offset).respond db uuids 200 = (.failure internalError, db) := by
  simp [listPage, raises]

/-- An empty page of secrets has total zero. -/
theorem listSecrets_zero (fits : pageRefused 0 offset = false) :
    (listSecrets workspaceId 0 offset).respond db uuids 200 =
      (.success 200 (pageEnvelope [] 0 0 offset), db) := by
  simp [listSecrets, pageOf, fits]

omit [UuidCodec] in
theorem request_respond_denied (statusCode : Nat) (request : Request)
    (role : ¬ mayDecide request.claims) :
    request.respond db statusCode =
      (.failure { statusCode := 403, detail := "insufficient_role" }, db) := by
  unfold Request.respond
  rw [request_denied Connectors.none role]
  rfl

/-- The response of a refused request is fixed before any row is read. -/
theorem Route.Refused.respond {route : Route} (refused : route.Refused claims) :
    ∃ response, ∀ db : Database, route.respond db around claims workspaceId = (response, db) := by
  cases route with
  | listSecrets limit offset =>
      by_cases early : validPage limit offset = false ∨ pageRefused limit offset = true
      · exact ⟨_, fun db => respondPage_refused db _ early (listSecrets_refused db workspaceId _)⟩
      · obtain ⟨valid, fits⟩ := not_or.mp early
        have zero : limit = 0 := (refused.resolve_left valid).resolve_left fits
        subst zero
        simp only [Bool.not_eq_false, Bool.not_eq_true] at valid fits
        refine ⟨.success 200 (pageEnvelope [] 0 0 offset), fun db => ?_⟩
        simp only [Route.respond, respondPage, valid, if_true]
        exact listSecrets_zero db workspaceId _ fits
  | listInvestigations limit offset =>
      refine ⟨_, fun db => respondPage_refused db _ refused fun fails => ?_⟩
      exact listPage_refused db _ fun session => by simp [pageOf, fails]
  | listRotations limit offset =>
      refine ⟨_, fun db => respondPage_refused db _ refused fun fails => ?_⟩
      exact listPage_refused db _ fun session => by simp [pageOf, fails]
  | listAuditEvents limit offset =>
      refine ⟨_, fun db => respondPage_refused db _ refused fun fails => ?_⟩
      exact listPage_refused db _ fun session => by simp [pageOf, fails]
  | approveRotation rotationId =>
      exact ⟨_, fun db => request_respond_denied db 202 (.approve _ _ claims) refused⟩
  | rejectRotation rotationId =>
      exact ⟨_, fun db => request_respond_denied db 200 (.reject _ _ claims) refused⟩
  | confirmStep rotationId stepId =>
      exact ⟨_, fun db => request_respond_denied db 200 (.confirm _ _ _ claims) refused⟩
  | _ => exact refused.elim

end Refusals

/-- A refused request is isolated. -/
theorem ApiRequest.Refused.isolated {claims : TokenClaims} {request : ApiRequest}
    (refused : request.Refused claims) : Isolated claims request := by
  cases request with
  | simulateFailure sessionId => exact refused.elim
  | workspace workspaceId route =>
      constructor
      · intro around db _ _
        obtain ⟨response, always⟩ := Route.Refused.respond around claims workspaceId refused
        exact congrArg Prod.snd (always db)
      · intro around first second _ _ _ _ _
        obtain ⟨response, always⟩ := Route.Refused.respond around claims workspaceId refused
        exact (congrArg Prod.fst (always first)).trans (congrArg Prod.fst (always second)).symm

section Leaks

variable {claims : TokenClaims} {workspaceId : Uuid}

/-- An isolated request does not see whether the other workspace has rows. -/
theorem Isolated.tenant_eq {route : Route}
    (isolated : Isolated claims (.workspace workspaceId route))
    (foreign : workspaceId ≠ claims.workspaceId) (secretId rowId : Uuid) (around : Surroundings) :
    (route.respond (tenant workspaceId secretId rowId) around claims workspaceId).1 =
      (route.respond (Database.empty 0) around claims workspaceId).1 :=
  isolated.blind around _ _ (tenant_valid _ _ _) Database.empty_valid foreign foreign
    (tenant_ofWorkspace foreign secretId rowId)

/-- An isolated request does not see how many secrets the other workspace has. -/
theorem Isolated.crowd_eq {route : Route}
    (isolated : Isolated claims (.workspace workspaceId route))
    (foreign : workspaceId ≠ claims.workspaceId) (count : Nat) (around : Surroundings) :
    (route.respond (crowd workspaceId count) around claims workspaceId).1 =
      (route.respond (Database.empty 0) around claims workspaceId).1 :=
  isolated.blind around _ _ (crowd_valid _ _) Database.empty_valid foreign foreign
    (crowd_ofWorkspace foreign count)

/-- A page of secrets reports its own length as the total. -/
theorem listSecrets_page (db : Database) (workspaceId : Uuid) (uuids : List Uuid)
    {limit offset : Int} (fits : pageRefused limit offset = false) :
    ∃ data, (listSecrets workspaceId limit offset).respond db uuids 200 =
      (.success 200 (pageEnvelope data
        (min limit.toNat ((db.secretsOf workspaceId).length - offset.toNat)) limit offset), db) := by
  refine ⟨((((db.secretsOf workspaceId).mergeSort bySeverity).drop offset.toNat).take
    limit.toNat).map fun secret => .obj secret.out, ?_⟩
  simp [listSecrets, pageOf, fits]

/-- An isolated list of secrets is refused or empty. -/
theorem listSecrets_leaks (foreign : workspaceId ≠ claims.workspaceId) {limit offset : Int}
    (isolated : Isolated claims (.workspace workspaceId (.listSecrets limit offset))) :
    (Route.listSecrets limit offset).Refused claims := by
  by_contra served
  simp only [Route.Refused, not_or, Bool.not_eq_false, Bool.not_eq_true] at served
  obtain ⟨valid, fits, nonzero⟩ := served
  have same := isolated.crowd_eq foreign (offset.toNat + 1) ⟨[], 0⟩
  obtain ⟨data, full⟩ := listSecrets_page (crowd workspaceId (offset.toNat + 1)) workspaceId []
    fits
  obtain ⟨blank, vacant⟩ := listSecrets_page (Database.empty 0) workspaceId [] fits
  simp only [Route.respond, respondPage, valid, if_true, full, vacant, Response.success.injEq,
    true_and] at same
  have totals := pageEnvelope_total same
  have positive : 0 < limit := by
    simp only [pageRefused, Bool.or_eq_false_iff, decide_eq_false_iff_not] at fits
    omega
  have vacancy : (Database.empty 0).secretsOf workspaceId = [] := rfl
  rw [crowd_length, vacancy, List.length_nil] at totals
  omega

/-- An isolated list with a row count is refused. -/
theorem lists_leak (foreign : workspaceId ≠ claims.workspaceId) {limit offset : Int} {route : Route}
    (counted : route = .listInvestigations limit offset ∨ route = .listRotations limit offset ∨
      route = .listAuditEvents limit offset)
    (isolated : Isolated claims (.workspace workspaceId route)) :
    validPage limit offset = false ∨ pageRefused limit offset = true := by
  by_contra served
  simp only [not_or, Bool.not_eq_false, Bool.not_eq_true] at served
  obtain ⟨valid, fits⟩ := served
  have same := isolated.tenant_eq foreign 0 0 ⟨[], 0⟩
  rcases counted with rfl | rfl | rfl <;>
    simp [Route.respond, valid, fits, listInvestigations, listRotations, listAuditEvents, listPage,
      pageOf, tenant, Database.empty, plainSecret] at same <;>
    exact absurd (pageEnvelope_total same) (by decide)

/-- An isolated request for one row does not exist. -/
theorem rows_leak (foreign : workspaceId ≠ claims.workspaceId) {route : Route}
    (isolated : Isolated claims (.workspace workspaceId route)) (id : Uuid)
    (single : route = .getSecret id ∨ route = .triggerInvestigation id ∨
      route = .triggerRotation id ∨ route = .getBlastRadius id ∨ route = .getInvestigation id ∨
      route = .getRotation id) : False := by
  have same := isolated.tenant_eq foreign id id ⟨[], 0⟩
  rcases single with rfl | rfl | rfl | rfl | rfl | rfl
  · simp [Route.respond, getSecret, tenant, Database.empty, plainSecret] at same
  · simp [Route.respond, triggerInvestigation, tenant, Database.empty, plainSecret,
      Database.apiApply, Database.insertInvestigation] at same
  · simp [Route.respond, triggerRotation, tenant, Database.empty, plainSecret,
      RotationStatus.isTerminal, RotationStatus.terminal] at same
  · simp [Route.respond, getBlastRadius, tenant, Database.empty, plainSecret] at same
  · simp [Route.respond, getInvestigation, tenant, Database.empty, plainSecret] at same
  · simp [Route.respond, getRotation, tenant, Database.empty, plainSecret] at same

/-- An isolated decision is refused. -/
theorem decisions_leak (foreign : workspaceId ≠ claims.workspaceId) {route : Route}
    (isolated : Isolated claims (.workspace workspaceId route)) (id : Uuid)
    (decision : route = .approveRotation id ∨ route = .rejectRotation id ∨
      ∃ stepId, route = .confirmStep id stepId) : ¬ mayDecide claims := by
  intro role
  have allowed : claims.role = "owner" ∨ claims.role = "approver" := role
  have same := isolated.tenant_eq foreign id id ⟨[], 0⟩
  rcases decision with rfl | rfl | ⟨stepId, rfl⟩ <;>
    simp [Route.respond, Request.respond, Request.program, approveRotation, rejectRotation,
      confirmStep, requireRole, requireRotation, allowed, tenant, Database.empty, plainSecret,
      rotationSession, select, issue, SqlStore.answer, Database.answer,
      RotationRecord.rotation] at same

/-- A simulated failure shows whether the demo session exists. -/
theorem simulateFailure_leaks (sessionId : String) :
    ¬ Isolated claims (.simulateFailure sessionId) := by
  intro isolated
  have apart : claims.workspaceId + 1 ≠ claims.workspaceId := Nat.succ_ne_self _
  have same := isolated.blind ⟨[], 0⟩ (demoTenant (claims.workspaceId + 1) sessionId)
    (Database.empty 0) (demoTenant_valid _ _) Database.empty_valid
    (by simp [ApiRequest.Foreign, demoTenant]) (by simp [ApiRequest.Foreign, Database.empty])
    (demoTenant_ofWorkspace apart sessionId)
  simp [ApiRequest.respond, simulateFailure, demoTenant, Database.empty, rotationSession, select,
    issue, SqlStore.answer, Database.answer, Simulated.response, notFound] at same

end Leaks

/-- A request on another workspace is isolated exactly if it is refused. -/
theorem isolated_iff_refused {claims : TokenClaims} {request : ApiRequest}
    (foreign : request.path ≠ some claims.workspaceId) :
    Isolated claims request ↔ request.Refused claims := by
  constructor
  · intro isolated
    cases request with
    | simulateFailure sessionId => exact absurd isolated (simulateFailure_leaks sessionId)
    | workspace workspaceId route =>
        have apart : workspaceId ≠ claims.workspaceId := fun same => foreign (congrArg some same)
        cases route with
        | listSecrets limit offset => exact listSecrets_leaks apart isolated
        | listInvestigations limit offset => exact lists_leak apart (.inl rfl) isolated
        | listRotations limit offset => exact lists_leak apart (.inr (.inl rfl)) isolated
        | listAuditEvents limit offset => exact lists_leak apart (.inr (.inr rfl)) isolated
        | approveRotation rotationId => exact decisions_leak apart isolated rotationId (.inl rfl)
        | rejectRotation rotationId =>
            exact decisions_leak apart isolated rotationId (.inr (.inl rfl))
        | confirmStep rotationId stepId =>
            exact decisions_leak apart isolated rotationId (.inr (.inr ⟨stepId, rfl⟩))
        | getSecret id | triggerInvestigation id | triggerRotation id | getBlastRadius id
        | getInvestigation id | getRotation id =>
            exact rows_leak apart isolated id (by simp)
  · exact ApiRequest.Refused.isolated

omit [Sha256] [UuidCodec]

/-- A digest and a driver for requests that reach neither. -/
abbrev plainDigest : Sha256 := ⟨id⟩

/-- The text of an identifier is its decimal number here. -/
abbrev plainCodec : UuidCodec := ⟨String.toNat?⟩

/-- The token of a viewer of workspace 1. -/
def viewerOfOne : TokenClaims where
  sub := "00000000-0000-0000-0000-000000000001"
  workspaceId := 1
  role := "viewer"

/-- A viewer of workspace 1 can not reject a rotation of workspace 2, and learns nothing of it. -/
theorem viewer_rejection_isolated :
    let request := ApiRequest.workspace 2 (.rejectRotation 5)
    (@Isolated plainDigest plainCodec viewerOfOne request ↔ request.Refused viewerOfOne) ∧
      request.Refused viewerOfOne :=
  ⟨@isolated_iff_refused plainDigest plainCodec viewerOfOne (.workspace 2 (.rejectRotation 5))
    (by decide), (by decide : ¬ mayDecide viewerOfOne)⟩

/-- A viewer of workspace 1 reads a secret of workspace 2. -/
theorem viewer_reads_foreign_secret :
    ¬ @Isolated plainDigest plainCodec viewerOfOne (.workspace 2 (.getSecret 6)) := by
  intro isolated
  exact @rows_leak plainDigest plainCodec viewerOfOne 2 (by decide) _ isolated 6 (.inl rfl)

end Sprawl
