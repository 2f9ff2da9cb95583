/-
This file proves what one request does to the rotation.
-/

import Sprawl.Proof.Transaction

namespace Sprawl

open Effect

variable {κ : Type}

attribute [local simp] select write commit now publish issue auditRotation setRotationStatus
  enqueueJob Session.view SqlStore.apply SqlStore.answer Rows.apply Rows.audited ExceptT.run_bind
  requireRole requireRotation Except.map

/-- The roles that may change a rotation. -/
def mayDecide (claims : TokenClaims) : Prop := claims.role = "owner" ∨ claims.role = "approver"

instance (claims : TokenClaims) : Decidable (mayDecide claims) :=
  inferInstanceAs (Decidable (_ ∨ _))

/-- The rows of an approved rotation. Only the audit log changes. -/
def Rows.approved (rows : Rows) (actor : String) : Rows :=
  rows.audited actor "rotation.approved" (some [statusField .pendingApproval])
    (some [statusField .provisioning])

/-- The rows of a rejected rotation. -/
def Rows.rejected (rows : Rows) (actor : String) (time : Time) : Rows :=
  (rows.withStatus .rejected time).audited actor "rotation.rejected"
    (some [statusField rows.rotation.status]) (some [statusField .rejected])

/-- The rows of a rotation with a confirmed step. -/
def Rows.confirmed (rows : Rows) (actor : String) (step : RotationStep) (time : Time) : Rows :=
  (rows.patchSteps (fun other => other.id = step.id) { confirmedAt := some time }).audited actor
    "rotation.step.confirmed" none
    (some [("step_id", .uuid step.id), ("step_idx", .int step.idx),
      ("kind", .str step.kind.value)])

/-- The job that an accepted request adds. -/
def Session.job (session : Session Rows κ) (claims : TokenClaims) : Job :=
  rotationJob session.db.rotation session.db.rotation.id session.db.rotation.workspaceId claims.sub

/-- These are the outcomes of a request. -/
inductive Handled (request : Request) (session : Session Rows κ) :
    Except HttpError Json → Session Rows κ → Prop where
  | refused (error : HttpError) : Handled request session (.error error) session
  | approved (claims : TokenClaims) (role : mayDecide claims)
      (sent : request = .approve session.db.rotation.workspaceId session.db.rotation.id claims)
      (waiting : session.db.rotation.status = .pendingApproval) (body : Json) :
      Handled request session (.ok body)
        { session with
          db := session.db.approved claims.sub
          pending := []
          queue := session.queue ++ [session.job claims] }
  | rejected (claims : TokenClaims) (role : mayDecide claims)
      (sent : request = .reject session.db.rotation.workspaceId session.db.rotation.id claims)
      (waiting : session.db.rotation.status = .pendingApproval ∨
        session.db.rotation.status = .awaitingConfirmation) (body : Json) :
      Handled request session (.ok body)
        { session with
          db := session.db.rejected claims.sub session.clock
          pending := [] }
  | confirmed (claims : TokenClaims) (role : mayDecide claims) (step : RotationStep)
      (sent : request =
        .confirm session.db.rotation.workspaceId session.db.rotation.id step.id claims)
      (waiting : session.db.rotation.status = .awaitingConfirmation)
      (inside : step ∈ session.db.steps) (pending : step.status = .pending) (body : Json) :
      Handled request session (.ok body)
        { session with
          db := session.db.confirmed claims.sub step session.clock
          pending := []
          queue := session.queue ++ [session.job claims] }

section Requests

variable (connectors : Connectors κ) {session : Session Rows κ}

/-- A request of another role changes nothing. -/
theorem request_denied {D : Type} [SqlStore D] {session : Session D κ} {request : Request}
    (role : ¬ mayDecide request.claims) :
    request.program.run.run (Session.answer connectors) session =
      (.error { statusCode := 403, detail := "insufficient_role" }, session) := by
  cases request <;>
    simp_all [mayDecide, Request.claims, Request.program, approveRotation, rejectRotation,
      confirmStep]

theorem approveRotation_handled (empty : session.pending = []) (workspaceId rotationId : Uuid)
    {claims : TokenClaims} (role : mayDecide claims) :
    let ran := (approveRotation workspaceId rotationId claims).run.run
      (Session.answer connectors) session
    Handled (.approve workspaceId rotationId claims) session ran.1 ran.2 := by
  have allowed : claims.role = "owner" ∨ claims.role = "approver" := role
  by_cases own : session.db.rotation.id = rotationId ∧
      session.db.rotation.workspaceId = workspaceId
  · obtain ⟨rfl, rfl⟩ := own
    by_cases waiting : session.db.rotation.status = .pendingApproval
    · simp [approveRotation, allowed, waiting, empty, Rows.answer_rotation]
      exact .approved claims role rfl waiting _
    · simp [approveRotation, allowed, waiting, empty, Rows.answer_rotation]
      exact .refused _
  · simp [approveRotation, allowed, own, empty, Rows.answer]
    exact .refused _

theorem rejectRotation_handled (empty : session.pending = []) (workspaceId rotationId : Uuid)
    {claims : TokenClaims} (role : mayDecide claims) :
    let ran := (rejectRotation workspaceId rotationId claims).run.run
      (Session.answer connectors) session
    Handled (.reject workspaceId rotationId claims) session ran.1 ran.2 := by
  have allowed : claims.role = "owner" ∨ claims.role = "approver" := role
  by_cases own : session.db.rotation.id = rotationId ∧
      session.db.rotation.workspaceId = workspaceId
  · obtain ⟨rfl, rfl⟩ := own
    by_cases waiting : session.db.rotation.status = .pendingApproval ∨
        session.db.rotation.status = .awaitingConfirmation
    · have passed : ¬ (session.db.rotation.status ≠ .pendingApproval ∧
          session.db.rotation.status ≠ .awaitingConfirmation) := by
        intro given
        obtain ⟨first, second⟩ := given
        exact waiting.elim first second
      simp [rejectRotation, allowed, if_neg passed, empty, Rows.answer_rotation]
      exact .rejected claims role rfl waiting _
    · simp only [not_or] at waiting
      simp [rejectRotation, allowed, waiting, empty, Rows.answer_rotation]
      exact .refused _
  · simp [rejectRotation, allowed, own, empty, Rows.answer]
    exact .refused _

theorem confirmStep_handled (empty : session.pending = []) (workspaceId rotationId stepId : Uuid)
    {claims : TokenClaims} (role : mayDecide claims) :
    let ran := (confirmStep workspaceId rotationId stepId claims).run.run
      (Session.answer connectors) session
    Handled (.confirm workspaceId rotationId stepId claims) session ran.1 ran.2 := by
  have allowed : claims.role = "owner" ∨ claims.role = "approver" := role
  by_cases own : session.db.rotation.id = rotationId ∧
      session.db.rotation.workspaceId = workspaceId
  · obtain ⟨rfl, rfl⟩ := own
    by_cases waiting : session.db.rotation.status = .awaitingConfirmation
    · cases found : session.db.answer (.step stepId session.db.rotation.id) with
      | none =>
          simp [confirmStep, allowed, waiting, found, empty, Rows.answer_rotation]
          exact .refused _
      | some step =>
          have named := List.find?_some found
          have inside : step ∈ session.db.steps := List.mem_of_find?_eq_some found
          simp only [Bool.and_eq_true, decide_eq_true_eq] at named
          obtain ⟨rfl, _⟩ := named
          by_cases pending : step.status = .pending
          · simp [confirmStep, allowed, waiting, found, pending, empty, Rows.answer_rotation]
            exact .confirmed claims role step rfl waiting inside pending _
          · simp [confirmStep, allowed, waiting, found, pending, empty, Rows.answer_rotation]
            exact .refused _
    · simp [confirmStep, allowed, waiting, empty, Rows.answer_rotation]
      exact .refused _
  · simp [confirmStep, allowed, own, empty, Rows.answer]
    exact .refused _

/-- Every request has one of the listed outcomes. -/
theorem request_handled (empty : session.pending = []) (request : Request) :
    let ran := request.program.run.run (Session.answer connectors) session
    Handled request session ran.1 ran.2 := by
  intro ran
  by_cases role : mayDecide request.claims
  · cases request with
    | approve workspaceId rotationId claims =>
        exact approveRotation_handled connectors empty workspaceId rotationId role
    | reject workspaceId rotationId claims =>
        exact rejectRotation_handled connectors empty workspaceId rotationId role
    | confirm workspaceId rotationId stepId claims =>
        exact confirmStep_handled connectors empty workspaceId rotationId stepId role
  · have denied : ran = _ := request_denied connectors role
    rw [denied]
    exact .refused _

end Requests

section Acceptance

variable (connectors : Connectors κ) {session : Session Rows κ} {claims : TokenClaims}

/-- An approval of a waiting rotation is accepted. -/
theorem approveRotation_accepts (empty : session.pending = []) (role : mayDecide claims)
    (waiting : session.db.rotation.status = .pendingApproval) :
    ∃ body, (approveRotation session.db.rotation.workspaceId session.db.rotation.id claims).run.run
      (Session.answer connectors) session =
        (.ok body, { session with
          db := session.db.approved claims.sub
          pending := []
          queue := session.queue ++ [session.job claims] }) := by
  have allowed : claims.role = "owner" ∨ claims.role = "approver" := role
  simp [approveRotation, allowed, waiting, empty, Rows.answer_rotation, Rows.approved, Session.job]

/-- A rejection of a waiting or paused rotation is accepted. -/
theorem rejectRotation_accepts (empty : session.pending = []) (role : mayDecide claims)
    (waiting : session.db.rotation.status = .pendingApproval ∨
      session.db.rotation.status = .awaitingConfirmation) :
    ∃ body, (rejectRotation session.db.rotation.workspaceId session.db.rotation.id claims).run.run
      (Session.answer connectors) session =
        (.ok body, { session with
          db := session.db.rejected claims.sub session.clock
          pending := [] }) := by
  have allowed : claims.role = "owner" ∨ claims.role = "approver" := role
  have passed : ¬ (session.db.rotation.status ≠ .pendingApproval ∧
      session.db.rotation.status ≠ .awaitingConfirmation) := by
    intro given
    obtain ⟨first, second⟩ := given
    exact waiting.elim first second
  simp [rejectRotation, allowed, if_neg passed, empty, Rows.answer_rotation, Rows.rejected]

/-- A confirmation of a pending step of a paused rotation is accepted. -/
theorem confirmStep_accepts (empty : session.pending = []) (role : mayDecide claims)
    (waiting : session.db.rotation.status = .awaitingConfirmation) {step : RotationStep}
    (inside : step ∈ session.db.steps) (pending : step.status = .pending) :
    ∃ body, (confirmStep session.db.rotation.workspaceId session.db.rotation.id step.id
        claims).run.run (Session.answer connectors) session =
      (.ok body, { session with
        db := session.db.confirmed claims.sub step session.clock
        pending := []
        queue := session.queue ++ [session.job claims] }) := by
  have allowed : claims.role = "owner" ∨ claims.role = "approver" := role
  have found : session.db.answer (.step step.id session.db.rotation.id) = some step := by
    cases answered : session.db.answer (.step step.id session.db.rotation.id) with
    | none =>
        have absent := List.find?_eq_none.mp answered step inside
        simp [session.db.owned step inside] at absent
    | some other =>
        have named := List.find?_some answered
        simp only [Bool.and_eq_true, decide_eq_true_eq] at named
        rw [session.db.eq_of_id (List.mem_of_find?_eq_some answered) inside named.1]
  simp [confirmStep, allowed, waiting, found, pending, empty, Rows.answer_rotation, Rows.confirmed,
    Session.job]

end Acceptance

section Handled

variable {request : Request} {session final : Session Rows κ} {reply : Except HttpError Json}

/-- A request calls no connector. -/
theorem Handled.calls (handled : Handled request session reply final) :
    final.calls = session.calls := by
  cases handled <;> rfl

/-- A request keeps the saved reference. -/
theorem Handled.newSecretRef (handled : Handled request session reply final) :
    final.db.rotation.newSecretRef = session.db.rotation.newSecretRef := by
  cases handled <;> rfl

/-- A request never revives a rotation. -/
theorem Handled.active (handled : Handled request session reply final)
    (active : final.db.rotation.status.isTerminal = false) :
    session.db.rotation.status.isTerminal = false := by
  cases handled with
  | rejected claims role sent waiting body =>
      have ended : RotationStatus.rejected.isTerminal = false := active
      exact absurd ended (by decide)
  | _ => exact active

end Handled

end Sprawl
