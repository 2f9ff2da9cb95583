/-
This file gives the handlers of the workspace routes and of the simulated failure.
-/

import Sprawl.Api.Statements
import Sprawl.Api.UuidText
import Sprawl.Rotation.System

namespace Sprawl

/-- An api handler returns the data of its response or raises. -/
abbrev ApiHandler : Type → Type := ExceptT HttpError ApiProgram

/-- This is what the client sees of an exception that no handler expects. -/
def internalError : HttpError where
  statusCode := 500
  detail := "internal_error"

/-- A handler issues one command. -/
def issueApi (command : ApiCommand) : ApiHandler command.Reply :=
  ExceptT.lift (Effect.Program.perform command)

def query (query : ApiQuery) : ApiHandler query.Answer := issueApi (.select query)

/-- A failed statement is an exception that no handler expects. -/
def orRaise {α : Type} : Except SqlError α → ApiHandler α
  | .ok value => return value
  | .error _ => throw internalError

def execute (statement : ApiWrite) : ApiHandler Unit := do
  orRaise (← issueApi (.write statement))

def notFound (detail : String) : HttpError where
  statusCode := 404
  detail := detail

/-- A handler raises a 404 where a row is missing. -/
def orNotFound {α : Type} (detail : String) : Option α → ApiHandler α
  | some value => return value
  | none => throw (notFound detail)

/-- This is `page`. -/
def pageEnvelope (data : List Json) (total : Nat) (limit offset : Int) : Json :=
  .obj [("ok", .bool true), ("data", .arr data),
    ("meta", .obj [("total", .int total), ("limit", .int limit), ("offset", .int offset)])]

/-- This is `SecretOut`. -/
def Secret.out (secret : Secret) : Document :=
  [("id", .uuid secret.id), ("type", .str secret.type),
    ("provider", .optional .str secret.provider),
    ("health", .str secret.health.value), ("environment", .str secret.environment.value),
    ("exposure_status", .str secret.exposureStatus.value),
    ("severity_score", .optional .int secret.severityScore),
    ("severity_bucket", .optional (fun bucket => .str bucket.value) secret.severityBucket),
    ("rotatable", .bool secret.rotatable), ("first_seen", .time secret.firstSeen),
    ("last_seen", .time secret.lastSeen)]

/-- This is `GraphNodeOut`. -/
def GraphNode.out (node : GraphNode) : Document :=
  [("id", .uuid node.id), ("kind", .str node.kind.value), ("label", .str node.label),
    ("environment", .str node.environment.value), ("attrs", .obj node.attrs)]

/-- This is `GraphEdgeOut`. -/
def GraphEdge.out (edge : GraphEdge) : Document :=
  [("id", .uuid edge.id), ("src_node_id", .uuid edge.srcNodeId),
    ("dst_node_id", .uuid edge.dstNodeId), ("kind", .str edge.kind.value),
    ("confidence", .str edge.confidence.value), ("attrs", .obj edge.attrs)]

/-- This is `InvestigationCoverage`. An empty coverage counts as none. -/
def Investigation.coverageOut (investigation : Investigation) : Json :=
  match investigation.coverage with
  | none => .null
  | some [] => .null
  | some coverage => .obj
      [("known_consumers", .int ((coverage.int? "known_consumers").getD 0)),
        ("unknown_consumers", .int ((coverage.int? "unknown_consumers").getD 0)),
        ("confidence", .str ((coverage.str? "confidence").getD "low"))]

/-- This is `_row_to_dict` of the investigations router. -/
def Investigation.row (investigation : Investigation) (secret : Secret) : Document :=
  [("id", .uuid investigation.id), ("secret_id", .uuid investigation.secretId),
    ("status", .str investigation.status.value),
    ("coverage", .optional .obj investigation.coverage),
    ("trace_id", .optional .str investigation.traceId),
    ("started_at", .time investigation.startedAt),
    ("finished_at", .optional .time investigation.finishedAt),
    ("secret_type", .str secret.type),
    ("severity_score", .optional .int secret.severityScore),
    ("severity_bucket", .optional (fun bucket => .str bucket.value) secret.severityBucket)]

/-- The severity of an investigation carries the bucket of its secret. -/
def Severity.out (severity : Severity) (secret : Secret) : Document :=
  [("score", .int severity.score),
    ("bucket", .optional (fun bucket => .str bucket.value) secret.severityBucket),
    ("factors", .obj severity.factors), ("explanation", .optional .str severity.explanation)]

/-- The stored reference of a new secret. -/
def NewSecretRef.document (ref : NewSecretRef) : Document :=
  [("connector_type", .str ref.connectorType), ("path", .str ref.path),
    ("version", .str ref.version), ("credential_id", .str ref.credentialId),
    ("access_key_id", .optional .str ref.accessKeyId)]

/-- This is `_rotation_row_to_dict`. -/
def RotationRecord.row (record : RotationRecord) (secret : Secret) : Document :=
  [("id", .uuid record.id), ("secret_id", .uuid record.secretId),
    ("status", .str record.status.value), ("plan", .optional .obj record.plan),
    ("coverage", .obj record.coverage),
    ("plan_expires_at", .optional .time record.planExpiresAt),
    ("created_at", .time record.createdAt), ("updated_at", .time record.updatedAt),
    ("secret_type", .str secret.type)]

/-- This is `_step_row_to_dict`. -/
def StepRecord.row (record : StepRecord) : Document :=
  [("id", .uuid record.id), ("idx", .int record.idx), ("kind", .str record.kind.value),
    ("target", .obj record.target), ("compensation", .optional .obj record.compensation),
    ("requires_confirmation", .bool record.requiresConfirmation),
    ("status", .str record.status.value), ("error", .optional .str record.error),
    ("confirmed_at", .optional .time record.confirmedAt),
    ("executed_at", .optional .time record.executedAt)]

/-- This is `_row_to_dict` of the audit router. -/
def AuditLog.row (row : AuditLog) : Document :=
  [("id", .str (toString row.id)), ("workspace_id", .uuid row.entry.workspaceId),
    ("actor", .str row.entry.actor), ("action", .str row.entry.action),
    ("target_type", .optional .str row.entry.targetType),
    ("target_id", .optional .uuid row.entry.targetId),
    ("before", .optional .obj row.entry.before), ("after", .optional .obj row.entry.after),
    ("hash", .str row.hash), ("created_at", .time row.createdAt)]

section Secrets

variable (workspaceId secretId : Uuid)

/-- The total of this page is its own length. -/
def listSecrets (limit offset : Int) : ApiHandler Json := do
  let secrets ← orRaise (← query (.secretPage workspaceId limit offset))
  return pageEnvelope (secrets.map fun secret => .obj secret.out) secrets.length limit offset

def requireSecret : ApiHandler Secret := do
  orNotFound "secret_not_found" (← query (.secret secretId workspaceId))

def getSecret : ApiHandler Json := do
  let secret ← requireSecret workspaceId secretId
  return okEnvelope secret.out

/-- A running investigation of the secret is returned in place of a second one. -/
def triggerInvestigation : ApiHandler Json := do
  let _ ← requireSecret workspaceId secretId
  let newId ← issueApi .uuid4
  execute (.investigation newId workspaceId secretId)
  issueApi .commit
  match ← query (.currentInvestigation secretId workspaceId) with
  | none => throw { statusCode := 500, detail := "investigation_upsert_failed" }
  | some investigationId => do
      issueApi (.enqueueInvestigation { secretId, investigationId, workspaceId })
      return okEnvelope [("investigation_id", .uuid investigationId),
        ("secret_id", .uuid secretId), ("status", .str "running")]

/-- The data of a rotation that a trigger has found or made. -/
def triggered (rotationId : Uuid) (status : RotationStatus) : Json :=
  okEnvelope [rotationField rotationId, ("secret_id", .uuid secretId), statusField status]

/-- One entry of `plan["steps"]`. -/
def planStep (idx : Int) (kind : StepKind) (description : String) (requiresConfirmation : Bool) :
    Json :=
  .obj [("idx", .int idx), ("kind", .str kind.value), ("description", .str description),
    ("requires_confirmation", .bool requiresConfirmation)]

/-- The coverage that a trigger assumes. -/
def triggeredCoverage : Document := [("known_consumers", .int 1), ("unknown_consumers", .int 0)]

/-- The plan that a trigger builds. -/
def triggeredDocument (secret : Secret) (actor : String) : Document :=
  [("summary", .str ("Rotate secret '" ++ secret.type ++ "' — " ++
      "provision new credential, distribute to known consumers, verify, then revoke old.")),
    ("steps", .arr
      [planStep 0 .provision "Generate new credential via cloud connector" false,
        planStep 1 .distribute "Write new credential to all known consumers" true,
        planStep 2 .verify "Verify new credential is readable by all consumers" false,
        planStep 3 .revoke "Revoke old credential" true]),
    ("coverage", .obj triggeredCoverage), ("created_by", .str actor),
    ("model", .str "sandbox-plan-v1")]

/-- The kind, target, compensation and flag of the steps that a trigger inserts. -/
def triggeredSteps (secret : Secret) : List (StepKind × Document × Option Document × Bool) :=
  [(.provision, [("type", .str "sandbox"), ("credential_type", .str secret.type)],
      some [("action", .str "delete_new_key")], false),
    (.distribute, [("type", .str "sandbox"), ("consumer", .str "all_known")],
      some [("action", .str "restore_old_secret_value")], true),
    (.verify, [("type", .str "sandbox"), ("check", .str "readability")], none, false),
    (.revoke, [("type", .str "sandbox"), ("credential", .str "old")],
      some [("action", .str "reactivate_old_key")], true)]

/-- The identifiers of the steps are drawn before the first insert. -/
def drawSteps (rotationId : Uuid) (idx : Int) :
    List (StepKind × Document × Option Document × Bool) → ApiHandler (List NewStep)
  | [] => return []
  | (kind, target, compensation, requiresConfirmation) :: rest => do
      let id ← issueApi .uuid4
      let later ← drawSteps rotationId (idx + 1) rest
      return { id, workspaceId, rotationId, idx, kind, target, compensation
               requiresConfirmation } :: later

def insertSteps : List NewStep → ApiHandler Unit
  | [] => return
  | row :: rest => do
      execute (.rotationStep row)
      insertSteps rest

/-- A plan expires after 24 hours of `hour` ticks each. -/
def planLifetime (hour : Time) : Time := 24 * hour

/-- An active rotation of the secret is returned in place of a second one. -/
def triggerRotation (hour : Time) (claims : TokenClaims) : ApiHandler Json := do
  let secret ← requireSecret workspaceId secretId
  match ← query (.activeRotation secretId workspaceId) with
  | some (rotationId, status) => return triggered secretId rotationId status
  | none => do
      let time ← issueApi .now
      let rotationId ← issueApi .uuid4
      execute (.rotation
        { id := rotationId, workspaceId, secretId
          plan := triggeredDocument secret claims.sub
          coverage := triggeredCoverage
          expiresAt := time + planLifetime hour
          createdBy := if isValidUuid claims.sub then some claims.sub else none })
      let steps ← drawSteps workspaceId rotationId 0 (triggeredSteps secret)
      insertSteps steps
      execute (.audit
        { workspaceId, actor := claims.sub, action := "rotation.proposed"
          targetType := some "rotation", targetId := some rotationId
          after := some [statusField .pendingApproval, ("secret_id", .uuid secretId)] })
      issueApi .commit
      return triggered secretId rotationId .pendingApproval

def getBlastRadius : ApiHandler Json := do
  let secret ← requireSecret workspaceId secretId
  let nodes ← query (.graphNodes secretId workspaceId)
  let edges ← query (.graphEdges secretId workspaceId)
  let investigation ← query (.latestComplete secretId workspaceId)
  return okEnvelope [("secret", .obj secret.out),
    ("nodes", .arr (nodes.map fun node => .obj node.out)),
    ("edges", .arr (edges.map fun edge => .obj edge.out)),
    ("coverage", investigation.elim .null Investigation.coverageOut)]

end Secrets

/-- A list handler reads a page of rows and counts the rows of the workspace. -/
def listPage {ρ : Type} (page : ApiHandler (Except SqlError (List ρ))) (count : ApiHandler Nat)
    (out : ρ → Document) (limit offset : Int) : ApiHandler Json := do
  let rows ← orRaise (← page)
  let total ← count
  return pageEnvelope (rows.map fun row => .obj (out row)) total limit offset

section Lists

variable (workspaceId : Uuid) (limit offset : Int)

def listInvestigations : ApiHandler Json :=
  listPage (query (.investigationPage workspaceId limit offset))
    (query (.investigationCount workspaceId)) (fun row => row.1.row row.2) limit offset

def listRotations : ApiHandler Json :=
  listPage (query (.rotationPage workspaceId limit offset)) (query (.rotationCount workspaceId))
    (fun row => row.1.row row.2) limit offset

def listAuditEvents : ApiHandler Json :=
  listPage (query (.auditPage workspaceId limit offset)) (query (.auditCount workspaceId))
    AuditLog.row limit offset

end Lists

/-- The counts and the severity are those of the secret, in whatever workspace their rows are. -/
def getInvestigation (workspaceId investigationId : Uuid) : ApiHandler Json := do
  let (investigation, secret) ←
    orNotFound "investigation_not_found" (← query (.investigation investigationId workspaceId))
  let counts ← query (.graphCounts investigation.secretId)
  let severity ← query (.latestSeverity investigationId)
  return okEnvelope (investigation.row secret ++
    [("node_count", .int counts.1), ("edge_count", .int counts.2),
      ("severity", .optional (fun found => .obj (found.out secret)) severity)])

def getRotation (workspaceId rotationId : Uuid) : ApiHandler Json := do
  let (rotation, secret) ←
    orNotFound "rotation_not_found" (← query (.rotation rotationId workspaceId))
  let steps ← query (.rotationSteps rotationId)
  return okEnvelope (rotation.row secret ++
    [("plan_error", .optional .str rotation.planError),
      ("new_secret_ref", .optional (fun ref => .obj ref.document) rotation.newSecretRef),
      ("steps", .arr (steps.map fun step => .obj step.row))])

/-- The routes under `/workspaces/{workspace_id}`. -/
inductive Route where
  | listSecrets (limit offset : Int)
  | getSecret (secretId : Uuid)
  | triggerInvestigation (secretId : Uuid)
  | triggerRotation (secretId : Uuid)
  | getBlastRadius (secretId : Uuid)
  | listInvestigations (limit offset : Int)
  | getInvestigation (investigationId : Uuid)
  | listRotations (limit offset : Int)
  | getRotation (rotationId : Uuid)
  | approveRotation (rotationId : Uuid)
  | rejectRotation (rotationId : Uuid)
  | confirmStep (rotationId stepId : Uuid)
  | listAuditEvents (limit offset : Int)
  deriving DecidableEq, Repr

/-- A request addresses a workspace in its path, or a demo session. -/
inductive ApiRequest where
  | workspace (workspaceId : Uuid) (route : Route)
  | simulateFailure (sessionId : String)
  deriving DecidableEq, Repr

/-- A response is a body with its status code, or an error envelope. -/
inductive Response where
  | success (statusCode : Nat) (body : Json)
  | failure (error : HttpError)

def Response.of (statusCode : Nat) : Except HttpError Json → Response
  | .ok body => .success statusCode body
  | .error raised => .failure raised

/-- What a request brings besides the rows: the identifiers that `uuid4` draws and the ticks of an
hour. -/
structure Surroundings where
  uuids : List Uuid
  hour : Time

section Respond

variable [Sha256] [UuidCodec] (db : Database)

/-- A handler runs in a session of its own. What it has not committed is rolled back. -/
def ApiHandler.respond (uuids : List Uuid) (statusCode : Nat) (handler : ApiHandler Json) :
    Response × Database :=
  let ran := Effect.Program.run ApiSession.answer handler.run
    { committed := db, working := db, uuids, jobs := [] }
  (.of statusCode ran.1, ran.2.committed)

/-- The session of a request that runs on the rotation statements. -/
def rotationSession : Session Database Unit where
  db := db
  pending := []
  external := ()
  calls := []
  queue := []
  locks := []
  published := []
  clock := db.clock

def Request.respond (statusCode : Nat) (request : Request) : Response × Database :=
  let ran := Effect.Program.run (Session.answer Connectors.none) request.program.run
    (rotationSession db)
  (.of statusCode ran.1, ran.2.db)

/-- `limit: int = Query(50, le=200)` and `offset: int = Query(0, ge=0)` -/
def validPage (limit offset : Int) : Bool := limit ≤ 200 && 0 ≤ offset

/-- This is the answer to a request with invalid parameters. -/
def unprocessable : HttpError where
  statusCode := 422
  detail := "unprocessable_entity"

/-- A list handler runs on valid parameters only. -/
def respondPage (uuids : List Uuid) (limit offset : Int) (handler : ApiHandler Json) :
    Response × Database :=
  if validPage limit offset then handler.respond db uuids 200 else (.failure unprocessable, db)

/-- This is `trigger_simulate_failure`. -/
def Simulated.response : Simulated → Response
  | .sessionNotFound => .failure (notFound "session_not_found")
  | .noPendingRotation => .failure { statusCode := 409, detail := "no_pending_rotation" }
  | .multipleResultsFound => .failure internalError
  | .rolledBack workspaceId rotationId => .success 200 (okEnvelope
      [("workspace_id", .uuid workspaceId), rotationField rotationId,
        ("final_status", .str RotationStatus.rolledBack.value),
        ("message", .str
          "Simulated revoke failure — rollback succeeded, old key is still valid.")])

/-- Every route takes the workspace from its path. -/
def Route.respond (around : Surroundings) (claims : TokenClaims) (workspaceId : Uuid) :
    Route → Response × Database
  | .listSecrets limit offset =>
      respondPage db around.uuids limit offset (Sprawl.listSecrets workspaceId limit offset)
  | .getSecret secretId => (Sprawl.getSecret workspaceId secretId).respond db around.uuids 200
  | .triggerInvestigation secretId =>
      (Sprawl.triggerInvestigation workspaceId secretId).respond db around.uuids 202
  | .triggerRotation secretId =>
      (Sprawl.triggerRotation workspaceId secretId around.hour claims).respond db around.uuids 202
  | .getBlastRadius secretId =>
      (Sprawl.getBlastRadius workspaceId secretId).respond db around.uuids 200
  | .listInvestigations limit offset =>
      respondPage db around.uuids limit offset (Sprawl.listInvestigations workspaceId limit offset)
  | .getInvestigation investigationId =>
      (Sprawl.getInvestigation workspaceId investigationId).respond db around.uuids 200
  | .listRotations limit offset =>
      respondPage db around.uuids limit offset (Sprawl.listRotations workspaceId limit offset)
  | .getRotation rotationId =>
      (Sprawl.getRotation workspaceId rotationId).respond db around.uuids 200
  | .approveRotation rotationId => (Request.approve workspaceId rotationId claims).respond db 202
  | .rejectRotation rotationId => (Request.reject workspaceId rotationId claims).respond db 200
  | .confirmStep rotationId stepId =>
      (Request.confirm workspaceId rotationId stepId claims).respond db 200
  | .listAuditEvents limit offset =>
      respondPage db around.uuids limit offset (Sprawl.listAuditEvents workspaceId limit offset)

/-- The response to an authenticated request and the rows after it. -/
def ApiRequest.respond (around : Surroundings) (claims : TokenClaims) :
    ApiRequest → Response × Database
  | .workspace workspaceId route => route.respond db around claims workspaceId
  | .simulateFailure sessionId =>
      let ran := Effect.Program.run (Session.answer Connectors.none) (Sprawl.simulateFailure sessionId)
        (rotationSession db)
      (ran.1.response, ran.2.db)

end Respond

end Sprawl
