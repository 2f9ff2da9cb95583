/-
This file gives the commands of the rotation programs and the session that answers them.
-/

import Sprawl.Rotation.Steps

namespace Sprawl

/-- This is a queued `run_rotation_step` job. -/
structure Job where
  rotationId : Uuid
  workspaceId : Uuid
  secretId : Uuid
  useSandbox : Bool := true
  failAt : Option String := none
  actor : String
  deriving DecidableEq, Repr

/-- An event on the channel of a workspace. -/
structure Publication where
  workspaceId : Uuid
  eventType : String
  payload : List (String × Json)

/-- The commands of the engine, the job and the request handlers. -/
inductive Command where
  | select (query : Query)
  | write (statement : Write)
  | commit
  | now
  | publish (publication : Publication)
  | enqueueJob (job : Job)
  | acquireLock (secretId rotationId : Uuid)
  | releaseLock (secretId rotationId : Uuid)
  | executeStep (step : RotationStep) (rotation : Rotation)
  | compensateStep (step : RotationStep) (rotation : Rotation)

abbrev Command.Reply : Command → Type
  | .select query => query.Answer
  | .write _ => Unit
  | .commit => Unit
  | .now => Time
  | .publish _ => Unit
  | .enqueueJob _ => Unit
  | .acquireLock _ _ => Bool
  | .releaseLock _ _ => Bool
  | .executeStep _ _ => StepResult
  | .compensateStep _ _ => StepResult

/-- A program of the rotation subsystem. -/
abbrev RotationProgram : Type → Type := Effect.Program Command Command.Reply

/-- A program issues one command and returns its reply. -/
def issue (command : Command) : RotationProgram command.Reply := Effect.Program.perform command

def select (query : Query) : RotationProgram query.Answer := issue (.select query)

def write (statement : Write) : RotationProgram Unit := issue (.write statement)

def commit : RotationProgram Unit := issue .commit

/-- This is `datetime.now(timezone.utc)`. -/
def now : RotationProgram Time := issue .now

/-- This is `publish_event`. A failed publication never reaches the caller. -/
def publish (workspaceId : Uuid) (eventType : String) (payload : List (String × Json)) :
    RotationProgram Unit :=
  issue (.publish { workspaceId, eventType, payload })

def enqueueJob (job : Job) : RotationProgram Unit := issue (.enqueueJob job)

/-- This is `SET lock:rotation:{secret_id} {rotation_id} NX`. -/
def acquireLock (secretId rotationId : Uuid) : RotationProgram Bool :=
  issue (.acquireLock secretId rotationId)

/-- This script deletes the key only if its value is the given rotation. -/
def releaseLock (secretId rotationId : Uuid) : RotationProgram Bool :=
  issue (.releaseLock secretId rotationId)

/-- This is `run_in_executor(None, execute_step, step, rotation, connectors)`. -/
def callExecuteStep (step : RotationStep) (rotation : Rotation) : RotationProgram StepResult :=
  issue (.executeStep step rotation)

/-- This is `run_in_executor(None, compensate_step, step, rotation, connectors)`. -/
def callCompensateStep (step : RotationStep) (rotation : Rotation) : RotationProgram StepResult :=
  issue (.compensateStep step rotation)

/-- The audit entries of the rotation subsystem target a rotation. -/
def auditRotation (workspaceId : Uuid) (actor action : String) (rotationId : Uuid)
    (before after : Option (List (String × Json))) : RotationProgram Unit :=
  write (.audit
    { workspaceId, actor, action, targetType := some "rotation", targetId := some rotationId,
      before, after })

/-- The committed rows, the open transaction, the outside world and what has been sent so far. -/
structure Session (D κ : Type) where
  db : D
  pending : List Write
  external : κ
  calls : List ConnectorEvent
  queue : List Job
  locks : List (Uuid × Uuid)
  published : List Publication
  clock : Time

namespace Session

variable {D κ : Type} [SqlStore D]

/-- A transaction reads the committed rows with its own writes on top. -/
def view (session : Session D κ) : D :=
  session.pending.foldl (fun rows statement => SqlStore.apply statement rows) session.db

/-- A connector program moves the outside world and records its calls. -/
def runConnectors {α : Type} (connectors : Connectors κ) (session : Session D κ)
    (program : Effect.Program ConnectorCall ConnectorCall.Reply α) : α × Session D κ :=
  let ran := program.run connectors.recording (session.external, session.calls)
  (ran.1, { session with external := ran.2.1, calls := ran.2.2 })

/-- A connector program that stops after some calls has still made these calls. -/
def cutConnectors {α : Type} (connectors : Connectors κ) (calls : Nat)
    (program : Effect.Program ConnectorCall ConnectorCall.Reply α) (session : Session D κ) :
    Session D κ :=
  let reached := program.stateAfter connectors.recording calls (session.external, session.calls)
  { session with external := reached.1, calls := reached.2 }

/-- A worker that stops inside a command has made some of its connector calls. -/
def cut (connectors : Connectors κ) (calls : Nat) : Command → Session D κ → Session D κ
  | .executeStep step rotation, session =>
      session.cutConnectors connectors calls (executeStep connectors.toConnectorKeys step rotation)
  | .compensateStep step rotation, session =>
      session.cutConnectors connectors calls
        (compensateStep connectors.toConnectorKeys step rotation)
  | _, session => session

/-- A session answers each command. A commit makes the open transaction visible. -/
def answer (connectors : Connectors κ) :
    Effect.Handler Command Command.Reply (Session D κ)
  | .select query, session => (SqlStore.answer query session.view, session)
  | .write statement, session => ((), { session with pending := session.pending ++ [statement] })
  | .commit, session => ((), { session with db := session.view, pending := [] })
  | .now, session => (session.clock, session)
  | .publish publication, session =>
      ((), { session with published := session.published ++ [publication] })
  | .enqueueJob job, session => ((), { session with queue := session.queue ++ [job] })
  | .acquireLock secretId rotationId, session =>
      if (session.locks.lookup secretId).isSome then (false, session)
      else (true, { session with locks := (secretId, rotationId) :: session.locks })
  | .releaseLock secretId rotationId, session =>
      if session.locks.lookup secretId = some rotationId then
        (true, { session with locks := session.locks.filter fun held => held.1 ≠ secretId })
      else (false, session)
  | .executeStep step rotation, session =>
      session.runConnectors connectors (executeStep connectors.toConnectorKeys step rotation)
  | .compensateStep step rotation, session =>
      session.runConnectors connectors (compensateStep connectors.toConnectorKeys step rotation)

section Answers

variable (connectors : Connectors κ) (session : Session D κ)

@[simp] theorem view_of_pending_nil (empty : session.pending = []) : session.view = session.db := by
  simp [view, empty]

@[simp] theorem answer_select (query : Query) : session.answer connectors (.select query) =
    (SqlStore.answer query session.view, session) := rfl

@[simp] theorem answer_write (statement : Write) : session.answer connectors (.write statement) =
    ((), { session with pending := session.pending ++ [statement] }) := rfl

@[simp] theorem answer_commit : session.answer connectors .commit =
    ((), { session with db := session.view, pending := [] }) := rfl

@[simp] theorem answer_now : session.answer connectors .now = (session.clock, session) := rfl

@[simp] theorem answer_publish (publication : Publication) :
    session.answer connectors (.publish publication) =
      ((), { session with published := session.published ++ [publication] }) := rfl

@[simp] theorem answer_enqueueJob (job : Job) : session.answer connectors (.enqueueJob job) =
    ((), { session with queue := session.queue ++ [job] }) := rfl

@[simp] theorem answer_executeStep (step : RotationStep) (rotation : Rotation) :
    session.answer connectors (.executeStep step rotation) =
      session.runConnectors connectors (executeStep connectors.toConnectorKeys step rotation) := rfl

@[simp] theorem answer_compensateStep (step : RotationStep) (rotation : Rotation) :
    session.answer connectors (.compensateStep step rotation) =
      session.runConnectors connectors
        (compensateStep connectors.toConnectorKeys step rotation) := rfl

end Answers

end Session

end Sprawl
