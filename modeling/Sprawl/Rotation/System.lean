/-
This file gives the runs of the rotation system: requests, engine calls and queued jobs.
-/

import Sprawl.Effect.Transition
import Sprawl.Rotation.Requests

namespace Sprawl

/-- The columns that an `INSERT INTO rotation_steps` supplies. -/
structure StepSpec where
  id : Uuid
  idx : Int
  kind : StepKind
  target : StepTarget
  compensation : Option Compensation
  requiresConfirmation : Bool
  deriving DecidableEq, Repr

/-- A proposal is a rotation at its insertion. The schema keeps its step keys unique. -/
structure Proposal where
  workspace : Workspace
  id : Uuid
  secretId : Uuid
  plan : Option Plan
  coverage : Coverage
  planExpiresAt : Option Time
  createdAt : Time
  steps : List StepSpec
  idUnique : (steps.map (·.id)).Nodup
  idxUnique : (steps.map (·.idx)).Nodup

/-- A step is inserted as pending and unconfirmed. -/
def StepSpec.row (workspaceId rotationId : Uuid) (spec : StepSpec) : RotationStep where
  id := spec.id
  workspaceId := workspaceId
  rotationId := rotationId
  idx := spec.idx
  kind := spec.kind
  target := spec.target
  compensation := spec.compensation
  requiresConfirmation := spec.requiresConfirmation
  status := .pending
  confirmedAt := none
  executedAt := none
  error := none

namespace Proposal

def rotation (proposal : Proposal) : Rotation where
  id := proposal.id
  workspaceId := proposal.workspace.id
  secretId := proposal.secretId
  status := .pendingApproval
  plan := proposal.plan
  coverage := proposal.coverage
  newSecretRef := none
  planExpiresAt := proposal.planExpiresAt
  createdAt := proposal.createdAt
  updatedAt := proposal.createdAt

/-- The rows of a rotation right after `trigger_rotation` has committed them. -/
def rows (proposal : Proposal) : Rows where
  workspace := proposal.workspace
  rotation := proposal.rotation
  steps := proposal.steps.map (StepSpec.row proposal.workspace.id proposal.id)
  auditLog := []
  inWorkspace := rfl
  owned := by
    intro step present
    obtain ⟨spec, _, rfl⟩ := List.mem_map.mp present
    rfl
  idUnique := by rw [List.map_map]; exact proposal.idUnique
  idxUnique := by rw [List.map_map]; exact proposal.idxUnique

end Proposal

/-- A request addresses a rotation through the identifiers of its URL. -/
inductive Request where
  | approve (workspaceId rotationId : Uuid) (claims : TokenClaims)
  | reject (workspaceId rotationId : Uuid) (claims : TokenClaims)
  | confirm (workspaceId rotationId stepId : Uuid) (claims : TokenClaims)
  deriving DecidableEq, Repr

/-- The token of a request. -/
def Request.claims : Request → TokenClaims
  | .approve _ _ claims => claims
  | .reject _ _ claims => claims
  | .confirm _ _ _ claims => claims

/-- The handler of a request. -/
def Request.program : Request → RequestProgram Json
  | .approve workspaceId rotationId claims => approveRotation workspaceId rotationId claims
  | .reject workspaceId rotationId claims => rejectRotation workspaceId rotationId claims
  | .confirm workspaceId rotationId stepId claims => confirmStep workspaceId rotationId stepId claims

/-- The api process has no connectors. -/
def Connectors.none {κ : Type} : Connectors κ where
  store := false
  cloud := false
  answer := fun _ external => (.error "no connectors", external)

/-- An invocation brings the connectors and the clock of one engine call. -/
structure Invocation (κ : Type) where
  connectors : Connectors κ
  clock : Time
  actor : String

/-- The world of one rotation: its session and the requests accepted so far. -/
structure World (κ : Type) where
  session : Session Rows κ
  accepted : List Request

/-- A call opens a session of its own. -/
def Session.opened {D κ : Type} (clock : Time) (session : Session D κ) : Session D κ :=
  { session with pending := [], clock := clock }

/-- A session that ends rolls its open transaction back. -/
def Session.closed {D κ : Type} (session : Session D κ) : Session D κ :=
  { session with pending := [] }

namespace World

variable {κ : Type}

/-- The committed rows. -/
abbrev db (world : World κ) : Rows := world.session.db

/-- The connector calls of the rotation so far. -/
abbrev calls (world : World κ) : List ConnectorEvent := world.session.calls

/-- The world of a rotation that has just been proposed. -/
def proposed (proposal : Proposal) (external : κ) : World κ where
  session := {
    db := proposal.rows
    pending := []
    external := external
    calls := []
    queue := []
    locks := []
    published := []
    clock := proposal.createdAt }
  accepted := []

/-- An accepted request is one that the handler answers without an error. -/
def handle (request : Request) (clock : Time) (world : World κ) : World κ :=
  let ran := (request.program.run).run (Session.answer Connectors.none) (world.session.opened clock)
  { session := ran.2.closed
    accepted := match ran.1 with
      | .ok _ => world.accepted ++ [request]
      | .error _ => world.accepted }

/-- A world runs a worker program with the connectors of the invocation. -/
def work {α : Type} (program : RotationProgram α) (invocation : Invocation κ) (world : World κ) :
    World κ :=
  { world with session :=
      (program.run (Session.answer invocation.connectors)
        (world.session.opened invocation.clock)).2.closed }

/-- The moments of a worker program. -/
def moments {α : Type} (program : RotationProgram α) (invocation : Invocation κ)
    (world : World κ) : List (Effect.Moment Command Command.Reply (Session Rows κ)) :=
  program.trace (Session.answer invocation.connectors) (world.session.opened invocation.clock)

/-- This is one `advance_rotation` call on the rotation. -/
def engineCall (invocation : Invocation κ) (world : World κ) : RotationProgram EngineResult :=
  advanceRotation world.db.rotation.id world.db.rotation.workspaceId invocation.actor

def advance (invocation : Invocation κ) (world : World κ) : World κ :=
  work (engineCall invocation world) invocation world

/-- An engine call that crashes after some commands keeps what it has committed and called. -/
def crash (count : Nat) (invocation : Invocation κ) (world : World κ) : World κ :=
  { world with session :=
      (Effect.Program.stateAfter (Session.answer invocation.connectors) count
        (engineCall invocation world) (world.session.opened invocation.clock)).closed }

/-- An engine call that crashes inside a command keeps the connector calls of that command too. -/
def cut (count calls : Nat) (invocation : Invocation κ) (world : World κ) : World κ :=
  { world with session :=
      (Effect.Program.cutAfter (Session.answer invocation.connectors)
        (Session.cut invocation.connectors calls) count (engineCall invocation world)
        (world.session.opened invocation.clock)).closed }

/-- A delivery first takes its job out of the queue. -/
def taken (index : Nat) (world : World κ) : World κ :=
  { world with session := { world.session with queue := world.session.queue.eraseIdx index } }

/-- A delivery takes one job out of the queue and runs it to its end. -/
def deliver (index : Nat) (invocation : Invocation κ) (world : World κ) : World κ :=
  match world.session.queue[index]? with
  | none => world
  | some job => work (runRotationStep job) invocation (world.taken index)

/-- The moments of the job that a delivery runs. -/
def deliveryMoments (index : Nat) (invocation : Invocation κ) (world : World κ) :
    List (Effect.Moment Command Command.Reply (Session Rows κ)) :=
  match world.session.queue[index]? with
  | none => []
  | some job => moments (runRotationStep job) invocation (world.taken index)

/-- A job that runs outside the queue order. A duplicated, delayed or leftover job runs like this. -/
def runJob (job : Job) (invocation : Invocation κ) (world : World κ) : World κ :=
  work (runRotationStep job) invocation world

/-- The return value of such a job. It is the one of its `advance_rotation` call. -/
def jobResult (job : Job) (invocation : Invocation κ) (world : World κ) : EngineResult :=
  ((runRotationStep job).run (Session.answer invocation.connectors)
    (world.session.opened invocation.clock)).1

end World

/-- The actions of a system that calls the engine directly. -/
inductive Action (κ : Type) where
  | request (request : Request) (clock : Time)
  | advance (invocation : Invocation κ)

/-- The actions of a system whose engine calls can crash. -/
inductive CrashAction (κ : Type) where
  | request (request : Request) (clock : Time)
  | advance (invocation : Invocation κ)
  | crash (count : Nat) (invocation : Invocation κ)

/-- The actions of a system whose engine calls can crash between any two connector calls. -/
inductive CutAction (κ : Type) where
  | request (request : Request) (clock : Time)
  | advance (invocation : Invocation κ)
  | cut (count calls : Nat) (invocation : Invocation κ)

/-- The actions of a system that runs the engine through queued jobs. -/
inductive JobAction (κ : Type) where
  | request (request : Request) (clock : Time)
  | deliver (index : Nat) (invocation : Invocation κ)

/-- The actions of a system in which any job may run at any time. -/
inductive AnyJobAction (κ : Type) where
  | request (request : Request) (clock : Time)
  | run (job : Job) (invocation : Invocation κ)

variable {κ : Type}

def Action.step : Action κ → World κ → World κ
  | .request sent clock, world => world.handle sent clock
  | .advance invocation, world => world.advance invocation

def CrashAction.step : CrashAction κ → World κ → World κ
  | .request sent clock, world => world.handle sent clock
  | .advance invocation, world => world.advance invocation
  | .crash count invocation, world => world.crash count invocation

/-- The moments of an action up to its crash. -/
def CrashAction.moments : CrashAction κ → World κ →
    List (Effect.Moment Command Command.Reply (Session Rows κ))
  | .request _ _, _ => []
  | .advance invocation, world => world.moments (world.engineCall invocation) invocation
  | .crash count invocation, world =>
      (world.moments (world.engineCall invocation) invocation).take count

def CutAction.step : CutAction κ → World κ → World κ
  | .request sent clock, world => world.handle sent clock
  | .advance invocation, world => world.advance invocation
  | .cut count calls invocation, world => world.cut count calls invocation

/-- The invocation of an engine call, whether it crashes or not. -/
def CutAction.invocation : CutAction κ → Option (Invocation κ)
  | .request _ _ => none
  | .advance invocation => some invocation
  | .cut _ _ invocation => some invocation

def JobAction.step : JobAction κ → World κ → World κ
  | .request sent clock, world => world.handle sent clock
  | .deliver index invocation, world => world.deliver index invocation

def AnyJobAction.step : AnyJobAction κ → World κ → World κ
  | .request sent clock, world => world.handle sent clock
  | .run job invocation, world => world.runJob job invocation

/-- The moments of an action. -/
def AnyJobAction.moments : AnyJobAction κ → World κ →
    List (Effect.Moment Command Command.Reply (Session Rows κ))
  | .request sent clock, world =>
      sent.program.run.trace (Session.answer Connectors.none) (world.session.opened clock)
  | .run job invocation, world => world.moments (runRotationStep job) invocation

/-- The action is a job whose call asks for the next job. -/
def AnyJobAction.continues : AnyJobAction κ → World κ → Bool
  | .request _ _, _ => false
  | .run job invocation, world => (world.jobResult job invocation).shouldContinue

/-- The moments of a run, in order. -/
def AnyJobAction.log (actions : List (AnyJobAction κ)) (world : World κ) :
    List (Effect.Moment Command Command.Reply (Session Rows κ)) :=
  (Effect.visits AnyJobAction.step actions world).flatMap fun visit => visit.2.moments visit.1

end Sprawl
