/-
This file gives the rotation panel of the web client: its step timeline and the actions it offers.
-/

import Sprawl.Api.Demo
import Sprawl.Rotation.System

namespace Sprawl

/-- The parts of a plan step that the timeline reads. -/
structure RotationPlanStep where
  idx : Option Int
  kind : Option String
  description : Option String
  deriving DecidableEq, Repr

def RotationPlanStep.read : Json → RotationPlanStep
  | .obj fields =>
      { idx := Document.int? fields "idx"
        kind := Document.str? fields "kind"
        description := Document.str? fields "description" }
  | _ => { idx := none, kind := none, description := none }

/-- This is `rotation.plan?.steps ?? []`. -/
def planSteps (plan : Option Document) : List RotationPlanStep :=
  match plan.bind (·.lookup "steps") with
  | some (.arr entries) => entries.map RotationPlanStep.read
  | _ => []

/-- The labels of `KIND_META`. -/
def kindLabels : List (String × String) :=
  [("provision", "Provision"), ("distribute", "Distribute"), ("verify", "Verify"),
    ("revoke", "Revoke")]

/-- This is `activeStatuses`, and `isActiveStatus` too. -/
def activeStatuses : List RotationStatus :=
  [.provisioning, .distributing, .verifying, .revoking, .rollingBack]

/-- This is `isTerminalStatus`. -/
def isTerminalStatus (status : RotationStatus) : Bool :=
  [.completed, .rolledBack, .rollbackFailed, .rejected, .abandoned, .planFailed].contains status

/-- One row of the timeline. A row that waits for the user carries the step of its button. -/
structure StepRow where
  label : Option String
  description : Option String
  executedAt : Option Time
  error : Option String
  status : StepStatus
  isActive : Bool
  confirms : Option Uuid
  deriving DecidableEq, Repr

section Timeline

variable (plan : List RotationPlanStep) (steps : List RotationStep)

/-- This is `execByIdx.get`. The last step of an index takes its entry in the map. -/
def execByIdx (idx : Option Int) : Option RotationStep :=
  steps.reverse.find? fun step => some step.idx = idx

/-- The step of a plan entry is pending, or there is none. -/
def stepWaits (entry : RotationPlanStep) : Bool :=
  (execByIdx steps entry.idx).all fun step => step.status = .pending

/-- This is `firstPendingIdx`: the position of a plan entry, or `-1`. -/
def firstPendingIdx : Int :=
  match plan.findIdx? (stepWaits steps) with
  | some position => position
  | none => -1

/-- This is `StepRow`. It compares the index of an entry with the position of another one. -/
def stepRow (status : RotationStatus) (position : Nat) (entry : RotationPlanStep) : StepRow :=
  let idx := entry.idx.getD position
  let execStep := execByIdx steps (some idx)
  let isNext := idx = firstPendingIdx plan steps
  let stepStatus := execStep.elim .pending (·.status)
  { label := entry.kind.bind fun kind => kindLabels.lookup kind
    description := entry.description
    executedAt := execStep.bind (·.executedAt)
    error := (execStep.bind (·.error)).filter (· ≠ "")
    status := stepStatus
    isActive := activeStatuses.contains status && isNext
    confirms := (execStep.filter fun step =>
      step.requiresConfirmation && stepStatus = .pending && isNext).map (·.id) }

/-- This is `StepTimeline`. -/
def stepTimeline (status : RotationStatus) : List StepRow :=
  plan.mapIdx (stepRow plan steps status)

end Timeline

/-- These are the buttons of the panel. -/
inductive PanelAction where
  | approve
  | reject
  | simulateFailure
  | confirm (stepId : Uuid)
  deriving DecidableEq, Repr

/-- What `RotationPanel` shows of a rotation that it has loaded. -/
structure RotationPanel where
  live : Bool
  unknownConsumers : Option Int
  timeline : List StepRow
  canApprove : Bool
  canReject : Bool
  simulates : Bool
  deriving DecidableEq, Repr

/-- This is `RotationPanel`. The approval and the rejection share a bar with the simulation. -/
def rotationPanel (plan : Option Document) (isDemo hasSession : Bool) (rotation : Rotation)
    (steps : List RotationStep) : RotationPanel :=
  let terminal := isTerminalStatus rotation.status
  let canApprove := rotation.status = .pendingApproval
  { live := !terminal
    unknownConsumers := rotation.coverage.unknownConsumers.filter (0 < ·)
    timeline := stepTimeline (planSteps plan) steps rotation.status
    canApprove := !terminal && canApprove
    canReject := !terminal && [.pendingApproval, .awaitingConfirmation].contains rotation.status
    simulates := !terminal && isDemo && hasSession && canApprove }

/-- The actions that the panel offers. -/
def RotationPanel.actions (panel : RotationPanel) : List PanelAction :=
  (if panel.canApprove then [.approve] else []) ++ (if panel.canReject then [.reject] else []) ++
    (if panel.simulates then [.simulateFailure] else []) ++
    (panel.timeline.filterMap (·.confirms)).map .confirm

/-- The request that a button sends. The simulation goes to the demo router instead. -/
def PanelAction.request (workspaceId rotationId : Uuid) (claims : TokenClaims) :
    PanelAction → Option Request
  | .approve => some (.approve workspaceId rotationId claims)
  | .reject => some (.reject workspaceId rotationId claims)
  | .simulateFailure => none
  | .confirm stepId => some (.confirm workspaceId rotationId stepId claims)

/-- The panel of the committed rows. The api sends the steps in the order of their indexes. -/
def World.panel {κ : Type} (plan : Option Document) (isDemo hasSession : Bool) (world : World κ) :
    RotationPanel :=
  rotationPanel plan isDemo hasSession world.db.rotation world.db.ordered

end Sprawl
