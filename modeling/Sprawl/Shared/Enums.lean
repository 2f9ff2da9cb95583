/-
This file gives the enumerations and the JSON values that the api and the worker share.
-/

namespace Sprawl

/-- A database identifier. -/
abbrev Uuid := Nat

/-- A timestamp in ticks of one clock. -/
abbrev Time := Nat

/-- A finite float, by its sign and the shortest decimal digits that read back as it. -/
structure PyFloat where
  negative : Bool
  significand : Nat
  exponent : Int
  shortest : significand < 100000000000000000
  normal : significand % 10 ≠ 0 ∨ significand = 0 ∧ exponent = 0
  deriving DecidableEq, Repr

/-- A JSON value, as audit entries and published events carry it. -/
inductive Json where
  | null
  | bool (value : Bool)
  | int (value : Int)
  | float (value : PyFloat)
  | str (value : String)
  | arr (items : List Json)
  | obj (fields : List (String × Json))

/-- This is `str(uuid)` inside a JSON payload. -/
def Json.uuid (id : Uuid) : Json := .str (toString id)

/-- This is `isoformat()` inside a JSON payload. -/
def Json.time (time : Time) : Json := .str (toString time)

/-- An absent value is `null`. -/
def Json.optional {α : Type} (render : α → Json) (value : Option α) : Json := value.elim .null render

inductive RotationStatus where
  | proposed
  | planFailed
  | pendingApproval
  | provisioning
  | distributing
  | verifying
  | awaitingConfirmation
  | revoking
  | completed
  | rollingBack
  | rolledBack
  | rollbackFailed
  | rejected
  | needsReplan
  | abandoned
  deriving DecidableEq, Repr

/-- The database text of a rotation status. -/
def RotationStatus.value : RotationStatus → String
  | .proposed => "proposed"
  | .planFailed => "plan_failed"
  | .pendingApproval => "pending_approval"
  | .provisioning => "provisioning"
  | .distributing => "distributing"
  | .verifying => "verifying"
  | .awaitingConfirmation => "awaiting_confirmation"
  | .revoking => "revoking"
  | .completed => "completed"
  | .rollingBack => "rolling_back"
  | .rolledBack => "rolled_back"
  | .rollbackFailed => "rollback_failed"
  | .rejected => "rejected"
  | .needsReplan => "needs_replan"
  | .abandoned => "abandoned"

/-- The engine names these `_TERMINAL_STATUSES`. -/
def RotationStatus.terminal : List RotationStatus :=
  [.completed, .rolledBack, .rollbackFailed, .rejected, .abandoned, .planFailed]

/-- A rotation in a terminal status can not advance any more. -/
def RotationStatus.isTerminal (status : RotationStatus) : Bool :=
  RotationStatus.terminal.contains status

inductive StepKind where
  | provision
  | distribute
  | verify
  | revoke
  deriving DecidableEq, Repr

def StepKind.value : StepKind → String
  | .provision => "provision"
  | .distribute => "distribute"
  | .verify => "verify"
  | .revoke => "revoke"

/-- The engine names this map `_KIND_TO_STATUS`. -/
def StepKind.toStatus : StepKind → RotationStatus
  | .provision => .provisioning
  | .distribute => .distributing
  | .verify => .verifying
  | .revoke => .revoking

/-- No step kind runs under a terminal status. -/
@[simp] theorem StepKind.toStatus_isTerminal (kind : StepKind) :
    kind.toStatus.isTerminal = false := by
  cases kind <;> rfl

/-- A running step never shows the confirmation pause. -/
@[simp] theorem StepKind.toStatus_ne_awaitingConfirmation (kind : StepKind) :
    kind.toStatus ≠ .awaitingConfirmation := by
  cases kind <;> decide

inductive StepStatus where
  | pending
  | awaitingConfirmation
  | running
  | done
  | failed
  | compensated
  deriving DecidableEq, Repr

def StepStatus.value : StepStatus → String
  | .pending => "pending"
  | .awaitingConfirmation => "awaiting_confirmation"
  | .running => "running"
  | .done => "done"
  | .failed => "failed"
  | .compensated => "compensated"

inductive SecretHealth where
  | unknown
  | healthy
  | atRisk
  | exposed
  deriving DecidableEq, Repr

def SecretHealth.value : SecretHealth → String
  | .unknown => "unknown"
  | .healthy => "healthy"
  | .atRisk => "at_risk"
  | .exposed => "exposed"

inductive ExposureStatus where
  | unknown
  | liveInferred
  | publicLeak
  | inactive
  deriving DecidableEq, Repr

def ExposureStatus.value : ExposureStatus → String
  | .unknown => "unknown"
  | .liveInferred => "live_inferred"
  | .publicLeak => "public_leak"
  | .inactive => "inactive"

inductive SeverityBucket where
  | low
  | medium
  | high
  | critical
  deriving DecidableEq, Repr

def SeverityBucket.value : SeverityBucket → String
  | .low => "low"
  | .medium => "medium"
  | .high => "high"
  | .critical => "critical"

inductive Environment where
  | prod
  | staging
  | dev
  | unknown
  deriving DecidableEq, Repr

def Environment.value : Environment → String
  | .prod => "prod"
  | .staging => "staging"
  | .dev => "dev"
  | .unknown => "unknown"

inductive NodeKind where
  | secret
  | location
  | ci
  | storeEntry
  | principal
  | resource
  | environment
  deriving DecidableEq, Repr

def NodeKind.value : NodeKind → String
  | .secret => "secret"
  | .location => "location"
  | .ci => "ci"
  | .storeEntry => "store_entry"
  | .principal => "principal"
  | .resource => "resource"
  | .environment => "environment"

inductive EdgeKind where
  | foundIn
  | storedIn
  | isPrincipal
  | grantsAccessTo
  | usedBy
  | canAccess
  deriving DecidableEq, Repr

def EdgeKind.value : EdgeKind → String
  | .foundIn => "found_in"
  | .storedIn => "stored_in"
  | .isPrincipal => "is_principal"
  | .grantsAccessTo => "grants_access_to"
  | .usedBy => "used_by"
  | .canAccess => "can_access"

inductive Confidence where
  | high
  | medium
  | low
  deriving DecidableEq, Repr

def Confidence.value : Confidence → String
  | .high => "high"
  | .medium => "medium"
  | .low => "low"

inductive InvestigationStatus where
  | running
  | complete
  | error
  deriving DecidableEq, Repr

def InvestigationStatus.value : InvestigationStatus → String
  | .running => "running"
  | .complete => "complete"
  | .error => "error"

end Sprawl
