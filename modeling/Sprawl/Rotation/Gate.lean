/-
This file gives the two gates before a revoke step.
-/

import Sprawl.Rotation.Session

namespace Sprawl

/-- A gate raises this when the engine must stop and wait. -/
structure GateBlockedError where
  reason : String
  message : String
  rotationStatus : RotationStatus := .awaitingConfirmation
  deriving DecidableEq, Repr

/-- This gate counts the verify steps that are not done. -/
def verifyGate (rotationId : Uuid) : RotationProgram (Except GateBlockedError Unit) := do
  let incompleteCount : Nat ← select (.incompleteVerify rotationId)
  if incompleteCount > 0 then
    return .error {
      reason := "verify_incomplete"
      message := toString incompleteCount ++ " verify step(s) have not completed. " ++
        "All verification must pass before revocation."
      rotationStatus := .awaitingConfirmation }
  else return .ok ()

/-- This gate blocks unknown consumers unless the user has confirmed the revoke step. -/
def coverageGate (coverage : Coverage) (revokeConfirmed : Bool) : Except GateBlockedError Unit :=
  let unknown := coverage.unknownConsumers.getD 0
  if unknown > 0 && !revokeConfirmed then
    .error {
      reason := "coverage_incomplete"
      message := toString unknown ++ " consumer(s) could not be verified. " ++
        "Explicit confirmation is required before revoking the old credential."
      rotationStatus := .awaitingConfirmation }
  else .ok ()

/-- The engine passes a confirmation of its own, so its coverage gate never blocks. -/
@[simp] theorem coverageGate_confirmed (coverage : Coverage) :
    coverageGate coverage true = .ok () := by
  simp [coverageGate]

end Sprawl
