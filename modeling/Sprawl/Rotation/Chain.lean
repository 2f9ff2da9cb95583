/-
This file gives the rotations with a chain of steps and the driver that runs them to their end.
-/

import Sprawl.Rotation.Sandbox

namespace Sprawl

/-- The compensation that `trigger_rotation` stores with a step. -/
def StepKind.storedCompensation : StepKind → Option Compensation
  | .provision => some { action := some "delete_new_key" }
  | .distribute => some { action := some "restore_old_secret_value" }
  | .verify => none
  | .revoke => some { action := some "reactivate_old_key" }

/-- One provision step, then distribute steps, then verify steps and one revoke step. -/
def chainKinds (distributes verifies : Nat) : List StepKind :=
  .provision :: (List.replicate distributes .distribute ++
    (List.replicate verifies .verify ++ [.revoke]))

/-- A proposed rotation whose steps form a chain. Its plan is not empty. -/
structure RotationChain where
  proposal : Proposal
  distributes : Nat
  verifies : Nat
  kinds : proposal.rows.ordered.map (·.kind) = chainKinds distributes verifies
  compensations : ∀ step ∈ proposal.rows.steps, step.compensation = step.kind.storedCompensation
  planned : proposal.rotation.hasPlan = true

namespace World

/-- The in-memory store of new sandbox connectors is empty. -/
def fresh (world : World SandboxStore) : World SandboxStore :=
  { world with session := { world.session with external := [] } }

/-- The next job runs with new connectors. A rotation that has no job gets a confirmation of its
next step. -/
def drive (failAt : Option String) (claims : TokenClaims) (world : World SandboxStore)
    (clock : Time) : World SandboxStore :=
  match world.session.queue with
  | _ :: _ =>
      world.fresh.deliver 0 { connectors := sandboxConnectors failAt, clock, actor := claims.sub }
  | [] =>
      match findNextStep world.db.ordered with
      | none => world
      | some step =>
          world.handle (.confirm world.db.rotation.workspaceId world.db.rotation.id step.id claims)
            clock

end World

namespace RotationChain

variable (chain : RotationChain)

/-- The steps of the proposal, by their indexes. -/
def steps : List RotationStep := chain.proposal.rows.ordered

/-- The chain right after its approval. -/
def approved (claims : TokenClaims) (clock : Time) : World SandboxStore :=
  (World.proposed chain.proposal []).handle
    (.approve chain.proposal.rotation.workspaceId chain.proposal.rotation.id claims) clock

/-- The chain is approved and then driven at the given times. -/
def driven (failAt : Option String) (claims : TokenClaims) (clock : Time) (times : List Time) :
    World SandboxStore :=
  times.foldl (World.drive failAt claims) (chain.approved claims clock)

/-- The first step of a kind has failed, all steps before it are compensated and all steps after it
are pending. -/
def HitBy (kind : StepKind) (world : World SandboxStore) : Prop :=
  world.db.rotation.status = .rolledBack ∧ ∃ earlier step later,
    chain.steps = earlier ++ step :: later ∧ step.kind = kind ∧
      (∀ other ∈ earlier, other.kind ≠ kind) ∧
      world.db.ordered.map (fun row => (row.id, row.status)) =
        earlier.map (fun row => (row.id, .compensated)) ++
          (step.id, .failed) :: later.map fun row => (row.id, .pending)

end RotationChain

end Sprawl
