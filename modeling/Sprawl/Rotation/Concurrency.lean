/-
This file gives the interleaved runs of engine calls, requests and simulated failures.
-/

import Sprawl.Effect.Interleaving
import Sprawl.Rotation.System

namespace Sprawl

open Effect

variable {κ : Type}

/-- An operation opens its own database session. -/
inductive Operation (κ : Type) where
  | advance (rotationId workspaceId : Uuid) (invocation : Invocation κ)
  | request (request : Request) (clock : Time)
  | simulateFailure (sessionId : String) (clock : Time)

/-- The program of an operation without its result. -/
def Operation.program : Operation κ → RotationProgram Unit
  | .advance rotationId workspaceId invocation =>
      (fun _ => ()) <$> advanceRotation rotationId workspaceId invocation.actor
  | .request sent _ => (fun _ => ()) <$> sent.program.run
  | .simulateFailure sessionId _ => (fun _ => ()) <$> Sprawl.simulateFailure sessionId

/-- A transaction holds the writes that its operation has not committed yet. -/
structure Transaction (κ : Type) where
  pending : List Write
  connectors : Connectors κ
  clock : Time

/-- The transaction that an operation opens. -/
def Operation.transaction : Operation κ → Transaction κ
  | .advance _ _ invocation =>
      { pending := [], connectors := invocation.connectors, clock := invocation.clock }
  | .request _ clock => { pending := [], connectors := Connectors.none, clock }
  | .simulateFailure _ clock => { pending := [], connectors := Connectors.none, clock }

/-- A statement meets the rows that are committed at its own time, with the writes of its own
transaction on top. Other transactions see these writes after the commit. -/
def Transaction.answer :
    Handler Command Command.Reply (Transaction κ × Session Rows κ) :=
  fun issued state =>
    let answered := Session.answer state.1.connectors issued
      { state.2 with pending := state.1.pending, clock := state.1.clock }
    (answered.1, { state.1 with pending := answered.2.pending }, answered.2.closed)

/-- A pool of operations on the rows of one rotation. -/
abbrev RotationPool (κ : Type) := Pool Command Command.Reply (Transaction κ) (Session Rows κ) Unit

/-- The chosen operation issues its next statement. -/
def RotationPool.step (index : Nat) (pool : RotationPool κ) : RotationPool κ :=
  Pool.step Transaction.answer index pool

/-- The committed rotation status. -/
abbrev RotationPool.status (pool : RotationPool κ) : RotationStatus :=
  pool.shared.db.rotation.status

/-- The operations at their first statements. -/
def Operation.pool (session : Session Rows κ) (operations : List (Operation κ)) :
    RotationPool κ where
  shared := session
  threads := operations.map fun operation => ⟨operation.program, operation.transaction⟩

section Requests

variable {α : Type} {Stage : Type} {protocol : Protocol Command Command.Reply Stage} {stage : Stage}

/-- A request with an allowed role follows a protocol that it follows behind the role check. -/
theorem follows_requireRole (roles : List String) (claims : TokenClaims)
    {next : Unit → RequestProgram α} (later : (next ()).run.Follows protocol stage) :
    (requireRole roles claims >>= next).run.Follows protocol stage := by
  unfold requireRole
  split
  · exact later
  · trivial

/-- A request goes on with the rotation that it finds. -/
theorem follows_requireRotation {rotationId workspaceId : Uuid}
    {next : Rotation → RequestProgram α}
    (reads : protocol.allowed stage (.select (.rotation rotationId workspaceId)))
    (later : ∀ rotation,
      protocol.assumed stage (.select (.rotation rotationId workspaceId)) (some rotation) →
      (next rotation).run.Follows protocol
        (protocol.next stage (.select (.rotation rotationId workspaceId)))) :
    (requireRotation rotationId workspaceId >>= next).run.Follows protocol stage := by
  refine ⟨reads, fun found known => ?_⟩
  cases found with
  | none => trivial
  | some rotation => exact later rotation known

end Requests

end Sprawl
