/-
This file proves what one action does to the world of a rotation.
-/

import Sprawl.Proof.Design

namespace Sprawl

open Effect

variable {κ : Type}

section Open

variable {D : Type} (clock : Time) (session : Session D κ)

@[simp] theorem Session.opened_db : (session.opened clock).db = session.db := rfl
@[simp] theorem Session.opened_pending : (session.opened clock).pending = [] := rfl
@[simp] theorem Session.opened_calls : (session.opened clock).calls = session.calls := rfl
@[simp] theorem Session.opened_queue : (session.opened clock).queue = session.queue := rfl
@[simp] theorem Session.opened_locks : (session.opened clock).locks = session.locks := rfl
@[simp] theorem Session.opened_clock : (session.opened clock).clock = clock := rfl
@[simp] theorem Session.closed_db : session.closed.db = session.db := rfl
@[simp] theorem Session.closed_calls : session.closed.calls = session.calls := rfl
@[simp] theorem Session.closed_queue : session.closed.queue = session.queue := rfl
@[simp] theorem Session.closed_locks : session.closed.locks = session.locks := rfl

end Open

namespace World

variable (world : World κ)

/-- An engine call ends in one of the listed ways. -/
theorem advance_end (invocation : Invocation κ) :
    ∃ final, EngineEnd invocation.connectors invocation.actor
      (world.session.opened invocation.clock) final ∧
        world.advance invocation = { world with session := final.closed } :=
  ⟨_, (advanceRotation_ensures invocation.connectors invocation.actor
    (world.session.opened_pending invocation.clock)).final, rfl⟩

/-- The moments of an engine call are of the listed kinds. -/
theorem advance_moment (invocation : Invocation κ) :
    ∀ moment ∈ world.moments (world.engineCall invocation) invocation,
      EngineMoment invocation.connectors invocation.actor
        (world.session.opened invocation.clock) moment :=
  (advanceRotation_ensures invocation.connectors invocation.actor
    (world.session.opened_pending invocation.clock)).moments

/-- An engine call that works on a step runs its executor. -/
theorem advance_executes (invocation : Invocation κ) {step : RotationStep}
    (executes : Executes world.db invocation.clock step) :
    ∃ moment ∈ world.moments (world.engineCall invocation) invocation,
      moment.issued = .executeStep step world.db.rotation :=
  advanceRotation_executes invocation.connectors invocation.actor
    (world.session.opened_pending invocation.clock) executes

/-- A request ends in one of the listed ways. -/
theorem handle_end (request : Request) (clock : Time) :
    ∃ reply final, Handled request (world.session.opened clock) reply final ∧
      world.handle request clock =
        { session := final.closed
          accepted := match reply with
            | .ok _ => world.accepted ++ [request]
            | .error _ => world.accepted } :=
  ⟨_, _, request_handled Connectors.none (world.session.opened_pending clock) request, rfl⟩

/-- No action changes the identity of the steps. -/
theorem action_keeps (action : Action κ) :
    Keeps RotationStep.identity world.db (action.step world).db := by
  cases action with
  | request request clock =>
      obtain ⟨reply, final, handled, same⟩ := world.handle_end request clock
      have keeps := handled.keeps identity_confirmless
      rw [Action.step, same]
      exact keeps
  | advance invocation =>
      obtain ⟨final, ends, same⟩ := world.advance_end invocation
      have keeps := ends.keeps identity_engineless
      rw [Action.step, same]
      exact keeps

end World

/-- An execution moment of an engine call is the one of the step that the call works on. -/
theorem EngineMoment.execution {connectors : Connectors κ} {actor : String}
    {session : Session Rows κ} {moment : Moment Command Command.Reply (Session Rows κ)}
    (inside : EngineMoment connectors actor session moment) {step : RotationStep}
    {rotation : Rotation} (issued : moment.issued = .executeStep step rotation) :
    Executes session.db session.clock step ∧ rotation = session.db.rotation ∧
      moment.state.calls = session.calls ∧
      moment.state.db = session.db.started actor step session.clock := by
  cases inside with
  | reading internal unrecorded state => simp [issued, Command.isInternal] at internal
  | settling after settles internal unrecorded calls rows =>
      simp [issued, Command.isInternal] at internal
  | running other executes within =>
      cases within with
      | starting internal unrecorded calls rows => simp [issued, Command.isInternal] at internal
      | executing same calls rows =>
          rw [issued] at same
          injection same with sameStep sameRotation
          subst sameStep
          exact ⟨executes, sameRotation, calls, rows⟩
      | finishing done internal records calls rows =>
          simp [issued, Command.isInternal] at internal
      | failing failed execution unrecorded status =>
          simp [issued, Command.isExecution] at execution

end Sprawl
