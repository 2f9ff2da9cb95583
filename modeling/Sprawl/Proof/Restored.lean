/-
This file proves when a rolled back rotation has no step that is done.
-/

import Sprawl.Proof.AuditMirror
import Sprawl.Proof.Once
import Sprawl.Proof.StepOrder

namespace Sprawl

open Effect

variable {κ : Type}

/-- No step of a rolled back rotation is done: each one is pending, failed or compensated. -/
def Rows.Restored (rows : Rows) : Prop :=
  rows.rotation.status = .rolledBack →
    ∀ step ∈ rows.steps, step.status = .pending ∨ step.status = .failed ∨ step.status = .compensated

/-- The steps of a rotation that waits for its approval are pending, and it is restored. -/
structure Rows.Tidy (rows : Rows) : Prop where
  inOrder : InOrder rows
  untouched : rows.rotation.status = .pendingApproval → ∀ step ∈ rows.steps, step.status = .pending
  restored : rows.Restored

namespace Rows.Tidy

/-- A rotation with another status than these two has to keep its order only. -/
theorem of_inOrder {rows : Rows} (inOrder : InOrder rows)
    (started : rows.rotation.status ≠ .pendingApproval)
    (standing : rows.rotation.status ≠ .rolledBack) : rows.Tidy where
  inOrder := inOrder
  untouched waiting := absurd waiting started
  restored ended := absurd ended standing

/-- The rows depend on the status and on the steps alone. -/
theorem congr {rows after : Rows} (tidy : rows.Tidy)
    (status : after.rotation.status = rows.rotation.status) (steps : after.steps = rows.steps) :
    after.Tidy where
  inOrder := by
    constructor
    · rw [status, steps]
      exact tidy.inOrder.frontier
    · rw [status, steps]
      exact tidy.inOrder.completed
  untouched := by
    rw [status, steps]
    exact tidy.untouched
  restored := by
    unfold Rows.Restored
    rw [status, steps]
    exact tidy.restored

/-- The rollback of the engine compensates every step that is done. -/
theorem rolledBack {connectors : Connectors κ} {actor : String} {rows final : Rows}
    {step : RotationStep} {error : Option String} {time : Time} {events : List ConnectorEvent}
    (inOrder : InOrder rows) (executes : Executes rows time step)
    (undone : RolledBack connectors actor (rows.started actor step time) rows.rotation rows.ordered
      step error time events final) : final.Tidy where
  inOrder := InOrder.of_terminal undone.status.1 undone.status.2
  untouched waiting := by
    have ended := undone.status.1
    rw [waiting] at ended
    exact absurd ended (by decide)
  restored := by
    intro _ later present
    obtain failed | compensated | ⟨_, unfinished, old, inside, _, same⟩ :=
      undone.standing (Rows.started_steps _ _ _ _) later present
    · exact Or.inr (Or.inl failed)
    · exact Or.inr (Or.inr compensated)
    · -- A live rotation has no other steps than done and pending ones.
      obtain done | pending := (inOrder.frontier executes.live.active).covered old inside
      · exact absurd (same.symm.trans done) unfinished
      · exact Or.inl (same.symm.trans pending)

/-- An engine call keeps a rotation tidy. -/
theorem engineEnd {connectors : Connectors κ} {actor : String} {session final : Session Rows κ}
    (tidy : session.db.Tidy) (ends : EngineEnd connectors actor session final) :
    final.db.Tidy := by
  have inOrder := tidy.inOrder.engineEnd ends
  cases ends with
  | idle idles ends => exact ends.db ▸ tidy
  | settled after settles ends =>
      rw [ends.db] at inOrder ⊢
      cases settles <;>
        exact of_inOrder inOrder (by simp [Rows.completed]) (by simp [Rows.completed])
  | ran step executes ends =>
      cases ends with
      | finished done ends =>
          rw [ends.db] at inOrder ⊢
          have status := Rows.afterFinish_status actor
            (session.db.started actor step session.clock) session.db.ordered step
            (session.outcome connectors step session.db.rotation).newSecretRef session.clock
          rw [Rows.started_status] at status
          split at status
          · exact of_inOrder inOrder (by simp [status]) (by simp [status])
          · cases kind : step.kind <;> rw [kind] at status <;>
              exact of_inOrder inOrder (by simp [status, StepKind.toStatus])
                (by simp [status, StepKind.toStatus])
      | rolledBack failed later rows undone ends =>
          rw [ends.db]
          exact rolledBack tidy.inOrder executes undone

/-- A request keeps a rotation tidy. -/
theorem handled {request : Request} {session final : Session Rows κ}
    {reply : Except HttpError Json} (tidy : session.db.Tidy)
    (handled : Handled request session reply final) : final.db.Tidy := by
  have inOrder := tidy.inOrder.handled handled
  cases handled with
  | refused error => exact tidy
  | approved claims role sent waiting body => exact tidy.congr rfl rfl
  | rejected claims role sent waiting body =>
      exact of_inOrder inOrder (by simp [Rows.rejected]) (by simp [Rows.rejected])
  | confirmed claims role step sent waiting inside pending body =>
      have paused : (session.db.confirmed claims.sub step session.clock).rotation.status =
          .awaitingConfirmation := waiting
      exact of_inOrder inOrder (by simp [paused]) (by simp [paused])

end Rows.Tidy

section Simulation

variable (rows : Rows) (sessionId : String) (time : Time)

@[simp] theorem Rows.simulated_steps :
    (rows.simulated sessionId time).steps = (rows.simulatedSteps time).steps := rfl

@[simp] theorem Rows.simulated_status :
    (rows.simulated sessionId time).rotation.status = .rolledBack := rfl

/-- The status that a simulated failure writes to a pending step. -/
def simulatedStatus (idx : Int) : StepStatus :=
  if idx = 0 ∨ idx = 1 then .compensated
  else if idx = 2 then .done
  else if idx = 3 then .failed
  else .pending

/-- A simulated failure writes the step rows by their index alone. -/
theorem Rows.simulatedSteps_map
    (pending : ∀ step ∈ rows.steps, step.status = .pending) :
    (rows.simulatedSteps time).steps.map (fun step => (step.idx, step.status)) =
      rows.steps.map fun step => (step.idx, simulatedStatus step.idx) := by
  unfold Rows.simulatedSteps
  simp only [Rows.patchSteps_steps, updateSteps, List.map_map]
  apply List.map_congr_left
  intro step inside
  have own := rows.owned step inside
  have waits := pending step inside
  by_cases first : step.idx = 0 ∨ step.idx = 1
  · obtain first | first := first <;> simp [own, first, simulatedStatus]
  · rw [not_or] at first
    by_cases second : step.idx = 2
    · simp [own, second, simulatedStatus]
    · by_cases third : step.idx = 3
      · simp [own, third, simulatedStatus]
      · simp [first, second, third, waits, simulatedStatus]

/-- A simulated failure leaves the step at index 2 done, so it restores a rotation exactly if there
is no such step. -/
theorem Rows.simulated_restored_iff (pending : ∀ step ∈ rows.steps, step.status = .pending) :
    (rows.simulated sessionId time).Restored ↔ ∀ step ∈ rows.steps, step.idx ≠ 2 := by
  have written := rows.simulatedSteps_map time pending
  constructor
  · intro restored step inside second
    have image : (step.idx, simulatedStatus step.idx) ∈
        (rows.simulatedSteps time).steps.map fun step => (step.idx, step.status) := by
      rw [written]
      exact List.mem_map_of_mem inside
    obtain ⟨later, present, same⟩ := List.mem_map.mp image
    have done : later.status = .done := by
      have status : later.status = simulatedStatus step.idx := congrArg Prod.snd same
      rw [status, second]
      rfl
    have settled := restored rfl later present
    rw [done] at settled
    exact absurd settled (by simp)
  · intro absent _ later present
    have image : (later.idx, later.status) ∈
        rows.steps.map fun step => (step.idx, simulatedStatus step.idx) := by
      rw [← written]
      exact List.mem_map_of_mem present
    obtain ⟨step, inside, same⟩ := List.mem_map.mp image
    have status : simulatedStatus step.idx = later.status := congrArg Prod.snd same
    rw [← status, simulatedStatus]
    simp only [absent step inside, if_false]
    split
    · exact Or.inr (Or.inr rfl)
    · split
      · exact Or.inr (Or.inl rfl)
      · exact Or.inl rfl

end Simulation

/-- A simulated failure departs when it finds a pending rotation with a step at index 2. -/
def TrailAction.LeavesDone (world : World κ) : TrailAction κ → Prop
  | .simulateFailure sessionId _ =>
      world.db.Simulable sessionId ∧ ∃ step ∈ world.db.steps, step.idx = 2
  | _ => False

namespace World

variable {world : World κ} (tidy : world.db.Tidy) {action : TrailAction κ}

include tidy

/-- An action that leaves no step done keeps a rotation tidy. -/
theorem action_tidy (kept : ¬ action.LeavesDone world) : (action.step world).db.Tidy := by
  cases action with
  | request request clock =>
      obtain ⟨reply, final, handled, same⟩ := world.handle_end request clock
      have opened : (world.session.opened clock).db.Tidy := tidy
      have after := opened.handled handled
      rw [TrailAction.step, same]
      exact after
  | simulateFailure sessionId clock =>
      obtain ⟨simulable, same⟩ | ⟨_, same⟩ := simulateFailure_run Connectors.none sessionId
        (world.session.opened_pending clock) <;>
        change (World.simulate sessionId clock world).db = _ at same
      · have absent : ∀ step ∈ world.db.steps, step.idx ≠ 2 :=
          fun step inside second => kept ⟨simulable, step, inside, second⟩
        have after : (world.db.simulated sessionId clock).Tidy :=
          { inOrder := InOrder.of_terminal rfl (by simp)
            untouched := fun waiting => absurd waiting (by simp)
            restored := (world.db.simulated_restored_iff sessionId clock
              (tidy.untouched simulable.waiting)).mpr absent }
        rw [TrailAction.step, same]
        exact after
      · rw [TrailAction.step, same]
        exact tidy
  | advance invocation =>
      obtain ⟨final, ends, same⟩ := world.advance_end invocation
      have opened : (world.session.opened invocation.clock).db.Tidy := tidy
      have after := opened.engineEnd ends
      rw [TrailAction.step, same]
      exact after

/-- A simulated failure that departs leaves a done step behind. -/
theorem leavesDone_unrestored (departs : action.LeavesDone world) :
    ¬ (action.step world).db.Restored := by
  cases action with
  | request request clock => exact departs.elim
  | advance invocation => exact departs.elim
  | simulateFailure sessionId clock =>
      obtain ⟨simulable, step, inside, second⟩ := departs
      obtain ⟨_, same⟩ | ⟨refused, _⟩ := simulateFailure_run Connectors.none sessionId
        (world.session.opened_pending clock)
      · intro restored
        have after : (world.db.simulated sessionId clock).Restored := same ▸ restored
        exact (world.db.simulated_restored_iff sessionId clock
          (tidy.untouched simulable.waiting)).mp after step inside second
      · exact absurd simulable refused

end World

/-- A proposal waits with pending steps. -/
theorem Proposal.tidy (proposal : Proposal) : proposal.rows.Tidy where
  inOrder := proposal.inOrder
  untouched _ := by
    intro step present
    obtain ⟨spec, _, rfl⟩ := List.mem_map.mp present
    rfl
  restored ended := absurd ended (by simp [Proposal.rows, Proposal.rotation])

/-- Every rolled back state of a run has no done step exactly if no simulated failure of the run
finds a pending rotation with a step at index 2. -/
theorem rolledBack_restored_iff (proposal : Proposal) (external : κ)
    (actions : List (TrailAction κ)) :
    (∀ before, before <+: actions →
      (runActions TrailAction.step before (World.proposed proposal external)).db.Restored) ↔
      ∀ visit ∈ visits TrailAction.step actions (World.proposed proposal external),
        ¬ visit.2.LeavesDone visit.1 := by
  have implied (world : World κ) (tidy : world.db.Tidy) : world.db.Restored := tidy.restored
  have kept (world : World κ) (action : TrailAction κ) (tidy : world.db.Tidy)
      (follows : ¬ action.LeavesDone world) : (action.step world).db.Tidy :=
    world.action_tidy tidy follows
  have broken (world : World κ) (action : TrailAction κ) (tidy : world.db.Tidy)
      (departs : action.LeavesDone world) : ¬ (action.step world).db.Restored :=
    world.leavesDone_unrestored tidy departs
  exact holds_iff_never_departs implied kept broken proposal.tidy

/-- After a simulated failure of the demo rotation its verify step is still done. -/
theorem simulatedFailure_unrestored :
    ¬ ∀ (proposal : Proposal) (external : SandboxStore)
      (actions : List (TrailAction SandboxStore)),
      (runActions TrailAction.step actions (World.proposed proposal external)).db.Restored := by
  intro always
  let world : World SandboxStore := World.proposed triggeredPlan []
  have departs : TrailAction.LeavesDone world (.simulateFailure "session" 1) :=
    ⟨⟨rfl, rfl, rfl⟩, _, List.mem_cons_of_mem _ (List.mem_cons_of_mem _ List.mem_cons_self), rfl⟩
  have tidy : world.db.Tidy := triggeredPlan.tidy
  exact world.leavesDone_unrestored tidy departs
    (always triggeredPlan [] [.simulateFailure "session" 1])

end Sprawl
