/-
This file proves when a rejection leaves nothing of the rotation behind.
-/

import Sprawl.Proof.Ledger
import Sprawl.Proof.StepOrder
import Sprawl.Rotation.Sandbox

namespace Sprawl

open Effect

variable {κ : Type}

/-- A live rotation without a done step has not called any connector. -/
structure Untouched (world : World κ) : Prop where
  inOrder : InOrder world.db
  calls : world.db.rotation.status.isTerminal = false →
    (∀ step ∈ world.db.steps, step.status ≠ .done) → world.calls = []

namespace Untouched

variable {world : World κ}

theorem proposed (proposal : Proposal) (external : κ) :
    Untouched (World.proposed proposal external) :=
  ⟨proposal.inOrder, fun _ _ => rfl⟩

theorem advance (untouched : Untouched world) (invocation : Invocation κ) :
    Untouched (world.advance invocation) := by
  obtain ⟨final, ends, same⟩ := world.advance_end invocation
  have inOrder : InOrder (world.advance invocation).db :=
    InOrder.action (.advance invocation) untouched.inOrder
  refine ⟨inOrder, ?_⟩
  rw [same]
  intro active none
  change final.calls = []
  change final.db.rotation.status.isTerminal = false at active
  change ∀ step ∈ final.db.steps, step.status ≠ .done at none
  cases ends with
  | idle idles ends =>
      rw [ends.db] at active none
      rw [ends.calls, List.append_nil]
      exact untouched.calls active none
  | settled after settles ends =>
      rw [ends.db] at active none
      rw [ends.calls, List.append_nil]
      cases settles with
      | expired live late => exact untouched.calls live none
      | completed live some finished =>
          have ended : RotationStatus.completed.isTerminal = false := active
          exact absurd ended (by decide)
      | paused live step next flagged unpaused => exact untouched.calls live.active none
      | blocked live step next passed revoke incomplete => exact untouched.calls live.active none
  | ran step executes ends =>
      cases ends with
      | finished done ends =>
          rw [ends.db, Rows.afterFinish_steps, Rows.started_steps] at none
          have inside := (Rows.nextStep_eq_some executes.next).1
          exact absurd (by simp) (none _ (mem_updateSteps.mpr ⟨step, inside, rfl⟩))
      | rolledBack failed later rows undone ends =>
          rw [ends.db, undone.status.1] at active
          exact absurd active (by simp)

theorem handle (untouched : Untouched world) (request : Request) (clock : Time) :
    Untouched (world.handle request clock) := by
  obtain ⟨reply, final, handled, same⟩ := world.handle_end request clock
  have inOrder : InOrder (world.handle request clock).db :=
    InOrder.action (.request request clock) untouched.inOrder
  refine ⟨inOrder, ?_⟩
  rw [same]
  intro active none
  cases handled with
  | refused error => exact untouched.calls active none
  | approved claims role sent waiting body => exact untouched.calls active none
  | rejected claims role sent waiting body =>
      have ended : RotationStatus.rejected.isTerminal = false := active
      exact absurd ended (by decide)
  | confirmed claims role step sent waiting inside pending body =>
      refine untouched.calls active fun old within => ?_
      have kept := none _ (mem_updateSteps.mpr ⟨old, within, rfl⟩)
      split at kept <;> exact kept

theorem action (untouched : Untouched world) (action : Action κ) :
    Untouched (action.step world) := by
  cases action with
  | request request clock => exact untouched.handle request clock
  | advance invocation => exact untouched.advance invocation

theorem visits {proposal : Proposal} {external : κ} {actions : List (Action κ)} :
    ∀ visit ∈ visits Action.step actions (World.proposed proposal external), Untouched visit.1 :=
  invariant_visits_always Untouched (fun _ action untouched => untouched.action action)
    (proposed proposal external)

end Untouched

/-- The request moves the rotation to `rejected`. -/
structure World.Rejects (world : World κ) (request : Request) (clock : Time) : Prop where
  before : world.db.rotation.status ≠ .rejected
  after : (world.handle request clock).db.rotation.status = .rejected

/-- A rejection leaves the steps and the connector calls as they were, and it ends a live rotation. -/
theorem World.Rejects.keeps {world : World κ} {request : Request} {clock : Time}
    (rejects : world.Rejects request clock) :
    (world.handle request clock).db.steps = world.db.steps ∧
      (world.handle request clock).calls = world.calls ∧
      world.db.rotation.status.isTerminal = false := by
  obtain ⟨before, after⟩ := rejects
  obtain ⟨reply, final, handled, same⟩ := world.handle_end request clock
  rw [same] at after ⊢
  cases handled with
  | refused error => exact absurd after before
  | approved claims role sent waiting body => exact absurd after before
  | rejected claims role sent waiting body =>
      refine ⟨rfl, rfl, ?_⟩
      rcases waiting with waiting | waiting
      · exact congrArg RotationStatus.isTerminal waiting
      · exact congrArg RotationStatus.isTerminal waiting
  | confirmed claims role step sent waiting inside pending body => exact absurd after before

/-- No step has run yet: the step of lowest index is pending. -/
def Rows.unstarted (rows : Rows) : Prop := ∀ step ∈ rows.ordered.head?, step.status = .pending

/-- In an ordered live rotation no step is done exactly when no step has run. -/
theorem InOrder.unstarted_iff {rows : Rows} (inOrder : InOrder rows)
    (active : rows.rotation.status.isTerminal = false) :
    rows.unstarted ↔ ∀ step ∈ rows.steps, step.status ≠ .done := by
  have frontier := inOrder.frontier active
  unfold Rows.unstarted
  cases loaded : rows.ordered with
  | nil =>
      have none : ∀ step ∈ rows.steps, step.status ≠ .done := by
        intro step inside
        have present := rows.mem_ordered.mpr inside
        rw [loaded] at present
        exact absurd present List.not_mem_nil
      simpa using none
  | cons head rest =>
      have first : head ∈ rows.steps := rows.mem_ordered.mp (by simp [loaded])
      simp only [List.head?_cons, Option.mem_def, Option.some.injEq, forall_eq']
      constructor
      · intro waits step inside ended
        have sorted := rows.ordered_pairwise
        rw [loaded] at sorted
        have present := rows.mem_ordered.mpr inside
        rw [loaded] at present
        obtain rfl | later := List.mem_cons.mp present
        · rw [waits] at ended
          exact absurd ended (by simp)
        · have below := (List.pairwise_cons.mp sorted).1 step later
          have started : head.status = .done :=
            frontier.closed head first step inside below ended
          rw [waits] at started
          exact absurd started (by simp)
      · intro none
        obtain ended | waits := frontier.covered head first
        · exact absurd ended (none head first)
        · exact waits

/-- A rejection leaves no live credential and no done step exactly when no step has run. -/
theorem rejection_clean_iff (proposal : Proposal) (external : κ) (actions : List (Action κ)) :
    ∀ visit ∈ visits Action.step actions (World.proposed proposal external),
      ∀ request clock, visit.2 = .request request clock → visit.1.Rejects request clock →
        ((outstanding (visit.1.handle request clock).calls = [] ∧
          ∀ step ∈ (visit.1.handle request clock).db.steps, step.status ≠ .done) ↔
        visit.1.db.unstarted) := by
  intro visit inside request clock sent rejects
  have untouched := Untouched.visits visit inside
  obtain ⟨steps, calls, active⟩ := rejects.keeps
  rw [steps, calls, untouched.inOrder.unstarted_iff active]
  constructor
  · exact fun clean => clean.2
  · intro none
    rw [untouched.calls active none]
    exact ⟨rfl, none⟩

/-- The owner rejects the demo rotation before any step, and nothing is left. -/
theorem rejection_clean_at_once :
    outstanding ((World.proposed triggeredPlan ([] : SandboxStore)).handle
        (.reject 7 5 sandboxOwner) 2).calls = [] ∧
      ∀ step ∈ ((World.proposed triggeredPlan ([] : SandboxStore)).handle
        (.reject 7 5 sandboxOwner) 2).db.steps, step.status ≠ .done :=
  (rejection_clean_iff triggeredPlan [] [.request (.reject 7 5 sandboxOwner) 2]
    (World.proposed triggeredPlan [], .request (.reject 7 5 sandboxOwner) 2)
    List.mem_cons_self _ _ rfl ⟨by decide, by decide⟩).mpr (by unfold Rows.unstarted; decide)

/-- A rejection at the pause before the distribute step leaves the new credential alive. -/
theorem rejection_leaves_credential :
    ¬ ∀ (proposal : Proposal) (external : SandboxStore) (actions : List (Action SandboxStore)),
      ∀ visit ∈ visits Action.step actions (World.proposed proposal external),
        ∀ request clock, visit.2 = .request request clock → visit.1.Rejects request clock →
          outstanding (visit.1.handle request clock).calls = [] ∧
            ∀ step ∈ (visit.1.handle request clock).db.steps, step.status ≠ .done := by
  intro always
  obtain ⟨world, visited, rejects, live⟩ : ∃ world : World SandboxStore,
      (world, .request (.reject 7 5 sandboxOwner) 2) ∈ visits Action.step
        [.advance (sandboxCall none), .advance (sandboxCall none),
          .request (.reject 7 5 sandboxOwner) 2] (World.proposed triggeredPlan []) ∧
      world.Rejects (.reject 7 5 sandboxOwner) 2 ∧
      outstanding (world.handle (.reject 7 5 sandboxOwner) 2).calls = [sandboxKeyId] :=
    ⟨_, (mem_visits_iff _).mpr
      ⟨[.advance (sandboxCall none), .advance (sandboxCall none)], [], rfl, rfl⟩,
      ⟨by decide, by decide⟩, by decide⟩
  have clean := (always triggeredPlan [] _ _ visited _ _ rfl rejects).1
  rw [live] at clean
  exact absurd clean (by simp)

end Sprawl
