/-
This file proves that the rotation panel offers what the engine waits for.
-/

import Sprawl.Proof.DeadEnd
import Sprawl.Proof.SagaRun
import Sprawl.Web.RotationPanel

namespace Sprawl

open Effect

variable {κ : Type}

/-- The entries of the plan name the steps in order, and each step is in the place of its index. -/
structure Rows.Shown (rows : Rows) (plan : Option Document) : Prop where
  entries : (planSteps plan).map (·.idx) = (rows.ordered.map (·.idx)).map some
  places : rows.ordered.map (·.idx) = (List.range rows.ordered.length).map Int.ofNat

namespace Rows

variable {rows after : Rows} {plan : Option Document}

namespace Shown

/-- Whatever keeps the steps apart from their columns keeps the timeline. -/
theorem keeps (shown : rows.Shown plan) (keeps : Keeps RotationStep.identity rows after) :
    after.Shown plan := by
  have ordered (rows : Rows) : rows.ordered.map (·.idx) =
      (rows.steps.map (·.idx)).insertionSort (· ≤ ·) :=
    List.map_insertionSort byIdx (· ≤ ·) _ rows.steps fun _ _ _ _ => Iff.rfl
  have same : after.ordered.map (·.idx) = rows.ordered.map (·.idx) := by
    have steps := congrArg (List.map StepIdentity.idx) keeps.steps
    rw [List.map_map, List.map_map] at steps
    rw [ordered, ordered]
    exact congrArg (List.insertionSort (· ≤ ·)) steps
  have length : after.ordered.length = rows.ordered.length := by
    simpa using congrArg List.length same
  constructor
  · rw [shown.entries, same]
  · rw [same, length, shown.places]

end Shown

end Rows

/-- A paused rotation lacks the confirmation of its next step, has it, or lacks a verify step. -/
def Rows.Waits (rows : Rows) : Prop :=
  rows.rotation.status = .awaitingConfirmation → ∃ step ∈ rows.nextStep,
    step.requiresConfirmation = true ∨ step.confirmedAt.isSome = true ∨
      (step.kind = .revoke ∧ rows.answer (.incompleteVerify rows.rotation.id) ≠ (0 : Nat))

/-- A confirmation changes no status, so it opens no gate. -/
theorem Rows.confirmed_incomplete (rows : Rows) (actor : String) (step : RotationStep)
    (time : Time) :
    (rows.confirmed actor step time).answer (.incompleteVerify rows.rotation.id) =
      rows.answer (.incompleteVerify rows.rotation.id) := by
  have kept (other : RotationStep) :
      (if other.id = step.id then StepPatch.apply { confirmedAt := some time } other else other) =
        { other with
          requiresConfirmation := if other.id = step.id then false else other.requiresConfirmation
          confirmedAt := if other.id = step.id then some time else other.confirmedAt } := by
    split
    · simp [StepPatch.apply]
    · rfl
  simp [Rows.answer, Rows.confirmed, Rows.audited, updateSteps, List.filter_map, kept,
    Function.comp_def]

/-- A request leaves a paused rotation waiting. -/
theorem Handled.waits {request : Request} {session final : Session Rows κ}
    {reply : Except HttpError Json} (handled : Handled request session reply final)
    (waits : session.db.Waits) : final.db.Waits := by
  cases handled with
  | refused error => exact waits
  | approved claims role sent waiting body => exact waits
  | rejected claims role sent waiting body =>
      intro paused
      cases (show RotationStatus.rejected = .awaitingConfirmation from paused)
  | confirmed claims role step sent waiting inside pending body =>
      intro _
      obtain ⟨next, found, waits⟩ := waits waiting
      let patch : StepPatch := { confirmedAt := some session.clock }
      have after : (session.db.confirmed claims.sub step session.clock).nextStep =
          session.db.nextStep.map fun other => if other.id = step.id then patch.apply other else other := by
        have patched := session.db.nextStep_patchSteps (fun other => other.id = step.id)
          (show patch.status = none from rfl)
        simp only [decide_eq_true_eq] at patched
        exact patched
      rw [Option.mem_def.mp found, Option.map_some] at after
      refine ⟨_, after, ?_⟩
      by_cases chosen : next.id = step.id
      · rw [if_pos chosen]
        exact Or.inr (Or.inl rfl)
      · rw [if_neg chosen]
        obtain flagged | confirmed | ⟨revoke, incomplete⟩ := waits
        · exact Or.inl flagged
        · exact Or.inr (Or.inl confirmed)
        · refine Or.inr (Or.inr ⟨revoke, fun passed => incomplete ?_⟩)
          rw [← session.db.confirmed_incomplete claims.sub step session.clock]
          exact passed

/-- An engine call leaves a paused rotation waiting. -/
theorem EngineEnd.waits {connectors : Connectors κ} {actor : String}
    {session final : Session Rows κ} (ends : EngineEnd connectors actor session final)
    (waits : session.db.Waits) : final.db.Waits := by
  cases ends with
  | idle idles ends =>
      rw [ends.db]
      exact waits
  | settled after settles ends =>
      rw [ends.db]
      cases settles with
      | expired active late =>
          intro paused
          cases (show RotationStatus.needsReplan = .awaitingConfirmation from paused)
      | completed live some finished =>
          intro paused
          cases (show RotationStatus.completed = .awaitingConfirmation from paused)
      | paused live step next flagged unpaused => exact fun _ => ⟨step, next, Or.inl flagged⟩
      | blocked live step next passed revoke incomplete =>
          exact fun _ => ⟨step, next, Or.inr (Or.inr ⟨revoke, incomplete⟩)⟩
  | ran step executes ends =>
      cases ends with
      | finished done ends =>
          rw [ends.db]
          intro paused
          rw [Rows.afterFinish_status, Rows.started_status] at paused
          split at paused
          · cases paused
          · exact absurd paused step.kind.toStatus_ne_awaitingConfirmation
      | rolledBack failed later rows undone ends =>
          rw [ends.db]
          intro paused
          have ended := undone.status.1
          rw [paused] at ended
          cases ended

section Jobs

variable {world : World κ} {plan : Option Document}

/-- A world whose panel can be trusted. -/
structure World.Watched (world : World κ) (plan : Option Document) : Prop where
  free : world.session.locks = []
  shown : world.db.Shown plan
  waits : world.db.Waits

/-- An action keeps the panel in step with the rotation. -/
theorem World.Watched.action (watched : world.Watched plan) (action : AnyJobAction κ) :
    (action.step world).Watched plan := by
  cases action with
  | request request clock =>
      obtain ⟨reply, final, handled, same⟩ := world.handle_end request clock
      have shown := watched.shown.keeps (handled.keeps identity_confirmless)
      have waits := handled.waits watched.waits
      have locks : final.locks = [] := by cases handled <;> exact watched.free
      rw [AnyJobAction.step, same]
      exact ⟨locks, shown, waits⟩
  | run job invocation =>
      obtain ⟨ran, locks⟩ := runRotationStep_ran invocation.connectors
        (world.session.opened_pending invocation.clock) watched.free job
      have closed : (AnyJobAction.step (.run job invocation) world).db =
          ((runRotationStep job).run (Session.answer invocation.connectors)
            (world.session.opened invocation.clock)).2.db := rfl
      cases ran with
      | skipped internal stops rows =>
          rw [rows] at closed
          constructor
          · exact locks
          · exact closed ▸ watched.shown
          · exact closed ▸ watched.waits
      | called ended ends trace rows =>
          rw [rows] at closed
          constructor
          · exact locks
          · exact closed ▸ watched.shown.keeps (ends.keeps identity_engineless)
          · exact closed ▸ ends.waits watched.waits

theorem World.Watched.run (watched : world.Watched plan) (actions : List (AnyJobAction κ)) :
    (runActions AnyJobAction.step actions world).Watched plan := by
  induction actions generalizing world with
  | nil => exact watched
  | cons action rest ih =>
      rw [runActions_cons]
      exact ih (watched.action action)

end Jobs

section Buttons

variable {world : World κ} {plan : Option Document} {isDemo hasSession : Bool} {clock : Time}
  {claims : TokenClaims}

/-- The handler of the request would answer without an error. -/
def World.accepts (world : World κ) (request : Request) (clock : Time) : Prop :=
  ∃ body, ((request.program.run).run (Session.answer Connectors.none)
    (world.session.opened clock)).1 = .ok body

theorem World.accepts.handled {request : Request} (accepted : world.accepts request clock) :
    ∃ body final, Handled request (world.session.opened clock) (.ok body) final := by
  obtain ⟨body, reply⟩ := accepted
  have handled := request_handled Connectors.none (world.session.opened_pending clock) request
  dsimp only at handled
  rw [reply] at handled
  exact ⟨body, _, handled⟩

end Buttons

theorem Proposal.watched {proposal : Proposal} {plan : Option Document}
    (shown : proposal.rows.Shown plan) (external : κ) :
    (World.proposed proposal external).Watched plan where
  free := rfl
  shown := shown
  waits := by
    intro paused
    cases (show RotationStatus.pendingApproval = .awaitingConfirmation from paused)

/-- The plan of a trigger names the steps that it inserts, and the plan of a demo does so too. -/
theorem shown_of_idx {proposal : Proposal} {plan : Option Document}
    (entries : (planSteps plan).map (·.idx) = [some 0, some 1, some 2, some 3])
    (steps : proposal.steps.map (·.idx) = [0, 1, 2, 3]) : proposal.rows.Shown plan := by
  have idx : proposal.rows.ordered.map (·.idx) = [0, 1, 2, 3] := by
    rw [Rows.ordered, List.map_insertionSort byIdx (· ≤ ·) _ _ fun _ _ _ _ => Iff.rfl]
    have mapped : proposal.rows.steps.map (·.idx) = proposal.steps.map (·.idx) := by
      rw [Proposal.rows, List.map_map]
      rfl
    rw [mapped, steps]
    decide
  have length : proposal.rows.ordered.length = 4 := by simpa using congrArg List.length idx
  constructor
  · rw [idx]
    exact entries
  · rw [idx, length]
    rfl

theorem demo_shown (proposal : Proposal) (steps : proposal.steps.map (·.idx) = [0, 1, 2, 3]) :
    proposal.rows.Shown (some DemoIds.plan) :=
  shown_of_idx rfl steps

end Sprawl
