/-
This file proves when a plan that has expired without an approval stays unexecuted.
-/

import Sprawl.Proof.RevokeConsent

namespace Sprawl

open Effect

variable {κ : Type}

/-- The time of an engine call. -/
def Action.callTime : Action κ → Option Time
  | .request _ _ => none
  | .advance invocation => some invocation.clock

/-- The times of the engine calls of a run. -/
def callTimes (actions : List (Action κ)) : List Time := actions.filterMap Action.callTime

/-- An engine call finds a rotation that nobody has rejected. -/
def callsUnrejected (visit : World κ × Action κ) : Bool :=
  visit.2.callTime.isSome && visit.1.db.rotation.status ≠ .rejected

/-- The lowest pending step is no revoke step, or every verify step is done. -/
structure Ready (rows : Rows) (step : RotationStep) : Prop where
  next : rows.nextStep = some step
  verified : step.kind = .revoke → ∀ other ∈ rows.steps, other.kind = .verify →
    other.status = .done

/-- The engine calls that an overdue rotation takes before the call that runs its next step. The
first one asks for a new plan. A flagged step takes one more. -/
def RotationStep.graceCalls (step : RotationStep) : Nat :=
  if step.requiresConfirmation then 2 else 1

/-- The rotation has expired, and so many engine calls go by before the next step runs. -/
inductive Overdue (rows : Rows) (step : RotationStep) (left : Nat) : Prop where
  | unapproved (waiting : rows.rotation.status = .pendingApproval) (calls : left = step.graceCalls)
  | replanned (moved : rows.rotation.status = .needsReplan) (calls : left + 1 = step.graceCalls)
  | paused (waiting : rows.rotation.status = .awaitingConfirmation) (none : left = 0)

namespace Overdue

variable {rows : Rows} {step : RotationStep} {left : Nat} {time expires : Time}

theorem active (overdue : Overdue rows step left) : rows.rotation.status.isTerminal = false := by
  cases overdue with
  | unapproved waiting calls => rw [waiting]; rfl
  | replanned moved calls => rw [moved]; rfl
  | paused waiting none => rw [waiting]; rfl

/-- A rotation whose approval has never come expires in that status only. -/
theorem expired_iff (planExpiresAt : rows.rotation.planExpiresAt = some expires)
    (late : expires < time) :
    rows.rotation.expired time = true ↔ rows.rotation.status = .pendingApproval := by
  simp [Rotation.expired, planExpiresAt, late]

/-- The engine runs the step when no call is left. -/
theorem executes (overdue : Overdue rows step 0) (ready : Ready rows step) (time : Time) :
    Executes rows time step := by
  have verified := fun revoke => (Rows.answer_incompleteVerify_eq_zero rows).mpr
    (ready.verified revoke)
  have live (status : rows.rotation.status ≠ .pendingApproval) : Live rows time := by
    refine ⟨overdue.active, ?_⟩
    unfold Rotation.expired
    cases rows.rotation.planExpiresAt <;> simp [status]
  cases overdue with
  | unapproved waiting calls =>
      unfold RotationStep.graceCalls at calls
      split at calls <;> simp at calls
  | replanned moved calls =>
      refine ⟨live (by simp [moved]), ready.next, fun flagged => ?_, verified⟩
      simp [RotationStep.graceCalls, flagged] at calls
  | paused waiting none =>
      exact ⟨live (by simp [waiting]), ready.next, fun _ => waiting, verified⟩

/-- The engine runs nothing as long as a call is left. -/
theorem not_executes (overdue : Overdue rows step (left + 1)) (ready : Ready rows step)
    (planExpiresAt : rows.rotation.planExpiresAt = some expires) (late : expires < time)
    (other : RotationStep) : ¬ Executes rows time other := by
  intro executes
  cases overdue with
  | unapproved waiting calls =>
      exact absurd (executes.live.unexpired.symm.trans ((expired_iff planExpiresAt late).mpr waiting))
        (by simp)
  | replanned moved calls =>
      obtain rfl : step = other := Option.some.inj (ready.next.symm.trans executes.next)
      have flagged : step.requiresConfirmation = true := by
        by_contra unflagged
        simp [RotationStep.graceCalls, unflagged] at calls
      exact absurd (moved.symm.trans (executes.passed flagged)) (by simp)
  | paused waiting none => exact absurd none (by simp)

/-- Every other engine call uses up one call. -/
theorem settles {after : Rows} {actor : String} (overdue : Overdue rows step (left + 1))
    (ready : Ready rows step) (planExpiresAt : rows.rotation.planExpiresAt = some expires)
    (late : expires < time) (settles : Settles rows actor time after) :
    Overdue after step left := by
  have pending := (Rows.nextStep_eq_some ready.next).2.1
  have inside := (Rows.nextStep_eq_some ready.next).1
  cases settles with
  | expired active expired =>
      have waiting := (expired_iff planExpiresAt late).mp expired
      cases overdue with
      | unapproved _ calls => exact .replanned rfl calls
      | replanned moved calls => exact absurd (moved.symm.trans waiting) (by simp)
      | paused _ none => exact absurd none (by simp)
  | completed live some finished =>
      exact absurd (pending.symm.trans (finished step inside)) (by simp)
  | paused live other next flagged unpaused =>
      cases overdue with
      | unapproved waiting calls =>
          exact absurd (live.unexpired.symm.trans ((expired_iff planExpiresAt late).mpr waiting))
            (by simp)
      | replanned moved calls =>
          refine .paused rfl ?_
          unfold RotationStep.graceCalls at calls
          split at calls <;> omega
      | paused _ none => exact absurd none (by simp)
  | blocked live other next passed revoke incomplete =>
      obtain rfl : step = other := Option.some.inj (ready.next.symm.trans next)
      exact absurd ((Rows.answer_incompleteVerify_eq_zero rows).mpr (ready.verified revoke))
        incomplete

/-- A call meets a rotation with a pending step, so it is not idle. -/
theorem not_idles (overdue : Overdue rows step left) (ready : Ready rows step) :
    ¬ Idles rows time :=
  Idles.not_of_next overdue.active ready.next

end Overdue

/-- Rows with the same steps and the same rotation have the same step ready. -/
theorem Ready.of_steps {rows after : Rows} {step : RotationStep} (ready : Ready rows step)
    (steps : after.steps = rows.steps) : Ready after step := by
  have next : after.nextStep = rows.nextStep := by
    unfold Rows.nextStep Rows.ordered
    rw [steps]
  exact ⟨next.trans ready.next, steps ▸ ready.verified⟩

/-- A confirmation changes neither the kind nor the status of a step. -/
theorem ready_confirmed_iff {rows : Rows} {actor : String} {confirmed : RotationStep} {time : Time} :
    (∃ step, Ready (rows.confirmed actor confirmed time) step) ↔ ∃ step, Ready rows step := by
  let patched (step : RotationStep) : RotationStep :=
    if step.id = confirmed.id then StepPatch.apply { confirmedAt := some time } step else step
  have kind (step : RotationStep) : (patched step).kind = step.kind := by
    unfold patched
    split <;> rfl
  have status (step : RotationStep) : (patched step).status = step.status := by
    unfold patched
    split <;> rfl
  have next : (rows.confirmed actor confirmed time).nextStep = rows.nextStep.map patched := by
    have found := @Rows.nextStep_patchSteps rows (fun other => other.id = confirmed.id)
      { confirmedAt := some time } rfl
    simp only [decide_eq_true_eq] at found
    exact found
  have steps : (rows.confirmed actor confirmed time).steps = rows.steps.map patched := by
    simp [Rows.confirmed, updateSteps, patched]
  have verified : (∀ other ∈ (rows.confirmed actor confirmed time).steps,
      other.kind = .verify → other.status = .done) ↔
        ∀ other ∈ rows.steps, other.kind = .verify → other.status = .done := by
    simp only [steps, List.forall_mem_map, kind, status]
  constructor
  · intro given
    obtain ⟨step, ready⟩ := given
    obtain ⟨old, found, same⟩ := Option.map_eq_some_iff.mp (next.symm.trans ready.next)
    refine ⟨old, found, fun revoke => verified.mp (ready.verified ?_)⟩
    rw [← same, kind, revoke]
  · intro given
    obtain ⟨step, ready⟩ := given
    refine ⟨patched step, by rw [next, ready.next, Option.map_some], fun revoke => ?_⟩
    exact verified.mpr (ready.verified ((kind step).symm.trans revoke))

namespace World

variable {world : World κ}

/-- A request changes nothing about whether a step is ready. -/
theorem handle_ready_iff (world : World κ) (request : Request) (clock : Time) :
    (∃ step, Ready (world.handle request clock).db step) ↔ ∃ step, Ready world.db step := by
  obtain ⟨reply, final, handled, same⟩ := world.handle_end request clock
  rw [same]
  cases handled with
  | confirmed claims role step sent waiting inside pending body => exact ready_confirmed_iff
  | _ => exact ⟨fun ⟨step, ready⟩ => ⟨step, ready.of_steps rfl⟩,
      fun ⟨step, ready⟩ => ⟨step, ready.of_steps rfl⟩⟩

/-- A request rejects an overdue rotation or takes none of its calls. -/
theorem handle_overdue {step : RotationStep} {left : Nat} (ready : Ready world.db step)
    (overdue : Overdue world.db step left) (request : Request) (clock : Time) :
    (world.handle request clock).db.rotation.status = .rejected ∨
      ∃ later, Ready (world.handle request clock).db later ∧
        Overdue (world.handle request clock).db later left := by
  obtain ⟨later, found⟩ := (world.handle_ready_iff request clock).mpr ⟨step, ready⟩
  obtain ⟨reply, final, handled, same⟩ := world.handle_end request clock
  rw [same] at found ⊢
  cases handled with
  | refused error => exact Or.inr ⟨step, ready, overdue⟩
  | approved claims role sent waiting body =>
      right
      refine ⟨step, ready.of_steps rfl, ?_⟩
      cases overdue with
      | unapproved waiting calls => exact .unapproved waiting calls
      | replanned moved calls => exact .replanned moved calls
      | paused waiting none => exact .paused waiting none
  | rejected claims role sent waiting body => exact Or.inl rfl
  | confirmed claims role step sent waiting inside pending body =>
      right
      refine ⟨later, found, ?_⟩
      have paused : world.db.rotation.status = .awaitingConfirmation := waiting
      cases overdue with
      | unapproved waiting calls => exact absurd (waiting.symm.trans paused) (by simp)
      | replanned moved calls => exact absurd (moved.symm.trans paused) (by simp)
      | paused _ none => exact .paused waiting none

/-- A rejected rotation stays rejected. -/
theorem action_rejected (rejected : world.db.rotation.status = .rejected) (action : Action κ) :
    (action.step world).db.rotation.status = .rejected := by
  have ended : world.db.rotation.status.isTerminal = true := by rw [rejected]; rfl
  cases action with
  | request request clock =>
      obtain ⟨reply, final, handled, same⟩ := world.handle_end request clock
      rw [Action.step, same]
      cases handled with
      | rejected claims role sent waiting body => rfl
      | _ => exact rejected
  | advance invocation =>
      obtain ⟨final, ends, same⟩ := world.advance_end invocation
      rw [Action.step, same]
      cases ends with
      | idle idles ends => exact (congrArg (·.rotation.status) ends.db).trans rejected
      | settled after settles ends => exact absurd (ended.symm.trans settles.active) (by simp)
      | ran step executes ends =>
          exact absurd (ended.symm.trans executes.live.active) (by simp)

end World

/-- No action of the run runs a step. -/
def Unexecuted (actions : List (Action κ)) (world : World κ) : Prop :=
  ∀ visit ∈ visits Action.step actions world, ∀ invocation, visit.2 = .advance invocation →
    ∀ step, ¬ visit.1.executes invocation step

theorem unexecuted_cons {action : Action κ} {rest : List (Action κ)} {world : World κ} :
    Unexecuted (action :: rest) world ↔
      (∀ invocation, action = .advance invocation → ∀ step,
        ¬ Executes world.db invocation.clock step) ∧
      Unexecuted rest (action.step world) := by
  simp only [Unexecuted, visits_cons, List.forall_mem_cons, World.executes_iff]

/-- A rejected rotation runs nothing any more, and no call finds it unrejected. -/
theorem rejected_unexecuted {world : World κ} (rejected : world.db.rotation.status = .rejected)
    (actions : List (Action κ)) :
    Unexecuted actions world ∧ (visits Action.step actions world).countP callsUnrejected = 0 := by
  have always := @invariant_visits_always _ _ Action.step
    (fun world : World κ => world.db.rotation.status = .rejected)
    (fun _ action holds => World.action_rejected holds action) actions world rejected
  constructor
  · intro visit inside invocation sent step runs
    have active := ((visit.1.executes_iff invocation step).mp runs).live.active
    rw [always visit inside] at active
    exact absurd active (by decide)
  · rw [List.countP_eq_zero]
    intro visit inside counted
    simp [callsUnrejected, always visit inside] at counted

/-- Without a ready step no call ever runs a step. -/
theorem unready_unexecuted {world : World κ} (unready : ¬ ∃ step, Ready world.db step)
    (actions : List (Action κ)) : Unexecuted actions world := by
  have ready {world : World κ} {time : Time} {step : RotationStep}
      (executes : Executes world.db time step) : Ready world.db step :=
    ⟨executes.next, fun revoke =>
      (Rows.answer_incompleteVerify_eq_zero _).mp (executes.verified revoke)⟩
  have always := @invariant_visits_always _ _ Action.step
    (fun world : World κ => ¬ ∃ step, Ready world.db step) (by
      intro world action unready
      cases action with
      | request request clock =>
          exact fun given => unready ((world.handle_ready_iff request clock).mp given)
      | advance invocation =>
          intro given
          obtain ⟨step, found⟩ := given
          obtain ⟨final, ends, same⟩ := world.advance_end invocation
          rw [Action.step, same] at found
          apply unready
          cases ends with
          | idle idles ends => exact ⟨step, found.of_steps (congrArg Rows.steps ends.db.symm)⟩
          | settled after settles ends =>
              refine ⟨step, found.of_steps ?_⟩
              exact (settles.steps.symm.trans (congrArg Rows.steps ends.db.symm))
          | ran other executes ends => exact ⟨other, ready executes⟩) actions world unready
  intro visit inside invocation sent step runs
  exact always visit inside ⟨step, ready ((visit.1.executes_iff invocation step).mp runs)⟩

/-- An overdue rotation stays unexecuted exactly as long as no more calls find it unrejected than
it has left. -/
theorem overdue_unexecuted_iff {expires : Time} (actions : List (Action κ)) {world : World κ}
    {step : RotationStep} {left : Nat}
    (planExpiresAt : world.db.rotation.planExpiresAt = some expires)
    (late : ∀ time ∈ callTimes actions, expires < time) (ready : Ready world.db step)
    (overdue : Overdue world.db step left) :
    Unexecuted actions world ↔
      (visits Action.step actions world).countP callsUnrejected ≤ left := by
  induction actions generalizing world step left with
  | nil => simp [Unexecuted]
  | cons action rest ih =>
      have kept : (action.step world).db.rotation.planExpiresAt = some expires :=
        (world.action_keeps action).planExpiresAt.trans planExpiresAt
      rw [unexecuted_cons, visits_cons, List.countP_cons]
      cases action with
      | request request clock =>
          have skipped : callsUnrejected (world, Action.request request clock) = false := rfl
          simp only [skipped, reduceCtorEq, false_implies, implies_true, true_and,
            Bool.false_eq_true, if_false, Nat.add_zero]
          obtain rejected | ⟨later, found, still⟩ := World.handle_overdue ready overdue request clock
          · obtain ⟨none, zero⟩ := rejected_unexecuted rejected rest
            exact ⟨fun _ => zero.trans_le (Nat.zero_le left), fun _ => none⟩
          · exact ih kept late found still
      | advance invocation =>
          have now : expires < invocation.clock := late _ List.mem_cons_self
          have after : ∀ time ∈ callTimes rest, expires < time :=
            fun time inside => late time (List.mem_cons_of_mem _ inside)
          have unrejected : world.db.rotation.status ≠ .rejected := by
            intro rejected
            have active := overdue.active
            rw [rejected] at active
            exact absurd active (by decide)
          have counted : callsUnrejected (world, Action.advance invocation) = true := by
            simp [callsUnrejected, Action.callTime, unrejected]
          simp only [counted, if_true, Action.advance.injEq, forall_eq']
          cases left with
          | zero =>
              constructor
              · intro none
                exact absurd (overdue.executes ready invocation.clock) (none.1 step)
              · intro few
                exact absurd few (by omega)
          | succ left =>
              have idle := overdue.not_executes ready planExpiresAt now
              obtain ⟨final, ends, same⟩ := world.advance_end invocation
              have next : Ready (Action.step (.advance invocation) world).db step ∧
                  Overdue (Action.step (.advance invocation) world).db step left := by
                rw [Action.step, same]
                cases ends with
                | idle idles ends => exact absurd idles (overdue.not_idles ready)
                | settled after settles ends =>
                    have reached : final.db = after := ends.db
                    change Ready final.db step ∧ Overdue final.db step left
                    rw [reached]
                    exact ⟨ready.of_steps settles.steps,
                      overdue.settles ready planExpiresAt now settles⟩
                | ran other executes ends => exact absurd executes (idle other)
              rw [ih kept after next.1 next.2]
              simp only [idle, not_false_eq_true, implies_true, true_and]
              omega

/-- A rotation that expires without an approval runs no step in any run of late calls, exactly when
it has no ready step or few calls find it unrejected: one, or two before a flagged step. -/
theorem expired_plan_unexecuted_iff (world : World κ) {expires first : Time}
    (waiting : world.db.rotation.status = .pendingApproval)
    (planExpiresAt : world.db.rotation.planExpiresAt = some expires) (expired : expires < first)
    (actions : List (Action κ)) (times : (first :: callTimes actions).Pairwise (· ≤ ·)) :
    (∀ visit ∈ visits Action.step actions world, ∀ invocation, visit.2 = .advance invocation →
      ∀ step, ¬ visit.1.executes invocation step) ↔
    ∀ step, Ready world.db step →
      (visits Action.step actions world).countP callsUnrejected ≤ step.graceCalls := by
  have late : ∀ time ∈ callTimes actions, expires < time := fun time inside =>
    lt_of_lt_of_le expired ((List.pairwise_cons.mp times).1 time inside)
  constructor
  · intro none step ready
    exact (overdue_unexecuted_iff actions planExpiresAt late ready (.unapproved waiting rfl)).mp none
  · intro few
    by_cases some : ∃ step, Ready world.db step
    · obtain ⟨step, ready⟩ := some
      exact (overdue_unexecuted_iff actions planExpiresAt late ready
        (.unapproved waiting rfl)).mpr (few step ready)
    · exact unready_unexecuted some actions

/-- An engine call on the demo rotation after its plan has expired. -/
def lateCall : Invocation SandboxStore := { sandboxCall none with clock := 101 }

/-- The demo rotation waits with an unflagged provision step. -/
theorem namedPlan_ready :
    ∃ step, Ready (World.proposed namedPlan ([] : SandboxStore)).db step ∧ step.graceCalls = 1 := by
  have reached : (World.proposed namedPlan ([] : SandboxStore)).db.nextStep.map
      (fun step => (step.kind, step.requiresConfirmation)) = some (.provision, false) := by decide
  obtain ⟨step, next, fields⟩ := Option.map_eq_some_iff.mp reached
  obtain ⟨kind, unflagged⟩ := Prod.mk.inj fields
  refine ⟨step, ⟨next, fun revoke => absurd (kind.symm.trans revoke) (by simp)⟩, ?_⟩
  simp [RotationStep.graceCalls, unflagged]

/-- A late approval and one late call leave the demo rotation unexecuted. -/
theorem namedPlan_unexecuted :
    (visits Action.step [.request sandboxApproval 101, .advance lateCall]
        (World.proposed namedPlan [])).countP callsUnrejected = 1 ∧
      Unexecuted [.request sandboxApproval 101, .advance lateCall]
        (World.proposed namedPlan []) := by
  have counted : (visits Action.step [.request sandboxApproval 101, .advance lateCall]
      (World.proposed namedPlan [])).countP callsUnrejected = 1 := by decide
  refine ⟨counted, ?_⟩
  refine (expired_plan_unexecuted_iff (World.proposed namedPlan []) rfl
    (show _ = some 100 from rfl) (show 100 < 101 by decide) _ (by decide)).mpr ?_
  intro step ready
  rw [counted]
  unfold RotationStep.graceCalls
  split <;> decide

/-- Two late approvals give two calls. The first one asks for a new plan, and the second one runs
the expired plan. -/
theorem expired_plan_runs :
    ¬ ∀ (world : World SandboxStore) (expires first : Time),
      world.db.rotation.status = .pendingApproval →
      world.db.rotation.planExpiresAt = some expires → expires < first →
      ∀ actions : List (Action SandboxStore), (first :: callTimes actions).Pairwise (· ≤ ·) →
        ∀ visit ∈ visits Action.step actions world, ∀ invocation,
          visit.2 = .advance invocation → ∀ step, ¬ visit.1.executes invocation step := by
  intro always
  let actions : List (Action SandboxStore) :=
    [.request sandboxApproval 101, .request sandboxApproval 101, .advance lateCall,
      .advance lateCall]
  have none : Unexecuted actions (World.proposed namedPlan []) :=
    always (World.proposed namedPlan []) 100 101 rfl rfl (by decide) actions (by decide)
  obtain ⟨step, ready, grace⟩ := namedPlan_ready
  have few := (overdue_unexecuted_iff actions (show _ = some 100 from rfl) (by decide) ready
    (.unapproved rfl rfl)).mp none
  rw [grace] at few
  exact absurd few (by decide)

end Sprawl
