/-
This file proves that the rotation system refines a saga.
-/

import Sprawl.Effect.Saga
import Sprawl.Proof.Injection
import Sprawl.Proof.Once
import Sprawl.Proof.StepOrder

namespace Sprawl

open Effect

variable {κ : Type}

/-- An executed step has run, and a compensated one is undone. -/
def sagaEvent : Moment Command Command.Reply (Session Rows κ) → Option (SagaEvent Uuid)
  | ⟨_, .executeStep step _, reply⟩ => some (.ran step.id (reply.status = .done))
  | ⟨_, .compensateStep step _, _⟩ => some (.undid step.id)
  | _ => none

def sagaEvents (moments : List (Moment Command Command.Reply (Session Rows κ))) :
    List (SagaEvent Uuid) :=
  moments.filterMap sagaEvent

/-- A step with its place in the order and its status. -/
def RotationStep.place (step : RotationStep) : Uuid × Int × StepStatus :=
  (step.id, step.idx, step.status)

/-- The steps of a status in the order of their indexes. -/
def Rows.idsOf (rows : Rows) (status : StepStatus) : List Uuid :=
  ((rows.ordered.map (·.place)).filter (·.2.2 = status)).map (·.1)

/-- The rows show where the saga of the rotation stands. -/
def Rows.saga (rows : Rows) : Saga Uuid :=
  if rows.idsOf .failed = [] ∧ rows.idsOf .compensated = [] then
    .going (rows.idsOf .done).reverse (rows.idsOf .pending)
  else .undoing (rows.idsOf .done).reverse

section Events

variable {moments later : List (Moment Command Command.Reply (Session Rows κ))}

theorem sagaEvents_append : sagaEvents (moments ++ later) = sagaEvents moments ++ sagaEvents later :=
  List.filterMap_append

theorem sagaEvents_internal (internal : ∀ moment ∈ moments, moment.issued.isInternal = true) :
    sagaEvents moments = [] := by
  apply List.filterMap_eq_nil_iff.mpr
  intro moment inside
  have quiet := internal moment inside
  obtain ⟨state, issued, reply⟩ := moment
  cases issued <;> first | rfl | cases quiet

/-- Moments that execute nothing undo the steps that they compensate. -/
theorem sagaEvents_unexecuted (unexecuted : executedIds moments = []) :
    sagaEvents moments = (compensatedIds moments).map .undid := by
  induction moments with
  | nil => rfl
  | cons moment rest ih =>
      obtain ⟨state, issued, reply⟩ := moment
      cases issued with
      | executeStep step rotation => cases unexecuted
      | compensateStep step rotation => exact congrArg (SagaEvent.undid step.id :: ·) (ih unexecuted)
      | _ => exact ih unexecuted

end Events

namespace Rows

variable {rows after : Rows} {done opened : List RotationStep}

/-- Rows with the same places have the same saga. -/
theorem saga_keeps (keeps : Keeps RotationStep.place rows after) : after.saga = rows.saga := by
  let byPlace (first second : Uuid × Int × StepStatus) : Prop := first.2.1 ≤ second.2.1
  let _ : DecidableRel byPlace := fun first second =>
    inferInstanceAs (Decidable (first.2.1 ≤ second.2.1))
  have sorted (rows : Rows) :
      rows.ordered.map (·.place) = (rows.steps.map (·.place)).insertionSort byPlace :=
    List.map_insertionSort byIdx byPlace _ rows.steps fun _ _ _ _ => Iff.rfl
  have places : after.ordered.map (·.place) = rows.ordered.map (·.place) := by
    rw [sorted, sorted, keeps.steps]
  have ids (status : StepStatus) : after.idsOf status = rows.idsOf status := by
    rw [idsOf, idsOf, places]
  simp only [saga, ids]

theorem place_confirmless : Confirmless RotationStep.place := fun _ _ => rfl

theorem idsOf_eq (status : StepStatus) :
    rows.idsOf status = (rows.ordered.filter (·.status = status)).map (·.id) := by
  rw [idsOf, List.filter_map, List.map_map]
  rfl

theorem idsOf_split (split : rows.ordered = done ++ opened) (status : StepStatus) :
    rows.idsOf status =
      (done.filter (·.status = status)).map (·.id) ++ (opened.filter (·.status = status)).map (·.id) := by
  rw [idsOf_eq, split, List.filter_append, List.map_append]

/-- A rotation with done steps before pending ones goes forward. -/
theorem saga_going (split : rows.ordered = done ++ opened)
    (ended : ∀ step ∈ done, step.status = .done) (waits : ∀ step ∈ opened, step.status = .pending) :
    rows.saga = .going (done.map (·.id)).reverse (opened.map (·.id)) := by
  have all {steps : List RotationStep} {status : StepStatus}
      (same : ∀ step ∈ steps, step.status = status) :
      steps.filter (·.status = status) = steps := by
    rw [List.filter_eq_self]
    exact fun step inside => decide_eq_true (same step inside)
  have none {steps : List RotationStep} {status other : StepStatus}
      (same : ∀ step ∈ steps, step.status = status) (different : status ≠ other) :
      steps.filter (·.status = other) = [] := by
    rw [List.filter_eq_nil_iff]
    intro step inside
    rw [same step inside, decide_eq_true_eq]
    exact different
  have failed : rows.idsOf .failed = [] := by
    rw [idsOf_split split, none ended (by decide), none waits (by decide)]
    rfl
  have compensated : rows.idsOf .compensated = [] := by
    rw [idsOf_split split, none ended (by decide), none waits (by decide)]
    rfl
  have finished : rows.idsOf .done = done.map (·.id) := by
    rw [idsOf_split split, all ended, none waits (by decide), List.map_nil, List.append_nil]
  have pending : rows.idsOf .pending = opened.map (·.id) := by
    rw [idsOf_split split, none ended (by decide), all waits, List.map_nil, List.nil_append]
  rw [saga, if_pos ⟨failed, compensated⟩, finished, pending]

/-- A rotation with a failed or a compensated step, and without a done one, is undone. -/
theorem saga_undone {step : RotationStep} (inside : step ∈ rows.steps)
    (ended : step.status = .failed ∨ step.status = .compensated)
    (undone : ∀ step ∈ rows.steps, step.status ≠ .done) : rows.saga = .undoing [] := by
  have finished : rows.idsOf .done = [] := by
    rw [idsOf_eq, List.map_eq_nil_iff, List.filter_eq_nil_iff]
    intro other within
    rw [decide_eq_true_eq]
    exact undone other (rows.mem_ordered.mp within)
  have present {status : StepStatus} (same : step.status = status) : rows.idsOf status ≠ [] := by
    rw [idsOf_eq, Ne, List.map_eq_nil_iff, List.filter_eq_nil_iff]
    exact fun none => none step (rows.mem_ordered.mpr inside) (decide_eq_true same)
  have backward : ¬ (rows.idsOf .failed = [] ∧ rows.idsOf .compensated = []) := by
    intro given
    obtain failed | compensated := ended
    · exact present failed given.1
    · exact present compensated given.2
  rw [saga, if_neg backward, finished, List.reverse_nil]

end Rows

/-- The loaded steps of a live rotation are done ones before pending ones. -/
theorem InOrder.split {rows : Rows} (inOrder : InOrder rows)
    (active : rows.rotation.status.isTerminal = false) : ∃ done opened,
      rows.ordered = done ++ opened ∧ (∀ step ∈ done, step.status = .done) ∧
        ∀ step ∈ opened, step.status = .pending := by
  have frontier := inOrder.frontier active
  have loaded : Frontier RotationStep.idx RotationStep.isDone RotationStep.isPending rows.ordered :=
    { covered := fun step inside => frontier.covered step (rows.mem_ordered.mp inside)
      closed := fun first inside second within =>
        frontier.closed first (rows.mem_ordered.mp inside) second (rows.mem_ordered.mp within) }
  refine loaded.blocks ?_ rows.ordered_pairwise
  intro step waits ended
  rw [RotationStep.isPending] at waits
  rw [RotationStep.isDone, waits] at ended
  cases ended

/-- The next step of a live rotation is the first pending one. -/
theorem InOrder.next {rows : Rows} {time : Time} {step : RotationStep} (inOrder : InOrder rows)
    (executes : Executes rows time step) : ∃ done opened, rows.ordered = done ++ step :: opened ∧
      (∀ step ∈ done, step.status = .done) ∧ (∀ other ∈ step :: opened, other.status = .pending) := by
  obtain ⟨done, opened, split, ended, waits⟩ := inOrder.split executes.live.active
  obtain ⟨inside, pending, _⟩ := Rows.nextStep_eq_some executes.next
  cases opened with
  | nil =>
      have among : step ∈ done := by
        rw [← List.append_nil done, ← split]
        exact rows.mem_ordered.mpr inside
      cases pending.symm.trans (ended step among)
  | cons first rest =>
      have chosen := Rows.nextStep_of_split split ended (waits first List.mem_cons_self)
      obtain rfl := Option.some.inj (chosen.symm.trans executes.next)
      exact ⟨done, rest, split, ended, waits⟩

section Calls

variable {connectors : Connectors κ} {session final : Session Rows κ} {actor : String}
  {moments : List (Moment Command Command.Reply (Session Rows κ))} {result : EngineResult}
  {step : RotationStep}

/-- The events of a running step. -/
theorem StepTrace.saga (trace : StepTrace connectors session step moments result) :
    let status := (session.outcome connectors step session.db.rotation).status
    sagaEvents moments = .ran step.id (status = .done) ::
      (if status = .done then [] else (stepsToCompensate session.db.ordered).map (·.id)).map
        .undid := by
  intro status
  obtain ⟨before, state, after, rfl, internal, executed, compensated⟩ := trace.execution
  rw [sagaEvents_append, sagaEvents_internal internal, List.nil_append, ← compensated,
    ← sagaEvents_unexecuted executed]
  rfl

/-- A finished step moves the saga one step forward. -/
theorem saga_finished (inOrder : InOrder session.db)
    (executes : Executes session.db session.clock step) (ref : Option NewSecretRef) :
    let after := (session.db.started actor step session.clock).afterFinish actor
      session.db.ordered step ref session.clock
    session.db.saga.next (.ran step.id true) = some after.saga ∧ after.saga.Rested := by
  obtain ⟨done, opened, split, ended, waits⟩ := inOrder.next executes
  have before := Rows.saga_going split ended waits
  have distinct := session.db.ordered_nodup
  rw [split] at distinct
  let patched := StepPatch.apply { status := some .done, executedAt := some session.clock } step
  have loaded : ((session.db.started actor step session.clock).afterFinish actor session.db.ordered
      step ref session.clock).ordered = (done ++ [patched]) ++ opened := by
    rw [Rows.ordered, Rows.afterFinish_steps, Rows.started_steps, updateSteps_insertionSort]
    change updateSteps _ _ session.db.ordered = _
    rw [split, updateSteps_split distinct, List.append_assoc]
    rfl
  have after := Rows.saga_going loaded
    (List.forall_mem_append.mpr ⟨ended, List.forall_mem_singleton.mpr rfl⟩)
    (fun other inside => waits other (List.mem_cons_of_mem _ inside))
  intro rows
  rw [before, after, List.map_cons, Saga.next, if_pos rfl, if_pos rfl]
  refine ⟨?_, Saga.rested_going _ _⟩
  simp [patched]

/-- After a failed step the saga is undone to its beginning. -/
theorem saga_rolledBack (inOrder : InOrder session.db)
    (executes : Executes session.db session.clock step) {error : Option String}
    {later : List ConnectorEvent} {rows : Rows}
    (undone : RolledBack connectors actor (session.db.started actor step session.clock)
      session.db.rotation session.db.ordered step error session.clock later rows)
    (keeps : Keeps RotationStep.identity session.db rows) :
    Saga.follow (.ran step.id false ::
      ((stepsToCompensate session.db.ordered).map (·.id)).map .undid) session.db.saga =
        some rows.saga ∧ rows.saga.Rested := by
  obtain ⟨done, opened, split, ended, waits⟩ := inOrder.next executes
  have before := Rows.saga_going split ended waits
  have steps := Rows.started_steps session.db actor step session.clock
  obtain ⟨inside, _, _⟩ := Rows.nextStep_eq_some executes.next
  obtain ⟨failed, within, same⟩ := keeps.exists_after inside
  have status : failed.status = .failed ∨ failed.status = .compensated := by
    obtain status | status | ⟨different, _⟩ := undone.standing steps failed within
    · exact Or.inl status
    · exact Or.inr status
    · exact absurd (congrArg StepIdentity.id same) different
  have after := Rows.saga_undone within status fun other present =>
    (undone.unfinished steps other present).1
  rw [before, after, List.map_cons, Saga.follow, Saga.next, if_pos rfl,
    Rows.stepsToCompensate_of_split split ended waits, List.map_reverse]
  exact ⟨Saga.follow_undid _, rfl⟩

/-- A call of the engine follows the saga until it rests. -/
theorem EngineEnd.saga (inOrder : InOrder session.db) (rested : session.db.saga.Rested)
    (ends : EngineEnd connectors actor session final)
    (trace : CallTrace connectors session moments result) :
    Saga.follow (sagaEvents moments) session.db.saga = some final.db.saga ∧
      final.db.saga.Rested := by
  cases trace with
  | quiet none internal stops =>
      rw [sagaEvents_internal internal, Saga.follow]
      cases ends with
      | idle idles ends =>
          rw [ends.db]
          exact ⟨rfl, rested⟩
      | settled after settles ends =>
          rw [ends.db, Rows.saga_keeps settles.keeps]
          exact ⟨rfl, rested⟩
      | ran step executes ends => exact absurd executes (none step)
  | ran step executes trace =>
      have keeps := ends.keeps identity_engineless
      rw [trace.saga]
      cases ends with
      | idle idles ends => exact absurd idles executes.not_idles
      | settled after settles ends => exact absurd settles executes.not_settles
      | ran other runs ends =>
          obtain rfl : step = other := Option.some.inj (executes.next.symm.trans runs.next)
          cases ends with
          | finished done ends =>
              obtain ⟨next, rests⟩ := saga_finished inOrder executes
                (session.outcome connectors step session.db.rotation).newSecretRef
              rw [decide_eq_true done, if_pos done, ends.db, List.map_nil, Saga.follow, next]
              exact ⟨rfl, rests⟩
          | rolledBack failed later rows undone ends =>
              rw [decide_eq_false failed, if_neg failed, ends.db]
              rw [ends.db] at keeps
              exact saga_rolledBack inOrder executes undone keeps

end Calls

namespace AnyJobAction

/-- An action follows the saga until it rests, and keeps the order of the steps. -/
theorem saga {world : World κ} (free : world.session.locks = []) (inOrder : InOrder world.db)
    (rested : world.db.saga.Rested) (action : AnyJobAction κ) :
    (Saga.follow (sagaEvents (action.moments world)) world.db.saga =
        some (action.step world).db.saga ∧ (action.step world).db.saga.Rested) ∧
      InOrder (action.step world).db ∧ (action.step world).session.locks = [] := by
  cases action with
  | request request clock =>
      obtain ⟨reply, final, handled, same⟩ := world.handle_end request clock
      have internal := Program.issues_trace (Session.answer Connectors.none) request.internal
        (world.session.opened clock)
      have keeps := handled.keeps Rows.place_confirmless
      have opened : InOrder (world.session.opened clock).db := inOrder
      have kept := opened.handled handled
      have locks : final.locks = [] := by cases handled <;> exact free
      rw [AnyJobAction.step, same, AnyJobAction.moments, sagaEvents_internal internal]
      have same : final.closed.db.saga = world.db.saga := Rows.saga_keeps keeps
      rw [same]
      exact ⟨⟨rfl, rested⟩, kept, locks⟩
  | run job invocation =>
      obtain ⟨ran, locks⟩ := runRotationStep_ran invocation.connectors
        (world.session.opened_pending invocation.clock) free job
      have opened : InOrder (world.session.opened invocation.clock).db := inOrder
      have closed : (AnyJobAction.step (.run job invocation) world).db =
          ((runRotationStep job).run (Session.answer invocation.connectors)
            (world.session.opened invocation.clock)).2.db := rfl
      rw [closed, AnyJobAction.moments, World.moments]
      cases ran with
      | skipped internal stops rows =>
          rw [rows, sagaEvents_internal internal]
          exact ⟨⟨rfl, rested⟩, opened, locks⟩
      | called ended ends trace rows =>
          let session := (world.session.opened invocation.clock).locked job.secretId job.rotationId
          have locked : InOrder session.db := inOrder
          have resting : session.db.saga.Rested := rested
          have follows := ends.saga locked resting trace
          rw [rows]
          exact ⟨follows, locked.engineEnd ends, locks⟩

/-- A run follows the saga. -/
theorem run_saga (actions : List (AnyJobAction κ)) {world : World κ}
    (free : world.session.locks = []) (inOrder : InOrder world.db)
    (rested : world.db.saga.Rested) :
    Saga.follow (sagaEvents (log actions world)) world.db.saga =
        some (runActions AnyJobAction.step actions world).db.saga ∧
      (runActions AnyJobAction.step actions world).db.saga.Rested := by
  induction actions generalizing world with
  | nil => exact ⟨rfl, rested⟩
  | cons action rest ih =>
      obtain ⟨⟨follows, rests⟩, kept, locks⟩ := saga free inOrder rested action
      have split : log (action :: rest) world = action.moments world ++ log rest (action.step world) :=
        rfl
      rw [split, sagaEvents_append, Saga.follow_append, follows, runActions_cons]
      exact ih locks kept rests

end AnyJobAction

/-- The steps of a proposal in the order of their indexes. -/
def Proposal.order (proposal : Proposal) : List Uuid := proposal.rows.ordered.map (·.id)

theorem Proposal.saga (proposal : Proposal) : proposal.rows.saga = .going [] proposal.order := by
  refine Rows.saga_going (List.nil_append _).symm (List.forall_mem_nil _) ?_
  intro step inside
  obtain ⟨spec, _, rfl⟩ := List.mem_map.mp (proposal.rows.mem_ordered.mp inside)
  rfl

/-- The rotation system refines a saga whose state the rows show. In every run of requests and jobs
the steps are executed in order and succeed, or the first one that fails is followed by the
compensation of all earlier ones from the last to the first, and by nothing more. -/
theorem rotation_refines_saga (proposal : Proposal) (external : κ)
    (actions : List (AnyJobAction κ)) :
    let world := World.proposed proposal external
    let events := sagaEvents (AnyJobAction.log actions world)
    Saga.follow events (.going [] proposal.order) =
        some (runActions AnyJobAction.step actions world).db.saga ∧
    ((∃ ended waiting, proposal.order = ended ++ waiting ∧ events = ended.map (.ran · true)) ∨
      ∃ ended failed waiting, proposal.order = ended ++ failed :: waiting ∧
        events = ended.map (.ran · true) ++ .ran failed false :: ended.reverse.map .undid) := by
  intro world events
  have start : world.db.saga = .going [] proposal.order := proposal.saga
  have rested : world.db.saga.Rested := start ▸ Saga.rested_going _ _
  obtain ⟨follows, rests⟩ := AnyJobAction.run_saga actions (show world.session.locks = [] from rfl)
    proposal.inOrder rested
  rw [start] at follows
  exact ⟨follows, Saga.follow_rested follows rests⟩

end Sprawl
