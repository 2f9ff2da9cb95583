/-
This file proves which step an injected failure hits.
-/

import Sprawl.Proof.CallTrace
import Sprawl.Proof.Delivery
import Sprawl.Proof.Undoing
import Sprawl.Rotation.Chain

namespace Sprawl

open Effect

section Answered

variable {κ : Type}

/-- The reply of a call is one that the connectors give. -/
def ConnectorEvent.AnsweredBy (event : ConnectorEvent) (connectors : Connectors κ) : Prop :=
  ∃ external, event.reply = (connectors.answer event.call external).1

/-- The moments of a connector program are answered by the connectors. -/
theorem trace_answered {α : Type} (connectors : Connectors κ)
    (program : Program ConnectorCall ConnectorCall.Reply α) (external : κ) :
    ∀ event ∈ (program.trace connectors.answer external).map eventOf,
      event.AnsweredBy connectors := by
  induction program generalizing external with
  | pure value => simp [Program.trace]
  | command issued rest ih =>
      rw [Program.trace_command, List.map_cons, List.forall_mem_cons]
      exact ⟨⟨external, rfl⟩, ih _ _⟩

/-- A command adds calls that the connectors have answered. -/
theorem answer_answered (connectors : Connectors κ) (issued : Command) (session : Session Rows κ) :
    ∃ events, (session.answer connectors issued).2.calls = session.calls ++ events ∧
      ∀ event ∈ events, event.AnsweredBy connectors := by
  have none (after : Session Rows κ) (same : after.calls = session.calls) :
      ∃ events, after.calls = session.calls ++ events ∧
        ∀ event ∈ events, event.AnsweredBy connectors :=
    ⟨[], by rw [same, List.append_nil], by simp⟩
  cases issued with
  | executeStep step rotation =>
      rw [Session.answer_executeStep, Session.runConnectors_eq]
      exact ⟨_, rfl, trace_answered connectors _ _⟩
  | compensateStep step rotation =>
      rw [Session.answer_compensateStep, Session.runConnectors_eq]
      exact ⟨_, rfl, trace_answered connectors _ _⟩
  | acquireLock secretId rotationId =>
      apply none
      simp only [Session.answer]
      split <;> rfl
  | releaseLock secretId rotationId =>
      apply none
      simp only [Session.answer]
      split <;> rfl
  | _ => exact none _ rfl

/-- A run adds calls that the connectors have answered. -/
theorem run_answered {α : Type} (connectors : Connectors κ) (program : RotationProgram α)
    (session : Session Rows κ) :
    ∃ events, (program.run (Session.answer connectors) session).2.calls = session.calls ++ events ∧
      ∀ event ∈ events, event.AnsweredBy connectors := by
  induction program generalizing session with
  | pure value => exact ⟨[], (List.append_nil _).symm, by simp⟩
  | command issued rest ih =>
      obtain ⟨events, added, answered⟩ := answer_answered connectors issued session
      obtain ⟨later, more, others⟩ := ih _ (session.answer connectors issued).2
      refine ⟨events ++ later, ?_, List.forall_mem_append.mpr ⟨answered, others⟩⟩
      rw [Program.run_command, more, added, List.append_assoc]

end Answered

section Sandbox

/-- The calls of a step of this kind meet the injected failure. -/
def StepKind.Hits (failing kind : StepKind) : Prop :=
  kind = failing ∨ kind = .provision ∧ failing = .distribute

instance (failing kind : StepKind) : Decidable (failing.Hits kind) :=
  inferInstanceAs (Decidable (_ ∨ _))

/-- The outcome of a step depends on its kind only. A provision step returns a reference. -/
theorem sandbox_outcome (failing : StepKind) (session : Session Rows SandboxStore)
    {step : RotationStep} {rotation : Rotation} (planned : rotation.hasPlan = true)
    (known : step.kind = .provision ∨ rotation.newSecretRef.isSome = true) :
    let outcome := session.outcome (sandboxConnectors (some failing.value)) step rotation
    (outcome.status, outcome.newSecretRef.isSome) =
      if failing.Hits step.kind then (.failed, false)
      else (.done, decide (step.kind = .provision)) := by
  intro outcome
  have ran : outcome = ((executeStep (sandboxConnectors (some failing.value)).toConnectorKeys step
      rotation).run (sandboxConnectors (some failing.value)).answer session.external).1 := rfl
  have ref (other : step.kind ≠ .provision) : ∃ ref, rotation.newSecretRef = some ref :=
    Option.isSome_iff_exists.mp (known.resolve_left other)
  cases kind : step.kind with
  | provision =>
      rw [executeStep_provision_stored _ _ _ kind rfl (by rw [planned]; rfl)] at ran
      rw [ran]
      cases failing <;> rfl
  | distribute =>
      obtain ⟨ref, known⟩ := ref (by rw [kind]; decide)
      rw [executeStep_distribute_stored _ _ _ kind rfl known] at ran
      rw [ran]
      cases failing <;> rfl
  | verify =>
      obtain ⟨ref, known⟩ := ref (by rw [kind]; decide)
      rw [executeStep_verify_stored _ _ _ kind rfl known] at ran
      rw [ran]
      cases failing <;> rfl
  | revoke =>
      rw [executeStep_revoke _ _ _ kind rfl] at ran
      rw [ran]
      cases failing <;> rfl

/-- A compensation fails only where it deletes a key and the failure is injected at revoke. -/
theorem sandbox_compensated {failing : StepKind} {step : RotationStep} {rotation : Rotation}
    {events : List ConnectorEvent} {result : StepResult}
    (outcome : Compensated (sandboxConnectors (some failing.value)).toConnectorKeys step rotation
      events result)
    (answered : ∀ event ∈ events, event.AnsweredBy (sandboxConnectors (some failing.value)))
    (known : rotation.newSecretRef.isSome = true) :
    result.status = .compensated ↔ ¬ (step.deletesNewKey = true ∧ failing = .revoke) := by
  cases outcome with
  | deleted deletes present ref known =>
      obtain ⟨external, reply⟩ := answered _ (List.mem_singleton_self _)
      refine iff_of_true rfl fun given => ?_
      rw [given.2] at reply
      cases reply
  | deleteFailed deletes present ref known text =>
      obtain ⟨external, reply⟩ := answered _ (List.mem_singleton_self _)
      refine iff_of_false (by simp [failedWith]) fun given => given ⟨deletes, ?_⟩
      cases failing with
      | revoke => rfl
      | _ => cases reply
  | quiet keeps =>
      refine iff_of_true rfl fun given => ?_
      obtain keeps | none | absent := keeps
      · rw [given.1] at keeps
        cases keeps
      · rw [none] at known
        cases known
      · cases absent

end Sandbox

section Settled

/-- The relation of the rollback loop lists what each compensation returns. -/
theorem CompensatedAll.settles {keys : ConnectorKeys} {rotation : Rotation} {time : Time}
    {steps : List RotationStep} {rows final : Rows} {events : List ConnectorEvent}
    {failures : List String}
    (all : CompensatedAll keys rotation time steps rows events final failures) :
    ∃ undone : List (RotationStep × StepResult), undone.map (·.1) = steps ∧
      final = settleAll undone time rows ∧
      (failures = [] ↔ ∀ entry ∈ undone, entry.2.status = .compensated) ∧
      ∀ entry ∈ undone, ∃ part, (∀ event ∈ part, event ∈ events) ∧
        Compensated keys entry.1 rotation part entry.2 := by
  induction all with
  | nil => exact ⟨[], rfl, rfl, by simp, by simp⟩
  | @cons step rest rows final events later result failures first others ih =>
      obtain ⟨undone, steps, same, clean, outcomes⟩ := ih
      refine ⟨(step, result) :: undone, congrArg (step :: ·) steps, same, ?_, ?_⟩
      · rw [List.forall_mem_cons, ← clean]
        by_cases compensated : result.status = .compensated
        · rw [if_pos compensated]
          exact (and_iff_right compensated).symm
        · rw [if_neg compensated]
          exact iff_of_false (List.cons_ne_nil _ _) fun given => compensated given.1
      · rw [List.forall_mem_cons]
        refine ⟨⟨events, fun event inside => List.mem_append_left _ inside, first⟩, ?_⟩
        intro entry inside
        obtain ⟨part, among, outcome⟩ := outcomes entry inside
        exact ⟨part, fun event within => List.mem_append_right _ (among event within), outcome⟩

/-- A row that an entry names shows the outcome of this entry. -/
theorem settledRow_of_mem {undone : List (RotationStep × StepResult)} {time : Time}
    {row : RotationStep} {entry : RotationStep × StepResult}
    (distinct : (undone.map (·.1.id)).Nodup) (inside : entry ∈ undone)
    (own : row.id = entry.1.id) :
    settledRow undone time row = (compensationPatch entry.2 time).apply row := by
  induction undone with
  | nil => cases inside
  | cons first rest ih =>
      rw [List.map_cons, List.nodup_cons] at distinct
      obtain rfl | later := List.mem_cons.mp inside
      · exact settledRow_cons_of_eq own
      · have other : row.id ≠ first.1.id := by
          intro same
          apply distinct.1
          rw [← same, own]
          exact List.mem_map_of_mem (f := (·.1.id)) later
        rw [settledRow_cons_of_ne other, ih distinct.2 later]

theorem settledRow_id (undone : List (RotationStep × StepResult)) (time : Time)
    (row : RotationStep) : (settledRow undone time row).id = row.id := by
  unfold settledRow
  split <;> rfl

/-- The settled rows keep their order. -/
theorem settleAll_ordered {undone : List (RotationStep × StepResult)}
    (distinct : (undone.map (·.1.id)).Nodup) (time : Time) (rows : Rows) :
    (settleAll undone time rows).ordered = rows.ordered.map (settledRow undone time) := by
  rw [Rows.ordered, settleAll_steps distinct]
  symm
  apply List.map_insertionSort
  intro first _ second _
  have kept (row : RotationStep) : (settledRow undone time row).idx = row.idx := by
    unfold settledRow
    split <;> rfl
  simp only [byIdx, kept]

end Settled

section Lists

/-- A patch of one row leaves the rows before and after it alone. -/
theorem updateSteps_split {before after : List RotationStep} {step : RotationStep}
    (distinct : ((before ++ step :: after).map (·.id)).Nodup) (patch : StepPatch) :
    updateSteps (fun other => other.id = step.id) patch (before ++ step :: after) =
      before ++ patch.apply step :: after := by
  rw [List.map_append, List.map_cons, List.nodup_middle, List.nodup_cons] at distinct
  have others {steps : List RotationStep}
      (absent : step.id ∉ steps.map (·.id)) :
      updateSteps (fun other => other.id = step.id) patch steps = steps := by
    refine (List.map_congr_left fun other inside => ?_).trans (List.map_id steps)
    apply if_neg
    rw [decide_eq_true_eq]
    intro same
    exact absent (same ▸ List.mem_map_of_mem (f := (·.id)) inside)
  rw [List.mem_append, not_or] at distinct
  calc updateSteps (fun other => other.id = step.id) patch (before ++ step :: after)
      = updateSteps (fun other => other.id = step.id) patch before ++
          (if decide (step.id = step.id) = true then patch.apply step else step) ::
            updateSteps (fun other => other.id = step.id) patch after := by
        simp only [updateSteps, List.map_append, List.map_cons]
    _ = before ++ patch.apply step :: after := by
        rw [others distinct.1.1, others distinct.1.2, if_pos (decide_eq_true rfl)]

namespace Rows

variable {rows : Rows} {finished after : List RotationStep} {next : RotationStep}

/-- The rows that the engine loads are sorted already. -/
theorem ordered_sorted : rows.ordered.insertionSort byIdx = rows.ordered :=
  (List.pairwise_insertionSort byIdx rows.steps).insertionSort_eq

theorem ordered_nodup (rows : Rows) : (rows.ordered.map (·.id)).Nodup :=
  ((List.perm_insertionSort byIdx rows.steps).map RotationStep.id).nodup_iff.mpr rows.idUnique

/-- The first row that is not done is the next one. -/
theorem nextStep_of_split (split : rows.ordered = finished ++ next :: after)
    (done : ∀ step ∈ finished, step.status = .done) (pending : next.status = .pending) :
    rows.nextStep = some next := by
  have passed : finished.find? (fun step => step.status = .pending) = none := by
    rw [List.find?_eq_none]
    intro step inside
    rw [done step inside]
    decide
  rw [nextStep, findNextStep, ordered_sorted, split, List.find?_append, passed, Option.none_or]
  exact List.find?_cons_of_pos (decide_eq_true pending)

/-- The done rows are compensated from the last one on. -/
theorem stepsToCompensate_of_split {rest : List RotationStep}
    (split : rows.ordered = finished ++ rest) (done : ∀ step ∈ finished, step.status = .done)
    (pending : ∀ step ∈ rest, step.status = .pending) :
    stepsToCompensate rows.ordered = finished.reverse := by
  have kept : finished.filter (fun step => step.status = .done) = finished := by
    rw [List.filter_eq_self]
    exact fun step inside => decide_eq_true (done step inside)
  have dropped : rest.filter (fun step => step.status = .done) = [] := by
    rw [List.filter_eq_nil_iff]
    intro step inside
    rw [pending step inside]
    decide
  have sorted : finished.Pairwise byIdx := by
    have all : rows.ordered.Pairwise byIdx := List.pairwise_insertionSort byIdx rows.steps
    rw [split] at all
    exact (List.pairwise_append.mp all).1
  rw [stepsToCompensate, split, List.filter_append, kept, dropped, List.append_nil,
    sorted.insertionSort_eq]

end Rows

end Lists

section Rotations

theorem Rows.started_hasPlan (rows : Rows) (actor : String) (step : RotationStep) (time : Time) :
    (rows.started actor step time).rotation.hasPlan = rows.rotation.hasPlan := by
  unfold Rows.started
  split <;> rfl

/-- What a finished step writes to its row. -/
def donePatch (time : Time) : StepPatch where
  status := some .done
  executedAt := some time

/-- What a failed step writes to its row. -/
def failedPatch (error : Option String) (time : Time) : StepPatch where
  status := some .failed
  executedAt := some time
  error := some error

/-- The status of a done row after a rollback. -/
def RotationStep.undoneStatus (step : RotationStep) (failing : StepKind) : StepStatus :=
  if step.deletesNewKey = true ∧ failing = .revoke then .failed else .compensated

/-- The done rows with the result of each compensation, the last row first. -/
structure UndoneAll (failing : StepKind) (finished : List RotationStep)
    (undone : List (RotationStep × StepResult)) : Prop where
  steps : undone.map (·.1) = finished.reverse
  results : ∀ entry ∈ undone, entry.2.settledStatus = entry.1.undoneStatus failing

namespace UndoneAll

variable {failing : StepKind} {finished : List RotationStep}
  {undone : List (RotationStep × StepResult)} (all : UndoneAll failing finished undone)

include all

theorem mem_finished {entry : RotationStep × StepResult} (inside : entry ∈ undone) :
    entry.1 ∈ finished := by
  rw [← List.mem_reverse, ← all.steps]
  exact List.mem_map_of_mem inside

theorem exists_entry {row : RotationStep} (inside : row ∈ finished) :
    ∃ entry ∈ undone, entry.1 = row := by
  rw [← List.mem_reverse, ← all.steps] at inside
  exact List.mem_map.mp inside

theorem ids_nodup (distinct : (finished.map (·.id)).Nodup) : (undone.map (·.1.id)).Nodup := by
  have listed : undone.map (·.1.id) = (finished.map (·.id)).reverse := by
    rw [← List.map_reverse, ← all.steps, List.map_map]
    rfl
  rw [listed, List.nodup_reverse]
  exact distinct

theorem settledRow_finished (distinct : (finished.map (·.id)).Nodup) (time : Time)
    {row : RotationStep} (inside : row ∈ finished) :
    (settledRow undone time row).status = row.undoneStatus failing := by
  obtain ⟨entry, among, rfl⟩ := all.exists_entry inside
  rw [settledRow_of_mem (all.ids_nodup distinct) among rfl, ← all.results entry among]
  rfl

theorem settledRow_other (time : Time) {row : RotationStep} (apart : row.id ∉ finished.map (·.id)) :
    settledRow undone time row = row := by
  apply settledRow_of_notMem
  intro within
  obtain ⟨entry, among, named⟩ := List.mem_map.mp within
  exact apart (named ▸ List.mem_map_of_mem (all.mem_finished among))

theorem compensated_iff : (∀ entry ∈ undone, entry.2.status = .compensated) ↔
    ∀ row ∈ finished, row.undoneStatus failing = .compensated := by
  constructor
  · intro every row inside
    obtain ⟨entry, among, rfl⟩ := all.exists_entry inside
    rw [← all.results entry among]
    exact if_pos (every entry among)
  · intro every entry among
    have compensated := every entry.1 (all.mem_finished among)
    rw [← all.results entry among, StepResult.settledStatus] at compensated
    by_contra failed
    rw [if_neg failed] at compensated
    cases compensated

end UndoneAll

/-- The rows of a rotation some of whose steps are done and the others pending. -/
structure Rows.At (rows : Rows) (finished rest : List RotationStep) : Prop where
  split : rows.ordered = finished ++ rest
  done : ∀ step ∈ finished, step.status = .done
  pending : ∀ step ∈ rest, step.status = .pending
  planned : rows.rotation.hasPlan = true
  known : finished = [] ∨ rows.rotation.newSecretRef.isSome = true

namespace Rows.At

variable {rows : Rows} {finished after : List RotationStep} {next : RotationStep}
  (reached : rows.At finished (next :: after))

include reached

theorem nextStep : rows.nextStep = some next :=
  nextStep_of_split reached.split reached.done (reached.pending next List.mem_cons_self)

theorem distinct : ((finished ++ next :: after).map (·.id)).Nodup :=
  reached.split ▸ rows.ordered_nodup

/-- The next step runs unless it waits for its confirmation. -/
theorem executes {time : Time} (live : Live rows time)
    (passed : next.requiresConfirmation = true → rows.rotation.status = .awaitingConfirmation)
    (verified : next.kind = .revoke → ∀ other ∈ after, other.kind ≠ .verify) :
    Executes rows time next where
  live := live
  next := reached.nextStep
  passed := passed
  verified := by
    intro revoke
    rw [rows.answer_incompleteVerify_eq_zero]
    intro step inside kind
    rw [← rows.mem_ordered, reached.split, List.mem_append, List.mem_cons] at inside
    obtain earlier | rfl | later := inside
    · exact reached.done step earlier
    · rw [kind] at revoke
      cases revoke
    · exact absurd kind (verified revoke step later)

/-- A later step is left after the next one. -/
theorem remaining (more : after ≠ []) : (remainingSteps rows.ordered next).isEmpty = false := by
  obtain ⟨other, rest, rfl⟩ := List.exists_cons_of_ne_nil more
  have above : next.idx < other.idx := by
    have increasing := rows.ordered_pairwise
    rw [reached.split] at increasing
    exact (List.pairwise_cons.mp (List.pairwise_append.mp increasing).2.1).1 other
      List.mem_cons_self
  have inside : other ∈ remainingSteps rows.ordered next := by
    rw [remainingSteps, List.mem_filter, reached.split]
    refine ⟨by simp, ?_⟩
    rw [decide_eq_true above, reached.pending other (by simp)]
    rfl
  rw [List.isEmpty_eq_false_iff]
  exact List.ne_nil_of_mem inside

/-- The rows after the next step has been finished. -/
theorem finish (actor : String) (time : Time) {ref : Option NewSecretRef} (more : after ≠ [])
    (known : finished = [] → ref.isSome = true) :
    let later := (rows.started actor next time).afterFinish actor rows.ordered next ref time
    later.At (finished ++ [(donePatch time).apply next]) after ∧
      later.rotation.status = next.kind.toStatus := by
  intro later
  have same : later = (rows.started actor next time).finished actor next ref time :=
    if_neg (by rw [reached.remaining more]; exact Bool.false_ne_true)
  have split : later.ordered = finished ++ [(donePatch time).apply next] ++ after := by
    rw [same, Rows.ordered, Rows.finished_steps, updateSteps_insertionSort, Rows.started_steps]
    change updateSteps _ _ rows.ordered = _
    rw [reached.split, updateSteps_split reached.distinct, List.append_assoc]
    rfl
  refine ⟨⟨split, ?_, ?_, ?_, ?_⟩, ?_⟩
  · intro step inside
    obtain earlier | own := List.mem_append.mp inside
    · exact reached.done step earlier
    · rw [List.mem_singleton.mp own]
      rfl
  · exact fun step inside => reached.pending step (List.mem_cons_of_mem next inside)
  · rw [same, ← reached.planned, ← rows.started_hasPlan actor next time]
    cases ref <;> rfl
  · right
    cases ref with
    | some ref =>
        rw [same]
        rfl
    | none =>
        have earlier : finished ≠ [] := fun none => absurd (known none) Bool.false_ne_true
        have saved := reached.known.resolve_left earlier
        rw [← rows.started_newSecretRef actor next time] at saved
        rw [same]
        exact saved
  · rw [same, Rows.finished_status, Rows.started_status]

/-- The rows right after the next step has failed. -/
theorem failed_ordered (actor : String) (error : Option String) (time : Time) :
    ((rows.started actor next time).failed actor next error time).ordered =
      finished ++ (failedPatch error time).apply next :: after := by
  rw [Rows.ordered, Rows.failed_steps, updateSteps_insertionSort, Rows.started_steps]
  change updateSteps _ _ rows.ordered = _
  rw [reached.split, updateSteps_split reached.distinct]
  rfl

/-- The rows after the next step has failed and the done steps are compensated. -/
theorem rollsBack {failing : StepKind} {actor : String} {error : Option String} {time : Time}
    {events : List ConnectorEvent} {final : Rows}
    (ended : RolledBack (sandboxConnectors (some failing.value)) actor
      (rows.started actor next time) rows.rotation rows.ordered next error time events final)
    (answered : ∀ event ∈ events, event.AnsweredBy (sandboxConnectors (some failing.value))) :
    final.ordered.map (fun row => (row.id, row.status)) =
        finished.map (fun row => (row.id, row.undoneStatus failing)) ++
          (next.id, .failed) :: after.map (fun row => (row.id, row.status)) ∧
      final.rotation.status =
        if ∀ row ∈ finished, row.undoneStatus failing = .compensated then .rolledBack
        else .rollbackFailed := by
  obtain ⟨compensated, failures, all, same⟩ := ended.passes
  obtain ⟨undone, todo, rfl, clean, outcomes⟩ := all.settles
  rw [stepsToCompensate_of_split reached.split reached.done reached.pending] at todo
  have undoneAll : UndoneAll failing finished undone := by
    refine ⟨todo, fun entry inside => ?_⟩
    obtain ⟨part, among, outcome⟩ := outcomes entry inside
    have some : finished ≠ [] := by
      rintro rfl
      rw [List.map_eq_nil_iff.mp todo] at inside
      cases inside
    have compensates := sandbox_compensated outcome
      (fun event within => answered event (among event within))
      (reached.known.resolve_left some)
    rw [StepResult.settledStatus, RotationStep.undoneStatus]
    simp only [compensates, ite_not]
  have distinct : ((finished ++ next :: after).map (·.id)).Nodup := reached.distinct
  rw [List.map_append, List.nodup_append] at distinct
  have settled : final.ordered = ((finished ++ (failedPatch error time).apply next :: after).map
      (settledRow undone time)) := by
    rw [← reached.failed_ordered actor error time]
    exact (congrArg Rows.ordered same).trans
      (settleAll_ordered (undoneAll.ids_nodup distinct.1) time _)
  have others : ∀ row ∈ next :: after, row.id ∉ finished.map (·.id) :=
    fun row inside within =>
      distinct.2.2 _ within _ (List.mem_map_of_mem (f := RotationStep.id) inside) rfl
  constructor
  · have failedRow : settledRow undone time ((failedPatch error time).apply next) =
        (failedPatch error time).apply next :=
      undoneAll.settledRow_other time (others next List.mem_cons_self)
    rw [settled, List.map_map, List.map_append, List.map_cons, Function.comp_apply, failedRow]
    congr 1
    · apply List.map_congr_left
      intro row inside
      rw [Function.comp_apply, undoneAll.settledRow_finished distinct.1 time inside, settledRow_id]
    · congr 1
      apply List.map_congr_left
      intro row inside
      rw [Function.comp_apply,
        undoneAll.settledRow_other time (others row (List.mem_cons_of_mem next inside))]
  · have status : final.rotation.status = rollbackStatus failures := by
      rw [same]
      rfl
    rw [status, rollbackStatus]
    simp only [List.isEmpty_iff, clean, undoneAll.compensated_iff]

end Rows.At

end Rotations

end Sprawl
