/-
This file proves what the engine reads about the order of the steps.
-/

import Sprawl.Rotation.Engine
import Sprawl.Effect.Frontier

namespace Sprawl

instance : IsTrans RotationStep byIdx := ⟨fun _ _ _ first second => Int.le_trans first second⟩

instance : Std.Total byIdx := ⟨fun first second => Int.le_total first.idx second.idx⟩

/-- A patch keeps the position of a step. -/
theorem updateSteps_insertionSort (selected : RotationStep → Bool) (patch : StepPatch)
    (steps : List RotationStep) :
    (updateSteps selected patch steps).insertionSort byIdx =
      updateSteps selected patch (steps.insertionSort byIdx) := by
  symm
  apply List.map_insertionSort
  intro first _ second _
  have kept (step : RotationStep) :
      (if selected step then patch.apply step else step).idx = step.idx := by
    split <;> rfl
  simp only [byIdx, kept]

/-- The engine finds the pending step of the lowest index. -/
theorem findNextStep_eq_some {steps : List RotationStep} {step : RotationStep}
    (found : findNextStep steps = some step) :
    step ∈ steps ∧ step.status = .pending ∧
      ∀ other ∈ steps, other.status = .pending → step.idx ≤ other.idx := by
  obtain ⟨pending, before, after, split, passed⟩ := List.find?_eq_some_iff_append.mp found
  have present : step ∈ steps.insertionSort byIdx := by simp [split]
  refine ⟨(List.mem_insertionSort byIdx).mp present, of_decide_eq_true pending, ?_⟩
  intro other inside waits
  have sorted := List.pairwise_insertionSort byIdx steps
  rw [split] at sorted
  have within : other ∈ steps.insertionSort byIdx := (List.mem_insertionSort byIdx).mpr inside
  rw [split, List.mem_append, List.mem_cons] at within
  rcases within with earlier | rfl | later
  · have skipped := passed other earlier
    simp [waits] at skipped
  · exact Int.le_refl _
  · exact (List.pairwise_cons.mp (List.pairwise_append.mp sorted).2.1).1 other later

namespace Rows

variable (rows : Rows)

@[simp] theorem mem_ordered {step : RotationStep} : step ∈ rows.ordered ↔ step ∈ rows.steps :=
  List.mem_insertionSort byIdx

/-- The loaded steps have increasing indexes. -/
theorem ordered_pairwise : rows.ordered.Pairwise fun first second => first.idx < second.idx := by
  have sorted := List.pairwise_insertionSort byIdx rows.steps
  have distinct : rows.ordered.Pairwise fun first second => first.idx ≠ second.idx := by
    have unique : (rows.ordered.map (·.idx)).Nodup :=
      ((List.perm_insertionSort byIdx rows.steps).map _).nodup_iff.mpr rows.idxUnique
    exact List.pairwise_map.mp unique
  exact (sorted.and distinct).imp fun holds => lt_of_le_of_ne holds.1 holds.2

@[simp] theorem ordered_patchSteps (selected : RotationStep → Bool) (patch : StepPatch) :
    (rows.patchSteps selected patch).ordered = updateSteps selected patch rows.ordered :=
  updateSteps_insertionSort selected patch rows.steps

/-- A step is determined by its identifier. -/
theorem eq_of_id {first second : RotationStep} (inside : first ∈ rows.steps)
    (within : second ∈ rows.steps) (same : first.id = second.id) : first = second :=
  List.inj_on_of_nodup_map rows.idUnique inside within same

/-- A step is determined by its index. -/
theorem eq_of_idx {first second : RotationStep} (inside : first ∈ rows.steps)
    (within : second ∈ rows.steps) (same : first.idx = second.idx) : first = second :=
  List.inj_on_of_nodup_map rows.idxUnique inside within same

/-- The engine loads its own rotation. -/
@[simp] theorem answer_rotation :
    rows.answer (.rotation rows.rotation.id rows.rotation.workspaceId) = some rows.rotation := by
  simp [answer]

/-- The engine loads all steps of its rotation. -/
@[simp] theorem answer_steps : rows.answer (.steps rows.rotation.id) = rows.ordered := by
  have own : (rows.steps.filter fun step => step.rotationId = rows.rotation.id) = rows.steps := by
    rw [List.filter_eq_self]
    intro step inside
    simp [rows.owned step inside]
  change (rows.steps.filter _).insertionSort byIdx = rows.steps.insertionSort byIdx
  rw [own]

/-- The step that the engine works on next. -/
def nextStep : Option RotationStep := findNextStep rows.ordered

theorem nextStep_eq_some {rows : Rows} {step : RotationStep} (found : rows.nextStep = some step) :
    step ∈ rows.steps ∧ step.status = .pending ∧
      ∀ other ∈ rows.steps, other.status = .pending → step.idx ≤ other.idx := by
  obtain ⟨inside, pending, least⟩ := findNextStep_eq_some found
  exact ⟨rows.mem_ordered.mp inside, pending, fun other within =>
    least other (rows.mem_ordered.mpr within)⟩

/-- A patch that keeps the statuses keeps the next step, up to the patch itself. -/
theorem nextStep_patchSteps (selected : RotationStep → Bool) {patch : StepPatch}
    (kept : patch.status = none) :
    (rows.patchSteps selected patch).nextStep =
      rows.nextStep.map fun step => if selected step then patch.apply step else step := by
  have same (step : RotationStep) :
      (if selected step then patch.apply step else step).status = step.status := by
    split
    · rw [StepPatch.apply_status, kept]
      rfl
    · rfl
  unfold nextStep findNextStep
  rw [ordered_patchSteps, updateSteps_insertionSort, updateSteps, List.find?_map]
  simp only [Function.comp_def, same]

/-- The verify gate passes when every verify step is done. -/
theorem answer_incompleteVerify_eq_zero :
    rows.answer (.incompleteVerify rows.rotation.id) = 0 ↔
      ∀ step ∈ rows.steps, step.kind = .verify → step.status = .done := by
  simp only [answer, List.length_eq_zero_iff, List.filter_eq_nil_iff]
  constructor
  · intro passed step inside kind
    have counted := passed step inside
    simp only [rows.owned step inside, kind] at counted
    simpa using counted
  · intro every step inside
    by_cases kind : step.kind = .verify
    · simp [every step inside kind]
    · simp [kind]

end Rows

end Sprawl
