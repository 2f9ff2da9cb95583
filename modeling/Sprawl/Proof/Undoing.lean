/-
This file proves what a rollback does, whatever each compensation returns.
-/

import Sprawl.Proof.Rollback
import Sprawl.Rotation.Sandbox

namespace Sprawl

open Effect

variable {κ : Type}

section Compensations

/-- What a call of `compensate_step` returns and how it moves the outside world. -/
abbrev Compensator (κ : Type) :=
  RotationStep → Rotation → κ × List ConnectorEvent → StepResult × κ × List ConnectorEvent

/-- The connectors of a job compensate a step through its executor. -/
def Connectors.compensator (connectors : Connectors κ) : Compensator κ := fun step rotation =>
  (compensateStep connectors.toConnectorKeys step rotation).run connectors.recording

/-- A session whose compensations return what the compensator does. -/
def Session.answerBy (connectors : Connectors κ) (compensator : Compensator κ) :
    Handler Command Command.Reply (Session Rows κ)
  | .compensateStep step rotation, session =>
      let undone := compensator step rotation (session.external, session.calls)
      (undone.1, { session with external := undone.2.1, calls := undone.2.2 })
  | issued, session => session.answer connectors issued

theorem answerBy_compensator (connectors : Connectors κ) :
    Session.answerBy connectors connectors.compensator = Session.answer connectors := by
  funext issued session
  cases issued <;> rfl

/-- The compensation that a moment calls, with its rotation and what it returns. -/
def undoing : Moment Command Command.Reply (Session Rows κ) →
    Option (RotationStep × Rotation × StepResult)
  | ⟨_, .compensateStep step rotation, result⟩ => some (step, rotation, result)
  | _ => none

/-- The compensations of a run, in order. -/
def undoings (moments : List (Moment Command Command.Reply (Session Rows κ))) :
    List (RotationStep × Rotation × StepResult) :=
  moments.filterMap undoing

theorem undoings_append (moments later : List (Moment Command Command.Reply (Session Rows κ))) :
    undoings (moments ++ later) = undoings moments ++ undoings later :=
  List.filterMap_append

end Compensations

section Settled

/-- The status that a compensation leaves in the row of its step. -/
def StepResult.settledStatus (result : StepResult) : StepStatus :=
  if result.status = .compensated then .compensated else .failed

/-- The row of a compensated step shows the outcome. The row of another step stays as it is. -/
def settledRow (undone : List (RotationStep × StepResult)) (time : Time) (row : RotationStep) :
    RotationStep :=
  match undone.find? fun entry => entry.1.id = row.id with
  | some (_, result) =>
      { row with status := result.settledStatus, executedAt := some time, error := result.error }
  | none => row

/-- The rows after the passes of the loop. -/
def settleAll (undone : List (RotationStep × StepResult)) (time : Time) (rows : Rows) : Rows :=
  undone.foldl (fun rows entry =>
    rows.patchSteps (fun row => row.id = entry.1.id) (compensationPatch entry.2 time)) rows

variable {undone : List (RotationStep × StepResult)} {time : Time} {row : RotationStep}

theorem settledRow_cons_of_eq {entry : RotationStep × StepResult} (own : row.id = entry.1.id) :
    settledRow (entry :: undone) time row = (compensationPatch entry.2 time).apply row := by
  simp [settledRow, own, StepPatch.apply, compensationPatch, StepResult.settledStatus]

theorem settledRow_cons_of_ne {entry : RotationStep × StepResult} (other : row.id ≠ entry.1.id) :
    settledRow (entry :: undone) time row = settledRow undone time row := by
  simp [settledRow, other.symm]

theorem settledRow_of_notMem (other : row.id ∉ undone.map (·.1.id)) :
    settledRow undone time row = row := by
  have unsettled : undone.find? (fun entry => entry.1.id = row.id) = none := by
    rw [List.find?_eq_none]
    intro entry inside
    rw [decide_eq_true_eq]
    rintro same
    exact other (same ▸ List.mem_map_of_mem (f := (·.1.id)) inside)
  rw [settledRow, unsettled]

/-- Each pass settles the row of its own step. -/
theorem settleAll_steps (distinct : (undone.map (·.1.id)).Nodup) (rows : Rows) :
    (settleAll undone time rows).steps = rows.steps.map (settledRow undone time) := by
  induction undone generalizing rows with
  | nil => exact (List.map_id _).symm
  | cons entry rest ih =>
      rw [List.map_cons, List.nodup_cons] at distinct
      rw [settleAll, List.foldl_cons]
      change (settleAll rest time _).steps = _
      rw [ih distinct.2, Rows.patchSteps_steps, updateSteps, List.map_map]
      apply List.map_congr_left
      intro row _
      rw [Function.comp_apply]
      by_cases own : row.id = entry.1.id
      · rw [if_pos (decide_eq_true own), settledRow_cons_of_eq own]
        apply settledRow_of_notMem
        rw [StepPatch.apply_id, own]
        exact distinct.1
      · rw [if_neg (by simpa using own), settledRow_cons_of_ne own]

theorem settleAll_rotation (rows : Rows) :
    (settleAll undone time rows).rotation = rows.rotation := by
  induction undone generalizing rows with
  | nil => rfl
  | cons entry rest ih => exact ih _

end Settled

section Loop

/-- A program compensates the steps one after the other, and the rows show each outcome. -/
structure LoopRun (handler : Handler Command Command.Reply (Session Rows κ)) (rotation : Rotation)
    (time : Time) (steps : List RotationStep) (undone : List (RotationStep × StepResult))
    (program : RotationProgram (List String)) (session : Session Rows κ) : Prop where
  steps : undone.map (·.1) = steps
  calls : undoings (program.trace handler session) =
    undone.map fun entry => (entry.1, rotation, entry.2)
  rows : (program.run handler session).2.db = settleAll undone time session.db
  pending : (program.run handler session).2.pending = []
  clean : (program.run handler session).1 = [] ↔
    ∀ entry ∈ undone, entry.2.status = .compensated

variable (connectors : Connectors κ) (compensator : Compensator κ)

attribute [local simp] select write commit now publish issue auditRotation setRotationStatus
  Session.view SqlStore.apply Rows.apply Session.answerBy undoings undoing

theorem compensationPass_undoes (rotation : Rotation) (time : Time) (step : RotationStep)
    {session : Session Rows κ} (empty : session.pending = []) :
    let handler := Session.answerBy connectors compensator
    let ran := (compensationPass rotation time step).run handler session
    undoings ((compensationPass rotation time step).trace handler session) =
        [(step, rotation, ran.1)] ∧
      ran.2.db = session.db.patchSteps (fun row => row.id = step.id)
        (compensationPatch ran.1 time) ∧ ran.2.pending = [] := by
  simp [compensationPass, callCompensateStep, empty]

/-- The loop compensates each of its steps, whatever the compensations before it return. -/
theorem compensateSteps_undoes (rotation : Rotation) (time : Time) (steps : List RotationStep)
    {session : Session Rows κ} (empty : session.pending = []) :
    ∃ undone, LoopRun (Session.answerBy connectors compensator) rotation time steps undone
      (compensateSteps rotation time steps) session := by
  induction steps generalizing session with
  | nil => exact ⟨[], rfl, rfl, rfl, empty, by simp [compensateSteps]⟩
  | cons step rest ih =>
      obtain ⟨called, rows, committed⟩ :=
        compensationPass_undoes connectors compensator rotation time step empty
      obtain ⟨undone, others⟩ := ih committed
      rw [compensateSteps_cons]
      refine ⟨(step, ((compensationPass rotation time step).run
        (Session.answerBy connectors compensator) session).1) :: undone,
          congrArg (step :: ·) others.steps, ?_, ?_, ?_, ?_⟩
      · rw [Program.trace_bind, Program.trace_bind, Program.trace_pure, List.append_nil,
          undoings_append, called, others.calls]
        rfl
      · rw [Program.run_bind, Program.run_bind, Program.run_pure, others.rows, rows]
        rfl
      · rw [Program.run_bind, Program.run_bind, Program.run_pure]
        exact others.pending
      · rw [Program.run_bind, Program.run_bind, Program.run_pure, List.forall_mem_cons,
          ← others.clean]
        by_cases compensated : ((compensationPass rotation time step).run
            (Session.answerBy connectors compensator) session).1.status = .compensated
        · rw [if_pos compensated]
          exact (and_iff_right compensated).symm
        · rw [if_neg compensated]
          exact iff_of_false (List.cons_ne_nil _ _) fun given => compensated given.1

end Loop

section Rollback

/-- The completed steps are compensated once each from the last one on. The rows of these steps show
their own outcomes, and the status of the rotation shows whether all of them succeeded. -/
structure RollsBack (steps : List RotationStep) (undone : List (RotationStep × StepResult))
    (time : Time) (before after : Rows) : Prop where
  once : (undone.map (·.1)).Perm (steps.filter (·.status = .done))
  backwards : (undone.map (·.1.idx)).Pairwise (· > ·)
  rows : after.steps = before.steps.map (settledRow undone time)
  status : after.rotation.status =
    if ∀ entry ∈ undone, entry.2.status = .compensated then .rolledBack else .rollbackFailed

/-- The completed steps in strictly decreasing order of their indexes. -/
theorem stepsToCompensate_backwards {steps : List RotationStep}
    (distinct : (steps.map (·.idx)).Nodup) :
    ((stepsToCompensate steps).map (·.idx)).Pairwise (· > ·) := by
  have sorted : ((steps.filter fun step => step.status = .done).insertionSort byIdx).Pairwise
      byIdx := List.pairwise_insertionSort _ _
  have distinctDone : (((steps.filter fun step => step.status = .done).insertionSort byIdx).map
      (·.idx)).Nodup :=
    ((List.perm_insertionSort _ _).map RotationStep.idx).nodup_iff.mpr
      (distinct.sublist (List.filter_sublist.map RotationStep.idx))
  rw [stepsToCompensate, List.map_reverse, List.pairwise_reverse, List.pairwise_map]
  have differ := List.pairwise_map.mp distinctDone
  exact (sorted.and differ).imp fun both => lt_of_le_of_ne both.1 both.2

theorem stepsToCompensate_perm (steps : List RotationStep) :
    (stepsToCompensate steps).Perm (steps.filter (·.status = .done)) :=
  (List.reverse_perm _).trans (List.perm_insertionSort _ _)

variable (connectors : Connectors κ) (compensator : Compensator κ) (session : Session Rows κ)
  (actor : String)

attribute [local simp] select write commit now publish issue auditRotation setRotationStatus
  Session.view SqlStore.apply Rows.apply Session.answerBy undoings undoing

/-- The first transaction of a rollback commits what is pending and shows the new status. -/
theorem beginRollback_run (failedIdx : Int) :
    let handler := Session.answerBy connectors compensator
    let rotation := session.view.rotation
    let program := beginRollback rotation.id rotation.workspaceId actor failedIdx
    undoings (program.trace handler session) = [] ∧
      (program.run handler session).2.db =
        session.view.rollingBack actor failedIdx session.clock ∧
      (program.run handler session).2.pending = [] ∧
      (program.run handler session).2.clock = session.clock := by
  simp [beginRollback, Rows.rollingBack, Rows.audited]

/-- The last transaction of a rollback shows whether there were failures. -/
theorem endRollback_run {session : Session Rows κ} (empty : session.pending = [])
    {rotationId workspaceId : Uuid} (own : session.db.rotation.id = rotationId)
    (inside : session.db.rotation.workspaceId = workspaceId) (failures : List String) :
    let handler := Session.answerBy connectors compensator
    let program := endRollback rotationId workspaceId actor failures
    undoings (program.trace handler session) = [] ∧
      (program.run handler session).2.db =
        session.db.rollbackEnded actor failures session.clock := by
  simp [endRollback, Rows.rollbackEnded, Rows.audited, empty, own, inside]

/-- After its first transaction a rollback compensates its steps and ends. -/
theorem compensateAndEnd_undoes {session : Session Rows κ} (empty : session.pending = [])
    {rotationId workspaceId : Uuid} (own : session.db.rotation.id = rotationId)
    (inside : session.db.rotation.workspaceId = workspaceId) (rotation : Rotation)
    (todo : List RotationStep) :
    let handler := Session.answerBy connectors compensator
    let program := do
      let time ← Sprawl.now
      let failures ← compensateSteps rotation time todo
      endRollback rotationId workspaceId actor failures
    ∃ undone, undone.map (·.1) = todo ∧
      undoings (program.trace handler session) =
        undone.map (fun entry => (entry.1, rotation, entry.2)) ∧
      (program.run handler session).2.db.steps = (settleAll undone session.clock session.db).steps ∧
      (program.run handler session).2.db.rotation.status =
        if ∀ entry ∈ undone, entry.2.status = .compensated then .rolledBack
        else .rollbackFailed := by
  intro handler program
  obtain ⟨undone, loop⟩ :=
    compensateSteps_undoes connectors compensator rotation session.clock todo empty
  have kept : ((compensateSteps rotation session.clock todo).run
      (Session.answerBy connectors compensator) session).2.db.rotation = session.db.rotation := by
    rw [loop.rows, settleAll_rotation]
  obtain ⟨quiet, ended⟩ := endRollback_run connectors compensator actor loop.pending
    ((congrArg Rotation.id kept).trans own) ((congrArg Rotation.workspaceId kept).trans inside)
    ((compensateSteps rotation session.clock todo).run (Session.answerBy connectors compensator)
      session).1
  have issued : program = .command .now fun time =>
      compensateSteps rotation time todo >>= endRollback rotationId workspaceId actor := rfl
  have reached : (program.run handler session).2 =
      ((endRollback rotationId workspaceId actor ((compensateSteps rotation session.clock todo).run
        handler session).1).run handler ((compensateSteps rotation session.clock todo).run handler
          session).2).2 := by
    rw [issued, Program.run_command, Program.run_bind]
    rfl
  refine ⟨undone, loop.steps, ?_, ?_, ?_⟩
  · rw [issued, Program.trace_command, Program.trace_bind, ← List.singleton_append, undoings_append,
      undoings_append]
    refine (congrArg (fun later => [] ++ (_ ++ later)) quiet).trans ?_
    rw [List.append_nil, List.nil_append]
    exact loop.calls
  · rw [reached, ended, ← loop.rows]
    rfl
  · rw [reached, ended]
    change rollbackStatus _ = _
    simp only [rollbackStatus, List.isEmpty_iff, loop.clean]

/-- A rollback compensates each completed step once, whatever the compensations return. -/
theorem rollback_undoes (failedIdx : Int) (rotation : Rotation) {steps : List RotationStep}
    (idxUnique : (steps.map (·.idx)).Nodup) (idUnique : (steps.map (·.id)).Nodup) :
    let handler := Session.answerBy connectors compensator
    let before := session.view
    let program := rollback before.rotation.id before.rotation.workspaceId actor failedIdx steps
      rotation
    ∃ undone, undoings (program.trace handler session) =
        undone.map (fun entry => (entry.1, rotation, entry.2)) ∧
      RollsBack steps undone session.clock before (program.run handler session).2.db := by
  intro handler before program
  obtain ⟨quiet, begun, committed, clock⟩ :=
    beginRollback_run connectors compensator session actor failedIdx
  obtain ⟨undone, todo, calls, rows, status⟩ := compensateAndEnd_undoes connectors compensator actor
    committed (congrArg (·.rotation.id) begun) (congrArg (·.rotation.workspaceId) begun) rotation
    (stepsToCompensate steps)
  have distinct : (undone.map (·.1.id)).Nodup := by
    have listed : ((undone.map (·.1)).map (·.id)).Nodup := by
      rw [todo]
      exact ((stepsToCompensate_perm steps).map RotationStep.id).nodup_iff.mpr
        (idUnique.sublist (List.filter_sublist.map RotationStep.id))
    rwa [List.map_map] at listed
  have split : program = beginRollback before.rotation.id before.rotation.workspaceId actor
      failedIdx >>= fun _ => _ := rollback_eq _ _ _ _ _ _
  refine ⟨undone, ?_, ?_, ?_, ?_, ?_⟩
  · rw [split, Program.trace_bind, undoings_append, quiet, List.nil_append, ← calls]
    rfl
  · rw [todo]
    exact stepsToCompensate_perm steps
  · have backwards := stepsToCompensate_backwards idxUnique
    rwa [← todo, List.map_map] at backwards
  · rw [split, Program.run_bind]
    refine rows.trans ?_
    rw [settleAll_steps distinct, begun, clock]
    rfl
  · rw [split, Program.run_bind]
    exact status

end Rollback

section Example

/-- The first two steps of the demo rotation are done. -/
def halfDoneSteps : List RotationStep :=
  namedPlan.rows.steps.map fun step =>
    if step.idx < 2 then { step with status := .done } else step

/-- The key of the provision step cannot be deleted. -/
def stuckKey : Compensator SandboxStore := fun step _ world =>
  if step.kind = .provision then ({ status := .failed, error := some "NoSuchEntity" }, world)
  else ({ status := .compensated }, world)

/-- Both steps are compensated although the key stays. -/
theorem stuckKey_undoes :
    let session := (World.proposed namedPlan ([] : SandboxStore)).session
    let before := session.view
    let program := rollback before.rotation.id before.rotation.workspaceId "system" 2 halfDoneSteps
      namedPlan.rotation
    let handler := Session.answerBy (sandboxConnectors none) stuckKey
    ∃ undone, undoings (program.trace handler session) =
        undone.map (fun entry => (entry.1, namedPlan.rotation, entry.2)) ∧
      RollsBack halfDoneSteps undone session.clock before (program.run handler session).2.db :=
  rollback_undoes (sandboxConnectors none) stuckKey
    (World.proposed namedPlan ([] : SandboxStore)).session "system" 2 namedPlan.rotation
    (by decide) (by decide)

end Example

end Sprawl
