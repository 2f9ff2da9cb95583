/-
This file proves what one engine call executes, compensates and returns.
-/

import Sprawl.Proof.Failure

namespace Sprawl

open Effect

variable {κ : Type}

/-- The step that a command executes. -/
def Command.executed : Command → Option Uuid
  | .executeStep step _ => some step.id
  | _ => none

/-- The step that a command compensates. -/
def Command.compensated : Command → Option Uuid
  | .compensateStep step _ => some step.id
  | _ => none

/-- The steps that a list of moments executes, in order. -/
def executedIds (moments : List (Moment Command Command.Reply (Session Rows κ))) : List Uuid :=
  moments.filterMap fun moment => moment.issued.executed

/-- The steps that a list of moments compensates, in order. -/
def compensatedIds (moments : List (Moment Command Command.Reply (Session Rows κ))) : List Uuid :=
  moments.filterMap fun moment => moment.issued.compensated

section Lists

variable (moments later : List (Moment Command Command.Reply (Session Rows κ)))

@[simp] theorem executedIds_append :
    executedIds (moments ++ later) = executedIds moments ++ executedIds later :=
  List.filterMap_append

@[simp] theorem compensatedIds_append :
    compensatedIds (moments ++ later) = compensatedIds moments ++ compensatedIds later :=
  List.filterMap_append

variable {moments}

/-- Internal moments execute nothing and compensate nothing. -/
theorem ids_of_internal (internal : ∀ moment ∈ moments, moment.issued.isInternal = true) :
    executedIds moments = [] ∧ compensatedIds moments = [] := by
  constructor
  · apply List.filterMap_eq_nil_iff.mpr
    intro moment inside
    have quiet := internal moment inside
    cases issued : moment.issued <;> simp_all [Command.executed, Command.isInternal]
  · apply List.filterMap_eq_nil_iff.mpr
    intro moment inside
    have quiet := internal moment inside
    cases issued : moment.issued <;> simp_all [Command.compensated, Command.isInternal]

end Lists

/-- The trace of a program that calls no connector has no executed and no compensated step. -/
theorem ids_of_issues {α : Type} (connectors : Connectors κ) {program : RotationProgram α}
    (internal : program.Issues (·.isInternal = true)) (session : Session Rows κ) :
    executedIds (program.trace (Session.answer connectors) session) = [] ∧
      compensatedIds (program.trace (Session.answer connectors) session) = [] :=
  ids_of_internal (Program.issues_trace _ internal session)

section Parts

variable (connectors : Connectors κ) (session : Session Rows κ) (rotationId workspaceId : Uuid)
  (actor : String) (steps : List RotationStep) (rotation : Rotation) (step : RotationStep)
  (result : StepResult) (time : Time)

attribute [local simp] select write commit now publish issue auditRotation setRotationStatus
  Command.isInternal

theorem startStep_internal :
    (startStep rotationId workspaceId actor rotation step).Issues (·.isInternal = true) := by
  unfold startStep
  split <;> simp

theorem finishStep_internal :
    (finishStep rotationId workspaceId actor steps step result time).Issues
      (·.isInternal = true) := by
  rw [finishStep_eq]
  apply Program.issues_bind
  · cases saved : result.newSecretRef <;> simp [recordFinished, saveNewSecretRef, saved]
  · intro _
    split <;> simp [completeRotation]

/-- The rollback loop compensates each of its steps once, in order. -/
theorem compensateSteps_ids :
    let moments := (compensateSteps rotation time steps).trace (Session.answer connectors) session
    executedIds moments = [] ∧ compensatedIds moments = steps.map (·.id) := by
  induction steps generalizing session with
  | nil => exact ⟨rfl, rfl⟩
  | cons first rest ih =>
      rw [compensateSteps_cons]
      simp only [Program.trace_bind, Program.trace_pure, List.append_nil, executedIds_append,
        compensatedIds_append, (ih _).1, (ih _).2]
      constructor <;> rfl

theorem rollback_ids (failedIdx : Int) :
    let moments := (rollback rotationId workspaceId actor failedIdx steps rotation).trace
      (Session.answer connectors) session
    executedIds moments = [] ∧ compensatedIds moments = (stepsToCompensate steps).map (·.id) := by
  have begins : (beginRollback rotationId workspaceId actor failedIdx).Issues
      (·.isInternal = true) := by simp [beginRollback]
  have ends (failures : List String) : (endRollback rotationId workspaceId actor failures).Issues
      (·.isInternal = true) := by simp [endRollback]
  have clock : (Sprawl.now).Issues (·.isInternal = true) := by simp
  rw [rollback_eq]
  simp only [Program.trace_bind, executedIds_append, compensatedIds_append,
    (compensateSteps_ids connectors _ _ _ _).1, (compensateSteps_ids connectors _ _ _ _).2,
    (ids_of_issues connectors begins _).1, (ids_of_issues connectors begins _).2,
    (ids_of_issues connectors (ends _) _).1, (ids_of_issues connectors (ends _) _).2,
    (ids_of_issues connectors clock _).1, (ids_of_issues connectors clock _).2,
    List.nil_append, List.append_nil, and_self]

theorem failStep_ids :
    let moments := (failStep rotationId workspaceId actor steps rotation step result time).trace
      (Session.answer connectors) session
    executedIds moments = [] ∧ compensatedIds moments = (stepsToCompensate steps).map (·.id) := by
  have records : (recordFailed rotationId workspaceId actor step result time).Issues
      (·.isInternal = true) := by simp [recordFailed]
  rw [failStep_eq]
  simp only [Program.trace_bind, executedIds_append, compensatedIds_append,
    (ids_of_issues connectors records _).1, (ids_of_issues connectors records _).2,
    (rollback_ids connectors _ _ _ _ _ _ _).1, (rollback_ids connectors _ _ _ _ _ _ _).2,
    List.nil_append, and_self]

theorem completeRotation_stops (before : RotationStatus) (message : String) :
    ((completeRotation rotationId workspaceId actor before message).run
      (Session.answer connectors) session).1.shouldContinue = false := rfl

theorem rollback_stops (failedIdx : Int) :
    ((rollback rotationId workspaceId actor failedIdx steps rotation).run
      (Session.answer connectors) session).1.shouldContinue = false := by
  rw [rollback_eq]
  simp only [Program.run_bind]
  rfl

/-- A finished step asks for the next job when a later step is pending. -/
theorem finishStep_continues :
    ((finishStep rotationId workspaceId actor steps step result time).run
        (Session.answer connectors) session).1.shouldContinue =
      !(remainingSteps steps step).isEmpty := by
  rw [finishStep_eq, Program.run_bind]
  cases last : (remainingSteps steps step).isEmpty with
  | true =>
      rw [if_pos rfl]
      exact completeRotation_stops connectors _ _ _ _ _ _
  | false => rfl

/-- After an executor the engine executes nothing, and it compensates after a failure only. -/
theorem recordOutcome_ids :
    let moments := (recordOutcome rotationId workspaceId actor steps rotation step result).trace
      (Session.answer connectors) session
    executedIds moments = [] ∧ compensatedIds moments =
      if result.status = .done then [] else (stepsToCompensate steps).map (·.id) := by
  have clock : (Sprawl.now).Issues (·.isInternal = true) := by simp
  unfold recordOutcome
  simp only [Program.trace_bind, executedIds_append, compensatedIds_append,
    (ids_of_issues connectors clock _).1, (ids_of_issues connectors clock _).2, List.nil_append]
  by_cases done : result.status = .done
  · simp only [if_pos done]
    exact ids_of_issues connectors (finishStep_internal _ _ _ _ _ _ _) _
  · simp only [if_neg done]
    exact failStep_ids connectors _ _ _ _ _ _ _ _ _

theorem recordOutcome_continues :
    ((recordOutcome rotationId workspaceId actor steps rotation step result).run
        (Session.answer connectors) session).1.shouldContinue = true ↔
      result.status = .done ∧ (remainingSteps steps step).isEmpty = false := by
  unfold recordOutcome
  rw [Program.run_bind]
  by_cases done : result.status = .done
  · rw [if_pos done, finishStep_continues]
    simp [done]
  · rw [if_neg done, failStep_eq, Program.run_bind, rollback_stops]
    simp [done]

end Parts

/-- The moments of a running step: its execution, and after a failure the compensations. -/
structure StepTrace (connectors : Connectors κ) (session : Session Rows κ) (step : RotationStep)
    (moments : List (Moment Command Command.Reply (Session Rows κ))) (result : EngineResult) :
    Prop where
  execution : ∃ before state after, moments = before ++ ⟨state, .executeStep step session.db.rotation,
      session.outcome connectors step session.db.rotation⟩ :: after ∧
    (∀ moment ∈ before, moment.issued.isInternal = true) ∧ executedIds after = [] ∧
    compensatedIds after =
      if (session.outcome connectors step session.db.rotation).status = .done then []
      else (stepsToCompensate session.db.ordered).map (·.id)
  continues : result.shouldContinue = true ↔
    (session.outcome connectors step session.db.rotation).status = .done ∧
      (remainingSteps session.db.ordered step).isEmpty = false

theorem runStep_trace (connectors : Connectors κ) (actor : String) {session : Session Rows κ}
    (empty : session.pending = []) (step : RotationStep) :
    let program := runStep session.db.rotation.id session.db.rotation.workspaceId actor
      session.db.ordered session.db.rotation step
    StepTrace connectors session step (program.trace (Session.answer connectors) session)
      (program.run (Session.answer connectors) session).1 := by
  obtain ⟨_, external⟩ := (startStep_transacts connectors actor empty step).final
  have outcome (started : Session Rows κ) (same : started.external = session.external) :
      (started.answer connectors (.executeStep step session.db.rotation)).1 =
        session.outcome connectors step session.db.rotation := by
    rw [Session.answer_executeStep, Session.runConnectors_eq, same]
    rfl
  have reply := outcome _ external
  have starts := Program.issues_trace (Session.answer connectors)
    (startStep_internal session.db.rotation.id session.db.rotation.workspaceId actor
      session.db.rotation step) session
  simp only [runStep_eq, callExecuteStep, issue, Program.trace_bind, Program.run_bind,
    Program.trace_perform, Program.run_perform, List.singleton_append, reply]
  constructor
  · exact ⟨_, _, _, rfl, starts, recordOutcome_ids connectors _ _ _ _ _ _ _ _⟩
  · exact recordOutcome_continues connectors _ _ _ _ _ _ _ _

/-- Internal moments may come before a running step. -/
theorem StepTrace.after {connectors : Connectors κ} {session : Session Rows κ} {step : RotationStep}
    {readings moments : List (Moment Command Command.Reply (Session Rows κ))} {result : EngineResult}
    (trace : StepTrace connectors session step moments result)
    (internal : ∀ moment ∈ readings, moment.issued.isInternal = true) :
    StepTrace connectors session step (readings ++ moments) result := by
  obtain ⟨before, state, after, rfl, starts, ids⟩ := trace.execution
  refine ⟨⟨readings ++ before, state, after, ?_, ?_, ids⟩, trace.continues⟩
  · rw [List.append_assoc]
  · exact List.forall_mem_append.mpr ⟨internal, starts⟩

/-- An engine call that runs no step returns without a next job. -/
theorem advanceRotation_returnsUnless (rotationId workspaceId : Uuid) (actor : String) :
    (advanceRotation rotationId workspaceId actor).ReturnsUnless Command.isExecution
      (·.shouldContinue = false) := by
  have completes (before : RotationStatus) (message : String) :
      (completeRotation rotationId workspaceId actor before message).ReturnsUnless
        Command.isExecution (·.shouldContinue = false) := by
    unfold completeRotation
    exact Program.returnsUnless_bind fun _ => Program.returnsUnless_bind fun _ =>
      Program.returnsUnless_bind fun _ => Program.returnsUnless_bind fun _ => rfl
  unfold advanceRotation
  apply Program.returnsUnless_bind
  intro found
  cases found with
  | none => rfl
  | some rotation =>
      simp only
      split
      · rfl
      · apply Program.returnsUnless_bind
        intro late
        split
        · unfold expirePlan
          exact Program.returnsUnless_bind fun _ => Program.returnsUnless_bind fun _ =>
            Program.returnsUnless_bind fun _ => Program.returnsUnless_bind fun _ => rfl
        · apply Program.returnsUnless_bind
          intro steps
          unfold advanceSteps
          split
          · rfl
          · split
            · split
              · exact completes _ _
              · rfl
            · split
              · unfold awaitConfirmation
                exact Program.returnsUnless_bind fun _ => Program.returnsUnless_bind fun _ =>
                  Program.returnsUnless_bind fun _ => Program.returnsUnless_bind fun _ => rfl
              · apply Program.returnsUnless_bind
                intro verdict
                cases verdict with
                | error blocked =>
                    unfold blockRevoke
                    exact Program.returnsUnless_bind fun _ => Program.returnsUnless_bind fun _ =>
                      Program.returnsUnless_bind fun _ => rfl
                | ok passed =>
                    rw [runStep_eq]
                    exact Program.returnsUnless_bind fun _ => Or.inl rfl

/-- The trace of an engine call is quiet or is the trace of the step that it runs. -/
inductive CallTrace (connectors : Connectors κ) (session : Session Rows κ)
    (moments : List (Moment Command Command.Reply (Session Rows κ))) (result : EngineResult) :
    Prop where
  | quiet (none : ∀ step, ¬ Executes session.db session.clock step)
      (internal : ∀ moment ∈ moments, moment.issued.isInternal = true)
      (stops : result.shouldContinue = false)
  | ran (step : RotationStep) (executes : Executes session.db session.clock step)
      (trace : StepTrace connectors session step moments result)

theorem advanceRotation_trace (connectors : Connectors κ) (actor : String)
    {session : Session Rows κ} (empty : session.pending = []) :
    let program := advanceRotation session.db.rotation.id session.db.rotation.workspaceId actor
    CallTrace connectors session (program.trace (Session.answer connectors) session)
      (program.run (Session.answer connectors) session).1 := by
  intro program
  by_cases runs : ∃ step, Executes session.db session.clock step
  · obtain ⟨step, executes⟩ := runs
    have leads := advanceRotation_leads connectors actor empty executes
    obtain ⟨readings, reads, split⟩ := leads.trace
    have trace := (runStep_trace connectors actor empty step).after fun moment inside =>
      (reads moment inside).internal
    rw [← split, ← leads.run] at trace
    exact .ran step executes trace
  · simp only [not_exists] at runs
    have internal : ∀ moment ∈ program.trace (Session.answer connectors) session,
        moment.issued.isInternal = true := by
      intro moment inside
      cases (advanceRotation_ensures connectors actor empty).moments moment inside with
      | reading internal unrecorded state => exact internal
      | settling after settles internal unrecorded calls rows => exact internal
      | running step executes within => exact absurd executes (runs step)
    refine .quiet runs internal ?_
    apply (advanceRotation_returnsUnless _ _ _).run
    intro moment inside
    have quiet := internal moment inside
    cases issued : moment.issued <;> simp_all [Command.isExecution, Command.isInternal]

end Sprawl
