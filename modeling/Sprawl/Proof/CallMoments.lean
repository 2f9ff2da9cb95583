/-
This file proves what every moment of an engine call shows, its rollback included.
-/

import Sprawl.Proof.Advance

namespace Sprawl

open Effect

variable {κ : Type}

/-- The session right after the executor of the running step. -/
def Session.executed (session : Session Rows κ) (connectors : Connectors κ) (actor : String)
    (step : RotationStep) (executed : Session Rows κ) : Prop :=
  Reaches session (session.db.started actor step session.clock)
    (session.outcomeEvents connectors step session.db.rotation) executed

/-- These are the moments of an engine call that runs a step, with the moments of its rollback. -/
inductive StepShows (connectors : Connectors κ) (actor : String) (session : Session Rows κ)
    (step : RotationStep) (moment : Moment Command Command.Reply (Session Rows κ)) : Prop where
  | starting (internal : moment.issued.isInternal = true)
      (calls : moment.state.calls = session.calls)
      (rows : Either session.db (session.db.started actor step session.clock) moment.state.db)
  | executing (issued : moment.issued = .executeStep step session.db.rotation)
      (external : moment.state.external = session.external)
      (calls : moment.state.calls = session.calls)
      (rows : moment.state.db = session.db.started actor step session.clock)
  | finishing (done : (session.outcome connectors step session.db.rotation).status = .done)
      (internal : moment.issued.isInternal = true)
      (calls : moment.state.calls =
        session.calls ++ session.outcomeEvents connectors step session.db.rotation)
      (rows : Either (session.db.started actor step session.clock)
          ((session.db.started actor step session.clock).finished actor step
            (session.outcome connectors step session.db.rotation).newSecretRef session.clock)
          moment.state.db ∨
        moment.state.db = (session.db.started actor step session.clock).afterFinish actor
          session.db.ordered step
          (session.outcome connectors step session.db.rotation).newSecretRef session.clock)
  | undoing (failed : (session.outcome connectors step session.db.rotation).status ≠ .done)
      (executed : Session Rows κ) (reaches : session.executed connectors actor step executed)
      (undoes : Undoes connectors actor executed session.db.rotation session.db.ordered step
        (session.outcome connectors step session.db.rotation).error moment)

theorem recordOutcome_shows (connectors : Connectors κ) (actor : String)
    {session executed : Session Rows κ} (step : RotationStep)
    (whole : session.executed connectors actor step executed) :
    ∀ moment ∈ (recordOutcome session.db.rotation.id session.db.rotation.workspaceId actor
        session.db.ordered session.db.rotation step
        (session.outcome connectors step session.db.rotation)).trace (Session.answer connectors)
          executed,
      StepShows connectors actor session step moment := by
  have same : executed.db.rotation.id = session.db.rotation.id ∧
      executed.db.rotation.workspaceId = session.db.rotation.workspaceId := by
    rw [whole.db, Rows.started_id, Rows.started_workspaceId]
    exact ⟨rfl, rfl⟩
  unfold recordOutcome
  rw [Program.trace_bind, List.forall_mem_append]
  by_cases done : (session.outcome connectors step session.db.rotation).status = .done
  · rw [if_pos done]
    constructor
    · exact List.forall_mem_singleton.mpr
        (.finishing done rfl whole.calls (Or.inl (Or.inl whole.db)))
    · have ends := finishStep_transacts connectors actor whole.pending session.db.ordered step
        (session.outcome connectors step session.db.rotation)
      rw [same.1, same.2, whole.db, whole.clock] at ends
      change ∀ moment ∈ (finishStep _ _ _ _ _ _ executed.clock).trace _ executed, _
      rw [whole.clock]
      intro moment inside
      have quiet := ends.moments moment inside
      exact .finishing done quiet.internal (quiet.calls.trans whole.calls) quiet.rows
  · rw [if_neg done]
    constructor
    · exact List.forall_mem_singleton.mpr
        (.undoing done executed whole (.failing rfl rfl (Or.inl rfl)))
    · have ends := failStep_ensures connectors whole.pending actor session.db.ordered
        session.db.rotation step (session.outcome connectors step session.db.rotation)
      rw [same.1, same.2] at ends
      exact fun moment inside => .undoing done executed whole (ends.moments moment inside)

theorem runStep_shows (connectors : Connectors κ) {session : Session Rows κ}
    (empty : session.pending = []) (actor : String) (step : RotationStep) :
    ∀ moment ∈ (runStep session.db.rotation.id session.db.rotation.workspaceId actor
        session.db.ordered session.db.rotation step).trace (Session.answer connectors) session,
      StepShows connectors actor session step moment := by
  have starting := startStep_transacts connectors actor empty step
  obtain ⟨reaches, external⟩ := starting.final
  rw [runStep_eq, Program.trace_bind, Program.trace_bind, List.forall_mem_append,
    List.forall_mem_append]
  refine ⟨fun moment inside => ?_, List.forall_mem_singleton.mpr ?_, ?_⟩
  · have quiet := starting.moments moment inside
    exact .starting quiet.internal quiet.calls quiet.rows
  · exact .executing rfl external (by simpa using reaches.calls) reaches.db
  · generalize (Program.run (Session.answer connectors) (startStep session.db.rotation.id
      session.db.rotation.workspaceId actor session.db.rotation step) session).2 = started at *
    have outcome := Session.outcome_congr connectors step session.db.rotation external
    have events := Session.outcomeEvents_congr connectors step session.db.rotation external
    obtain ⟨reply, executes⟩ := started.answer_executeStep_reaches connectors reaches.pending step
      session.db.rotation
    rw [events, reaches.db] at executes
    have whole := reaches.trans executes
    rw [List.nil_append] at whole
    have recorded := recordOutcome_shows connectors actor step whole
    rw [← outcome, ← reply] at recorded
    exact recorded

/-- These are the moments of an engine call. -/
inductive CallShows (connectors : Connectors κ) (actor : String) (session : Session Rows κ)
    (moment : Moment Command Command.Reply (Session Rows κ)) : Prop where
  | reading (reads : Reading session moment)
  | settling (after : Rows) (settles : Settles session.db actor session.clock after)
      (internal : moment.issued.isInternal = true) (calls : moment.state.calls = session.calls)
      (rows : Either session.db after moment.state.db)
  | running (step : RotationStep) (executes : Executes session.db session.clock step)
      (shows : StepShows connectors actor session step moment)

theorem advanceRotation_shows (connectors : Connectors κ) (actor : String)
    {session : Session Rows κ} (empty : session.pending = []) :
    ∀ moment ∈ (advanceRotation session.db.rotation.id session.db.rotation.workspaceId actor).trace
        (Session.answer connectors) session,
      CallShows connectors actor session moment := by
  by_cases runs : ∃ step, Executes session.db session.clock step
  · obtain ⟨step, executes⟩ := runs
    obtain ⟨readings, reads, split⟩ := (advanceRotation_leads connectors actor empty executes).trace
    rw [split, List.forall_mem_append]
    exact ⟨fun moment inside => .reading (reads moment inside), fun moment inside =>
      .running step executes (runStep_shows connectors empty actor step moment inside)⟩
  · intro moment inside
    cases (advanceRotation_ensures connectors actor empty).moments moment inside with
    | reading internal unrecorded state => exact .reading ⟨internal, unrecorded, state⟩
    | settling after settles internal unrecorded calls rows =>
        exact .settling after settles internal calls rows
    | running step executes within => exact absurd ⟨step, executes⟩ runs

end Sprawl
