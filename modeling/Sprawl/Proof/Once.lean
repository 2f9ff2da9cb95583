/-
This file proves that a step executes once, compensates once and that job chains end.
-/

import Sprawl.Proof.CallTrace
import Sprawl.Proof.Delivery

namespace Sprawl

open Effect

variable {κ : Type}

/-- The status of a step under its identifier. -/
def RotationStep.standing (step : RotationStep) : Uuid × StepStatus := (step.id, step.status)

theorem standing_confirmless : Confirmless RotationStep.standing := fun _ _ => rfl

/-- The identifiers of the pending steps. -/
def Rows.pendingIds (rows : Rows) : List Uuid :=
  (rows.steps.filter fun step => step.status = .pending).map (·.id)

theorem Rows.mem_pendingIds {rows : Rows} {id : Uuid} :
    id ∈ rows.pendingIds ↔ ∃ step ∈ rows.steps, step.id = id ∧ step.status = .pending := by
  simp only [pendingIds, List.mem_map, List.mem_filter, decide_eq_true_eq]
  constructor
  · intro given
    obtain ⟨step, ⟨inside, pending⟩, same⟩ := given
    exact ⟨step, inside, same, pending⟩
  · intro given
    obtain ⟨step, inside, same, pending⟩ := given
    exact ⟨step, ⟨inside, pending⟩, same⟩

theorem Rows.pendingIds_nodup (rows : Rows) : rows.pendingIds.Nodup :=
  rows.idUnique.sublist (List.filter_sublist.map _)

/-- A rollback visits each done step once. -/
theorem Rows.stepsToCompensate_nodup (rows : Rows) :
    ((stepsToCompensate rows.ordered).map (·.id)).Nodup := by
  have sorted : (stepsToCompensate rows.ordered).Perm
      (rows.ordered.filter fun step => step.status = .done) :=
    (List.reverse_perm _).trans (List.perm_insertionSort byIdx _)
  have loaded : (rows.ordered.map (·.id)).Nodup :=
    ((List.perm_insertionSort byIdx rows.steps).map _).nodup_iff.mpr rows.idUnique
  exact (sorted.map _).nodup_iff.mpr (loaded.sublist (List.filter_sublist.map _))

/-- The moment is an execution of the step that returned done. -/
def Finishes (id : Uuid) : Moment Command Command.Reply (Session Rows κ) → Prop
  | ⟨_, .executeStep step _, reply⟩ => step.id = id ∧ reply.status = .done
  | _ => False

/-- The rows before and after the moments of one call. -/
structure CallEffect (rows : Rows) (moments : List (Moment Command Command.Reply (Session Rows κ)))
    (after : Rows) : Prop where
  executedOnce : (executedIds moments).Nodup
  executed : ∀ id ∈ executedIds moments, id ∈ rows.pendingIds
  compensatedOnce : (compensatedIds moments).Nodup
  compensated : ∀ id ∈ compensatedIds moments,
    ∃ step ∈ rows.steps, step.id = id ∧ step.status = .done
  pending : ∀ step ∈ after.steps, step.status = .pending →
    step.id ∈ rows.pendingIds ∧ step.id ∉ executedIds moments
  done : ∀ step ∈ after.steps, step.status = .done →
    (step.id ∈ rows.pendingIds ∧ ∃ moment ∈ moments, Finishes step.id moment) ∨
      (step.id ∉ compensatedIds moments ∧
        ∃ old ∈ rows.steps, old.id = step.id ∧ old.status = .done)

/-- The rows agree with a log of moments about what has been executed and compensated. -/
structure Accounted (rows : Rows) (log : List (Moment Command Command.Reply (Session Rows κ))) :
    Prop where
  executedOnce : (executedIds log).Nodup
  compensatedOnce : (compensatedIds log).Nodup
  fresh : ∀ id ∈ rows.pendingIds, id ∉ executedIds log ∧ id ∉ compensatedIds log
  finished : ∀ step ∈ rows.steps, step.status = .done →
    step.id ∉ compensatedIds log ∧ ∃ moment ∈ log, Finishes step.id moment
  justified : ∀ before moment after, log = before ++ moment :: after →
    ∀ id, moment.issued.compensated = some id → ∃ earlier ∈ before, Finishes id earlier

/-- A pending step has no identifier of a done step. -/
theorem Rows.not_done_of_pending {rows : Rows} {id : Uuid} (waits : id ∈ rows.pendingIds) :
    ¬ ∃ step ∈ rows.steps, step.id = id ∧ step.status = .done := by
  obtain ⟨old, within, same, pending⟩ := Rows.mem_pendingIds.mp waits
  intro given
  obtain ⟨step, inside, equal, ended⟩ := given
  obtain rfl := rows.eq_of_id inside within (equal.trans same.symm)
  exact absurd (ended.symm.trans pending) (by simp)

section Accounted

variable {rows after : Rows} {log moments : List (Moment Command Command.Reply (Session Rows κ))}

/-- A call extends the log of an accounted rotation. -/
theorem Accounted.extend (accounted : Accounted rows log) (effect : CallEffect rows moments after) :
    Accounted after (log ++ moments) where
  executedOnce := by
    rw [executedIds_append]
    apply accounted.executedOnce.append effect.executedOnce
    intro id earlier now
    exact (accounted.fresh id (effect.executed id now)).1 earlier
  compensatedOnce := by
    rw [compensatedIds_append]
    apply accounted.compensatedOnce.append effect.compensatedOnce
    intro id earlier now
    obtain ⟨step, inside, rfl, ended⟩ := effect.compensated id now
    exact (accounted.finished step inside ended).1 earlier
  fresh id waits := by
    obtain ⟨step, inside, rfl, pending⟩ := Rows.mem_pendingIds.mp waits
    obtain ⟨before, unexecuted⟩ := effect.pending step inside pending
    obtain ⟨executed, compensated⟩ := accounted.fresh step.id before
    rw [executedIds_append, compensatedIds_append, List.mem_append, List.mem_append, not_or, not_or]
    exact ⟨⟨executed, unexecuted⟩, compensated, fun now =>
      Rows.not_done_of_pending before (effect.compensated step.id now)⟩
  finished step inside ended := by
    rw [compensatedIds_append, List.mem_append, not_or]
    obtain ⟨before, moment, within, finishes⟩ | ⟨kept, old, within, same, done⟩ :=
      effect.done step inside ended
    · refine ⟨⟨(accounted.fresh step.id before).2, fun now => ?_⟩, moment,
        List.mem_append_right _ within, finishes⟩
      exact Rows.not_done_of_pending before (effect.compensated step.id now)
    · obtain ⟨uncompensated, moment, earlier, finishes⟩ := accounted.finished old within done
      rw [same] at uncompensated finishes
      exact ⟨⟨uncompensated, kept⟩, moment, List.mem_append_left _ earlier, finishes⟩
  justified before moment rest split id compensates := by
    -- A compensation of this call meets a step that was done before the call.
    have current (now : moment ∈ moments) (longer : log ⊆ before) :
        ∃ earlier ∈ before, Finishes id earlier := by
      obtain ⟨step, inside, rfl, ended⟩ := effect.compensated id
        (List.mem_filterMap.mpr ⟨moment, now, compensates⟩)
      obtain ⟨_, earlier, within, finishes⟩ := accounted.finished step inside ended
      exact ⟨earlier, longer within, finishes⟩
    obtain ⟨middle, same, tail⟩ | ⟨middle, same, tail⟩ := List.append_eq_append_iff.mp split
    · exact current (tail ▸ List.mem_append_right _ List.mem_cons_self)
        (same ▸ List.subset_append_left _ _)
    · cases middle with
      | nil =>
          rw [List.append_nil] at same
          rw [List.nil_append] at tail
          exact current (tail ▸ List.mem_cons_self) (same ▸ List.Subset.refl _)
      | cons first others =>
          obtain ⟨rfl, rfl⟩ := List.cons.inj tail
          exact accounted.justified before moment others same id compensates

end Accounted

section Calls

variable {rows after : Rows} {moments : List (Moment Command Command.Reply (Session Rows κ))}

/-- A call that calls no connector and keeps the standings has no effect. -/
theorem CallEffect.quiet (internal : ∀ moment ∈ moments, moment.issued.isInternal = true)
    (keeps : Keeps RotationStep.standing rows after) : CallEffect rows moments after := by
  obtain ⟨executed, compensated⟩ := ids_of_internal internal
  have before {step : RotationStep} (inside : step ∈ after.steps) :
      ∃ old ∈ rows.steps, old.id = step.id ∧ old.status = step.status := by
    obtain ⟨old, within, same⟩ := keeps.exists_before inside
    exact ⟨old, within, congrArg Prod.fst same, congrArg Prod.snd same⟩
  constructor
  · simp [executed]
  · simp [executed]
  · simp [compensated]
  · simp [compensated]
  · intro step inside pending
    obtain ⟨old, within, same, status⟩ := before inside
    refine ⟨Rows.mem_pendingIds.mpr ⟨old, within, same, status.trans pending⟩, ?_⟩
    simp [executed]
  · intro step inside ended
    obtain ⟨old, within, same, status⟩ := before inside
    exact Or.inr ⟨by simp [compensated], old, within, same, status.trans ended⟩

/-- The standing of a step after the rollback loop. -/
theorem CompensatedAll.standing {keys : ConnectorKeys} {rotation : Rotation} {time : Time}
    {steps : List RotationStep} {final : Rows} {events : List ConnectorEvent}
    {failures : List String}
    (all : CompensatedAll keys rotation time steps rows events final failures) :
    ∀ step ∈ final.steps, ∃ old ∈ rows.steps, old.id = step.id ∧
      ((old.id ∉ steps.map (·.id) ∧ step.status = old.status) ∨
        step.status = .compensated ∨ step.status = .failed) := by
  induction all with
  | nil rows => exact fun step inside => ⟨step, inside, rfl, Or.inl ⟨List.not_mem_nil, rfl⟩⟩
  | @cons first rest rows final events later result failures outcome others ih =>
      intro step inside
      obtain ⟨middle, within, same, standing⟩ := ih step inside
      obtain ⟨old, present, rfl⟩ := mem_updateSteps.mp within
      refine ⟨old, present, ?_, ?_⟩
      · rw [← same]
        split <;> rfl
      · by_cases named : old.id = first.id
        · simp only [named, decide_true, if_true] at standing
          obtain ⟨_, status⟩ | ended := standing
          · right
            rw [status]
            simp only [StepPatch.apply_status, compensationPatch, Option.getD_some]
            split
            · exact Or.inl rfl
            · exact Or.inr rfl
          · exact Or.inr ended
        · simp only [named, decide_false, Bool.false_eq_true, if_false] at standing
          obtain ⟨absent, status⟩ | ended := standing
          · left
            refine ⟨?_, status⟩
            rw [List.map_cons, List.mem_cons, not_or]
            exact ⟨named, absent⟩
          · exact Or.inr ended

section Step

variable {step : RotationStep} (inside : step ∈ rows.steps) (pending : step.status = .pending)
  (executedIs : executedIds moments = [step.id])

include inside pending executedIs

/-- A call that finishes a pending step. -/
theorem CallEffect.finished {time : Time} (compensatedIs : compensatedIds moments = [])
    (steps : after.steps = updateSteps (fun other => other.id = step.id)
      { status := some .done, executedAt := some time } rows.steps)
    (finishes : ∃ moment ∈ moments, Finishes step.id moment) : CallEffect rows moments after := by
  have waits : step.id ∈ rows.pendingIds := Rows.mem_pendingIds.mpr ⟨step, inside, rfl, pending⟩
  have before {later : RotationStep} (present : later ∈ after.steps) :
      (later.id = step.id ∧ later.status = .done) ∨
        later.id ≠ step.id ∧ ∃ old ∈ rows.steps, old.id = later.id ∧ old.status = later.status := by
    rw [steps] at present
    obtain ⟨old, within, rfl⟩ := mem_updateSteps.mp present
    by_cases same : old.id = step.id
    · simp [same]
    · simp only [same, decide_false, Bool.false_eq_true, if_false]
      exact Or.inr ⟨same, old, within, rfl, rfl⟩
  constructor
  · simp [executedIs]
  · simpa [executedIs] using waits
  · simp [compensatedIs]
  · simp [compensatedIs]
  · intro later present waiting
    obtain ⟨_, ended⟩ | ⟨different, old, within, same, status⟩ := before present
    · exact absurd (waiting.symm.trans ended) (by simp)
    · refine ⟨Rows.mem_pendingIds.mpr ⟨old, within, same, status.trans waiting⟩, ?_⟩
      simpa [executedIs] using different
  · intro later present ended
    obtain ⟨same, _⟩ | ⟨_, old, within, same, status⟩ := before present
    · rw [same]
      exact Or.inl ⟨waits, finishes⟩
    · exact Or.inr ⟨by simp [compensatedIs], old, within, same, status.trans ended⟩

/-- A call that rolls a pending step back leaves no step done. -/
theorem CallEffect.rolledBack
    (compensatedIs : compensatedIds moments = (stepsToCompensate rows.ordered).map (·.id))
    (standing : ∀ later ∈ after.steps, later.status ≠ .done ∧
      (later.status = .pending → later.id ∈ rows.pendingIds ∧ later.id ≠ step.id)) :
    CallEffect rows moments after := by
  constructor
  · simp [executedIs]
  · simpa [executedIs] using Rows.mem_pendingIds.mpr ⟨step, inside, rfl, pending⟩
  · exact compensatedIs ▸ rows.stepsToCompensate_nodup
  · intro id named
    rw [compensatedIs] at named
    obtain ⟨done, within, rfl⟩ := List.mem_map.mp named
    obtain ⟨present, ended⟩ := mem_stepsToCompensate.mp within
    exact ⟨done, present, rfl, ended⟩
  · intro later present waiting
    obtain ⟨waits, different⟩ := (standing later present).2 waiting
    exact ⟨waits, by simpa [executedIs] using different⟩
  · intro later present ended
    exact absurd ended (standing later present).1

end Step

variable {connectors : Connectors κ} {session final : Session Rows κ} {actor : String}
  {result : EngineResult}

/-- The standings after a rollback. A step that the rollback has left alone was not done. -/
theorem RolledBack.standing {rotation : Rotation} {step : RotationStep} {error : Option String}
    {time : Time} {events : List ConnectorEvent} {started : Rows}
    (undone : RolledBack connectors actor started rotation rows.ordered step error time events after)
    (steps : started.steps = rows.steps) :
    ∀ later ∈ after.steps, later.status = .failed ∨ later.status = .compensated ∨
      (later.id ≠ step.id ∧ later.status ≠ .done ∧
        ∃ old ∈ rows.steps, old.id = later.id ∧ old.status = later.status) := by
  obtain ⟨compensated, failures, all, rfl⟩ := undone.passes
  intro later present
  obtain ⟨middle, within, same, standing⟩ := all.standing later present
  obtain ⟨old, inside, rfl⟩ := mem_updateSteps.mp within
  rw [steps] at inside
  by_cases failed : old.id = step.id
  · simp only [failed, decide_true, if_true] at standing
    obtain ⟨_, status⟩ | status | status := standing
    · exact Or.inl status
    · exact Or.inr (Or.inl status)
    · exact Or.inl status
  · simp only [failed, decide_false, Bool.false_eq_true, if_false] at same standing
    obtain ⟨absent, status⟩ | status | status := standing
    · refine Or.inr (Or.inr ⟨same ▸ failed, fun ended => absent ?_, old, inside, same, status.symm⟩)
      exact List.mem_map.mpr ⟨old, mem_stepsToCompensate.mpr ⟨inside, status ▸ ended⟩, rfl⟩
    · exact Or.inr (Or.inl status)
    · exact Or.inl status

/-- No step is done after a rollback, and a pending one was pending before. -/
theorem RolledBack.unfinished {rotation : Rotation} {step : RotationStep} {error : Option String}
    {time : Time} {events : List ConnectorEvent} {started : Rows}
    (undone : RolledBack connectors actor started rotation rows.ordered step error time events after)
    (steps : started.steps = rows.steps) :
    ∀ later ∈ after.steps, later.status ≠ .done ∧
      (later.status = .pending → later.id ∈ rows.pendingIds ∧ later.id ≠ step.id) := by
  intro later present
  obtain status | status | ⟨different, unfinished, old, inside, same, status⟩ :=
    undone.standing steps later present
  · simp [status]
  · simp [status]
  · exact ⟨unfinished, fun waiting =>
      ⟨Rows.mem_pendingIds.mpr ⟨old, inside, same, status.trans waiting⟩, different⟩⟩

/-- An engine call executes a pending step at most, and it compensates done steps only. -/
theorem EngineEnd.effect (ends : EngineEnd connectors actor session final)
    (trace : CallTrace connectors session moments result) :
    CallEffect session.db moments final.db := by
  cases trace with
  | quiet none internal stops =>
      apply CallEffect.quiet internal
      cases ends with
      | idle idles ends => exact ends.db ▸ Keeps.refl _
      | settled after settles ends => exact ends.db ▸ settles.keeps
      | ran step executes ends => exact absurd executes (none step)
  | ran step executes trace =>
      obtain ⟨inside, pending, _⟩ := Rows.nextStep_eq_some executes.next
      obtain ⟨before, state, rest, split, starts, executed, compensated⟩ := trace.execution
      obtain ⟨noneExecuted, noneCompensated⟩ := ids_of_internal starts
      have executedIs : executedIds moments = [step.id] := by
        rw [split, executedIds_append, noneExecuted]
        exact congrArg (step.id :: ·) executed
      have compensatedIs : compensatedIds moments = compensatedIds rest := by
        rw [split, compensatedIds_append, noneCompensated]
        rfl
      cases ends with
      | idle idles ends => exact absurd idles executes.not_idles
      | settled after settles ends => exact absurd settles executes.not_settles
      | ran other runs ends =>
          obtain rfl : step = other := Option.some.inj (executes.next.symm.trans runs.next)
          cases ends with
          | finished done ends =>
              rw [if_pos done] at compensated
              apply CallEffect.finished inside pending executedIs (compensatedIs.trans compensated)
              · rw [ends.db, Rows.afterFinish_steps, Rows.started_steps]
              · have present : (⟨state, .executeStep step session.db.rotation,
                    session.outcome connectors step session.db.rotation⟩ :
                      Moment Command Command.Reply (Session Rows κ)) ∈ moments := by
                  rw [split]
                  exact List.mem_append_right _ List.mem_cons_self
                exact ⟨_, present, rfl, done⟩
          | rolledBack failed later rows undone ends =>
              rw [if_neg failed] at compensated
              apply CallEffect.rolledBack inside pending executedIs (compensatedIs.trans compensated)
              rw [ends.db]
              exact undone.unfinished (Rows.started_steps _ _ _ _)

end Calls

section Jobs

variable (connectors : Connectors κ) {session : Session Rows κ}

/-- These are the runs of a job that finds the lock free: its rotation is another one, or it makes
one engine call. -/
inductive JobRan (session : Session Rows κ) (job : Job)
    (moments : List (Moment Command Command.Reply (Session Rows κ))) (result : EngineResult)
    (final : Session Rows κ) : Prop where
  | skipped (internal : ∀ moment ∈ moments, moment.issued.isInternal = true)
      (stops : result.shouldContinue = false) (rows : final.db = session.db)
  | called (ended : Session Rows κ)
      (ends : EngineEnd connectors job.actor (session.locked job.secretId job.rotationId) ended)
      (trace : CallTrace connectors (session.locked job.secretId job.rotationId) moments result)
      (rows : final.db = ended.db)

/-- Internal moments may come before and after an engine call. -/
theorem CallTrace.within {connectors : Connectors κ} {before moments later :
    List (Moment Command Command.Reply (Session Rows κ))} {result : EngineResult}
    (trace : CallTrace connectors session moments result)
    (starts : ∀ moment ∈ before, moment.issued.isInternal = true)
    (ends : ∀ moment ∈ later, moment.issued.isInternal = true) :
    CallTrace connectors session (before ++ moments ++ later) result := by
  cases trace with
  | quiet none internal stops =>
      exact .quiet none (List.forall_mem_append.mpr
        ⟨List.forall_mem_append.mpr ⟨starts, internal⟩, ends⟩) stops
  | ran step executes trace =>
      refine .ran step executes ?_
      obtain ⟨first, state, after, split, readings, executed, compensated⟩ :=
        (trace.after starts).execution
      obtain ⟨noneExecuted, noneCompensated⟩ := ids_of_internal ends
      refine ⟨⟨first, state, after ++ later, ?_, readings, ?_, ?_⟩, trace.continues⟩
      · rw [split, List.append_assoc, List.cons_append]
      · rw [executedIds_append, executed, noneExecuted, List.append_nil]
      · rw [compensatedIds_append, compensated, noneCompensated, List.append_nil]

/-- Every job that finds the lock free is one of the listed runs. -/
theorem runRotationStep_ran (empty : session.pending = []) (free : session.locks = []) (job : Job) :
    let program := runRotationStep job
    let final := program.run (Session.answer connectors) session
    JobRan connectors session job (program.trace (Session.answer connectors) session) final.1
        final.2 ∧ final.2.locks = [] := by
  intro program final
  have pending : (session.locked job.secretId job.rotationId).pending = [] := empty
  by_cases named : session.db.rotation.id = job.rotationId ∧
      session.db.rotation.workspaceId = job.workspaceId
  · obtain ⟨rotationId, workspaceId⟩ := named
    have ends := (advanceRotation_ensures connectors job.actor pending).final
    have trace := advanceRotation_trace connectors job.actor pending
    change EngineEnd _ _ _ ((advanceRotation session.db.rotation.id session.db.rotation.workspaceId
      job.actor).run _ _).2 at ends
    change CallTrace _ _ ((advanceRotation session.db.rotation.id session.db.rotation.workspaceId
      job.actor).trace _ _) ((advanceRotation session.db.rotation.id
        session.db.rotation.workspaceId job.actor).run _ _).1 at trace
    rw [rotationId, workspaceId] at ends trace
    obtain ⟨rows, events, reaches⟩ := ends.reaches
    obtain ⟨before, later, split, starts, stops⟩ :=
      runRotationStep_trace connectors free job rfl reaches.locks
    have ran := runRotationStep_run connectors free job rfl reaches.locks
    have whole := trace.within starts stops
    rw [← split] at whole
    rw [show final = _ from ran]
    exact ⟨.called _ ends whole rfl, rfl⟩
  · have absent : (session.locked job.secretId job.rotationId).answer connectors
        (.select (.rotation job.rotationId job.workspaceId)) =
          (none, session.locked job.secretId job.rotationId) := by
      rw [Session.answer_select, Session.view_of_pending_nil _ pending]
      exact congrArg (·, _) (if_neg named)
    have idle : (advanceRotation job.rotationId job.workspaceId job.actor).run
        (Session.answer connectors) (session.locked job.secretId job.rotationId) =
          ({ rotationStatus := "not_found", message := "Rotation not found" },
            session.locked job.secretId job.rotationId) := by
      unfold advanceRotation
      rw [Program.run_bind, select, issue, Program.run_perform, absent]
      rfl
    have reading : (advanceRotation job.rotationId job.workspaceId job.actor).trace
        (Session.answer connectors) (session.locked job.secretId job.rotationId) =
          [⟨session.locked job.secretId job.rotationId,
            .select (.rotation job.rotationId job.workspaceId), none⟩] := by
      unfold advanceRotation
      rw [Program.trace_bind, select, issue, Program.trace_perform, Program.run_perform, absent]
      rfl
    obtain ⟨before, later, split, starts, stops⟩ :=
      runRotationStep_trace connectors free job idle rfl
    rw [show final = _ from runRotationStep_run connectors free job idle rfl]
    refine ⟨.skipped ?_ rfl rfl, rfl⟩
    rw [split, reading]
    simp only [List.forall_mem_append]
    exact ⟨⟨starts, by simp [Command.isInternal]⟩, stops⟩

end Jobs

section Requests

variable {α : Type}

theorem requireRole_internal (roles : List String) (claims : TokenClaims)
    {next : Unit → RequestProgram α} (later : (next ()).run.Issues (·.isInternal = true)) :
    (requireRole roles claims >>= next).run.Issues (·.isInternal = true) := by
  unfold requireRole
  split
  · exact later
  · trivial

theorem requireRotation_internal (rotationId workspaceId : Uuid)
    {next : Rotation → RequestProgram α}
    (later : ∀ rotation, (next rotation).run.Issues (·.isInternal = true)) :
    (requireRotation rotationId workspaceId >>= next).run.Issues (·.isInternal = true) := by
  refine ⟨rfl, fun found => ?_⟩
  cases found with
  | none => trivial
  | some rotation => exact later rotation

/-- A request calls no connector. -/
theorem Request.internal (request : Request) :
    request.program.run.Issues (·.isInternal = true) := by
  cases request with
  | approve workspaceId rotationId claims =>
      apply requireRole_internal
      apply requireRotation_internal
      intro rotation
      split
      · trivial
      · exact ⟨rfl, fun _ => ⟨rfl, fun _ => ⟨rfl, fun _ => trivial⟩⟩⟩
  | reject workspaceId rotationId claims =>
      apply requireRole_internal
      apply requireRotation_internal
      intro rotation
      split
      · trivial
      · exact ⟨rfl, fun _ => ⟨rfl, fun _ => ⟨rfl, fun _ => ⟨rfl, fun _ => trivial⟩⟩⟩⟩
  | confirm workspaceId rotationId stepId claims =>
      apply requireRole_internal
      apply requireRotation_internal
      intro rotation
      split
      · trivial
      · refine ⟨rfl, fun found => ?_⟩
        cases found with
        | none => trivial
        | some step =>
            change Program.Issues _ (ExceptT.run (if step.status ≠ .pending then _ else _))
            split
            · trivial
            · exact ⟨rfl, fun _ => ⟨rfl, fun _ => ⟨rfl, fun _ => ⟨rfl, fun _ => ⟨rfl, fun _ =>
                trivial⟩⟩⟩⟩⟩

end Requests

/-- A call takes the steps that it executes out of the pending steps. -/
theorem CallEffect.pending_length {rows after : Rows}
    {moments : List (Moment Command Command.Reply (Session Rows κ))}
    (effect : CallEffect rows moments after) :
    (executedIds moments).length + after.pendingIds.length ≤ rows.pendingIds.length := by
  have apart : (executedIds moments ++ after.pendingIds).Nodup := by
    apply effect.executedOnce.append after.pendingIds_nodup
    intro id executed waits
    obtain ⟨step, inside, rfl, pending⟩ := Rows.mem_pendingIds.mp waits
    exact (effect.pending step inside pending).2 executed
  have within : executedIds moments ++ after.pendingIds ⊆ rows.pendingIds := by
    intro id inside
    obtain executed | waits := List.mem_append.mp inside
    · exact effect.executed id executed
    · obtain ⟨step, present, rfl, pending⟩ := Rows.mem_pendingIds.mp waits
      exact (effect.pending step present pending).1
  rw [← List.length_append]
  exact (List.subperm_of_subset apart within).length_le

namespace AnyJobAction

/-- An action of a world without a held lock. -/
theorem effect {world : World κ} (free : world.session.locks = []) (action : AnyJobAction κ) :
    CallEffect world.db (action.moments world) (action.step world).db ∧
      (action.step world).session.locks = [] ∧
      (action.continues world = true → 0 < (executedIds (action.moments world)).length) := by
  cases action with
  | request request clock =>
      obtain ⟨reply, final, handled, same⟩ := world.handle_end request clock
      have internal := Program.issues_trace (Session.answer Connectors.none) request.internal
        (world.session.opened clock)
      have keeps := handled.keeps standing_confirmless
      have locks : final.locks = [] := by cases handled <;> exact free
      rw [AnyJobAction.step, same]
      refine ⟨CallEffect.quiet internal keeps, locks, fun again => ?_⟩
      exact absurd again Bool.false_ne_true
  | run job invocation =>
      obtain ⟨ran, locks⟩ := runRotationStep_ran invocation.connectors
        (world.session.opened_pending invocation.clock) free job
      refine ⟨?_, locks, ?_⟩
      · cases ran with
        | skipped internal stops rows =>
            apply CallEffect.quiet internal
            change Keeps _ _ (Session.closed _).db
            rw [Session.closed_db, rows]
            exact Keeps.refl _
        | called ended ends trace rows =>
            change CallEffect _ _ (Session.closed _).db
            rw [Session.closed_db, rows]
            exact ends.effect trace
      · intro again
        cases ran with
        | skipped internal stops rows => exact absurd (again.symm.trans stops) (by simp)
        | called ended ends trace rows =>
            cases trace with
            | quiet none internal stops => exact absurd (again.symm.trans stops) (by simp)
            | ran step executes trace =>
                obtain ⟨before, state, rest, split, _⟩ := trace.execution
                change 0 < (executedIds (Program.trace _ _ _)).length
                rw [split, executedIds_append, List.length_append]
                apply Nat.lt_of_lt_of_le _ (Nat.le_add_left _ _)
                exact Nat.succ_pos _

/-- A run keeps its log accounted, and what it executes comes out of the pending steps. -/
theorem run_accounted (actions : List (AnyJobAction κ)) {world : World κ}
    (free : world.session.locks = [])
    {earlier : List (Moment Command Command.Reply (Session Rows κ))}
    (accounted : Accounted world.db earlier) :
    Accounted (runActions AnyJobAction.step actions world).db (earlier ++ log actions world) ∧
      (∀ visit ∈ visits AnyJobAction.step actions world, visit.2.continues visit.1 = true →
        (visit.2.step visit.1).db.pendingIds.length < visit.1.db.pendingIds.length) ∧
      (visits AnyJobAction.step actions world).countP (fun visit => visit.2.continues visit.1) ≤
        world.db.pendingIds.length := by
  induction actions generalizing world earlier with
  | nil => simpa [log] using accounted
  | cons action rest ih =>
      obtain ⟨effect, locks, continues⟩ := effect free action
      obtain ⟨last, falls, count⟩ := ih locks (accounted.extend effect)
      have length := effect.pending_length
      have less (again : action.continues world = true) :
          (action.step world).db.pendingIds.length < world.db.pendingIds.length := by
        have executes := continues again
        omega
      refine ⟨?_, ?_, ?_⟩
      · rw [List.append_assoc] at last
        exact last
      · rw [visits_cons, List.forall_mem_cons]
        exact ⟨less, falls⟩
      · rw [visits_cons, List.countP_cons]
        split
        · rename_i again
          have below := less again
          omega
        · omega

end AnyJobAction

/-- Before the first call nothing has been executed. -/
theorem Proposal.accounted (proposal : Proposal) :
    Accounted proposal.rows ([] : List (Moment Command Command.Reply (Session Rows κ))) where
  executedOnce := List.nodup_nil
  compensatedOnce := List.nodup_nil
  fresh _ _ := ⟨List.not_mem_nil, List.not_mem_nil⟩
  finished step inside ended := by
    obtain ⟨spec, _, rfl⟩ := List.mem_map.mp inside
    have pending : StepStatus.pending = .done := ended
    exact absurd pending (by decide)
  justified before moment after split := by
    exact absurd split (by simp)

/-- In every run a step executes at most once and is compensated at most once, and only after an
execution that returned done. Every call that asks for the next job leaves fewer pending steps, so
there are at most as many such calls as steps. -/
theorem steps_execute_once (proposal : Proposal) (external : κ) (actions : List (AnyJobAction κ)) :
    let world := World.proposed proposal external
    let log := AnyJobAction.log actions world
    (executedIds log).Nodup ∧ (compensatedIds log).Nodup ∧
    (∀ before moment after, log = before ++ moment :: after →
      ∀ id, moment.issued.compensated = some id → ∃ earlier ∈ before, Finishes id earlier) ∧
    (∀ visit ∈ visits AnyJobAction.step actions world, visit.2.continues visit.1 = true →
      (visit.2.step visit.1).db.pendingIds.length < visit.1.db.pendingIds.length) ∧
    (visits AnyJobAction.step actions world).countP (fun visit => visit.2.continues visit.1) ≤
      proposal.steps.length := by
  intro world log
  obtain ⟨accounted, falls, count⟩ := AnyJobAction.run_accounted actions
    (show world.session.locks = [] from rfl) proposal.accounted
  rw [List.nil_append] at accounted
  refine ⟨accounted.executedOnce, accounted.compensatedOnce, accounted.justified, falls, ?_⟩
  apply count.trans
  have all : world.db.pendingIds.length ≤ proposal.rows.steps.length := by
    rw [Rows.pendingIds, List.length_map]
    exact List.length_filter_le _ _
  rw [Proposal.rows, List.length_map] at all
  exact all

end Sprawl
