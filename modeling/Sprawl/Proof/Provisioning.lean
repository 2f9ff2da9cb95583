/-
This file proves when crashes leave one credential, the one that the rotation row names.
-/

import Sprawl.Proof.CallMoments
import Sprawl.Proof.Crash

namespace Sprawl

open Effect

variable {κ : Type}

/-- The rotation row names the only credential that is outstanding. -/
def Named (rotation : Rotation) (calls : List ConnectorEvent) : Prop :=
  ∃ ref, rotation.newSecretRef = some ref ∧ outstanding calls = [ref.credentialId]

/-- The rotation row names a credential that a rollback may have deleted already. -/
def Held (rotation : Rotation) (calls : List ConnectorEvent) : Prop :=
  ∃ ref, rotation.newSecretRef = some ref ∧
    (outstanding calls = [ref.credentialId] ∨ outstanding calls = [])

theorem Named.held {rotation : Rotation} {calls : List ConnectorEvent}
    (named : Named rotation calls) : Held rotation calls := by
  obtain ⟨ref, known, live⟩ := named
  exact ⟨ref, known, Or.inl live⟩

/-- The rotation has exactly one provision step. -/
def Rows.provisionsOnce (rows : Rows) : Prop :=
  (rows.steps.countP fun step => step.kind = .provision) = 1

/-- Two provision steps of such a rotation are the same step. -/
theorem Rows.provisionsOnce.unique {rows : Rows} (once : rows.provisionsOnce)
    {first second : RotationStep} (inside : first ∈ rows.steps) (kind : first.kind = .provision)
    (within : second ∈ rows.steps) (same : second.kind = .provision) : first = second := by
  rw [Rows.provisionsOnce, List.countP_eq_length_filter, List.length_eq_one_iff] at once
  obtain ⟨only, all⟩ := once
  have member {step : RotationStep} (present : step ∈ rows.steps) (kind : step.kind = .provision) :
      step = only := by
    have filtered : step ∈ rows.steps.filter fun step => step.kind = .provision :=
      List.mem_filter.mpr ⟨present, decide_eq_true kind⟩
    rw [all] at filtered
    exact List.mem_singleton.mp filtered
  exact (member inside kind).trans (member within same).symm

theorem Rows.provisionsOnce.exists {rows : Rows} (once : rows.provisionsOnce) :
    ∃ step ∈ rows.steps, step.kind = .provision := by
  have positive : 0 < rows.steps.countP fun step => step.kind = .provision := by
    rw [once]
    exact Nat.one_pos
  obtain ⟨step, inside, kind⟩ := List.countP_pos_iff.mp positive
  exact ⟨step, inside, of_decide_eq_true kind⟩

/-- The calls agree with the rows: a provision step of an unfailed rotation is pending or done with
its credential, a rollback may delete this credential, and a completed rotation names it. -/
structure Tied (rows : Rows) (calls : List ConnectorEvent) : Prop where
  intact : ¬ HasFailed rows → ∀ step ∈ rows.steps, step.kind = .provision →
    step.status = .pending ∨ (step.status = .done ∧ Named rows.rotation calls)
  held : ∀ step ∈ rows.steps, step.kind = .provision → step.status = .done →
    Held rows.rotation calls
  completed : rows.rotation.status = .completed → Named rows.rotation calls

namespace Tied

variable {rows after : Rows} {calls later : List ConnectorEvent}

/-- Rows with the same steps and the same reference stay tied unless they become completed. -/
theorem of_steps (tied : Tied rows calls) (steps : after.steps = rows.steps)
    (ref : after.rotation.newSecretRef = rows.rotation.newSecretRef)
    (completed : after.rotation.status = .completed → Named rows.rotation calls) :
    Tied after calls where
  intact none step inside kind := by
    rw [HasFailed, steps] at none
    rw [Named, ref]
    exact tied.intact none step (steps ▸ inside) kind
  held step inside kind done := by
    rw [Held, ref]
    exact tied.held step (steps ▸ inside) kind done
  completed ended := by
    rw [Named, ref]
    exact completed ended

/-- Calls with the same outstanding credentials stay tied. -/
theorem of_calls (tied : Tied rows calls) (same : outstanding later = outstanding calls) :
    Tied rows later where
  intact none step inside kind := by
    rw [Named, same]
    exact tied.intact none step inside kind
  held step inside kind done := by
    rw [Held, same]
    exact tied.held step inside kind done
  completed ended := by
    rw [Named, same]
    exact tied.completed ended

/-- A rotation whose provision step waits is tied to every list of calls. -/
theorem of_pending (waits : ∀ step ∈ rows.steps, step.kind = .provision → step.status = .pending)
    (unfinished : rows.rotation.status ≠ .completed) : Tied rows later where
  intact _ step inside kind := Or.inl (waits step inside kind)
  held step inside kind done := absurd (done.symm.trans (waits step inside kind)) (by simp)
  completed ended := absurd ended unfinished

end Tied

/-- The state in which a call may run a step. A provision step finds no outstanding credential, a
store and a plan. Another step finds the provision step pending, or done with its credential. A
revoke step does not name that credential. -/
structure Untorn (rows : Rows) (calls : List ConnectorEvent) (keys : ConnectorKeys)
    (step : RotationStep) : Prop where
  provisions : step.kind = .provision →
    outstanding calls = [] ∧ (keys.store && rows.rotation.hasPlan) = true
  provisioned : ∀ other ∈ rows.steps, other.kind = .provision →
    other.status = .pending ∨ (other.status = .done ∧ outstanding calls ≠ [])
  revokes : step.kind = .revoke →
    (revokedCredential step.target).credentialId ∉ outstanding calls

section Events

variable {keys : ConnectorKeys} {step : RotationStep} {rotation : Rotation}
  {events : List ConnectorEvent} {result : StepResult}

/-- A step of another kind leaves the outstanding credentials alone. -/
theorem Executed.track_eq (outcome : Executed keys step rotation events result)
    (other : step.kind ≠ .provision) {live : List String}
    (unnamed : step.kind = .revoke → (revokedCredential step.target).credentialId ∉ live) :
    ∀ event ∈ events, event.track live = live := by
  have kept (kind : step.kind = .revoke) :
      (live.filter fun id => id ≠ (revokedCredential step.target).credentialId) = live := by
    rw [List.filter_eq_self]
    intro id inside
    have different : id ≠ (revokedCredential step.target).credentialId := fun same =>
      unnamed kind (same ▸ inside)
    simpa using different
  cases outcome with
  | noCloud kind | createFailed kind | created kind | writeFailed kind | provisioned kind =>
      exact absurd kind other
  | revoked kind present =>
      simp only [List.forall_mem_cons]
      exact ⟨rfl, kept kind, by simp⟩
  | _ => simp [ConnectorEvent.track]

/-- Only a provision step returns a reference. -/
theorem Executed.newSecretRef_eq_none (outcome : Executed keys step rotation events result)
    (other : step.kind ≠ .provision) : result.newSecretRef = none := by
  cases outcome with
  | provisioned kind => exact absurd kind other
  | _ => rfl

/-- A provision step with a store and a plan creates the credential that its reference names. -/
theorem Executed.creates (outcome : Executed keys step rotation events result)
    (kind : step.kind = .provision) (done : result.status = .done)
    (stored : (keys.store && rotation.hasPlan) = true) :
    ∃ ref, result.newSecretRef = some ref ∧ events.foldl ConnectorEvent.track [] =
      [ref.credentialId] := by
  cases outcome with
  | provisioned kind present stored material version => exact ⟨_, rfl, rfl⟩
  | created kind present unstored material => exact absurd (unstored.symm.trans stored) (by simp)
  | noCloud | createFailed | writeFailed => exact absurd done (by simp [failedWith])
  | _ => simp_all

/-- Events that leave the outstanding credentials alone do so after every part of them. -/
theorem outstanding_take {calls : List ConnectorEvent}
    (kept : ∀ event ∈ events, event.track (outstanding calls) = outstanding calls) (count : Nat) :
    outstanding (calls ++ events.take count) = outstanding calls := by
  have every : ∀ event ∈ events.take count, event.track (outstanding calls) = outstanding calls :=
    fun event inside => kept event (List.mem_of_mem_take inside)
  rw [outstanding_append]
  generalize events.take count = some at every
  induction some with
  | nil => rfl
  | cons event rest ih =>
      obtain ⟨first, others⟩ := List.forall_mem_cons.mp every
      rw [List.foldl_cons, first]
      exact ih others

/-- A compensation deletes the held credential or nothing. -/
theorem Compensated.held (outcome : Compensated keys step rotation events result)
    {calls : List ConnectorEvent} (held : Held rotation calls) (count : Nat) :
    Held rotation (calls ++ events.take count) := by
  obtain ⟨ref, known, live⟩ := held
  refine ⟨ref, known, ?_⟩
  cases count with
  | zero => simpa using live
  | succ count =>
      cases outcome with
      | deleted deletes present other same =>
          obtain rfl : ref = other := Option.some.inj (known.symm.trans same)
          rw [List.take_succ_cons, List.take_nil, outstanding_append]
          right
          rcases live with live | live <;>
            simp [live, ConnectorEvent.track, newCredential]
      | deleteFailed deletes present other same text =>
          rw [List.take_succ_cons, List.take_nil, outstanding_append]
          exact live
      | quiet keeps => simpa using live

end Events

/-- A connector program that stops early has made a part of its calls. -/
theorem stateAfter_recording {α : Type} (connectors : Connectors κ)
    (program : Program ConnectorCall ConnectorCall.Reply α) (count : Nat) (external : κ)
    (calls : List ConnectorEvent) :
    (program.stateAfter connectors.recording count (external, calls)).2 =
      calls ++ ((program.trace connectors.answer external).map eventOf).take count := by
  induction program generalizing count external calls with
  | pure value => cases count <;> simp [Program.stateAfter, Program.trace]
  | command issued rest ih =>
      cases count with
      | zero => simp [Program.stateAfter]
      | succ count =>
          rw [Program.trace_command, List.map_cons, List.take_succ_cons]
          change ((rest (connectors.answer issued external).1).stateAfter connectors.recording count
            ((connectors.answer issued external).2,
              calls ++ [⟨issued, (connectors.answer issued external).1⟩])).2 = _
          rw [ih, List.append_assoc]
          rfl

section Cut

variable (connectors : Connectors κ) (count : Nat) {session : Session Rows κ}

theorem Session.cut_db (issued : Command) :
    (session.cut connectors count issued).db = session.db := by
  cases issued <;> rfl

theorem Session.cut_of_internal {issued : Command} (internal : issued.isInternal = true) :
    session.cut connectors count issued = session := by
  cases issued with
  | executeStep step rotation => exact absurd internal (by simp [Command.isInternal])
  | compensateStep step rotation => exact absurd internal (by simp [Command.isInternal])
  | _ => rfl

theorem Session.cut_executeStep (step : RotationStep) (rotation : Rotation) :
    (session.cut connectors count (.executeStep step rotation)).calls =
      session.calls ++ (session.outcomeEvents connectors step rotation).take count :=
  stateAfter_recording connectors _ count session.external session.calls

theorem Session.cut_compensateStep (step : RotationStep) (rotation : Rotation) :
    ∃ events result, Compensated connectors.toConnectorKeys step rotation events result ∧
      (session.cut connectors count (.compensateStep step rotation)).calls =
        session.calls ++ events.take count :=
  ⟨_, _, compensateStep_compensated connectors step rotation session.external,
    stateAfter_recording connectors _ count session.external session.calls⟩

end Cut

/-- The state inside the command of a moment is tied, wherever the worker stops. -/
def TiedAt (connectors : Connectors κ)
    (moment : Moment Command Command.Reply (Session Rows κ)) : Prop :=
  ∀ count, Tied (moment.state.cut connectors count moment.issued).db
    (moment.state.cut connectors count moment.issued).calls

theorem TiedAt.of_internal {connectors : Connectors κ}
    {moment : Moment Command Command.Reply (Session Rows κ)}
    (internal : moment.issued.isInternal = true) (tied : Tied moment.state.db moment.state.calls) :
    TiedAt connectors moment := by
  intro count
  rw [Session.cut_of_internal connectors count internal]
  exact tied

/-- A rollback of a failed step compensates with the rotation row that the call has loaded. -/
structure Undoing (rotation : Rotation) (rows : Rows) (calls : List ConnectorEvent) : Prop where
  unfinished : rows.rotation.status ≠ .completed
  failed : HasFailed rows
  saved : rows.rotation.newSecretRef = rotation.newSecretRef
  held : ∀ step ∈ rows.steps, step.kind = .provision → step.status = .done → Held rotation calls

namespace Undoing

variable {rotation : Rotation} {rows after : Rows} {calls : List ConnectorEvent}

theorem tied (undoing : Undoing rotation rows calls) : Tied rows calls where
  intact none := absurd undoing.failed none
  held step inside kind done := by
    rw [Held, undoing.saved]
    exact undoing.held step inside kind done
  completed ended := absurd ended undoing.unfinished

theorem of_steps (undoing : Undoing rotation rows calls) (steps : after.steps = rows.steps)
    (ref : after.rotation.newSecretRef = rows.rotation.newSecretRef)
    (unfinished : after.rotation.status ≠ .completed) : Undoing rotation after calls where
  unfinished := unfinished
  failed := by
    rw [HasFailed, steps]
    exact undoing.failed
  saved := ref.trans undoing.saved
  held step inside := undoing.held step (steps ▸ inside)

theorem ended (undoing : Undoing rotation rows calls) (actor : String) (failures : List String)
    (time : Time) : Undoing rotation (rows.rollbackEnded actor failures time) calls :=
  undoing.of_steps rfl rfl (rollbackStatus_ended failures).2

/-- A compensation keeps the credential held, also when the worker stops inside it. -/
theorem compensated {keys : ConnectorKeys} {step : RotationStep} {events : List ConnectorEvent}
    {result : StepResult} (undoing : Undoing rotation rows calls)
    (outcome : Compensated keys step rotation events result) (count : Nat) :
    Undoing rotation rows (calls ++ events.take count) where
  unfinished := undoing.unfinished
  failed := undoing.failed
  saved := undoing.saved
  held other inside kind done := outcome.held (undoing.held other inside kind done) count

theorem compensated_all {keys : ConnectorKeys} {step : RotationStep} {events : List ConnectorEvent}
    {result : StepResult} (undoing : Undoing rotation rows calls)
    (outcome : Compensated keys step rotation events result) :
    Undoing rotation rows (calls ++ events) := by
  have all := undoing.compensated outcome events.length
  rwa [List.take_length] at all

/-- The loop keeps the rollback going while a failed step is not among its steps. -/
theorem passes {keys : ConnectorKeys} {time : Time} {steps : List RotationStep} {final : Rows}
    {events : List ConnectorEvent} {failures : List String} (undoing : Undoing rotation rows calls)
    (all : CompensatedAll keys rotation time steps rows events final failures)
    (apart : ∃ failed ∈ rows.steps, failed.status = .failed ∧ failed.id ∉ steps.map (·.id)) :
    Undoing rotation final (calls ++ events) := by
  induction all generalizing calls with
  | nil rows => simpa using undoing
  | @cons first rest rows final events later result failures outcome others ih =>
      obtain ⟨failed, inside, status, absent⟩ := apart
      rw [List.map_cons, List.mem_cons, not_or] at absent
      have kept : failed ∈ (rows.patchSteps (fun other => other.id = first.id)
          (compensationPatch result time)).steps :=
        mem_updateSteps.mpr ⟨failed, inside, by simp [absent.1]⟩
      rw [← List.append_assoc]
      apply ih _ ⟨failed, kept, status, absent.2⟩
      have called := undoing.compensated_all outcome
      refine ⟨called.unfinished, ⟨failed, kept, status⟩, called.saved, ?_⟩
      intro step present kind done
      obtain ⟨old, within, rfl⟩ := mem_updateSteps.mp present
      by_cases named : old.id = first.id
      · have ended : (compensationPatch result time).status.getD old.status = .done := by
          simpa [named] using done
        simp only [compensationPatch, Option.getD_some] at ended
        split at ended <;> exact absurd ended (by simp)
      · simp only [named, decide_false, Bool.false_eq_true, if_false] at kind done
        exact called.held old within kind done

end Undoing

section Rollback

variable {connectors : Connectors κ} {actor : String} {session : Session Rows κ}
  {rotation : Rotation} {step : RotationStep} {error : Option String}
  (tied : Tied session.db session.calls) (unfinished : session.db.rotation.status ≠ .completed)
  (inside : step ∈ session.db.steps) (pending : step.status = .pending)
  (saved : session.db.rotation.newSecretRef = rotation.newSecretRef)

include tied unfinished inside saved

/-- A failed step starts a rollback. -/
theorem Tied.undoing :
    Undoing rotation (session.db.failed actor step error session.clock) session.calls where
  unfinished := unfinished
  failed := ⟨_, mem_updateSteps.mpr ⟨step, inside, rfl⟩, by simp⟩
  saved := saved
  held other present kind done := by
    obtain ⟨old, within, rfl⟩ := mem_updateSteps.mp present
    by_cases same : old.id = step.id
    · simp [same] at done
    · simp only [same, decide_false, Bool.false_eq_true, if_false] at kind done
      obtain ⟨ref, known, live⟩ := tied.held old within kind done
      exact ⟨ref, saved ▸ known, live⟩

include pending

/-- The rollback keeps going through its loop. -/
theorem Tied.undoing_passes {before rest : List RotationStep} {final : Rows}
    {events : List ConnectorEvent} {failures : List String}
    (split : stepsToCompensate session.db.ordered = before ++ rest)
    (passes : CompensatedAll connectors.toConnectorKeys rotation session.clock before
      (session.db.undoing actor step error session.clock) events final failures) :
    Undoing rotation final (session.calls ++ events) := by
  have begun : Undoing rotation (session.db.undoing actor step error session.clock)
      session.calls :=
    (tied.undoing unfinished inside saved).of_steps rfl rfl (by simp [Rows.rollingBack])
  apply begun.passes passes
  refine ⟨_, mem_updateSteps.mpr ⟨step, inside, rfl⟩, by simp, ?_⟩
  simp only [decide_true, if_true, StepPatch.apply_id]
  intro named
  obtain ⟨other, within, same⟩ := List.mem_map.mp named
  have listed : other ∈ stepsToCompensate session.db.ordered :=
    split ▸ List.mem_append_left _ within
  obtain ⟨present, done⟩ := mem_stepsToCompensate.mp listed
  obtain rfl := session.db.eq_of_id present inside same
  exact absurd (done.symm.trans pending) (by simp)

/-- A rollback stays tied at each of its moments. -/
theorem Undoes.tiedAt {moment : Moment Command Command.Reply (Session Rows κ)}
    (undoes : Undoes connectors actor session rotation session.db.ordered step error moment) :
    TiedAt connectors moment := by
  have failed := @Tied.undoing _ actor session rotation step error tied unfinished inside saved
  have begun : Undoing rotation (session.db.undoing actor step error session.clock)
      session.calls := failed.of_steps rfl rfl (by simp [Rows.rollingBack])
  cases undoes with
  | failing internal calls rows =>
      apply TiedAt.of_internal internal
      rw [calls]
      rcases rows with same | same <;> rw [same]
      · exact tied
      · exact failed.tied
  | beginning internal calls rows =>
      apply TiedAt.of_internal internal
      rw [calls]
      rcases rows with same | same <;> rw [same]
      · exact failed.tied
      · exact begun.tied
  | compensating within =>
      cases within with
      | calling before next rest split events failures passes issued called =>
          have going := tied.undoing_passes unfinished inside pending saved split passes
          intro count
          rw [Session.cut_db, issued]
          obtain ⟨more, result, outcome, cut⟩ :=
            @Session.cut_compensateStep _ connectors count moment.state next rotation
          rw [cut, called]
          exact (going.compensated outcome count).tied
      | recording before next rest split events more failures result passes outcome internal called =>
          have going := tied.undoing_passes unfinished inside pending saved split passes
          apply TiedAt.of_internal internal
          rw [called]
          exact (going.compensated_all outcome).tied
  | ending events compensated failures all internal calls rows =>
      have going := tied.undoing_passes unfinished inside pending saved
        (List.append_nil _).symm all
      apply TiedAt.of_internal internal
      rw [calls]
      rcases rows with same | same <;> rw [same]
      · exact going.tied
      · exact (going.ended actor failures session.clock).tied

/-- A rollback ends tied. -/
theorem RolledBack.keepsTied {events : List ConnectorEvent} {final : Rows}
    (undone : RolledBack connectors actor session.db rotation session.db.ordered step error
      session.clock events final) : Tied final (session.calls ++ events) := by
  obtain ⟨compensated, failures, all, rfl⟩ := undone.passes
  have going := tied.undoing_passes unfinished inside pending saved (List.append_nil _).symm all
  exact (going.ended actor failures session.clock).tied

end Rollback

section Call

variable {connectors : Connectors κ} {actor : String} {session : Session Rows κ}
  {step : RotationStep} (once : session.db.provisionsOnce)
  (tied : Tied session.db session.calls) (executes : Executes session.db session.clock step)
  (untorn : Untorn session.db session.calls connectors.toConnectorKeys step)

/-- A running step does not show a completed rotation. -/
theorem StepKind.toStatus_ne_completed (kind : StepKind) : kind.toStatus ≠ .completed := by
  cases kind <;> simp [StepKind.toStatus]

include once tied executes untorn

/-- A running step stays tied, wherever its executor stops. -/
theorem Tied.running (count : Nat) : Tied (session.db.started actor step session.clock)
    (session.calls ++
      (session.outcomeEvents connectors step session.db.rotation).take count) := by
  obtain ⟨inside, pending, _⟩ := Rows.nextStep_eq_some executes.next
  have unfinished : (session.db.started actor step session.clock).rotation.status ≠ .completed := by
    rw [Rows.started_status]
    exact step.kind.toStatus_ne_completed
  by_cases kind : step.kind = .provision
  · apply Tied.of_pending _ unfinished
    intro other present same
    rw [Rows.started_steps] at present
    rw [once.unique present same inside kind]
    exact pending
  · have kept := (session.outcome_executed connectors step session.db.rotation).track_eq kind
      untorn.revokes
    have shown : Tied (session.db.started actor step session.clock) session.calls :=
      tied.of_steps (Rows.started_steps _ _ _ _) (Rows.started_newSecretRef _ _ _ _)
        fun ended => absurd ended unfinished
    exact shown.of_calls (outstanding_take kept count)

theorem Tied.running_all : Tied (session.db.started actor step session.clock)
    (session.calls ++ session.outcomeEvents connectors step session.db.rotation) := by
  have all := @Tied.running _ connectors actor session step once tied executes untorn
    (session.outcomeEvents connectors step session.db.rotation).length
  rwa [List.take_length] at all

omit tied in
/-- A finished provision step names its credential. -/
theorem Tied.provisioned {after : Rows} (kind : step.kind = .provision)
    (done : (session.outcome connectors step session.db.rotation).status = .done)
    (steps : after.steps = updateSteps (fun other => other.id = step.id)
      { status := some .done, executedAt := some session.clock } session.db.steps)
    (ref : after.rotation.newSecretRef =
      (session.outcome connectors step session.db.rotation).newSecretRef.or
        session.db.rotation.newSecretRef) :
    Tied after (session.calls ++ session.outcomeEvents connectors step session.db.rotation) := by
  have inside := (Rows.nextStep_eq_some executes.next).1
  obtain ⟨empty, stored⟩ := untorn.provisions kind
  obtain ⟨new, saved, live⟩ := (session.outcome_executed connectors step
    session.db.rotation).creates kind done stored
  have named : Named after.rotation (session.calls ++
      session.outcomeEvents connectors step session.db.rotation) := by
    refine ⟨new, by rw [ref, saved]; rfl, ?_⟩
    rw [outstanding_append, empty]
    exact live
  refine ⟨fun _ other present same => Or.inr ⟨?_, named⟩, fun _ _ _ _ => named.held, fun _ => named⟩
  rw [steps] at present
  obtain ⟨old, within, rfl⟩ := mem_updateSteps.mp present
  have provisions : old.kind = .provision := by
    split at same <;> exact same
  rw [once.unique within provisions inside kind]
  simp

/-- A finished step of another kind keeps the credential that the row names. -/
theorem Tied.proceeded {after : Rows} (kind : step.kind ≠ .provision)
    (steps : after.steps = updateSteps (fun other => other.id = step.id)
      { status := some .done, executedAt := some session.clock } session.db.steps)
    (ref : after.rotation.newSecretRef =
      (session.outcome connectors step session.db.rotation).newSecretRef.or
        session.db.rotation.newSecretRef)
    (last : after.rotation.status = .completed →
      (remainingSteps session.db.ordered step).isEmpty = true) :
    Tied after (session.calls ++ session.outcomeEvents connectors step session.db.rotation) := by
  obtain ⟨inside, pending, least⟩ := Rows.nextStep_eq_some executes.next
  have outcome := session.outcome_executed connectors step session.db.rotation
  rw [outcome.newSecretRef_eq_none kind, Option.none_or] at ref
  have same := outstanding_take (outcome.track_eq kind untorn.revokes)
    (session.outcomeEvents connectors step session.db.rotation).length
  rw [List.take_length] at same
  have before {other : RotationStep} (present : other ∈ after.steps)
      (provisions : other.kind = .provision) : other ∈ session.db.steps := by
    rw [steps] at present
    obtain ⟨old, within, rfl⟩ := mem_updateSteps.mp present
    by_cases equal : old.id = step.id
    · obtain rfl := session.db.eq_of_id within inside equal
      simp only [decide_true, if_true, StepPatch.apply_kind] at provisions
      exact absurd provisions kind
    · simpa [equal] using within
  constructor
  · intro none other present provisions
    rw [Named, ref, same]
    apply tied.intact _ other (before present provisions) provisions
    intro failing
    obtain ⟨failed, within, status⟩ := failing
    have apart : failed.id ≠ step.id := by
      intro equal
      obtain rfl := session.db.eq_of_id within inside equal
      exact absurd (status.symm.trans pending) (by simp)
    exact none ⟨failed, steps ▸ mem_updateSteps.mpr ⟨failed, within, by simp [apart]⟩, status⟩
  · intro other present provisions done
    rw [Held, ref, same]
    exact tied.held other (before present provisions) provisions done
  · intro ended
    obtain ⟨other, present, provisions⟩ := once.exists
    rw [Named, ref, same]
    obtain waits | ⟨done, live⟩ := untorn.provisioned other present provisions
    · have different : other.idx ≠ step.idx := fun equal =>
        kind (session.db.eq_of_idx present inside equal ▸ provisions)
      have remains : other ∈ remainingSteps session.db.ordered step := by
        simp only [remainingSteps, List.mem_filter, Rows.mem_ordered]
        exact ⟨present, by simp [lt_of_le_of_ne (least other present waits) (Ne.symm different), waits]⟩
      rw [List.isEmpty_iff.mp (last ended)] at remains
      exact absurd remains List.not_mem_nil
    · obtain ⟨new, known, only | gone⟩ := tied.held other present provisions done
      · exact ⟨new, known, only⟩
      · exact absurd gone live

/-- A finished step stays tied. -/
theorem Tied.finished {after : Rows}
    (done : (session.outcome connectors step session.db.rotation).status = .done)
    (steps : after.steps = updateSteps (fun other => other.id = step.id)
      { status := some .done, executedAt := some session.clock } session.db.steps)
    (ref : after.rotation.newSecretRef =
      (session.outcome connectors step session.db.rotation).newSecretRef.or
        session.db.rotation.newSecretRef)
    (last : after.rotation.status = .completed →
      (remainingSteps session.db.ordered step).isEmpty = true) :
    Tied after (session.calls ++ session.outcomeEvents connectors step session.db.rotation) := by
  by_cases kind : step.kind = .provision
  · exact Tied.provisioned once executes untorn kind done steps ref
  · exact tied.proceeded once executes untorn kind steps ref last

theorem Tied.afterFinish
    (done : (session.outcome connectors step session.db.rotation).status = .done) :
    Tied ((session.db.started actor step session.clock).afterFinish actor session.db.ordered step
        (session.outcome connectors step session.db.rotation).newSecretRef session.clock)
      (session.calls ++ session.outcomeEvents connectors step session.db.rotation) := by
  apply tied.finished once executes untorn done
  · rw [Rows.afterFinish_steps, Rows.started_steps]
  · rw [Rows.afterFinish_newSecretRef, Rows.started_newSecretRef]
  · rw [Rows.afterFinish_status, Rows.started_status]
    intro ended
    by_contra open'
    rw [if_neg open'] at ended
    exact step.kind.toStatus_ne_completed ended

/-- The moments of a running step are tied. -/
theorem StepShows.tiedAt {moment : Moment Command Command.Reply (Session Rows κ)}
    (shows : StepShows connectors actor session step moment) : TiedAt connectors moment := by
  obtain ⟨inside, pending, _⟩ := Rows.nextStep_eq_some executes.next
  have running := @Tied.running _ connectors actor session step once tied executes untorn
  cases shows with
  | starting internal calls rows =>
      apply TiedAt.of_internal internal
      rw [calls]
      rcases rows with same | same <;> rw [same]
      · exact tied
      · simpa using running 0
  | executing issued external calls rows =>
      intro count
      rw [Session.cut_db, issued, Session.cut_executeStep, rows, calls, Session.outcomeEvents,
        external]
      exact running count
  | finishing done internal calls rows =>
      apply TiedAt.of_internal internal
      rw [calls]
      rcases rows with (same | same) | same <;> rw [same]
      · exact tied.running_all once executes untorn
      · apply tied.finished once executes untorn done
        · rw [Rows.finished_steps, Rows.started_steps]
        · rw [Rows.finished_newSecretRef, Rows.started_newSecretRef]
        · rw [Rows.finished_status, Rows.started_status]
          exact fun ended => absurd ended step.kind.toStatus_ne_completed
      · exact tied.afterFinish once executes untorn done
  | undoing failed executed reaches undoes =>
      have ordered : executed.db.ordered = session.db.ordered := by
        rw [reaches.db, Rows.started_ordered]
      rw [← ordered] at undoes
      apply undoes.tiedAt _ _ _ pending
      · rw [reaches.db, Rows.started_newSecretRef]
      · rw [reaches.db, reaches.calls]
        exact tied.running_all once executes untorn
      · rw [reaches.db, Rows.started_status]
        exact step.kind.toStatus_ne_completed
      · rw [reaches.db, Rows.started_steps]
        exact inside

theorem StepEnd.keepsTied {final : Session Rows κ}
    (ends : StepEnd connectors actor session step final) : Tied final.db final.calls := by
  obtain ⟨inside, pending, _⟩ := Rows.nextStep_eq_some executes.next
  cases ends with
  | finished done ends =>
      rw [ends.db, ends.calls]
      exact tied.afterFinish once executes untorn done
  | rolledBack failed later rows undone ends =>
      let executed : Session Rows κ :=
        { session with
          db := session.db.started actor step session.clock
          calls := session.calls ++ session.outcomeEvents connectors step session.db.rotation }
      have ordered : executed.db.ordered = session.db.ordered := Rows.started_ordered _ _ _ _
      have kept : Tied executed.db executed.calls := tied.running_all once executes untorn
      rw [ends.db, ends.calls, ← List.append_assoc]
      rw [← ordered] at undone
      apply @RolledBack.keepsTied _ connectors actor executed _ step _ kept _ _ pending _ later rows
        undone
      · rw [Rows.started_status]
        exact step.kind.toStatus_ne_completed
      · rw [Rows.started_steps]
        exact inside
      · exact Rows.started_newSecretRef _ _ _ _

end Call

section Rows

variable {connectors : Connectors κ} {actor : String} {session : Session Rows κ}

/-- A settled rotation stays tied. -/
theorem Tied.settles {rows after : Rows} {calls : List ConnectorEvent} {time : Time}
    (tied : Tied rows calls) (once : rows.provisionsOnce)
    (settles : Settles rows actor time after) : Tied after calls := by
  apply tied.of_steps settles.steps settles.newSecretRef
  intro ended
  cases settles with
  | completed live some finished =>
      obtain ⟨step, inside, kind⟩ := once.exists
      have none : ¬ HasFailed rows := by
        intro failing
        obtain ⟨failed, within, status⟩ := failing
        exact absurd (status.symm.trans (finished failed within)) (by simp)
      obtain waits | ⟨_, named⟩ := tied.intact none step inside kind
      · exact absurd (waits.symm.trans (finished step inside)) (by simp)
      · exact named
  | expired active late => exact absurd ended (by simp)
  | paused live step next flagged unpaused => exact absurd ended (by simp)
  | blocked live step next passed revoke incomplete => exact absurd ended (by simp)

variable (empty : session.pending = []) (once : session.db.provisionsOnce)
  (tied : Tied session.db session.calls)
  (untorn : ∀ step, Executes session.db session.clock step →
    Untorn session.db session.calls connectors.toConnectorKeys step)

include empty once tied untorn

/-- An engine call stays tied, wherever it stops, when it may run its step. -/
theorem advanceRotation_tied :
    (advanceRotation session.db.rotation.id session.db.rotation.workspaceId actor).Ensures
      (Session.answer connectors) session (TiedAt connectors)
      fun _ final => Tied final.db final.calls := by
  constructor
  · intro moment inside
    cases advanceRotation_shows connectors actor empty moment inside with
    | reading reads =>
        apply TiedAt.of_internal reads.internal
        rw [reads.state]
        exact tied
    | settling after settles internal calls rows =>
        apply TiedAt.of_internal internal
        rw [calls]
        rcases rows with same | same <;> rw [same]
        · exact tied
        · exact tied.settles once settles
    | running step executes shows => exact shows.tiedAt once tied executes (untorn step executes)
  · cases (advanceRotation_ensures connectors actor empty).final with
    | idle idles ends =>
        rw [ends.db, ends.calls, List.append_nil]
        exact tied
    | settled after settles ends =>
        rw [ends.db, ends.calls, List.append_nil]
        exact tied.settles once settles
    | ran step executes ends => exact ends.keepsTied once tied executes (untorn step executes)

end Rows

/-- A state keeps the number of provision steps when it keeps the identity of the steps. -/
theorem Keeps.provisionsOnce {before after : Rows}
    (keeps : Keeps RotationStep.identity before after) (once : before.provisionsOnce) :
    after.provisionsOnce := by
  have counted (rows : Rows) : (rows.steps.countP fun step => step.kind = .provision) =
      (rows.steps.map RotationStep.identity).countP fun identity => identity.kind = .provision := by
    rw [List.countP_map]
    rfl
  rw [Rows.provisionsOnce, counted, keeps.steps, ← counted]
  exact once

/-- Every statement keeps the identity of the steps. -/
theorem Rows.apply_keeps (rows : Rows) (statement : Write) :
    Keeps RotationStep.identity rows (rows.apply statement) := by
  cases statement with
  | rotationStatus rotationId workspaceId status time =>
      simp only [Rows.apply]
      split
      · exact Keeps.withStatus _ _ _
      · exact Keeps.refl _
  | newSecretRef rotationId ref time =>
      simp only [Rows.apply]
      split
      · exact ⟨rfl, rfl, rfl⟩
      · exact Keeps.refl _
  | step stepId patch => exact Keeps.patchSteps rows _ fun _ => rfl
  | stepsAt rotationId indexes patch => exact Keeps.patchSteps rows _ fun _ => rfl
  | audit entry => exact ⟨rfl, rfl, rfl⟩

/-- Every command keeps the identity of the steps. -/
theorem Session.answer_keeps (connectors : Connectors κ) (issued : Command)
    (session : Session Rows κ) :
    Keeps RotationStep.identity session.db (session.answer connectors issued).2.db := by
  cases issued with
  | commit =>
      have folded (statements : List Write) (rows : Rows) : Keeps RotationStep.identity rows
          (statements.foldl (fun rows statement => SqlStore.apply statement rows) rows) := by
        induction statements generalizing rows with
        | nil => exact Keeps.refl _
        | cons statement rest ih => exact (rows.apply_keeps statement).trans (ih _)
      exact folded session.pending session.db
  | acquireLock secretId rotationId =>
      simp only [Session.answer]
      split <;> exact Keeps.refl _
  | releaseLock secretId rotationId =>
      simp only [Session.answer]
      split <;> exact Keeps.refl _
  | _ => exact Keeps.refl _

/-- The tied worlds of a rotation with one provision step. -/
structure TiedWorld (world : World κ) : Prop where
  once : world.db.provisionsOnce
  tied : Tied world.db world.calls

/-- The action runs a step only in a state that no crash has torn. -/
def CutAction.untorn (world : World κ) (action : CutAction κ) : Prop :=
  ∀ invocation ∈ action.invocation, ∀ step, Executes world.db invocation.clock step →
    Untorn world.db world.calls invocation.connectors.toConnectorKeys step

namespace TiedWorld

variable {world : World κ}

theorem handle (provisioned : TiedWorld world) (request : Request) (clock : Time) :
    TiedWorld (world.handle request clock) := by
  obtain ⟨progress, _, completed⟩ := world.handle_progress request clock
  obtain ⟨reply, final, handled, same⟩ := world.handle_end request clock
  have identity := handled.keeps identity_confirmless
  rw [same] at progress completed ⊢
  have before {step : RotationStep} (inside : step ∈ final.db.steps) :
      ∃ old ∈ world.db.steps, old.kind = step.kind ∧ old.status = step.status := by
    obtain ⟨old, within, equal⟩ := progress.exists_before inside
    exact ⟨old, within, congrArg Prod.fst equal, congrArg Prod.snd equal⟩
  refine ⟨identity.provisionsOnce provisioned.once, ?_⟩
  change Tied final.db final.calls
  rw [handled.calls]
  constructor
  · intro none step inside kind
    obtain ⟨old, within, sameKind, status⟩ := before inside
    rw [Named, handled.newSecretRef, ← status]
    exact provisioned.tied.intact (fun failed => none (progress.hasFailed.mpr failed)) old within
      (sameKind.trans kind)
  · intro step inside kind done
    obtain ⟨old, within, sameKind, status⟩ := before inside
    rw [Held, handled.newSecretRef]
    exact provisioned.tied.held old within (sameKind.trans kind) (status.trans done)
  · intro ended
    rw [Named, handled.newSecretRef]
    exact provisioned.tied.completed (completed ended)

/-- An action stays tied when it does not run a step in a torn state. -/
theorem step (provisioned : TiedWorld world) (action : CutAction κ)
    (untorn : action.untorn world) : TiedWorld (action.step world) := by
  cases action with
  | request request clock => exact provisioned.handle request clock
  | advance invocation =>
      refine ⟨(world.action_keeps (.advance invocation)).provisionsOnce provisioned.once, ?_⟩
      exact (advanceRotation_tied (world.session.opened_pending invocation.clock) provisioned.once
        provisioned.tied (untorn invocation rfl)).final
  | cut count calls invocation =>
      have keeps : Keeps RotationStep.identity world.db (world.cut count calls invocation).db :=
        Program.cutAfter_invariant (Session.answer invocation.connectors)
          (fun session => Keeps RotationStep.identity world.db session.db)
          (fun issued session kept => kept.trans (session.answer_keeps _ issued))
          (fun issued session kept => by rw [Session.cut_db]; exact kept)
          count (world.engineCall invocation) (Keeps.refl world.db)
      refine ⟨keeps.provisionsOnce provisioned.once, ?_⟩
      have ensures := @advanceRotation_tied _ invocation.connectors invocation.actor
        (world.session.opened invocation.clock) rfl provisioned.once provisioned.tied
        (untorn invocation rfl)
      obtain same | ⟨moment, inside, same⟩ := Program.cutAfter_mem
        (Session.answer invocation.connectors) (Session.cut invocation.connectors calls) count
        (world.engineCall invocation) (world.session.opened invocation.clock)
      · change Tied (Session.closed _).db (Session.closed _).calls
        rw [Session.closed_db, Session.closed_calls, same]
        exact ensures.final
      · change Tied (Session.closed _).db (Session.closed _).calls
        rw [Session.closed_db, Session.closed_calls, same]
        exact ensures.moments moment inside calls

end TiedWorld

/-- A new proposal with one provision step has called nothing. -/
theorem Proposal.tiedWorld {proposal : Proposal}
    (once : (proposal.steps.countP fun spec => spec.kind = .provision) = 1) (external : κ) :
    TiedWorld (World.proposed proposal external) where
  once := by
    change List.countP _ (List.map _ _) = 1
    rw [List.countP_map]
    exact once
  tied := by
    apply Tied.of_pending
    · intro step inside _
      obtain ⟨spec, _, rfl⟩ := List.mem_map.mp inside
      rfl
    · simp [World.proposed, Proposal.rows, Proposal.rotation]

/-- When no call runs a step in a torn state, a completed rotation has exactly one outstanding
credential, the one that its row names. -/
theorem completed_credential_named (proposal : Proposal) (external : κ)
    (once : (proposal.steps.countP fun spec => spec.kind = .provision) = 1)
    (actions : List (CutAction κ))
    (untorn : ∀ visit ∈ visits CutAction.step actions (World.proposed proposal external),
      visit.2.untorn visit.1) :
    ∀ before after, actions = before ++ after →
      let world := runActions CutAction.step before (World.proposed proposal external)
      world.db.rotation.status = .completed → Named world.db.rotation world.calls := by
  intro before after same world completed
  subst same
  rw [visits_append, List.forall_mem_append] at untorn
  have tied : TiedWorld world :=
    invariant_runActions TiedWorld (fun _ action tied untorn => tied.step action untorn)
      (Proposal.tiedWorld once external) untorn.1
  exact tied.tied.completed completed

/-- These connectors issue a new key at every creation. -/
def issuingConnectors : Connectors Nat where
  store := true
  cloud := true
  answer
    | .createCredential _, issued =>
        (.ok
          { credentialId := if issued = 0 then "AKIA_FIRST" else "AKIA_SECOND"
            accessKeyId := none
            secretAccessKey := none }, issued + 1)
    | .disableCredential _, issued => (.ok (), issued)
    | .deleteCredential _, issued => (.ok (), issued)
    | .writeNewVersion ref _, issued => (.ok { id := sandboxVersion, storeRef := ref }, issued)
    | .verifyStore _, issued => (.ok { success := true, message := "verified" }, issued)

def issuingCall : Invocation Nat where
  connectors := issuingConnectors
  clock := 1
  actor := "system"

instance (rows : Rows) (calls : List ConnectorEvent) (keys : ConnectorKeys) (step : RotationStep) :
    Decidable (Untorn rows calls keys step) :=
  decidable_of_iff
    ((step.kind = .provision →
        outstanding calls = [] ∧ (keys.store && rows.rotation.hasPlan) = true) ∧
      (∀ other ∈ rows.steps, other.kind = .provision →
        other.status = .pending ∨ (other.status = .done ∧ outstanding calls ≠ [])) ∧
      (step.kind = .revoke → (revokedCredential step.target).credentialId ∉ outstanding calls))
    ⟨fun ⟨provisions, provisioned, revokes⟩ => ⟨provisions, provisioned, revokes⟩,
      fun untorn => ⟨untorn.provisions, untorn.provisioned, untorn.revokes⟩⟩

/-- Only the next step can run. -/
theorem CutAction.untorn_of_next {world : World κ} {action : CutAction κ}
    (next : ∀ invocation ∈ action.invocation, ∀ step ∈ world.db.nextStep,
      Untorn world.db world.calls invocation.connectors.toConnectorKeys step) :
    action.untorn world :=
  fun invocation given step executes => next invocation given step executes.next

/-- A crash right after the provision step is shown as running, and four more calls. -/
def earlyCrash : List (CutAction Nat) := .cut 8 0 issuingCall :: List.replicate 4 (.advance issuingCall)

theorem earlyCrash_untorn :
    ∀ visit ∈ visits CutAction.step earlyCrash (World.proposed namedPlan 0),
      visit.2.untorn visit.1 := by
  simp only [earlyCrash, List.replicate, visits_cons, visits_nil, List.forall_mem_cons]
  refine ⟨?_, ?_, ?_, ?_, ?_, by simp⟩ <;> exact CutAction.untorn_of_next (by decide)

/-- The demo rotation names its credential after such a crash. -/
theorem earlyCrash_named :
    let world := runActions CutAction.step earlyCrash (World.proposed namedPlan 0)
    world.db.rotation.status = .completed ∧ Named world.db.rotation world.calls :=
  ⟨by decide, completed_credential_named namedPlan 0 (by decide) earlyCrash earlyCrash_untorn
    earlyCrash [] (List.append_nil _).symm (by decide)⟩

/-- A worker that crashes between the executor of the provision step and the commit creates a second
credential when its job runs again. -/
theorem crashed_provision_repeats :
    ¬ ∀ (proposal : Proposal) (external : Nat),
      (proposal.steps.countP fun spec => spec.kind = .provision) = 1 →
      ∀ actions : List (CutAction Nat),
        let world := runActions CutAction.step actions (World.proposed proposal external)
        world.db.rotation.status = .completed → Named world.db.rotation world.calls := by
  intro always
  obtain ⟨ref, _, only⟩ := always namedPlan 0 (by decide)
    (.cut 9 0 issuingCall :: List.replicate 4 (.advance issuingCall)) (by decide)
  have two : (outstanding _).length = 1 := congrArg List.length only
  exact absurd two (by decide)

end Sprawl
