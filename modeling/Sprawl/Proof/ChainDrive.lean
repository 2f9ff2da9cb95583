/-
This file proves for which failures a driven chain ends at the chosen step.
-/

import Sprawl.Proof.Injection

namespace Sprawl

open Effect

section Deliveries

variable {κ : Type} {world : World κ} {job : Job}

/-- A delivered job starts without pending writes. -/
theorem World.delivered_pending (world : World κ) (job : Job) (clock : Time) :
    (world.delivered 0 job clock).pending = [] :=
  rfl

/-- The engine call of a delivery, on the session that it hits. -/
def World.engineRun (world : World κ) (job : Job) (invocation : Invocation κ) :
    EngineResult × Session Rows κ :=
  (advanceRotation world.db.rotation.id world.db.rotation.workspaceId job.actor).run
    (Session.answer invocation.connectors) (world.delivered 0 job invocation.clock)

theorem World.engineRun_end (world : World κ) (job : Job) (invocation : Invocation κ) :
    EngineEnd invocation.connectors job.actor (world.delivered 0 job invocation.clock)
      (world.engineRun job invocation).2 :=
  (advanceRotation_ensures invocation.connectors job.actor
    (world.delivered_pending job invocation.clock)).final

/-- A delivered job ends as its engine call ends, and it may queue itself again. -/
theorem World.deliver_run (queued : Queued world) (only : world.session.queue = [job])
    (invocation : Invocation κ) :
    (world.deliver 0 invocation).db = (world.engineRun job invocation).2.db ∧
      (world.deliver 0 invocation).session.queue =
        if (world.engineRun job invocation).1.shouldContinue then [job] else [] := by
  have belongs : job.Belongs world.db := queued.belongs job (by rw [only]; simp)
  obtain ⟨rows, events, reaches⟩ := (world.engineRun_end job invocation).reaches
  have free : ((world.taken 0).session.opened invocation.clock).locks = [] := queued.free
  have called : (advanceRotation job.rotationId job.workspaceId job.actor).run
      (Session.answer invocation.connectors)
      (((world.taken 0).session.opened invocation.clock).locked job.secretId job.rotationId) =
        world.engineRun job invocation := by
    rw [engineRun, ← belongs.rotationId, ← belongs.workspaceId]
    rfl
  have ran := runRotationStep_run invocation.connectors free job called reaches.locks
  have head : world.session.queue[0]? = some job := by rw [only]; rfl
  have taken : (world.engineRun job invocation).2.queue = [] := by
    rw [reaches.queue]
    change world.session.queue.eraseIdx 0 = []
    rw [only]
    rfl
  simp only [deliver, head]
  change (Session.closed _).db = _ ∧ (Session.closed _).queue = _
  rw [ran]
  refine ⟨rfl, ?_⟩
  change (world.engineRun job invocation).2.queue ++ _ = _
  rw [taken, List.nil_append]

/-- A job whose call runs no step is the last one. -/
theorem World.engineRun_stops (invocation : Invocation κ)
    (none : ∀ step, ¬ Executes world.db invocation.clock step) :
    (world.engineRun job invocation).1.shouldContinue = false := by
  have trace := advanceRotation_trace invocation.connectors job.actor
    (world.delivered_pending job invocation.clock)
  cases trace with
  | quiet none internal stops => exact stops
  | ran step executes trace => exact absurd executes (none step)

/-- A job whose call runs a step continues if the step is done and others are left. -/
theorem World.engineRun_continues {step : RotationStep} (invocation : Invocation κ)
    (executes : Executes world.db invocation.clock step) :
    (world.engineRun job invocation).1.shouldContinue = true ↔
      ((world.delivered 0 job invocation.clock).outcome invocation.connectors step
        world.db.rotation).status = .done ∧
        (remainingSteps world.db.ordered step).isEmpty = false := by
  have trace := advanceRotation_trace invocation.connectors job.actor
    (world.delivered_pending job invocation.clock)
  cases trace with
  | quiet none internal stops => exact absurd executes (none step)
  | ran other others trace =>
      obtain rfl : other = step := Option.some.inj (others.next.symm.trans executes.next)
      exact trace.continues

/-- The calls of the job are answered by its connectors. -/
theorem World.engineRun_answered (world : World κ) (job : Job) (invocation : Invocation κ) :
    ∃ events, (world.engineRun job invocation).2.calls = world.calls ++ events ∧
      ∀ event ∈ events, event.AnsweredBy invocation.connectors :=
  run_answered invocation.connectors _ (world.delivered 0 job invocation.clock)

end Deliveries

section Calls

variable {world : World SandboxStore} {job : Job} (queued : Queued world)
  (only : world.session.queue = [job]) {finished after : List RotationStep} {next : RotationStep}
  (reached : world.db.At finished (next :: after))
  (invocation : Invocation SandboxStore)

include queued only reached

/-- A job pauses before a step that waits for its confirmation. -/
theorem deliver_pauses (live : Live world.db invocation.clock)
    (flagged : next.requiresConfirmation = true)
    (unpaused : world.db.rotation.status ≠ .awaitingConfirmation) :
    (world.deliver 0 invocation).db.At finished (next :: after) ∧
      (world.deliver 0 invocation).db.rotation.status = .awaitingConfirmation ∧
      (world.deliver 0 invocation).session.queue = [] := by
  obtain ⟨rows, queue⟩ := World.deliver_run queued only invocation
  have none : ∀ step, ¬ Executes world.db invocation.clock step := by
    intro step executes
    obtain rfl : next = step := Option.some.inj (reached.nextStep.symm.trans executes.next)
    exact unpaused (executes.passed flagged)
  rw [rows, queue, World.engineRun_stops invocation none]
  cases world.engineRun_end job invocation with
  | idle idles ends => exact absurd idles (Idles.not_of_next live.active reached.nextStep)
  | ran step executes ends => exact absurd executes (none step)
  | settled later settles ends =>
      rw [ends.db]
      cases settles with
      | expired active late =>
          have early : world.db.rotation.expired invocation.clock = false := live.unexpired
          exact absurd (early.symm.trans late) (by simp)
      | completed live some complete =>
          have inside : next ∈ world.db.steps := by
            rw [← world.db.mem_ordered, reached.split]
            simp
          have done : next.status = .done := complete next inside
          rw [reached.pending next List.mem_cons_self] at done
          cases done
      | paused live step found flagged unpaused =>
          exact ⟨⟨reached.split, reached.done, reached.pending, reached.planned, reached.known⟩,
            rfl, rfl⟩
      | blocked live step found passed revoke incomplete =>
          have same : next = step := Option.some.inj (reached.nextStep.symm.trans found)
          exact absurd (passed (same ▸ flagged)) unpaused

omit queued only in
/-- The outcome of the next step in its engine call. -/
theorem delivered_outcome (job : Job) (failing : StepKind) (clock : Time)
    (first : finished = [] → next.kind = .provision) :
    let outcome := (world.delivered 0 job clock).outcome (sandboxConnectors (some failing.value))
      next world.db.rotation
    (outcome.status, outcome.newSecretRef.isSome) =
      if failing.Hits next.kind then (.failed, false)
      else (.done, decide (next.kind = .provision)) := by
  apply sandbox_outcome failing _ reached.planned
  by_cases none : finished = []
  · exact Or.inl (first none)
  · exact Or.inr (reached.known.resolve_left none)

/-- A job finishes a step that the injected failure misses. -/
theorem deliver_finishes {failing : StepKind} (clock : Time) (actor : String)
    (executes : Executes world.db clock next) (missed : ¬ failing.Hits next.kind)
    (more : after ≠ []) (first : finished = [] → next.kind = .provision) :
    let invocation : Invocation SandboxStore :=
      { connectors := sandboxConnectors (some failing.value), clock, actor }
    (world.deliver 0 invocation).db.At (finished ++ [(donePatch clock).apply next]) after ∧
      (world.deliver 0 invocation).db.rotation.status = next.kind.toStatus ∧
      (world.deliver 0 invocation).session.queue = [job] := by
  intro invocation
  obtain ⟨rows, queue⟩ := World.deliver_run queued only invocation
  have outcome := delivered_outcome reached job failing clock first
  dsimp only at outcome
  rw [if_neg missed, Prod.mk.injEq] at outcome
  obtain ⟨status, ref⟩ := outcome
  have known : finished = [] → ((world.delivered 0 job clock).outcome
      (sandboxConnectors (some failing.value)) next world.db.rotation).newSecretRef.isSome =
        true := by
    intro none
    rw [ref, first none]
    rfl
  obtain ⟨later, shown⟩ := reached.finish job.actor clock more known
  have continues : (world.engineRun job invocation).1.shouldContinue = true := by
    rw [World.engineRun_continues invocation executes]
    exact ⟨status, reached.remaining more⟩
  rw [rows, queue, continues, if_pos rfl]
  cases world.engineRun_end job invocation with
  | idle idles ends => exact absurd idles executes.not_idles
  | settled later settles ends => exact absurd settles executes.not_settles
  | ran step others ends =>
      obtain rfl : next = step := Option.some.inj (reached.nextStep.symm.trans others.next)
      cases ends with
      | rolledBack failed later rows undone ends => exact absurd status failed
      | finished done ends =>
          rw [ends.db]
          exact ⟨later, shown, rfl⟩

/-- A job whose step hits the injected failure ends with the rollback. -/
theorem deliver_fails {failing : StepKind} (clock : Time) (actor : String)
    (executes : Executes world.db clock next) (hit : failing.Hits next.kind)
    (first : finished = [] → next.kind = .provision) :
    let invocation : Invocation SandboxStore :=
      { connectors := sandboxConnectors (some failing.value), clock, actor }
    (world.deliver 0 invocation).db.ordered.map (fun row => (row.id, row.status)) =
        finished.map (fun row => (row.id, row.undoneStatus failing)) ++
          (next.id, .failed) :: after.map (fun row => (row.id, row.status)) ∧
      (world.deliver 0 invocation).db.rotation.status =
        (if ∀ row ∈ finished, row.undoneStatus failing = .compensated then .rolledBack
        else .rollbackFailed) ∧
      (world.deliver 0 invocation).session.queue = [] := by
  intro invocation
  obtain ⟨rows, queue⟩ := World.deliver_run queued only invocation
  have outcome := delivered_outcome reached job failing clock first
  dsimp only at outcome
  rw [if_pos hit, Prod.mk.injEq] at outcome
  have unfinished : ((world.delivered 0 job clock).outcome (sandboxConnectors (some failing.value))
      next world.db.rotation).status ≠ .done := by
    rw [outcome.1]
    decide
  have stops : (world.engineRun job invocation).1.shouldContinue = false := by
    rw [← Bool.not_eq_true, World.engineRun_continues invocation executes]
    exact fun given => unfinished given.1
  obtain ⟨events, called, answered⟩ := world.engineRun_answered job invocation
  rw [rows, queue, stops]
  cases world.engineRun_end job invocation with
  | idle idles ends => exact absurd idles executes.not_idles
  | settled later settles ends => exact absurd settles executes.not_settles
  | ran step others ends =>
      obtain rfl : next = step := Option.some.inj (reached.nextStep.symm.trans others.next)
      cases ends with
      | finished done ends => exact absurd done unfinished
      | rolledBack failed later rows undone ends =>
          have same : (world.delivered 0 job clock).outcomeEvents invocation.connectors next
              world.db.rotation ++ later = events :=
            List.append_cancel_left (ends.calls.symm.trans called)
          obtain ⟨statuses, status⟩ := reached.rollsBack undone fun event inside =>
            answered event (same ▸ List.mem_append_right _ inside)
          rw [ends.db]
          exact ⟨statuses, status, rfl⟩

end Calls

section Columns

/-- The columns of a step that no statement writes. -/
def RotationStep.fixed (step : RotationStep) : Uuid × StepKind × Option Compensation :=
  (step.id, step.kind, step.compensation)

/-- Steps with the same fixed columns have the same values of a function of these. -/
theorem map_eq_of_fixed {α : Type} {value : RotationStep → α}
    (fixed : ∀ first second : RotationStep, first.fixed = second.fixed →
      value first = value second) {steps others : List RotationStep}
    (same : steps.map RotationStep.fixed = others.map RotationStep.fixed) :
    steps.map value = others.map value := by
  induction steps generalizing others with
  | nil => rw [List.map_eq_nil_iff.mp same.symm]
  | cons step rest ih =>
      obtain ⟨other, more, rfl, first, tail⟩ := List.map_eq_cons_iff.mp same.symm
      rw [List.map_cons, List.map_cons, ih tail.symm, fixed step other first.symm]

theorem undoneStatus_congr (failing : StepKind) {first second : RotationStep}
    (same : first.fixed = second.fixed) :
    first.undoneStatus failing = second.undoneStatus failing := by
  simp only [RotationStep.fixed, Prod.mk.injEq] at same
  simp only [RotationStep.undoneStatus, RotationStep.deletesNewKey,
    RotationStep.compensationAction, same]
  rfl

/-- The same with the identifiers of the steps. -/
theorem named_eq_of_fixed {status : RotationStep → StepStatus}
    (fixed : ∀ first second : RotationStep, first.fixed = second.fixed →
      status first = status second) {steps others : List RotationStep}
    (same : steps.map RotationStep.fixed = others.map RotationStep.fixed) :
    steps.map (fun row => (row.id, status row)) = others.map fun row => (row.id, status row) :=
  map_eq_of_fixed (fun first second given => congrArg₂ Prod.mk (congrArg (·.1) given)
    (fixed first second given)) same

end Columns

section Driver

/-- The injected failure hits the given step of the list first. -/
structure Hits (failing : StepKind) (earlier : List RotationStep) (step : RotationStep)
    (later : List RotationStep) : Prop where
  missed : ∀ other ∈ earlier, ¬ failing.Hits other.kind
  hit : failing.Hits step.kind
  first : ∀ head ∈ (earlier ++ [step]).head?, head.kind = .provision
  unrevoked : ∀ other ∈ earlier, other.kind ≠ .revoke
  unverified : step.kind = .revoke → ∀ other ∈ later, other.kind ≠ .verify

/-- Some of the earlier steps are done, and the others are ahead. -/
structure Underway (step : RotationStep) (later passed ahead : List RotationStep)
    (world : World SandboxStore) : Prop where
  rows : ∃ finished rest, world.db.At finished rest ∧
    finished.map RotationStep.fixed = passed.map RotationStep.fixed ∧
    rest.map RotationStep.fixed = (ahead ++ step :: later).map RotationStep.fixed
  queued : Queued world

/-- The moves that the driver needs for the next step. -/
inductive Phase (world : World SandboxStore) : Nat → Prop where
  | confirmed (job : Job) (only : world.session.queue = [job])
      (passed : ∀ next, world.db.nextStep = some next → next.requiresConfirmation = true →
        world.db.rotation.status = .awaitingConfirmation) : Phase world 1
  | paused (none : world.session.queue = [])
      (waiting : world.db.rotation.status = .awaitingConfirmation) : Phase world 2
  | queued (job : Job) (only : world.session.queue = [job]) : Phase world 3

/-- The failure has hit the step, and the rollback is over. -/
structure FailedAt (failing : StepKind) (earlier : List RotationStep) (step : RotationStep)
    (later : List RotationStep) (world : World SandboxStore) : Prop where
  rows : world.db.ordered.map (fun row => (row.id, row.status)) =
    earlier.map (fun row => (row.id, row.undoneStatus failing)) ++
      (step.id, .failed) :: later.map fun row => (row.id, .pending)
  status : world.db.rotation.status =
    if ∀ row ∈ earlier, row.undoneStatus failing = .compensated then .rolledBack
    else .rollbackFailed
  queue : world.session.queue = []

/-- Rows with the fixed columns of the steps show the rollback of the steps. -/
theorem FailedAt.of_rows {finished after : List RotationStep} {next : RotationStep}
    (before : finished.map RotationStep.fixed = passed.map RotationStep.fixed)
    (same : next.fixed = step.fixed)
    (others : after.map RotationStep.fixed = later.map RotationStep.fixed)
    (pending : ∀ row ∈ after, row.status = .pending)
    (rows : world.db.ordered.map (fun row => (row.id, row.status)) =
      finished.map (fun row => (row.id, row.undoneStatus failing)) ++
        (next.id, .failed) :: after.map fun row => (row.id, row.status))
    (status : world.db.rotation.status =
      if ∀ row ∈ finished, row.undoneStatus failing = .compensated then .rolledBack
      else .rollbackFailed)
    (queue : world.session.queue = []) : FailedAt failing passed step later world := by
  have waiting : after.map (fun row => (row.id, row.status)) =
      later.map fun row => (row.id, .pending) := by
    calc
      after.map (fun row => (row.id, row.status)) = after.map fun row => (row.id, .pending) := by
        apply List.map_congr_left
        intro row inside
        rw [pending row inside]
      _ = later.map fun row => (row.id, .pending) := named_eq_of_fixed (fun _ _ _ => rfl) others
  have statuses : finished.map (·.undoneStatus failing) = passed.map (·.undoneStatus failing) :=
    map_eq_of_fixed (fun _ _ => undoneStatus_congr failing) before
  have listed (steps : List RotationStep) :
      (∀ row ∈ steps, row.undoneStatus failing = .compensated) ↔
        ∀ shown ∈ steps.map (·.undoneStatus failing), shown = .compensated := by simp
  refine ⟨?_, ?_, queue⟩
  · rw [rows, named_eq_of_fixed (fun _ _ => undoneStatus_congr failing) before, waiting,
      show next.id = step.id from congrArg Prod.fst same]
  · rw [status]
    simp only [listed, statuses]

/-- The drive ends after at most so many moves. -/
inductive Driven (failing : StepKind) (earlier : List RotationStep) (step : RotationStep)
    (later : List RotationStep) (world : World SandboxStore) (moves : Nat) : Prop where
  | ended (ended : FailedAt failing earlier step later world)
  | underway (passed ahead : List RotationStep) (split : earlier = passed ++ ahead)
      (underway : Underway step later passed ahead world)
      (active : world.db.rotation.status.isTerminal = false)
      (begun : world.db.rotation.status ≠ .pendingApproval) (phase : Nat)
      (within : Phase world phase) (bound : 3 * ahead.length + phase ≤ moves)

variable {failing : StepKind} {step : RotationStep} {later passed ahead : List RotationStep}
  {world : World SandboxStore}

/-- What a job does to a rotation that is underway. -/
inductive Called (failing : StepKind) (step : RotationStep)
    (later passed ahead : List RotationStep) (job : Job) (before after : World SandboxStore) :
    Prop where
  | paused (next : RotationStep) (found : before.db.nextStep = some next)
      (flagged : next.requiresConfirmation = true)
      (unpaused : before.db.rotation.status ≠ .awaitingConfirmation)
      (underway : Underway step later passed ahead after)
      (waiting : after.db.rotation.status = .awaitingConfirmation)
      (queue : after.session.queue = [])
  | finished (target : RotationStep) (more : List RotationStep) (split : ahead = target :: more)
      (underway : Underway step later (passed ++ [target]) more after) (kind : StepKind)
      (status : after.db.rotation.status = kind.toStatus) (queue : after.session.queue = [job])
  | ended (none : ahead = []) (ended : FailedAt failing passed step later after)

/-- A job pauses, finishes a step or ends the rotation. -/
theorem Underway.call (underway : Underway step later passed ahead world)
    (hits : Hits failing (passed ++ ahead) step later) {job : Job}
    (only : world.session.queue = [job]) {clock : Time} (live : Live world.db clock)
    (actor : String) :
    Called failing step later passed ahead job world
      (world.deliver 0 { connectors := sandboxConnectors (some failing.value), clock, actor }) := by
  obtain ⟨finished, rest, reached, before, behind⟩ := underway.rows
  have queued := underway.queued.deliver 0
    { connectors := sandboxConnectors (some failing.value), clock, actor }
  obtain ⟨target, tail, split⟩ : ∃ target tail, ahead ++ step :: later = target :: tail :=
    List.exists_cons_of_ne_nil (by simp)
  rw [split] at behind
  obtain ⟨next, after, rfl, same, others⟩ := List.map_eq_cons_iff.mp behind
  have kind : next.kind = target.kind := congrArg (·.2.1) same
  by_cases waits : next.requiresConfirmation = true ∧
      world.db.rotation.status ≠ .awaitingConfirmation
  · obtain ⟨kept, waiting, queue⟩ := deliver_pauses underway.queued only reached
      { connectors := sandboxConnectors (some failing.value), clock, actor } live waits.1 waits.2
    exact .paused next reached.nextStep waits.1 waits.2
      ⟨⟨finished, next :: after, kept, before, split ▸ behind⟩, queued⟩ waiting queue
  have passes : next.requiresConfirmation = true →
      world.db.rotation.status = .awaitingConfirmation := by
    intro flagged
    by_contra unpaused
    exact waits ⟨flagged, unpaused⟩
  have first : finished = [] → next.kind = .provision := by
    rintro rfl
    obtain rfl : passed = [] := List.map_eq_nil_iff.mp before.symm
    rw [kind]
    apply hits.first
    cases ahead <;> simp_all
  cases ahead with
  | nil =>
      obtain ⟨rfl, rfl⟩ := List.cons_eq_cons.mp split
      have kinds : after.map (·.kind) = later.map (·.kind) :=
        map_eq_of_fixed (fun _ _ fixed => congrArg (·.2.1) fixed) others
      have verified : next.kind = .revoke → ∀ other ∈ after, other.kind ≠ .verify := by
        intro revoke other inside
        have listed : other.kind ∈ later.map (·.kind) :=
          kinds ▸ List.mem_map_of_mem (f := RotationStep.kind) inside
        obtain ⟨origin, among, own⟩ := List.mem_map.mp listed
        rw [← own]
        exact hits.unverified (kind ▸ revoke) origin among
      obtain ⟨rows, status, queue⟩ := deliver_fails underway.queued only reached clock actor
        (reached.executes live passes verified) (kind.symm ▸ hits.hit) first
      exact .ended rfl (FailedAt.of_rows before same others
        (fun row inside => reached.pending row (List.mem_cons_of_mem next inside)) rows status queue)
  | cons origin more =>
      obtain ⟨rfl, rfl⟩ := List.cons_eq_cons.mp split
      have inside : origin ∈ passed ++ origin :: more := by simp
      have some : after ≠ [] := by
        rintro rfl
        have none := congrArg List.length others
        simp at none
      have executes := reached.executes live passes fun revoke =>
        absurd (kind ▸ revoke) (hits.unrevoked origin inside)
      obtain ⟨kept, status, queue⟩ := deliver_finishes underway.queued only reached clock actor
        executes (kind.symm ▸ hits.missed origin inside) some first
      refine .finished origin more rfl ⟨⟨_, after, kept, ?_, others⟩, queued⟩ next.kind status queue
      rw [List.map_append, List.map_append, before]
      exact congrArg (passed.map RotationStep.fixed ++ [·]) same

/-- A confirmation of the next step adds its job. -/
theorem Underway.confirm (underway : Underway step later passed ahead world)
    {claims : TokenClaims} (role : mayDecide claims)
    (waiting : world.db.rotation.status = .awaitingConfirmation) {next : RotationStep}
    (found : world.db.nextStep = some next) (clock : Time) :
    let after := world.handle (.confirm world.db.rotation.workspaceId world.db.rotation.id next.id
      claims) clock
    Underway step later passed ahead after ∧
      after.db.rotation.status = .awaitingConfirmation ∧
      after.session.queue = world.session.queue ++ [world.session.job claims] := by
  intro after
  obtain ⟨inside, pending, _⟩ := Rows.nextStep_eq_some found
  have empty : (world.session.opened clock).pending = [] := rfl
  obtain ⟨body, accepts⟩ := confirmStep_accepts Connectors.none empty role waiting inside pending
  have moved : after.session = Session.closed { world.session.opened clock with
      db := world.db.confirmed claims.sub next clock
      pending := []
      queue := world.session.queue ++ [world.session.job claims] } :=
    congrArg (fun ran : Except HttpError Json × Session Rows SandboxStore => ran.2.closed) accepts
  obtain ⟨finished, rest, reached, before, behind⟩ := underway.rows
  obtain ⟨other, others, rfl⟩ : ∃ other others, rest = other :: others := by
    cases rest with
    | nil =>
        have none := congrArg List.length behind
        simp at none
    | cons other others => exact ⟨other, others, rfl⟩
  obtain rfl : other = next := Option.some.inj (reached.nextStep.symm.trans found)
  have rows : after.db = world.db.confirmed claims.sub other clock := congrArg (·.db) moved
  have ordered : after.db.ordered =
      finished ++ ({ confirmedAt := some clock } : StepPatch).apply other :: others := by
    rw [rows, ← updateSteps_split reached.distinct, ← reached.split]
    exact Rows.ordered_patchSteps _ _ _
  refine ⟨⟨⟨finished, _, ⟨ordered, reached.done, ?_, ?_, ?_⟩, before, ?_⟩,
    underway.queued.handle _ clock⟩, ?_, congrArg (·.queue) moved⟩
  · rw [List.forall_mem_cons]
    exact ⟨pending, fun row inside => reached.pending row (List.mem_cons_of_mem other inside)⟩
  · rw [rows]
    exact reached.planned
  · rw [rows]
    exact reached.known
  · exact behind
  · rw [rows]
    exact waiting

/-- A rotation that has ended stays as it is. -/
theorem FailedAt.move {earlier : List RotationStep}
    (ended : FailedAt failing earlier step later world)
    (claims : TokenClaims) (clock : Time) :
    FailedAt failing earlier step later (world.drive (some failing.value) claims clock) := by
  unfold World.drive
  rw [ended.queue]
  dsimp only
  cases findNextStep world.db.ordered with
  | none => exact ended
  | some next =>
      dsimp only
      obtain ⟨reply, final, handled, same⟩ := world.handle_end
        (.confirm world.db.rotation.workspaceId world.db.rotation.id next.id claims) clock
      rw [same]
      cases handled with
      | refused error => exact ⟨ended.rows, ended.status, ended.queue⟩
      | confirmed _ _ _ _ waiting =>
          have waits : world.db.rotation.status = .awaitingConfirmation := waiting
          rw [ended.status] at waits
          split at waits <;> cases waits
      | approved _ _ sent => cases sent
      | rejected _ _ sent => cases sent

theorem World.drive_queued {failAt : Option String} {claims : TokenClaims} {job : Job}
    (only : world.session.queue = [job]) (clock : Time) :
    world.drive failAt claims clock = world.fresh.deliver 0
      { connectors := sandboxConnectors failAt, clock, actor := claims.sub } := by
  rw [drive, only]

theorem World.drive_paused {failAt : Option String} {claims : TokenClaims} {next : RotationStep}
    (none : world.session.queue = []) (found : world.db.nextStep = some next) (clock : Time) :
    world.drive failAt claims clock =
      world.handle (.confirm world.db.rotation.workspaceId world.db.rotation.id next.id claims)
        clock := by
  have loaded : findNextStep world.db.ordered = some next := found
  rw [drive, none, loaded]

/-- New connectors change nothing else. -/
theorem Underway.fresh (underway : Underway step later passed ahead world) :
    Underway step later passed ahead world.fresh :=
  ⟨underway.rows, ⟨underway.queued.belongs, underway.queued.free⟩⟩

theorem Underway.next (underway : Underway step later passed ahead world) :
    ∃ next, world.db.nextStep = some next := by
  obtain ⟨finished, rest, reached, _, behind⟩ := underway.rows
  cases rest with
  | nil =>
      have none := congrArg List.length behind
      simp at none
  | cons next after => exact ⟨next, reached.nextStep⟩

/-- A rotation that somebody has moved on does not expire. -/
theorem Rows.live_of_begun {rows : Rows} (active : rows.rotation.status.isTerminal = false)
    (begun : rows.rotation.status ≠ .pendingApproval) (time : Time) : Live rows time := by
  refine ⟨active, ?_⟩
  unfold Rotation.expired
  split
  · rfl
  · rw [decide_eq_false begun, Bool.false_and]

/-- After a job the rotation has fewer moves left. -/
theorem Called.driven {earlier : List RotationStep} {job : Job} {before : World SandboxStore}
    {moves : Nat} (called : Called failing step later passed ahead job before world)
    (split : earlier = passed ++ ahead)
    (pauses : (∃ next, before.db.nextStep = some next ∧ next.requiresConfirmation = true ∧
      before.db.rotation.status ≠ .awaitingConfirmation) → 3 * ahead.length + 2 ≤ moves)
    (bound : 3 * ahead.length ≤ moves) :
    Driven failing earlier step later world moves := by
  cases called with
  | paused next found flagged unpaused underway waiting queue =>
      exact .underway passed ahead split underway (by rw [waiting]; rfl) (by rw [waiting]; decide) 2
        (.paused queue waiting) (pauses ⟨next, found, flagged, unpaused⟩)
  | finished target more cut underway kind status queue =>
      subst cut
      refine .underway (passed ++ [target]) more (by rw [split]; simp) underway ?_ ?_ 3
        (.queued job queue) ?_
      · rw [status, StepKind.toStatus_isTerminal]
      · rw [status]
        cases kind <;> decide
      · rw [List.length_cons] at bound
        omega
  | ended none ended =>
      subst none
      rw [List.append_nil] at split
      exact .ended (split ▸ ended)

/-- Every move of the driver comes closer to the end. -/
theorem Driven.move {earlier : List RotationStep} {moves : Nat} {claims : TokenClaims}
    (role : mayDecide claims) (hits : Hits failing earlier step later)
    (driven : Driven failing earlier step later world (moves + 1)) (clock : Time) :
    Driven failing earlier step later (world.drive (some failing.value) claims clock) moves := by
  cases driven with
  | ended ended => exact .ended (ended.move claims clock)
  | underway passed ahead split underway active begun phase within bound =>
      have live := Rows.live_of_begun active begun clock
      have hits : Hits failing (passed ++ ahead) step later := split ▸ hits
      cases within with
      | confirmed job only passes =>
          rw [World.drive_queued only]
          refine (underway.fresh.call hits only live claims.sub).driven split ?_ (by omega)
          intro given
          obtain ⟨next, found, flagged, unpaused⟩ := given
          exact absurd (passes next found flagged) unpaused
      | queued job only =>
          rw [World.drive_queued only]
          exact (underway.fresh.call hits only live claims.sub).driven split (fun _ => by omega)
            (by omega)
      | paused none waiting =>
          obtain ⟨next, found⟩ := underway.next
          rw [World.drive_paused none found]
          obtain ⟨confirmed, status, queue⟩ := underway.confirm role waiting found clock
          rw [none, List.nil_append] at queue
          exact .underway passed ahead split confirmed (by rw [status]; rfl)
            (by rw [status]; decide) 1 (.confirmed _ queue fun _ _ _ => status) (by omega)

/-- The drive ends. -/
theorem Driven.run {earlier : List RotationStep} {claims : TokenClaims} (role : mayDecide claims)
    (hits : Hits failing earlier step later) (times : List Time) {moves : Nat}
    (enough : moves ≤ times.length) (driven : Driven failing earlier step later world moves) :
    FailedAt failing earlier step later
      (times.foldl (World.drive (some failing.value) claims) world) := by
  induction times generalizing world moves with
  | nil =>
      cases driven with
      | ended ended => exact ended
      | underway passed ahead split underway active begun phase within bound =>
          cases within <;> simp at enough <;> omega
  | cons clock rest ih =>
      rw [List.foldl_cons]
      cases moves with
      | zero =>
          cases driven with
          | ended ended => exact ih (Nat.zero_le _) (.ended (ended.move claims clock))
          | underway passed ahead split underway active begun phase within bound =>
              cases within <;> omega
      | succ moves => exact ih (Nat.le_of_succ_le_succ enough) (driven.move role hits clock)

end Driver

namespace RotationChain

variable (chain : RotationChain) {failing : StepKind} {earlier later : List RotationStep}
  {step : RotationStep} {claims : TokenClaims}

/-- A split of the kinds is one of the steps. -/
theorem exists_split {steps : List RotationStep} {before after : List StepKind} {kind : StepKind}
    (kinds : steps.map (·.kind) = before ++ kind :: after) :
    ∃ earlier step later, steps = earlier ++ step :: later ∧ earlier.map (·.kind) = before ∧
      step.kind = kind ∧ later.map (·.kind) = after := by
  obtain ⟨earlier, rest, rfl, first, tail⟩ := List.map_eq_append_iff.mp kinds
  obtain ⟨step, later, rfl, own, others⟩ := List.map_eq_cons_iff.mp tail
  exact ⟨earlier, step, later, rfl, first, own, others⟩

/-- The chain right after its approval has all its steps ahead. -/
theorem approved_underway (role : mayDecide claims) (clock : Time)
    (split : chain.steps = earlier ++ step :: later) :
    Underway step later [] earlier (chain.approved claims clock) ∧
      (chain.approved claims clock).db.rotation = chain.proposal.rotation ∧
      ∃ job, (chain.approved claims clock).session.queue = [job] := by
  have queued : Queued (World.proposed chain.proposal ([] : SandboxStore)) :=
    ⟨fun _ inside => absurd inside List.not_mem_nil, rfl⟩
  have empty : ((World.proposed chain.proposal ([] : SandboxStore)).session.opened clock).pending =
      [] := rfl
  obtain ⟨body, accepts⟩ := approveRotation_accepts Connectors.none empty role rfl
  have moved : (chain.approved claims clock).session = Session.closed _ :=
    congrArg (fun ran : Except HttpError Json × Session Rows SandboxStore => ran.2.closed) accepts
  have rows : (chain.approved claims clock).db = chain.proposal.rows.approved claims.sub :=
    congrArg (·.db) moved
  refine ⟨⟨⟨[], chain.steps, ⟨?_, by simp, ?_, ?_, Or.inl rfl⟩, rfl, by rw [split]⟩,
    queued.handle _ clock⟩, ?_, _, congrArg (·.queue) moved⟩
  · rw [rows]
    rfl
  · intro row inside
    rw [steps, Rows.mem_ordered] at inside
    obtain ⟨spec, _, rfl⟩ := List.mem_map.mp inside
    rfl
  · rw [rows]
    exact chain.planned
  · rw [rows]
    rfl

/-- A drive that begins in time ends at the step that hits the failure. -/
theorem driven_ended (role : mayDecide claims) (clock : Time) {times : List Time}
    (early : ∀ first ∈ times.head?, chain.proposal.rotation.expired first = false)
    (enough : 3 * chain.steps.length ≤ times.length)
    (split : chain.steps = earlier ++ step :: later) (hits : Hits failing earlier step later) :
    FailedAt failing earlier step later (chain.driven (some failing.value) claims clock times) := by
  obtain ⟨underway, rotation, job, only⟩ := chain.approved_underway role clock split
  have length := congrArg List.length split
  rw [List.length_append, List.length_cons] at length
  cases times with
  | nil =>
      rw [List.length_nil] at enough
      omega
  | cons first rest =>
      have live : Live (chain.approved claims clock).db first := by
        refine ⟨?_, ?_⟩
        · rw [rotation]
          rfl
        · rw [rotation]
          exact early first rfl
      rw [driven, List.foldl_cons, World.drive_queued only]
      rw [List.length_cons] at enough
      have called := underway.fresh.call (by simpa using hits) only live claims.sub
      have begun : Driven failing earlier step later _ (3 * earlier.length + 2) :=
        called.driven rfl (fun _ => le_refl _) (by omega)
      exact begun.run role hits rest (by omega)

/-- The kinds of the steps tell which step hits the failure first. -/
theorem hits_of_kinds {before after : List StepKind} {kind : StepKind}
    (first : earlier.map (·.kind) = before) (own : step.kind = kind)
    (others : later.map (·.kind) = after)
    (missed : ∀ other ∈ before, ¬ failing.Hits other ∧ other ≠ .revoke)
    (hit : failing.Hits kind) (head : (before ++ [kind]).head? = some .provision)
    (unverified : kind = .revoke → .verify ∉ after) : Hits failing earlier step later := by
  subst first own others
  have inside {other : RotationStep} (among : other ∈ earlier) :
      other.kind ∈ earlier.map (·.kind) := List.mem_map_of_mem among
  refine ⟨fun other among => (missed _ (inside among)).1, hit, ?_,
    fun other among => (missed _ (inside among)).2, ?_⟩
  · intro found among
    have kinds : (earlier ++ [step]).map (·.kind) = earlier.map (·.kind) ++ [step.kind] := by simp
    rw [← kinds, List.head?_map, Option.mem_def.mp among] at head
    exact Option.some.inj head
  · intro revoke other among verify
    exact unverified revoke (verify ▸ List.mem_map_of_mem (f := (·.kind)) among)

/-- A failure that hits provision steps hits the first step. -/
theorem hits_provision (own : step.kind = .provision) (hit : failing.Hits .provision) :
    Hits failing [] step later :=
  hits_of_kinds rfl own rfl (by simp) hit rfl (by simp)

variable {world : World SandboxStore}

/-- A step of the chosen kind other than revoke ends as it should. -/
theorem hitBy_of_failedAt (ended : FailedAt failing earlier step later world)
    (split : chain.steps = earlier ++ step :: later) (own : step.kind = failing)
    (missed : ∀ other ∈ earlier, other.kind ≠ failing) (unrevoked : failing ≠ .revoke) :
    chain.HitBy failing world := by
  have compensated (row : RotationStep) : row.undoneStatus failing = .compensated :=
    if_neg fun given => unrevoked given.2
  refine ⟨?_, earlier, step, later, split, own, missed, ?_⟩
  · rw [ended.status, if_pos fun row _ => compensated row]
  · rw [ended.rows]
    simp only [compensated]

/-- A failure of a first step of another kind is no failure of the chosen kind. -/
theorem not_hitBy_of_first (ended : FailedAt failing [] step later world)
    (split : chain.steps = step :: later) (other : step.kind ≠ failing) :
    ¬ chain.HitBy failing world := by
  intro hit
  obtain ⟨_, earlier, target, rest, cut, own, _, rows⟩ := hit
  rw [ended.rows, List.map_nil, List.nil_append] at rows
  rw [split] at cut
  cases earlier with
  | nil =>
      rw [List.nil_append] at cut
      exact other ((List.cons_eq_cons.mp cut).1 ▸ own)
  | cons first more =>
      rw [List.map_cons, List.cons_append] at rows
      cases congrArg Prod.snd (List.cons_eq_cons.mp rows).1

/-- A new key that cannot be deleted leaves the rollback unfinished. -/
theorem not_hitBy_of_undeleted (ended : FailedAt .revoke earlier step later world)
    (undeleted : ∃ row ∈ earlier, row.deletesNewKey = true) : ¬ chain.HitBy .revoke world := by
  intro hit
  obtain ⟨row, inside, deletes⟩ := undeleted
  have status := hit.1
  rw [ended.status, if_neg] at status
  · cases status
  · intro every
    have compensated := every row inside
    rw [RotationStep.undoneStatus, if_pos ⟨deletes, rfl⟩] at compensated
    cases compensated

/-- The compensation of a provision step deletes the new key. -/
theorem deletesNewKey_of_provision (inside : step ∈ chain.steps) (kind : step.kind = .provision) :
    step.deletesNewKey = true := by
  have stored := chain.compensations step (chain.proposal.rows.mem_ordered.mp inside)
  rw [kind] at stored
  rw [RotationStep.deletesNewKey, RotationStep.compensationAction, stored, kind]
  rfl

/-- The first step of a chain is its provision step. -/
theorem exists_first :
    ∃ step later, chain.steps = step :: later ∧ step.kind = .provision := by
  obtain ⟨step, later, split, own, _⟩ := List.map_eq_cons_iff.mp chain.kinds
  exact ⟨step, later, split, own⟩

/-- An injected failure hits the first step of its kind exactly at provision and verify steps. -/
theorem hitBy_iff (occurs : failing ∈ chain.steps.map (·.kind)) (role : mayDecide claims)
    (clock : Time) {times : List Time}
    (early : ∀ first ∈ times.head?, chain.proposal.rotation.expired first = false)
    (enough : 3 * chain.steps.length ≤ times.length) :
    chain.HitBy failing (chain.driven (some failing.value) claims clock times) ↔
      failing = .provision ∨ failing = .verify := by
  have ends {earlier later : List RotationStep} {step : RotationStep}
      (split : chain.steps = earlier ++ step :: later) (hits : Hits failing earlier step later) :
      FailedAt failing earlier step later (chain.driven (some failing.value) claims clock times) :=
    chain.driven_ended role clock early enough split hits
  have kinds : chain.steps.map (·.kind) = chainKinds chain.distributes chain.verifies := chain.kinds
  rw [kinds] at occurs
  cases failing with
  | provision =>
      obtain ⟨step, later, split, own⟩ := chain.exists_first
      have hits : Hits .provision [] step later := hits_provision own (by decide)
      have ended := ends split hits
      exact iff_of_true (chain.hitBy_of_failedAt ended split own (by simp) (by decide)) (Or.inl rfl)
  | distribute =>
      obtain ⟨step, later, split, own⟩ := chain.exists_first
      have hits : Hits .distribute [] step later := hits_provision own (by decide)
      have ended := ends split hits
      exact iff_of_false (chain.not_hitBy_of_first ended split (by rw [own]; decide)) (by decide)
  | verify =>
      obtain ⟨count, some⟩ : ∃ count, chain.verifies = count + 1 := by
        cases verifies : chain.verifies with
        | zero =>
            rw [verifies] at occurs
            simp [chainKinds] at occurs
        | succ count => exact ⟨count, rfl⟩
      have cut : chainKinds chain.distributes chain.verifies =
          (.provision :: List.replicate chain.distributes .distribute) ++
            .verify :: (List.replicate count .verify ++ [.revoke]) := by
        rw [some]
        simp [chainKinds, List.replicate_succ]
      obtain ⟨earlier, step, later, split, first, own, others⟩ := exists_split (kinds.trans cut)
      have ended := ends split (hits_of_kinds first own others (by simp [StepKind.Hits]) (by decide)
        rfl (by simp))
      refine iff_of_true (chain.hitBy_of_failedAt ended split own ?_ (by decide)) (Or.inr rfl)
      intro other inside verify
      have listed : StepKind.verify ∈ earlier.map (·.kind) :=
        verify ▸ List.mem_map_of_mem (f := (·.kind)) inside
      rw [first] at listed
      simp at listed
  | revoke =>
      have cut : chainKinds chain.distributes chain.verifies =
          (.provision :: (List.replicate chain.distributes .distribute ++
            List.replicate chain.verifies .verify)) ++ .revoke :: [] := by
        simp [chainKinds]
      obtain ⟨earlier, step, later, split, first, own, others⟩ := exists_split (kinds.trans cut)
      have ended := ends split (hits_of_kinds first own others (by simp [StepKind.Hits]; grind)
        (by decide) rfl (by simp))
      refine iff_of_false (chain.not_hitBy_of_undeleted ended ?_) (by decide)
      obtain ⟨head, rest, same, kind, _⟩ := List.map_eq_cons_iff.mp first
      have inside : head ∈ earlier := by
        rw [same]
        exact List.mem_cons_self
      refine ⟨head, inside, chain.deletesNewKey_of_provision ?_ kind⟩
      rw [split]
      exact List.mem_append_left _ inside

/-- The chain of a triggered rotation. -/
def triggered : RotationChain where
  proposal := triggeredPlan
  distributes := 1
  verifies := 1
  kinds := by decide
  compensations := by decide
  planned := by decide

/-- The injected failure hits the verify step of the triggered rotation. -/
theorem triggered_hit :
    triggered.HitBy .verify
      (triggered.driven (some "verify") sandboxOwner 1 (List.replicate 12 2)) :=
  have occurs : StepKind.verify ∈ triggered.steps.map (·.kind) := by decide
  (triggered.hitBy_iff occurs (by decide) 1 (by decide) (by decide)).mpr (Or.inr rfl)

theorem triggered_missed :
    StepKind.distribute ∈ triggered.steps.map (·.kind) ∧ mayDecide sandboxOwner ∧
      triggered.proposal.rotation.expired 2 = false ∧
      ¬ triggered.HitBy .distribute
        (triggered.driven (some "distribute") sandboxOwner 1 (List.replicate 12 2)) := by
  refine ⟨by decide, by decide, by decide, ?_⟩
  obtain ⟨step, later, split, own⟩ := triggered.exists_first
  have hits : Hits .distribute [] step later := hits_provision own (by decide)
  have role : mayDecide sandboxOwner := by decide
  have ended : FailedAt .distribute [] step later
      (triggered.driven (some "distribute") sandboxOwner 1 (List.replicate 12 2)) :=
    triggered.driven_ended role 1 (by decide) (by decide) split hits
  exact triggered.not_hitBy_of_first ended split (by rw [own]; decide)

end RotationChain

end Sprawl
