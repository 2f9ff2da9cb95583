/-
This file proves that the lock of a secret makes its jobs atomic.
-/

import Sprawl.Effect.Exclusive
import Sprawl.Effect.Relational
import Sprawl.Proof.Advance
import Sprawl.Rotation.Parallel
import Sprawl.Rotation.Sandbox

namespace Sprawl

open Effect

section Engine

/-- A command of the engine. It touches no lock and enqueues nothing. -/
def Command.OfEngine : Command → Prop
  | .acquireLock _ _ => False
  | .releaseLock _ _ => False
  | .enqueueJob _ => False
  | _ => True

attribute [local simp] select write commit now publish issue auditRotation setRotationStatus
  Command.OfEngine

variable (rotationId workspaceId : Uuid) (actor : String)

theorem completeRotation_ofEngine (before : RotationStatus) (message : String) :
    (completeRotation rotationId workspaceId actor before message).Issues Command.OfEngine := by
  simp [completeRotation]

theorem rollback_ofEngine (failedIdx : Int) (steps : List RotationStep) (rotation : Rotation) :
    (rollback rotationId workspaceId actor failedIdx steps rotation).Issues Command.OfEngine := by
  have passes := @compensateSteps_issues Command.OfEngine rotation (fun _ => trivial)
    (fun _ _ _ => trivial) trivial
  rw [rollback_eq]
  refine Program.issues_bind (by simp [beginRollback]) fun _ =>
    Program.issues_bind (by simp) fun time => Program.issues_bind (passes time _) fun failures => ?_
  simp [endRollback]

theorem runStep_ofEngine (steps : List RotationStep) (rotation : Rotation) (step : RotationStep) :
    (runStep rotationId workspaceId actor steps rotation step).Issues Command.OfEngine := by
  unfold runStep
  refine Program.issues_bind ?_ fun _ => Program.issues_bind ?_ fun result =>
    Program.issues_bind (by simp) fun time => ?_
  · unfold startStep
    split
    · simp
    · trivial
  · simp [callExecuteStep]
  · split
    · rw [finishStep_eq]
      refine Program.issues_bind ?_ fun _ => ?_
      · cases saved : result.newSecretRef <;> simp [recordFinished, saveNewSecretRef, saved]
      · split
        · exact completeRotation_ofEngine _ _ _ _ _
        · trivial
    · rw [failStep_eq]
      exact Program.issues_bind (by simp [recordFailed]) fun _ => rollback_ofEngine _ _ _ _ _ _

theorem advanceSteps_ofEngine (rotation : Rotation) (steps : List RotationStep) :
    (advanceSteps rotationId workspaceId actor rotation steps).Issues Command.OfEngine := by
  unfold advanceSteps
  split
  · trivial
  · split
    · split
      · exact completeRotation_ofEngine _ _ _ _ _
      · trivial
    · split
      · simp [awaitConfirmation]
      · refine Program.issues_bind (revokeGates_issues trivial _ _) fun verdict => ?_
        cases verdict with
        | error blocked => simp [blockRevoke]
        | ok passed => exact runStep_ofEngine _ _ _ _ _ _

/-- An engine call touches no lock and enqueues nothing. -/
theorem advanceRotation_ofEngine :
    (advanceRotation rotationId workspaceId actor).Issues Command.OfEngine := by
  unfold advanceRotation
  refine Program.issues_bind (by simp) fun found => ?_
  cases found with
  | none => trivial
  | some rotation =>
      dsimp only
      split
      · trivial
      · refine Program.issues_bind ?_ fun expired => ?_
        · unfold planExpired
          split
          · trivial
          · split
            · exact Program.issues_bind (by simp) fun _ => trivial
            · trivial
        · split
          · simp [expirePlan]
          · exact Program.issues_bind (by simp) fun _ => advanceSteps_ofEngine _ _ _ _ _

end Engine

section Lock

variable {D κ : Type} [SqlStore D]

omit [SqlStore D] in
theorem Session.core_eq {first second : Session D κ} (same : first.core = second.core) :
    first.db = second.db ∧ first.external = second.external ∧ first.calls = second.calls ∧
      first.locks = second.locks ∧ first.published = second.published := by
  simp only [Session.core, Session.mk.injEq] at same
  exact ⟨same.1, same.2.2.1, same.2.2.2.1, same.2.2.2.2.2.1, same.2.2.2.2.2.2.1⟩

/-- The jobs that a command enqueues. -/
def Command.enqueued : Command → List Job
  | .enqueueJob job => [job]
  | _ => []

/-- What a command does depends on the core of the session. It adds to the queue. -/
theorem Undertaking.answer_core (issued : Command) (own : Undertaking κ)
    {first second : Session D κ} (same : first.core = second.core) :
    (Undertaking.answer issued (own, first)).1 = (Undertaking.answer issued (own, second)).1 ∧
      (Undertaking.answer issued (own, first)).2.1 = (Undertaking.answer issued (own, second)).2.1 ∧
      (Undertaking.answer issued (own, first)).2.2.core =
        (Undertaking.answer issued (own, second)).2.2.core := by
  obtain ⟨db, external, calls, locks, published⟩ := Session.core_eq same
  obtain ⟨rows, _, _, _, _, _, _, _⟩ := first
  obtain ⟨_, _, _, _, _, _, _, _⟩ := second
  dsimp only at db external calls locks published
  subst db external calls locks published
  cases issued with
  | acquireLock secretId rotationId =>
      simp only [Undertaking.answer, Session.answer]
      split <;> exact ⟨rfl, rfl, rfl⟩
  | releaseLock secretId rotationId =>
      simp only [Undertaking.answer, Session.answer]
      split <;> exact ⟨rfl, rfl, rfl⟩
  | _ => exact ⟨rfl, rfl, rfl⟩

theorem Undertaking.answer_enqueued (issued : Command) (own : Undertaking κ) (shared : Session D κ) :
    (Undertaking.answer issued (own, shared)).2.2.queue = shared.queue ++ issued.enqueued := by
  cases issued with
  | acquireLock secretId rotationId =>
      simp only [Undertaking.answer, Session.answer, Command.enqueued, List.append_nil]
      split <;> rfl
  | releaseLock secretId rotationId =>
      simp only [Undertaking.answer, Session.answer, Command.enqueued, List.append_nil]
      split <;> rfl
  | enqueueJob job => rfl
  | _ => exact (List.append_nil _).symm

/-- The lock of a secret, with the rotation that its key holds. -/
def secretLock (D κ : Type) [SqlStore D] (secretId : Uuid) :
    Lock (Undertaking.answer (D := D) (κ := κ)) (Session D κ) Job Uuid where
  core := Session.core
  output := Session.queue
  emitted := Command.enqueued
  holder session := session.locks.lookup secretId
  enter rotationId := .acquireLock secretId rotationId
  refusal _ := false
  exit rotationId := .releaseLock secretId rotationId
  within := Command.OfEngine
  late issued := ∃ job, issued = .enqueueJob job
  reply issued own _ _ same := (Undertaking.answer_core issued own same).1
  own issued own _ _ same := (Undertaking.answer_core issued own same).2.1
  moved issued own _ _ same := (Undertaking.answer_core issued own same).2.2
  emits := Undertaking.answer_enqueued
  silent _ := rfl
  entered rotationId own shared free := by
    have unheld : shared.locks.lookup secretId = none := free
    simp [Undertaking.answer, Session.answer, unheld, Session.core, Session.closed]
  refused rotationId own shared held := by
    have taken : (shared.locks.lookup secretId).isSome = true := Option.isSome_iff_ne_none.mpr held
    simp [Undertaking.answer, Session.answer, taken, Session.core, Session.closed]
  kept issued own shared within := by
    cases issued with
    | acquireLock secretId rotationId => exact within.elim
    | releaseLock secretId rotationId => exact within.elim
    | _ => rfl
  unmoved issued own shared late := by
    obtain ⟨job, rfl⟩ := late
    rfl
  settled issued first second late := by
    obtain ⟨job, rfl⟩ := late
    rfl

/-- A job of the secret enters with its rotation and leaves before it enqueues the next job. -/
theorem runRotationStep_guarded (job : Job) :
    (secretLock D κ job.secretId).Guarded job.rotationId job.notAcquired (runRotationStep job) := by
  refine ⟨_, rfl, rfl, fun reply granted => ?_⟩
  have acquired : reply = true := (Bool.eq_false_or_eq_true reply).resolve_right granted
  subst acquired
  change Lock.Inside _ _ (advanceRotation job.rotationId job.workspaceId job.actor >>= _)
  refine Lock.inside_bind _ (advanceRotation_ofEngine _ _ _) fun result => ?_
  refine Or.inr ⟨rfl, fun released => ?_⟩
  cases result.shouldContinue with
  | true => exact ⟨⟨job, rfl⟩, fun _ => trivial⟩
  | false => trivial

end Lock

section Turns

variable {D κ : Type} [SqlStore D]

/-- The session in which a transaction runs its statements. -/
def Undertaking.session (state : Undertaking κ × Session D κ) : Session D κ :=
  { state.2 with
    pending := state.1.transaction.pending
    clock := state.1.transaction.clock }

/-- No command changes the clock of a session. -/
theorem Session.answer_clock (connectors : Connectors κ) (issued : Command) (session : Session D κ) :
    (session.answer connectors issued).2.clock = session.clock := by
  cases issued with
  | acquireLock secretId rotationId =>
      simp only [Session.answer]
      split <;> rfl
  | releaseLock secretId rotationId =>
      simp only [Session.answer]
      split <;> rfl
  | _ => rfl

/-- A transaction runs as a session of its own does. -/
theorem Undertaking.answer_agrees (connectors : Connectors κ) :
    Agrees (fun (state : Undertaking κ × Session D κ) session =>
        state.1.transaction.connectors = connectors ∧ Undertaking.session state = session)
      Undertaking.answer (Session.answer connectors) := by
  rintro issued ⟨own, shared⟩ session ⟨rfl, rfl⟩
  refine ⟨rfl, rfl, ?_⟩
  have clock := Session.answer_clock own.transaction.connectors issued
    (Undertaking.session (own, shared))
  change { (Session.answer own.transaction.connectors issued (Undertaking.session (own, shared))).2 with
    clock := own.transaction.clock } = _
  rw [show own.transaction.clock = (Undertaking.session (own, shared)).clock from rfl, ← clock]

/-- The session without its open transaction. -/
def Session.settled (session : Session D κ) : Session D κ := session.opened 0

variable (delivered : DeliveredJob κ)

/-- A thread alone does what its job does at once. -/
theorem DeliveredJob.thread_alone {shared session : Session D κ}
    (same : shared.settled = session.settled) :
    (delivered.thread.alone Undertaking.answer shared).1 = (delivered.alone session).1 ∧
      (delivered.thread.alone Undertaking.answer shared).2.settled =
        (delivered.alone session).2.settled := by
  have start : Undertaking.session (delivered.thread.own, shared) =
      session.opened delivered.invocation.clock := by
    simpa [Session.settled, Session.opened, Undertaking.session, DeliveredJob.thread] using same
  obtain ⟨value, _, reached⟩ := (runRotationStep delivered.job).run_agrees
    (Undertaking.answer_agrees delivered.invocation.connectors) ⟨rfl, start⟩
  refine ⟨value, ?_⟩
  have settled := congrArg Session.settled reached
  exact settled

/-- Threads one after another do what their jobs do one after another. -/
theorem serial_inTurn (jobs : List (DeliveredJob κ)) (order : List Nat) (session : Session D κ) :
    (serial Undertaking.answer (jobs.map DeliveredJob.thread) order session).settled =
      (inTurn jobs order session).settled := by
  have turns (order : List Nat) (shared session : Session D κ)
      (same : shared.settled = session.settled) :
      (serial Undertaking.answer (jobs.map DeliveredJob.thread) order shared).settled =
        (inTurn jobs order session).settled := by
    induction order generalizing shared session with
    | nil => exact same
    | cons index rest ih =>
        refine ih _ _ ?_
        dsimp only
        rw [List.getElem?_map]
        cases jobs[index]? with
        | none => exact same
        | some delivered => exact (delivered.thread_alone same).2
  exact turns order session session rfl

/-- A thread that stops after some commands stops where its job does. -/
theorem DeliveredJob.thread_stopped (count : Nat) {shared session : Session D κ}
    (same : shared.settled = session.settled) :
    (Program.stateAfter Undertaking.answer count delivered.thread.program
        (delivered.thread.own, shared)).2.settled = (delivered.stopped count session).settled := by
  have start : Undertaking.session (delivered.thread.own, shared) =
      session.opened delivered.invocation.clock := by
    simpa [Session.settled, Session.opened, Undertaking.session, DeliveredJob.thread] using same
  obtain ⟨_, reached⟩ := Program.stateAfter_agrees
    (Undertaking.answer_agrees delivered.invocation.connectors) count
    (runRotationStep delivered.job) ⟨rfl, start⟩
  have settled := congrArg Session.settled reached
  exact settled

omit [SqlStore D] in
theorem Session.core_of_settled {first second : Session D κ}
    (same : first.settled = second.settled) : first.core = second.core := by
  have cores := congrArg Session.core same
  exact cores

/-- All jobs of a pool have ended. -/
def JobsEnded (pool : Pool Command Command.Reply (Undertaking κ) (Session D κ) EngineResult) : Prop :=
  ∀ thread ∈ pool.threads, ∃ result, thread.program = .pure result

/-- A pool is at a moment of a run of the jobs one after another. Where all jobs have ended, each has
returned what it returns in its turn, or it was dropped. -/
structure JobsInOrder (jobs : List (DeliveredJob κ)) (session : Session D κ) (order : List Nat)
    (pool : Pool Command Command.Reply (Undertaking κ) (Session D κ) EngineResult) : Prop where
  once : order.Nodup
  moment : pool.shared.core = (inTurn jobs order session).core ∨
    ∃ index delivered count, index ∉ order ∧ jobs[index]? = some delivered ∧
      pool.shared.core = (delivered.stopped count (inTurn jobs order session)).core
  rows : JobsEnded pool → pool.shared.core = (inTurn jobs order session).core
  queue : JobsEnded pool → pool.shared.queue.Perm (inTurn jobs order session).queue
  results : JobsEnded pool → ∀ (index : Nat) delivered thread result, jobs[index]? = some delivered →
    pool.threads[index]? = some thread → thread.program = .pure result →
      (∃ before after, order = before ++ index :: after ∧
        result = (delivered.alone (inTurn jobs before session)).1) ∨
      (index ∉ order ∧ result = delivered.job.notAcquired)

/-- The lock makes the jobs of a secret atomic, however their statements interleave. -/
theorem jobs_serialised {secretId : Uuid} {jobs : List (DeliveredJob κ)}
    (one : ∀ delivered ∈ jobs, delivered.job.secretId = secretId) (session : Session D κ)
    (schedule : List Nat) : ∃ order, JobsInOrder jobs session order
      (runActions (Pool.step Undertaking.answer) schedule (inParallel jobs session)) := by
  let token (index : Nat) : Uuid := (jobs[index]?.map (·.job.rotationId)).getD 0
  let given (index : Nat) : EngineResult := ((jobs[index]?.map (·.job.notAcquired)).getD
    { rotationStatus := "" })
  have guarded : ∀ index thread, (jobs.map DeliveredJob.thread)[index]? = some thread →
      (secretLock D κ secretId).Guarded (token index) (given index) thread.program := by
    intro index thread found
    rw [List.getElem?_map, Option.map_eq_some_iff] at found
    obtain ⟨delivered, place, rfl⟩ := found
    have opens := runRotationStep_guarded (D := D) (κ := κ) delivered.job
    rw [one delivered (List.mem_of_getElem? place)] at opens
    simp only [token, given, place, Option.map_some, Option.getD_some]
    exact opens
  obtain ⟨order, owed, current, serialised⟩ : ∃ order owed current,
      (secretLock D κ secretId).Serialised _ token given session order owed current
        (runActions (Pool.step Undertaking.answer) schedule (inParallel jobs session)) :=
    Lock.serialised_run _ guarded schedule
  have core (order : List Nat) :
      (serial Undertaking.answer (jobs.map DeliveredJob.thread) order session).core =
        (inTurn jobs order session).core :=
    Session.core_of_settled (serial_inTurn jobs order session)
  refine ⟨order, serialised.nodup, ?_, fun ended => ?_, fun ended => ?_, fun ended => ?_⟩
  · cases current with
    | none => exact Or.inl ((serialised.resting rfl).core.trans (core order))
    | some index =>
        obtain ⟨original, count, began, reached⟩ := serialised.point
        rw [List.getElem?_map, Option.map_eq_some_iff] at began
        obtain ⟨delivered, place, rfl⟩ := began
        have stopped := delivered.thread_stopped count (serial_inTurn jobs order session)
        exact Or.inr ⟨index, delivered, count, serialised.apart index rfl, place,
          reached.trans (Session.core_of_settled stopped)⟩
  · exact (serialised.ended _ guarded ended).2.1.trans (core order)
  · have queued := congrArg Session.queue (serial_inTurn jobs order session)
    exact (serialised.ended _ guarded ended).2.2.1.trans (.of_eq queued)
  · obtain ⟨_, _, _, results⟩ := serialised.ended _ guarded ended
    intro index delivered thread result place found same
    obtain ⟨_, before, after, original, turn, began, value⟩ | ⟨outside, value⟩ :=
      results index thread result found same
    · left
      rw [List.getElem?_map, place, Option.map_some] at began
      obtain rfl := Option.some.inj began
      exact ⟨before, after, turn,
        value.trans (delivered.thread_alone (serial_inTurn jobs before session)).1⟩
    · right
      simp only [given, place, Option.map_some, Option.getD_some] at value
      exact ⟨outside, value⟩

end Turns

section Atomic

variable {κ : Type}

/-- In the world of a rotation, jobs in turn are a run of the system whose jobs are atomic. -/
theorem inTurn_atomic (jobs : List (DeliveredJob κ)) (order : List Nat) (world : World κ) :
    inTurn jobs order world.session =
      (runActions AnyJobAction.step
        ((order.filterMap (jobs[·]?)).map fun delivered =>
          .run delivered.job delivered.invocation) world).session := by
  induction order generalizing world with
  | nil => rfl
  | cons index rest ih =>
      rw [inTurn, List.foldl_cons, List.filterMap_cons]
      cases jobs[index]? with
      | none => exact ih world
      | some delivered => exact ih (world.runJob delivered.job delivered.invocation)

/-- The first job of the demo rotation, once it is approved. -/
def sandboxDelivery : DeliveredJob SandboxStore where
  job := { rotationId := 5, workspaceId := 7, secretId := 6, actor := "owner" }
  invocation := sandboxCall none

/-- Two deliveries of one job interleave statement by statement. -/
theorem jobs_serialised_twice :
    let session := ((World.proposed triggeredPlan []).handle sandboxApproval 1).session
    ∃ order, JobsInOrder [sandboxDelivery, sandboxDelivery] session order
      (runActions (Pool.step Undertaking.answer) [0, 1, 0, 0, 1]
        (inParallel [sandboxDelivery, sandboxDelivery] session)) := by
  have one : ∀ delivered ∈ [sandboxDelivery, sandboxDelivery], delivered.job.secretId = 6 := by
    simp [sandboxDelivery]
  exact jobs_serialised one _ [0, 1, 0, 0, 1]

end Atomic

end Sprawl
