/-
This file proves what one delivered job does to the world of a rotation.
-/

import Sprawl.Proof.Consent

namespace Sprawl

open Effect

variable {κ : Type}

/-- The job is one for this rotation. -/
structure Job.Belongs (job : Job) (rows : Rows) : Prop where
  rotationId : job.rotationId = rows.rotation.id
  workspaceId : job.workspaceId = rows.rotation.workspaceId
  secretId : job.secretId = rows.rotation.secretId

/-- A session that holds the lock of a secret. -/
def Session.locked (session : Session Rows κ) (secretId rotationId : Uuid) : Session Rows κ :=
  { session with locks := [(secretId, rotationId)] }

theorem Session.acquires_free (connectors : Connectors κ) {session : Session Rows κ}
    (free : session.locks = []) (secretId rotationId : Uuid) :
    session.answer connectors (.acquireLock secretId rotationId) =
      (true, session.locked secretId rotationId) := by
  simp [Session.answer, free, Session.locked]

theorem Session.releases_held (connectors : Connectors κ) {session : Session Rows κ}
    {secretId rotationId : Uuid} (locks : session.locks = [(secretId, rotationId)]) :
    session.answer connectors (.releaseLock secretId rotationId) =
      (true, { session with locks := [] }) := by
  simp [Session.answer, locks]

/-- A job that finds the lock free ends as its engine call ends, with the lock released. -/
theorem runRotationStep_run (connectors : Connectors κ) {session : Session Rows κ}
    (free : session.locks = []) (job : Job) {engine : EngineResult × Session Rows κ}
    (ran : (advanceRotation job.rotationId job.workspaceId job.actor).run
      (Session.answer connectors) (session.locked job.secretId job.rotationId) = engine)
    (locks : engine.2.locks = [(job.secretId, job.rotationId)]) :
    (runRotationStep job).run (Session.answer connectors) session =
      (engine.1, { engine.2 with
        locks := []
        queue := engine.2.queue ++ if engine.1.shouldContinue then [job] else [] }) := by
  have acquired := Session.acquires_free connectors free job.secretId job.rotationId
  have released := Session.releases_held connectors locks
  simp only [runRotationStep, acquireLock, releaseLock, enqueueJob, issue,
    Program.run_bind, Program.run_perform, acquired, if_true, ran, released]
  cases again : engine.1.shouldContinue with
  | true => rfl
  | false =>
      simp only [Bool.false_eq_true, if_false, List.append_nil]
      rfl

/-- The moments of such a job are those of its engine call, between internal ones. -/
theorem runRotationStep_trace (connectors : Connectors κ) {session : Session Rows κ}
    (free : session.locks = []) (job : Job) {engine : EngineResult × Session Rows κ}
    (ran : (advanceRotation job.rotationId job.workspaceId job.actor).run
      (Session.answer connectors) (session.locked job.secretId job.rotationId) = engine)
    (locks : engine.2.locks = [(job.secretId, job.rotationId)]) :
    ∃ before later, (runRotationStep job).trace (Session.answer connectors) session = before ++
        (advanceRotation job.rotationId job.workspaceId job.actor).trace
          (Session.answer connectors) (session.locked job.secretId job.rotationId) ++ later ∧
      (∀ moment ∈ before, moment.issued.isInternal = true) ∧
      ∀ moment ∈ later, moment.issued.isInternal = true := by
  have acquired := Session.acquires_free connectors free job.secretId job.rotationId
  have released := Session.releases_held connectors locks
  simp only [runRotationStep, acquireLock, releaseLock, enqueueJob, issue, Program.trace_bind,
    Program.trace_perform, Program.run_perform, acquired, if_true, ran, released]
  cases again : engine.1.shouldContinue with
  | true =>
      refine ⟨[_], [_, _], rfl, ?_, ?_⟩
      · simp [Command.isInternal]
      · simp [Command.isInternal]
  | false =>
      refine ⟨[_], [_], rfl, ?_, ?_⟩
      · simp [Command.isInternal]
      · simp [Command.isInternal]

/-- A free lock is acquired, held by the engine call and released. -/
theorem runRotationStep_ensures (connectors : Connectors κ) {session : Session Rows κ}
    (empty : session.pending = []) (free : session.locks = []) {job : Job}
    (belongs : job.Belongs session.db) :
    (runRotationStep job).Ensures (Session.answer connectors) session
      (fun moment => moment.issued.isInternal = true ∨ EngineMoment connectors job.actor
        (session.locked job.secretId job.rotationId) moment)
      fun _ final => ∃ ended, EngineEnd connectors job.actor
          (session.locked job.secretId job.rotationId) ended ∧
        final.db = ended.db ∧ final.calls = ended.calls ∧ final.locks = [] ∧
        (final.queue = session.queue ∨ final.queue = session.queue ++ [job]) := by
  have engine := @advanceRotation_ensures _ connectors job.actor
    (session.locked job.secretId job.rotationId) empty
  rw [show (session.locked job.secretId job.rotationId).db = session.db from rfl,
    ← belongs.rotationId, ← belongs.workspaceId] at engine
  obtain ⟨rows, events, reaches⟩ := engine.final.reaches
  obtain ⟨before, later, split, starts, stops⟩ :=
    runRotationStep_trace connectors free job rfl reaches.locks
  constructor
  · intro moment inside
    rw [split] at inside
    obtain (inside | inside) | inside : (_ ∨ _) ∨ _ := by
      simpa only [List.mem_append] using inside
    · exact Or.inl (starts moment inside)
    · exact Or.inr (engine.moments moment inside)
    · exact Or.inl (stops moment inside)
  · rw [runRotationStep_run connectors free job rfl reaches.locks]
    refine ⟨_, engine.final, rfl, rfl, rfl, ?_⟩
    rw [reaches.queue]
    split
    · exact Or.inr rfl
    · exact Or.inl (List.append_nil _)

/-- The jobs in the queue are jobs for this rotation, and no job holds a lock. -/
structure Queued (world : World κ) : Prop where
  belongs : ∀ job ∈ world.session.queue, job.Belongs world.db
  free : world.session.locks = []

namespace World

variable {world : World κ}

/-- The session that the engine call of a delivery meets. -/
def delivered (world : World κ) (index : Nat) (job : Job) (clock : Time) : Session Rows κ :=
  ((world.taken index).session.opened clock).locked job.secretId job.rotationId

/-- A delivery ends as one engine call ends. -/
theorem deliver_end (queued : Queued world) {index : Nat} {job : Job}
    (found : world.session.queue[index]? = some job) (invocation : Invocation κ) :
    ∃ ended, EngineEnd invocation.connectors job.actor
        (world.delivered index job invocation.clock) ended ∧
      (world.deliver index invocation).db = ended.db ∧
      (world.deliver index invocation).calls = ended.calls ∧
      (world.deliver index invocation).accepted = world.accepted ∧
      (world.deliver index invocation).session.locks = [] ∧
      ((world.deliver index invocation).session.queue = world.session.queue.eraseIdx index ∨
        (world.deliver index invocation).session.queue =
          world.session.queue.eraseIdx index ++ [job]) := by
  have belongs := queued.belongs job (List.mem_of_getElem? found)
  obtain ⟨ended, ends, rows, calls, locks, queue⟩ := (runRotationStep_ensures
    invocation.connectors (Session.opened_pending invocation.clock (world.taken index).session)
    queued.free belongs).final
  simp only [deliver, found]
  exact ⟨ended, ends, rows, calls, rfl, locks, queue⟩

/-- The moments of a delivery are bookkeeping or moments of its engine call. -/
theorem deliver_moment (queued : Queued world) {index : Nat} {job : Job}
    (found : world.session.queue[index]? = some job) (invocation : Invocation κ) :
    ∀ moment ∈ world.deliveryMoments index invocation,
      moment.issued.isInternal = true ∨ EngineMoment invocation.connectors job.actor
        (world.delivered index job invocation.clock) moment := by
  have belongs := queued.belongs job (List.mem_of_getElem? found)
  simp only [deliveryMoments, found]
  exact (runRotationStep_ensures invocation.connectors
    (Session.opened_pending invocation.clock (world.taken index).session) queued.free
    belongs).moments

/-- A delivery of nothing changes nothing. -/
theorem deliver_none {index : Nat} (absent : world.session.queue[index]? = none)
    (invocation : Invocation κ) : world.deliver index invocation = world := by
  simp only [deliver, absent]

/-- The delivered job runs the executor of the step. -/
def delivers (world : World κ) (index : Nat) (invocation : Invocation κ) (step : RotationStep) :
    Prop :=
  ∃ moment ∈ world.deliveryMoments index invocation,
    ∃ rotation, moment.issued = .executeStep step rotation

/-- A delivered job runs a step exactly when the rows let it. -/
theorem delivers_iff (queued : Queued world) (index : Nat) (invocation : Invocation κ)
    (step : RotationStep) :
    world.delivers index invocation step ↔
      (∃ job, world.session.queue[index]? = some job) ∧
        Executes world.db invocation.clock step := by
  constructor
  · intro given
    obtain ⟨moment, inside, rotation, issued⟩ := given
    cases found : world.session.queue[index]? with
    | none =>
        simp only [deliveryMoments, found] at inside
        exact absurd inside List.not_mem_nil
    | some job =>
        obtain internal | within := deliver_moment queued found invocation moment inside
        · simp [issued, Command.isInternal] at internal
        · exact ⟨⟨job, rfl⟩, (within.execution issued).1⟩
  · intro given
    obtain ⟨⟨job, found⟩, executes⟩ := given
    have belongs := queued.belongs job (List.mem_of_getElem? found)
    obtain ⟨moment, inside, issued⟩ := @advanceRotation_executes _ invocation.connectors job.actor
      (world.delivered index job invocation.clock) rfl step executes
    refine ⟨moment, ?_, _, issued⟩
    simp only [deliveryMoments, found]
    have free : ((world.taken index).session.opened invocation.clock).locks = [] := queued.free
    have acquired : _ = (true, world.delivered index job invocation.clock) :=
      Session.acquires_free invocation.connectors free job.secretId job.rotationId
    refine Program.mem_trace_bind _ acquired ?_
    simp only [if_true]
    rw [Program.trace_bind, belongs.rotationId, belongs.workspaceId]
    exact List.mem_append_left _ inside

end World

namespace Queued

variable {world : World κ}

/-- A rotation that keeps its identity keeps its jobs. -/
theorem of_keeps {after : World κ} (queued : Queued world)
    (keeps : Keeps RotationStep.identity world.db after.db)
    (locks : after.session.locks = [])
    (queue : ∀ job ∈ after.session.queue, job ∈ world.session.queue ∨ job.Belongs world.db) :
    Queued after where
  belongs job inside := by
    have belongs := (queue job inside).elim (queued.belongs job) fun holds => holds
    exact ⟨belongs.rotationId.trans keeps.id.symm, belongs.workspaceId.trans keeps.workspaceId.symm,
      belongs.secretId.trans keeps.secretId.symm⟩
  free := locks

theorem handle (queued : Queued world) (request : Request) (clock : Time) :
    Queued (world.handle request clock) := by
  obtain ⟨reply, final, handled, same⟩ := world.handle_end request clock
  have keeps := handled.keeps identity_confirmless
  rw [same]
  cases handled with
  | refused error => exact queued.of_keeps keeps queued.free fun job inside => Or.inl inside
  | rejected claims role sent waiting body =>
      exact queued.of_keeps keeps queued.free fun job inside => Or.inl inside
  | approved claims role sent waiting body =>
      refine queued.of_keeps keeps queued.free fun job inside => ?_
      obtain earlier | new := List.mem_append.mp inside
      · exact Or.inl earlier
      · rw [List.mem_singleton.mp new]
        exact Or.inr ⟨rfl, rfl, rfl⟩
  | confirmed claims role step sent waiting inside pending body =>
      refine queued.of_keeps keeps queued.free fun job inside => ?_
      obtain earlier | new := List.mem_append.mp inside
      · exact Or.inl earlier
      · rw [List.mem_singleton.mp new]
        exact Or.inr ⟨rfl, rfl, rfl⟩

theorem deliver (queued : Queued world) (index : Nat) (invocation : Invocation κ) :
    Queued (world.deliver index invocation) := by
  cases found : world.session.queue[index]? with
  | none =>
      rw [World.deliver_none found]
      exact queued
  | some job =>
      obtain ⟨ended, ends, rows, _, _, locks, queue⟩ := World.deliver_end queued found invocation
      have keeps : Keeps RotationStep.identity world.db (world.deliver index invocation).db := by
        rw [rows]
        exact ends.keeps identity_engineless
      refine queued.of_keeps keeps locks fun other inside => Or.inl ?_
      rcases queue with queue | queue <;> rw [queue] at inside
      · exact List.mem_of_mem_eraseIdx inside
      · obtain earlier | new := List.mem_append.mp inside
        · exact List.mem_of_mem_eraseIdx earlier
        · rw [List.mem_singleton.mp new]
          exact List.mem_of_getElem? found

/-- Every action keeps the queue. -/
theorem action (queued : Queued world) (action : JobAction κ) : Queued (action.step world) := by
  cases action with
  | request request clock => exact queued.handle request clock
  | deliver index invocation => exact queued.deliver index invocation

end Queued

end Sprawl
