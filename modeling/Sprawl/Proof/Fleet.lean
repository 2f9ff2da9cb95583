/-
This file proves what one action does to the rotations of a fleet.
-/

import Sprawl.Proof.Delivery
import Sprawl.Proof.Halt
import Sprawl.Rotation.Fleet

namespace Sprawl

open Effect

variable {κ : Type}

section Lists

variable {α : Type} {items : List α} {index : Nat} {item other : α}

theorem mem_set_of_ne (inside : item ∈ items) (found : items[index]? = some other)
    (different : item ≠ other) (next : α) : item ∈ items.set index next := by
  obtain ⟨place, here⟩ := List.mem_iff_getElem?.mp inside
  have apart : index ≠ place := by
    rintro rfl
    exact different (Option.some.inj (here.symm.trans found))
  exact List.mem_of_getElem? ((List.getElem?_set_ne apart).trans here)

theorem mem_set_self (found : items[index]? = some other) (next : α) : next ∈ items.set index next :=
  List.mem_set (List.getElem?_eq_some_iff.mp found).1 next

theorem mem_eraseIdx_of_ne (inside : item ∈ items) (found : items[index]? = some other)
    (different : item ≠ other) : item ∈ items.eraseIdx index := by
  obtain ⟨place, here⟩ := List.mem_iff_getElem?.mp inside
  refine List.mem_eraseIdx_iff_getElem?.mpr ⟨place, ?_, here⟩
  rintro rfl
  exact different (Option.some.inj (here.symm.trans found))

theorem mem_set_of_mem_eraseIdx (inside : item ∈ items.eraseIdx index) (next : α) :
    item ∈ items.set index next := by
  obtain ⟨place, apart, here⟩ := List.mem_eraseIdx_iff_getElem?.mp inside
  exact List.mem_of_getElem? ((List.getElem?_set_ne apart.symm).trans here)

end Lists

section Table

variable {table : List Rows} {rows other : Rows} {rotationId : Uuid}

theorem findRows_eq_some (found : findRows rotationId table = some rows) :
    rows ∈ table ∧ rows.rotation.id = rotationId :=
  ⟨List.mem_of_find?_eq_some found, by simpa using List.find?_some found⟩

theorem findRows_eq_none (absent : findRows rotationId table = none) :
    ∀ rows ∈ table, rows.rotation.id ≠ rotationId := by
  simpa [findRows] using absent

theorem mem_putRows_self (inside : other ∈ table) (same : other.rotation.id = rows.rotation.id) :
    rows ∈ putRows rows table :=
  List.mem_map.mpr ⟨other, inside, if_pos same⟩

theorem mem_putRows_of_ne (inside : other ∈ table) (different : other.rotation.id ≠ rows.rotation.id) :
    other ∈ putRows rows table :=
  List.mem_map.mpr ⟨other, inside, if_neg different⟩

/-- A replaced table has the new rows and the rows of the other rotations. -/
theorem mem_putRows (inside : other ∈ putRows rows table) :
    other = rows ∨ other ∈ table ∧ other.rotation.id ≠ rows.rotation.id := by
  obtain ⟨old, within, same⟩ := List.mem_map.mp inside
  by_cases replaced : old.rotation.id = rows.rotation.id
  · rw [if_pos replaced] at same
    exact Or.inl same.symm
  · rw [if_neg replaced] at same
    subst same
    exact Or.inr ⟨within, replaced⟩

end Table

/-- A rotation that keeps its identity keeps its jobs. -/
theorem Job.Belongs.of_keeps {job : Job} {rows after : Rows} (belongs : job.Belongs rows)
    (keeps : Keeps RotationStep.identity rows after) : job.Belongs after where
  rotationId := belongs.rotationId.trans keeps.id.symm
  workspaceId := belongs.workspaceId.trans keeps.workspaceId.symm
  secretId := belongs.secretId.trans keeps.secretId.symm

namespace Fleet

/-- Every identifier has one disciplined rotation, and every job and request has its rotation. -/
structure Coherent (fleet : Fleet κ) : Prop where
  unique : ∀ rows ∈ fleet.table, ∀ other ∈ fleet.table,
    rows.rotation.id = other.rotation.id → rows = other
  disciplined : ∀ rows ∈ fleet.table, Disciplined rows
  queued : ∀ job ∈ fleet.queue, ∃ rows ∈ fleet.table, job.Belongs rows
  running : ∀ running ∈ fleet.running, ∃ rows ∈ fleet.table, running.job.Belongs rows
  recent : ∀ request ∈ fleet.recent, ∃ rows ∈ fleet.table, rows.rotation.id = request.rotationId

theorem coherent_empty (external : κ) : (Fleet.empty external).Coherent := by
  constructor <;> simp [Fleet.empty, Fleet.table, Fleet.queue]

namespace Coherent

variable {fleet next : Fleet κ} {rows after : Rows}

/-- A job finds its rotation. -/
theorem found (coherent : fleet.Coherent) {job : Job}
    (owned : ∃ rows ∈ fleet.table, job.Belongs rows) :
    ∃ rows, findRows job.rotationId fleet.table = some rows ∧ rows ∈ fleet.table ∧
      job.Belongs rows := by
  obtain ⟨rows, inside, belongs⟩ := owned
  cases found : findRows job.rotationId fleet.table with
  | none => exact absurd belongs.rotationId.symm (findRows_eq_none found rows inside)
  | some other =>
      obtain ⟨within, same⟩ := findRows_eq_some found
      obtain rfl := coherent.unique other within rows inside (same.trans belongs.rotationId)
      exact ⟨other, rfl, inside, belongs⟩

/-- The rows of one rotation move on. -/
theorem update (coherent : fleet.Coherent) (inside : rows ∈ fleet.table)
    (keeps : Keeps RotationStep.identity rows after) (disciplined : Disciplined after)
    (table : next.table = putRows after fleet.table)
    (queue : ∀ job ∈ next.queue, (∃ rows ∈ fleet.table, job.Belongs rows))
    (running : ∀ running ∈ next.running, ∃ rows ∈ fleet.table, running.job.Belongs rows)
    (recent : ∀ request ∈ next.recent,
      ∃ rows ∈ fleet.table, rows.rotation.id = request.rotationId) : next.Coherent := by
  -- Every old rotation is still there, with the same identity.
  have moved : ∀ other ∈ fleet.table, ∃ later ∈ next.table,
      Keeps RotationStep.identity other later := by
    intro other within
    rw [table]
    by_cases same : other.rotation.id = after.rotation.id
    · obtain rfl := coherent.unique other within rows inside (same.trans keeps.id)
      exact ⟨after, mem_putRows_self within same, keeps⟩
    · exact ⟨other, mem_putRows_of_ne within same, Keeps.refl other⟩
  constructor
  · intro first here second there same
    rw [table] at here there
    obtain rfl | ⟨here, apart⟩ := mem_putRows here
    · obtain rfl | ⟨there, apart⟩ := mem_putRows there
      · rfl
      · exact absurd same.symm apart
    · obtain rfl | ⟨there, _⟩ := mem_putRows there
      · exact absurd same apart
      · exact coherent.unique first here second there same
  · intro other within
    rw [table] at within
    obtain rfl | ⟨within, _⟩ := mem_putRows within
    · exact disciplined
    · exact coherent.disciplined other within
  · intro job within
    obtain ⟨old, present, belongs⟩ := queue job within
    obtain ⟨later, found, kept⟩ := moved old present
    exact ⟨later, found, belongs.of_keeps kept⟩
  · intro running' within
    obtain ⟨old, present, belongs⟩ := running running' within
    obtain ⟨later, found, kept⟩ := moved old present
    exact ⟨later, found, belongs.of_keeps kept⟩
  · intro request within
    obtain ⟨old, present, same⟩ := recent request within
    obtain ⟨later, found, kept⟩ := moved old present
    exact ⟨later, found, kept.id.trans same⟩

/-- A fleet with the same rotations. -/
theorem same (coherent : fleet.Coherent) (table : next.table = fleet.table)
    (queue : ∀ job ∈ next.queue, (∃ rows ∈ fleet.table, job.Belongs rows))
    (running : ∀ running ∈ next.running, ∃ rows ∈ fleet.table, running.job.Belongs rows)
    (recent : next.recent = fleet.recent) : next.Coherent where
  unique := table ▸ coherent.unique
  disciplined := table ▸ coherent.disciplined
  queued := table ▸ queue
  running := table ▸ running
  recent := table ▸ recent ▸ coherent.recent

end Coherent

section Operations

variable {fleet : Fleet κ}

/-- A request moves the rotation that it addresses. -/
theorem handle_end {request : Request} {rows : Rows}
    (found : findRows request.rotationId fleet.table = some rows) (clock : Time) :
    ∃ reply final, Handled request ((fleet.world rows).session.opened clock) reply final ∧
      fleet.handle request clock = fleet.absorb
        { session := final.closed
          accepted := match reply with
            | .ok _ => fleet.recent ++ [request]
            | .error _ => fleet.recent } := by
  obtain ⟨reply, final, handled, same⟩ := (fleet.world rows).handle_end request clock
  refine ⟨reply, final, handled, ?_⟩
  simp only [handle, found, same]
  rfl

/-- The jobs that a request enqueues belong to its rotation. -/
theorem handled_queue {request : Request} {rows : Rows} {clock : Time}
    {reply : Except HttpError Json} {final : Session Rows κ}
    (handled : Handled request ((fleet.world rows).session.opened clock) reply final) :
    ∀ job ∈ final.queue, job ∈ fleet.queue ∨ job.Belongs rows := by
  cases handled with
  | refused error => exact fun job inside => Or.inl inside
  | rejected claims role sent waiting body => exact fun job inside => Or.inl inside
  | approved claims role sent waiting body =>
      intro job inside
      obtain earlier | new := List.mem_append.mp inside
      · exact Or.inl earlier
      · rw [List.mem_singleton.mp new]
        exact Or.inr ⟨rfl, rfl, rfl⟩
  | confirmed claims role step sent waiting present pending body =>
      intro job inside
      obtain earlier | new := List.mem_append.mp inside
      · exact Or.inl earlier
      · rw [List.mem_singleton.mp new]
        exact Or.inr ⟨rfl, rfl, rfl⟩

/-- A request takes no job away. -/
theorem handled_queue_grows {request : Request} {rows : Rows} {clock : Time}
    {reply : Except HttpError Json} {final : Session Rows κ}
    (handled : Handled request ((fleet.world rows).session.opened clock) reply final) :
    ∀ job ∈ fleet.queue, job ∈ final.queue := by
  intro job within
  cases handled with
  | refused error => exact within
  | rejected claims role sent waiting body => exact within
  | approved claims role sent waiting body => exact List.mem_append_left _ within
  | confirmed claims role step sent waiting present pending body =>
      exact List.mem_append_left _ within

/-- A request keeps the fleet coherent. -/
theorem Coherent.handle (coherent : fleet.Coherent) (request : Request) (clock : Time) :
    (fleet.handle request clock).Coherent := by
  cases found : findRows request.rotationId fleet.table with
  | none =>
      simp only [Fleet.handle, found]
      exact coherent
  | some rows =>
      obtain ⟨inside, addressed⟩ := findRows_eq_some found
      obtain ⟨reply, final, handled, same⟩ := handle_end found clock
      rw [same]
      have opened : Disciplined ((fleet.world rows).session.opened clock).db :=
        coherent.disciplined rows inside
      apply coherent.update inside (handled.keeps identity_confirmless) (opened.handled handled) rfl
      · intro job within
        obtain earlier | belongs := handled_queue handled job within
        · exact coherent.queued job earlier
        · exact ⟨rows, inside, belongs⟩
      · exact coherent.running
      · intro other within
        cases reply with
        | error error => exact coherent.recent other within
        | ok body =>
            obtain earlier | new := List.mem_append.mp within
            · exact coherent.recent other earlier
            · rw [List.mem_singleton.mp new]
              exact ⟨rows, inside, addressed⟩

/-- A trigger keeps the fleet coherent. -/
theorem Coherent.propose (coherent : fleet.Coherent) (proposal : Proposal) :
    (fleet.propose proposal).Coherent := by
  unfold Fleet.propose
  split
  · exact coherent
  · rename_i absent
    have fresh : ∀ rows ∈ fleet.table, rows.rotation.id ≠ proposal.id := by
      intro rows inside same
      exact absent (List.any_eq_true.mpr ⟨rows, inside, by simp [same]⟩)
    have grown {holds : Rows → Prop} (some : ∃ rows ∈ fleet.table, holds rows) :
        ∃ rows ∈ fleet.table ++ [proposal.rows], holds rows := by
      obtain ⟨rows, inside, present⟩ := some
      exact ⟨rows, List.mem_append_left _ inside, present⟩
    constructor
    · intro first here second there same
      obtain here | here := List.mem_append.mp here
      · obtain there | there := List.mem_append.mp there
        · exact coherent.unique first here second there same
        · rw [List.mem_singleton.mp there] at same
          exact absurd same (fresh first here)
      · obtain there | there := List.mem_append.mp there
        · rw [List.mem_singleton.mp here] at same
          exact absurd same.symm (fresh second there)
        · rw [List.mem_singleton.mp here, List.mem_singleton.mp there]
    · intro rows inside
      obtain inside | inside := List.mem_append.mp inside
      · exact coherent.disciplined rows inside
      · rw [List.mem_singleton.mp inside]
        exact Disciplined.proposed proposal
    · exact fun job inside => grown (coherent.queued job inside)
    · exact fun running inside => grown (coherent.running running inside)
    · exact fun request inside => grown (coherent.recent request inside)

/-- A delivery takes an owned job. -/
theorem Coherent.taken (coherent : fleet.Coherent) (index : Nat) : (fleet.taken index).Coherent :=
  coherent.same rfl (fun job inside => coherent.queued job (List.mem_of_mem_eraseIdx inside))
    coherent.running rfl

/-- An acquisition keeps the fleet coherent. -/
theorem Coherent.acquire (coherent : fleet.Coherent) (index : Nat) :
    (fleet.acquire index).Coherent := by
  unfold Fleet.acquire
  split
  · exact coherent
  · rename_i job found
    simp only
    split
    · exact coherent.taken index
    · refine coherent.same rfl ?_ ?_ rfl
      · exact fun job inside => coherent.queued job (List.mem_of_mem_eraseIdx inside)
      · intro running inside
        obtain earlier | new := List.mem_append.mp inside
        · exact coherent.running running earlier
        · rw [List.mem_singleton.mp new]
          exact coherent.queued job (List.mem_of_getElem? found)

/-- The jobs of a list of running jobs with one phase changed. -/
theorem Coherent.running_set (coherent : fleet.Coherent) {index : Nat} {job : Job}
    {phase next : JobPhase} (found : fleet.running[index]? = some { job, phase }) :
    ∀ running ∈ fleet.running.set index { job, phase := next },
      ∃ rows ∈ fleet.table, running.job.Belongs rows := by
  intro running inside
  obtain within | rfl := List.mem_or_eq_of_mem_set inside
  · exact coherent.running running within
  · exact coherent.running { job, phase } (List.mem_of_getElem? found)

/-- A release keeps the fleet coherent. -/
theorem Coherent.release (coherent : fleet.Coherent) (index : Nat) :
    (fleet.release index).Coherent := by
  unfold Fleet.release
  split
  · rename_i job shouldContinue found
    exact coherent.same rfl coherent.queued (coherent.running_set found) rfl
  · exact coherent

/-- The end of a job keeps the fleet coherent. -/
theorem Coherent.finish (coherent : fleet.Coherent) (index : Nat) :
    (fleet.finish index).Coherent := by
  unfold Fleet.finish
  split
  · rename_i job shouldContinue found
    refine coherent.same rfl ?_ ?_ rfl
    · intro other inside
      obtain earlier | new := List.mem_append.mp inside
      · exact coherent.queued other earlier
      · cases shouldContinue with
        | false => exact absurd new List.not_mem_nil
        | true =>
            rw [List.mem_singleton.mp new]
            exact coherent.running _ (List.mem_of_getElem? found)
    · exact fun running inside => coherent.running running (List.mem_of_mem_eraseIdx inside)
  · exact coherent

/-- The end of the engine call of a job. It halts the rotation or runs one of its steps. -/
structure EngineCalled (fleet : Fleet κ) (job : Job) (invocation : Invocation κ) (rows : Rows)
    (final : Session Rows κ) : Prop where
  inside : rows ∈ fleet.table
  belongs : job.Belongs rows
  ends : EngineEnd invocation.connectors job.actor
    ((fleet.world rows).session.opened invocation.clock) final
  halts : fleet.engineContinues job invocation = false → Halts rows final.db invocation.clock
  continues : fleet.engineContinues job invocation = true →
    ∃ step, Executes rows invocation.clock step

theorem EngineCalled.identity {fleet : Fleet κ} {job : Job} {invocation : Invocation κ} {rows : Rows}
    {final : Session Rows κ} (called : fleet.EngineCalled job invocation rows final) :
    final.db.rotation.id = job.rotationId :=
  (called.ends.keeps identity_engineless).id.trans called.belongs.rotationId.symm

/-- An owned job makes its engine call. -/
theorem engine_end (coherent : fleet.Coherent) {job : Job}
    (owned : ∃ rows ∈ fleet.table, job.Belongs rows) (invocation : Invocation κ) :
    ∃ rows final, fleet.EngineCalled job invocation rows final ∧
      fleet.engineRun job invocation =
        fleet.absorb { session := final.closed, accepted := fleet.recent } := by
  obtain ⟨rows, found, inside, belongs⟩ := coherent.found owned
  have empty := Session.opened_pending invocation.clock (fleet.world rows).session
  have ends := (advanceRotation_ensures invocation.connectors job.actor empty).final
  have halts := advanceRotation_halts invocation.connectors job.actor empty
    (coherent.disciplined rows inside).inOrder
  have continues := advanceRotation_continues invocation.connectors job.actor empty
  rw [show ((fleet.world rows).session.opened invocation.clock).db = rows from rfl,
    ← belongs.rotationId, ← belongs.workspaceId] at ends halts continues
  refine ⟨rows, _, ⟨inside, belongs, ends, ?_, ?_⟩, ?_⟩
  · intro stops
    simp only [engineContinues, found] at stops
    exact halts stops
  · intro again
    simp only [engineContinues, found] at again
    exact continues again
  · simp only [engineRun, found]
    rfl

/-- A job that holds the lock makes its engine call. -/
theorem advance_locked {index : Nat} {job : Job}
    (found : fleet.running[index]? = some { job, phase := .locked }) (invocation : Invocation κ) :
    fleet.advance index invocation =
      { (fleet.engineRun job invocation).served job.rotationId with
        running := fleet.running.set index
          { job, phase := .advanced (fleet.engineContinues job invocation) } } := by
  simp only [advance, found]

/-- The fleet after the engine call of a running job. -/
theorem advance_end (coherent : fleet.Coherent) {index : Nat} {job : Job}
    (found : fleet.running[index]? = some { job, phase := .locked }) (invocation : Invocation κ) :
    ∃ rows final, fleet.EngineCalled job invocation rows final ∧
      fleet.advance index invocation =
        { (fleet.absorb { session := final.closed, accepted := fleet.recent }).served
            job.rotationId with
          running := fleet.running.set index
            { job, phase := .advanced (fleet.engineContinues job invocation) } } := by
  obtain ⟨rows, final, called, ran⟩ := engine_end coherent
    (coherent.running _ (List.mem_of_getElem? found)) invocation
  refine ⟨rows, final, called, ?_⟩
  rw [advance_locked found, ran]

/-- An engine call keeps the fleet coherent. -/
theorem Coherent.advance (coherent : fleet.Coherent) (index : Nat) (invocation : Invocation κ) :
    (fleet.advance index invocation).Coherent := by
  by_cases locked : ∃ job, fleet.running[index]? = some { job, phase := .locked }
  · obtain ⟨job, found⟩ := locked
    obtain ⟨rows, final, called, same⟩ := advance_end coherent found invocation
    rw [same]
    obtain ⟨_, _, reaches⟩ := called.ends.reaches
    have queue : final.queue = fleet.queue := reaches.queue
    have opened : Disciplined ((fleet.world rows).session.opened invocation.clock).db :=
      coherent.disciplined rows called.inside
    refine coherent.update called.inside (called.ends.keeps identity_engineless)
      (opened.engineEnd called.ends) rfl ?_ (coherent.running_set found) ?_
    · intro other within
      exact coherent.queued other (queue ▸ within)
    · intro request within
      exact coherent.recent request (List.mem_of_mem_filter within)
  · unfold Fleet.advance
    split
    · rename_i job found
      exact absurd ⟨job, found⟩ locked
    · exact coherent

/-- Every phase keeps the fleet coherent. -/
theorem Coherent.phase (coherent : fleet.Coherent) (action : PhaseAction κ) :
    (action.step fleet).Coherent := by
  cases action with
  | request request clock => exact coherent.handle request clock
  | propose proposal => exact coherent.propose proposal
  | acquire index => exact coherent.acquire index
  | advance index invocation => exact coherent.advance index invocation
  | release index => exact coherent.release index
  | finish index => exact coherent.finish index

/-- A job that finds the lock free takes it. -/
theorem acquire_free (free : fleet.session.locks = []) (idle : fleet.running = []) {index : Nat}
    {job : Job} (found : fleet.queue[index]? = some job) :
    fleet.acquire index =
      { fleet.taken index with
        session := { (fleet.taken index).session with locks := [(job.secretId, job.rotationId)] }
        running := [{ job, phase := .locked }] } := by
  have unlocked : (fleet.taken index).session.locks = [] := free
  have none : (fleet.taken index).running = [] := idle
  simp only [acquire, found, holdsLock, unlocked, none]
  rfl

/-- An atomic job is its four phases in a row. -/
theorem deliver_phases (coherent : fleet.Coherent) (free : fleet.session.locks = [])
    (idle : fleet.running = []) {index : Nat} {job : Job} (found : fleet.queue[index]? = some job)
    (invocation : Invocation κ) :
    fleet.deliver index invocation =
      (((fleet.acquire index).advance 0 invocation).release 0).finish 0 := by
  have acquired := acquire_free free idle found
  obtain ⟨rows, known, inside, belongs⟩ := coherent.found
    (coherent.queued job (List.mem_of_getElem? found))
  have table : findRows job.rotationId (fleet.acquire index).table = some rows := by
    rw [acquired]
    exact known
  have empty := Session.opened_pending invocation.clock ((fleet.acquire index).world rows).session
  have ends := (advanceRotation_ensures invocation.connectors job.actor empty).final
  rw [show (((fleet.acquire index).world rows).session.opened invocation.clock).db = rows from rfl,
    ← belongs.rotationId, ← belongs.workspaceId] at ends
  obtain ⟨_, _, reaches⟩ := ends.reaches
  obtain ⟨engine, call⟩ : ∃ engine, (engineCall job).run (Session.answer invocation.connectors)
      (((fleet.acquire index).world rows).session.opened invocation.clock) = engine := ⟨_, rfl⟩
  have locks : engine.2.locks = [(job.secretId, job.rotationId)] := by
    rw [← call]
    refine reaches.locks.trans ?_
    rw [acquired]
    rfl
  have started : (fleet.acquire index).running = [{ job, phase := .locked }] := by rw [acquired]
  have recent : (fleet.acquire index).recent = fleet.recent := by rw [acquired]; rfl
  have whole : (fleet.acquire index).table = fleet.table := by rw [acquired]; rfl
  have ran := @runRotationStep_run _ invocation.connectors
    (((fleet.taken index).world rows).session.opened invocation.clock) free job engine
    (by rw [← call, acquired]; rfl) locks
  have first : (fleet.acquire index).running[0]? = some { job, phase := .locked } := by
    rw [started]
    rfl
  have moved : (fleet.acquire index).engineRun job invocation =
      (fleet.acquire index).absorb { session := engine.2.closed, accepted := fleet.recent } := by
    simp only [engineRun, table, World.work, call]
    rw [← recent]
    rfl
  have again : (fleet.acquire index).engineContinues job invocation =
      engine.1.shouldContinue := by
    simp only [engineContinues, table, call]
  rw [advance_locked first, moved, again, started]
  simp only [deliver, found, known, World.runJob, World.work, ran]
  simp [release, finish, absorb, served, locks, Session.closed, whole]
  exact ⟨rfl, idle, rfl⟩

end Operations

end Fleet

end Sprawl
