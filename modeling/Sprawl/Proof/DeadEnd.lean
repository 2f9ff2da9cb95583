/-
This file proves when a live rotation has neither a job nor a request that would be accepted.
-/

import Sprawl.Proof.Fleet
import Sprawl.Rotation.Sandbox

namespace Sprawl

open Effect

variable {κ : Type}

namespace Fleet

/-- The handler of the request would answer without an error. -/
def Accepts (fleet : Fleet κ) (request : Request) (clock : Time) : Prop :=
  ∃ rows, findRows request.rotationId fleet.table = some rows ∧
    ∃ body, ((request.program.run).run (Session.answer Connectors.none)
      ((fleet.world rows).session.opened clock)).1 = .ok body

/-- Every live rotation has a job or a request that would be accepted. -/
def Open (fleet : Fleet κ) : Prop :=
  ∀ rows ∈ fleet.table, rows.rotation.status.isTerminal = false →
    fleet.Queues rows.rotation.id ∨ fleet.Runs rows.rotation.id ∨
      ∃ request clock, request.rotationId = rows.rotation.id ∧ fleet.Accepts request clock

/-- Between two atomic jobs nothing runs and no lock is held. -/
structure Quiet (fleet : Fleet κ) : Prop where
  coherent : fleet.Coherent
  free : fleet.session.locks = []
  idle : fleet.running = []

end Fleet

/-- The engine gives the rotation up: its plan expires now, or it has expired and has no steps. -/
def Rows.Expires (rows : Rows) (time : Time) : Prop :=
  rows.rotation.expired time = true ∨ (rows.rotation.status = .needsReplan ∧ rows.steps = [])

instance (rows : Rows) (time : Time) : Decidable (rows.Expires time) :=
  inferInstanceAs (Decidable (_ ∨ _ ∧ _))

/-- A delivery strands a rotation whose plan has expired when it is its last job. -/
def FleetAction.Strands (fleet : Fleet κ) : FleetAction κ → Prop
  | .deliver index invocation => ∃ job ∈ fleet.queue[index]?,
      ¬ (fleet.taken index).Queues job.rotationId ∧
      ∃ rows ∈ fleet.table, rows.rotation.id = job.rotationId ∧ rows.Expires invocation.clock
  | _ => False

section Expires

variable {rows : Rows} {time : Time}

theorem Rotation.expired_pending {rotation : Rotation} (late : rotation.expired time = true) :
    rotation.status = .pendingApproval := by
  unfold Rotation.expired at late
  cases known : rotation.planExpiresAt with
  | none => simp [known] at late
  | some expires =>
      simp only [known, Bool.and_eq_true, decide_eq_true_eq] at late
      exact late.1

theorem Rows.Expires.not_executes (expires : rows.Expires time) {step : RotationStep} :
    ¬ Executes rows time step := by
  intro executes
  rcases expires with late | ⟨_, none⟩
  · exact absurd (executes.live.unexpired.symm.trans late) (by simp)
  · exact Rows.nextStep_of_nil none step executes.next

/-- An expired plan leaves the rotation in `needs_replan`. -/
theorem Rows.Expires.ends {connectors : Connectors κ} {actor : String}
    {session final : Session Rows κ} (expires : session.db.Expires session.clock)
    (ends : EngineEnd connectors actor session final) :
    final.db.rotation.status = .needsReplan := by
  cases ends with
  | ran step executes ends => exact absurd executes expires.not_executes
  | idle idles ends =>
      rw [ends.db]
      rcases expires with late | ⟨replan, _⟩
      · cases idles with
        | terminal ended =>
            rw [Rotation.expired_pending late] at ended
            exact absurd ended (by decide)
        | empty live none => exact absurd (live.unexpired.symm.trans late) (by simp)
        | stuck live none unfinished => exact absurd (live.unexpired.symm.trans late) (by simp)
      · exact replan
  | settled after settles ends =>
      rw [ends.db]
      have stopped (live : Live session.db session.clock) (some : session.db.steps ≠ []) : False := by
        rcases expires with late | ⟨_, none⟩
        · exact absurd (live.unexpired.symm.trans late) (by simp)
        · exact some none
      have stepped {step : RotationStep} (next : session.db.nextStep = some step) :
          session.db.steps ≠ [] := fun none => Rows.nextStep_of_nil none step next
      cases settles with
      | expired active late => rfl
      | completed live some finished => exact absurd some (stopped live)
      | paused live step next flagged unpaused => exact absurd (stepped next) (stopped live)
      | blocked live step next passed revoke incomplete => exact absurd (stepped next) (stopped live)

end Expires

namespace Fleet

variable {fleet : Fleet κ}

/-- A request for a rotation is accepted exactly when the rotation waits for one. -/
theorem accepts_iff (coherent : fleet.Coherent) {rows : Rows} (inside : rows ∈ fleet.table) :
    (∃ request clock, request.rotationId = rows.rotation.id ∧ fleet.Accepts request clock) ↔
      rows.rotation.status = .pendingApproval ∨ rows.rotation.status = .awaitingConfirmation := by
  constructor
  · intro given
    obtain ⟨request, clock, own, other, found, body, accepted⟩ := given
    obtain ⟨within, addressed⟩ := findRows_eq_some found
    obtain rfl := coherent.unique other within rows inside (addressed.trans own)
    have handled := request_handled Connectors.none
      (Session.opened_pending clock (fleet.world other).session) request
    simp only at handled
    generalize Program.run _ _ _ = ran at handled accepted
    obtain ⟨reply, final⟩ := ran
    subst accepted
    cases handled with
    | approved claims role sent waiting body => exact Or.inl waiting
    | rejected claims role sent waiting body => exact waiting
    | confirmed claims role step sent waiting present pending body => exact Or.inr waiting
  · intro waiting
    have found : findRows rows.rotation.id fleet.table = some rows := by
      cases found : findRows rows.rotation.id fleet.table with
      | none => exact absurd rfl (findRows_eq_none found rows inside)
      | some other =>
          obtain ⟨within, same⟩ := findRows_eq_some found
          rw [coherent.unique other within rows inside same]
    let claims : TokenClaims := { sub := "owner", workspaceId := 0, role := "owner" }
    obtain ⟨body, ran⟩ := @rejectRotation_accepts _ Connectors.none
      ((fleet.world rows).session.opened 0) claims rfl (Or.inl rfl) waiting
    exact ⟨.reject rows.rotation.workspaceId rows.rotation.id claims, 0, rfl, rows, found, body,
      congrArg Prod.fst ran⟩

/-- A delivery ends as the engine call of its job ends. -/
theorem deliver_end (quiet : fleet.Quiet) {index : Nat} {job : Job}
    (found : fleet.queue[index]? = some job) (invocation : Invocation κ) :
    ∃ rows final, (fleet.acquire index).EngineCalled job invocation rows final ∧
      rows ∈ fleet.table ∧
      (fleet.deliver index invocation).table = putRows final.db fleet.table ∧
      (fleet.deliver index invocation).queue = (fleet.taken index).queue ++
        (if (fleet.acquire index).engineContinues job invocation then [job] else []) ∧
      (fleet.deliver index invocation).Quiet := by
  have acquired := acquire_free quiet.free quiet.idle found
  have running : (fleet.acquire index).running = [{ job, phase := .locked }] := by rw [acquired]
  have started : (fleet.acquire index).running[0]? = some { job, phase := .locked } := by
    rw [running]
    rfl
  obtain ⟨rows, final, called, advanced⟩ := advance_end (quiet.coherent.acquire index) started
    invocation
  obtain ⟨_, _, reaches⟩ := called.ends.reaches
  have locks : final.locks = [(job.secretId, job.rotationId)] := by
    refine reaches.locks.trans ?_
    rw [acquired]
    rfl
  have unlocked : (if final.locks.lookup job.secretId = some job.rotationId then
      final.locks.filter fun held => held.1 ≠ job.secretId else final.locks) = [] := by
    rw [locks]
    simp
  have queue : final.queue = (fleet.taken index).queue := by
    refine reaches.queue.trans ?_
    rw [acquired]
    rfl
  have table : (fleet.acquire index).table = fleet.table := by
    rw [acquired]
    rfl
  have coherent := (((quiet.coherent.acquire index).advance 0 invocation).release 0).finish 0
  have inside := called.inside
  rw [table] at inside
  refine ⟨rows, final, called, inside, ?_⟩
  rw [deliver_phases quiet.coherent quiet.free quiet.idle found]
  rw [advanced, running] at coherent ⊢
  simp only [release, finish, served, absorb, List.set_cons_zero,
    List.getElem?_cons_zero] at coherent ⊢
  refine ⟨?_, ?_, coherent, ?_, rfl⟩
  · exact congrArg (putRows final.db) table
  · exact congrArg (· ++ _) queue
  · exact unlocked

/-- A request leaves the fleet quiet. -/
theorem Quiet.handle (quiet : fleet.Quiet) (request : Request) (clock : Time) :
    (fleet.handle request clock).Quiet := by
  have coherent := quiet.coherent.handle request clock
  cases found : findRows request.rotationId fleet.table with
  | none =>
      simp only [Fleet.handle, found]
      exact quiet
  | some rows =>
      obtain ⟨reply, final, handled, same⟩ := handle_end found clock
      rw [same] at coherent ⊢
      refine ⟨coherent, ?_, quiet.idle⟩
      change final.locks = []
      cases handled <;> exact quiet.free

/-- Every action leaves the fleet quiet. -/
theorem Quiet.action (quiet : fleet.Quiet) (action : FleetAction κ) : (action.step fleet).Quiet := by
  cases action with
  | request request clock => exact quiet.handle request clock
  | propose proposal =>
      have coherent := quiet.coherent.propose proposal
      rw [FleetAction.step]
      refine ⟨coherent, ?_, ?_⟩
      · unfold Fleet.propose
        split <;> exact quiet.free
      · unfold Fleet.propose
        split <;> exact quiet.idle
  | deliver index invocation =>
      cases found : fleet.queue[index]? with
      | none =>
          simp only [FleetAction.step, Fleet.deliver, found]
          exact quiet
      | some job =>
          obtain ⟨rows, final, _, _, _, _, quiet⟩ := deliver_end quiet found invocation
          exact quiet

/-- Every live rotation waits for a request or has a job. -/
def Moving (fleet : Fleet κ) : Prop :=
  ∀ rows ∈ fleet.table, rows.rotation.status.isTerminal = true ∨
    rows.rotation.status = .pendingApproval ∨ rows.rotation.status = .awaitingConfirmation ∨
    fleet.Queues rows.rotation.id

instance (fleet : Fleet κ) : Decidable fleet.Moving :=
  inferInstanceAs (Decidable (∀ rows ∈ fleet.table, _))

/-- A quiet fleet is open exactly when every live rotation moves. -/
theorem Quiet.open_iff (quiet : fleet.Quiet) : fleet.Open ↔ fleet.Moving := by
  have stopped (rotationId : Uuid) : ¬ fleet.Runs rotationId := by
    intro runs
    obtain ⟨running, inside, _⟩ := runs
    rw [quiet.idle] at inside
    exact List.not_mem_nil inside
  constructor
  · intro whole rows inside
    cases ended : rows.rotation.status.isTerminal with
    | true => exact Or.inl rfl
    | false =>
        rcases whole rows inside ended with queued | runs | accepted
        · exact Or.inr (Or.inr (Or.inr queued))
        · exact absurd runs (stopped rows.rotation.id)
        · rcases (accepts_iff quiet.coherent inside).mp accepted with pending | paused
          · exact Or.inr (Or.inl pending)
          · exact Or.inr (Or.inr (Or.inl paused))
  · intro moving rows inside active
    rcases moving rows inside with ended | pending | paused | queued
    · exact absurd (active.symm.trans ended) (by simp)
    · exact Or.inr (Or.inr ((accepts_iff quiet.coherent inside).mpr (Or.inl pending)))
    · exact Or.inr (Or.inr ((accepts_iff quiet.coherent inside).mpr (Or.inr paused)))
    · exact Or.inl queued

namespace Moving

/-- A request leaves every rotation moving. -/
theorem handle (moving : fleet.Moving) (request : Request) (clock : Time) :
    (fleet.handle request clock).Moving := by
  cases found : findRows request.rotationId fleet.table with
  | none =>
      simp only [Fleet.handle, found]
      exact moving
  | some rows =>
      obtain ⟨inside, _⟩ := findRows_eq_some found
      obtain ⟨reply, final, handled, same⟩ := handle_end found clock
      rw [same]
      have grows := handled_queue_grows handled
      intro other present
      obtain rfl | ⟨within, _⟩ := mem_putRows present
      · cases handled with
        | refused error => exact moving rows inside
        | rejected claims role sent waiting body => exact Or.inl rfl
        | approved claims role sent waiting body => exact Or.inr (Or.inl waiting)
        | confirmed claims role step sent waiting among pending body =>
            exact Or.inr (Or.inr (Or.inl waiting))
      · rcases moving other within with ended | pending | paused | ⟨job, among, own⟩
        · exact Or.inl ended
        · exact Or.inr (Or.inl pending)
        · exact Or.inr (Or.inr (Or.inl paused))
        · exact Or.inr (Or.inr (Or.inr ⟨job, grows job among, own⟩))

theorem propose (moving : fleet.Moving) (proposal : Proposal) :
    (fleet.propose proposal).Moving := by
  unfold Fleet.propose
  split
  · exact moving
  · intro rows inside
    obtain earlier | new := List.mem_append.mp inside
    · exact moving rows earlier
    · rw [List.mem_singleton.mp new]
      exact Or.inr (Or.inl rfl)

/-- A rotation that a delivery strands has no job and waits for no request. -/
theorem deliver_strands (quiet : fleet.Quiet) {index : Nat} {invocation : Invocation κ}
    (strands : (FleetAction.deliver index invocation).Strands fleet) :
    ¬ (fleet.deliver index invocation).Moving := by
  intro still
  obtain ⟨job, found, last, old, within, own, reason⟩ := strands
  obtain ⟨rows, final, called, inside, table, queue, _⟩ := deliver_end quiet found invocation
  have identity := called.identity
  obtain rfl := quiet.coherent.unique old within rows inside (own.trans called.belongs.rotationId)
  have stops : (fleet.acquire index).engineContinues job invocation = false := by
    by_contra again
    obtain ⟨step, executes⟩ := called.continues (by simpa using again)
    exact reason.not_executes executes
  have replan : final.db.rotation.status = .needsReplan := reason.ends called.ends
  have present : final.db ∈ (fleet.deliver index invocation).table := by
    rw [table]
    exact mem_putRows_self inside (called.belongs.rotationId.symm.trans identity.symm)
  rcases still final.db present with ended | pending | paused | ⟨other, among, mine⟩
  · rw [replan] at ended
    exact absurd ended (by decide)
  · exact absurd (replan.symm.trans pending) (by simp)
  · exact absurd (replan.symm.trans paused) (by simp)
  · rw [queue, stops] at among
    exact last ⟨other, by simpa using among, mine.trans identity⟩

/-- An engine call without a next job ends its rotation, makes it wait or finds it expired. -/
theorem halted_moves {rows after : Rows} {time : Time} (disciplined : Disciplined rows)
    (halts : Halts rows after time) :
    after.rotation.status.isTerminal = true ∨ after.rotation.status = .pendingApproval ∨
      after.rotation.status = .awaitingConfirmation ∨ rows.Expires time := by
  cases halts with
  | ended terminal => exact Or.inl terminal
  | expired late status => exact Or.inr (Or.inr (Or.inr (Or.inl late)))
  | paused paused => exact Or.inr (Or.inr (Or.inl paused.1))
  | blocked gated status => exact Or.inr (Or.inr (Or.inl status))
  | bare live none unchanged =>
      rcases disciplined.bare none with ended | pending | replan
      · exact absurd (live.active.symm.trans ended) (by simp)
      · rw [unchanged]
        exact Or.inr (Or.inl pending)
      · exact Or.inr (Or.inr (Or.inr (Or.inr ⟨replan, none⟩)))

/-- A delivery that strands no rotation leaves every rotation moving. -/
theorem deliver (moving : fleet.Moving) (quiet : fleet.Quiet) {index : Nat}
    {invocation : Invocation κ}
    (kept : ¬ (FleetAction.deliver index invocation).Strands fleet) :
    (fleet.deliver index invocation).Moving := by
  cases found : fleet.queue[index]? with
  | none =>
      simp only [Fleet.deliver, found]
      exact moving
  | some job =>
      obtain ⟨rows, final, called, inside, table, queue, _⟩ := deliver_end quiet found invocation
      have identity := called.identity
      intro other present
      rw [table] at present
      have queued (earlier : (fleet.taken index).Queues other.rotation.id) :
          (fleet.deliver index invocation).Queues other.rotation.id := by
        obtain ⟨job, among, own⟩ := earlier
        exact ⟨job, queue ▸ List.mem_append_left _ among, own⟩
      obtain rfl | ⟨within, apart⟩ := mem_putRows present
      · cases again : (fleet.acquire index).engineContinues job invocation with
        | true =>
            refine Or.inr (Or.inr (Or.inr ⟨job, ?_, identity.symm⟩))
            rw [queue, again]
            exact List.mem_append_right _ (List.mem_singleton.mpr rfl)
        | false =>
            rcases halted_moves (quiet.coherent.disciplined rows inside) (called.halts again) with
              ended | pending | paused | expires
            · exact Or.inl ended
            · exact Or.inr (Or.inl pending)
            · exact Or.inr (Or.inr (Or.inl paused))
            · refine Or.inr (Or.inr (Or.inr (queued ?_)))
              by_contra last
              rw [identity] at last
              exact kept ⟨job, found, last, rows, inside, called.belongs.rotationId.symm, expires⟩
      · rcases moving other within with ended | pending | paused | ⟨later, among, own⟩
        · exact Or.inl ended
        · exact Or.inr (Or.inl pending)
        · exact Or.inr (Or.inr (Or.inl paused))
        · have different : later ≠ job := by
            rintro rfl
            exact apart (own.symm.trans identity.symm)
          exact Or.inr (Or.inr (Or.inr
            (queued ⟨later, mem_eraseIdx_of_ne among found different, own⟩)))

/-- An action leaves every rotation moving exactly when it strands none. -/
theorem action_iff (moving : fleet.Moving) (quiet : fleet.Quiet) (action : FleetAction κ) :
    (action.step fleet).Moving ↔ ¬ action.Strands fleet := by
  cases action with
  | request request clock => exact iff_of_true (moving.handle request clock) id
  | propose proposal => exact iff_of_true (moving.propose proposal) id
  | deliver index invocation =>
      constructor
      · exact fun still strands => deliver_strands quiet strands still
      · exact fun kept => moving.deliver quiet kept

end Moving

end Fleet

/-- Every state of a run is open exactly when no delivery strands a rotation. -/
theorem FleetAction.open_iff {fleet : Fleet κ} (quiet : fleet.Quiet) (moving : fleet.Moving)
    (actions : List (FleetAction κ)) :
    (∀ before after, actions = before ++ after →
      (runActions FleetAction.step before fleet).Open) ↔
      ∀ visit ∈ visits FleetAction.step actions fleet, ¬ visit.2.Strands visit.1 := by
  induction actions generalizing fleet with
  | nil =>
      constructor
      · intro _ visit inside
        exact absurd inside List.not_mem_nil
      · intro _ before after split
        obtain ⟨rfl, _⟩ := List.append_eq_nil_iff.mp split.symm
        exact quiet.open_iff.mpr moving
  | cons action rest ih =>
      have next := quiet.action action
      rw [visits_cons, List.forall_mem_cons]
      constructor
      · intro every
        have first := next.open_iff.mp (every [action] rest rfl)
        refine ⟨(moving.action_iff quiet action).mp first, (ih next first).mp ?_⟩
        intro before after split
        exact every (action :: before) after (congrArg (action :: ·) split)
      · intro guarded before after split
        obtain ⟨follows, others⟩ := guarded
        have first := (moving.action_iff quiet action).mpr follows
        cases before with
        | nil => exact quiet.open_iff.mpr moving
        | cons head before =>
            obtain ⟨rfl, tail⟩ := List.cons.inj split
            exact (ih next first).mpr others before after tail

theorem Fleet.quiet_empty (external : κ) : (Fleet.empty external).Quiet :=
  ⟨Fleet.coherent_empty external, rfl, rfl⟩

theorem Fleet.moving_empty (external : κ) : (Fleet.empty external).Moving :=
  fun _ inside => absurd inside List.not_mem_nil

/-- In every state of a run each live rotation has a job or a request that would be accepted,
exactly when no delivery is the last job of a rotation whose plan has expired. -/
theorem live_rotation_open_iff (external : κ) (actions : List (FleetAction κ)) :
    (∀ before after, actions = before ++ after →
      (runActions FleetAction.step before (Fleet.empty external)).Open) ↔
      ∀ visit ∈ visits FleetAction.step actions (Fleet.empty external),
        ¬ visit.2.Strands visit.1 :=
  FleetAction.open_iff (Fleet.quiet_empty external) (Fleet.moving_empty external) actions

/-- The demo plan is approved in time, but its job runs late. -/
def lateDelivery : List (FleetAction SandboxStore) :=
  [.propose triggeredPlan, .request sandboxApproval 1,
    .deliver 0 { sandboxCall none with clock := 101 }]

/-- The late job leaves the demo rotation in `needs_replan` for good. -/
theorem late_delivery_strands :
    ¬ ∀ (external : SandboxStore) (actions : List (FleetAction SandboxStore)),
      (runActions FleetAction.step actions (Fleet.empty external)).Open := by
  intro always
  have quiet : (runActions FleetAction.step lateDelivery (Fleet.empty [])).Quiet :=
    invariant_always Fleet.Quiet (fun _ action quiet => quiet.action action) (Fleet.quiet_empty [])
  have moving := quiet.open_iff.mp (always [] lateDelivery)
  exact absurd moving (by decide)

end Sprawl
