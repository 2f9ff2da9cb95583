/-
This file proves when a dropped job loses no wake-up.
-/

import Sprawl.Proof.Fleet
import Sprawl.Rotation.Sandbox

namespace Sprawl

open Effect

variable {κ : Type}

namespace Fleet

/-- The rotation needs no job: it has ended, it needs a new plan, or it waits for an approval or a
confirmation that has not come. -/
def Rests (fleet : Fleet κ) (rows : Rows) : Prop :=
  rows.rotation.status.isTerminal = true ∨ rows.rotation.status = .needsReplan ∨
    (rows.rotation.status = .pendingApproval ∧
      ∀ request ∈ fleet.recent, request.rotationId = rows.rotation.id →
        request.isApproval = false) ∨
    rows.Paused

instance (fleet : Fleet κ) (rows : Rows) : Decidable (fleet.Rests rows) :=
  inferInstanceAs (Decidable (_ ∨ _ ∨ (_ ∧ ∀ request ∈ fleet.recent, _) ∨ _))

/-- No rotation waits for a job that will not come. -/
def Attended (fleet : Fleet κ) : Prop :=
  ∀ rows ∈ fleet.table, fleet.Rests rows ∨ fleet.Pursues rows.rotation.id

end Fleet

/-- An action strands a rotation that needs a job when it drops its last job at a held lock, or
when the engine call of its last job ends at a revoke gate. -/
def PhaseAction.Strands (fleet : Fleet κ) : PhaseAction κ → Prop
  | .acquire index => ∃ job ∈ fleet.queue[index]?, fleet.holdsLock job.secretId = true ∧
      ∃ rows ∈ fleet.table, rows.rotation.id = job.rotationId ∧ ¬ fleet.Rests rows ∧
        ¬ (fleet.taken index).Pursues rows.rotation.id
  | .advance index invocation => ∃ running ∈ fleet.running[index]?, running.phase = .locked ∧
      ∃ rows ∈ fleet.table, rows.rotation.id = running.job.rotationId ∧
        rows.Gated invocation.clock ∧
        ¬ { fleet with running := fleet.running.eraseIdx index }.Pursues rows.rotation.id
  | _ => False

instance (fleet : Fleet κ) (action : PhaseAction κ) : Decidable (action.Strands fleet) :=
  match action with
  | .acquire _ => inferInstanceAs (Decidable (∃ job ∈ _, _ ∧ ∃ rows ∈ fleet.table, _))
  | .advance _ _ => inferInstanceAs (Decidable (∃ running ∈ _, _ ∧ ∃ rows ∈ fleet.table, _))
  | .request _ _ => inferInstanceAs (Decidable False)
  | .propose _ => inferInstanceAs (Decidable False)
  | .release _ => inferInstanceAs (Decidable False)
  | .finish _ => inferInstanceAs (Decidable False)

namespace Fleet

section Change

variable {fleet next : Fleet κ} {rows : Rows}

/-- A rotation rests as long as no request for it arrives. -/
theorem Rests.of_recent (rests : fleet.Rests rows)
    (recent : ∀ request ∈ next.recent, request.rotationId = rows.rotation.id →
      request ∈ fleet.recent) : next.Rests rows := by
  rcases rests with ended | replan | ⟨pending, unapproved⟩ | paused
  · exact Or.inl ended
  · exact Or.inr (Or.inl replan)
  · exact Or.inr (Or.inr (Or.inl ⟨pending, fun request inside same =>
      unapproved request (recent request inside same) same⟩))
  · exact Or.inr (Or.inr (Or.inr paused))

/-- A rotation is pursued as long as its jobs go on. -/
theorem Pursues.of_jobs {rotationId : Uuid} (pursues : fleet.Pursues rotationId)
    (queue : ∀ job ∈ fleet.queue, job.rotationId = rotationId → next.Pursues rotationId)
    (running : ∀ running ∈ fleet.running, running.job.rotationId = rotationId →
      running.pursues = true → next.Pursues rotationId) : next.Pursues rotationId := by
  rcases pursues with ⟨job, inside, same⟩ | ⟨running', inside, same, still⟩
  · exact queue job inside same
  · exact running running' inside same still

end Change

namespace Attended

variable {fleet : Fleet κ}

/-- A request leaves every rotation attended. -/
theorem handle (attended : fleet.Attended) (request : Request) (clock : Time) :
    (fleet.handle request clock).Attended := by
  cases found : findRows request.rotationId fleet.table with
  | none =>
      simp only [Fleet.handle, found]
      exact attended
  | some rows =>
      obtain ⟨inside, addressed⟩ := findRows_eq_some found
      obtain ⟨reply, final, handled, same⟩ := handle_end found clock
      have identity : final.db.rotation.id = rows.rotation.id :=
        (handled.keeps identity_confirmless).id
      rw [same]
      have grows := handled_queue_grows handled
      intro other present
      obtain rfl | ⟨within, apart⟩ := mem_putRows present
      · cases handled with
        | refused error => exact attended rows inside
        | rejected claims role sent waiting body => exact Or.inl (Or.inl rfl)
        | approved claims role sent waiting body =>
            exact Or.inr (Or.inl ⟨_, List.mem_append_right _ (List.mem_singleton.mpr rfl), rfl⟩)
        | confirmed claims role step sent waiting among pending body =>
            exact Or.inr (Or.inl ⟨_, List.mem_append_right _ (List.mem_singleton.mpr rfl), rfl⟩)
      · obtain rests | pursues := attended other within
        · left
          apply rests.of_recent
          intro sent among own
          cases reply with
          | error error => exact among
          | ok body =>
              obtain earlier | new := List.mem_append.mp among
              · exact earlier
              · rw [List.mem_singleton.mp new, ← addressed, ← identity] at own
                exact absurd own.symm apart
        · right
          exact pursues.of_jobs
            (fun job among own => Or.inl ⟨job, grows job among, own⟩)
            (fun running among own still => Or.inr ⟨running, among, own, still⟩)

/-- A new rotation rests until its approval. -/
theorem propose (attended : fleet.Attended) (coherent : fleet.Coherent) (proposal : Proposal) :
    (fleet.propose proposal).Attended := by
  unfold Fleet.propose
  split
  · exact attended
  · rename_i absent
    intro rows inside
    obtain earlier | new := List.mem_append.mp inside
    · exact attended rows earlier
    · rw [List.mem_singleton.mp new]
      refine Or.inl (Or.inr (Or.inr (Or.inl ⟨rfl, ?_⟩)))
      intro request among own
      obtain ⟨old, present, same⟩ := coherent.recent request among
      exact absurd (List.any_eq_true.mpr ⟨old, present, by
        simp [same.trans own, Proposal.rows, Proposal.rotation]⟩) absent

/-- A job that takes the lock will serve its rotation. A dropped job must not be the last one. -/
theorem acquire (attended : fleet.Attended) (index : Nat)
    (kept : ¬ (PhaseAction.acquire index : PhaseAction κ).Strands fleet) :
    (fleet.acquire index).Attended := by
  unfold Fleet.acquire
  split
  · exact attended
  · rename_i job found
    simp only
    split
    · rename_i held
      intro rows inside
      obtain rests | pursues := attended rows inside
      · exact Or.inl rests
      · by_contra lost
        apply lost
        right
        by_cases own : rows.rotation.id = job.rotationId
        · by_contra last
          exact kept ⟨job, found, held, rows, inside, own, fun rests => lost (Or.inl rests), last⟩
        · apply pursues.of_jobs
          · intro other among same
            have different : other ≠ job := by
              rintro rfl
              exact own same.symm
            exact Or.inl ⟨other, mem_eraseIdx_of_ne among found different, same⟩
          · exact fun running among same still => Or.inr ⟨running, among, same, still⟩
    · intro rows inside
      obtain rests | pursues := attended rows inside
      · exact Or.inl rests
      · right
        apply pursues.of_jobs
        · intro other among own
          by_cases same : other = job
          · subst same
            exact Or.inr ⟨_, List.mem_append_right _ (List.mem_singleton.mpr rfl), own, rfl⟩
          · exact Or.inl ⟨other, mem_eraseIdx_of_ne among found same, own⟩
        · exact fun running among own still =>
            Or.inr ⟨running, List.mem_append_left _ among, own, still⟩

/-- An engine call without a next job leaves its rotation at rest unless a gate has blocked it. -/
theorem advance (attended : fleet.Attended) (coherent : fleet.Coherent) (index : Nat)
    (invocation : Invocation κ)
    (kept : ¬ (PhaseAction.advance index invocation).Strands fleet) :
    (fleet.advance index invocation).Attended := by
  by_cases locked : ∃ job, fleet.running[index]? = some { job, phase := .locked }
  · obtain ⟨job, found⟩ := locked
    obtain ⟨rows, final, called, same⟩ := advance_end coherent found invocation
    have identity := called.identity
    obtain ⟨inside, belongs, ends, halts, _⟩ := called
    obtain ⟨_, _, reaches⟩ := ends.reaches
    have queue : ∀ job ∈ fleet.queue, job ∈ final.queue := by
      rw [show final.queue = fleet.queue from reaches.queue]
      exact fun _ among => among
    rw [same]
    intro other present
    obtain rfl | ⟨within, apart⟩ := mem_putRows present
    · cases again : fleet.engineContinues job invocation with
      | true => exact Or.inr (Or.inr ⟨_, mem_set_self found _, identity.symm, rfl⟩)
      | false =>
          cases halts again with
          | ended terminal => exact Or.inl (Or.inl terminal)
          | expired late status => exact Or.inl (Or.inr (Or.inl status))
          | paused paused => exact Or.inl (Or.inr (Or.inr (Or.inr paused)))
          | bare live none unchanged =>
              change Fleet.Rests _ final.db ∨ Fleet.Pursues _ final.db.rotation.id
              rw [unchanged] at identity ⊢
              rcases (coherent.disciplined rows inside).bare none with ended | pending | replan
              · exact absurd (live.active.symm.trans ended) (by simp)
              · refine Or.inl (Or.inr (Or.inr (Or.inl ⟨pending, ?_⟩)))
                intro request among own
                have elsewhere := List.of_mem_filter among
                rw [own, identity] at elsewhere
                exact absurd elsewhere (by simp)
              · exact Or.inl (Or.inr (Or.inl replan))
          | blocked gated status =>
              right
              by_contra last
              apply kept
              refine ⟨_, found, rfl, rows, inside, belongs.rotationId.symm, gated, ?_⟩
              intro pursues
              rw [← belongs.rotationId, ← identity] at pursues
              apply last
              apply pursues.of_jobs
              · exact fun other among own => Or.inl ⟨other, queue other among, own⟩
              · exact fun running among own still =>
                  Or.inr ⟨running, mem_set_of_mem_eraseIdx among _, own, still⟩
    · obtain rests | pursues := attended other within
      · left
        apply rests.of_recent
        exact fun request among _ => List.mem_of_mem_filter among
      · right
        apply pursues.of_jobs
        · exact fun job among own => Or.inl ⟨job, queue job among, own⟩
        · intro running among own still
          have different : running ≠ { job, phase := .locked } := by
            rintro rfl
            exact apart (own.symm.trans identity.symm)
          exact Or.inr ⟨running, mem_set_of_ne among found different _, own, still⟩
  · unfold Fleet.advance
    split
    · rename_i job found
      exact absurd ⟨job, found⟩ locked
    · exact attended

/-- A released job still enqueues its next job. -/
theorem release (attended : fleet.Attended) (index : Nat) : (fleet.release index).Attended := by
  unfold Fleet.release
  split
  · rename_i job shouldContinue found
    intro rows inside
    obtain rests | pursues := attended rows inside
    · exact Or.inl rests
    · right
      apply pursues.of_jobs
      · exact fun other among own => Or.inl ⟨other, among, own⟩
      · intro running among own still
        by_cases same : running = { job, phase := .advanced shouldContinue }
        · subst same
          exact Or.inr ⟨_, mem_set_self found _, own, still⟩
        · exact Or.inr ⟨running, mem_set_of_ne among found same _, own, still⟩
  · exact attended

/-- A job that ends leaves its next job in the queue. -/
theorem finish (attended : fleet.Attended) (index : Nat) : (fleet.finish index).Attended := by
  unfold Fleet.finish
  split
  · rename_i job shouldContinue found
    intro rows inside
    obtain rests | pursues := attended rows inside
    · exact Or.inl rests
    · right
      apply pursues.of_jobs
      · exact fun other among own => Or.inl ⟨other, List.mem_append_left _ among, own⟩
      · intro running among own still
        by_cases same : running = { job, phase := .released shouldContinue }
        · subst same
          obtain rfl : shouldContinue = true := still
          exact Or.inl ⟨job, List.mem_append_right _ (List.mem_singleton.mpr rfl), own⟩
        · exact Or.inr ⟨running, mem_eraseIdx_of_ne among found same, own, still⟩
  · exact attended

/-- Every phase that strands no rotation leaves every rotation attended. -/
theorem phase (attended : fleet.Attended) (coherent : fleet.Coherent) {action : PhaseAction κ}
    (kept : ¬ action.Strands fleet) : (action.step fleet).Attended := by
  cases action with
  | request request clock => exact attended.handle request clock
  | propose proposal => exact attended.propose coherent proposal
  | acquire index => exact attended.acquire index kept
  | advance index invocation => exact attended.advance coherent index invocation kept
  | release index => exact attended.release index
  | finish index => exact attended.finish index

end Attended

end Fleet

/-- Where no action strands a rotation, every rotation without a job rests, in every state of every
interleaving of the phases with the requests. -/
theorem wakeup_kept (external : κ) (actions : List (PhaseAction κ))
    (kept : ∀ visit ∈ visits PhaseAction.step actions (Fleet.empty external),
      ¬ visit.2.Strands visit.1) :
    let fleet := runActions PhaseAction.step actions (Fleet.empty external)
    ∀ rows ∈ fleet.table, ¬ fleet.Queues rows.rotation.id → ¬ fleet.Runs rows.rotation.id →
      fleet.Rests rows := by
  intro fleet rows inside unqueued stopped
  have invariant : fleet.Coherent ∧ fleet.Attended := by
    refine @invariant_runActions _ _ PhaseAction.step
      (fun fleet action => ¬ action.Strands fleet)
      (fun fleet => fleet.Coherent ∧ fleet.Attended) ?_ _ _ ?_ kept
    · intro fleet action holds follows
      obtain ⟨coherent, attended⟩ := holds
      exact ⟨coherent.phase action, attended.phase coherent follows⟩
    · exact ⟨Fleet.coherent_empty external, fun _ inside => absurd inside List.not_mem_nil⟩
  rcases invariant.2 rows inside with rests | queued | ⟨running, among, own, _⟩
  · exact rests
  · exact absurd queued unqueued
  · exact absurd ⟨running, among, own⟩ stopped

/-- The demo rotation up to its first pause, phase by phase. -/
def sandboxPhases : List (PhaseAction SandboxStore) :=
  [.propose triggeredPlan, .request sandboxApproval 1, .acquire 0, .advance 0 (sandboxCall none),
    .release 0, .finish 0, .acquire 0, .advance 0 (sandboxCall none)]

/-- The demo rotation pauses and rests. -/
theorem sandboxPhases_rest :
    let fleet := runActions PhaseAction.step (sandboxPhases ++ [.release 0, .finish 0])
      (Fleet.empty ([] : SandboxStore))
    ∀ rows ∈ fleet.table, ¬ fleet.Queues rows.rotation.id → ¬ fleet.Runs rows.rotation.id →
      fleet.Rests rows :=
  wakeup_kept ([] : SandboxStore) (sandboxPhases ++ [PhaseAction.release 0, .finish 0]) (by decide)

/-- The pause is confirmed before the job that made it has released the lock. -/
def earlyConfirmation : List (PhaseAction SandboxStore) :=
  sandboxPhases ++ [.request (.confirm 7 5 2 sandboxOwner) 2, .acquire 0, .release 0, .finish 0]

/-- The fleet after an early confirmation. -/
def confirmedEarly : Fleet SandboxStore :=
  runActions PhaseAction.step earlyConfirmation (Fleet.empty [])

/-- The job of an early confirmation is dropped, and no other job picks its work up. -/
theorem early_confirmation_lost :
    ¬ ∀ (external : SandboxStore) (actions : List (PhaseAction SandboxStore)),
      let fleet := runActions PhaseAction.step actions (Fleet.empty external)
      ∀ rows ∈ fleet.table, ¬ fleet.Queues rows.rotation.id → ¬ fleet.Runs rows.rotation.id →
        fleet.Rests rows := by
  intro always
  have lost : ∃ rows ∈ confirmedEarly.table, ¬ confirmedEarly.Queues rows.rotation.id ∧
      ¬ confirmedEarly.Runs rows.rotation.id ∧ ¬ confirmedEarly.Rests rows := by
    decide
  obtain ⟨rows, inside, unqueued, stopped, restless⟩ := lost
  exact restless (always [] earlyConfirmation rows inside unqueued stopped)

end Sprawl
