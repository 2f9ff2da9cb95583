/-
This file proves that a step runs only after an accepted approval of its rotation.
-/

import Sprawl.Proof.Confined
import Sprawl.Proof.Fleet
import Sprawl.Proof.Isolation
import Sprawl.Proof.Rollback

namespace Sprawl

open Effect

variable {κ : Type}

namespace Database

/-- The rotation has a row that waits for a confirmation. -/
def Paused (db : Database) (rotationId : Uuid) : Prop :=
  ∃ row ∈ db.rotations, row.id = rotationId ∧ row.status = .awaitingConfirmation

variable {db written : Database} {rotationId : Uuid}

/-- A rotation is paused by an update that changes its row, or it was paused before. -/
theorem paused_of_update {selected : RotationRecord → Bool}
    {change : RotationRecord → RotationRecord} (identity : ∀ row, (change row).id = row.id)
    (paused : (db.updateRotations selected change).Paused rotationId) :
    db.Paused rotationId ∨ ∃ row ∈ db.rotations, selected row = true ∧ row.id = rotationId ∧
      (change row).status = .awaitingConfirmation := by
  obtain ⟨row, inside, same, waiting⟩ := paused
  obtain ⟨old, within, rfl⟩ := List.mem_map.mp inside
  cases hit : selected old with
  | true =>
      rw [hit, if_pos rfl] at same waiting
      exact Or.inr ⟨old, within, hit, (identity old).symm.trans same, waiting⟩
  | false =>
      rw [hit, if_neg Bool.false_ne_true] at same waiting
      exact Or.inl ⟨old, within, same, waiting⟩

variable [Sha256]

/-- A statement pauses the rotation that it names only. -/
theorem paused_of_apply {statement : Write} (paused : (db.apply statement).Paused rotationId) :
    db.Paused rotationId ∨ rotationId ∈ statement.pauses := by
  cases statement with
  | rotationStatus id workspaceId status time =>
      obtain before | ⟨row, inside, hit, same, waiting⟩ := paused_of_update (by simp) paused
      · exact Or.inl before
      · simp only [Bool.and_eq_true, decide_eq_true_eq] at hit waiting
        subst waiting
        exact Or.inr (congrArg some (hit.1.symm.trans same))
  | newSecretRef id ref time =>
      obtain before | ⟨row, inside, hit, same, waiting⟩ := paused_of_update (by simp) paused
      · exact Or.inl before
      · exact Or.inl ⟨row, inside, same, waiting⟩
  | step stepId patch => exact Or.inl paused
  | stepsAt id indexes patch => exact Or.inl paused
  | audit entry => exact Or.inl paused

/-- A transaction sees the committed pauses and its own. -/
theorem paused_of_view {session : Session Database κ} (paused : session.view.Paused rotationId) :
    session.db.Paused rotationId ∨ ∃ statement ∈ session.pending, rotationId ∈ statement.pauses := by
  unfold Session.view at paused
  generalize session.db = db at paused ⊢
  generalize session.pending = pending at paused ⊢
  induction pending generalizing db with
  | nil => exact Or.inl paused
  | cons statement rest ih =>
      rcases ih _ paused with before | ⟨later, inside, pauses⟩
      · rcases paused_of_apply before with earlier | pauses
        · exact Or.inl earlier
        · exact Or.inr ⟨statement, List.mem_cons_self, pauses⟩
      · exact Or.inr ⟨later, List.mem_cons_of_mem _ inside, pauses⟩

omit [Sha256] in
/-- A rotation that is read under its key is paused when its row is. -/
theorem answer_rotation_keyed {workspaceId : Uuid} {rotation : Rotation}
    (found : rotation ∈ db.answer (.rotation rotationId workspaceId)) :
    rotation.id = rotationId ∧
      (rotation.status = .awaitingConfirmation → db.Paused rotationId) := by
  obtain ⟨row, known, rfl⟩ := Option.map_eq_some_iff.mp found
  have named := List.find?_some known
  simp only [Bool.and_eq_true, decide_eq_true_eq] at named
  exact ⟨named.1, fun waiting => ⟨row, List.mem_of_find?_eq_some known, named.1, waiting⟩⟩

omit [Sha256] in
theorem answer_steps_keyed {step : RotationStep} (inside : step ∈ db.answer (.steps rotationId)) :
    step.rotationId = rotationId := by
  obtain ⟨row, within, rfl⟩ := List.mem_map.mp inside
  have filtered := List.of_mem_filter (List.mem_mergeSort.mp within)
  exact of_decide_eq_true filtered

variable [UuidCodec]

/-- An insert pauses nothing. -/
theorem paused_of_apiApply {statement : ApiWrite} (ran : db.apiApply statement = .ok written)
    (paused : written.Paused rotationId) : db.Paused rotationId := by
  cases statement with
  | investigation id workspaceId secretId =>
      simp only [apiApply, insertInvestigation] at ran
      split at ran
      · obtain rfl := Except.ok.inj ran
        exact paused
      · split at ran
        · obtain rfl := Except.ok.inj ran
          exact paused
        · exact absurd ran (by simp)
  | rotation new =>
      simp only [apiApply, insertRotation] at ran
      split at ran
      · exact absurd ran (by simp)
      · split at ran
        · obtain rfl := Except.ok.inj ran
          exact paused
        · split at ran
          · obtain rfl := Except.ok.inj ran
            obtain ⟨row, inside, same, waiting⟩ := paused
            obtain earlier | inserted := List.mem_append.mp inside
            · exact ⟨row, earlier, same, waiting⟩
            · rw [List.mem_singleton.mp inserted] at waiting
              exact absurd waiting (by simp)
          · exact absurd ran (by simp)
  | rotationStep new =>
      simp only [apiApply, insertStep] at ran
      split at ran
      · exact absurd ran (by simp)
      · obtain rfl := Except.ok.inj ran
        exact paused
  | audit entry =>
      simp only [apiApply, insertAudit] at ran
      split at ran
      · obtain rfl := Except.ok.inj ran
        exact paused
      · exact absurd ran (by simp)

/-- A trigger pauses nothing. -/
theorem paused_of_working {transaction : ApiTransaction}
    (paused : (transaction.working db).Paused rotationId) : db.Paused rotationId := by
  unfold ApiTransaction.working at paused
  generalize transaction.pending = pending at paused
  induction pending generalizing db with
  | nil => exact paused
  | cons statement rest ih =>
      have before := ih paused
      cases ran : db.apiApply statement with
      | error raised => simpa only [ran] using before
      | ok next =>
          simp only [ran] at before
          exact paused_of_apiApply ran before

end Database

namespace Undertaking

variable [Sha256] (own : Undertaking κ) (shared : Session Database κ) (issued : Command)
  {rotationId : Uuid}

/-- The pauses that a transaction sees: the committed ones and its own. -/
def SeesPaused (rotationId : Uuid) : Prop :=
  shared.db.Paused rotationId ∨
    ∃ statement ∈ own.transaction.pending, rotationId ∈ statement.pauses

/-- A command on a lock leaves the rows, the queue and the pending writes. -/
structure LeavesAll : Prop where
  db : (Undertaking.answer issued (own, shared)).2.2.db = shared.db
  queue : (Undertaking.answer issued (own, shared)).2.2.queue = shared.queue
  pending : (Undertaking.answer issued (own, shared)).2.1.transaction.pending =
    own.transaction.pending

theorem acquireLock_leavesAll (secretId id : Uuid) :
    LeavesAll own shared (.acquireLock secretId id) := by
  constructor <;>
    · simp only [answer, Session.answer]
      split <;> rfl

theorem releaseLock_leavesAll (secretId id : Uuid) :
    LeavesAll own shared (.releaseLock secretId id) := by
  constructor <;>
    · simp only [answer, Session.answer]
      split <;> rfl

/-- A commit publishes the pauses of its transaction. -/
theorem answer_paused (paused : (Undertaking.answer issued (own, shared)).2.2.db.Paused rotationId) :
    own.SeesPaused shared rotationId := by
  cases issued with
  | commit => exact Database.paused_of_view paused
  | acquireLock secretId id =>
      exact Or.inl ((acquireLock_leavesAll own shared secretId id).db ▸ paused)
  | releaseLock secretId id =>
      exact Or.inl ((releaseLock_leavesAll own shared secretId id).db ▸ paused)
  | _ => exact Or.inl paused

/-- Only an enqueue adds a job. -/
theorem answer_queue {job : Job}
    (inside : job ∈ (Undertaking.answer issued (own, shared)).2.2.queue) :
    job ∈ shared.queue ∨ issued = .enqueueJob job := by
  cases issued with
  | enqueueJob other =>
      obtain earlier | new := List.mem_append.mp inside
      · exact Or.inl earlier
      · rw [List.mem_singleton.mp new]
        exact Or.inr rfl
  | acquireLock secretId id =>
      exact Or.inl ((acquireLock_leavesAll own shared secretId id).queue ▸ inside)
  | releaseLock secretId id =>
      exact Or.inl ((releaseLock_leavesAll own shared secretId id).queue ▸ inside)
  | _ => exact Or.inl inside

/-- Only a write joins the open transaction. -/
theorem answer_pending {statement : Write}
    (inside : statement ∈ (Undertaking.answer issued (own, shared)).2.1.transaction.pending) :
    statement ∈ own.transaction.pending ∨ issued = .write statement := by
  cases issued with
  | write other =>
      obtain earlier | new := List.mem_append.mp inside
      · exact Or.inl earlier
      · rw [List.mem_singleton.mp new]
        exact Or.inr rfl
  | commit => exact absurd inside List.not_mem_nil
  | acquireLock secretId id =>
      exact Or.inl ((acquireLock_leavesAll own shared secretId id).pending ▸ inside)
  | releaseLock secretId id =>
      exact Or.inl ((releaseLock_leavesAll own shared secretId id).pending ▸ inside)
  | _ => exact Or.inl inside

/-- The database answers a query with the rows that it names. -/
theorem answer_keyed : Keyed issued (Undertaking.answer issued (own, shared)).1 := by
  cases issued with
  | select query =>
      cases query with
      | rotation id workspaceId =>
          exact fun rotation found => (Database.answer_rotation_keyed found).1
      | steps id => exact fun step inside => Database.answer_steps_keyed inside
      | _ => trivial
  | _ => trivial

/-- A reply shows a paused rotation only where the transaction sees it paused. -/
theorem answer_unpaused (confined : issued.Confined rotationId)
    (unseen : ¬ own.SeesPaused shared rotationId) :
    Unpaused issued (Undertaking.answer issued (own, shared)).1 := by
  cases issued with
  | select query =>
      cases query with
      | rotation id workspaceId =>
          intro rotation found waiting
          have paused := (Database.answer_rotation_keyed found).2 waiting
          rw [show id = rotationId from confined] at paused
          exact unseen (Database.paused_of_view paused)
      | _ => trivial
  | _ => trivial

end Undertaking

namespace Traffic

/-- An approval of the rotation has been accepted. -/
def Approved (traffic : Traffic κ) (rotationId : Uuid) : Prop :=
  ∃ thread ∈ traffic.pool.threads, ∃ workspaceId claims,
    thread.own.errand = .request (.approve workspaceId rotationId claims) ∧ mayDecide claims ∧
      thread.program = .pure true

/-- An errand is for an approved rotation, starts nothing, or is the approval itself. -/
inductive Standing (traffic : Traffic κ)
    (thread : Thread Command Command.Reply (Undertaking κ) Bool) : Prop where
  | approved (approved : traffic.Approved thread.own.errand.rotationId)
  | waits (waits : Waits thread.program)
  | endorses (workspaceId rotationId : Uuid) (claims : TokenClaims)
      (own : thread.own.errand = .request (.approve workspaceId rotationId claims))
      (role : mayDecide claims) (endorses : Endorses thread.program)

/-- What one errand may do. -/
structure Permitted (traffic : Traffic κ)
    (thread : Thread Command Command.Reply (Undertaking κ) Bool) : Prop where
  stays : StaysWith thread.own.errand.rotationId thread.program
  standing : traffic.Standing thread
  pending : ∀ statement ∈ thread.own.transaction.pending, ∀ id ∈ statement.pauses,
    traffic.Approved id

/-- Every pause, every queued job and every errand goes back to an accepted approval. -/
structure Authorized (traffic : Traffic κ) : Prop where
  paused : ∀ rotationId, traffic.pool.shared.db.Paused rotationId → traffic.Approved rotationId
  queued : ∀ job ∈ traffic.pool.shared.queue, traffic.Approved job.rotationId
  permitted : ∀ thread ∈ traffic.pool.threads, traffic.Permitted thread

section Growth

variable {traffic next : Traffic κ}

/-- An accepted request stays accepted. -/
theorem Approved.mono {rotationId : Uuid} (approved : traffic.Approved rotationId)
    (kept : ∀ thread ∈ traffic.pool.threads, thread.program = .pure true →
      thread ∈ next.pool.threads) : next.Approved rotationId := by
  obtain ⟨thread, inside, workspaceId, claims, own, role, ended⟩ := approved
  exact ⟨thread, kept thread inside ended, workspaceId, claims, own, role, ended⟩

theorem Permitted.mono {thread : Thread Command Command.Reply (Undertaking κ) Bool}
    (permitted : traffic.Permitted thread)
    (grows : ∀ rotationId, traffic.Approved rotationId → next.Approved rotationId) :
    next.Permitted thread where
  stays := permitted.stays
  standing := by
    cases permitted.standing with
    | approved approved => exact .approved (grows _ approved)
    | waits waits => exact .waits waits
    | endorses workspaceId rotationId claims own role endorses =>
        exact .endorses workspaceId rotationId claims own role endorses
  pending statement inside id pauses := grows id (permitted.pending statement inside id pauses)

end Growth

/-- A new request is an approval by an allowed role, or it starts nothing. -/
theorem request_standing (traffic : Traffic κ) (request : Request) (transaction : Transaction κ) :
    traffic.Standing
      ⟨(Errand.request request).program, { errand := .request request, transaction }⟩ := by
  cases request with
  | approve workspaceId rotationId claims =>
      by_cases role : mayDecide claims
      · exact .endorses workspaceId rotationId claims rfl role approveRotation_endorses
      · exact .waits ((Program.follows_map _ _).mpr (approveRotation_denied role))
  | reject workspaceId rotationId claims =>
      exact .waits ((Program.follows_map _ _).mpr rejectRotation_waits)
  | confirm workspaceId rotationId stepId claims =>
      exact .waits ((Program.follows_map _ _).mpr (confirmStep_waits stepId))

section Step

variable [Sha256] {traffic next : Traffic κ} {index : Nat} {own : Undertaking κ} {issued : Command}
  {rest : issued.Reply → Program Command Command.Reply Bool}
  (found : traffic.pool.threads[index]? = some ⟨.command issued rest, own⟩)
  (threads : next.pool.threads = traffic.pool.threads.set index
    ⟨rest (Undertaking.answer issued (own, traffic.pool.shared)).1,
      (Undertaking.answer issued (own, traffic.pool.shared)).2.1⟩)

include found threads

/-- An errand that goes on has not been accepted, so every approval stays. -/
theorem Approved.errand {rotationId : Uuid} (approved : traffic.Approved rotationId) :
    next.Approved rotationId := by
  apply approved.mono
  intro thread within ended
  have different : thread ≠ ⟨.command issued rest, own⟩ := by
    rintro rfl
    exact absurd ended (by simp)
  rw [threads]
  exact mem_set_of_ne within found different _

/-- A command that starts something is one for an approved rotation. -/
theorem Permitted.starts (permitted : traffic.Permitted ⟨.command issued rest, own⟩)
    (starting : issued.starts = true) : next.Approved own.errand.rotationId := by
  cases permitted.standing with
  | approved approved => exact approved.errand found threads
  | waits waits => exact absurd (starting.symm.trans waits.1) (by simp)
  | endorses workspaceId rotationId claims request role endorses =>
      obtain ⟨value, ended, rfl⟩ := endorses.ends.1 (endorses.quiet.1 starting)
        (Undertaking.answer issued (own, traffic.pool.shared)).1
      change own.errand = _ at request
      rw [request]
      exact ⟨_, threads ▸ mem_set_self found _, workspaceId, claims, request, role, ended⟩

/-- An errand that goes on does what it may do. -/
theorem Permitted.errand (permitted : traffic.Permitted ⟨.command issued rest, own⟩)
    (sees : ∀ rotationId, own.SeesPaused traffic.pool.shared rotationId →
      traffic.Approved rotationId) :
    next.Permitted ⟨rest (Undertaking.answer issued (own, traffic.pool.shared)).1,
      (Undertaking.answer issued (own, traffic.pool.shared)).2.1⟩ := by
  have keyed : Keyed issued (Undertaking.answer issued (own, traffic.pool.shared)).1 :=
    Undertaking.answer_keyed own traffic.pool.shared issued
  constructor
  · exact permitted.stays.2 _ keyed
  · cases permitted.standing with
    | approved approved => exact .approved (approved.errand found threads)
    | waits waits =>
        by_cases seen : own.SeesPaused traffic.pool.shared own.errand.rotationId
        · exact .approved ((sees _ seen).errand found threads)
        · exact .waits (waits.2 _ (Undertaking.answer_unpaused _ _ _ permitted.stays.1 seen))
    | endorses workspaceId rotationId claims request role endorses =>
        exact .endorses workspaceId rotationId claims request role
          ⟨endorses.ends.2 _, endorses.quiet.2 _⟩
  · intro statement among id pauses
    obtain earlier | rfl := Undertaking.answer_pending _ _ _ among
    · exact (permitted.pending statement earlier id pauses).errand found threads
    · have same : id = own.errand.rotationId := permitted.stays.1 id pauses
      rw [same]
      exact permitted.starts found threads (Option.isSome_of_mem pauses)

end Step

namespace Authorized

variable {traffic : Traffic κ}

/-- A new errand has nothing to publish. -/
theorem started (authorized : traffic.Authorized) {errand : Errand} {transaction : Transaction κ}
    (empty : transaction.pending = [])
    (standing : traffic.Standing ⟨errand.program, { errand, transaction }⟩) :
    (traffic.started errand transaction).Authorized := by
  have grows (rotationId : Uuid) (approved : traffic.Approved rotationId) :
      (traffic.started errand transaction).Approved rotationId :=
    approved.mono fun _ inside _ => List.mem_append_left _ inside
  constructor
  · exact fun rotationId paused => grows rotationId (authorized.paused rotationId paused)
  · exact fun job inside => grows job.rotationId (authorized.queued job inside)
  · intro thread inside
    obtain earlier | new := List.mem_append.mp inside
    · exact (authorized.permitted thread earlier).mono grows
    · rw [List.mem_singleton.mp new]
      have permitted : traffic.Permitted ⟨errand.program, { errand, transaction }⟩ :=
        ⟨errand_staysWith errand, standing, by simp [empty]⟩
      exact permitted.mono grows

/-- The queue may lose and repeat jobs, and the locks may change. -/
theorem sharing (authorized : traffic.Authorized) {shared : Session Database κ}
    (db : shared.db = traffic.pool.shared.db)
    (queue : ∀ job ∈ shared.queue, job ∈ traffic.pool.shared.queue) :
    (traffic.sharing shared).Authorized := by
  have same (rotationId : Uuid) (approved : traffic.Approved rotationId) :
      (traffic.sharing shared).Approved rotationId := approved
  constructor
  · intro rotationId paused
    exact authorized.paused rotationId (db ▸ paused)
  · exact fun job inside => authorized.queued job (queue job inside)
  · exact fun thread inside => (authorized.permitted thread inside).mono same

variable [Sha256]

omit [Sha256] in
/-- A transaction sees only pauses of approved rotations. -/
theorem sees (authorized : traffic.Authorized) {own : Undertaking κ}
    {program : Program Command Command.Reply Bool}
    (permitted : traffic.Permitted ⟨program, own⟩) {rotationId : Uuid}
    (sees : own.SeesPaused traffic.pool.shared rotationId) : traffic.Approved rotationId := by
  obtain paused | ⟨statement, among, pauses⟩ := sees
  · exact authorized.paused rotationId paused
  · exact permitted.pending statement among rotationId pauses

/-- Each step of an errand keeps the traffic authorized. -/
theorem errand (authorized : traffic.Authorized) (index : Nat) :
    (traffic.errand index).Authorized := by
  obtain ⟨same, _⟩ | ⟨issued, rest, own, found, _, same⟩ :=
    Pool.step_cases Undertaking.answer index traffic.pool
  · unfold Traffic.errand
    rw [same]
    exact authorized
  · have permitted := authorized.permitted _ (List.mem_of_getElem? found)
    have threads : (traffic.errand index).pool.threads = traffic.pool.threads.set index
        ⟨rest (Undertaking.answer issued (own, traffic.pool.shared)).1,
          (Undertaking.answer issued (own, traffic.pool.shared)).2.1⟩ :=
      congrArg Pool.threads same
    have shared : (traffic.errand index).pool.shared =
        (Undertaking.answer issued (own, traffic.pool.shared)).2.2 := congrArg Pool.shared same
    constructor
    · intro rotationId paused
      rw [shared] at paused
      exact (authorized.sees permitted (Undertaking.answer_paused _ _ _ paused)).errand found threads
    · intro job waiting
      rw [shared] at waiting
      obtain earlier | rfl := Undertaking.answer_queue _ _ _ waiting
      · exact (authorized.queued job earlier).errand found threads
      · have addressed : job.rotationId = own.errand.rotationId := permitted.stays.1
        rw [addressed]
        exact permitted.starts found threads rfl
    · intro thread within
      rw [threads] at within
      obtain other | rfl := List.mem_or_eq_of_mem_set within
      · exact (authorized.permitted thread other).mono fun _ approved =>
          approved.errand found threads
      · exact permitted.errand found threads fun _ seen => authorized.sees permitted seen

variable [UuidCodec]

/-- A trigger pauses nothing and starts nothing. -/
theorem insert (authorized : traffic.Authorized) (index : Nat) :
    (traffic.insert index).Authorized := by
  have unpaused (rotationId : Uuid)
      (paused : (traffic.insert index).pool.shared.db.Paused rotationId) :
      traffic.pool.shared.db.Paused rotationId := by
    obtain ⟨same, _⟩ | ⟨issued, rest, own, _, _, same⟩ :=
      Pool.step_cases ApiTransaction.answer index
        { shared := traffic.pool.shared.db, threads := traffic.triggers }
    · exact (congrArg (·.shared.Paused rotationId) same).mp paused
    · have answered := (congrArg (·.shared.Paused rotationId) same).mp paused
      cases issued with
      | commit => exact Database.paused_of_working answered
      | write statement =>
          simp only [ApiTransaction.answer] at answered
          split at answered <;> exact answered
      | _ => exact answered
  have same (rotationId : Uuid) (approved : traffic.Approved rotationId) :
      (traffic.insert index).Approved rotationId := approved
  constructor
  · exact fun rotationId paused => authorized.paused rotationId (unpaused rotationId paused)
  · exact authorized.queued
  · exact fun thread inside => (authorized.permitted thread inside).mono same

omit [Sha256] [UuidCodec] in
/-- A delivered job is for a rotation that was approved. -/
theorem deliver (authorized : traffic.Authorized) (index : Nat) (invocation : Invocation κ) :
    (traffic.deliver index invocation).Authorized := by
  unfold Traffic.deliver
  simp only
  split
  · exact authorized
  · rename_i job found
    have taken : (traffic.sharing { traffic.pool.shared with
        queue := traffic.pool.shared.queue.eraseIdx index }).Authorized :=
      authorized.sharing rfl fun waiting inside => List.mem_of_mem_eraseIdx inside
    have approved : traffic.Approved job.rotationId :=
      authorized.queued job (List.mem_of_getElem? found)
    exact taken.started rfl (.approved approved)

omit [Sha256] [UuidCodec] in
/-- So is a repeated job. -/
theorem duplicate (authorized : traffic.Authorized) (index : Nat) :
    (traffic.duplicate index).Authorized := by
  unfold Traffic.duplicate
  simp only
  split
  · exact authorized
  · rename_i job found
    apply authorized.sharing
    · rfl
    · intro waiting inside
      obtain earlier | again := List.mem_append.mp inside
      · exact earlier
      · exact List.mem_singleton.mp again ▸ List.mem_of_getElem? found

/-- Every action keeps the errands authorized. -/
theorem action (authorized : traffic.Authorized) (action : TrafficAction κ) :
    (action.step traffic).Authorized := by
  cases action with
  | request sent clock => exact authorized.started rfl (request_standing traffic sent _)
  | trigger workspaceId secretId claims around =>
      exact ⟨authorized.paused, authorized.queued, fun thread inside =>
        (authorized.permitted thread inside).mono fun _ approved => approved⟩
  | deliver index invocation => exact authorized.deliver index invocation
  | duplicate index => exact authorized.duplicate index
  | expireLock secretId => exact authorized.sharing rfl fun _ inside => inside
  | errand index => exact authorized.errand index
  | insert index => exact authorized.insert index

omit [Sha256] [UuidCodec] in
/-- Traffic starts authorized where no rotation waits for a confirmation. -/
theorem start {db : Database} {external : κ}
    (unpaused : ∀ row ∈ db.rotations, row.status ≠ .awaitingConfirmation) :
    (Traffic.start db external).Authorized where
  paused rotationId paused := by
    obtain ⟨row, inside, _, waiting⟩ := paused
    exact absurd waiting (unpaused row inside)
  queued job inside := absurd inside List.not_mem_nil
  permitted thread inside := absurd inside List.not_mem_nil

omit [UuidCodec] in
/-- An authorized errand runs a step of an approved rotation only. -/
theorem executes (authorized : traffic.Authorized) {index : Nat} {step : RotationStep}
    {rotation : Rotation} (issued : traffic.pool.issued index = some (.executeStep step rotation)) :
    step.rotationId = rotation.id ∧ traffic.Approved rotation.id := by
  obtain ⟨_, none⟩ | ⟨command, rest, own, found, same, _⟩ :=
    Pool.step_cases Undertaking.answer index traffic.pool
  · exact absurd (issued.symm.trans none) (by simp)
  · obtain rfl := Option.some.inj (same.symm.trans issued)
    have permitted := authorized.permitted _ (List.mem_of_getElem? found)
    have confined : rotation.id = own.errand.rotationId ∧ step.rotationId = own.errand.rotationId :=
      permitted.stays.1
    refine ⟨confined.2.trans confined.1.symm, ?_⟩
    cases permitted.standing with
    | approved approved => exact confined.1 ▸ approved
    | waits waits => exact absurd waits.1 (by simp [unpausedProtocol, Command.starts])
    | endorses workspaceId rotationId claims request role endorses =>
        exact absurd (endorses.quiet.1 rfl) (by simp [Command.enqueues])

end Authorized

end Traffic

/-- A step is executed only after an accepted approval of its rotation. -/
theorem approved_before_execution [Sha256] [UuidCodec] {db : Database} (external : κ)
    (unpaused : ∀ row ∈ db.rotations, row.status ≠ .awaitingConfirmation)
    (actions : List (TrafficAction κ)) :
    ∀ visit ∈ visits TrafficAction.step actions (Traffic.start db external),
      ∀ index step rotation, visit.2 = .errand index →
        visit.1.pool.issued index = some (.executeStep step rotation) →
          step.rotationId = rotation.id ∧ visit.1.Approved rotation.id := by
  intro visit inside index step rotation _ issued
  have authorized : visit.1.Authorized :=
    invariant_visits_always Traffic.Authorized
      (fun traffic action authorized => authorized.action action)
      (Traffic.Authorized.start unpaused) visit inside
  exact authorized.executes issued

section Reachable

/-- A rotation with one step that waits for approval. -/
def proposal : Database :=
  { Database.empty 0 with
    rotations :=
      [{ id := 7, workspaceId := 1, secretId := 3, status := .pendingApproval, plan := some []
         planError := none, coverage := [], newSecretRef := none, planExpiresAt := none
         createdBy := none, createdAt := 0, updatedAt := 0 }]
    rotationSteps :=
      [{ id := 8, workspaceId := 1, rotationId := 7, idx := 0, kind := .provision, target := []
         compensation := none, requiresConfirmation := false, status := .pending
         confirmedAt := none, executedAt := none, error := none }] }

/-- An owner approves the rotation, and the job comes to the provision step. -/
def approvedJob : List (TrafficAction Unit) :=
  .request (.approve 1 7 { sub := "owner", workspaceId := 1, role := "owner" }) 0 ::
    List.replicate 4 (.errand 0) ++
      .deliver 0 { connectors := Connectors.none, clock := 0, actor := "" } ::
        List.replicate 8 (.errand 1)

/-- This is the traffic in which the step runs next. -/
def approvedTraffic : Traffic Unit :=
  @runActions _ _ (@TrafficAction.step _ plainDigest plainCodec) approvedJob
    (Traffic.start proposal ())

theorem approvedTraffic_executes :
    (approvedTraffic.pool.issued 1).any Command.isExecution = true := by decide +kernel

/-- The approved step runs, and its rotation is the approved one. -/
theorem approvedTraffic_approved :
    ∃ step rotation, approvedTraffic.pool.issued 1 = some (.executeStep step rotation) ∧
      step.rotationId = rotation.id ∧ approvedTraffic.Approved rotation.id := by
  obtain ⟨issued, found, execution⟩ := (Option.any_eq_true _ _).mp approvedTraffic_executes
  cases issued with
  | executeStep step rotation =>
      have visited : (approvedTraffic, TrafficAction.errand 1) ∈
          visits (@TrafficAction.step _ plainDigest plainCodec) (approvedJob ++ [.errand 1])
            (Traffic.start proposal ()) :=
        (mem_visits_iff _).mpr ⟨approvedJob, [], rfl, rfl⟩
      exact ⟨step, rotation, found, @approved_before_execution _ plainDigest plainCodec proposal ()
        (by simp [proposal, Database.empty]) _ _ visited 1 step rotation rfl found⟩
  | _ => exact absurd execution Bool.false_ne_true

end Reachable

end Sprawl
