/-
This file proves when concurrent triggers collapse to one investigation.
-/

import Sprawl.Investigation.Lifecycle
import Sprawl.Proof.Isolation
import Sprawl.Proof.JobConversation
import Sprawl.Proof.Refresh

namespace Sprawl

open Effect

def InvestigationStatus.isTerminal : InvestigationStatus → Bool
  | .running => false
  | .complete => true
  | .error => true

/-- The status of an investigation. -/
def Database.statusOf (db : Database) (investigationId : Uuid) : Option InvestigationStatus :=
  (db.investigations.find? (·.id = investigationId)).map (·.status)

/-- An investigation that has ended keeps its status. -/
def KeepsEnded (earlier later : Database) : Prop :=
  ∀ investigationId status, earlier.statusOf investigationId = some status →
    status.isTerminal = true → later.statusOf investigationId = some status

theorem KeepsEnded.refl (db : Database) : KeepsEnded db db := fun _ _ same _ => same

theorem KeepsEnded.trans {first second third : Database} (before : KeepsEnded first second)
    (after : KeepsEnded second third) : KeepsEnded first third :=
  fun investigationId status same ended =>
    after investigationId status (before investigationId status same ended) ended

section Rows

/-- An update keeps the identifiers of the rows. -/
theorem find_updated {db : Database} {selected : Investigation → Bool}
    {change : Investigation → Investigation} (keepsId : ∀ row, (change row).id = row.id)
    (investigationId : Uuid) :
    (db.updateInvestigations selected change).investigations.find? (·.id = investigationId) =
      (db.investigations.find? (·.id = investigationId)).map
        fun row => if selected row then change row else row := by
  rw [Database.updateInvestigations, List.find?_map]
  congr 2
  funext row
  change decide ((if selected row then change row else row).id = investigationId) = _
  split
  · rw [keepsId]
  · rfl

variable {db : Database} {selected : Investigation → Bool} {change : Investigation → Investigation}
  {investigationId : Uuid} {status : InvestigationStatus}

theorem updated_other {own : Uuid} (keepsId : ∀ row, (change row).id = row.id)
    (selects : ∀ row, selected row = true → row.id = own) (other : investigationId ≠ own) :
    (db.updateInvestigations selected change).statusOf investigationId =
      db.statusOf investigationId := by
  rw [Database.statusOf, find_updated keepsId, Database.statusOf]
  cases found : db.investigations.find? (·.id = investigationId) with
  | none => rfl
  | some row =>
      have same : row.id = investigationId := by simpa using List.find?_some found
      have unselected : ¬ selected row = true :=
        fun chosen => other (same.symm.trans (selects row chosen))
      rw [Option.map_some, if_neg unselected]

theorem updated_running (keepsId : ∀ row, (change row).id = row.id)
    (goesOn : ∀ row, row.status = .running → (change row).status = .running)
    (running : db.statusOf investigationId = some .running) :
    (db.updateInvestigations selected change).statusOf investigationId = some .running := by
  rw [Database.statusOf] at running
  rw [Database.statusOf, find_updated keepsId]
  cases found : db.investigations.find? (·.id = investigationId) with
  | none =>
      rw [found] at running
      cases running
  | some row =>
      rw [found] at running
      have before : row.status = .running := Option.some.inj running
      rw [Option.map_some, Option.map_some]
      split
      · rw [goesOn row before]
      · rw [before]

variable [Sha256] {now : Time}

/-- A statement on another investigation keeps the status. -/
theorem performed_other {job : InvestigationJob} {statement : JobStatement}
    (names : job.Names statement) (other : investigationId ≠ job.investigationId) :
    (db.performed now statement).statusOf investigationId = db.statusOf investigationId := by
  cases statement with
  | markRunning named workspaceId =>
      refine updated_other (fun _ => rfl) (fun row chosen => ?_) other
      rw [Bool.and_eq_true, decide_eq_true_eq] at chosen
      exact chosen.1.trans names.1
  | traceId named traceId =>
      exact updated_other (fun _ => rfl) (fun row chosen => (of_decide_eq_true chosen).trans names)
        other
  | complete named coverage =>
      exact updated_other (fun _ => rfl) (fun row chosen => (of_decide_eq_true chosen).trans names)
        other
  | error named =>
      exact updated_other (fun _ => rfl) (fun row chosen => (of_decide_eq_true chosen).trans names)
        other
  | _ => rfl

/-- A statement that ends no investigation keeps one running. -/
theorem performed_running {statement : JobStatement} (goesOn : statement.isTerminal = false)
    (running : db.statusOf investigationId = some .running) :
    (db.performed now statement).statusOf investigationId = some .running := by
  cases statement with
  | markRunning named workspaceId => exact updated_running (fun _ => rfl) (fun _ _ => rfl) running
  | traceId named traceId => exact updated_running (fun _ => rfl) (fun _ same => same) running
  | complete named coverage => cases goesOn
  | error named => cases goesOn
  | _ => exact running

/-- The commit of a job keeps the status of the other investigations. -/
theorem working_other {job : InvestigationJob} {own : JobTransaction}
    (names : ∀ statement ∈ own.pending, job.Names statement)
    (other : investigationId ≠ job.investigationId) :
    (own.working db).statusOf investigationId = db.statusOf investigationId :=
  Database.applyAll_keeps (·.statusOf investigationId)
    fun statement inside _ => performed_other (names statement inside) other

theorem working_running {own : JobTransaction}
    (goesOn : own.pending.any JobStatement.isTerminal = false)
    (running : db.statusOf investigationId = some .running) :
    (own.working db).statusOf investigationId = some .running := by
  rw [List.any_eq_false] at goesOn
  let holds (rows : Database) : Prop := rows.statusOf investigationId = some .running
  have preserves : ∀ statement ∈ own.pending, ∀ rows, holds rows →
      holds (Database.performed own.startedAt rows statement) := by
    intro statement inside rows before
    have passes := goesOn statement inside
    rw [Bool.not_eq_true] at passes
    exact performed_running passes before
  exact Database.applyAll_preserves preserves running

/-- A running investigation is the only one that its job ends. -/
theorem working_keepsEnded {job : InvestigationJob} {own : JobTransaction}
    (names : ∀ statement ∈ own.pending, job.Names statement)
    (running : db.statusOf job.investigationId = some .running) :
    KeepsEnded db (own.working db) := by
  intro investigationId status same ended
  by_cases other : investigationId = job.investigationId
  · subst other
    cases same.symm.trans running
    cases ended
  · exact (working_other names other).trans same

end Rows

section Triggers

variable [Sha256] [UuidCodec] {db : Database} {investigationId : Uuid} {status : InvestigationStatus}

omit [Sha256] [UuidCodec] in
/-- A new investigation comes behind the others. -/
theorem appended_statusOf {rows : Database} {added : List Investigation}
    (appended : rows.investigations = db.investigations ++ added)
    (same : db.statusOf investigationId = some status) :
    rows.statusOf investigationId = some status := by
  rw [Database.statusOf, Option.map_eq_some_iff] at same
  obtain ⟨row, found, rfl⟩ := same
  rw [Database.statusOf, appended, List.find?_append, found]
  rfl

/-- An insert of a trigger adds to the investigations. -/
theorem apiApply_investigations {rows : Database} {statement : ApiWrite}
    (applied : db.apiApply statement = .ok rows) :
    ∃ added, rows.investigations = db.investigations ++ added := by
  cases statement with
  | investigation id workspaceId secretId =>
      rw [Database.apiApply, Database.insertInvestigation] at applied
      split at applied
      · cases applied
        exact ⟨[], (List.append_nil _).symm⟩
      · split at applied
        · cases applied
          exact ⟨_, rfl⟩
        · cases applied
  | rotation row =>
      rw [Database.apiApply, Database.insertRotation] at applied
      split at applied
      · cases applied
      · split at applied
        · cases applied
          exact ⟨[], (List.append_nil _).symm⟩
        · split at applied
          · cases applied
            exact ⟨[], (List.append_nil _).symm⟩
          · cases applied
  | rotationStep row =>
      rw [Database.apiApply, Database.insertStep] at applied
      split at applied
      · cases applied
      · cases applied
        exact ⟨[], (List.append_nil _).symm⟩
  | audit entry =>
      rw [Database.apiApply, Database.insertAudit] at applied
      split at applied
      · cases applied
        exact ⟨[], (List.append_nil _).symm⟩
      · cases applied

theorem triggerWorking_statusOf {transaction : ApiTransaction}
    (same : db.statusOf investigationId = some status) :
    (transaction.working db).statusOf investigationId = some status := by
  rw [ApiTransaction.working]
  induction transaction.pending generalizing db with
  | nil => exact same
  | cons statement rest ih =>
      rw [List.foldl_cons]
      apply ih
      cases applied : db.apiApply statement with
      | error raised => exact same
      | ok written =>
          obtain ⟨added, appended⟩ := apiApply_investigations applied
          exact appended_statusOf appended same

/-- A command of a trigger keeps the status of every investigation. -/
theorem triggerAnswer_statusOf {issued : ApiCommand} {transaction : TriggerTransaction}
    (same : db.statusOf investigationId = some status) :
    (TriggerTransaction.answer issued (transaction, db)).2.2.statusOf investigationId =
      some status := by
  cases issued with
  | commit =>
      have begun : Database.statusOf { db with clock := transaction.began db } investigationId =
          some status := same
      exact triggerWorking_statusOf begun
  | write statement =>
      rw [TriggerTransaction.answer]
      split <;> exact same
  | _ => exact same

end Triggers

section Open

variable [Sha256]

/-- The job has not returned yet. -/
def isOpen (thread : JobThread) : Bool :=
  match thread.program with
  | .pure _ => false
  | .command _ _ => true

/-- An open job ends its investigation, which is running until then. -/
structure OpenJob (job : InvestigationJob) (settled : Bool) (thread : JobThread) (db : Database) :
    Prop where
  converses : Program.Converses (jobConversation job) ⟨thread.own.pending, settled⟩ thread.program
  names : ∀ statement ∈ thread.own.pending, job.Names statement
  ended : settled = true → thread.own.pending = []
  running : settled = false → db.statusOf job.investigationId = some .running

variable {job : InvestigationJob} {settled : Bool} {issued : JobCommand}
  {rest : issued.Reply → JobProgram (Except String Json)} {own : JobTransaction} {db : Database}

/-- What a command of a job leaves behind. -/
def Leaves (job : InvestigationJob) (thread : JobThread) (db after : Database) : Prop :=
  (∃ settled, OpenJob job settled thread after) ∧ KeepsEnded db after

omit [Sha256] in
theorem noneNamed : ∀ statement ∈ ([] : List JobStatement), job.Names statement :=
  fun _ inside => absurd inside List.not_mem_nil

theorem answer_execute_cases (statement : JobStatement) (own : JobTransaction) (db : Database) :
    (∃ raised, JobTransaction.answer (.execute statement) (own, db) =
      (.error raised, own.met, db)) ∨
      JobTransaction.answer (.execute statement) (own, db) = (.ok (), own.wrote statement, db) := by
  rw [JobTransaction.answer]
  split
  · exact Or.inl ⟨_, rfl⟩
  · split
    · exact Or.inr rfl
    · exact Or.inl ⟨_, rfl⟩

theorem answer_commit_cases (own : JobTransaction) (db : Database) :
    (∃ raised, JobTransaction.answer .commit (own, db) = (.error raised, own.met, db)) ∨
      JobTransaction.answer .commit (own, db) = (.ok (), own.met.ended, own.working db) := by
  rw [JobTransaction.answer]
  split
  · exact Or.inl ⟨_, rfl⟩
  · exact Or.inr rfl

theorem OpenJob.execute {statement : JobStatement}
    {rest : Except String Unit → JobProgram (Except String Json)}
    (opened : OpenJob job settled ⟨.command (.execute statement) rest, own⟩ db) :
    Leaves job ⟨rest (JobTransaction.answer (.execute statement) (own, db)).1,
      (JobTransaction.answer (.execute statement) (own, db)).2.1⟩ db
      (JobTransaction.answer (.execute statement) (own, db)).2.2 := by
  obtain ⟨⟨⟨rfl, named⟩, later⟩, names, ended, running⟩ := opened
  obtain ⟨raised, same⟩ | same := answer_execute_cases statement own db
  · rw [same]
    exact ⟨⟨false, later (.error raised), names, (fun open_ => nomatch open_), running⟩, .refl db⟩
  · rw [same]
    refine ⟨⟨false, later (.ok ()), ?_, (fun open_ => nomatch open_), running⟩, .refl db⟩
    exact List.forall_mem_append.mpr ⟨names, List.forall_mem_singleton.mpr named⟩

/-- The commit that ends an investigation settles the job. -/
theorem OpenJob.commit {rest : Except String Unit → JobProgram (Except String Json)}
    (opened : OpenJob job settled ⟨.command .commit rest, own⟩ db) :
    Leaves job ⟨rest (JobTransaction.answer .commit (own, db)).1,
      (JobTransaction.answer .commit (own, db)).2.1⟩ db
      (JobTransaction.answer .commit (own, db)).2.2 := by
  obtain ⟨⟨allowed, later⟩, names, ended, running⟩ := opened
  obtain ⟨raised, same⟩ | same := answer_commit_cases own db
  · rw [same]
    exact ⟨⟨settled, later (.error raised), names, ended, running⟩, .refl db⟩
  · rw [same]
    refine ⟨⟨_, later (.ok ()), noneNamed, fun _ => rfl, ?_⟩, ?_⟩
    · intro open_
      obtain ⟨unsettled, goesOn⟩ := Bool.or_eq_false_iff.mp open_
      exact working_running goesOn (running unsettled)
    · cases settled with
      | false => exact working_keepsEnded names (running rfl)
      | true =>
          have nothing : own.working db = db := by
            rw [JobTransaction.working, ended rfl]
            rfl
          rw [nothing]
          exact .refl db

/-- A job that goes on ends no investigation a second time. -/
theorem OpenJob.answer (opened : OpenJob job settled ⟨.command issued rest, own⟩ db) :
    Leaves job ⟨rest (JobTransaction.answer issued (own, db)).1,
      (JobTransaction.answer issued (own, db)).2.1⟩ db
      (JobTransaction.answer issued (own, db)).2.2 := by
  have whole := opened
  obtain ⟨⟨allowed, later⟩, names, ended, running⟩ := opened
  cases issued with
  | begin => exact ⟨⟨settled, later (), noneNamed, fun _ => rfl, running⟩, .refl db⟩
  | rollback => exact ⟨⟨settled, later (), noneNamed, fun _ => rfl, running⟩, .refl db⟩
  | execute statement => exact whole.execute
  | commit => exact whole.commit
  | publish workspaceId eventType payload =>
      exact ⟨⟨settled, later (), names, ended, running⟩, .refl db⟩
  | initTrace => exact ⟨⟨settled, later _, names, ended, running⟩, .refl db⟩
  | invoke checkpointed => exact ⟨⟨settled, later _, names, ended, running⟩, .refl db⟩
  | uuid4 => exact ⟨⟨settled, later _, names, ended, running⟩, .refl db⟩

end Open

section States

/-- The number of jobs that are queued or have not returned yet. -/
def Lifecycle.activeJobs (state : Lifecycle) : Nat :=
  state.queue.length + state.jobs.threads.countP isOpen

/-- A job is enqueued while no job is queued or running, for an investigation that is running. -/
def Lifecycle.enqueuesAlone (state : Lifecycle) : LifecycleAction → Bool
  | .insert index =>
      (Lifecycle.enqueued (state.triggerPool.issued index)).all fun job =>
        state.activeJobs = 0 && state.db.statusOf job.investigationId = some .running
  | _ => true

/-- At most one job is active, and its investigation is running until the job ends it. -/
structure Lifecycle.Sound (state : Lifecycle) : Prop where
  few : state.activeJobs ≤ 1
  queued : ∀ job ∈ state.queue, state.db.statusOf job.investigationId = some .running
  jobs : ∀ thread ∈ state.jobs.threads, isOpen thread = true →
    ∃ job settled, OpenJob job settled thread state.db

/-- A job stays open while no investigation changes its status. -/
theorem OpenJob.unchanged {job : InvestigationJob} {settled : Bool} {thread : JobThread}
    {db after : Database} (opened : OpenJob job settled thread db)
    (kept : ∀ investigationId status, db.statusOf investigationId = some status →
      after.statusOf investigationId = some status) : OpenJob job settled thread after :=
  ⟨opened.converses, opened.names, opened.ended, fun open_ => kept _ _ (opened.running open_)⟩

/-- Two open jobs are one where there is at most one. -/
theorem open_unique {threads : List JobThread} (few : threads.countP isOpen ≤ 1) {index other : Nat}
    {first second : JobThread} (found : threads[index]? = some first)
    (within : threads[other]? = some second) (opened : isOpen first = true)
    (alsoOpen : isOpen second = true) : other = index := by
  induction threads generalizing index other with
  | nil => cases found
  | cons thread rest ih =>
      rw [List.countP_cons] at few
      have someOpen {position : Nat} {found : JobThread} (here : rest[position]? = some found)
          (isIt : isOpen found = true) : 0 < rest.countP isOpen :=
        List.countP_pos_iff.mpr ⟨found, List.mem_of_getElem? here, isIt⟩
      cases index with
      | zero =>
          cases other with
          | zero => rfl
          | succ other =>
              obtain rfl := Option.some.inj found
              rw [if_pos opened] at few
              have more := someOpen within alsoOpen
              omega
      | succ index =>
          cases other with
          | zero =>
              obtain rfl := Option.some.inj within
              rw [if_pos alsoOpen] at few
              have more := someOpen found opened
              omega
          | succ other =>
              rw [ih (by omega) found within]

/-- A job that ends or goes on does not add to the open jobs. -/
theorem countP_set_le {threads : List JobThread} {index : Nat} {thread next : JobThread}
    (found : threads[index]? = some thread) (opened : isOpen next = true → isOpen thread = true) :
    (threads.set index next).countP isOpen ≤ threads.countP isOpen := by
  have total : _ = _ + (isOpen next).toNat := countP_set_add found
  have fewer : (isOpen next).toNat ≤ (isOpen thread).toNat := Bool.toNat_le_toNat opened
  omega

end States

section Steps

variable [Sha256] [UuidCodec] {F : Type} [Scalar F] {workspaceId secretId : Uuid}
  {state : Lifecycle}

/-- A trigger that goes on keeps the status of every investigation. -/
theorem insert_statusOf {index : Nat} (investigationId : Uuid) (status : InvestigationStatus)
    (same : state.db.statusOf investigationId = some status) :
    (state.insert index).db.statusOf investigationId = some status := by
  let outside := Pool.held jobLocking state.jobs.threads state.db
  have shared : (state.insert index).db =
      (state.triggerPool.stepWaiting TriggerTransaction.answer apiLocking outside index).shared := rfl
  obtain unchanged | ⟨issued, rest, own, _, _, stepped⟩ :=
    Pool.stepWaiting_cases TriggerTransaction.answer apiLocking outside index state.triggerPool
  · rw [shared, unchanged]
    exact same
  · rw [shared, stepped]
    exact triggerAnswer_statusOf same

omit [Sha256] [UuidCodec] in
/-- A trigger enqueues one job at a time. -/
theorem enqueued_length_le (issued : Option ApiCommand) :
    (Lifecycle.enqueued issued).length ≤ 1 := by
  unfold Lifecycle.enqueued
  split
  · exact le_rfl
  · exact Nat.zero_le 1

theorem Lifecycle.Sound.insert (sound : state.Sound) {index : Nat}
    (alone : state.enqueuesAlone (.insert index) = true) : (state.insert index).Sound := by
  rw [Lifecycle.enqueuesAlone, List.all_eq_true] at alone
  let added := Lifecycle.enqueued (state.triggerPool.issued index)
  have queue : (state.insert index).queue = state.queue ++ added := rfl
  have jobs : (state.insert index).jobs.threads = state.jobs.threads := rfl
  have permitted : ∀ job ∈ added,
      state.activeJobs = 0 ∧ state.db.statusOf job.investigationId = some .running := by
    intro job inside
    have both := alone job inside
    rw [Bool.and_eq_true, decide_eq_true_eq, decide_eq_true_eq] at both
    exact both
  refine ⟨?_, ?_, ?_⟩
  · have total : (state.insert index).activeJobs = state.activeJobs + added.length := by
      rw [Lifecycle.activeJobs, Lifecycle.activeJobs, queue, jobs, List.length_append]
      omega
    have single : added.length ≤ 1 := enqueued_length_le _
    rw [total]
    cases nothing : added with
    | nil => exact sound.few
    | cons job rest =>
        have idle := (permitted job (by rw [nothing]; exact List.mem_cons_self)).1
        rw [← nothing, idle]
        omega
  · rw [queue]
    refine List.forall_mem_append.mpr ⟨fun job inside => ?_, fun job inside => ?_⟩
    · exact insert_statusOf _ _ (sound.queued job inside)
    · exact insert_statusOf _ _ (permitted job inside).2
  · rw [jobs]
    intro thread inside opened
    obtain ⟨job, settled, open_⟩ := sound.jobs thread inside opened
    exact ⟨job, settled, open_.unchanged insert_statusOf⟩

omit [Sha256] [UuidCodec] in
/-- The job that leaves the queue becomes the open one. -/
theorem deliver_activeJobs_le {index : Nat} {job : InvestigationJob} {thread : JobThread}
    (found : state.queue[index]? = some job) :
    (state.queue.eraseIdx index).length + (state.jobs.threads ++ [thread]).countP isOpen ≤
      state.activeJobs := by
  obtain ⟨bound, _⟩ := List.getElem?_eq_some_iff.mp found
  have single : [thread].countP isOpen ≤ 1 := List.countP_le_length
  rw [Lifecycle.activeJobs, List.countP_append, List.length_eraseIdx_of_lt bound]
  omega

omit [Sha256] [UuidCodec] in
theorem Lifecycle.Sound.deliver (sound : state.Sound) (index : Nat) (around : JobSurroundings) :
    (state.deliver F index around).Sound := by
  unfold Lifecycle.deliver
  split
  · exact sound
  · rename_i job found
    refine ⟨(deliver_activeJobs_le found).trans sound.few, fun other inside => ?_, ?_⟩
    · exact sound.queued other (List.mem_of_mem_eraseIdx inside)
    · intro thread inside opened
      obtain before | last := List.mem_append.mp inside
      · exact sound.jobs thread before opened
      · rw [List.mem_singleton.mp last]
        refine ⟨job, false, investigateSecret_converses F job, noneNamed, ?_, fun _ => ?_⟩
        · exact fun settled => nomatch settled
        · exact sound.queued job (List.mem_of_getElem? found)

omit [UuidCodec] in
theorem Lifecycle.Sound.advance (sound : state.Sound) (index : Nat) :
    (state.advance index).Sound ∧ KeepsEnded state.db (state.advance index).db := by
  let outside := Pool.held apiLocking state.triggers state.db
  have whole : state.advance index =
      { state with
        jobs := state.jobs.stepWaiting JobTransaction.answer jobLocking outside index } := rfl
  rw [whole]
  obtain unchanged | ⟨issued, rest, own, found, _, stepped⟩ :=
    Pool.stepWaiting_cases JobTransaction.answer jobLocking outside index state.jobs
  · rw [unchanged]
    exact ⟨sound, .refl _⟩
  · rw [stepped]
    have isIt : isOpen (⟨.command issued rest, own⟩ : JobThread) = true := rfl
    have few := sound.few
    rw [Lifecycle.activeJobs] at few
    have positive : 0 < state.jobs.threads.countP isOpen :=
      List.countP_pos_iff.mpr ⟨_, List.mem_of_getElem? found, isIt⟩
    have emptied : state.queue = [] := List.length_eq_zero_iff.mp (by omega)
    obtain ⟨job, settled, opened⟩ := sound.jobs _ (List.mem_of_getElem? found) isIt
    obtain ⟨stays, settles⟩ := opened.answer
    refine ⟨⟨?_, ?_, ?_⟩, settles⟩
    · exact (Nat.add_le_add_left (countP_set_le found fun _ => isIt) _).trans sound.few
    · rw [emptied]
      exact fun _ inside => absurd inside List.not_mem_nil
    · refine Pool.forall_set (fun _ => ⟨job, stays⟩) fun other thread different within alsoOpen => ?_
      exact absurd (open_unique (by omega) found within isIt alsoOpen) different

omit [Sha256] [UuidCodec] in
theorem Lifecycle.Sound.cancel (sound : state.Sound) (index : Nat) :
    Lifecycle.Sound { state with jobs := state.jobs.cancel index } := by
  unfold JobPool.cancel Pool.finish
  split
  · exact sound
  · rename_i thread found
    let ended : JobThread := ⟨.pure (.error "CancelledError"), { thread.own with pending := [] }⟩
    have closed : isOpen ended ≠ true := Bool.false_ne_true
    have fewer := countP_set_le found (absurd · closed)
    refine ⟨(Nat.add_le_add_left fewer _).trans sound.few, sound.queued, ?_⟩
    refine Pool.forall_set (absurd · closed) fun other found _ within => ?_
    exact sound.jobs found (List.mem_of_getElem? within)

omit [Sha256] [UuidCodec] in
/-- Nothing is active at the start. -/
theorem Lifecycle.Sound.start (db : Database) : (Lifecycle.start db).Sound where
  few := Nat.zero_le 1
  queued := fun _ inside => absurd inside List.not_mem_nil
  jobs := fun _ inside => absurd inside List.not_mem_nil

/-- An action keeps the lifecycle, unless it enqueues a second job. -/
theorem Lifecycle.Sound.step (sound : state.Sound) (action : LifecycleAction)
    (alone : state.enqueuesAlone action = true) :
    (action.step F workspaceId secretId state).Sound ∧
      KeepsEnded state.db (action.step F workspaceId secretId state).db := by
  cases action with
  | trigger uuids => exact ⟨⟨sound.few, sound.queued, sound.jobs⟩, .refl _⟩
  | insert index =>
      refine ⟨sound.insert alone, fun investigationId status same _ => ?_⟩
      exact insert_statusOf investigationId status same
  | deliver index around =>
      refine ⟨sound.deliver index around, ?_⟩
      change KeepsEnded state.db (state.deliver F index around).db
      unfold Lifecycle.deliver
      split <;> exact .refl _
  | advance index => exact sound.advance index
  | cancel index =>
      refine ⟨sound.cancel index, ?_⟩
      change KeepsEnded state.jobs.shared (state.jobs.cancel index).shared
      unfold JobPool.cancel Pool.finish
      split <;> exact .refl _
  | tick elapsed =>
      refine ⟨⟨sound.few, sound.queued, fun thread inside opened => ?_⟩, .refl _⟩
      obtain ⟨job, settled, open_⟩ := sound.jobs thread inside opened
      exact ⟨job, settled, open_.unchanged fun _ _ same => same⟩

end Steps

section Runs

variable [Sha256] [UuidCodec] {F : Type} [Scalar F] {workspaceId secretId : Uuid}

/-- A run that enqueues each job alone keeps the lifecycle. -/
theorem Lifecycle.Sound.run {state : Lifecycle} {actions : List LifecycleAction}
    (sound : state.Sound)
    (alone : ∀ visit ∈ visits (LifecycleAction.step F workspaceId secretId) actions state,
      visit.1.enqueuesAlone visit.2 = true) :
    (runActions (LifecycleAction.step F workspaceId secretId) actions state).Sound ∧
      KeepsEnded state.db
        (runActions (LifecycleAction.step F workspaceId secretId) actions state).db := by
  induction actions generalizing state with
  | nil => exact ⟨sound, .refl _⟩
  | cons action rest ih =>
      rw [visits_cons, List.forall_mem_cons] at alone
      obtain ⟨first, settles⟩ : Lifecycle.Sound (action.step F workspaceId secretId state) ∧ _ :=
        sound.step action alone.1
      obtain ⟨last, later⟩ := ih first alone.2
      exact ⟨last, settles.trans later⟩

/-- Where each job is enqueued while none is queued or running, for an investigation that is
running, at most one job is ever queued or running, and no investigation leaves the status that it
has ended with. -/
theorem triggers_collapse (F : Type) [Scalar F] (workspaceId secretId : Uuid) (db : Database)
    (actions : List LifecycleAction)
    (alone : ∀ visit ∈ visits (LifecycleAction.step F workspaceId secretId) actions (.start db),
      visit.1.enqueuesAlone visit.2 = true) :
    ∀ before, before <+: actions →
      (runActions (LifecycleAction.step F workspaceId secretId) before (.start db)).activeJobs ≤ 1 ∧
        ∀ earlier, earlier <+: before →
          KeepsEnded
            (runActions (LifecycleAction.step F workspaceId secretId) earlier (.start db)).db
            (runActions (LifecycleAction.step F workspaceId secretId) before (.start db)).db := by
  intro before whole
  obtain ⟨after, rfl⟩ := whole
  rw [visits_append, List.forall_mem_append] at alone
  refine ⟨((Lifecycle.Sound.start db).run alone.1).1.few, fun earlier part => ?_⟩
  obtain ⟨between, rfl⟩ := part
  have split := alone.1
  rw [visits_append, List.forall_mem_append] at split
  rw [runActions_append]
  exact (((Lifecycle.Sound.start db).run split.1).1.run split.2).2

end Runs

section Example

/-- The critical secret before its first investigation. -/
def untouchedSecret : Database := { criticalSecret with investigations := [] }

/-- The lifecycle of the secret after some actions. -/
def lifecycleAfter (actions : List LifecycleAction) : Lifecycle :=
  runActions (@LifecycleAction.step plainDigest plainCodec Rat exactScalar 2 1) actions
    (.start untouchedSecret)

/-- A request that draws the identifier goes through. -/
def requestRuns (index : Nat) (investigationId : Uuid) : List LifecycleAction :=
  .trigger [investigationId] :: List.replicate 6 (.insert index)

/-- The first job of the queue starts and goes on. -/
def jobRuns (index base steps : Nat) : List LifecycleAction :=
  .deliver 0 (plainAround base) :: List.replicate steps (.advance index)

/-- One request collapses to its only job, which completes. -/
theorem oneTrigger_collapses :
    (lifecycleAfter (requestRuns 0 3 ++ jobRuns 0 200 40)).db.statusOf 3 = some .complete ∧
      ∀ before, before <+: requestRuns 0 3 ++ jobRuns 0 200 40 →
        (lifecycleAfter before).activeJobs ≤ 1 ∧ ∀ earlier, earlier <+: before →
          KeepsEnded (lifecycleAfter earlier).db (lifecycleAfter before).db := by
  have completes :
      (lifecycleAfter (requestRuns 0 3 ++ jobRuns 0 200 40)).db.statusOf 3 = some .complete := by
    decide +kernel
  refine ⟨completes, @triggers_collapse plainDigest plainCodec Rat exactScalar 2 1 untouchedSecret
    (requestRuns 0 3 ++ jobRuns 0 200 40) ?_⟩
  apply List.all_eq_true.mp
  decide +kernel

/-- Two requests before the first run. -/
def bothRequests : List LifecycleAction := requestRuns 0 3 ++ requestRuns 1 5

/-- The first of the two jobs has returned. -/
def firstReturned : List LifecycleAction := bothRequests ++ jobRuns 0 200 40

/-- The second job has marked the investigation as running. -/
def secondStarted : List LifecycleAction := firstReturned ++ jobRuns 1 300 5

/-- Two requests queue two jobs for one investigation, and the second job takes it from complete
back to running. -/
theorem bothRequests_rerun :
    (lifecycleAfter bothRequests).queue.map (·.investigationId) = [3, 3] ∧
      (lifecycleAfter bothRequests).activeJobs = 2 ∧
      ¬ KeepsEnded (lifecycleAfter firstReturned).db (lifecycleAfter secondStarted).db := by
  have completed : (lifecycleAfter firstReturned).db.statusOf 3 = some .complete := by
    decide +kernel
  have rerun : (lifecycleAfter secondStarted).db.statusOf 3 = some .running := by
    decide +kernel
  refine ⟨by decide +kernel, by decide +kernel, fun settles => ?_⟩
  have kept := settles 3 .complete completed rfl
  rw [rerun] at kept
  cases kept

end Example

end Sprawl
