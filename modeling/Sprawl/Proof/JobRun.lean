/-
This file proves what one run of the `investigate_secret` job commits.
-/

import Sprawl.Effect.Raising
import Sprawl.Proof.JobRows

namespace Sprawl

open Effect

section Failures

/-- The failures that come first are all absent. -/
def Unfailing (count : Nat) (failures : List (Option String)) : Prop :=
  ∀ failure ∈ failures.take count, failure = none

theorem unfailing_succ {count : Nat} {failures : List (Option String)} :
    Unfailing (count + 1) failures ↔
      failures.head?.join = none ∧ Unfailing count failures.tail := by
  cases failures with
  | nil => simp [Unfailing]
  | cons first rest => simp [Unfailing]

theorem unfailing_add {first second : Nat} {failures : List (Option String)} :
    Unfailing (first + second) failures ↔
      Unfailing first failures ∧ Unfailing second (failures.drop first) := by
  rw [Unfailing, List.take_add, List.forall_mem_append]
  rfl

theorem unfailing_one {failures : List (Option String)} :
    Unfailing 1 failures ↔ failures.head?.join = none := by
  rw [unfailing_succ]
  simp [Unfailing]

end Failures

section Statements

variable [Sha256]

/-- A run of the job from the state of its transaction and of the rows. -/
abbrev JobHandler.runOn {α : Type} (handler : JobHandler α) (state : JobTransaction × Database) :
    Except String α × JobTransaction × Database :=
  Raising.run JobTransaction.answer handler state

/-- The statements that a moment commits. -/
def committed : Moment JobCommand JobCommand.Reply (JobTransaction × Database) →
    Option (List JobStatement)
  | ⟨state, .commit, .ok _⟩ => some state.1.pending
  | _ => none

/-- The transactions that a run commits. -/
def JobHandler.commits {α : Type} (handler : JobHandler α) (state : JobTransaction × Database) :
    List (List JobStatement) :=
  (Raising.trace JobTransaction.answer handler state).filterMap committed

variable {α β : Type} {state reached : JobTransaction × Database}

/-- A transaction begins with the clock of the database. -/
def JobTransaction.begun (transaction : JobTransaction) (db : Database) : JobTransaction :=
  { transaction with pending := [], startedAt := db.clock }

/-- A transaction ends without pending writes. -/
def JobTransaction.ended (transaction : JobTransaction) : JobTransaction :=
  { transaction with pending := [] }

/-- One more statement is pending. -/
def JobTransaction.wrote (transaction : JobTransaction) (statement : JobStatement) :
    JobTransaction :=
  { transaction.met with pending := transaction.pending ++ [statement] }

/-- A statement runs when nothing fails and no constraint refuses it. -/
theorem executeJob_ok_iff {statement : JobStatement} {transaction : JobTransaction} {db : Database} :
    (executeJob statement).runOn (transaction, db) = (.ok (), reached) ↔
      transaction.failure = none ∧
        (∃ rows, (transaction.working db).jobApply transaction.startedAt statement = .ok rows) ∧
          reached = (transaction.wrote statement, db) := by
  change JobTransaction.answer (.execute statement) (transaction, db) = _ ↔ _
  rw [JobTransaction.answer]
  cases failed : transaction.failure with
  | some raised => simp
  | none =>
      cases applied : (transaction.working db).jobApply transaction.startedAt statement with
      | ok rows =>
          simp only [Prod.mk.injEq, true_and, Except.ok.injEq, exists_eq', JobTransaction.wrote]
          exact eq_comm
      | error raised => simp

/-- A commit is through when nothing fails. -/
theorem commit_ok_iff {transaction : JobTransaction} {db : Database} :
    (issueJob .commit >>= raiseJob).runOn (transaction, db) = (.ok (), reached) ↔
      transaction.failure = none ∧
        reached = (transaction.met.ended, transaction.working db) := by
  change JobTransaction.answer .commit (transaction, db) = _ ↔ _
  rw [JobTransaction.answer]
  cases failed : transaction.failure with
  | some raised => simp
  | none =>
      simp only [Prod.mk.injEq, true_and, JobTransaction.ended]
      exact eq_comm

/-- A transaction is through when its body and its commit are. -/
theorem inTransaction_ok_iff {body : JobHandler Unit} {transaction : JobTransaction}
    {db : Database} :
    (inTransaction body).runOn (transaction, db) = (.ok (), reached) ↔
      ∃ written rows, body.runOn (transaction.begun db, db) = (.ok (), written, rows) ∧
        written.failure = none ∧ reached = (written.met.ended, written.working rows) := by
  have block : ∀ after, (do body; raiseJob (← issueJob .commit)).runOn (transaction.begun db, db) =
      (.ok (), after) ↔ ∃ written rows,
        body.runOn (transaction.begun db, db) = (.ok (), written, rows) ∧
        written.failure = none ∧ after = (written.met.ended, written.working rows) := by
    intro after
    rw [JobHandler.runOn, Raising.run_bind_ok_iff]
    constructor
    · intro given
      obtain ⟨_, ⟨written, rows⟩, ran, through⟩ := given
      exact ⟨written, rows, ran, commit_ok_iff.mp through⟩
    · intro given
      obtain ⟨written, rows, ran, through⟩ := given
      exact ⟨(), (written, rows), ran, commit_ok_iff.mpr through⟩
  rw [← block reached]
  change Raising.run _ (tryCatch _ _) (transaction.begun db, db) = _ ↔ _
  rcases ran : (do body; raiseJob (← issueJob .commit)).runOn (transaction.begun db, db) with
    ⟨raised | _, after⟩
  · rw [Raising.run_catch_error _ ran]
    constructor
    · intro returned
      cases returned
    · intro returned
      cases ran.symm.trans returned
  · rw [Raising.run_catch_ok _ ran, ran]

/-- More statements are pending. -/
def JobTransaction.wroteAll (statements : List JobStatement) (transaction : JobTransaction) :
    JobTransaction :=
  statements.foldl JobTransaction.wrote transaction

theorem JobTransaction.wrote_working {statement : JobStatement} {transaction : JobTransaction}
    {db rows : Database}
    (accepted : (transaction.working db).jobApply transaction.startedAt statement = .ok rows) :
    (transaction.wrote statement).working db = rows := by
  change Database.applyAll transaction.startedAt (transaction.pending ++ [statement]) db = rows
  rw [Database.applyAll, List.foldl_append]
  change Database.applyAll transaction.startedAt [statement] (transaction.working db) = rows
  rw [Database.applyAll_cons_ok accepted]
  rfl

theorem JobTransaction.wroteAll_working {statements : List JobStatement}
    {transaction : JobTransaction} {db rows : Database}
    (accepted : Database.applyEach transaction.startedAt statements (transaction.working db) =
      .ok rows) :
    (transaction.wroteAll statements).working db = rows := by
  induction statements generalizing transaction with
  | nil => exact Except.ok.inj accepted
  | cons statement rest ih =>
      obtain ⟨next, applied, others⟩ := Database.applyEach_cons_ok.mp accepted
      have later : ((transaction.wrote statement).wroteAll rest).working db = rows := by
        apply ih
        rw [JobTransaction.wrote_working applied]
        exact others
      exact later

theorem executeAll_ok_iff {statements : List JobStatement} {transaction : JobTransaction}
    {db : Database} :
    (InvestigationJob.executeAll statements).runOn (transaction, db) = (.ok (), reached) ↔
      Unfailing statements.length transaction.around.failures ∧
        (∃ rows, Database.applyEach transaction.startedAt statements (transaction.working db) =
          .ok rows) ∧
        reached = (transaction.wroteAll statements, db) := by
  induction statements generalizing transaction with
  | nil =>
      rw [InvestigationJob.executeAll, JobHandler.runOn, Raising.run_pure]
      simp [Unfailing, Database.applyEach, JobTransaction.wroteAll, eq_comm]
  | cons statement rest ih =>
      rw [InvestigationJob.executeAll, JobHandler.runOn, Raising.run_bind_ok_iff]
      rw [List.length_cons, unfailing_succ]
      constructor
      · intro given
        obtain ⟨_, middle, first, others⟩ := given
        obtain ⟨fine, ⟨next, accepted⟩, rfl⟩ := executeJob_ok_iff.mp first
        obtain ⟨unfailing, ⟨rows, applied⟩, rfl⟩ := ih.mp others
        rw [JobTransaction.wrote_working accepted] at applied
        exact ⟨⟨fine, unfailing⟩, ⟨rows, Database.applyEach_cons_ok.mpr ⟨next, accepted, applied⟩⟩,
          rfl⟩
      · intro given
        obtain ⟨⟨fine, unfailing⟩, ⟨rows, applied⟩, rfl⟩ := given
        obtain ⟨next, accepted, others⟩ := Database.applyEach_cons_ok.mp applied
        refine ⟨(), (transaction.wrote statement, db),
          executeJob_ok_iff.mpr ⟨fine, ⟨next, accepted⟩, rfl⟩, ih.mpr ⟨unfailing, ?_, rfl⟩⟩
        rw [JobTransaction.wrote_working accepted]
        exact ⟨rows, others⟩

section Fields

omit [Sha256]

variable (statements : List JobStatement) (transaction : JobTransaction)

theorem JobTransaction.wroteAll_startedAt :
    (transaction.wroteAll statements).startedAt = transaction.startedAt := by
  induction statements generalizing transaction with
  | nil => rfl
  | cons statement rest ih => exact ih (transaction.wrote statement)

theorem JobTransaction.wroteAll_pending :
    (transaction.wroteAll statements).pending = transaction.pending ++ statements := by
  induction statements generalizing transaction with
  | nil => exact (List.append_nil _).symm
  | cons statement rest ih =>
      refine (ih (transaction.wrote statement)).trans ?_
      exact List.append_assoc _ _ _

theorem JobTransaction.wroteAll_around :
    (transaction.wroteAll statements).around = { transaction.around with
      failures := transaction.around.failures.drop statements.length } := by
  induction statements generalizing transaction with
  | nil => rfl
  | cons statement rest ih =>
      refine (ih (transaction.wrote statement)).trans ?_
      rw [List.length_cons, ← List.drop_tail]
      rfl

end Fields

/-- The state after a list of statements in a transaction of its own. -/
def JobTransaction.ran (transaction : JobTransaction) (db : Database)
    (statements : List JobStatement) : JobTransaction :=
  ((transaction.begun db).wroteAll statements).met.ended

omit [Sha256] in
theorem JobTransaction.ran_around (transaction : JobTransaction) (db : Database)
    (statements : List JobStatement) :
    (transaction.ran db statements).around = { transaction.around with
      failures := transaction.around.failures.drop (statements.length + 1) } := by
  change { ((transaction.begun db).wroteAll statements).around with
    failures := ((transaction.begun db).wroteAll statements).around.failures.tail } = _
  rw [JobTransaction.wroteAll_around, ← List.drop_one, List.drop_drop]
  rfl

omit [Sha256] in
/-- A transaction depends on the rows only through their clock. -/
theorem JobTransaction.ran_clock (transaction : JobTransaction) (statements : List JobStatement)
    {first second : Database} (sameClock : first.clock = second.clock) :
    transaction.ran first statements = transaction.ran second statements := by
  rw [JobTransaction.ran, JobTransaction.begun, sameClock]
  rfl

/-- A list of statements in a transaction of its own. -/
theorem transaction_ok_iff {statements : List JobStatement} {transaction : JobTransaction}
    {db : Database} :
    (inTransaction (InvestigationJob.executeAll statements)).runOn (transaction, db) =
      (.ok (), reached) ↔
      Unfailing (statements.length + 1) transaction.around.failures ∧
        ∃ rows, Database.applyEach db.clock statements db = .ok rows ∧
          reached = (transaction.ran db statements, rows) := by
  rw [inTransaction_ok_iff, unfailing_add, unfailing_one]
  constructor
  · intro given
    obtain ⟨written, same, ran, fine, rfl⟩ := given
    obtain ⟨unfailing, ⟨rows, applied⟩, reachedBoth⟩ := executeAll_ok_iff.mp ran
    obtain ⟨rfl, rfl⟩ := Prod.mk.inj reachedBoth
    rw [JobTransaction.failure, JobTransaction.wroteAll_around] at fine
    refine ⟨⟨unfailing, fine⟩, rows, applied, ?_⟩
    rw [JobTransaction.wroteAll_working applied]
    rfl
  · intro given
    obtain ⟨⟨unfailing, fine⟩, rows, applied, rfl⟩ := given
    refine ⟨_, db, executeAll_ok_iff.mpr ⟨unfailing, ⟨rows, applied⟩, rfl⟩, ?_, ?_⟩
    · rw [JobTransaction.failure, JobTransaction.wroteAll_around]
      exact fine
    · rw [JobTransaction.wroteAll_working applied]
      rfl

omit [Sha256] in
theorem executeAll_append (first second : List JobStatement) :
    InvestigationJob.executeAll (first ++ second) =
      (do InvestigationJob.executeAll first; InvestigationJob.executeAll second) := by
  induction first with
  | nil => exact (pure_bind _ _).symm
  | cons statement rest ih =>
      rw [List.cons_append, InvestigationJob.executeAll, InvestigationJob.executeAll, ih, bind_assoc]

omit [Sha256] in
/-- A single statement is a list of one. -/
theorem executeAll_one (statement : JobStatement) :
    InvestigationJob.executeAll [statement] = executeJob statement :=
  bind_pure_unit

end Statements

section Persist

variable [Sha256] {F : Type} [Scalar F] (job : InvestigationJob)

/-- The statements that store a severity under an identifier. -/
def InvestigationJob.severityStatements (id : Uuid) (result : SeverityResult F) :
    List JobStatement :=
  [.severity id job.workspaceId job.secretId result.score
      (result.factors.elim [] InvestigationJob.factorsDocument) result.explanation,
    .secretSeverity job.secretId result.score result.bucket]

/-- The statements that end an investigation. -/
def InvestigationJob.endingStatements (final : InvestigationState F) : List JobStatement :=
  [.complete job.investigationId ((final.graph.bind (·.coverage)).map
      InvestigationJob.coverageDocument),
    .audit {
      workspaceId := job.workspaceId
      actor := "system"
      action := "investigation.complete"
      targetType := some "investigation"
      targetId := some job.investigationId
      after := some (("status", .str "complete") ::
        InvestigationJob.severityFields final.severity) }]

/-- The statements of the persisting transaction. -/
def InvestigationJob.persisted (final : InvestigationState F) (id : Uuid) : List JobStatement :=
  final.graph.elim [] job.graphStatements ++ final.severity.elim [] (job.severityStatements id) ++
    job.endingStatements final

/-- The identifier that the transaction draws next. -/
def JobTransaction.nextId (transaction : JobTransaction) : Uuid := transaction.around.uuids.headD 0

/-- The transaction after it has drawn the identifier of a severity. -/
def JobTransaction.drew (transaction : JobTransaction) : Option (SeverityResult F) → JobTransaction
  | none => transaction
  | some _ =>
      { transaction with
        around := { transaction.around with uuids := transaction.around.uuids.tail } }

section Drew

omit [Sha256] [Scalar F]

theorem JobTransaction.drew_failures (transaction : JobTransaction)
    (severity : Option (SeverityResult F)) :
    (transaction.drew severity).around.failures = transaction.around.failures := by
  cases severity <;> rfl

theorem JobTransaction.drew_startedAt (transaction : JobTransaction)
    (severity : Option (SeverityResult F)) :
    (transaction.drew severity).startedAt = transaction.startedAt := by
  cases severity <;> rfl

end Drew

omit [Scalar F] in
theorem JobTransaction.drew_working (transaction : JobTransaction)
    (severity : Option (SeverityResult F)) (db : Database) :
    (transaction.drew severity).working db = transaction.working db := by
  cases severity <;> rfl

/-- The rest of the persisting transaction, after its graph. -/
theorem storeSeverity_runOn {severity : Option (SeverityResult F)} {ending : List JobStatement}
    {transaction : JobTransaction} {db : Database} :
    (do job.storeSeverity? severity; InvestigationJob.executeAll ending : JobHandler Unit).runOn
      (transaction, db) =
      (InvestigationJob.executeAll
        (severity.elim [] (job.severityStatements transaction.nextId) ++ ending)).runOn
          (transaction.drew severity, db) := by
  rw [executeAll_append]
  apply Raising.run_bind_congr
  cases severity with
  | none => rfl
  | some result =>
      change (executeJob _ >>= fun _ => executeJob _).runOn _ =
        (executeJob _ >>= fun _ => InvestigationJob.executeAll [_]).runOn _
      rw [executeAll_one]
      rfl

/-- The state of the transaction after its graph, its severity and its last statements. -/
def JobTransaction.stored (transaction : JobTransaction) (graph : List JobStatement)
    (severity : Option (SeverityResult F)) (others : List JobStatement) : JobTransaction :=
  ((transaction.wroteAll graph).drew severity).wroteAll others

omit [Sha256] [Scalar F] in
theorem JobTransaction.stored_failures (transaction : JobTransaction) (graph : List JobStatement)
    (severity : Option (SeverityResult F)) (others : List JobStatement) :
    (transaction.stored graph severity others).around.failures =
      transaction.around.failures.drop (graph.length + others.length) := by
  rw [JobTransaction.stored, JobTransaction.wroteAll_around, JobTransaction.drew_failures,
    JobTransaction.wroteAll_around, List.drop_drop]

omit [Sha256] [Scalar F] in
theorem JobTransaction.stored_pending (transaction : JobTransaction) (graph : List JobStatement)
    (severity : Option (SeverityResult F)) (others : List JobStatement) :
    (transaction.stored graph severity others).pending =
      transaction.pending ++ graph ++ others := by
  have drawn : ((transaction.wroteAll graph).drew severity).pending =
      (transaction.wroteAll graph).pending := by
    cases severity <;> rfl
  rw [JobTransaction.stored, JobTransaction.wroteAll_pending, drawn,
    JobTransaction.wroteAll_pending]

omit [Scalar F] in
theorem JobTransaction.stored_working {transaction : JobTransaction} {graph : List JobStatement}
    {severity : Option (SeverityResult F)} {others : List JobStatement} {db rows : Database}
    (applied : Database.applyEach transaction.startedAt (graph ++ others) (transaction.working db) =
      .ok rows) :
    (transaction.stored graph severity others).working db = rows := by
  obtain ⟨middle, graphed, later⟩ := Database.applyEach_append_ok.mp applied
  apply JobTransaction.wroteAll_working
  rw [JobTransaction.drew_startedAt, JobTransaction.wroteAll_startedAt,
    JobTransaction.drew_working, JobTransaction.wroteAll_working graphed]
  exact later

/-- The graph, the severity and the last statements run in turn. -/
theorem storing_ok_iff {graph ending : List JobStatement} {severity : Option (SeverityResult F)}
    {transaction : JobTransaction} {db : Database} {reached : JobTransaction × Database} :
    (do
      InvestigationJob.executeAll graph
      job.storeSeverity? severity
      InvestigationJob.executeAll ending : JobHandler Unit).runOn (transaction, db) =
        (.ok (), reached) ↔
      let others := severity.elim [] (job.severityStatements transaction.nextId) ++ ending
      Unfailing (graph.length + others.length) transaction.around.failures ∧
        (∃ rows, Database.applyEach transaction.startedAt (graph ++ others)
          (transaction.working db) = .ok rows) ∧
        reached = (transaction.stored graph severity others, db) := by
  dsimp only
  have sameId : (transaction.wroteAll graph).nextId = transaction.nextId := by
    rw [JobTransaction.nextId, JobTransaction.wroteAll_around, JobTransaction.nextId]
  have rest : ∀ rows, Database.applyEach transaction.startedAt graph (transaction.working db) =
      .ok rows →
      ((do job.storeSeverity? severity; InvestigationJob.executeAll ending : JobHandler Unit).runOn
        (transaction.wroteAll graph, db) = (.ok (), reached) ↔
        Unfailing (severity.elim [] (job.severityStatements transaction.nextId) ++ ending).length
          (transaction.around.failures.drop graph.length) ∧
        (∃ last, Database.applyEach transaction.startedAt
          (severity.elim [] (job.severityStatements transaction.nextId) ++ ending) rows = .ok last) ∧
        reached = (transaction.stored graph severity
          (severity.elim [] (job.severityStatements transaction.nextId) ++ ending), db)) := by
    intro rows graphed
    rw [storeSeverity_runOn, executeAll_ok_iff, sameId, JobTransaction.drew_failures,
      JobTransaction.wroteAll_around, JobTransaction.drew_startedAt,
      JobTransaction.wroteAll_startedAt, JobTransaction.drew_working,
      JobTransaction.wroteAll_working graphed, JobTransaction.stored]
  rw [unfailing_add]
  constructor
  · intro given
    obtain ⟨_, middle, first, second⟩ := (Raising.run_bind_ok_iff _).mp given
    obtain ⟨unfailing, ⟨rows, graphed⟩, rfl⟩ := executeAll_ok_iff.mp first
    obtain ⟨later, ⟨last, applied⟩, same⟩ := (rest rows graphed).mp second
    exact ⟨⟨unfailing, later⟩,
      ⟨last, Database.applyEach_append_ok.mpr ⟨rows, graphed, applied⟩⟩, same⟩
  · intro given
    obtain ⟨⟨unfailing, later⟩, ⟨last, applied⟩, same⟩ := given
    obtain ⟨rows, graphed, others⟩ := Database.applyEach_append_ok.mp applied
    exact (Raising.run_bind_ok_iff _).mpr ⟨(), _, executeAll_ok_iff.mpr
      ⟨unfailing, ⟨rows, graphed⟩, rfl⟩, (rest rows graphed).mpr ⟨later, ⟨last, others⟩, same⟩⟩

omit [Sha256] in
theorem persist_eq (final : InvestigationState F) :
    job.persist final = inTransaction (do
      InvestigationJob.executeAll (final.graph.elim [] job.graphStatements)
      job.storeSeverity? final.severity
      InvestigationJob.executeAll (job.endingStatements final)) := by
  rw [InvestigationJob.endingStatements, InvestigationJob.executeAll, executeAll_one]
  rfl

/-- The persisting transaction runs its statements in turn. -/
theorem persist_ok_iff {final : InvestigationState F} {transaction : JobTransaction}
    {db rows : Database} :
    (∃ after, (job.persist final).runOn (transaction, db) = (.ok (), after, rows)) ↔
      Unfailing ((job.persisted final transaction.nextId).length + 1)
          transaction.around.failures ∧
        Database.applyEach db.clock (job.persisted final transaction.nextId) db = .ok rows := by
  rw [persist_eq, unfailing_add, unfailing_one, InvestigationJob.persisted, List.append_assoc,
    List.length_append]
  constructor
  · intro given
    obtain ⟨after, through⟩ := given
    obtain ⟨written, same, ran, fine, both⟩ := inTransaction_ok_iff.mp through
    obtain ⟨unfailing, ⟨last, applied⟩, stored⟩ := (storing_ok_iff job).mp ran
    obtain ⟨rfl, rows_eq⟩ := Prod.mk.inj stored
    rw [rows_eq, JobTransaction.stored_working applied] at both
    rw [JobTransaction.failure, JobTransaction.stored_failures] at fine
    refine ⟨⟨unfailing, fine⟩, ?_⟩
    rw [(Prod.mk.inj both).2]
    exact applied
  · intro given
    obtain ⟨⟨unfailing, fine⟩, applied⟩ := given
    let stored := (transaction.begun db).stored (final.graph.elim [] job.graphStatements)
      final.severity (final.severity.elim [] (job.severityStatements transaction.nextId) ++
        job.endingStatements final)
    have fits : stored.failure = none := by
      rw [JobTransaction.failure, JobTransaction.stored_failures]
      exact fine
    have same : stored.working db = rows := JobTransaction.stored_working applied
    have ran : (do
        InvestigationJob.executeAll (final.graph.elim [] job.graphStatements)
        job.storeSeverity? final.severity
        InvestigationJob.executeAll (job.endingStatements final) : JobHandler Unit).runOn
          (transaction.begun db, db) = (.ok (), stored, db) :=
      (storing_ok_iff job).mpr ⟨unfailing, ⟨rows, applied⟩, rfl⟩
    refine ⟨stored.met.ended, inTransaction_ok_iff.mpr ⟨stored, db, ran, fits, ?_⟩⟩
    rw [same]

end Persist

section Attempt

variable [Sha256] {F : Type} [Scalar F] (job : InvestigationJob)

/-- The first run of the graph that does not raise, among the two that the job makes. -/
def usedRun : List (Except String NodeCalls) → Option NodeCalls
  | .ok calls :: _ => some calls
  | .error _ :: .ok calls :: _ => some calls
  | _ => none

/-- The transaction after the runs of the graph. -/
def JobTransaction.invoked (transaction : JobTransaction) : JobTransaction :=
  let runs := transaction.around.graphRuns
  { transaction with
    around := { transaction.around with
      graphRuns := match runs with
        | .ok _ :: rest => rest
        | runs => runs.tail.tail } }

section Invoke

variable {state : InvestigationState F} {transaction : JobTransaction} {db : Database}

/-- One of the two runs of the graph is enough. -/
theorem invokeGraph_used {calls : NodeCalls}
    (used : usedRun transaction.around.graphRuns = some calls) :
    (InvestigationJob.invokeGraph state).runOn (transaction, db) =
      (.ok (runGraph calls state), transaction.invoked, db) := by
  rcases transaction with ⟨pending, startedAt, ⟨failures, violation, trace, runs, uuids⟩⟩
  rcases runs with _ | ⟨raised | first, _ | ⟨again | second, rest⟩⟩ <;> cases used <;> rfl

/-- Without such a run the invocation raises. -/
theorem invokeGraph_raises (unused : usedRun transaction.around.graphRuns = none) :
    ∃ raised after, (InvestigationJob.invokeGraph state).runOn (transaction, db) =
      (.error raised, after) := by
  rcases transaction with ⟨pending, startedAt, ⟨failures, violation, trace, runs, uuids⟩⟩
  rcases runs with _ | ⟨raised | first, _ | ⟨again | second, rest⟩⟩ <;> cases unused <;>
    exact ⟨_, _, rfl⟩

theorem invokeGraph_ok_iff {final : InvestigationState F} {reached : JobTransaction × Database} :
    (InvestigationJob.invokeGraph state).runOn (transaction, db) = (.ok final, reached) ↔
      (∃ calls, usedRun transaction.around.graphRuns = some calls ∧ runGraph calls state = final) ∧
        reached = (transaction.invoked, db) := by
  cases used : usedRun transaction.around.graphRuns with
  | none =>
      obtain ⟨raised, after, ran⟩ : ∃ raised after,
          (InvestigationJob.invokeGraph state).runOn (transaction, db) = (.error raised, after) :=
        invokeGraph_raises used
      rw [ran]
      constructor
      · intro returned
        cases returned
      · intro given
        obtain ⟨⟨_, returned, _⟩, _⟩ := given
        cases returned
  | some calls =>
      rw [invokeGraph_used used]
      constructor
      · intro returned
        cases returned
        exact ⟨⟨calls, rfl, rfl⟩, rfl⟩
      · intro given
        obtain ⟨⟨_, same, rfl⟩, rfl⟩ := given
        cases same
        rfl

end Invoke

theorem publishAll_runOn (events : List Document) (state : JobTransaction × Database) :
    (job.publishAll events).runOn state = (.ok (), state) := by
  induction events with
  | nil => rfl
  | cons event rest ih => exact ih

/-- The statements of the transactions before the graph runs. -/
def InvestigationJob.openingStatements (trace : Option String) : List JobStatement :=
  .markRunning job.investigationId job.workspaceId ::
    trace.elim [] fun traceId => [.traceId job.investigationId traceId]

/-- The transaction before the graph runs. -/
def InvestigationJob.opened (transaction : JobTransaction) (db : Database) (trace : Option String) :
    JobTransaction :=
  let marked := transaction.ran db [.markRunning job.investigationId job.workspaceId]
  trace.elim marked fun traceId => marked.ran db [.traceId job.investigationId traceId]

theorem one_ok_iff {statement : JobStatement} {transaction : JobTransaction} {db : Database}
    {reached : JobTransaction × Database} :
    (inTransaction (executeJob statement)).runOn (transaction, db) = (.ok (), reached) ↔
      Unfailing 2 transaction.around.failures ∧
        ∃ rows, db.jobApply db.clock statement = .ok rows ∧
          reached = (transaction.ran db [statement], rows) := by
  rw [← executeAll_one, transaction_ok_iff, Database.applyEach_one]
  rfl

/-- The transactions before the graph runs are through when nothing fails and no constraint refuses
their statements. -/
theorem opening_ok_iff {transaction : JobTransaction} {db : Database} {trace : Option String}
    {reached : JobTransaction × Database} :
    (do job.markRunning; job.storeTrace trace : JobHandler Unit).runOn (transaction, db) =
      (.ok (), reached) ↔
      Unfailing (2 * (job.openingStatements trace).length) transaction.around.failures ∧
        ∃ rows, Database.applyEach db.clock (job.openingStatements trace) db = .ok rows ∧
          reached = (job.opened transaction db trace, rows) := by
  cases trace with
  | none =>
      have alone : (do job.markRunning; job.storeTrace none : JobHandler Unit) = job.markRunning :=
        bind_pure_unit
      have single : Database.applyEach db.clock (job.openingStatements none) db =
          db.jobApply db.clock (.markRunning job.investigationId job.workspaceId) :=
        Database.applyEach_one
      rw [alone, single]
      exact one_ok_iff
  | some traceId =>
      have both : job.openingStatements (some traceId) =
          [.markRunning job.investigationId job.workspaceId] ++
            [.traceId job.investigationId traceId] := rfl
      rw [JobHandler.runOn, Raising.run_bind_ok_iff]
      have around := JobTransaction.ran_around transaction db
        [.markRunning job.investigationId job.workspaceId]
      constructor
      · intro given
        obtain ⟨_, middle, first, second⟩ := given
        obtain ⟨unfailing, marked, applied, rfl⟩ := one_ok_iff.mp first
        obtain ⟨later, rows, traced, rfl⟩ := one_ok_iff.mp second
        have sameClock : marked.clock = db.clock := Database.jobApply_clock applied
        rw [around] at later
        rw [sameClock] at traced
        refine ⟨unfailing_add.mpr ⟨unfailing, later⟩, rows, ?_, ?_⟩
        · rw [both, Database.applyEach_append_ok]
          exact ⟨marked, Database.applyEach_one.trans applied, Database.applyEach_one.trans traced⟩
        · rw [JobTransaction.ran_clock _ _ sameClock]
          rfl
      · intro given
        obtain ⟨unfailing, rows, applied, rfl⟩ := given
        obtain ⟨first, later⟩ := unfailing_add.mp unfailing
        rw [both, Database.applyEach_append_ok] at applied
        obtain ⟨marked, running, traced⟩ := applied
        rw [Database.applyEach_one] at running traced
        have sameClock : marked.clock = db.clock := Database.jobApply_clock running
        refine ⟨(), _, one_ok_iff.mpr ⟨first, marked, running, rfl⟩,
          one_ok_iff.mpr ⟨?_, rows, ?_, ?_⟩⟩
        · rw [around]
          exact later
        · rw [sameClock]
          exact traced
        · rw [JobTransaction.ran_clock _ _ sameClock]
          rfl

/-- The part of the job behind its trace. -/
def InvestigationJob.afterTrace (F : Type) [Scalar F] (traceId : Option String) :
    JobHandler Json := do
  let final ← InvestigationJob.invokeGraph (F := F) (job.initialState traceId)
  job.publishAll final.events
  job.persist final
  issueJob (.publish job.workspaceId "investigation.complete"
    (job.idFields ++ InvestigationJob.severityFields final.severity))
  return .obj (job.investigationField ++ InvestigationJob.severityFields final.severity)

theorem afterTrace_ok_iff {traceId : Option String} {transaction : JobTransaction}
    {db rows : Database} :
    (∃ value after, (job.afterTrace F traceId).runOn (transaction, db) = (.ok value, after, rows)) ↔
      ∃ calls, usedRun transaction.around.graphRuns = some calls ∧
        ∃ after, (job.persist (runGraph (F := F) calls (job.initialState traceId))).runOn
          (transaction.invoked, db) = (.ok (), after, rows) := by
  constructor
  · intro given
    obtain ⟨value, after, ran⟩ := given
    obtain ⟨final, middle, invoked, later⟩ := (Raising.run_bind_ok_iff _).mp ran
    obtain ⟨⟨calls, used, rfl⟩, rfl⟩ := invokeGraph_ok_iff.mp invoked
    rw [Raising.run_bind_ok _ (publishAll_runOn job _ _)] at later
    obtain ⟨_, ⟨stored, same⟩, persisted, last⟩ := (Raising.run_bind_ok_iff _).mp later
    cases last
    exact ⟨calls, used, after, persisted⟩
  · intro given
    obtain ⟨calls, used, after, persisted⟩ := given
    have invoked : (InvestigationJob.invokeGraph (F := F) (job.initialState traceId)).runOn
        (transaction, db) = (.ok (runGraph calls (job.initialState traceId)),
          transaction.invoked, db) :=
      invokeGraph_ok_iff.mpr ⟨⟨calls, used, rfl⟩, rfl⟩
    let final : InvestigationState F := runGraph calls (job.initialState traceId)
    refine ⟨.obj (job.investigationField ++ InvestigationJob.severityFields final.severity), after,
      (Raising.run_bind_ok_iff _).mpr ⟨final, _, invoked, ?_⟩⟩
    rw [Raising.run_bind_ok _ (publishAll_runOn job _ _), Raising.run_bind_ok _ persisted]
    rfl

/-- The job publishes and asks for a trace between its first two transactions. -/
theorem attempt_split {value : Json} {transaction : JobTransaction} {db : Database}
    {reached : JobTransaction × Database} :
    (job.attempt F).runOn (transaction, db) = (.ok value, reached) ↔
      ∃ middle, (do job.markRunning; job.storeTrace (whereTrue transaction.around.trace) :
          JobHandler Unit).runOn (transaction, db) = (.ok (), middle) ∧
        (job.afterTrace F transaction.around.trace).runOn middle = (.ok value, reached) := by
  have sameTrace : ∀ marked, job.markRunning.runOn (transaction, db) = (.ok (), marked) →
      marked.1.around.trace = transaction.around.trace := by
    intro marked ran
    obtain ⟨_, rows, _, rfl⟩ := one_ok_iff.mp ran
    rw [JobTransaction.ran_around]
  constructor
  · intro given
    obtain ⟨_, marked, first, others⟩ := (Raising.run_bind_ok_iff _).mp given
    change (job.storeTrace (whereTrue marked.1.around.trace) >>= fun _ =>
      job.afterTrace F marked.1.around.trace).runOn marked = _ at others
    rw [sameTrace marked first] at others
    obtain ⟨_, middle, traced, later⟩ := (Raising.run_bind_ok_iff _).mp others
    exact ⟨middle, (Raising.run_bind_ok_iff _).mpr ⟨(), marked, first, traced⟩, later⟩
  · intro given
    obtain ⟨middle, opened, later⟩ := given
    obtain ⟨_, marked, first, traced⟩ := (Raising.run_bind_ok_iff _).mp opened
    refine (Raising.run_bind_ok_iff _).mpr ⟨(), marked, first, ?_⟩
    change (job.storeTrace (whereTrue marked.1.around.trace) >>= fun _ =>
      job.afterTrace F marked.1.around.trace).runOn marked = _
    rw [sameTrace marked first]
    exact (Raising.run_bind_ok_iff _).mpr ⟨(), middle, traced, later⟩

omit [Sha256] in
theorem opened_around (transaction : JobTransaction) (db : Database) (trace : Option String) :
    (job.opened transaction db trace).around = { transaction.around with
      failures := transaction.around.failures.drop (2 * (job.openingStatements trace).length) } := by
  cases trace with
  | none => exact JobTransaction.ran_around _ _ _
  | some traceId =>
      rw [InvestigationJob.opened]
      change (JobTransaction.ran _ db _).around = _
      rw [JobTransaction.ran_around, JobTransaction.ran_around, List.drop_drop]
      rfl

/-- The `try` block is through when nothing fails, a run of the graph does not raise, and no
constraint refuses a statement. -/
theorem attempt_ok_iff {transaction : JobTransaction} {db rows : Database} :
    (∃ value after, (job.attempt F).runOn (transaction, db) = (.ok value, after, rows)) ↔
      ∃ calls, usedRun transaction.around.graphRuns = some calls ∧
        let opening := job.openingStatements (whereTrue transaction.around.trace)
        let persisted := job.persisted
          (runGraph (F := F) calls (job.initialState transaction.around.trace)) transaction.nextId
        Unfailing (2 * opening.length + (persisted.length + 1)) transaction.around.failures ∧
          Database.applyEach db.clock (opening ++ persisted) db = .ok rows := by
  have later : ∀ opened, opened.clock = db.clock →
      ((∃ value after, (job.afterTrace F transaction.around.trace).runOn
          (job.opened transaction db (whereTrue transaction.around.trace), opened) =
            (.ok value, after, rows)) ↔
        ∃ calls, usedRun transaction.around.graphRuns = some calls ∧
          let persisted := job.persisted
            (runGraph (F := F) calls (job.initialState transaction.around.trace)) transaction.nextId
          Unfailing (persisted.length + 1) (transaction.around.failures.drop
              (2 * (job.openingStatements (whereTrue transaction.around.trace)).length)) ∧
            Database.applyEach db.clock persisted opened = .ok rows) := by
    intro opened sameClock
    have around := opened_around job transaction db (whereTrue transaction.around.trace)
    rw [afterTrace_ok_iff, around]
    apply exists_congr
    intro calls
    rw [persist_ok_iff, sameClock, JobTransaction.nextId, JobTransaction.invoked, around]
    rfl
  simp only [attempt_split, Database.applyEach_append_ok, unfailing_add]
  constructor
  · intro given
    obtain ⟨value, after, middle, opened, ran⟩ := given
    obtain ⟨first, rows, applied, rfl⟩ := (opening_ok_iff job).mp opened
    obtain ⟨calls, used, second, persisted⟩ :=
      (later rows (Database.applyEach_clock applied)).mp ⟨value, after, ran⟩
    exact ⟨calls, used, ⟨first, unfailing_add.mp second⟩, rows, applied, persisted⟩
  · intro given
    obtain ⟨calls, used, ⟨first, second⟩, opened, applied, persisted⟩ := given
    obtain ⟨value, after, ran⟩ := (later opened (Database.applyEach_clock applied)).mpr
      ⟨calls, used, unfailing_add.mpr second, persisted⟩
    exact ⟨value, after, _, (opening_ok_iff job).mpr ⟨first, opened, applied, rfl⟩, ran⟩

end Attempt

end Sprawl
