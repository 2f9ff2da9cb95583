/-
This file proves which statements a run of the `investigate_secret` job commits.
-/

import Sprawl.Proof.JobRun

namespace Sprawl

open Effect

variable [Sha256] {α : Type}

section Quiet

/-- The command does not commit. -/
def Uncommitting : JobCommand → Prop
  | .commit => False
  | _ => True

omit [Sha256] in
/-- Only a commit commits, and what it commits was pending. -/
theorem committed_eq_some {moment : Moment JobCommand JobCommand.Reply (JobTransaction × Database)}
    {statements : List JobStatement} (commits : committed moment = some statements) :
    moment.issued = .commit ∧ statements = moment.state.1.pending := by
  obtain ⟨state, issued, reply⟩ := moment
  cases issued with
  | commit =>
      cases reply with
      | ok value => exact ⟨rfl, (Option.some.inj commits).symm⟩
      | error raised => cases commits
  | _ => cases commits

theorem answer_uncommitting {issued : JobCommand} {state : JobTransaction × Database}
    (uncommitting : Uncommitting issued) : (JobTransaction.answer issued state).2.2 = state.2 := by
  obtain ⟨transaction, db⟩ := state
  cases issued with
  | commit => cases uncommitting
  | execute statement =>
      rw [JobTransaction.answer]
      split
      · rfl
      · split <;> rfl
  | _ => rfl

/-- A program without a commit leaves the committed rows as they are. -/
theorem uncommitting_run {program : JobProgram α} (uncommitting : Program.Issues Uncommitting program)
    (state : JobTransaction × Database) :
    (Program.run JobTransaction.answer program state).2.2 = state.2 ∧
      (Program.trace JobTransaction.answer program state).filterMap committed = [] := by
  constructor
  · induction program generalizing state with
    | pure value => rfl
    | command issued rest ih =>
        exact (ih _ (uncommitting.2 _) _).trans (answer_uncommitting uncommitting.1)
  · rw [List.filterMap_eq_nil_iff]
    intro moment inside
    have quiet := Program.issues_trace JobTransaction.answer uncommitting state moment inside
    cases commits : committed moment with
    | none => rfl
    | some statements =>
        rw [(committed_eq_some commits).1] at quiet
        cases quiet

end Quiet

section Sequence

variable {β : Type} {program : JobHandler α} {next : α → JobHandler β}
  {state reached : JobTransaction × Database} {value : α} {raised : String}

theorem commits_bind_ok (ran : program.runOn state = (.ok value, reached)) :
    (program >>= next).commits state = program.commits state ++ (next value).commits reached :=
  (congrArg (List.filterMap committed) (Raising.trace_bind_ok _ ran)).trans List.filterMap_append

theorem commits_bind_error (ran : program.runOn state = (.error raised, reached)) :
    (program >>= next).commits state = program.commits state :=
  congrArg (List.filterMap committed) (Raising.trace_bind_error _ ran)

theorem commits_catch_ok {handle : String → JobHandler α}
    (ran : program.runOn state = (.ok value, reached)) :
    JobHandler.commits (tryCatch program handle) state = program.commits state :=
  congrArg (List.filterMap committed) (Raising.trace_catch_ok _ ran)

theorem commits_catch_error {handle : String → JobHandler α}
    (ran : program.runOn state = (.error raised, reached)) :
    JobHandler.commits (tryCatch program handle) state =
      program.commits state ++ (handle raised).commits reached :=
  (congrArg (List.filterMap committed) (Raising.trace_catch_error _ ran)).trans
    List.filterMap_append

end Sequence

section Transaction

variable {body : JobHandler Unit} {state reached : JobTransaction × Database} {raised : String}

/-- A commit that raises stores nothing. -/
theorem commit_error
    (ran : (issueJob .commit >>= raiseJob).runOn state = (.error raised, reached)) :
    reached.2 = state.2 ∧ (issueJob .commit >>= raiseJob).commits state = [] := by
  obtain ⟨transaction, db⟩ := state
  change JobTransaction.answer .commit (transaction, db) = _ at ran
  change _ ∧ [Moment.mk (transaction, db) .commit
    (JobTransaction.answer .commit (transaction, db)).1].filterMap committed = []
  rw [ran]
  rw [JobTransaction.answer] at ran
  split at ran
  · cases ran
    exact ⟨rfl, rfl⟩
  · cases ran

/-- What an `async with` block does before its end, with its commit. -/
theorem block_error (quiet : Raising.Issues Uncommitting body)
    (ran : (do body; raiseJob (← issueJob .commit)).runOn state = (.error raised, reached)) :
    reached.2 = state.2 ∧
      (do body; raiseJob (← issueJob .commit) : JobHandler Unit).commits state = [] := by
  obtain ⟨unchanged, nothing⟩ := uncommitting_run quiet state
  rcases outcome : body.runOn state with ⟨first | ⟨⟩, middle⟩
  · have same := (Raising.run_bind_error _ outcome).symm.trans ran
    rw [commits_bind_error outcome]
    cases same
    rw [JobHandler.runOn, Raising.run] at outcome
    rw [outcome] at unchanged
    exact ⟨unchanged, nothing⟩
  · have later := (Raising.run_bind_ok _ outcome).symm.trans ran
    obtain ⟨kept, noCommit⟩ := commit_error later
    rw [JobHandler.runOn, Raising.run] at outcome
    rw [outcome] at unchanged
    rw [commits_bind_ok outcome, noCommit, List.append_nil]
    exact ⟨kept.trans unchanged, nothing⟩

/-- A transaction that raises has stored nothing. -/
theorem inTransaction_error (quiet : Raising.Issues Uncommitting body)
    (ran : (inTransaction body).runOn state = (.error raised, reached)) :
    reached.2 = state.2 ∧ reached.1.pending = [] ∧ (inTransaction body).commits state = [] := by
  obtain ⟨transaction, db⟩ := state
  let begun := (transaction.begun db, db)
  rcases outcome : (do body; raiseJob (← issueJob .commit)).runOn begun with ⟨first | ⟨⟩, middle⟩
  · obtain ⟨kept, nothing⟩ := block_error quiet outcome
    have caught : JobHandler.commits (tryCatch (do body; raiseJob (← issueJob .commit))
        fun raised => do issueJob .rollback; throw raised) begun = [] := by
      rw [commits_catch_error outcome, nothing]
      rfl
    have opened : (issueJob .begin).runOn (transaction, db) = (.ok (), begun) := rfl
    have commits : (inTransaction body).commits (transaction, db) = [] ++ [] :=
      (commits_bind_ok opened).trans (congrArg _ caught)
    have same : (issueJob .rollback >>= fun _ => throw first : JobHandler Unit).runOn middle =
        (.error raised, reached) := (Raising.run_catch_error _ outcome).symm.trans ran
    cases same
    exact ⟨kept, rfl, commits⟩
  · have same := (Raising.run_catch_ok _ outcome).symm.trans ran
    cases same

/-- A transaction that is through commits what its body left pending. -/
theorem inTransaction_ok_commits {transaction written : JobTransaction} {db rows : Database}
    (ran : body.runOn (transaction.begun db, db) = (.ok (), written, rows))
    (fine : written.failure = none) :
    written.pending ∈ (inTransaction body).commits (transaction, db) := by
  have through : (do body; raiseJob (← issueJob .commit)).runOn (transaction.begun db, db) =
      (.ok (), written.met.ended, written.working rows) :=
    (Raising.run_bind_ok _ ran).trans (commit_ok_iff.mpr ⟨fine, rfl⟩)
  have opened : (issueJob .begin).runOn (transaction, db) =
      (.ok (), transaction.begun db, db) := rfl
  have commits : (inTransaction body).commits (transaction, db) = [] ++
      (do body; raiseJob (← issueJob .commit) : JobHandler Unit).commits
        (transaction.begun db, db) :=
    (commits_bind_ok opened).trans (congrArg _ (commits_catch_ok through))
  rw [commits, commits_bind_ok ran]
  apply List.mem_append_right
  apply List.mem_append_right
  change _ ∈ [Moment.mk (written, rows) .commit
    (JobTransaction.answer .commit (written, rows)).1].filterMap committed
  rw [JobTransaction.answer, fine]
  exact List.mem_singleton.mpr rfl

end Transaction

section Kinds

/-- The command executes only statements of this kind. -/
def ExecutesOnly (kind : JobStatement → Prop) : JobCommand → Prop
  | .execute statement => kind statement
  | _ => True

variable {kind : JobStatement → Prop}

/-- The pending statements of a transaction are ones that the run has executed. -/
theorem answer_kind {issued : JobCommand} {state : JobTransaction × Database}
    (executes : ExecutesOnly kind issued) (pending : ∀ statement ∈ state.1.pending, kind statement) :
    (∀ statement ∈ (JobTransaction.answer issued state).2.1.pending, kind statement) ∧
      ((JobTransaction.answer issued state).2.2 = state.2 ∨
        (JobTransaction.answer issued state).2.2 = state.1.working state.2) := by
  obtain ⟨transaction, db⟩ := state
  cases issued with
  | execute statement =>
      rw [JobTransaction.answer]
      split
      · exact ⟨pending, Or.inl rfl⟩
      · split
        · refine ⟨?_, Or.inl rfl⟩
          intro other inside
          obtain before | same := List.mem_append.mp inside
          · exact pending other before
          · rw [List.mem_singleton.mp same]
            exact executes
        · exact ⟨pending, Or.inl rfl⟩
  | commit =>
      rw [JobTransaction.answer]
      split
      · exact ⟨pending, Or.inl rfl⟩
      · exact ⟨fun _ inside => absurd inside List.not_mem_nil, Or.inr rfl⟩
  | begin => exact ⟨fun _ inside => absurd inside List.not_mem_nil, Or.inl rfl⟩
  | rollback => exact ⟨fun _ inside => absurd inside List.not_mem_nil, Or.inl rfl⟩
  | publish workspaceId eventType payload => exact ⟨pending, Or.inl rfl⟩
  | initTrace => exact ⟨pending, Or.inl rfl⟩
  | invoke checkpointed => exact ⟨pending, Or.inl rfl⟩
  | uuid4 => exact ⟨pending, Or.inl rfl⟩

variable {program : JobProgram α} {state : JobTransaction × Database}

/-- A program that executes only statements of a kind commits only such statements. -/
theorem kind_run (executes : Program.Issues (ExecutesOnly kind) program)
    (pending : ∀ statement ∈ state.1.pending, kind statement) :
    (∀ statement ∈ (Program.run JobTransaction.answer program state).2.1.pending, kind statement) ∧
      ∀ statements ∈ (Program.trace JobTransaction.answer program state).filterMap committed,
        ∀ statement ∈ statements, kind statement := by
  induction program generalizing state with
  | pure value => exact ⟨pending, fun _ inside => absurd inside List.not_mem_nil⟩
  | command issued rest ih =>
      obtain ⟨later, others⟩ := ih _ (executes.2 _) (answer_kind executes.1 pending).1
      refine ⟨later, ?_⟩
      intro statements inside
      rw [Program.trace_command, List.mem_filterMap] at inside
      obtain ⟨moment, among, commits⟩ := inside
      obtain rfl | after := List.mem_cons.mp among
      · rw [(committed_eq_some commits).2]
        exact pending
      · exact others statements (List.mem_filterMap.mpr ⟨moment, after, commits⟩)

/-- A view that no statement of the kind changes is the same after the program. -/
theorem kind_keeps {β : Type} (view : Database → β)
    (keeps : ∀ statement, kind statement → ∀ now rows,
      view (Database.performed now rows statement) = view rows)
    (executes : Program.Issues (ExecutesOnly kind) program)
    (pending : ∀ statement ∈ state.1.pending, kind statement) :
    view (Program.run JobTransaction.answer program state).2.2 = view state.2 := by
  induction program generalizing state with
  | pure value => rfl
  | command issued rest ih =>
      obtain ⟨later, same | same⟩ := answer_kind executes.1 pending
      · exact (ih _ (executes.2 _) later).trans (congrArg view same)
      · refine ((ih _ (executes.2 _) later).trans (congrArg view same)).trans ?_
        exact Database.applyAll_keeps view fun statement inside rows =>
          keeps statement (pending statement inside) _ rows

end Kinds

section Footprint

omit [Sha256]

variable {allowed : JobCommand → Prop}

theorem issues_issueJob {issued : JobCommand} (isAllowed : allowed issued) :
    Raising.Issues allowed (issueJob issued) :=
  Raising.issues_perform isAllowed

theorem issues_raiseJob (reply : Except String α) : Raising.Issues allowed (raiseJob reply) := trivial

theorem issues_executeJob {statement : JobStatement} (isAllowed : allowed (.execute statement)) :
    Raising.Issues allowed (executeJob statement) :=
  Raising.issues_bind (issues_issueJob isAllowed) issues_raiseJob

theorem issues_executeAll {statements : List JobStatement}
    (areAllowed : ∀ statement ∈ statements, allowed (.execute statement)) :
    Raising.Issues allowed (InvestigationJob.executeAll statements) := by
  induction statements with
  | nil => trivial
  | cons statement rest ih =>
      rw [List.forall_mem_cons] at areAllowed
      exact Raising.issues_bind (issues_executeJob areAllowed.1) fun _ => ih areAllowed.2

theorem issues_inTransaction {body : JobHandler Unit} (inside : Raising.Issues allowed body)
    (begins : allowed .begin) (commits : allowed .commit) (rollsBack : allowed .rollback) :
    Raising.Issues allowed (inTransaction body) := by
  refine Raising.issues_bind (issues_issueJob begins) fun _ => Raising.issues_catch ?_ ?_
  · exact Raising.issues_bind inside fun _ =>
      Raising.issues_bind (issues_issueJob commits) issues_raiseJob
  · intro raised
    exact Raising.issues_bind (issues_issueJob rollsBack) fun _ => trivial

end Footprint

section Failed

variable {F : Type} [Scalar F] (job : InvestigationJob)

/-- The statements that a run executes outside its last transaction. -/
def Unstored : JobStatement → Prop
  | .markRunning _ _ => True
  | .traceId _ _ => True
  | .error _ => True
  | .audit _ => True
  | _ => False

/-- The part of the job before its last transaction. -/
def InvestigationJob.front (F : Type) [Scalar F] : JobHandler (InvestigationState F) := do
  job.markRunning
  issueJob (.publish job.workspaceId "investigation.started" job.idFields)
  let traceId ← issueJob .initTrace
  job.storeTrace (whereTrue traceId)
  let final ← InvestigationJob.invokeGraph (F := F) (job.initialState traceId)
  job.publishAll final.events
  return final

/-- The part of the job from its last transaction on. -/
def InvestigationJob.back (final : InvestigationState F) : JobHandler Json := do
  job.persist final
  issueJob (.publish job.workspaceId "investigation.complete"
    (job.idFields ++ InvestigationJob.severityFields final.severity))
  return .obj (job.investigationField ++ InvestigationJob.severityFields final.severity)

omit [Sha256] in
theorem attempt_eq : job.attempt F = job.front F >>= job.back := by
  simp only [InvestigationJob.attempt, InvestigationJob.front, InvestigationJob.back, bind_assoc,
    pure_bind]

omit [Sha256] in
theorem front_issues : Raising.Issues (ExecutesOnly Unstored) (job.front F) := by
  refine Raising.issues_bind (issues_inTransaction (issues_executeJob trivial) trivial trivial
    trivial) fun _ => Raising.issues_bind (issues_issueJob trivial) fun _ =>
    Raising.issues_bind (issues_issueJob trivial) fun traceId => ?_
  refine Raising.issues_bind ?_ fun _ => Raising.issues_bind ?_ fun final =>
    Raising.issues_bind ?_ fun _ => trivial
  · cases whereTrue traceId with
    | none => trivial
    | some text => exact issues_inTransaction (issues_executeJob trivial) trivial trivial trivial
  · refine Raising.issues_bind (issues_issueJob trivial) fun reply => ?_
    cases reply with
    | ok calls => trivial
    | error raised =>
        exact Raising.issues_bind (issues_issueJob trivial) fun _ =>
          Raising.issues_bind (issues_raiseJob _) fun _ => trivial
  · induction final.events with
    | nil => trivial
    | cons event rest ih => exact Raising.issues_bind (issues_issueJob trivial) fun _ => ih

omit [Sha256] in
theorem markError_issues (raised : String) :
    Raising.Issues (ExecutesOnly Unstored) (job.markError raised) := by
  refine Raising.issues_bind (Raising.issues_catch (issues_inTransaction ?_ trivial trivial trivial)
    fun _ => trivial) fun _ => issues_issueJob trivial
  exact Raising.issues_bind (issues_executeJob trivial) fun _ => issues_executeJob trivial

omit [Sha256] in
/-- The body of the last transaction has no commit in it. -/
theorem persist_issues (final : InvestigationState F) :
    Raising.Issues Uncommitting (do
      InvestigationJob.executeAll (final.graph.elim [] job.graphStatements)
      job.storeSeverity? final.severity
      InvestigationJob.executeAll (job.endingStatements final) : JobHandler Unit) := by
  refine Raising.issues_bind (issues_executeAll fun _ _ => trivial) fun _ =>
    Raising.issues_bind ?_ fun _ => issues_executeAll fun _ _ => trivial
  cases final.severity with
  | none => trivial
  | some result =>
      exact Raising.issues_bind (issues_issueJob trivial) fun _ =>
        Raising.issues_bind (issues_executeJob trivial) fun _ => issues_executeJob trivial

variable {state reached : JobTransaction × Database} {raised : String} {value : Json}

/-- A run stores only what is outside the last transaction of the job. -/
structure StoresNothing (commits : List (List JobStatement))
    (state reached : JobTransaction × Database) : Prop where
  commits : ∀ statements ∈ commits, ∀ statement ∈ statements, Unstored statement
  pending : ∀ statement ∈ reached.1.pending, Unstored statement
  keeps : ∀ {β : Type} (view : Database → β), (∀ statement, Unstored statement → ∀ now rows,
    view (Database.performed now rows statement) = view rows) → view reached.2 = view state.2

theorem StoresNothing.trans {first second : List (List JobStatement)}
    {middle : JobTransaction × Database} (before : StoresNothing first state middle)
    (after : StoresNothing second middle reached) :
    StoresNothing (first ++ second) state reached where
  commits := List.forall_mem_append.mpr ⟨before.commits, after.commits⟩
  pending := after.pending
  keeps view kept := (after.keeps view kept).trans (before.keeps view kept)

theorem storesNothing_run {program : JobHandler α}
    (executes : Raising.Issues (ExecutesOnly Unstored) program)
    (pending : ∀ statement ∈ state.1.pending, Unstored statement) :
    StoresNothing (program.commits state) state (program.runOn state).2 := by
  obtain ⟨later, commits⟩ := kind_run executes pending
  exact ⟨commits, later, fun view kept => kind_keeps view kept executes pending⟩

/-- A `try` block that raises has stored nothing of its last transaction. -/
theorem attempt_error (pending : state.1.pending = [])
    (ran : (job.attempt F).runOn state = (.error raised, reached)) :
    StoresNothing ((job.attempt F).commits state) state reached := by
  have nonePending : ∀ statement ∈ state.1.pending, Unstored statement := by
    rw [pending]
    exact fun _ inside => absurd inside List.not_mem_nil
  have before := storesNothing_run (front_issues (F := F) job) nonePending
  rw [attempt_eq] at ran ⊢
  rcases opened : (job.front F).runOn state with ⟨first | final, middle⟩
  · rw [commits_bind_error opened]
    have same := (Raising.run_bind_error _ opened).symm.trans ran
    rw [opened] at before
    cases same
    exact before
  · rw [commits_bind_ok opened]
    have later := (Raising.run_bind_ok _ opened).symm.trans ran
    rw [opened] at before
    refine before.trans ?_
    rcases persisted : (job.persist final).runOn middle with ⟨second | ⟨⟩, last⟩
    · have same := (Raising.run_bind_error _ persisted).symm.trans later
      cases same
      rw [InvestigationJob.back, commits_bind_error persisted]
      rw [persist_eq] at persisted ⊢
      obtain ⟨kept, noPending, nothing⟩ := inTransaction_error (persist_issues job final) persisted
      rw [nothing]
      refine ⟨fun _ inside => absurd inside List.not_mem_nil, ?_, fun view _ => congrArg view kept⟩
      rw [noPending]
      exact fun _ inside => absurd inside List.not_mem_nil
    · have same := (Raising.run_bind_ok _ persisted).symm.trans later
      cases same

/-- A run of the job that raises has stored nothing of the last transaction. -/
theorem investigateSecret_error (pending : state.1.pending = [])
    (ran : (job.attempt F).runOn state = (.error raised, reached)) :
    StoresNothing ((investigateSecret F job).commits state) state
      ((investigateSecret F job).runOn state).2 := by
  have before := attempt_error job pending ran
  have outcome : (investigateSecret F job).runOn state =
      (do job.markError raised; throw raised : JobHandler Json).runOn reached :=
    Raising.run_catch_error _ ran
  have commits : (investigateSecret F job).commits state = _ := commits_catch_error ran
  rw [outcome, commits]
  have executes : Raising.Issues (ExecutesOnly Unstored)
      (do job.markError raised; throw raised : JobHandler Json) :=
    Raising.issues_bind (markError_issues job raised) fun _ => trivial
  exact before.trans (storesNothing_run executes before.pending)

/-- The job returns exactly what its `try` block returns. -/
theorem investigateSecret_ok_iff :
    (investigateSecret F job).runOn state = (.ok value, reached) ↔
      (job.attempt F).runOn state = (.ok value, reached) := by
  rcases ran : (job.attempt F).runOn state with ⟨raised | first, middle⟩
  · have outcome : (investigateSecret F job).runOn state =
        (do job.markError raised; throw raised : JobHandler Json).runOn middle :=
      Raising.run_catch_error _ ran
    rw [outcome]
    constructor
    · intro returned
      obtain ⟨_, _, _, thrown⟩ := (Raising.run_bind_ok_iff _).mp returned
      cases thrown
    · intro returned
      cases returned
  · have outcome : (investigateSecret F job).runOn state = (.ok first, middle) :=
      Raising.run_catch_ok _ ran
    rw [outcome]

/-- A run of the job that returns has marked the investigation complete. -/
theorem investigateSecret_ok (ran : (job.attempt F).runOn state = (.ok value, reached)) :
    ∃ statements ∈ (investigateSecret F job).commits state, ∃ coverage,
      JobStatement.complete job.investigationId coverage ∈ statements := by
  have commits : (investigateSecret F job).commits state = (job.attempt F).commits state :=
    commits_catch_ok ran
  rw [commits]
  rw [attempt_eq] at ran ⊢
  obtain ⟨final, ⟨transaction, db⟩, opened, later⟩ := (Raising.run_bind_ok_iff _).mp ran
  obtain ⟨_, ⟨last, same⟩, persisted, _⟩ := (Raising.run_bind_ok_iff _).mp later
  rw [commits_bind_ok opened, InvestigationJob.back, commits_bind_ok persisted]
  rw [persist_eq] at persisted ⊢
  obtain ⟨written, rows, body, fine, _⟩ := inTransaction_ok_iff.mp persisted
  obtain ⟨_, _, stored⟩ := (storing_ok_iff job).mp body
  obtain ⟨rfl, rfl⟩ := Prod.mk.inj stored
  refine ⟨_, List.mem_append_right _ (List.mem_append_left _ (inTransaction_ok_commits body fine)),
    (final.graph.bind (·.coverage)).map InvestigationJob.coverageDocument, ?_⟩
  rw [JobTransaction.stored_pending]
  exact List.mem_append_right _ (List.mem_append_right _ List.mem_cons_self)

end Failed

end Sprawl
