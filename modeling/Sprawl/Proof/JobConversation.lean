/-
This file proves which statements the `investigate_secret` job has pending when it commits.
-/

import Sprawl.Effect.Conversing
import Sprawl.Investigation.Pool
import Sprawl.Proof.JobCommits
import Sprawl.Proof.Pipeline

namespace Sprawl

open Effect

/-- The statement ends an investigation. -/
def JobStatement.isTerminal : JobStatement → Bool
  | .complete _ _ => true
  | .error _ => true
  | _ => false

/-- The statement writes no severity. -/
def KeepsSeverity : JobStatement → Prop
  | .severity _ _ _ _ _ _ => False
  | .secretSeverity _ _ _ => False
  | _ => True

/-- A severity goes with the same score of the secret, and with the bucket of the score. -/
inductive Paired : List JobStatement → Prop
  | none {pending : List JobStatement} (keeps : ∀ statement ∈ pending, KeepsSeverity statement) :
      Paired pending
  | some {before after : List JobStatement} (id workspaceId secretId : Uuid) (score : Int)
      (factors : Document) (explanation : Option String)
      (first : ∀ statement ∈ before, KeepsSeverity statement)
      (last : ∀ statement ∈ after, KeepsSeverity statement) :
      Paired (before ++ [.severity id workspaceId secretId score factors explanation,
        .secretSeverity secretId score (toBucket score)] ++ after)

/-- The pending statements of a job, and whether it has ended its investigation. -/
structure JobStage where
  pending : List JobStatement
  settled : Bool

/-- A statement on an investigation is on the one of the job. -/
def InvestigationJob.Names (job : InvestigationJob) : JobStatement → Prop
  | .markRunning investigationId workspaceId =>
      investigationId = job.investigationId ∧ workspaceId = job.workspaceId
  | .traceId investigationId _ => investigationId = job.investigationId
  | .complete investigationId _ => investigationId = job.investigationId
  | .error investigationId => investigationId = job.investigationId
  | _ => True

/-- A job executes statements on its own investigation until it has ended it. -/
def jobConversation (job : InvestigationJob) :
    Conversation JobCommand JobCommand.Reply JobStage where
  allowed stage
    | .execute statement => stage.settled = false ∧ job.Names statement
    | .commit => Paired stage.pending
    | _ => True
  next stage
    | .begin, _ => { stage with pending := [] }
    | .execute statement, .ok _ => { stage with pending := stage.pending ++ [statement] }
    | .commit, .ok _ =>
        { pending := [], settled := stage.settled || stage.pending.any JobStatement.isTerminal }
    | .rollback, _ => { stage with pending := [] }
    | _, _ => stage

/-- The transaction of a job has the statements pending that its replies tell. -/
theorem answer_stage [Sha256] (job : InvestigationJob) (issued : JobCommand)
    (transaction : JobTransaction) (db : Database) (settled : Bool) :
    (JobTransaction.answer issued (transaction, db)).2.1.pending =
      ((jobConversation job).next ⟨transaction.pending, settled⟩ issued
        (JobTransaction.answer issued (transaction, db)).1).pending := by
  cases issued with
  | execute statement =>
      rw [JobTransaction.answer]
      split
      · rfl
      · split <;> rfl
  | commit =>
      rw [JobTransaction.answer]
      split <;> rfl
  | _ => rfl

section Leaves

variable {job : InvestigationJob} {stage : JobStage}

/-- An exception leaves an investigation that has not ended. -/
abbrev unsettled {α : Type} (returned : α → JobStage → Prop) : Raising.Left String α JobStage :=
  ⟨returned, fun _ left => left.settled = false⟩

theorem leaves_executeJob {statement : JobStatement} (open_ : stage.settled = false)
    (names : job.Names statement) :
    Raising.Leaves (jobConversation job)
      (unsettled fun _ left => left = { stage with pending := stage.pending ++ [statement] }) stage
      (executeJob statement) := by
  refine ⟨⟨open_, names⟩, fun reply => ?_⟩
  cases reply with
  | ok value => exact rfl
  | error raised => exact open_

theorem leaves_executeAll {statements : List JobStatement} (open_ : stage.settled = false)
    (names : ∀ statement ∈ statements, job.Names statement) :
    Raising.Leaves (jobConversation job)
      (unsettled fun _ left => left = { stage with pending := stage.pending ++ statements }) stage
      (InvestigationJob.executeAll statements) := by
  induction statements generalizing stage with
  | nil =>
      apply Raising.leaves_pure
      rw [List.append_nil]
  | cons statement rest ih =>
      rw [List.forall_mem_cons] at names
      refine Raising.leaves_bind (leaves_executeJob open_ names.1) fun _ left same => ?_
      subst same
      have others := @ih ⟨stage.pending ++ [statement], stage.settled⟩ open_ names.2
      refine others.mono (fun _ left same => ?_) fun _ _ raised => raised
      rw [same, List.append_assoc]
      rfl

/-- A transaction commits what its body leaves pending, or nothing. -/
theorem leaves_inTransaction {body : JobHandler Unit} {fits : List JobStatement → Prop}
    (open_ : stage.settled = false) (paired : ∀ pending, fits pending → Paired pending)
    (inside : Raising.Leaves (jobConversation job)
      (unsettled fun _ left => left.settled = false ∧ fits left.pending) ⟨[], false⟩ body) :
    Raising.Leaves (jobConversation job)
      (unsettled fun _ left => ∃ pending, fits pending ∧
        left = ⟨[], pending.any JobStatement.isTerminal⟩) stage (inTransaction body) := by
  have begun : Raising.Leaves (jobConversation job)
      (unsettled fun _ left => left = ⟨[], false⟩) stage (issueJob .begin) := by
    refine Raising.leaves_perform trivial fun _ => ?_
    rw [← open_]
    rfl
  refine Raising.leaves_bind begun fun _ left same => ?_
  subst same
  have block : Raising.Leaves (jobConversation job)
      (unsettled fun _ left => ∃ pending, fits pending ∧
        left = ⟨[], pending.any JobStatement.isTerminal⟩) ⟨[], false⟩
      (do body; raiseJob (← issueJob .commit)) := by
    refine Raising.leaves_bind inside fun _ left holds => ?_
    obtain ⟨stillOpen, fit⟩ := holds
    refine ⟨paired _ fit, fun reply => ?_⟩
    cases reply with
    | ok value =>
        refine ⟨left.pending, fit, ?_⟩
        change JobStage.mk [] (left.settled || _) = _
        rw [stillOpen, Bool.false_or]
    | error raised => exact stillOpen
  exact Raising.leaves_catch block fun raised left stillOpen => ⟨trivial, fun _ => stillOpen⟩

variable {F : Type} [Scalar F]

omit [Scalar F] in
/-- A transaction of one statement leaves the investigation open. -/
theorem leaves_single {statement : JobStatement} (open_ : stage.settled = false)
    (names : job.Names statement) (keeps : KeepsSeverity statement)
    (goesOn : statement.isTerminal = false) :
    Raising.Leaves (jobConversation job) (unsettled fun _ left => left = ⟨[], false⟩) stage
      (inTransaction (executeJob statement)) := by
  have inside : Raising.Leaves (jobConversation job)
      (unsettled fun _ left => left.settled = false ∧ left.pending = [statement]) ⟨[], false⟩
      (executeJob statement) := by
    refine (leaves_executeJob rfl names).mono (fun _ left same => ?_) fun _ _ raised => raised
    subst same
    exact ⟨rfl, rfl⟩
  have paired : ∀ pending, pending = [statement] → Paired pending := by
    intro pending same
    subst same
    exact .none (List.forall_mem_singleton.mpr keeps)
  refine (leaves_inTransaction open_ paired inside).mono ?_ fun _ _ raised => raised
  intro _ left given
  obtain ⟨pending, rfl, rfl⟩ := given
  rw [List.any_cons, goesOn]
  rfl

/-- The statements that store a graph insert its nodes and its edges. -/
theorem forall_graphStatements {property : JobStatement → Prop} (graph : Option BlastRadiusGraph)
    (node : ∀ row, property (.graphNode row)) (edge : ∀ row, property (.graphEdge row)) :
    ∀ statement ∈ graph.elim [] job.graphStatements, property statement := by
  cases graph with
  | none => exact fun _ inside => absurd inside List.not_mem_nil
  | some graph =>
      intro statement inside
      obtain inside | inside := List.mem_append.mp inside
      · obtain ⟨drawn, _, rfl⟩ := List.mem_map.mp inside
        exact node (job.nodeRow drawn)
      · obtain ⟨drawn, _, rfl⟩ := List.mem_map.mp inside
        exact edge (job.edgeRow drawn)

/-- The statements of the last transaction pair their severity. -/
theorem persisted_paired {final : InvestigationState F} (bucketed : final.Bucketed) (id : Uuid) :
    Paired (job.persisted final id) := by
  have graph : ∀ statement ∈ final.graph.elim [] job.graphStatements, KeepsSeverity statement :=
    forall_graphStatements final.graph (fun _ => trivial) fun _ => trivial
  have ending : ∀ statement ∈ job.endingStatements final, KeepsSeverity statement := by
    simp [InvestigationJob.endingStatements, KeepsSeverity]
  rw [InvestigationJob.persisted]
  cases scored : final.severity with
  | none =>
      refine .none fun statement inside => ?_
      rw [Option.elim_none, List.append_nil] at inside
      exact (List.mem_append.mp inside).elim (graph statement) (ending statement)
  | some result =>
      have bucket : result.bucket = toBucket result.score := bucketed result scored
      rw [Option.elim_some, InvestigationJob.severityStatements, bucket]
      exact .some _ _ _ _ _ _ graph ending

omit [Scalar F] in
theorem graph_names {graph : Option BlastRadiusGraph} :
    ∀ statement ∈ graph.elim [] job.graphStatements, job.Names statement :=
  forall_graphStatements graph (fun _ => trivial) fun _ => trivial

omit [Scalar F] in
theorem ending_names {final : InvestigationState F} :
    ∀ statement ∈ job.endingStatements final, job.Names statement := by
  simp [InvestigationJob.endingStatements, InvestigationJob.Names]

theorem leaves_storeSeverity {severity : Option (SeverityResult F)} (open_ : stage.settled = false) :
    Raising.Leaves (jobConversation job)
      (unsettled fun _ left => ∃ id, left = { stage with
        pending := stage.pending ++ severity.elim [] (job.severityStatements id) }) stage
      (job.storeSeverity? severity) := by
  cases severity with
  | none =>
      refine ⟨0, ?_⟩
      rw [Option.elim_none, List.append_nil]
  | some result =>
      have drawn : Raising.Leaves (jobConversation job) (unsettled fun _ left => left = stage) stage
          (issueJob .uuid4) := Raising.leaves_perform trivial fun _ => rfl
      refine Raising.leaves_bind drawn fun id left same => ?_
      subst same
      have names : ∀ statement ∈ job.severityStatements id result, job.Names statement := by
        simp [InvestigationJob.severityStatements, InvestigationJob.Names]
      have stored := leaves_executeAll open_ names
      rw [InvestigationJob.severityStatements, InvestigationJob.executeAll, executeAll_one] at stored
      exact stored.mono (fun _ left same => ⟨id, same⟩) fun _ _ raised => raised

theorem leaves_persist {final : InvestigationState F} (open_ : stage.settled = false)
    (bucketed : final.Bucketed) :
    Raising.Leaves (jobConversation job) (unsettled fun _ _ => True) stage (job.persist final) := by
  rw [persist_eq]
  have inside : Raising.Leaves (jobConversation job)
      (unsettled fun _ left => left.settled = false ∧ ∃ id, left.pending = job.persisted final id)
      ⟨[], false⟩ (do
        InvestigationJob.executeAll (final.graph.elim [] job.graphStatements)
        job.storeSeverity? final.severity
        InvestigationJob.executeAll (job.endingStatements final) : JobHandler Unit) := by
    refine Raising.leaves_bind (leaves_executeAll rfl graph_names) fun _ left same => ?_
    subst same
    refine Raising.leaves_bind (leaves_storeSeverity rfl) fun _ left same => ?_
    obtain ⟨id, rfl⟩ := same
    refine (leaves_executeAll rfl ending_names).mono (fun _ left same => ?_) fun _ _ raised => raised
    subst same
    exact ⟨rfl, id, rfl⟩
  have paired : ∀ pending, (∃ id, pending = job.persisted final id) → Paired pending := by
    intro pending given
    obtain ⟨id, rfl⟩ := given
    exact persisted_paired bucketed id
  exact (leaves_inTransaction open_ paired inside).mono (fun _ _ _ => trivial)
    fun _ _ raised => raised

omit [Scalar F] in
/-- A command that tells nothing about the rows leaves the stage as it is. -/
theorem leaves_still {issued : JobCommand} (allowed : (jobConversation job).allowed stage issued)
    (still : ∀ reply, (jobConversation job).next stage issued reply = stage) :
    Raising.Leaves (jobConversation job) (unsettled fun _ left => left = stage) stage
      (issueJob issued) :=
  Raising.leaves_perform allowed still

theorem leaves_invokeGraph {state : InvestigationState F} (open_ : stage.settled = false)
    (noSeverity : state.severity = none) :
    Raising.Leaves (jobConversation job)
      (unsettled fun (final : InvestigationState F) left => final.Bucketed ∧ left = stage) stage
      (InvestigationJob.invokeGraph state) := by
  refine ⟨trivial, fun reply => ?_⟩
  cases reply with
  | ok calls => exact ⟨runGraph_bucketed noSeverity, rfl⟩
  | error raised =>
      refine ⟨trivial, fun reply => ?_⟩
      cases reply with
      | ok calls => exact ⟨runGraph_bucketed noSeverity, rfl⟩
      | error raised => exact open_

omit [Scalar F] in
theorem leaves_publishAll (events : List Document) :
    Raising.Leaves (jobConversation job) (unsettled fun _ left => left = stage) stage
      (job.publishAll events) := by
  induction events with
  | nil => exact Raising.leaves_pure rfl
  | cons event rest ih => exact ⟨trivial, fun _ => ih⟩

omit [Scalar F] in
theorem leaves_storeTrace (trace : Option String) :
    Raising.Leaves (jobConversation job) (unsettled fun _ left => left = ⟨[], false⟩) ⟨[], false⟩
      (job.storeTrace trace) := by
  cases trace with
  | none => exact Raising.leaves_pure rfl
  | some traceId => exact leaves_single rfl rfl trivial rfl

/-- The job keeps its investigation open until its last transaction. -/
theorem leaves_front :
    Raising.Leaves (jobConversation job)
      (unsettled fun (final : InvestigationState F) left =>
        final.Bucketed ∧ left = ⟨[], false⟩) ⟨[], false⟩ (job.front F) := by
  have marked : Raising.Leaves (jobConversation job) (unsettled fun _ left => left = ⟨[], false⟩)
      ⟨[], false⟩ job.markRunning := leaves_single rfl ⟨rfl, rfl⟩ trivial rfl
  refine Raising.leaves_bind marked fun _ left same => ?_
  subst same
  refine Raising.leaves_bind (leaves_still trivial fun _ => rfl) fun _ left same => ?_
  subst same
  refine Raising.leaves_bind (leaves_still trivial fun _ => rfl) fun traceId left same => ?_
  subst same
  refine Raising.leaves_bind (leaves_storeTrace _) fun _ left same => ?_
  subst same
  refine Raising.leaves_bind (leaves_invokeGraph rfl rfl) fun final left given => ?_
  obtain ⟨bucketed, rfl⟩ := given
  refine Raising.leaves_bind (leaves_publishAll _) fun _ left same => ?_
  subst same
  exact Raising.leaves_pure ⟨bucketed, rfl⟩

/-- The `try` block raises only before it has ended the investigation. -/
theorem leaves_attempt :
    Raising.Leaves (jobConversation job) (unsettled fun _ _ => True) ⟨[], false⟩
      (job.attempt F) := by
  rw [attempt_eq]
  refine Raising.leaves_bind leaves_front fun final left given => ?_
  obtain ⟨bucketed, rfl⟩ := given
  refine Raising.leaves_bind (leaves_persist rfl bucketed) fun _ left _ => ?_
  exact ⟨trivial, fun _ => trivial⟩

omit [Scalar F] in
/-- A failed job ends its investigation once. -/
theorem leaves_markError (raised : String) (open_ : stage.settled = false) :
    Raising.Leaves (jobConversation job) ⟨fun _ _ => True, fun _ _ => True⟩ stage
      (job.markError raised) := by
  let fits (pending : List JobStatement) : Prop :=
    ∃ entry, pending = [.error job.investigationId, .audit entry]
  have paired : ∀ pending, fits pending → Paired pending := by
    intro pending given
    obtain ⟨entry, rfl⟩ := given
    exact .none (by simp [KeepsSeverity])
  have inside (entry : AuditEntry) : Raising.Leaves (jobConversation job)
      (unsettled fun _ left => left.settled = false ∧ fits left.pending) ⟨[], false⟩
      (do executeJob (.error job.investigationId); executeJob (.audit entry)) := by
    refine Raising.leaves_bind (leaves_executeJob rfl rfl) fun _ left same => ?_
    subst same
    have names : job.Names (.audit entry) := trivial
    refine (leaves_executeJob rfl names).mono (fun _ left same => ?_) fun _ _ raised => raised
    subst same
    exact ⟨rfl, entry, rfl⟩
  have stored (entry : AuditEntry) := leaves_inTransaction open_ paired (inside entry)
  refine Raising.leaves_bind (Raising.leaves_catch ((stored _).mono (fun _ _ _ => trivial)
    fun _ _ raised => raised) fun _ _ _ => Raising.leaves_pure trivial) fun _ _ _ => ?_
  exact Raising.leaves_perform trivial fun _ => trivial

/-- The job keeps to its conversation. -/
theorem investigateSecret_converses (F : Type) [Scalar F] (job : InvestigationJob) :
    Program.Converses (jobConversation job) ⟨[], false⟩ (investigateSecret F job).run := by
  have leaves : Raising.Leaves (jobConversation job) ⟨fun _ _ => True, fun _ _ => True⟩ ⟨[], false⟩
      (investigateSecret F job) := by
    refine Raising.leaves_catch leaves_attempt fun raised left open_ => ?_
    refine Raising.leaves_bind (leaves_markError raised open_) fun _ left _ => ?_
    exact Raising.leaves_throw trivial
  exact leaves.converses

end Leaves

end Sprawl
