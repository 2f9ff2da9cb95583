/-
This file follows a failed ingest through the pipeline and the job.
-/

import Sprawl.Proof.Isolation
import Sprawl.Proof.JobCommits
import Sprawl.Proof.Pipeline

namespace Sprawl

open Effect

section Pipeline

variable {F : Type}

/-- No call of the ingest body returns a state. -/
def IngestFails (state : InvestigationState F) (calls : NodeCalls) : Prop :=
  ∀ next, withRetry ingestBody state calls.ingest 1 0 ≠ .returned next

/-- Nothing has been found out about the secret. -/
structure Blank (state : InvestigationState F) : Prop where
  context : state.context = none
  graph : state.graph = none
  severity : state.severity = none
  routing : state.routing ≠ some .skip

variable {state : InvestigationState F} {calls : NodeCalls}

theorem Blank.appendError (blank : Blank state) (node message : String) (recoverable : Bool) :
    Blank (state.appendError node message recoverable) :=
  ⟨blank.context, blank.graph, blank.severity, blank.routing⟩

theorem Blank.ingest (blank : Blank state) (fails : IngestFails state calls) :
    Blank (ingestNode calls state) := by
  obtain returned | ⟨_, message, recoverable, same⟩ :=
    guardrail_cases 30 "ingest" 2 ingestBody calls.ingest state
  · exact absurd returned (fails _)
  · rw [ingestNode, same]
    exact blank.appendError _ _ _

theorem Blank.triage (blank : Blank state) : Blank (triageNode calls state) := by
  apply guardrail_keeps Blank
  · intro answers next _ computed
    rw [triageBody, blank.context] at computed
    cases computed
    refine ⟨rfl, blank.graph, blank.severity, ?_⟩
    intro same
    cases same
  · exact blank.appendError

theorem Blank.investigator (blank : Blank state) : Blank (investigatorNode calls state) := by
  apply guardrail_keeps Blank
  · intro answers next _ computed
    rw [investigatorBody, blank.context] at computed
    cases computed
    exact blank
  · exact blank.appendError

theorem Blank.blastRadius (blank : Blank state) : Blank (blastRadiusNode calls state) := by
  apply guardrail_keeps Blank
  · intro answers next _ computed
    rw [blastRadiusBody, blank.context] at computed
    cases computed
    exact blank
  · exact blank.appendError

variable [Scalar F]

/-- The severity node gives a secret without a context the lowest score. -/
theorem Blank.severityNode (blank : Blank state) :
    (severityNode calls state).graph = none ∧
      (severityNode calls state).severity =
        if answeredWithin calls.severity 1 0 then some { score := 0, bucket := .low } else none := by
  have total : ∀ answers, severityBody answers state =
      .ok { state with severity := some { score := 0, bucket := .low } } := by
    intro answers
    rw [severityBody, blank.context]
  have outcome : (answeredWithin calls.severity 1 0 = true →
      withRetry severityBody state calls.severity 1 0 = .returned _) ∧ _ := withRetry_total total
  obtain returned | ⟨never, message, recoverable, same⟩ :=
    guardrail_cases 45 "severity" 2 severityBody calls.severity state
  · cases answered : answeredWithin calls.severity 1 0 with
    | true =>
        obtain same := NodeOutcome.returned.inj ((outcome.1 answered).symm.trans returned)
        rw [Sprawl.severityNode, ← same]
        exact ⟨blank.graph, rfl⟩
    | false => exact absurd returned (outcome.2 answered _)
  · cases answered : answeredWithin calls.severity 1 0 with
    | true => exact absurd (outcome.1 answered) (never _)
    | false =>
        rw [Sprawl.severityNode, same]
        exact ⟨blank.graph, blank.severity⟩

/-- After a failed ingest the run of the graph ends with the lowest score or with none. -/
theorem failedIngest_runGraph (blank : Blank state) (fails : IngestFails state calls) :
    (runGraph calls state).graph = none ∧
      (runGraph calls state).severity =
        if answeredWithin calls.severity 1 0 then some { score := 0, bucket := .low } else none := by
  have triaged : Blank (triageNode calls (ingestNode calls state)) := (blank.ingest fails).triage
  have routed : triageRouter (triageNode calls (ingestNode calls state)) = .investigate := by
    rw [triageRouter]
    cases decided : (triageNode calls (ingestNode calls state)).routing with
    | none => rfl
    | some decision =>
        cases decision with
        | investigate => rfl
        | skip => exact absurd decided triaged.routing
  rw [runGraph]
  simp only [routed]
  exact triaged.investigator.blastRadius.severityNode

end Pipeline

section Job

variable [Sha256] {F : Type} [Scalar F] (job : InvestigationJob) (around : JobSurroundings)
  (db : Database)

/-- The run leaves the severity of its secret as it is, and does not mark the investigation
complete. -/
def InvestigationJob.Undowngraded (F : Type) [Scalar F] : Prop :=
  let start := (JobTransaction.start around, db)
  ((investigateSecret F job).runOn start).2.2.storedSeverity job.secretId =
      db.storedSeverity job.secretId ∧
    ∀ statements ∈ (investigateSecret F job).commits start, ∀ coverage,
      JobStatement.complete job.investigationId coverage ∉ statements

/-- No failure and no constraint stops the run: the graph runs, no other investigation of the secret
is running, the workspace and the secret are there, and no statement or commit raises. -/
def InvestigationJob.Unstopped : Prop :=
  ∃ calls, usedRun around.graphRuns = some calls ∧
    let scored := answeredWithin calls.severity 1 0
    let traced := (whereTrue around.trace).isSome
    Unfailing (2 * (if traced then 2 else 1) + ((if scored then 4 else 2) + 1)) around.failures ∧
      db.AloneRunning job.investigationId job.workspaceId ∧
      db.hasWorkspace job.workspaceId = true ∧
      (scored = true → around.uuids.headD 0 ∈ db.severities.map (·.id) ∨
        db.hasSecret job.secretId = true)

omit [Sha256] in
theorem unstored_storedSeverity {statement : JobStatement} (unstored : Unstored statement)
    [Sha256] (now : Time) (rows : Database) (secretId : Uuid) :
    (rows.performed now statement).storedSeverity secretId = rows.storedSeverity secretId := by
  cases statement with
  | secretSeverity storedId score bucket => cases unstored
  | _ => rfl

/-- A run is undowngraded exactly if its `try` block raises. -/
theorem undowngraded_iff : job.Undowngraded around db F ↔
    ¬ ∃ value after rows, (job.attempt F).runOn (JobTransaction.start around, db) =
      (.ok value, after, rows) := by
  rcases ran : (job.attempt F).runOn (JobTransaction.start around, db) with
    ⟨raised | value, after, rows⟩
  · have nothing := investigateSecret_error job rfl ran
    constructor
    · intro _ given
      obtain ⟨_, _, _, returned⟩ := given
      cases returned
    · intro _
      refine ⟨nothing.keeps (·.storedSeverity job.secretId) fun statement unstored now rows =>
        unstored_storedSeverity unstored now rows job.secretId, ?_⟩
      intro statements committed coverage inside
      exact nothing.commits statements committed _ inside
  · constructor
    · intro kept
      obtain ⟨statements, committed, coverage, inside⟩ := investigateSecret_ok job ran
      exact absurd inside (kept.2 statements committed coverage)
    · intro never
      exact absurd ⟨value, after, rows, rfl⟩ never

omit [Scalar F] in
/-- The last statements are accepted in the workspace of the job. -/
theorem ending_accepted {now : Time} {rows : Database} (final : InvestigationState F) :
    Database.Accepts now (job.endingStatements final) rows ↔
      rows.hasWorkspace job.workspaceId = true := by
  rw [InvestigationJob.endingStatements, Database.accepts_free rfl, Database.accepts_cons,
    Database.audit_accepted, Database.performed_hasWorkspace, and_iff_left Database.accepts_nil]

/-- The statements of a run without a graph are accepted when nothing is in their way. -/
theorem statements_accepted {now : Time} {trace : Option String} {id : Uuid}
    {final : InvestigationState F} (noGraph : final.graph = none)
    (storable : ∀ result ∈ final.severity, result.explanation.all storableText = true) :
    Database.Accepts now (job.openingStatements trace ++ job.persisted final id) db ↔
      db.AloneRunning job.investigationId job.workspaceId ∧
        db.hasWorkspace job.workspaceId = true ∧
        (final.severity.isSome = true → id ∈ db.severities.map (·.id) ∨
          db.hasSecret job.secretId = true) := by
  have stored : ∀ rows : Database, Database.Accepts now (job.persisted final id) rows ↔
      rows.hasWorkspace job.workspaceId = true ∧
        (final.severity.isSome = true → id ∈ rows.severities.map (·.id) ∨
          rows.hasSecret job.secretId = true) := by
    intro rows
    rw [InvestigationJob.persisted, noGraph]
    cases scored : final.severity with
    | none =>
        refine (ending_accepted job final).trans ?_
        simp
    | some result =>
        change Database.Accepts now (.severity id job.workspaceId job.secretId _ _ _ ::
          .secretSeverity job.secretId result.score result.bucket :: job.endingStatements final)
          rows ↔ _
        rw [Database.accepts_cons, Database.severity_accepted, Database.accepts_free rfl,
          ending_accepted, Database.performed_hasWorkspace, Database.performed_hasWorkspace]
        simp only [Option.isSome_some, forall_const, storable result scored, true_and]
        tauto
  have marked : Database.Accepts now (job.openingStatements trace ++ job.persisted final id) db ↔
      db.AloneRunning job.investigationId job.workspaceId ∧
        Database.Accepts now ((trace.elim [] fun traceId =>
          [.traceId job.investigationId traceId]) ++ job.persisted final id)
          (db.performed now (.markRunning job.investigationId job.workspaceId)) := by
    rw [InvestigationJob.openingStatements, List.cons_append, Database.accepts_cons,
      Database.markRunning_accepted]
  rw [marked]
  cases trace with
  | none =>
      refine and_congr_right fun _ => (stored _).trans ?_
      rw [Database.performed_hasWorkspace, Database.performed_hasSecret]
      exact Iff.rfl
  | some traceId =>
      refine and_congr_right fun _ => (Database.accepts_free rfl).trans ((stored _).trans ?_)
      rw [Database.performed_hasWorkspace, Database.performed_hasSecret,
        Database.performed_hasWorkspace, Database.performed_hasSecret]
      exact Iff.rfl

omit [Sha256] [Scalar F] in
/-- The first commit has the trace beside the mark only when tracing is on. -/
theorem openingStatements_length (trace : Option String) :
    (job.openingStatements trace).length = if trace.isSome then 2 else 1 := by
  cases trace <;> rfl

omit [Sha256] in
/-- Without a graph the last commit has the two ending statements, and before them the two of the
severity when it is known. -/
theorem persisted_length {final : InvestigationState F} (noGraph : final.graph = none) (id : Uuid) :
    (job.persisted final id).length = if final.severity.isSome then 4 else 2 := by
  rw [InvestigationJob.persisted, noGraph]
  cases final.severity <;> rfl

/-- A run whose ingest fails leaves the secret as it was exactly when something stops the run. -/
theorem failedIngest_undowngraded_iff (fails : ∀ calls, usedRun around.graphRuns = some calls →
      IngestFails (F := F) (job.initialState around.trace) calls) :
    job.Undowngraded around db F ↔ ¬ job.Unstopped around db := by
  rw [undowngraded_iff]
  apply not_congr
  have swap : (∃ value after rows, (job.attempt F).runOn (JobTransaction.start around, db) =
      (.ok value, after, rows)) ↔ ∃ rows value after,
        (job.attempt F).runOn (JobTransaction.start around, db) = (.ok value, after, rows) := by
    constructor
    · intro given
      obtain ⟨value, after, rows, ran⟩ := given
      exact ⟨rows, value, after, ran⟩
    · intro given
      obtain ⟨rows, value, after, ran⟩ := given
      exact ⟨value, after, rows, ran⟩
  rw [swap]
  simp only [attempt_ok_iff]
  rw [exists_comm]
  apply exists_congr
  intro calls
  rw [exists_and_left]
  apply and_congr_right
  intro used
  rw [exists_and_left]
  have blank : Blank (F := F) (job.initialState around.trace) := by
    refine ⟨rfl, rfl, rfl, ?_⟩
    intro same
    cases same
  obtain ⟨noGraph, severity⟩ := failedIngest_runGraph blank (fails calls used)
  have scored : (runGraph (F := F) calls (job.initialState around.trace)).severity.isSome =
      answeredWithin calls.severity 1 0 := by
    rw [severity]
    cases answeredWithin calls.severity 1 0 <;> rfl
  have accepted : Database.Accepts db.clock (job.openingStatements (whereTrue around.trace) ++
      job.persisted (runGraph (F := F) calls (job.initialState around.trace))
        (JobTransaction.start around).nextId) db ↔ _ :=
    statements_accepted job db noGraph fun result scored => by
      rw [severity] at scored
      obtain ⟨_, lowest⟩ := Option.mem_ite_none_right.mp scored
      rw [← Option.some.inj lowest]
      rfl
  rw [scored] at accepted
  dsimp only [JobTransaction.start] at accepted ⊢
  rw [openingStatements_length, persisted_length job noGraph, scored]
  exact and_congr_right fun _ => accepted

end Job

section Example

/-- The ingest node meets a refused connection, and the other nodes are answered. -/
def refusedIngest : NodeCalls where
  ingest _ := .raised (.transient "connection refused")
  triage _ := .answered ()
  investigator _ := .answered
    { githubAvailable := false, fileContent := fun _ => none, storeReadable := false, lastUsed := none }
  blastRadius _ := .answered { resources := none, storeVerify := none, uuid4 := id }
  severity _ := .answered { explanation := none }

def criticalJob : InvestigationJob where
  secretId := 1
  investigationId := 3
  workspaceId := 2

/-- A critical secret whose investigation is about to run. -/
def criticalSecret : Database :=
  { Database.empty 0 with
    workspaces := [{ id := 2, kind := .standard, demoSessionId := none, expiresAt := none }]
    secrets := [{
      id := 1, workspaceId := 2, fingerprint := "f", type := "aws_access_key", provider := none
      health := .exposed, environment := .prod, exposureStatus := .publicLeak
      severityScore := some 90, severityBucket := some .critical, rotatable := true
      firstSeen := 0, lastSeen := 0 }]
    investigations := [{
      id := 3, workspaceId := 2, secretId := 1, status := .running, traceId := none
      coverage := none, startedAt := 0, finishedAt := none }] }

/-- Nothing fails outside the graph. -/
def refusedAround : JobSurroundings where
  failures := []
  violation _ := ""
  trace := none
  graphRuns := [.ok refusedIngest]
  uuids := [7]

/-- The rows after the run that meets the refused connection. -/
def refusedOutcome : Database :=
  (@JobHandler.runOn plainDigest Json (@investigateSecret Rat exactScalar criticalJob)
    (JobTransaction.start refusedAround, criticalSecret)).2.2

/-- A refused connection takes a critical secret down to the lowest severity, and completes its
investigation. -/
theorem refusedIngest_downgrades :
    criticalSecret.storedSeverity 1 = [(some 90, some .critical)] ∧
      refusedOutcome.storedSeverity 1 = [(some 0, some .low)] ∧
      refusedOutcome.investigations.map (·.status) = [.complete] ∧
      ¬ @InvestigationJob.Undowngraded plainDigest criticalJob refusedAround criticalSecret Rat
        exactScalar := by
  have before : criticalSecret.storedSeverity 1 = [(some 90, some .critical)] := by decide
  have after : refusedOutcome.storedSeverity 1 = [(some 0, some .low)] := by decide
  refine ⟨before, after, by decide, ?_⟩
  intro kept
  have same : refusedOutcome.storedSeverity 1 = criticalSecret.storedSeverity 1 := kept.1
  rw [before, after] at same
  cases same

/-- The refused run downgrades its secret because nothing stops it. -/
theorem refusedIngest_undowngraded_iff :
    @InvestigationJob.Undowngraded plainDigest criticalJob refusedAround criticalSecret Rat
      exactScalar ↔ ¬ criticalJob.Unstopped refusedAround criticalSecret := by
  apply @failedIngest_undowngraded_iff plainDigest Rat exactScalar
  intro calls used next returned
  obtain rfl := Option.some.inj used
  cases returned

end Example

end Sprawl
