/-
This file gives the `investigate_secret` job with its statements.
-/

import Sprawl.Api.Statements
import Sprawl.Investigation.Nodes

namespace Sprawl

/-- The job names this map `_ENV_CANONICAL`. -/
def envCanonical : List (String × Environment) :=
  [("production", .prod), ("staging", .staging), ("dev", .dev), ("development", .dev)]

/-- This is `_canonical_env`. -/
def canonicalEnv (env : String) : Environment :=
  (envCanonical.lookup (lowerText env)).getD .unknown

/-- The statements of the job. -/
inductive JobStatement where
  | markRunning (investigationId workspaceId : Uuid)
  | traceId (investigationId : Uuid) (traceId : String)
  | graphNode (row : GraphNode)
  | graphEdge (row : GraphEdge)
  | severity (id workspaceId secretId : Uuid) (score : Int) (factors : Document)
      (explanation : Option String)
  | secretSeverity (secretId : Uuid) (score : Int) (bucket : SeverityBucket)
  | complete (investigationId : Uuid) (coverage : Option Document)
  | error (investigationId : Uuid)
  | audit (entry : AuditEntry)

/-- PostgreSQL refuses a text with the character U+0000. -/
def storableText (text : String) : Bool := !text.toList.contains (Char.ofNat 0)

namespace Database

variable (db : Database)

def updateInvestigations (selected : Investigation → Bool) (change : Investigation → Investigation) :
    Database :=
  { db with
    investigations := db.investigations.map fun row => if selected row then change row else row }

/-- A second running investigation of a secret violates the unique index. -/
def markRunning (now : Time) (investigationId workspaceId : Uuid) : Except SqlError Database :=
  let selected (row : Investigation) : Bool := row.id = investigationId && row.workspaceId = workspaceId
  if (db.investigations.filter selected).any fun row =>
      db.investigations.any fun other =>
        !selected other && other.secretId = row.secretId && other.status = .running then
    .error .integrity
  else
    .ok (db.updateInvestigations selected fun row =>
      { row with status := .running, startedAt := now })

/-- `ON CONFLICT (id) DO NOTHING` -/
def insertGraphNode (row : GraphNode) : Except SqlError Database :=
  if (db.graphNodes.map (·.id)).contains row.id then .ok db
  else if db.hasWorkspace row.workspaceId && db.hasSecret row.secretId then
    .ok { db with graphNodes := db.graphNodes ++ [row] }
  else .error .integrity

/-- `ON CONFLICT (id) DO NOTHING` -/
def insertGraphEdge (row : GraphEdge) : Except SqlError Database :=
  if (db.graphEdges.map (·.id)).contains row.id then .ok db
  else if db.hasWorkspace row.workspaceId && db.hasSecret row.secretId &&
      (db.graphNodes.map (·.id)).contains row.srcNodeId &&
      (db.graphNodes.map (·.id)).contains row.dstNodeId then
    .ok { db with graphEdges := db.graphEdges ++ [row] }
  else .error .integrity

/-- `ON CONFLICT DO NOTHING`, where the explanation is a text of PostgreSQL -/
def insertSeverity (row : Severity) : Except SqlError Database :=
  if !row.explanation.all storableText then .error .data
  else if (db.severities.map (·.id)).contains row.id then .ok db
  else if db.hasWorkspace row.workspaceId && db.hasSecret row.secretId then
    .ok { db with severities := db.severities ++ [row] }
  else .error .integrity

def updateSecretSeverity (secretId : Uuid) (score : Int) (bucket : SeverityBucket) : Database :=
  { db with
    secrets := db.secrets.map fun row =>
      if row.id = secretId then
        { row with severityScore := some score, severityBucket := some bucket }
      else row }

/-- The time is the start of the transaction, which `now()` returns. -/
def jobApply [Sha256] (now : Time) : JobStatement → Except SqlError Database
  | .markRunning investigationId workspaceId => db.markRunning now investigationId workspaceId
  | .traceId investigationId traceId =>
      .ok (db.updateInvestigations (·.id = investigationId)
        fun row => { row with traceId := some traceId })
  | .graphNode row => db.insertGraphNode row
  | .graphEdge row => db.insertGraphEdge row
  | .severity id workspaceId secretId score factors explanation =>
      db.insertSeverity
        { id, workspaceId, secretId, score, factors, explanation, computedAt := now }
  | .secretSeverity secretId score bucket => .ok (db.updateSecretSeverity secretId score bucket)
  | .complete investigationId coverage =>
      .ok (db.updateInvestigations (·.id = investigationId)
        fun row => { row with status := .complete, finishedAt := some now, coverage })
  | .error investigationId =>
      .ok (db.updateInvestigations (·.id = investigationId)
        fun row => { row with status := .error, finishedAt := some now })
  | .audit entry => db.insertAudit entry

end Database

inductive JobCommand where
  | begin
  | execute (statement : JobStatement)
  | commit
  | rollback
  | publish (workspaceId : Uuid) (eventType : String) (payload : Document)
  | initTrace
  | invoke (checkpointed : Bool)
  | uuid4

/-- A statement and a commit raise with a text. The graph raises where its checkpointer fails. -/
abbrev JobCommand.Reply : JobCommand → Type
  | .begin => Unit
  | .execute _ => Except String Unit
  | .commit => Except String Unit
  | .rollback => Unit
  | .publish _ _ _ => Unit
  | .initTrace => Option String
  | .invoke _ => Except String NodeCalls
  | .uuid4 => Uuid

abbrev JobProgram : Type → Type := Effect.Program JobCommand JobCommand.Reply

/-- The job returns or raises with the text of its exception. -/
abbrev JobHandler : Type → Type := ExceptT String JobProgram

def issueJob (command : JobCommand) : JobHandler command.Reply :=
  ExceptT.lift (Effect.Program.perform command)

/-- A reply that carries an exception raises it. -/
def raiseJob {α : Type} (reply : Except String α) : JobHandler α := ExceptT.mk (pure reply)

def executeJob (statement : JobStatement) : JobHandler Unit := do
  raiseJob (← issueJob (.execute statement))

/-- `async with db.begin()` commits at the end, and rolls back where something raises. -/
def inTransaction (body : JobHandler Unit) : JobHandler Unit := do
  issueJob .begin
  tryCatch (do body; raiseJob (← issueJob .commit)) fun raised => do
    issueJob .rollback
    throw raised

namespace InvestigationJob

variable (job : InvestigationJob)

def idFields : Document :=
  [("investigation_id", .uuid job.investigationId), ("secret_id", .uuid job.secretId)]

def investigationField : Document := [("investigation_id", .uuid job.investigationId)]

/-- The job inserts a node under its own identifiers, with a canonical environment. -/
def nodeRow (node : GraphNodeData) : GraphNode where
  id := node.id
  workspaceId := job.workspaceId
  secretId := job.secretId
  kind := node.kind
  label := node.label
  environment := canonicalEnv node.environment
  attrs := node.attrs

def edgeRow (edge : GraphEdgeData) : GraphEdge where
  id := edge.id
  workspaceId := job.workspaceId
  secretId := job.secretId
  srcNodeId := edge.srcNodeId
  dstNodeId := edge.dstNodeId
  kind := edge.kind
  confidence := edge.confidence
  attrs := edge.attrs

def markRunning : JobHandler Unit :=
  inTransaction (executeJob (.markRunning job.investigationId job.workspaceId))

def storeTrace : Option String → JobHandler Unit
  | none => pure ()
  | some traceId => inTransaction (executeJob (.traceId job.investigationId traceId))

def executeAll : List JobStatement → JobHandler Unit
  | [] => pure ()
  | statement :: rest => do
      executeJob statement
      executeAll rest

def publishAll : List Document → JobHandler Unit
  | [] => pure ()
  | event :: rest => do
      let eventType := match event.lookup "type" with
        | some (.str text) => text
        | _ => "node.event"
      issueJob (.publish job.workspaceId eventType
        (mergeDocument job.investigationField (event.filter fun field => field.1 ≠ "type")))
      publishAll rest

section Run

variable {F : Type} [Scalar F]

/-- Without a checkpointer the graph runs once more, from the start. -/
def invokeGraph (state : InvestigationState F) : JobHandler (InvestigationState F) := do
  match ← issueJob (.invoke true) with
  | .ok calls => return runGraph calls state
  | .error _ => do
      let calls ← raiseJob (← issueJob (.invoke false))
      return runGraph calls state

/-- This is `asdict(severity.factors)`. -/
def factorsDocument (factors : SeverityFactors F) : Document :=
  [("scope_factor", Scalar.json factors.scopeFactor), ("env_factor", Scalar.json factors.envFactor),
    ("exposure_factor", Scalar.json factors.exposureFactor),
    ("resource_count", .int factors.resourceCount), ("has_high_priv", .bool factors.hasHighPriv),
    ("environment", .str factors.environment), ("exposure_status", .str factors.exposureStatus),
    ("secret_type", .str factors.secretType)]

/-- This is `asdict(graph_data.coverage)`. -/
def coverageDocument (coverage : CoverageReport) : Document :=
  [("known_consumers", .int coverage.knownConsumers),
    ("unknown_consumers", .int coverage.unknownConsumers),
    ("confidence", .str coverage.confidence.value)]

/-- The score and the bucket, where there are any. -/
def severityFields (severity : Option (SeverityResult F)) : Document :=
  [("score", .optional (fun result : SeverityResult F => .int result.score) severity),
    ("bucket", .optional (fun result : SeverityResult F => .str result.bucket.value) severity)]

def graphStatements (graph : BlastRadiusGraph) : List JobStatement :=
  graph.nodes.map (fun node => .graphNode (job.nodeRow node)) ++
    graph.edges.map (fun edge => .graphEdge (job.edgeRow edge))

def storeSeverity (result : SeverityResult F) : JobHandler Unit := do
  let id ← issueJob .uuid4
  executeJob (.severity id job.workspaceId job.secretId result.score
    (result.factors.elim [] factorsDocument) result.explanation)
  executeJob (.secretSeverity job.secretId result.score result.bucket)

def storeSeverity? : Option (SeverityResult F) → JobHandler Unit
  | none => pure ()
  | some result => job.storeSeverity result

/-- The graph, the severity, the end of the investigation and its audit entry are one transaction. -/
def persist (final : InvestigationState F) : JobHandler Unit :=
  inTransaction do
    executeAll (final.graph.elim [] job.graphStatements)
    job.storeSeverity? final.severity
    executeJob (.complete job.investigationId
      ((final.graph.bind (·.coverage)).map coverageDocument))
    executeJob (.audit {
      workspaceId := job.workspaceId
      actor := "system"
      action := "investigation.complete"
      targetType := some "investigation"
      targetId := some job.investigationId
      after := some (("status", .str "complete") :: severityFields final.severity) })

/-- The state that the job hands to the graph. -/
def initialState (traceId : Option String) : InvestigationState F where
  secretId := job.secretId
  workspaceId := job.workspaceId
  investigationId := job.investigationId
  traceId := traceId

/-- This is the `try` block of the job. -/
def attempt (F : Type) [Scalar F] : JobHandler Json := do
  job.markRunning
  issueJob (.publish job.workspaceId "investigation.started" job.idFields)
  let traceId ← issueJob .initTrace
  job.storeTrace (whereTrue traceId)
  let final ← invokeGraph (F := F) (job.initialState traceId)
  job.publishAll final.events
  job.persist final
  issueJob (.publish job.workspaceId "investigation.complete"
    (job.idFields ++ severityFields final.severity))
  return .obj (job.investigationField ++ severityFields final.severity)

/-- The investigation is marked as failed. A failure of this is only logged. -/
def markError (raised : String) : JobHandler Unit := do
  tryCatch (inTransaction do
      executeJob (.error job.investigationId)
      executeJob (.audit {
        workspaceId := job.workspaceId
        actor := "system"
        action := "investigation.error"
        targetType := some "investigation"
        targetId := some job.investigationId
        after := some [("status", .str "error"), ("error", .str raised)] }))
    fun _ => pure ()
  issueJob (.publish job.workspaceId "investigation.error" (job.idFields ++ [("error", .str raised)]))

end Run

end InvestigationJob

/-- This is `investigate_secret`. -/
def investigateSecret (F : Type) [Scalar F] (job : InvestigationJob) : JobHandler Json :=
  tryCatch (job.attempt F) fun raised => do
    job.markError raised
    throw raised

/-- What a run of the job meets outside the rows: the failures of its statements and commits in
turn, the text of a refused statement, the trace, the runs of the graph and the identifiers that
`uuid4` draws. -/
structure JobSurroundings where
  failures : List (Option String)
  violation : SqlError → String
  trace : Option String
  graphRuns : List (Except String NodeCalls)
  uuids : List Uuid

/-- The open transaction of a job and what the job will meet. -/
structure JobTransaction where
  pending : List JobStatement
  startedAt : Time
  around : JobSurroundings

def JobTransaction.start (around : JobSurroundings) : JobTransaction where
  pending := []
  startedAt := 0
  around := around

section Answer

variable [Sha256]

/-- A list of statements on the rows. One that raises changes nothing. -/
def Database.applyAll (now : Time) (statements : List JobStatement) (db : Database) : Database :=
  statements.foldl
    (fun rows statement => match rows.jobApply now statement with
      | .ok written => written
      | .error _ => rows) db

/-- The rows with the writes of the transaction on top. -/
def JobTransaction.working (transaction : JobTransaction) (db : Database) : Database :=
  db.applyAll transaction.startedAt transaction.pending

/-- One more failure has been met. -/
def JobTransaction.met (transaction : JobTransaction) : JobTransaction :=
  { transaction with
    around := { transaction.around with failures := transaction.around.failures.tail } }

/-- The failure of the next statement or commit. -/
def JobTransaction.failure (transaction : JobTransaction) : Option String :=
  transaction.around.failures.head?.join

/-- A statement of a job meets the committed rows, with its own writes on top. -/
def JobTransaction.answer :
    Effect.Handler JobCommand JobCommand.Reply (JobTransaction × Database)
  | .begin, (transaction, db) =>
      ((), { transaction with pending := [], startedAt := db.clock }, db)
  | .execute statement, (transaction, db) =>
      match transaction.failure with
      | some raised => (.error raised, transaction.met, db)
      | none =>
          match (transaction.working db).jobApply transaction.startedAt statement with
          | .ok _ =>
              (.ok (), { transaction.met with pending := transaction.pending ++ [statement] }, db)
          | .error raised => (.error (transaction.around.violation raised), transaction.met, db)
  | .commit, (transaction, db) =>
      match transaction.failure with
      | some raised => (.error raised, transaction.met, db)
      | none => (.ok (), { transaction.met with pending := [] }, transaction.working db)
  | .rollback, (transaction, db) => ((), { transaction with pending := [] }, db)
  | .publish _ _ _, (transaction, db) => ((), transaction, db)
  | .initTrace, (transaction, db) => (transaction.around.trace, transaction, db)
  | .invoke _, (transaction, db) =>
      (transaction.around.graphRuns.headD (.error ""),
        { transaction with
          around := { transaction.around with graphRuns := transaction.around.graphRuns.tail } }, db)
  | .uuid4, (transaction, db) =>
      (transaction.around.uuids.headD 0,
        { transaction with
          around := { transaction.around with uuids := transaction.around.uuids.tail } }, db)

end Answer

end Sprawl
