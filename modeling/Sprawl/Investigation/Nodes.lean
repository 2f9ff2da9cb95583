/-
This file gives the nodes of the investigation pipeline, their guardrail and their graph.
-/

import Sprawl.Investigation.Builder
import Sprawl.Investigation.Severity

namespace Sprawl

/-- The exceptions that a node body raises. The first two are worth a retry. -/
inductive NodeException where
  | timeout (message : String)
  | transient (message : String)
  | other (message : String)
  deriving DecidableEq, Repr

def NodeException.isTransient : NodeException → Bool
  | .timeout _ => true
  | .transient _ => true
  | .other _ => false

/-- One call of a node body gets its answers, meets an exception or is still open at the timeout. -/
inductive NodeCall (Answers : Type) where
  | answered (answers : Answers)
  | raised (exception : NodeException)
  | stalled

/-- The last call of a node body returns a state, raises or meets the timeout. -/
inductive NodeOutcome (F : Type) where
  | returned (state : InvestigationState F)
  | raised (exception : NodeException)
  | timedOut

section Guardrail

variable {F Answers : Type}

/-- A node body computes the next state from the answers to its calls. -/
abbrev NodeBody (F Answers : Type) :=
  Answers → InvestigationState F → Except NodeException (InvestigationState F)

/-- The body is called once. -/
def callBody (body : NodeBody F Answers) (state : InvestigationState F) :
    NodeCall Answers → NodeOutcome F
  | .answered answers =>
      match body answers state with
      | .ok next => .returned next
      | .error exception => .raised exception
  | .raised exception => .raised exception
  | .stalled => .timedOut

/-- This is `_with_retry`. A transient exception is retried while retries are left. -/
def withRetry (body : NodeBody F Answers) (state : InvestigationState F)
    (calls : Nat → NodeCall Answers) : Nat → Nat → NodeOutcome F
  | 0, attempt => callBody body state (calls attempt)
  | retries + 1, attempt =>
      match callBody body state (calls attempt) with
      | .raised exception =>
          if exception.isTransient then withRetry body state calls retries (attempt + 1)
          else .raised exception
      | settled => settled

/-- This is `_append_error`. -/
def InvestigationState.appendError (state : InvestigationState F) (node message : String)
    (recoverable : Bool) : InvestigationState F :=
  { state with errors := state.errors ++ [{ node, message, recoverable }] }

def NodeException.message : NodeException → String
  | .timeout message => message
  | .transient message => message
  | .other message => message

/-- This is `guardrail`. It makes up to `max_attempts` calls and records a failure in the state. -/
def guardrail (timeoutS : Nat) (nodeName : String) (maxAttempts : Nat) (body : NodeBody F Answers)
    (calls : Nat → NodeCall Answers) (state : InvestigationState F) : InvestigationState F :=
  let timedOut := state.appendError nodeName
    ("node timed out after " ++ toString timeoutS ++ "s") true
  match withRetry body state calls (maxAttempts - 1) 0 with
  | .returned next => next
  | .timedOut => timedOut
  | .raised (.timeout _) => timedOut
  | .raised exception => state.appendError nodeName exception.message false

end Guardrail

/-- `document.get(key)` -/
def Document.get? (document : Document) (key : String) : Option Json :=
  match document.lookup key with
  | some .null => none
  | found => found

/-- `document.get(key, default)` with a default for a missing key only. -/
def Document.getOr (document : Document) (key default : String) : Option Json :=
  match document.lookup key with
  | none => some (.str default)
  | some .null => none
  | found => found

/-- This is `bool` of a value. -/
def Json.truthy : Json → Bool
  | .null => false
  | .bool value => value
  | .int value => value ≠ 0
  | .float value => value.significand ≠ 0
  | .str text => text ≠ ""
  | .arr items => !items.isEmpty
  | .obj fields => !fields.isEmpty

def Json.text? : Json → Option String
  | .str text => some text
  | _ => none

section Ingest

/-- The columns that ingest reads from `secrets`. -/
structure SecretRow where
  type : String
  provider : Option String
  health : SecretHealth
  environment : Environment
  exposureStatus : ExposureStatus
  deriving DecidableEq, Repr

structure FindingRow where
  filePath : Option String
  commitSha : Option String
  line : Option Int
  repo : Option String
  deriving DecidableEq, Repr

structure ConnectorRow where
  type : String
  connection : Document
  pathPrefix : Option String

/-- The answers to the four queries of ingest. -/
structure IngestAnswers where
  secret : Option SecretRow
  findings : List FindingRow
  connectors : List ConnectorRow
  references : Option (Option Document × Option Document)

def FindingRow.location? (row : FindingRow) : Option FindingLocation :=
  if truthy row.repo && truthy row.filePath then
    some {
      repo := row.repo.getD ""
      filePath := row.filePath.getD ""
      commitSha := row.commitSha
      line := row.line }
  else none

/-- The context that ingest builds. What connectors and references set are values of any type. -/
structure IngestContext where
  secretId : Uuid
  workspaceId : Uuid
  investigationId : Uuid
  secretType : String
  environment : String
  exposureStatus : String
  health : String
  provider : String
  locations : List FindingLocation
  principalArn : Option Json := none
  principalType : Option Json := none
  accountId : Option Json := none
  storePath : Option Json := none
  vaultAddr : Option Json := none
  vaultRoleId : Option Json := none
  vaultSecretId : Option Json := none
  awsRoleArn : Option Json := none
  awsExternalId : Option Json := none
  githubToken : Option Json := none

/-- The store path of a Vault row. -/
def ConnectorRow.storePath (row : ConnectorRow) : Option Json :=
  if truthy row.pathPrefix then row.pathPrefix.map .str else row.connection.get? "secret_path"

/-- A connector row sets the fields of its type, over those of an earlier row. -/
def IngestContext.withConnector (context : IngestContext) (row : ConnectorRow) : IngestContext :=
  let cfg := row.connection
  if row.type = "vault" then
    { context with
      vaultAddr := cfg.get? "addr"
      vaultRoleId := cfg.get? "role_id"
      vaultSecretId := cfg.get? "secret_id"
      storePath := row.storePath }
  else if row.type = "aws_iam" then
    let assumed := { context with
      awsRoleArn := cfg.get? "role_arn"
      awsExternalId := cfg.get? "external_id" }
    if (cfg.get? "principal_arn").any Json.truthy then
      { assumed with
        principalArn := cfg.get? "principal_arn"
        principalType := some (.str "iam_user")
        accountId := cfg.getOr "account_id" "" }
    else assumed
  else if row.type = "github" then { context with githubToken := cfg.get? "token" }
  else context

/-- The references of the secret fill what the connectors left open. -/
def IngestContext.withReferences (context : IngestContext)
    (references : Option Document × Option Document) : IngestContext :=
  let pr := references.1.getD []
  let sr := references.2.getD []
  let known :=
    if (pr.get? "arn").any Json.truthy && !context.principalArn.any Json.truthy then
      { context with
        principalArn := pr.get? "arn"
        principalType := pr.getOr "principal_type" "iam_user"
        accountId := pr.getOr "account_id" "" }
    else context
  if (sr.get? "path").any Json.truthy && !known.storePath.any Json.truthy then
    { known with storePath := sr.get? "path" }
  else known

/-- The context that `ingest_node` builds where it finds the secret. -/
def ingestContext {F : Type} (answers : IngestAnswers) (state : InvestigationState F) :
    Option IngestContext :=
  answers.secret.map fun secret =>
    let loaded : IngestContext := {
      secretId := state.secretId
      workspaceId := state.workspaceId
      investigationId := state.investigationId
      secretType := orElseText (some secret.type) "unknown"
      environment := secret.environment.value
      exposureStatus := secret.exposureStatus.value
      health := secret.health.value
      provider := orElseText secret.provider "unknown"
      locations := answers.findings.filterMap FindingRow.location? }
    let connected := answers.connectors.foldl IngestContext.withConnector loaded
    answers.references.elim connected connected.withReferences

/-- The later nodes take texts from a context. A value of another type counts as absent. -/
def IngestContext.texts (context : IngestContext) : SecretContext where
  secretId := context.secretId
  workspaceId := context.workspaceId
  investigationId := context.investigationId
  secretType := context.secretType
  environment := context.environment
  exposureStatus := context.exposureStatus
  health := context.health
  provider := context.provider
  locations := context.locations
  principalArn := context.principalArn.bind Json.text?
  principalType := context.principalType.bind Json.text?
  accountId := context.accountId.bind Json.text?
  storePath := context.storePath.bind Json.text?
  vaultAddr := context.vaultAddr.bind Json.text?
  vaultRoleId := context.vaultRoleId.bind Json.text?
  vaultSecretId := context.vaultSecretId.bind Json.text?
  awsRoleArn := context.awsRoleArn.bind Json.text?
  awsExternalId := context.awsExternalId.bind Json.text?
  githubToken := context.githubToken.bind Json.text?

/-- This is the body of `ingest_node`. -/
def ingestBody {F : Type} : NodeBody F IngestAnswers := fun answers state =>
  match ingestContext answers state with
  | none => .error (.other ("Secret " ++ toString state.secretId ++ " not found in workspace " ++
      toString state.workspaceId))
  | some context =>
      .ok ({ state with context := some context.texts }.withEvent (nodeComplete "ingest" []))

end Ingest

section Triage

/-- The node names this table `_EXPOSURE_SCORE`. -/
def exposureScores : List (String × Int) :=
  [("public_leak", 90), ("live_inferred", 60), ("inactive", 10), ("unknown", 30),
    ("confirmed", 70), ("suspected", 40)]

/-- The node names these `_ALWAYS_INVESTIGATE`. -/
def alwaysInvestigate : List String :=
  ["aws_access_key", "iam_access_key", "database_url", "database", "private_key", "github_token"]

/-- The node names this `_SKIP_THRESHOLD`. -/
def skipThreshold : Int := 20

/-- This is the score of `triage_node`. -/
def triageScore (context : SecretContext) : Int :=
  let secretType := lowerText context.secretType
  let exposed := (exposureScores.lookup (lowerText context.exposureStatus)).getD 30
  let typed := if alwaysInvestigate.contains secretType then max exposed 55 else exposed
  if ["prod", "production"].contains (lowerText context.environment) then min 100 (typed + 20)
  else typed

def triageRouting (context : SecretContext) : RoutingDecision :=
  if skipThreshold ≤ triageScore context ||
      alwaysInvestigate.contains (lowerText context.secretType) then .investigate
  else .skip

/-- This is the body of `triage_node`. It asks nothing. -/
def triageBody {F : Type} : NodeBody F Unit := fun _ state =>
  match state.context with
  | none => .ok { state with triageScore := some 50, routing := some .investigate }
  | some context =>
      .ok ({ state with
          triageScore := some (triageScore context)
          routing := some (triageRouting context) }.withEvent
        (nodeComplete "triage" [("routing", .str (triageRouting context).value),
          ("score", .int (triageScore context))]))

end Triage

section Investigator

/-- What IAM tells about the last use of a key. -/
structure LastUsed where
  lastUsedDate : Option String
  serviceName : String
  deriving DecidableEq, Repr

/-- The answers of the three connectors. A fetch that raised has no answer. -/
structure InvestigatorAnswers where
  githubAvailable : Bool
  fileContent : Nat → Option (Option String)
  storeReadable : Bool
  lastUsed : Option LastUsed

/-- Snippets of the first five locations are fetched. -/
def withSnippets (answers : InvestigatorAnswers) (locations : List FindingLocation) :
    List FindingLocation :=
  if answers.githubAvailable then
    locations.mapIdx fun index location =>
      match answers.fileContent index with
      | some snippet => if index < 5 then { location with fileSnippet := snippet } else location
      | none => location
  else locations

/-- This is the body of `investigator_node`. -/
def investigatorBody {F : Type} : NodeBody F InvestigatorAnswers := fun answers state =>
  match state.context with
  | none => .ok state
  | some context =>
      let iamInfo := if truthy context.principalArn then answers.lastUsed else none
      let enriched := { context with
        locations := withSnippets answers context.locations
        storePresent := truthy context.storePath && answers.storeReadable
        lastUsedDate := some ((iamInfo.bind (·.lastUsedDate)).getD "")
        lastUsedService := some ((iamInfo.map (·.serviceName)).getD "") }
      .ok ({ state with context := some enriched }.withEvent (nodeComplete "investigator" []))

end Investigator

section BlastRadius

/-- The node names these `_HIGH_PRIV_TYPES`. -/
def highPrivTypes : List String := ["iam", "rds", "secretsmanager", "kms", "sts", "ec2"]

/-- The answers of the two connectors, which are absent where a call raised, and of `uuid4`. -/
structure BlastRadiusAnswers where
  resources : Option (List ResourceRef)
  storeVerify : Option StoreVerification
  uuid4 : Nat → Uuid

/-- The principal of a context with an ARN. -/
def SecretContext.principal (context : SecretContext) : PrincipalRef where
  provider := "aws"
  principalType := orElseText context.principalType "iam_user"
  arn := context.principalArn.getD ""
  accountId := orElseText context.accountId ""

/-- The principal that stands for an unknown one. -/
def SecretContext.unknownPrincipal (context : SecretContext) : PrincipalRef where
  provider := "aws"
  principalType := "iam_user"
  arn := "arn:aws:iam::000000000000:user/unknown-" ++ toString context.secretId
  accountId := "000000000000"

/-- This is the graph that `blast_radius_node` builds. -/
def blastRadiusGraph (answers : BlastRadiusAnswers) (context : SecretContext) : BlastRadiusGraph :=
  let known := truthy context.principalArn
  let resources := if known then answers.resources.getD [] else []
  let storeVerify := if truthy context.storePath then answers.storeVerify else none
  let builder : BlastRadiusBuilder := {
    secretId := context.secretId
    workspaceId := context.workspaceId
    environment := context.environment
    uuid4 := answers.uuid4 }
  let built := builder.build (if known then context.principal else context.unknownPrincipal)
    resources storeVerify
  { nodes := built.1
    edges := built.2.1
    coverage := some built.2.2
    resourceCount := resources.length
    highPrivCount :=
      (resources.filter fun resource =>
        highPrivTypes.contains (lowerText resource.resourceType)).length }

/-- This is the body of `blast_radius_node`. -/
def blastRadiusBody {F : Type} : NodeBody F BlastRadiusAnswers := fun answers state =>
  match state.context with
  | none => .ok state
  | some context =>
      let graph := blastRadiusGraph answers context
      .ok ({ state with graph := some graph }.withEvent
        (nodeComplete "blast_radius" [("resource_count", .int graph.resourceCount)]))

end BlastRadius

section SeverityNode

/-- The explanation of the language model, where there is one. -/
structure SeverityAnswers where
  explanation : Option String
  deriving DecidableEq, Repr

variable {F : Type} [Scalar F]

/-- The score of a context, on the counts of the graph. -/
def contextSeverity (context : SecretContext) (graph : Option BlastRadiusGraph) :
    SeverityResult F :=
  severityScore (graph.elim 0 (·.resourceCount)) (graph.elim 0 (·.highPrivCount))
    context.environment context.exposureStatus context.secretType

/-- This is the body of `severity_node`. -/
def severityBody : NodeBody F SeverityAnswers := fun answers state =>
  match state.context with
  | none => .ok { state with severity := some { score := 0, bucket := .low } }
  | some context =>
      let result : SeverityResult F :=
        { contextSeverity context state.graph with explanation := answers.explanation }
      .ok ({ state with severity := some result }.withEvent
        (nodeComplete "severity" [("score", .int result.score), ("bucket", .str result.bucket.value)]))

end SeverityNode

/-- What the calls of the five node bodies meet in one run of the graph. -/
structure NodeCalls where
  ingest : Nat → NodeCall IngestAnswers
  triage : Nat → NodeCall Unit
  investigator : Nat → NodeCall InvestigatorAnswers
  blastRadius : Nat → NodeCall BlastRadiusAnswers
  severity : Nat → NodeCall SeverityAnswers

section Graph

variable {F : Type}

def ingestNode (calls : NodeCalls) (state : InvestigationState F) : InvestigationState F :=
  guardrail 30 "ingest" 2 ingestBody calls.ingest state

def triageNode (calls : NodeCalls) (state : InvestigationState F) : InvestigationState F :=
  guardrail 10 "triage" 2 triageBody calls.triage state

def investigatorNode (calls : NodeCalls) (state : InvestigationState F) : InvestigationState F :=
  guardrail 60 "investigator" 2 investigatorBody calls.investigator state

def blastRadiusNode (calls : NodeCalls) (state : InvestigationState F) : InvestigationState F :=
  guardrail 90 "blast_radius" 2 blastRadiusBody calls.blastRadius state

def severityNode [Scalar F] (calls : NodeCalls) (state : InvestigationState F) :
    InvestigationState F :=
  guardrail 45 "severity" 2 severityBody calls.severity state

/-- This is `_triage_router`. -/
def triageRouter (state : InvestigationState F) : RoutingDecision :=
  state.routing.getD .investigate

/-- This is a run of the graph that `compile_graph` builds. -/
def runGraph [Scalar F] (calls : NodeCalls) (state : InvestigationState F) : InvestigationState F :=
  let triaged := triageNode calls (ingestNode calls state)
  match triageRouter triaged with
  | .skip => triaged
  | .investigate =>
      severityNode calls (blastRadiusNode calls (investigatorNode calls triaged))

end Graph

end Sprawl
