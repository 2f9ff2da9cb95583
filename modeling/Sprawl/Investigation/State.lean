/-
This file gives the state that the investigation pipeline hands from node to node.
-/

import Sprawl.Api.Database
import Sprawl.Shared.Connectors

namespace Sprawl

/-- A code location where a secret was found. -/
structure FindingLocation where
  repo : String
  filePath : String
  line : Option Int := none
  commitSha : Option String := none
  fileSnippet : Option String := none
  deriving DecidableEq, Repr

/-- The ingest node builds the context, and the investigator node adds to it. -/
structure SecretContext where
  secretId : Uuid
  workspaceId : Uuid
  investigationId : Uuid
  secretType : String := "unknown"
  environment : String := "unknown"
  exposureStatus : String := "unknown"
  health : String := "unknown"
  provider : String := "unknown"
  locations : List FindingLocation := []
  principalArn : Option String := none
  principalType : Option String := none
  accountId : Option String := none
  storePath : Option String := none
  storePresent : Bool := false
  lastUsedDate : Option String := none
  lastUsedService : Option String := none
  vaultAddr : Option String := none
  vaultRoleId : Option String := none
  vaultSecretId : Option String := none
  awsRoleArn : Option String := none
  awsExternalId : Option String := none
  githubToken : Option String := none
  deriving DecidableEq, Repr

/-- The in-memory form of a graph node. Its environment is a free text. -/
structure GraphNodeData where
  id : Uuid
  secretId : Uuid
  workspaceId : Uuid
  kind : NodeKind
  label : String
  environment : String
  attrs : Document

structure GraphEdgeData where
  id : Uuid
  secretId : Uuid
  workspaceId : Uuid
  srcNodeId : Uuid
  dstNodeId : Uuid
  kind : EdgeKind
  confidence : Confidence
  attrs : Document := []

structure CoverageReport where
  knownConsumers : Nat := 0
  unknownConsumers : Nat := 0
  confidence : Confidence := .low
  deriving DecidableEq, Repr

/-- The blast_radius node puts this into the state. -/
structure BlastRadiusGraph where
  nodes : List GraphNodeData
  edges : List GraphEdgeData
  coverage : Option CoverageReport
  resourceCount : Nat
  highPrivCount : Nat

structure SeverityFactors (F : Type) where
  scopeFactor : F
  envFactor : F
  exposureFactor : F
  resourceCount : Nat
  hasHighPriv : Bool
  environment : String
  exposureStatus : String
  secretType : String

/-- The severity node puts this into the state. -/
structure SeverityResult (F : Type) where
  score : Int := 0
  bucket : SeverityBucket := .low
  factors : Option (SeverityFactors F) := none
  explanation : Option String := none

structure AgentError where
  node : String
  message : String
  recoverable : Bool := true
  deriving DecidableEq, Repr

inductive RoutingDecision where
  | investigate
  | skip
  deriving DecidableEq, Repr

def RoutingDecision.value : RoutingDecision → String
  | .investigate => "investigate"
  | .skip => "skip"

/-- This is `InvestigationState`. A key that no node has set is absent. -/
structure InvestigationState (F : Type) where
  secretId : Uuid
  workspaceId : Uuid
  investigationId : Uuid
  traceId : Option String := none
  context : Option SecretContext := none
  routing : Option RoutingDecision := none
  triageScore : Option Int := none
  graph : Option BlastRadiusGraph := none
  severity : Option (SeverityResult F) := none
  errors : List AgentError := []
  events : List Document := []

/-- `events.append(…)` on a copy of the list. -/
def InvestigationState.withEvent {F : Type} (state : InvestigationState F) (event : Document) :
    InvestigationState F :=
  { state with events := state.events ++ [event] }

/-- The event of a node that is done. -/
def nodeComplete (node : String) (others : Document) : Document :=
  ("type", .str "node.complete") :: ("node", .str node) :: others

/-- Both an absent text and the empty text are false. -/
def truthy : Option String → Bool
  | none => false
  | some text => text ≠ ""

/-- A text where it is true. -/
def whereTrue (text : Option String) : Option String := if truthy text then text else none

/-- `value or default` -/
def orElseText (value : Option String) (default : String) : String :=
  if truthy value then value.getD default else default

/-- This is `char.lower()` where the lower case is an ASCII letter. The Kelvin sign is one of them. -/
def lowerChar (char : Char) : Char := if char.toNat = 8490 then 'k' else char.toLower

/-- This is `text.lower()`. A letter outside the ASCII range has no place in a table. -/
def lowerText (text : String) : String := String.ofList (text.toList.map lowerChar)

end Sprawl
