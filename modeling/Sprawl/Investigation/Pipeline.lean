/-
This file gives the graph of the investigation as its nodes, edges and state keys.
-/

import Sprawl.Effect.Flow
import Sprawl.Investigation.Nodes

namespace Sprawl

open Effect

inductive PipelineNode where
  | ingest
  | triage
  | investigator
  | blastRadius
  | severity
  deriving DecidableEq, Repr

def PipelineNode.name : PipelineNode → String
  | .ingest => "ingest"
  | .triage => "triage"
  | .investigator => "investigator"
  | .blastRadius => "blast_radius"
  | .severity => "severity"

/-- The keys of the state that nodes set, but for the errors and the events. -/
inductive StateKey where
  | context
  | triageScore
  | routing
  | graph
  | severity
  deriving DecidableEq, Repr

abbrev StateKey.Value (F : Type) : StateKey → Type
  | .context => SecretContext
  | .triageScore => Int
  | .routing => RoutingDecision
  | .graph => BlastRadiusGraph
  | .severity => SeverityResult F

section State

variable {F : Type} (state : InvestigationState F)

/-- This is `state.get(key)`. -/
def InvestigationState.get : (key : StateKey) → Option (key.Value F)
  | .context => state.context
  | .triageScore => state.triageScore
  | .routing => state.routing
  | .graph => state.graph
  | .severity => state.severity

/-- The keys that a node returned replace those of the state, and the others stay. Every node returns
the keys of the job. -/
def InvestigationState.merged (returned : InvestigationState F) : InvestigationState F :=
  { returned with
    context := returned.context.or state.context
    triageScore := returned.triageScore.or state.triageScore
    routing := returned.routing.or state.routing
    graph := returned.graph.or state.graph
    severity := returned.severity.or state.severity }

end State

section Outcome

variable {F Answers : Type}

/-- What the wrapper of a node returns or records. -/
def guardedOutcome (timeoutS : Nat) (nodeName : String) (maxAttempts : Nat)
    (body : NodeBody F Answers) (calls : Nat → NodeCall Answers) (state : InvestigationState F) :
    Except AgentError (InvestigationState F) :=
  let timedOut : AgentError :=
    { node := nodeName, message := "node timed out after " ++ toString timeoutS ++ "s" }
  match withRetry body state calls (maxAttempts - 1) 0 with
  | .returned next => .ok next
  | .timedOut => .error timedOut
  | .raised (.timeout _) => .error timedOut
  | .raised exception =>
      .error { node := nodeName, message := exception.message, recoverable := false }

variable [Scalar F] (calls : NodeCalls)

namespace PipelineNode

/-- The state that a node returns. -/
def returned : PipelineNode → InvestigationState F → InvestigationState F
  | .ingest => ingestNode calls
  | .triage => triageNode calls
  | .investigator => investigatorNode calls
  | .blastRadius => blastRadiusNode calls
  | .severity => severityNode calls

/-- A node succeeds with a state or fails with an error. -/
def outcome : PipelineNode → InvestigationState F → Except AgentError (InvestigationState F)
  | .ingest => guardedOutcome 30 "ingest" 2 ingestBody calls.ingest
  | .triage => guardedOutcome 10 "triage" 2 triageBody calls.triage
  | .investigator => guardedOutcome 60 "investigator" 2 investigatorBody calls.investigator
  | .blastRadius => guardedOutcome 90 "blast_radius" 2 blastRadiusBody calls.blastRadius
  | .severity => guardedOutcome 45 "severity" 2 severityBody calls.severity

omit [Scalar F] in
/-- The keys that the body of a node sets in the state that it returns. -/
def sets (state : InvestigationState F) : PipelineNode → List StateKey
  | .ingest => [.context]
  | .triage => [.triageScore, .routing]
  | .investigator => if state.context.isSome then [.context] else []
  | .blastRadius => if state.context.isSome then [.graph] else []
  | .severity => [.severity]

/-- These are the edges that `compile_graph` adds. -/
def next (state : InvestigationState F) : PipelineNode → Option PipelineNode
  | .ingest => some .triage
  | .triage =>
      match triageRouter state with
      | .investigate => some .investigator
      | .skip => none
  | .investigator => some .blastRadius
  | .blastRadius => some .severity
  | .severity => none

end PipelineNode

/-- The compiled graph. A wrapped node catches what its body raises. -/
def pipeline : Flow PipelineNode NodeException (InvestigationState F) where
  node node state := .ok (state.merged (node.returned calls state))
  next node state := node.next state

/-- A run of the compiled graph from its entry point to the end. -/
def PipelineRuns (state : InvestigationState F)
    (log : List (PipelineNode × InvestigationState F)) (final : InvestigationState F) : Prop :=
  (pipeline calls).Runs (some .ingest) state log final

end Outcome

end Sprawl
