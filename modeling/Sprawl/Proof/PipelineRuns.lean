/-
This file proves what a run of the investigation graph leaves in the state, for every failure.
-/

import Sprawl.Investigation.Job
import Sprawl.Investigation.Pipeline
import Sprawl.Proof.Pipeline

namespace Sprawl

open Effect

section Bodies

variable {F : Type} {state next : InvestigationState F}

/-- The next state has new values under some keys, and no new errors. -/
structure Writes (keys : List StateKey) (state next : InvestigationState F) : Prop where
  kept : ∀ key ∉ keys, next.get key = state.get key
  present : ∀ key ∈ keys, (next.get key).isSome = true
  errors : next.errors = state.errors

theorem writes_nothing (state : InvestigationState F) : Writes [] state state :=
  ⟨fun _ _ => rfl, fun _ inside => absurd inside List.not_mem_nil, rfl⟩

theorem ingestBody_writes {answers : IngestAnswers}
    (computed : ingestBody answers state = .ok next) :
    Writes (PipelineNode.ingest.sets state) state next := by
  rw [ingestBody] at computed
  split at computed <;> cases computed
  refine ⟨fun key other => ?_, List.forall_mem_singleton.mpr rfl, rfl⟩
  cases key <;> first | rfl | exact absurd List.mem_cons_self other

theorem triageBody_writes {answers : Unit} (computed : triageBody answers state = .ok next) :
    Writes (PipelineNode.triage.sets state) state next := by
  rw [triageBody] at computed
  split at computed <;> cases computed
  all_goals
    refine ⟨fun key other => ?_, List.forall_mem_cons.mpr ⟨rfl, List.forall_mem_singleton.mpr rfl⟩,
      rfl⟩
    cases key <;> first | rfl | exact absurd (by simp [PipelineNode.sets]) other

theorem investigatorBody_writes {answers : InvestigatorAnswers}
    (computed : investigatorBody answers state = .ok next) :
    Writes (PipelineNode.investigator.sets state) state next := by
  rw [investigatorBody] at computed
  split at computed <;> cases computed
  · next absent =>
      rw [PipelineNode.sets, absent]
      exact writes_nothing state
  · next context known =>
      have keys : PipelineNode.investigator.sets state = [.context] := by
        rw [PipelineNode.sets, known]
        rfl
      rw [keys]
      refine ⟨fun key other => ?_, List.forall_mem_singleton.mpr rfl, rfl⟩
      cases key <;> first | rfl | exact absurd List.mem_cons_self other

theorem blastRadiusBody_writes {answers : BlastRadiusAnswers}
    (computed : blastRadiusBody answers state = .ok next) :
    Writes (PipelineNode.blastRadius.sets state) state next := by
  rw [blastRadiusBody] at computed
  split at computed <;> cases computed
  · next absent =>
      rw [PipelineNode.sets, absent]
      exact writes_nothing state
  · next context known =>
      have keys : PipelineNode.blastRadius.sets state = [.graph] := by
        rw [PipelineNode.sets, known]
        rfl
      rw [keys]
      refine ⟨fun key other => ?_, List.forall_mem_singleton.mpr rfl, rfl⟩
      cases key <;> first | rfl | exact absurd List.mem_cons_self other

theorem severityBody_writes [Scalar F] {answers : SeverityAnswers}
    (computed : severityBody answers state = .ok next) :
    Writes (PipelineNode.severity.sets state) state next := by
  rw [severityBody] at computed
  split at computed <;> cases computed
  all_goals
    refine ⟨fun key other => ?_, List.forall_mem_singleton.mpr rfl, rfl⟩
    cases key <;> first | rfl | exact absurd List.mem_cons_self other

end Bodies

section Node

variable {F Answers : Type} {state next : InvestigationState F}

/-- The state that comes with an outcome. A failure adds its error. -/
def InvestigationState.settled (state : InvestigationState F) :
    Except AgentError (InvestigationState F) → InvestigationState F
  | .ok next => next
  | .error failure => { state with errors := state.errors ++ [failure] }

theorem guardrail_settled (timeoutS : Nat) (nodeName : String) (maxAttempts : Nat)
    (body : NodeBody F Answers) (calls : Nat → NodeCall Answers) (state : InvestigationState F) :
    guardrail timeoutS nodeName maxAttempts body calls state =
      state.settled (guardedOutcome timeoutS nodeName maxAttempts body calls state) := by
  rw [guardrail, guardedOutcome]
  cases withRetry body state calls (maxAttempts - 1) 0 with
  | returned next => rfl
  | timedOut => rfl
  | raised exception => cases exception <;> rfl

theorem guardedOutcome_ok {timeoutS : Nat} {nodeName : String} {maxAttempts : Nat}
    {body : NodeBody F Answers} {calls : Nat → NodeCall Answers}
    (succeeded : guardedOutcome timeoutS nodeName maxAttempts body calls state = .ok next) :
    ∃ answers, body answers state = .ok next := by
  rw [guardedOutcome] at succeeded
  cases outcome : withRetry body state calls (maxAttempts - 1) 0 with
  | returned other =>
      rw [outcome] at succeeded
      cases succeeded
      obtain ⟨answers, _, computed⟩ := withRetry_returned outcome
      exact ⟨answers, computed⟩
  | timedOut =>
      rw [outcome] at succeeded
      cases succeeded
  | raised exception =>
      rw [outcome] at succeeded
      cases exception <;> cases succeeded

theorem guardedOutcome_error {timeoutS : Nat} {nodeName : String} {maxAttempts : Nat}
    {body : NodeBody F Answers} {calls : Nat → NodeCall Answers} {failure : AgentError}
    (failed : guardedOutcome timeoutS nodeName maxAttempts body calls state = .error failure) :
    failure.node = nodeName := by
  rw [guardedOutcome] at failed
  cases outcome : withRetry body state calls (maxAttempts - 1) 0 with
  | returned other =>
      rw [outcome] at failed
      cases failed
  | timedOut =>
      rw [outcome] at failed
      cases failed
      rfl
  | raised exception =>
      rw [outcome] at failed
      cases exception <;> cases failed <;> rfl

variable [Scalar F] {calls : NodeCalls} {node : PipelineNode}

namespace PipelineNode

theorem returned_settled (node : PipelineNode) (state : InvestigationState F) :
    node.returned calls state = state.settled (node.outcome calls state) := by
  cases node <;> exact guardrail_settled _ _ _ _ _ state

theorem outcome_writes (succeeded : node.outcome calls state = .ok next) :
    Writes (node.sets state) state next := by
  cases node with
  | ingest =>
      obtain ⟨_, computed⟩ := guardedOutcome_ok succeeded
      exact ingestBody_writes computed
  | triage =>
      obtain ⟨_, computed⟩ := guardedOutcome_ok succeeded
      exact triageBody_writes computed
  | investigator =>
      obtain ⟨_, computed⟩ := guardedOutcome_ok succeeded
      exact investigatorBody_writes computed
  | blastRadius =>
      obtain ⟨_, computed⟩ := guardedOutcome_ok succeeded
      exact blastRadiusBody_writes computed
  | severity =>
      obtain ⟨_, computed⟩ := guardedOutcome_ok succeeded
      exact severityBody_writes computed

theorem outcome_error {failure : AgentError} (failed : node.outcome calls state = .error failure) :
    failure.node = node.name := by
  cases node <;> exact guardedOutcome_error failed

end PipelineNode

omit [Scalar F] in
theorem merged_of_keys (keeps : ∀ key, (next.get key).or (state.get key) = next.get key) :
    state.merged next = next := by
  have context := keeps .context
  have triageScore := keeps .triageScore
  have routing := keeps .routing
  have graph := keeps .graph
  have severity := keeps .severity
  dsimp only [InvestigationState.get] at context triageScore routing graph severity
  rw [InvestigationState.merged, context, triageScore, routing, graph, severity]

/-- The state that a node returns has all keys that it met. -/
theorem merged_returned (node : PipelineNode) (state : InvestigationState F) :
    state.merged (node.returned calls state) = node.returned calls state := by
  rw [node.returned_settled]
  apply merged_of_keys
  intro key
  cases outcome : node.outcome calls state with
  | ok next =>
      have writes := PipelineNode.outcome_writes outcome
      change (next.get key).or (state.get key) = next.get key
      by_cases inside : key ∈ node.sets state
      · exact Option.or_of_isSome (writes.present key inside)
      · rw [writes.kept key inside, Option.or_self]
  | error failure => cases key <;> exact Option.or_self

end Node

section Runs

variable {F : Type} [Scalar F] (calls : NodeCalls)

/-- The error of a node that failed. -/
def PipelineNode.failure (visit : PipelineNode × InvestigationState F) : Option AgentError :=
  match visit.1.outcome calls visit.2 with
  | .ok _ => none
  | .error failure => some failure

/-- The value that a node set under a key, if it succeeded and set the key. -/
def PipelineNode.written (key : StateKey) (visit : PipelineNode × InvestigationState F) :
    Option (Option (key.Value F)) :=
  match visit.1.outcome calls visit.2 with
  | .ok next => if key ∈ visit.1.sets visit.2 then some (next.get key) else none
  | .error _ => none

variable {calls} {state final : InvestigationState F}
  {log : List (PipelineNode × InvestigationState F)}

theorem pipeline_node (node : PipelineNode) (state : InvestigationState F) :
    (pipeline calls).node node state = .ok (node.returned calls state) :=
  congrArg Except.ok (merged_returned node state)

/-- The nodes of a run with the states that they meet. -/
def pipelineLog (calls : NodeCalls) (state : InvestigationState F) :
    List (PipelineNode × InvestigationState F) :=
  let ingested := ingestNode calls state
  let triaged := triageNode calls ingested
  match triageRouter triaged with
  | .skip => [(.ingest, state), (.triage, ingested)]
  | .investigate =>
      let investigated := investigatorNode calls triaged
      [(.ingest, state), (.triage, ingested), (.investigator, triaged),
        (.blastRadius, investigated), (.severity, blastRadiusNode calls investigated)]

/-- The graph runs to its end from every state, whatever its nodes meet. -/
theorem pipelineRuns_runGraph (calls : NodeCalls) (state : InvestigationState F) :
    PipelineRuns calls state (pipelineLog calls state) (runGraph calls state) := by
  rw [pipelineLog, runGraph]
  cases routed : triageRouter (triageNode calls (ingestNode calls state)) with
  | skip =>
      refine .visit (pipeline_node .ingest state) (.visit (pipeline_node .triage _) ?_)
      have edge : (pipeline calls).next .triage (triageNode calls (ingestNode calls state)) =
          none := by
        change PipelineNode.next _ .triage = none
        rw [PipelineNode.next, routed]
      exact edge ▸ .finish _
  | investigate =>
      refine .visit (pipeline_node .ingest state) (.visit (pipeline_node .triage _) ?_)
      have edge : (pipeline calls).next .triage (triageNode calls (ingestNode calls state)) =
          some .investigator := by
        change PipelineNode.next _ .triage = some .investigator
        rw [PipelineNode.next, routed]
      refine edge ▸ .visit (pipeline_node .investigator _) ?_
      exact .visit (pipeline_node .blastRadius _) (.visit (pipeline_node .severity _) (.finish _))

/-- A node changes at most the keys that it sets. -/
theorem returned_get (node : PipelineNode) (state : InvestigationState F) (key : StateKey) :
    (node.returned calls state).get key =
      (PipelineNode.written calls key (node, state)).getD (state.get key) := by
  rw [node.returned_settled, PipelineNode.written]
  cases outcome : node.outcome calls state with
  | ok next =>
      dsimp only [InvestigationState.settled]
      split
      · rfl
      · next other => exact (PipelineNode.outcome_writes outcome).kept key other
  | error failure => cases key <;> rfl

theorem returned_errors (node : PipelineNode) (state : InvestigationState F) :
    (node.returned calls state).errors =
      state.errors ++ (PipelineNode.failure calls (node, state)).toList := by
  rw [node.returned_settled, PipelineNode.failure]
  cases outcome : node.outcome calls state with
  | ok next =>
      rw [Option.toList_none, List.append_nil]
      exact (PipelineNode.outcome_writes outcome).errors
  | error failure => rfl

variable {final : InvestigationState F} {log : List (PipelineNode × InvestigationState F)}

theorem runs_errors (runs : PipelineRuns calls state log final) :
    final.errors = state.errors ++ log.filterMap (PipelineNode.failure calls) := by
  refine Flow.Runs.collected (fun node met after done => ?_) runs
  obtain rfl := Except.ok.inj ((pipeline_node node met).symm.trans done)
  exact returned_errors node met

theorem runs_values (runs : PipelineRuns calls state log final) (key : StateKey) :
    final.get key = lastWrite (PipelineNode.written calls key) (state.get key) log := by
  have each : ∀ (node : PipelineNode) (met after : InvestigationState F),
      (pipeline calls).node node met = .ok after →
        after.get key = (PipelineNode.written calls key (node, met)).getD (met.get key) := by
    intro node met after done
    obtain rfl := Except.ok.inj ((pipeline_node node met).symm.trans done)
    exact returned_get node met key
  exact Flow.Runs.lastWrite each runs

/-- The error of a failed node names the node. -/
theorem failure_named {visit : PipelineNode × InvestigationState F} {failure : AgentError}
    (failed : failure ∈ PipelineNode.failure calls visit) : failure.node = visit.1.name := by
  rw [PipelineNode.failure] at failed
  cases outcome : visit.1.outcome calls visit.2 with
  | ok next =>
      rw [outcome] at failed
      cases failed
  | error other =>
      rw [outcome] at failed
      obtain rfl := Option.some.inj failed
      exact PipelineNode.outcome_error outcome

/-- Without a routing in the state, only a triage that succeeded can skip the other nodes. -/
theorem skips_only_triaged (unrouted : state.routing = none)
    (skips : triageRouter (triageNode calls state) = .skip) :
    ∃ next, PipelineNode.triage.outcome calls state = .ok next ∧ next.routing = some .skip := by
  have routed : (triageNode calls state).routing = some .skip := by
    rw [triageRouter] at skips
    cases set : (triageNode calls state).routing with
    | none =>
        rw [set] at skips
        cases skips
    | some routing =>
        rw [set] at skips
        exact congrArg some skips
  have settled : triageNode calls state = state.settled (PipelineNode.triage.outcome calls state) :=
    PipelineNode.triage.returned_settled state
  cases outcome : PipelineNode.triage.outcome calls state with
  | ok next =>
      rw [settled, outcome] at routed
      exact ⟨next, rfl, routed⟩
  | error failure =>
      rw [settled, outcome] at routed
      cases unrouted.symm.trans routed

/-- Ingest leaves the routing as it is. -/
theorem ingestNode_routing : (ingestNode calls state).routing = state.routing := by
  have settled : ingestNode calls state = state.settled (PipelineNode.ingest.outcome calls state) :=
    PipelineNode.ingest.returned_settled state
  rw [settled]
  cases outcome : PipelineNode.ingest.outcome calls state with
  | ok next => exact (PipelineNode.outcome_writes outcome).kept .routing (by simp [PipelineNode.sets])
  | error failure => rfl

/-- What a run of the graph from the state of a job leaves in the state. -/
structure Contained (calls : NodeCalls) (log : List (PipelineNode × InvestigationState F))
    (final : InvestigationState F) : Prop where
  errors : final.errors = log.filterMap (PipelineNode.failure calls)
  named : ∀ visit ∈ log, ∀ failure ∈ PipelineNode.failure calls visit,
    failure.node = visit.1.name
  values : ∀ key, final.get key = lastWrite (PipelineNode.written calls key) none log
  path : log.map (·.1) = [.ingest, .triage] ∧
      (∃ met next, (.triage, met) ∈ log ∧ PipelineNode.triage.outcome calls met = .ok next ∧
        next.routing = some .skip) ∨
    log.map (·.1) = [.ingest, .triage, .investigator, .blastRadius, .severity]

theorem pipelineLog_path (unrouted : state.routing = none) :
    (pipelineLog calls state).map (·.1) = [.ingest, .triage] ∧
      (∃ met next, (.triage, met) ∈ pipelineLog calls state ∧
        PipelineNode.triage.outcome calls met = .ok next ∧ next.routing = some .skip) ∨
    (pipelineLog calls state).map (·.1) =
      [.ingest, .triage, .investigator, .blastRadius, .severity] := by
  rw [pipelineLog]
  cases routed : triageRouter (triageNode calls (ingestNode calls state)) with
  | skip =>
      obtain ⟨next, succeeded, skip⟩ :=
        skips_only_triaged (ingestNode_routing.trans unrouted) routed
      exact Or.inl ⟨rfl, _, next, List.mem_cons_of_mem _ (List.mem_singleton_self _), succeeded,
        skip⟩
  | investigate => exact Or.inr rfl

/-- Every investigation runs to the end of its graph, in one way, and contains its failures. -/
theorem pipeline_contained (calls : NodeCalls) (job : InvestigationJob) (traceId : Option String) :
    ∃ log final, PipelineRuns calls (job.initialState (F := F) traceId) log final ∧
      (∀ other last, PipelineRuns calls (job.initialState traceId) other last →
        other = log ∧ last = final) ∧
      final = runGraph calls (job.initialState traceId) ∧ Contained calls log final := by
  have runs := pipelineRuns_runGraph calls (job.initialState (F := F) traceId)
  have absent : ∀ key, (job.initialState (F := F) traceId).get key = none := by
    intro key
    cases key <;> rfl
  refine ⟨_, _, runs, fun other last another => runs.unique another, rfl, ?_⟩
  exact ⟨runs_errors runs, fun _ _ _ failed => failure_named failed,
    fun key => (runs_values runs key).trans (congrArg (lastWrite _ · _) (absent key)),
    pipelineLog_path rfl⟩

end Runs

end Sprawl
