/-
This file proves what the guardrail and the nodes do to the state of the investigation.
-/

import Sprawl.Investigation.Nodes

namespace Sprawl

section Guardrail

variable {F Answers : Type} {body : NodeBody F Answers} {state next : InvestigationState F}
  {calls : Nat → NodeCall Answers}

theorem callBody_returned {call : NodeCall Answers}
    (returned : callBody body state call = .returned next) :
    ∃ answers, call = .answered answers ∧ body answers state = .ok next := by
  cases call with
  | answered answers =>
      rw [callBody] at returned
      cases computed : body answers state with
      | ok other =>
          rw [computed] at returned
          cases returned
          exact ⟨answers, rfl, computed⟩
      | error exception =>
          rw [computed] at returned
          cases returned
  | raised exception => cases returned
  | stalled => cases returned

/-- One of the calls of a body gets these answers. -/
def Answered (calls : Nat → NodeCall Answers) (answers : Answers) : Prop :=
  ∃ attempt, calls attempt = .answered answers

/-- A state that the retries return comes from an answered call of the body. -/
theorem withRetry_returned {retries attempt : Nat}
    (returned : withRetry body state calls retries attempt = .returned next) :
    ∃ answers, Answered calls answers ∧ body answers state = .ok next := by
  induction retries generalizing attempt with
  | zero =>
      obtain ⟨answers, answered, computed⟩ := callBody_returned returned
      exact ⟨answers, ⟨attempt, answered⟩, computed⟩
  | succ retries ih =>
      rw [withRetry] at returned
      split at returned
      · split at returned
        · exact ih returned
        · cases returned
      · obtain ⟨answers, answered, computed⟩ := callBody_returned returned
        exact ⟨answers, ⟨attempt, answered⟩, computed⟩

def NodeCall.isAnswered : NodeCall Answers → Bool
  | .answered _ => true
  | _ => false

/-- One of the attempts is answered, and only transient exceptions come before it. -/
def answeredWithin (calls : Nat → NodeCall Answers) : Nat → Nat → Bool
  | 0, attempt => (calls attempt).isAnswered
  | retries + 1, attempt =>
      match calls attempt with
      | .answered _ => true
      | .raised exception => exception.isTransient && answeredWithin calls retries (attempt + 1)
      | .stalled => false

/-- A body that never raises returns exactly when one of its attempts is answered. -/
theorem withRetry_total (total : ∀ answers, body answers state = .ok next) {retries attempt : Nat} :
    (answeredWithin calls retries attempt = true →
      withRetry body state calls retries attempt = .returned next) ∧
    (answeredWithin calls retries attempt = false →
      ∀ other, withRetry body state calls retries attempt ≠ .returned other) := by
  induction retries generalizing attempt with
  | zero =>
      rw [answeredWithin, withRetry]
      cases calls attempt with
      | answered answers => simp [NodeCall.isAnswered, callBody, total answers]
      | raised exception => simp [NodeCall.isAnswered, callBody]
      | stalled => simp [NodeCall.isAnswered, callBody]
  | succ retries ih =>
      rw [answeredWithin, withRetry]
      cases calls attempt with
      | answered answers => simp [callBody, total answers]
      | stalled => simp [callBody]
      | raised exception =>
          simp only [callBody]
          cases exception.isTransient with
          | true => exact ih
          | false => simp

/-- A guarded node returns what its retries return, or the state with one more error. -/
theorem guardrail_cases (timeoutS : Nat) (nodeName : String) (maxAttempts : Nat)
    (body : NodeBody F Answers) (calls : Nat → NodeCall Answers) (state : InvestigationState F) :
    withRetry body state calls (maxAttempts - 1) 0 =
        .returned (guardrail timeoutS nodeName maxAttempts body calls state) ∨
      (∀ next, withRetry body state calls (maxAttempts - 1) 0 ≠ .returned next) ∧
        ∃ message recoverable, guardrail timeoutS nodeName maxAttempts body calls state =
          state.appendError nodeName message recoverable := by
  rw [guardrail]
  cases outcome : withRetry body state calls (maxAttempts - 1) 0 with
  | returned next => exact Or.inl rfl
  | timedOut =>
      refine Or.inr ⟨?_, _, _, rfl⟩
      intro next same
      cases same
  | raised exception =>
      refine Or.inr ⟨?_, ?_⟩
      · intro next same
        cases same
      · cases exception <;> exact ⟨_, _, rfl⟩

/-- A property that the body establishes and an error keeps holds behind the guardrail. -/
theorem guardrail_keeps (holds : InvestigationState F → Prop) {timeoutS : Nat} {nodeName : String}
    {maxAttempts : Nat}
    (established : ∀ answers next, Answered calls answers → body answers state = .ok next →
      holds next)
    (kept : ∀ node message recoverable, holds (state.appendError node message recoverable)) :
    holds (guardrail timeoutS nodeName maxAttempts body calls state) := by
  obtain returned | ⟨_, message, recoverable, same⟩ :=
    guardrail_cases timeoutS nodeName maxAttempts body calls state
  · obtain ⟨answers, answered, computed⟩ := withRetry_returned returned
    exact established answers _ answered computed
  · rw [same]
    exact kept nodeName message recoverable

end Guardrail

section Graph

variable {F : Type} [Scalar F]

/-- A property that every body establishes on the answers of its calls, and an error keeps. -/
structure PipelineInvariant (calls : NodeCalls) (holds : InvestigationState F → Prop) : Prop where
  error : ∀ state node message recoverable, holds state →
    holds (state.appendError node message recoverable)
  triage : ∀ answers state next, holds state → triageBody answers state = .ok next → holds next
  investigator : ∀ answers state next, holds state → Answered calls.investigator answers →
    investigatorBody answers state = .ok next → holds next
  blastRadius : ∀ answers state next, holds state → Answered calls.blastRadius answers →
    blastRadiusBody answers state = .ok next → holds next
  severity : ∀ answers state next, holds state → Answered calls.severity answers →
    severityBody answers state = .ok next → holds next

variable {calls : NodeCalls} {holds : InvestigationState F → Prop} {state : InvestigationState F}

/-- The nodes behind ingest keep such a property. -/
theorem PipelineInvariant.runGraph (invariant : PipelineInvariant calls holds)
    (ingested : holds (ingestNode calls state)) : holds (Sprawl.runGraph calls state) := by
  have kept : ∀ state, holds state → ∀ node message recoverable,
      holds (state.appendError node message recoverable) :=
    fun state before node message recoverable =>
      invariant.error state node message recoverable before
  have triaged : holds (triageNode calls (ingestNode calls state)) :=
    guardrail_keeps holds (fun answers next _ => invariant.triage answers _ next ingested)
      (kept _ ingested)
  rw [Sprawl.runGraph]
  split
  · exact triaged
  · have investigated :
        holds (investigatorNode calls (triageNode calls (ingestNode calls state))) :=
      guardrail_keeps holds (fun answers next => invariant.investigator answers _ next triaged)
        (kept _ triaged)
    have blasted : holds (blastRadiusNode calls
        (investigatorNode calls (triageNode calls (ingestNode calls state)))) :=
      guardrail_keeps holds (fun answers next => invariant.blastRadius answers _ next investigated)
        (kept _ investigated)
    exact guardrail_keeps holds
      (fun answers next => invariant.severity answers _ next blasted) (kept _ blasted)

/-- A severity in the state has the bucket of its score. -/
def InvestigationState.Bucketed (state : InvestigationState F) : Prop :=
  ∀ result ∈ state.severity, result.Bucketed

/-- A graph in the state is the one that blast_radius builds from one of its calls. -/
def InvestigationState.Built (calls : NodeCalls) (state : InvestigationState F) : Prop :=
  ∀ graph ∈ state.graph, ∃ answers, Answered calls.blastRadius answers ∧
    ∃ context, graph = blastRadiusGraph answers context

omit [Scalar F] in
/-- Triage and investigator leave the graph and the severity of the state as they are. -/
theorem triageBody_keeps {answers : Unit} {next : InvestigationState F}
    (computed : triageBody answers state = .ok next) :
    next.graph = state.graph ∧ next.severity = state.severity := by
  rw [triageBody] at computed
  split at computed <;> cases computed <;> exact ⟨rfl, rfl⟩

omit [Scalar F] in
theorem investigatorBody_keeps {answers : InvestigatorAnswers} {next : InvestigationState F}
    (computed : investigatorBody answers state = .ok next) :
    next.graph = state.graph ∧ next.severity = state.severity := by
  rw [investigatorBody] at computed
  split at computed <;> cases computed <;> exact ⟨rfl, rfl⟩

omit [Scalar F] in
theorem ingestNode_keeps :
    (ingestNode calls state).graph = state.graph ∧
      (ingestNode calls state).severity = state.severity := by
  apply guardrail_keeps fun next : InvestigationState F =>
    next.graph = state.graph ∧ next.severity = state.severity
  · intro answers next _ computed
    rw [ingestBody] at computed
    split at computed <;> cases computed
    exact ⟨rfl, rfl⟩
  · exact fun _ _ _ => ⟨rfl, rfl⟩

theorem built_invariant : PipelineInvariant calls (InvestigationState.Built (F := F) calls) where
  error _ _ _ _ before := before
  triage answers state next before computed := by
    rw [InvestigationState.Built, (triageBody_keeps computed).1]
    exact before
  investigator answers state next before _ computed := by
    rw [InvestigationState.Built, (investigatorBody_keeps computed).1]
    exact before
  blastRadius answers state next before answered computed := by
    rw [blastRadiusBody] at computed
    split at computed <;> cases computed
    · exact before
    · rename_i context _
      intro graph built
      exact ⟨answers, answered, context, (Option.some.inj built).symm⟩
  severity answers state next before _ computed := by
    rw [severityBody] at computed
    split at computed <;> cases computed <;> exact before

theorem bucketed_invariant : PipelineInvariant calls (InvestigationState.Bucketed (F := F)) where
  error _ _ _ _ before := before
  triage answers state next before computed := by
    rw [InvestigationState.Bucketed, (triageBody_keeps computed).2]
    exact before
  investigator answers state next before _ computed := by
    rw [InvestigationState.Bucketed, (investigatorBody_keeps computed).2]
    exact before
  blastRadius answers state next before _ computed := by
    rw [blastRadiusBody] at computed
    split at computed <;> cases computed <;> exact before
  severity answers state next before _ computed := by
    rw [severityBody] at computed
    split at computed <;> cases computed
    · intro result stored
      obtain rfl := Option.some.inj stored
      rfl
    · intro result stored
      obtain rfl := Option.some.inj stored
      exact severityScore_bucketed _ _ _ _ _

/-- The graph of a run from a state without one. -/
theorem runGraph_built (noGraph : state.graph = none) : (Sprawl.runGraph calls state).Built calls := by
  apply built_invariant.runGraph
  rw [InvestigationState.Built, ingestNode_keeps.1, noGraph]
  exact fun _ built => nomatch built

/-- The severity of a run from a state without one has the bucket of its score. -/
theorem runGraph_bucketed (noSeverity : state.severity = none) :
    (Sprawl.runGraph calls state).Bucketed := by
  have invariant : PipelineInvariant calls (InvestigationState.Bucketed (F := F)) :=
    bucketed_invariant
  apply invariant.runGraph
  rw [InvestigationState.Bucketed, ingestNode_keeps.2, noSeverity]
  exact fun _ stored => nomatch stored

end Graph

end Sprawl
