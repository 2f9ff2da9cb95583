/-
This file proves what the texts of the code host and of the language model can change in a job.
-/

import Sprawl.Effect.Relational
import Sprawl.Investigation.Job

namespace Sprawl

open Effect

section Erasure

variable {F : Type}

def FindingLocation.trusted (location : FindingLocation) : FindingLocation :=
  { location with fileSnippet := none }

/-- The context without what the investigator adds to it. -/
def SecretContext.trusted (context : SecretContext) : SecretContext :=
  { context with
    locations := context.locations.map FindingLocation.trusted
    storePresent := false
    lastUsedDate := none
    lastUsedService := none }

/-- What the rows can depend on in an explanation: whether it can be stored. -/
def trustedExplanation (explanation : Option String) : Option String :=
  if explanation.all storableText then none else some (String.singleton (Char.ofNat 0))

def SeverityResult.trusted (result : SeverityResult F) : SeverityResult F :=
  { result with explanation := trustedExplanation result.explanation }

/-- The state without the additions of the investigator and without the text of the explanation. -/
def InvestigationState.trusted (state : InvestigationState F) : InvestigationState F :=
  { state with
    context := state.context.map SecretContext.trusted
    severity := state.severity.map SeverityResult.trusted }

/-- The answers of an investigator that has learned nothing. -/
def InvestigatorAnswers.trusted (_ : InvestigatorAnswers) : InvestigatorAnswers where
  githubAvailable := false
  fileContent := fun _ => none
  storeReadable := false
  lastUsed := none

/-- The answers of a severity node whose language model tells no more than whether its text can be
stored. -/
def SeverityAnswers.trusted (answers : SeverityAnswers) : SeverityAnswers where
  explanation := trustedExplanation answers.explanation

def NodeCall.map {Answers Others : Type} (change : Answers → Others) :
    NodeCall Answers → NodeCall Others
  | .answered answers => .answered (change answers)
  | .raised exception => .raised exception
  | .stalled => .stalled

/-- The calls of a run in which nobody outside has told more than whether a text can be stored. -/
def NodeCalls.trusted (calls : NodeCalls) : NodeCalls :=
  { calls with
    investigator := fun attempt => (calls.investigator attempt).map InvestigatorAnswers.trusted
    severity := fun attempt => (calls.severity attempt).map SeverityAnswers.trusted }

def NodeOutcome.trusted : NodeOutcome F → NodeOutcome F
  | .returned state => .returned state.trusted
  | .raised exception => .raised exception
  | .timedOut => .timedOut

end Erasure

section Pipeline

variable {F Answers : Type}

@[simp] theorem NodeCall.map_id (call : NodeCall Answers) : call.map id = call := by
  cases call <;> rfl

@[simp] theorem FindingLocation.trusted_comp :
    FindingLocation.trusted ∘ FindingLocation.trusted = FindingLocation.trusted := rfl

@[simp] theorem SecretContext.trusted_comp :
    SecretContext.trusted ∘ SecretContext.trusted = SecretContext.trusted := by
  funext context
  simp [SecretContext.trusted]

@[simp] theorem SecretContext.trusted_trusted (context : SecretContext) :
    context.trusted.trusted = context.trusted :=
  congrFun SecretContext.trusted_comp context

/-- The trusted part of an explanation can be stored when the explanation can. -/
@[simp] theorem trustedExplanation_all (explanation : Option String) :
    (trustedExplanation explanation).all storableText = explanation.all storableText := by
  rw [trustedExplanation]
  split
  · rename_i stored
    exact stored.symm
  · rename_i refused
    exact (Bool.eq_false_iff.mpr refused).symm

@[simp] theorem trustedExplanation_trusted (explanation : Option String) :
    trustedExplanation (trustedExplanation explanation) = trustedExplanation explanation := by
  rw [trustedExplanation, trustedExplanation_all]
  rfl

@[simp] theorem SeverityResult.trusted_comp :
    SeverityResult.trusted (F := F) ∘ SeverityResult.trusted = SeverityResult.trusted := by
  funext result
  simp [SeverityResult.trusted]

@[simp] theorem InvestigationState.trusted_trusted (state : InvestigationState F) :
    state.trusted.trusted = state.trusted := by
  simp [InvestigationState.trusted]

/-- A body computes the trusted part of its state from trusted parts. -/
def Blind (trust : Answers → Answers) (body : NodeBody F Answers) : Prop :=
  ∀ answers state, (body answers state).map InvestigationState.trusted =
    (body (trust answers) state.trusted).map InvestigationState.trusted

/-- What the wrapper makes of the last call of a body. -/
def NodeOutcome.settled (timeoutS : Nat) (nodeName : String) (state : InvestigationState F) :
    NodeOutcome F → InvestigationState F
  | .returned next => next
  | .timedOut | .raised (.timeout _) =>
      state.appendError nodeName ("node timed out after " ++ toString timeoutS ++ "s") true
  | .raised exception => state.appendError nodeName exception.message false

theorem guardrail_eq (timeoutS : Nat) (nodeName : String) (maxAttempts : Nat)
    (body : NodeBody F Answers) (calls : Nat → NodeCall Answers) (state : InvestigationState F) :
    guardrail timeoutS nodeName maxAttempts body calls state =
      (withRetry body state calls (maxAttempts - 1) 0).settled timeoutS nodeName state := by
  rw [guardrail]
  cases withRetry body state calls (maxAttempts - 1) 0 with
  | raised exception => cases exception <;> rfl
  | _ => rfl

theorem InvestigationState.appendError_trusted (state : InvestigationState F)
    (node message : String) (recoverable : Bool) :
    (state.appendError node message recoverable).trusted =
      (state.trusted.appendError node message recoverable).trusted := by
  simp [InvestigationState.appendError, InvestigationState.trusted]

theorem NodeOutcome.settled_trusted (timeoutS : Nat) (nodeName : String)
    (state : InvestigationState F) (outcome : NodeOutcome F) :
    (outcome.settled timeoutS nodeName state).trusted =
      (outcome.trusted.settled timeoutS nodeName state.trusted).trusted := by
  cases outcome with
  | returned next => exact next.trusted_trusted.symm
  | timedOut => exact state.appendError_trusted _ _ _
  | raised exception => cases exception <;> exact state.appendError_trusted _ _ _

/-- The outcome of a body that has been called. -/
def NodeOutcome.ofResult : Except NodeException (InvestigationState F) → NodeOutcome F
  | .ok next => .returned next
  | .error exception => .raised exception

theorem NodeOutcome.ofResult_trusted (result : Except NodeException (InvestigationState F)) :
    (ofResult result).trusted = ofResult (result.map InvestigationState.trusted) := by
  cases result <;> rfl

/-- A call of a blind body is the one of the trusted run. -/
theorem Blind.callBody {trust : Answers → Answers} {body : NodeBody F Answers}
    (blind : Blind trust body) (state : InvestigationState F) (call : NodeCall Answers) :
    (callBody body state call).trusted = (callBody body state.trusted (call.map trust)).trusted := by
  cases call with
  | answered answers =>
      change (NodeOutcome.ofResult (body answers state)).trusted =
        (NodeOutcome.ofResult (body (trust answers) state.trusted)).trusted
      rw [NodeOutcome.ofResult_trusted, NodeOutcome.ofResult_trusted, blind answers state]
  | raised exception => rfl
  | stalled => rfl

/-- The outcome of a call that is repeated after a transient exception. -/
def NodeOutcome.retried : NodeOutcome F → NodeOutcome F → NodeOutcome F
  | .raised exception, later => if exception.isTransient then later else .raised exception
  | outcome, _ => outcome

theorem withRetry_succ (body : NodeBody F Answers) (state : InvestigationState F)
    (calls : Nat → NodeCall Answers) (retries attempt : Nat) :
    withRetry body state calls (retries + 1) attempt =
      (callBody body state (calls attempt)).retried
        (withRetry body state calls retries (attempt + 1)) := by
  rw [withRetry]
  cases callBody body state (calls attempt) <;> rfl

theorem NodeOutcome.retried_trusted (outcome later : NodeOutcome F) :
    (outcome.retried later).trusted = outcome.trusted.retried later.trusted := by
  cases outcome with
  | raised exception => exact apply_ite NodeOutcome.trusted _ _ _
  | _ => rfl

/-- The retries of a blind body are those of the trusted run. -/
theorem Blind.withRetry {trust : Answers → Answers} {body : NodeBody F Answers}
    (blind : Blind trust body) (state : InvestigationState F) (calls : Nat → NodeCall Answers)
    (retries attempt : Nat) : (withRetry body state calls retries attempt).trusted =
      (withRetry body state.trusted (fun attempt => (calls attempt).map trust) retries
        attempt).trusted := by
  induction retries generalizing attempt with
  | zero => exact blind.callBody state (calls attempt)
  | succ retries ih =>
      rw [withRetry_succ, withRetry_succ, NodeOutcome.retried_trusted, NodeOutcome.retried_trusted,
        blind.callBody, ih]

/-- A wrapped blind body computes the trusted part of its state from trusted parts. -/
theorem Blind.guardrail {trust : Answers → Answers} {body : NodeBody F Answers}
    (blind : Blind trust body) (timeoutS : Nat) (nodeName : String) (maxAttempts : Nat)
    (calls : Nat → NodeCall Answers) (state : InvestigationState F) :
    (guardrail timeoutS nodeName maxAttempts body calls state).trusted =
      (guardrail timeoutS nodeName maxAttempts body (fun attempt => (calls attempt).map trust)
        state.trusted).trusted := by
  have image := NodeOutcome.settled_trusted timeoutS nodeName state.trusted
    (Sprawl.withRetry body state.trusted (fun attempt => (calls attempt).map trust)
      (maxAttempts - 1) 0)
  rw [state.trusted_trusted] at image
  rw [guardrail_eq, guardrail_eq, NodeOutcome.settled_trusted, blind.withRetry]
  exact image.symm

end Pipeline

section Nodes

variable {F : Type}

variable {calls others : NodeCalls} {state image : InvestigationState F}

/-- A node of the pipeline computes the trusted part of its state from trusted parts. -/
theorem Blind.node {Answers : Type} {trust : Answers → Answers} {body : NodeBody F Answers}
    (blind : Blind trust body) (timeoutS : Nat) (nodeName : String) (maxAttempts : Nat)
    {calls others : Nat → NodeCall Answers}
    (alike : ∀ attempt, (calls attempt).map trust = (others attempt).map trust)
    (same : state.trusted = image.trusted) :
    (Sprawl.guardrail timeoutS nodeName maxAttempts body calls state).trusted =
      (Sprawl.guardrail timeoutS nodeName maxAttempts body others image).trusted := by
  rw [blind.guardrail, blind.guardrail timeoutS nodeName maxAttempts others, same, funext alike]

end Nodes

section Statements

def JobStatement.trusted : JobStatement → JobStatement
  | .severity id workspaceId secretId score factors explanation =>
      .severity id workspaceId secretId score factors (trustedExplanation explanation)
  | statement => statement

def JobCommand.trusted : JobCommand → JobCommand
  | .execute statement => .execute statement.trusted
  | command => command

/-- Two replies to alike commands are the same, up to what the outside has told. -/
def JobCommand.AlikeReplies : (issued other : JobCommand) → issued.Reply → other.Reply → Prop
  | .begin, .begin, _, _ => True
  | .execute _, .execute _, reply, answer => reply = answer
  | .commit, .commit, reply, answer => reply = answer
  | .rollback, .rollback, _, _ => True
  | .publish _ _ _, .publish _ _ _, _, _ => True
  | .initTrace, .initTrace, reply, answer => reply = answer
  | .invoke _, .invoke _, reply, answer =>
      reply.map NodeCalls.trusted = answer.map NodeCalls.trusted
  | .uuid4, .uuid4, reply, answer => reply = answer
  | _, _, _, _ => False

end Statements

section Programs

variable {α β γ δ : Type} {F : Type}

namespace InvestigationJob

variable (job : InvestigationJob)

variable [Scalar F] {final other : InvestigationState F}

end InvestigationJob

end Programs

end Sprawl
