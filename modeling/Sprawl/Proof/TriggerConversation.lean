/-
This file gives the stages of a request that triggers a rotation.
-/

import Sprawl.Effect.Conversing
import Sprawl.Rotation.Triggers

namespace Sprawl

open Effect

/-- A request has not looked for an active rotation, has found one, or inserts one of its own. -/
inductive TriggerStage where
  | requiring
  | checking
  | absent
  | named (rotationId : Uuid)
  | proposed (rotationId : Uuid) (drawn : List Uuid) (written : Nat)
  | audited (rotationId : Uuid) (drawn : List Uuid)
  | committed (rotationId : Uuid)
  | found (rotationId : Uuid) (status : RotationStatus)
  | missing
  | failed

namespace TriggerStage

/-- The response that a stage ends with. -/
def outcome (secretId : Uuid) : TriggerStage → Option (Except HttpError Json)
  | .committed rotationId => some (.ok (triggered secretId rotationId .pendingApproval))
  | .found rotationId status => some (.ok (triggered secretId rotationId status))
  | .missing => some (.error (notFound "secret_not_found"))
  | .failed => some (.error internalError)
  | _ => none

/-- The request has drawn an identifier. -/
def drew (id : Uuid) : TriggerStage → TriggerStage
  | .absent => .named id
  | .proposed rotationId drawn written => .proposed rotationId (drawn ++ [id]) written
  | stage => stage

/-- The request has inserted a step. -/
def wroteStep : TriggerStage → TriggerStage
  | .proposed rotationId drawn written => .proposed rotationId drawn (written + 1)
  | stage => stage

/-- The request has inserted its audit entry. -/
def wroteAudit : TriggerStage → TriggerStage
  | .proposed rotationId drawn _ => .audited rotationId drawn
  | stage => stage

def commits : TriggerStage → TriggerStage
  | .audited rotationId _ => .committed rotationId
  | stage => stage

end TriggerStage

section Conversation

variable (workspaceId secretId : Uuid) (known : String → Prop)

/-- The rotation is for the secret, and its creator is known. -/
def NewRotation.Proposes (rotationId : Uuid) (row : NewRotation) : Prop :=
  row.id = rotationId ∧ row.workspaceId = workspaceId ∧ row.secretId = secretId ∧
    ∀ text ∈ row.createdBy, known text

/-- The step is the next one of the rotation. -/
def NewStep.IsNext (rotationId : Uuid) (drawn : List Uuid) (written : Nat) (row : NewStep) : Prop :=
  row.rotationId = rotationId ∧ row.workspaceId = workspaceId ∧ drawn[written]? = some row.id ∧
    row.idx = written

/-- What a request may issue in a stage. -/
inductive TriggerStage.Allows : TriggerStage → ApiCommand → Prop where
  | require : Allows .requiring (.select (.secret secretId workspaceId))
  | check : Allows .checking (.select (.activeRotation secretId workspaceId))
  | time : Allows .absent .now
  | name : Allows .absent .uuid4
  | propose (rotationId : Uuid) (row : NewRotation)
      (proposes : row.Proposes workspaceId secretId known rotationId) :
      Allows (.named rotationId) (.write (.rotation row))
  | draw (rotationId : Uuid) (drawn : List Uuid) (few : drawn.length < 4) :
      Allows (.proposed rotationId drawn 0) .uuid4
  | step (rotationId : Uuid) (drawn : List Uuid) (written : Nat) (row : NewStep)
      (next : row.IsNext workspaceId rotationId drawn written) :
      Allows (.proposed rotationId drawn written) (.write (.rotationStep row))
  | audit (rotationId : Uuid) (drawn : List Uuid) (entry : AuditEntry)
      (within : entry.workspaceId = workspaceId) (all : drawn.length = 4) :
      Allows (.proposed rotationId drawn 4) (.write (.audit entry))
  | commit (rotationId : Uuid) (drawn : List Uuid) : Allows (.audited rotationId drawn) .commit

/-- The next stage after a reply. -/
def TriggerStage.next (stage : TriggerStage) : (issued : ApiCommand) → issued.Reply → TriggerStage
  | .select (.secret _ _), none => .missing
  | .select (.secret _ _), some _ => .checking
  | .select (.activeRotation _ _), none => .absent
  | .select (.activeRotation _ _), some (rotationId, status) => .found rotationId status
  | .uuid4, id => stage.drew id
  | .write (.rotation row), .ok _ => .proposed row.id [] 0
  | .write (.rotationStep _), .ok _ => stage.wroteStep
  | .write (.audit _), .ok _ => stage.wroteAudit
  | .write _, .error _ => .failed
  | .commit, _ => stage.commits
  | _, _ => stage

def rotationConversation : Conversation ApiCommand ApiCommand.Reply TriggerStage where
  allowed := TriggerStage.Allows workspaceId secretId known
  next := TriggerStage.next

end Conversation

section Leaves

variable {workspaceId secretId : Uuid} {known : String → Prop} {α : Type}

/-- A request that raises leaves a stage with the exception as its response. -/
def TriggerLeaves (workspaceId secretId : Uuid) (known : String → Prop)
    (returned : α → TriggerStage → Prop) (stage : TriggerStage) (program : ApiHandler α) : Prop :=
  Raising.Leaves (rotationConversation workspaceId secretId known)
    ⟨returned, fun raised left => left.outcome secretId = some (.error raised)⟩ stage program

theorem leaves_issue {issued : ApiCommand} {stage : TriggerStage}
    (allowed : stage.Allows workspaceId secretId known issued) :
    TriggerLeaves workspaceId secretId known (fun reply left => left = stage.next issued reply) stage
      (issueApi issued) :=
  Raising.leaves_perform allowed fun _ => rfl

/-- A statement that fails ends the request. -/
theorem leaves_execute {statement : ApiWrite} {stage : TriggerStage}
    (allowed : stage.Allows workspaceId secretId known (.write statement)) :
    TriggerLeaves workspaceId secretId known
      (fun _ left => left = stage.next (.write statement) (.ok ())) stage (execute statement) := by
  refine Raising.leaves_bind (leaves_issue allowed) fun reply left same => ?_
  subst same
  cases reply with
  | ok value => exact Raising.leaves_pure rfl
  | error raised =>
      refine Raising.leaves_throw ?_
      cases statement <;> rfl

/-- The steps that a request draws carry the identifiers of its stage. -/
theorem leaves_drawSteps {rotationId : Uuid} (idx : Int)
    (kinds : List (StepKind × Document × Option Document × Bool)) (drawn : List Uuid)
    (few : drawn.length + kinds.length ≤ 4) :
    TriggerLeaves workspaceId secretId known
      (fun steps left =>
        left = .proposed rotationId (drawn ++ steps.map (·.id)) 0 ∧ steps.length = kinds.length ∧
          ∀ (position : Nat) row, steps[position]? = some row → row.rotationId = rotationId ∧
            row.workspaceId = workspaceId ∧ row.idx = idx + position)
      (.proposed rotationId drawn 0) (drawSteps workspaceId rotationId idx kinds) := by
  induction kinds generalizing idx drawn with
  | nil =>
      refine Raising.leaves_pure ⟨?_, rfl, fun position row inside => nomatch inside⟩
      rw [List.map_nil, List.append_nil]
  | cons kind rest ih =>
      obtain ⟨kind, target, compensation, requiresConfirmation⟩ := kind
      rw [List.length_cons] at few
      have allowed : TriggerStage.Allows workspaceId secretId known
          (.proposed rotationId drawn 0) .uuid4 := .draw rotationId drawn (by omega)
      refine Raising.leaves_bind (leaves_issue allowed) fun id left same => ?_
      subst same
      have later := ih (idx + 1) (drawn ++ [id]) (by
        rw [List.length_append, List.length_singleton]
        omega)
      refine Raising.leaves_bind later fun steps left drew => ?_
      obtain ⟨rfl, length, follow⟩ := drew
      refine Raising.leaves_pure ⟨?_, ?_, ?_⟩
      · rw [List.append_assoc]
        rfl
      · rw [List.length_cons, List.length_cons, length]
      · intro position row inside
        cases position with
        | zero =>
            cases inside
            exact ⟨rfl, rfl, (Int.add_zero idx).symm⟩
        | succ position =>
            obtain ⟨sameRotation, sameWorkspace, sameIdx⟩ := follow position row inside
            refine ⟨sameRotation, sameWorkspace, ?_⟩
            rw [sameIdx]
            omega

/-- The steps are inserted one after the other. -/
theorem leaves_insertSteps {rotationId : Uuid} {drawn : List Uuid} (steps : List NewStep)
    (written : Nat)
    (follow : ∀ (position : Nat) (row : NewStep), steps[position]? = some row →
      row.IsNext workspaceId rotationId drawn (written + position)) :
    TriggerLeaves workspaceId secretId known
      (fun _ left => left = .proposed rotationId drawn (written + steps.length))
      (.proposed rotationId drawn written) (insertSteps steps) := by
  induction steps generalizing written with
  | nil => exact Raising.leaves_pure rfl
  | cons row rest ih =>
      have allowed : TriggerStage.Allows workspaceId secretId known
          (.proposed rotationId drawn written) (.write (.rotationStep row)) :=
        .step rotationId drawn written row (follow 0 row rfl)
      refine Raising.leaves_bind (leaves_execute allowed) fun _ left same => ?_
      subst same
      have later := ih (written + 1) fun position next inside => by
        rw [Nat.add_assoc, Nat.add_comm 1]
        exact follow (position + 1) next inside
      rw [List.length_cons, Nat.add_comm rest.length, ← Nat.add_assoc]
      exact later

/-- A request that has drawn its steps inserts them with an audit entry and commits. -/
theorem leaves_commits {rotationId : Uuid} {steps : List NewStep} {entry : AuditEntry}
    (all : steps.length = 4) (within : entry.workspaceId = workspaceId)
    (follow : ∀ (position : Nat) row, steps[position]? = some row → row.rotationId = rotationId ∧
      row.workspaceId = workspaceId ∧ row.idx = 0 + position) :
    TriggerLeaves workspaceId secretId known
      (fun response left => left.outcome secretId = some (.ok response))
      (.proposed rotationId (steps.map (·.id)) 0)
      (do
        insertSteps steps
        execute (.audit entry)
        issueApi .commit
        return triggered secretId rotationId .pendingApproval) := by
  have inserted : TriggerLeaves workspaceId secretId known
      (fun _ left => left = .proposed rotationId (steps.map (·.id)) (0 + steps.length))
      (.proposed rotationId (steps.map (·.id)) 0) (insertSteps steps) := by
    refine leaves_insertSteps steps 0 fun position row inside => ?_
    obtain ⟨sameRotation, sameWorkspace, sameIdx⟩ := follow position row inside
    refine ⟨sameRotation, sameWorkspace, ?_, ?_⟩
    · rw [Nat.zero_add, List.getElem?_map, inside]
      rfl
    · rw [sameIdx, Nat.zero_add, Int.zero_add]
  refine Raising.leaves_bind inserted fun _ left same => ?_
  subst same
  have drawn : (steps.map (·.id)).length = 4 := (List.length_map _).trans all
  rw [Nat.zero_add, all]
  refine Raising.leaves_bind
    (leaves_execute (.audit rotationId (steps.map (·.id)) entry within drawn)) fun _ left same => ?_
  subst same
  refine Raising.leaves_bind
    (leaves_issue (.commit rotationId (steps.map (·.id)))) fun _ left same => ?_
  subst same
  exact Raising.leaves_pure rfl

theorem leaves_requireSecret :
    TriggerLeaves workspaceId secretId known (fun _ left => left = .checking) .requiring
      (requireSecret workspaceId secretId) := by
  refine Raising.leaves_bind (leaves_issue .require) fun reply left same => ?_
  subst same
  cases reply with
  | none => exact Raising.leaves_throw rfl
  | some secret => exact Raising.leaves_pure rfl

/-- A request keeps to its conversation, and its response is the outcome of the last stage. -/
theorem leaves_triggerRotation (hour : Time) {claims : TokenClaims} (isKnown : known claims.sub) :
    Program.Leaves (rotationConversation workspaceId secretId known)
      (fun response left => left.outcome secretId = some response) .requiring
      (triggerRotation workspaceId secretId hour claims).run := by
  have leaves : TriggerLeaves workspaceId secretId known
      (fun response left => left.outcome secretId = some (.ok response)) .requiring
      (triggerRotation workspaceId secretId hour claims) := by
    refine Raising.leaves_bind leaves_requireSecret fun secret left same => ?_
    subst same
    refine Raising.leaves_bind (leaves_issue .check) fun reply left same => ?_
    subst same
    cases reply with
    | some active => exact Raising.leaves_pure rfl
    | none =>
        refine Raising.leaves_bind (leaves_issue .time) fun time left same => ?_
        subst same
        refine Raising.leaves_bind (leaves_issue .name) fun rotationId left same => ?_
        subst same
        have proposed : TriggerStage.Allows workspaceId secretId known (.named rotationId)
            (.write (.rotation
              { id := rotationId, workspaceId, secretId
                plan := triggeredDocument secret claims.sub
                coverage := triggeredCoverage
                expiresAt := time + planLifetime hour
                createdBy := if isValidUuid claims.sub then some claims.sub else none })) := by
          refine .propose rotationId _ ⟨rfl, rfl, rfl, fun text given => ?_⟩
          simp only [Option.mem_def, Option.ite_none_right_eq_some, Option.some.injEq] at given
          exact given.2 ▸ isKnown
        refine Raising.leaves_bind (leaves_execute proposed) fun _ left same => ?_
        subst same
        refine Raising.leaves_bind
          (leaves_drawSteps 0 (triggeredSteps secret) [] (le_refl 4)) fun steps left drew => ?_
        obtain ⟨rfl, all, follow⟩ := drew
        exact leaves_commits all rfl follow
  refine Program.Leaves.mono leaves fun response left fits => ?_
  cases response with
  | ok value => exact fits
  | error raised => exact fits

end Leaves

end Sprawl
