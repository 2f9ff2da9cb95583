/-
This file proves that an errand stays with its rotation and that only an approval starts a job of
its own accord.
-/

import Sprawl.Api.Traffic
import Sprawl.Proof.Advance
import Sprawl.Proof.Handle

namespace Sprawl

open Effect

/-- The statement pauses a rotation. -/
def Write.pauses : Write → Option Uuid
  | .rotationStatus rotationId _ .awaitingConfirmation _ => some rotationId
  | _ => none

/-- These commands read, pause, run and enqueue this rotation only. -/
def Command.Confined (rotationId : Uuid) : Command → Prop
  | .select (.rotation id _) => id = rotationId
  | .write statement => ∀ id ∈ statement.pauses, id = rotationId
  | .enqueueJob job => job.rotationId = rotationId
  | .executeStep step rotation => rotation.id = rotationId ∧ step.rotationId = rotationId
  | _ => True

/-- The reply has the rows of the rotation that the query names. -/
def Keyed : (issued : Command) → issued.Reply → Prop
  | .select (.rotation id _), found => ∀ rotation ∈ found, rotation.id = id
  | .select (.steps id), steps => ∀ step ∈ steps, step.rotationId = id
  | _, _ => True

/-- An errand for a rotation stays with it. -/
def confinedProtocol (rotationId : Uuid) : Protocol Command Command.Reply Unit where
  allowed _ issued := issued.Confined rotationId
  assumed _ issued reply := Keyed issued reply
  next _ _ := ()

/-- A program stays with the rotation. -/
abbrev StaysWith {α : Type} (rotationId : Uuid) (program : RotationProgram α) : Prop :=
  program.Follows (confinedProtocol rotationId) ()

/-- The rotation that an errand is about. -/
def Errand.rotationId : Errand → Uuid
  | .request (.approve _ rotationId _) => rotationId
  | .request (.reject _ rotationId _) => rotationId
  | .request (.confirm _ rotationId _ _) => rotationId
  | .job queued => queued.rotationId

section Programs

variable {α β : Type} {rotationId : Uuid}

theorem staysWith_bind {program : RotationProgram α} {next : α → RotationProgram β}
    (confined : program.Issues (·.Confined rotationId))
    (later : ∀ value, StaysWith rotationId (next value)) : StaysWith rotationId (program >>= next) :=
  Program.follows_bind (confined.mono fun _ allowed => ⟨allowed, rfl⟩) later

theorem staysWith_of_issues {program : RotationProgram α}
    (confined : program.Issues (·.Confined rotationId)) : StaysWith rotationId program :=
  Program.follows_of_issues (confined.mono fun _ allowed => ⟨allowed, rfl⟩)

end Programs

attribute [local simp] select write commit now publish issue auditRotation setRotationStatus
  enqueueJob acquireLock releaseLock Command.Confined Write.pauses

section Engine

variable (rotationId workspaceId : Uuid) (actor : String)

/-- A status update of the rotation is confined to it. -/
theorem setRotationStatus_confined (status : RotationStatus) :
    (setRotationStatus rotationId workspaceId status).Issues (·.Confined rotationId) := by
  cases status <;> simp

theorem completeRotation_confined (before : RotationStatus) (message : String) :
    (completeRotation rotationId workspaceId actor before message).Issues
      (·.Confined rotationId) := by
  simp [completeRotation]

theorem rollback_confined (failedIdx : Int) (steps : List RotationStep) (rotation : Rotation) :
    (rollback rotationId workspaceId actor failedIdx steps rotation).Issues
      (·.Confined rotationId) := by
  have passes := @compensateSteps_issues (·.Confined rotationId) rotation (fun _ => trivial)
    (by simp) trivial
  rw [rollback_eq]
  refine Program.issues_bind (by simp [beginRollback]) fun _ =>
    Program.issues_bind (by simp) fun time => Program.issues_bind (passes time _) fun failures => ?_
  unfold endRollback
  exact Program.issues_bind (setRotationStatus_confined rotationId workspaceId _) fun _ => by simp

theorem runStep_confined (steps : List RotationStep) {rotation : Rotation} {step : RotationStep}
    (own : rotation.id = rotationId) (inside : step.rotationId = rotationId) :
    (runStep rotationId workspaceId actor steps rotation step).Issues (·.Confined rotationId) := by
  unfold runStep
  refine Program.issues_bind ?_ fun _ => Program.issues_bind ?_ fun result =>
    Program.issues_bind (by simp) fun time => ?_
  · unfold startStep
    split
    · exact Program.issues_bind (setRotationStatus_confined rotationId workspaceId _) fun _ => by simp
    · trivial
  · simp [callExecuteStep, own, inside]
  · split
    · rw [finishStep_eq]
      refine Program.issues_bind ?_ fun _ => ?_
      · cases saved : result.newSecretRef <;> simp [recordFinished, saveNewSecretRef, saved]
      · split
        · exact completeRotation_confined _ _ _ _ _
        · trivial
    · rw [failStep_eq]
      exact Program.issues_bind (by simp [recordFailed]) fun _ => rollback_confined _ _ _ _ _ _

theorem advanceSteps_confined {rotation : Rotation} (own : rotation.id = rotationId)
    {steps : List RotationStep} (inside : ∀ step ∈ steps, step.rotationId = rotationId) :
    (advanceSteps rotationId workspaceId actor rotation steps).Issues (·.Confined rotationId) := by
  unfold advanceSteps
  split
  · trivial
  · split
    · split
      · exact completeRotation_confined _ _ _ _ _
      · trivial
    · rename_i step next
      have present : step ∈ steps := (findNextStep_eq_some next).1
      split
      · simp [awaitConfirmation]
      · refine Program.issues_bind (revokeGates_issues trivial _ _) fun verdict => ?_
        cases verdict with
        | error blocked =>
            unfold blockRevoke
            exact Program.issues_bind (setRotationStatus_confined rotationId workspaceId _)
              fun _ => by simp
        | ok passed => exact runStep_confined _ _ _ _ own (inside step present)

/-- An engine call stays with its rotation. -/
theorem advanceRotation_staysWith : StaysWith rotationId (advanceRotation rotationId workspaceId actor) := by
  unfold advanceRotation
  refine Program.follows_perform_bind.mpr ⟨rfl, fun found keyed => ?_⟩
  cases found with
  | none => trivial
  | some rotation =>
      have own : rotation.id = rotationId := keyed rotation rfl
      simp only
      split
      · trivial
      · refine staysWith_bind (planExpired_issues trivial rotation) fun late => ?_
        split
        · exact staysWith_of_issues (by simp [expirePlan])
        · refine Program.follows_perform_bind.mpr ⟨trivial, fun steps inside => ?_⟩
          exact staysWith_of_issues (advanceSteps_confined _ _ _ own inside)

end Engine

/-- A job stays with its rotation, and so does the next job. -/
theorem runRotationStep_staysWith (job : Job) : StaysWith job.rotationId (runRotationStep job) := by
  unfold runRotationStep
  refine staysWith_bind (by simp) fun acquired => ?_
  cases acquired with
  | false => trivial
  | true =>
      refine Program.Follows.bind (fun _ => rfl) (advanceRotation_staysWith _ _ _) fun result => ?_
      refine staysWith_bind (by simp) fun _ => ?_
      split
      · exact staysWith_of_issues (by simp)
      · trivial

/-- A request stays with the rotation that it addresses. -/
theorem request_staysWith (request : Request) :
    StaysWith (Errand.request request).rotationId request.program.run := by
  cases request with
  | approve workspaceId rotationId claims =>
      apply follows_requireRole
      apply follows_requireRotation rfl
      intro rotation _
      split
      · trivial
      · exact staysWith_of_issues ⟨by simp, fun _ => ⟨trivial, fun _ => ⟨rfl, fun _ => trivial⟩⟩⟩
  | reject workspaceId rotationId claims =>
      apply follows_requireRole
      apply follows_requireRotation rfl
      intro rotation _
      split
      · trivial
      · exact staysWith_of_issues ⟨trivial, fun _ => ⟨by simp, fun _ => ⟨by simp, fun _ =>
          ⟨trivial, fun _ => trivial⟩⟩⟩⟩
  | confirm workspaceId rotationId stepId claims =>
      apply follows_requireRole
      apply follows_requireRotation rfl
      intro rotation _
      split
      · trivial
      · refine staysWith_of_issues ⟨trivial, fun found => ?_⟩
        cases found with
        | none => trivial
        | some step =>
            change Program.Issues _ (ExceptT.run (if step.status ≠ .pending then _ else _))
            split
            · trivial
            · exact ⟨trivial, fun _ => ⟨by simp, fun _ => ⟨by simp, fun _ => ⟨trivial, fun _ =>
                ⟨rfl, fun _ => trivial⟩⟩⟩⟩⟩

/-- An errand stays with its rotation. -/
theorem errand_staysWith (errand : Errand) : StaysWith errand.rotationId errand.program := by
  cases errand with
  | request request =>
      unfold Errand.program StaysWith
      rw [Program.follows_map]
      exact request_staysWith request
  | job job =>
      unfold Errand.program StaysWith
      rw [Program.follows_map]
      exact runRotationStep_staysWith job

/-- These commands pause a rotation, run a step or enqueue a job. -/
def Command.starts : Command → Bool
  | .write statement => statement.pauses.isSome
  | .enqueueJob _ => true
  | .executeStep _ _ => true
  | _ => false

def Command.enqueues : Command → Bool
  | .enqueueJob _ => true
  | _ => false

/-- The reply shows no paused rotation. -/
def Unpaused : (issued : Command) → issued.Reply → Prop
  | .select (.rotation _ _), found => ∀ rotation ∈ found, rotation.status ≠ .awaitingConfirmation
  | _, _ => True

/-- As long as it meets no paused rotation an errand starts nothing. -/
def unpausedProtocol : Protocol Command Command.Reply Unit where
  allowed _ issued := issued.starts = false
  assumed _ issued reply := Unpaused issued reply
  next _ _ := ()

/-- A program starts nothing unless it meets a paused rotation. -/
abbrev Waits {α : Type} (program : RotationProgram α) : Prop :=
  program.Follows unpausedProtocol ()

/-- A program is accepted right after it has enqueued a job, and it starts nothing else. -/
structure Endorses (program : RotationProgram Bool) : Prop where
  ends : program.ReturnsAfter Command.enqueues (· = true)
  quiet : program.Issues fun issued => issued.starts = true → issued.enqueues = true

section Requests

variable {workspaceId rotationId : Uuid} {claims : TokenClaims}

attribute [local simp] Command.starts Command.enqueues Write.pauses

theorem rejectRotation_waits : Waits (rejectRotation workspaceId rotationId claims).run := by
  apply follows_requireRole
  apply follows_requireRotation rfl
  intro rotation _
  split
  · trivial
  · exact Program.follows_of_issues ⟨⟨rfl, rfl⟩, fun _ => ⟨⟨rfl, rfl⟩, fun _ => ⟨⟨rfl, rfl⟩,
      fun _ => ⟨⟨rfl, rfl⟩, fun _ => trivial⟩⟩⟩⟩

theorem confirmStep_waits (stepId : Uuid) :
    Waits (confirmStep workspaceId rotationId stepId claims).run := by
  apply follows_requireRole
  apply follows_requireRotation rfl
  intro rotation unpaused
  rw [if_pos (unpaused rotation rfl)]
  trivial

/-- An approval by another role is refused. -/
theorem approveRotation_denied (denied : ¬ mayDecide claims) :
    Waits (approveRotation workspaceId rotationId claims).run := by
  have refused : ¬ (claims.role = "owner" ∨ claims.role = "approver") := denied
  simp [approveRotation, requireRole, refused]

theorem endorses_requireRole (roles : List String) {next : Unit → RequestProgram Json}
    (later : Endorses (accepted <$> (next ()).run)) :
    Endorses (accepted <$> (requireRole roles claims >>= next).run) := by
  unfold requireRole
  split
  · exact later
  · exact ⟨trivial, trivial⟩

theorem endorses_requireRotation {next : Rotation → RequestProgram Json}
    (later : ∀ rotation, Endorses (accepted <$> (next rotation).run)) :
    Endorses (accepted <$> (requireRotation rotationId workspaceId >>= next).run) := by
  constructor
  · refine ⟨fun enqueues => absurd enqueues (by simp), fun found => ?_⟩
    cases found with
    | none => trivial
    | some rotation => exact (later rotation).ends
  · refine ⟨fun starts => absurd starts (by simp), fun found => ?_⟩
    cases found with
    | none => trivial
    | some rotation => exact (later rotation).quiet

/-- An approval enqueues its job and is accepted. -/
theorem approveRotation_endorses :
    Endorses (accepted <$> (approveRotation workspaceId rotationId claims).run) := by
  apply endorses_requireRole
  apply endorses_requireRotation
  intro rotation
  split
  · exact ⟨trivial, trivial⟩
  · have other (issued : Command) (silent : issued.starts = false) :
        issued.enqueues = true → False := by
      cases issued <;> simp_all
    constructor
    · exact ⟨fun enqueues => (other _ rfl enqueues).elim, fun _ =>
        ⟨fun enqueues => (other _ rfl enqueues).elim, fun _ =>
          ⟨fun _ _ => ⟨true, rfl, rfl⟩, fun _ => trivial⟩⟩⟩
    · exact ⟨fun starts => absurd starts (by simp), fun _ =>
        ⟨fun starts => absurd starts (by simp), fun _ => ⟨fun _ => rfl, fun _ => trivial⟩⟩⟩

end Requests

end Sprawl
