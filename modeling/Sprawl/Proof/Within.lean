/-
This file proves that an errand works for its own workspace.
-/

import Sprawl.Proof.Confined
import Sprawl.Proof.Rollback

namespace Sprawl

open Effect

section Programs

variable (home : Uuid → Uuid) (workspaceId : Uuid)

/-- The statement writes rows of the workspace only. -/
def Write.Within : Write → Prop
  | .rotationStatus id _ _ _ => home id = workspaceId
  | .newSecretRef id _ _ => home id = workspaceId
  | .step id _ => home id = workspaceId
  | .stepsAt id _ _ => home id = workspaceId
  | .audit entry => entry.workspaceId = workspaceId

/-- The command writes, publishes and enqueues for the workspace only. -/
def Command.Within : Command → Prop
  | .write statement => statement.Within home workspaceId
  | .publish publication => publication.workspaceId = workspaceId
  | .enqueueJob job => job.workspaceId = workspaceId
  | _ => True

/-- The rows of a reply are in the workspace of their identifiers. -/
def AtHome : (issued : Command) → issued.Reply → Prop
  | .select (.rotation id workspaceId), found => found.isSome → home id = workspaceId
  | .select (.steps id), steps => ∀ step ∈ steps, home step.id = home id
  | .select (.step id rotationId), found => found.isSome → home id = home rotationId
  | _, _ => True

def homeProtocol : Protocol Command Command.Reply Unit where
  allowed _ issued := issued.Within home workspaceId
  assumed _ issued reply := AtHome home issued reply
  next _ _ := ()

/-- A program works for the workspace alone. -/
abbrev WorksWithin {α : Type} (program : RotationProgram α) : Prop :=
  program.Follows (homeProtocol home workspaceId) ()

variable {home workspaceId} {α β : Type}

theorem worksWithin_bind {program : RotationProgram α} {next : α → RotationProgram β}
    (within : program.Issues (·.Within home workspaceId))
    (later : ∀ value, WorksWithin home workspaceId (next value)) :
    WorksWithin home workspaceId (program >>= next) :=
  Program.follows_bind (within.mono fun _ allowed => ⟨allowed, rfl⟩) later

theorem worksWithin_of_issues {program : RotationProgram α}
    (within : program.Issues (·.Within home workspaceId)) : WorksWithin home workspaceId program :=
  Program.follows_of_issues (within.mono fun _ allowed => ⟨allowed, rfl⟩)

end Programs

attribute [local simp] select write commit now publish issue auditRotation setRotationStatus
  enqueueJob acquireLock releaseLock Command.Within Write.Within

section Engine

variable {home : Uuid → Uuid} {rotationId workspaceId : Uuid} (actor : String)
  (placed : home rotationId = workspaceId)

include placed

theorem completeRotation_within (before : RotationStatus) (message : String) :
    (completeRotation rotationId workspaceId actor before message).Issues
      (·.Within home workspaceId) := by
  simp [completeRotation, placed]

omit placed in
/-- The rollback loop writes the steps that it is given. -/
theorem compensateSteps_within (rotation : Rotation) (time : Time) {steps : List RotationStep}
    (own : ∀ step ∈ steps, home step.id = workspaceId) :
    (compensateSteps rotation time steps).Issues (·.Within home workspaceId) := by
  induction steps with
  | nil => trivial
  | cons step rest ih =>
      rw [List.forall_mem_cons] at own
      rw [compensateSteps_cons]
      refine Program.issues_bind ?_ fun result => Program.issues_bind (ih own.2) fun _ => trivial
      exact ⟨trivial, fun result => ⟨own.1, fun _ => ⟨trivial, fun _ => trivial⟩⟩⟩

theorem rollback_within (failedIdx : Int) {steps : List RotationStep} (rotation : Rotation)
    (own : ∀ step ∈ steps, home step.id = workspaceId) :
    (rollback rotationId workspaceId actor failedIdx steps rotation).Issues
      (·.Within home workspaceId) := by
  have compensated : ∀ step ∈ stepsToCompensate steps, home step.id = workspaceId := by
    intro step inside
    rw [stepsToCompensate, List.mem_reverse, List.mem_insertionSort] at inside
    exact own step (List.mem_of_mem_filter inside)
  rw [rollback_eq]
  refine Program.issues_bind (by simp [beginRollback, placed]) fun _ =>
    Program.issues_bind (by simp) fun time =>
      Program.issues_bind (compensateSteps_within rotation time compensated) fun failures => ?_
  simp [endRollback, placed]

theorem runStep_within {steps : List RotationStep} (rotation : Rotation) {step : RotationStep}
    (own : ∀ step ∈ steps, home step.id = workspaceId) (inside : step ∈ steps) :
    (runStep rotationId workspaceId actor steps rotation step).Issues
      (·.Within home workspaceId) := by
  unfold runStep
  refine Program.issues_bind ?_ fun _ => Program.issues_bind ?_ fun result =>
    Program.issues_bind (by simp) fun time => ?_
  · unfold startStep
    split
    · simp [placed]
    · trivial
  · simp [callExecuteStep]
  · split
    · rw [finishStep_eq]
      refine Program.issues_bind ?_ fun _ => ?_
      · cases saved : result.newSecretRef <;>
          simp [recordFinished, saveNewSecretRef, saved, placed, own step inside]
      · split
        · exact completeRotation_within _ placed _ _
        · trivial
    · rw [failStep_eq]
      exact Program.issues_bind (by simp [recordFailed, own step inside])
        fun _ => rollback_within _ placed _ _ own

theorem advanceSteps_within (rotation : Rotation) {steps : List RotationStep}
    (own : ∀ step ∈ steps, home step.id = workspaceId) :
    (advanceSteps rotationId workspaceId actor rotation steps).Issues
      (·.Within home workspaceId) := by
  unfold advanceSteps
  split
  · trivial
  · split
    · split
      · exact completeRotation_within _ placed _ _
      · trivial
    · rename_i step next
      split
      · simp [awaitConfirmation, placed]
      · refine Program.issues_bind (revokeGates_issues trivial _ _) fun verdict => ?_
        cases verdict with
        | error blocked => simp [blockRevoke, placed]
        | ok passed => exact runStep_within _ placed _ own (findNextStep_eq_some next).1

omit placed in
/-- An engine call works for its workspace: it writes nothing before it has found the rotation. -/
theorem advanceRotation_within :
    WorksWithin home workspaceId (advanceRotation rotationId workspaceId actor) := by
  unfold advanceRotation
  refine Program.follows_perform_bind.mpr ⟨trivial, fun found atHome => ?_⟩
  cases found with
  | none => trivial
  | some rotation =>
      have placed : home rotationId = workspaceId := atHome rfl
      simp only
      split
      · trivial
      · refine worksWithin_bind (planExpired_issues trivial rotation) fun late => ?_
        split
        · exact worksWithin_of_issues (by simp [expirePlan, placed])
        · refine Program.follows_perform_bind.mpr ⟨trivial, fun steps atHome => ?_⟩
          exact worksWithin_of_issues (advanceSteps_within _ placed _ fun step inside =>
            (atHome step inside).trans placed)

end Engine

section Errands

variable (home : Uuid → Uuid)

/-- The workspace of an errand. -/
def Errand.workspaceId : Errand → Uuid
  | .request (.approve workspaceId _ _) => workspaceId
  | .request (.reject workspaceId _ _) => workspaceId
  | .request (.confirm workspaceId _ _ _) => workspaceId
  | .job queued => queued.workspaceId

/-- A job works for its workspace, and so does the next job. -/
theorem runRotationStep_within (job : Job) :
    WorksWithin home job.workspaceId (runRotationStep job) := by
  unfold runRotationStep
  refine worksWithin_bind (by simp) fun acquired => ?_
  cases acquired with
  | false => trivial
  | true =>
      refine Program.Follows.bind (fun _ => rfl) (advanceRotation_within _) fun result => ?_
      refine worksWithin_bind (by simp) fun _ => ?_
      split
      · exact worksWithin_of_issues (by simp)
      · trivial

/-- A request works for the workspace in its path. -/
theorem request_within (request : Request) :
    WorksWithin home (Errand.request request).workspaceId request.program.run := by
  cases request with
  | approve workspaceId rotationId claims =>
      apply follows_requireRole
      apply follows_requireRotation trivial
      intro rotation _
      split
      · trivial
      · exact worksWithin_of_issues ⟨by simp [Errand.workspaceId], fun _ => ⟨trivial, fun _ =>
          ⟨rfl, fun _ => trivial⟩⟩⟩
  | reject workspaceId rotationId claims =>
      apply follows_requireRole
      apply follows_requireRotation trivial
      intro rotation atHome
      have placed : home rotationId = workspaceId := atHome rfl
      split
      · trivial
      · exact worksWithin_of_issues ⟨trivial, fun _ => ⟨placed, fun _ => ⟨rfl, fun _ =>
          ⟨trivial, fun _ => trivial⟩⟩⟩⟩
  | confirm workspaceId rotationId stepId claims =>
      apply follows_requireRole
      apply follows_requireRotation trivial
      intro rotation atHome
      have placed : home rotationId = workspaceId := atHome rfl
      split
      · trivial
      · refine ⟨trivial, fun found atHome => ?_⟩
        cases found with
        | none => trivial
        | some step =>
            have own : home stepId = workspaceId := (atHome rfl).trans placed
            change Program.Follows _ _ (ExceptT.run (if step.status ≠ .pending then _ else _))
            split
            · trivial
            · exact worksWithin_of_issues ⟨trivial, fun _ => ⟨own, fun _ => ⟨rfl, fun _ =>
                ⟨trivial, fun _ => ⟨rfl, fun _ => trivial⟩⟩⟩⟩⟩

theorem errand_within (errand : Errand) :
    WorksWithin home errand.workspaceId errand.program := by
  cases errand with
  | request request =>
      unfold Errand.program WorksWithin
      rw [Program.follows_map]
      exact request_within home request
  | job job =>
      unfold Errand.program WorksWithin
      rw [Program.follows_map]
      exact runRotationStep_within home job

end Errands

end Sprawl
