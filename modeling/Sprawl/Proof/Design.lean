/-
This file proves which columns the engine and the requests leave alone.
-/

import Sprawl.Proof.Advance
import Sprawl.Proof.Handle

namespace Sprawl

variable {κ : Type}

/-- These columns of a rotation never change. -/
def Rotation.frame (rotation : Rotation) : Rotation :=
  { rotation with status := .proposed, newSecretRef := none, updatedAt := 0 }

/-- The columns of a step that never change. -/
structure StepIdentity where
  id : Uuid
  idx : Int
  kind : StepKind
  target : StepTarget
  compensation : Option Compensation
  deriving DecidableEq, Repr

def RotationStep.identity (step : RotationStep) : StepIdentity where
  id := step.id
  idx := step.idx
  kind := step.kind
  target := step.target
  compensation := step.compensation

/-- The columns of a step that only a confirmation changes. -/
structure StepConsent where
  id : Uuid
  requiresConfirmation : Bool
  confirmedAt : Option Time
  deriving DecidableEq, Repr

def RotationStep.consent (step : RotationStep) : StepConsent where
  id := step.id
  requiresConfirmation := step.requiresConfirmation
  confirmedAt := step.confirmedAt

/-- Two states have the same rotation frame and the same values of one projection of the steps. -/
structure Keeps {α : Type} (field : RotationStep → α) (before after : Rows) : Prop where
  workspace : after.workspace = before.workspace
  rotation : after.rotation.frame = before.rotation.frame
  steps : after.steps.map field = before.steps.map field

namespace Keeps

variable {α : Type} {field : RotationStep → α} {before middle after : Rows}

theorem refl (rows : Rows) : Keeps field rows rows := ⟨rfl, rfl, rfl⟩

theorem trans (first : Keeps field before middle) (second : Keeps field middle after) :
    Keeps field before after :=
  ⟨second.workspace.trans first.workspace, second.rotation.trans first.rotation,
    second.steps.trans first.steps⟩

theorem id (keeps : Keeps field before after) : after.rotation.id = before.rotation.id :=
  (congrArg Rotation.id keeps.rotation :)

theorem workspaceId (keeps : Keeps field before after) :
    after.rotation.workspaceId = before.rotation.workspaceId :=
  (congrArg Rotation.workspaceId keeps.rotation :)

theorem secretId (keeps : Keeps field before after) :
    after.rotation.secretId = before.rotation.secretId :=
  (congrArg Rotation.secretId keeps.rotation :)

theorem plan (keeps : Keeps field before after) : after.rotation.plan = before.rotation.plan :=
  (congrArg Rotation.plan keeps.rotation :)

theorem planExpiresAt (keeps : Keeps field before after) :
    after.rotation.planExpiresAt = before.rotation.planExpiresAt :=
  (congrArg Rotation.planExpiresAt keeps.rotation :)

theorem coverage (keeps : Keeps field before after) :
    after.rotation.coverage = before.rotation.coverage :=
  (congrArg Rotation.coverage keeps.rotation :)

/-- A later step has the projection of an earlier step. -/
theorem exists_before (keeps : Keeps field before after) {step : RotationStep}
    (inside : step ∈ after.steps) : ∃ old ∈ before.steps, field old = field step := by
  have present : field step ∈ _ := List.mem_map.mpr ⟨step, inside, rfl⟩
  rw [keeps.steps] at present
  exact List.mem_map.mp present

/-- An earlier step has the projection of a later step. -/
theorem exists_after (keeps : Keeps field before after) {step : RotationStep}
    (inside : step ∈ before.steps) : ∃ later ∈ after.steps, field later = field step := by
  have present : field step ∈ _ := List.mem_map.mpr ⟨step, inside, rfl⟩
  rw [← keeps.steps] at present
  exact List.mem_map.mp present

theorem withStatus (rows : Rows) (status : RotationStatus) (time : Time) :
    Keeps field rows (rows.withStatus status time) := ⟨rfl, rfl, rfl⟩

theorem audited (rows : Rows) (actor action : String)
    (first second : Option (List (String × Json))) :
    Keeps field rows (rows.audited actor action first second) := ⟨rfl, rfl, rfl⟩

theorem savedRef (rows : Rows) (time : Time) (ref : Option NewSecretRef) :
    Keeps field rows (rows.savedRef time ref) := by
  cases ref <;> exact ⟨rfl, rfl, rfl⟩

theorem patchSteps (rows : Rows) (selected : RotationStep → Bool) {patch : StepPatch}
    (kept : ∀ step, field (patch.apply step) = field step) :
    Keeps field rows (rows.patchSteps selected patch) :=
  ⟨rfl, rfl, updateSteps_map field kept selected rows.steps⟩

theorem started (rows : Rows) (actor : String) (step : RotationStep) (time : Time) :
    Keeps field rows (rows.started actor step time) := by
  unfold Rows.started
  split <;> exact ⟨rfl, rfl, rfl⟩

end Keeps

/-- The engine sets only columns outside such a projection. -/
def Engineless {α : Type} (field : RotationStep → α) : Prop :=
  ∀ patch : StepPatch, patch.confirmedAt = none → ∀ step, field (patch.apply step) = field step

theorem identity_engineless : Engineless RotationStep.identity := fun _ _ _ => rfl

theorem consent_engineless : Engineless RotationStep.consent := by
  intro patch none step
  simp [RotationStep.consent, none]

theorem Settles.keeps {α : Type} {field : RotationStep → α} {rows after : Rows} {actor : String} {time : Time}
    (settles : Settles rows actor time after) : Keeps field rows after := by
  cases settles <;>
    first
      | exact Keeps.withStatus _ _ _
      | exact (Keeps.withStatus _ _ _).trans (Keeps.audited _ _ _ _ _)

section Engine

variable {α : Type} {field : RotationStep → α} (engineless : Engineless field)

include engineless

theorem Rows.finished_keeps (rows : Rows) (actor : String) (step : RotationStep)
    (ref : Option NewSecretRef) (time : Time) :
    Keeps field rows (rows.finished actor step ref time) :=
  ((Keeps.patchSteps rows _ (engineless _ rfl)).trans (Keeps.savedRef _ _ _)).trans
    (Keeps.audited _ _ _ _ _)

theorem Rows.afterFinish_keeps (rows : Rows) (actor : String) (steps : List RotationStep)
    (step : RotationStep) (ref : Option NewSecretRef) (time : Time) :
    Keeps field rows (rows.afterFinish actor steps step ref time) := by
  have finished := rows.finished_keeps engineless actor step ref time
  unfold Rows.afterFinish
  split
  · exact finished.trans ((Keeps.withStatus _ _ _).trans (Keeps.audited _ _ _ _ _))
  · exact finished

theorem CompensatedAll.keeps {keys : ConnectorKeys} {rotation : Rotation} {time : Time}
    {steps : List RotationStep} {rows final : Rows} {events : List ConnectorEvent}
    {failures : List String}
    (all : CompensatedAll keys rotation time steps rows events final failures) :
    Keeps field rows final := by
  induction all with
  | nil => exact Keeps.refl _
  | cons first others ih => exact (Keeps.patchSteps _ _ (engineless _ rfl)).trans ih

theorem RolledBack.keeps {connectors : Connectors κ} {actor : String} {rows final : Rows}
    {rotation : Rotation} {steps : List RotationStep} {step : RotationStep}
    {error : Option String} {time : Time} {events : List ConnectorEvent}
    (undone : RolledBack connectors actor rows rotation steps step error time events final) :
    Keeps field rows final := by
  obtain ⟨compensated, failures, all, rfl⟩ := undone.passes
  have failed : Keeps field rows (rows.failed actor step error time) :=
    (Keeps.patchSteps rows _ (engineless _ rfl)).trans (Keeps.audited _ _ _ _ _)
  have begun : Keeps field (rows.failed actor step error time)
      ((rows.failed actor step error time).rollingBack actor step.idx time) :=
    (Keeps.withStatus _ _ _).trans (Keeps.audited _ _ _ _ _)
  exact failed.trans (begun.trans ((all.keeps engineless).trans
    ((Keeps.withStatus _ _ _).trans (Keeps.audited _ _ _ _ _))))

/-- An engine call keeps every projection that the engine does not set. -/
theorem EngineEnd.keeps {connectors : Connectors κ} {actor : String}
    {session final : Session Rows κ} (ends : EngineEnd connectors actor session final) :
    Keeps field session.db final.db := by
  cases ends with
  | idle idles ends =>
      rw [ends.db]
      exact Keeps.refl _
  | settled after settles ends =>
      rw [ends.db]
      exact settles.keeps
  | ran step executes ends =>
      have started := @Keeps.started _ field session.db actor step session.clock
      cases ends with
      | finished done ends =>
          rw [ends.db]
          exact started.trans (Rows.afterFinish_keeps engineless _ _ _ _ _ _)
      | rolledBack failed later rows undone ends =>
          rw [ends.db]
          exact started.trans (undone.keeps engineless)

end Engine

/-- A confirmation sets only columns outside such a projection. -/
def Confirmless {α : Type} (field : RotationStep → α) : Prop :=
  ∀ (time : Time) (step : RotationStep),
    field (StepPatch.apply { confirmedAt := some time } step) = field step

theorem identity_confirmless : Confirmless RotationStep.identity := fun _ _ => rfl

/-- A request keeps every projection that a confirmation does not set. -/
theorem Handled.keeps {α : Type} {field : RotationStep → α} (confirmless : Confirmless field)
    {request : Request} {session final : Session Rows κ} {reply : Except HttpError Json}
    (handled : Handled request session reply final) : Keeps field session.db final.db := by
  cases handled with
  | refused error => exact Keeps.refl _
  | approved claims role sent waiting body => exact Keeps.audited _ _ _ _ _
  | rejected claims role sent waiting body =>
      exact (Keeps.withStatus _ _ _).trans (Keeps.audited _ _ _ _ _)
  | confirmed claims role step sent waiting inside pending body =>
      exact (Keeps.patchSteps _ _ (confirmless _)).trans (Keeps.audited _ _ _ _ _)

end Sprawl
