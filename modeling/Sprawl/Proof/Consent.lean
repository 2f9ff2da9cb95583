/-
This file proves that the confirmation columns record the accepted confirmations.
-/

import Sprawl.Proof.WorldStep

namespace Sprawl

open Effect

variable {κ : Type}

/-- A confirmation of this step has been accepted. -/
def World.hasConfirmed (world : World κ) (stepId : Uuid) : Prop :=
  ∃ claims, Request.confirm world.db.rotation.workspaceId world.db.rotation.id stepId claims ∈
    world.accepted

/-- The step was inserted with `requires_confirmation = true`. -/
def Proposal.flags (proposal : Proposal) (stepId : Uuid) : Prop :=
  ∃ spec ∈ proposal.steps, spec.id = stepId ∧ spec.requiresConfirmation = true

/-- The rows belong to the proposal, and their confirmation columns match the accepted requests. -/
structure Consented (proposal : Proposal) (world : World κ) : Prop where
  keeps : Keeps RotationStep.identity proposal.rows world.db
  flagged : ∀ step ∈ world.db.steps, step.requiresConfirmation = true ↔
    proposal.flags step.id ∧ ¬ world.hasConfirmed step.id
  confirmed : ∀ step ∈ world.db.steps, step.confirmedAt.isSome = true ↔ world.hasConfirmed step.id

namespace Consented

variable {proposal : Proposal} {world : World κ}

/-- A proposal starts without a confirmation. -/
theorem proposed (proposal : Proposal) (external : κ) :
    Consented proposal (World.proposed proposal external) where
  keeps := Keeps.refl _
  flagged := by
    intro step present
    obtain ⟨spec, inside, rfl⟩ := List.mem_map.mp present
    constructor
    · intro flag
      refine ⟨⟨spec, inside, rfl, flag⟩, ?_⟩
      intro given
      obtain ⟨claims, accepted⟩ := given
      exact absurd accepted List.not_mem_nil
    · intro given
      obtain ⟨⟨other, within, same, flag⟩, _⟩ := given
      have equal : other = spec := List.inj_on_of_nodup_map proposal.idUnique within inside same
      exact equal ▸ flag
  confirmed := by
    intro step present
    obtain ⟨spec, inside, rfl⟩ := List.mem_map.mp present
    constructor
    · intro set
      exact absurd set (by simp [StepSpec.row])
    · intro given
      obtain ⟨claims, accepted⟩ := given
      exact absurd accepted List.not_mem_nil

/-- A change that keeps the confirmation columns and the accepted requests keeps the match. -/
theorem of_keeps {after : World κ} (consented : Consented proposal world)
    (identity : Keeps RotationStep.identity world.db after.db)
    (consent : Keeps RotationStep.consent world.db after.db)
    (accepted : ∀ stepId claims,
      Request.confirm world.db.rotation.workspaceId world.db.rotation.id stepId claims ∈
        after.accepted ↔
      Request.confirm world.db.rotation.workspaceId world.db.rotation.id stepId claims ∈
        world.accepted) :
    Consented proposal after := by
  have same (stepId : Uuid) : after.hasConfirmed stepId ↔ world.hasConfirmed stepId := by
    simp only [World.hasConfirmed, identity.id, identity.workspaceId, accepted]
  refine ⟨consented.keeps.trans identity, ?_, ?_⟩
  · intro step present
    obtain ⟨old, inside, equal⟩ := consent.exists_before present
    have ids := congrArg StepConsent.id equal
    have flags := congrArg StepConsent.requiresConfirmation equal
    have holds := consented.flagged old inside
    simp only [RotationStep.consent] at ids flags
    rwa [same, ← flags, ← ids]
  · intro step present
    obtain ⟨old, inside, equal⟩ := consent.exists_before present
    have ids := congrArg StepConsent.id equal
    have times := congrArg StepConsent.confirmedAt equal
    have holds := consented.confirmed old inside
    simp only [RotationStep.consent] at ids times
    rwa [same, ← times, ← ids]

/-- An engine call keeps the match. -/
theorem engineEnd {connectors : Connectors κ} {actor : String} {session final : Session Rows κ}
    {after : World κ} (consented : Consented proposal world)
    (ends : EngineEnd connectors actor session final) (before : session.db = world.db)
    (rows : after.db = final.db) (accepted : after.accepted = world.accepted) :
    Consented proposal after := by
  apply consented.of_keeps
  · rw [rows, ← before]
    exact ends.keeps identity_engineless
  · rw [rows, ← before]
    exact ends.keeps consent_engineless
  · intro stepId claims
    rw [accepted]

/-- A confirmed step matches the confirmation that has just been accepted. -/
theorem confirm {after : World κ} (consented : Consented proposal world) {claims : TokenClaims}
    {actor : String} {step : RotationStep} {time : Time}
    (rows : after.db = world.db.confirmed actor step time)
    (accepted : after.accepted = world.accepted ++
      [.confirm world.db.rotation.workspaceId world.db.rotation.id step.id claims]) :
    Consented proposal after := by
  have identity : Keeps RotationStep.identity world.db after.db := by
    rw [rows]
    exact (Keeps.patchSteps _ _ fun _ => rfl).trans (Keeps.audited _ _ _ _ _)
  have same (stepId : Uuid) :
      after.hasConfirmed stepId ↔ world.hasConfirmed stepId ∨ stepId = step.id := by
    simp only [World.hasConfirmed, identity.id, identity.workspaceId, accepted, List.mem_append,
      List.mem_singleton, Request.confirm.injEq, true_and]
    constructor
    · intro given
      obtain ⟨token, earlier | ⟨now, _⟩⟩ := given
      · exact Or.inl ⟨token, earlier⟩
      · exact Or.inr now
    · intro given
      obtain ⟨token, earlier⟩ | now := given
      · exact ⟨token, Or.inl earlier⟩
      · exact ⟨claims, Or.inr ⟨now, rfl⟩⟩
  refine ⟨consented.keeps.trans identity, ?_, ?_⟩
  · intro row present
    rw [rows] at present
    obtain ⟨old, inside, rfl⟩ := mem_updateSteps.mp present
    have holds := consented.flagged old inside
    by_cases equal : old.id = step.id
    · simp [same, equal]
    · simp [same, equal, holds]
  · intro row present
    rw [rows] at present
    obtain ⟨old, inside, rfl⟩ := mem_updateSteps.mp present
    have holds := consented.confirmed old inside
    by_cases equal : old.id = step.id
    · simp [same, equal]
    · simp [same, equal, holds]

/-- A request keeps the match. -/
theorem handle (consented : Consented proposal world) (request : Request) (clock : Time) :
    Consented proposal (world.handle request clock) := by
  obtain ⟨reply, final, handled, same⟩ := world.handle_end request clock
  rw [same]
  cases handled with
  | refused error =>
      exact consented.of_keeps (Keeps.refl _) (Keeps.refl _) fun _ _ => Iff.rfl
  | approved claims role sent waiting body =>
      apply consented.of_keeps (Keeps.audited _ _ _ _ _) (Keeps.audited _ _ _ _ _)
      intro stepId token
      simp [sent]
  | rejected claims role sent waiting body =>
      refine consented.of_keeps ((Keeps.withStatus _ _ _).trans (Keeps.audited _ _ _ _ _))
        ((Keeps.withStatus _ _ _).trans (Keeps.audited _ _ _ _ _)) ?_
      intro stepId token
      simp [sent]
  | confirmed claims role step sent waiting inside pending body =>
      exact consented.confirm rfl (congrArg (world.accepted ++ [·]) sent)

/-- Every action keeps the match. -/
theorem action (consented : Consented proposal world) (action : Action κ) :
    Consented proposal (action.step world) := by
  cases action with
  | request request clock => exact consented.handle request clock
  | advance invocation =>
      obtain ⟨final, ends, same⟩ := world.advance_end invocation
      exact consented.engineEnd ends rfl (congrArg World.db same :)
        (congrArg World.accepted same :)

end Consented

end Sprawl
