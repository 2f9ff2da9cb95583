/-
This file gives the cloud and the store that a list of connector events leaves behind.
-/

import Sprawl.Proof.WorldStep

namespace Sprawl

open Effect

/-- A created credential is outstanding until a successful deletion names it. -/
def ConnectorEvent.track (live : List String) : ConnectorEvent → List String
  | ⟨.createCredential _, .ok material⟩ => live ++ [material.credentialId]
  | ⟨.deleteCredential credential, .ok _⟩ => live.filter (· ≠ credential.credentialId)
  | _ => live

/-- These created credentials have not been deleted since. -/
def outstanding (events : List ConnectorEvent) : List String :=
  events.foldl ConnectorEvent.track []

theorem outstanding_append (events later : List ConnectorEvent) :
    outstanding (events ++ later) = later.foldl ConnectorEvent.track (outstanding events) :=
  List.foldl_append

/-- The event is a successful deletion of the credential. -/
def ConnectorEvent.deletes (credentialId : String) : ConnectorEvent → Bool
  | ⟨.deleteCredential credential, .ok _⟩ => credential.credentialId = credentialId
  | _ => false

/-- The material that a successful creation returns. -/
def ConnectorEvent.material : ConnectorEvent → Option CredentialMaterial
  | ⟨.createCredential _, .ok material⟩ => some material
  | _ => none

/-- A credential leaves the ledger through its deletion only. -/
theorem mem_track {live : List String} {event : ConnectorEvent} {credentialId : String} :
    credentialId ∈ event.track live ↔
      (credentialId ∈ live ∧ event.deletes credentialId = false) ∨
        event.material.map (·.credentialId) = some credentialId := by
  rcases event with ⟨call, reply⟩
  cases call <;> cases reply <;>
    simp [ConnectorEvent.track, ConnectorEvent.deletes, ConnectorEvent.material,
      @eq_comm _ credentialId]

/-- The ledger lists exactly the creations without a later deletion. -/
theorem mem_foldl_track {events : List ConnectorEvent} {live : List String}
    {credentialId : String} :
    credentialId ∈ events.foldl ConnectorEvent.track live ↔
      (credentialId ∈ live ∧ ∀ event ∈ events, event.deletes credentialId = false) ∨
        ∃ before event after, events = before ++ event :: after ∧
          event.material.map (·.credentialId) = some credentialId ∧
            ∀ later ∈ after, later.deletes credentialId = false := by
  induction events generalizing live with
  | nil => simp
  | cons head rest ih =>
      rw [List.foldl_cons, ih, mem_track]
      constructor
      · intro given
        obtain ⟨⟨inside, kept⟩ | made, none⟩ | ⟨before, event, after, rfl, made, none⟩ := given
        · exact Or.inl ⟨inside, List.forall_mem_cons.mpr ⟨kept, none⟩⟩
        · exact Or.inr ⟨[], head, rest, rfl, made, none⟩
        · exact Or.inr ⟨head :: before, event, after, rfl, made, none⟩
      · intro given
        obtain ⟨inside, none⟩ | ⟨before, event, after, split, made, none⟩ := given
        · obtain ⟨kept, none⟩ := List.forall_mem_cons.mp none
          exact Or.inl ⟨Or.inl ⟨inside, kept⟩, none⟩
        · cases before with
          | nil =>
              obtain ⟨rfl, rfl⟩ := List.cons.inj split
              exact Or.inl ⟨Or.inr made, none⟩
          | cons first before =>
              obtain ⟨rfl, rfl⟩ := List.cons.inj split
              exact Or.inr ⟨before, event, after, rfl, made, none⟩

/-- Nothing is outstanding when every creation has a later deletion. -/
theorem outstanding_eq_nil_iff {events : List ConnectorEvent} :
    outstanding events = [] ↔
      ∀ before event after, events = before ++ event :: after →
        ∀ material, event.material = some material →
          ∃ later ∈ after, later.deletes material.credentialId = true := by
  rw [List.eq_nil_iff_forall_not_mem]
  constructor
  · intro none before event after split material made
    by_contra kept
    simp only [not_exists, not_and, Bool.not_eq_true] at kept
    exact none material.credentialId (mem_foldl_track.mpr
      (Or.inr ⟨before, event, after, split, by simp [made], kept⟩))
  · intro deleted credentialId inside
    obtain ⟨absent, _⟩ | ⟨before, event, after, split, made, none⟩ := mem_foldl_track.mp inside
    · exact absurd absent List.not_mem_nil
    · obtain ⟨material, same, rfl⟩ := Option.map_eq_some_iff.mp made
      obtain ⟨later, within, gone⟩ := deleted before event after split material same
      simp [none later within] at gone

/-- These are the credentials of a list of events. -/
def createdMaterials (events : List ConnectorEvent) : List CredentialMaterial :=
  events.filterMap ConnectorEvent.material

theorem createdMaterials_append (events later : List ConnectorEvent) :
    createdMaterials (events ++ later) = createdMaterials events ++ createdMaterials later :=
  List.filterMap_append

/-- The connector calls of a run only grow. -/
theorem World.calls_extended {κ : Type} (world : World κ) (action : Action κ) :
    world.calls <+: (action.step world).calls := by
  cases action with
  | request request clock =>
      obtain ⟨reply, final, handled, same⟩ := world.handle_end request clock
      rw [Action.step, same]
      cases handled <;> exact List.prefix_refl _
  | advance invocation =>
      obtain ⟨final, ends, same⟩ := world.advance_end invocation
      obtain ⟨rows, events, reaches⟩ := ends.reaches
      rw [Action.step, same]
      exact ⟨events, reaches.calls.symm⟩

/-- The calls right after a visit are among the calls at the end. -/
theorem World.visit_calls_extended {κ : Type} {actions : List (Action κ)} {world : World κ} :
    ∀ visit ∈ visits Action.step actions world,
      (visit.2.step visit.1).calls <+: (runActions Action.step actions world).calls :=
  @grows_visits _ _ Action.step (fun first second : World κ => first.calls <+: second.calls)
    (fun world => List.prefix_refl world.calls) (fun first second => first.trans second)
    World.calls_extended actions world

section NewSecretRef

variable {rows after : Rows} {actor : String} {time : Time}

@[simp] theorem Rows.started_newSecretRef (rows : Rows) (actor : String) (step : RotationStep)
    (time : Time) :
    (rows.started actor step time).rotation.newSecretRef = rows.rotation.newSecretRef := by
  unfold Rows.started
  split <;> rfl

/-- A finished step saves the reference that its executor returns. -/
theorem Rows.finished_newSecretRef (rows : Rows) (actor : String) (step : RotationStep)
    (ref : Option NewSecretRef) (time : Time) :
    (rows.finished actor step ref time).rotation.newSecretRef =
      ref.or rows.rotation.newSecretRef := by
  cases ref <;> rfl

theorem Rows.afterFinish_newSecretRef (rows : Rows) (actor : String) (steps : List RotationStep)
    (step : RotationStep) (ref : Option NewSecretRef) (time : Time) :
    (rows.afterFinish actor steps step ref time).rotation.newSecretRef =
      ref.or rows.rotation.newSecretRef := by
  unfold Rows.afterFinish
  split
  · exact rows.finished_newSecretRef actor step ref time
  · exact rows.finished_newSecretRef actor step ref time

/-- A settled rotation keeps its reference. -/
theorem Settles.newSecretRef (settles : Settles rows actor time after) :
    after.rotation.newSecretRef = rows.rotation.newSecretRef := by
  cases settles <;> rfl

/-- A rollback keeps the reference. -/
theorem RolledBack.newSecretRef {κ : Type} {connectors : Connectors κ} {rotation : Rotation}
    {steps : List RotationStep} {step : RotationStep} {error : Option String}
    {events : List ConnectorEvent}
    (undone : RolledBack connectors actor rows rotation steps step error time events after) :
    after.rotation.newSecretRef = rows.rotation.newSecretRef := by
  obtain ⟨compensated, failures, all, rfl⟩ := undone.passes
  exact (congrArg Rotation.newSecretRef all.rotation_eq :)

end NewSecretRef

end Sprawl
