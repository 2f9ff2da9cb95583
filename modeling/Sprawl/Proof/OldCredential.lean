/-
This file proves when a rotation never loses both of its credentials.
-/

import Sprawl.Proof.Failure
import Sprawl.Proof.StepOrder
import Sprawl.Rotation.Sandbox

namespace Sprawl

open Effect

variable {κ : Type}

/-- The event takes the credential out of use. -/
def ConnectorEvent.retires (credentialId : String) : ConnectorEvent → Bool
  | ⟨.disableCredential credential, .ok _⟩ => credential.credentialId = credentialId
  | ⟨.deleteCredential credential, .ok _⟩ => credential.credentialId = credentialId
  | _ => false

/-- No event has taken the credential out of use. -/
def Active (credentialId : String) (events : List ConnectorEvent) : Prop :=
  ∀ event ∈ events, event.retires credentialId = false

instance (credentialId : String) (events : List ConnectorEvent) :
    Decidable (Active credentialId events) :=
  inferInstanceAs (Decidable (∀ event ∈ events, event.retires credentialId = false))

/-- A credential that these events create is out of use. -/
def NewRetired (events : List ConnectorEvent) : Prop :=
  ∃ material ∈ createdMaterials events, ¬ Active material.credentialId events

/-- The events take only this credential out of use. -/
def RetiresOnly (credentialId : String) (events : List ConnectorEvent) : Prop :=
  ∀ event ∈ events, ∀ other, event.retires other = true → other = credentialId

/-- No creation returns this credential. -/
def NeverReissued (credentialId : String) (events : List ConnectorEvent) : Prop :=
  ∀ material ∈ createdMaterials events, material.credentialId ≠ credentialId

instance (credentialId : String) (events : List ConnectorEvent) :
    Decidable (NeverReissued credentialId events) :=
  inferInstanceAs (Decidable (∀ material ∈ createdMaterials events,
    material.credentialId ≠ credentialId))

section Events

variable {credentialId : String} {events later : List ConnectorEvent}

@[simp] theorem active_nil : Active credentialId [] := by simp [Active]

@[simp] theorem retiresOnly_nil : RetiresOnly credentialId [] := by simp [RetiresOnly]

theorem active_append :
    Active credentialId (events ++ later) ↔ Active credentialId events ∧ Active credentialId later :=
  List.forall_mem_append

theorem retiresOnly_append :
    RetiresOnly credentialId (events ++ later) ↔
      RetiresOnly credentialId events ∧ RetiresOnly credentialId later :=
  List.forall_mem_append

theorem neverReissued_append :
    NeverReissued credentialId (events ++ later) ↔
      NeverReissued credentialId events ∧ NeverReissued credentialId later := by
  unfold NeverReissued
  rw [createdMaterials_append, List.forall_mem_append]

/-- New credentials stay in use while only the old one is retired. -/
theorem RetiresOnly.new (only : RetiresOnly credentialId events)
    (fresh : NeverReissued credentialId events) : ¬ NewRetired events := by
  intro given
  obtain ⟨material, made, retired⟩ := given
  simp only [Active, not_forall, Bool.not_eq_false] at retired
  obtain ⟨event, inside, retires⟩ := retired
  exact fresh material made (only event inside _ retires)

end Events

/-- The revoke steps of the rows name the old credential. -/
def RevokesOld (old : String) (rows : Rows) : Prop :=
  ∀ step ∈ rows.steps, step.kind = .revoke → step.target.keyId = some old

theorem RevokesOld.of_keeps {old : String} {before after : Rows}
    (revokes : RevokesOld old before) (keeps : Keeps RotationStep.identity before after) :
    RevokesOld old after := by
  intro step inside revoke
  obtain ⟨earlier, present, same⟩ := keeps.exists_before inside
  have kind : earlier.kind = step.kind := congrArg StepIdentity.kind same
  have target : earlier.target = step.target := congrArg StepIdentity.target same
  rw [← target]
  exact revokes earlier present (kind.trans revoke)

/-- An executor retires only the old credential. -/
theorem Executed.retiresOnly {keys : ConnectorKeys} {step : RotationStep} {rotation : Rotation}
    {events : List ConnectorEvent} {result : StepResult} {old : String}
    (outcome : Executed keys step rotation events result)
    (target : step.kind = .revoke → step.target.keyId = some old) : RetiresOnly old events := by
  cases outcome with
  | revoked kind present =>
      have named := target kind
      simp [RetiresOnly, ConnectorEvent.retires, revokedCredential, named]
  | disableFailed kind present text => simp [RetiresOnly, ConnectorEvent.retires]
  | deleteFailed kind present text =>
      have named := target kind
      simp [RetiresOnly, ConnectorEvent.retires, revokedCredential, named]
  | _ => simp [RetiresOnly, ConnectorEvent.retires]

/-- A returned reference names a credential that the executor has just created. -/
theorem Executed.named {keys : ConnectorKeys} {step : RotationStep} {rotation : Rotation}
    {events : List ConnectorEvent} {result : StepResult}
    (outcome : Executed keys step rotation events result) {ref : NewSecretRef}
    (returned : result.newSecretRef = some ref) :
    ∃ material ∈ createdMaterials events, material.credentialId = ref.credentialId := by
  cases outcome with
  | provisioned kind present stored material version =>
      obtain rfl := Option.some.inj returned
      exact ⟨material, by simp [createdMaterials, ConnectorEvent.material], rfl⟩
  | _ => exact absurd returned (by simp [failedWith])

/-- A rollback deletes only the credential that the rotation row names. -/
theorem CompensatedAll.active {keys : ConnectorKeys} {rotation : Rotation} {time : Time}
    {steps : List RotationStep} {rows final : Rows} {events : List ConnectorEvent}
    {failures : List String} {old : String}
    (all : CompensatedAll keys rotation time steps rows events final failures)
    (other : ∀ ref, rotation.newSecretRef = some ref → ref.credentialId ≠ old) :
    Active old events := by
  induction all with
  | nil => simp [Active]
  | cons first others ih =>
      refine active_append.mpr ⟨?_, ih⟩
      cases first with
      | deleted deletes present ref known =>
          simp [Active, ConnectorEvent.retires, newCredential, other ref known]
      | deleteFailed deletes present ref known text => simp [Active, ConnectorEvent.retires]
      | quiet keeps => simp [Active]

/-- A live rotation has retired at most its old credential. After a rollback the old one is active. -/
structure Guarded (old : String) (world : World κ) : Prop where
  revokes : RevokesOld old world.db
  named : ∀ ref, world.db.rotation.newSecretRef = some ref →
    ∃ material ∈ createdMaterials world.calls, material.credentialId = ref.credentialId
  live : world.db.rotation.status.isTerminal = false → RetiresOnly old world.calls
  kept : RetiresOnly old world.calls ∨ Active old world.calls
  rolledBack : world.db.rotation.status = .rolledBack → Active old world.calls

namespace Guarded

variable {old : String} {world : World κ}

/-- A change that calls no connector keeps a guarded rotation guarded. -/
theorem of_calls {after : World κ} (guarded : Guarded old world)
    (keeps : Keeps RotationStep.identity world.db after.db)
    (ref : after.db.rotation.newSecretRef = world.db.rotation.newSecretRef)
    (calls : after.calls = world.calls)
    (live : after.db.rotation.status.isTerminal = false →
      world.db.rotation.status.isTerminal = false)
    (status : after.db.rotation.status = .rolledBack → world.db.rotation.status = .rolledBack) :
    Guarded old after where
  revokes := guarded.revokes.of_keeps keeps
  named := by
    rw [ref, calls]
    exact guarded.named
  live active := by
    rw [calls]
    exact guarded.live (live active)
  kept := by
    rw [calls]
    exact guarded.kept
  rolledBack ended := by
    rw [calls]
    exact guarded.rolledBack (status ended)

theorem handle (guarded : Guarded old world) (request : Request) (clock : Time) :
    Guarded old (world.handle request clock) := by
  obtain ⟨reply, final, handled, same⟩ := world.handle_end request clock
  have keeps := handled.keeps identity_confirmless
  rw [same]
  cases handled with
  | refused error => exact guarded.of_calls keeps rfl rfl (fun active => active) fun ended => ended
  | approved claims role sent waiting body =>
      exact guarded.of_calls keeps rfl rfl (fun active => active) fun ended => ended
  | rejected claims role sent waiting body =>
      refine guarded.of_calls keeps rfl rfl (fun active => ?_) fun ended => ?_
      · have stopped : RotationStatus.rejected.isTerminal = false := active
        exact absurd stopped (by decide)
      · have shown : RotationStatus.rejected = .rolledBack := ended
        exact absurd shown (by decide)
  | confirmed claims role step sent waiting inside pending body =>
      exact guarded.of_calls keeps rfl rfl (fun active => active) fun ended => ended

/-- A call whose step succeeds retires at most the old credential. -/
theorem finished (guarded : Guarded old world) {invocation : Invocation κ} {step : RotationStep}
    (executes : Executes world.db invocation.clock step) {final : Session Rows κ}
    (ends : Reaches (world.session.opened invocation.clock)
      ((world.db.started invocation.actor step invocation.clock).afterFinish invocation.actor
        world.db.ordered step (world.outcome invocation step).newSecretRef invocation.clock)
      ((world.session.opened invocation.clock).outcomeEvents invocation.connectors step
        world.db.rotation) final)
    (keeps : Keeps RotationStep.identity world.db final.db) :
    Guarded old { world with session := final.closed } := by
  have outcome := (world.session.opened invocation.clock).outcome_executed invocation.connectors
    step world.db.rotation
  have only : RetiresOnly old final.calls := by
    rw [ends.calls, retiresOnly_append]
    exact ⟨guarded.live executes.live.active,
      outcome.retiresOnly (guarded.revokes step (Rows.nextStep_eq_some executes.next).1)⟩
  refine ⟨guarded.revokes.of_keeps keeps, ?_, fun _ => only, Or.inl only, ?_⟩
  · intro ref known
    have saved : (world.outcome invocation step).newSecretRef.or world.db.rotation.newSecretRef =
        some ref := by
      rw [← known]
      change _ = final.db.rotation.newSecretRef
      rw [ends.db, Rows.afterFinish_newSecretRef, Rows.started_newSecretRef]
    change ∃ material ∈ createdMaterials final.calls, _
    rw [ends.calls, createdMaterials_append]
    simp only [List.mem_append]
    cases returned : (world.outcome invocation step).newSecretRef with
    | none =>
        rw [returned, Option.none_or] at saved
        obtain ⟨material, made, named⟩ := guarded.named ref saved
        exact ⟨material, Or.inl made, named⟩
    | some other =>
        rw [returned, Option.some_or] at saved
        obtain rfl := Option.some.inj saved
        obtain ⟨material, made, named⟩ := outcome.named returned
        exact ⟨material, Or.inr made, named⟩
  · intro ended
    change final.db.rotation.status = _ at ended
    rw [ends.db, Rows.afterFinish_status, Rows.started_status] at ended
    split at ended
    · exact absurd ended (by decide)
    · cases kind : step.kind <;> rw [kind] at ended <;> exact absurd ended (by decide)

/-- A rollback that starts while the old credential is active leaves it active. -/
theorem rolled (guarded : Guarded old world) {invocation : Invocation κ} {step : RotationStep}
    {later : List ConnectorEvent} {rows : Rows} {final : Session Rows κ}
    (undone : RolledBack invocation.connectors invocation.actor
      (world.db.started invocation.actor step invocation.clock) world.db.rotation
      world.db.ordered step (world.outcome invocation step).error invocation.clock later rows)
    (ends : Reaches (world.session.opened invocation.clock) rows
      ((world.session.opened invocation.clock).outcomeEvents invocation.connectors step
        world.db.rotation ++ later) final)
    (keeps : Keeps RotationStep.identity world.db final.db)
    (active : Active old (world.callsAfter invocation step))
    (fresh : NeverReissued old world.calls) :
    Guarded old { world with session := final.closed } := by
  have ref : final.db.rotation.newSecretRef = world.db.rotation.newSecretRef := by
    rw [ends.db, undone.newSecretRef, Rows.started_newSecretRef]
  have stays : Active old final.calls := by
    obtain ⟨compensated, failures, all, _⟩ := undone.passes
    rw [ends.calls, ← List.append_assoc]
    refine active_append.mpr ⟨active, all.active fun ref known => ?_⟩
    obtain ⟨material, made, named⟩ := guarded.named ref known
    rw [← named]
    exact fresh material made
  refine ⟨guarded.revokes.of_keeps keeps, ?_, ?_, Or.inr stays, fun _ => stays⟩
  · intro saved known
    obtain ⟨material, made, named⟩ := guarded.named saved (ref.symm.trans known)
    refine ⟨material, ?_, named⟩
    change material ∈ createdMaterials final.calls
    rw [ends.calls, createdMaterials_append]
    exact List.mem_append_left _ made
  · intro alive
    change final.db.rotation.status.isTerminal = false at alive
    rw [ends.db] at alive
    exact absurd (alive.symm.trans undone.status.1) (by decide)

/-- An engine call keeps a rotation guarded when its step does not fail with the old credential
retired. -/
theorem advance (guarded : Guarded old world) (invocation : Invocation κ)
    (safe : ∀ step, world.Fails invocation step → Active old (world.callsAfter invocation step))
    (fresh : NeverReissued old world.calls) : Guarded old (world.advance invocation) := by
  obtain ⟨final, ends, same⟩ := world.advance_end invocation
  have keeps := ends.keeps identity_engineless
  rw [same]
  cases ends with
  | idle idles ends =>
      have calls : final.calls = world.calls := ends.calls.trans (List.append_nil _)
      refine guarded.of_calls keeps ?_ calls (fun active => ?_) fun ended => ?_
      · exact (congrArg (·.rotation.newSecretRef) ends.db :)
      · exact (congrArg (·.rotation.status.isTerminal) ends.db).symm.trans active
      · exact (congrArg (·.rotation.status) ends.db).symm.trans ended
  | settled after settles ends =>
      have calls : final.calls = world.calls := ends.calls.trans (List.append_nil _)
      refine guarded.of_calls keeps ?_ calls (fun _ => settles.active) fun ended => ?_
      · exact (congrArg (·.rotation.newSecretRef) ends.db).trans settles.newSecretRef
      · have shown : after.rotation.status = .rolledBack :=
          (congrArg (·.rotation.status) ends.db).symm.trans ended
        cases settles <;> exact absurd shown (by simp [Rows.completed])
  | ran step executes ends =>
      cases ends with
      | finished done ends => exact guarded.finished executes ends keeps
      | rolledBack failed later rows undone ends =>
          exact guarded.rolled undone ends keeps (safe step ⟨executes, failed⟩) fresh

/-- A proposed rotation is guarded when its revoke steps name the old credential. -/
theorem proposed {proposal : Proposal} (external : κ)
    (targets : ∀ spec ∈ proposal.steps, spec.kind = .revoke → spec.target.keyId = some old) :
    Guarded old (World.proposed proposal external) where
  revokes step inside revoke := by
    obtain ⟨spec, present, rfl⟩ := List.mem_map.mp inside
    exact targets spec present revoke
  named ref known := absurd known (by simp [World.proposed, Proposal.rows, Proposal.rotation])
  live _ := retiresOnly_nil
  kept := Or.inl retiresOnly_nil
  rolledBack ended := absurd ended (by simp [World.proposed, Proposal.rows, Proposal.rotation])

end Guarded

/-- The run never fails a step after it has retired the old credential. -/
def NeverFailsRetired (old : String) (world : World κ) (action : Action κ) : Prop :=
  ∀ invocation, action = .advance invocation → ∀ step, world.Fails invocation step →
    Active old (world.callsAfter invocation step)

/-- When no step fails after the old credential has been retired, a rotation that is rolled back
has its old credential active, and no point of the run has retired both credentials. -/
theorem old_credential_survives (proposal : Proposal) (external : κ) (actions : List (Action κ))
    (old : String)
    (targets : ∀ spec ∈ proposal.steps, spec.kind = .revoke → spec.target.keyId = some old)
    (fresh : NeverReissued old
      (runActions Action.step actions (World.proposed proposal external)).calls)
    (safe : ∀ visit ∈ visits Action.step actions (World.proposed proposal external),
      NeverFailsRetired old visit.1 visit.2) :
    let world := runActions Action.step actions (World.proposed proposal external)
    (world.db.rotation.status = .rolledBack → Active old world.calls) ∧
      ∀ before after, world.calls = before ++ after →
        ¬ (¬ Active old before ∧ NewRetired before) := by
  intro world
  have guarded : Guarded old world := by
    let permitted : World κ → Action κ → Prop := fun world action =>
      NeverFailsRetired old world action ∧ NeverReissued old world.calls
    refine @invariant_runActions _ _ Action.step permitted (Guarded old) ?_ _ _
      (Guarded.proposed external targets) ?_
    · intro world action guarded given
      obtain ⟨safe, fresh⟩ := given
      cases action with
      | request request clock => exact guarded.handle request clock
      | advance invocation => exact guarded.advance invocation (safe invocation rfl) fresh
    · intro visit inside
      obtain ⟨first, same⟩ := visit.1.calls_extended visit.2
      obtain ⟨rest, whole⟩ := World.visit_calls_extended visit inside
      rw [← whole, ← same, List.append_assoc, neverReissued_append] at fresh
      exact ⟨safe visit inside, fresh.1⟩
  refine ⟨guarded.rolledBack, ?_⟩
  intro before after split given
  obtain ⟨retired, new⟩ := given
  have kept := guarded.kept
  change NeverReissued old world.calls at fresh
  rw [split, retiresOnly_append, active_append] at kept
  rw [split, neverReissued_append] at fresh
  rcases kept with only | active
  · exact only.1.new fresh.1 new
  · exact retired active.1

/-- A run that never retires the old credential never fails a step after that. -/
theorem neverFailsRetired_of_active {actions : List (Action κ)} {world : World κ} {old : String}
    (active : Active old (runActions Action.step actions world).calls) :
    ∀ visit ∈ visits Action.step actions world, NeverFailsRetired old visit.1 visit.2 := by
  intro given inside invocation same step fails
  obtain ⟨reached, action⟩ := given
  subst same
  obtain ⟨first, same⟩ := fails.calls_extended
  obtain ⟨rest, whole⟩ := World.visit_calls_extended _ inside
  rw [← whole] at active
  change Active old ((reached.advance invocation).calls ++ rest) at active
  rw [← same] at active
  exact (active_append.mp (active_append.mp active).1).1

/-- A failed verify step leaves the old credential of the demo rotation in use. -/
theorem sandbox_old_credential_survives :
    let world := runActions Action.step
      (.request sandboxApproval 1 :: List.replicate 3 (.advance (sandboxCall (some "verify"))))
      (World.proposed namedPlan [])
    (world.db.rotation.status = .rolledBack → Active "OLD" world.calls) ∧
      ∀ before after, world.calls = before ++ after →
        ¬ (¬ Active "OLD" before ∧ NewRetired before) :=
  old_credential_survives namedPlan []
    (.request sandboxApproval 1 :: List.replicate 3 (.advance (sandboxCall (some "verify")))) "OLD"
    (by decide) (by decide) (neverFailsRetired_of_active (by decide))

/-- These connectors disable the old credential and then fail to delete it. -/
def undeletableOld : Connectors SandboxStore where
  store := true
  cloud := true
  answer
    | .deleteCredential credential, store =>
        (if credential.credentialId = "OLD" then .error "DeleteConflict" else .ok (), store)
    | call, store => (sandboxConnectors none).answer call store

/-- A revoke step that fails between its two calls is rolled back with the old credential
disabled. -/
theorem rollback_loses_old_credential :
    ¬ ∀ (proposal : Proposal) (external : SandboxStore) (actions : List (Action SandboxStore))
        (old : String),
      (∀ spec ∈ proposal.steps, spec.kind = .revoke → spec.target.keyId = some old) →
      let world := runActions Action.step actions (World.proposed proposal external)
      NeverReissued old world.calls →
        (world.db.rotation.status = .rolledBack → Active old world.calls) ∧
          ∀ before after, world.calls = before ++ after →
            ¬ (¬ Active old before ∧ NewRetired before) := by
  intro always
  have survives := always namedPlan []
    (List.replicate 4 (.advance
      { connectors := undeletableOld, clock := 1, actor := "system" })) "OLD" (by decide) (by decide)
  exact absurd (survives.1 (by decide)) (by decide)

end Sprawl
