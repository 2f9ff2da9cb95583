/-
This file proves when the compensation of a provision step removes the key that the step created.
-/

import Sprawl.Connectors.Iam
import Sprawl.Proof.Outcome
import Sprawl.Rotation.Sandbox

namespace Sprawl

open Effect

section Keys

variable {state : IamKeys} {username key : String} {keys : Finset String}

@[simp] theorem withKeys_same :
    (state.withKeys username keys).users username = some keys := Function.update_self _ _ _

@[simp] theorem withKeys_other {other : String} (different : other ≠ username) :
    (state.withKeys username keys).users other = state.users other :=
  Function.update_of_ne different _ _

/-- A new key that is deleted again leaves the keys as they were. -/
theorem withKeys_undo (owned : state.users username = some keys) (fresh : key ∉ keys) :
    (state.withKeys username (insert key keys)).withKeys username ((insert key keys).erase key) =
      state := by
  rw [Finset.erase_insert fresh]
  unfold IamKeys.withKeys
  rw [Function.update_idem, ← owned, Function.update_eq_self]

/-- A new key of one user can be deleted only under the name of this user. -/
theorem deleteAccessKey_new (owned : state.users username = some keys) (fresh : state.Fresh key)
    (other : String) :
    let created := state.withKeys username (insert key keys)
    created.deleteAccessKey other key =
      if other = username then (.ok (), state) else (.error "NoSuchEntity", created) := by
  intro created
  by_cases same : other = username
  · have own : created.ownKey other key = .ok (insert key keys) := by
      rw [IamKeys.ownKey, same, withKeys_same]
      exact if_pos (Finset.mem_insert_self key keys)
    rw [if_pos same, IamKeys.deleteAccessKey, own, same]
    exact congrArg (Prod.mk _) (withKeys_undo owned (fresh username keys owned))
  · have none : created.ownKey other key = .error "NoSuchEntity" := by
      rw [IamKeys.ownKey, withKeys_other same]
      cases found : state.users other with
      | none => rfl
      | some owned => exact if_neg (fresh other owned found)
    rw [if_neg same, IamKeys.deleteAccessKey, none]

/-- A new key changes the keys. -/
theorem withKeys_insert_ne (owned : state.users username = some keys) (fresh : key ∉ keys) :
    state.withKeys username (insert key keys) ≠ state := by
  intro same
  have users := congrArg (·.users username) same
  rw [withKeys_same, owned] at users
  exact fresh (Option.some.inj users ▸ Finset.mem_insert_self key keys)

/-- A created key belongs to the user that the ARN names. -/
theorem createCredential_ok {issue : IamKeys → AccessKey} {principal : PrincipalRef}
    {material : CredentialMaterial} {after : IamKeys}
    (created : state.createCredential issue principal = (.ok material, after)) :
    material.credentialId = (issue state).id ∧ ∃ username keys,
      extractUsername principal.arn = some username ∧ state.users username = some keys ∧
        after = state.withKeys username (insert (issue state).id keys) := by
  unfold IamKeys.createCredential at created
  cases named : extractUsername principal.arn with
  | none => simp [named] at created
  | some username =>
      by_cases empty : username = ""
      · simp [named, empty] at created
      · cases owned : state.users username with
        | none => simp [named, empty, IamKeys.createAccessKey, owned, Except.map] at created
        | some keys =>
            simp only [named, empty, if_false, IamKeys.createAccessKey, owned, Except.map,
              Prod.mk.injEq, Except.ok.injEq] at created
            obtain ⟨rfl, rfl⟩ := created
            exact ⟨rfl, username, keys, rfl, owned, rfl⟩

end Keys

section Steps

variable {σ : Type} (issue : IamKeys → AccessKey) (store : Connectors σ) {step : RotationStep}
  {rotation : Rotation} {world : IamKeys × σ}

/-- A provision step that returns a reference has created one key. -/
theorem executeStep_created {ref : NewSecretRef} (kind : step.kind = .provision)
    (returned : ((executeStep (iamConnectors issue store).toConnectorKeys step rotation).run
      (iamConnectors issue store).answer world).1.newSecretRef = some ref) :
    ref.credentialId = (issue world.1).id ∧ ∃ username keys,
      extractUsername (provisionPrincipal step.target).arn = some username ∧
        world.1.users username = some keys ∧
        ((executeStep (iamConnectors issue store).toConnectorKeys step rotation).run
          (iamConnectors issue store).answer world).2.1 =
            world.1.withKeys username (insert (issue world.1).id keys) := by
  cases created : world.1.createCredential issue (provisionPrincipal step.target) with
  | mk reply after =>
      have answered : (iamConnectors issue store).answer
          (.createCredential (provisionPrincipal step.target)) world = (reply, after, world.2) := by
        change (_, _, _) = _
        rw [created]
      cases stored : (iamConnectors issue store).store && rotation.hasPlan with
      | false =>
          rw [executeStep_provision_unstored _ _ _ kind rfl stored, Program.run_command,
            answered] at returned
          cases reply <;> cases returned
      | true =>
          rw [executeStep_provision_stored _ _ _ kind rfl stored, Program.run_command,
            answered] at returned ⊢
          cases reply with
          | error text => cases returned
          | ok material =>
              simp only [Program.run_command] at returned ⊢
              cases written : store.answer (.writeNewVersion (vaultRef rotation.storePath)
                  (provisionedValue material)) world.2 with
              | mk version later =>
                  have wrote : (iamConnectors issue store).answer (.writeNewVersion
                      (vaultRef rotation.storePath) (provisionedValue material))
                        (after, world.2) = (version, after, later) := by
                    change (_, _, _) = _
                    rw [written]
                  rw [wrote] at returned ⊢
                  cases version with
                  | error text => cases returned
                  | ok version =>
                      cases returned
                      exact createCredential_ok created

/-- The compensation deletes the key under the name unknown. -/
theorem compensateStep_run {ref : NewSecretRef} (deletes : step.deletesNewKey = true)
    (known : rotation.newSecretRef = some ref) :
    let deleted := world.1.deleteAccessKey "unknown" ref.credentialId
    (compensateStep (iamConnectors issue store).toConnectorKeys step rotation).run
      (iamConnectors issue store).answer world =
        (match deleted.1 with
          | .ok _ => { status := .compensated }
          | .error text => failedWith ("compensation_failed: " ++ text), deleted.2, world.2) := by
  intro deleted
  have answered : (iamConnectors issue store).answer (.deleteCredential (newCredential ref)) world =
      (deleted.1, deleted.2, world.2) := rfl
  rw [compensateStep_deletes _ _ _ deletes rfl known, Program.run_command, answered]
  cases deleted.1 <;> rfl

variable (step) (rotation) (world)

/-- The compensation of a provision step removes its key exactly if it deletes a key at all and the
key belongs to the user unknown. -/
theorem compensation_restores_iff {ref : NewSecretRef} (kind : step.kind = .provision)
    (fresh : world.1.Fresh (issue world.1).id) :
    let connectors := iamConnectors issue store
    let executed := (executeStep connectors.toConnectorKeys step rotation).run connectors.answer
      world
    let undone := (compensateStep connectors.toConnectorKeys step
      { rotation with newSecretRef := some ref }).run connectors.answer executed.2
    executed.1.status = .done → executed.1.newSecretRef = some ref →
      ((undone.1.status = .compensated ∧ undone.2.1 = world.1) ↔ step.deletesNewKey = true ∧
        extractUsername (provisionPrincipal step.target).arn = some "unknown") := by
  intro connectors executed undone _ returned
  obtain ⟨key, username, keys, named, owned, created⟩ :=
    executeStep_created issue store kind returned
  have changed := withKeys_insert_ne owned (fresh username keys owned)
  cases deletes : step.deletesNewKey with
  | false =>
      have quiet : undone = ({ status := .compensated }, executed.2) := by
        unfold undone
        rw [compensateStep_quiet _ _ _ (Or.inl deletes)]
        rfl
      rw [quiet, created]
      simp [changed]
  | true =>
      have known : ({ rotation with newSecretRef := some ref } : Rotation).newSecretRef =
          some ref := rfl
      have ran : let deletion := executed.2.1.deleteAccessKey "unknown" ref.credentialId
          undone = (match deletion.1 with
            | .ok _ => { status := .compensated }
            | .error text => failedWith ("compensation_failed: " ++ text), deletion.2,
              executed.2.2) :=
        compensateStep_run issue store deletes known
      have deleted := deleteAccessKey_new owned fresh "unknown"
      dsimp only at ran deleted
      rw [key, created, deleted] at ran
      rw [show undone = _ from ran, named, Option.some.injEq, eq_comm (a := username)]
      by_cases same : "unknown" = username
      · simp [same]
      · simp [same, failedWith, changed]

end Steps

section Example

/-- An account with one user, who has one key. -/
def oneKey (username : String) : IamKeys where
  users other := if other = username then some {"OLD"} else none

def issueNew (_ : IamKeys) : AccessKey where
  id := "NEW"
  secret := "SECRET"

/-- The provision step of the demo plan, with a target of its own. -/
def userStep (username : String) : RotationStep where
  id := 1
  workspaceId := 7
  rotationId := 5
  idx := 0
  kind := .provision
  target := { username := some username }
  compensation := some { action := some "delete_new_key" }
  requiresConfirmation := false
  status := .pending
  confirmedAt := none
  executedAt := none
  error := none

/-- The reference that the provision step returns. -/
def newRef : NewSecretRef where
  connectorType := "vault"
  path := "rotation/5/new_credential"
  version := sandboxVersion
  credentialId := "NEW"
  accessKeyId := some "NEW"

abbrev demoIam : Connectors (IamKeys × SandboxStore) :=
  iamConnectors issueNew (sandboxConnectors none)

/-- What the provision step of a user returns, with the keys after it. -/
abbrev userExecuted (username : String) : StepResult × IamKeys × SandboxStore :=
  (executeStep demoIam.toConnectorKeys (userStep username) namedPlan.rotation).run demoIam.answer
    (oneKey username, [])

/-- What the compensation of this step returns, with the keys after it. -/
abbrev userUndone (username : String) : StepResult × IamKeys × SandboxStore :=
  (compensateStep demoIam.toConnectorKeys (userStep username)
    { namedPlan.rotation with newSecretRef := some newRef }).run demoIam.answer
      (userExecuted username).2

theorem oneKey_fresh (username : String) : (oneKey username).Fresh "NEW" := by
  intro other keys owned inside
  rw [oneKey] at owned
  dsimp only at owned
  split at owned
  · obtain rfl := Option.some.inj owned
    exact absurd (Finset.mem_singleton.mp inside) (by decide)
  · cases owned

/-- The key of a user with the name unknown is removed. -/
theorem unknown_restored :
    ((userUndone "unknown").1.status = .compensated ∧ (userUndone "unknown").2.1 = oneKey "unknown") ↔
      (userStep "unknown").deletesNewKey = true ∧
        extractUsername (provisionPrincipal (userStep "unknown").target).arn = some "unknown" :=
  compensation_restores_iff issueNew (sandboxConnectors none) (userStep "unknown")
    namedPlan.rotation (oneKey "unknown", []) rfl (oneKey_fresh "unknown") rfl (by decide)

/-- The key of alice is created, and its compensation fails and leaves it. -/
theorem alice_keeps_key :
    (userStep "alice").deletesNewKey = true ∧ (oneKey "alice").Fresh "NEW" ∧
      (userExecuted "alice").1.status = .done ∧
      (userExecuted "alice").1.newSecretRef = some newRef ∧
      (userUndone "alice").1.status = .failed ∧ (userUndone "alice").2.1 ≠ oneKey "alice" := by
  refine ⟨by decide, oneKey_fresh "alice", by decide, by decide, by decide, ?_⟩
  intro same
  have keys := congrArg (fun state => state.users "alice") same
  exact absurd keys (by decide)

end Example

end Sprawl
