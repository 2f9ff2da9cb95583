/-
This file proves what one executor and one compensation ask of the connectors.
-/

import Sprawl.Rotation.Session

namespace Sprawl

open Effect

variable {κ : Type}

/-- The event of a connector call. -/
def eventOf (moment : Moment ConnectorCall ConnectorCall.Reply κ) : ConnectorEvent :=
  ⟨moment.issued, moment.reply⟩

/-- A recording keeps the run and appends its events. -/
theorem run_recording {α : Type} (connectors : Connectors κ)
    (program : Program ConnectorCall ConnectorCall.Reply α) (external : κ)
    (calls : List ConnectorEvent) :
    program.run connectors.recording (external, calls) =
      ((program.run connectors.answer external).1, (program.run connectors.answer external).2,
        calls ++ (program.trace connectors.answer external).map eventOf) := by
  induction program generalizing external calls with
  | pure value => simp [Program.run, Program.trace]
  | command issued rest ih =>
      rw [Program.run_command, Program.trace_command, Program.run_command, List.map_cons]
      change (rest (connectors.answer issued external).1).run connectors.recording
        ((connectors.answer issued external).2,
          calls ++ [⟨issued, (connectors.answer issued external).1⟩]) = _
      rw [ih, List.append_assoc]
      rfl

/-- A session that runs a connector program appends its events. -/
theorem Session.runConnectors_eq {D : Type} {α : Type} (connectors : Connectors κ)
    (session : Session D κ) (program : Program ConnectorCall ConnectorCall.Reply α) :
    session.runConnectors connectors program =
      ((program.run connectors.answer session.external).1,
        { session with
          external := (program.run connectors.answer session.external).2
          calls := session.calls ++
            (program.trace connectors.answer session.external).map eventOf }) := by
  simp [Session.runConnectors, run_recording]

/-- A call that raises fails its step. -/
def failedWith (text : String) : StepResult := { status := .failed, error := some text }

/-- These are the events and the results that the executors can produce. -/
inductive Executed (keys : ConnectorKeys) (step : RotationStep) (rotation : Rotation) :
    List ConnectorEvent → StepResult → Prop where
  | noCloud (kind : step.kind = .provision) (absent : keys.cloud = false) :
      Executed keys step rotation []
        (failedWith "'NoneType' object has no attribute 'create_credential'")
  | createFailed (kind : step.kind = .provision) (present : keys.cloud = true) (text : String) :
      Executed keys step rotation
        [⟨.createCredential (provisionPrincipal step.target), .error text⟩] (failedWith text)
  | created (kind : step.kind = .provision) (present : keys.cloud = true)
      (unstored : (keys.store && rotation.hasPlan) = false) (material : CredentialMaterial) :
      Executed keys step rotation
        [⟨.createCredential (provisionPrincipal step.target), .ok material⟩] { status := .done }
  | writeFailed (kind : step.kind = .provision) (present : keys.cloud = true)
      (stored : (keys.store && rotation.hasPlan) = true) (material : CredentialMaterial)
      (text : String) :
      Executed keys step rotation
        [⟨.createCredential (provisionPrincipal step.target), .ok material⟩,
          ⟨.writeNewVersion (vaultRef rotation.storePath) (provisionedValue material), .error text⟩]
        (failedWith text)
  | provisioned (kind : step.kind = .provision) (present : keys.cloud = true)
      (stored : (keys.store && rotation.hasPlan) = true) (material : CredentialMaterial)
      (version : VersionId) :
      Executed keys step rotation
        [⟨.createCredential (provisionPrincipal step.target), .ok material⟩,
          ⟨.writeNewVersion (vaultRef rotation.storePath) (provisionedValue material), .ok version⟩]
        { status := .done, newSecretRef := some (provisionedRef rotation material version) }
  | distributed (kind : step.kind = .distribute) (present : keys.store = true)
      (ref : NewSecretRef) (known : rotation.newSecretRef = some ref) (version : VersionId) :
      Executed keys step rotation
        [⟨.writeNewVersion (vaultRef ref.path) distributedValue, .ok version⟩] { status := .done }
  | distributeFailed (kind : step.kind = .distribute) (present : keys.store = true)
      (ref : NewSecretRef) (known : rotation.newSecretRef = some ref) (text : String) :
      Executed keys step rotation
        [⟨.writeNewVersion (vaultRef ref.path) distributedValue, .error text⟩] (failedWith text)
  | verified (kind : step.kind = .verify) (present : keys.store = true)
      (ref : NewSecretRef) (known : rotation.newSecretRef = some ref) (answer : VerifyResult)
      (success : answer.success = true) :
      Executed keys step rotation [⟨.verifyStore (vaultRef ref.path), .ok answer⟩]
        { status := .done }
  | refuted (kind : step.kind = .verify) (present : keys.store = true)
      (ref : NewSecretRef) (known : rotation.newSecretRef = some ref) (answer : VerifyResult)
      (failure : answer.success = false) :
      Executed keys step rotation [⟨.verifyStore (vaultRef ref.path), .ok answer⟩]
        (failedWith answer.message)
  | verifyFailed (kind : step.kind = .verify) (present : keys.store = true)
      (ref : NewSecretRef) (known : rotation.newSecretRef = some ref) (text : String) :
      Executed keys step rotation [⟨.verifyStore (vaultRef ref.path), .error text⟩]
        (failedWith text)
  | unstored (kind : step.kind = .distribute ∨ step.kind = .verify)
      (absent : rotation.newSecretRef = none ∨ keys.store = false) :
      Executed keys step rotation [] { status := .done }
  | revoked (kind : step.kind = .revoke) (present : keys.cloud = true) :
      Executed keys step rotation
        [⟨.disableCredential (revokedCredential step.target), .ok ()⟩,
          ⟨.deleteCredential (revokedCredential step.target), .ok ()⟩] { status := .done }
  | disableFailed (kind : step.kind = .revoke) (present : keys.cloud = true) (text : String) :
      Executed keys step rotation
        [⟨.disableCredential (revokedCredential step.target), .error text⟩] (failedWith text)
  | deleteFailed (kind : step.kind = .revoke) (present : keys.cloud = true) (text : String) :
      Executed keys step rotation
        [⟨.disableCredential (revokedCredential step.target), .ok ()⟩,
          ⟨.deleteCredential (revokedCredential step.target), .error text⟩] (failedWith text)
  | revokeSkipped (kind : step.kind = .revoke) (absent : keys.cloud = false) :
      Executed keys step rotation [] { status := .done }

section Trees

variable (keys : ConnectorKeys) (step : RotationStep) (rotation : Rotation)

theorem executeStep_provision_stored (kind : step.kind = .provision) (present : keys.cloud = true)
    (stored : (keys.store && rotation.hasPlan) = true) :
    executeStep keys step rotation =
      .command (.createCredential (provisionPrincipal step.target)) fun
        | .error text => .pure (failedWith text)
        | .ok material =>
            .command (.writeNewVersion (vaultRef rotation.storePath) (provisionedValue material)) fun
              | .error text => .pure (failedWith text)
              | .ok version => .pure
                  { status := .done
                    newSecretRef := some (provisionedRef rotation material version) } := by
  simp only [executeStep, stepExecutor, kind, provision, present, stored, if_true]
  refine congrArg (Program.command _) (funext fun created => ?_)
  cases created with
  | error text => rfl
  | ok material =>
      refine congrArg (Program.command _) (funext fun written => ?_)
      cases written <;> rfl

theorem executeStep_provision_unstored (kind : step.kind = .provision)
    (present : keys.cloud = true) (unstored : (keys.store && rotation.hasPlan) = false) :
    executeStep keys step rotation =
      .command (.createCredential (provisionPrincipal step.target)) fun
        | .error text => .pure (failedWith text)
        | .ok _ => .pure { status := .done } := by
  simp only [executeStep, stepExecutor, kind, provision, present, unstored, if_true,
    Bool.false_eq_true, if_false]
  refine congrArg (Program.command _) (funext fun created => ?_)
  cases created <;> rfl

theorem executeStep_provision_noCloud (kind : step.kind = .provision)
    (absent : keys.cloud = false) :
    executeStep keys step rotation =
      .pure (failedWith "'NoneType' object has no attribute 'create_credential'") := by
  simp only [executeStep, stepExecutor, kind, provision, absent, Bool.false_eq_true, if_false]
  rfl

theorem executeStep_distribute_stored (kind : step.kind = .distribute)
    (present : keys.store = true) {ref : NewSecretRef} (known : rotation.newSecretRef = some ref) :
    executeStep keys step rotation =
      .command (.writeNewVersion (vaultRef ref.path) distributedValue) fun
        | .error text => .pure (failedWith text)
        | .ok _ => .pure { status := .done } := by
  simp only [executeStep, stepExecutor, kind, distribute, known, present, if_true]
  refine congrArg (Program.command _) (funext fun written => ?_)
  cases written <;> rfl

theorem executeStep_verify_stored (kind : step.kind = .verify)
    (present : keys.store = true) {ref : NewSecretRef} (known : rotation.newSecretRef = some ref) :
    executeStep keys step rotation =
      .command (.verifyStore (vaultRef ref.path)) fun
        | .error text => .pure (failedWith text)
        | .ok answer =>
            .pure (if answer.success then { status := .done } else failedWith answer.message) := by
  simp only [executeStep, stepExecutor, kind, verify, known, present, if_true]
  refine congrArg (Program.command _) (funext fun verified => ?_)
  cases verified with
  | error text => rfl
  | ok answer =>
      rcases answer with ⟨success, message⟩
      cases success <;> rfl

theorem executeStep_unstored (kind : step.kind = .distribute ∨ step.kind = .verify)
    (absent : rotation.newSecretRef = none ∨ keys.store = false) :
    executeStep keys step rotation = .pure { status := .done } := by
  rcases kind with kind | kind <;> cases known : rotation.newSecretRef <;>
    simp_all [executeStep, stepExecutor, distribute, verify] <;> rfl

theorem executeStep_revoke (kind : step.kind = .revoke) (present : keys.cloud = true) :
    executeStep keys step rotation =
      .command (.disableCredential (revokedCredential step.target)) fun
        | .error text => .pure (failedWith text)
        | .ok _ => .command (.deleteCredential (revokedCredential step.target)) fun
            | .error text => .pure (failedWith text)
            | .ok _ => .pure { status := .done } := by
  simp only [executeStep, stepExecutor, kind, revoke, present, if_true]
  refine congrArg (Program.command _) (funext fun disabled => ?_)
  cases disabled with
  | error text => rfl
  | ok value =>
      refine congrArg (Program.command _) (funext fun deleted => ?_)
      cases deleted <;> rfl

theorem executeStep_revoke_noCloud (kind : step.kind = .revoke) (absent : keys.cloud = false) :
    executeStep keys step rotation = .pure { status := .done } := by
  simp only [executeStep, stepExecutor, kind, revoke, absent, Bool.false_eq_true, if_false]
  rfl

/-- A compensation that deletes the new key calls the cloud once. -/
theorem compensateStep_deletes (deletes : step.deletesNewKey = true) (present : keys.cloud = true)
    {ref : NewSecretRef} (known : rotation.newSecretRef = some ref) :
    compensateStep keys step rotation =
      .command (.deleteCredential (newCredential ref)) fun
        | .error text => .pure (failedWith ("compensation_failed: " ++ text))
        | .ok _ => .pure { status := .compensated } := by
  simp only [compensateStep, compensation, deletes, known, present, if_true]
  refine congrArg (Program.command _) (funext fun deleted => ?_)
  cases deleted <;> rfl

/-- Every other compensation calls nothing. -/
theorem compensateStep_quiet
    (keeps : step.deletesNewKey = false ∨ rotation.newSecretRef = none ∨ keys.cloud = false) :
    compensateStep keys step rotation = .pure { status := .compensated } := by
  cases deletes : step.deletesNewKey <;> cases known : rotation.newSecretRef <;>
    cases present : keys.cloud <;>
    simp_all [compensateStep, compensation] <;> rfl

end Trees

section Executors

variable (connectors : Connectors κ) (step : RotationStep) (rotation : Rotation) (external : κ)

/-- The events and the result of the executor are one of the listed outcomes. -/
abbrev RunsExecuted : Prop :=
  Executed connectors.toConnectorKeys step rotation
    (((executeStep connectors.toConnectorKeys step rotation).trace connectors.answer
      external).map eventOf)
    ((executeStep connectors.toConnectorKeys step rotation).run connectors.answer external).1

variable {step}

theorem provision_executed (kind : step.kind = .provision) :
    RunsExecuted connectors step rotation external := by
  unfold RunsExecuted
  cases cloud : connectors.cloud with
  | false =>
      rw [executeStep_provision_noCloud _ _ _ kind cloud]
      exact .noCloud kind cloud
  | true =>
      cases stored : connectors.store && rotation.hasPlan with
      | false =>
          rw [executeStep_provision_unstored _ _ _ kind cloud stored]
          simp only [Program.trace_command, Program.run_command]
          rcases connectors.answer _ external with ⟨text | material, after⟩
          · exact .createFailed kind cloud text
          · exact .created kind cloud stored material
      | true =>
          rw [executeStep_provision_stored _ _ _ kind cloud stored]
          simp only [Program.trace_command, Program.run_command]
          rcases connectors.answer _ external with ⟨text | material, after⟩
          · exact .createFailed kind cloud text
          · simp only [Program.trace_command, Program.run_command]
            rcases connectors.answer _ after with ⟨text | version, last⟩
            · exact .writeFailed kind cloud stored material text
            · exact .provisioned kind cloud stored material version

theorem distribute_executed (kind : step.kind = .distribute) :
    RunsExecuted connectors step rotation external := by
  unfold RunsExecuted
  cases known : rotation.newSecretRef with
  | none =>
      rw [executeStep_unstored _ _ _ (Or.inl kind) (Or.inl known)]
      exact .unstored (Or.inl kind) (Or.inl known)
  | some ref =>
      cases store : connectors.store with
      | false =>
          rw [executeStep_unstored _ _ _ (Or.inl kind) (Or.inr store)]
          exact .unstored (Or.inl kind) (Or.inr store)
      | true =>
          rw [executeStep_distribute_stored _ _ _ kind store known]
          simp only [Program.trace_command, Program.run_command]
          rcases connectors.answer _ external with ⟨text | version, after⟩
          · exact .distributeFailed kind store ref known text
          · exact .distributed kind store ref known version

theorem verify_executed (kind : step.kind = .verify) :
    RunsExecuted connectors step rotation external := by
  unfold RunsExecuted
  cases known : rotation.newSecretRef with
  | none =>
      rw [executeStep_unstored _ _ _ (Or.inr kind) (Or.inl known)]
      exact .unstored (Or.inr kind) (Or.inl known)
  | some ref =>
      cases store : connectors.store with
      | false =>
          rw [executeStep_unstored _ _ _ (Or.inr kind) (Or.inr store)]
          exact .unstored (Or.inr kind) (Or.inr store)
      | true =>
          rw [executeStep_verify_stored _ _ _ kind store known]
          simp only [Program.trace_command, Program.run_command]
          rcases connectors.answer _ external with ⟨text | ⟨success, message⟩, after⟩
          · exact .verifyFailed kind store ref known text
          · cases success with
            | false => exact .refuted kind store ref known ⟨false, message⟩ rfl
            | true => exact .verified kind store ref known ⟨true, message⟩ rfl

theorem revoke_executed (kind : step.kind = .revoke) :
    RunsExecuted connectors step rotation external := by
  unfold RunsExecuted
  cases cloud : connectors.cloud with
  | false =>
      rw [executeStep_revoke_noCloud _ _ _ kind cloud]
      exact .revokeSkipped kind cloud
  | true =>
      rw [executeStep_revoke _ _ _ kind cloud]
      simp only [Program.trace_command, Program.run_command]
      rcases connectors.answer _ external with ⟨text | disabled, after⟩
      · exact .disableFailed kind cloud text
      · simp only [Program.trace_command, Program.run_command]
        rcases connectors.answer _ after with ⟨text | deleted, last⟩
        · exact .deleteFailed kind cloud text
        · exact .revoked kind cloud

variable (step)

/-- Every run of an executor is one of the listed outcomes. -/
theorem executeStep_executed :
    Executed connectors.toConnectorKeys step rotation
      (((executeStep connectors.toConnectorKeys step rotation).trace connectors.answer
        external).map eventOf)
      ((executeStep connectors.toConnectorKeys step rotation).run connectors.answer external).1 := by
  cases kind : step.kind with
  | provision => exact provision_executed connectors rotation external kind
  | distribute => exact distribute_executed connectors rotation external kind
  | verify => exact verify_executed connectors rotation external kind
  | revoke => exact revoke_executed connectors rotation external kind

end Executors

/-- These are the events and the results that a compensation can produce. -/
inductive Compensated (keys : ConnectorKeys) (step : RotationStep) (rotation : Rotation) :
    List ConnectorEvent → StepResult → Prop where
  | deleted (deletes : step.deletesNewKey = true) (present : keys.cloud = true)
      (ref : NewSecretRef) (known : rotation.newSecretRef = some ref) :
      Compensated keys step rotation [⟨.deleteCredential (newCredential ref), .ok ()⟩]
        { status := .compensated }
  | deleteFailed (deletes : step.deletesNewKey = true) (present : keys.cloud = true)
      (ref : NewSecretRef) (known : rotation.newSecretRef = some ref) (text : String) :
      Compensated keys step rotation [⟨.deleteCredential (newCredential ref), .error text⟩]
        (failedWith ("compensation_failed: " ++ text))
  | quiet
      (keeps : step.deletesNewKey = false ∨ rotation.newSecretRef = none ∨ keys.cloud = false) :
      Compensated keys step rotation [] { status := .compensated }

/-- Every run of a compensation is one of the listed outcomes. -/
theorem compensateStep_compensated (connectors : Connectors κ) (step : RotationStep)
    (rotation : Rotation) (external : κ) :
    Compensated connectors.toConnectorKeys step rotation
      (((compensateStep connectors.toConnectorKeys step rotation).trace connectors.answer
        external).map eventOf)
      ((compensateStep connectors.toConnectorKeys step rotation).run connectors.answer
        external).1 := by
  by_cases keeps : step.deletesNewKey = false ∨ rotation.newSecretRef = none ∨
      connectors.cloud = false
  · rw [compensateStep_quiet _ _ _ keeps]
    exact .quiet keeps
  · simp only [not_or, Bool.not_eq_false] at keeps
    obtain ⟨deletes, known, present⟩ := keeps
    obtain ⟨ref, known⟩ := Option.ne_none_iff_exists'.mp known
    rw [compensateStep_deletes _ _ _ deletes present known]
    simp only [Program.trace_command, Program.run_command]
    rcases connectors.answer _ external with ⟨text | deleted, after⟩
    · exact .deleteFailed deletes present ref known text
    · exact .deleted deletes present ref known

end Sprawl
