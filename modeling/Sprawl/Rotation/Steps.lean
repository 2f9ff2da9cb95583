/-
This file gives the executors of the four step kinds and their compensation.
-/

import Sprawl.Rotation.Rows
import Sprawl.Shared.Connectors

namespace Sprawl

/-- This is the outcome of executing or compensating one step. -/
structure StepResult where
  status : StepStatus
  error : Option String := none
  newSecretRef : Option NewSecretRef := none
  deriving DecidableEq, Repr

/-- The principal that a provision step creates a key for. -/
def provisionPrincipal (target : StepTarget) : PrincipalRef where
  provider := "aws"
  principalType := "iam_user"
  arn := "arn:aws:iam::" ++ target.account.getD "000000000000" ++ ":user/" ++
    target.username.getD "unknown"
  accountId := target.account.getD "000000000000"

/-- A plan without a store path uses a path named after the rotation. -/
def Rotation.storePath (rotation : Rotation) : String :=
  match rotation.plan.bind Plan.storePath with
  | some path =>
      if path = "" then "rotation/" ++ toString rotation.id ++ "/new_credential" else path
  | none => "rotation/" ++ toString rotation.id ++ "/new_credential"

/-- The rotation steps address every path through one sandbox connector. -/
def vaultRef (path : String) : StoreRef where
  connectorType := "vault"
  connectorId := "sandbox"
  path := path

/-- The value that a provision step writes to the store. -/
def provisionedValue (material : CredentialMaterial) : SecretValue where
  value := material.secretAccessKey.getD ""
  metadata := some { accessKeyId := material.accessKeyId, credentialId := material.credentialId }

/-- The value that a distribute step writes to the store. -/
def distributedValue : SecretValue where
  value := "***distributed***"

/-- The reference that a provision step returns for the rotation row. -/
def provisionedRef (rotation : Rotation) (material : CredentialMaterial) (version : VersionId) :
    NewSecretRef where
  connectorType := "vault"
  path := rotation.storePath
  version := version.id
  credentialId := material.credentialId
  accessKeyId := material.accessKeyId

/-- A provision step creates the credential and writes its secret to the store. -/
def provision (keys : ConnectorKeys) (step : RotationStep) (rotation : Rotation) :
    ConnectorProgram StepResult :=
  if keys.cloud then do
    let material : CredentialMaterial ←
      connectorCall (.createCredential (provisionPrincipal step.target))
    if keys.store && rotation.hasPlan then do
      let version : VersionId ←
        connectorCall (.writeNewVersion (vaultRef rotation.storePath) (provisionedValue material))
      return { status := .done, newSecretRef := some (provisionedRef rotation material version) }
    else
      return { status := .done }
  else
    throw "'NoneType' object has no attribute 'create_credential'"

/-- A distribute step writes to the path of the new secret. -/
def distribute (keys : ConnectorKeys) (_step : RotationStep) (rotation : Rotation) :
    ConnectorProgram StepResult :=
  match rotation.newSecretRef with
  | some ref =>
      if keys.store then do
        let _ : VersionId ← connectorCall (.writeNewVersion (vaultRef ref.path) distributedValue)
        return { status := .done }
      else return { status := .done }
  | none => return { status := .done }

/-- A verify step asks the store about the path of the new secret. -/
def verify (keys : ConnectorKeys) (_step : RotationStep) (rotation : Rotation) :
    ConnectorProgram StepResult :=
  match rotation.newSecretRef with
  | some ref =>
      if keys.store then do
        let result : VerifyResult ← connectorCall (.verifyStore (vaultRef ref.path))
        if result.success then return { status := .done }
        else return { status := .failed, error := some result.message }
      else return { status := .done }
  | none => return { status := .done }

/-- The credential that a revoke step names. -/
def revokedCredential (target : StepTarget) : CredentialRef where
  provider := "aws"
  credentialType := "access_key"
  credentialId := target.keyId.getD "UNKNOWN_KEY"
  metadata :=
    { username := target.username.getD "unknown"
      account := some (target.account.getD "000000000000") }

/-- A revoke step disables the old credential and then deletes it. -/
def revoke (keys : ConnectorKeys) (step : RotationStep) (_rotation : Rotation) :
    ConnectorProgram StepResult :=
  if keys.cloud then do
    let _ : Unit ← connectorCall (.disableCredential (revokedCredential step.target))
    let _ : Unit ← connectorCall (.deleteCredential (revokedCredential step.target))
    return { status := .done }
  else return { status := .done }

/-- The executor of a step kind. -/
def stepExecutor (keys : ConnectorKeys) (step : RotationStep) (rotation : Rotation) :
    ConnectorProgram StepResult :=
  match step.kind with
  | .provision => provision keys step rotation
  | .distribute => distribute keys step rotation
  | .verify => verify keys step rotation
  | .revoke => revoke keys step rotation

/-- A step that raises has failed with the text of the exception. -/
def executeStep (keys : ConnectorKeys) (step : RotationStep) (rotation : Rotation) :
    Effect.Program ConnectorCall ConnectorCall.Reply StepResult := do
  match ← (stepExecutor keys step rotation).run with
  | .ok result => return result
  | .error text => return { status := .failed, error := some text }

/-- This text selects the compensation of a step. -/
def RotationStep.compensationAction (step : RotationStep) : String :=
  (step.compensation.bind Compensation.action).getD ""

/-- The credential that the compensation of a provision step deletes. -/
def newCredential (ref : NewSecretRef) : CredentialRef where
  provider := "aws"
  credentialType := "access_key"
  credentialId := ref.credentialId
  metadata := { username := "unknown" }

/-- A step whose compensation deletes the new key. -/
def RotationStep.deletesNewKey (step : RotationStep) : Bool :=
  step.compensationAction == "delete_new_key" && step.kind == .provision

/-- Only the compensation of a provision step calls a connector. The other actions only log. -/
def compensation (keys : ConnectorKeys) (step : RotationStep) (rotation : Rotation) :
    ConnectorProgram Unit :=
  if step.deletesNewKey then
    match rotation.newSecretRef with
    | some ref => if keys.cloud then connectorCall (.deleteCredential (newCredential ref)) else return
    | none => return
  else return

/-- A compensation that raises has failed. -/
def compensateStep (keys : ConnectorKeys) (step : RotationStep) (rotation : Rotation) :
    Effect.Program ConnectorCall ConnectorCall.Reply StepResult := do
  match ← (compensation keys step rotation).run with
  | .ok _ => return { status := .compensated }
  | .error text => return { status := .failed, error := some ("compensation_failed: " ++ text) }

end Sprawl
