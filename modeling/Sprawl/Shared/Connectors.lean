/-
This file gives the connector protocols: the references, the values and the calls.
-/

import Sprawl.Effect.Program

namespace Sprawl

/-- A store reference points to a secret in a secret store. -/
structure StoreRef where
  connectorType : String
  connectorId : String
  path : String
  version : Option String := none
  deriving DecidableEq, Repr

/-- A principal reference identifies the cloud principal that a credential is. -/
structure PrincipalRef where
  provider : String
  principalType : String
  arn : String
  accountId : String := ""
  deriving DecidableEq, Repr

/-- The metadata that the rotation steps put on a credential reference. -/
structure CredentialMetadata where
  username : String
  account : Option String := none
  deriving DecidableEq, Repr

/-- A credential reference identifies one credential object. -/
structure CredentialRef where
  provider : String
  credentialType : String
  credentialId : String
  metadata : CredentialMetadata
  deriving DecidableEq, Repr

/-- The metadata that a provision step writes next to the new value. -/
structure SecretMetadata where
  accessKeyId : Option String
  credentialId : String
  deriving DecidableEq, Repr

/-- A secret value is transient. -/
structure SecretValue where
  value : String
  version : Option String := none
  metadata : Option SecretMetadata := none
  deriving DecidableEq, Repr

structure VersionId where
  id : String
  storeRef : StoreRef
  deriving DecidableEq, Repr

structure VerifyResult where
  success : Bool
  message : String := ""
  deriving DecidableEq, Repr

/-- This is the material of a new credential. It exists only in memory. -/
structure CredentialMaterial where
  credentialId : String
  accessKeyId : Option String := none
  secretAccessKey : Option String := none
  deriving DecidableEq, Repr

/-- The calls of the two protocols that a rotation step uses. -/
inductive ConnectorCall where
  | createCredential (principal : PrincipalRef)
  | disableCredential (credential : CredentialRef)
  | deleteCredential (credential : CredentialRef)
  | writeNewVersion (ref : StoreRef) (value : SecretValue)
  | verifyStore (ref : StoreRef)
  deriving DecidableEq, Repr

/-- A call returns a value of its own type. -/
abbrev ConnectorCall.Value : ConnectorCall → Type
  | .createCredential _ => CredentialMaterial
  | .disableCredential _ => Unit
  | .deleteCredential _ => Unit
  | .writeNewVersion _ _ => VersionId
  | .verifyStore _ => VerifyResult

/-- A call returns its value or raises an exception with a text. -/
abbrev ConnectorCall.Reply (call : ConnectorCall) : Type := Except String call.Value

/-- The keys that the connectors dictionary of a job has. -/
structure ConnectorKeys where
  store : Bool
  cloud : Bool
  deriving DecidableEq, Repr

/-- The connectors of a job answer each call and move their own state. -/
structure Connectors (κ : Type) extends ConnectorKeys where
  answer : Effect.Handler ConnectorCall ConnectorCall.Reply κ

/-- One connector call with its outcome. -/
structure ConnectorEvent where
  call : ConnectorCall
  reply : call.Reply

/-- A recording connector keeps the calls it has answered. -/
def Connectors.recording {κ : Type} (connectors : Connectors κ) :
    Effect.Handler ConnectorCall ConnectorCall.Reply (κ × List ConnectorEvent) :=
  fun call state =>
    let answered := connectors.answer call state.1
    (answered.1, answered.2, state.2 ++ [⟨call, answered.1⟩])

/-- A connector program can raise an exception. -/
abbrev ConnectorProgram : Type → Type :=
  ExceptT String (Effect.Program ConnectorCall ConnectorCall.Reply)

/-- A connector call raises where the connector raises. -/
def connectorCall (call : ConnectorCall) : ConnectorProgram call.Value :=
  ExceptT.mk (Effect.Program.perform call)

end Sprawl
