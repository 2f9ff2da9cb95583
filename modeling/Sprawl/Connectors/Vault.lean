/-
This file gives the connector to Vault: the client, the store of a job, and what they rely on.
-/

import Sprawl.Shared.Connectors
import Sprawl.Store.Versioned
import Sprawl.Text.Decimal

namespace Sprawl

open Text

/-- The keys and the texts of a secret. -/
abbrev KvData := List (String × String)

/-- The calls of `hvac` to a server, with the session of the client. An exception is known by its
text, which also tells whether it is a `ValueError`. -/
structure Hvac (ν : Type) where
  isValueError : String → Bool
  newClient : ν → ν
  isAuthenticated : ν → Except String Bool
  login : ν → Except String Unit × ν
  readSecretVersion (path : String) (version : Option Int) : ν → Except String KvData
  createOrUpdateSecret (path : String) (secret : KvData) : ν → Except String Nat × ν
  deleteSecretVersions (path : String) (versions : List Int) : ν → Except String Unit × ν

/-- A read without a version asks for the newest one, and so does a read of version zero. -/
def askedVersion (version : Option Int) (newest : Nat) : Int := (version.filter (· ≠ 0)).getD newest

/-- The calls behave as version 2 of the KV engine is documented. A write that raises may have
reached the server or not. A deletion reaches only the named versions. -/
structure KvEngine {ν : Type} (hvac : Hvac ν) extends Store.Versions ν String KvData where
  created : ∀ server, toVersions.Same server (hvac.newClient server)
  loggedIn : ∀ server, toVersions.Same server (hvac.login server).2
  read : ∀ path version server data, hvac.readSecretVersion path version server = .ok data →
    content server path (askedVersion version (current server path)) = some data
  wrote : ∀ path secret server,
    toVersions.Written path secret server (hvac.createOrUpdateSecret path secret server).2 ∨
      toVersions.Same server (hvac.createOrUpdateSecret path secret server).2
  answered : ∀ path secret server version,
    (hvac.createOrUpdateSecret path secret server).1 = .ok version →
      toVersions.Written path secret server (hvac.createOrUpdateSecret path secret server).2 ∧
        current (hvac.createOrUpdateSecret path secret server).2 path = version
  deleted : ∀ path versions server,
    toVersions.Removed path versions server (hvac.deleteSecretVersions path versions server).2

/-- A `VaultClient` has a client once it has connected. Its role and its secret may be missing. -/
structure VaultClient (ν : Type) where
  server : ν
  created : Bool
  approle : Bool

namespace VaultClient

variable {ν : Type} (hvac : Hvac ν) (client : VaultClient ν)

/-- `self._client and self._client.is_authenticated()` -/
def reusable : Except String Bool :=
  if client.created then hvac.isAuthenticated client.server else .ok false

def connect : Except String Unit × VaultClient ν :=
  match client.reusable hvac with
  | .error raised => (.error raised, client)
  | .ok true => (.ok (), client)
  | .ok false =>
      let connected := { client with server := hvac.newClient client.server, created := true }
      if client.approle then
        let answered := hvac.login connected.server
        (answered.1, { connected with server := answered.2 })
      else (.ok (), connected)

/-- This is the property `client`. -/
def ensured : Except String Unit × VaultClient ν :=
  match client.reusable hvac with
  | .error raised => (.error raised, client)
  | .ok true => (.ok (), client)
  | .ok false => client.connect hvac

def getSecret (path : String) (version : Option Int) : Except String KvData × VaultClient ν :=
  match client.ensured hvac with
  | (.error raised, client) => (.error raised, client)
  | (.ok _, client) => (hvac.readSecretVersion path version client.server, client)

/-- The version that Vault has numbered is returned. -/
def putSecret (path : String) (data : KvData) : Except String Nat × VaultClient ν :=
  match client.ensured hvac with
  | (.error raised, client) => (.error raised, client)
  | (.ok _, client) =>
      let answered := hvac.createOrUpdateSecret path data client.server
      (answered.1, { client with server := answered.2 })

def deleteVersions (path : String) (versions : List Int) : Except String Unit × VaultClient ν :=
  match client.ensured hvac with
  | (.error raised, client) => (.error raised, client)
  | (.ok _, client) =>
      let answered := hvac.deleteSecretVersions path versions client.server
      (answered.1, { client with server := answered.2 })

end VaultClient

/-- The `SecretValue` that `read` returns. -/
structure VaultSecret where
  value : String
  version : Option String
  metadata : KvData

/-- `data.get("value") or data.get("secret") or next(iter(data.values()), "")` -/
def singleValue (data : KvData) : String :=
  (((data.lookup "value").filter (· ≠ "")).or ((data.lookup "secret").filter (· ≠ ""))).getD
    ((data.map (·.2)).headD "")

namespace VaultStore

variable {ν : Type} (hvac : Hvac ν) (client : VaultClient ν) (ref : StoreRef)

/-- `int(ref.version) if ref.version else None` -/
def versionNumber : Except String (Option Int) :=
  match ref.version.filter (· ≠ "") with
  | none => .ok none
  | some text =>
      match readDecimal text.toList with
      | some number => .ok (some number)
      | none => .error ("invalid literal for int() with base 10: '" ++ text ++ "'")

def read : Except String VaultSecret × VaultClient ν :=
  match versionNumber ref with
  | .error raised => (.error raised, client)
  | .ok version =>
      match client.getSecret hvac ref.path version with
      | (.error raised, client) => (.error raised, client)
      | (.ok data, client) =>
          (.ok { value := singleValue data, version := ref.version, metadata := data }, client)

def writeNewVersion (value : SecretValue) : Except String VersionId × VaultClient ν :=
  match client.putSecret hvac ref.path [("value", value.value)] with
  | (.error raised, client) => (.error raised, client)
  | (.ok version, client) => (.ok { id := toString version, storeRef := ref }, client)

/-- A failed read is a result, not an exception. -/
def verifyStore : VerifyResult × VaultClient ν :=
  match client.getSecret hvac ref.path none with
  | (.error raised, client) => ({ success := false, message := raised }, client)
  | (.ok _, client) => ({ success := true, message := "vault_read_ok" }, client)

/-- A version that is no number is only logged, and so is a `ValueError` of the deletion. -/
def revokeOld (version : VersionId) : Except String Unit × VaultClient ν :=
  match readDecimal version.id.toList with
  | none => (.ok (), client)
  | some number =>
      match client.deleteVersions hvac ref.path [number] with
      | (.error raised, client) =>
          (if hvac.isValueError raised then .ok () else .error raised, client)
      | (.ok _, client) => (.ok (), client)

end VaultStore

/-- The calls of the store protocol. -/
inductive StoreCall where
  | read (ref : StoreRef)
  | writeNewVersion (ref : StoreRef) (value : SecretValue)
  | verifyStore (ref : StoreRef)
  | revokeOld (ref : StoreRef) (version : VersionId)

/-- The client after a call. -/
def StoreCall.step {ν : Type} (hvac : Hvac ν) : StoreCall → VaultClient ν → VaultClient ν
  | .read ref, client => (VaultStore.read hvac client ref).2
  | .writeNewVersion ref value, client => (VaultStore.writeNewVersion hvac client ref value).2
  | .verifyStore ref, client => (VaultStore.verifyStore hvac client ref).2
  | .revokeOld ref version, client => (VaultStore.revokeOld hvac client ref version).2

/-- A client calls its store, or another client of the same server has changed it. -/
inductive StoreMove (ν : Type) where
  | call (called : StoreCall)
  | elsewhere (server : ν)

def StoreMove.step {ν : Type} (hvac : Hvac ν) : StoreMove ν → VaultClient ν → VaultClient ν
  | .call called, client => called.step hvac client
  | .elsewhere server, client => { client with server := server }

/-- The move does not remove a version of a path. -/
def StoreMove.spares {ν : Type} (versions : Store.Versions ν String KvData) (path : String)
    (number : Int) (client : VaultClient ν) : StoreMove ν → Prop
  | .call (.revokeOld ref version) =>
      ref.path = path → readDecimal version.id.toList ≠ some number
  | .call _ => True
  | .elsewhere server => versions.Spares path number client.server server

/-- The connectors of a job whose store is Vault. Its cloud is any cloud. -/
def vaultConnectors {ν γ : Type} (hvac : Hvac ν) (cloud : Connectors γ) :
    Connectors (VaultClient ν × γ) where
  store := true
  cloud := cloud.cloud
  answer
    | .writeNewVersion ref value, world =>
        let answered := VaultStore.writeNewVersion hvac world.1 ref value
        (answered.1, answered.2, world.2)
    | .verifyStore ref, world =>
        let answered := VaultStore.verifyStore hvac world.1 ref
        (.ok answered.1, answered.2, world.2)
    | .createCredential principal, world =>
        let answered := cloud.answer (.createCredential principal) world.2
        (answered.1, world.1, answered.2)
    | .disableCredential credential, world =>
        let answered := cloud.answer (.disableCredential credential) world.2
        (answered.1, world.1, answered.2)
    | .deleteCredential credential, world =>
        let answered := cloud.answer (.deleteCredential credential) world.2
        (answered.1, world.1, answered.2)

end Sprawl
