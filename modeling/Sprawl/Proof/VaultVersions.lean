/-
This file proves that a version that the Vault connector has written stays readable.
-/

import Sprawl.Connectors.Vault
import Sprawl.Effect.Transition

namespace Sprawl

open Effect Text

variable {ν : Type} {hvac : Hvac ν}

namespace KvEngine

variable (engine : KvEngine hvac) (client : VaultClient ν)

/-- A connection changes no secret. -/
theorem connect_same : engine.Same client.server (client.connect hvac).2.server := by
  unfold VaultClient.connect
  cases client.reusable hvac with
  | error raised => exact .refl
  | ok reusable =>
      cases reusable with
      | true => exact .refl
      | false =>
          have created := engine.created client.server
          cases client.approle with
          | false => exact created
          | true => exact created.trans (engine.loggedIn _)

theorem ensured_same : engine.Same client.server (client.ensured hvac).2.server := by
  unfold VaultClient.ensured
  cases client.reusable hvac with
  | error raised => exact .refl
  | ok reusable =>
      cases reusable with
      | true => exact .refl
      | false => exact engine.connect_same client

theorem getSecret_same (path : String) (version : Option Int) :
    engine.Same client.server (client.getSecret hvac path version).2.server := by
  have same := engine.ensured_same client
  unfold VaultClient.getSecret
  generalize client.ensured hvac = ensured at same ⊢
  rcases ensured with ⟨raised | ready, connected⟩ <;> exact same

/-- A secret that a read returns is the content of the version that the read asks for. -/
theorem getSecret_content {path : String} {version : Option Int} {data : KvData}
    (got : (client.getSecret hvac path version).1 = .ok data) :
    engine.content client.server path
      (askedVersion version (engine.current client.server path)) = some data := by
  have same := engine.ensured_same client
  unfold VaultClient.getSecret at got
  generalize client.ensured hvac = ensured at same got
  rcases ensured with ⟨raised | ready, connected⟩
  · exact absurd got (by simp)
  · rw [← same.content, ← same.current]
    exact engine.read path version connected.server data got

/-- A write adds a version or nothing, also when it raises. -/
theorem putSecret_spares (path : String) (data : KvData) {other : String} {number : Int} :
    engine.Spares other number client.server (client.putSecret hvac path data).2.server := by
  have same := engine.ensured_same client
  unfold VaultClient.putSecret
  generalize client.ensured hvac = ensured at same ⊢
  rcases ensured with ⟨raised | ready, connected⟩
  · exact same.spares
  · obtain written | kept := engine.wrote path data connected.server
    · exact (same.written written).spares
    · exact (same.trans kept).spares

/-- A write that returns a version has added it. -/
theorem putSecret_written {path : String} {data : KvData} {version : Nat}
    (put : (client.putSecret hvac path data).1 = .ok version) :
    engine.Keeps (client.putSecret hvac path data).2.server path version data := by
  have same := engine.ensured_same client
  unfold VaultClient.putSecret at put ⊢
  generalize client.ensured hvac = ensured at same put ⊢
  rcases ensured with ⟨raised | ready, connected⟩
  · exact absurd put (by simp)
  · obtain ⟨written, numbered⟩ := engine.answered path data connected.server version put
    have keeps := written.keeps
    rw [numbered] at keeps
    exact keeps

theorem deleteVersions_spares (path : String) (versions : List Int) {other : String} {number : Int}
    (spared : other = path → number ∉ versions) :
    engine.Spares other number client.server
      (client.deleteVersions hvac path versions).2.server := by
  have same := engine.ensured_same client
  unfold VaultClient.deleteVersions
  generalize client.ensured hvac = ensured at same ⊢
  rcases ensured with ⟨raised | ready, connected⟩
  · exact same.spares
  · have removed := engine.deleted path versions connected.server
    exact (same.removed removed).spares spared

end KvEngine

namespace VaultStore

variable (engine : KvEngine hvac) (client : VaultClient ν) (ref : StoreRef)

theorem read_same : engine.Same client.server (read hvac client ref).2.server := by
  unfold read
  cases versionNumber ref with
  | error raised => exact .refl
  | ok version =>
      have same := engine.getSecret_same client ref.path version
      dsimp only
      generalize client.getSecret hvac ref.path version = got at same ⊢
      rcases got with ⟨raised | data, reached⟩ <;> exact same

/-- A write returns the number of its version, and the version has the value. -/
theorem writeNewVersion_keeps {value : SecretValue} {version : VersionId}
    (wrote : (writeNewVersion hvac client ref value).1 = .ok version) :
    ∃ number, readDecimal version.id.toList = some number ∧
      engine.Keeps (writeNewVersion hvac client ref value).2.server ref.path number
        [("value", value.value)] := by
  have written := @KvEngine.putSecret_written _ _ engine client ref.path [("value", value.value)]
  unfold writeNewVersion at wrote ⊢
  generalize client.putSecret hvac ref.path [("value", value.value)] = put at written wrote ⊢
  rcases put with ⟨raised | number, reached⟩
  · exact absurd wrote (by simp)
  · obtain rfl := Except.ok.inj wrote
    exact ⟨number, readDecimal_toString number, written rfl⟩

theorem writeNewVersion_spares (value : SecretValue) {path : String} {number : Int} :
    engine.Spares path number client.server (writeNewVersion hvac client ref value).2.server := by
  have spares : engine.Spares path number client.server
      (client.putSecret hvac ref.path [("value", value.value)]).2.server :=
    engine.putSecret_spares client ref.path _
  unfold writeNewVersion
  generalize client.putSecret hvac ref.path [("value", value.value)] = put at spares ⊢
  rcases put with ⟨raised | version, reached⟩ <;> exact spares

theorem verifyStore_same : engine.Same client.server (verifyStore hvac client ref).2.server := by
  have same := engine.getSecret_same client ref.path none
  unfold verifyStore
  generalize client.getSecret hvac ref.path none = got at same ⊢
  rcases got with ⟨raised | data, reached⟩ <;> exact same

theorem revokeOld_spares (version : VersionId) {path : String} {number : Int}
    (spared : ref.path = path → readDecimal version.id.toList ≠ some number) :
    engine.Spares path number client.server (revokeOld hvac client ref version).2.server := by
  unfold revokeOld
  cases named : readDecimal version.id.toList with
  | none => exact Store.Versions.Same.refl.spares
  | some other =>
      have spares : engine.Spares path number client.server
          (client.deleteVersions hvac ref.path [other]).2.server := by
        apply engine.deleteVersions_spares
        intro same inside
        rw [List.mem_singleton] at inside
        exact spared same.symm (inside ▸ named)
      dsimp only
      generalize client.deleteVersions hvac ref.path [other] = deleted at spares ⊢
      rcases deleted with ⟨raised | done, reached⟩ <;> exact spares

end VaultStore

/-- A move that does not remove a version spares it. -/
theorem StoreMove.step_spares (engine : KvEngine hvac) {path : String} {number : Int}
    (client : VaultClient ν) (move : StoreMove ν)
    (spared : move.spares engine.toVersions path number client) :
    engine.Spares path number client.server (move.step hvac client).server := by
  cases move with
  | elsewhere server => exact spared
  | call called =>
      cases called with
      | read ref => exact (VaultStore.read_same engine client ref).spares
      | writeNewVersion ref value => exact VaultStore.writeNewVersion_spares engine client ref value
      | verifyStore ref => exact (VaultStore.verifyStore_same engine client ref).spares
      | revokeOld ref version => exact VaultStore.revokeOld_spares engine client ref version spared

/-- A secret with one value is read as this value. -/
theorem singleValue_written (value : String) : singleValue [("value", value)] = value := by
  by_cases empty : value = ""
  · simp [singleValue, Option.filter_some, empty]
  · simp [singleValue, Option.filter_some, empty]

/-- A pinned read of a kept version returns its value. -/
theorem VaultStore.read_kept (engine : KvEngine hvac) {client : VaultClient ν} {ref : StoreRef}
    {version value : String} {number : Int} (named : readDecimal version.toList = some number)
    (keeps : engine.Keeps client.server ref.path number [("value", value)])
    (recent : engine.current client.server ref.path < number + engine.capacity)
    {secret : VaultSecret}
    (got : (read hvac client { ref with version := some version }).1 = .ok secret) :
    secret.value = value := by
  -- An empty version text or the version zero would ask for the newest version instead.
  have pinned : versionNumber { ref with version := some version } = .ok (some number) := by
    have nonempty : version ≠ "" := by
      rintro rfl
      have unread : readDecimal "".toList = none := by decide
      exact absurd (unread.symm.trans named) (by simp)
    simp [versionNumber, Option.filter_some, nonempty, named]
  have content := @KvEngine.getSecret_content _ _ engine client ref.path (some number)
  unfold read at got
  rw [pinned] at got
  dsimp only at got
  generalize client.getSecret hvac ref.path (some number) = answered at content got
  rcases answered with ⟨raised | data, reached⟩
  · exact absurd got (by simp)
  · have asked : askedVersion (some number) (engine.current client.server ref.path) = number := by
      have nonzero : number ≠ 0 := Int.ne_of_gt keeps.positive
      simp [askedVersion, Option.filter_some, nonzero]
    have held := content rfl
    rw [asked, keeps.held recent] at held
    obtain rfl := Except.ok.inj got
    rw [← Option.some.inj held]
    exact singleValue_written value

/-- A version that the connector has written stays readable through every later call of this and of
other clients, until it is removed or its path has too many newer versions. -/
theorem written_version_readable (engine : KvEngine hvac) {client next : VaultClient ν}
    {ref : StoreRef} {value : SecretValue} {version : VersionId}
    (wrote : VaultStore.writeNewVersion hvac client ref value = (.ok version, next)) :
    ∃ number, readDecimal version.id.toList = some number ∧
      ∀ moves : List (StoreMove ν),
        (∀ visit ∈ visits (StoreMove.step hvac) moves next,
          visit.2.spares engine.toVersions ref.path number visit.1) →
        let reached := runActions (StoreMove.step hvac) moves next
        engine.current reached.server ref.path < number + engine.capacity →
          engine.content reached.server ref.path number = some [("value", value.value)] ∧
          ∀ secret, (VaultStore.read hvac reached { ref with version := some version.id }).1 =
            .ok secret → secret.value = value.value := by
  obtain ⟨number, named, keeps⟩ := VaultStore.writeNewVersion_keeps engine client ref
    (congrArg Prod.fst wrote)
  rw [wrote] at keeps
  refine ⟨number, named, ?_⟩
  intro moves spared reached recent
  have kept : engine.Keeps reached.server ref.path number [("value", value.value)] :=
    invariant_runActions
      (fun client => engine.Keeps client.server ref.path number [("value", value.value)])
      (fun client move keeps spared => keeps.spares (move.step_spares engine client spared)) keeps
      spared
  exact ⟨kept.held recent, fun secret got => VaultStore.read_kept engine named kept recent got⟩

/-- A Vault server in memory that shows ten versions of each path. -/
def devVault : Hvac (Store.Listed String KvData) where
  isValueError _ := false
  newClient server := server
  isAuthenticated _ := .ok true
  login server := (.ok (), server)
  readSecretVersion path version server :=
    match (Store.Listed.versions String KvData 10).content server path
        (askedVersion version (server path).length) with
    | some data => .ok data
    | none => .error "None, on get"
  createOrUpdateSecret path secret server :=
    (.ok ((server path).length + 1), server.write path secret)
  deleteSecretVersions path versions server := (.ok (), server.remove path versions)

def devEngine : KvEngine devVault where
  toVersions := Store.Listed.versions String KvData 10
  created _ := .refl
  loggedIn _ := .refl
  read path version server data got := by
    simp only [devVault] at got
    split at got
    · rename_i content
      rw [← Except.ok.inj got]
      exact content
    · exact absurd got (by simp)
  wrote path secret server := Or.inl (server.write_written (by decide) path secret)
  answered path secret server version answer := by
    have written : (Store.Listed.versions String KvData 10).Written path secret server
        (server.write path secret) := server.write_written (by decide) path secret
    exact ⟨written, written.counted.trans (Except.ok.inj answer)⟩
  deleted path versions server := server.remove_removed path versions

/-- A client of a server with one version of one secret. -/
def devClient : VaultClient (Store.Listed String KvData) where
  server := Store.Listed.write (fun _ => []) "sprawl/demo/svc-payments-prod" [("value", "first")]
  created := false
  approle := true

def devRef : StoreRef where
  connectorType := "vault"
  connectorId := "default"
  path := "sprawl/demo/svc-payments-prod"

/-- The store is verified, another client writes the next version, and the first one is revoked. -/
def devMoves : List (StoreMove (Store.Listed String KvData)) :=
  [.call (.verifyStore devRef),
    .elsewhere ((devClient.server.write devRef.path [("value", "second")]).write devRef.path
      [("value", "third")]),
    .call (.revokeOld devRef { id := "1", storeRef := devRef })]

/-- The second version is still readable after these moves. -/
theorem written_version_readable_rotated :
    let wrote := VaultStore.writeNewVersion devVault devClient devRef { value := "second" }
    let read := VaultStore.read devVault (runActions (StoreMove.step devVault) devMoves wrote.2)
      { devRef with version := some "2" }
    (∃ secret, read.1 = .ok secret) ∧ ∀ secret, read.1 = .ok secret → secret.value = "second" := by
  obtain ⟨number, named, stays⟩ := written_version_readable devEngine
    (show VaultStore.writeNewVersion devVault devClient devRef { value := "second" } =
      (.ok { id := "2", storeRef := devRef }, _) from rfl)
  have second : (2 : Int) = number := Option.some.inj named
  subst second
  refine ⟨⟨_, rfl⟩, (stays devMoves ?_ (by decide)).2⟩
  have third : devEngine.Written devRef.path [("value", "third")]
      (devClient.server.write devRef.path [("value", "second")]) _ :=
    Store.Listed.write_written (by decide) _ _ _
  simp only [devMoves, visits_cons, visits_nil, List.forall_mem_cons]
  exact ⟨trivial, third.spares, fun _ => by decide, by simp⟩

end Sprawl
