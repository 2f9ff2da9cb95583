/-
This file proves that the version that a rotation row names has the secret of its credential.
-/

import Sprawl.Proof.Provisioning
import Sprawl.Proof.VaultVersions

namespace Sprawl

open Effect Text

/-- The calls have created the credential of a reference and have written its secret. -/
def Backing (ref : NewSecretRef) (calls : List ConnectorEvent) : Prop :=
  ∃ material ∈ createdMaterials calls, ∃ store version,
    ⟨.writeNewVersion store (provisionedValue material), .ok version⟩ ∈ calls ∧
      ref.path = store.path ∧ ref.version = version.id ∧
        ref.credentialId = material.credentialId ∧ ref.accessKeyId = material.accessKeyId

/-- The calls back the reference of the rotation row. -/
def Backed (rotation : Rotation) (calls : List ConnectorEvent) : Prop :=
  ∀ ref, rotation.newSecretRef = some ref → Backing ref calls

theorem Backing.mono {ref : NewSecretRef} {calls later : List ConnectorEvent}
    (backing : Backing ref calls) (within : calls ⊆ later) : Backing ref later := by
  obtain ⟨material, created, store, version, written, same⟩ := backing
  exact ⟨material, List.filterMap_subset _ within created, store, version, within written, same⟩

/-- A row with the same reference stays backed by more calls. -/
theorem Backed.later {rotation after : Rotation} {calls later : List ConnectorEvent}
    (backed : Backed rotation calls) (same : after.newSecretRef = rotation.newSecretRef)
    (within : calls ⊆ later) : Backed after later :=
  fun ref saved => (backed ref (same.symm.trans saved)).mono within

/-- An executor that returns a reference has backed it. -/
theorem Executed.backing {keys : ConnectorKeys} {step : RotationStep} {rotation : Rotation}
    {events : List ConnectorEvent} {result : StepResult} {ref : NewSecretRef}
    (outcome : Executed keys step rotation events result) (saved : result.newSecretRef = some ref) :
    Backing ref events := by
  cases outcome with
  | provisioned kind present stored material version =>
      obtain rfl := Option.some.inj saved
      refine ⟨material, List.mem_cons_self, vaultRef rotation.storePath, version, ?_, rfl, rfl, rfl,
        rfl⟩
      exact List.mem_cons_of_mem _ List.mem_cons_self
  | _ => exact absurd saved (by simp [failedWith])

section Call

variable {κ : Type} {connectors : Connectors κ} {actor : String} {session final : Session Rows κ}
  {step : RotationStep} {moment : Moment Command Command.Reply (Session Rows κ)}

/-- A step that finishes saves a backed reference or keeps the one of the row. -/
theorem Backed.finished (backed : Backed session.db.rotation session.calls) {after : Rotation}
    (saves : after.newSecretRef =
      (session.outcome connectors step session.db.rotation).newSecretRef.or
        session.db.rotation.newSecretRef) :
    Backed after (session.calls ++ session.outcomeEvents connectors step session.db.rotation) := by
  intro ref saved
  rw [saves] at saved
  have outcome := session.outcome_executed connectors step session.db.rotation
  cases returned : (session.outcome connectors step session.db.rotation).newSecretRef with
  | none =>
      rw [returned, Option.none_or] at saved
      exact (backed ref saved).mono (List.subset_append_left _ _)
  | some new =>
      rw [returned, Option.some_or] at saved
      obtain rfl := Option.some.inj saved
      exact (outcome.backing returned).mono (List.subset_append_right _ _)

/-- A failed step and its rollback keep the reference and all calls. -/
theorem Undoes.keepsSaved {rotation : Rotation} {steps : List RotationStep} {error : Option String}
    (undoes : Undoes connectors actor session rotation steps step error moment) :
    moment.state.db.rotation.newSecretRef = session.db.rotation.newSecretRef ∧
      session.calls ⊆ moment.state.calls := by
  have passed {queue : List RotationStep} {events : List ConnectorEvent} {rows : Rows}
      {failures : List String}
      (all : CompensatedAll connectors.toConnectorKeys rotation session.clock queue
        (session.db.undoing actor step error session.clock) events rows failures) :
      rows.rotation.newSecretRef = session.db.rotation.newSecretRef :=
    (congrArg Rotation.newSecretRef all.rotation_eq :)
  cases undoes with
  | failing internal calls rows =>
      rw [calls]
      refine ⟨?_, List.Subset.refl _⟩
      rcases rows with same | same <;> rw [same]
      rfl
  | beginning internal calls rows =>
      rw [calls]
      refine ⟨?_, List.Subset.refl _⟩
      rcases rows with same | same <;> rw [same] <;> rfl
  | compensating within =>
      cases within with
      | calling before next rest split events failures passes issued called =>
          rw [called]
          exact ⟨passed passes, List.subset_append_left _ _⟩
      | recording before next rest split events more failures result passes outcome internal
          called =>
          rw [called, List.append_assoc]
          exact ⟨passed passes, List.subset_append_left _ _⟩
  | ending events compensated failures all internal calls rows =>
      rw [calls]
      refine ⟨?_, List.subset_append_left _ _⟩
      rcases rows with same | same <;> rw [same]
      · exact passed all
      · exact (passed all :)

/-- The row of a running step is backed at each moment. -/
theorem StepShows.backed (shows : StepShows connectors actor session step moment)
    (backed : Backed session.db.rotation session.calls) :
    Backed moment.state.db.rotation moment.state.calls := by
  have started := Rows.started_newSecretRef session.db actor step session.clock
  cases shows with
  | starting internal calls rows =>
      rw [calls]
      rcases rows with same | same <;> rw [same]
      · exact backed
      · exact backed.later started (List.Subset.refl _)
  | executing issued external calls rows =>
      rw [calls, rows]
      exact backed.later started (List.Subset.refl _)
  | finishing done internal calls rows =>
      rw [calls]
      rcases rows with (same | same) | same <;> rw [same]
      · exact backed.later started (List.subset_append_left _ _)
      · exact backed.finished (by rw [Rows.finished_newSecretRef, started])
      · exact backed.finished (by rw [Rows.afterFinish_newSecretRef, started])
  | undoing failed executed reaches undoes =>
      obtain ⟨saved, within⟩ := undoes.keepsSaved
      rw [reaches.db, started] at saved
      rw [reaches.calls] at within
      exact backed.later saved (List.Subset.trans (List.subset_append_left _ _) within)

theorem StepEnd.backed (ends : StepEnd connectors actor session step final)
    (backed : Backed session.db.rotation session.calls) :
    Backed final.db.rotation final.calls := by
  have started := Rows.started_newSecretRef session.db actor step session.clock
  cases ends with
  | finished done ends =>
      rw [ends.db, ends.calls]
      exact backed.finished (by rw [Rows.afterFinish_newSecretRef, started])
  | rolledBack failed later rows undone ends =>
      rw [ends.db, ends.calls]
      exact backed.later (undone.newSecretRef.trans started) (List.subset_append_left _ _)

/-- An engine call keeps the row backed, wherever it stops. -/
theorem advanceRotation_backed (connectors : Connectors κ) (actor : String)
    (empty : session.pending = []) (backed : Backed session.db.rotation session.calls) :
    (advanceRotation session.db.rotation.id session.db.rotation.workspaceId actor).Ensures
      (Session.answer connectors) session
      (fun moment => Backed moment.state.db.rotation moment.state.calls)
      fun _ final => Backed final.db.rotation final.calls := by
  constructor
  · intro moment inside
    cases advanceRotation_shows connectors actor empty moment inside with
    | reading reads =>
        rw [reads.state]
        exact backed
    | settling after settles internal calls rows =>
        rw [calls]
        rcases rows with same | same <;> rw [same]
        · exact backed
        · exact backed.later settles.newSecretRef (List.Subset.refl _)
    | running step executes shows => exact shows.backed backed
  · cases (advanceRotation_ensures connectors actor empty).final with
    | idle idles ends =>
        rw [ends.db, ends.calls]
        exact backed.later rfl (List.subset_append_left _ _)
    | settled after settles ends =>
        rw [ends.db, ends.calls]
        exact backed.later settles.newSecretRef (List.subset_append_left _ _)
    | ran step executes ends => exact ends.backed backed

/-- A worker that stops inside a command forgets no call. -/
theorem Session.calls_subset_cut (connectors : Connectors κ) (count : Nat) (issued : Command) :
    session.calls ⊆ (session.cut connectors count issued).calls := by
  cases issued with
  | executeStep step rotation =>
      rw [Session.cut_executeStep]
      exact List.subset_append_left _ _
  | compensateStep step rotation =>
      obtain ⟨events, result, outcome, cut⟩ :=
        Session.cut_compensateStep connectors count step rotation
      rw [cut]
      exact List.subset_append_left _ _
  | _ => exact List.Subset.refl _

end Call

/-- An action keeps the row backed. -/
theorem CutAction.backed {κ : Type} {world : World κ} (action : CutAction κ)
    (backed : Backed world.db.rotation world.calls) :
    Backed (action.step world).db.rotation (action.step world).calls := by
  cases action with
  | request request clock =>
      obtain ⟨reply, final, handled, same⟩ := world.handle_end request clock
      rw [CutAction.step, same]
      change Backed final.db.rotation final.calls
      rw [handled.calls]
      exact backed.later handled.newSecretRef (List.Subset.refl _)
  | advance invocation =>
      exact (advanceRotation_backed invocation.connectors invocation.actor
        (world.session.opened_pending invocation.clock) backed).final
  | cut count calls invocation =>
      have ensures := @advanceRotation_backed _ (world.session.opened invocation.clock)
        invocation.connectors invocation.actor rfl backed
      change Backed (Rows.rotation (Session.closed _).db) (Session.closed _).calls
      rw [Session.closed_db, Session.closed_calls]
      obtain same | ⟨moment, inside, same⟩ := Program.cutAfter_mem
        (Session.answer invocation.connectors) (Session.cut invocation.connectors calls) count
        (world.engineCall invocation) (world.session.opened invocation.clock)
      · rw [same]
        exact ensures.final
      · rw [same, Session.cut_db]
        exact (ensures.moments moment inside).later rfl (Session.calls_subset_cut _ calls _)

section Store

variable {ν γ : Type} {hvac : Hvac ν}

/-- The store has every version that a call has written, unless too many newer ones are there. -/
def Recorded (engine : KvEngine hvac) (client : VaultClient ν) (calls : List ConnectorEvent) :
    Prop :=
  ∀ ref value version, ⟨.writeNewVersion ref value, .ok version⟩ ∈ calls →
    ∃ number, readDecimal version.id.toList = some number ∧
      engine.Keeps client.server ref.path number [("value", value.value)]

namespace Recorded

variable {engine : KvEngine hvac} {client : VaultClient ν} {calls : List ConnectorEvent}

/-- A change that removes nothing and a call that wrote nothing keep the versions recorded. -/
theorem extend (recorded : Recorded engine client calls) {after : VaultClient ν}
    (spares : ∀ path number, engine.Spares path number client.server after.server)
    {event : ConnectorEvent}
    (fresh : ∀ ref value version, event = ⟨.writeNewVersion ref value, .ok version⟩ →
      ∃ number, readDecimal version.id.toList = some number ∧
        engine.Keeps after.server ref.path number [("value", value.value)]) :
    Recorded engine after (calls ++ [event]) := by
  intro ref value version inside
  rw [List.mem_append, List.mem_singleton] at inside
  obtain earlier | new := inside
  · obtain ⟨number, named, keeps⟩ := recorded ref value version earlier
    exact ⟨number, named, keeps.spares (spares ref.path number)⟩
  · exact fresh ref value version new.symm

/-- Every call of a job with a Vault store keeps the versions recorded. -/
theorem answer (cloud : Connectors γ) (call : ConnectorCall) (world : VaultClient ν × γ)
    (recorded : Recorded engine world.1 calls) :
    let answered := (vaultConnectors hvac cloud).answer call world
    Recorded engine answered.2.1 (calls ++ [⟨call, answered.1⟩]) := by
  -- A rotation revokes no version, so only a write changes the store.
  cases call with
  | writeNewVersion ref value =>
      apply recorded.extend fun path number =>
        VaultStore.writeNewVersion_spares engine world.1 ref value
      intro other written version same
      obtain ⟨rfl, rfl⟩ := ConnectorCall.writeNewVersion.inj (congrArg ConnectorEvent.call same)
      exact VaultStore.writeNewVersion_keeps engine world.1 ref
        (eq_of_heq (ConnectorEvent.mk.inj same).2)
  | verifyStore ref =>
      have same := VaultStore.verifyStore_same engine world.1 ref
      exact recorded.extend (fun path number => same.spares) (by simp)
  | createCredential principal | disableCredential credential | deleteCredential credential =>
      exact recorded.extend (fun path number => Store.Versions.Same.refl.spares) (by simp)

end Recorded

/-- The calls of a session are recorded in its store. -/
abbrev Session.recorded (engine : KvEngine hvac) (session : Session Rows (VaultClient ν × γ)) :
    Prop :=
  Recorded engine session.external.1 session.calls

section Vault

variable {engine : KvEngine hvac} {connectors : Connectors (VaultClient ν × γ)}
  {cloud : Connectors γ} (vault : connectors.answer = (vaultConnectors hvac cloud).answer)

include vault

theorem recording_recorded (call : ConnectorCall)
    (state : (VaultClient ν × γ) × List ConnectorEvent)
    (recorded : Recorded engine state.1.1 state.2) :
    let recording := connectors.recording call state
    Recorded engine recording.2.1.1 recording.2.2 := by
  rw [Connectors.recording, vault]
  exact recorded.answer cloud call state.1

theorem Session.runConnectors_recorded {α : Type}
    (program : Program ConnectorCall ConnectorCall.Reply α)
    {session : Session Rows (VaultClient ν × γ)} (recorded : session.recorded engine) :
    (session.runConnectors connectors program).2.recorded engine :=
  program.run_invariant connectors.recording (fun state => Recorded engine state.1.1 state.2)
    (recording_recorded vault) recorded

theorem Session.cutConnectors_recorded {α : Type} (count : Nat)
    (program : Program ConnectorCall ConnectorCall.Reply α)
    {session : Session Rows (VaultClient ν × γ)} (recorded : session.recorded engine) :
    (session.cutConnectors connectors count program).recorded engine := by
  rw [Session.recorded, Session.cutConnectors, Program.stateAfter_eq_cutAfter]
  exact Program.cutAfter_invariant connectors.recording
    (fun state => Recorded engine state.1.1 state.2) (recording_recorded vault)
    (fun _ _ recorded => recorded) count program recorded

/-- Every command keeps the calls recorded. -/
theorem Session.answer_recorded (issued : Command) (session : Session Rows (VaultClient ν × γ))
    (recorded : session.recorded engine) :
    (session.answer connectors issued).2.recorded engine := by
  cases issued with
  | executeStep step rotation => exact Session.runConnectors_recorded vault _ recorded
  | compensateStep step rotation => exact Session.runConnectors_recorded vault _ recorded
  | acquireLock secretId rotationId =>
      simp only [Session.answer]
      split <;> exact recorded
  | releaseLock secretId rotationId =>
      simp only [Session.answer]
      split <;> exact recorded
  | _ => exact recorded

theorem Session.cut_recorded (count : Nat) (issued : Command)
    (session : Session Rows (VaultClient ν × γ)) (recorded : session.recorded engine) :
    (session.cut connectors count issued).recorded engine := by
  cases issued with
  | executeStep step rotation => exact Session.cutConnectors_recorded vault count _ recorded
  | compensateStep step rotation => exact Session.cutConnectors_recorded vault count _ recorded
  | _ => exact recorded

end Vault

/-- The engine calls of a run use a Vault store. -/
def CutAction.usesVault (hvac : Hvac ν) (action : CutAction (VaultClient ν × γ)) : Prop :=
  ∀ invocation ∈ action.invocation, ∃ cloud : Connectors γ,
    invocation.connectors.answer = (vaultConnectors hvac cloud).answer

/-- An action with a Vault store keeps the calls recorded. -/
theorem CutAction.recorded {engine : KvEngine hvac} {world : World (VaultClient ν × γ)}
    (action : CutAction (VaultClient ν × γ)) (vault : action.usesVault hvac)
    (recorded : world.session.recorded engine) : (action.step world).session.recorded engine := by
  cases action with
  | request request clock =>
      obtain ⟨reply, final, handled, same⟩ := world.handle_end request clock
      rw [CutAction.step, same]
      cases handled <;> exact recorded
  | advance invocation =>
      obtain ⟨cloud, same⟩ := vault invocation rfl
      exact Program.run_invariant (Session.answer invocation.connectors)
        (fun session => session.recorded engine) (Session.answer_recorded same)
        (world.engineCall invocation)
        (show (world.session.opened invocation.clock).recorded engine from recorded)
  | cut count calls invocation =>
      obtain ⟨cloud, same⟩ := vault invocation rfl
      exact Program.cutAfter_invariant (Session.answer invocation.connectors)
        (fun session => session.recorded engine) (Session.answer_recorded same)
        (Session.cut_recorded same calls) count (world.engineCall invocation)
        (show (world.session.opened invocation.clock).recorded engine from recorded)

/-- The rotation acts, or another client of its Vault server has changed it. -/
inductive VaultAction (ν γ : Type) where
  | rotation (action : CutAction (VaultClient ν × γ))
  | elsewhere (server : ν)

namespace VaultAction

def step : VaultAction ν γ → World (VaultClient ν × γ) → World (VaultClient ν × γ)
  | .rotation action, world => action.step world
  | .elsewhere server, world =>
      { world with session :=
          { world.session with
            external := ({ world.session.external.1 with server := server },
              world.session.external.2) } }

/-- The engine calls use the Vault store, and the other clients remove no version. -/
def allowed (engine : KvEngine hvac) (world : World (VaultClient ν × γ)) :
    VaultAction ν γ → Prop
  | .rotation action => action.usesVault hvac
  | .elsewhere server =>
      ∀ path number, engine.Spares path number world.session.external.1.server server

/-- An allowed action keeps the row backed and the calls recorded. -/
theorem kept {engine : KvEngine hvac} {world : World (VaultClient ν × γ)} (action : VaultAction ν γ)
    (allowed : action.allowed engine world)
    (kept : Backed world.db.rotation world.calls ∧ world.session.recorded engine) :
    Backed (action.step world).db.rotation (action.step world).calls ∧
      (action.step world).session.recorded engine := by
  obtain ⟨backed, recorded⟩ := kept
  cases action with
  | rotation action => exact ⟨action.backed backed, action.recorded allowed recorded⟩
  | elsewhere server =>
      refine ⟨backed, fun ref value version inside => ?_⟩
      obtain ⟨number, named, keeps⟩ := recorded ref value version inside
      exact ⟨number, named, keeps.spares (allowed ref.path number)⟩

end VaultAction

/-- The row of a rotation names the version that has the secret of its credential. Vault shows this
version until its path has too many newer ones. -/
theorem rotation_secret_readable (engine : KvEngine hvac) (proposal : Proposal)
    (external : VaultClient ν × γ) (actions : List (VaultAction ν γ))
    (allowed : ∀ visit ∈ visits VaultAction.step actions (World.proposed proposal external),
      visit.2.allowed engine visit.1) :
    let world := runActions VaultAction.step actions (World.proposed proposal external)
    let client := world.session.external.1
    ∀ ref, world.db.rotation.newSecretRef = some ref →
      ∃ material ∈ createdMaterials world.calls, ref.credentialId = material.credentialId ∧
        ref.accessKeyId = material.accessKeyId ∧
        ∃ number, readDecimal ref.version.toList = some number ∧
          (engine.current client.server ref.path < number + engine.capacity →
            engine.content client.server ref.path number =
              some [("value", material.secretAccessKey.getD "")] ∧
            ∀ secret, (VaultStore.read hvac client
                { vaultRef ref.path with version := some ref.version }).1 = .ok secret →
              secret.value = material.secretAccessKey.getD "") := by
  intro world client ref saved
  obtain ⟨backed, recorded⟩ :
      Backed world.db.rotation world.calls ∧ world.session.recorded engine :=
    invariant_runActions
      (fun world => Backed world.db.rotation world.calls ∧ world.session.recorded engine)
      (fun _ action kept allowed => action.kept allowed kept)
      ⟨fun ref saved => absurd saved (by simp [World.proposed, Proposal.rows, Proposal.rotation]),
        fun ref value version inside => absurd inside List.not_mem_nil⟩ allowed
  obtain ⟨material, created, store, version, written, path, named, credential, key⟩ :=
    backed ref saved
  obtain ⟨number, numbered, keeps⟩ := recorded store _ version written
  rw [← path] at keeps
  rw [← named] at numbered
  refine ⟨material, created, credential, key, number, numbered, fun recent => ?_⟩
  exact ⟨keeps.held recent, fun secret got =>
    @VaultStore.read_kept _ _ engine _ (vaultRef ref.path) _ _ _ numbered keeps recent _ got⟩

end Store

/-- An engine call with the Vault store and the sandbox cloud. -/
def devCall : Invocation (VaultClient (Store.Listed String KvData) × SandboxStore) where
  connectors := vaultConnectors devVault (sandboxConnectors none)
  clock := 1
  actor := "system"

/-- The path of the new secret of the demo rotation. -/
def devPath : String := "rotation/" ++ toString namedPlan.id ++ "/new_credential"

/-- The server after the provision step and the write of another client. -/
def devServer : Store.Listed String KvData :=
  (devClient.server.write devPath [("value", sandboxSecret)]).write devPath [("value", "other")]

/-- The demo rotation provisions, another client writes to its path, and the rotation ends. -/
def devActions : List (VaultAction (Store.Listed String KvData) SandboxStore) :=
  [.rotation (.request sandboxApproval 1), .rotation (.advance devCall), .elsewhere devServer,
    .rotation (.advance devCall), .rotation (.advance devCall), .rotation (.advance devCall)]

theorem devActions_allowed :
    ∀ visit ∈ visits VaultAction.step devActions (World.proposed namedPlan (devClient, [])),
      visit.2.allowed devEngine visit.1 := by
  have called (world : World (VaultClient (Store.Listed String KvData) × SandboxStore)) :
      VaultAction.allowed devEngine world (.rotation (.advance devCall)) := by
    intro invocation given
    obtain rfl := Option.some.inj given
    exact ⟨sandboxConnectors none, rfl⟩
  simp only [devActions, visits_cons, visits_nil, List.forall_mem_cons]
  refine ⟨fun _ given => absurd given (by simp [CutAction.invocation]), called _, ?_, called _,
    called _, called _, by simp⟩
  intro path number
  exact (Store.Listed.write_written (by decide) _ devPath [("value", "other")]).spares

/-- The third version has the distributed placeholder, and the first one is still the new secret. -/
theorem rotation_secret_readable_distributed :
    let world := runActions VaultAction.step devActions (World.proposed namedPlan (devClient, []))
    world.db.rotation.status = .completed ∧ ∃ ref, world.db.rotation.newSecretRef = some ref ∧
      let read := VaultStore.read devVault world.session.external.1
        { vaultRef ref.path with version := some ref.version }
      (∃ secret, read.1 = .ok secret) ∧
        ∀ secret, read.1 = .ok secret → secret.value = sandboxSecret := by
  refine ⟨by decide, _, rfl, ⟨_, rfl⟩, ?_⟩
  obtain ⟨material, created, _, _, number, named, stays⟩ := rotation_secret_readable devEngine
    namedPlan (devClient, []) devActions devActions_allowed _ rfl
  obtain rfl := List.mem_singleton.mp created
  obtain rfl : (1 : Int) = number := Option.some.inj named
  exact (stays (by decide)).2

end Sprawl
