/-
This file proves that a new secret reaches the store alone: no row, event or result depends on it.
-/

import Sprawl.Effect.Relational
import Sprawl.Proof.Outcome
import Sprawl.Rotation.Sandbox

namespace Sprawl

open Effect

variable {κ κ' : Type}

section Calls

/-- The material without the secret itself. -/
def CredentialMaterial.disclosed (material : CredentialMaterial) : CredentialMaterial :=
  { material with secretAccessKey := none }

/-- A stored value without the secret itself. -/
def SecretValue.disclosed (value : SecretValue) : SecretValue := { value with value := "" }

/-- A call without the secret that it writes. -/
def ConnectorCall.disclosed : ConnectorCall → ConnectorCall
  | .writeNewVersion ref value => .writeNewVersion ref value.disclosed
  | call => call

/-- Two replies to alike calls are the same, up to the secret of a new credential. -/
def ConnectorCall.AlikeReplies : (call other : ConnectorCall) → call.Reply → other.Reply → Prop
  | .createCredential _, .createCredential _, reply, answer =>
      reply.map CredentialMaterial.disclosed = answer.map CredentialMaterial.disclosed
  | .disableCredential _, .disableCredential _, reply, answer => reply = answer
  | .deleteCredential _, .deleteCredential _, reply, answer => reply = answer
  | .writeNewVersion _ _, .writeNewVersion _ _, reply, answer => reply = answer
  | .verifyStore _, .verifyStore _, reply, answer => reply = answer
  | _, _, _, _ => False

/-- Two programs of connector calls are alike and return the same value. -/
abbrev AlikePrograms {α : Type} (first second : Program ConnectorCall ConnectorCall.Reply α) : Prop :=
  Program.Alike (fun call other => call.disclosed = other.disclosed) ConnectorCall.AlikeReplies Eq
    first second

/-- Two connectors have the same keys and answer alike calls alike. The relation of their states is
free, so the stores may hold different secrets. -/
structure Connectors.Alike (similar : κ → κ' → Prop) (first : Connectors κ)
    (second : Connectors κ') : Prop where
  keys : first.toConnectorKeys = second.toConnectorKeys
  answers : Mirrors (fun call other => call.disclosed = other.disclosed)
    ConnectorCall.AlikeReplies similar first.answer second.answer

end Calls

section Executors

variable (keys : ConnectorKeys) {step : RotationStep} (rotation : Rotation)

theorem disclosed_fields {material other : CredentialMaterial}
    (same : material.disclosed = other.disclosed) :
    material.accessKeyId = other.accessKeyId ∧ material.credentialId = other.credentialId := by
  simp only [CredentialMaterial.disclosed, CredentialMaterial.mk.injEq] at same
  exact ⟨same.2.1, same.1⟩

/-- A value is written alike for alike material. -/
theorem provisionedValue_disclosed {material other : CredentialMaterial}
    (same : material.disclosed = other.disclosed) :
    (provisionedValue material).disclosed = (provisionedValue other).disclosed := by
  obtain ⟨access, credential⟩ := disclosed_fields same
  simp only [SecretValue.disclosed, provisionedValue, access, credential]

/-- The reference on the rotation row does not have the secret. -/
theorem provisionedRef_disclosed {material other : CredentialMaterial}
    (same : material.disclosed = other.disclosed) (version : VersionId) :
    provisionedRef rotation material version = provisionedRef rotation other version := by
  obtain ⟨access, credential⟩ := disclosed_fields same
  simp only [provisionedRef, access, credential]

/-- A creation fails with one text or succeeds with alike material. -/
theorem alikeCreation_cases {principal other : PrincipalRef}
    {reply answer : Except String CredentialMaterial}
    (alike : ConnectorCall.AlikeReplies (.createCredential principal) (.createCredential other) reply
      answer) :
    (∃ text, reply = .error text ∧ answer = .error text) ∨
      ∃ material created, reply = .ok material ∧ answer = .ok created ∧
        material.disclosed = created.disclosed := by
  have same : reply.map CredentialMaterial.disclosed = answer.map CredentialMaterial.disclosed :=
    alike
  cases reply with
  | error text =>
      cases answer with
      | error otherText =>
          obtain rfl : text = otherText := Except.error.inj same
          exact Or.inl ⟨text, rfl, rfl⟩
      | ok created => exact absurd same (by simp [Except.map])
  | ok material =>
      cases answer with
      | error otherText => exact absurd same (by simp [Except.map])
      | ok created => exact Or.inr ⟨material, created, rfl, rfl, Except.ok.inj same⟩

theorem provision_alike (kind : step.kind = .provision) :
    AlikePrograms (executeStep keys step rotation) (executeStep keys step rotation) := by
  cases cloud : keys.cloud with
  | false =>
      rw [executeStep_provision_noCloud _ _ _ kind cloud]
      exact rfl
  | true =>
      cases stored : keys.store && rotation.hasPlan with
      | false =>
          rw [executeStep_provision_unstored _ _ _ kind cloud stored]
          refine ⟨rfl, fun reply answer alike => ?_⟩
          obtain ⟨text, rfl, rfl⟩ | ⟨material, created, rfl, rfl, _⟩ := alikeCreation_cases alike
          · exact rfl
          · exact rfl
      | true =>
          rw [executeStep_provision_stored _ _ _ kind cloud stored]
          refine ⟨rfl, fun reply answer alike => ?_⟩
          obtain ⟨text, rfl, rfl⟩ | ⟨material, created, rfl, rfl, same⟩ := alikeCreation_cases alike
          · exact rfl
          · -- Only this write has the secret.
            refine ⟨congrArg (ConnectorCall.writeNewVersion _) (provisionedValue_disclosed same),
              fun written back equal => ?_⟩
            obtain rfl : written = back := equal
            cases written with
            | error text => exact rfl
            | ok version =>
                exact congrArg (fun ref => ({ status := .done, newSecretRef := some ref } : StepResult))
                  (provisionedRef_disclosed rotation same version)

/-- Every executor is alike itself. -/
theorem executeStep_alike :
    AlikePrograms (executeStep keys step rotation) (executeStep keys step rotation) := by
  cases kind : step.kind with
  | provision => exact provision_alike keys rotation kind
  | distribute =>
      by_cases absent : rotation.newSecretRef = none ∨ keys.store = false
      · rw [executeStep_unstored _ _ _ (Or.inl kind) absent]
        exact rfl
      · simp only [not_or, Bool.not_eq_false] at absent
        obtain ⟨ref, known⟩ := Option.ne_none_iff_exists'.mp absent.1
        rw [executeStep_distribute_stored _ _ _ kind absent.2 known]
        refine ⟨rfl, fun reply answer equal => ?_⟩
        obtain rfl : reply = answer := equal
        cases reply <;> exact rfl
  | verify =>
      by_cases absent : rotation.newSecretRef = none ∨ keys.store = false
      · rw [executeStep_unstored _ _ _ (Or.inr kind) absent]
        exact rfl
      · simp only [not_or, Bool.not_eq_false] at absent
        obtain ⟨ref, known⟩ := Option.ne_none_iff_exists'.mp absent.1
        rw [executeStep_verify_stored _ _ _ kind absent.2 known]
        refine ⟨rfl, fun reply answer equal => ?_⟩
        obtain rfl : reply = answer := equal
        cases reply <;> exact rfl
  | revoke =>
      cases cloud : keys.cloud with
      | false =>
          rw [executeStep_revoke_noCloud _ _ _ kind cloud]
          exact rfl
      | true =>
          rw [executeStep_revoke _ _ _ kind cloud]
          refine ⟨rfl, fun reply answer equal => ?_⟩
          obtain rfl : reply = answer := equal
          cases reply with
          | error text => exact rfl
          | ok disabled =>
              refine ⟨rfl, fun deleted back same => ?_⟩
              obtain rfl : deleted = back := same
              cases deleted <;> exact rfl

/-- Every compensation is alike itself. -/
theorem compensateStep_alike :
    AlikePrograms (compensateStep keys step rotation) (compensateStep keys step rotation) := by
  by_cases keeps : step.deletesNewKey = false ∨ rotation.newSecretRef = none ∨ keys.cloud = false
  · rw [compensateStep_quiet _ _ _ keeps]
    exact rfl
  · simp only [not_or, Bool.not_eq_false] at keeps
    obtain ⟨deletes, known, present⟩ := keeps
    obtain ⟨ref, known⟩ := Option.ne_none_iff_exists'.mp known
    rw [compensateStep_deletes _ _ _ deletes present known]
    refine ⟨rfl, fun reply answer equal => ?_⟩
    obtain rfl : reply = answer := equal
    cases reply <;> exact rfl

end Executors

section Sessions

/-- Two sessions differ in what the stores hold and in the recorded calls alone. -/
structure Session.Alike {D : Type} (similar : κ → κ' → Prop) (first : Session D κ)
    (second : Session D κ') : Prop where
  db : first.db = second.db
  pending : first.pending = second.pending
  external : similar first.external second.external
  queue : first.queue = second.queue
  locks : first.locks = second.locks
  published : first.published = second.published
  clock : first.clock = second.clock

variable {similar : κ → κ' → Prop} {connectors : Connectors κ} {others : Connectors κ'}

/-- A connector program that is alike itself returns the same result and keeps sessions alike. -/
theorem Session.Alike.runConnectors {first : Session Rows κ} {second : Session Rows κ'}
    (alike : first.Alike similar second) (answers : connectors.Alike similar others) {α : Type}
    {program : Program ConnectorCall ConnectorCall.Reply α} (same : AlikePrograms program program) :
    (first.runConnectors connectors program).1 = (second.runConnectors others program).1 ∧
      Session.Alike similar (first.runConnectors connectors program).2
        (second.runConnectors others program).2 := by
  obtain ⟨result, external⟩ := same.run answers.answers alike.external
  rw [Session.runConnectors_eq, Session.runConnectors_eq]
  exact ⟨result, { alike with external }⟩

/-- Alike sessions answer every command with the same reply. -/
theorem Session.answer_agrees (answers : connectors.Alike similar others) :
    Agrees (Session.Alike (D := Rows) similar) (Session.answer connectors)
      (Session.answer others) := by
  intro issued first second alike
  have view : first.view = second.view := by
    rw [Session.view, Session.view, alike.pending, alike.db]
  cases issued with
  | select query => exact ⟨congrArg (SqlStore.answer query) view, alike⟩
  | write statement =>
      exact ⟨rfl, { alike with pending := congrArg (· ++ [statement]) alike.pending }⟩
  | commit => exact ⟨rfl, { alike with db := view, pending := rfl }⟩
  | now => exact ⟨alike.clock, alike⟩
  | publish publication =>
      exact ⟨rfl, { alike with published := congrArg (· ++ [publication]) alike.published }⟩
  | enqueueJob job => exact ⟨rfl, { alike with queue := congrArg (· ++ [job]) alike.queue }⟩
  | acquireLock secretId rotationId =>
      simp only [Session.answer, alike.locks]
      split
      · exact ⟨rfl, alike⟩
      · exact ⟨rfl, { alike with locks := rfl }⟩
  | releaseLock secretId rotationId =>
      simp only [Session.answer, alike.locks]
      split
      · exact ⟨rfl, { alike with locks := rfl }⟩
      · exact ⟨rfl, alike⟩
  | executeStep step rotation =>
      rw [Session.answer_executeStep, Session.answer_executeStep, ← answers.keys]
      exact alike.runConnectors answers (executeStep_alike _ rotation)
  | compensateStep step rotation =>
      rw [Session.answer_compensateStep, Session.answer_compensateStep, ← answers.keys]
      exact alike.runConnectors answers (compensateStep_alike _ rotation)

end Sessions

section Worlds

/-- Two worlds differ in what the stores hold and in the recorded calls alone. -/
structure World.Alike (similar : κ → κ' → Prop) (first : World κ) (second : World κ') : Prop where
  session : first.session.Alike similar second.session
  accepted : first.accepted = second.accepted

/-- Two engine calls have alike connectors, the same clock and the same actor. -/
structure Invocation.Alike (similar : κ → κ' → Prop) (first : Invocation κ)
    (second : Invocation κ') : Prop where
  connectors : first.connectors.Alike similar second.connectors
  clock : first.clock = second.clock
  actor : first.actor = second.actor

/-- Two actions are the same request or alike engine calls. -/
inductive Action.Alike (similar : κ → κ' → Prop) : Action κ → Action κ' → Prop where
  | request (request : Request) (clock : Time) :
      Alike similar (.request request clock) (.request request clock)
  | advance {invocation : Invocation κ} {other : Invocation κ'}
      (alike : invocation.Alike similar other) :
      Alike similar (.advance invocation) (.advance other)

/-- The return value of an engine call. -/
def World.engineResult (invocation : Invocation κ) (world : World κ) : EngineResult :=
  ((world.engineCall invocation).run (Session.answer invocation.connectors)
    (world.session.opened invocation.clock)).1

/-- A visit returns a result if its action is an engine call. -/
def Action.engineResult (visit : World κ × Action κ) : Option EngineResult :=
  match visit.2 with
  | .request _ _ => none
  | .advance invocation => some (visit.1.engineResult invocation)

variable {similar : κ → κ' → Prop}

/-- The api process has no connectors, so its programs keep every relation of the stores. -/
theorem Connectors.none_alike : Connectors.none.Alike similar Connectors.none where
  keys := rfl
  answers := by
    intro call other state image alike start
    refine ⟨?_, start⟩
    cases call <;> cases other <;> first | rfl | exact absurd alike (by simp [ConnectorCall.disclosed])

theorem Session.Alike.opened {first : Session Rows κ} {second : Session Rows κ'}
    (alike : first.Alike similar second) (clock : Time) :
    (first.opened clock).Alike similar (second.opened clock) :=
  { alike with pending := rfl, clock := rfl }

theorem Session.Alike.closed {first : Session Rows κ} {second : Session Rows κ'}
    (alike : first.Alike similar second) : first.closed.Alike similar second.closed :=
  { alike with pending := rfl }

variable {first : World κ} {second : World κ'} (alike : first.Alike similar second)

include alike

/-- Alike engine calls of alike worlds return the same result and keep the worlds alike. -/
theorem World.Alike.advance {invocation : Invocation κ} {other : Invocation κ'}
    (same : invocation.Alike similar other) :
    first.engineResult invocation = second.engineResult other ∧
      (first.advance invocation).Alike similar (second.advance other) := by
  have program : first.engineCall invocation = second.engineCall other := by
    simp only [World.engineCall, World.db, alike.session.db, same.actor]
  have opened := alike.session.opened invocation.clock
  obtain ⟨result, session⟩ := Program.run_agrees (Session.answer_agrees same.connectors)
    (first.engineCall invocation) opened
  rw [same.clock, program] at result session
  constructor
  · unfold World.engineResult
    rw [same.clock, program]
    exact result
  · refine ⟨?_, alike.accepted⟩
    unfold World.advance World.work
    rw [same.clock, program]
    exact session.closed

/-- A request gets the same answer in alike worlds. -/
theorem World.Alike.handle (request : Request) (clock : Time) :
    (first.handle request clock).Alike similar (second.handle request clock) := by
  obtain ⟨reply, session⟩ := Program.run_agrees (Session.answer_agrees Connectors.none_alike)
    request.program.run (alike.session.opened clock)
  refine ⟨session.closed, ?_⟩
  simp only [World.handle, reply, alike.accepted]

theorem World.Alike.action {action : Action κ} {other : Action κ'}
    (same : Action.Alike similar action other) :
    (action.step first).Alike similar (other.step second) ∧
      Action.engineResult (first, action) = Action.engineResult (second, other) := by
  cases same with
  | request request clock => exact ⟨alike.handle request clock, rfl⟩
  | advance same =>
      obtain ⟨result, worlds⟩ := alike.advance same
      exact ⟨worlds, congrArg some result⟩

/-- Two runs whose connectors differ in the secrets of new credentials alone leave the same rows and
events and return the same results. -/
theorem runs_hide_secrets {actions : List (Action κ)} {others : List (Action κ')}
    (same : List.Forall₂ (Action.Alike similar) actions others) :
    (runActions Action.step actions first).db = (runActions Action.step others second).db ∧
    (runActions Action.step actions first).session.published =
      (runActions Action.step others second).session.published ∧
    (visits Action.step actions first).map Action.engineResult =
      (visits Action.step others second).map Action.engineResult := by
  have each (action : Action κ) (other : Action κ') (world : World κ) (image : World κ')
      (same : Action.Alike similar action other) (alike : world.Alike similar image) :
      (action.step world).Alike similar (other.step image) := (alike.action same).1
  have common (action : Action κ) (other : Action κ') (world : World κ) (image : World κ')
      (same : Action.Alike similar action other) (alike : world.Alike similar image) :
      Action.engineResult (world, action) = Action.engineResult (image, other) :=
    (alike.action same).2
  have worlds := related_runActions each same alike
  exact ⟨worlds.session.db, worlds.session.published, related_visits each common same alike⟩

end Worlds

section Examples

/-- The sandbox connectors with another secret in the new credential. -/
def keyConnectors (secret : String) : Connectors SandboxStore where
  store := true
  cloud := true
  answer
    | .createCredential principal, store =>
        let answered := (sandboxConnectors none).answer (.createCredential principal) store
        (answered.1.map fun material => { material with secretAccessKey := some secret }, answered.2)
    | call, store => (sandboxConnectors none).answer call store

theorem keyConnectors_alike (secret other : String) :
    (keyConnectors secret).Alike (fun _ _ => True) (keyConnectors other) where
  keys := rfl
  answers := by
    intro call otherCall state image alike _
    refine ⟨?_, trivial⟩
    cases call with
    | writeNewVersion ref value =>
        cases otherCall with
        | writeNewVersion other otherValue =>
            simp only [ConnectorCall.disclosed, ConnectorCall.writeNewVersion.injEq] at alike
            obtain ⟨rfl, _⟩ := alike
            rfl
        | _ => exact absurd alike (by simp [ConnectorCall.disclosed])
    | _ =>
        cases otherCall <;> first | rfl | exact absurd alike (by simp [ConnectorCall.disclosed])

/-- The demo rotation with the given secret. -/
def keyRun (secret : String) : List (Action SandboxStore) :=
  .request sandboxApproval 1 ::
    List.replicate 4 (.advance { sandboxCall none with connectors := keyConnectors secret })

/-- The whole demo rotation leaves the same rows for two secrets, and the stores differ. -/
theorem keys_stay_hidden :
    let one := runActions Action.step (keyRun "first") (World.proposed namedPlan [])
    let other := runActions Action.step (keyRun "second") (World.proposed namedPlan [])
    one.db = other.db ∧ one.db.rotation.status = .completed ∧
      one.session.external ≠ other.session.external := by
  have call : Invocation.Alike (fun _ _ => True)
      { sandboxCall none with connectors := keyConnectors "first" }
      { sandboxCall none with connectors := keyConnectors "second" } :=
    ⟨keyConnectors_alike "first" "second", rfl, rfl⟩
  have same : List.Forall₂ (Action.Alike fun _ _ => True) (keyRun "first") (keyRun "second") :=
    .cons (.request sandboxApproval 1) (.cons (.advance call) (.cons (.advance call)
      (.cons (.advance call) (.cons (.advance call) .nil))))
  have start : World.Alike (fun _ _ => True) (World.proposed namedPlan ([] : SandboxStore))
      (World.proposed namedPlan ([] : SandboxStore)) :=
    ⟨⟨rfl, rfl, trivial, rfl, rfl, rfl, rfl⟩, rfl⟩
  refine ⟨(runs_hide_secrets start same).1, by decide, by decide⟩

end Examples

end Sprawl
