/-
This file proves when the store still has the new secret at a verify step and at a revoke step.
-/

import Sprawl.Proof.Failure
import Sprawl.Proof.StepOrder
import Sprawl.Rotation.Sandbox

namespace Sprawl

open Effect

variable {κ : Type}

/-- The value that a successful write puts at a path. -/
def ConnectorEvent.stores (path : String) : ConnectorEvent → Option String
  | ⟨.writeNewVersion ref value, .ok _⟩ => if ref.path = path then some value.value else none
  | _ => none

/-- A store keeps the last value that was written to a path. -/
def storeAt (events : List ConnectorEvent) (path : String) : Option String :=
  (events.filterMap (·.stores path)).getLast?

theorem storeAt_append (events later : List ConnectorEvent) (path : String) :
    storeAt (events ++ later) path = (storeAt later path).or (storeAt events path) := by
  unfold storeAt
  rw [List.filterMap_append, List.getLast?_append]

/-- The store has the secret of the only created credential at the saved path. -/
def HoldsSecret (rows : Rows) (events : List ConnectorEvent) : Prop :=
  ∃ ref material secret, rows.rotation.newSecretRef = some ref ∧
    createdMaterials events = [material] ∧ material.secretAccessKey = some secret ∧
      storeAt events ref.path = some secret

/-- A created credential has a secret that the distribute steps below an index do not change. -/
def SecretKept (proposal : Proposal) (events : List ConnectorEvent) (idx : Int) : Prop :=
  ∃ material ∈ createdMaterials events, ∃ secret, material.secretAccessKey = some secret ∧
    ((∃ spec ∈ proposal.steps, spec.kind = .distribute ∧ spec.idx < idx) →
      secret = distributedValue.value)

/-- The only provision step has the lowest index. -/
structure ProvisionsFirst (steps : List StepIdentity) : Prop where
  some : ∃ step ∈ steps, step.kind = .provision
  least : ∀ first ∈ steps, first.kind = .provision → ∀ other ∈ steps, other.idx ≤ first.idx →
    other.idx = first.idx

/-- Every provision step is done. -/
def Provisioned (rows : Rows) : Prop :=
  ∀ step ∈ rows.steps, step.kind = .provision → step.status = .done

/-- Some distribute step is done. -/
def Distributed (rows : Rows) : Prop :=
  ∃ step ∈ rows.steps, step.kind = .distribute ∧ step.status = .done

/-- These are the reference, the credential and the store value of a provisioned rotation. -/
structure Provision (rows : Rows) (events : List ConnectorEvent) (ref : NewSecretRef)
    (material : CredentialMaterial) (value : String) : Prop where
  saved : rows.rotation.newSecretRef = some ref
  created : createdMaterials events = [material]
  stored : storeAt events ref.path = some value
  original : ¬ Distributed rows → value = material.secretAccessKey.getD ""
  distributed : Distributed rows → value = distributedValue.value

/-- A live rotation calls no connector before its provision step is done. After that the store value
depends on the distribute steps. -/
structure Stocked (world : World κ) : Prop where
  planned : world.db.rotation.hasPlan = true
  first : ProvisionsFirst (world.db.steps.map RotationStep.identity)
  order : InOrder world.db
  untouched : world.db.rotation.status.isTerminal = false → ¬ Provisioned world.db →
    world.calls = []
  provision : world.db.rotation.status.isTerminal = false → Provisioned world.db →
    ∃ ref material value, Provision world.db world.calls ref material value

/-- A provision step is the lowest step. -/
theorem ProvisionsFirst.eq_of_le {rows : Rows}
    (first : ProvisionsFirst (rows.steps.map RotationStep.identity)) {step other : RotationStep}
    (inside : step ∈ rows.steps) (provision : step.kind = .provision)
    (within : other ∈ rows.steps) (below : other.idx ≤ step.idx) : other = step :=
  rows.eq_of_idx within inside (first.least step.identity (List.mem_map_of_mem inside) provision
    other.identity (List.mem_map_of_mem within) below)

/-- Before the provision step is done it is the next step. -/
theorem Executes.provision_of_not {rows : Rows} {time : Time} {step : RotationStep}
    (executes : Executes rows time step) (order : InOrder rows)
    (first : ProvisionsFirst (rows.steps.map RotationStep.identity))
    (unprovisioned : ¬ Provisioned rows) : step.kind = .provision := by
  obtain ⟨inside, pending, least⟩ := Rows.nextStep_eq_some executes.next
  simp only [Provisioned, not_forall] at unprovisioned
  obtain ⟨other, within, kind, unfinished⟩ := unprovisioned
  obtain ended | waits := (order.frontier executes.live.active).covered other within
  · exact absurd ended unfinished
  · have same := first.eq_of_le within kind inside (least other within waits)
    rw [same]
    exact kind

/-- After the provision step is done the next step is of another kind. -/
theorem Executes.not_provision {rows : Rows} {time : Time} {step : RotationStep}
    (executes : Executes rows time step) (provisioned : Provisioned rows) :
    step.kind ≠ .provision := by
  obtain ⟨inside, pending, least⟩ := Rows.nextStep_eq_some executes.next
  intro kind
  exact absurd (pending.symm.trans (provisioned step inside kind)) (by simp)

/-- Below a running step the done distribute steps are the planned distribute steps. -/
theorem distributed_iff {rows : Rows} {time : Time} {step : RotationStep} (order : InOrder rows)
    (executes : Executes rows time step) :
    Distributed rows ↔
      ∃ other ∈ rows.steps, other.kind = .distribute ∧ other.idx < step.idx := by
  obtain ⟨inside, pending, least⟩ := Rows.nextStep_eq_some executes.next
  have frontier := order.frontier executes.live.active
  constructor
  · intro given
    obtain ⟨other, within, kind, ended⟩ := given
    have unfinished : ¬ step.isDone := fun done => absurd (pending.symm.trans done) (by simp)
    refine ⟨other, within, kind,
      frontier.lt_of_finished inside unfinished other within ended fun same => ?_⟩
    have equal := rows.eq_of_idx within inside same
    exact unfinished (equal ▸ ended)
  · intro given
    obtain ⟨other, within, kind, below⟩ := given
    exact ⟨other, within, kind, frontier.finished_of_lt least other within below⟩

/-- A provision step that finishes with a store saves the secret that it has created. -/
theorem Executed.provisions {keys : ConnectorKeys} {step : RotationStep} {rotation : Rotation}
    {events : List ConnectorEvent} {result : StepResult}
    (outcome : Executed keys step rotation events result) (kind : step.kind = .provision)
    (store : keys.store = true) (planned : rotation.hasPlan = true) (done : result.status = .done) :
    ∃ ref material, result.newSecretRef = some ref ∧ createdMaterials events = [material] ∧
      storeAt events ref.path = some (material.secretAccessKey.getD "") := by
  cases outcome with
  | provisioned _ present stored material version =>
      exact ⟨_, material, rfl, rfl, by
        simp [storeAt, ConnectorEvent.stores, provisionedRef, vaultRef, provisionedValue]⟩
  | created _ present unstored material => simp [store, planned] at unstored
  | noCloud _ absent => exact absurd done (by simp [failedWith])
  | createFailed _ present text => exact absurd done (by simp [failedWith])
  | writeFailed _ present stored material text => exact absurd done (by simp [failedWith])
  | distributed other present ref known version => simp [kind] at other
  | distributeFailed other present ref known text => simp [kind] at other
  | verified other present ref known answer success => simp [kind] at other
  | refuted other present ref known answer failure => simp [kind] at other
  | verifyFailed other present ref known text => simp [kind] at other
  | unstored other absent => simp [kind] at other
  | revoked other present => simp [kind] at other
  | disableFailed other present text => simp [kind] at other
  | deleteFailed other present text => simp [kind] at other
  | revokeSkipped other absent => simp [kind] at other

/-- The value that a finished step of a kind leaves at the saved path. -/
def writtenValue : StepKind → Option String
  | .distribute => some distributedValue.value
  | _ => none

/-- Every other step that finishes with a store creates no credential. Only a distribute step writes
to the saved path. -/
theorem Executed.overwrites {keys : ConnectorKeys} {step : RotationStep} {rotation : Rotation}
    {events : List ConnectorEvent} {result : StepResult}
    (outcome : Executed keys step rotation events result) (kind : step.kind ≠ .provision)
    (store : keys.store = true) {ref : NewSecretRef} (saved : rotation.newSecretRef = some ref)
    (done : result.status = .done) :
    result.newSecretRef = none ∧ createdMaterials events = [] ∧
      storeAt events ref.path = writtenValue step.kind := by
  cases outcome with
  | distributed other present own known version =>
      obtain rfl : own = ref := Option.some.inj (known.symm.trans saved)
      simp [createdMaterials, ConnectorEvent.material, storeAt, ConnectorEvent.stores, writtenValue,
        vaultRef, other]
  | verified other present own known answer success =>
      simp [createdMaterials, ConnectorEvent.material, storeAt, ConnectorEvent.stores, writtenValue,
        other]
  | revoked other present =>
      simp [createdMaterials, ConnectorEvent.material, storeAt, ConnectorEvent.stores, writtenValue,
        other]
  | revokeSkipped other absent =>
      simp [createdMaterials, storeAt, writtenValue, other]
  | unstored other absent => simp [store, saved] at absent
  | noCloud other absent => exact absurd other kind
  | createFailed other present text => exact absurd other kind
  | created other present unstored material => exact absurd other kind
  | writeFailed other present stored material text => exact absurd other kind
  | provisioned other present stored material version => exact absurd other kind
  | distributeFailed other present ref known text => exact absurd done (by simp [failedWith])
  | refuted other present ref known answer failure => exact absurd done (by simp [failedWith])
  | verifyFailed other present ref known text => exact absurd done (by simp [failedWith])
  | disableFailed other present text => exact absurd done (by simp [failedWith])
  | deleteFailed other present text => exact absurd done (by simp [failedWith])

/-- The kind of a step and its status. -/
def RotationStep.progress (step : RotationStep) : StepKind × StepStatus := (step.kind, step.status)

theorem progress_confirmless : Confirmless RotationStep.progress := fun _ _ => rfl

section Progress

variable {before after : Rows}

theorem Keeps.provisioned (keeps : Keeps RotationStep.progress before after) :
    Provisioned after ↔ Provisioned before := by
  constructor
  · intro every step inside provision
    obtain ⟨later, within, same⟩ := keeps.exists_after inside
    have kind : later.kind = step.kind := congrArg Prod.fst same
    have status : later.status = step.status := congrArg Prod.snd same
    exact status.symm.trans (every later within (kind.trans provision))
  · intro every step inside provision
    obtain ⟨old, within, same⟩ := keeps.exists_before inside
    have kind : old.kind = step.kind := congrArg Prod.fst same
    have status : old.status = step.status := congrArg Prod.snd same
    exact status.symm.trans (every old within (kind.trans provision))

theorem Keeps.distributed (keeps : Keeps RotationStep.progress before after) :
    Distributed after ↔ Distributed before := by
  constructor
  · intro given
    obtain ⟨step, inside, distribute, ended⟩ := given
    obtain ⟨old, within, same⟩ := keeps.exists_before inside
    have kind : old.kind = step.kind := congrArg Prod.fst same
    have status : old.status = step.status := congrArg Prod.snd same
    exact ⟨old, within, kind.trans distribute, status.trans ended⟩
  · intro given
    obtain ⟨step, inside, distribute, ended⟩ := given
    obtain ⟨later, within, same⟩ := keeps.exists_after inside
    have kind : later.kind = step.kind := congrArg Prod.fst same
    have status : later.status = step.status := congrArg Prod.snd same
    exact ⟨later, within, kind.trans distribute, status.trans ended⟩

end Progress

section Finish

variable {rows after : Rows} {step : RotationStep} {time : Time}
  (steps : after.steps = updateSteps (fun other => other.id = step.id)
    { status := some .done, executedAt := some time } rows.steps)

include steps

/-- A finished step is done, and every other step stays as it is. -/
theorem exists_finished {old : RotationStep} (inside : old ∈ rows.steps) :
    ∃ other ∈ after.steps, other.kind = old.kind ∧
      other.status = if old.id = step.id then .done else old.status := by
  refine ⟨_, steps ▸ mem_updateSteps.mpr ⟨old, inside, rfl⟩, ?_, ?_⟩
  · split <;> rfl
  · by_cases same : old.id = step.id <;> simp [same]

/-- A step of the new rows comes from a step of the old rows. -/
theorem finished_from {other : RotationStep} (inside : other ∈ after.steps) :
    ∃ old ∈ rows.steps, other.kind = old.kind ∧
      other.status = if old.id = step.id then .done else old.status := by
  rw [steps] at inside
  obtain ⟨old, within, rfl⟩ := mem_updateSteps.mp inside
  refine ⟨old, within, ?_, ?_⟩
  · split <;> rfl
  · by_cases same : old.id = step.id <;> simp [same]

theorem distributed_finished (inside : step ∈ rows.steps) :
    Distributed after ↔ Distributed rows ∨ step.kind = .distribute := by
  constructor
  · intro given
    obtain ⟨other, within, kind, ended⟩ := given
    obtain ⟨old, present, sameKind, status⟩ := finished_from steps within
    by_cases same : old.id = step.id
    · obtain rfl := rows.eq_of_id present inside same
      exact Or.inr (sameKind.symm.trans kind)
    · rw [if_neg same] at status
      exact Or.inl ⟨old, present, sameKind.symm.trans kind, status.symm.trans ended⟩
  · intro given
    obtain ⟨old, present, kind, ended⟩ | kind := given
    · obtain ⟨other, within, sameKind, status⟩ := exists_finished steps present
      refine ⟨other, within, sameKind.trans kind, ?_⟩
      rw [status, ended, ite_self]
    · obtain ⟨other, within, sameKind, status⟩ := exists_finished steps inside
      exact ⟨other, within, sameKind.trans kind, by simpa using status⟩

/-- A finished step keeps a provisioned rotation provisioned. -/
theorem provisioned_finished (every : ∀ other ∈ rows.steps, other.kind = .provision →
    other.status = .done ∨ other = step) : Provisioned after := by
  intro other within kind
  obtain ⟨old, present, sameKind, status⟩ := finished_from steps within
  rw [status]
  obtain ended | rfl := every old present (sameKind.symm.trans kind)
  · rw [ended, ite_self]
  · rw [if_pos rfl]

section Provision

variable {events fresh : List ConnectorEvent} {ref : NewSecretRef} {material : CredentialMaterial}
  {value : String}

/-- A later step keeps the credential of a provisioned rotation, and a distribute step overwrites its
store value. -/
theorem Provision.extend (provision : Provision rows events ref material value)
    (inside : step ∈ rows.steps)
    (saved : after.rotation.newSecretRef = rows.rotation.newSecretRef)
    (created : createdMaterials fresh = []) (written : storeAt fresh ref.path = writtenValue step.kind) :
    Provision after (events ++ fresh) ref material ((writtenValue step.kind).getD value) where
  saved := saved.trans provision.saved
  created := by rw [createdMaterials_append, created, provision.created, List.append_nil]
  stored := by
    rw [storeAt_append, written, provision.stored]
    cases writtenValue step.kind <;> rfl
  original undistributed := by
    rw [distributed_finished steps inside, not_or] at undistributed
    rw [← provision.original undistributed.1]
    cases other : step.kind <;> simp_all [writtenValue]
  distributed distributed := by
    rw [distributed_finished steps inside] at distributed
    rcases distributed with distributed | distribute
    · rw [provision.distributed distributed]
      cases step.kind <;> rfl
    · rw [distribute]
      rfl

/-- A finished provision step stores its own secret. -/
theorem Provision.begin (inside : step ∈ rows.steps) (kind : step.kind = .provision)
    (undistributed : ¬ Distributed rows) (saved : after.rotation.newSecretRef = some ref)
    (created : createdMaterials events = [material])
    (stored : storeAt events ref.path = some (material.secretAccessKey.getD "")) :
    Provision after events ref material (material.secretAccessKey.getD "") where
  saved := saved
  created := created
  stored := stored
  original _ := rfl
  distributed distributed := by
    rw [distributed_finished steps inside] at distributed
    rcases distributed with distributed | distribute
    · exact absurd distributed undistributed
    · exact absurd (kind.symm.trans distribute) (by simp)

end Provision

end Finish

namespace Stocked

variable {world : World κ}

theorem of_calls {after : World κ} (stocked : Stocked world)
    (keeps : Keeps RotationStep.identity world.db after.db)
    (progress : Keeps RotationStep.progress world.db after.db) (order : InOrder after.db)
    (ref : after.db.rotation.newSecretRef = world.db.rotation.newSecretRef)
    (calls : after.calls = world.calls)
    (active : after.db.rotation.status.isTerminal = false →
      world.db.rotation.status.isTerminal = false) : Stocked after where
  planned := by
    rw [Rotation.hasPlan, keeps.plan]
    exact stocked.planned
  first := keeps.steps.symm ▸ stocked.first
  order := order
  untouched live unprovisioned := by
    rw [calls]
    exact stocked.untouched (active live) fun every => unprovisioned (progress.provisioned.mpr every)
  provision live every := by
    obtain ⟨saved, material, value, provision⟩ :=
      stocked.provision (active live) (progress.provisioned.mp every)
    refine ⟨saved, material, value, ref.trans provision.saved, ?_, ?_, fun none => ?_, fun some => ?_⟩
    · exact calls.symm ▸ provision.created
    · exact calls.symm ▸ provision.stored
    · exact provision.original fun some => none (progress.distributed.mpr some)
    · exact provision.distributed (progress.distributed.mp some)

theorem handle (stocked : Stocked world) (request : Request) (clock : Time) :
    Stocked (world.handle request clock) := by
  obtain ⟨reply, final, handled, same⟩ := world.handle_end request clock
  have opened : InOrder (world.session.opened clock).db := stocked.order
  have order := opened.handled handled
  rw [same]
  exact stocked.of_calls (handled.keeps identity_confirmless) (handled.keeps progress_confirmless)
    order handled.newSecretRef handled.calls handled.active

/-- A finished step leaves a stocked rotation stocked. -/
theorem finished (stocked : Stocked world) {invocation : Invocation κ} {step : RotationStep}
    (store : invocation.connectors.store = true)
    (executes : Executes world.db invocation.clock step)
    (done : (world.outcome invocation step).status = .done) {final : Session Rows κ}
    (ends : Reaches (world.session.opened invocation.clock)
      ((world.db.started invocation.actor step invocation.clock).afterFinish invocation.actor
        world.db.ordered step (world.outcome invocation step).newSecretRef invocation.clock)
      ((world.session.opened invocation.clock).outcomeEvents invocation.connectors step
        world.db.rotation) final)
    (keeps : Keeps RotationStep.identity world.db final.db) (order : InOrder final.db) :
    Stocked { world with session := final.closed } := by
  obtain ⟨inside, pending, least⟩ := Rows.nextStep_eq_some executes.next
  have outcome := (world.session.opened invocation.clock).outcome_executed invocation.connectors
    step world.db.rotation
  have calls : final.calls = world.calls ++ (world.session.opened invocation.clock).outcomeEvents
      invocation.connectors step world.db.rotation := ends.calls
  have steps : final.db.steps = updateSteps (fun other => other.id = step.id)
      { status := some .done, executedAt := some invocation.clock } world.db.steps := by
    rw [ends.db, Rows.afterFinish_steps, Rows.started_steps]
  have saved : final.db.rotation.newSecretRef =
      (world.outcome invocation step).newSecretRef.or world.db.rotation.newSecretRef := by
    rw [ends.db, Rows.afterFinish_newSecretRef, Rows.started_newSecretRef]
  have provisioned : Provisioned final.db := by
    apply provisioned_finished steps
    intro other within kind
    obtain ended | waits := (stocked.order.frontier executes.live.active).covered other within
    · exact Or.inl ended
    · exact Or.inr (stocked.first.eq_of_le within kind inside (least other within waits)).symm
  have planned : final.db.rotation.hasPlan = true := by
    rw [Rotation.hasPlan, keeps.plan]
    exact stocked.planned
  refine ⟨planned, keeps.steps.symm ▸ stocked.first, order,
    fun _ unprovisioned => absurd provisioned unprovisioned, fun _ _ => ?_⟩
  change ∃ ref material value, Provision final.db final.calls ref material value
  by_cases before : Provisioned world.db
  · obtain ⟨ref, material, value, provision⟩ := stocked.provision executes.live.active before
    obtain ⟨none, created, written⟩ :=
      outcome.overwrites (executes.not_provision before) store provision.saved done
    have kept : final.db.rotation.newSecretRef = world.db.rotation.newSecretRef := by
      change (world.outcome invocation step).newSecretRef = Option.none at none
      rw [saved, none, Option.none_or]
    rw [calls]
    exact ⟨ref, material, _, provision.extend steps inside kept created written⟩
  · have kind := executes.provision_of_not stocked.order stocked.first before
    obtain ⟨ref, material, returned, created, stored⟩ :=
      outcome.provisions kind store stocked.planned done
    have undistributed : ¬ Distributed world.db := by
      rw [distributed_iff stocked.order executes]
      intro given
      obtain ⟨other, within, distribute, below⟩ := given
      have same := stocked.first.eq_of_le inside kind within (le_of_lt below)
      exact absurd (same ▸ below) (lt_irrefl _)
    rw [stocked.untouched executes.live.active before, List.nil_append] at calls
    rw [calls]
    exact ⟨ref, material, _, Provision.begin steps inside kind undistributed
      (saved.trans (returned.symm ▸ Option.some_or)) created stored⟩

/-- An engine call with a store keeps a rotation stocked. -/
theorem advance (stocked : Stocked world) (invocation : Invocation κ)
    (store : invocation.connectors.store = true) : Stocked (world.advance invocation) := by
  obtain ⟨final, ends, same⟩ := world.advance_end invocation
  have opened : InOrder (world.session.opened invocation.clock).db := stocked.order
  have order := opened.engineEnd ends
  have keeps := ends.keeps identity_engineless
  rw [same]
  cases ends with
  | idle idles ends =>
      have calls : final.calls = world.calls := ends.calls.trans (List.append_nil _)
      have rows : final.db = world.db := ends.db
      refine stocked.of_calls keeps ?_ order ?_ calls fun active => ?_
      · exact rows.symm ▸ Keeps.refl _
      · exact (congrArg (·.rotation.newSecretRef) rows :)
      · exact (congrArg (·.rotation.status.isTerminal) rows).symm.trans active
  | settled after settles ends =>
      have calls : final.calls = world.calls := ends.calls.trans (List.append_nil _)
      have progress : Keeps RotationStep.progress world.db final.db := by
        rw [ends.db]
        exact settles.keeps
      refine stocked.of_calls keeps progress order ?_ calls fun _ => settles.active
      · exact (congrArg (·.rotation.newSecretRef) ends.db).trans settles.newSecretRef
  | ran step executes ends =>
      cases ends with
      | finished done ends => exact stocked.finished store executes done ends keeps order
      | rolledBack failed later rows undone ends =>
          have terminal : final.db.rotation.status.isTerminal = true :=
            (congrArg (·.rotation.status.isTerminal) ends.db).trans undone.status.1
          have stopped (active : final.db.rotation.status.isTerminal = false) : False := by
            rw [terminal] at active
            exact absurd active (by simp)
          refine ⟨?_, keeps.steps.symm ▸ stocked.first, order, fun active => (stopped active).elim,
            fun active => (stopped active).elim⟩
          change final.db.rotation.hasPlan = true
          rw [Rotation.hasPlan, keeps.plan]
          exact stocked.planned

/-- A proposed rotation with a plan and one leading provision step is stocked. -/
theorem proposed {proposal : Proposal} (external : κ) (planned : proposal.rotation.hasPlan = true)
    (first : ProvisionsFirst (proposal.rows.steps.map RotationStep.identity)) :
    Stocked (World.proposed proposal external) where
  planned := planned
  first := first
  order := proposal.inOrder
  untouched _ _ := rfl
  provision _ every := by
    obtain ⟨identity, inside, kind⟩ := first.some
    obtain ⟨step, present, rfl⟩ := List.mem_map.mp inside
    obtain ⟨spec, _, rfl⟩ := List.mem_map.mp present
    have waits : StepStatus.pending = .done := every _ present kind
    exact absurd waits (by decide)

/-- Every visit of a run with a store sees a stocked rotation with the proposed steps. -/
theorem visits {proposal : Proposal} {external : κ} {actions : List (Action κ)}
    (planned : proposal.rotation.hasPlan = true)
    (first : ProvisionsFirst (proposal.rows.steps.map RotationStep.identity))
    (stores : ∀ invocation, .advance invocation ∈ actions → invocation.connectors.store = true) :
    ∀ visit ∈ visits Action.step actions (World.proposed proposal external),
      Stocked visit.1 ∧ Keeps RotationStep.identity proposal.rows visit.1.db := by
  let stocks : World κ → Action κ → Prop := fun _ action =>
    ∀ invocation, action = .advance invocation → invocation.connectors.store = true
  refine @invariant_visits _ _ Action.step stocks
    (fun world => Stocked world ∧ Keeps RotationStep.identity proposal.rows world.db) ?_ _ _
    ⟨proposed external planned first, Keeps.refl _⟩ ?_
  · intro world action given store
    obtain ⟨stocked, keeps⟩ := given
    refine ⟨?_, keeps.trans (world.action_keeps action)⟩
    cases action with
    | request request clock => exact stocked.handle request clock
    | advance invocation => exact stocked.advance invocation (store invocation rfl)
  · intro visit inside invocation sent
    exact stores invocation (sent ▸ mem_of_mem_visits _ inside)

end Stocked

/-- The command records a verify step as done or runs a revoke step. -/
def Checks (step : RotationStep) (issued : Command) : Prop :=
  (step.kind = .verify ∧ issued.recordsDone = some step.id) ∨
    (step.kind = .revoke ∧ ∃ rotation, issued = .executeStep step rotation)

/-- At a check the step is the next one, and the reference, the credentials and the store are those
of the start of the call. -/
structure Checked (world : World κ) (invocation : Invocation κ) (step : RotationStep)
    (state : Session Rows κ) : Prop where
  executes : Executes world.db invocation.clock step
  provisioned : Provisioned world.db
  ref : state.db.rotation.newSecretRef = world.db.rotation.newSecretRef
  created : createdMaterials state.calls = createdMaterials world.calls
  stored : ∀ ref, world.db.rotation.newSecretRef = some ref →
    storeAt state.calls ref.path = storeAt world.calls ref.path

/-- A step of another kind than provision runs after the provision step. -/
theorem Stocked.provisioned_of {world : World κ} (stocked : Stocked world) {time : Time}
    {step : RotationStep} (executes : Executes world.db time step)
    (kind : step.kind ≠ .provision) : Provisioned world.db := by
  by_contra unprovisioned
  exact kind (executes.provision_of_not stocked.order stocked.first unprovisioned)

/-- A verify step that finishes changes neither the reference nor the store. -/
theorem Stocked.verified {world : World κ} (stocked : Stocked world) {invocation : Invocation κ}
    (store : invocation.connectors.store = true) {step : RotationStep}
    (executes : Executes world.db invocation.clock step) (verify : step.kind = .verify)
    (done : (world.outcome invocation step).status = .done) {state : Session Rows κ}
    (calls : state.calls = world.callsAfter invocation step)
    (ref : state.db.rotation.newSecretRef =
      world.db.rotation.newSecretRef ∨ state.db.rotation.newSecretRef =
      (world.outcome invocation step).newSecretRef.or world.db.rotation.newSecretRef) :
    Checked world invocation step state := by
  have kind : step.kind ≠ .provision := by simp [verify]
  have provisioned := stocked.provisioned_of executes kind
  obtain ⟨saved, material, value, provision⟩ := stocked.provision executes.live.active provisioned
  have outcome := (world.session.opened invocation.clock).outcome_executed invocation.connectors
    step world.db.rotation
  obtain ⟨none, created, written⟩ := outcome.overwrites kind store provision.saved done
  have returned : (world.outcome invocation step).newSecretRef = Option.none := none
  rw [returned, Option.none_or, or_self] at ref
  refine ⟨executes, provisioned, ref, ?_, ?_⟩
  · rw [calls, World.callsAfter, createdMaterials_append, created, List.append_nil]
  · intro other known
    obtain rfl : other = saved := Option.some.inj (known.symm.trans provision.saved)
    rw [calls, World.callsAfter, storeAt_append, written, verify]
    rfl

theorem Stocked.checked {world : World κ} (stocked : Stocked world) {invocation : Invocation κ}
    (store : invocation.connectors.store = true)
    {moment : Moment Command Command.Reply (Session Rows κ)}
    (inside : moment ∈ world.moments (world.engineCall invocation) invocation)
    {step : RotationStep} (present : step ∈ world.db.steps) (checks : Checks step moment.issued) :
    Checked world invocation step moment.state := by
  have kinds := world.advance_moment invocation moment inside
  rcases checks with ⟨verify, records⟩ | ⟨revoke, rotation, issued⟩
  · cases kinds with
    | reading internal unrecorded state => simp [unrecorded] at records
    | settling after settles internal unrecorded calls rows => simp [unrecorded] at records
    | running other executes within =>
        cases within with
        | starting internal unrecorded calls rows => simp [unrecorded] at records
        | executing issued calls rows => simp [issued, Command.recordsDone] at records
        | failing failed execution unrecorded status => simp [unrecorded] at records
        | finishing done internal recorded calls rows =>
            have running := (Rows.nextStep_eq_some executes.next).1
            obtain rfl := world.db.eq_of_id present running (recorded step.id records)
            apply stocked.verified store executes verify done calls
            rcases rows with (same | same) | same <;> rw [same]
            · exact Or.inl (Rows.started_newSecretRef _ _ _ _)
            · rw [Rows.finished_newSecretRef, Rows.started_newSecretRef]
              exact Or.inr rfl
            · rw [Rows.afterFinish_newSecretRef, Rows.started_newSecretRef]
              exact Or.inr rfl
  · obtain ⟨executes, _, calls, rows⟩ := kinds.execution issued
    have same : moment.state.calls = world.calls := calls
    refine ⟨executes, stocked.provisioned_of executes (by simp [revoke]), ?_, ?_, ?_⟩
    · rw [rows, Rows.started_newSecretRef]
      rfl
    · rw [same]
    · intro ref known
      rw [same]

/-- A provisioned rotation holds its secret when no done distribute step has changed it. -/
theorem Provision.holds_iff {rows : Rows} {events : List ConnectorEvent} {ref : NewSecretRef}
    {material : CredentialMaterial} {value : String}
    (provision : Provision rows events ref material value) :
    HoldsSecret rows events ↔ ∃ secret, material.secretAccessKey = some secret ∧
      (Distributed rows → secret = distributedValue.value) := by
  have unchanged (secret : String) (known : material.secretAccessKey = some secret) :
      value = secret ↔ (Distributed rows → secret = distributedValue.value) := by
    by_cases distributed : Distributed rows
    · rw [provision.distributed distributed]
      exact ⟨fun same _ => same.symm, fun same => (same distributed).symm⟩
    · rw [provision.original distributed, known]
      exact ⟨fun _ some => absurd some distributed, fun _ => rfl⟩
  constructor
  · intro given
    obtain ⟨other, another, secret, saved, created, known, stored⟩ := given
    obtain rfl : other = ref := Option.some.inj (saved.symm.trans provision.saved)
    obtain rfl : another = material :=
      (List.cons.inj (created.symm.trans provision.created)).1
    have same : value = secret := Option.some.inj (provision.stored.symm.trans stored)
    exact ⟨secret, known, (unchanged secret known).mp same⟩
  · intro given
    obtain ⟨secret, known, kept⟩ := given
    refine ⟨ref, material, secret, provision.saved, provision.created, known, ?_⟩
    rw [provision.stored, (unchanged secret known).mpr kept]

/-- The steps of a rotation have the kinds and the indexes of its plan. -/
theorem Keeps.exists_planned {proposal : Proposal} {rows : Rows}
    (keeps : Keeps RotationStep.identity proposal.rows rows) (kind : StepKind) (bound : Int) :
    (∃ step ∈ rows.steps, step.kind = kind ∧ step.idx < bound) ↔
      ∃ spec ∈ proposal.steps, spec.kind = kind ∧ spec.idx < bound := by
  constructor
  · intro given
    obtain ⟨step, inside, sameKind, below⟩ := given
    obtain ⟨old, within, same⟩ := keeps.exists_before inside
    obtain ⟨spec, present, rfl⟩ := List.mem_map.mp within
    have kinds : spec.kind = step.kind := congrArg StepIdentity.kind same
    have indexes : spec.idx = step.idx := congrArg StepIdentity.idx same
    exact ⟨spec, present, kinds.trans sameKind, indexes ▸ below⟩
  · intro given
    obtain ⟨spec, present, sameKind, below⟩ := given
    obtain ⟨step, within, same⟩ := keeps.exists_after (List.mem_map_of_mem present)
    have kinds : step.kind = spec.kind := congrArg StepIdentity.kind same
    have indexes : step.idx = spec.idx := congrArg StepIdentity.idx same
    exact ⟨step, within, kinds.trans sameKind, indexes ▸ below⟩

/-- At every verify step that is recorded as done and at every revoke step that runs, the store has
the created secret exactly when no distribute step of lower index changes it. -/
theorem stored_secret_iff (proposal : Proposal) (external : κ) (actions : List (Action κ))
    (planned : proposal.rotation.hasPlan = true)
    (first : ProvisionsFirst (proposal.rows.steps.map RotationStep.identity))
    (stores : ∀ invocation, .advance invocation ∈ actions → invocation.connectors.store = true) :
    ∀ visit ∈ visits Action.step actions (World.proposed proposal external),
      ∀ invocation, visit.2 = .advance invocation →
        ∀ moment ∈ visit.1.moments (visit.1.engineCall invocation) invocation,
          ∀ step ∈ visit.1.db.steps, Checks step moment.issued →
            (HoldsSecret moment.state.db moment.state.calls ↔
              SecretKept proposal moment.state.calls step.idx) := by
  intro given visited invocation same moment inside step present checks
  obtain ⟨world, action⟩ := given
  subst same
  obtain ⟨stocked, keeps⟩ := Stocked.visits planned first stores _ visited
  have store := stores invocation (mem_of_mem_visits _ visited)
  have checked := stocked.checked store inside present checks
  obtain ⟨ref, material, value, provision⟩ :=
    stocked.provision checked.executes.live.active checked.provisioned
  have holds : HoldsSecret moment.state.db moment.state.calls ↔ HoldsSecret world.db world.calls := by
    unfold HoldsSecret
    rw [checked.ref, checked.created]
    constructor
    · intro given
      obtain ⟨other, another, secret, saved, created, known, stored⟩ := given
      exact ⟨other, another, secret, saved, created, known, checked.stored other saved ▸ stored⟩
    · intro given
      obtain ⟨other, another, secret, saved, created, known, stored⟩ := given
      exact ⟨other, another, secret, saved, created, known,
        (checked.stored other saved).trans stored⟩
  rw [holds, provision.holds_iff, distributed_iff stocked.order checked.executes,
    keeps.exists_planned, SecretKept, checked.created, provision.created]
  simp only [List.mem_singleton, exists_eq_left]

theorem namedPlan_provisionsFirst :
    ProvisionsFirst (namedPlan.rows.steps.map RotationStep.identity) :=
  ⟨by decide, by decide⟩

theorem sandboxRun_stores (invocation : Invocation SandboxStore)
    (sent : .advance invocation ∈ sandboxRun) : invocation.connectors.store = true := by
  simp only [sandboxRun, List.mem_cons, List.mem_replicate, reduceCtorEq, false_or,
    Action.advance.injEq] at sent
  rw [sent.2]
  rfl

/-- The demo rotation runs to its end, with these checks on the way. -/
theorem sandbox_stored_secret_iff :
    (runActions Action.step sandboxRun (World.proposed namedPlan [])).db.rotation.status =
        .completed ∧
      ∀ visit ∈ visits Action.step sandboxRun (World.proposed namedPlan []),
        ∀ invocation, visit.2 = .advance invocation →
          ∀ moment ∈ visit.1.moments (visit.1.engineCall invocation) invocation,
            ∀ step ∈ visit.1.db.steps, Checks step moment.issued →
              (HoldsSecret moment.state.db moment.state.calls ↔
                SecretKept namedPlan moment.state.calls step.idx) :=
  ⟨by decide, stored_secret_iff namedPlan [] sandboxRun (by decide) namedPlan_provisionsFirst
    sandboxRun_stores⟩

/-- The distribute step of the demo rotation overwrites the new secret before the revoke step
runs. -/
theorem distribute_overwrites_secret :
    ¬ ∀ (proposal : Proposal) (external : SandboxStore) (actions : List (Action SandboxStore)),
      proposal.rotation.hasPlan = true →
      ProvisionsFirst (proposal.rows.steps.map RotationStep.identity) →
      (∀ invocation, .advance invocation ∈ actions → invocation.connectors.store = true) →
      ∀ visit ∈ visits Action.step actions (World.proposed proposal external),
        ∀ invocation, visit.2 = .advance invocation →
          ∀ moment ∈ visit.1.moments (visit.1.engineCall invocation) invocation,
            ∀ step ∈ visit.1.db.steps, Checks step moment.issued →
              HoldsSecret moment.state.db moment.state.calls := by
  intro always
  obtain ⟨world, visited, reached, live, expired, verified, created, stored⟩ :
      ∃ world : World SandboxStore,
        (world, .advance (sandboxCall none)) ∈ visits Action.step sandboxRun
          (World.proposed namedPlan []) ∧
        world.db.nextStep.map (fun step => (step.kind, step.requiresConfirmation)) =
          some (.revoke, false) ∧
        world.db.rotation.status.isTerminal = false ∧
        world.db.rotation.expired 1 = false ∧
        world.db.answer (.incompleteVerify world.db.rotation.id) = 0 ∧
        (createdMaterials world.calls).map (·.secretAccessKey) = [some sandboxSecret] ∧
        world.db.rotation.newSecretRef.bind (fun ref => storeAt world.calls ref.path) =
          some distributedValue.value :=
    ⟨_, (mem_visits_iff _).mpr ⟨sandboxRun.take 4, [], rfl, rfl⟩, by decide, by decide, by decide,
      by decide, by decide, by decide⟩
  obtain ⟨step, next, fields⟩ := Option.map_eq_some_iff.mp reached
  obtain ⟨revoke, unflagged⟩ := Prod.mk.inj fields
  have executes : Executes world.db 1 step :=
    ⟨⟨live, expired⟩, next, fun flagged => absurd (unflagged.symm.trans flagged) (by decide),
      fun _ => verified⟩
  obtain ⟨moment, inside, issued⟩ := world.advance_executes (sandboxCall none) executes
  have present := (Rows.nextStep_eq_some next).1
  obtain ⟨_, _, calls, rows⟩ := (world.advance_moment _ moment inside).execution issued
  obtain ⟨ref, material, secret, saved, made, known, held⟩ :=
    always namedPlan [] sandboxRun (by decide) namedPlan_provisionsFirst sandboxRun_stores _ visited
      (sandboxCall none) rfl moment inside step present (Or.inr ⟨revoke, _, issued⟩)
  rw [rows, Rows.started_newSecretRef] at saved
  rw [calls] at made held
  have secrets : [some secret] = [some sandboxSecret] := by
    rw [← created, ← known]
    exact (congrArg (List.map (·.secretAccessKey)) made).symm
  have values : some secret = some distributedValue.value := by
    rw [← stored, ← held]
    exact (congrArg (Option.bind · fun ref => storeAt world.calls ref.path) saved).symm
  have same : sandboxSecret = distributedValue.value :=
    Option.some.inj ((List.cons.inj secrets).1.symm.trans values)
  exact absurd same (by decide)

end Sprawl
