/-
This file proves what the inserts of a trigger do to the rows.
-/

import Sprawl.Proof.TriggerConversation

namespace Sprawl

open Effect

section Statements

variable [Sha256] [UuidCodec] {own : TriggerTransaction} {db rows : Database}
  {statement : ApiWrite}

omit [Sha256] [UuidCodec] in
/-- The transaction after a statement that is pending. -/
def TriggerTransaction.wrote (own : TriggerTransaction) (db : Database) (statement : ApiWrite) :
    TriggerTransaction :=
  { own with startedAt := some (own.began db), pending := own.pending ++ [statement] }

theorem workingAt_nothing (nothing : own.pending = []) :
    own.workingAt db = { db with clock := own.began db } := by
  rw [TriggerTransaction.workingAt, ApiTransaction.working, nothing]
  rfl

theorem workingAt_wrote (applied : (own.workingAt db).apiApply statement = .ok rows) :
    (own.wrote db statement).workingAt db = rows := by
  change List.foldl _ { db with clock := own.began db } (own.pending ++ [statement]) = rows
  rw [TriggerTransaction.workingAt, ApiTransaction.working] at applied
  rw [List.foldl_append, List.foldl_cons, applied]
  rfl

/-- An insert without a conflict is pending. -/
theorem answer_wrote (applied : (own.workingAt db).apiApply statement = .ok rows)
    (new : (own.workingAt db).conflicts statement = false) :
    TriggerTransaction.answer (.write statement) (own, db) =
      (.ok (), own.wrote db statement, db) := by
  rw [TriggerTransaction.answer, applied, new]
  rfl

/-- An insert that a conflict stops leaves nothing pending. -/
theorem answer_conflict (applied : (own.workingAt db).apiApply statement = .ok rows)
    (stops : (own.workingAt db).conflicts statement = true) :
    TriggerTransaction.answer (.write statement) (own, db) =
      (.ok (), { own with startedAt := some (own.began db) }, db) := by
  rw [TriggerTransaction.answer, applied, stops]
  rfl

theorem answer_raises {raised : SqlError}
    (refused : (own.workingAt db).apiApply statement = .error raised) :
    TriggerTransaction.answer (.write statement) (own, db) =
      (.error raised, { own with startedAt := some (own.began db) }, db) := by
  rw [TriggerTransaction.answer, refused]

end Statements

section Proposals

variable [Sha256] [UuidCodec] {db rows : Database} {workspaceId secretId rotationId : Uuid}
  {drawn : List Uuid} {written : Nat}

/-- The secret is free to be rotated. -/
def Database.Inactive (db : Database) (secretId : Uuid) : Prop :=
  ∀ row ∈ db.rotations, row.secretId = secretId → row.status.isTerminal = true

/-- No rotation and no step has the identifier. -/
def Database.Unused (db : Database) (id : Uuid) : Prop :=
  (∀ row ∈ db.rotations, row.id ≠ id) ∧
    ∀ step ∈ db.rotationSteps, step.id ≠ id ∧ step.rotationId ≠ id

/-- A transaction has added a rotation and its first steps. -/
structure Database.Proposed (db rows : Database) (workspaceId secretId rotationId : Uuid)
    (drawn : List Uuid) (written : Nat) : Prop where
  workspaces : rows.workspaces = db.workspaces
  secrets : rows.secrets = db.secrets
  users : rows.users = db.users
  rotations : ∃ row : RotationRecord, rows.rotations = db.rotations ++ [row] ∧
    row.id = rotationId ∧ row.workspaceId = workspaceId ∧ row.secretId = secretId ∧
      row.status = .pendingApproval
  steps : ∃ steps : List StepRecord, rows.rotationSteps = db.rotationSteps ++ steps ∧
    (∀ step ∈ steps, step.rotationId = rotationId) ∧ steps.map (·.id) = drawn.take written ∧
      steps.map (·.idx) = (List.range written).map fun idx : Nat => (idx : Int)

/-- What a request relies on besides the rotations: its workspace, its secret and its caller. -/
structure Database.Ready (db : Database) (workspaceId secretId : Uuid) (known : String → Prop) :
    Prop where
  workspace : db.hasWorkspace workspaceId = true
  secret : ∃ secret, db.apiAnswer (.secret secretId workspaceId) = some secret
  present : db.hasSecret secretId = true
  callers : ∀ text, known text → ∃ user ∈ db.users, UuidCodec.encode text = some user

omit [Sha256] [UuidCodec] in
/-- A request finds its secret, with its workspace. -/
theorem Database.Valid.finds (valid : db.Valid)
    (present : ∃ secret ∈ db.secrets, secret.id = secretId ∧ secret.workspaceId = workspaceId) :
    db.hasWorkspace workspaceId = true ∧
      (∃ secret, db.apiAnswer (.secret secretId workspaceId) = some secret) ∧
      db.hasSecret secretId = true := by
  obtain ⟨secret, inside, sameId, sameWorkspace⟩ := present
  refine ⟨?_, ?_, ?_⟩
  · rw [Database.hasWorkspace, List.contains_iff_mem, ← sameWorkspace]
    exact valid.secretsOwned secret inside
  · apply Option.isSome_iff_exists.mp
    rw [Database.apiAnswer, List.find?_isSome]
    exact ⟨secret, List.mem_filter.mpr ⟨inside, decide_eq_true sameWorkspace⟩,
      decide_eq_true sameId⟩
  · rw [Database.hasSecret, List.contains_iff_mem, ← sameId]
    exact List.mem_map_of_mem inside

variable {known : String → Prop}

omit [Sha256] in
theorem Database.Ready.transfer (ready : db.Ready workspaceId secretId known)
    (workspaces : rows.workspaces = db.workspaces) (secrets : rows.secrets = db.secrets)
    (users : rows.users = db.users) : rows.Ready workspaceId secretId known := by
  obtain ⟨workspace, secret, present, callers⟩ := ready
  refine ⟨?_, ?_, ?_, ?_⟩
  · rw [Database.hasWorkspace, workspaces]
    exact workspace
  · rw [Database.apiAnswer, Database.secretsOf, secrets]
    exact secret
  · rw [Database.hasSecret, secrets]
    exact present
  · rw [users]
    exact callers

omit [Sha256] in
theorem encodeCreator_known {createdBy : Option String}
    (callers : ∀ text, known text → ∃ user ∈ db.users, UuidCodec.encode text = some user)
    (isKnown : ∀ text ∈ createdBy, known text) :
    ∃ creator, Database.encodeCreator createdBy = .ok creator ∧
      creator.all db.users.contains = true := by
  cases createdBy with
  | none => exact ⟨none, rfl, rfl⟩
  | some text =>
      obtain ⟨user, inside, encodes⟩ := callers text (isKnown text rfl)
      refine ⟨some user, ?_, List.contains_iff_mem.mpr inside⟩
      rw [Database.encodeCreator, encodes]

/-- The row that an insert stores. -/
def NewRotation.stored (row : NewRotation) (createdBy : Option Uuid) (time : Time) :
    RotationRecord where
  id := row.id
  workspaceId := row.workspaceId
  secretId := row.secretId
  status := .pendingApproval
  plan := some row.plan
  planError := none
  coverage := row.coverage
  newSecretRef := none
  planExpiresAt := some row.expiresAt
  createdBy := createdBy
  createdAt := time
  updatedAt := time

omit [Sha256] [UuidCodec] in
/-- The insert of a rotation meets no conflict where the secret is free. -/
theorem Database.Inactive.conflicts {row : NewRotation} (inactive : db.Inactive row.secretId)
    (unused : db.Unused row.id) : db.conflicts (.rotation row) = false := by
  refine List.any_eq_false.mpr fun old inside taken => ?_
  rw [Bool.or_eq_true, Bool.and_eq_true, decide_eq_true_eq, decide_eq_true_eq] at taken
  obtain same | ⟨same, active⟩ := taken
  · exact unused.1 old inside same
  · rw [inactive old inside same] at active
    cases active

/-- The insert of a rotation goes through where the secret is free. -/
theorem insertRotation_proposed (time : Time) (ready : db.Ready workspaceId secretId known)
    (inactive : db.Inactive secretId) (unused : db.Unused rotationId) {row : NewRotation}
    (proposes : row.Proposes workspaceId secretId known rotationId) :
    let begun : Database := { db with clock := time }
    begun.conflicts (.rotation row) = false ∧
      ∃ rows, begun.apiApply (.rotation row) = .ok rows ∧
        db.Proposed rows workspaceId secretId rotationId [] 0 := by
  intro begun
  obtain ⟨rfl, rfl, rfl, isKnown⟩ := proposes
  have free : begun.conflicts (.rotation row) = false := inactive.conflicts unused
  obtain ⟨creator, encoded, isUser⟩ := encodeCreator_known ready.callers isKnown
  have fine : (begun.hasWorkspace row.workspaceId && begun.hasSecret row.secretId &&
      creator.all begun.users.contains) = true := by
    rw [Bool.and_eq_true, Bool.and_eq_true]
    exact ⟨⟨ready.workspace, ready.present⟩, isUser⟩
  let stored : Database :=
    { begun with rotations := begun.rotations ++ [row.stored creator time] }
  refine ⟨free, stored, ?_, rfl, rfl, rfl, ⟨row.stored creator time, rfl, rfl, rfl, rfl, rfl⟩, [],
    (List.append_nil _).symm, fun _ inside => absurd inside List.not_mem_nil, rfl, rfl⟩
  rw [Database.apiApply, Database.insertRotation, encoded]
  change (if begun.conflicts (.rotation row) = true then _ else _) = _
  rw [free, if_neg Bool.false_ne_true, if_pos fine]
  rfl

omit [Sha256] [UuidCodec] in
/-- A free identifier of a step is not one of the steps before it. -/
theorem drawn_ne {id : Uuid} (nodup : drawn.Nodup) (next : drawn[written]? = some id) :
    ∀ earlier ∈ drawn.take written, earlier ≠ id := by
  intro earlier inside same
  obtain ⟨position, bound, here⟩ := List.mem_take_iff_getElem.mp inside
  obtain ⟨within, there⟩ := List.getElem?_eq_some_iff.mp next
  have equal : position = written := (List.Nodup.getElem_inj_iff nodup).mp
    (here.trans (same.trans there.symm))
  omega

/-- The row that the insert of a step stores. -/
def NewStep.stored (row : NewStep) : StepRecord where
  id := row.id
  workspaceId := row.workspaceId
  rotationId := row.rotationId
  idx := row.idx
  kind := row.kind
  target := row.target
  compensation := row.compensation
  requiresConfirmation := row.requiresConfirmation
  status := .pending
  confirmedAt := none
  executedAt := none
  error := none

omit [Sha256] [UuidCodec] in
/-- No step has the identifier or the index of the next one. -/
theorem nextStep_new
    (proposed : db.Proposed rows workspaceId secretId rotationId drawn written)
    (nodup : drawn.Nodup) (unused : db.Unused rotationId)
    (unusedStep : ∀ id ∈ drawn, db.Unused id) {row : NewStep}
    (next : row.IsNext workspaceId rotationId drawn written) :
    (rows.rotationSteps.any fun old =>
      old.id = row.id || (old.rotationId = row.rotationId && old.idx = row.idx)) = false := by
  obtain ⟨rfl, _, id, idx⟩ := next
  obtain ⟨_, _, _, _, steps, added, _, ids, indexes⟩ := proposed
  refine List.any_eq_false.mpr fun old inside taken => ?_
  rw [Bool.or_eq_true, Bool.and_eq_true, decide_eq_true_eq, decide_eq_true_eq,
    decide_eq_true_eq] at taken
  rw [added] at inside
  obtain before | among := List.mem_append.mp inside
  · obtain sameId | ⟨sameRotation, _⟩ := taken
    · exact ((unusedStep row.id (List.mem_of_getElem? id)).2 old before).1 sameId
    · exact (unused.2 old before).2 sameRotation
  · obtain sameId | ⟨_, sameIdx⟩ := taken
    · have earlier : old.id ∈ drawn.take written := ids ▸ List.mem_map_of_mem among
      exact drawn_ne nodup id old.id earlier sameId
    · have earlier : old.idx ∈ (List.range written).map fun idx : Nat => (idx : Int) :=
        indexes ▸ List.mem_map_of_mem among
      obtain ⟨position, bound, same⟩ := List.mem_map.mp earlier
      have smaller := List.mem_range.mp bound
      omega

/-- The insert of the next step goes through. -/
theorem insertStep_proposed
    (proposed : db.Proposed rows workspaceId secretId rotationId drawn written)
    (workspace : db.hasWorkspace workspaceId = true) (nodup : drawn.Nodup)
    (unused : db.Unused rotationId) (unusedStep : ∀ id ∈ drawn, db.Unused id) {row : NewStep}
    (next : row.IsNext workspaceId rotationId drawn written) :
    ∃ after, rows.apiApply (.rotationStep row) = .ok after ∧
      db.Proposed after workspaceId secretId rotationId drawn (written + 1) := by
  have new := nextStep_new proposed nodup unused unusedStep next
  obtain ⟨rfl, rfl, id, idx⟩ := next
  obtain ⟨workspaces, secrets, users, ⟨rotation, rotations, isIt⟩, steps, added, ofRotation, ids,
    indexes⟩ := proposed
  have parents : (rows.hasWorkspace row.workspaceId &&
      (rows.rotations.map (·.id)).contains row.rotationId) = true := by
    rw [Bool.and_eq_true, Database.hasWorkspace, workspaces, ← Database.hasWorkspace, rotations,
      List.map_append, List.contains_iff_mem, List.mem_append]
    exact ⟨workspace, Or.inr (List.mem_singleton.mpr isIt.1.symm)⟩
  refine ⟨{ rows with rotationSteps := rows.rotationSteps ++ [row.stored] }, ?_, workspaces, secrets,
    users, ⟨rotation, rotations, isIt⟩, steps ++ [row.stored], ?_, ?_, ?_, ?_⟩
  · rw [Database.apiApply, Database.insertStep, new, parents]
    rfl
  · rw [added, List.append_assoc]
  · exact List.forall_mem_append.mpr ⟨ofRotation, List.forall_mem_singleton.mpr rfl⟩
  · rw [List.map_append, ids, List.take_add_one, id]
    rfl
  · rw [List.map_append, indexes, List.range_succ, List.map_append, List.map_singleton,
      List.map_singleton, ← idx]
    rfl

omit [UuidCodec] in
/-- The insert of the audit entry goes through. -/
theorem insertAudit_proposed
    (proposed : db.Proposed rows workspaceId secretId rotationId drawn written)
    (workspace : db.hasWorkspace workspaceId = true) {entry : AuditEntry}
    (within : entry.workspaceId = workspaceId) :
    rows.insertAudit entry = .ok (rows.audit entry) ∧
      db.Proposed (rows.audit entry) workspaceId secretId rotationId drawn written := by
  obtain ⟨workspaces, secrets, users, rotations, steps⟩ := proposed
  refine ⟨?_, workspaces, secrets, users, rotations, steps⟩
  rw [Database.insertAudit, Database.hasWorkspace, workspaces, within, ← Database.hasWorkspace,
    if_pos workspace]

/-- The active rotations of the secret belong to the workspace. -/
def Database.Owned (db : Database) (workspaceId secretId : Uuid) : Prop :=
  ∀ row ∈ db.rotations, row.secretId = secretId → row.status.isTerminal = false →
    row.workspaceId = workspaceId

omit [Sha256] [UuidCodec] in
/-- The check looks for the first active rotation. -/
theorem activeRotation_answer (owned : db.Owned workspaceId secretId) :
    db.apiAnswer (.activeRotation secretId workspaceId) =
      (db.rotations.filter fun row => row.secretId = secretId && !row.status.isTerminal).head?.map
        fun row => (row.id, row.status) := by
  rw [Database.apiAnswer, ← List.head?_filter, Database.rotationsOf, List.filter_filter]
  congr 2
  apply List.filter_congr
  intro row inside
  rw [Bool.and_eq_left_iff_imp, Bool.and_eq_true, decide_eq_true_eq, decide_eq_true_eq,
    Bool.not_eq_true']
  intro active
  exact owned row inside active.1 active.2

omit [Sha256] [UuidCodec] in
theorem Database.Inactive.filter (inactive : db.Inactive secretId) :
    (db.rotations.filter fun row => row.secretId = secretId && !row.status.isTerminal) = [] := by
  rw [List.filter_eq_nil_iff]
  intro row inside active
  rw [Bool.and_eq_true, decide_eq_true_eq, Bool.not_eq_true'] at active
  rw [inactive row inside active.1] at active
  cases active.2

omit [Sha256] [UuidCodec] in
theorem Database.Inactive.owned (inactive : db.Inactive secretId) :
    db.Owned workspaceId secretId := by
  intro row inside same active
  rw [inactive row inside same] at active
  cases active

omit [Sha256] [UuidCodec] in
theorem Database.Inactive.answer (inactive : db.Inactive secretId) :
    db.apiAnswer (.activeRotation secretId workspaceId) = none := by
  rw [activeRotation_answer inactive.owned, inactive.filter]
  rfl

omit [Sha256] [UuidCodec] in
theorem Database.OnlyActive.answer (only : db.OnlyActive secretId rotationId)
    (owned : db.Owned workspaceId secretId) :
    ∃ status, db.apiAnswer (.activeRotation secretId workspaceId) = some (rotationId, status) := by
  obtain ⟨row, rest, filtered, rfl, _⟩ := List.map_eq_cons_iff.mp only.active
  rw [activeRotation_answer owned, filtered]
  exact ⟨row.status, rfl⟩

/-- The insert of a second rotation meets a conflict. -/
theorem Database.OnlyActive.conflict (only : db.OnlyActive secretId rotationId) (time : Time)
    (ready : db.Ready workspaceId secretId known) {own : Uuid} {row : NewRotation}
    (proposes : row.Proposes workspaceId secretId known own) :
    let begun : Database := { db with clock := time }
    begun.conflicts (.rotation row) = true ∧ begun.apiApply (.rotation row) = .ok begun := by
  intro begun
  obtain ⟨active, rest, filtered, _⟩ := List.map_eq_cons_iff.mp only.active
  have inside : active ∈ db.rotations.filter fun row =>
      row.secretId = secretId && !row.status.isTerminal := filtered ▸ List.mem_cons_self
  obtain ⟨stored, isActive⟩ := List.mem_filter.mp inside
  have stops : begun.conflicts (.rotation row) = true := by
    refine List.any_eq_true.mpr ⟨active, stored, ?_⟩
    rw [proposes.2.2.1, isActive, Bool.or_true]
  obtain ⟨creator, encoded, _⟩ := encodeCreator_known ready.callers proposes.2.2.2
  refine ⟨stops, ?_⟩
  rw [Database.apiApply, Database.insertRotation, encoded]
  change (if begun.conflicts (.rotation row) = true then _ else _) = _
  rw [stops, if_pos rfl]

/-- A step of a rotation that was never stored is refused. -/
theorem insertStep_refused (time : Time) {row : NewStep} (unused : db.Unused row.rotationId) :
    Database.apiApply { db with clock := time } (.rotationStep row) = .error .integrity := by
  have unknown : (db.rotations.map (·.id)).contains row.rotationId = false := by
    rw [Bool.eq_false_iff]
    intro stored
    rw [List.contains_iff_mem] at stored
    obtain ⟨old, inside, same⟩ := List.mem_map.mp stored
    exact unused.1 old inside same
  rw [Database.apiApply, Database.insertStep, if_pos]
  change (_ || !(_ && (db.rotations.map (·.id)).contains row.rotationId)) = true
  rw [unknown, Bool.and_false, Bool.not_false, Bool.or_true]

omit [Sha256] [UuidCodec] in
/-- A transaction with a rotation and its four steps leaves one active rotation. -/
theorem Database.Proposed.onlyActive
    (proposed : db.Proposed rows workspaceId secretId rotationId drawn 4)
    (inactive : db.Inactive secretId) (unused : db.Unused rotationId) :
    rows.OnlyActive secretId rotationId ∧ rows.Owned workspaceId secretId := by
  obtain ⟨_, _, _, ⟨row, rotations, rfl, rfl, rfl, status⟩, steps, added, ofRotation, _, indexes⟩ :=
    proposed
  have active : row.status.isTerminal = false := by
    rw [status]
    rfl
  refine ⟨⟨?_, ?_⟩, ?_⟩
  · rw [rotations, List.filter_append, inactive.filter, List.nil_append, List.filter_cons_of_pos]
    · rfl
    · rw [active, decide_eq_true rfl]
      rfl
  · have noEarlier :
        (db.rotationSteps.filter fun step => decide (step.rotationId = row.id)) = [] := by
      rw [List.filter_eq_nil_iff]
      intro step inside same
      exact (unused.2 step inside).2 (of_decide_eq_true same)
    have all : (steps.filter fun step => decide (step.rotationId = row.id)) = steps := by
      rw [List.filter_eq_self]
      exact fun step inside => decide_eq_true (ofRotation step inside)
    have sorted : (steps.map (·.idx)).Pairwise (· ≤ ·) := by
      rw [indexes]
      decide
    rw [Database.stepsOf, added, List.filter_append, noEarlier, all, List.nil_append,
      List.mergeSort_of_pairwise, indexes]
    · rfl
    · rw [List.pairwise_map] at sorted
      exact sorted.imp fun before => decide_eq_true before
  · intro other inside same isActive
    rw [rotations] at inside
    obtain before | last := List.mem_append.mp inside
    · rw [inactive other before same] at isActive
      cases isActive
    · rw [List.mem_singleton.mp last]

end Proposals

end Sprawl
