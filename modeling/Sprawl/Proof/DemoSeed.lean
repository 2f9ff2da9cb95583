/-
This file proves what the seed of a demo session does to the tables.
-/

import Sprawl.Api.Demo
import Sprawl.Proof.Homed

namespace Sprawl

section Tables

variable {ρ : Type} {table : List ρ} {row : ρ} {key : ρ → Uuid} {ids : List Uuid}

/-- A row with a new key keeps the keys of its table apart. -/
theorem nodup_snoc {α : Type} {key : ρ → α} (nodup : (table.map key).Nodup)
    (unused : key row ∉ table.map key) : ((table ++ [row]).map key).Nodup := by
  rw [List.map_append, List.map_singleton, ← List.concat_eq_append]
  exact nodup.concat unused

theorem References.snoc (references : References table key ids) (known : key row ∈ ids) :
    References (table ++ [row]) key ids :=
  List.forall_mem_append.mpr ⟨references, List.forall_mem_singleton.mpr known⟩

/-- A key that a table has keeps its meaning in a larger table. -/
theorem References.grow {parents : List ρ} {parent : ρ → Uuid} {σ : Type} {children : List σ}
    {column : σ → Uuid} (references : References children column (parents.map parent))
    (extra : List ρ) : References children column ((parents ++ extra).map parent) := by
  intro child inside
  rw [List.map_append]
  exact List.mem_append_left _ (references child inside)

/-- A unique index over some rows takes a row that it does not select, or one with a new key. -/
theorem nodup_filter_snoc {selected : ρ → Bool} (nodup : ((table.filter selected).map key).Nodup)
    (unused : selected row = true → ∀ old ∈ table, key old = key row → selected old = false) :
    (((table ++ [row]).filter selected).map key).Nodup := by
  rw [List.filter_append, List.filter_singleton]
  cases hit : selected row with
  | false => simpa using nodup
  | true =>
      refine nodup_snoc nodup fun inside => ?_
      obtain ⟨old, among, same⟩ := List.mem_map.mp inside
      obtain ⟨stored, chosen⟩ := List.mem_filter.mp among
      exact absurd (chosen.symm.trans (unused hit old stored same)) Bool.false_ne_true.symm

end Tables

namespace Database

variable {db written : Database}

theorem hasWorkspace_iff {workspaceId : Uuid} :
    db.hasWorkspace workspaceId = true ↔ workspaceId ∈ db.workspaces.map (·.id) :=
  List.contains_iff_mem

theorem hasSecret_iff {secretId : Uuid} :
    db.hasSecret secretId = true ↔ secretId ∈ db.secrets.map (·.id) :=
  List.contains_iff_mem

theorem hasOwners_iff {workspaceId secretId : Uuid} :
    db.hasOwners workspaceId secretId = true ↔
      workspaceId ∈ db.workspaces.map (·.id) ∧ secretId ∈ db.secrets.map (·.id) := by
  rw [hasOwners, Bool.and_eq_true, hasWorkspace_iff, hasSecret_iff]

/-- An insert keeps the constraints of the schema. -/
theorem Valid.push (valid : db.Valid) {row : SeedRow} (allowed : db.accepts row = true) :
    (db.push row).Valid := by
  cases row with
  | workspace row =>
      rw [accepts, Bool.not_eq_true', ← Bool.not_eq_true, hasWorkspace_iff] at allowed
      exact { valid with
        workspacesUnique := nodup_snoc valid.workspacesUnique allowed
        secretsOwned := valid.secretsOwned.grow _
        findingsOwned := valid.findingsOwned.grow _
        investigationsOwned := valid.investigationsOwned.grow _
        nodesOwned := valid.nodesOwned.grow _
        edgesOwned := valid.edgesOwned.grow _
        severitiesOwned := valid.severitiesOwned.grow _
        rotationsOwned := valid.rotationsOwned.grow _
        stepsOwned := valid.stepsOwned.grow _
        auditOwned := valid.auditOwned.grow _ }
  | secret row =>
      simp only [accepts, Bool.and_eq_true, Bool.not_eq_true', ← Bool.not_eq_true, hasSecret_iff,
        hasWorkspace_iff] at allowed
      obtain ⟨⟨unused, owned⟩, fresh⟩ := allowed
      refine { valid with
        secretsUnique := nodup_snoc valid.secretsUnique unused
        fingerprintsUnique := nodup_snoc valid.fingerprintsUnique fun inside => fresh ?_
        secretsOwned := valid.secretsOwned.snoc owned
        findingsOfSecrets := fun finding stored secretId named => ?_
        investigationsOfSecrets := valid.investigationsOfSecrets.grow _
        nodesOfSecrets := valid.nodesOfSecrets.grow _
        edgesOfSecrets := valid.edgesOfSecrets.grow _
        severitiesOfSecrets := valid.severitiesOfSecrets.grow _
        rotationsOfSecrets := valid.rotationsOfSecrets.grow _ }
      · obtain ⟨old, stored, same⟩ := List.mem_map.mp inside
        obtain ⟨workspace, fingerprint⟩ := Prod.mk.inj same
        rw [List.any_eq_true]
        exact ⟨old, stored, by simp [workspace, fingerprint]⟩
      · rw [Database.push, List.map_append]
        exact List.mem_append_left _ (valid.findingsOfSecrets finding stored secretId named)
  | finding row =>
      simp only [accepts, Bool.and_eq_true, Bool.not_eq_true', ← Bool.not_eq_true, List.contains_iff_mem,
        hasWorkspace_iff, Option.all_eq_true, hasSecret_iff] at allowed
      obtain ⟨⟨unused, owned⟩, secret⟩ := allowed
      exact { valid with
        findingsUnique := nodup_snoc valid.findingsUnique unused
        findingsOwned := valid.findingsOwned.snoc owned
        findingsOfSecrets := List.forall_mem_append.mpr
          ⟨valid.findingsOfSecrets, List.forall_mem_singleton.mpr secret⟩ }
  | graphNode row =>
      simp only [accepts, Bool.and_eq_true, Bool.not_eq_true', ← Bool.not_eq_true, List.contains_iff_mem,
        hasOwners_iff] at allowed
      obtain ⟨unused, owned, secret⟩ := allowed
      exact { valid with
        nodesUnique := nodup_snoc valid.nodesUnique unused
        nodesOwned := valid.nodesOwned.snoc owned
        nodesOfSecrets := valid.nodesOfSecrets.snoc secret
        edgeSources := valid.edgeSources.grow _
        edgeTargets := valid.edgeTargets.grow _ }
  | graphEdge row =>
      simp only [accepts, Bool.and_eq_true, Bool.not_eq_true', ← Bool.not_eq_true, List.contains_iff_mem,
        hasOwners_iff] at allowed
      obtain ⟨⟨⟨unused, owned, secret⟩, source⟩, target⟩ := allowed
      exact { valid with
        edgesUnique := nodup_snoc valid.edgesUnique unused
        edgesOwned := valid.edgesOwned.snoc owned
        edgesOfSecrets := valid.edgesOfSecrets.snoc secret
        edgeSources := valid.edgeSources.snoc source
        edgeTargets := valid.edgeTargets.snoc target }
  | severity row =>
      simp only [accepts, Bool.and_eq_true, Bool.not_eq_true', ← Bool.not_eq_true, List.contains_iff_mem,
        hasOwners_iff] at allowed
      obtain ⟨unused, owned, secret⟩ := allowed
      exact { valid with
        severitiesUnique := nodup_snoc valid.severitiesUnique unused
        severitiesOwned := valid.severitiesOwned.snoc owned
        severitiesOfSecrets := valid.severitiesOfSecrets.snoc secret }
  | investigation row =>
      simp only [accepts, Bool.and_eq_true, Bool.not_eq_true', ← Bool.not_eq_true, List.contains_iff_mem,
        hasOwners_iff] at allowed
      obtain ⟨⟨unused, owned, secret⟩, only⟩ := allowed
      refine { valid with
        investigationsUnique := nodup_snoc valid.investigationsUnique unused
        investigationsOwned := valid.investigationsOwned.snoc owned
        investigationsOfSecrets := valid.investigationsOfSecrets.snoc secret
        oneActiveInvestigation :=
          nodup_filter_snoc valid.oneActiveInvestigation fun running old stored same => ?_ }
      rw [← Bool.not_eq_true]
      intro active
      exact only ⟨running, List.any_eq_true.mpr ⟨old, stored, by simp [same, active]⟩⟩
  | rotation row =>
      simp only [accepts, Bool.and_eq_true, Bool.not_eq_true', ← Bool.not_eq_true, List.contains_iff_mem,
        hasOwners_iff] at allowed
      obtain ⟨⟨⟨⟨unused, owned, secret⟩, creator⟩, planned⟩, only⟩ := allowed
      refine { valid with
        rotationsUnique := nodup_snoc valid.rotationsUnique unused
        rotationsOwned := valid.rotationsOwned.snoc owned
        rotationsOfSecrets := valid.rotationsOfSecrets.snoc secret
        creatorsKnown := List.forall_mem_append.mpr
          ⟨valid.creatorsKnown, List.forall_mem_singleton.mpr ?_⟩
        planPresent := List.forall_mem_append.mpr
          ⟨valid.planPresent, List.forall_mem_singleton.mpr ?_⟩
        oneActiveRotation :=
          nodup_filter_snoc valid.oneActiveRotation fun active old stored same => ?_
        stepsOfRotations := valid.stepsOfRotations.grow _ }
      · intro user created
        rw [Option.all_eq_true] at creator
        exact List.contains_iff_mem.mp (creator user created)
      · simpa [Bool.or_eq_true, or_assoc] using planned
      · rw [← Bool.not_eq_true]
        intro open_
        exact only ⟨by simpa using active, List.any_eq_true.mpr ⟨old, stored, by simp [same, open_]⟩⟩
  | rotationStep row =>
      simp only [accepts, Bool.and_eq_true, Bool.not_eq_true', ← Bool.not_eq_true, List.contains_iff_mem,
        hasWorkspace_iff] at allowed
      obtain ⟨⟨⟨unused, owned⟩, rotation⟩, fresh⟩ := allowed
      refine { valid with
        stepsUnique := nodup_snoc valid.stepsUnique unused
        stepIndexesUnique := nodup_snoc valid.stepIndexesUnique fun inside => fresh ?_
        stepsOwned := valid.stepsOwned.snoc owned
        stepsOfRotations := valid.stepsOfRotations.snoc rotation }
      obtain ⟨old, stored, same⟩ := List.mem_map.mp inside
      obtain ⟨rotation, idx⟩ := Prod.mk.inj same
      rw [List.any_eq_true]
      exact ⟨old, stored, by simp [rotation, idx]⟩
  | audit entry prevHash hash =>
      rw [accepts, hasWorkspace_iff] at allowed
      refine { valid with
        auditUnique := nodup_snoc valid.auditUnique fun inside => ?_
        auditOwned := List.forall_mem_append.mpr
          ⟨valid.auditOwned, List.forall_mem_singleton.mpr allowed⟩
        auditSequence := List.forall_mem_append.mpr
          ⟨fun row stored => Nat.lt_succ_of_lt (valid.auditSequence row stored),
            List.forall_mem_singleton.mpr (Nat.lt_succ_self _)⟩ }
      obtain ⟨row, stored, same⟩ := List.mem_map.mp inside
      exact absurd same (Nat.ne_of_lt (valid.auditSequence row stored))

/-- The rows of a transaction that commits are all accepted in their turn. -/
theorem seedAll_eq_ok {rows : List SeedRow} :
    seedAll rows db = .ok written ↔
      (∀ before row after, rows = before ++ row :: after →
        (before.foldl push db).accepts row = true) ∧ rows.foldl push db = written := by
  induction rows generalizing db with
  | nil => simp [seedAll]
  | cons row rest ih =>
      rw [seedAll]
      cases accepted : db.accepts row with
      | false =>
          rw [if_neg Bool.false_ne_true]
          constructor
          · intro ran
            cases ran
          · intro given
            exact absurd (accepted.symm.trans (given.1 [] row rest rfl)) Bool.false_ne_true
      | true =>
          rw [if_pos rfl, ih]
          refine and_congr_left' ⟨fun given before next after split => ?_, fun given before next
            after split => given (row :: before) next after (congrArg (row :: ·) split)⟩
          cases before with
          | nil =>
              obtain ⟨rfl, _⟩ := List.cons.inj split
              exact accepted
          | cons head before =>
              obtain ⟨rfl, tail⟩ := List.cons.inj split
              exact given before next after tail

/-- A transaction that commits keeps the constraints of the schema. -/
theorem Valid.seedAll (valid : db.Valid) {rows : List SeedRow}
    (ran : seedAll rows db = .ok written) : written.Valid := by
  induction rows generalizing db with
  | nil =>
      obtain rfl := Except.ok.inj ran
      exact valid
  | cons row rest ih =>
      rw [Database.seedAll] at ran
      split at ran
      · next accepted => exact ih (valid.push accepted) ran
      · cases ran

end Database

/-- The workspace of a row. -/
def SeedRow.workspaceId : SeedRow → Uuid
  | .workspace row => row.id
  | .secret row => row.workspaceId
  | .finding row => row.workspaceId
  | .graphNode row => row.workspaceId
  | .graphEdge row => row.workspaceId
  | .severity row => row.workspaceId
  | .investigation row => row.workspaceId
  | .rotation row => row.workspaceId
  | .rotationStep row => row.workspaceId
  | .audit entry _ _ => entry.workspaceId

namespace Database

variable {db : Database} {other : Uuid}

/-- A row of one workspace leaves the rows of the others. -/
theorem rowsOf_push {row : SeedRow} (different : row.workspaceId ≠ other) :
    (db.push row).rowsOf other = db.rowsOf other := by
  cases row <;> simp only [SeedRow.workspaceId] at different <;>
    simp [rowsOf, ofWorkspace, push, List.filter_append, different]

theorem rowsOf_pushAll {rows : List SeedRow} (different : ∀ row ∈ rows, row.workspaceId ≠ other) :
    (rows.foldl push db).rowsOf other = db.rowsOf other := by
  induction rows generalizing db with
  | nil => rfl
  | cons row rest ih =>
      rw [List.forall_mem_cons] at different
      exact (ih different.2).trans (rowsOf_push different.1)

end Database

namespace DemoIds

variable (ids : DemoIds)

theorem auditEntries_workspaceId :
    ∀ entry ∈ ids.auditEntries, entry.workspaceId = ids.workspaceId := by
  simp [auditEntries, auditTargets, DemoSession.entries]

variable [Sha256] (settings : DemoSettings) (now : Time)

theorem seedEntries_within {entries : List AuditEntry} {workspaceId : Uuid}
    (within : ∀ entry ∈ entries, entry.workspaceId = workspaceId) (prev : String) :
    ∀ row ∈ seedEntries now prev entries, row.workspaceId = workspaceId := by
  induction entries generalizing prev with
  | nil => exact fun _ inside => absurd inside List.not_mem_nil
  | cons entry rest ih =>
      rw [List.forall_mem_cons] at within
      exact List.forall_mem_cons.mpr ⟨within.1, ih within.2 _⟩

/-- All rows of a demo session are in its workspace. -/
theorem rows_within : ∀ row ∈ ids.rows settings now, row.workspaceId = ids.workspaceId := by
  have seeded := seedEntries_within now ids.auditEntries_workspaceId genesisHash
  simp only [rows, List.forall_mem_append]
  refine ⟨⟨⟨⟨⟨?_, ?_⟩, ?_⟩, ?_⟩, ?_⟩, seeded⟩ <;>
    simp [SeedRow.workspaceId, workspace, secret, finding, graphNodes, node, graphEdges, edge, severity,
      investigation, rotation, rotationSteps, step]

end DemoIds

section Audit

variable {db : Database} {prev : String} {workspaceId : Uuid}

/-- The newest row comes first. -/
theorem head_mergeSort_newest {ρ : Type} {key : ρ → Nat} {rows : List ρ} {row : ρ}
    (newest : ∀ old ∈ rows, key old < key row) :
    ((rows ++ [row]).mergeSort fun first second => decide (key second ≤ key first)).head? =
      some row := by
  let sorted := (rows ++ [row]).mergeSort fun first second => decide (key second ≤ key first)
  have ordered : sorted.Pairwise fun first second => decide (key second ≤ key first) = true :=
    List.pairwise_mergeSort (fun first second third => by simp; omega) (fun first second => by
      simp; omega) (rows ++ [row])
  have inside : row ∈ sorted := List.mem_mergeSort.mpr (by simp)
  change sorted.head? = some row
  have members : ∀ found ∈ sorted, found ∈ rows ∨ found = row := by
    intro found among
    simpa using List.mem_mergeSort.mp among
  cases same : sorted with
  | nil =>
      rw [same] at inside
      exact absurd inside List.not_mem_nil
  | cons first rest =>
      rw [same] at inside ordered members
      obtain rfl | later := List.mem_cons.mp inside
      · rfl
      · have least := of_decide_eq_true (List.rel_of_pairwise_cons ordered later)
        obtain earlier | rfl := members first List.mem_cons_self
        · exact absurd least (Nat.not_le.mpr (newest first earlier))
        · rfl

/-- The hash of an appended row is the latest one of its workspace. -/
theorem latestHash_append {log : List AuditLog} {row : AuditLog}
    (newest : ∀ old ∈ log, old.id < row.id) (present : row.hash ≠ "") :
    latestHash row.entry.workspaceId (log ++ [row]) = row.hash := by
  have chosen : (log ++ [row]).filter (·.entry.workspaceId = row.entry.workspaceId) =
      log.filter (·.entry.workspaceId = row.entry.workspaceId) ++ [row] := by
    rw [List.filter_append, List.filter_singleton, decide_eq_true rfl]
    rfl
  have earlier : ∀ old ∈ log.filter (·.entry.workspaceId = row.entry.workspaceId),
      old.id < row.id := fun old inside => newest old (List.mem_of_mem_filter inside)
  rw [latestHash, chosen, head_mergeSort_newest earlier]
  exact if_neg present

/-- A workspace without entries starts its chain. -/
theorem latestHash_none {log : List AuditLog}
    (none : ∀ row ∈ log, row.entry.workspaceId ≠ workspaceId) :
    latestHash workspaceId log = genesisHash := by
  have chosen : log.filter (·.entry.workspaceId = workspaceId) = [] :=
    List.filter_eq_nil_iff.mpr fun row inside => by simpa using none row inside
  rw [latestHash, chosen, List.mergeSort_nil]
  rfl

variable [Sha256]

/-- The seeding loop writes the rows that `audit` would write. -/
theorem foldl_seedEntries (digests : ∀ text, Sha256.hexdigest text ≠ "") {entries : List AuditEntry}
    (within : ∀ entry ∈ entries, entry.workspaceId = workspaceId)
    (latest : latestHash workspaceId db.auditLog = prev)
    (sequence : ∀ row ∈ db.auditLog, row.id < db.nextAuditId) :
    (DemoIds.seedEntries db.clock prev entries).foldl Database.push db =
      entries.foldl Database.audit db := by
  induction entries generalizing db prev with
  | nil => rfl
  | cons entry rest ih =>
      rw [List.forall_mem_cons] at within
      obtain ⟨here, later⟩ := within
      have same : db.push (.audit entry prev (computeHash prev (entry.payload db.clock))) =
          db.audit entry := by
        rw [← latest, ← here]
        rfl
      rw [DemoIds.seedEntries, List.foldl_cons, List.foldl_cons, same]
      refine ih later ?_ (List.forall_mem_append.mpr ⟨fun row stored =>
        Nat.lt_succ_of_lt (sequence row stored), List.forall_mem_singleton.mpr (Nat.lt_succ_self _)⟩)
      let row : AuditLog :=
        { id := db.nextAuditId, entry, prevHash := prev, createdAt := db.clock
          hash := computeHash prev (entry.payload db.clock) }
      have appended : (db.audit entry).auditLog = db.auditLog ++ [row] := by
        rw [← same]
        rfl
      have newest : ∀ old ∈ db.auditLog, old.id < row.id := sequence
      have present : row.hash ≠ "" := digests _
      rw [appended, ← here]
      exact latestHash_append newest present

end Audit

end Sprawl
