/-
This file proves that valid tables are stored under the schema.
-/

import Sprawl.Worker.Storage

namespace Sprawl

open Referential

namespace Database

variable {db : Database}

/-- The value of a column fits its reference. -/
def Fits (db : Database) (reference : Reference Table Column) (value : Option Uuid) : Prop :=
  (reference.required = true → value.isSome = true) ∧
    ∀ key, value = some key → key ∈ (db.rowsIn reference.parent).map Row.id

theorem Fits.present {reference : Reference Table Column} {key : Uuid}
    (known : key ∈ (db.rowsIn reference.parent).map Row.id) : db.Fits reference (some key) :=
  ⟨fun _ => rfl, fun _ same => Option.some.inj same ▸ known⟩

theorem Fits.absent {reference : Reference Table Column} (optional : reference.required = false) :
    db.Fits reference none :=
  ⟨fun required => absurd (optional.symm.trans required) Bool.false_ne_true, fun _ same => nomatch same⟩

theorem rowsIn_workspaces : (db.rowsIn .workspaces).map Row.id = db.workspaces.map (·.id) :=
  List.map_map

theorem rowsIn_users : (db.rowsIn .users).map Row.id = db.users := by
  rw [rowsIn, List.map_map]
  exact List.map_id _

theorem rowsIn_secrets : (db.rowsIn .secrets).map Row.id = db.secrets.map (·.id) :=
  List.map_map

theorem rowsIn_graphNodes : (db.rowsIn .graphNodes).map Row.id = db.graphNodes.map (·.id) :=
  List.map_map

theorem rowsIn_rotations : (db.rowsIn .rotations).map Row.id = db.rotations.map (·.id) :=
  List.map_map

/-- Every foreign key of a valid row is set and known. -/
theorem Valid.fits (valid : db.Valid) : ∀ table, ∀ row ∈ db.rowsIn table,
    ∀ reference ∈ foreignKeys table, db.Fits reference (row.reference reference.column) := by
  have workspace {id : Uuid} (known : id ∈ db.workspaces.map (·.id)) :
      db.Fits ownedByWorkspace (some id) := Fits.present (rowsIn_workspaces ▸ known)
  have secret {id : Uuid} (known : id ∈ db.secrets.map (·.id)) :
      db.Fits ownedBySecret (some id) := Fits.present (rowsIn_secrets ▸ known)
  intro table row stored
  cases table with
  | secrets =>
      obtain ⟨row, inside, rfl⟩ := List.mem_map.mp stored
      exact List.forall_mem_singleton.mpr (workspace (valid.secretsOwned row inside))
  | findings =>
      obtain ⟨row, inside, rfl⟩ := List.mem_map.mp stored
      simp only [foreignKeys, List.forall_mem_cons]
      refine ⟨workspace (valid.findingsOwned row inside), ?_, ?_, List.forall_mem_nil _⟩
      · have known := valid.findingsOfSecrets row inside
        change db.Fits _ ((row.secretId.toList.map fun secretId =>
          (Column.secretId, secretId)).lookup .secretId)
        cases named : row.secretId with
        | none => exact Fits.absent rfl
        | some secretId =>
            rw [named] at known
            exact Fits.present (rowsIn_secrets ▸ known secretId rfl)
      · change db.Fits _ ((row.secretId.toList.map fun secretId =>
          (Column.secretId, secretId)).lookup .repoId)
        cases row.secretId <;> exact Fits.absent rfl
  | graphNodes =>
      obtain ⟨row, inside, rfl⟩ := List.mem_map.mp stored
      simp only [foreignKeys, List.forall_mem_cons]
      exact ⟨workspace (valid.nodesOwned row inside), secret (valid.nodesOfSecrets row inside),
        List.forall_mem_nil _⟩
  | graphEdges =>
      obtain ⟨row, inside, rfl⟩ := List.mem_map.mp stored
      simp only [foreignKeys, List.forall_mem_cons]
      refine ⟨workspace (valid.edgesOwned row inside), secret (valid.edgesOfSecrets row inside),
        Fits.present ?_, Fits.present ?_, List.forall_mem_nil _⟩
      · rw [rowsIn_graphNodes]
        exact valid.edgeSources row inside
      · rw [rowsIn_graphNodes]
        exact valid.edgeTargets row inside
  | severities =>
      obtain ⟨row, inside, rfl⟩ := List.mem_map.mp stored
      simp only [foreignKeys, List.forall_mem_cons]
      exact ⟨workspace (valid.severitiesOwned row inside),
        secret (valid.severitiesOfSecrets row inside), List.forall_mem_nil _⟩
  | investigations =>
      obtain ⟨row, inside, rfl⟩ := List.mem_map.mp stored
      simp only [foreignKeys, List.forall_mem_cons]
      exact ⟨workspace (valid.investigationsOwned row inside),
        secret (valid.investigationsOfSecrets row inside), List.forall_mem_nil _⟩
  | rotations =>
      obtain ⟨row, inside, rfl⟩ := List.mem_map.mp stored
      simp only [foreignKeys, List.forall_mem_cons]
      refine ⟨workspace (valid.rotationsOwned row inside),
        secret (valid.rotationsOfSecrets row inside), ?_, List.forall_mem_nil _⟩
      have known := valid.creatorsKnown row inside
      change db.Fits _ ((row.createdBy.toList.map fun user => (Column.createdBy, user)).lookup
        .createdBy)
      cases creator : row.createdBy with
      | none => exact Fits.absent rfl
      | some user =>
          rw [creator] at known
          exact Fits.present (rowsIn_users ▸ known user rfl)
  | rotationSteps =>
      obtain ⟨row, inside, rfl⟩ := List.mem_map.mp stored
      simp only [foreignKeys, List.forall_mem_cons]
      refine ⟨workspace (valid.stepsOwned row inside), Fits.present ?_, Fits.absent rfl,
        List.forall_mem_nil _⟩
      rw [rowsIn_rotations]
      exact valid.stepsOfRotations row inside
  | auditLog =>
      obtain ⟨row, inside, rfl⟩ := List.mem_map.mp stored
      exact List.forall_mem_singleton.mpr
        (Fits.present (rowsIn_workspaces ▸ valid.auditOwned row inside))
  | workspaces | users => exact List.forall_mem_nil _
  | memberships | connectors | githubInstallations | repos | scans | embeddings =>
      exact absurd stored List.not_mem_nil

/-- Valid tables fit the schema, with the other tables empty. -/
def Valid.world (valid : db.Valid) : SprawlDatabase fun _ => Unit where
  rows := db.rowsIn
  unique := by
    intro table
    cases table with
    | users => exact rowsIn_users ▸ valid.usersUnique
    | workspaces => exact rowsIn_workspaces ▸ valid.workspacesUnique
    | secrets => exact rowsIn_secrets ▸ valid.secretsUnique
    | findings => exact (List.map_map ..).symm ▸ valid.findingsUnique
    | graphNodes => exact rowsIn_graphNodes ▸ valid.nodesUnique
    | graphEdges => exact (List.map_map ..).symm ▸ valid.edgesUnique
    | severities => exact (List.map_map ..).symm ▸ valid.severitiesUnique
    | investigations => exact (List.map_map ..).symm ▸ valid.investigationsUnique
    | rotations => exact rowsIn_rotations ▸ valid.rotationsUnique
    | rotationSteps => exact (List.map_map ..).symm ▸ valid.stepsUnique
    | auditLog => exact (List.map_map ..).symm ▸ valid.auditUnique
    | _ => exact List.nodup_nil
  present table row stored reference declared := (valid.fits table row stored reference declared).1
  resolved table row stored reference declared key set :=
    List.mem_map.mp ((valid.fits table row stored reference declared).2 key set)

theorem Valid.storedIn (valid : db.Valid) : db.StoredIn valid.world := by
  intro table _
  have same : (bareRow table : BareRow table → BareRow table) = id := by
    funext row
    cases table <;> rfl
  rw [same, List.map_id]
  rfl

end Database

end Sprawl
