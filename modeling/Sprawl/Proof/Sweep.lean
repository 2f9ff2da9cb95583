/-
This file follows the deletion of the expired demo workspaces through the schema.
-/

import Sprawl.Worker.Sweeper

namespace Sprawl

open Referential

variable {Other : Table → Type} (now : Time) (database : SprawlDatabase Other)

/-- The row is an expired demo workspace or belongs to one. -/
def leavesWithWorkspace (table : Table) (row : StoredRow Other table) : Bool :=
  sweptWorkspaces now table row || (foreignKeys table).any fun reference =>
    (database.rows reference.parent).any fun workspace =>
      row.reference reference.column = some workspace.id &&
        sweptWorkspaces now reference.parent workspace

/-- The sweep succeeds, takes the expired demo workspaces with their rows, and nothing else. -/
def SweepsExpired : Prop :=
  ∃ remaining result, sweepDemoWorkspaces now database = .ok (remaining, result) ∧
    ∀ table, remaining.rows table =
      (database.rows table).filter fun row => !leavesWithWorkspace now database table row

variable {now database}

theorem swept_table {table : Table} {row : StoredRow Other table}
    (swept : sweptWorkspaces now table row = true) : table = .workspaces := by
  cases table with
  | workspaces => rfl
  | _ => cases swept

theorem leavesWithWorkspace_iff {table : Table} {row : StoredRow Other table} :
    leavesWithWorkspace now database table row = true ↔
      sweptWorkspaces now table row = true ∨
        ∃ reference ∈ foreignKeys table, ∃ workspace ∈ database.rows reference.parent,
          row.reference reference.column = some workspace.id ∧
            sweptWorkspaces now reference.parent workspace = true := by
  simp only [leavesWithWorkspace, Bool.or_eq_true, List.any_eq_true, Bool.and_eq_true,
    decide_eq_true_eq]

/-- Every table but the audit log gives its rows up with their workspace. -/
theorem workspace_cascades {table : Table} (notAudit : table ≠ .auditLog)
    {reference : Reference Table Column} (declared : reference ∈ foreignKeys table)
    (refersToWorkspace : reference.parent = .workspaces) : reference.onDelete = .cascade := by
  have cascades : ∀ table, table ≠ .auditLog → ∀ reference ∈ foreignKeys table,
      reference.parent = .workspaces → reference.onDelete = .cascade := by
    intro table
    cases table <;> decide
  exact cascades table notAudit reference declared refersToWorkspace

theorem leaving_doomed {table : Table} (notAudit : table ≠ .auditLog) {row : StoredRow Other table}
    (leaves : leavesWithWorkspace now database table row = true) :
    Doomed database (sweptWorkspaces now) table row := by
  obtain swept | ⟨reference, declared, workspace, stored, refers, swept⟩ :=
    leavesWithWorkspace_iff.mp leaves
  · exact Doomed.chosen swept
  · have cascades := workspace_cascades notAudit declared (swept_table swept)
    exact Doomed.cascade declared cascades stored refers (Doomed.chosen swept)

/-- No cascade reaches the audit log. -/
theorem auditLog_not_doomed (entry : StoredRow Other .auditLog) :
    ¬ Doomed database (sweptWorkspaces now) .auditLog entry := by
  intro isDoomed
  cases isDoomed with
  | chosen swept => cases swept
  | cascade declared cascades =>
      rw [List.mem_singleton.mp declared] at cascades
      cases cascades

theorem sweep_ok_iff (remaining : SprawlDatabase Other) :
    (∃ result, sweepDemoWorkspaces now database = .ok (remaining, result)) ↔
      delete database (sweptWorkspaces now) = .ok remaining := by
  rw [sweepDemoWorkspaces]
  cases delete database (sweptWorkspaces now) with
  | error violation =>
      constructor
      · intro given
        obtain ⟨result, returned⟩ := given
        cases returned
      · intro deleted
        cases deleted
  | ok after =>
      constructor
      · intro given
        obtain ⟨result, returned⟩ := given
        cases returned
        rfl
      · intro deleted
        cases deleted
        exact ⟨_, rfl⟩

theorem sweepsExpired_iff_exactly :
    SweepsExpired now database ↔
      RemovesExactly database (sweptWorkspaces now) (leavesWithWorkspace now database) := by
  constructor
  · intro given
    obtain ⟨remaining, result, returned, rows⟩ := given
    exact ⟨remaining, (sweep_ok_iff remaining).mp ⟨result, returned⟩, rows⟩
  · intro given
    obtain ⟨remaining, deleted, rows⟩ := given
    obtain ⟨result, returned⟩ := (sweep_ok_iff remaining).mpr deleted
    exact ⟨remaining, result, returned, rows⟩

/-- A demo workspace that expired, with the kind and the expiry that the sweeper reads. -/
def expiredWorkspace (id : Uuid) : StoredRow (fun _ => Unit) .workspaces :=
  ⟨id, fun _ => none, ⟨.demo, some 5, ()⟩⟩

/-- The seed of a demo session leaves an audit entry in its workspace. -/
def seedEntry : StoredRow (fun _ => Unit) .auditLog :=
  ⟨1, fun column => if column = .workspaceId then some 1 else none, ()⟩

/-- Two demo workspaces expired, and the first has an audit entry. -/
def auditedDemo : SprawlDatabase fun _ => Unit where
  rows
    | .workspaces => [expiredWorkspace 1, expiredWorkspace 2]
    | .auditLog => [seedEntry]
    | _ => []
  unique := by intro table; cases table <;> decide
  present := by intro table; cases table <;> decide
  resolved := by
    intro table row stored reference declared key refers
    cases table with
    | auditLog =>
        obtain rfl := List.mem_singleton.mp stored
        obtain rfl := List.mem_singleton.mp declared
        obtain rfl := Option.some.inj refers
        exact ⟨expiredWorkspace 1, List.mem_cons_self, rfl⟩
    | workspaces => cases declared
    | _ => cases stored

/-- One audit entry stops the sweep of both workspaces. -/
theorem auditedDemo_not_swept :
    sweepDemoWorkspaces 10 auditedDemo = .error ⟨.auditLog, .workspaceId, .workspaces⟩ ∧
      ¬ SweepsExpired 10 auditedDemo := by
  have fails : sweepDemoWorkspaces 10 auditedDemo =
      .error ⟨.auditLog, .workspaceId, .workspaces⟩ := rfl
  refine ⟨fails, ?_⟩
  intro given
  obtain ⟨remaining, result, returned, _⟩ := given
  cases fails.symm.trans returned

/-- The sweep does its work when no expired demo workspace has an audit entry and no row of
another workspace refers to a row of an expired one. -/
theorem sweep_removes_expired_iff (now : Time) (database : SprawlDatabase Other) :
    SweepsExpired now database ↔
      (∀ entry ∈ database.rows .auditLog,
        leavesWithWorkspace now database .auditLog entry = false) ∧
      Separate database (leavesWithWorkspace now database) := by
  have includes : ∀ table, ∀ row ∈ database.rows table, sweptWorkspaces now table row = true →
      leavesWithWorkspace now database table row = true :=
    fun table row _ swept => leavesWithWorkspace_iff.mpr (Or.inl swept)
  rw [sweepsExpired_iff_exactly, removesExactly_iff includes]
  apply and_congr_left'
  constructor
  · intro reached entry stored
    rw [← Bool.not_eq_true]
    exact fun leaves => auditLog_not_doomed entry (reached .auditLog entry stored leaves)
  · intro noEntry table row stored leaves
    by_cases isAudit : table = .auditLog
    · subst isAudit
      cases leaves.symm.trans (noEntry row stored)
    · exact leaving_doomed isAudit leaves

end Sprawl
