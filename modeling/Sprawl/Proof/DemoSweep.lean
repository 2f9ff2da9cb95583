/-
This file proves that no sweep removes a demo session.
-/

import Sprawl.Proof.DemoSession
import Sprawl.Proof.JobRows
import Sprawl.Proof.Storage
import Sprawl.Proof.Sweep

namespace Sprawl

open Referential

section Growth

/-- The workspaces and the audit log only grow, and time passes. -/
structure Database.Grows (db next : Database) : Prop where
  workspaces : db.workspaces <+: next.workspaces
  auditLog : db.auditLog <+: next.auditLog
  clock : db.clock ≤ next.clock

namespace Database

variable {db next : Database}

/-- A statement that touches neither table lets them grow. -/
theorem Grows.same (workspaces : next.workspaces = db.workspaces)
    (auditLog : next.auditLog = db.auditLog) (clock : next.clock = db.clock) : db.Grows next where
  workspaces := workspaces ▸ List.prefix_refl _
  auditLog := auditLog ▸ List.prefix_refl _
  clock := Nat.le_of_eq clock.symm

theorem Grows.trans {last : Database} (first : db.Grows next) (second : next.Grows last) :
    db.Grows last where
  workspaces := first.workspaces.trans second.workspaces
  auditLog := first.auditLog.trans second.auditLog
  clock := Nat.le_trans first.clock second.clock

theorem grows_push (row : SeedRow) : db.Grows (db.push row) := by
  cases row with
  | workspace row => exact ⟨List.prefix_append _ _, List.prefix_refl _, Nat.le_refl _⟩
  | audit entry prevHash hash => exact ⟨List.prefix_refl _, List.prefix_append _ _, Nat.le_refl _⟩
  | _ => exact Grows.same rfl rfl rfl

theorem grows_pushAll (rows : List SeedRow) : db.Grows (rows.foldl push db) := by
  induction rows generalizing db with
  | nil => exact Grows.same rfl rfl rfl
  | cons row rest ih => exact (grows_push row).trans ih

variable [Sha256]

theorem grows_audit (entry : AuditEntry) : db.Grows (db.audit entry) where
  workspaces := List.prefix_refl _
  auditLog := List.prefix_append _ _
  clock := Nat.le_refl _

theorem grows_apply (write : Write) : db.Grows (db.apply write) := by
  cases write with
  | audit entry => exact grows_audit entry
  | _ => exact Grows.same rfl rfl rfl

theorem grows_performed (now : Time) (statement : JobStatement) :
    db.Grows (db.performed now statement) := by
  cases statement with
  | audit entry => exact grows_audit entry
  | _ => exact Grows.same rfl rfl rfl

theorem grows_apiApply [UuidCodec] {write : ApiWrite} (written : db.apiApply write = .ok next) :
    db.Grows next := by
  cases write with
  | investigation id workspaceId secretId =>
      simp only [apiApply, insertInvestigation] at written
      split at written
      · obtain rfl := Except.ok.inj written
        exact Grows.same rfl rfl rfl
      · split at written
        · obtain rfl := Except.ok.inj written
          exact Grows.same rfl rfl rfl
        · cases written
  | rotation row =>
      simp only [apiApply, insertRotation] at written
      split at written
      · cases written
      · rw [insert_performed written]
        split <;> exact Grows.same rfl rfl rfl
  | rotationStep row =>
      simp only [apiApply, insertStep] at written
      split at written
      · cases written
      · obtain rfl := Except.ok.inj written
        exact Grows.same rfl rfl rfl
  | audit entry =>
      simp only [apiApply, insertAudit] at written
      split at written
      · obtain rfl := Except.ok.inj written
        exact grows_audit entry
      · cases written

end Database

end Growth

section Sweep

variable {Other : Table → Type} {now : Time} {world after : SprawlDatabase Other}
  {result : SweepResult}

/-- A sweep that succeeds finds no audit entry in a workspace that it removes. -/
theorem swept_unaudited (ran : sweepDemoWorkspaces now world = .ok (after, result))
    {entry : StoredRow Other .auditLog} (logged : entry ∈ world.rows .auditLog)
    {workspace : StoredRow Other .workspaces} (stored : workspace ∈ world.rows .workspaces)
    (owner : entry.reference .workspaceId = some workspace.id) :
    expiredDemo now workspace = false := by
  obtain ⟨clear, _⟩ := delete_ok world _ ((sweep_ok_iff after).mp ⟨result, ran⟩)
  have survives : entry ∈ survivors world (sweptWorkspaces now) .auditLog :=
    (mem_survivors world _).mpr ⟨logged, auditLog_not_doomed entry⟩
  have kept := (violations_nil_iff world _).mp clear .auditLog entry survives
    ⟨.workspaceId, .workspaces, .noAction, true⟩ (List.mem_singleton.mpr rfl) rfl
  rw [← Bool.not_eq_true] at kept ⊢
  intro expired
  exact kept ((losesParent_iff world _).mpr ⟨workspace, stored, owner, Doomed.chosen expired⟩)

/-- A row that no cascade reaches keeps its key. -/
theorem swept_keeps (ran : sweepDemoWorkspaces now world = .ok (after, result)) {table : Table}
    {row : StoredRow Other table} (stored : row ∈ world.rows table)
    (spared : ¬ Doomed world (sweptWorkspaces now) table row) :
    ∃ kept ∈ after.rows table, kept.id = row.id := by
  obtain ⟨_, rows⟩ := delete_ok world _ ((sweep_ok_iff after).mp ⟨result, ran⟩)
  rw [rows table]
  exact ⟨_, List.mem_map_of_mem ((mem_survivors world _).mpr ⟨stored, spared⟩), rfl⟩

/-- Only the sweep itself removes workspaces. -/
theorem workspace_doomed {workspace : StoredRow Other .workspaces}
    (isDoomed : Doomed world (sweptWorkspaces now) .workspaces workspace) :
    expiredDemo now workspace = true := by
  cases isDoomed with
  | chosen swept => exact swept
  | cascade declared => cases declared

end Sweep

namespace Database

variable {Other : Table → Type} {db : Database} {world after : SprawlDatabase Other}
  {result : SweepResult}

/-- A row of the api is stored. -/
theorem StoredIn.row (stored : db.StoredIn world) {table : Table} (kept : table ∈ apiTables)
    {bare : BareRow table} (inside : bare ∈ db.rowsIn table) :
    ∃ row ∈ world.rows table, bareRow table row = bare := by
  rw [← stored table kept] at inside
  exact List.mem_map.mp inside

/-- A workspace is stored with the columns that the sweeper reads. -/
theorem StoredIn.workspace (stored : db.StoredIn world) {row : Workspace}
    (inside : row ∈ db.workspaces) : ∃ workspace ∈ world.rows .workspaces,
      workspace.id = row.id ∧ expiredDemo db.clock workspace =
        (row.kind = .demo && row.expiresAt.any fun expiresAt => expiresAt < db.clock) := by
  obtain ⟨workspace, among, same⟩ := stored.row (by decide : Table.workspaces ∈ apiTables)
    (List.mem_map.mpr ⟨row, inside, rfl⟩)
  have key := congrArg Row.id same
  have content := congrArg Row.content same
  have kind : workspace.content.kind = row.kind := congrArg WorkspaceColumns.kind content
  have expiry : workspace.content.expiresAt = row.expiresAt :=
    congrArg WorkspaceColumns.expiresAt content
  refine ⟨workspace, among, key, ?_⟩
  rw [expiredDemo, kind, expiry]

/-- An audit entry is stored with its workspace. -/
theorem StoredIn.entry (stored : db.StoredIn world) {row : AuditLog} (inside : row ∈ db.auditLog) :
    ∃ entry ∈ world.rows .auditLog, entry.id = row.id ∧
      entry.reference .workspaceId = some row.entry.workspaceId := by
  obtain ⟨entry, among, same⟩ := stored.row (by decide : Table.auditLog ∈ apiTables)
    (List.mem_map.mpr ⟨row, inside, rfl⟩)
  exact ⟨entry, among, congrArg Row.id same, congrFun (congrArg Row.reference same) .workspaceId⟩

/-- The first row of a kind stays the first when it stays at all. -/
theorem find?_filter_kept {ρ : Type} {table : List ρ} {chosen kept : ρ → Bool} {row : ρ}
    (found : table.find? chosen = some row) (stays : kept row = true) :
    (table.filter kept).find? chosen = some row := by
  rw [List.find?_eq_some_iff_append] at found
  obtain ⟨holds, before, later, rfl, first⟩ := found
  rw [List.filter_append, List.filter_cons_of_pos stays, List.find?_eq_some_iff_append]
  exact ⟨holds, _, _, rfl, fun other inside => first other (List.mem_of_mem_filter inside)⟩

/-- The workspace of a session is stored with an audit entry. -/
structure Seeded (session : String) (row : Workspace) (db : Database) : Prop where
  found : db.demoWorkspace session = some row
  logged : ∃ entry ∈ db.auditLog, entry.entry.workspaceId = row.id

variable {session : String} {row : Workspace} {next : Database}

theorem Seeded.stored (seeded : db.Seeded session row) :
    row ∈ db.workspaces ∧ row.demoSessionId = some session ∧ row.kind = .demo := by
  have found := seeded.found
  have chosen := List.find?_some found
  simp only [Bool.and_eq_true, decide_eq_true_eq] at chosen
  exact ⟨List.mem_of_find?_eq_some found, chosen⟩

theorem Seeded.grows (seeded : db.Seeded session row) (grows : db.Grows next) :
    next.Seeded session row where
  found := by
    obtain ⟨later, same⟩ := grows.workspaces
    have found := seeded.found
    rw [demoWorkspace] at found ⊢
    rw [← same, List.find?_append, found]
    rfl
  logged := by
    obtain ⟨entry, inside, owner⟩ := seeded.logged
    exact ⟨entry, grows.auditLog.subset inside, owner⟩

/-- A sweep that succeeds finds the session unexpired. -/
theorem Seeded.unexpired (seeded : db.Seeded session row) (stored : db.StoredIn world)
    (ran : sweepDemoWorkspaces db.clock world = .ok (after, result)) :
    (row.expiresAt.any fun expiresAt => expiresAt < db.clock) = false := by
  obtain ⟨inside, _, demo⟩ := seeded.stored
  obtain ⟨entry, logged, owner⟩ := seeded.logged
  obtain ⟨workspace, among, key, expired⟩ := stored.workspace inside
  obtain ⟨line, listed, _, refers⟩ := stored.entry logged
  have spared := swept_unaudited ran listed among (by rw [refers, owner, key])
  rw [expired, demo, decide_eq_true rfl, Bool.true_and] at spared
  exact spared

theorem Seeded.swept (seeded : db.Seeded session row) (stored : db.StoredIn world)
    (ran : sweepDemoWorkspaces db.clock world = .ok (after, result)) :
    (db.remaining after).Seeded session row where
  found := by
    obtain ⟨inside, _, _⟩ := seeded.stored
    obtain ⟨workspace, among, key, expired⟩ := stored.workspace inside
    have spared : ¬ Doomed world (sweptWorkspaces db.clock) .workspaces workspace := by
      intro isDoomed
      have unexpired := seeded.unexpired stored ran
      have reached := workspace_doomed isDoomed
      rw [expired, unexpired, Bool.and_false] at reached
      cases reached
    obtain ⟨kept, remains, same⟩ := swept_keeps ran among spared
    refine find?_filter_kept seeded.found (List.any_eq_true.mpr ⟨kept, remains, ?_⟩)
    rw [decide_eq_true_eq, same, key]
  logged := by
    obtain ⟨entry, inside, owner⟩ := seeded.logged
    obtain ⟨line, listed, key, _⟩ := stored.entry inside
    obtain ⟨kept, remains, same⟩ := swept_keeps ran listed (auditLog_not_doomed line)
    refine ⟨entry, List.mem_filter.mpr ⟨inside, List.any_eq_true.mpr ⟨kept, remains, ?_⟩⟩, owner⟩
    rw [decide_eq_true_eq, same, key]

end Database

section Runs

variable [Sha256] [UuidCodec] {settings : DemoSettings} {session : String} {row : Workspace}
  {db next later : Database}

/-- A step lets the tables grow, or it is a sweep. -/
theorem TableStep.grows_or_sweeps (step : TableStep settings db next) :
    db.Grows next ∨ ∃ (Other : Table → Type) (world after : SprawlDatabase Other) (result : SweepResult),
      db.StoredIn world ∧ sweepDemoWorkspaces db.clock world = .ok (after, result) ∧
        next = db.remaining after := by
  cases step with
  | rotation write => exact Or.inl (Database.grows_apply write)
  | api write written => exact Or.inl (Database.grows_apiApply written)
  | job now statement executed =>
      left
      rw [Database.jobApply_performed executed]
      exact Database.grows_performed now statement
  | demo uuid4 result created =>
      left
      rw [← (Database.seedAll_eq_ok.mp (createDemoSession_eq_ok.mp created).1).2]
      exact Database.grows_pushAll _
  | passed elapsed =>
      exact Or.inl ⟨List.prefix_refl _, List.prefix_refl _, Nat.le_add_right _ _⟩
  | swept stored ran => exact Or.inr ⟨_, _, _, _, stored, ran, rfl⟩

theorem TableStep.seeded (step : TableStep settings db next) (seeded : db.Seeded session row) :
    next.Seeded session row := by
  obtain grows | ⟨_, _, _, _, stored, ran, rfl⟩ := step.grows_or_sweeps
  · exact seeded.grows grows
  · exact seeded.swept stored ran

theorem TableRun.seeded (run : TableRun settings db later) (seeded : db.Seeded session row) :
    later.Seeded session row := by
  induction run with
  | refl => exact seeded
  | tail _ step ih => exact step.seeded ih

/-- While an expired session is stored, the tables only grow. -/
theorem TableRun.blocked (run : TableRun settings db later) (seeded : db.Seeded session row)
    {expiresAt : Time} (expiry : row.expiresAt = some expiresAt) (expired : expiresAt < db.clock) :
    db.Grows later := by
  induction run with
  | refl => exact Database.Grows.same rfl rfl rfl
  | @tail middle last run step ih =>
      obtain grows | ⟨_, _, _, _, stored, ran, _⟩ := step.grows_or_sweeps
      · exact ih.trans grows
      · have unexpired := (TableRun.seeded run seeded).unexpired stored ran
        have overdue := Nat.lt_of_lt_of_le expired ih.clock
        simp [expiry, overdue] at unexpired

end Runs

/-- A seeded session is stored with its first audit entry. -/
theorem DemoIds.inserted_seeded [Sha256] {ids : DemoIds} {settings : DemoSettings}
    {db seeded : Database} (fresh : ∀ row ∈ db.workspaces, row.demoSessionId ≠ some ids.sessionId)
    (ran : Database.seedAll (ids.rows settings db.clock) db = .ok seeded) :
    seeded.Seeded ids.sessionId (ids.workspace settings db.clock) := by
  have pushed := (Database.seedAll_eq_ok.mp ran).2
  rw [rows_eq, List.foldl_append, front_planted] at pushed
  obtain ⟨first, rest, entries⟩ : ∃ first rest, ids.auditEntries = first :: rest := ⟨_, _, rfl⟩
  have owner := ids.auditEntries_workspaceId first (entries ▸ List.mem_cons_self)
  rw [entries, seedEntries, List.foldl_cons] at pushed
  rw [← pushed]
  have logged : (Database.push (ids.planted settings db)
      (.audit first genesisHash (computeHash genesisHash (first.payload db.clock)))).Seeded
        ids.sessionId (ids.workspace settings db.clock) :=
    { found := planted_workspace fresh
      logged := ⟨_, List.mem_append_right _ (List.mem_singleton.mpr rfl), owner⟩ }
  exact logged.grows (Database.grows_pushAll _)

/-- A demo session stays in every run of the system. After its expiry, every sweep raises and no
workspace is ever removed. -/
theorem demo_session_stays [Sha256] [UuidCodec] (settings : DemoSettings) (uuid4 : Nat → Uuid)
    {db seeded later : Database} {result : DemoSessionResult}
    (fresh : ∀ row ∈ db.workspaces, row.demoSessionId ≠ some result.sessionId)
    (created : createDemoSession settings uuid4 db = .ok (result, seeded))
    (run : TableRun settings seeded later) :
    getDemoSession result.sessionId later = some
      ⟨result.sessionId, result.workspaceId, later.clock < result.expiresAt, result.expiresAt⟩ ∧
    (result.expiresAt < later.clock →
      (∀ (Other : Table → Type) (world : SprawlDatabase Other), later.StoredIn world →
        ∃ violation, sweepDemoWorkspaces later.clock world = .error violation) ∧
      ∀ last, TableRun settings later last → later.workspaces <+: last.workspaces) := by
  obtain ⟨inserted, rfl⟩ := createDemoSession_eq_ok.mp created
  let row := (DemoIds.draw uuid4).workspace settings db.clock
  have stays : later.Seeded (DemoIds.draw uuid4).sessionId row :=
    run.seeded (DemoIds.inserted_seeded fresh inserted)
  have expiry : row.expiresAt = some (db.clock + settings.ttl) := rfl
  constructor
  · rw [getDemoSession, stays.found]
    rfl
  · intro expired
    constructor
    · intro Other world stored
      cases swept : sweepDemoWorkspaces later.clock world with
      | error violation => exact ⟨violation, rfl⟩
      | ok outcome =>
          have unexpired := stays.unexpired stored swept
          simp [expiry, expired] at unexpired
    · intro last rest
      exact (rest.blocked stays expiry expired).workspaces

/-- A session that is one hour overdue is still found, and the sweep of its world raises. -/
theorem demo_session_stays_overdue : ∃ (later : Database) (world : SprawlDatabase fun _ => Unit),
    later.StoredIn world ∧ getDemoSession "1" later = some ⟨"1", 2, false, 24⟩ ∧
      ∃ violation, sweepDemoWorkspaces later.clock world = .error violation := by
  let _ := prefixedDigest
  let _ := plainCodec
  let ids := DemoIds.draw (· + 1)
  let settings : DemoSettings := ⟨24, 1⟩
  obtain ⟨log, next, tables⟩ := DemoIds.entries_logged 0 genesisHash ids.auditEntries
    (ids.planted settings (Database.empty 0))
  let seeded := { ids.planted settings (Database.empty 0) with auditLog := log, nextAuditId := next }
  have inserted : Database.seedAll (ids.rows settings 0) (Database.empty 0) = .ok seeded :=
    (unused_first.inserted Database.empty_valid).trans (congrArg Except.ok tables)
  have created := createDemoSession_eq_ok.mpr ⟨inserted, rfl⟩
  have stays := demo_session_stays settings (· + 1)
    (fun row stored => absurd stored List.not_mem_nil) created
    (Relation.ReflTransGen.single (TableStep.passed 25))
  have valid : { seeded with clock := seeded.clock + 25 }.Valid :=
    { Database.empty_valid.seedAll inserted with }
  have overdue : 24 < 25 := by decide
  exact ⟨_, valid.world, valid.storedIn, stays.1, (stays.2 overdue).1 _ _ valid.storedIn⟩

end Sprawl
