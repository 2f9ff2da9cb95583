/-
This file proves what a new demo session brings into the database.
-/

import Mathlib.Data.List.FinRange
import Sprawl.Proof.DemoSeed

namespace Sprawl

namespace DemoIds

variable [Sha256] (ids : DemoIds) (settings : DemoSettings) (db : Database)

/-- The tables with the rows of a demo session, before its audit entries. -/
def planted : Database :=
  { db with
    workspaces := db.workspaces ++ [ids.workspace settings db.clock]
    secrets := db.secrets ++ [ids.secret db.clock]
    findings := db.findings ++ [ids.finding]
    graphNodes := db.graphNodes ++ ids.graphNodes
    graphEdges := db.graphEdges ++ ids.graphEdges
    severities := db.severities ++ [ids.severity db.clock]
    investigations := db.investigations ++ [ids.investigation db.clock]
    rotations := db.rotations ++ [ids.rotation settings db.clock]
    rotationSteps := db.rotationSteps ++ ids.rotationSteps }

/-- The rows before the audit entries. -/
def front : List SeedRow :=
  [.workspace (ids.workspace settings db.clock), .secret (ids.secret db.clock),
      .finding ids.finding] ++
    ids.graphNodes.map .graphNode ++ ids.graphEdges.map .graphEdge ++
    [.severity (ids.severity db.clock), .investigation (ids.investigation db.clock),
      .rotation (ids.rotation settings db.clock)] ++
    ids.rotationSteps.map .rotationStep

theorem front_planted : (ids.front settings db).foldl Database.push db = ids.planted settings db := by
  simp [front, planted, graphNodes, graphEdges, rotationSteps, Database.push]

/-- The identifiers of a new session are unused in their tables. -/
structure Unused : Prop where
  workspace : ids.workspaceId ∉ db.workspaces.map (·.id)
  secret : ids.secretId ∉ db.secrets.map (·.id)
  finding : ids.findingId ∉ db.findings.map (·.id)
  nodesApart : Function.Injective ids.nodes
  nodes : ∀ index, ids.nodes index ∉ db.graphNodes.map (·.id)
  edgesApart : Function.Injective ids.edges
  edges : ∀ index, ids.edges index ∉ db.graphEdges.map (·.id)
  severity : ids.severityId ∉ db.severities.map (·.id)
  investigation : ids.investigationId ∉ db.investigations.map (·.id)
  rotation : ids.rotationId ∉ db.rotations.map (·.id)
  stepsApart : Function.Injective ids.steps
  steps : ∀ index, ids.steps index ∉ db.rotationSteps.map (·.id)

end DemoIds

namespace Database

variable {db mid : Database}

theorem seedAll_cons {row : SeedRow} (accepted : db.accepts row = true) (rest : List SeedRow) :
    seedAll (row :: rest) db = seedAll rest (db.push row) :=
  if_pos accepted

theorem seedAll_append {first : List SeedRow} (ran : seedAll first db = .ok mid)
    (second : List SeedRow) : seedAll (first ++ second) db = seedAll second mid := by
  induction first generalizing db with
  | nil =>
      obtain rfl := Except.ok.inj ran
      rfl
  | cons row rest ih =>
      rw [seedAll] at ran
      rw [List.cons_append, seedAll]
      split at ran
      · next accepted => rw [if_pos accepted, ih ran]
      · cases ran

/-- Rows of one kind are inserted when each leaves the rest insertable. -/
theorem seedAll_family {ρ : Type} {row : ρ → SeedRow} (allowed : Database → List ρ → Prop)
    (insert : ∀ db first rest, allowed db (first :: rest) →
      db.accepts (row first) = true ∧ allowed (db.push (row first)) rest)
    {rows : List ρ} (given : allowed db rows) :
    seedAll (rows.map row) db = .ok ((rows.map row).foldl push db) := by
  induction rows generalizing db with
  | nil => rfl
  | cons first rest ih =>
      obtain ⟨accepted, later⟩ := insert db first rest given
      rw [List.map_cons, seedAll_cons accepted, List.foldl_cons]
      exact ih later

/-- The keys of a table with more rows are unique when the new ones are. -/
theorem nodup_map_append {ρ : Type} {key : ρ → Uuid} {table rows : List ρ} {count : Nat}
    {ids : Fin count → Uuid} (named : rows.map key = List.ofFn ids) (nodup : (table.map key).Nodup) :
    ((table ++ rows).map key).Nodup ↔
      Function.Injective ids ∧ ∀ index, ids index ∉ table.map key := by
  rw [List.map_append, named, List.nodup_append', List.nodup_ofFn, List.disjoint_right]
  simp [nodup]

/-- The first of some rows with unique keys has a new key. -/
theorem head_unused {ρ α : Type} {key : ρ → α} {table rest : List ρ} {first : ρ}
    (apart : ((table ++ first :: rest).map key).Nodup) : key first ∉ table.map key := by
  rw [List.map_append, List.nodup_append'] at apart
  exact fun inside => apart.2.2 inside (List.mem_map_of_mem List.mem_cons_self)

theorem seedAll_nodes {nodes : List GraphNode} (apart : ((db.graphNodes ++ nodes).map (·.id)).Nodup)
    (owned : ∀ node ∈ nodes, db.hasOwners node.workspaceId node.secretId = true) :
    seedAll (nodes.map .graphNode) db = .ok ((nodes.map .graphNode).foldl push db) := by
  refine seedAll_family (fun db nodes => ((db.graphNodes ++ nodes).map (·.id)).Nodup ∧
    ∀ node ∈ nodes, db.hasOwners node.workspaceId node.secretId = true) ?_ ⟨apart, owned⟩
  intro db first rest given
  obtain ⟨apart, owned⟩ := given
  rw [List.forall_mem_cons] at owned
  refine ⟨?_, by simpa [push] using apart, owned.2⟩
  have unused := head_unused apart
  simpa [accepts, owned.1] using unused

theorem seedAll_edges {edges : List GraphEdge} (apart : ((db.graphEdges ++ edges).map (·.id)).Nodup)
    (owned : ∀ edge ∈ edges, db.hasOwners edge.workspaceId edge.secretId = true)
    (sources : References edges (·.srcNodeId) (db.graphNodes.map (·.id)))
    (targets : References edges (·.dstNodeId) (db.graphNodes.map (·.id))) :
    seedAll (edges.map .graphEdge) db = .ok ((edges.map .graphEdge).foldl push db) := by
  refine seedAll_family (fun db edges => ((db.graphEdges ++ edges).map (·.id)).Nodup ∧
    (∀ edge ∈ edges, db.hasOwners edge.workspaceId edge.secretId = true) ∧
    References edges (·.srcNodeId) (db.graphNodes.map (·.id)) ∧
    References edges (·.dstNodeId) (db.graphNodes.map (·.id))) ?_ ⟨apart, owned, sources, targets⟩
  intro db first rest given
  obtain ⟨apart, owned, sources, targets⟩ := given
  rw [References, List.forall_mem_cons] at sources targets
  rw [List.forall_mem_cons] at owned
  refine ⟨?_, by simpa [push] using apart, owned.2, sources.2, targets.2⟩
  have unused := head_unused apart
  rw [accepts, owned.1, List.contains_iff_mem.mpr sources.1, List.contains_iff_mem.mpr targets.1]
  simpa using unused

theorem seedAll_steps {steps : List StepRecord}
    (apart : ((db.rotationSteps ++ steps).map (·.id)).Nodup)
    (indexes : ((db.rotationSteps ++ steps).map fun step => (step.rotationId, step.idx)).Nodup)
    (owned : ∀ step ∈ steps, db.hasWorkspace step.workspaceId = true)
    (ofRotations : References steps (·.rotationId) (db.rotations.map (·.id))) :
    seedAll (steps.map .rotationStep) db = .ok ((steps.map .rotationStep).foldl push db) := by
  refine seedAll_family (fun db steps => ((db.rotationSteps ++ steps).map (·.id)).Nodup ∧
    ((db.rotationSteps ++ steps).map fun step => (step.rotationId, step.idx)).Nodup ∧
    (∀ step ∈ steps, db.hasWorkspace step.workspaceId = true) ∧
    References steps (·.rotationId) (db.rotations.map (·.id))) ?_ ⟨apart, indexes, owned, ofRotations⟩
  intro db first rest given
  obtain ⟨apart, indexes, owned, ofRotations⟩ := given
  rw [References, List.forall_mem_cons] at ofRotations
  rw [List.forall_mem_cons] at owned
  refine ⟨?_, by simpa [push] using apart, by simpa [push] using indexes, owned.2, ofRotations.2⟩
  have unused := head_unused apart
  have unindexed := head_unused indexes
  rw [accepts, owned.1, List.contains_iff_mem.mpr ofRotations.1]
  simp only [List.mem_map, Prod.mk.injEq, not_exists, not_and] at unused unindexed
  simpa using ⟨unused, unindexed⟩

/-- An insert leaves the owners of other rows there. -/
theorem hasOwners_pushAll {workspaceId secretId : Uuid}
    (owners : db.hasOwners workspaceId secretId = true) (rows : List SeedRow) :
    (rows.foldl push db).hasOwners workspaceId secretId = true := by
  induction rows generalizing db with
  | nil => exact owners
  | cons row rest ih =>
      refine ih ?_
      rw [hasOwners_iff] at owners ⊢
      obtain ⟨workspace, secret⟩ := owners
      cases row <;> simp only [push, List.map_append, List.mem_append] <;>
        exact ⟨by simp [workspace], by simp [secret]⟩

/-- Entries of a workspace that is there are inserted. -/
theorem seedAll_entries [Sha256] {now : Time} {entries : List AuditEntry}
    (owned : ∀ entry ∈ entries, db.hasWorkspace entry.workspaceId = true) (prev : String) :
    seedAll (DemoIds.seedEntries now prev entries) db =
      .ok ((DemoIds.seedEntries now prev entries).foldl push db) := by
  induction entries generalizing db prev with
  | nil => rfl
  | cons entry rest ih =>
      rw [List.forall_mem_cons] at owned
      let row := SeedRow.audit entry prev (computeHash prev (entry.payload now))
      have accepted : db.accepts row = true := owned.1
      have later : ∀ entry ∈ rest, (db.push row).hasWorkspace entry.workspaceId = true := owned.2
      rw [DemoIds.seedEntries, seedAll_cons accepted, List.foldl_cons]
      exact ih later _

end Database

namespace DemoIds

variable {ids : DemoIds} {settings : DemoSettings} {db written : Database} {now : Time}

theorem graphEdges_ids : ids.graphEdges.map (·.id) = List.ofFn ids.edges := rfl

theorem rotationSteps_ids : ids.rotationSteps.map (·.id) = List.ofFn ids.steps := rfl

theorem workspace_accepted (unused : ids.workspaceId ∉ db.workspaces.map (·.id)) :
    db.accepts (.workspace (ids.workspace settings now)) = true := by
  rw [Database.accepts, Bool.not_eq_true', ← Bool.not_eq_true, Database.hasWorkspace_iff]
  exact unused

theorem severity_accepted (unused : ids.severityId ∉ db.severities.map (·.id))
    (owners : db.hasOwners ids.workspaceId ids.secretId = true) :
    db.accepts (.severity (ids.severity now)) = true := by
  simp only [Database.accepts, severity, owners, Bool.and_true, Bool.not_eq_true',
    ← Bool.not_eq_true, List.contains_iff_mem]
  exact unused

theorem investigation_accepted (unused : ids.investigationId ∉ db.investigations.map (·.id))
    (owners : db.hasOwners ids.workspaceId ids.secretId = true) :
    db.accepts (.investigation (ids.investigation now)) = true := by
  simp only [← List.contains_iff_mem, Bool.not_eq_true] at unused
  simp only [Database.accepts, investigation, owners, unused]
  rfl

theorem rotation_accepted (unused : ids.rotationId ∉ db.rotations.map (·.id))
    (owners : db.hasOwners ids.workspaceId ids.secretId = true)
    (first : ∀ old ∈ db.rotations, old.secretId ≠ ids.secretId) :
    db.accepts (.rotation (ids.rotation settings now)) = true := by
  simp only [← List.contains_iff_mem, Bool.not_eq_true] at unused
  simp only [Database.accepts, rotation, owners, unused]
  simp +contextual [first]

theorem edges_inserted (apart : ((db.graphEdges ++ ids.graphEdges).map (·.id)).Nodup)
    (owners : db.hasOwners ids.workspaceId ids.secretId = true)
    (drawn : ∀ index, ids.nodes index ∈ db.graphNodes.map (·.id)) :
    Database.seedAll (ids.graphEdges.map .graphEdge) db =
      .ok ((ids.graphEdges.map .graphEdge).foldl Database.push db) := by
  refine Database.seedAll_edges apart (by simp [graphEdges, edge, owners]) ?_ ?_
  all_goals
    simp only [References, graphEdges, edge, List.forall_mem_cons, drawn]
    simp

theorem steps_inserted (apart : ((db.rotationSteps ++ ids.rotationSteps).map (·.id)).Nodup)
    (owned : db.hasWorkspace ids.workspaceId = true)
    (proposed : ids.rotationId ∈ db.rotations.map (·.id))
    (indexes : (db.rotationSteps.map fun step => (step.rotationId, step.idx)).Nodup)
    (first : ∀ old ∈ db.rotationSteps, old.rotationId ≠ ids.rotationId) :
    Database.seedAll (ids.rotationSteps.map .rotationStep) db =
      .ok ((ids.rotationSteps.map .rotationStep).foldl Database.push db) := by
  refine Database.seedAll_steps apart ?_ (by simp [rotationSteps, step, owned]) ?_
  · rw [List.map_append, List.nodup_append']
    refine ⟨indexes, by simp [rotationSteps, step], ?_⟩
    intro index old new
    obtain ⟨row, stored, rfl⟩ := List.mem_map.mp old
    obtain ⟨added, inside, same⟩ := List.mem_map.mp new
    have owner : ∀ step ∈ ids.rotationSteps, step.rotationId = ids.rotationId := by
      simp [rotationSteps, step]
    exact first row stored ((Prod.mk.inj same).1.symm.trans (owner added inside))
  · simp only [References, rotationSteps, step, List.forall_mem_cons, proposed]
    simp

variable [Sha256]

theorem graphNodes_ids : ids.graphNodes.map (·.id) = List.ofFn ids.nodes := rfl

theorem rows_eq : ids.rows settings db.clock =
    ids.front settings db ++ seedEntries db.clock genesisHash ids.auditEntries := rfl

theorem secret_accepted (unused : ids.secretId ∉ db.secrets.map (·.id))
    (owned : db.hasWorkspace ids.workspaceId = true)
    (first : ∀ old ∈ db.secrets, old.workspaceId ≠ ids.workspaceId) :
    db.accepts (.secret (ids.secret now)) = true := by
  have unknown : db.hasSecret ids.secretId = false := by
    rw [← Bool.not_eq_true, Database.hasSecret_iff]
    exact unused
  simp only [Database.accepts, secret, unknown, owned]
  simp +contextual [first]

theorem finding_accepted (unused : ids.findingId ∉ db.findings.map (·.id))
    (owners : db.hasOwners ids.workspaceId ids.secretId = true) :
    db.accepts (.finding ids.finding) = true := by
  obtain ⟨owned, known⟩ := Bool.and_eq_true_iff.mp owners
  simp only [← List.contains_iff_mem, Bool.not_eq_true] at unused
  simp only [Database.accepts, finding, unused, owned, Option.all_some, known]
  rfl

theorem nodes_inserted (apart : ((db.graphNodes ++ ids.graphNodes).map (·.id)).Nodup)
    (owners : db.hasOwners ids.workspaceId ids.secretId = true) :
    Database.seedAll (ids.graphNodes.map .graphNode) db =
      .ok ((ids.graphNodes.map .graphNode).foldl Database.push db) :=
  Database.seedAll_nodes apart (by simp [graphNodes, node, owners])

/-- The rows of a session with new identifiers are inserted. -/
theorem Unused.front_inserted (unused : ids.Unused db) (valid : db.Valid) :
    Database.seedAll (ids.front settings db) db = .ok (ids.planted settings db) := by
  have newSecrets : ∀ old ∈ db.secrets, old.workspaceId ≠ ids.workspaceId :=
    fun old stored same => unused.workspace (same ▸ valid.secretsOwned old stored)
  have newRotations : ∀ old ∈ db.rotations, old.secretId ≠ ids.secretId :=
    fun old stored same => unused.secret (same ▸ valid.rotationsOfSecrets old stored)
  have newSteps : ∀ old ∈ db.rotationSteps, old.rotationId ≠ ids.rotationId :=
    fun old stored same => unused.rotation (same ▸ valid.stepsOfRotations old stored)
  let opened := db.push (.workspace (ids.workspace settings db.clock))
  have owned : opened.hasWorkspace ids.workspaceId = true := by
    simp [opened, Database.hasWorkspace, Database.push, DemoIds.workspace]
  let kept := opened.push (.secret (ids.secret db.clock))
  have owners : kept.hasOwners ids.workspaceId ids.secretId = true := by
    have stored : kept.hasSecret ids.secretId = true := by
      simp [kept, Database.hasSecret, Database.push, DemoIds.secret]
    rw [Database.hasOwners, stored, Bool.and_true]
    exact owned
  let found := kept.push (.finding ids.finding)
  have foundOwners : found.hasOwners ids.workspaceId ids.secretId = true := owners
  let drawn := (ids.graphNodes.map SeedRow.graphNode).foldl Database.push found
  let linked := (ids.graphEdges.map SeedRow.graphEdge).foldl Database.push drawn
  have drawnOwners : drawn.hasOwners ids.workspaceId ids.secretId = true :=
    Database.hasOwners_pushAll foundOwners (ids.graphNodes.map .graphNode)
  have linkedOwners : linked.hasOwners ids.workspaceId ids.secretId = true :=
    Database.hasOwners_pushAll drawnOwners (ids.graphEdges.map .graphEdge)
  let rated := linked.push (.severity (ids.severity db.clock))
  let investigated := rated.push (.investigation (ids.investigation db.clock))
  let proposed := investigated.push (.rotation (ids.rotation settings db.clock))
  have nodes : Database.seedAll (ids.graphNodes.map .graphNode) found = .ok drawn :=
    nodes_inserted ((Database.nodup_map_append graphNodes_ids valid.nodesUnique).mpr
      ⟨unused.nodesApart, unused.nodes⟩) foundOwners
  have edgesApart : ((drawn.graphEdges ++ ids.graphEdges).map (·.id)).Nodup := by
    have table : drawn.graphEdges = db.graphEdges := rfl
    rw [table, Database.nodup_map_append graphEdges_ids valid.edgesUnique]
    exact ⟨unused.edgesApart, unused.edges⟩
  have edges : Database.seedAll (ids.graphEdges.map .graphEdge) drawn = .ok linked := by
    refine edges_inserted edgesApart drawnOwners ?_
    intro index
    have among : ids.nodes index ∈ ids.graphNodes.map (·.id) := by
      rw [graphNodes_ids]
      exact List.mem_ofFn.mpr ⟨index, rfl⟩
    have table : drawn.graphNodes = db.graphNodes ++ ids.graphNodes := by
      simp [drawn, found, kept, opened, Database.push, graphNodes]
    rw [table, List.map_append]
    exact List.mem_append_right _ among
  have steps : Database.seedAll (ids.rotationSteps.map .rotationStep) proposed =
      .ok ((ids.rotationSteps.map .rotationStep).foldl Database.push proposed) := by
    have olds : proposed.rotationSteps = db.rotationSteps := rfl
    have workspaces : proposed.workspaces = linked.workspaces := rfl
    have rotations : proposed.rotations = db.rotations ++ [ids.rotation settings db.clock] := rfl
    refine steps_inserted ?_ ?_ ?_ ?_ ?_
    · rw [olds, Database.nodup_map_append rotationSteps_ids valid.stepsUnique]
      exact ⟨unused.stepsApart, unused.steps⟩
    · rw [Database.hasWorkspace_iff, workspaces]
      exact (Database.hasOwners_iff.mp linkedOwners).1
    · rw [rotations, List.map_append]
      exact List.mem_append_right _ (List.mem_singleton.mpr rfl)
    · rw [olds]
      exact valid.stepIndexesUnique
    · rw [olds]
      exact newSteps
  have ordered : ids.front settings db =
      .workspace (ids.workspace settings db.clock) :: .secret (ids.secret db.clock) ::
        .finding ids.finding :: (ids.graphNodes.map .graphNode ++ (ids.graphEdges.map .graphEdge ++
          (.severity (ids.severity db.clock) :: .investigation (ids.investigation db.clock) ::
            .rotation (ids.rotation settings db.clock) :: ids.rotationSteps.map .rotationStep))) := by
    simp [front]
  have secret : opened.accepts (.secret (ids.secret db.clock)) = true :=
    secret_accepted unused.secret owned newSecrets
  have finding : kept.accepts (.finding ids.finding) = true :=
    finding_accepted unused.finding owners
  have severity : linked.accepts (.severity (ids.severity db.clock)) = true :=
    severity_accepted unused.severity linkedOwners
  have investigation : rated.accepts (.investigation (ids.investigation db.clock)) = true :=
    investigation_accepted unused.investigation linkedOwners
  have rotation : investigated.accepts (.rotation (ids.rotation settings db.clock)) = true :=
    rotation_accepted unused.rotation linkedOwners newRotations
  rw [ordered, Database.seedAll_cons (workspace_accepted unused.workspace),
    Database.seedAll_cons secret, Database.seedAll_cons finding, Database.seedAll_append nodes,
    Database.seedAll_append edges,
    Database.seedAll_cons severity, Database.seedAll_cons investigation,
    Database.seedAll_cons rotation, steps, ← front_planted, ordered]
  simp only [List.foldl_cons, List.foldl_append]
  rfl

/-- The audit entries come into the log alone. -/
theorem entries_logged (now : Time) (prev : String) (entries : List AuditEntry) (db : Database) :
    ∃ log next, (seedEntries now prev entries).foldl Database.push db =
      { db with auditLog := log, nextAuditId := next } := by
  induction entries generalizing db prev with
  | nil => exact ⟨db.auditLog, db.nextAuditId, rfl⟩
  | cons entry rest ih => exact ih _ _

theorem Unused.inserted (unused : ids.Unused db) (valid : db.Valid) :
    Database.seedAll (ids.rows settings db.clock) db =
      .ok ((seedEntries db.clock genesisHash ids.auditEntries).foldl Database.push
        (ids.planted settings db)) := by
  rw [rows_eq, Database.seedAll_append (unused.front_inserted valid)]
  refine Database.seedAll_entries ?_ _
  intro entry inside
  rw [ids.auditEntries_workspaceId entry inside, Database.hasWorkspace_iff, planted,
    List.map_append]
  exact List.mem_append_right _ (List.mem_singleton.mpr rfl)

/-- A session is created exactly when its identifiers are new. -/
theorem inserted_iff (valid : db.Valid) :
    Database.seedAll (ids.rows settings db.clock) db = .ok written ↔
      ids.Unused db ∧ (seedEntries db.clock genesisHash ids.auditEntries).foldl Database.push
        (ids.planted settings db) = written := by
  constructor
  · intro ran
    obtain ⟨_, pushed⟩ := Database.seedAll_eq_ok.mp ran
    rw [rows_eq, List.foldl_append, front_planted] at pushed
    refine ⟨?_, pushed⟩
    have after := valid.seedAll ran
    obtain ⟨log, next, logged⟩ :=
      entries_logged db.clock genesisHash ids.auditEntries (ids.planted settings db)
    rw [← pushed, logged] at after
    have nodes := (Database.nodup_map_append graphNodes_ids valid.nodesUnique).mp after.nodesUnique
    have edges := (Database.nodup_map_append graphEdges_ids valid.edgesUnique).mp after.edgesUnique
    have steps := (Database.nodup_map_append rotationSteps_ids valid.stepsUnique).mp after.stepsUnique
    exact {
      workspace := Database.head_unused after.workspacesUnique
      secret := Database.head_unused after.secretsUnique
      finding := Database.head_unused after.findingsUnique
      nodesApart := nodes.1
      nodes := nodes.2
      edgesApart := edges.1
      edges := edges.2
      severity := Database.head_unused after.severitiesUnique
      investigation := Database.head_unused after.investigationsUnique
      rotation := Database.head_unused after.rotationsUnique
      stepsApart := steps.1
      steps := steps.2 }
  · intro given
    obtain ⟨unused, rfl⟩ := given
    exact unused.inserted valid

/-- The seeding loop of a committed session writes the rows that `audit` would write. -/
theorem inserted_audited (digests : ∀ text, Sha256.hexdigest text ≠ "") (valid : db.Valid)
    (ran : Database.seedAll (ids.rows settings db.clock) db = .ok written) :
    written = ids.auditEntries.foldl Database.audit (ids.planted settings db) := by
  obtain ⟨unused, rfl⟩ := (inserted_iff valid).mp ran
  have first : latestHash ids.workspaceId (ids.planted settings db).auditLog = genesisHash :=
    latestHash_none fun row stored same => unused.workspace (same ▸ valid.auditOwned row stored)
  exact foldl_seedEntries digests ids.auditEntries_workspaceId first valid.auditSequence

/-- The steps of the seeded rotation as the schema takes them. -/
def specs (ids : DemoIds) : List StepSpec :=
  ids.rotationSteps.map fun row =>
    { id := row.id, idx := row.idx, kind := row.kind, target := row.step.target
      compensation := row.step.compensation, requiresConfirmation := row.requiresConfirmation }

/-- The seeded rotation is a proposal with four steps. -/
def proposal (ids : DemoIds) (settings : DemoSettings) (now : Time)
    (apart : Function.Injective ids.steps) : Proposal where
  workspace := ids.workspace settings now
  id := ids.rotationId
  secretId := ids.secretId
  plan := (ids.rotation settings now).rotation.plan
  coverage := (ids.rotation settings now).rotation.coverage
  planExpiresAt := some (now + planLifetime settings.hour)
  createdAt := now
  steps := ids.specs
  idUnique := by
    have named : ids.specs.map (·.id) = List.ofFn ids.steps := rfl
    rw [named, List.nodup_ofFn]
    exact apart
  idxUnique := by simp [specs, rotationSteps, step]

theorem audited_tables (entries : List AuditEntry) (db : Database) :
    ∃ log next, entries.foldl Database.audit db = { db with auditLog := log, nextAuditId := next } := by
  induction entries generalizing db with
  | nil => exact ⟨db.auditLog, db.nextAuditId, rfl⟩
  | cons entry rest ih => exact ih _

/-- A new workspace has one pending rotation. -/
theorem planted_pending (unused : ids.Unused db) (valid : db.Valid) :
    (ids.planted settings db).answer (.pendingRotations ids.workspaceId) =
      [(ids.proposal settings db.clock unused.stepsApart).rotation] := by
  have others : (db.rotations.filter fun row =>
      row.workspaceId = ids.workspaceId && row.status = .pendingApproval) = [] := by
    rw [List.filter_eq_nil_iff]
    intro row stored
    have owned := valid.rotationsOwned row stored
    have different : row.workspaceId ≠ ids.workspaceId := fun same => unused.workspace (same ▸ owned)
    simp [different]
  have own : [ids.rotation settings db.clock].filter (fun row =>
      row.workspaceId = ids.workspaceId && row.status = .pendingApproval) =
        [ids.rotation settings db.clock] := by
    simp [rotation]
  rw [Database.answer, planted, List.filter_append, others, own, List.nil_append]
  rfl

/-- The engine reads the seeded steps in their order. -/
theorem planted_steps (unused : ids.Unused db) (valid : db.Valid) :
    (ids.planted settings db).answer (.steps ids.rotationId) =
      (ids.proposal settings db.clock unused.stepsApart).rows.steps := by
  have others : db.rotationSteps.filter (·.rotationId = ids.rotationId) = [] := by
    rw [List.filter_eq_nil_iff]
    intro row stored
    have owned := valid.stepsOfRotations row stored
    have different : row.rotationId ≠ ids.rotationId := fun same => unused.rotation (same ▸ owned)
    simp [different]
  have own : ids.rotationSteps.filter (·.rotationId = ids.rotationId) = ids.rotationSteps := by
    simp [rotationSteps, step]
  have sorted : ids.rotationSteps.mergeSort (fun first second => decide (first.idx ≤ second.idx)) =
      ids.rotationSteps := by
    refine List.mergeSort_of_pairwise ?_
    simp [rotationSteps, step]
  rw [Database.answer, Database.stepsOf, planted, List.filter_append, others, own, List.nil_append,
    sorted]
  rfl

/-- A session with a new identifier is found by it. -/
theorem planted_workspace (fresh : ∀ row ∈ db.workspaces, row.demoSessionId ≠ some ids.sessionId) :
    (ids.planted settings db).demoWorkspace ids.sessionId = some (ids.workspace settings db.clock) := by
  have others : (db.workspaces.find? fun row =>
      row.demoSessionId = some ids.sessionId && row.kind = .demo) = none := by
    rw [List.find?_eq_none]
    intro row stored
    simp [fresh row stored]
  rw [Database.demoWorkspace, planted, List.find?_append, others, Option.none_or]
  simp [workspace]

/-- The audit log grows without a look at the other tables. -/
theorem audited_log (entries : List AuditEntry) {first second : Database}
    (log : first.auditLog = second.auditLog) (next : first.nextAuditId = second.nextAuditId)
    (clock : first.clock = second.clock) :
    (entries.foldl Database.audit first).auditLog =
      (entries.foldl Database.audit second).auditLog := by
  induction entries generalizing first second with
  | nil => exact log
  | cons entry rest ih =>
      refine ih ?_ (congrArg (· + 1) next) clock
      simp only [Database.audit, log, next, clock]

end DemoIds

theorem createDemoSession_eq_ok [Sha256] {settings : DemoSettings} {uuid4 : Nat → Uuid}
    {db seeded : Database} {result : DemoSessionResult} :
    createDemoSession settings uuid4 db = .ok (result, seeded) ↔
      Database.seedAll ((DemoIds.draw uuid4).rows settings db.clock) db = .ok seeded ∧
        result = ⟨(DemoIds.draw uuid4).sessionId, (DemoIds.draw uuid4).workspaceId,
          demoTokenClaims (DemoIds.draw uuid4).workspaceId, db.clock + settings.ttl⟩ := by
  rw [createDemoSession]
  cases Database.seedAll ((DemoIds.draw uuid4).rows settings db.clock) db with
  | error refused => simp [Except.map]
  | ok written => simp [Except.map, and_comm, eq_comm]

/-- A session that is found is reported by the route. -/
theorem checkSession_eq {sessionId : String} {db : Database} {info : DemoSessionInfo}
    (found : getDemoSession sessionId db = some info) :
    checkSession sessionId db = .success 200 (okEnvelope info.out) := by
  rw [checkSession, found]

/-- A demo session is created exactly when its identifiers are new, and the route answers with an
error and keeps the rows otherwise. The seed keeps the schema, leaves the other workspaces alone,
continues the audit log as `audit` would, and is one proposal for the engine. -/
theorem demo_session_seeded [Sha256] (digests : ∀ text, Sha256.hexdigest text ≠ "")
    (settings : DemoSettings) (uuid4 : Nat → Uuid) (db : Database) (valid : db.Valid) :
    ((∃ created, createDemoSession settings uuid4 db = .ok created) ↔
      (DemoIds.draw uuid4).Unused db) ∧
    (¬ (DemoIds.draw uuid4).Unused db →
      createSession settings uuid4 db = (.failure internalError, db)) ∧
    ∀ result seeded, createDemoSession settings uuid4 db = .ok (result, seeded) →
      createSession settings uuid4 db = (.success 201 (okEnvelope result.out), seeded) ∧
      seeded.Valid ∧
      (∀ other, other ≠ result.workspaceId → seeded.rowsOf other = db.rowsOf other) ∧
      seeded.auditLog = ((DemoIds.draw uuid4).auditEntries.foldl Database.audit db).auditLog ∧
      (∃ proposal : Proposal, proposal.workspace.id = result.workspaceId ∧
        seeded.answer (.pendingRotations result.workspaceId) = [proposal.rotation] ∧
        seeded.answer (.steps proposal.id) = proposal.rows.steps ∧
        proposal.steps.map (·.kind) = [.provision, .distribute, .verify, .revoke]) ∧
      ((∀ row ∈ db.workspaces, row.demoSessionId ≠ some result.sessionId) →
        let info : DemoSessionInfo :=
          ⟨result.sessionId, result.workspaceId, 0 < settings.ttl, result.expiresAt⟩
        getDemoSession result.sessionId seeded = some info ∧
          checkSession result.sessionId seeded = .success 200 (okEnvelope info.out)) := by
  let ids := DemoIds.draw uuid4
  have created : (∃ created, createDemoSession settings uuid4 db = .ok created) ↔
      ids.Unused db := by
    constructor
    · intro ⟨created, ran⟩
      exact ((DemoIds.inserted_iff valid).mp (createDemoSession_eq_ok.mp ran).1).1
    · intro unused
      exact ⟨_, createDemoSession_eq_ok.mpr ⟨unused.inserted valid, rfl⟩⟩
  refine ⟨created, ?_, ?_⟩
  · intro used
    rw [createSession]
    cases ran : createDemoSession settings uuid4 db with
    | error refused => rfl
    | ok result => exact absurd (created.mp ⟨result, ran⟩) used
  · intro result seeded ran
    have responded : createSession settings uuid4 db =
        (.success 201 (okEnvelope result.out), seeded) := by
      rw [createSession, ran]
    obtain ⟨inserted, rfl⟩ := createDemoSession_eq_ok.mp ran
    obtain ⟨unused, pushed⟩ := (DemoIds.inserted_iff valid).mp inserted
    have audited := DemoIds.inserted_audited digests valid inserted
    obtain ⟨log, next, tables⟩ :=
      DemoIds.audited_tables ids.auditEntries (ids.planted settings db)
    refine ⟨responded, valid.seedAll inserted, ?_, ?_,
      ⟨ids.proposal settings db.clock unused.stepsApart, rfl, ?_, ?_, rfl⟩, ?_⟩
    · intro other different
      rw [← (Database.seedAll_eq_ok.mp inserted).2]
      exact Database.rowsOf_pushAll fun row inside same =>
        different (same.symm.trans (ids.rows_within settings db.clock row inside))
    · rw [audited]
      exact DemoIds.audited_log ids.auditEntries rfl rfl rfl
    · rw [audited, tables]
      exact DemoIds.planted_pending unused valid
    · rw [audited, tables]
      exact DemoIds.planted_steps unused valid
    · intro fresh info
      have stored : ({ ids.planted settings db with auditLog := log, nextAuditId := next }
          : Database).demoWorkspace ids.sessionId = some (ids.workspace settings db.clock) :=
        DemoIds.planted_workspace fresh
      have found : getDemoSession ids.sessionId seeded = some info := by
        rw [audited, tables, getDemoSession, stored]
        simp [DemoIds.workspace, DemoIds.planted, ids, info]
      exact ⟨found, checkSession_eq found⟩

/-- Every identifier is new in an empty database. -/
theorem unused_first : (DemoIds.draw (· + 1)).Unused (Database.empty 0) := by
  refine ⟨?_, ?_, ?_, ?_, ?_, ?_, ?_, ?_, ?_, ?_, ?_, ?_⟩
  case refine_4 | refine_6 | refine_11 =>
    intro first second same
    have values := Nat.add_right_cancel same
    exact Fin.ext (Nat.add_left_cancel values)
  all_goals simp [Database.empty]

/-- A digest that is never empty, as hexadecimal digests are. -/
abbrev prefixedDigest : Sha256 where
  hexdigest text := "#" ++ text

theorem prefixedDigest_present (text : String) : prefixedDigest.hexdigest text ≠ "" := by
  change "#" ++ text ≠ ""
  intro empty
  have characters := congrArg String.length empty
  rw [String.length_append] at characters
  exact absurd characters (by simp)

/-- Higher identifiers are new beside another workspace. -/
theorem unused_beside : (DemoIds.draw (· + 10)).Unused (tenant 1 2 3) := by
  refine ⟨?_, ?_, ?_, ?_, ?_, ?_, ?_, ?_, ?_, ?_, ?_, ?_⟩
  case refine_4 | refine_6 | refine_11 =>
    intro first second same
    have values := Nat.add_right_cancel same
    exact Fin.ext (Nat.add_left_cancel values)
  all_goals simp [tenant, Database.empty, DemoIds.draw, plainSecret]

/-- A session is created and alive beside a workspace that keeps its rows. The identifier of that
workspace is refused. -/
theorem demo_session_seeded_beside : ∃ result seeded,
    @createDemoSession prefixedDigest ⟨24, 1⟩ (· + 10) (tenant 1 2 3) = .ok (result, seeded) ∧
      seeded.Valid ∧ seeded.rowsOf 1 = (tenant 1 2 3).rowsOf 1 ∧
      getDemoSession "10" seeded = some ⟨"10", 11, true, 24⟩ ∧
      @createSession prefixedDigest ⟨24, 1⟩ id (tenant 1 2 3) =
        (.failure internalError, tenant 1 2 3) := by
  have seed := @demo_session_seeded prefixedDigest prefixedDigest_present ⟨24, 1⟩ (· + 10)
    (tenant 1 2 3) (tenant_valid 1 2 3)
  have taken := @demo_session_seeded prefixedDigest prefixedDigest_present ⟨24, 1⟩ id
    (tenant 1 2 3) (tenant_valid 1 2 3)
  obtain ⟨⟨result, seeded⟩, ran⟩ := seed.1.mpr unused_beside
  obtain ⟨_, named⟩ := (@createDemoSession_eq_ok prefixedDigest _ _ _ _ _).mp ran
  obtain ⟨_, keeps, others, _, _, alive⟩ := seed.2.2 result seeded ran
  refine ⟨result, seeded, ran, keeps, others 1 ?_, ?_, taken.2.1 ?_⟩
  · rw [named]
    decide
  · have info := alive (by simp [tenant])
    rw [named] at info
    exact info.1
  · intro unused
    exact unused.workspace (List.mem_singleton.mpr rfl)

end Sprawl
