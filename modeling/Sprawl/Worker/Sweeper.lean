/-
This file gives the foreign keys of the schema and the sweeper of the demo workspaces.
-/

import Sprawl.Referential.Deletion
import Sprawl.Rotation.Rows

namespace Sprawl

open Referential

inductive Table where
  | workspaces
  | users
  | memberships
  | connectors
  | githubInstallations
  | repos
  | scans
  | secrets
  | findings
  | graphNodes
  | graphEdges
  | severities
  | investigations
  | rotations
  | rotationSteps
  | auditLog
  | embeddings
  deriving DecidableEq, Repr

/-- The columns with foreign keys. -/
inductive Column where
  | workspaceId
  | userId
  | installationId
  | repoId
  | secretId
  | srcNodeId
  | dstNodeId
  | rotationId
  | createdBy
  | confirmedBy
  deriving DecidableEq, Repr

/-- `workspace_id uuid NOT NULL REFERENCES workspaces(id) ON DELETE CASCADE`. -/
def ownedByWorkspace : Reference Table Column := ⟨.workspaceId, .workspaces, .cascade, true⟩

/-- `secret_id uuid NOT NULL REFERENCES secrets(id) ON DELETE CASCADE`. -/
def ownedBySecret : Reference Table Column := ⟨.secretId, .secrets, .cascade, true⟩

/-- The `REFERENCES` clauses of the initial schema. -/
def foreignKeys : Table → List (Reference Table Column)
  | .workspaces => []
  | .users => []
  | .memberships => [⟨.userId, .users, .cascade, true⟩, ownedByWorkspace]
  | .connectors => [ownedByWorkspace]
  | .githubInstallations => [ownedByWorkspace]
  | .repos => [ownedByWorkspace, ⟨.installationId, .githubInstallations, .cascade, true⟩]
  | .scans => [ownedByWorkspace, ⟨.repoId, .repos, .cascade, true⟩]
  | .secrets => [ownedByWorkspace]
  | .findings =>
      [ownedByWorkspace, ⟨.secretId, .secrets, .setNull, false⟩, ⟨.repoId, .repos, .cascade, false⟩]
  | .graphNodes => [ownedByWorkspace, ownedBySecret]
  | .graphEdges =>
      [ownedByWorkspace, ownedBySecret, ⟨.srcNodeId, .graphNodes, .cascade, true⟩,
        ⟨.dstNodeId, .graphNodes, .cascade, true⟩]
  | .severities => [ownedByWorkspace, ownedBySecret]
  | .investigations => [ownedByWorkspace, ownedBySecret]
  | .rotations => [ownedByWorkspace, ownedBySecret, ⟨.createdBy, .users, .noAction, false⟩]
  | .rotationSteps =>
      [ownedByWorkspace, ⟨.rotationId, .rotations, .cascade, true⟩,
        ⟨.confirmedBy, .users, .noAction, false⟩]
  | .auditLog => [⟨.workspaceId, .workspaces, .noAction, true⟩]
  | .embeddings => [ownedByWorkspace, ⟨.secretId, .secrets, .cascade, false⟩]

/-- The tables in the order in which the migration creates them. -/
def createdTables : List Table :=
  [.workspaces, .users, .memberships, .connectors, .githubInstallations, .repos, .scans, .secrets,
    .findings, .graphNodes, .graphEdges, .severities, .investigations, .rotations, .rotationSteps,
    .auditLog, .embeddings]

def initialSchema : Schema Table Column where
  tables := createdTables
  references := foreignKeys
  complete := by intro table; cases table <;> decide
  earlier := by intro table; cases table <;> decide
  nullable := by intro table; cases table <;> decide

/-- The sweeper reads the kind and the expiry of a workspace, and no column of another table. -/
structure WorkspaceColumns (Other : Type) where
  kind : WorkspaceKind
  expiresAt : Option Time
  other : Other
  deriving DecidableEq, Repr

/-- The columns without foreign keys. -/
def Columns (Other : Table → Type) : Table → Type
  | .workspaces => WorkspaceColumns (Other .workspaces)
  | table => Other table

/-- A row of the database. A number stands for the pair of keys of a membership, to which nothing
refers. -/
abbrev StoredRow (Other : Table → Type) (table : Table) := Row Uuid Column (Columns Other table)

abbrev SprawlDatabase (Other : Table → Type) := Referential.Database initialSchema Uuid (Columns Other)

/-- `kind = 'demo' AND expires_at < now()`, where a missing expiry is not in the past. -/
def expiredDemo {Other : Table → Type} (now : Time) (row : StoredRow Other .workspaces) : Bool :=
  row.content.kind = .demo && row.content.expiresAt.any fun expiresAt => expiresAt < now

/-- The deletion names rows of `workspaces` only. -/
def sweptWorkspaces {Other : Table → Type} (now : Time) :
    (table : Table) → StoredRow Other table → Bool
  | .workspaces, row => expiredDemo now row
  | _, _ => false

structure SweepResult where
  deleted : Nat
  ids : List String
  deriving DecidableEq, Repr

/-- This is `sweep_demo_workspaces`. A violated foreign key rolls the transaction back. -/
def sweepDemoWorkspaces {Other : Table → Type} (now : Time) (database : SprawlDatabase Other) :
    Except (Violation Table Column) (SprawlDatabase Other × SweepResult) := do
  let remaining ← delete database (sweptWorkspaces now)
  let deletedIds := ((database.rows .workspaces).filter (expiredDemo now)).map
    fun row => toString row.id
  return (remaining, ⟨deletedIds.length, deletedIds⟩)

end Sprawl
