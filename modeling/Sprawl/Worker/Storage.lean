/-
This file stores the tables of the api under the schema, and gives the runs of the demo sessions
with their sweeper.
-/

import Mathlib.Logic.Relation
import Sprawl.Api.Demo
import Sprawl.Investigation.Job
import Sprawl.Worker.Sweeper

namespace Sprawl

open Referential

/-- The columns with foreign keys that a row sets. -/
def refers (columns : List (Column × Uuid)) (column : Column) : Option Uuid := columns.lookup column

/-- A row with no column besides its references. -/
abbrev BareRow := StoredRow fun _ => Unit

/-- A row of a table that belongs to a secret. -/
def ofSecret (id workspaceId secretId : Uuid) (columns : List (Column × Uuid)) :
    Row Uuid Column Unit where
  id := id
  reference := refers ([(.workspaceId, workspaceId), (.secretId, secretId)] ++ columns)
  content := ()

/-- The tables of the api as rows of the schema. The api keeps no other table here. -/
def Database.rowsIn (db : Database) : (table : Table) → List (BareRow table)
  | .workspaces => db.workspaces.map fun row => ⟨row.id, refers [], ⟨row.kind, row.expiresAt, ()⟩⟩
  | .users => db.users.map fun id => ⟨id, refers [], ()⟩
  | .secrets => db.secrets.map fun row => ⟨row.id, refers [(.workspaceId, row.workspaceId)], ()⟩
  | .findings => db.findings.map fun row =>
      ⟨row.id, refers ((.workspaceId, row.workspaceId) ::
        row.secretId.toList.map (.secretId, ·)), ()⟩
  | .graphNodes => db.graphNodes.map fun row => ofSecret row.id row.workspaceId row.secretId []
  | .graphEdges => db.graphEdges.map fun row =>
      ofSecret row.id row.workspaceId row.secretId
        [(.srcNodeId, row.srcNodeId), (.dstNodeId, row.dstNodeId)]
  | .severities => db.severities.map fun row => ofSecret row.id row.workspaceId row.secretId []
  | .investigations =>
      db.investigations.map fun row => ofSecret row.id row.workspaceId row.secretId []
  | .rotations => db.rotations.map fun row =>
      ofSecret row.id row.workspaceId row.secretId (row.createdBy.toList.map (.createdBy, ·))
  | .rotationSteps => db.rotationSteps.map fun row =>
      ⟨row.id, refers [(.workspaceId, row.workspaceId), (.rotationId, row.rotationId)], ()⟩
  | .auditLog => db.auditLog.map fun row =>
      ⟨row.id, refers [(.workspaceId, row.entry.workspaceId)], ()⟩
  | .memberships | .connectors | .githubInstallations | .repos | .scans | .embeddings => []

/-- The tables that the api keeps. -/
def apiTables : List Table :=
  [.workspaces, .users, .secrets, .findings, .graphNodes, .graphEdges, .severities,
    .investigations, .rotations, .rotationSteps, .auditLog]

variable {Other : Table → Type}

/-- The key and the references of a row, and what the sweeper reads of a workspace. -/
def bareRow : (table : Table) → StoredRow Other table → BareRow table
  | .workspaces, row => ⟨row.id, row.reference, ⟨row.content.kind, row.content.expiresAt, ()⟩⟩
  | .users, row | .memberships, row | .connectors, row | .githubInstallations, row
  | .repos, row | .scans, row | .secrets, row | .findings, row | .graphNodes, row
  | .graphEdges, row | .severities, row | .investigations, row | .rotations, row
  | .rotationSteps, row | .auditLog, row | .embeddings, row => ⟨row.id, row.reference, ()⟩

/-- The schema holds the tables of the api, and any rows in the others. -/
def Database.StoredIn (db : Database) (world : SprawlDatabase Other) : Prop :=
  ∀ table ∈ apiTables, (world.rows table).map (bareRow table) = db.rowsIn table

/-- The rows of the api that a deletion leaves. A finding loses the secret that is deleted. -/
def Database.remaining (db : Database) (world : SprawlDatabase Other) : Database :=
  let kept (table : Table) (id : Uuid) : Bool := (world.rows table).any (·.id = id)
  { db with
    users := db.users.filter (kept .users)
    workspaces := db.workspaces.filter (kept .workspaces ·.id)
    secrets := db.secrets.filter (kept .secrets ·.id)
    findings := (db.findings.filter (kept .findings ·.id)).map fun row =>
      { row with secretId := row.secretId.filter (kept .secrets) }
    investigations := db.investigations.filter (kept .investigations ·.id)
    graphNodes := db.graphNodes.filter (kept .graphNodes ·.id)
    graphEdges := db.graphEdges.filter (kept .graphEdges ·.id)
    severities := db.severities.filter (kept .severities ·.id)
    rotations := db.rotations.filter (kept .rotations ·.id)
    rotationSteps := db.rotationSteps.filter (kept .rotationSteps ·.id)
    auditLog := db.auditLog.filter (kept .auditLog ·.id) }

variable [Sha256] [UuidCodec]

/-- What happens to the tables: a statement of a program, a new demo session, the passing of time,
and a sweep that succeeds. A sweep that raises changes nothing. -/
inductive TableStep (settings : DemoSettings) : Database → Database → Prop
  | rotation {db : Database} (write : Write) : TableStep settings db (db.apply write)
  | api {db next : Database} (write : ApiWrite) (written : db.apiApply write = .ok next) :
      TableStep settings db next
  | job {db next : Database} (now : Time) (statement : JobStatement)
      (executed : db.jobApply now statement = .ok next) : TableStep settings db next
  | demo {db next : Database} (uuid4 : Nat → Uuid) (result : DemoSessionResult)
      (created : createDemoSession settings uuid4 db = .ok (result, next)) :
      TableStep settings db next
  | passed {db : Database} (elapsed : Time) :
      TableStep settings db { db with clock := db.clock + elapsed }
  | swept {Other : Table → Type} {db : Database} {world after : SprawlDatabase Other}
      {result : SweepResult} (stored : db.StoredIn world)
      (ran : sweepDemoWorkspaces db.clock world = .ok (after, result)) :
      TableStep settings db (db.remaining after)

/-- The tables after some steps. -/
abbrev TableRun (settings : DemoSettings) : Database → Database → Prop :=
  Relation.ReflTransGen (TableStep settings)

end Sprawl
