/-
This file gives the route that reads the audit log while transactions append to it.
-/

import Sprawl.Api.Routes
import Sprawl.Audit.Appends

namespace Sprawl

open Effect

/-- `_row_to_dict` -/
def AuditRow.toDict (row : AuditRow) : Document :=
  [("id", .str (toString row.id)), ("workspace_id", .uuid row.workspaceId),
    ("actor", .str row.actor), ("action", .str row.action),
    ("target_type", .optional .str row.targetType), ("target_id", .optional .str row.targetId),
    ("before", row.before.getD .null), ("after", row.after.getD .null), ("hash", .str row.hash),
    ("created_at", .time row.createdAt)]

/-- The statements of `list_audit_events`. -/
inductive AuditQuery where
  | page (workspaceId : Uuid) (limit offset : Int)
  | count (workspaceId : Uuid)

abbrev AuditQuery.Reply : AuditQuery → Type
  | .page _ _ _ => Except SqlError (List AuditRow)
  | .count _ => Nat

def AuditQuery.perform (query : AuditQuery) : Program AuditQuery AuditQuery.Reply query.Reply :=
  Program.perform query

/-- A statement reads the rows that are committed when it runs. -/
def AuditPool.answer : Handler AuditQuery AuditQuery.Reply AuditPool
  | .page workspaceId limit offset, pool =>
      (pageOf limit offset (newestFirst AuditRow.id
        (pool.shared.rows.filter (·.workspaceId = workspaceId))), pool)
  | .count workspaceId, pool =>
      ((pool.shared.rows.filter (·.workspaceId = workspaceId)).length, pool)

/-- The entries of a workspace as the route lists them. -/
def AuditTable.listed (table : AuditTable) (workspaceId : Uuid) : List Json :=
  (table.log workspaceId).reverse.map fun row => .obj row.toDict

end Sprawl
