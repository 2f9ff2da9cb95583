/-
This file gives the interleaved transactions that append to the audit log.
-/

import Sprawl.Audit.Writers
import Sprawl.Effect.Interleaving

namespace Sprawl

open Effect

/-- The processes with an `audit` of their own. -/
inductive AuditProcess where
  | api
  | worker
  deriving DecidableEq, Repr

def AuditProcess.audit : AuditProcess → AuditCall → AuditProgram Unit
  | .api => apiAudit
  | .worker => workerAudit

/-- A transaction makes some calls of `audit`, and then it commits or rolls back. -/
structure AuditTransaction where
  calls : List (AuditProcess × AuditCall)
  commits : Bool

def auditCalls : List (AuditProcess × AuditCall) → AuditProgram Unit
  | [] => return
  | (process, call) :: rest => do
      process.audit call
      auditCalls rest

def AuditTransaction.program (transaction : AuditTransaction) : AuditProgram Unit := do
  auditCalls transaction.calls
  if transaction.commits then AuditCommand.commit.perform else AuditCommand.rollback.perform

/-- A transaction with the rest of its program. -/
abbrev AuditThread : Type := Thread AuditCommand AuditCommand.Reply AuditSession Unit

/-- The open transactions work on one table. -/
abbrev AuditPool : Type := Pool AuditCommand AuditCommand.Reply AuditSession AuditTable Unit

/-- A transaction begins, goes on, or ends without a commit because its process or its connection is
lost. -/
inductive AuditAction where
  | start (transaction : AuditTransaction) (started : Time) (readings : List Time)
  | advance (index : Nat)
  | abort (index : Nat)

/-- A demo session is seeded in a transaction of its own. -/
structure DemoSeed where
  session : DemoSession
  started : Time
  readings : List Time

namespace AuditPool

variable [HashText]

/-- The chosen transaction waits for an advisory lock of another one. -/
def waits (index : Nat) (pool : AuditPool) : Bool :=
  match pool.threads[index]? with
  | some ⟨.command (.advisoryLock key) _, own⟩ =>
      (pool.shared.locks.lookup (HashText.hashtext key)).any fun owner => owner ≠ own.id
  | _ => false

variable [Sha256]

/-- The chosen transaction issues its next command, unless it waits. -/
def advance (index : Nat) (pool : AuditPool) : AuditPool :=
  if pool.waits index then pool else pool.step AuditSession.answer index

/-- The chosen transaction is rolled back. -/
def abort (index : Nat) (pool : AuditPool) : AuditPool :=
  match pool.threads[index]? with
  | none => pool
  | some thread =>
      let ended := (AuditSession.answer .rollback (thread.own, pool.shared)).2
      { shared := ended.2, threads := pool.threads.set index ⟨.pure (), ended.1⟩ }

end AuditPool

variable [Sha256] [HashText]

def AuditAction.step : AuditAction → AuditPool → AuditPool
  | .start transaction started readings, pool =>
      { pool with threads := pool.threads ++
          [⟨transaction.program, { id := pool.threads.length, started, readings, pending := [] }⟩] }
  | .advance index, pool => pool.advance index
  | .abort index, pool => pool.abort index

/-- The seeding of a demo session appends its entries and commits. -/
def AuditTable.seed (table : AuditTable) (seed : DemoSeed) : AuditTable :=
  let own : AuditSession :=
    { id := 0, started := seed.started, readings := seed.readings, pending := [] }
  let seeded := do
    seedAudit seed.session.entries genesisHash
    AuditCommand.commit.perform
  (seeded.run AuditSession.answer (own, table)).2.2

/-- The log starts with the entries of some demo sessions. -/
def AuditPool.start (seeds : List DemoSeed) : AuditPool where
  shared := seeds.foldl AuditTable.seed .empty
  threads := []

/-- The committed rows of a workspace in the order of their ids. -/
def AuditTable.log (table : AuditTable) (workspaceId : Uuid) : List AuditRow :=
  (table.rows.filter (·.workspaceId = workspaceId)).insertionSort fun first second =>
    first.id ≤ second.id

end Sprawl
