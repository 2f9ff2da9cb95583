/-
This file gives the interleaved runs of the `investigate_secret` job.
-/

import Sprawl.Api.Locking
import Sprawl.Investigation.Job

namespace Sprawl

open Effect

namespace Database

variable (db : Database)

/-- The rows that an update selects. -/
def investigationLocks (selected : Investigation → Bool) : List SqlLock :=
  (db.investigations.filter selected).map fun row => .investigation row.id

/-- Their slots of `one_active_investigation`. -/
def runningSlots (selected : Investigation → Bool) : List SqlLock :=
  (db.investigations.filter selected).map fun row => .runningOf row.secretId

/-- The investigations that a statement of a job updates. -/
def updates : JobStatement → Investigation → Bool
  | .markRunning investigationId workspaceId => fun row =>
      row.id = investigationId && row.workspaceId = workspaceId
  | .traceId investigationId _ => fun row => row.id = investigationId
  | .complete investigationId _ => fun row => row.id = investigationId
  | .error investigationId => fun row => row.id = investigationId
  | _ => fun _ => false

/-- The locks that a statement takes. To mark an investigation as running takes its slot. -/
def needsOf (statement : JobStatement) : List SqlLock :=
  db.investigationLocks (updates statement) ++
    match statement with
    | .markRunning _ _ => db.runningSlots (updates statement)
    | .graphNode row => [.graphNode row.id]
    | .graphEdge row => [.graphEdge row.id]
    | .severity id _ _ _ _ _ => [.severity id]
    | .secretSeverity secretId _ _ => [.secret secretId]
    | .audit entry => [.auditOf entry.workspaceId]
    | _ => []

/-- The locks that a statement has taken. An update of a running investigation also holds its slot. -/
def holdsOf (statement : JobStatement) : List SqlLock :=
  db.needsOf statement ++
    db.runningSlots fun row => updates statement row && row.status = .running

end Database

/-- A statement that raises does not wait. -/
def jobLocking : Locking JobCommand JobTransaction Database SqlLock where
  needs
    | .execute statement, (transaction, db) =>
        if transaction.failure.isSome then [] else db.needsOf statement
    | _, _ => []
  holds := fun (transaction, db) => transaction.pending.flatMap db.holdsOf

/-- A job with the rest of its program. -/
abbrev JobThread : Type :=
  Thread JobCommand JobCommand.Reply JobTransaction (Except String Json)

/-- The open jobs work on one database. -/
abbrev JobPool : Type :=
  Pool JobCommand JobCommand.Reply JobTransaction Database (Except String Json)

/-- A job starts, goes on, or is cancelled by its worker, and time passes. -/
inductive InvestigationAction where
  | start (job : InvestigationJob) (around : JobSurroundings)
  | advance (index : Nat)
  | cancel (index : Nat)
  | tick (elapsed : Time)

namespace JobPool

/-- Nothing has started. -/
def start (db : Database) : JobPool where
  shared := db
  threads := []

/-- A job begins with the first command of its program. -/
def started (F : Type) [Scalar F] (job : InvestigationJob) (around : JobSurroundings)
    (pool : JobPool) : JobPool :=
  { pool with
    threads := pool.threads ++ [⟨(investigateSecret F job).run, JobTransaction.start around⟩] }

/-- The chosen job issues its next command, unless it waits for a lock. -/
def advance [Sha256] (outside : List SqlLock) (index : Nat) (pool : JobPool) : JobPool :=
  Pool.stepWaiting JobTransaction.answer jobLocking outside index pool

/-- The connection of a cancelled job is closed, which rolls its transaction back. -/
def cancel (index : Nat) (pool : JobPool) : JobPool :=
  Pool.finish index (.error "CancelledError")
    (fun transaction => { transaction with pending := [] }) pool

/-- The clock of the database moves on. -/
def tick (elapsed : Time) (pool : JobPool) : JobPool :=
  { pool with shared := { pool.shared with clock := pool.shared.clock + elapsed } }

end JobPool

def InvestigationAction.step [Sha256] (F : Type) [Scalar F] : InvestigationAction → JobPool → JobPool
  | .start job around, pool => pool.started F job around
  | .advance index, pool => pool.advance [] index
  | .cancel index, pool => pool.cancel index
  | .tick elapsed, pool => pool.tick elapsed

end Sprawl
