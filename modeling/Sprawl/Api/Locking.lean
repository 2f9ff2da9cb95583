/-
This file gives the locks that the inserts of a trigger take.
-/

import Sprawl.Api.Traffic
import Sprawl.Effect.Waiting

namespace Sprawl

open Effect

/-- The rows, the keys and the slots of unique indexes that a statement locks until its transaction
ends. An advisory lock is one of them. -/
inductive SqlLock where
  | investigation (id : Uuid)
  | runningOf (secretId : Uuid)
  | secret (id : Uuid)
  | graphNode (id : Uuid)
  | graphEdge (id : Uuid)
  | severity (id : Uuid)
  | rotation (id : Uuid)
  | activeOf (secretId : Uuid)
  | rotationStep (id : Uuid)
  | stepOf (rotationId : Uuid) (idx : Int)
  | auditOf (workspaceId : Uuid)
  deriving DecidableEq

/-- An insert waits for an open transaction that has inserted the same key. -/
def ApiWrite.locks : ApiWrite → List SqlLock
  | .investigation id _ secretId => [.investigation id, .runningOf secretId]
  | .rotation row => [.rotation row.id, .activeOf row.secretId]
  | .rotationStep row => [.rotationStep row.id, .stepOf row.rotationId row.idx]
  | .audit entry => [.auditOf entry.workspaceId]

/-- The transaction of a trigger begins with its first statement, and `now()` is this time. -/
structure TriggerTransaction extends ApiTransaction where
  startedAt : Option Time

/-- A trigger has not executed a statement yet. -/
def TriggerTransaction.start (uuids : List Uuid) : TriggerTransaction where
  pending := []
  uuids := uuids
  startedAt := none

def apiLocking : Locking ApiCommand TriggerTransaction Database SqlLock where
  needs
    | .write statement, _ => statement.locks
    | _, _ => []
  holds := fun (transaction, _) => transaction.pending.flatMap ApiWrite.locks

/-- `ON CONFLICT DO NOTHING` stops an insert. The inserts of steps and audit entries have no such
clause. -/
def Database.conflicts (db : Database) : ApiWrite → Bool
  | .investigation id _ secretId =>
      db.investigations.any fun row =>
        row.id = id || (row.secretId = secretId && row.status = .running)
  | .rotation row =>
      db.rotations.any fun old =>
        old.id = row.id || (old.secretId = row.secretId && !old.status.isTerminal)
  | _ => false

section Answer

variable [Sha256] [UuidCodec]

namespace TriggerTransaction

/-- The time of the transaction. It begins now where it has not begun. -/
def began (transaction : TriggerTransaction) (db : Database) : Time :=
  transaction.startedAt.getD db.clock

/-- The rows with the inserts of the transaction on top, under the time of its start. -/
def workingAt (transaction : TriggerTransaction) (db : Database) : Database :=
  transaction.working { db with clock := transaction.began db }

/-- A statement of a trigger meets the committed rows, with its own inserts on top. An insert that a
conflict stops is not repeated when the transaction commits. -/
def answer : Handler ApiCommand ApiCommand.Reply (TriggerTransaction × Database)
  | .select query, (transaction, db) =>
      ((transaction.workingAt db).apiAnswer query,
        { transaction with startedAt := some (transaction.began db) }, db)
  | .write statement, (transaction, db) =>
      let begun := { transaction with startedAt := some (transaction.began db) }
      match (transaction.workingAt db).apiApply statement with
      | .ok _ =>
          (.ok (),
            if (transaction.workingAt db).conflicts statement then begun
            else { begun with pending := transaction.pending ++ [statement] }, db)
      | .error raised => (.error raised, begun, db)
  | .commit, (transaction, db) =>
      ((), { transaction with pending := [], startedAt := none },
        { transaction.workingAt db with clock := db.clock })
  | .now, (transaction, db) => (db.clock, transaction, db)
  | .uuid4, (transaction, db) =>
      (transaction.uuids.headD 0, { transaction with uuids := transaction.uuids.tail }, db)
  | .enqueueInvestigation _, (transaction, db) => ((), transaction, db)

end TriggerTransaction

end Answer

/-- A trigger with the rest of its program. -/
abbrev TriggerThread : Type :=
  Thread ApiCommand ApiCommand.Reply TriggerTransaction (Except HttpError Json)

end Sprawl
