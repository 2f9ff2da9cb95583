/-
This file gives the interleaved runs of triggers, requests and jobs on the whole database.
-/

import Sprawl.Api.Routes
import Sprawl.Rotation.Concurrency

namespace Sprawl

open Effect

variable {κ : Type}

/-- An errand is a request or a job. -/
inductive Errand where
  | request (request : Request)
  | job (job : Job)
  deriving DecidableEq, Repr

/-- A request is accepted where its handler answers without an error. -/
def accepted : Except HttpError Json → Bool
  | .ok _ => true
  | .error _ => false

/-- The program of an errand returns whether it was an accepted request. -/
def Errand.program : Errand → RotationProgram Bool
  | .request sent => accepted <$> sent.program.run
  | .job queued => (fun _ => false) <$> runRotationStep queued

/-- An errand works in a transaction of its own. -/
structure Undertaking (κ : Type) where
  errand : Errand
  transaction : Transaction κ

/-- A statement meets the committed rows, with the writes of its own transaction on top. -/
def Undertaking.answer {D : Type} [SqlStore D] :
    Handler Command Command.Reply (Undertaking κ × Session D κ) :=
  fun issued state =>
    let answered := Session.answer state.1.transaction.connectors issued
      { state.2 with
        pending := state.1.transaction.pending
        clock := state.1.transaction.clock }
    (answered.1,
      { state.1 with transaction := { state.1.transaction with pending := answered.2.pending } },
      answered.2.closed)

/-- The open transaction of a trigger: its inserts and the identifiers that `uuid4` draws. -/
structure ApiTransaction where
  pending : List ApiWrite
  uuids : List Uuid

section Triggers

variable [Sha256] [UuidCodec]

/-- The rows with the inserts of a transaction on top. An insert that raises changes nothing. -/
def ApiTransaction.working (transaction : ApiTransaction) (db : Database) : Database :=
  transaction.pending.foldl
    (fun rows statement => match rows.apiApply statement with
      | .ok written => written
      | .error _ => rows) db

/-- A statement of a trigger meets the committed rows, with its own inserts on top. -/
def ApiTransaction.answer :
    Handler ApiCommand ApiCommand.Reply (ApiTransaction × Database)
  | .select query, (transaction, db) =>
      ((transaction.working db).apiAnswer query, transaction, db)
  | .write statement, (transaction, db) =>
      match (transaction.working db).apiApply statement with
      | .ok _ => (.ok (), { transaction with pending := transaction.pending ++ [statement] }, db)
      | .error raised => (.error raised, transaction, db)
  | .commit, (transaction, db) =>
      ((), { transaction with pending := [] }, transaction.working db)
  | .now, (transaction, db) => (db.clock, transaction, db)
  | .uuid4, (transaction, db) =>
      (transaction.uuids.headD 0, { transaction with uuids := transaction.uuids.tail }, db)
  | .enqueueInvestigation _, (transaction, db) => ((), transaction, db)

end Triggers

/-- The errands and the triggers that have started, with what they share. -/
structure Traffic (κ : Type) where
  pool : Pool Command Command.Reply (Undertaking κ) (Session Database κ) Bool
  triggers : List (Thread ApiCommand ApiCommand.Reply ApiTransaction (Except HttpError Json))

/-- Nothing has started, and the queue is empty. -/
def Traffic.start (db : Database) (external : κ) : Traffic κ where
  pool := {
    shared := {
      db := db
      pending := []
      external := external
      calls := []
      queue := []
      locks := []
      published := []
      clock := db.clock }
    threads := [] }
  triggers := []

/-- The actions that start errands and triggers, repeat jobs, and let everything go on. -/
inductive TrafficAction (κ : Type) where
  | request (request : Request) (clock : Time)
  | trigger (workspaceId secretId : Uuid) (claims : TokenClaims) (around : Surroundings)
  | deliver (index : Nat) (invocation : Invocation κ)
  | duplicate (index : Nat)
  | expireLock (secretId : Uuid)
  | errand (index : Nat)
  | insert (index : Nat)

namespace Traffic

/-- A new errand starts. -/
def started (errand : Errand) (transaction : Transaction κ) (traffic : Traffic κ) : Traffic κ :=
  { traffic with pool := { traffic.pool with
      threads := traffic.pool.threads ++ [⟨errand.program, { errand, transaction }⟩] } }

/-- What the threads share changes. -/
def sharing (traffic : Traffic κ) (shared : Session Database κ) : Traffic κ :=
  { traffic with pool := { traffic.pool with shared } }

/-- A job leaves the queue and starts to run. -/
def deliver (index : Nat) (invocation : Invocation κ) (traffic : Traffic κ) : Traffic κ :=
  let shared := traffic.pool.shared
  match shared.queue[index]? with
  | none => traffic
  | some job =>
      (traffic.sharing { shared with queue := shared.queue.eraseIdx index }).started (.job job)
        { pending := [], connectors := invocation.connectors, clock := invocation.clock }

/-- The queue delivers a job once more. -/
def duplicate (index : Nat) (traffic : Traffic κ) : Traffic κ :=
  let shared := traffic.pool.shared
  match shared.queue[index]? with
  | none => traffic
  | some job => traffic.sharing { shared with queue := shared.queue ++ [job] }

/-- The lock of a secret runs out of time. -/
def expireLock (secretId : Uuid) (traffic : Traffic κ) : Traffic κ :=
  let shared := traffic.pool.shared
  traffic.sharing { shared with locks := shared.locks.filter fun held => held.1 ≠ secretId }

variable [Sha256] [UuidCodec]

/-- The chosen errand issues its next command. -/
def errand (index : Nat) (traffic : Traffic κ) : Traffic κ :=
  { traffic with pool := traffic.pool.step Undertaking.answer index }

/-- The chosen trigger issues its next command. -/
def insert (index : Nat) (traffic : Traffic κ) : Traffic κ :=
  let shared := traffic.pool.shared
  let stepped := Pool.step ApiTransaction.answer index
    { shared := shared.db, threads := traffic.triggers }
  { traffic.sharing { shared with db := stepped.shared } with triggers := stepped.threads }

end Traffic

variable [Sha256] [UuidCodec]

def TrafficAction.step : TrafficAction κ → Traffic κ → Traffic κ
  | .request sent clock, traffic =>
      traffic.started (.request sent) { pending := [], connectors := Connectors.none, clock }
  | .trigger workspaceId secretId claims around, traffic =>
      { traffic with triggers := traffic.triggers ++
          [⟨(triggerRotation workspaceId secretId around.hour claims).run,
            { pending := [], uuids := around.uuids }⟩] }
  | .deliver index invocation, traffic => traffic.deliver index invocation
  | .duplicate index, traffic => traffic.duplicate index
  | .expireLock secretId, traffic => traffic.expireLock secretId
  | .errand index, traffic => traffic.errand index
  | .insert index, traffic => traffic.insert index

end Sprawl
