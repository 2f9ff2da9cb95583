/-
This file gives the interleaved triggers of a rotation.
-/

import Sprawl.Api.Locking

namespace Sprawl

open Effect

/-- A request brings its token, the ticks of an hour and the identifiers that `uuid4` draws. -/
structure RotationTrigger where
  claims : TokenClaims
  hour : Time
  uuids : List Uuid

/-- The open requests work on one database. -/
abbrev TriggerPool : Type :=
  Pool ApiCommand ApiCommand.Reply TriggerTransaction Database (Except HttpError Json)

/-- A request goes on, and time passes. -/
inductive TriggerAction where
  | advance (index : Nat)
  | tick (elapsed : Time)

/-- A request begins with the first command of its program. -/
def RotationTrigger.thread (workspaceId secretId : Uuid) (trigger : RotationTrigger) :
    TriggerThread where
  program := (triggerRotation workspaceId secretId trigger.hour trigger.claims).run
  own := .start trigger.uuids

namespace TriggerPool

/-- All requests are for one secret. A request arrives when it goes on for the first time. -/
def start (db : Database) (workspaceId secretId : Uuid) (triggers : List RotationTrigger) :
    TriggerPool where
  shared := db
  threads := triggers.map (·.thread workspaceId secretId)

/-- The chosen request issues its next command, unless it waits for a lock. -/
def advance [Sha256] [UuidCodec] (index : Nat) (pool : TriggerPool) : TriggerPool :=
  Pool.stepWaiting TriggerTransaction.answer apiLocking [] index pool

/-- The clock of the database moves on. -/
def tick (elapsed : Time) (pool : TriggerPool) : TriggerPool :=
  { pool with shared := { pool.shared with clock := pool.shared.clock + elapsed } }

end TriggerPool

def TriggerAction.step [Sha256] [UuidCodec] : TriggerAction → TriggerPool → TriggerPool
  | .advance index, pool => pool.advance index
  | .tick elapsed, pool => pool.tick elapsed

/-- The response of a request that has returned. -/
def TriggerThread.response (thread : TriggerThread) : Option (Except HttpError Json) :=
  match thread.program with
  | .pure response => some response
  | .command _ _ => none

/-- The secret has one active rotation, and its steps have the indexes 0 to 3. -/
structure Database.OnlyActive (db : Database) (secretId rotationId : Uuid) : Prop where
  active : (db.rotations.filter fun row =>
    row.secretId = secretId && !row.status.isTerminal).map (·.id) = [rotationId]
  steps : (db.stepsOf rotationId).map (·.idx) = [0, 1, 2, 3]

/-- Every request returns the one active rotation of the secret. -/
def TriggerPool.Collapses (secretId : Uuid) (pool : TriggerPool) : Prop :=
  ∃ rotationId, pool.shared.OnlyActive secretId rotationId ∧
    ∀ thread ∈ pool.threads, ∃ status,
      TriggerThread.response thread = some (.ok (triggered secretId rotationId status))

/-- The command looks for an active rotation while none is committed. -/
def Database.misses (db : Database) : ApiCommand → Bool
  | .select (.activeRotation secretId workspaceId) =>
      (db.apiAnswer (.activeRotation secretId workspaceId)).isNone
  | _ => false

def TriggerPool.misses (pool : TriggerPool) : TriggerAction → Bool
  | .advance index => (pool.issued index).any pool.shared.misses
  | .tick _ => false

end Sprawl
