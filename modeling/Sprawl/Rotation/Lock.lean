/-
This file gives the distributed lock of a secret: the commands of `RotationLock` on its Redis key.
-/

import Sprawl.Effect.Transition
import Sprawl.Rotation.Session

namespace Sprawl

/-- This is `LOCK_TTL_MS`. -/
def lockTtlMs : Nat := 5 * 60 * 1000

/-- The key `lock:rotation:{secret_id}` holds a rotation identifier for some milliseconds more. -/
structure LockKey where
  value : Uuid
  ttl : Nat
  deriving DecidableEq, Repr

namespace LockKey

/-- `SET key value NX PX ttl` -/
def setNx (value : Uuid) (ttl : Nat) : Option LockKey → Bool × Option LockKey
  | none => (true, some { value, ttl })
  | some key => (false, some key)

/-- The release script deletes the key only if its value is the given one. -/
def compareAndDelete (value : Uuid) : Option LockKey → Bool × Option LockKey
  | none => (false, none)
  | some key => if key.value = value then (true, none) else (false, some key)

/-- `PEXPIRE key ttl` -/
def pexpire (ttl : Nat) : Option LockKey → Bool × Option LockKey
  | none => (false, none)
  | some key => (true, some { key with ttl })

/-- Redis removes a key whose time has run out. -/
def elapse (milliseconds : Nat) : Option LockKey → Option LockKey
  | none => none
  | some key =>
      if key.ttl ≤ milliseconds then none
      else some { key with ttl := key.ttl - milliseconds }

end LockKey

/-- An instance of `RotationLock` knows the rotation that it locks the secret for. -/
structure RotationLock where
  secretId : Uuid
  rotationId : Uuid
  deriving DecidableEq, Repr

namespace RotationLock

variable (lock : RotationLock)

/-- An acquisition succeeds only where the key is absent. -/
def acquire (key : Option LockKey) : Bool × Option LockKey :=
  LockKey.setNx lock.rotationId lockTtlMs key

/-- A release reports whether it has deleted the key. -/
def release (key : Option LockKey) : Bool × Option LockKey :=
  LockKey.compareAndDelete lock.rotationId key

/-- An extension resets the time of the key, whoever holds it. -/
def extend (_ : RotationLock) (key : Option LockKey) : Bool × Option LockKey :=
  LockKey.pexpire lockTtlMs key

end RotationLock

/-- The key of one secret, and the instance that has set it last. No command reads the instance. -/
structure LockState (ι : Type) where
  key : Option LockKey
  setBy : Option ι
  deriving DecidableEq

/-- The key is absent before the first acquisition. -/
def LockState.free {ι : Type} : LockState ι := { key := none, setBy := none }

/-- The actions on the lock of one secret. -/
inductive LockAction (ι : Type) where
  | acquire (instanceId : ι)
  | release (instanceId : ι)
  | extend (instanceId : ι)
  | elapse (milliseconds : Nat)
  deriving DecidableEq

section Locks

variable {ι : Type} (secretId : Uuid) (rotationIds : ι → Uuid)

/-- The instances lock one secret, each for its own rotation. -/
def lockOf (instanceId : ι) : RotationLock := { secretId, rotationId := rotationIds instanceId }

/-- Every command of an instance is atomic. -/
def LockAction.step : LockAction ι → LockState ι → LockState ι
  | .acquire instanceId, state =>
      let answered := (lockOf secretId rotationIds instanceId).acquire state.key
      { key := answered.2, setBy := if answered.1 then some instanceId else state.setBy }
  | .release instanceId, state =>
      { state with key := ((lockOf secretId rotationIds instanceId).release state.key).2 }
  | .extend instanceId, state =>
      { state with key := ((lockOf secretId rotationIds instanceId).extend state.key).2 }
  | .elapse milliseconds, state => { state with key := LockKey.elapse milliseconds state.key }

/-- The action is a release of the instance, and it deletes the key. -/
def LockState.deletes (state : LockState ι) (action : LockAction ι) (instanceId : ι) : Prop :=
  action = .release instanceId ∧
    ((lockOf secretId rotationIds instanceId).release state.key).1 = true

/-- The action is an extension by the instance, and it prolongs the key. -/
def LockState.prolongs (state : LockState ι) (action : LockAction ι) (instanceId : ι) : Prop :=
  action = .extend instanceId ∧
    ((lockOf secretId rotationIds instanceId).extend state.key).1 = true

end Locks

end Sprawl
