/-
This file proves when the lock of a secret is touched only by the instance that has set it.
-/

import Sprawl.Rotation.Lock

namespace Sprawl

open Effect

section Session

variable {D κ : Type} [SqlStore D] (connectors : Connectors κ) (session : Session D κ)

/-- The lock of a secret in a session, as a key whose time does not run out. -/
def Session.lockKey (session : Session D κ) (secretId : Uuid) : Option LockKey :=
  (session.locks.lookup secretId).map fun value => { value, ttl := lockTtlMs }

/-- The session acquires a lock as an instance of `RotationLock` does. -/
theorem Session.answer_acquireLock (secretId rotationId : Uuid) :
    let acquired := RotationLock.acquire { secretId, rotationId } (session.lockKey secretId)
    let answered := session.answer connectors (.acquireLock secretId rotationId)
    answered.1 = acquired.1 ∧ answered.2.lockKey secretId = acquired.2 := by
  cases held : session.locks.lookup secretId <;>
    simp [Session.answer, Session.lockKey, RotationLock.acquire, LockKey.setNx, held]

/-- The session releases a lock as an instance of `RotationLock` does. -/
theorem Session.answer_releaseLock (secretId rotationId : Uuid) :
    let released := RotationLock.release { secretId, rotationId } (session.lockKey secretId)
    let answered := session.answer connectors (.releaseLock secretId rotationId)
    answered.1 = released.1 ∧ answered.2.lockKey secretId = released.2 := by
  have gone : ∀ held ∈ session.locks, ¬ held.1 = secretId → ¬ secretId = held.1 :=
    fun _ _ other same => other same.symm
  cases held : session.locks.lookup secretId with
  | none =>
      simp [Session.answer, Session.lockKey, RotationLock.release, LockKey.compareAndDelete, held]
  | some value =>
      by_cases same : value = rotationId
      · simpa [Session.answer, Session.lockKey, RotationLock.release, LockKey.compareAndDelete,
          held, same] using gone
      · simp [Session.answer, Session.lockKey, RotationLock.release, LockKey.compareAndDelete, held,
          same]

end Session

section Locks

variable {ι : Type} (secretId : Uuid) (rotationIds : ι → Uuid)

/-- The value of the key is the rotation of the instance that has set it. -/
def LockState.Attributed (state : LockState ι) : Prop :=
  ∀ key, state.key = some key →
    ∃ instanceId, state.setBy = some instanceId ∧ key.value = rotationIds instanceId

/-- The key is there and another instance has set it. -/
def LockState.heldBy (state : LockState ι) (other : ι) : Prop :=
  state.key.isSome = true ∧ state.setBy = some other

/-- The action deletes or prolongs only a key that the same instance has set. -/
def LockState.Respects (state : LockState ι) (action : LockAction ι) : Prop :=
  ∀ instanceId, state.deletes secretId rotationIds action instanceId ∨
    state.prolongs secretId rotationIds action instanceId → state.setBy = some instanceId

/-- A release meets the key of another instance of the same rotation, or an extension meets the key
of any other instance. -/
def LockState.Intrudes (state : LockState ι) (action : LockAction ι) : Prop :=
  ∃ instanceId other, other ≠ instanceId ∧ state.heldBy other ∧
    (action = .release instanceId ∧ rotationIds other = rotationIds instanceId ∨
      action = .extend instanceId)

variable {secretId rotationIds} {state : LockState ι}

/-- Every action keeps the attribution of the key. -/
theorem LockState.Attributed.step (attributed : state.Attributed rotationIds)
    (action : LockAction ι) :
    (action.step secretId rotationIds state).Attributed rotationIds := by
  intro key present
  cases held : state.key with
  | none =>
      cases action with
      | acquire instanceId =>
          simp only [LockAction.step, RotationLock.acquire, LockKey.setNx, held, Option.some.injEq]
            at present
          exact ⟨instanceId, by simp [LockAction.step, RotationLock.acquire, LockKey.setNx, held],
            present ▸ rfl⟩
      | _ =>
          simp [LockAction.step, RotationLock.release, RotationLock.extend, LockKey.pexpire,
            LockKey.compareAndDelete, LockKey.elapse, held] at present
  | some old =>
      have owned := attributed old held
      have kept : (action.step secretId rotationIds state).setBy = state.setBy := by
        cases action <;> simp [LockAction.step, RotationLock.acquire, LockKey.setNx, held]
      have same : key.value = old.value := by
        cases action with
        | acquire instanceId =>
            simp only [LockAction.step, RotationLock.acquire, LockKey.setNx, held,
              Option.some.injEq] at present
            rw [present]
        | release instanceId =>
            simp only [LockAction.step, RotationLock.release, LockKey.compareAndDelete, held]
              at present
            split at present
            · exact absurd present (by simp)
            · rw [Option.some.inj present]
        | extend instanceId =>
            simp only [LockAction.step, RotationLock.extend, LockKey.pexpire, held,
              Option.some.injEq] at present
            rw [← present]
        | elapse milliseconds =>
            simp only [LockAction.step, LockKey.elapse, held] at present
            split at present
            · exact absurd present (by simp)
            · rw [← Option.some.inj present]
      rw [kept, same]
      exact owned

/-- An attributed key is respected by every action that does not intrude. -/
theorem LockState.Attributed.respects_iff (attributed : state.Attributed rotationIds)
    (action : LockAction ι) :
    state.Respects secretId rotationIds action ↔ ¬ state.Intrudes rotationIds action := by
  constructor
  · intro respects intrudes
    obtain ⟨instanceId, other, different, ⟨present, setBy⟩, acts⟩ := intrudes
    obtain ⟨key, held⟩ := Option.isSome_iff_exists.mp present
    obtain ⟨owner, owns, value⟩ := attributed key held
    have same : other = owner := Option.some.inj (setBy.symm.trans owns)
    have touched : state.deletes secretId rotationIds action instanceId ∨
        state.prolongs secretId rotationIds action instanceId := by
      obtain ⟨release, rotation⟩ | extend := acts
      · left
        have compared : key.value = rotationIds instanceId := by rw [value, ← same, rotation]
        exact ⟨release, by
          simp [RotationLock.release, LockKey.compareAndDelete, held, lockOf, compared]⟩
      · right
        exact ⟨extend, by simp [RotationLock.extend, LockKey.pexpire, held]⟩
    exact different (Option.some.inj (setBy.symm.trans (respects instanceId touched)))
  · intro calm instanceId touched
    by_contra foreign
    apply calm
    cases held : state.key with
    | none =>
        obtain ⟨_, deleted⟩ | ⟨_, prolonged⟩ := touched
        · simp [RotationLock.release, LockKey.compareAndDelete, held] at deleted
        · simp [RotationLock.extend, LockKey.pexpire, held] at prolonged
    | some key =>
        obtain ⟨owner, owns, value⟩ := attributed key held
        have different : owner ≠ instanceId := fun same => foreign (same ▸ owns)
        refine ⟨instanceId, owner, different, ⟨by simp [held], owns⟩, ?_⟩
        obtain ⟨release, deleted⟩ | ⟨extend, _⟩ := touched
        · left
          by_cases compared : key.value = rotationIds instanceId
          · exact ⟨release, value.symm.trans compared⟩
          · simp [RotationLock.release, LockKey.compareAndDelete, held, lockOf, compared] at deleted
        · right
          exact extend

end Locks

/-- In a run from a free lock every key is deleted and prolonged only by the instance that has set
it, exactly when no release meets the key of another instance of the same rotation and no extension
meets the key of another instance. -/
theorem lock_respected_iff {ι : Type} (secretId : Uuid) (rotationIds : ι → Uuid)
    (actions : List (LockAction ι)) :
    (∀ visit ∈ visits (LockAction.step secretId rotationIds) actions LockState.free,
      visit.1.Respects secretId rotationIds visit.2) ↔
    ∀ visit ∈ visits (LockAction.step secretId rotationIds) actions LockState.free,
      ¬ visit.1.Intrudes rotationIds visit.2 := by
  have free : (LockState.free : LockState ι).Attributed rotationIds :=
    fun key present => absurd present (by simp [LockState.free])
  have attributed := @invariant_visits_always _ _ (LockAction.step secretId rotationIds)
    (fun state => state.Attributed rotationIds) (fun state action holds => holds.step action)
    actions _ free
  constructor
  · intro respects visit inside
    exact ((attributed visit inside).respects_iff visit.2).mp (respects visit inside)
  · intro calm visit inside
    exact ((attributed visit inside).respects_iff visit.2).mpr (calm visit inside)

/-- The lock of a first job expires, a second job of the same rotation acquires it, and then the
first job releases it. -/
theorem expired_holder_releases :
    ¬ ∀ (ι : Type) (secretId : Uuid) (rotationIds : ι → Uuid) (actions : List (LockAction ι)),
      ∀ visit ∈ visits (LockAction.step secretId rotationIds) actions LockState.free,
        visit.1.Respects secretId rotationIds visit.2 := by
  intro always
  have respected := always Nat 3 (fun _ => 5)
    [.acquire 0, .elapse lockTtlMs, .acquire 1, .release 0]
    ({ key := some { value := 5, ttl := lockTtlMs }, setBy := some 1 }, .release 0) (by decide) 0
    (Or.inl ⟨rfl, rfl⟩)
  exact absurd respected (by decide)

end Sprawl
