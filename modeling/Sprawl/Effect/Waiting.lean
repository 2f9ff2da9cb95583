/-
This file gives pools whose threads wait for the locks of one another.
-/

import Sprawl.Effect.Interleaving

namespace Effect

/-- A new entry changes a count by its own share. -/
theorem countP_set_add {α : Type} {entries : List α} {index : Nat} {entry next : α}
    {counts : α → Bool} (found : entries[index]? = some entry) :
    (entries.set index next).countP counts + (counts entry).toNat =
      entries.countP counts + (counts next).toNat := by
  obtain ⟨bound, same⟩ := List.getElem?_eq_some_iff.mp found
  have inside : counts entry = true → 0 < entries.countP counts :=
    fun counted => List.countP_pos_iff.mpr ⟨entry, List.mem_of_getElem? found, counted⟩
  rw [List.countP_set bound, same]
  cases first : counts entry with
  | true =>
      have positive := inside first
      cases counts next <;> simp <;> omega
  | false => cases counts next <;> simp

/-- An entry that counts as before keeps a count. -/
theorem countP_set_same {α : Type} {entries : List α} {index : Nat} {entry next : α}
    {counts : α → Bool} (found : entries[index]? = some entry) (same : counts next = counts entry) :
    (entries.set index next).countP counts = entries.countP counts := by
  have total : _ = _ + (counts next).toNat := countP_set_add found
  rw [same] at total
  exact Nat.add_right_cancel total

/-- The locks that a command takes, and the locks that a thread has taken. -/
structure Locking (Command τ σ Lock : Type) where
  needs : Command → τ × σ → List Lock
  holds : τ × σ → List Lock

namespace Pool

variable {Command : Type} {Reply : Command → Type} {τ σ α Lock : Type} [DecidableEq Lock]
  (handler : Handler Command Reply (τ × σ)) (locking : Locking Command τ σ Lock)

/-- A thread that has ended holds nothing. -/
def held (threads : List (Thread Command Reply τ α)) (shared : σ) : List Lock :=
  threads.flatMap fun thread =>
    match thread.program with
    | .pure _ => []
    | .command _ _ => locking.holds (thread.own, shared)

/-- The next command of the chosen thread takes a lock that another thread holds, or that is held
outside the pool. -/
def waits (outside : List Lock) (index : Nat) (pool : Pool Command Reply τ σ α) : Bool :=
  match pool.threads[index]? with
  | some ⟨.command issued _, own⟩ =>
      (locking.needs issued (own, pool.shared)).any fun lock =>
        lock ∈ outside ++ held locking (pool.threads.eraseIdx index) pool.shared
  | _ => false

/-- The chosen thread issues its next command, unless it waits. -/
def stepWaiting (outside : List Lock) (index : Nat) (pool : Pool Command Reply τ σ α) :
    Pool Command Reply τ σ α :=
  if pool.waits locking outside index then pool else pool.step handler index

/-- A step of a pool with locks changes nothing or is a step without them. -/
theorem stepWaiting_cases (outside : List Lock) (index : Nat) (pool : Pool Command Reply τ σ α) :
    pool.stepWaiting handler locking outside index = pool ∨
      ∃ issued rest own, pool.threads[index]? = some ⟨.command issued rest, own⟩ ∧
        pool.waits locking outside index = false ∧
        pool.stepWaiting handler locking outside index =
          { shared := (handler issued (own, pool.shared)).2.2
            threads := pool.threads.set index
              ⟨rest (handler issued (own, pool.shared)).1,
                (handler issued (own, pool.shared)).2.1⟩ } := by
  unfold stepWaiting
  cases waiting : pool.waits locking outside index with
  | true => exact Or.inl rfl
  | false =>
      obtain ⟨same, _⟩ | ⟨issued, rest, own, found, _, same⟩ := step_cases handler index pool
      · exact Or.inl same
      · exact Or.inr ⟨issued, rest, own, found, rfl, same⟩

/-- The chosen thread ends with a value, in a state of its own. -/
def finish (index : Nat) (value : α) (ended : τ → τ) (pool : Pool Command Reply τ σ α) :
    Pool Command Reply τ σ α :=
  match pool.threads[index]? with
  | none => pool
  | some thread => { pool with threads := pool.threads.set index ⟨.pure value, ended thread.own⟩ }

end Pool

end Effect
