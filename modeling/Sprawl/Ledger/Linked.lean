/-
This file gives chains of rows in which each row names the hash of the row before it.
-/

import Mathlib.Data.List.Nodup

namespace Ledger

variable {ρ η : Type} (prev hash : ρ → η)

/-- The first row names the given hash, and each later row names the hash of the row before it. -/
def Linked : η → List ρ → Prop
  | _, [] => True
  | before, row :: rest => prev row = before ∧ Linked (hash row) rest

/-- The hash that the next row has to name. -/
def tip (before : η) (rows : List ρ) : η := (rows.getLast?.map hash).getD before

@[simp] theorem tip_nil (before : η) : tip hash before ([] : List ρ) = before := rfl

@[simp] theorem tip_cons (before : η) (row : ρ) (rest : List ρ) :
    tip hash before (row :: rest) = tip hash (hash row) rest := by
  cases rest with
  | nil => rfl
  | cons next rest =>
      unfold tip
      rw [List.getLast?_cons_cons, List.getLast?_cons]
      rfl

variable {prev hash}

@[simp] theorem tip_concat (before : η) (rows : List ρ) (row : ρ) :
    tip hash before (rows ++ [row]) = hash row := by
  simp [tip]

/-- Rows behind a chain go on from its tip. -/
theorem linked_append {before : η} {first second : List ρ} :
    Linked prev hash before (first ++ second) ↔
      Linked prev hash before first ∧ Linked prev hash (tip hash before first) second := by
  induction first generalizing before with
  | nil => exact (and_iff_right trivial).symm
  | cons row rest ih => rw [List.cons_append, Linked, Linked, ih, tip_cons, and_assoc]

/-- A row that names the tip extends a chain. -/
theorem Linked.concat {before : η} {rows : List ρ} {row : ρ} (linked : Linked prev hash before rows)
    (names : prev row = tip hash before rows) : Linked prev hash before (rows ++ [row]) :=
  linked_append.mpr ⟨linked, names, trivial⟩

/-- Every row of a chain names the first hash or the hash of a row. -/
theorem Linked.prev_cases {before : η} {rows : List ρ} (linked : Linked prev hash before rows) :
    ∀ row ∈ rows, prev row = before ∨ ∃ other ∈ rows, prev row = hash other := by
  induction rows generalizing before with
  | nil => simp
  | cons head rest ih =>
      intro row inside
      obtain rfl | later := List.mem_cons.mp inside
      · exact Or.inl linked.1
      · right
        obtain names | ⟨other, within, names⟩ := ih linked.2 row later
        · exact ⟨head, List.mem_cons_self, names⟩
        · exact ⟨other, List.mem_cons_of_mem head within, names⟩

/-- The first row names the given hash. -/
theorem Linked.first {before : η} {rows : List ρ} {row : ρ} (linked : Linked prev hash before rows)
    (found : rows[0]? = some row) : prev row = before := by
  cases rows with
  | nil => exact absurd found (by simp)
  | cons head rest => exact Option.some.inj found ▸ linked.1

/-- The next row names the hash of a row. -/
theorem Linked.next {before : η} {rows : List ρ} {index : Nat} {row next : ρ}
    (linked : Linked prev hash before rows) (found : rows[index]? = some row)
    (foundNext : rows[index + 1]? = some next) : prev next = hash row := by
  induction rows generalizing before index with
  | nil => exact absurd found (by simp)
  | cons head rest ih =>
      cases index with
      | zero =>
          obtain rfl := Option.some.inj found
          exact linked.2.first foundNext
      | succ index => exact ih linked.2 found foundNext

/-- Where hashes determine what rows name and never repeat the first hash, each row of a chain names
a hash of its own. -/
theorem Linked.prev_injective {before : η} {rows : List ρ} (linked : Linked prev hash before rows)
    (determined : ∀ first ∈ rows, ∀ second ∈ rows, hash first = hash second → prev first = prev second)
    (fresh : ∀ row ∈ rows, hash row ≠ before) {first second : Nat} {row other : ρ}
    (found : rows[first]? = some row) (foundOther : rows[second]? = some other)
    (shared : prev row = prev other) : first = second := by
  have before_of {index : Nat} {later : ρ} (inside : rows[index + 1]? = some later) :
      ∃ earlier, rows[index]? = some earlier := by
    have bound : index + 1 < rows.length := (List.getElem?_eq_some_iff.mp inside).1
    exact ⟨_, List.getElem?_eq_getElem (Nat.lt_of_succ_lt bound)⟩
  -- A shared hash is traced back along both rows until one of them is the first row.
  induction first generalizing second row other with
  | zero =>
      cases second with
      | zero => rfl
      | succ second =>
          obtain ⟨earlier, foundEarlier⟩ := before_of foundOther
          rw [linked.first found, linked.next foundEarlier foundOther] at shared
          exact absurd shared.symm (fresh earlier (List.mem_of_getElem? foundEarlier))
  | succ first ih =>
      obtain ⟨earlier, foundEarlier⟩ := before_of found
      have names := linked.next foundEarlier found
      cases second with
      | zero =>
          rw [names, linked.first foundOther] at shared
          exact absurd shared (fresh earlier (List.mem_of_getElem? foundEarlier))
      | succ second =>
          obtain ⟨otherEarlier, foundOtherEarlier⟩ := before_of foundOther
          rw [names, linked.next foundOtherEarlier foundOther] at shared
          have same := determined earlier (List.mem_of_getElem? foundEarlier) otherEarlier
            (List.mem_of_getElem? foundOtherEarlier) shared
          rw [ih foundEarlier foundOtherEarlier same]

/-- No two rows of such a chain name the same hash. -/
theorem Linked.nodup_prev {before : η} {rows : List ρ} (linked : Linked prev hash before rows)
    (determined : ∀ first ∈ rows, ∀ second ∈ rows, hash first = hash second → prev first = prev second)
    (fresh : ∀ row ∈ rows, hash row ≠ before) : (rows.map prev).Nodup := by
  rw [List.nodup_iff_getElem?_ne_getElem?]
  intro first second less bound same
  rw [List.length_map] at bound
  have found := List.getElem?_eq_getElem (l := rows) (Nat.lt_trans less bound)
  have foundOther := List.getElem?_eq_getElem (l := rows) bound
  rw [List.getElem?_map, List.getElem?_map, found, foundOther] at same
  have index := linked.prev_injective determined fresh found foundOther (Option.some.inj same)
  exact absurd index (Nat.ne_of_lt less)

end Ledger
