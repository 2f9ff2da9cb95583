/-
This file gives cells that a list of rows overwrites, and when the order of the rows does not matter.
-/

import Mathlib.Data.List.Basic
import Mathlib.Data.List.Perm.Basic

namespace Effect

variable {ρ β γ : Type} (write : ρ → Option β)

/-- The value of a cell behind a list of rows. Each row may overwrite it. -/
def lastWrite (cell : β) (rows : List ρ) : β :=
  rows.foldl (fun cell row => (write row).getD cell) cell

theorem lastWrite_nil (cell : β) : lastWrite write cell [] = cell := rfl

theorem lastWrite_cons (cell : β) (row : ρ) (rest : List ρ) :
    lastWrite write cell (row :: rest) = lastWrite write ((write row).getD cell) rest := rfl

/-- All writes of the rows look the same. -/
def WritesAgree (seen : β → γ) (rows : List ρ) : Prop :=
  ∀ first ∈ rows, ∀ second ∈ rows, ∀ value ∈ write first, ∀ other ∈ write second,
    seen value = seen other

variable {write}

/-- A row that writes, as the last one, decides the cell. -/
theorem lastWrite_concat {row : ρ} {value : β} (writes : value ∈ write row) (cell : β)
    (rows : List ρ) : lastWrite write cell (rows ++ [row]) = value := by
  rw [lastWrite, List.foldl_append, List.foldl_cons, List.foldl_nil, Option.mem_def.mp writes]
  rfl

/-- The cell keeps its value where no row writes, and else has the value of a row. -/
theorem lastWrite_cases (write : ρ → Option β) (cell : β) (rows : List ρ) :
    (∀ row ∈ rows, write row = none) ∧ lastWrite write cell rows = cell ∨
      ∃ row ∈ rows, lastWrite write cell rows ∈ write row := by
  induction rows generalizing cell with
  | nil => exact Or.inl ⟨fun _ inside => absurd inside List.not_mem_nil, rfl⟩
  | cons row rest ih =>
      rw [lastWrite_cons]
      obtain ⟨silent, same⟩ | ⟨later, inside, written⟩ := ih ((write row).getD cell)
      · rw [same]
        cases wrote : write row with
        | none => exact Or.inl ⟨List.forall_mem_cons.mpr ⟨wrote, silent⟩, rfl⟩
        | some value => exact Or.inr ⟨row, List.mem_cons_self, wrote⟩
      · exact Or.inr ⟨later, List.mem_cons_of_mem _ inside, written⟩

/-- The last of the writes is one of them. -/
theorem lastWrite_mem {row : ρ} {rows : List ρ} (cell : β) (inside : row ∈ rows)
    (writes : write row ≠ none) : ∃ other ∈ rows, lastWrite write cell rows ∈ write other := by
  obtain ⟨silent, _⟩ | written := lastWrite_cases write cell rows
  · exact absurd (silent row inside) writes
  · exact written

/-- A row of a list can be its last one. -/
theorem exists_perm_concat {row : ρ} {rows : List ρ} (inside : row ∈ rows) :
    ∃ others, (others ++ [row]).Perm rows := by
  obtain ⟨before, after, rfl⟩ := List.append_of_mem inside
  refine ⟨before ++ after, ?_⟩
  rw [List.append_assoc]
  exact (List.perm_append_comm).append_left before

/-- A cell looks the same behind every order of the rows exactly if all their writes do. -/
theorem lastWrite_perm_iff (write : ρ → Option β) (seen : β → γ) (cell : β) (rows : List ρ) :
    (∀ other, other.Perm rows →
        seen (lastWrite write cell other) = seen (lastWrite write cell rows)) ↔
      WritesAgree write seen rows := by
  constructor
  · intro same first inFirst second inSecond value writesFirst other writesSecond
    obtain ⟨restFirst, permFirst⟩ := exists_perm_concat inFirst
    obtain ⟨restSecond, permSecond⟩ := exists_perm_concat inSecond
    have left := same _ permFirst
    have right := same _ permSecond
    rw [lastWrite_concat writesFirst] at left
    rw [lastWrite_concat writesSecond] at right
    exact left.trans right.symm
  · intro agree other perm
    obtain ⟨silent, same⟩ | ⟨row, inside, written⟩ := lastWrite_cases write cell other
    · obtain ⟨_, kept⟩ | ⟨row, inside, written⟩ := lastWrite_cases write cell rows
      · rw [same, kept]
      · rw [silent row (perm.mem_iff.mpr inside)] at written
        cases written
    · have writes : write row ≠ none := Option.ne_none_iff_exists'.mpr ⟨_, written⟩
      obtain ⟨last, among, writtenLast⟩ := lastWrite_mem cell (perm.mem_iff.mp inside) writes
      exact agree row (perm.mem_iff.mp inside) last among _ written _ writtenLast

end Effect
