/-
This file gives worklists whose finished items come before the waiting ones.
-/

import Mathlib.Data.List.Basic
import Mathlib.Order.Lattice

namespace Effect

variable {α ι : Type} [LinearOrder ι] {key : α → ι} {finished waiting : α → Prop} {items : List α}

/-- Every item is finished or waiting, and no waiting item has a smaller key than a finished one. -/
structure Frontier (key : α → ι) (finished waiting : α → Prop) (items : List α) : Prop where
  covered : ∀ item ∈ items, finished item ∨ waiting item
  closed : ∀ first ∈ items, ∀ second ∈ items,
    key first < key second → finished second → finished first

namespace Frontier

/-- A worklist that only waits is a frontier. -/
theorem of_waiting (exclusive : ∀ item, waiting item → ¬ finished item)
    (every : ∀ item ∈ items, waiting item) : Frontier key finished waiting items where
  covered item inside := Or.inr (every item inside)
  closed _ _ second inside _ ended := absurd ended (exclusive second (every second inside))

/-- The items below the least waiting item are finished. -/
theorem finished_of_lt (frontier : Frontier key finished waiting items) {next : α}
    (least : ∀ item ∈ items, waiting item → key next ≤ key item) :
    ∀ item ∈ items, key item < key next → finished item := by
  intro item inside below
  obtain ended | waits := frontier.covered item inside
  · exact ended
  · exact absurd below (not_lt.mpr (least item inside waits))

/-- The finished items are below every item that is not finished. -/
theorem lt_of_finished (frontier : Frontier key finished waiting items) {next : α}
    (inside : next ∈ items) (unfinished : ¬ finished next) :
    ∀ item ∈ items, finished item → key item ≠ key next → key item < key next := by
  intro item within ended different
  by_contra above
  have less : key next < key item := lt_of_le_of_ne (not_lt.mp above) (Ne.symm different)
  exact unfinished (frontier.closed next inside item within less ended)

/-- A worklist whose least waiting item becomes finished is still a frontier. -/
theorem advance (frontier : Frontier key finished waiting items) {next : α} (change : α → α)
    (least : ∀ item ∈ items, waiting item → key next ≤ key item)
    (sameKey : ∀ item, key (change item) = key item)
    (same : ∀ item ∈ items, key item ≠ key next → change item = item)
    (ended : ∀ item ∈ items, key item = key next → finished (change item)) :
    Frontier key finished waiting (items.map change) where
  covered := by
    intro item present
    obtain ⟨old, member, rfl⟩ := List.mem_map.mp present
    by_cases equal : key old = key next
    · exact Or.inl (ended old member equal)
    · rw [same old member equal]
      exact frontier.covered old member
  closed := by
    intro first firstPresent second secondPresent below secondEnded
    obtain ⟨oldFirst, firstMember, rfl⟩ := List.mem_map.mp firstPresent
    obtain ⟨oldSecond, secondMember, rfl⟩ := List.mem_map.mp secondPresent
    rw [sameKey, sameKey] at below
    by_cases firstEqual : key oldFirst = key next
    · exact ended oldFirst firstMember firstEqual
    · rw [same oldFirst firstMember firstEqual]
      by_cases secondEqual : key oldSecond = key next
      · exact frontier.finished_of_lt least oldFirst firstMember (secondEqual ▸ below)
      · rw [same oldSecond secondMember secondEqual] at secondEnded
        exact frontier.closed oldFirst firstMember oldSecond secondMember below secondEnded

/-- A change that keeps the keys and the kinds of the items keeps a frontier. -/
theorem map (frontier : Frontier key finished waiting items) (change : α → α)
    (sameKey : ∀ item, key (change item) = key item)
    (sameFinished : ∀ item, finished (change item) ↔ finished item)
    (sameWaiting : ∀ item, waiting (change item) ↔ waiting item) :
    Frontier key finished waiting (items.map change) where
  covered := by
    intro item present
    obtain ⟨old, member, rfl⟩ := List.mem_map.mp present
    rw [sameFinished, sameWaiting]
    exact frontier.covered old member
  closed := by
    intro first firstPresent second secondPresent below ended
    obtain ⟨oldFirst, firstMember, rfl⟩ := List.mem_map.mp firstPresent
    obtain ⟨oldSecond, secondMember, rfl⟩ := List.mem_map.mp secondPresent
    rw [sameKey, sameKey] at below
    rw [sameFinished] at ended ⊢
    exact frontier.closed oldFirst firstMember oldSecond secondMember below ended

/-- A sorted frontier is a block of finished items followed by a block of waiting items. -/
theorem blocks (frontier : Frontier key finished waiting items)
    (exclusive : ∀ item, waiting item → ¬ finished item)
    (sorted : items.Pairwise fun first second => key first < key second) :
    ∃ done opened, items = done ++ opened ∧ (∀ item ∈ done, finished item) ∧
      ∀ item ∈ opened, waiting item := by
  induction items with
  | nil => exact ⟨[], [], rfl, by simp, by simp⟩
  | cons head rest ih =>
      have tail : Frontier key finished waiting rest :=
        { covered := fun item inside => frontier.covered item (List.mem_cons_of_mem _ inside)
          closed := fun first inside second within =>
            frontier.closed first (List.mem_cons_of_mem _ inside) second
              (List.mem_cons_of_mem _ within) }
      obtain ⟨above, sortedRest⟩ := List.pairwise_cons.mp sorted
      obtain ⟨done, opened, rfl, ends, waits⟩ := ih tail sortedRest
      obtain ended | headWaits := frontier.covered head List.mem_cons_self
      · refine ⟨head :: done, opened, rfl, ?_, waits⟩
        intro item inside
        rcases List.mem_cons.mp inside with rfl | inside
        · exact ended
        · exact ends item inside
      · have none : done = [] := by
          cases done with
          | nil => rfl
          | cons first others =>
              have firstEnded := ends first List.mem_cons_self
              have firstInside : first ∈ first :: others ++ opened :=
                List.mem_append_left _ List.mem_cons_self
              exact absurd (frontier.closed head List.mem_cons_self first
                (List.mem_cons_of_mem _ firstInside) (above first firstInside) firstEnded)
                (exclusive head headWaits)
        subst none
        refine ⟨[], head :: opened, rfl, by simp, ?_⟩
        intro item inside
        rcases List.mem_cons.mp inside with rfl | inside
        · exact headWaits
        · exact waits item inside

end Frontier

end Effect
