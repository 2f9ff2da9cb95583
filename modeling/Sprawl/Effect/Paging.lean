/-
This file gives clients that read a list page by page until the reported total is reached.
-/

import Mathlib.Data.List.Basic

namespace Effect

/-- A page has some items and reports how many items there are in all. -/
structure Page (β : Type) where
  items : List β
  total : Nat

section Client

variable {β : Type} (serve : Nat → Option (Page β)) (limit : Nat)

/-- The client asks at an offset, and goes on by the limit while the total is not reached. -/
inductive Paged : Nat → List (Page β) → Prop
  | last {offset : Nat} {page : Page β} (served : serve offset = some page)
      (done : page.total ≤ offset + limit) : Paged offset [page]
  | more {offset : Nat} {page : Page β} {pages : List (Page β)}
      (served : serve offset = some page) (left : offset + limit < page.total)
      (rest : Paged (offset + limit) pages) : Paged offset (page :: pages)

variable {serve limit} {offset : Nat} {pages others : List (Page β)}

/-- The client reads in one way. -/
theorem Paged.unique (first : Paged serve limit offset pages)
    (second : Paged serve limit offset others) : others = pages := by
  induction first generalizing others with
  | last served done =>
      cases second with
      | last servedOther _ => rw [Option.some.inj (served.symm.trans servedOther)]
      | more servedOther left _ =>
          rw [← Option.some.inj (served.symm.trans servedOther)] at left
          exact absurd done (Nat.not_le.mpr left)
  | more served left rest ih =>
      cases second with
      | last servedOther done =>
          rw [← Option.some.inj (served.symm.trans servedOther)] at done
          exact absurd done (Nat.not_le.mpr left)
      | more servedOther _ restOther =>
          rw [Option.some.inj (served.symm.trans servedOther), ih restOther]

/-- Pages that report the length of the list give all of it, in order. -/
theorem Paged.complete {items : List β} (positive : 0 < limit)
    (serves : ∀ offset, offset = 0 ∨ offset < items.length →
      serve offset = some ⟨(items.drop offset).take limit, items.length⟩)
    (inside : offset = 0 ∨ offset < items.length) :
    ∃ pages, Paged serve limit offset pages ∧ pages.flatMap (·.items) = items.drop offset ∧
      ∀ page ∈ pages, page.total = items.length := by
  induction left : items.length - offset using Nat.strongRecOn generalizing offset with
  | ind count ih =>
      by_cases done : items.length ≤ offset + limit
      · refine ⟨[_], .last (serves offset inside) done, ?_, List.forall_mem_singleton.mpr rfl⟩
        rw [List.flatMap_singleton]
        apply List.take_of_length_le
        rw [List.length_drop]
        omega
      · have further : offset + limit < items.length := Nat.not_le.mp done
        obtain ⟨pages, rest, joined, totals⟩ :=
          ih (items.length - (offset + limit)) (by omega) (Or.inr further) rfl
        refine ⟨_ :: pages, .more (serves offset inside) further rest, ?_,
          List.forall_mem_cons.mpr ⟨rfl, totals⟩⟩
        rw [List.flatMap_cons, joined, ← List.drop_drop, List.take_append_drop]

end Client

end Effect
