/-
This file gives programs whose commands meet a state that others move, and clients that page through
a list while it grows.
-/

import Sprawl.Effect.Paging
import Sprawl.Effect.Program

namespace Effect

section Amid

variable {Command : Type} {Reply : Command → Type} {σ α : Type} (others : σ → σ → Prop)
  (handler : Handler Command Reply σ)

end Amid

section Client

variable {σ β : Type} (serve : Nat → σ → Page β → σ → Prop) (limit : Nat)

/-- The client asks at an offset, and goes on by the limit while the total is not reached. A request
begins in one state and ends in another one. -/
inductive LivePaged : Nat → σ → List (Page β) → σ → Prop
  | last {offset : Nat} {state next : σ} {page : Page β} (served : serve offset state page next)
      (done : page.total ≤ offset + limit) : LivePaged offset state [page] next
  | more {offset : Nat} {state next last : σ} {page : Page β} {pages : List (Page β)}
      (served : serve offset state page next) (left : offset + limit < page.total)
      (rest : LivePaged (offset + limit) next pages last) :
      LivePaged offset state (page :: pages) last

/-- The data of a page come from one state, and its total comes from a later one. -/
structure ServedLate (later : σ → σ → Prop) (items : σ → List β) (offset : Nat) (state : σ)
    (page : Page β) (next : σ) : Prop where
  data : ∃ met, later state met ∧ later met next ∧ page.items = ((items met).drop offset).take limit
  total : page.total = (items next).length

/-- What a client relies on: requests keep an invariant under which the list only grows and pages
are served from it. -/
structure Served (later : σ → σ → Prop) (items : σ → List β) (holds : σ → Prop) : Prop where
  trans : ∀ first second third, later first second → later second third → later first third
  kept : ∀ first second, later first second → holds first → holds second
  grows : ∀ first second, later first second → holds first → (items first).Sublist (items second)
  serves : ∀ offset state page next, serve offset state page next → holds state →
    ServedLate limit later items offset state page next

variable {serve limit} {later : σ → σ → Prop} {items : σ → List β} {holds : σ → Prop} {offset : Nat}
  {state last : σ} {pages : List (Page β)}

/-- What stands behind the offset at the start is received, in order. -/
theorem LivePaged.complete (served : Served serve limit later items holds) (start : holds state)
    (read : LivePaged serve limit offset state pages last) :
    ((items state).drop offset).Sublist (pages.flatMap (·.items)) := by
  induction read with
  | @last offset state next page answered done =>
      obtain ⟨⟨met, moved, counted, data⟩, total⟩ := served.serves _ _ _ _ answered start
      have few : (items met).length ≤ (items next).length :=
        (served.grows _ _ counted (served.kept _ _ moved start)).length_le
      have whole : ((items met).drop offset).take limit = (items met).drop offset := by
        apply List.take_of_length_le
        rw [List.length_drop]
        omega
      rw [List.flatMap_singleton, data, whole]
      exact (served.grows _ _ moved start).drop offset
  | @more offset state next last page pages answered left rest ih =>
      obtain ⟨⟨met, moved, counted, data⟩, _⟩ := served.serves _ _ _ _ answered start
      have reached : holds next := served.kept _ _ (served.trans _ _ _ moved counted) start
      have behind : ((items met).drop (offset + limit)).Sublist (pages.flatMap (·.items)) :=
        ((served.grows _ _ counted (served.kept _ _ moved start)).drop _).trans (ih reached)
      rw [List.flatMap_cons, data]
      calc ((items state).drop offset).Sublist ((items met).drop offset) :=
            (served.grows _ _ moved start).drop offset
        _ = ((items met).drop offset).take limit ++ (items met).drop (offset + limit) := by
            rw [← List.drop_drop, List.take_append_drop]
        List.Sublist _ _ := (List.Sublist.refl _).append behind

/-- The client receives only items that are there in the end. -/
theorem LivePaged.sound (served : Served serve limit later items holds) (start : holds state)
    (read : LivePaged serve limit offset state pages last) :
    later state last ∧ ∀ item ∈ pages.flatMap (·.items), item ∈ items last := by
  induction read with
  | @last offset state next page answered done =>
      obtain ⟨⟨met, moved, counted, data⟩, _⟩ := served.serves _ _ _ _ answered start
      refine ⟨served.trans _ _ _ moved counted, fun item inside => ?_⟩
      rw [List.flatMap_singleton, data] at inside
      exact (served.grows _ _ counted (served.kept _ _ moved start)).subset
        (List.mem_of_mem_drop (List.mem_of_mem_take inside))
  | @more offset state next last page pages answered left rest ih =>
      obtain ⟨⟨met, moved, counted, data⟩, _⟩ := served.serves _ _ _ _ answered start
      have step : later state next := served.trans _ _ _ moved counted
      obtain ⟨reached, received⟩ := ih (served.kept _ _ step start)
      refine ⟨served.trans _ _ _ step reached, ?_⟩
      rw [List.flatMap_cons, List.forall_mem_append]
      refine ⟨fun item inside => ?_, received⟩
      rw [data] at inside
      exact (served.grows _ _ (served.trans _ _ _ counted reached)
        (served.kept _ _ moved start)).subset (List.mem_of_mem_drop (List.mem_of_mem_take inside))

end Client

end Effect
