/-
This file gives stores that number the versions of each key, and tells what keeps a version.
-/

import Mathlib.Data.List.Basic
import Mathlib.Logic.Function.Basic

namespace Store

/-- Stores number the versions of a key from one. A version with as many newer ones as the capacity
is dropped. -/
structure Versions (σ κ δ : Type) where
  content : σ → κ → Int → Option δ
  current : σ → κ → Nat
  capacity : Nat

namespace Versions

variable {σ κ δ : Type} (store : Versions σ κ δ)

/-- Both states show the same. -/
structure Same (first second : σ) : Prop where
  content : store.content second = store.content first
  current : store.current second = store.current first

/-- One more version of the key is there. -/
structure Written (key : κ) (data : δ) (first second : σ) : Prop where
  counted : store.current second key = store.current first key + 1
  newest : store.content second key (store.current second key) = some data
  earlier : ∀ number ≤ (store.current first key : Int),
    store.current second key < number + store.capacity →
      store.content second key number = store.content first key number
  others : ∀ other ≠ key, store.current second other = store.current first other ∧
    store.content second other = store.content first other

/-- Some versions of the key may be gone. -/
structure Removed (key : κ) (numbers : List Int) (first second : σ) : Prop where
  current : store.current second = store.current first
  content : ∀ other number, other ≠ key ∨ number ∉ numbers →
    store.content second other number = store.content first other number

/-- The store has numbered a version, and it has the content as long as it is not dropped. -/
structure Keeps (state : σ) (key : κ) (number : Int) (data : δ) : Prop where
  positive : 0 < number
  issued : number ≤ store.current state key
  held : store.current state key < number + store.capacity →
    store.content state key number = some data

/-- A change of the store that leaves a version of a key that is numbered and not dropped. -/
structure Spares (key : κ) (number : Int) (first second : σ) : Prop where
  current : store.current first key ≤ store.current second key
  content : number ≤ store.current first key →
    store.current second key < number + store.capacity →
      store.content second key number = store.content first key number

variable {store} {first second third : σ} {key : κ} {number : Int} {data : δ}

theorem Same.refl : store.Same first first := ⟨rfl, rfl⟩

theorem Same.trans (before : store.Same first second) (after : store.Same second third) :
    store.Same first third :=
  ⟨after.content.trans before.content, after.current.trans before.current⟩

theorem Same.written (same : store.Same first second)
    (written : store.Written key data second third) : store.Written key data first third where
  counted := same.current ▸ written.counted
  newest := written.newest
  earlier := same.current ▸ same.content ▸ written.earlier
  others := same.current ▸ same.content ▸ written.others

theorem Same.removed {numbers : List Int} (same : store.Same first second)
    (removed : store.Removed key numbers second third) : store.Removed key numbers first third where
  current := removed.current.trans same.current
  content := same.content ▸ removed.content

theorem Written.keeps (written : store.Written key data first second) :
    store.Keeps second key (store.current second key) data where
  positive := by
    rw [written.counted]
    omega
  issued := Int.le_refl _
  held _ := written.newest

theorem Same.spares (same : store.Same first second) : store.Spares key number first second where
  current := Nat.le_of_eq (congrFun same.current key).symm
  content _ _ := by rw [same.content]

/-- A new version of any key leaves the earlier ones. -/
theorem Written.spares {other : κ} (written : store.Written other data first second) :
    store.Spares key number first second := by
  by_cases different : key = other
  · subst different
    exact ⟨written.counted ▸ Nat.le_succ _, written.earlier number⟩
  · obtain ⟨current, content⟩ := written.others key different
    exact ⟨Nat.le_of_eq current.symm, fun _ _ => by rw [content]⟩

/-- A removal leaves the other versions. -/
theorem Removed.spares {other : κ} {numbers : List Int}
    (removed : store.Removed other numbers first second) (spared : key = other → number ∉ numbers) :
    store.Spares key number first second where
  current := Nat.le_of_eq (congrFun removed.current key).symm
  content _ _ := by
    apply removed.content
    rw [ne_eq, ← imp_iff_not_or]
    exact spared

/-- A version that is spared is kept. -/
theorem Keeps.spares (keeps : store.Keeps first key number data)
    (spares : store.Spares key number first second) : store.Keeps second key number data := by
  obtain ⟨positive, issued, held⟩ := keeps
  have grown := spares.current
  refine ⟨positive, by omega, fun kept => ?_⟩
  rw [spares.content issued kept]
  exact held (by omega)

end Versions

section Listed

variable {κ δ : Type} [DecidableEq κ]

/-- A store may list the versions of each key, with the removed ones empty. -/
abbrev Listed (κ δ : Type) := κ → List (Option δ)

namespace Listed

def write (server : Listed κ δ) (key : κ) (data : δ) : Listed κ δ :=
  Function.update server key (server key ++ [some data])

def remove (server : Listed κ δ) (key : κ) (numbers : List Int) : Listed κ δ :=
  Function.update server key
    ((server key).mapIdx fun index data => if (index + 1 : Int) ∈ numbers then none else data)

/-- The versions that are not dropped are shown. -/
def versions (κ δ : Type) (capacity : Nat) : Versions (Listed κ δ) κ δ where
  content server key number :=
    if 0 < number ∧ (server key).length < number + capacity then
      (server key)[(number - 1).toNat]?.join
    else none
  current server key := (server key).length
  capacity := capacity

theorem write_written {capacity : Nat} (room : 0 < capacity) (server : Listed κ δ) (key : κ)
    (data : δ) : (versions κ δ capacity).Written key data server (server.write key data) where
  counted := by simp [versions, write]
  newest := by
    have shown : ((server key).length + 1 : Int) < (server key).length + 1 + capacity := by omega
    simp [versions, write, shown]
  earlier number issued kept := by
    simp only [versions, write, Function.update_self, List.length_append, List.length_singleton]
      at issued kept ⊢
    by_cases positive : 0 < number
    · have inside : (number - 1).toNat < (server key).length := by omega
      have before : ((server key).length : Int) < number + capacity := by omega
      rw [if_pos ⟨positive, kept⟩, if_pos ⟨positive, before⟩, List.getElem?_append_left inside]
    · rw [if_neg fun shown => positive shown.1, if_neg fun shown => positive shown.1]
  others other different := by simp [versions, write, Function.update_of_ne different]

theorem remove_removed {capacity : Nat} (server : Listed κ δ) (key : κ) (numbers : List Int) :
    (versions κ δ capacity).Removed key numbers server (server.remove key numbers) where
  current := by
    funext other
    by_cases same : other = key
    · subst same
      simp [versions, remove]
    · simp [versions, remove, Function.update_of_ne same]
  content other number spared := by
    by_cases same : other = key
    · subst same
      have spared : number ∉ numbers := by simpa using spared
      simp only [versions, remove, Function.update_self, List.length_mapIdx, List.getElem?_mapIdx]
      split
      · have numbered : (((number - 1).toNat : Int) + 1) = number := by omega
        simp only [numbered, if_neg spared, Option.map_id']
      · rfl
    · simp [versions, remove, Function.update_of_ne same]

end Listed

end Listed

end Store
