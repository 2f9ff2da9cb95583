/-
This file gives texts that can be cancelled from the left of two longer texts.
-/

import Mathlib.Data.List.Basic

namespace Text

variable {α β γ : Type}

/-- Two texts meet under a condition: two longer texts that start with them are equal exactly if the
condition holds and the rests are equal. -/
def Meets (first second : List α) (condition : Prop) : Prop :=
  ∀ firstRest secondRest,
    first ++ firstRest = second ++ secondRest ↔ condition ∧ firstRest = secondRest

variable {first second third fourth : List α} {condition other : Prop}

/-- A text meets itself. -/
theorem meets_self (text : List α) : Meets text text True := by
  intro firstRest secondRest
  rw [List.append_cancel_left_eq, true_and]

/-- Texts that differ at some place never meet. -/
theorem meets_never {index : Nat} {firstAt secondAt : α} (atFirst : first[index]? = some firstAt)
    (atSecond : second[index]? = some secondAt) (different : firstAt ≠ secondAt) :
    Meets first second False := by
  intro firstRest secondRest
  rw [false_and, iff_false]
  intro same
  have places := congrArg (·[index]?) same
  have firstLong : index < first.length := (List.getElem?_eq_some_iff.mp atFirst).1
  have secondLong : index < second.length := (List.getElem?_eq_some_iff.mp atSecond).1
  simp only [List.getElem?_append_left firstLong, List.getElem?_append_left secondLong, atFirst,
    atSecond] at places
  exact different (Option.some.inj places)

/-- A common start makes no difference. -/
theorem Meets.cons (meets : Meets first second condition) (head : α) :
    Meets (head :: first) (head :: second) condition := by
  intro firstRest secondRest
  rw [List.cons_append, List.cons_append, List.cons.injEq, meets firstRest secondRest]
  exact and_iff_right rfl

/-- Two meetings follow one after the other. -/
theorem Meets.append (starts : Meets first second condition) (ends : Meets third fourth other) :
    Meets (first ++ third) (second ++ fourth) (condition ∧ other) := by
  intro firstRest secondRest
  rw [List.append_assoc, List.append_assoc, starts, ends, and_assoc]

/-- Longer texts do not meet either. -/
theorem Meets.never_append (never : Meets first second False) (firstMore secondMore : List α) :
    Meets (first ++ firstMore) (second ++ secondMore) False := by
  intro firstRest secondRest
  rw [List.append_assoc, List.append_assoc, never, false_and, false_and]

/-- The condition of a meeting may be written in another way. -/
theorem Meets.congr (meets : Meets first second condition) (same : condition ↔ other) :
    Meets first second other := by
  intro firstRest secondRest
  rw [meets firstRest secondRest, same]

theorem Meets.symm (meets : Meets first second condition) : Meets second first condition := by
  intro secondRest firstRest
  rw [eq_comm, meets firstRest secondRest, @eq_comm _ firstRest]

/-- Texts that meet are equal exactly under their condition. -/
theorem Meets.eq_iff (meets : Meets first second condition) : first = second ↔ condition := by
  have whole := meets [] []
  rwa [List.append_nil, List.append_nil, and_iff_left rfl] at whole

/-- Texts up to a terminator meet exactly if they are equal. -/
theorem meets_terminated {terminator : α} (firstFree : terminator ∉ first)
    (secondFree : terminator ∉ second) :
    Meets (first ++ [terminator]) (second ++ [terminator]) (first = second) := by
  induction first generalizing second with
  | nil =>
      cases second with
      | nil => exact (meets_self [terminator]).congr (by simp)
      | cons head tail =>
          have different : terminator ≠ head := fun same => secondFree (same ▸ List.mem_cons_self)
          exact (@meets_never _ _ _ 0 terminator head rfl rfl different).congr (by simp)
  | cons head tail ih =>
      rw [List.mem_cons, not_or] at firstFree
      cases second with
      | nil =>
          exact (@meets_never _ _ _ 0 head terminator rfl rfl (Ne.symm firstFree.1)).congr (by simp)
      | cons other rest =>
          rw [List.mem_cons, not_or] at secondFree
          by_cases same : head = other
          · subst same
            exact ((ih firstFree.2 secondFree.2).cons head).congr (by simp)
          · exact (@meets_never _ _ _ 0 head other rfl rfl same).congr (by simp [same])

/-- Texts between separators meet where all their parts meet. -/
theorem meets_intercalate (separator : List α) {firstPart secondPart : β → List α}
    {holds : β → Prop} {parts : List β}
    (meets : ∀ part ∈ parts, Meets (firstPart part) (secondPart part) (holds part)) :
    Meets (separator.intercalate (parts.map firstPart))
      (separator.intercalate (parts.map secondPart)) (∀ part ∈ parts, holds part) := by
  induction parts with
  | nil => exact (meets_self []).congr (by simp)
  | cons part rest ih =>
      have head := meets part List.mem_cons_self
      cases rest with
      | nil => simpa using head
      | cons next rest =>
          have tail := ih fun later inside => meets later (List.mem_cons_of_mem part inside)
          have joined := (head.append (meets_self separator)).append tail
          rw [List.map_cons, List.map_cons, List.map_cons, List.map_cons,
            List.intercalate_cons_cons, List.intercalate_cons_cons]
          exact joined.congr (by rw [and_true, ← List.forall_mem_cons])

/-- The same for the parts of two lists of one length. -/
theorem meets_intercalate_zip (separator : List α) {firstPart : β → List α}
    {secondPart : γ → List α} {holds : β × γ → Prop} {firsts : List β} {seconds : List γ}
    (lengths : firsts.length = seconds.length)
    (meets : ∀ pair ∈ firsts.zip seconds,
      Meets (firstPart pair.1) (secondPart pair.2) (holds pair)) :
    Meets (separator.intercalate (firsts.map firstPart))
      (separator.intercalate (seconds.map secondPart)) (∀ pair ∈ firsts.zip seconds, holds pair) := by
  have left : firsts.map firstPart = (firsts.zip seconds).map fun pair => firstPart pair.1 := by
    change _ = (firsts.zip seconds).map (firstPart ∘ Prod.fst)
    rw [← List.map_map, List.map_fst_zip (Nat.le_of_eq lengths)]
  have right : seconds.map secondPart = (firsts.zip seconds).map fun pair => secondPart pair.2 := by
    change _ = (firsts.zip seconds).map (secondPart ∘ Prod.snd)
    rw [← List.map_map, List.map_snd_zip (Nat.le_of_eq lengths.symm)]
  rw [left, right]
  exact meets_intercalate separator meets

end Text
