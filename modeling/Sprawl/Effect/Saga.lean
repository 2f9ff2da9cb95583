/-
This file gives sagas: steps that run in order, and after a failure are undone in reverse order.
-/

import Mathlib.Data.List.Basic

namespace Effect

/-- A step runs, with or without success, or a step that has run is undone. -/
inductive SagaEvent (σ : Type) where
  | ran (step : σ) (succeeded : Bool)
  | undid (step : σ)
  deriving DecidableEq, Repr

/-- A saga goes forward, or it undoes what has run. The step that ran last comes first. -/
inductive Saga (σ : Type) where
  | going (done opened : List σ)
  | undoing (left : List σ)
  deriving DecidableEq, Repr

namespace Saga

variable {σ : Type} [DecidableEq σ]

/-- A saga runs the first open step only, and undoes the latest step only. -/
def next : SagaEvent σ → Saga σ → Option (Saga σ)
  | .ran step succeeded, .going done (first :: opened) =>
      if step = first then
        some (if succeeded then .going (first :: done) opened else .undoing done)
      else none
  | .undid step, .undoing (first :: left) => if step = first then some (.undoing left) else none
  | _, _ => none

/-- The saga after some events, when it allows them. -/
def follow : List (SagaEvent σ) → Saga σ → Option (Saga σ)
  | [], saga => some saga
  | event :: rest, saga => (saga.next event).bind (follow rest)

/-- Nothing is left to undo. -/
def Rested : Saga σ → Prop
  | .going _ _ => True
  | .undoing left => left = []

omit [DecidableEq σ] in
theorem rested_going (done opened : List σ) : (Saga.going done opened).Rested := trivial

theorem follow_append (first second : List (SagaEvent σ)) (saga : Saga σ) :
    follow (first ++ second) saga = (follow first saga).bind (follow second) := by
  induction first generalizing saga with
  | nil => rfl
  | cons event rest ih =>
      rw [List.cons_append, follow, follow, Option.bind_assoc]
      exact congrArg _ (funext ih)

/-- The steps that are left are undone in their order. -/
theorem follow_undid (left : List σ) :
    follow (left.map .undid) (.undoing left) = some (.undoing []) := by
  induction left with
  | nil => rfl
  | cons first rest ih =>
      rw [List.map_cons, follow, next, if_pos rfl]
      exact ih

theorem next_undoing {event : SagaEvent σ} {left : List σ} {saga : Saga σ}
    (moves : (Saga.undoing left).next event = some saga) :
    ∃ first rest, left = first :: rest ∧ event = .undid first ∧ saga = .undoing rest := by
  cases event with
  | ran step succeeded => cases moves
  | undid step =>
      cases left with
      | nil => cases moves
      | cons first rest =>
          rw [next] at moves
          split at moves
          · next same => exact ⟨first, rest, rfl, same ▸ rfl, (Option.some.inj moves).symm⟩
          · cases moves

/-- A saga that undoes its steps keeps to their order. -/
theorem follow_undoing {events : List (SagaEvent σ)} {left : List σ} {saga : Saga σ}
    (follows : follow events (.undoing left) = some saga) :
    ∃ undone rest, left = undone ++ rest ∧ events = undone.map .undid ∧ saga = .undoing rest := by
  induction events generalizing left with
  | nil => exact ⟨[], left, rfl, rfl, (Option.some.inj follows).symm⟩
  | cons event later ih =>
      rw [follow, Option.bind_eq_some_iff] at follows
      obtain ⟨middle, moves, onward⟩ := follows
      obtain ⟨first, rest, rfl, rfl, rfl⟩ := next_undoing moves
      obtain ⟨undone, kept, rfl, rfl, ends⟩ := ih onward
      exact ⟨first :: undone, kept, rfl, rfl, ends⟩

/-- The events of a saga: steps that succeed, in order, and after the first failure the undoing of
the latest ones. -/
theorem follow_going {events : List (SagaEvent σ)} {done opened : List σ} {saga : Saga σ}
    (follows : follow events (.going done opened) = some saga) :
    (∃ ended waiting, opened = ended ++ waiting ∧ events = ended.map (.ran · true) ∧
      saga = .going (ended.reverse ++ done) waiting) ∨
    ∃ ended failed waiting undone left, opened = ended ++ failed :: waiting ∧
      ended.reverse ++ done = undone ++ left ∧
      events = ended.map (.ran · true) ++ .ran failed false :: undone.map .undid ∧
      saga = .undoing left := by
  induction events generalizing done opened with
  | nil => exact Or.inl ⟨[], opened, rfl, rfl, (Option.some.inj follows).symm⟩
  | cons event later ih =>
      rw [follow, Option.bind_eq_some_iff] at follows
      obtain ⟨middle, moves, onward⟩ := follows
      cases event with
      | undid step => cases moves
      | ran step succeeded =>
          cases opened with
          | nil => cases moves
          | cons first rest =>
              rw [next] at moves
              split at moves
              · next same =>
                  subst same
                  obtain rfl := Option.some.inj moves
                  cases succeeded with
                  | false =>
                      obtain ⟨undone, left, split, rfl, ends⟩ := follow_undoing onward
                      exact Or.inr ⟨[], step, rest, undone, left, rfl, split, rfl, ends⟩
                  | true =>
                      obtain ⟨ended, waiting, rfl, rfl, rfl⟩ |
                        ⟨ended, failed, waiting, undone, left, rfl, split, rfl, rfl⟩ := ih onward
                      · exact Or.inl ⟨step :: ended, waiting, rfl, rfl, by simp⟩
                      · refine Or.inr ⟨step :: ended, failed, waiting, undone, left, rfl, ?_, rfl, rfl⟩
                        rw [← split]
                        simp
              · cases moves

/-- A saga that rests has run some steps, and after a failure it has undone all of them. -/
theorem follow_rested {events : List (SagaEvent σ)} {opened : List σ} {saga : Saga σ}
    (follows : follow events (.going [] opened) = some saga) (rested : saga.Rested) :
    (∃ ended waiting, opened = ended ++ waiting ∧ events = ended.map (.ran · true)) ∨
    ∃ ended failed waiting, opened = ended ++ failed :: waiting ∧
      events = ended.map (.ran · true) ++ .ran failed false :: ended.reverse.map .undid := by
  obtain ⟨ended, waiting, split, same, _⟩ |
    ⟨ended, failed, waiting, undone, left, split, parts, same, rfl⟩ := follow_going follows
  · exact Or.inl ⟨ended, waiting, split, same⟩
  · have none : left = [] := rested
    rw [none, List.append_nil, List.append_nil] at parts
    exact Or.inr ⟨ended, failed, waiting, split, parts ▸ same⟩

end Saga

end Effect
