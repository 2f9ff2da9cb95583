/-
This file gives computations that return or raise, with a log of the calls that they make.
-/

import Mathlib.Data.List.Basic

namespace Effect

/-- The calls that a computation makes, in turn, and how it ends. -/
structure Logged (κ ε α : Type) where
  calls : List κ
  result : Except ε α

namespace Logged

variable {κ ε α β : Type}

/-- A call is made, and then it is answered. -/
def call (made : κ) (answer : Except ε α) : Logged κ ε α where
  calls := [made]
  result := answer

def raise (raised : ε) : Logged κ ε α where
  calls := []
  result := .error raised

/-- A computation that raised makes no further calls. -/
def bind (first : Logged κ ε α) (next : α → Logged κ ε β) : Logged κ ε β where
  calls := first.calls ++ match first.result with
    | .ok value => (next value).calls
    | .error _ => []
  result := first.result >>= fun value => (next value).result

instance : Monad (Logged κ ε) where
  pure value := { calls := [], result := .ok value }
  bind := bind

/-- A computation whose exceptions are caught. -/
def attempt (body : Logged κ ε α) : Logged κ ε (Except ε α) where
  calls := body.calls
  result := .ok body.result

/-- The lists of all items, joined. -/
def collect (visit : α → Logged κ ε (List β)) : List α → Logged κ ε (List β)
  | [] => pure []
  | item :: rest => do
      let here ← visit item
      let others ← collect visit rest
      return here ++ others

@[simp] theorem result_pure (value : α) : (pure value : Logged κ ε α).result = .ok value := rfl

@[simp] theorem result_bind (first : Logged κ ε α) (next : α → Logged κ ε β) :
    (first >>= next).result = first.result >>= fun value => (next value).result := rfl

@[simp] theorem result_call (made : κ) (answer : Except ε α) :
    (call made answer).result = answer := rfl

@[simp] theorem result_raise (raised : ε) : (raise raised : Logged κ ε α).result = .error raised := rfl

@[simp] theorem result_attempt (body : Logged κ ε α) : body.attempt.result = .ok body.result := rfl

/-- Visits that do not raise give a list for every item. -/
theorem result_collect {visit : α → Logged κ ε (List β)} {found : α → List β}
    (visits : ∀ item, (visit item).result = .ok (found item)) (items : List α) :
    (collect visit items).result = .ok (items.flatMap found) := by
  induction items with
  | nil => rfl
  | cons item rest ih =>
      rw [collect, result_bind, visits item, List.flatMap_cons]
      change (do let others ← (collect visit rest).result; Except.ok (found item ++ others)) = _
      rw [ih]
      rfl

/-- Every call of the computation has a property. -/
def Makes (allowed : κ → Prop) (body : Logged κ ε α) : Prop := ∀ made ∈ body.calls, allowed made

variable {allowed : κ → Prop}

theorem makes_pure (value : α) : Makes allowed (pure value : Logged κ ε α) :=
  fun _ inside => absurd inside List.not_mem_nil

theorem makes_raise (raised : ε) : Makes allowed (raise raised : Logged κ ε α) :=
  fun _ inside => absurd inside List.not_mem_nil

theorem makes_call {made : κ} (answer : Except ε α) (here : allowed made) :
    Makes allowed (call made answer) :=
  List.forall_mem_singleton.mpr here

theorem makes_attempt {body : Logged κ ε α} (makes : Makes allowed body) :
    Makes allowed body.attempt := makes

theorem makes_bind {first : Logged κ ε α} {next : α → Logged κ ε β} (here : Makes allowed first)
    (later : ∀ value, Makes allowed (next value)) : Makes allowed (first >>= next) := by
  refine List.forall_mem_append.mpr ⟨here, ?_⟩
  cases first.result with
  | ok value => exact later value
  | error raised => exact fun _ inside => absurd inside List.not_mem_nil

theorem makes_collect {visit : α → Logged κ ε (List β)} (visits : ∀ item, Makes allowed (visit item))
    (items : List α) : Makes allowed (collect visit items) := by
  induction items with
  | nil => exact makes_pure []
  | cons item rest ih =>
      exact makes_bind (visits item) fun here => makes_bind ih fun others => makes_pure _

/-- The calls of the first computation come first. -/
theorem mem_calls_bind {first : Logged κ ε α} {next : α → Logged κ ε β} {made : κ}
    (inside : made ∈ first.calls) : made ∈ (first >>= next).calls :=
  List.mem_append_left _ inside

theorem mem_calls_bind_ok {first : Logged κ ε α} {next : α → Logged κ ε β} {made : κ} {value : α}
    (answered : first.result = .ok value) (inside : made ∈ (next value).calls) :
    made ∈ (first >>= next).calls := by
  refine List.mem_append_right _ ?_
  rw [answered]
  exact inside

end Logged

end Effect
