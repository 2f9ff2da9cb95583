/-
This file gives the runs of a system that takes one action after the other.
-/

import Mathlib.Data.List.Basic

namespace Effect

section Run

variable {Action σ : Type} (step : Action → σ → σ)

/-- The state after a list of actions. -/
def runActions : List Action → σ → σ
  | [], state => state
  | action :: rest, state => runActions rest (step action state)

/-- The visits of a run pair each action with the state that it meets. -/
def visits : List Action → σ → List (σ × Action)
  | [], _ => []
  | action :: rest, state => (state, action) :: visits rest (step action state)

@[simp] theorem runActions_nil (state : σ) : runActions step [] state = state := rfl

@[simp] theorem runActions_cons (action : Action) (rest : List Action) (state : σ) :
    runActions step (action :: rest) state = runActions step rest (step action state) := rfl

@[simp] theorem visits_nil (state : σ) : visits step [] state = [] := rfl

@[simp] theorem visits_cons (action : Action) (rest : List Action) (state : σ) :
    visits step (action :: rest) state = (state, action) :: visits step rest (step action state) := rfl

theorem visits_append (first second : List Action) (state : σ) :
    visits step (first ++ second) state =
      visits step first state ++ visits step second (runActions step first state) := by
  induction first generalizing state with
  | nil => rfl
  | cons action rest ih => exact congrArg (_ :: ·) (ih (step action state))

theorem runActions_append (first second : List Action) (state : σ) :
    runActions step (first ++ second) state =
      runActions step second (runActions step first state) := by
  induction first generalizing state with
  | nil => rfl
  | cons action rest ih => exact ih (step action state)

/-- A visit is a prefix of the run followed by the action. -/
theorem mem_visits_iff {actions : List Action} {state : σ} {visit : σ × Action} :
    visit ∈ visits step actions state ↔
      ∃ before after, actions = before ++ visit.2 :: after ∧ visit.1 = runActions step before state := by
  induction actions generalizing state with
  | nil => simp
  | cons action rest ih =>
      rw [visits_cons, List.mem_cons, ih]
      constructor
      · intro given
        obtain rfl | ⟨before, after, rfl, reached⟩ := given
        · exact ⟨[], rest, rfl, rfl⟩
        · exact ⟨action :: before, after, rfl, reached⟩
      · intro given
        obtain ⟨before, after, split, reached⟩ := given
        cases before with
        | nil =>
            left
            obtain ⟨rfl, _⟩ := List.cons.inj split
            exact Prod.ext reached rfl
        | cons head before =>
            right
            obtain ⟨rfl, tail⟩ := List.cons.inj split
            exact ⟨before, after, tail, reached⟩

/-- The action of a visit is an action of the run. -/
theorem mem_of_mem_visits {actions : List Action} {state : σ} {visit : σ × Action}
    (inside : visit ∈ visits step actions state) : visit.2 ∈ actions := by
  obtain ⟨before, after, rfl, _⟩ := (mem_visits_iff step).mp inside
  exact List.mem_append_right _ List.mem_cons_self

end Run

section Growth

variable {Action σ : Type} {step : Action → σ → σ} {grows : σ → σ → Prop}

/-- What grows at every step grows from each visit to the end of the run. -/
theorem grows_runActions (refl : ∀ state, grows state state)
    (trans : ∀ {first second third}, grows first second → grows second third → grows first third)
    (each : ∀ state action, grows state (step action state)) (actions : List Action) (state : σ) :
    grows state (runActions step actions state) := by
  induction actions generalizing state with
  | nil => exact refl state
  | cons action rest ih => exact trans (each state action) (ih (step action state))

theorem grows_visits (refl : ∀ state, grows state state)
    (trans : ∀ {first second third}, grows first second → grows second third → grows first third)
    (each : ∀ state action, grows state (step action state)) {actions : List Action} {state : σ} :
    ∀ visit ∈ visits step actions state,
      grows (step visit.2 visit.1) (runActions step actions state) := by
  induction actions generalizing state with
  | nil => simp
  | cons action rest ih =>
      rw [visits_cons, List.forall_mem_cons]
      exact ⟨grows_runActions refl trans each rest _, ih⟩

end Growth

section Invariant

variable {Action σ : Type} {step : Action → σ → σ} {allowed : σ → Action → Prop}
  (invariant : σ → Prop)

/-- A run whose steps are all allowed keeps an invariant of the allowed steps. -/
theorem invariant_runActions
    (preserved : ∀ state action, invariant state → allowed state action →
      invariant (step action state))
    {actions : List Action} {state : σ} (start : invariant state)
    (guarded : ∀ visit ∈ visits step actions state, allowed visit.1 visit.2) :
    invariant (runActions step actions state) := by
  induction actions generalizing state with
  | nil => exact start
  | cons action rest ih =>
      have first := guarded (state, action) (by simp)
      exact ih (preserved state action start first)
        fun visit inside => guarded visit (List.mem_cons_of_mem _ inside)

/-- The same invariant holds at every visit. -/
theorem invariant_visits
    (preserved : ∀ state action, invariant state → allowed state action →
      invariant (step action state))
    {actions : List Action} {state : σ} (start : invariant state)
    (guarded : ∀ visit ∈ visits step actions state, allowed visit.1 visit.2) :
    ∀ visit ∈ visits step actions state, invariant visit.1 := by
  induction actions generalizing state with
  | nil => simp
  | cons action rest ih =>
      intro visit inside
      rw [visits_cons, List.mem_cons] at inside
      rcases inside with rfl | inside
      · exact start
      · have first := guarded (state, action) (by simp)
        exact ih (preserved state action start first)
          (fun other within => guarded other (List.mem_cons_of_mem _ within)) visit inside

/-- An unconditional invariant holds at the end of every run. -/
theorem invariant_always
    (preserved : ∀ state action, invariant state → invariant (step action state))
    {actions : List Action} {state : σ} (start : invariant state) :
    invariant (runActions step actions state) :=
  invariant_runActions invariant (fun state action holds (_ : True) => preserved state action holds) start
    fun _ _ => trivial

/-- An unconditional invariant holds at every visit. -/
theorem invariant_visits_always
    (preserved : ∀ state action, invariant state → invariant (step action state))
    {actions : List Action} {state : σ} (start : invariant state) :
    ∀ visit ∈ visits step actions state, invariant visit.1 :=
  invariant_visits invariant (fun state action holds (_ : True) => preserved state action holds) start
    fun _ _ => trivial

end Invariant

section Departure

variable {Action σ : Type} {step : Action → σ → σ} {invariant holds : σ → Prop}
  {departs : σ → Action → Prop}

/-- Where every departure breaks a property and every other step keeps an invariant that implies it,
the property holds after every part of a run exactly if no visit of the run departs. -/
theorem holds_iff_never_departs (implied : ∀ state, invariant state → holds state)
    (kept : ∀ state action, invariant state → ¬ departs state action →
      invariant (step action state))
    (broken : ∀ state action, invariant state → departs state action →
      ¬ holds (step action state))
    {actions : List Action} {state : σ} (start : invariant state) :
    (∀ before, before <+: actions → holds (runActions step before state)) ↔
      ∀ visit ∈ visits step actions state, ¬ departs visit.1 visit.2 := by
  induction actions generalizing state with
  | nil =>
      constructor
      · intro _ visit inside
        exact absurd inside List.not_mem_nil
      · intro _ before inside
        rw [List.prefix_nil.mp inside]
        exact implied state start
  | cons action rest ih =>
      rw [visits_cons, List.forall_mem_cons]
      constructor
      · intro every
        have first : ¬ departs state action := by
          intro departed
          have one : [action] <+: action :: rest := ⟨rest, rfl⟩
          exact broken state action start departed (every [action] one)
        refine ⟨first, (ih (kept state action start first)).mp fun before inside => ?_⟩
        exact every (action :: before) ((List.prefix_cons_inj action).mpr inside)
      · intro guarded before inside
        obtain ⟨first, others⟩ := guarded
        cases before with
        | nil => exact implied state start
        | cons head before =>
            obtain ⟨rfl, within⟩ := List.cons_prefix_cons.mp inside
            exact (ih (kept state head start first)).mpr others before within

end Departure

end Effect
