/-
This file gives the sequential runs of programs that return or raise.
-/

import Sprawl.Effect.Program

namespace Effect

/-- A sequence of two outcomes returns exactly if both of them do. -/
theorem bind_eq_ok {ε α β : Type} {first : Except ε α} {next : α → Except ε β} {last : β} :
    first >>= next = .ok last ↔ ∃ value, first = .ok value ∧ next value = .ok last := by
  cases first with
  | error exception =>
      constructor
      · intro returned
        cases returned
      · intro given
        obtain ⟨_, returned, _⟩ := given
        cases returned
  | ok value =>
      constructor
      · intro returned
        exact ⟨value, rfl, returned⟩
      · intro given
        obtain ⟨_, same, returned⟩ := given
        cases same
        exact returned

/-- A program that returns a value or raises an exception. -/
abbrev Raising (Command : Type) (Reply : Command → Type) (ε : Type) : Type → Type :=
  ExceptT ε (Program Command Reply)

namespace Raising

variable {Command : Type} {Reply : Command → Type} {ε σ α β : Type}
  (handler : Handler Command Reply σ)

/-- A run ends with a value or an exception, in some state. -/
def run (program : Raising Command Reply ε α) (state : σ) : Except ε α × σ :=
  Program.run handler (ExceptT.run program) state

def trace (program : Raising Command Reply ε α) (state : σ) : List (Moment Command Reply σ) :=
  Program.trace handler (ExceptT.run program) state

/-- The shortest program that issues a command. -/
def perform (issued : Command) : Raising Command Reply ε (Reply issued) :=
  ExceptT.lift (Program.perform issued)

@[simp] theorem run_pure (value : α) (state : σ) :
    run handler (pure value : Raising Command Reply ε α) state = (.ok value, state) := rfl

@[simp] theorem run_throw (exception : ε) (state : σ) :
    run handler (throw exception : Raising Command Reply ε α) state = (.error exception, state) := rfl

@[simp] theorem run_perform (issued : Command) (state : σ) :
    run handler (perform issued : Raising Command Reply ε (Reply issued)) state =
      (.ok (handler issued state).1, (handler issued state).2) := rfl

@[simp] theorem trace_pure (value : α) (state : σ) :
    trace handler (pure value : Raising Command Reply ε α) state = [] := rfl

@[simp] theorem trace_throw (exception : ε) (state : σ) :
    trace handler (throw exception : Raising Command Reply ε α) state = [] := rfl

@[simp] theorem trace_perform (issued : Command) (state : σ) :
    trace handler (perform issued : Raising Command Reply ε (Reply issued)) state =
      [⟨state, issued, (handler issued state).1⟩] := rfl

section Bind

variable {program : Raising Command Reply ε α} {next : α → Raising Command Reply ε β}
  {state reached : σ} {value : α} {exception : ε}

/-- A program that returns hands its value on. -/
theorem run_bind_ok (ran : run handler program state = (.ok value, reached)) :
    run handler (program >>= next) state = run handler (next value) reached := by
  rw [run] at ran ⊢
  rw [ExceptT.run_bind, Program.run_bind, ran]
  rfl

/-- An exception ends the sequence. -/
theorem run_bind_error (ran : run handler program state = (.error exception, reached)) :
    run handler (program >>= next) state = (.error exception, reached) := by
  rw [run] at ran ⊢
  rw [ExceptT.run_bind, Program.run_bind, ran]
  rfl

/-- A sequence returns exactly if both of its parts do. -/
theorem run_bind_ok_iff {last : β} {after : σ} :
    run handler (program >>= next) state = (.ok last, after) ↔
      ∃ first middle, run handler program state = (.ok first, middle) ∧
        run handler (next first) middle = (.ok last, after) := by
  rcases ran : run handler program state with ⟨first | first, middle⟩
  · rw [run_bind_error handler ran]
    constructor
    · intro returned
      cases returned
    · intro given
      obtain ⟨_, _, returned, _⟩ := given
      cases returned
  · rw [run_bind_ok handler ran]
    constructor
    · intro returned
      exact ⟨first, middle, rfl, returned⟩
    · intro given
      obtain ⟨_, _, same, returned⟩ := given
      cases same
      exact returned

/-- Two programs with one outcome have one outcome before the same rest. -/
theorem run_bind_congr {other : Raising Command Reply ε α} {start : σ}
    (same : run handler program state = run handler other start) :
    run handler (program >>= next) state = run handler (other >>= next) start := by
  rcases ran : run handler other start with ⟨exception | value, middle⟩
  · rw [run_bind_error handler (same.trans ran), run_bind_error handler ran]
  · rw [run_bind_ok handler (same.trans ran), run_bind_ok handler ran]

theorem trace_bind_ok (ran : run handler program state = (.ok value, reached)) :
    trace handler (program >>= next) state =
      trace handler program state ++ trace handler (next value) reached := by
  rw [run] at ran
  rw [trace, ExceptT.run_bind, Program.trace_bind, ran]
  rfl

theorem trace_bind_error (ran : run handler program state = (.error exception, reached)) :
    trace handler (program >>= next) state = trace handler program state := by
  rw [run] at ran
  rw [trace, ExceptT.run_bind, Program.trace_bind, ran]
  exact List.append_nil _

end Bind

section Catch

variable {program : Raising Command Reply ε α} {handle : ε → Raising Command Reply ε α}
  {state reached : σ} {value : α} {exception : ε}

theorem run_catch_ok (ran : run handler program state = (.ok value, reached)) :
    run handler (tryCatch program handle) state = (.ok value, reached) := by
  change Program.run handler (ExceptT.run program >>= _) state = _
  rw [run] at ran
  rw [Program.run_bind, ran]
  rfl

theorem run_catch_error (ran : run handler program state = (.error exception, reached)) :
    run handler (tryCatch program handle) state = run handler (handle exception) reached := by
  change Program.run handler (ExceptT.run program >>= _) state = _
  rw [run] at ran
  rw [Program.run_bind, ran]
  rfl

theorem trace_catch_ok (ran : run handler program state = (.ok value, reached)) :
    trace handler (tryCatch program handle) state = trace handler program state := by
  change Program.trace handler (ExceptT.run program >>= _) state = _
  rw [run] at ran
  rw [Program.trace_bind, ran]
  exact List.append_nil _

theorem trace_catch_error (ran : run handler program state = (.error exception, reached)) :
    trace handler (tryCatch program handle) state =
      trace handler program state ++ trace handler (handle exception) reached := by
  change Program.trace handler (ExceptT.run program >>= _) state = _
  rw [run] at ran
  rw [Program.trace_bind, ran]
  rfl

end Catch

section Issues

/-- Every command of the program is allowed. -/
def Issues (allowed : Command → Prop) (program : Raising Command Reply ε α) : Prop :=
  Program.Issues allowed (ExceptT.run program)

variable {allowed : Command → Prop} {program : Raising Command Reply ε α}

theorem issues_bind {next : α → Raising Command Reply ε β} (first : Issues allowed program)
    (later : ∀ value, Issues allowed (next value)) : Issues allowed (program >>= next) := by
  rw [Issues, ExceptT.run_bind]
  refine Program.issues_bind first fun value => ?_
  cases value with
  | error exception => exact Program.issues_pure _
  | ok value => exact later value

theorem issues_catch {handle : ε → Raising Command Reply ε α} (first : Issues allowed program)
    (later : ∀ exception, Issues allowed (handle exception)) :
    Issues allowed (tryCatch program handle) := by
  refine Program.issues_bind first fun value => ?_
  cases value with
  | error exception => exact later exception
  | ok value => exact Program.issues_pure _

theorem issues_perform {issued : Command} (isAllowed : allowed issued) :
    Issues allowed (perform issued : Raising Command Reply ε (Reply issued)) :=
  ⟨isAllowed, fun _ => trivial⟩

theorem issues_pure (value : α) : Issues allowed (pure value : Raising Command Reply ε α) := trivial

end Issues

end Raising

end Effect
