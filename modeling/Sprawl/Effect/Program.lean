/-
This file gives programs that act only through commands, and their sequential runs.
-/

import Mathlib.Data.List.Basic
import Mathlib.Logic.Function.Basic

namespace Effect

/-- A program issues one command at a time and continues with its reply. -/
inductive Program (Command : Type) (Reply : Command → Type) (α : Type) : Type where
  | pure (value : α)
  | command (issued : Command) (next : Reply issued → Program Command Reply α)

/-- A handler answers a command and moves the state. -/
abbrev Handler (Command : Type) (Reply : Command → Type) (σ : Type) :=
  (issued : Command) → σ → Reply issued × σ

/-- A moment is one command of a run, the state that met it and the reply. -/
structure Moment (Command : Type) (Reply : Command → Type) (σ : Type) where
  state : σ
  issued : Command
  reply : Reply issued

namespace Program

variable {Command : Type} {Reply : Command → Type} {σ α β γ : Type}

def bind : Program Command Reply α → (α → Program Command Reply β) → Program Command Reply β
  | .pure value, next => next value
  | .command issued rest, next => .command issued fun reply => (rest reply).bind next

instance : Monad (Program Command Reply) where
  pure := .pure
  bind := .bind

/-- The shortest program that issues a command. -/
def perform (issued : Command) : Program Command Reply (Reply issued) :=
  .command issued .pure

@[simp] theorem bind_pure_left (value : α) (next : α → Program Command Reply β) :
    (Pure.pure value : Program Command Reply α) >>= next = next value := rfl

@[simp] theorem bind_command (issued : Command) (rest : Reply issued → Program Command Reply α)
    (next : α → Program Command Reply β) :
    (Program.command issued rest) >>= next = .command issued fun reply => rest reply >>= next := rfl

@[simp] theorem bind_perform (issued : Command) (next : Reply issued → Program Command Reply β) :
    (perform issued) >>= next = .command issued next := rfl

theorem bind_pure_right (program : Program Command Reply α) :
    program >>= Pure.pure = program := by
  induction program with
  | pure value => rfl
  | command issued rest ih =>
      rw [bind_command]
      congr 1
      funext reply
      exact ih reply

theorem bind_assoc (program : Program Command Reply α) (first : α → Program Command Reply β)
    (second : β → Program Command Reply γ) :
    program >>= first >>= second = program >>= fun value => first value >>= second := by
  induction program with
  | pure value => rfl
  | command issued rest ih =>
      simp only [bind_command]
      congr 1
      funext reply
      exact ih reply

instance : LawfulMonad (Program Command Reply) :=
  LawfulMonad.mk' _ bind_pure_right (fun _ _ => rfl) bind_assoc

/-- A run answers every command in turn. -/
def run (handler : Handler Command Reply σ) : Program Command Reply α → σ → α × σ
  | .pure value, state => (value, state)
  | .command issued rest, state =>
      (rest (handler issued state).1).run handler (handler issued state).2

/-- The trace lists the moments of a run. -/
def trace (handler : Handler Command Reply σ) :
    Program Command Reply α → σ → List (Moment Command Reply σ)
  | .pure _, _ => []
  | .command issued rest, state =>
      ⟨state, issued, (handler issued state).1⟩ ::
        (rest (handler issued state).1).trace handler (handler issued state).2

/-- The state after at most `count` commands of a run. -/
def stateAfter (handler : Handler Command Reply σ) :
    Nat → Program Command Reply α → σ → σ
  | 0, _, state => state
  | _, .pure _, state => state
  | count + 1, .command issued rest, state =>
      stateAfter handler count (rest (handler issued state).1) (handler issued state).2

/-- The state of a run that stops inside the command after the first `count` commands. The given
function tells what that command has done so far. -/
def cutAfter (handler : Handler Command Reply σ) (cut : Command → σ → σ) :
    Nat → Program Command Reply α → σ → σ
  | _, .pure _, state => state
  | 0, .command issued _, state => cut issued state
  | count + 1, .command issued rest, state =>
      cutAfter handler cut count (rest (handler issued state).1) (handler issued state).2

section Sequential

variable (handler : Handler Command Reply σ)

@[simp] theorem run_pure (value : α) (state : σ) :
    run handler (Pure.pure value : Program Command Reply α) state = (value, state) := rfl

@[simp] theorem run_command (issued : Command) (rest : Reply issued → Program Command Reply α)
    (state : σ) : run handler (.command issued rest) state =
      run handler (rest (handler issued state).1) (handler issued state).2 := rfl

@[simp] theorem run_perform (issued : Command) (state : σ) :
    run handler (perform issued) state = handler issued state := rfl

@[simp] theorem run_bind (program : Program Command Reply α)
    (next : α → Program Command Reply β) (state : σ) :
    run handler (program >>= next) state =
      run handler (next (run handler program state).1) (run handler program state).2 := by
  induction program generalizing state with
  | pure value => rfl
  | command issued rest ih => exact ih _ _

@[simp] theorem run_map (program : Program Command Reply α) (change : α → β) (state : σ) :
    run handler (change <$> program) state =
      (change (run handler program state).1, (run handler program state).2) := by
  rw [map_eq_pure_bind, run_bind, run_pure]

@[simp] theorem trace_pure (value : α) (state : σ) :
    trace handler (Pure.pure value : Program Command Reply α) state = [] := rfl

@[simp] theorem trace_command (issued : Command) (rest : Reply issued → Program Command Reply α)
    (state : σ) : trace handler (.command issued rest) state =
      ⟨state, issued, (handler issued state).1⟩ ::
        trace handler (rest (handler issued state).1) (handler issued state).2 := rfl

@[simp] theorem trace_perform (issued : Command) (state : σ) :
    trace handler (perform issued) state = [⟨state, issued, (handler issued state).1⟩] := rfl

@[simp] theorem trace_bind (program : Program Command Reply α)
    (next : α → Program Command Reply β) (state : σ) :
    trace handler (program >>= next) state = trace handler program state ++
      trace handler (next (run handler program state).1) (run handler program state).2 := by
  induction program generalizing state with
  | pure value => rfl
  | command issued rest ih => exact congrArg (_ :: ·) (ih _ _)

/-- The moments of the second program are moments of the whole run. -/
theorem mem_trace_bind {program : Program Command Reply α} {next : α → Program Command Reply β}
    {state reached : σ} {value : α} {moment : Moment Command Reply σ}
    (ran : run handler program state = (value, reached))
    (inside : moment ∈ trace handler (next value) reached) :
    moment ∈ trace handler (program >>= next) state := by
  rw [trace_bind, ran]
  exact List.mem_append_right _ inside

@[simp] theorem trace_map (program : Program Command Reply α) (change : α → β) (state : σ) :
    trace handler (change <$> program) state = trace handler program state := by
  rw [map_eq_pure_bind, trace_bind, trace_pure, List.append_nil]

/-- A run that stops inside a command stops inside a moment or at the end. -/
theorem cutAfter_mem (cut : Command → σ → σ) (count : Nat) (program : Program Command Reply α)
    (state : σ) :
    cutAfter handler cut count program state = (run handler program state).2 ∨
      ∃ moment ∈ trace handler program state,
        cutAfter handler cut count program state = cut moment.issued moment.state := by
  induction program generalizing count state with
  | pure value =>
      left
      cases count <;> rfl
  | command issued rest ih =>
      cases count with
      | zero =>
          right
          exact ⟨_, List.mem_cons_self, rfl⟩
      | succ count =>
          obtain same | ⟨moment, inside, same⟩ := ih _ count (handler issued state).2
          · left
            exact same
          · right
            exact ⟨moment, List.mem_cons_of_mem _ inside, same⟩

/-- What every command and every part of a command keeps holds wherever a run stops. -/
theorem cutAfter_invariant (invariant : σ → Prop) {cut : Command → σ → σ}
    (kept : ∀ issued state, invariant state → invariant (handler issued state).2)
    (part : ∀ issued state, invariant state → invariant (cut issued state))
    (count : Nat) (program : Program Command Reply α) {state : σ} (start : invariant state) :
    invariant (cutAfter handler cut count program state) := by
  induction program generalizing count state with
  | pure value => cases count <;> exact start
  | command issued rest ih =>
      cases count with
      | zero => exact part issued state start
      | succ count => exact ih _ count (kept issued state start)

/-- What every command keeps holds after a run. -/
theorem run_invariant (invariant : σ → Prop)
    (kept : ∀ issued state, invariant state → invariant (handler issued state).2)
    (program : Program Command Reply α) {state : σ} (start : invariant state) :
    invariant (run handler program state).2 := by
  induction program generalizing state with
  | pure value => exact start
  | command issued rest ih => exact ih _ (kept issued state start)

/-- A run that stops between two commands has begun no further command. -/
theorem stateAfter_eq_cutAfter (count : Nat) (program : Program Command Reply α) (state : σ) :
    stateAfter handler count program state = cutAfter handler (fun _ state => state) count program
      state := by
  induction program generalizing count state with
  | pure value => cases count <;> rfl
  | command issued rest ih =>
      cases count with
      | zero => rfl
      | succ count => exact ih _ count _

/-- A prefix of a run stops at a moment or at the end. -/
theorem stateAfter_mem (count : Nat) (program : Program Command Reply α) (state : σ) :
    stateAfter handler count program state = (run handler program state).2 ∨
      ∃ moment ∈ trace handler program state,
        stateAfter handler count program state = moment.state := by
  rw [stateAfter_eq_cutAfter]
  exact cutAfter_mem handler (fun _ state => state) count program state

end Sequential

section Logic

/-- A run ensures a property of its moments and a property of its end. -/
structure Ensures (handler : Handler Command Reply σ) (program : Program Command Reply α)
    (state : σ) (during : Moment Command Reply σ → Prop) (post : α → σ → Prop) : Prop where
  moments : ∀ moment ∈ trace handler program state, during moment
  final : post (run handler program state).1 (run handler program state).2

variable {handler : Handler Command Reply σ} {state : σ}
  {during : Moment Command Reply σ → Prop} {post : α → σ → Prop}

theorem ensures_pure {value : α} (holds : post value state) :
    Ensures handler (Pure.pure value : Program Command Reply α) state during post :=
  ⟨by simp, holds⟩

/-- A command ensures what it ensures itself and what its continuation ensures. -/
theorem ensures_command {issued : Command} {rest : Reply issued → Program Command Reply α}
    (now : during ⟨state, issued, (handler issued state).1⟩)
    (later : Ensures handler (rest (handler issued state).1) (handler issued state).2 during post) :
    Ensures handler (.command issued rest) state during post where
  moments := by
    rw [trace_command, List.forall_mem_cons]
    exact ⟨now, later.moments⟩
  final := later.final

theorem ensures_perform_bind {issued : Command} {next : Reply issued → Program Command Reply α}
    (now : during ⟨state, issued, (handler issued state).1⟩)
    (later : Ensures handler (next (handler issued state).1) (handler issued state).2 during post) :
    Ensures handler (perform issued >>= next) state during post :=
  ensures_command now later

/-- The end of the first program is the start of the second program. -/
theorem Ensures.bind {program : Program Command Reply α} {next : α → Program Command Reply β}
    {middle : α → σ → Prop} {post : β → σ → Prop}
    (first : Ensures handler program state during middle)
    (second : ∀ value reached, middle value reached →
      Ensures handler (next value) reached during post) :
    Ensures handler (program >>= next) state during post := by
  have rest := second _ _ first.final
  constructor
  · rw [trace_bind, List.forall_mem_append]
    exact ⟨first.moments, rest.moments⟩
  · rw [run_bind]
    exact rest.final

/-- A run ensures every weaker property. -/
theorem Ensures.mono {program : Program Command Reply α}
    {weaker : Moment Command Reply σ → Prop} {other : α → σ → Prop}
    (holds : Ensures handler program state during post)
    (moments : ∀ moment, during moment → weaker moment)
    (final : ∀ value reached, post value reached → other value reached) :
    Ensures handler program state weaker other :=
  ⟨fun moment inside => moments moment (holds.moments moment inside), final _ _ holds.final⟩

end Logic

section Footprint

/-- Every command of the program is allowed. -/
def Issues (allowed : Command → Prop) : Program Command Reply α → Prop
  | .pure _ => True
  | .command issued rest => allowed issued ∧ ∀ reply, (rest reply).Issues allowed

variable {allowed : Command → Prop}

@[simp] theorem issues_pure (value : α) :
    Issues allowed (Pure.pure value : Program Command Reply α) := trivial

@[simp] theorem issues_command (issued : Command) (rest : Reply issued → Program Command Reply α) :
    Issues allowed (.command issued rest) ↔
      allowed issued ∧ ∀ reply, Issues allowed (rest reply) := Iff.rfl

@[simp] theorem issues_perform (issued : Command) :
    Issues allowed (perform issued : Program Command Reply (Reply issued)) ↔ allowed issued :=
  ⟨And.left, fun holds => ⟨holds, fun _ => trivial⟩⟩

theorem Issues.mono {weaker : Command → Prop} {program : Program Command Reply α}
    (every : Issues allowed program) (implied : ∀ issued, allowed issued → weaker issued) :
    Issues weaker program := by
  induction program with
  | pure value => trivial
  | command issued rest ih => exact ⟨implied issued every.1, fun reply => ih reply (every.2 reply)⟩

theorem issues_bind {program : Program Command Reply α} {next : α → Program Command Reply β}
    (first : Issues allowed program) (second : ∀ value, Issues allowed (next value)) :
    Issues allowed (program >>= next) := by
  induction program with
  | pure value => exact second value
  | command issued rest ih => exact ⟨first.1, fun reply => ih reply (first.2 reply)⟩

@[simp] theorem issues_map (program : Program Command Reply α) (change : α → β) :
    Issues allowed (change <$> program) ↔ Issues allowed program := by
  induction program with
  | pure value => exact Iff.rfl
  | command issued rest ih => exact and_congr_right fun _ => forall_congr' ih

/-- The commands of a run are commands of the program. -/
theorem issues_trace (handler : Handler Command Reply σ) {program : Program Command Reply α}
    (every : Issues allowed program) (state : σ) :
    ∀ moment ∈ trace handler program state, allowed moment.issued := by
  induction program generalizing state with
  | pure value => simp [trace]
  | command issued rest ih =>
      intro moment inside
      rw [trace_command, List.mem_cons] at inside
      rcases inside with rfl | inside
      · exact every.1
      · exact ih _ (every.2 _) _ moment inside

/-- A footprint adds what it knows about the commands to the moments of a run. -/
theorem Ensures.footprint {handler : Handler Command Reply σ} {program : Program Command Reply α}
    {state : σ} {during : Moment Command Reply σ → Prop} {post : α → σ → Prop}
    (holds : Ensures handler program state during post) (every : Issues allowed program) :
    Ensures handler program state (fun moment => during moment ∧ allowed moment.issued) post :=
  ⟨fun moment inside => ⟨holds.moments moment inside, issues_trace handler every state moment inside⟩,
    holds.final⟩

/-- Every path of the program issues at most the given number of marked commands. -/
def IssuesAtMost (marked : Command → Bool) : Nat → Program Command Reply α → Prop
  | _, .pure _ => True
  | count, .command issued rest =>
      if marked issued then ∃ less, count = less + 1 ∧ ∀ reply, IssuesAtMost marked less (rest reply)
      else ∀ reply, IssuesAtMost marked count (rest reply)

/-- A program without marked commands may come first. -/
theorem issuesAtMost_bind {count : Nat} {program : Program Command Reply α}
    {next : α → Program Command Reply β} {marked : Command → Bool}
    (first : Issues (fun issued => marked issued = false) program)
    (later : ∀ value, IssuesAtMost marked count (next value)) :
    IssuesAtMost marked count (program >>= next) := by
  induction program with
  | pure value => exact later value
  | command issued rest ih =>
      obtain ⟨unmarked, others⟩ := first
      rw [bind_command, IssuesAtMost, unmarked, if_neg Bool.false_ne_true]
      exact fun reply => ih reply (others reply)

section Views

variable {δ : Type} {marked : Command → Bool} (handler : Handler Command Reply σ) (view : σ → δ)
  (kept : ∀ issued state, marked issued = false → view (handler issued state).2 = view state)

include kept

/-- A run without marked commands shows one value. -/
theorem IssuesAtMost.one_view {program : Program Command Reply α}
    (unmarked : IssuesAtMost marked 0 program) (state : σ) :
    (∀ moment ∈ trace handler program state, view moment.state = view state) ∧
      view (run handler program state).2 = view state := by
  induction program generalizing state with
  | pure value => exact ⟨by simp [trace], rfl⟩
  | command issued rest ih =>
      cases marks : marked issued with
      | true =>
          rw [IssuesAtMost, if_pos marks] at unmarked
          obtain ⟨less, none, _⟩ := unmarked
          exact absurd none (Nat.succ_ne_zero less).symm
      | false =>
          rw [IssuesAtMost, marks, if_neg Bool.false_ne_true] at unmarked
          have same := kept issued state marks
          have later := ih (handler issued state).1 (unmarked _) (handler issued state).2
          rw [same] at later
          rw [trace_command, List.forall_mem_cons]
          exact ⟨⟨rfl, later.1⟩, later.2⟩

/-- A run with at most one marked command shows its first value and then its last value. -/
theorem IssuesAtMost.two_views {program : Program Command Reply α}
    (once : IssuesAtMost marked 1 program) (state : σ) :
    ∀ moment ∈ trace handler program state,
      view moment.state = view state ∨ view moment.state = view (run handler program state).2 := by
  induction program generalizing state with
  | pure value => simp [trace]
  | command issued rest ih =>
      rw [trace_command, List.forall_mem_cons]
      refine ⟨Or.inl rfl, ?_⟩
      cases marks : marked issued with
      | true =>
          rw [IssuesAtMost, if_pos marks] at once
          obtain ⟨less, one, later⟩ := once
          obtain rfl : 0 = less := Nat.succ.inj one
          obtain ⟨moments, final⟩ := IssuesAtMost.one_view handler view kept
            (later (handler issued state).1) (handler issued state).2
          exact fun moment inside => Or.inr ((moments moment inside).trans final.symm)
      | false =>
          rw [IssuesAtMost, marks, if_neg Bool.false_ne_true] at once
          have later := ih (handler issued state).1 (once _) (handler issued state).2
          rw [kept issued state marks] at later
          exact later

end Views

/-- A path that issues no marked command returns a value of the given kind. -/
def ReturnsUnless (marked : Command → Bool) (returned : α → Prop) : Program Command Reply α → Prop
  | .pure value => returned value
  | .command issued rest => marked issued = true ∨
      ∀ reply, (rest reply).ReturnsUnless marked returned

variable {marked : Command → Bool} {returned : α → Prop}

theorem returnsUnless_bind {program : Program Command Reply α}
    {next : α → Program Command Reply β} {returned : β → Prop}
    (later : ∀ value, ReturnsUnless marked returned (next value)) :
    ReturnsUnless marked returned (program >>= next) := by
  induction program with
  | pure value => exact later value
  | command issued rest ih => exact Or.inr fun reply => ih reply

/-- A run without a marked command returns a value of the given kind. -/
theorem ReturnsUnless.run (handler : Handler Command Reply σ) {program : Program Command Reply α}
    (returns : ReturnsUnless marked returned program) (state : σ)
    (unmarked : ∀ moment ∈ trace handler program state, marked moment.issued = false) :
    returned (run handler program state).1 := by
  induction program generalizing state with
  | pure value => exact returns
  | command issued rest ih =>
      rw [trace_command, List.forall_mem_cons] at unmarked
      obtain ⟨first, later⟩ := unmarked
      obtain marks | returns := returns
      · exact absurd (marks.symm.trans first) (by simp)
      · exact ih _ (returns _) _ later

/-- Every path ends right after a marked command, with a value of the given kind. -/
def ReturnsAfter (marked : Command → Bool) (returned : α → Prop) : Program Command Reply α → Prop
  | .pure _ => True
  | .command issued rest =>
      (marked issued = true → ∀ reply, ∃ value, rest reply = .pure value ∧ returned value) ∧
        ∀ reply, (rest reply).ReturnsAfter marked returned

end Footprint

section Entry

variable {handler : Handler Command Reply σ} {state : σ} {during : Moment Command Reply σ → Prop}

/-- A run leads into another run when only moments of some kind come before it. -/
structure Leads (handler : Handler Command Reply σ) (during : Moment Command Reply σ → Prop)
    (program : Program Command Reply α) (state : σ) (inner : Program Command Reply α)
    (reached : σ) : Prop where
  trace : ∃ before, (∀ moment ∈ before, during moment) ∧
    trace handler program state = before ++ trace handler inner reached
  run : run handler program state = run handler inner reached

theorem Leads.refl {program : Program Command Reply α} :
    Leads handler during program state program state :=
  ⟨⟨[], by simp, rfl⟩, rfl⟩

/-- A program whose first part ends leads where its second part leads. -/
theorem leads_bind {program : Program Command Reply α} {next : α → Program Command Reply β}
    {inner : Program Command Reply β} {value : α} {reached last : σ}
    (ran : Program.run handler program state = (value, reached))
    (every : ∀ moment ∈ Program.trace handler program state, during moment)
    (later : Leads handler during (next value) reached inner last) :
    Leads handler during (program >>= next) state inner last := by
  obtain ⟨before, kinds, split⟩ := later.trace
  constructor
  · refine ⟨Program.trace handler program state ++ before, ?_, ?_⟩
    · exact List.forall_mem_append.mpr ⟨every, kinds⟩
    · rw [trace_bind, ran, split, List.append_assoc]
  · rw [run_bind, ran]
    exact later.run

end Entry

end Program

end Effect
