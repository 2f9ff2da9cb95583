/-
This file gives critical sections: threads that a lock keeps apart do what they do one by one.
-/

import Mathlib.Data.List.Nodup
import Mathlib.Data.List.Perm.Basic
import Mathlib.Logic.Function.Iterate
import Sprawl.Effect.Interleaving

namespace Effect

variable {Command : Type} {Reply : Command → Type} {τ σ ς ω ι α : Type}

namespace Program

/-- One command further. A program that has ended stays where it is. -/
def further (handler : Handler Command Reply σ) :
    Program Command Reply α × σ → Program Command Reply α × σ
  | (.pure value, state) => (.pure value, state)
  | (.command issued rest, state) => (rest (handler issued state).1, (handler issued state).2)

variable (handler : Handler Command Reply σ)

/-- Going further does not change what a program returns and where it ends. -/
theorem run_further (count : Nat) (configuration : Program Command Reply α × σ) :
    run handler ((further handler)^[count] configuration).1
        ((further handler)^[count] configuration).2 =
      run handler configuration.1 configuration.2 := by
  induction count generalizing configuration with
  | zero => rfl
  | succ count ih =>
      rw [Function.iterate_succ_apply, ih]
      obtain ⟨program, state⟩ := configuration
      cases program <;> rfl

theorem stateAfter_eq_further (count : Nat) (program : Program Command Reply α) (state : σ) :
    stateAfter handler count program state = ((further handler)^[count] (program, state)).2 := by
  induction count generalizing program state with
  | zero => cases program <;> rfl
  | succ count ih =>
      rw [Function.iterate_succ_apply]
      cases program with
      | pure value =>
          have stays : (further handler)^[count] (.pure value, state) =
              ((.pure value, state) : Program Command Reply α × σ) :=
            Function.iterate_fixed rfl count
          rw [further, stays, stateAfter]
          exact Nat.succ_ne_zero count
      | command issued rest => exact ih _ _

end Program

/-- What a thread returns and makes of the shared state when it runs alone. -/
def Thread.alone (handler : Handler Command Reply (τ × σ)) (thread : Thread Command Reply τ α)
    (shared : σ) : α × σ :=
  let ran := Program.run handler thread.program (thread.own, shared)
  (ran.1, ran.2.2)

/-- The shared state after some threads have run one after another. -/
def serial (handler : Handler Command Reply (τ × σ)) (threads : List (Thread Command Reply τ α))
    (order : List Nat) (shared : σ) : σ :=
  order.foldl (fun shared index => match threads[index]? with
    | some thread => (thread.alone handler shared).2
    | none => shared) shared

/-- A lock in the shared state. What a command does depends on the core of the shared state, and it
adds to the output. One command enters with a token, and one command leaves again. Late commands
are those that a thread may issue after it has left. -/
structure Lock (handler : Handler Command Reply (τ × σ)) (ς ω ι : Type) where
  core : σ → ς
  output : σ → List ω
  emitted : Command → List ω
  holder : ς → Option ι
  enter : ι → Command
  refusal : ∀ token, Reply (enter token)
  exit : ι → Command
  within : Command → Prop
  late : Command → Prop
  reply : ∀ issued own {first second}, core first = core second →
    (handler issued (own, first)).1 = (handler issued (own, second)).1
  own : ∀ issued own {first second}, core first = core second →
    (handler issued (own, first)).2.1 = (handler issued (own, second)).2.1
  moved : ∀ issued own {first second}, core first = core second →
    core (handler issued (own, first)).2.2 = core (handler issued (own, second)).2.2
  emits : ∀ issued own shared,
    output (handler issued (own, shared)).2.2 = output shared ++ emitted issued
  silent : ∀ token, emitted (enter token) = []
  entered : ∀ token own shared, holder (core shared) = none →
    (handler (enter token) (own, shared)).1 ≠ refusal token ∧
      holder (core (handler (enter token) (own, shared)).2.2) = some token
  refused : ∀ token own shared, holder (core shared) ≠ none →
    (handler (enter token) (own, shared)).1 = refusal token ∧
      core (handler (enter token) (own, shared)).2.2 = core shared
  kept : ∀ issued own shared, within issued →
    holder (core (handler issued (own, shared)).2.2) = holder (core shared)
  unmoved : ∀ issued own shared, late issued →
    core (handler issued (own, shared)).2.2 = core shared
  settled : ∀ issued first second, late issued → (handler issued first).1 = (handler issued second).1

namespace Lock

variable {handler : Handler Command Reply (τ × σ)} (lock : Lock handler ς ω ι)

/-- A program in the section leaves it, and issues nothing but late commands then. -/
def Inside (token : ι) : Program Command Reply α → Prop
  | .pure _ => False
  | .command issued rest =>
      (lock.within issued ∧ ∀ reply, Inside token (rest reply)) ∨
        (issued = lock.exit token ∧ ∀ reply, (rest reply).Issues lock.late)

/-- A guarded program begins with its entry, and gives up with some value when it is refused. -/
def Guarded (token : ι) (refused : α) (program : Program Command Reply α) : Prop :=
  ∃ rest, program = .command (lock.enter token) rest ∧
    rest (lock.refusal token) = .pure refused ∧
    ∀ reply, reply ≠ lock.refusal token → lock.Inside token (rest reply)

/-- What may come before a section comes before it. -/
theorem inside_bind {β : Type} {token : ι} {program : Program Command Reply α}
    {next : α → Program Command Reply β} (first : program.Issues lock.within)
    (later : ∀ value, lock.Inside token (next value)) : lock.Inside token (program >>= next) := by
  induction program with
  | pure value => exact later value
  | command issued rest ih => exact Or.inl ⟨first.1, fun reply => ih reply (first.2 reply)⟩

/-- Wherever it starts, the program returns the value, leaves the core and adds the outputs. -/
def Trails (program : Program Command Reply α) (value : α) (outputs : List ω) : Prop :=
  ∀ state, (program.run handler state).1 = value ∧
    lock.core (program.run handler state).2.2 = lock.core state.2 ∧
    lock.output (program.run handler state).2.2 = lock.output state.2 ++ outputs

/-- A program of late commands trails. -/
theorem trails_of_late {program : Program Command Reply α} (late : program.Issues lock.late)
    (state : τ × σ) : ∃ value outputs, lock.Trails program value outputs := by
  induction program generalizing state with
  | pure value => exact ⟨value, [], fun state => ⟨rfl, rfl, (List.append_nil _).symm⟩⟩
  | command issued rest ih =>
      obtain ⟨allowed, later⟩ := late
      obtain ⟨value, outputs, trails⟩ :=
        ih (handler issued state).1 (later _) (handler issued state).2
      refine ⟨value, lock.emitted issued ++ outputs, fun other => ?_⟩
      obtain ⟨own, shared⟩ := other
      rw [Program.run, lock.settled issued (own, shared) state allowed]
      obtain ⟨returned, core, output⟩ := trails (handler issued (own, shared)).2
      refine ⟨returned, core.trans (lock.unmoved issued own shared allowed), ?_⟩
      rw [output, lock.emits, List.append_assoc]

/-- After one of its commands a trailing program trails with fewer outputs. -/
theorem Trails.further {issued : Command} {rest : Reply issued → Program Command Reply α}
    {value : α} {outputs : List ω} (trails : lock.Trails (.command issued rest) value outputs)
    (late : (Program.command issued rest).Issues lock.late) (state : τ × σ) :
    ∃ later, outputs = lock.emitted issued ++ later ∧
      lock.Trails (rest (handler issued state).1) value later := by
  obtain ⟨other, later, trailing⟩ :=
    lock.trails_of_late (late.2 (handler issued state).1) (handler issued state).2
  obtain ⟨returned, _, output⟩ := trails state
  obtain ⟨same, _, added⟩ := trailing (handler issued state).2
  have value_eq : other = value := same.symm.trans returned
  refine ⟨later, ?_, value_eq ▸ trailing⟩
  change lock.output (Program.run handler (rest _) (handler issued state).2).2.2 = _ at output
  rw [added, lock.emits, List.append_assoc] at output
  exact (List.append_cancel_left output).symm

section Turns

variable (threads : List (Thread Command Reply τ α)) (token : Nat → ι) (given : Nat → α) (start : σ)
  (order : List Nat) (owed : Nat → List ω)

/-- Two shared states match up to the outputs that the threads before still owe. -/
structure Matches (shared other : σ) : Prop where
  core : lock.core shared = lock.core other
  output : (lock.output shared ++ order.flatMap owed).Perm (lock.output other)

/-- A thread that has left returns what it returns in its turn. -/
structure Left (index : Nat) (thread : Thread Command Reply τ α) : Prop where
  late : thread.program.Issues lock.late
  turn : ∃ before after original, order = before ++ index :: after ∧
    threads[index]? = some original ∧
    lock.Trails thread.program (original.alone handler (serial handler threads before start)).1
      (owed index)

/-- A thread in the section is at some point of its turn. -/
structure Turn (index : Nat) (shared : σ) (thread : Thread Command Reply τ α) : Prop where
  inside : lock.Inside (token index) thread.program
  holds : lock.holder (lock.core shared) = some (token index)
  point : ∃ original count state, threads[index]? = some original ∧
    (Program.further handler)^[count]
        (original.program, original.own, serial handler threads order start) =
      (thread.program, thread.own, state) ∧
    lock.Matches order owed shared state

/-- The threads of a pool have taken turns in some order. At most one has not ended its turn, and
each other one has left, has not begun or was refused. -/
structure Serialised (current : Option Nat) (pool : Pool Command Reply τ σ α) : Prop where
  nodup : order.Nodup
  apart : ∀ index, current = some index → index ∉ order
  left : ∀ index ∈ order, ∃ thread, pool.threads[index]? = some thread ∧
    lock.Left threads start order owed index thread
  waiting : ∀ index thread, pool.threads[index]? = some thread → index ∉ order →
    current ≠ some index → threads[index]? = some thread ∨ thread.program = .pure (given index)
  resting : current = none →
    lock.Matches order owed pool.shared (serial handler threads order start)
  turn : ∀ index, current = some index → ∃ thread, pool.threads[index]? = some thread ∧
    lock.Turn threads token start order owed index pool.shared thread

variable {threads token given start order owed} {current : Option Nat}
  {pool : Pool Command Reply τ σ α} {index : Nat} {own : τ} {issued : Command}
  {rest : Reply issued → Program Command Reply α}

/-- Nobody has begun at the start. -/
theorem serialised_start :
    lock.Serialised threads token given start [] owed none ⟨start, threads⟩ where
  nodup := List.nodup_nil
  apart _ same := nomatch same
  left _ inside := absurd inside List.not_mem_nil
  waiting _ _ found _ _ := Or.inl found
  resting _ := ⟨rfl, by simp [serial]⟩
  turn _ same := nomatch same

/-- The outputs of a thread that it owes no longer are owed no longer. -/
theorem owed_perm {first later : List ω} (nodup : order.Nodup) (inside : index ∈ order)
    (split : owed index = first ++ later) :
    (order.flatMap owed).Perm (first ++ order.flatMap (Function.update owed index later)) := by
  have front := List.perm_cons_erase inside
  have others : (order.erase index).flatMap (Function.update owed index later) =
      (order.erase index).flatMap owed := by
    refine List.flatMap_congr fun other within => ?_
    rw [nodup.mem_erase_iff] at within
    rw [Function.update_of_ne within.1]
  have first_turn := front.flatMap_right owed
  have next_turn := front.flatMap_right (Function.update owed index later)
  rw [List.flatMap_cons, split, List.append_assoc] at first_turn
  rw [List.flatMap_cons, Function.update_self, others] at next_turn
  exact first_turn.trans (next_turn.symm.append_left first)

/-- A matching state still matches when a command adds to it what was owed. -/
theorem Matches.settle {shared other after : σ} {added later : List ω}
    (same : lock.Matches order owed shared other) (nodup : order.Nodup) (inside : index ∈ order)
    (split : owed index = added ++ later) (core : lock.core after = lock.core shared)
    (output : lock.output after = lock.output shared ++ added) :
    lock.Matches order (Function.update owed index later) after other where
  core := core.trans same.core
  output := by
    rw [output, List.append_assoc]
    exact ((owed_perm nodup inside split).symm.append_left _).trans same.output

/-- Matching states still match after one command in both. -/
theorem Matches.both {shared other : σ} (same : lock.Matches order owed shared other)
    (issued : Command) (own : τ) :
    lock.Matches order owed (handler issued (own, shared)).2.2 (handler issued (own, other)).2.2 where
  core := lock.moved issued own same.core
  output := by
    rw [lock.emits, lock.emits, List.append_assoc]
    have swapped := @List.perm_append_comm _ (lock.emitted issued) (order.flatMap owed)
    refine (swapped.append_left _).trans ?_
    rw [← List.append_assoc]
    exact same.output.append_right _

/-- The pool after the chosen thread has issued its command. -/
def issuedBy (handler : Handler Command Reply (τ × σ)) (index : Nat) (issued : Command)
    (rest : Reply issued → Program Command Reply α) (own : τ) (pool : Pool Command Reply τ σ α) :
    Pool Command Reply τ σ α where
  shared := (handler issued (own, pool.shared)).2.2
  threads := pool.threads.set index
    ⟨rest (handler issued (own, pool.shared)).1, (handler issued (own, pool.shared)).2.1⟩

/-- A thread that has left issues a late command. -/
theorem Serialised.late (serialised : lock.Serialised threads token given start order owed current pool)
    (found : pool.threads[index]? = some ⟨.command issued rest, own⟩) (inside : index ∈ order) :
    ∃ owed, lock.Serialised threads token given start order owed current
      (issuedBy handler index issued rest own pool) := by
  obtain ⟨thread, same, left⟩ := serialised.left index inside
  obtain rfl := Option.some.inj (same.symm.trans found)
  obtain ⟨before, after, original, place, began, trails⟩ := left.turn
  obtain ⟨later, split, trailing⟩ := trails.further lock left.late (own, pool.shared)
  have core := lock.unmoved issued own pool.shared left.late.1
  have output := lock.emits issued own pool.shared
  refine ⟨Function.update owed index later, serialised.nodup, serialised.apart, ?_, ?_, ?_, ?_⟩
  · intro other within
    by_cases equal : other = index
    · subst equal
      refine ⟨_, List.getElem?_set_self (List.getElem?_eq_some_iff.mp found).1, left.late.2 _, before,
        after, original, place, began, ?_⟩
      rw [Function.update_self]
      exact trailing
    · obtain ⟨thread, same, left⟩ := serialised.left other within
      refine ⟨thread, (List.getElem?_set_ne (Ne.symm equal)).trans same, left.late, ?_⟩
      rw [Function.update_of_ne equal]
      exact left.turn
  · intro other thread same outside notCurrent
    have different : index ≠ other := fun equal => outside (equal ▸ inside)
    exact serialised.waiting other thread ((List.getElem?_set_ne different).symm.trans same) outside
      notCurrent
  · exact fun none => (serialised.resting none).settle lock serialised.nodup inside split core output
  · intro other chosen
    have different : index ≠ other := fun equal => serialised.apart other chosen (equal ▸ inside)
    obtain ⟨thread, same, turn⟩ := serialised.turn other chosen
    obtain ⟨original, count, state, began, reached, matched⟩ := turn.point
    exact ⟨thread, (List.getElem?_set_ne different).trans same, turn.inside,
      (congrArg lock.holder core).trans turn.holds, original, count, state, began, reached,
      matched.settle lock serialised.nodup inside split core output⟩

/-- What another thread does leaves a thread that has left as it is. -/
theorem Serialised.left_set
    (serialised : lock.Serialised threads token given start order owed current pool)
    (outside : index ∉ order) (thread : Thread Command Reply τ α) :
    ∀ other ∈ order, ∃ found, (pool.threads.set index thread)[other]? = some found ∧
      lock.Left threads start order owed other found := by
  intro other within
  have different : index ≠ other := fun equal => outside (equal ▸ within)
  obtain ⟨found, same, left⟩ := serialised.left other within
  exact ⟨found, (List.getElem?_set_ne different).trans same, left⟩

/-- A thread that is refused gives up. -/
theorem Serialised.refuse
    (serialised : lock.Serialised threads token given start order owed current pool)
    (found : pool.threads[index]? = some ⟨.command issued rest, own⟩) (outside : index ∉ order)
    (notCurrent : current ≠ some index)
    (guarded : lock.Guarded (token index) (given index) (.command issued rest))
    (held : lock.holder (lock.core pool.shared) ≠ none) :
    lock.Serialised threads token given start order owed current
      (issuedBy handler index issued rest own pool) := by
  obtain ⟨next, same, gives, _⟩ := guarded
  cases same
  obtain ⟨reply, core⟩ := lock.refused (token index) own pool.shared held
  have output := lock.emits (lock.enter (token index)) own pool.shared
  rw [lock.silent, List.append_nil] at output
  have unchanged {other : σ} (matched : lock.Matches order owed pool.shared other) :
      lock.Matches order owed (handler (lock.enter (token index)) (own, pool.shared)).2.2 other :=
    ⟨core.trans matched.core, output ▸ matched.output⟩
  refine ⟨serialised.nodup, serialised.apart, serialised.left_set lock outside _, ?_, ?_, ?_⟩
  · intro other thread same apart others
    by_cases equal : index = other
    · subst equal
      rw [issuedBy, List.getElem?_set_self (List.getElem?_eq_some_iff.mp found).1] at same
      obtain rfl := Option.some.inj same
      right
      rw [reply, gives]
    · exact serialised.waiting other thread ((List.getElem?_set_ne equal).symm.trans same) apart others
  · exact fun none => unchanged (serialised.resting none)
  · intro other chosen
    have different : index ≠ other := fun equal => notCurrent (equal ▸ chosen)
    obtain ⟨thread, same, turn⟩ := serialised.turn other chosen
    obtain ⟨original, count, state, began, reached, matched⟩ := turn.point
    exact ⟨thread, (List.getElem?_set_ne different).trans same, turn.inside,
      (congrArg lock.holder core).trans turn.holds, original, count, state, began, reached,
      unchanged matched⟩

/-- A thread that enters begins its turn. -/
theorem Serialised.enter
    (serialised : lock.Serialised threads token given start order owed none pool)
    (found : pool.threads[index]? = some ⟨.command issued rest, own⟩) (outside : index ∉ order)
    (began : threads[index]? = some ⟨.command issued rest, own⟩)
    (guarded : lock.Guarded (token index) (given index) (.command issued rest))
    (free : lock.holder (lock.core pool.shared) = none) :
    lock.Serialised threads token given start order owed (some index)
      (issuedBy handler index issued rest own pool) := by
  obtain ⟨next, same, _, inside⟩ := guarded
  cases same
  obtain ⟨granted, holds⟩ := lock.entered (token index) own pool.shared free
  have matched := serialised.resting rfl
  refine ⟨serialised.nodup, ?_, serialised.left_set lock outside _, ?_, nofun, ?_⟩
  · rintro other same
    obtain rfl := Option.some.inj same
    exact outside
  · intro other thread same apart others
    have different : index ≠ other := fun equal => others (equal ▸ rfl)
    exact serialised.waiting other thread ((List.getElem?_set_ne different).symm.trans same) apart
      nofun
  · rintro other same
    obtain rfl := Option.some.inj same
    refine ⟨_, List.getElem?_set_self (List.getElem?_eq_some_iff.mp found).1, inside _ granted, holds,
      _, 1, _, began, ?_, matched.both lock (lock.enter (token index)) own⟩
    rw [Function.iterate_one, Program.further, lock.reply _ own matched.core,
      lock.own _ own matched.core]

/-- A thread goes on with its turn. -/
theorem Serialised.go_on
    (serialised : lock.Serialised threads token given start order owed (some index) pool)
    (found : pool.threads[index]? = some ⟨.command issued rest, own⟩)
    (within : lock.within issued) (inside : ∀ reply, lock.Inside (token index) (rest reply)) :
    lock.Serialised threads token given start order owed (some index)
      (issuedBy handler index issued rest own pool) := by
  have outside := serialised.apart index rfl
  obtain ⟨thread, same, turn⟩ := serialised.turn index rfl
  obtain rfl := Option.some.inj (same.symm.trans found)
  obtain ⟨original, count, state, began, reached, matched⟩ := turn.point
  refine ⟨serialised.nodup, serialised.apart, serialised.left_set lock outside _, ?_, nofun, ?_⟩
  · intro other thread same apart others
    have different : index ≠ other := fun equal => others (equal ▸ rfl)
    exact serialised.waiting other thread ((List.getElem?_set_ne different).symm.trans same) apart
      others
  · rintro other same
    obtain rfl := Option.some.inj same
    refine ⟨_, List.getElem?_set_self (List.getElem?_eq_some_iff.mp found).1, inside _,
      (lock.kept issued own pool.shared within).trans turn.holds, original, count + 1, _, began, ?_,
      matched.both lock issued own⟩
    rw [Function.iterate_succ_apply', reached, Program.further, lock.reply _ own matched.core,
      lock.own _ own matched.core]

/-- A thread that leaves has ended its turn. -/
theorem Serialised.leave
    (serialised : lock.Serialised threads token given start order owed (some index) pool)
    (found : pool.threads[index]? = some ⟨.command issued rest, own⟩)
    (exits : ∀ reply, (rest reply).Issues lock.late) :
    ∃ owed, lock.Serialised threads token given start (order ++ [index]) owed none
      (issuedBy handler index issued rest own pool) := by
  have outside := serialised.apart index rfl
  obtain ⟨thread, same, turn⟩ := serialised.turn index rfl
  obtain rfl := Option.some.inj (same.symm.trans found)
  obtain ⟨original, count, state, began, reached, matched⟩ := turn.point
  obtain ⟨value, outputs, trails⟩ :=
    lock.trails_of_late (exits _) (handler issued (own, pool.shared)).2
  have after := matched.both lock issued own
  -- Alone, the thread would have come to the same point, with the same rest before it.
  have alone := Program.run_further handler count
    (original.program, original.own, serial handler threads order start)
  rw [reached] at alone
  dsimp only at alone
  rw [Program.run, ← lock.reply issued own matched.core] at alone
  obtain ⟨returned, core, output⟩ := trails (handler issued (own, state)).2
  rw [alone] at returned core output
  have turned : serial handler threads (order ++ [index]) start =
      (original.alone handler (serial handler threads order start)).2 := by
    rw [serial, List.foldl_append, List.foldl_cons, List.foldl_nil, began]
    rfl
  have owes : ∀ other ∈ order, Function.update owed index outputs other = owed other := by
    intro other within
    have different : other ≠ index := fun equal => outside (equal ▸ within)
    exact Function.update_of_ne different _ _
  refine ⟨Function.update owed index outputs, ?_, nofun, ?_, ?_, ?_, nofun⟩
  · rw [List.nodup_append']
    exact ⟨serialised.nodup, List.nodup_singleton index, by simpa using outside⟩
  · intro other within
    rw [List.mem_append, List.mem_singleton] at within
    obtain earlier | rfl := within
    · obtain ⟨thread, same, left⟩ := serialised.left_set lock outside _ other earlier
      obtain ⟨before, after, first, place, started, trailing⟩ := left.turn
      refine ⟨thread, same, left.late, before, after ++ [index], first, ?_, started, ?_⟩
      · rw [place, List.append_assoc, List.cons_append]
      · rw [owes other earlier]
        exact trailing
    · refine ⟨_, List.getElem?_set_self (List.getElem?_eq_some_iff.mp found).1, exits _, order, [],
        original, rfl, began, ?_⟩
      rw [Function.update_self]
      rw [← returned] at trails
      exact trails
  · intro other thread same apart _
    rw [List.mem_append, List.mem_singleton, not_or] at apart
    have different : index ≠ other := Ne.symm apart.2
    exact serialised.waiting other thread ((List.getElem?_set_ne different).symm.trans same) apart.1
      fun same => different (Option.some.inj same)
  · intro _
    rw [turned]
    refine ⟨after.core.trans core.symm, ?_⟩
    rw [List.flatMap_append, List.flatMap_singleton, Function.update_self,
      List.flatMap_congr owes, ← List.append_assoc]
    change List.Perm _ (lock.output (Program.run handler original.program _).2.2)
    rw [output]
    exact after.output.append_right outputs

/-- Every step of a pool keeps its threads serialised. -/
theorem Serialised.step
    (guarded : ∀ index thread, threads[index]? = some thread →
      lock.Guarded (token index) (given index) thread.program)
    (serialised : lock.Serialised threads token given start order owed current pool) (index : Nat) :
    ∃ order owed current,
      lock.Serialised threads token given start order owed current (pool.step handler index) := by
  obtain ⟨same, _⟩ | ⟨issued, rest, own, found, _, same⟩ := Pool.step_cases handler index pool
  · rw [same]
    exact ⟨order, owed, current, serialised⟩
  rw [same]
  by_cases inside : index ∈ order
  · obtain ⟨later, kept⟩ := serialised.late lock found inside
    exact ⟨order, later, current, kept⟩
  by_cases chosen : current = some index
  · subst chosen
    obtain ⟨thread, here, turn⟩ := serialised.turn index rfl
    obtain rfl := Option.some.inj (here.symm.trans found)
    obtain ⟨within, later⟩ | ⟨_, exits⟩ := turn.inside
    · exact ⟨order, owed, some index, serialised.go_on lock found within later⟩
    · obtain ⟨later, kept⟩ := serialised.leave lock found exits
      exact ⟨order ++ [index], later, none, kept⟩
  · obtain began | ended := serialised.waiting index _ found inside chosen
    · have starts := guarded index _ began
      by_cases free : lock.holder (lock.core pool.shared) = none
      · have alone : current = none := by
          cases current with
          | none => rfl
          | some other =>
              obtain ⟨_, _, turn⟩ := serialised.turn other rfl
              exact absurd (turn.holds.symm.trans free) nofun
        subst alone
        exact ⟨order, owed, some index, serialised.enter lock found inside began starts free⟩
      · exact ⟨order, owed, current, serialised.refuse lock found inside chosen starts free⟩
    · cases ended

/-- Threads that a lock keeps apart are serialised in every run. -/
theorem serialised_run
    (guarded : ∀ index thread, threads[index]? = some thread →
      lock.Guarded (token index) (given index) thread.program) (schedule : List Nat) :
    ∃ order owed current, lock.Serialised threads token given start order owed current
      (runActions (Pool.step handler) schedule ⟨start, threads⟩) := by
  have runs (schedule : List Nat) (pool : Pool Command Reply τ σ α) :
      (∃ order owed current, lock.Serialised threads token given start order owed current pool) →
        ∃ order owed current, lock.Serialised threads token given start order owed current
          (runActions (Pool.step handler) schedule pool) := by
    induction schedule generalizing pool with
    | nil => exact id
    | cons index rest ih =>
        rintro ⟨order, owed, current, serialised⟩
        exact ih _ (serialised.step lock guarded index)
  exact runs schedule _ ⟨[], fun _ => [], none, lock.serialised_start⟩

/-- A thread in its turn has brought the shared state to a point of its run alone. -/
theorem Serialised.point
    (serialised : lock.Serialised threads token given start order owed (some index) pool) :
    ∃ original count, threads[index]? = some original ∧
      lock.core pool.shared = lock.core (Program.stateAfter handler count original.program
        (original.own, serial handler threads order start)).2 := by
  obtain ⟨thread, _, turn⟩ := serialised.turn index rfl
  obtain ⟨original, count, state, began, reached, matched⟩ := turn.point
  refine ⟨original, count, began, ?_⟩
  rw [Program.stateAfter_eq_further, reached]
  exact matched.core

/-- Where all threads have ended, their turns have made the shared state and nothing is owed. Each
thread returns what it returns in its turn, or was refused. -/
theorem Serialised.ended
    (guarded : ∀ index thread, threads[index]? = some thread →
      lock.Guarded (token index) (given index) thread.program)
    (serialised : lock.Serialised threads token given start order owed current pool)
    (ended : ∀ thread ∈ pool.threads, ∃ value, thread.program = .pure value) :
    current = none ∧
      lock.core pool.shared = lock.core (serial handler threads order start) ∧
      (lock.output pool.shared).Perm (lock.output (serial handler threads order start)) ∧
      ∀ index thread value, pool.threads[index]? = some thread → thread.program = .pure value →
        (index ∈ order ∧ ∃ before after original, order = before ++ index :: after ∧
          threads[index]? = some original ∧
          value = (original.alone handler (serial handler threads before start)).1) ∨
        (index ∉ order ∧ value = given index) := by
  have rests : current = none := by
    cases current with
    | none => rfl
    | some index =>
        obtain ⟨thread, found, turn⟩ := serialised.turn index rfl
        obtain ⟨value, same⟩ := ended thread (List.mem_of_getElem? found)
        have inside := turn.inside
        rw [same] at inside
        exact inside.elim
  have settled : ∀ index ∈ order, owed index = [] := by
    intro index inside
    obtain ⟨thread, found, left⟩ := serialised.left index inside
    obtain ⟨value, same⟩ := ended thread (List.mem_of_getElem? found)
    obtain ⟨_, _, _, _, _, trails⟩ := left.turn
    rw [same] at trails
    obtain ⟨_, _, output⟩ := trails (thread.own, pool.shared)
    exact (List.append_cancel_left ((List.append_nil _).trans output)).symm
  have matched := serialised.resting rests
  refine ⟨rests, matched.core, ?_, ?_⟩
  · have output := matched.output
    rwa [List.flatMap_eq_nil_iff.mpr settled, List.append_nil] at output
  · intro index thread value found same
    by_cases inside : index ∈ order
    · left
      obtain ⟨other, here, left⟩ := serialised.left index inside
      obtain rfl := Option.some.inj (here.symm.trans found)
      obtain ⟨before, after, original, place, began, trails⟩ := left.turn
      rw [same] at trails
      exact ⟨inside, before, after, original, place, began, (trails (other.own, pool.shared)).1⟩
    · right
      obtain began | given := serialised.waiting index thread found inside (by simp [rests])
      · obtain ⟨_, starts, _⟩ := guarded index thread began
        cases same.symm.trans starts
      · exact ⟨inside, Program.pure.inj (same.symm.trans given)⟩

end Turns

end Lock

end Effect
