/-
This file gives stages of programs and pools of threads that interleave their commands.
-/

import Sprawl.Effect.Program
import Sprawl.Effect.Transition

namespace Effect

/-- A protocol moves through stages. Each stage allows some commands and assumes some replies. -/
structure Protocol (Command : Type) (Reply : Command → Type) (Stage : Type) where
  allowed : Stage → Command → Prop
  assumed : Stage → (issued : Command) → Reply issued → Prop
  next : Stage → Command → Stage

namespace Program

variable {Command : Type} {Reply : Command → Type} {Stage α β : Type}
  (protocol : Protocol Command Reply Stage)

/-- A program follows a protocol when each of its commands is allowed in the stage that it meets. -/
def Follows : Stage → Program Command Reply α → Prop
  | _, .pure _ => True
  | stage, .command issued rest =>
      protocol.allowed stage issued ∧ ∀ reply, protocol.assumed stage issued reply →
        Follows (protocol.next stage issued) (rest reply)

variable {protocol} {stage : Stage}

@[simp] theorem follows_pure (value : α) :
    Follows protocol stage (Pure.pure value : Program Command Reply α) := trivial

@[simp] theorem follows_command (issued : Command) (rest : Reply issued → Program Command Reply α) :
    Follows protocol stage (.command issued rest) ↔
      protocol.allowed stage issued ∧ ∀ reply, protocol.assumed stage issued reply →
        Follows protocol (protocol.next stage issued) (rest reply) := Iff.rfl

@[simp] theorem follows_perform (issued : Command) :
    Follows protocol stage (perform issued : Program Command Reply (Reply issued)) ↔
      protocol.allowed stage issued :=
  ⟨And.left, fun allowed => ⟨allowed, fun _ _ => trivial⟩⟩

theorem follows_perform_bind {issued : Command} {next : Reply issued → Program Command Reply β} :
    Follows protocol stage (perform issued >>= next) ↔
      protocol.allowed stage issued ∧ ∀ reply, protocol.assumed stage issued reply →
        Follows protocol (protocol.next stage issued) (next reply) := Iff.rfl

@[simp] theorem follows_map (program : Program Command Reply α) (change : α → β) :
    Follows protocol stage (change <$> program) ↔ Follows protocol stage program := by
  induction program generalizing stage with
  | pure value => exact Iff.rfl
  | command issued rest ih =>
      exact and_congr_right fun _ => forall_congr' fun reply => imp_congr_right fun _ => ih reply

/-- A program that stays in its stage hands the stage on to what follows it. -/
theorem follows_bind {program : Program Command Reply α} {next : α → Program Command Reply β}
    (stays : program.Issues fun issued =>
      protocol.allowed stage issued ∧ protocol.next stage issued = stage)
    (later : ∀ value, Follows protocol stage (next value)) :
    Follows protocol stage (program >>= next) := by
  induction program with
  | pure value => exact later value
  | command issued rest ih =>
      refine ⟨stays.1.1, fun reply _ => ?_⟩
      rw [stays.1.2]
      exact ih reply (stays.2 reply)

/-- In a stage that no command leaves, two programs follow one after the other. -/
theorem Follows.bind (still : ∀ issued, protocol.next stage issued = stage)
    {program : Program Command Reply α} {next : α → Program Command Reply β}
    (first : Follows protocol stage program)
    (later : ∀ value, Follows protocol stage (next value)) :
    Follows protocol stage (program >>= next) := by
  induction program with
  | pure value => exact later value
  | command issued rest ih =>
      refine ⟨first.1, fun reply known => ?_⟩
      have followed := first.2 reply known
      rw [still issued] at followed ⊢
      exact ih reply followed

/-- A program that stays in its stage follows the protocol. -/
theorem follows_of_issues {program : Program Command Reply α}
    (stays : program.Issues fun issued =>
      protocol.allowed stage issued ∧ protocol.next stage issued = stage) :
    Follows protocol stage program := by
  rw [← bind_pure_right program]
  exact follows_bind stays fun _ => trivial

/-- A stage can be replaced by a stage that allows as much and assumes as much. -/
theorem Follows.weaken {program : Program Command Reply α} (weaker : Stage → Stage → Prop)
    (related : ∀ first second, weaker first second → ∀ issued, protocol.allowed first issued →
      protocol.allowed second issued ∧
        (∀ reply, protocol.assumed second issued reply → protocol.assumed first issued reply) ∧
          weaker (protocol.next first issued) (protocol.next second issued))
    {other : Stage} (holds : weaker stage other) (follows : Follows protocol stage program) :
    Follows protocol other program := by
  induction program generalizing stage other with
  | pure value => trivial
  | command issued rest ih =>
      obtain ⟨allowed, assumed, later⟩ := related stage other holds issued follows.1
      exact ⟨allowed, fun reply known => ih reply later (follows.2 reply (assumed reply known))⟩

end Program

/-- A conversation moves through stages by its commands and by their replies. -/
structure Conversation (Command : Type) (Reply : Command → Type) (Stage : Type) where
  allowed : Stage → Command → Prop
  next : Stage → (issued : Command) → Reply issued → Stage

/-- A program keeps to a conversation when each of its commands is allowed in the stage that it
meets. -/
def Program.Converses {Command : Type} {Reply : Command → Type} {Stage α : Type}
    (conversation : Conversation Command Reply Stage) : Stage → Program Command Reply α → Prop
  | _, .pure _ => True
  | stage, .command issued rest =>
      conversation.allowed stage issued ∧
        ∀ reply, Converses conversation (conversation.next stage issued reply) (rest reply)

/-- A thread is a program with the state that only the thread sees. -/
structure Thread (Command : Type) (Reply : Command → Type) (τ α : Type) where
  program : Program Command Reply α
  own : τ

/-- A pool of threads works on one shared state. -/
structure Pool (Command : Type) (Reply : Command → Type) (τ σ α : Type) where
  shared : σ
  threads : List (Thread Command Reply τ α)

namespace Pool

variable {Command : Type} {Reply : Command → Type} {τ σ α : Type}
  (handler : Handler Command Reply (τ × σ))

/-- The chosen thread issues its next command. A finished thread does nothing. -/
def step (index : Nat) (pool : Pool Command Reply τ σ α) : Pool Command Reply τ σ α :=
  match pool.threads[index]? with
  | some ⟨.command issued rest, own⟩ =>
      { shared := (handler issued (own, pool.shared)).2.2
        threads := pool.threads.set index
          ⟨rest (handler issued (own, pool.shared)).1, (handler issued (own, pool.shared)).2.1⟩ }
  | _ => pool

/-- The command that the chosen thread issues next. -/
def issued (index : Nat) (pool : Pool Command Reply τ σ α) : Option Command :=
  match pool.threads[index]? with
  | some ⟨.command issued _, _⟩ => some issued
  | _ => none

/-- A step changes nothing or answers the next command of the chosen thread. -/
theorem step_cases (index : Nat) (pool : Pool Command Reply τ σ α) :
    (pool.step handler index = pool ∧ pool.issued index = none) ∨
      ∃ issued rest own, pool.threads[index]? = some ⟨.command issued rest, own⟩ ∧
        pool.issued index = some issued ∧
        pool.step handler index =
          { shared := (handler issued (own, pool.shared)).2.2
            threads := pool.threads.set index
              ⟨rest (handler issued (own, pool.shared)).1,
                (handler issued (own, pool.shared)).2.1⟩ } := by
  unfold step issued
  split
  · rename_i issued rest own found
    exact Or.inr ⟨issued, rest, own, found, rfl, rfl⟩
  · exact Or.inl ⟨rfl, rfl⟩

/-- A thread that is never chosen stays where it is. -/
theorem run_other {schedule : List Nat} {other : Nat} (unchosen : other ∉ schedule)
    (pool : Pool Command Reply τ σ α) :
    (runActions (step handler) schedule pool).threads[other]? = pool.threads[other]? := by
  induction schedule generalizing pool with
  | nil => rfl
  | cons index rest ih =>
      rw [List.mem_cons, not_or] at unchosen
      obtain ⟨different, later⟩ := unchosen
      rw [runActions_cons, ih later]
      obtain ⟨same, _⟩ | ⟨issued, next, own, found, _, same⟩ := step_cases handler index pool
      · rw [same]
      · rw [same]
        exact List.getElem?_set_ne (Ne.symm different)

/-- The threads after a step are the stepped thread and the other threads. -/
theorem forall_set {threads : List (Thread Command Reply τ α)} {index : Nat}
    {thread : Thread Command Reply τ α} {holds : Thread Command Reply τ α → Prop}
    (stepped : holds thread)
    (others : ∀ other found, other ≠ index → threads[other]? = some found → holds found) :
    ∀ found ∈ threads.set index thread, holds found := by
  intro found inside
  obtain ⟨other, within⟩ := List.mem_iff_getElem?.mp inside
  rw [List.getElem?_set] at within
  split at within
  · split at within
    · exact Option.some.inj within ▸ stepped
    · exact absurd within (by simp)
  · rename_i different
    exact others other found (Ne.symm different) within

end Pool

end Effect
