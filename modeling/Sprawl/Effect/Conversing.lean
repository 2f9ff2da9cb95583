/-
This file gives the stages that programs leave behind in a conversation.
-/

import Sprawl.Effect.Interleaving
import Sprawl.Effect.Raising

namespace Effect

variable {Command : Type} {Reply : Command → Type} {Stage α β ε : Type}
  {conversation : Conversation Command Reply Stage}

namespace Program

/-- A program keeps to a conversation and leaves a stage that fits its value. -/
def Leaves (conversation : Conversation Command Reply Stage) (post : α → Stage → Prop) :
    Stage → Program Command Reply α → Prop
  | stage, .pure value => post value stage
  | stage, .command issued rest =>
      conversation.allowed stage issued ∧
        ∀ reply, Leaves conversation post (conversation.next stage issued reply) (rest reply)

variable {stage : Stage} {post : α → Stage → Prop} {after : β → Stage → Prop}

theorem Leaves.converses {program : Program Command Reply α}
    (leaves : Leaves conversation post stage program) : Converses conversation stage program := by
  induction program generalizing stage with
  | pure value => trivial
  | command issued rest ih => exact ⟨leaves.1, fun reply => ih reply (leaves.2 reply)⟩

theorem Leaves.mono {weaker : α → Stage → Prop} {program : Program Command Reply α}
    (leaves : Leaves conversation post stage program)
    (implied : ∀ value stage, post value stage → weaker value stage) :
    Leaves conversation weaker stage program := by
  induction program generalizing stage with
  | pure value => exact implied value stage leaves
  | command issued rest ih => exact ⟨leaves.1, fun reply => ih reply (leaves.2 reply)⟩

theorem leaves_perform {issued : Command} {fits : Reply issued → Stage → Prop}
    (allowed : conversation.allowed stage issued)
    (left : ∀ reply, fits reply (conversation.next stage issued reply)) :
    Leaves conversation fits stage (perform issued) :=
  ⟨allowed, left⟩

/-- The second program starts in a stage that the first one leaves. -/
theorem leaves_bind {program : Program Command Reply α} {next : α → Program Command Reply β}
    (first : Leaves conversation post stage program)
    (later : ∀ value left, post value left → Leaves conversation after left (next value)) :
    Leaves conversation after stage (program >>= next) := by
  induction program generalizing stage with
  | pure value => exact later value stage first
  | command issued rest ih => exact ⟨first.1, fun reply => ih reply (first.2 reply)⟩

end Program

namespace Raising

/-- What a program that returns or raises leaves behind. -/
structure Left (ε α Stage : Type) where
  returned : α → Stage → Prop
  raised : ε → Stage → Prop

def Left.post (left : Left ε α Stage) : Except ε α → Stage → Prop
  | .ok value => left.returned value
  | .error exception => left.raised exception

/-- A program keeps to a conversation, and leaves a stage by its value or by its exception. -/
def Leaves (conversation : Conversation Command Reply Stage) (left : Left ε α Stage)
    (stage : Stage) (program : Raising Command Reply ε α) : Prop :=
  Program.Leaves conversation left.post stage (ExceptT.run program)

variable {stage : Stage} {returned : α → Stage → Prop} {raised : ε → Stage → Prop}
  {after : β → Stage → Prop}

theorem leaves_pure {value : α} (holds : returned value stage) :
    Leaves conversation ⟨returned, raised⟩ stage (pure value : Raising Command Reply ε α) := holds

theorem leaves_throw {exception : ε} (holds : raised exception stage) :
    Leaves conversation ⟨returned, raised⟩ stage
      (throw exception : Raising Command Reply ε α) := holds

theorem leaves_perform {issued : Command} {fits : Reply issued → Stage → Prop}
    (allowed : conversation.allowed stage issued)
    (holds : ∀ reply, fits reply (conversation.next stage issued reply)) :
    Leaves conversation ⟨fits, raised⟩ stage
      (perform issued : Raising Command Reply ε (Reply issued)) :=
  ⟨allowed, holds⟩

/-- An exception of the first program is one of the whole. -/
theorem leaves_bind {program : Raising Command Reply ε α} {next : α → Raising Command Reply ε β}
    (first : Leaves conversation ⟨returned, raised⟩ stage program)
    (later : ∀ value left, returned value left →
      Leaves conversation ⟨after, raised⟩ left (next value)) :
    Leaves conversation ⟨after, raised⟩ stage (program >>= next) := by
  rw [Leaves, ExceptT.run_bind]
  refine Program.leaves_bind first fun outcome left fits => ?_
  cases outcome with
  | ok value => exact later value left fits
  | error exception => exact fits

/-- The handler starts in a stage that an exception leaves. -/
theorem leaves_catch {program : Raising Command Reply ε α}
    {handle : ε → Raising Command Reply ε α} {caught : ε → Stage → Prop}
    (first : Leaves conversation ⟨returned, caught⟩ stage program)
    (later : ∀ exception left, caught exception left →
      Leaves conversation ⟨returned, raised⟩ left (handle exception)) :
    Leaves conversation ⟨returned, raised⟩ stage (tryCatch program handle) := by
  refine Program.leaves_bind first fun outcome left fits => ?_
  cases outcome with
  | ok value => exact fits
  | error exception => exact later exception left fits

theorem Leaves.mono {program : Raising Command Reply ε α} {first second : Left ε α Stage}
    (leaves : Leaves conversation first stage program)
    (returns : ∀ value left, first.returned value left → second.returned value left)
    (raises : ∀ exception left, first.raised exception left → second.raised exception left) :
    Leaves conversation second stage program := by
  refine Program.Leaves.mono leaves fun outcome left fits => ?_
  cases outcome with
  | ok value => exact returns value left fits
  | error exception => exact raises exception left fits

end Raising

end Effect
