/-
This file gives programs that run alike under two handlers.
-/

import Sprawl.Effect.Raising
import Sprawl.Effect.Transition

namespace Effect

variable {Command : Type} {Reply : Command → Type} {σ τ α β γ δ ε : Type}

section Related

variable (calls : Command → Command → Prop)
  (replies : (issued other : Command) → Reply issued → Reply other → Prop)

/-- Two handlers mirror each other: alike commands in related states have alike replies and lead to
related states. -/
def Mirrors (related : σ → τ → Prop) (handler : Handler Command Reply σ)
    (mirror : Handler Command Reply τ) : Prop :=
  ∀ issued other state image, calls issued other → related state image →
    replies issued other (handler issued state).1 (mirror other image).1 ∧
      related (handler issued state).2 (mirror other image).2

namespace Program

/-- Two programs are alike: they issue alike commands as long as the replies are alike, and they end
with alike values. -/
def Alike (values : α → β → Prop) : Program Command Reply α → Program Command Reply β → Prop
  | .pure value, .pure other => values value other
  | .command issued rest, .command other others => calls issued other ∧
      ∀ reply answer, replies issued other reply answer → (rest reply).Alike values (others answer)
  | .pure _, .command _ _ => False
  | .command _ _, .pure _ => False

variable {calls replies}

/-- Alike programs under handlers that mirror each other end alike. -/
theorem Alike.run {values : α → β → Prop} {related : σ → τ → Prop}
    {handler : Handler Command Reply σ} {mirror : Handler Command Reply τ}
    (mirrors : Mirrors calls replies related handler mirror)
    {program : Program Command Reply α} {other : Program Command Reply β}
    (alike : Alike calls replies values program other) {state : σ} {image : τ}
    (start : related state image) :
    values (run handler program state).1 (run mirror other image).1 ∧
      related (run handler program state).2 (run mirror other image).2 := by
  induction program generalizing other state image with
  | pure value =>
      cases other with
      | pure otherValue => exact ⟨alike, start⟩
      | command issued rest => exact alike.elim
  | command issued rest ih =>
      cases other with
      | pure otherValue => exact alike.elim
      | command otherIssued others =>
          obtain ⟨same, later⟩ := alike
          obtain ⟨answered, moved⟩ := mirrors issued otherIssued state image same start
          exact ih _ (later _ _ answered) moved

/-- A program is alike itself where alike replies to one command are equal. -/
theorem alike_refl (same : ∀ issued, calls issued issued)
    (determined : ∀ issued reply answer, replies issued issued reply answer → reply = answer)
    (program : Program Command Reply α) : Alike calls replies Eq program program := by
  induction program with
  | pure value => rfl
  | command issued rest ih =>
      refine ⟨same issued, fun reply answer answered => ?_⟩
      obtain rfl := determined issued reply answer answered
      exact ih reply

/-- A program is alike itself where the replies to its commands are determined. -/
theorem alike_of_issues {determined : Command → Prop}
    (same : ∀ issued, determined issued → calls issued issued ∧
      ∀ reply answer, replies issued issued reply answer → reply = answer)
    {program : Program Command Reply α} (every : Issues determined program) :
    Alike calls replies Eq program program := by
  induction program with
  | pure value => rfl
  | command issued rest ih =>
      obtain ⟨known, later⟩ := every
      refine ⟨(same issued known).1, fun reply answer answered => ?_⟩
      obtain rfl := (same issued known).2 reply answer answered
      exact ih reply (later reply)

/-- Alike programs before alike rests are alike. -/
theorem Alike.bind {values : α → β → Prop} {ends : γ → δ → Prop}
    {program : Program Command Reply α} {other : Program Command Reply β}
    {next : α → Program Command Reply γ} {others : β → Program Command Reply δ}
    (first : Alike calls replies values program other)
    (later : ∀ value answer, values value answer →
      Alike calls replies ends (next value) (others answer)) :
    Alike calls replies ends (program >>= next) (other >>= others) := by
  induction program generalizing other with
  | pure value =>
      cases other with
      | pure answer => exact later value answer first
      | command issued rest => exact first.elim
  | command issued rest ih =>
      cases other with
      | pure answer => exact first.elim
      | command otherIssued otherRest =>
          obtain ⟨same, after⟩ := first
          exact ⟨same, fun reply answer answered => ih reply (after reply answer answered)⟩

end Program

/-- Two outcomes are alike: they have one exception or alike values. -/
def AlikeOutcomes (values : α → β → Prop) : Except ε α → Except ε β → Prop
  | .error raised, .error other => raised = other
  | .ok value, .ok other => values value other
  | _, _ => False

namespace Raising

/-- Alike programs return alike values or raise one exception. -/
def Alike (values : α → β → Prop) (program : Raising Command Reply ε α)
    (other : Raising Command Reply ε β) : Prop :=
  Program.Alike calls replies (AlikeOutcomes values) (ExceptT.run program) (ExceptT.run other)

variable {calls replies}

end Raising

end Related

section Equal

/-- Two handlers give equal replies. -/
def Agrees (related : σ → τ → Prop) (handler : Handler Command Reply σ)
    (mirror : Handler Command Reply τ) : Prop :=
  ∀ issued state image, related state image →
    (handler issued state).1 = (mirror issued image).1 ∧
      related (handler issued state).2 (mirror issued image).2

/-- One program under two handlers that give equal replies returns one value. -/
theorem Program.run_agrees {related : σ → τ → Prop} {handler : Handler Command Reply σ}
    {mirror : Handler Command Reply τ} (agrees : Agrees related handler mirror)
    (program : Program Command Reply α) {state : σ} {image : τ} (start : related state image) :
    (run handler program state).1 = (run mirror program image).1 ∧
      related (run handler program state).2 (run mirror program image).2 := by
  have mirrors : Mirrors Eq (fun issued other reply answer => HEq reply answer) related handler
      mirror := by
    rintro issued other state image rfl start
    obtain ⟨same, moved⟩ := agrees issued state image start
    exact ⟨heq_of_eq same, moved⟩
  exact (Program.alike_refl (fun _ => rfl) (fun _ _ _ => eq_of_heq) program).run mirrors start

/-- The states after some commands are related too. -/
theorem Program.stateAfter_agrees {related : σ → τ → Prop} {handler : Handler Command Reply σ}
    {mirror : Handler Command Reply τ} (agrees : Agrees related handler mirror) (count : Nat)
    (program : Program Command Reply α) {state : σ} {image : τ} (start : related state image) :
    related (stateAfter handler count program state) (stateAfter mirror count program image) := by
  induction program generalizing count state image with
  | pure value => cases count <;> exact start
  | command issued rest ih =>
      cases count with
      | zero => exact start
      | succ count =>
          obtain ⟨same, moved⟩ := agrees issued state image start
          rw [stateAfter, stateAfter, same]
          exact ih _ count moved

end Equal

section Actions

variable {Action Other : Type} {step : Action → σ → σ} {mirror : Other → τ → τ}
  {related : σ → τ → Prop} {alike : Action → Other → Prop}

/-- Alike actions lead from related states to related states, so alike runs do. -/
theorem related_runActions
    (each : ∀ action other state image, alike action other → related state image →
      related (step action state) (mirror other image))
    {actions : List Action} {others : List Other} (every : List.Forall₂ alike actions others)
    {state : σ} {image : τ} (start : related state image) :
    related (runActions step actions state) (runActions mirror others image) := by
  induction every generalizing state image with
  | nil => exact start
  | cons first _ ih => exact ih (each _ _ _ _ first start)

/-- What alike actions in related states have in common is common to the visits of alike runs. -/
theorem related_visits {γ : Type} {result : σ × Action → γ} {otherResult : τ × Other → γ}
    (each : ∀ action other state image, alike action other → related state image →
      related (step action state) (mirror other image))
    (common : ∀ action other state image, alike action other → related state image →
      result (state, action) = otherResult (image, other))
    {actions : List Action} {others : List Other} (every : List.Forall₂ alike actions others)
    {state : σ} {image : τ} (start : related state image) :
    (visits step actions state).map result = (visits mirror others image).map otherResult := by
  induction every generalizing state image with
  | nil => rfl
  | cons first _ ih =>
      rw [visits_cons, visits_cons, List.map_cons, List.map_cons, common _ _ _ _ first start,
        ih (each _ _ _ _ first start)]

end Actions

end Effect
