/-
This file gives graphs of nodes that change a state, and their runs along the edges.
-/

import Sprawl.Effect.Overwriting

namespace Effect

/-- A node changes the state or raises, and the new state selects the next node or the end. -/
structure Flow (ν ε σ : Type) where
  node : ν → σ → Except ε σ
  next : ν → σ → Option ν

namespace Flow

variable {ν ε σ β : Type} (flow : Flow ν ε σ)

/-- A run to the end, with the nodes that it visits and the states that they meet. -/
inductive Runs : Option ν → σ → List (ν × σ) → σ → Prop
  | finish (state : σ) : Runs none state [] state
  | visit {node : ν} {state after final : σ} {log : List (ν × σ)}
      (done : flow.node node state = .ok after) (rest : Runs (flow.next node after) after log final) :
      Runs (some node) state ((node, state) :: log) final

variable {flow} {start : Option ν} {state final other : σ} {log visits : List (ν × σ)}

/-- A start has one run. -/
theorem Runs.unique (first : flow.Runs start state log final)
    (second : flow.Runs start state visits other) : visits = log ∧ other = final := by
  induction first generalizing visits other with
  | finish state =>
      cases second
      exact ⟨rfl, rfl⟩
  | visit done rest ih =>
      cases second with
      | visit doneOther restOther =>
          obtain rfl := Except.ok.inj (done.symm.trans doneOther)
          obtain ⟨rfl, rfl⟩ := ih restOther
          exact ⟨rfl, rfl⟩

/-- A part of the state that nodes overwrite has its last write at the end. -/
theorem Runs.lastWrite {value : σ → β} {written : ν × σ → Option β}
    (each : ∀ node state after, flow.node node state = .ok after →
      value after = (written (node, state)).getD (value state))
    (run : flow.Runs start state log final) :
    value final = Effect.lastWrite written (value state) log := by
  induction run with
  | finish state => rfl
  | visit done rest ih => rw [lastWrite_cons, ← each _ _ _ done, ih]

/-- A list of the state to which nodes add has all additions at the end, in turn. -/
theorem Runs.collected {items : σ → List β} {added : ν × σ → Option β}
    (each : ∀ node state after, flow.node node state = .ok after →
      items after = items state ++ (added (node, state)).toList)
    (run : flow.Runs start state log final) :
    items final = items state ++ log.filterMap added := by
  induction run with
  | finish state => exact (List.append_nil _).symm
  | visit done rest ih =>
      rw [ih, each _ _ _ done, List.append_assoc, List.filterMap_cons]
      cases added _ <;> rfl

end Flow

end Effect
