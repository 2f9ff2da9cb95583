/-
This file proves what the effect of `useWorkspaceSSE` calls, and when its cleanup is final.
-/

import Sprawl.Streaming.Connection

namespace Sprawl

open Text Effect

namespace SsePhase

variable {ν : Type} (number : Numeral → ν)

/-- A timer is to start the next attempt. -/
def timed : SsePhase ν → Bool
  | .retrying _ => true
  | _ => false

/-- The events of a chunk that has come which have not been handed over. -/
def arrived : SsePhase ν → List (JsonTree ν JsText)
  | .received buffer (some value) =>
      (LineReader.receive '\n' (onLine number) ⟨buffer, []⟩ value).handled
  | .handing _ events => events
  | _ => []

/-- What the effect does even after its cleanup. -/
def owed (phase : SsePhase ν) : List (SseOutput ν) :=
  (if phase.timed then [.fetch] else []) ++ (phase.arrived number).map .onEvent

theorem owed_eq_nil_iff {phase : SsePhase ν} :
    phase.owed number = [] ↔ phase.timed = false ∧ phase.arrived number = [] := by
  rw [owed, List.append_eq_nil_iff, List.map_eq_nil_iff]
  cases phase.timed <;> simp

end SsePhase

namespace SseEffect

section Step

variable {ν : Type} {number : Numeral → ν} {state : SseEffect ν}

theorem reconnect_outputs : state.reconnect.outputs = state.outputs := by
  unfold reconnect
  split <;> rfl

theorem caught_outputs (error : SseError) : (state.caught error).outputs = state.outputs := by
  unfold caught
  split
  · cases error with
    | abortError => rfl
    | other => exact reconnect_outputs
  · rfl

theorem readOn_outputs (buffer : List Char) : (state.readOn buffer).outputs = state.outputs := by
  unfold readOn
  split
  · rfl
  · exact reconnect_outputs

theorem settle_outputs {α : Type} (fulfilled : α → SsePhase ν) (outcome : Except SseError α) :
    (state.settle fulfilled outcome).outputs = state.outputs := by
  unfold settle
  split
  · rfl
  · cases outcome <;> rfl

theorem prefix_of_same {next : SseEffect ν} (same : next.outputs = state.outputs) :
    state.outputs <+: next.outputs :=
  ⟨[], (List.append_nil _).trans same.symm⟩

/-- The effect does not take back what it did. -/
theorem outputs_step (state : SseEffect ν) (action : SseAction) :
    state.outputs <+: (step number action state).outputs := by
  unfold step
  split
  · exact prefix_of_same (settle_outputs _ _)
  · exact prefix_of_same (settle_outputs _ _)
  · unfold resume
    split
    · split
      · exact prefix_of_same (caught_outputs _)
      · exact prefix_of_same (readOn_outputs _)
    · exact List.prefix_rfl
    · exact prefix_of_same reconnect_outputs
    · exact prefix_of_same (caught_outputs _)
    · exact List.prefix_append _ _
    · exact prefix_of_same (readOn_outputs _)
    · exact List.prefix_rfl
  · exact List.prefix_append _ _
  · exact List.prefix_rfl
  · exact List.prefix_rfl

theorem outputs_runActions (number : Numeral → ν) (actions : List SseAction) (state : SseEffect ν) :
    state.outputs <+: (runActions (step number) actions state).outputs :=
  @grows_runActions _ _ (step number) (fun first second => first.outputs <+: second.outputs)
    (fun state => List.prefix_refl state.outputs) (fun first second => first.trans second)
    outputs_step actions state

end Step

section Down

variable {ν : Type} {number : Numeral → ν} {state : SseEffect ν}
  {promised : List (SseOutput ν)}

/-- After the cleanup the effect reads no more, and it does what it owed then. -/
structure TornDown (number : Numeral → ν) (promised : List (SseOutput ν)) (state : SseEffect ν) :
    Prop where
  inactive : state.active = false
  unread : ∀ buffer, state.phase = .reading buffer → state.aborted = true
  balance : state.outputs ++ state.phase.owed number = promised

theorem reconnect_inactive (inactive : state.active = false) :
    state.reconnect = { state with phase := .returned } := by
  rw [reconnect, if_neg (Bool.eq_false_iff.mp inactive)]

theorem caught_inactive (inactive : state.active = false) (error : SseError) :
    state.caught error = { state with phase := .returned } := by
  unfold caught
  rw [if_neg (Bool.eq_false_iff.mp inactive)]

theorem readOn_inactive (inactive : state.active = false) (buffer : List Char) :
    state.readOn buffer = { state with phase := .returned } := by
  rw [readOn, if_neg (Bool.eq_false_iff.mp inactive), reconnect_inactive inactive]

theorem cleanup_tornDown (state : SseEffect ν) :
    TornDown number (state.outputs ++ state.phase.owed number) (step number .cleanup state) where
  inactive := rfl
  unread := fun _ _ => rfl
  balance := rfl

/-- A move within the effect leaves what it owes. -/
theorem TornDown.moved {attempt : Nat} {phase : SsePhase ν} (torn : TornDown number promised state)
    (owed : phase.owed number = state.phase.owed number) (away : ∀ buffer, phase ≠ .reading buffer) :
    TornDown number promised { state with attempt, phase } where
  inactive := torn.inactive
  unread := fun buffer reads => absurd reads (away buffer)
  balance := by
    rw [← torn.balance, ← owed]

/-- The effect ends once it owes nothing. -/
theorem TornDown.ends {attempt : Nat} (torn : TornDown number promised state)
    (nothing : state.phase.owed number = []) :
    TornDown number promised { state with attempt, phase := .returned } :=
  torn.moved nothing.symm nofun

theorem settle_tornDown {α : Type} {fulfilled : α → SsePhase ν} {outcome : Except SseError α}
    (torn : TornDown number promised state) (nothing : state.phase.owed number = [])
    (settled : state.aborted = true ∨
      ∀ value, (fulfilled value).owed number = [] ∧ ∀ buffer, fulfilled value ≠ .reading buffer) :
    TornDown number promised (state.settle fulfilled outcome) := by
  have rejects (error : SseError) : TornDown number promised { state with phase := .rejected error } :=
    torn.moved nothing.symm nofun
  unfold settle
  split
  · exact rejects _
  · next fresh =>
      have fine := settled.resolve_left fresh
      cases outcome with
      | ok value =>
          obtain ⟨empty, away⟩ := fine value
          exact torn.moved (empty.trans nothing.symm) away
      | error error => exact rejects error

theorem resume_tornDown (torn : TornDown number promised state) :
    TornDown number promised (state.resume number) := by
  have owed : ∀ {phase}, state.phase = phase → state.phase.owed number = phase.owed number :=
    fun stands => congrArg (SsePhase.owed number) stands
  unfold resume
  split
  · next response stands =>
      split
      · rw [caught_inactive torn.inactive]
        exact torn.ends (owed stands)
      · rw [@readOn_inactive ν { state with attempt := 0 } torn.inactive []]
        exact torn.ends (owed stands)
  · next buffer value stands => exact torn.moved (owed stands).symm nofun
  · next stands =>
      rw [reconnect_inactive torn.inactive]
      exact torn.ends (owed stands)
  · next stands =>
      rw [caught_inactive torn.inactive]
      exact torn.ends (owed stands)
  · next buffer event rest stands =>
      refine ⟨torn.inactive, nofun, ?_⟩
      rw [← torn.balance, owed stands]
      simp [SsePhase.owed, SsePhase.timed, SsePhase.arrived]
  · next stands =>
      rw [readOn_inactive torn.inactive]
      exact torn.ends (owed stands)
  · exact torn

/-- An effect that is torn down keeps the balance of what it did and what it owes. -/
theorem step_tornDown (action : SseAction) (torn : TornDown number promised state) :
    TornDown number promised (step number action state) := by
  unfold step
  split
  · next stands =>
      refine settle_tornDown torn ?_ (Or.inr fun response => ⟨rfl, nofun⟩)
      rw [stands]
      rfl
  · next buffer stands =>
      refine settle_tornDown torn ?_ (Or.inl (torn.unread buffer stands))
      rw [stands]
      rfl
  · exact resume_tornDown torn
  · next delay stands =>
      -- The timer outlived the cleanup, and the new attempt fetches before it sees the flag.
      refine ⟨torn.inactive, nofun, ?_⟩
      rw [← torn.balance, stands]
      exact List.append_nil _
  · exact ⟨rfl, fun _ _ => rfl, torn.balance⟩
  · exact torn

/-- After the cleanup nothing happens but what was owed. -/
theorem after_cleanup (number : Numeral → ν) (after : List SseAction) (state : SseEffect ν) :
    TornDown number (state.outputs ++ state.phase.owed number)
      (runActions (step number) (.cleanup :: after) state) := by
  rw [runActions_cons]
  exact invariant_always (TornDown number _) (fun _ action torn => step_tornDown action torn)
    (cleanup_tornDown state)

end Down

section Reads

variable {ν : Type} (number : Numeral → ν)

/-- The loop over the lines hands over one event after the other. -/
theorem handing_resumes (events : List (JsonTree ν JsText)) (buffer : List Char) (state : SseEffect ν)
    (stands : state.phase = .handing buffer events) :
    runActions (step number) (List.replicate events.length .resume) state =
      { state with
        phase := .handing buffer []
        outputs := state.outputs ++ events.map .onEvent } := by
  induction events generalizing state with
  | nil =>
      rw [List.map_nil, List.append_nil, ← stands]
      rfl
  | cons event rest ih =>
      have handed : step number .resume state = { state with
          phase := .handing buffer rest
          outputs := state.outputs ++ [.onEvent event] } := by
        rw [step, resume, stands]
      rw [List.length_cons, List.replicate_succ, runActions_cons, handed, ih _ rfl, List.map_cons,
        List.append_assoc, List.singleton_append]

/-- The actions of a read that delivers a chunk, with the calls for it. -/
def delivery (reader : LineReader Char (JsonTree ν JsText)) (chunk : List Char) : List SseAction :=
  .readSettles (.ok (some chunk)) :: .resume ::
    (List.replicate reader.handled.length .resume ++ [.resume])

/-- The actions of reads that deliver some chunks. -/
def deliveries : List Char → List (List Char) → List SseAction
  | _, [] => []
  | buffer, chunk :: rest =>
      let reader := LineReader.receive '\n' (onLine number) ⟨buffer, []⟩ chunk
      delivery reader chunk ++ deliveries reader.buffer rest

/-- A read makes the calls for its chunk, and the next read waits. -/
theorem delivery_runs {buffer chunk : List Char} {reader : LineReader Char (JsonTree ν JsText)}
    (read : LineReader.receive '\n' (onLine number) ⟨buffer, []⟩ chunk = reader)
    {state : SseEffect ν} (active : state.active = true) (fresh : state.aborted = false)
    (stands : state.phase = .reading buffer) :
    runActions (step number) (delivery reader chunk) state =
      { state with
        phase := .reading reader.buffer
        outputs := state.outputs ++ reader.handled.map .onEvent } := by
  have settled : step number (.readSettles (.ok (some chunk))) state =
      { state with phase := .received buffer (some chunk) } := by
    unfold step
    rw [stands]
    simp only [settle, fresh, Bool.false_eq_true, if_false]
  have resumed : step number .resume { state with phase := .received buffer (some chunk) } =
      { state with phase := .handing reader.buffer reader.handled } := by
    rw [← read]
    rfl
  rw [delivery, runActions_cons, settled, runActions_cons, resumed, runActions_append,
    handing_resumes number reader.handled _ _ rfl, runActions_cons, runActions_nil]
  simp only [step, resume, readOn, active, if_true]

/-- The loop makes the calls of a reader of lines. -/
theorem deliveries_outputs (chunks : List (List Char)) {buffer : List Char} {state : SseEffect ν}
    (active : state.active = true) (fresh : state.aborted = false)
    (stands : state.phase = .reading buffer) :
    (runActions (step number) (deliveries number buffer chunks) state).outputs = state.outputs ++
      (chunks.foldl (LineReader.receive '\n' (onLine number)) ⟨buffer, []⟩).handled.map .onEvent := by
  induction chunks generalizing buffer state with
  | nil => exact (List.append_nil _).symm
  | cons chunk rest ih =>
      rw [deliveries, List.foldl_cons]
      generalize read : LineReader.receive '\n' (onLine number) ⟨buffer, []⟩ chunk = reader
      have later := @ih reader.buffer
        { state with
          phase := .reading reader.buffer
          outputs := state.outputs ++ reader.handled.map .onEvent } active fresh rfl
      have added := LineReader.handled_receive (onLine number) '\n' rest reader.buffer reader.handled
      rw [runActions_append, delivery_runs number read active fresh stands, later, added,
        List.map_append, List.append_assoc]

/-- A connection fetches once and makes the calls for its chunks. -/
theorem connection_outputs (chunks : List (List Char)) {workspaceId token : String}
    (workspace : workspaceId ≠ "") (authorized : token ≠ "") :
    (run number workspaceId token (.fetchSettles (.ok ⟨true, true⟩) :: .resume ::
      deliveries number [] chunks)).outputs =
        .fetch :: (useWorkspaceSse number chunks).map .onEvent := by
  have mounted : (mount workspaceId token : SseEffect ν) =
      { active := true, attempt := 0, aborted := false, phase := .fetching, outputs := [.fetch] } := by
    simp [mount, connect, workspace, authorized]
  rw [run, mounted, runActions_cons, runActions_cons]
  exact deliveries_outputs number chunks rfl rfl rfl

end Reads

section Due

variable {ν : Type} (number : Numeral → ν)

/-- What the effect owes may happen. -/
theorem exists_due (state : SseEffect ν) :
    ∃ after, (runActions (step number) after state).outputs =
      state.outputs ++ state.phase.owed number := by
  cases stands : state.phase with
  | retrying delay =>
      refine ⟨[.timerFires], ?_⟩
      have fired : step number .timerFires state = state.connect := by
        unfold step
        rw [stands]
      rw [runActions_cons, fired]
      rfl
  | handing buffer events =>
      refine ⟨List.replicate events.length .resume, ?_⟩
      rw [handing_resumes number events buffer state stands]
      rfl
  | received buffer value =>
      cases value with
      | none => exact ⟨[], (List.append_nil _).symm⟩
      | some value =>
          let reader := LineReader.receive '\n' (onLine number) ⟨buffer, []⟩ value
          have resumed : step number .resume state =
              { state with phase := .handing reader.buffer reader.handled } := by
            rw [step, resume, stands]
          refine ⟨.resume :: List.replicate reader.handled.length .resume, ?_⟩
          rw [runActions_cons, resumed, handing_resumes number _ _ _ rfl]
          rfl
  | _ => exact ⟨[], (List.append_nil _).symm⟩

end Due

section Final

variable {ν : Type} (number : Numeral → ν)

/-- No timer runs, and every event that has come has been handed over. -/
structure Quiet (state : SseEffect ν) : Prop where
  untimed : state.phase.timed = false
  handed : state.phase.arrived number = []

/-- The cleanup is final exactly if it finds the effect quiet. -/
theorem teardown_final_iff (workspaceId token : Option String) (before : List SseAction) :
    (∀ after, (run number workspaceId token (before ++ .cleanup :: after)).outputs =
        (run number workspaceId token before).outputs) ↔
      Quiet number (run number workspaceId token before) := by
  have split (after : List SseAction) : run number workspaceId token (before ++ .cleanup :: after) =
      runActions (step number) (.cleanup :: after) (run number workspaceId token before) :=
    runActions_append _ _ _ _
  simp only [split]
  generalize run number workspaceId token before = state
  have quiet : Quiet number state ↔ state.phase.owed number = [] :=
    ⟨fun given => (SsePhase.owed_eq_nil_iff number).mpr ⟨given.untimed, given.handed⟩,
      fun empty => ⟨((SsePhase.owed_eq_nil_iff number).mp empty).1,
        ((SsePhase.owed_eq_nil_iff number).mp empty).2⟩⟩
  rw [quiet]
  constructor
  · intro final
    obtain ⟨after, due⟩ := exists_due number (step number .cleanup state)
    have same := final after
    rw [runActions_cons, due] at same
    exact List.append_right_eq_self.mp same
  · intro nothing after
    have balance := (after_cleanup number after state).balance
    have kept := outputs_runActions number (.cleanup :: after) state
    rw [nothing, List.append_nil] at balance
    obtain ⟨more, grown⟩ := kept
    have none : more = [] := by
      rw [← grown, List.append_assoc, List.append_right_eq_self, List.append_eq_nil_iff] at balance
      exact balance.1
    rw [← grown, none, List.append_nil]

/-- A fetch fails, the cleanup comes before its timer, and the timer fetches again. -/
theorem failedFetch_refetches :
    (run id (some "w") (some "t") [.fetchSettles (.error .other), .resume]).outputs = [.fetch] ∧
      (run id (some "w") (some "t")
        [.fetchSettles (.error .other), .resume, .cleanup, .timerFires]).outputs =
          [.fetch, .fetch] :=
  ⟨rfl, rfl⟩

end Final

end SseEffect

end Sprawl
