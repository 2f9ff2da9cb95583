/-
This file gives texts that end where a stop follows, and lists of such texts.
-/

import Sprawl.Text.Meeting

namespace Text

variable {α β : Type}

/-- A rest is empty or starts with a stop. -/
def Stopped (stop : α → Prop) (rest : List α) : Prop := ∀ head ∈ rest.head?, stop head

/-- Two texts meet before a stop under a condition: they meet where only a stop may follow. -/
def MeetsBefore (stop : α → Prop) (first second : List α) (condition : Prop) : Prop :=
  ∀ firstRest secondRest, Stopped stop firstRest → Stopped stop secondRest →
    (first ++ firstRest = second ++ secondRest ↔ condition ∧ firstRest = secondRest)

section Before

variable {stop : α → Prop} {first second third fourth : List α} {condition other : Prop}

/-- Texts that meet before anything meet before a stop. -/
theorem Meets.before (meets : Meets first second condition) :
    MeetsBefore stop first second condition :=
  fun firstRest secondRest _ _ => meets firstRest secondRest

/-- A text that ends anywhere goes before a text that ends at a stop. -/
theorem Meets.appendBefore (starts : Meets first second condition)
    (ends : MeetsBefore stop third fourth other) :
    MeetsBefore stop (first ++ third) (second ++ fourth) (condition ∧ other) := by
  intro firstRest secondRest firstStops secondStops
  rw [List.append_assoc, List.append_assoc, starts, ends _ _ firstStops secondStops, and_assoc]

/-- A text that starts with a stop goes behind a text that ends at a stop. -/
theorem MeetsBefore.append {firstHead secondHead : α} (starts : MeetsBefore stop first second condition)
    (ends : Meets (firstHead :: third) (secondHead :: fourth) other) (firstStops : stop firstHead)
    (secondStops : stop secondHead) :
    Meets (first ++ firstHead :: third) (second ++ secondHead :: fourth) (condition ∧ other) := by
  intro firstRest secondRest
  have firstStopped : Stopped stop (firstHead :: third ++ firstRest) := by
    simpa [Stopped] using firstStops
  have secondStopped : Stopped stop (secondHead :: fourth ++ secondRest) := by
    simpa [Stopped] using secondStops
  rw [List.append_assoc, List.append_assoc, starts _ _ firstStopped secondStopped, ends, and_assoc]

theorem MeetsBefore.congr (meets : MeetsBefore stop first second condition)
    (same : condition ↔ other) : MeetsBefore stop first second other := by
  intro firstRest secondRest firstStops secondStops
  rw [meets firstRest secondRest firstStops secondStops, same]

/-- Texts that meet before a stop are equal exactly under their condition. -/
theorem MeetsBefore.eq_iff (meets : MeetsBefore stop first second condition) :
    first = second ↔ condition := by
  have whole := meets [] [] (by simp [Stopped]) (by simp [Stopped])
  rwa [List.append_nil, List.append_nil, and_iff_left rfl] at whole

/-- Texts without a stop meet before a stop exactly if they are equal. -/
theorem meetsBefore_free (firstFree : ∀ item ∈ first, ¬ stop item)
    (secondFree : ∀ item ∈ second, ¬ stop item) :
    MeetsBefore stop first second (first = second) := by
  induction first generalizing second with
  | nil =>
      cases second with
      | nil => exact ((meets_self []).congr (by simp)).before
      | cons head tail =>
          intro firstRest secondRest firstStops _
          have free := secondFree head List.mem_cons_self
          constructor
          · intro same
            have starts : firstRest.head? = some head := by
              rw [← List.nil_append firstRest, same]
              rfl
            exact absurd (firstStops head starts) free
          · exact fun given => absurd given.1 (by simp)
  | cons head tail ih =>
      rw [List.forall_mem_cons] at firstFree
      cases second with
      | nil =>
          intro firstRest secondRest _ secondStops
          constructor
          · intro same
            have starts : secondRest.head? = some head := by
              rw [← List.nil_append secondRest, ← same]
              rfl
            exact absurd (secondStops head starts) firstFree.1
          · exact fun given => absurd given.1 (by simp)
      | cons next rest =>
          rw [List.forall_mem_cons] at secondFree
          intro firstRest secondRest firstStops secondStops
          rw [List.cons_append, List.cons_append, List.cons.injEq, List.cons.injEq, and_assoc,
            ih firstFree.2 secondFree.2 _ _ firstStops secondStops]

end Before

section Codes

variable {code : β → List α}

/-- Texts that one reader reads back meet exactly if they stand for the same item. -/
theorem meets_of_read {read : List α → Option (β × List α)}
    (reads : ∀ item rest, read (code item ++ rest) = some (item, rest)) (first second : β) :
    Meets (code first) (code second) (first = second) := by
  intro firstRest secondRest
  constructor
  · intro same
    have back := congrArg read same
    rw [reads, reads, Option.some.injEq, Prod.mk.injEq] at back
    exact back
  · rintro ⟨rfl, rfl⟩
    rfl

/-- Sequences of codes up to a terminator meet exactly if they are equal. -/
theorem meets_coded {terminator : α}
    (each : ∀ first second, Meets (code first) (code second) (first = second))
    (free : ∀ item, ∃ head rest, code item = head :: rest ∧ head ≠ terminator)
    (first second : List β) :
    Meets (first.flatMap code ++ [terminator]) (second.flatMap code ++ [terminator])
      (first = second) := by
  have never (item : β) (rest : List α) :
      Meets [terminator] (code item ++ rest) False := by
    obtain ⟨head, tail, starts, different⟩ := free item
    rw [starts]
    exact @meets_never _ _ _ 0 terminator head rfl rfl (Ne.symm different)
  induction first generalizing second with
  | nil =>
      cases second with
      | nil => exact (meets_self _).congr (by simp)
      | cons item rest =>
          rw [List.flatMap_cons, List.append_assoc]
          exact (never item _).congr (by simp)
  | cons item rest ih =>
      cases second with
      | nil =>
          rw [List.flatMap_cons, List.append_assoc]
          exact (never item _).symm.congr (by simp)
      | cons other others =>
          rw [List.flatMap_cons, List.flatMap_cons, List.append_assoc, List.append_assoc]
          exact ((each item other).append (ih others)).congr (by simp)

end Codes

section Lists

variable {stop : α → Prop} {separator close : α} {text : β → List α} {agrees : β → β → Prop}

/-- Each part follows a separator, and the closing mark ends the list. -/
def closing (separator close : α) : List (List α) → List α
  | [] => [close]
  | part :: rest => separator :: (part ++ closing separator close rest)

theorem intercalate_closing (part : List α) (rest : List (List α)) :
    [separator].intercalate (part :: rest) ++ [close] = part ++ closing separator close rest := by
  induction rest generalizing part with
  | nil => simp [closing]
  | cons next rest ih =>
      rw [List.intercalate_cons_cons, List.append_assoc, ih, closing]
      simp

variable (stopsAtSeparator : stop separator) (stopsAtClose : stop close)
  (different : separator ≠ close)

include stopsAtSeparator stopsAtClose

/-- A part in front of the other parts. -/
theorem MeetsBefore.append_closing {first second : List α} {condition other : Prop}
    (starts : MeetsBefore stop first second condition) {firstRest secondRest : List (List α)}
    (ends : Meets (closing separator close firstRest) (closing separator close secondRest) other) :
    Meets (first ++ closing separator close firstRest)
      (second ++ closing separator close secondRest) (condition ∧ other) := by
  cases firstRest <;> cases secondRest <;>
    exact starts.append ends (by assumption) (by assumption)

include different

/-- Parts behind their separators meet one by one. -/
theorem meets_closing (first second : List β)
    (each : ∀ item ∈ first, ∀ other ∈ second,
      MeetsBefore stop (text item) (text other) (agrees item other)) :
    Meets (closing separator close (first.map text)) (closing separator close (second.map text))
      (List.Forall₂ agrees first second) := by
  induction first generalizing second with
  | nil =>
      cases second with
      | nil => exact (meets_self _).congr (by simp)
      | cons other others =>
          exact (@meets_never _ _ _ 0 close separator rfl rfl different.symm).congr
            (iff_of_false not_false nofun)
  | cons item rest ih =>
      cases second with
      | nil =>
          exact (@meets_never _ _ _ 0 separator close rfl rfl different).congr
            (iff_of_false not_false nofun)
      | cons other others =>
          have head := each item List.mem_cons_self other List.mem_cons_self
          have tail := ih others fun later inside next within =>
            each later (List.mem_cons_of_mem item inside) next (List.mem_cons_of_mem other within)
          have joined := head.append_closing stopsAtSeparator stopsAtClose tail
          exact (joined.cons separator).congr List.forall₂_cons.symm

/-- Closed lists meet one by one where no part starts with the closing mark. -/
theorem meets_listed (first second : List β)
    (each : ∀ item ∈ first, ∀ other ∈ second,
      MeetsBefore stop (text item) (text other) (agrees item other))
    (starts : ∀ item ∈ first ++ second, ∃ head rest, text item = head :: rest ∧ head ≠ close) :
    Meets ([separator].intercalate (first.map text) ++ [close])
      ([separator].intercalate (second.map text) ++ [close])
      (List.Forall₂ agrees first second) := by
  cases first with
  | nil =>
      cases second with
      | nil => exact (meets_self _).congr (by simp)
      | cons other others =>
          obtain ⟨head, tail, begins, apart⟩ := starts other List.mem_cons_self
          rw [List.map_cons, intercalate_closing, begins]
          exact (@meets_never _ _ _ 0 close head rfl rfl apart.symm).congr
            (iff_of_false not_false nofun)
  | cons item rest =>
      cases second with
      | nil =>
          obtain ⟨head, tail, begins, apart⟩ := starts item List.mem_cons_self
          rw [List.map_cons, intercalate_closing, begins]
          exact (@meets_never _ _ _ 0 head close rfl rfl apart).congr
            (iff_of_false not_false nofun)
      | cons other others =>
          have head := each item List.mem_cons_self other List.mem_cons_self
          have tail := meets_closing stopsAtSeparator stopsAtClose different rest others
            fun later inside next within =>
              each later (List.mem_cons_of_mem item inside) next (List.mem_cons_of_mem other within)
          rw [List.map_cons, List.map_cons, intercalate_closing, intercalate_closing]
          exact (head.append_closing stopsAtSeparator stopsAtClose tail).congr
            List.forall₂_cons.symm

end Lists

end Text
