/-
This file proves that a reader of lines does not see where its chunks end.
-/

import Mathlib.Data.List.Basic

namespace Text

variable {α β : Type} [BEq α] {stop : α}

/-- A text goes on in the last part of a text before it. -/
theorem splitOn_append (first second : List α) :
    (first ++ second).splitOn stop =
      (first.splitOn stop).dropLast ++ ((first.splitOn stop).getLastD [] ++ second).splitOn stop := by
  induction first with
  | nil => simp
  | cons item rest ih =>
      obtain ⟨part, parts, split⟩ := List.exists_cons_of_ne_nil (List.splitOn_ne_nil stop rest)
      rw [List.cons_append, List.splitOn_cons_eq_if_modifyHead, ih,
        List.splitOn_cons_eq_if_modifyHead]
      split
      · rw [List.dropLast_cons_of_ne_nil (List.splitOn_ne_nil stop rest), split]
        rfl
      · next other =>
          rw [split]
          cases parts with
          | nil =>
              simp only [List.dropLast_singleton, List.nil_append, List.modifyHead_cons,
                List.getLastD_cons, List.getLastD_nil]
              rw [List.cons_append, List.splitOn_cons_eq_if_modifyHead, if_neg other]
          | cons next others => rfl

omit [BEq α] in
theorem getLastD_append {first second : List (List α)} (some : second ≠ []) :
    (first ++ second).getLastD [] = second.getLastD [] := by
  rw [List.getLastD_eq_getLast?, List.getLastD_eq_getLast?, List.getLast?_append_of_ne_nil _ some]

/-- The lines that are complete have been handled, and the last line is kept. -/
structure LineReader (α β : Type) where
  buffer : List α
  handled : List β

namespace LineReader

def start : LineReader α β where
  buffer := []
  handled := []

/-- A chunk completes the line of the buffer and may add lines of its own. -/
def receive (stop : α) (handle : List α → Option β) (reader : LineReader α β) (chunk : List α) :
    LineReader α β :=
  let lines := (reader.buffer ++ chunk).splitOn stop
  { buffer := lines.getLastD []
    handled := reader.handled ++ lines.dropLast.filterMap handle }

/-- The reader of a text that came in one chunk. -/
def whole (stop : α) (handle : List α → Option β) (text : List α) : LineReader α β where
  buffer := (text.splitOn stop).getLastD []
  handled := (text.splitOn stop).dropLast.filterMap handle

variable (handle : List α → Option β)

/-- Chunks add to what has been handled. -/
theorem handled_receive (stop : α) (chunks : List (List α)) (buffer : List α) (handled : List β) :
    (chunks.foldl (receive stop handle) ⟨buffer, handled⟩).handled =
      handled ++ (chunks.foldl (receive stop handle) ⟨buffer, []⟩).handled := by
  induction chunks generalizing buffer handled with
  | nil => exact (List.append_nil _).symm
  | cons chunk rest ih =>
      rw [List.foldl_cons, List.foldl_cons]
      simp only [receive]
      rw [ih, ih _ ([] ++ _), List.nil_append, List.append_assoc]

/-- A chunk is read as if it had come with the text before it. -/
theorem receive_whole (text chunk : List α) :
    (whole stop handle text).receive stop handle chunk = whole stop handle (text ++ chunk) := by
  have some := List.splitOn_ne_nil stop ((text.splitOn stop).getLastD [] ++ chunk)
  have lines : (text ++ chunk).splitOn stop = _ := splitOn_append text chunk
  have buffer : ((text ++ chunk).splitOn stop).getLastD [] =
      (((text.splitOn stop).getLastD [] ++ chunk).splitOn stop).getLastD [] := by
    rw [lines]
    exact getLastD_append some
  have handled : ((text ++ chunk).splitOn stop).dropLast = (text.splitOn stop).dropLast ++
      (((text.splitOn stop).getLastD [] ++ chunk).splitOn stop).dropLast := by
    rw [lines, List.dropLast_append_of_ne_nil some]
  rw [whole, whole, buffer, handled, List.filterMap_append]
  rfl

/-- The chunks make no difference. -/
theorem receive_chunks (chunks : List (List α)) :
    chunks.foldl (receive stop handle) start = whole stop handle chunks.flatten := by
  have from_ (text : List α) : chunks.foldl (receive stop handle) (whole stop handle text) =
      whole stop handle (text ++ chunks.flatten) := by
    induction chunks generalizing text with
    | nil => simp
    | cons chunk rest ih =>
        rw [List.foldl_cons, receive_whole, ih, List.flatten_cons, List.append_assoc]
  exact from_ []

end LineReader

section Lines

variable [LawfulBEq α] {lines : List (List α)}

/-- Lines that end with a stop are the parts of their text before the last one. -/
theorem splitOn_lines (free : ∀ line ∈ lines, stop ∉ line) (rest : List α) :
    (lines.flatMap (· ++ [stop]) ++ rest).splitOn stop = lines ++ rest.splitOn stop := by
  induction lines with
  | nil => rfl
  | cons line others ih =>
      obtain ⟨first, later⟩ := List.forall_mem_cons.mp free
      rw [List.flatMap_cons, List.append_assoc, List.append_assoc, List.singleton_append,
        List.splitOn_append_cons_self_of_not_mem first, ih later, List.cons_append]

/-- A text of whole lines hands each of them on. -/
theorem LineReader.handled_lines (handle : List α → Option β)
    (free : ∀ line ∈ lines, stop ∉ line) :
    (whole stop handle (lines.flatMap (· ++ [stop]))).handled = lines.filterMap handle := by
  have split := splitOn_lines free []
  rw [List.append_nil, List.splitOn_nil] at split
  rw [whole, split, List.dropLast_concat]

/-- The lines of a text that a stop ends, and the text behind the last stop. -/
structure EndedLines (stop : α) (text : List α) (lines : List (List α)) (rest : List α) : Prop where
  joined : text = lines.flatMap (· ++ [stop]) ++ rest
  free : ∀ line ∈ lines, stop ∉ line
  openEnd : stop ∉ rest

variable {text rest : List α}

theorem EndedLines.splitOn (ended : EndedLines stop text lines rest) :
    text.splitOn stop = lines ++ [rest] := by
  rw [ended.joined, splitOn_lines ended.free, List.splitOn_eq_singleton ended.openEnd]

/-- A text has one way to be cut into lines. -/
theorem EndedLines.unique {others : List (List α)} {tail : List α}
    (ended : EndedLines stop text lines rest) (other : EndedLines stop text others tail) :
    lines = others ∧ rest = tail := by
  have same : lines ++ [rest] = others ++ [tail] := ended.splitOn.symm.trans other.splitOn
  obtain ⟨front, last⟩ := List.append_inj' same rfl
  exact ⟨front, List.singleton_inj.mp last⟩

omit [BEq α] [LawfulBEq α] in
/-- Every text has its lines. -/
theorem exists_endedLines (stop : α) (text : List α) :
    ∃ lines rest, EndedLines stop text lines rest := by
  induction text with
  | nil => exact ⟨[], [], rfl, List.forall_mem_nil _, List.not_mem_nil⟩
  | cons item text ih =>
      obtain ⟨lines, rest, joined, free, openEnd⟩ := ih
      by_cases same : item = stop
      · subst same
        refine ⟨[] :: lines, rest, ?_, ?_, openEnd⟩
        · rw [joined]
          rfl
        · exact List.forall_mem_cons.mpr ⟨List.not_mem_nil, free⟩
      · have first {line : List α} (without : stop ∉ line) : stop ∉ item :: line :=
          List.not_mem_cons_of_ne_of_not_mem (Ne.symm same) without
        cases lines with
        | nil =>
            refine ⟨[], item :: rest, ?_, List.forall_mem_nil _, first openEnd⟩
            rw [joined]
            rfl
        | cons line others =>
            rw [List.forall_mem_cons] at free
            refine ⟨(item :: line) :: others, rest, ?_, ?_, openEnd⟩
            · rw [joined]
              rfl
            · exact List.forall_mem_cons.mpr ⟨first free.1, free.2⟩

/-- A reader handles the lines of its text and keeps the rest. -/
theorem LineReader.whole_ended (handle : List α → Option β)
    (ended : EndedLines stop text lines rest) :
    whole stop handle text = { buffer := rest, handled := lines.filterMap handle } := by
  rw [whole, ended.splitOn, List.dropLast_concat, List.getLastD_eq_getLast?, List.getLast?_concat]
  rfl

end Lines

end Text
