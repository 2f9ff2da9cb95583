/-
This file proves that the web client reads the same events however its text is cut into chunks.
-/

import Sprawl.Streaming.Events

namespace Sprawl

open Text

section Lines

variable {ν : Type} (number : Numeral → ν)

/-- The event of a line that starts with `data:` and goes on with JSON between blanks. -/
def dataEvent (line : List Char) : Option (JsonTree ν JsText) :=
  if "data:".toList.isPrefixOf line then jsonParse number (stripChars isJsBlank (line.drop 5))
  else none

theorem jsonParse_nil : jsonParse number [] = none := rfl

theorem jsonParse_keepalive : jsonParse number ":keepalive".toList = none := rfl

/-- The lines that are skipped before they are parsed are no JSON. -/
theorem onLine_eq (line : List Char) : onLine number line = dataEvent number line := by
  rw [onLine, dataEvent]
  by_cases data : "data:".toList.isPrefixOf line
  · rw [if_pos data, if_pos data]
    simp only
    split
    · next skipped =>
        rw [Bool.or_eq_true, List.isEmpty_iff, decide_eq_true_iff] at skipped
        obtain empty | alive := skipped
        · rw [empty, jsonParse_nil]
        · rw [alive, jsonParse_keepalive]
    · rfl
  · rw [if_neg data, if_neg data]

end Lines

section Chunks

variable {ν : Type} (number : Numeral → ν)

/-- The calls of the handler are the events of the lines that ended, in their order. -/
theorem useWorkspaceSse_lines {chunks lines : List (List Char)} {rest : List Char}
    (ended : EndedLines '\n' chunks.flatten lines rest) :
    useWorkspaceSse number chunks = lines.filterMap (dataEvent number) := by
  have handled : lines.filterMap (onLine number) = lines.filterMap (dataEvent number) :=
    List.filterMap_congr fun line _ => onLine_eq number line
  rw [useWorkspaceSse, LineReader.receive_chunks, LineReader.whole_ended _ ended, handled]

/-- Two ways to cut a text make the same calls, one for each event of the lines that ended. -/
theorem useWorkspaceSse_chunkFree {first second : List (List Char)}
    (same : first.flatten = second.flatten) :
    useWorkspaceSse number first = useWorkspaceSse number second ∧
      ∃! lines, (∃ rest, EndedLines '\n' first.flatten lines rest) ∧
        useWorkspaceSse number first = lines.filterMap (dataEvent number) := by
  obtain ⟨lines, rest, ended⟩ := exists_endedLines '\n' first.flatten
  have calls := useWorkspaceSse_lines number ended
  refine ⟨?_, lines, ⟨⟨rest, ended⟩, calls⟩, ?_⟩
  · rw [same] at ended
    rw [calls, useWorkspaceSse_lines number ended]
  · rintro others ⟨⟨tail, other⟩, _⟩
    exact (other.unique ended).1

/-- More text adds calls and takes none back. -/
theorem useWorkspaceSse_prefix (chunks more : List (List Char)) :
    useWorkspaceSse number chunks <+: useWorkspaceSse number (chunks ++ more) := by
  rw [useWorkspaceSse, useWorkspaceSse, List.foldl_append]
  generalize chunks.foldl (LineReader.receive '\n' (onLine number)) .start = reader
  have added := LineReader.handled_receive (onLine number) '\n' more reader.buffer reader.handled
  exact ⟨_, added.symm⟩

/-- The first text is cut within the prefix, the second one comes at once. -/
theorem cutPrefix_chunkFree :
    useWorkspaceSse id [['d', 'a'], ['t', 'a', ':', '1', '\n', 'd'], [], ['a', 't', 'a']] =
        useWorkspaceSse id [['d', 'a', 't', 'a', ':', '1', '\n', 'd', 'a', 't', 'a']] ∧
      ∃! lines, (∃ rest, EndedLines '\n'
          [['d', 'a'], ['t', 'a', ':', '1', '\n', 'd'], [], ['a', 't', 'a']].flatten lines rest) ∧
        useWorkspaceSse id [['d', 'a'], ['t', 'a', ':', '1', '\n', 'd'], [], ['a', 't', 'a']] =
          lines.filterMap (dataEvent id) :=
  useWorkspaceSse_chunkFree id rfl

end Chunks

end Sprawl
