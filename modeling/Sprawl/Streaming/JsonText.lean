/-
This file gives the strings and the numbers of the texts that `json.dumps` writes.
-/

import Sprawl.Api.UuidText
import Sprawl.Proof.JsonReading
import Sprawl.Text.JsonRoundTrip

namespace Sprawl

open Text

section Strings

/-- Four hexadecimal digits, in any case. -/
def readCode (text : List Char) : Option (Nat × List Char) :=
  let digits := text.take 4
  if digits.length = 4 && digits.all isHexDigit then
    some (readHex (digits.map Char.toLower), text.drop 4)
  else none

def isHighSurrogate (code : Nat) : Bool := 0xd800 ≤ code && code < 0xdc00

def isLowSurrogate (code : Nat) : Bool := 0xdc00 ≤ code && code < 0xe000

/-- The character of a surrogate pair. -/
def surrogatePair (high low : Nat) : Char :=
  Char.ofNat (0x10000 + (high - 0xd800) * 0x400 + (low - 0xdc00))

/-- A code point of a string. A surrogate without its other half is one too. -/
inductive CodePoint where
  | scalar (char : Char)
  | surrogate (code : Nat)
  deriving DecidableEq

/-- A string of JavaScript, as its code points. -/
abbrev JsText := List CodePoint

/-- The low surrogate behind a high one. -/
def readLowSurrogate : List Char → Option (Nat × List Char)
  | '\\' :: 'u' :: text => (readCode text).filter fun (low, _) => isLowSurrogate low
  | _ => none

/-- The code point of a `\u` escape. A low surrogate joins the high one before it. -/
def readCodes (text : List Char) : Option (CodePoint × List Char) :=
  match readCode text with
  | some (code, rest) =>
      if isHighSurrogate code then
        match readLowSurrogate rest with
        | some (low, rest) => some (.scalar (surrogatePair code low), rest)
        | none => some (.surrogate code, rest)
      else if isLowSurrogate code then some (.surrogate code, rest)
      else some (.scalar (Char.ofNat code), rest)
  | none => none

/-- The code point of an escape, behind its backslash. -/
def readEscape : List Char → Option (CodePoint × List Char)
  | [] => none
  | mark :: rest =>
      if mark = 'u' then readCodes rest
      else if ['"', '\\', '/', 'b', 'f', 'n', 'r', 't'].contains mark then
        some (.scalar (unescape mark), rest)
      else none

/-- The first code point inside the quotes of a JSON string. A control character has to be
escaped. -/
def readPoint : List Char → Option (CodePoint × List Char)
  | [] => none
  | first :: rest =>
      if first = '\\' then readEscape rest
      else if first.toNat < 32 then none
      else some (.scalar first, rest)

/-- The same for strings of characters. -/
def readCharacter (text : List Char) : Option (Char × List Char) :=
  match readPoint text with
  | some (.scalar char, rest) => some (char, rest)
  | _ => none

/-- The hexadecimal digits of a number. -/
theorem mem_toDigits_hex {value : Nat} {char : Char} (inside : char ∈ Nat.toDigits 16 value) :
    ∃ digit : Fin 16, char = (digit : Nat).digitChar := by
  induction value using Nat.base_induction 16 (by decide) with
  | single digit small =>
      rw [Nat.toDigits_of_lt_base small, List.mem_singleton] at inside
      exact ⟨⟨digit, small⟩, inside⟩
  | digit value digit small positive ih =>
      rw [← Nat.toDigits_append_toDigits (by decide) positive small,
        Nat.toDigits_of_lt_base small, List.mem_append, List.mem_singleton] at inside
      obtain before | same := inside
      · exact ih before
      · exact ⟨⟨digit, small⟩, same⟩

/-- The digits of an escape. -/
theorem mem_leftpad_hex {code : Nat} {char : Char}
    (inside : char ∈ (Nat.toDigits 16 code).leftpad 4 '0') :
    ∃ digit : Fin 16, char = (digit : Nat).digitChar := by
  rw [List.leftpad, List.mem_append] at inside
  obtain zero | digit := inside
  · exact ⟨0, List.eq_of_mem_replicate zero⟩
  · exact mem_toDigits_hex digit

theorem readCode_leftpad {code : Nat} (small : code < 65536) (rest : List Char) :
    readCode ((Nat.toDigits 16 code).leftpad 4 '0' ++ rest) = some (code, rest) := by
  have length := length_leftpad_toDigits small
  have fixed : ∀ digit : Fin 16, isHexDigit (digit : Nat).digitChar = true ∧
      (digit : Nat).digitChar.toLower = (digit : Nat).digitChar := by decide
  have each : ∀ char ∈ (Nat.toDigits 16 code).leftpad 4 '0',
      isHexDigit char = true ∧ char.toLower = char := by
    intro char inside
    obtain ⟨digit, rfl⟩ := mem_leftpad_hex inside
    exact fixed digit
  have first : ((Nat.toDigits 16 code).leftpad 4 '0' ++ rest).take 4 =
      (Nat.toDigits 16 code).leftpad 4 '0' := List.take_left' length
  have lower : ((Nat.toDigits 16 code).leftpad 4 '0').map Char.toLower =
      (Nat.toDigits 16 code).leftpad 4 '0' :=
    (List.map_congr_left fun char inside => (each char inside).2).trans (List.map_id _)
  have digits : ((Nat.toDigits 16 code).leftpad 4 '0').all isHexDigit = true :=
    List.all_eq_true.mpr fun char inside => (each char inside).1
  simp only [readCode, first, length, digits, lower, readHex_leftpad]
  rw [List.drop_left' length]
  rfl

/-- A character is no surrogate. -/
theorem not_surrogate (char : Char) :
    isHighSurrogate char.toNat = false ∧ isLowSurrogate char.toNat = false := by
  have range : char.toNat < 0xd800 ∨ 0xdfff < char.toNat ∧ char.toNat < 0x110000 := char.valid
  simp only [isHighSurrogate, isLowSurrogate, Bool.and_eq_false_iff, decide_eq_false_iff_not]
  omega

/-- The character of a single escape. -/
theorem readCodes_plain {char : Char} (small : char.toNat < 65536) (rest : List Char) :
    readCodes ((Nat.toDigits 16 char.toNat).leftpad 4 '0' ++ rest) =
      some (.scalar char, rest) := by
  have lone := not_surrogate char
  rw [readCodes, readCode_leftpad small]
  dsimp only
  rw [lone.1, lone.2, if_neg Bool.false_ne_true, if_neg Bool.false_ne_true, Char.ofNat_toNat]

/-- The surrogates of a character outside the basic plane. -/
theorem surrogatePair_halves {char : Char} (large : 65536 ≤ char.toNat) :
    isHighSurrogate (0xd800 + (char.toNat - 0x10000) / 0x400) = true ∧
      isLowSurrogate (0xdc00 + (char.toNat - 0x10000) % 0x400) = true ∧
      surrogatePair (0xd800 + (char.toNat - 0x10000) / 0x400)
        (0xdc00 + (char.toNat - 0x10000) % 0x400) = char := by
  have range : char.toNat < 0x110000 := by
    have valid : char.toNat < 0xd800 ∨ 0xdfff < char.toNat ∧ char.toNat < 0x110000 := char.valid
    omega
  have back : 0x10000 + (0xd800 + (char.toNat - 0x10000) / 0x400 - 0xd800) * 0x400 +
      (0xdc00 + (char.toNat - 0x10000) % 0x400 - 0xdc00) = char.toNat := by omega
  refine ⟨?_, ?_, ?_⟩
  · simp only [isHighSurrogate, Bool.and_eq_true, decide_eq_true_eq]
    omega
  · simp only [isLowSurrogate, Bool.and_eq_true, decide_eq_true_eq]
    omega
  · rw [surrogatePair, back, Char.ofNat_toNat]

theorem readCodes_pair {char : Char} (large : 65536 ≤ char.toNat) (rest : List Char) :
    readCodes ((Nat.toDigits 16 (0xd800 + (char.toNat - 0x10000) / 0x400)).leftpad 4 '0' ++
      ('\\' :: 'u' ::
        ((Nat.toDigits 16 (0xdc00 + (char.toNat - 0x10000) % 0x400)).leftpad 4 '0' ++ rest))) =
      some (.scalar char, rest) := by
  obtain ⟨high, low, pair⟩ := surrogatePair_halves large
  have range : char.toNat < 0x110000 := by
    have valid : char.toNat < 0xd800 ∨ 0xdfff < char.toNat ∧ char.toNat < 0x110000 := char.valid
    omega
  have first : 0xd800 + (char.toNat - 0x10000) / 0x400 < 65536 := by omega
  have second : 0xdc00 + (char.toNat - 0x10000) % 0x400 < 65536 := by omega
  rw [readCodes, readCode_leftpad first]
  dsimp only
  rw [if_pos high, readLowSurrogate, readCode_leftpad second, Option.filter_some, if_pos low]
  dsimp only
  rw [pair]

/-- An escaped character is read back. -/
theorem readPoint_escapeChar (char : Char) (rest : List Char) :
    readPoint ((escapeChar char).toList ++ rest) = some (.scalar char, rest) := by
  refine escapeChar_cases
    (fun char text => readPoint (text.toList ++ rest) = some (.scalar char, rest)) char
    ?_ ?_ ?_ ?_
  · simp only [namedEscapes, List.forall_mem_cons]
    exact ⟨rfl, rfl, rfl, rfl, rfl, rfl, rfl, List.forall_mem_nil _⟩
  · intro plain printable
    have solid : ¬ char.toNat < 32 := Nat.not_lt.mpr printable.1
    rw [String.toList_ofList, List.singleton_append, readPoint, if_neg plain, if_neg solid]
  · intro small
    rw [toList_unicodeEscape, List.cons_append, List.cons_append, readPoint,
      if_pos rfl, readEscape, if_pos rfl, readCodes_plain small]
  · intro large
    rw [String.toList_append, toList_unicodeEscape, toList_unicodeEscape, List.append_assoc,
      List.cons_append, List.cons_append, List.cons_append, List.cons_append, readPoint,
      if_pos rfl, readEscape, if_pos rfl, readCodes_pair large]

/-- `json.dumps` escapes what is not printable and writes a blank behind its separators. -/
def dumpsStyle : JsonStyle where
  escape char := (escapeChar char).toList
  gap := [' ']
  unquoted := escapeChar_starts
  blank := by simp

theorem dumpsStyle_readPoint : dumpsStyle.Reads readPoint .scalar := readPoint_escapeChar

theorem dumpsStyle_readCharacter : dumpsStyle.Reads readCharacter id := by
  intro char rest
  change readCharacter ((escapeChar char).toList ++ rest) = _
  rw [readCharacter, readPoint_escapeChar]
  rfl

end Strings

section Numbers

theorem isNumeral_of_isUnsigned {text : List Char} (number : isUnsigned text = true) :
    isNumeral text = true := by
  obtain ⟨head, rest, rfl, digit⟩ := isUnsigned_starts number
  unfold isNumeral
  split
  · next same =>
      obtain rfl := (List.cons.inj same).1
      exact absurd digit (by decide)
  · exact number

/-- A text that does not start with a digit. -/
abbrev undigited (char : Char) : Prop := char.isDigit = false

theorem takeWhile_digits {digits rest : List Char} (each : ∀ char ∈ digits, char.isDigit = true)
    (ends : Text.Stopped undigited rest) :
    (digits ++ rest).takeWhile Char.isDigit = digits ∧
      (digits ++ rest).dropWhile Char.isDigit = rest := by
  have none : rest.takeWhile Char.isDigit = [] ∧ rest.dropWhile Char.isDigit = rest := by
    cases rest with
    | nil => exact ⟨rfl, rfl⟩
    | cons head tail =>
        have stop : ¬ head.isDigit = true := Bool.eq_false_iff.mp (ends head rfl)
        exact ⟨List.takeWhile_cons_of_neg stop, List.dropWhile_cons_of_neg stop⟩
  rw [List.takeWhile_append_of_pos each, List.dropWhile_append_of_pos each, none.1, none.2,
    List.append_nil]
  exact ⟨rfl, rfl⟩

theorem isUnsigned_append {whole rest : List Char} (each : ∀ char ∈ whole, char.isDigit = true)
    (isWhole : isWhole whole = true) (ends : Text.Stopped undigited rest)
    (fraction : isFraction rest = true) : isUnsigned (whole ++ rest) = true := by
  obtain ⟨first, second⟩ := takeWhile_digits each ends
  rw [isUnsigned, first, second, isWhole, fraction]
  rfl

theorem isFraction_append {digits rest : List Char} (isDigits : isDigits digits = true)
    (ends : Text.Stopped undigited rest) (exponent : isExponent rest = true) :
    isFraction ('.' :: (digits ++ rest)) = true := by
  obtain ⟨first, second⟩ := takeWhile_digits (isDigits_iff.mp isDigits).2 ends
  rw [isFraction, first, second, isDigits, exponent]
  rfl

/-- The digits of a positive number have no leading zero. -/
theorem toDigits_starts {value : Nat} (positive : 0 < value) :
    ∃ head rest, Nat.toDigits 10 value = head :: rest ∧ head ≠ '0' := by
  have each : ∀ digit : Fin 10, 0 < (digit : Nat) → (digit : Nat).digitChar ≠ '0' := by decide
  induction value using Nat.base_induction 10 (by decide) with
  | single digit small =>
      exact ⟨_, [], Nat.toDigits_of_lt_base small, each ⟨digit, small⟩ positive⟩
  | digit value digit small more ih =>
      obtain ⟨head, rest, starts, other⟩ := ih more
      refine ⟨head, rest ++ Nat.toDigits 10 digit, ?_, other⟩
      rw [← Nat.toDigits_append_toDigits (by decide) more small, starts, List.cons_append]

theorem isDigits_toDigits (value : Nat) : isDigits (Nat.toDigits 10 value) = true :=
  isDigits_iff.mpr ⟨Nat.toDigits_ne_nil, fun _ inside => toDigits_digit inside⟩

theorem isWhole_of_starts {head : Char} {rest : List Char} (other : head ≠ '0')
    (digits : isDigits (head :: rest) = true) : isWhole (head :: rest) = true := by
  unfold isWhole
  split
  · next same => exact absurd (List.cons.inj same).1 other
  · exact digits

theorem isWhole_toDigits (value : Nat) : isWhole (Nat.toDigits 10 value) = true := by
  obtain rfl | positive := Nat.eq_zero_or_pos value
  · rfl
  · obtain ⟨head, rest, starts, other⟩ := toDigits_starts positive
    rw [starts]
    exact isWhole_of_starts other (starts ▸ isDigits_toDigits value)

theorem isUnsigned_toDigits (value : Nat) : isUnsigned (Nat.toDigits 10 value) = true := by
  have whole : isUnsigned (Nat.toDigits 10 value ++ []) = true :=
    isUnsigned_append (isDigits_iff.mp (isDigits_toDigits value)).2 (isWhole_toDigits value)
      (by simp [Text.Stopped]) rfl
  rwa [List.append_nil] at whole

/-- An integer is written with its digits. -/
def intNumeral (value : Int) : Numeral where
  text := (toString value).toList
  valid := by
    obtain ⟨text, _⟩ | ⟨text, _⟩ := toList_int value <;> rw [text]
    · exact isNumeral_of_isUnsigned (isUnsigned_toDigits value.natAbs)
    · exact isUnsigned_toDigits value.natAbs

/-- The exponent of a scientific text. -/
theorem isExponent_scientific (exponent : Int) :
    isExponent ('e' :: (if exponent < 0 then '-' else '+') ::
      (Nat.toDigits 10 exponent.natAbs).leftpad 2 '0') = true := by
  have digits : isDigits ((Nat.toDigits 10 exponent.natAbs).leftpad 2 '0') = true := by
    refine isDigits_iff.mpr ⟨?_, fun char inside => ?_⟩
    · rw [List.leftpad]
      exact List.append_ne_nil_of_right_ne_nil _ Nat.toDigits_ne_nil
    · rw [List.leftpad, List.mem_append] at inside
      obtain zero | digit := inside
      · rw [List.eq_of_mem_replicate zero]
        rfl
      · exact toDigits_digit digit
  rw [isExponent, digits]
  split <;> rfl

theorem isUnsigned_scientific {digits : List Char} (isDigits : isDigits digits = true)
    (exponent : Int) : isUnsigned (scientific digits exponent) = true := by
  obtain ⟨nonempty, each⟩ := isDigits_iff.mp isDigits
  obtain ⟨first, rest, rfl⟩ := List.exists_cons_of_ne_nil nonempty
  rw [List.forall_mem_cons] at each
  have whole : isWhole [first] = true := by
    unfold isWhole
    split
    · next same => rw [← (List.cons.inj same).2]; rfl
    · exact isDigits_iff.mpr ⟨List.cons_ne_nil _ _, List.forall_mem_singleton.mpr each.1⟩
  have ends : Text.Stopped undigited ('e' :: (if exponent < 0 then '-' else '+') ::
      (Nat.toDigits 10 exponent.natAbs).leftpad 2 '0') := stopped_cons rfl
  cases rest with
  | nil =>
      exact isUnsigned_append (List.forall_mem_singleton.mpr each.1) whole ends
        (isExponent_scientific exponent)
  | cons second others =>
      have fraction : isFraction ('.' :: (second :: others ++ 'e' ::
          (if exponent < 0 then '-' else '+') ::
            (Nat.toDigits 10 exponent.natAbs).leftpad 2 '0')) = true :=
        isFraction_append (isDigits_iff.mpr ⟨List.cons_ne_nil _ _, each.2⟩) ends
          (isExponent_scientific exponent)
      have unsigned := isUnsigned_append (List.forall_mem_singleton.mpr each.1) whole
        (stopped_cons rfl) fraction
      rw [scientific, if_neg (by simp)]
      simpa using unsigned

/-- Digits behind a point, with other digits before it. -/
theorem isUnsigned_point {before after : List Char} (each : ∀ char ∈ before, char.isDigit = true)
    (whole : isWhole before = true) (digits : isDigits after = true) :
    isUnsigned (before ++ '.' :: after) = true := by
  have fraction : isFraction ('.' :: (after ++ [])) = true :=
    isFraction_append digits (by simp [Text.Stopped]) rfl
  rw [List.append_nil] at fraction
  exact isUnsigned_append each whole (stopped_cons rfl) fraction

theorem replicate_digits (count : Nat) : ∀ char ∈ List.replicate count '0', char.isDigit = true := by
  intro char inside
  rw [List.eq_of_mem_replicate inside]
  rfl

/-- The text of a float without its sign. -/
theorem isUnsigned_digits (value : PyFloat) : isUnsigned value.digits = true := by
  have digits := isDigits_toDigits value.significand
  obtain ⟨nonempty, each⟩ := isDigits_iff.mp digits
  obtain nothing | positive := Nat.eq_zero_or_pos value.significand
  · have exponent : value.exponent = 0 := by
      have normal := value.normal
      omega
    have zero : value.digits = ['0', '.', '0'] := by
      simp [PyFloat.digits, PyFloat.point, nothing, exponent]
    rw [zero]
    rfl
  obtain ⟨head, rest, starts, other⟩ := toDigits_starts positive
  unfold PyFloat.digits
  dsimp only
  split
  · exact isUnsigned_scientific digits _
  split
  · have zeros : isDigits (List.replicate (-value.point).toNat '0' ++
        Nat.toDigits 10 value.significand) = true := by
      refine isDigits_iff.mpr ⟨List.append_ne_nil_of_right_ne_nil _ nonempty, ?_⟩
      exact List.forall_mem_append.mpr ⟨replicate_digits _, each⟩
    exact isUnsigned_point (List.forall_mem_singleton.mpr rfl) (by rfl) zeros
  split
  · next large inside =>
      have taken : ∀ char ∈ (Nat.toDigits 10 value.significand).take value.point.toNat,
          char.isDigit = true := fun char among => each char (List.mem_of_mem_take among)
      have left : isDigits ((Nat.toDigits 10 value.significand).drop value.point.toNat) = true := by
        refine isDigits_iff.mpr ⟨?_, fun char among => each char (List.mem_of_mem_drop among)⟩
        rw [Ne, List.drop_eq_nil_iff]
        omega
      obtain ⟨count, more⟩ : ∃ count, value.point.toNat = count + 1 :=
        ⟨value.point.toNat - 1, by omega⟩
      refine isUnsigned_point taken ?_ left
      rw [starts, more, List.take_succ_cons] at taken ⊢
      exact isWhole_of_starts other (isDigits_iff.mpr ⟨List.cons_ne_nil _ _, taken⟩)
  · have every : ∀ char ∈ Nat.toDigits 10 value.significand ++
        List.replicate value.exponent.toNat '0', char.isDigit = true :=
      List.forall_mem_append.mpr ⟨each, replicate_digits _⟩
    refine isUnsigned_point every ?_ (by rfl)
    rw [starts, List.cons_append] at every ⊢
    exact isWhole_of_starts other (isDigits_iff.mpr ⟨List.cons_ne_nil _ _, every⟩)

/-- A float is written with its shortest digits. -/
def floatNumeral (value : PyFloat) : Numeral where
  text := value.repr.toList
  valid := by
    rw [value.toList_repr]
    cases value.negative with
    | false => exact isNumeral_of_isUnsigned (isUnsigned_digits value)
    | true => exact isUnsigned_digits value

end Numbers

end Sprawl
