/-
This file proves that the canonical text of a document without floats determines its JSON value.
-/

import Mathlib.Data.List.Forall2
import Sprawl.Audit.Payloads
import Sprawl.Proof.JsonText
import Sprawl.Text.Stopping

namespace Sprawl

open Text

section Escapes

/-- The value of a lower case hexadecimal digit. -/
def hexDigit (char : Char) : Nat := if char.isDigit then char.toNat - 48 else char.toNat - 87

/-- The number that some hexadecimal digits stand for. -/
def readHex (digits : List Char) : Nat := digits.foldl (fun value digit => 16 * value + hexDigit digit) 0

theorem hexDigit_digitChar {digit : Nat} (small : digit < 16) : hexDigit digit.digitChar = digit := by
  have each : ∀ digit : Fin 16, hexDigit (digit : Nat).digitChar = digit := by decide
  exact each ⟨digit, small⟩

theorem foldl_toDigits (value : Nat) :
    (Nat.toDigits 16 value).foldl (fun value digit => 16 * value + hexDigit digit) 0 = value := by
  induction value using Nat.base_induction 16 (by decide) with
  | single digit small =>
      rw [Nat.toDigits_of_lt_base small]
      simp [hexDigit_digitChar small]
  | digit value digit small positive ih =>
      rw [← Nat.toDigits_append_toDigits (by decide) positive small, List.foldl_append, ih,
        Nat.toDigits_of_lt_base small]
      simp [hexDigit_digitChar small]

/-- Leading zeros make no difference. -/
theorem readHex_leftpad (value : Nat) :
    readHex ((Nat.toDigits 16 value).leftpad 4 '0') = value := by
  have zeros (count : Nat) :
      (List.replicate count '0').foldl (fun value digit => 16 * value + hexDigit digit) 0 = 0 := by
    induction count with
    | zero => rfl
    | succ count ih => exact ih
  rw [readHex, List.leftpad, List.foldl_append, zeros, foldl_toDigits]

theorem length_leftpad_toDigits {value : Nat} (small : value < 65536) :
    ((Nat.toDigits 16 value).leftpad 4 '0').length = 4 := by
  have short : (Nat.toDigits 16 value).length ≤ 4 :=
    (Nat.length_toDigits_le_iff (by decide) (by decide)).mpr small
  rw [List.leftpad, List.length_append, List.length_replicate]
  omega

/-- The first four digits of a text. -/
theorem readHex_take {value : Nat} (small : value < 65536) (rest : List Char) :
    readHex (((Nat.toDigits 16 value).leftpad 4 '0' ++ rest).take 4) = value := by
  rw [List.take_left' (length_leftpad_toDigits small), readHex_leftpad]

theorem drop_leftpad {value : Nat} (small : value < 65536) (rest : List Char) :
    ((Nat.toDigits 16 value).leftpad 4 '0' ++ rest).drop 4 = rest :=
  List.drop_left' (length_leftpad_toDigits small)

/-- The character that a short escape stands for. -/
def unescape (mark : Char) : Char :=
  if mark = 'n' then '\n'
  else if mark = 'r' then '\r'
  else if mark = 't' then '\t'
  else if mark = 'f' then Char.ofNat 12
  else if mark = 'b' then Char.ofNat 8
  else mark

/-- The character of a `\u` escape. A high surrogate has its low surrogate in a second one. -/
def readUnicode (digits : List Char) : Char × List Char :=
  let code := readHex (digits.take 4)
  if 0xd800 ≤ code ∧ code < 0xdc00 then
    (Char.ofNat (0x10000 + (code - 0xd800) * 0x400 + (readHex ((digits.drop 6).take 4) - 0xdc00)),
      digits.drop 10)
  else (Char.ofNat code, digits.drop 4)

/-- The character of an escape behind its backslash. -/
def readMarked : List Char → Option (Char × List Char)
  | [] => none
  | mark :: rest => if mark = 'u' then some (readUnicode rest) else some (unescape mark, rest)

/-- The first character of a text inside quotes. -/
def readEscaped : List Char → Option (Char × List Char)
  | [] => none
  | first :: rest => if first = '\\' then readMarked rest else some (first, rest)

theorem toList_unicodeEscape (code : Nat) :
    (unicodeEscape code).toList = '\\' :: 'u' :: (Nat.toDigits 16 code).leftpad 4 '0' := by
  simp only [unicodeEscape, String.toList_append, String.toList_ofList]
  rfl

/-- A `\u` escape outside the surrogates. -/
theorem readUnicode_plain {char : Char} (small : char.toNat < 65536) (rest : List Char) :
    readUnicode ((Nat.toDigits 16 char.toNat).leftpad 4 '0' ++ rest) = (char, rest) := by
  have valid : ¬ (0xd800 ≤ char.toNat ∧ char.toNat < 0xdc00) := by
    have range : char.toNat < 0xd800 ∨ 0xdfff < char.toNat ∧ char.toNat < 0x110000 := char.valid
    omega
  unfold readUnicode
  simp only [readHex_take small, drop_leftpad small]
  rw [if_neg valid, Char.ofNat_toNat]

/-- A surrogate pair. -/
theorem readUnicode_pair {char : Char} (large : 65536 ≤ char.toNat) (rest : List Char) :
    readUnicode ((Nat.toDigits 16 (0xd800 + (char.toNat - 0x10000) / 0x400)).leftpad 4 '0' ++
      ('\\' :: 'u' ::
        ((Nat.toDigits 16 (0xdc00 + (char.toNat - 0x10000) % 0x400)).leftpad 4 '0' ++ rest))) =
      (char, rest) := by
  have range : char.toNat < 0x110000 := by
    have valid : char.toNat < 0xd800 ∨ 0xdfff < char.toNat ∧ char.toNat < 0x110000 := char.valid
    omega
  have high : 0xd800 + (char.toNat - 0x10000) / 0x400 < 65536 := by omega
  have low : 0xdc00 + (char.toNat - 0x10000) % 0x400 < 65536 := by omega
  have six (digits : List Char) : digits.drop 6 = (digits.drop 4).drop 2 := by
    rw [List.drop_drop]
  have ten (digits : List Char) : digits.drop 10 = ((digits.drop 4).drop 2).drop 4 := by
    rw [List.drop_drop, List.drop_drop]
  unfold readUnicode
  simp only [six, ten, readHex_take high, drop_leftpad high, List.drop_succ_cons, List.drop_zero,
    readHex_take low, drop_leftpad low]
  rw [if_pos (by omega)]
  have back : 0x10000 + (0xd800 + (char.toNat - 0x10000) / 0x400 - 0xd800) * 0x400 +
      (0xdc00 + (char.toNat - 0x10000) % 0x400 - 0xdc00) = char.toNat := by omega
  rw [back, Char.ofNat_toNat]

/-- The characters with an escape of their own, by their codes. -/
def namedEscapes : List (Nat × Char) :=
  [(34, '"'), (92, '\\'), (10, 'n'), (13, 'r'), (9, 't'), (12, 'f'), (8, 'b')]

/-- A character has an escape of its own, or stands for itself, or its code is written. -/
theorem escapeChar_cases (property : Char → String → Prop) (char : Char)
    (named : ∀ escape ∈ namedEscapes,
      property (Char.ofNat escape.1) (String.ofList ['\\', escape.2]))
    (plain : char ≠ '\\' → 32 ≤ char.toNat ∧ char.toNat ≤ 126 →
      property char (String.ofList [char]))
    (small : char.toNat < 0x10000 → property char (unicodeEscape char.toNat))
    (large : 0x10000 ≤ char.toNat → property char
      (unicodeEscape (0xd800 + (char.toNat - 0x10000) / 0x400) ++
        unicodeEscape (0xdc00 + (char.toNat - 0x10000) % 0x400))) :
    property char (escapeChar char) := by
  have name {code : Nat} {letter : Char} (inside : (code, letter) ∈ namedEscapes)
      (same : char.toNat = code) : property char (String.ofList ['\\', letter]) := by
    have back : Char.ofNat code = char := by rw [← same, Char.ofNat_toNat]
    exact back ▸ named _ inside
  unfold escapeChar
  refine iteInduction (motive := property char) (name (by decide)) fun _ => ?_
  refine iteInduction (motive := property char) (name (by decide)) fun slash => ?_
  refine iteInduction (motive := property char) (name (by decide)) fun _ => ?_
  refine iteInduction (motive := property char) (name (by decide)) fun _ => ?_
  refine iteInduction (motive := property char) (name (by decide)) fun _ => ?_
  refine iteInduction (motive := property char) (name (by decide)) fun _ => ?_
  refine iteInduction (motive := property char) (name (by decide)) fun _ => ?_
  refine iteInduction (motive := property char) (plain ?_) fun _ => ?_
  · rintro rfl
    exact slash rfl
  · exact iteInduction (motive := property char) small fun high => large (Nat.le_of_not_lt high)

/-- An escaped character is read back. -/
theorem readEscaped_escapeChar (char : Char) (rest : List Char) :
    readEscaped ((escapeChar char).toList ++ rest) = some (char, rest) := by
  refine escapeChar_cases
    (fun char text => readEscaped (text.toList ++ rest) = some (char, rest)) char ?_ ?_ ?_ ?_
  · simp only [namedEscapes, List.forall_mem_cons]
    exact ⟨rfl, rfl, rfl, rfl, rfl, rfl, rfl, List.forall_mem_nil _⟩
  · intro plain _
    rw [String.toList_ofList, List.singleton_append, readEscaped, if_neg plain]
  · intro small
    rw [toList_unicodeEscape, List.cons_append, List.cons_append, readEscaped,
      if_pos rfl, readMarked, if_pos rfl, readUnicode_plain small]
  · intro large
    rw [String.toList_append, toList_unicodeEscape, toList_unicodeEscape, List.append_assoc,
      List.cons_append, List.cons_append, List.cons_append, List.cons_append, readEscaped,
      if_pos rfl, readMarked, if_pos rfl, readUnicode_pair large]

/-- An escaped character does not start like the end of a string. -/
theorem escapeChar_starts (char : Char) :
    ∃ head rest, (escapeChar char).toList = head :: rest ∧ head ≠ '"' := by
  have read := readEscaped_escapeChar char []
  rw [List.append_nil] at read
  cases text : (escapeChar char).toList with
  | nil =>
      rw [text] at read
      exact absurd read (by simp [readEscaped])
  | cons head rest =>
      refine ⟨head, rest, rfl, ?_⟩
      rintro rfl
      have quote : char = '"' := by
        rw [text, readEscaped, if_neg (by decide), Option.some.injEq, Prod.mk.injEq] at read
        exact read.1.symm
      have starts : (escapeChar char).toList.head? = some '"' := congrArg List.head? text
      rw [quote] at starts
      exact absurd starts (by decide)

theorem toList_quoteString (text : String) :
    (quoteString text).toList =
      '"' :: (text.toList.flatMap (fun char => (escapeChar char).toList) ++ ['"']) := by
  simp only [quoteString, String.toList_append, String.toList_join, List.flatMap_map]
  rfl

/-- A quoted string determines its text and where it ends. -/
theorem quoteString_meets (first second : String) :
    Meets (quoteString first).toList (quoteString second).toList (first = second) := by
  rw [toList_quoteString, toList_quoteString]
  have coded := meets_coded (meets_of_read readEscaped_escapeChar) escapeChar_starts first.toList
    second.toList
  exact (coded.cons '"').congr String.toList_inj

end Escapes

section Numbers

theorem toDigits_injective {first second : Nat}
    (same : Nat.toDigits 10 first = Nat.toDigits 10 second) : first = second := by
  have read := congrArg (fun digits => Nat.ofDigitChars 10 digits 0) same
  simpa [Nat.ofDigitChars_ten_toDigits] using read

/-- An integer is digits, behind a minus if it is negative. -/
theorem toList_int (value : Int) :
    (toString value).toList = Nat.toDigits 10 value.natAbs ∧ 0 ≤ value ∨
      (toString value).toList = '-' :: Nat.toDigits 10 value.natAbs ∧ value < 0 := by
  obtain negative | natural := lt_or_ge value 0
  · right
    refine ⟨?_, negative⟩
    have same : value = -(value.natAbs : Int) := by omega
    conv_lhs => rw [same]
    exact toList_negative (by omega)
  · left
    refine ⟨?_, natural⟩
    have same : value = (value.natAbs : Int) := by omega
    conv_lhs => rw [same]
    exact toList_natural value.natAbs

theorem toDigits_digit {value : Nat} {char : Char} (inside : char ∈ Nat.toDigits 10 value) :
    char.isDigit = true :=
  Nat.isDigit_of_mem_toDigits (by decide) (by decide) inside

/-- The characters of an integer. -/
theorem mem_toList_int {value : Int} {char : Char} (inside : char ∈ (toString value).toList) :
    char.isDigit = true ∨ char = '-' := by
  obtain ⟨text, _⟩ | ⟨text, _⟩ := toList_int value <;> rw [text] at inside
  · exact Or.inl (toDigits_digit inside)
  · obtain rfl | digit := List.mem_cons.mp inside
    · exact Or.inr rfl
    · exact Or.inl (toDigits_digit digit)

theorem toList_int_injective {first second : Int}
    (same : (toString first).toList = (toString second).toList) : first = second := by
  have signed (digits other : Nat) : Nat.toDigits 10 digits ≠ '-' :: Nat.toDigits 10 other := by
    intro equal
    have minus : '-' ∈ Nat.toDigits 10 digits := by
      rw [equal]
      exact List.mem_cons_self
    exact absurd (toDigits_digit minus) (by decide)
  obtain ⟨firstText, firstSign⟩ | ⟨firstText, firstSign⟩ := toList_int first <;>
    obtain ⟨secondText, secondSign⟩ | ⟨secondText, secondSign⟩ := toList_int second <;>
    rw [firstText, secondText] at same
  · have equal := toDigits_injective same
    omega
  · exact absurd same (signed _ _)
  · exact absurd same.symm (signed _ _)
  · have equal := toDigits_injective (List.cons.inj same).2
    omega

end Numbers

section Values

/-- A value ends before one of these characters or at the end of the text. -/
def jsonStop (char : Char) : Prop := char = ',' ∨ char = ']' ∨ char = '\x7d'

instance : DecidablePred jsonStop := fun _ => inferInstanceAs (Decidable (_ ∨ _ ∨ _))

/-- An integer determines its value before a stop. -/
theorem int_meets (first second : Int) :
    MeetsBefore jsonStop (toString first).toList (toString second).toList (first = second) := by
  have free (value : Int) : ∀ char ∈ (toString value).toList, ¬ jsonStop char := by
    intro char inside stops
    obtain digit | rfl := mem_toList_int inside
    · obtain rfl | rfl | rfl := stops <;> exact absurd digit (by decide)
    · exact absurd stops (by decide)
  exact (meetsBefore_free (free first) (free second)).congr
    ⟨toList_int_injective, fun same => by rw [same]⟩

/-- The kinds of JSON values. -/
inductive JsonKind where
  | null
  | bool
  | number
  | string
  | array
  | object
  deriving DecidableEq

def Json.kind : Json → JsonKind
  | .null => .null
  | .bool _ => .bool
  | .int _ | .float _ => .number
  | .str _ => .string
  | .arr _ => .array
  | .obj _ => .object

/-- The kind of a value by the first character of its text. -/
def kindOf (head : Char) : JsonKind :=
  if head = 'n' then .null
  else if head = 't' ∨ head = 'f' then .bool
  else if head = '"' then .string
  else if head = '[' then .array
  else if head = '\x7b' then .object
  else .number

theorem orderedItems_eq (items : List Json) : orderedItems items = items.map Json.ordered := by
  induction items with
  | nil => rfl
  | cons item rest ih => rw [orderedItems, ih, List.map_cons]

theorem orderedFields_eq (fields : List (String × Json)) :
    orderedFields fields = fields.map fun field => (field.1, field.2.ordered) := by
  induction fields with
  | nil => rfl
  | cons field rest ih => rw [orderedFields, ih, List.map_cons]

/-- Ordering the keys of an object first makes no difference. -/
theorem ordered_obj (fields : List (String × Json)) :
    (Json.obj fields).ordered =
      .obj ((fields.insertionSort byName).map fun field => (field.1, field.2.ordered)) := by
  have sorted : (fields.insertionSort byName).map (fun field => (field.1, field.2.ordered)) =
      (fields.map fun field => (field.1, field.2.ordered)).insertionSort byName :=
    List.map_insertionSort byName byName _ fields fun _ _ _ _ => Iff.rfl
  rw [Json.ordered, orderedFields_eq, sorted]

theorem ordered_kind (value : Json) : value.ordered.kind = value.kind := by
  cases value <;> rfl

/-- Lists agree item by item. -/
theorem agrees_arr_iff {first second : List Json} :
    (Json.arr first).Agrees (.arr second) ↔ List.Forall₂ Json.Agrees first second := by
  unfold Json.Agrees
  rw [Json.ordered, Json.ordered, Json.arr.injEq, orderedItems_eq, orderedItems_eq,
    ← List.forall₂_eq_eq_eq, List.forall₂_map_left_iff, List.forall₂_map_right_iff]

/-- Objects agree field by field in the order of their keys. -/
theorem agrees_obj_iff {first second : List (String × Json)} :
    (Json.obj first).Agrees (.obj second) ↔
      List.Forall₂ (fun field other => field.1 = other.1 ∧ field.2.Agrees other.2)
        (first.insertionSort byName) (second.insertionSort byName) := by
  unfold Json.Agrees
  rw [ordered_obj, ordered_obj, Json.obj.injEq, ← List.forall₂_eq_eq_eq,
    List.forall₂_map_left_iff, List.forall₂_map_right_iff]
  simp only [Prod.mk.injEq]

/-- Values of different kinds do not agree. -/
theorem Json.Agrees.kind_eq {first second : Json} (agrees : first.Agrees second) :
    first.kind = second.kind := by
  rw [← ordered_kind first, ← ordered_kind second, agrees]

theorem toList_arr (items : List Json) :
    (canonicalJson (.arr items)).toList =
      '[' :: ([','].intercalate (items.map fun item => (canonicalJson item).toList) ++ [']']) := by
  simp only [canonicalJson, canonicalItems_eq, String.toList_append, String.toList_intercalate,
    List.map_map]
  rfl

theorem toList_obj (fields : List (String × Json)) :
    (canonicalJson (.obj fields)).toList =
      '\x7b' :: ([','].intercalate
        ((fields.insertionSort byName).map fun field => (fieldText field).toList) ++ ['\x7d']) := by
  rw [canonicalJson_obj]
  simp only [String.toList_append, String.toList_intercalate, List.map_map]
  rfl

/-- The first character of a text shows the kind of its value. -/
theorem canonicalJson_starts (value : Json) (floatless : value.Floatless) :
    ∃ head rest, (canonicalJson value).toList = head :: rest ∧ kindOf head = value.kind ∧
      head ≠ ']' := by
  cases value with
  | null => exact ⟨'n', _, rfl, rfl, by decide⟩
  | bool value => cases value <;> exact ⟨_, _, rfl, rfl, by decide⟩
  | float value => exact floatless.elim
  | str text => exact ⟨'"', _, toList_quoteString text, rfl, by decide⟩
  | arr items => exact ⟨'[', _, toList_arr items, rfl, by decide⟩
  | obj fields => exact ⟨'\x7b', _, toList_obj fields, rfl, by decide⟩
  | int value =>
      obtain ⟨text, _⟩ | ⟨text, _⟩ := toList_int value
      · cases digits : Nat.toDigits 10 value.natAbs with
        | nil => exact absurd digits Nat.toDigits_ne_nil
        | cons head rest =>
            refine ⟨head, rest, text.trans digits, ?_⟩
            have digit : head.isDigit = true := by
              apply @toDigits_digit value.natAbs
              rw [digits]
              exact List.mem_cons_self
            have other {char : Char} (letter : char.isDigit = false) : head ≠ char := by
              rintro rfl
              exact absurd digit (by simp [letter])
            constructor
            · unfold kindOf
              rw [if_neg (other rfl), if_neg (not_or.mpr ⟨other rfl, other rfl⟩), if_neg (other rfl),
                if_neg (other rfl), if_neg (other rfl)]
              rfl
            · exact other rfl
      · exact ⟨'-', _, text, rfl, by decide⟩

variable {first second : Json}

/-- Values of different kinds never meet. -/
theorem kinds_meet (firstFloatless : first.Floatless) (secondFloatless : second.Floatless)
    (different : first.kind ≠ second.kind) :
    MeetsBefore jsonStop (canonicalJson first).toList (canonicalJson second).toList
      (first.Agrees second) := by
  obtain ⟨head, rest, text, kind, _⟩ := canonicalJson_starts first firstFloatless
  obtain ⟨other, others, otherText, otherKind, _⟩ := canonicalJson_starts second secondFloatless
  have apart : head ≠ other := by
    rintro rfl
    exact different (kind.symm.trans otherKind)
  rw [text, otherText]
  exact ((@meets_never _ _ _ 0 head other rfl rfl apart).congr
    (iff_of_false not_false fun agrees => different agrees.kind_eq)).before

theorem floatlessItems_iff (items : List Json) :
    FloatlessItems items ↔ ∀ item ∈ items, item.Floatless := by
  induction items with
  | nil => simp [FloatlessItems]
  | cons item rest ih => rw [FloatlessItems, ih, List.forall_mem_cons]

theorem floatlessFields_iff (fields : List (String × Json)) :
    FloatlessFields fields ↔ ∀ field ∈ fields, field.2.Floatless := by
  induction fields with
  | nil => simp [FloatlessFields]
  | cons field rest ih => rw [FloatlessFields, ih, List.forall_mem_cons]

/-- Lists meet where their items do. -/
theorem arr_meets {items others : List Json} (firstFloatless : (Json.arr items).Floatless)
    (secondFloatless : (Json.arr others).Floatless)
    (each : ∀ item ∈ items, ∀ other ∈ others, MeetsBefore jsonStop (canonicalJson item).toList
      (canonicalJson other).toList (item.Agrees other)) :
    MeetsBefore jsonStop (canonicalJson (.arr items)).toList (canonicalJson (.arr others)).toList
      ((Json.arr items).Agrees (.arr others)) := by
  rw [toList_arr, toList_arr]
  have starts : ∀ item ∈ items ++ others,
      ∃ head rest, (canonicalJson item).toList = head :: rest ∧ head ≠ ']' := by
    intro item inside
    have floatless : item.Floatless := by
      obtain inside | inside := List.mem_append.mp inside
      · exact (floatlessItems_iff items).mp firstFloatless item inside
      · exact (floatlessItems_iff others).mp secondFloatless item inside
    obtain ⟨head, rest, text, _, apart⟩ := canonicalJson_starts item floatless
    exact ⟨head, rest, text, apart⟩
  have listed := meets_listed (by decide : jsonStop ',') (by decide : jsonStop ']') (by decide)
    items others each starts
  exact ((listed.cons '[').congr agrees_arr_iff.symm).before

/-- Objects meet where their fields do. -/
theorem obj_meets {fields others : List (String × Json)}
    (each : ∀ field ∈ fields, ∀ other ∈ others, MeetsBefore jsonStop
      (canonicalJson field.2).toList (canonicalJson other.2).toList (field.2.Agrees other.2)) :
    MeetsBefore jsonStop (canonicalJson (.obj fields)).toList (canonicalJson (.obj others)).toList
      ((Json.obj fields).Agrees (.obj others)) := by
  rw [toList_obj, toList_obj]
  have named : ∀ field ∈ fields.insertionSort byName, ∀ other ∈ others.insertionSort byName,
      MeetsBefore jsonStop (fieldText field).toList (fieldText other).toList
        (field.1 = other.1 ∧ field.2.Agrees other.2) := by
    intro field inside other within
    have value := each field ((List.mem_insertionSort byName).mp inside) other
      ((List.mem_insertionSort byName).mp within)
    have key := (quoteString_meets field.1 other.1).append (meets_self ":".toList)
    simp only [fieldText, String.toList_append]
    exact (key.appendBefore value).congr (by rw [and_true])
  have starts : ∀ field ∈ fields.insertionSort byName ++ others.insertionSort byName,
      ∃ head rest, (fieldText field).toList = head :: rest ∧ head ≠ '\x7d' := by
    intro field _
    simp only [fieldText, String.toList_append, toList_quoteString]
    exact ⟨'"', _, rfl, by decide⟩
  have listed := meets_listed (by decide : jsonStop ',') (by decide : jsonStop '\x7d') (by decide)
    (fields.insertionSort byName) (others.insertionSort byName) named starts
  exact ((listed.cons '\x7b').congr agrees_obj_iff.symm).before

mutual

/-- Two canonical texts before stops are equal exactly if they are texts of the same value. -/
theorem canonicalJson_meets : (first : Json) → first.Floatless → (second : Json) →
    second.Floatless → MeetsBefore jsonStop (canonicalJson first).toList
      (canonicalJson second).toList (first.Agrees second)
  | .null, given, second, floatless => by
      cases second with
      | null => exact ((meets_self _).congr (iff_of_true trivial rfl)).before
      | _ => exact kinds_meet given floatless (by simp [Json.kind])
  | .bool value, given, second, floatless => by
      cases second with
      | bool other =>
          cases value <;> cases other
          · exact ((meets_self _).congr (iff_of_true trivial rfl)).before
          · exact ((@meets_never _ _ _ 0 'f' 't' rfl rfl (by decide)).congr
              (by simp [Json.Agrees, Json.ordered])).before
          · exact ((@meets_never _ _ _ 0 't' 'f' rfl rfl (by decide)).congr
              (by simp [Json.Agrees, Json.ordered])).before
          · exact ((meets_self _).congr (iff_of_true trivial rfl)).before
      | _ => exact kinds_meet given floatless (by simp [Json.kind])
  | .int value, given, second, floatless => by
      cases second with
      | int other => exact (int_meets value other).congr (by simp [Json.Agrees, Json.ordered])
      | float other => exact floatless.elim
      | _ => exact kinds_meet given floatless (by simp [Json.kind])
  | .float _, given, _, _ => given.elim
  | .str text, given, second, floatless => by
      cases second with
      | str other =>
          exact ((quoteString_meets text other).congr (by simp [Json.Agrees, Json.ordered])).before
      | _ => exact kinds_meet given floatless (by simp [Json.kind])
  | .arr items, given, second, floatless => by
      cases second with
      | arr others =>
          exact arr_meets given floatless fun item inside other within =>
            canonicalItems_meet items given item inside other
              ((floatlessItems_iff others).mp floatless other within)
      | _ => exact kinds_meet given floatless (by simp [Json.kind])
  | .obj fields, given, second, floatless => by
      cases second with
      | obj others =>
          exact obj_meets fun field inside other within =>
            canonicalFields_meet fields given field inside other.2
              ((floatlessFields_iff others).mp floatless other within)
      | _ => exact kinds_meet given floatless (by simp [Json.kind])

theorem canonicalItems_meet : (items : List Json) → FloatlessItems items → ∀ item ∈ items,
    ∀ second : Json, second.Floatless → MeetsBefore jsonStop (canonicalJson item).toList
      (canonicalJson second).toList (item.Agrees second)
  | [], _ => by simp
  | item :: rest, floatless => by
      rw [List.forall_mem_cons]
      exact ⟨canonicalJson_meets item floatless.1, canonicalItems_meet rest floatless.2⟩

theorem canonicalFields_meet : (fields : List (String × Json)) → FloatlessFields fields →
    ∀ field ∈ fields, ∀ second : Json, second.Floatless → MeetsBefore jsonStop
      (canonicalJson field.2).toList (canonicalJson second).toList (field.2.Agrees second)
  | [], _ => by simp
  | (_, value) :: rest, floatless => by
      rw [List.forall_mem_cons]
      exact ⟨canonicalJson_meets value floatless.1, canonicalFields_meet rest floatless.2⟩

end

/-- Two canonical texts are equal exactly if they are texts of the same value. -/
theorem canonicalJson_eq_iff (firstFloatless : first.Floatless) (secondFloatless : second.Floatless) :
    canonicalJson first = canonicalJson second ↔ first.Agrees second := by
  rw [← String.toList_inj]
  exact (canonicalJson_meets first firstFloatless second secondFloatless).eq_iff

/-- Distinct keys are found where they stand. -/
theorem lookup_eq_some_of_distinct {fields : List (String × Json)}
    (distinct : (fields.map (·.1)).Nodup) {key : String} {value : Json} :
    fields.lookup key = some value ↔ (key, value) ∈ fields := by
  induction fields with
  | nil => simp
  | cons field rest ih =>
      rw [List.map_cons, List.nodup_cons] at distinct
      rw [List.lookup_cons, List.mem_cons, ← ih distinct.2]
      by_cases same : key = field.1
      · have absent : rest.lookup key ≠ some value := by
          intro found
          have inside := (ih distinct.2).mp found
          exact distinct.1 (same ▸ List.mem_map_of_mem (f := (·.1)) inside)
        subst same
        simp [absent, Prod.ext_iff, eq_comm]
      · have other : (key, value) ≠ field := fun equal => same (congrArg Prod.fst equal)
        have apart : (key == field.1) = false := beq_false_of_ne same
        simp [apart, other]

/-- Objects with distinct keys agree exactly if they have the same keys and agree at each of them. -/
theorem agrees_obj_iff_lookup {fields others : List (String × Json)}
    (distinct : (fields.map (·.1)).Nodup) (otherDistinct : (others.map (·.1)).Nodup) :
    (Json.obj fields).Agrees (.obj others) ↔
      ∀ key, (fields.lookup key).map Json.ordered = (others.lookup key).map Json.ordered := by
  have keys (fields : List (String × Json)) :
      (orderedFields fields).map (·.1) = fields.map (·.1) := by
    rw [orderedFields_eq, List.map_map]
    rfl
  have found (fields : List (String × Json)) (key : String) :
      (orderedFields fields).lookup key = (fields.lookup key).map Json.ordered := by
    induction fields with
    | nil => rfl
    | cons field rest ih =>
        rw [orderedFields, List.lookup_cons, List.lookup_cons, ih]
        cases key == field.1 <;> rfl
  simp only [← found]
  rw [← keys] at distinct otherDistinct
  have sorted : (Json.obj fields).Agrees (.obj others) ↔
      (orderedFields fields).Perm (orderedFields others) := by
    unfold Json.Agrees
    rw [Json.ordered, Json.ordered, Json.obj.injEq]
    constructor
    · intro same
      exact (List.perm_insertionSort byName _).symm.trans
        (same ▸ List.perm_insertionSort byName _)
    · intro perm
      apply @List.Perm.eq_of_pairwise _ byName
      · intro first second inFirst inSecond before after
        simp only [List.mem_insertionSort] at inFirst inSecond
        exact List.inj_on_of_nodup_map distinct inFirst (perm.mem_iff.mpr inSecond)
          (le_antisymm before after)
      · exact List.pairwise_insertionSort byName _
      · exact List.pairwise_insertionSort byName _
      · exact ((List.perm_insertionSort byName _).trans perm).trans
          (List.perm_insertionSort byName _).symm
  rw [sorted, List.perm_ext_iff_of_nodup distinct.of_map otherDistinct.of_map]
  constructor
  · intro same key
    ext value
    rw [lookup_eq_some_of_distinct distinct, lookup_eq_some_of_distinct otherDistinct, same]
  · intro same field
    rw [← lookup_eq_some_of_distinct distinct, ← lookup_eq_some_of_distinct otherDistinct, same]

end Values

end Sprawl
