/-
This file proves that the reader of JSON texts returns the tree that was printed.
-/

import Mathlib.Data.Option.Basic
import Sprawl.Text.JsonTree

namespace Text

section Objects

variable {τ α : Type} [DecidableEq τ] {key : τ} {value : α} {fields pairs : List (τ × α)}

/-- A new key comes last. -/
theorem setField_fresh (fresh : key ∉ fields.map (·.1)) :
    setField key value fields = fields ++ [(key, value)] := by
  induction fields with
  | nil => rfl
  | cons field rest ih =>
      rw [List.map_cons, List.mem_cons, not_or] at fresh
      rw [setField, if_neg (Ne.symm fresh.1), ih fresh.2, List.cons_append]

theorem mem_setField_keys {other : τ} (inside : other ∈ (setField key value fields).map (·.1)) :
    other = key ∨ other ∈ fields.map (·.1) := by
  induction fields with
  | nil => exact Or.inl (List.mem_singleton.mp inside)
  | cons field rest ih =>
      rw [setField] at inside
      split at inside
      · rw [List.map_cons, List.mem_cons] at inside ⊢
        exact inside.imp_right Or.inr
      · rw [List.map_cons, List.mem_cons] at inside ⊢
        obtain first | later := inside
        · exact Or.inr (Or.inl first)
        · exact (ih later).imp_right Or.inr

/-- An object with distinct keys is built from its own fields. -/
theorem objectOf_eq (distinct : (pairs.map (·.1)).Nodup) : objectOf pairs = pairs := by
  have from_ (fields : List (τ × α)) (apart : ((fields ++ pairs).map (·.1)).Nodup) :
      pairs.foldl (fun fields pair => setField pair.1 pair.2 fields) fields = fields ++ pairs := by
    clear distinct
    induction pairs generalizing fields with
    | nil => simp
    | cons pair rest ih =>
        have fresh : pair.1 ∉ fields.map (·.1) := by
          intro inside
          rw [List.map_append, List.nodup_append] at apart
          exact apart.2.2 _ inside _ List.mem_cons_self rfl
        rw [List.foldl_cons, setField_fresh fresh, ih _ (by simpa using apart)]
        simp
  exact from_ [] distinct

/-- An object has no other keys than its pairs. -/
theorem mem_objectOf_keys (inside : key ∈ (objectOf pairs).map (·.1)) :
    key ∈ pairs.map (·.1) := by
  have from_ (fields : List (τ × α)) (among : key ∈ (pairs.foldl (fun fields pair =>
      setField pair.1 pair.2 fields) fields).map (·.1)) :
      key ∈ fields.map (·.1) ∨ key ∈ pairs.map (·.1) := by
    clear inside
    induction pairs generalizing fields with
    | nil => exact Or.inl among
    | cons pair rest ih =>
        rw [List.map_cons, List.mem_cons]
        obtain earlier | later := ih _ among
        · obtain same | before := mem_setField_keys earlier
          · exact Or.inr (Or.inl same)
          · exact Or.inl before
        · exact Or.inr (Or.inr later)
  exact (from_ [] inside).resolve_left List.not_mem_nil

theorem lookup_eq_none (absent : key ∉ fields.map (·.1)) : fields.lookup key = none := by
  rw [List.lookup_eq_none_iff]
  intro field inside
  rw [bne_iff_ne]
  exact fun same => absent (same ▸ List.mem_map_of_mem inside)

end Objects

section Values

variable {ν τ : Type} [DecidableEq τ] (number : Numeral → ν)

theorem fieldValues_keys (fields : List (τ × JsonTree Numeral τ)) :
    (fieldValues number fields).map (·.1) = fields.map (·.1) := by
  induction fields with
  | nil => rfl
  | cons field rest ih => rw [fieldValues, List.map_cons, List.map_cons, ih]

/-- An object without a key has no property under it. -/
theorem field?_value_eq_none {key : τ} {fields : List (τ × JsonTree Numeral τ)}
    (absent : key ∉ fields.map (·.1)) :
    ((JsonTree.object fields).value number).field? key = none := by
  apply lookup_eq_none
  intro inside
  have among := mem_objectOf_keys inside
  rw [fieldValues_keys] at among
  exact absent among

/-- The property under the first key. -/
theorem field?_value_head {key : τ} {first : JsonTree Numeral τ}
    {rest : List (τ × JsonTree Numeral τ)} (distinct : (key :: rest.map (·.1)).Nodup) :
    ((JsonTree.object ((key, first) :: rest)).value number).field? key =
      some (first.value number) := by
  have keys : ((fieldValues number ((key, first) :: rest)).map (·.1)).Nodup := by
    rwa [fieldValues_keys]
  rw [JsonTree.value, JsonTree.field?, objectOf_eq keys, fieldValues, List.lookup_cons_self]

end Values

section Texts

variable {ν τ σ : Type} {text : τ → σ}

theorem mapFields_keys (fields : List (τ × JsonTree ν τ)) :
    (mapFields text fields).map (·.1) = (fields.map (·.1)).map text := by
  induction fields with
  | nil => rfl
  | cons field rest ih => rw [mapFields, List.map_cons, List.map_cons, List.map_cons, ih]

variable {back : σ → τ}

mutual

/-- Texts that are turned back leave the value as it was. -/
theorem mapText_inverse (inverse : ∀ content, back (text content) = content) :
    (tree : JsonTree ν τ) → (tree.mapText text).mapText back = tree
  | .null => rfl
  | .bool _ => rfl
  | .number _ => rfl
  | .string content => congrArg JsonTree.string (inverse content)
  | .array items => congrArg JsonTree.array (mapItems_inverse inverse items)
  | .object fields => congrArg JsonTree.object (mapFields_inverse inverse fields)

theorem mapItems_inverse (inverse : ∀ content, back (text content) = content) :
    (items : List (JsonTree ν τ)) → mapItems back (mapItems text items) = items
  | [] => rfl
  | item :: rest => by
      rw [mapItems, mapItems, mapText_inverse inverse item, mapItems_inverse inverse rest]

theorem mapFields_inverse (inverse : ∀ content, back (text content) = content) :
    (fields : List (τ × JsonTree ν τ)) → mapFields back (mapFields text fields) = fields
  | [] => rfl
  | (key, field) :: rest => by
      rw [mapFields, mapFields, inverse, mapText_inverse inverse field,
        mapFields_inverse inverse rest]

end

end Texts

section Numerals

theorem isNumeralChar_of_isDigit {char : Char} (digit : char.isDigit = true) :
    isNumeralChar char = true := by
  simp [isNumeralChar, digit]

theorem isDigits_iff {text : List Char} :
    isDigits text = true ↔ text ≠ [] ∧ ∀ char ∈ text, char.isDigit = true := by
  simp [isDigits]

theorem isDigits_chars {text : List Char} (digits : isDigits text = true) :
    ∀ char ∈ text, isNumeralChar char = true :=
  fun char inside => isNumeralChar_of_isDigit ((isDigits_iff.mp digits).2 char inside)

theorem isExponent_chars {text : List Char} (exponent : isExponent text = true) :
    ∀ char ∈ text, isNumeralChar char = true := by
  rcases text with _ | ⟨mark, _ | ⟨sign, rest⟩⟩
  · simp
  · cases exponent
  · rw [isExponent, Bool.and_eq_true, Bool.or_eq_true, decide_eq_true_eq,
      decide_eq_true_eq] at exponent
    obtain ⟨isMark, signed⟩ := exponent
    rw [List.forall_mem_cons]
    refine ⟨by obtain rfl | rfl := isMark <;> decide, ?_⟩
    split at signed
    · next isSign =>
        rw [Bool.or_eq_true, decide_eq_true_eq, decide_eq_true_eq] at isSign
        rw [List.forall_mem_cons]
        exact ⟨by obtain rfl | rfl := isSign <;> decide, isDigits_chars signed⟩
    · exact isDigits_chars signed

theorem isFraction_chars {text : List Char} (fraction : isFraction text = true) :
    ∀ char ∈ text, isNumeralChar char = true := by
  unfold isFraction at fraction
  split at fraction
  · next rest =>
      rw [Bool.and_eq_true] at fraction
      rw [List.forall_mem_cons]
      refine ⟨by decide, ?_⟩
      rw [← List.takeWhile_append_dropWhile (p := Char.isDigit) (l := rest)]
      exact List.forall_mem_append.mpr ⟨isDigits_chars fraction.1, isExponent_chars fraction.2⟩
  · exact isExponent_chars fraction

theorem isUnsigned_chars {text : List Char} (number : isUnsigned text = true) :
    ∀ char ∈ text, isNumeralChar char = true := by
  rw [isUnsigned, Bool.and_eq_true] at number
  rw [← List.takeWhile_append_dropWhile (p := Char.isDigit) (l := text)]
  refine List.forall_mem_append.mpr ⟨fun char inside => ?_, isFraction_chars number.2⟩
  exact isNumeralChar_of_isDigit (List.mem_takeWhile_imp inside)

/-- A number consists of the characters of numbers. -/
theorem Numeral.chars (numeral : Numeral) : ∀ char ∈ numeral.text, isNumeralChar char = true := by
  obtain ⟨text, valid⟩ := numeral
  unfold isNumeral at valid
  split at valid
  · rw [List.forall_mem_cons]
    exact ⟨by decide, isUnsigned_chars valid⟩
  · exact isUnsigned_chars valid

/-- An unsigned number starts with a digit. -/
theorem isUnsigned_starts {text : List Char} (number : isUnsigned text = true) :
    ∃ head rest, text = head :: rest ∧ head.isDigit = true := by
  rw [isUnsigned, Bool.and_eq_true] at number
  cases text with
  | nil => exact absurd number.1 (by decide)
  | cons head rest =>
      refine ⟨head, rest, rfl, ?_⟩
      by_contra other
      rw [List.takeWhile_cons_of_neg other] at number
      exact absurd number.1 (by decide)

/-- A number starts with no character that is neither a digit nor a minus. -/
theorem Numeral.starts (numeral : Numeral) :
    ∃ head rest, numeral.text = head :: rest ∧
      ∀ char : Char, char.isDigit = false → char ≠ '-' → head ≠ char := by
  obtain ⟨text, valid⟩ := numeral
  unfold isNumeral at valid
  split at valid
  · exact ⟨_, _, rfl, fun char _ other same => other same.symm⟩
  · obtain ⟨head, rest, split, digit⟩ := isUnsigned_starts valid
    refine ⟨head, rest, split, ?_⟩
    rintro char other _ rfl
    rw [digit] at other
    cases other

/-- What follows a number ends it. -/
abbrev endsNumeral (char : Char) : Prop := isNumeralChar char = false

theorem stopped_cons {stop : Char → Prop} {head : Char} {rest : List Char} (stops : stop head) :
    Stopped stop (head :: rest) := by
  intro char inside
  obtain rfl := Option.some.inj inside
  exact stops

theorem readNumeral_print {τ : Type} (numeral : Numeral) {rest : List Char}
    (ends : Stopped endsNumeral rest) :
    readNumeral (numeral.text ++ rest) = some ((.number numeral : JsonTree Numeral τ), rest) := by
  have none : rest.takeWhile isNumeralChar = [] ∧ rest.dropWhile isNumeralChar = rest := by
    cases rest with
    | nil => exact ⟨rfl, rfl⟩
    | cons head tail =>
        have stop : ¬ isNumeralChar head = true := Bool.eq_false_iff.mp (ends head rfl)
        exact ⟨List.takeWhile_cons_of_neg stop, List.dropWhile_cons_of_neg stop⟩
  have token : (numeral.text ++ rest).takeWhile isNumeralChar = numeral.text := by
    rw [List.takeWhile_append_of_pos numeral.chars, none.1, List.append_nil]
  have left : (numeral.text ++ rest).dropWhile isNumeralChar = rest := by
    rw [List.dropWhile_append_of_pos numeral.chars, none.2]
  simp [readNumeral, token, left, numeral.valid]

end Numerals

section Blanks

theorem skipBlanks_cons {head : Char} {rest : List Char} (solid : isJsonBlank head = false) :
    skipBlanks (head :: rest) = head :: rest :=
  List.dropWhile_cons_of_neg (Bool.eq_false_iff.mp solid)

/-- Blanks before a text make no difference. -/
theorem skipBlanks_append {blanks : List Char} (blank : ∀ char ∈ blanks, isJsonBlank char = true)
    (text : List Char) : skipBlanks (blanks ++ text) = skipBlanks text :=
  List.dropWhile_append_of_pos blank

variable {π : Type} (read : List Char → Option (π × List Char))

theorem readValue_array (fuel : Nat) (text : List Char) :
    readValue read (fuel + 1) ('[' :: text) =
      if (skipBlanks text).head? = some ']' then some (.array [], (skipBlanks text).tail)
      else do
        let (items, rest) ← readItems read fuel (skipBlanks text)
        return (.array items, rest) :=
  rfl

theorem readValue_object (fuel : Nat) (text : List Char) :
    readValue read (fuel + 1) ('\x7b' :: text) =
      if (skipBlanks text).head? = some '\x7d' then some (.object [], (skipBlanks text).tail)
      else do
        let (fields, rest) ← readFields read fuel (skipBlanks text)
        return (.object fields, rest) :=
  rfl

theorem readValue_append {blanks : List Char} (blank : ∀ char ∈ blanks, isJsonBlank char = true)
    (fuel : Nat) (text : List Char) :
    readValue read fuel (blanks ++ text) = readValue read fuel text := by
  cases fuel with
  | zero => rfl
  | succ fuel => simp only [readValue, skipBlanks_append blank]

theorem readItems_append {blanks : List Char} (blank : ∀ char ∈ blanks, isJsonBlank char = true)
    (fuel : Nat) (text : List Char) :
    readItems read fuel (blanks ++ text) = readItems read fuel text := by
  cases fuel with
  | zero => rfl
  | succ fuel => rw [readItems, readItems, readValue_append read blank]

theorem readFields_append {blanks : List Char} (blank : ∀ char ∈ blanks, isJsonBlank char = true)
    (fuel : Nat) (text : List Char) :
    readFields read fuel (blanks ++ text) = readFields read fuel text := by
  cases fuel with
  | zero => rfl
  | succ fuel => rw [readFields, readFields, skipBlanks_append blank]

end Blanks

namespace JsonStyle

variable (style : JsonStyle)

theorem gap_blank : ∀ char ∈ style.gap, isJsonBlank char = true := by
  intro char inside
  rw [style.blank char inside]
  rfl

section Strings

variable {π : Type} {read : List Char → Option (π × List Char)} {point : Char → π}
  (reads : style.Reads read point)

include reads

/-- The characters of a string are read up to the quote. -/
theorem readChars_print (chars rest : List Char) {fuel : Nat}
    (enough : (chars.flatMap style.escape).length < fuel) :
    readChars read fuel (chars.flatMap style.escape ++ '"' :: rest) =
      some (chars.map point, rest) := by
  induction chars generalizing fuel with
  | nil =>
      cases fuel with
      | zero => exact absurd enough (Nat.not_lt_zero _)
      | succ fuel => rfl
  | cons char chars ih =>
      cases fuel with
      | zero => exact absurd enough (Nat.not_lt_zero _)
      | succ fuel =>
          obtain ⟨head, tail, code, unquoted⟩ := style.unquoted char
          have shorter : (chars.flatMap style.escape).length < fuel := by
            rw [List.flatMap_cons, List.length_append, code, List.length_cons] at enough
            omega
          have first : ((char :: chars).flatMap style.escape ++ '"' :: rest).head? ≠ some '"' := by
            rw [List.flatMap_cons, code]
            exact fun same => unquoted (Option.some.inj same)
          rw [readChars, if_neg first, List.flatMap_cons, List.append_assoc, reads]
          simp only [Option.bind_eq_bind, Option.bind_some]
          rw [ih shorter]
          rfl

theorem readString_print (text : String) (rest : List Char) {fuel : Nat}
    (enough : (style.quote text).length ≤ fuel) :
    readString read fuel (style.quote text ++ rest) = some (pointsOf point text, rest) := by
  rw [quote, List.length_cons, List.length_append] at enough
  have chars : readChars read fuel (text.toList.flatMap style.escape ++ '"' :: rest) =
      some (pointsOf point text, rest) :=
    style.readChars_print reads text.toList rest (by omega)
  rw [quote, List.cons_append, List.append_assoc, List.singleton_append, readString, List.tail_cons,
    chars]
  rfl

end Strings

/-- A printed value starts neither with a blank nor with a closing bracket. -/
theorem print_starts (tree : JsonTree Numeral) :
    ∃ head rest, style.print tree = head :: rest ∧ isJsonBlank head = false ∧ head ≠ ']' := by
  cases tree with
  | null => exact ⟨'n', _, rfl, by decide, by decide⟩
  | bool value => cases value <;> exact ⟨_, _, rfl, by decide, by decide⟩
  | string text => exact ⟨'"', _, rfl, by decide, by decide⟩
  | array items => exact ⟨'[', _, rfl, by decide, by decide⟩
  | object fields => exact ⟨'\x7b', _, rfl, by decide, by decide⟩
  | number numeral =>
      obtain ⟨head, rest, split, other⟩ := numeral.starts
      refine ⟨head, rest, split, ?_, other ']' rfl (by decide)⟩
      simp [isJsonBlank, other ' ' rfl (by decide), other '\t' rfl (by decide),
        other '\n' rfl (by decide), other '\r' rfl (by decide)]

/-- A value ends before a character that is in no number. -/
theorem readValue_number {π : Type} (read : List Char → Option (π × List Char)) (numeral : Numeral)
    {rest : List Char} (ends : Stopped endsNumeral rest) (fuel : Nat) :
    readValue read (fuel + 1) (numeral.text ++ rest) = some (.number numeral, rest) := by
  have reads := @readNumeral_print (List π) numeral rest ends
  obtain ⟨head, tail, split, other⟩ := numeral.starts
  rw [split, List.cons_append] at reads ⊢
  have solid : skipBlanks (head :: (tail ++ rest)) = head :: (tail ++ rest) := by
    apply skipBlanks_cons
    simp [isJsonBlank, other ' ' rfl (by decide), other '\t' rfl (by decide),
      other '\n' rfl (by decide), other '\r' rfl (by decide)]
  have atom : (readAtom (head :: (tail ++ rest)) : Option (JsonTree Numeral (List π) × _)) =
      readNumeral (head :: (tail ++ rest)) := by
    unfold readAtom
    split
    · next same => exact absurd (List.cons.inj same).1 (other 'n' rfl (by decide))
    · next same => exact absurd (List.cons.inj same).1 (other 't' rfl (by decide))
    · next same => exact absurd (List.cons.inj same).1 (other 'f' rfl (by decide))
    · rfl
  simp [readValue, solid, other '"' rfl (by decide), other '[' rfl (by decide),
    other '\x7b' rfl (by decide), atom, reads]

theorem printItems_cons (item next : JsonTree Numeral) (others : List (JsonTree Numeral)) :
    style.printItems (item :: next :: others) =
      style.print item ++ ',' :: (style.gap ++ style.printItems (next :: others)) :=
  rfl

theorem print_array_append (items : List (JsonTree Numeral)) (rest : List Char) :
    style.print (.array items) ++ rest = '[' :: (style.printItems items ++ ']' :: rest) := by
  simp [print]

theorem print_object_append (fields : List (String × JsonTree Numeral)) (rest : List Char) :
    style.print (.object fields) ++ rest =
      '\x7b' :: (style.printFields fields ++ '\x7d' :: rest) := by
  simp [print]

theorem printItems_starts (item : JsonTree Numeral) (others : List (JsonTree Numeral)) :
    ∃ head rest, style.printItems (item :: others) = head :: rest ∧ isJsonBlank head = false ∧
      head ≠ ']' := by
  obtain ⟨head, rest, starts, solid, open_⟩ := style.print_starts item
  cases others with
  | nil => exact ⟨head, rest, starts, solid, open_⟩
  | cons next others =>
      refine ⟨head, rest ++ ',' :: (style.gap ++ style.printItems (next :: others)), ?_, solid,
        open_⟩
      rw [printItems_cons, starts, List.cons_append]

theorem printFields_cons (key : String) (value : JsonTree Numeral)
    (next : String × JsonTree Numeral) (others : List (String × JsonTree Numeral)) :
    style.printFields ((key, value) :: next :: others) =
      style.quote key ++ ':' ::
        (style.gap ++ (style.print value ++ ',' :: (style.gap ++ style.printFields (next :: others)))) :=
  rfl

theorem printFields_starts (field : String × JsonTree Numeral)
    (others : List (String × JsonTree Numeral)) :
    ∃ rest, style.printFields (field :: others) = '"' :: rest := by
  obtain ⟨key, value⟩ := field
  cases others with
  | nil => exact ⟨_, rfl⟩
  | cons next others => exact ⟨_, rfl⟩

section Values

variable {π : Type} {read : List Char → Option (π × List Char)} {point : Char → π}
  (reads : style.Reads read point)

include reads

/-- The value of a field is read behind its key. -/
theorem readFields_key (key : String) (text : List Char) {fuel : Nat}
    (enough : (style.quote key).length ≤ fuel) :
    readFields read (fuel + 1) (style.quote key ++ ':' :: text) = (do
      let (value, rest) ← readValue read fuel text
      let rest := skipBlanks rest
      if rest.head? = some '\x7d' then return ([(pointsOf point key, value)], rest.tail)
      else do
        guard (rest.head? = some ',')
        let (fields, rest) ← readFields read fuel rest.tail
        return ((pointsOf point key, value) :: fields, rest)) := by
  have solid : skipBlanks (style.quote key ++ ':' :: text) = style.quote key ++ ':' :: text :=
    skipBlanks_cons rfl
  rw [readFields, solid, style.readString_print reads key _ enough]
  rfl

mutual

/-- A printed value is read back from what follows it. -/
theorem readValue_print : (tree : JsonTree Numeral) → ∀ {fuel : Nat} {rest : List Char},
    (style.print tree).length < fuel → Stopped endsNumeral rest →
      readValue read fuel (style.print tree ++ rest) =
        some (tree.mapText (pointsOf point), rest)
  | _, 0, _, enough, _ => absurd enough (Nat.not_lt_zero _)
  | .null, fuel + 1, rest, _, _ => rfl
  | .bool true, fuel + 1, rest, _, _ => rfl
  | .bool false, fuel + 1, rest, _, _ => rfl
  | .number numeral, fuel + 1, rest, _, ends => readValue_number read numeral ends fuel
  | .string text, fuel + 1, rest, enough, _ => by
      have string := style.readString_print reads text rest (Nat.le_of_lt_succ enough)
      change (do
        let (value, left) ← readString read fuel (style.quote text ++ rest)
        return (JsonTree.string value, left)) = _
      rw [string]
      rfl
  | .array [], fuel + 1, rest, _, _ => rfl
  | .array (item :: others), fuel + 1, rest, enough, _ => by
      obtain ⟨head, tail, starts, solid, open_⟩ := style.printItems_starts item others
      have found : readItems read fuel
          (style.printItems (item :: others) ++ ']' :: rest) =
            some (mapItems (pointsOf point) (item :: others), rest) := by
        apply readItems_print (item :: others) (List.cons_ne_nil _ _)
        simp only [print, List.length_cons, List.length_append, List.length_nil] at enough
        omega
      have inner : skipBlanks (style.printItems (item :: others) ++ ']' :: rest) =
          style.printItems (item :: others) ++ ']' :: rest := by
        rw [starts]
        exact skipBlanks_cons solid
      have more : (style.printItems (item :: others) ++ ']' :: rest).head? ≠ some ']' := by
        rw [starts]
        exact fun same => open_ (Option.some.inj same)
      rw [print_array_append, readValue_array, inner, if_neg more, found]
      rfl
  | .object [], fuel + 1, rest, _, _ => rfl
  | .object (field :: others), fuel + 1, rest, enough, _ => by
      obtain ⟨tail, starts⟩ := style.printFields_starts field others
      have found : readFields read fuel
          (style.printFields (field :: others) ++ '\x7d' :: rest) =
            some (mapFields (pointsOf point) (field :: others), rest) := by
        apply readFields_print (field :: others) (List.cons_ne_nil _ _)
        simp only [print, List.length_cons, List.length_append, List.length_nil] at enough
        omega
      have inner : skipBlanks (style.printFields (field :: others) ++ '\x7d' :: rest) =
          style.printFields (field :: others) ++ '\x7d' :: rest := by
        rw [starts]
        exact skipBlanks_cons rfl
      have more : (style.printFields (field :: others) ++ '\x7d' :: rest).head? ≠ some '\x7d' := by
        rw [starts]
        exact fun same => absurd (Option.some.inj same) (by decide)
      rw [print_object_append, readValue_object, inner, if_neg more, found]
      rfl

theorem readItems_print : (items : List (JsonTree Numeral)) → items ≠ [] →
    ∀ {fuel : Nat} {rest : List Char}, (style.printItems items).length + 1 < fuel →
      readItems read fuel (style.printItems items ++ ']' :: rest) =
        some (mapItems (pointsOf point) items, rest)
  | [], nonempty, _, _, _ => absurd rfl nonempty
  | _, _, 0, _, enough => absurd enough (Nat.not_lt_zero _)
  | [item], _, fuel + 1, rest, enough => by
      have found : readValue read fuel (style.print item ++ ']' :: rest) =
          some (item.mapText (pointsOf point), ']' :: rest) :=
        readValue_print item (Nat.lt_of_succ_lt_succ enough) (stopped_cons rfl)
      rw [printItems, readItems, found]
      rfl
  | item :: next :: others, _, fuel + 1, rest, enough => by
      simp only [printItems_cons, List.length_append, List.length_cons] at enough
      have found : readValue read fuel (style.print item ++
          ',' :: (style.gap ++ (style.printItems (next :: others) ++ ']' :: rest))) = some (item.mapText (pointsOf point), _) :=
        readValue_print item (by omega) (stopped_cons rfl)
      have later : readItems read fuel
          (style.gap ++ (style.printItems (next :: others) ++ ']' :: rest)) =
            some (mapItems (pointsOf point) (next :: others), rest) := by
        rw [readItems_append read style.gap_blank]
        exact readItems_print (next :: others) (List.cons_ne_nil _ _) (by omega)
      rw [printItems_cons, List.append_assoc, List.cons_append, List.append_assoc, readItems, found]
      change (do
        let (items, left) ← readItems read fuel
          (style.gap ++ (style.printItems (next :: others) ++ ']' :: rest))
        return (item.mapText (pointsOf point) :: items, left)) = _
      rw [later]
      rfl

theorem readFields_print : (fields : List (String × JsonTree Numeral)) → fields ≠ [] →
    ∀ {fuel : Nat} {rest : List Char}, (style.printFields fields).length + 1 < fuel →
      readFields read fuel (style.printFields fields ++ '\x7d' :: rest) =
        some (mapFields (pointsOf point) fields, rest)
  | [], nonempty, _, _, _ => absurd rfl nonempty
  | _, _, 0, _, enough => absurd enough (Nat.not_lt_zero _)
  | [(key, value)], _, fuel + 1, rest, enough => by
      simp only [printFields, List.length_append, List.length_cons] at enough
      have found : readValue read fuel (style.gap ++ (style.print value ++ '\x7d' :: rest)) =
          some (value.mapText (pointsOf point), '\x7d' :: rest) := by
        rw [readValue_append read style.gap_blank]
        exact readValue_print value (by omega) (stopped_cons rfl)
      rw [printFields, List.append_assoc, List.cons_append, List.append_assoc,
        style.readFields_key reads key _ (by omega), found]
      rfl
  | (key, value) :: next :: others, _, fuel + 1, rest, enough => by
      simp only [printFields_cons, List.length_append, List.length_cons] at enough
      have found : readValue read fuel (style.gap ++ (style.print value ++
          ',' :: (style.gap ++ (style.printFields (next :: others) ++ '\x7d' :: rest)))) =
            some (value.mapText (pointsOf point),
              ',' :: (style.gap ++ (style.printFields (next :: others) ++ '\x7d' :: rest))) := by
        rw [readValue_append read style.gap_blank]
        exact readValue_print value (by omega) (stopped_cons rfl)
      have later : readFields read fuel
          (style.gap ++ (style.printFields (next :: others) ++ '\x7d' :: rest)) =
            some (mapFields (pointsOf point) (next :: others), rest) := by
        rw [readFields_append read style.gap_blank]
        exact readFields_print (next :: others) (List.cons_ne_nil _ _) (by omega)
      rw [printFields_cons, List.append_assoc, List.cons_append, List.append_assoc,
        List.append_assoc, List.cons_append, List.append_assoc,
        style.readFields_key reads key _ (by omega), found]
      change (do
        let (fields, left) ← readFields read fuel
          (style.gap ++ (style.printFields (next :: others) ++ '\x7d' :: rest))
        return ((pointsOf point key, value.mapText (pointsOf point)) :: fields, left)) = _
      rw [later]
      rfl

end

/-- A printed value is read back. -/
theorem readTree_print (tree : JsonTree Numeral) :
    readTree read (style.print tree) = some (tree.mapText (pointsOf point)) := by
  have found : readValue read ((style.print tree).length + 1) (style.print tree) =
      some (tree.mapText (pointsOf point), []) := by
    have whole : readValue read ((style.print tree).length + 1) (style.print tree ++ []) =
        some (tree.mapText (pointsOf point), []) :=
      style.readValue_print reads tree (Nat.lt_succ_self _) (by simp [Stopped])
    rwa [List.append_nil] at whole
  rw [readTree, found]
  rfl

end Values

section Characters

/-- The characters that the grammar has outside strings and numbers. -/
def jsonSigns : List Char :=
  ['n', 'u', 'l', 't', 'r', 'e', 'f', 'a', 's', '"', ',', ':', '[', ']', '\x7b', '\x7d', ' ']

/-- A property of all characters that a style prints. -/
structure Prints (style : JsonStyle) (holds : Char → Prop) : Prop where
  codes : ∀ char, ∀ part ∈ style.escape char, holds part
  numbers : ∀ char, isNumeralChar char = true → holds char
  signs : ∀ char ∈ jsonSigns, holds char

variable {style} {holds : Char → Prop} (prints : Prints style holds)

include prints

theorem quote_chars (text : String) : ∀ char ∈ style.quote text, holds char := by
  have sign : holds '"' := prints.signs '"' (by decide)
  rw [quote, List.forall_mem_cons]
  refine ⟨sign, List.forall_mem_append.mpr ⟨fun part inside => ?_, ?_⟩⟩
  · obtain ⟨char, _, among⟩ := List.mem_flatMap.mp inside
    exact prints.codes char part among
  · exact List.forall_mem_singleton.mpr sign

theorem gap_chars : ∀ char ∈ style.gap, holds char := by
  intro char inside
  rw [style.blank char inside]
  exact prints.signs ' ' (by decide)

mutual

theorem print_chars : (tree : JsonTree Numeral) → ∀ char ∈ style.print tree, holds char
  | .null => fun char inside =>
      prints.signs char ((by decide : ['n', 'u', 'l', 'l'] ⊆ jsonSigns) inside)
  | .bool true => fun char inside =>
      prints.signs char ((by decide : ['t', 'r', 'u', 'e'] ⊆ jsonSigns) inside)
  | .bool false => fun char inside =>
      prints.signs char ((by decide : ['f', 'a', 'l', 's', 'e'] ⊆ jsonSigns) inside)
  | .number numeral => fun char inside => prints.numbers char (numeral.chars char inside)
  | .string text => quote_chars prints text
  | .array items => by
      rw [print, List.forall_mem_cons]
      exact ⟨prints.signs '[' (by decide), List.forall_mem_append.mpr ⟨printItems_chars items,
        List.forall_mem_singleton.mpr (prints.signs ']' (by decide))⟩⟩
  | .object fields => by
      rw [print, List.forall_mem_cons]
      exact ⟨prints.signs '\x7b' (by decide), List.forall_mem_append.mpr ⟨printFields_chars fields,
        List.forall_mem_singleton.mpr (prints.signs '\x7d' (by decide))⟩⟩

theorem printItems_chars :
    (items : List (JsonTree Numeral)) → ∀ char ∈ style.printItems items, holds char
  | [] => fun _ inside => absurd inside List.not_mem_nil
  | [item] => print_chars item
  | item :: next :: others => by
      rw [printItems_cons, List.forall_mem_append, List.forall_mem_cons, List.forall_mem_append]
      exact ⟨print_chars item, prints.signs ',' (by decide), gap_chars prints,
        printItems_chars (next :: others)⟩

theorem printFields_chars :
    (fields : List (String × JsonTree Numeral)) → ∀ char ∈ style.printFields fields, holds char
  | [] => fun _ inside => absurd inside List.not_mem_nil
  | [(key, value)] => by
      rw [printFields, List.forall_mem_append, List.forall_mem_cons, List.forall_mem_append]
      exact ⟨quote_chars prints key, prints.signs ':' (by decide), gap_chars prints,
        print_chars value⟩
  | (key, value) :: next :: others => by
      rw [printFields_cons, List.forall_mem_append, List.forall_mem_cons, List.forall_mem_append,
        List.forall_mem_append, List.forall_mem_cons, List.forall_mem_append]
      exact ⟨quote_chars prints key, prints.signs ':' (by decide), gap_chars prints,
        print_chars value, prints.signs ',' (by decide), gap_chars prints,
        printFields_chars (next :: others)⟩

end

end Characters

end JsonStyle

end Text
