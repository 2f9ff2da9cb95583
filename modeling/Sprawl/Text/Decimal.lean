/-
This file gives the decimal texts of integers and their reading.
-/

import Mathlib.Data.List.Basic

namespace Text

/-- The digits of a text. Single underscores may stand between them. -/
def digitsOf : List Char → Option (List Char)
  | [] => none
  | [char] => if char.isDigit then some [char] else none
  | char :: '_' :: rest => if char.isDigit then (digitsOf rest).map (char :: ·) else none
  | char :: rest => if char.isDigit then (digitsOf rest).map (char :: ·) else none

/-- The zeros of the decimal digits outside ASCII, by Unicode 15. Nine digits follow each of them. -/
def digitZeros : List Nat :=
  [0x0660, 0x06f0, 0x07c0, 0x0966, 0x09e6, 0x0a66, 0x0ae6, 0x0b66, 0x0be6, 0x0c66, 0x0ce6, 0x0d66,
    0x0de6, 0x0e50, 0x0ed0, 0x0f20, 0x1040, 0x1090, 0x17e0, 0x1810, 0x1946, 0x19d0, 0x1a80,
    0x1a90, 0x1b50, 0x1bb0, 0x1c40, 0x1c50, 0xa620, 0xa8d0, 0xa900, 0xa9d0, 0xa9f0, 0xaa50,
    0xabf0, 0xff10, 0x104a0, 0x10d30, 0x11066, 0x110f0, 0x11136, 0x111d0, 0x112f0, 0x11450,
    0x114d0, 0x11650, 0x116c0, 0x11730, 0x118e0, 0x11950, 0x11c50, 0x11d50, 0x11da0, 0x11f50,
    0x16a60, 0x16ac0, 0x16b50, 0x1d7ce, 0x1d7d8, 0x1d7e2, 0x1d7ec, 0x1d7f6, 0x1e140, 0x1e2f0,
    0x1e4f0, 0x1e950, 0x1fbf0]

/-- White space outside ASCII. -/
def isWideSpace (char : Char) : Bool :=
  [0x85, 0xa0, 0x1680, 0x2028, 0x2029, 0x202f, 0x205f, 0x3000].contains char.toNat ||
    (0x2000 ≤ char.toNat && char.toNat ≤ 0x200a)

/-- The ASCII character that stands for a character in a number. -/
def asciiChar? (char : Char) : Option Char :=
  if char.toNat < 127 then some char
  else if isWideSpace char then some ' '
  else
    (digitZeros.find? fun start => start ≤ char.toNat && char.toNat < start + 10).map fun start =>
      Nat.digitChar (char.toNat - start)

def asciiText? (text : List Char) : Option (List Char) := text.mapM asciiChar?

/-- White space of ASCII. -/
def isSpace (char : Char) : Bool := char.isWhitespace || char = '\x0b' || char = '\x0c'

def stripped (text : List Char) : List Char :=
  ((text.dropWhile isSpace).reverse.dropWhile isSpace).reverse

/-- An integer of ASCII with an optional sign, between white space. -/
def readAscii (text : List Char) : Option Int :=
  match stripped text with
  | '-' :: digits => (digitsOf digits).map fun digits => -(Nat.ofDigitChars 10 digits 0 : Int)
  | '+' :: digits => (digitsOf digits).map fun digits => (Nat.ofDigitChars 10 digits 0 : Int)
  | digits => (digitsOf digits).map fun digits => (Nat.ofDigitChars 10 digits 0 : Int)

/-- An integer whose digits and blanks may stand outside ASCII. -/
def readDecimal (text : List Char) : Option Int := (asciiText? text).bind readAscii

theorem digitsOf_digits {digits : List Char} (all : ∀ char ∈ digits, char.isDigit = true)
    (some_digit : digits ≠ []) : digitsOf digits = some digits := by
  induction digits with
  | nil => exact absurd rfl some_digit
  | cons char rest ih =>
      rw [List.forall_mem_cons] at all
      cases rest with
      | nil => simp [digitsOf, all.1]
      | cons next later =>
          have digit : next.isDigit = true := all.2 next List.mem_cons_self
          have other : next ≠ '_' := by
            rintro rfl
            exact absurd digit (by decide)
          rw [digitsOf.eq_4 _ _ (by simp) (by simp [other]), if_pos all.1,
            ih all.2 (List.cons_ne_nil _ _)]
          rfl

theorem stripped_eq_self {text : List Char} (none : ∀ char ∈ text, isSpace char = false) :
    stripped text = text := by
  have whole (part : List Char) (inside : ∀ char ∈ part, isSpace char = false) :
      part.dropWhile isSpace = part := by
    cases part with
    | nil => rfl
    | cons char rest => simp [inside char List.mem_cons_self]
  rw [stripped, whole text none, whole, List.reverse_reverse]
  exact fun char inside => none char (List.mem_reverse.mp inside)

theorem isSpace_of_isDigit {char : Char} (digit : char.isDigit = true) : isSpace char = false := by
  rw [← Bool.not_eq_true]
  intro space
  simp only [isSpace, Char.isWhitespace, Bool.or_eq_true, decide_eq_true_eq] at space
  rcases space with (((((rfl | rfl) | rfl) | rfl) | rfl) | rfl) <;> exact absurd digit (by decide)

theorem asciiText?_digits {digits : List Char} (all : ∀ char ∈ digits, char.isDigit = true) :
    asciiText? digits = some digits := by
  induction digits with
  | nil => rfl
  | cons char rest ih =>
      rw [List.forall_mem_cons] at all
      have small : char.toNat < 127 := by
        have range : 48 ≤ char.toNat ∧ char.toNat ≤ 57 := Char.isDigit_iff_toNat.mp all.1
        omega
      have same : asciiChar? char = some char := if_pos small
      have later : rest.mapM asciiChar? = some rest := ih all.2
      rw [asciiText?, List.mapM_cons, same, later]
      rfl

/-- A text of digits is read as their number. -/
theorem readDecimal_digits {digits : List Char} (all : ∀ char ∈ digits, char.isDigit = true)
    (some_digit : digits ≠ []) :
    readDecimal digits = some (Nat.ofDigitChars 10 digits 0 : Int) := by
  have unsigned (sign : Char) (other : sign.isDigit = false) (rest : List Char) :
      digits ≠ sign :: rest := by
    rintro rfl
    exact absurd (all sign List.mem_cons_self) (by simp [other])
  rw [readDecimal, asciiText?_digits all, Option.bind_some, readAscii,
    stripped_eq_self fun char inside => isSpace_of_isDigit (all char inside)]
  split
  · exact absurd rfl (unsigned '-' (by decide) _)
  · exact absurd rfl (unsigned '+' (by decide) _)
  · rw [digitsOf_digits all some_digit]
    rfl

/-- The text of a number is read as the number. -/
theorem readDecimal_toString (number : Nat) :
    readDecimal (toString number).toList = some (number : Int) := by
  have digits : (toString number).toList = Nat.toDigits 10 number := Nat.toList_repr
  have all : ∀ char ∈ Nat.toDigits 10 number, char.isDigit = true :=
    fun _ inside => Nat.isDigit_of_mem_toDigits (by decide) (by decide) inside
  rw [digits, readDecimal_digits all Nat.toDigits_ne_nil, Nat.ofDigitChars_ten_toDigits]

end Text
