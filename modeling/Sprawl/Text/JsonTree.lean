/-
This file gives the trees of JSON texts, with a printer and a reader.
-/

import Mathlib.Data.List.TakeWhile
import Sprawl.Text.Stopping

namespace Text

section Numerals

def isDigits (text : List Char) : Bool := !text.isEmpty && text.all Char.isDigit

/-- The digits before a point have no leading zero. -/
def isWhole : List Char → Bool
  | '0' :: rest => rest.isEmpty
  | text => isDigits text

def isExponent : List Char → Bool
  | [] => true
  | mark :: sign :: rest =>
      (mark = 'e' || mark = 'E') &&
        if sign = '+' || sign = '-' then isDigits rest else isDigits (sign :: rest)
  | [_] => false

def isFraction : List Char → Bool
  | '.' :: rest =>
      isDigits (rest.takeWhile Char.isDigit) && isExponent (rest.dropWhile Char.isDigit)
  | text => isExponent text

def isUnsigned (text : List Char) : Bool :=
  isWhole (text.takeWhile Char.isDigit) && isFraction (text.dropWhile Char.isDigit)

/-- The text is a number of the JSON grammar. -/
def isNumeral : List Char → Bool
  | '-' :: rest => isUnsigned rest
  | text => isUnsigned text

/-- A number keeps its text. -/
structure Numeral where
  text : List Char
  valid : isNumeral text = true
  deriving DecidableEq

/-- A character that may stand in a number. -/
def isNumeralChar (char : Char) : Bool :=
  char.isDigit || char = '-' || char = '+' || char = '.' || char = 'e' || char = 'E'

end Numerals

/-- A JSON value whose numbers and whose texts have some type. -/
inductive JsonTree (ν : Type) (τ : Type := String) where
  | null
  | bool (value : Bool)
  | number (value : ν)
  | string (text : τ)
  | array (items : List (JsonTree ν τ))
  | object (fields : List (τ × JsonTree ν τ))

section Objects

variable {τ α : Type} [DecidableEq τ]

/-- A pair takes the place of the one that has its key. -/
def setField (key : τ) (value : α) : List (τ × α) → List (τ × α)
  | [] => [(key, value)]
  | field :: rest =>
      if field.1 = key then (key, value) :: rest else field :: setField key value rest

/-- The fields of an object. A later pair with the same key wins. -/
def objectOf (pairs : List (τ × α)) : List (τ × α) :=
  pairs.foldl (fun fields pair => setField pair.1 pair.2 fields) []

/-- A property of an object. Other values have none. -/
def JsonTree.field? {ν : Type} (key : τ) : JsonTree ν τ → Option (JsonTree ν τ)
  | .object fields => fields.lookup key
  | _ => none

end Objects

section Texts

variable {ν τ σ : Type} (text : τ → σ)

mutual

/-- The same value with other texts. -/
def JsonTree.mapText : JsonTree ν τ → JsonTree ν σ
  | .null => .null
  | .bool value => .bool value
  | .number value => .number value
  | .string content => .string (text content)
  | .array items => .array (mapItems items)
  | .object fields => .object (mapFields fields)

def mapItems : List (JsonTree ν τ) → List (JsonTree ν σ)
  | [] => []
  | item :: rest => item.mapText :: mapItems rest

def mapFields : List (τ × JsonTree ν τ) → List (σ × JsonTree ν σ)
  | [] => []
  | (key, field) :: rest => (text key, field.mapText) :: mapFields rest

end

end Texts

section Evaluation

variable {ν τ : Type} [DecidableEq τ] (number : Numeral → ν)

mutual

/-- The value of a text, by the values of its numbers. -/
def JsonTree.value : JsonTree Numeral τ → JsonTree ν τ
  | .null => .null
  | .bool value => .bool value
  | .number numeral => .number (number numeral)
  | .string text => .string text
  | .array items => .array (itemValues items)
  | .object fields => .object (objectOf (fieldValues fields))

def itemValues : List (JsonTree Numeral τ) → List (JsonTree ν τ)
  | [] => []
  | item :: rest => item.value :: itemValues rest

def fieldValues : List (τ × JsonTree Numeral τ) → List (τ × JsonTree ν τ)
  | [] => []
  | (key, field) :: rest => (key, field.value) :: fieldValues rest

end

end Evaluation

/-- The characters of a string have codes, and blanks follow the separators. -/
structure JsonStyle where
  escape : Char → List Char
  gap : List Char
  unquoted : ∀ char, ∃ head rest, escape char = head :: rest ∧ head ≠ '"'
  blank : ∀ char ∈ gap, char = ' '

/-- The points of a text. -/
def pointsOf {π : Type} (point : Char → π) (text : String) : List π := text.toList.map point

namespace JsonStyle

variable (style : JsonStyle)

/-- The code of a character is read as its point. -/
def Reads {π : Type} (read : List Char → Option (π × List Char)) (point : Char → π) : Prop :=
  ∀ char rest, read (style.escape char ++ rest) = some (point char, rest)

def quote (text : String) : List Char := '"' :: (text.toList.flatMap style.escape ++ ['"'])

mutual

def print : JsonTree Numeral → List Char
  | .null => ['n', 'u', 'l', 'l']
  | .bool true => ['t', 'r', 'u', 'e']
  | .bool false => ['f', 'a', 'l', 's', 'e']
  | .number numeral => numeral.text
  | .string text => style.quote text
  | .array items => '[' :: (printItems items ++ [']'])
  | .object fields => '\x7b' :: (printFields fields ++ ['\x7d'])

def printItems : List (JsonTree Numeral) → List Char
  | [] => []
  | [item] => print item
  | item :: rest => print item ++ ',' :: (style.gap ++ printItems rest)

def printFields : List (String × JsonTree Numeral) → List Char
  | [] => []
  | [(key, value)] => style.quote key ++ ':' :: (style.gap ++ print value)
  | (key, value) :: rest =>
      style.quote key ++ ':' :: (style.gap ++ (print value ++ ',' :: (style.gap ++ printFields rest)))

end

end JsonStyle

section Reader

def isJsonBlank (char : Char) : Bool := char = ' ' || char = '\t' || char = '\n' || char = '\r'

def skipBlanks (text : List Char) : List Char := text.dropWhile isJsonBlank

section Atoms

variable {τ : Type}

def readNumeral (text : List Char) : Option (JsonTree Numeral τ × List Char) :=
  let token := text.takeWhile isNumeralChar
  if valid : isNumeral token then
    some (.number ⟨token, valid⟩, text.dropWhile isNumeralChar)
  else none

/-- A word or a number. -/
def readAtom : List Char → Option (JsonTree Numeral τ × List Char)
  | 'n' :: 'u' :: 'l' :: 'l' :: rest => some (.null, rest)
  | 't' :: 'r' :: 'u' :: 'e' :: rest => some (.bool true, rest)
  | 'f' :: 'a' :: 'l' :: 's' :: 'e' :: rest => some (.bool false, rest)
  | text => readNumeral text

end Atoms

variable {π : Type} (read : List Char → Option (π × List Char))

/-- The points up to the closing quote. -/
def readChars : Nat → List Char → Option (List π × List Char)
  | 0, _ => none
  | fuel + 1, text =>
      if text.head? = some '"' then some ([], text.tail)
      else do
        let (point, rest) ← read text
        let (points, rest) ← readChars fuel rest
        return (point :: points, rest)

/-- A string between quotes. -/
def readString (fuel : Nat) (text : List Char) : Option (List π × List Char) := do
  guard (text.head? = some '"')
  readChars read fuel text.tail

mutual

/-- The fuel is at least the length of the text. -/
def readValue : Nat → List Char → Option (JsonTree Numeral (List π) × List Char)
  | 0, _ => none
  | fuel + 1, text =>
      let text := skipBlanks text
      if text.head? = some '"' then do
        let (value, rest) ← readString read fuel text
        return (.string value, rest)
      else if text.head? = some '[' then
        let inner := skipBlanks text.tail
        if inner.head? = some ']' then some (.array [], inner.tail)
        else do
          let (items, rest) ← readItems fuel inner
          return (.array items, rest)
      else if text.head? = some '\x7b' then
        let inner := skipBlanks text.tail
        if inner.head? = some '\x7d' then some (.object [], inner.tail)
        else do
          let (fields, rest) ← readFields fuel inner
          return (.object fields, rest)
      else readAtom text

/-- Items up to the closing bracket. -/
def readItems : Nat → List Char → Option (List (JsonTree Numeral (List π)) × List Char)
  | 0, _ => none
  | fuel + 1, text => do
      let (item, rest) ← readValue fuel text
      let rest := skipBlanks rest
      if rest.head? = some ']' then return ([item], rest.tail)
      else do
        guard (rest.head? = some ',')
        let (items, rest) ← readItems fuel rest.tail
        return (item :: items, rest)

/-- Fields up to the closing brace. -/
def readFields : Nat → List Char →
    Option (List (List π × JsonTree Numeral (List π)) × List Char)
  | 0, _ => none
  | fuel + 1, text => do
      let (key, rest) ← readString read fuel (skipBlanks text)
      let rest := skipBlanks rest
      guard (rest.head? = some ':')
      let (value, rest) ← readValue fuel rest.tail
      let rest := skipBlanks rest
      if rest.head? = some '\x7d' then return ([(key, value)], rest.tail)
      else do
        guard (rest.head? = some ',')
        let (fields, rest) ← readFields fuel rest.tail
        return ((key, value) :: fields, rest)

end

/-- The whole text is one value between blanks. -/
def readTree (text : List Char) : Option (JsonTree Numeral (List π)) := do
  let (tree, rest) ← readValue read (text.length + 1) text
  guard (skipBlanks rest).isEmpty
  return tree

end Reader

end Text
