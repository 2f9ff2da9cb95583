/-
This file gives what a `jsonb` column keeps of a document.
-/

import Sprawl.Audit.Chain

namespace Sprawl

/-- A `numeric` has neither an exponent nor a negative zero, and a number without a point is read
back as an integer. -/
def PyFloat.stored (value : PyFloat) : Json :=
  if 16 < value.point then
    let magnitude : Nat := value.significand * Nat.pow 10 value.exponent.toNat
    .int (if value.negative then -magnitude else magnitude)
  else .float { value with negative := value.negative && value.significand ≠ 0 }

/-- A float below ten quadrillion other than the negative zero is read back as it was. -/
def PyFloat.survives (value : PyFloat) : Bool :=
  value.point ≤ 16 && !(value.negative && value.significand = 0)

/-- The fields of a `jsonb` object are ordered by the length of their keys, then by the keys. -/
def byKeyLength (first second : String × Json) : Prop :=
  first.1.utf8ByteSize < second.1.utf8ByteSize ∨
    first.1.utf8ByteSize = second.1.utf8ByteSize ∧ first.1 ≤ second.1

instance : DecidableRel byKeyLength := fun _ _ => inferInstanceAs (Decidable (_ ∨ _ ∧ _))

/-- The order of the keys alone. -/
def byName (first second : String × Json) : Prop := first.1 ≤ second.1

instance : DecidableRel byName := fun first second => inferInstanceAs (Decidable (first.1 ≤ second.1))

mutual

/-- A document as a `jsonb` column gives it back. -/
def jsonb : Json → Json
  | .null => .null
  | .bool value => .bool value
  | .int value => .int value
  | .float value => value.stored
  | .str value => .str value
  | .arr items => .arr (jsonbItems items)
  | .obj fields => .obj ((jsonbFields fields).insertionSort byKeyLength)

def jsonbItems : List Json → List Json
  | [] => []
  | item :: rest => jsonb item :: jsonbItems rest

def jsonbFields : List (String × Json) → List (String × Json)
  | [] => []
  | (key, value) :: rest => (key, jsonb value) :: jsonbFields rest

end

mutual

/-- No object of the document has a key twice. -/
def Json.KeysDistinct : Json → Prop
  | .null | .bool _ | .int _ | .float _ | .str _ => True
  | .arr items => KeysDistinctItems items
  | .obj fields => (fields.map (·.1)).Nodup ∧ KeysDistinctFields fields

def KeysDistinctItems : List Json → Prop
  | [] => True
  | item :: rest => item.KeysDistinct ∧ KeysDistinctItems rest

def KeysDistinctFields : List (String × Json) → Prop
  | [] => True
  | (_, value) :: rest => value.KeysDistinct ∧ KeysDistinctFields rest

end

/-- A dictionary whose keys are texts has each of them once. -/
structure JsonDict where
  fields : List (String × Json)
  distinct : (Json.obj fields).KeysDistinct

/-- A dictionary as a JSON value. An absent dictionary is `null`. -/
def Json.dict (given : Option JsonDict) : Json := .optional (fun dict => .obj dict.fields) given

end Sprawl
