/-
This file gives the Python dictionaries that an audit entry is made of, with the texts that
`json.dumps` writes for them.
-/

import Sprawl.Audit.Jsonb
import Sprawl.Numeric.Rounding

namespace Sprawl

/-- The double next to the decimal. It has 53 bits and no exponent below -1074. -/
def PyFloat.exact (value : PyFloat) : Rat :=
  let decimal : Rat := value.significand * (10 : Rat) ^ value.exponent
  let unit : Rat := (2 : Rat) ^ max (Int.log 2 decimal - 52) (-1074)
  let magnitude : Rat := Numeric.roundHalfEven (decimal / unit) * unit
  if value.negative then -magnitude else magnitude

/-- A key that `json.dumps` accepts. NaN is left out, since it has no place among other keys. -/
inductive PyKey where
  | null
  | bool (value : Bool)
  | int (value : Int)
  | float (value : PyFloat)
  | infinity (negative : Bool)
  | str (value : String)

namespace PyKey

/-- A key is written as a text. -/
def text : PyKey → String
  | .null => "null"
  | .bool value => if value then "true" else "false"
  | .int value => toString value
  | .float value => value.repr
  | .infinity negative => if negative then "-Infinity" else "Infinity"
  | .str value => value

def isStr : PyKey → Bool
  | .str _ => true
  | _ => false

def isNumber : PyKey → Bool
  | .null | .str _ => false
  | _ => true

/-- The number that a key is compared by. -/
def number : PyKey → WithBot (WithTop Rat)
  | .bool value => .some (.some (if value then 1 else 0))
  | .int value => .some (.some value)
  | .float value => .some (.some value.exact)
  | .infinity negative => if negative then ⊥ else .some ⊤
  | .null | .str _ => .some (.some 0)

/-- Texts are compared by their code points and other keys by their numbers. -/
def le : PyKey → PyKey → Bool
  | .str first, .str second => first ≤ second
  | first, second => first.number ≤ second.number

/-- Python compares the keys of a dictionary with one another. Other dictionaries cannot be sorted. -/
def Comparable (keys : List PyKey) : Prop :=
  (∀ key ∈ keys, key.isStr = true) ∨ (∀ key ∈ keys, key.isNumber = true) ∨ keys.length ≤ 1

/-- The sorted keys are in the order of their texts. -/
def sortedByText (keys : List PyKey) : Bool :=
  (keys.insertionSort (le · ·)).map text = (keys.map text).insertionSort (· ≤ ·)

/-- Numbers are not sorted like their texts. -/
example : sortedByText [.int 2, .int 10] = false := by decide

end PyKey

/-- A value that `json.dumps` can write. -/
inductive PyValue where
  | null
  | bool (value : Bool)
  | int (value : Int)
  | float (value : PyFloat)
  | str (value : String)
  | arr (items : List PyValue)
  | dict (fields : List (PyKey × PyValue))

section Values

mutual

/-- The JSON value of a Python value. -/
def PyValue.json : PyValue → Json
  | .null => .null
  | .bool value => .bool value
  | .int value => .int value
  | .float value => .float value
  | .str value => .str value
  | .arr items => .arr (pyItems items)
  | .dict fields => .obj (pyFields fields)

def pyItems : List PyValue → List Json
  | [] => []
  | item :: rest => item.json :: pyItems rest

def pyFields : List (PyKey × PyValue) → List (String × Json)
  | [] => []
  | (key, value) :: rest => (key.text, value.json) :: pyFields rest

end

/-- `sort_keys=True` -/
def byPyKey {α : Type} (first second : PyKey × α) : Prop :=
  first.1.le second.1 = true

instance {α : Type} : DecidableRel (@byPyKey α) := fun first second =>
  inferInstanceAs (Decidable (first.1.le second.1 = true))

mutual

/-- This is `_canonical_json`. It sorts the keys before they are texts. -/
def PyValue.canonical : PyValue → String
  | .null => "null"
  | .bool value => if value then "true" else "false"
  | .int value => toString value
  | .float value => value.repr
  | .str value => quoteString value
  | .arr items => "[" ++ String.intercalate "," (pyCanonicalItems items) ++ "]"
  | .dict fields =>
      "\x7b" ++ String.intercalate ","
        (((pyCanonicalFields fields).insertionSort byPyKey).map fun field =>
          quoteString field.1.text ++ ":" ++ field.2) ++ "\x7d"

def pyCanonicalItems : List PyValue → List String
  | [] => []
  | item :: rest => item.canonical :: pyCanonicalItems rest

def pyCanonicalFields : List (PyKey × PyValue) → List (PyKey × String)
  | [] => []
  | (key, value) :: rest => (key, value.canonical) :: pyCanonicalFields rest

end

mutual

/-- The keys of each dictionary can be sorted, and their texts differ. -/
def PyValue.Sortable : PyValue → Prop
  | .null | .bool _ | .int _ | .float _ | .str _ => True
  | .arr items => SortableItems items
  | .dict fields =>
      PyKey.Comparable (fields.map (·.1)) ∧ (fields.map (·.1.text)).Nodup ∧ SortableFields fields

def SortableItems : List PyValue → Prop
  | [] => True
  | item :: rest => item.Sortable ∧ SortableItems rest

def SortableFields : List (PyKey × PyValue) → Prop
  | [] => True
  | (_, value) :: rest => value.Sortable ∧ SortableFields rest

end

mutual

/-- A `jsonb` column keeps the floats of the value, and its keys are sorted like their texts. -/
def PyValue.kept : PyValue → Bool
  | .null | .bool _ | .int _ | .str _ => true
  | .float value => value.survives
  | .arr items => keptItems items
  | .dict fields => PyKey.sortedByText (fields.map (·.1)) && keptFields fields

def keptItems : List PyValue → Bool
  | [] => true
  | item :: rest => item.kept && keptItems rest

def keptFields : List (PyKey × PyValue) → Bool
  | [] => true
  | (_, value) :: rest => value.kept && keptFields rest

end

end Values

/-- A dictionary that `json.dumps` can sort. Other ones raise a `TypeError`. -/
structure PyDict where
  fields : List (PyKey × PyValue)
  sortable : (PyValue.dict fields).Sortable

def PyDict.value (dict : PyDict) : PyValue := .dict dict.fields

/-- An absent dictionary is `None`. -/
def PyValue.given (given : Option PyDict) : PyValue := given.elim .null PyDict.value

section Documents

mutual

/-- A JSON value as Python reads it. Its keys are texts. -/
def Json.py : Json → PyValue
  | .null => .null
  | .bool value => .bool value
  | .int value => .int value
  | .float value => .float value
  | .str value => .str value
  | .arr items => .arr (itemsPy items)
  | .obj fields => .dict (fieldsPy fields)

def itemsPy : List Json → List PyValue
  | [] => []
  | item :: rest => item.py :: itemsPy rest

def fieldsPy : List (String × Json) → List (PyKey × PyValue)
  | [] => []
  | (key, value) :: rest => (.str key, value.py) :: fieldsPy rest

end

theorem fieldsPy_texts (fields : List (String × Json)) :
    (fieldsPy fields).map (·.1.text) = fields.map (·.1) := by
  induction fields with
  | nil => rfl
  | cons field rest ih => rw [fieldsPy, List.map_cons, List.map_cons, ih, PyKey.text]

theorem fieldsPy_isStr (fields : List (String × Json)) :
    ∀ key ∈ (fieldsPy fields).map (·.1), key.isStr = true := by
  induction fields with
  | nil => simp [fieldsPy]
  | cons field rest ih =>
      rw [fieldsPy, List.map_cons, List.forall_mem_cons]
      exact ⟨rfl, ih⟩

mutual

theorem Json.py_sortable : (value : Json) → value.KeysDistinct → value.py.Sortable
  | .null, _ | .bool _, _ | .int _, _ | .float _, _ | .str _, _ => trivial
  | .arr items, distinct => itemsPy_sortable items distinct
  | .obj fields, distinct =>
      ⟨Or.inl (fieldsPy_isStr fields), (fieldsPy_texts fields).symm ▸ distinct.1,
        fieldsPy_sortable fields distinct.2⟩

theorem itemsPy_sortable : (items : List Json) → KeysDistinctItems items →
    SortableItems (itemsPy items)
  | [], _ => trivial
  | item :: rest, distinct => ⟨item.py_sortable distinct.1, itemsPy_sortable rest distinct.2⟩

theorem fieldsPy_sortable : (fields : List (String × Json)) → KeysDistinctFields fields →
    SortableFields (fieldsPy fields)
  | [], _ => trivial
  | (_, value) :: rest, distinct =>
      ⟨value.py_sortable distinct.1, fieldsPy_sortable rest distinct.2⟩

end

/-- A dictionary with text keys. -/
def JsonDict.py (dict : JsonDict) : PyDict where
  fields := fieldsPy dict.fields
  sortable := Json.py_sortable (.obj dict.fields) dict.distinct

end Documents

end Sprawl
