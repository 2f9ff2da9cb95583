/-
This file gives the hash chain that the api appends its audit entries to.
-/

import Sprawl.Rotation.Rows

namespace Sprawl

/-- This is the digest that `hashlib.sha256` computes, in hexadecimal. -/
class Sha256 where
  hexdigest : String → String

/-- A `\u` escape has four digits. -/
def unicodeEscape (code : Nat) : String :=
  "\\u" ++ String.ofList ((Nat.toDigits 16 code).leftpad 4 '0')

/-- `json.dumps` escapes everything outside the printable ASCII range, and astral characters as a
surrogate pair. -/
def escapeChar (char : Char) : String :=
  let code := char.toNat
  if code = 34 then "\\\""
  else if code = 92 then "\\\\"
  else if code = 10 then "\\n"
  else if code = 13 then "\\r"
  else if code = 9 then "\\t"
  else if code = 12 then "\\f"
  else if code = 8 then "\\b"
  else if 32 ≤ code ∧ code ≤ 126 then String.ofList [char]
  else if code < 0x10000 then unicodeEscape code
  else
    unicodeEscape (0xd800 + (code - 0x10000) / 0x400) ++
      unicodeEscape (0xdc00 + (code - 0x10000) % 0x400)

/-- A string between double quotes. -/
def quoteString (text : String) : String :=
  "\"" ++ String.join (text.toList.map escapeChar) ++ "\""

/-- The first digit, a point before the other digits, and an exponent of two digits or more. -/
def scientific (digits : List Char) (exponent : Int) : List Char :=
  digits.take 1 ++ (if digits.length = 1 then [] else '.' :: digits.drop 1) ++
    'e' :: (if exponent < 0 then '-' else '+') ::
      (Nat.toDigits 10 exponent.natAbs).leftpad 2 '0'

/-- The decimal point stands after this number of digits. -/
def PyFloat.point (value : PyFloat) : Int :=
  (Nat.toDigits 10 value.significand).length + value.exponent

/-- The digits of a float with a point. Very small and very large floats have an exponent. -/
def PyFloat.digits (value : PyFloat) : List Char :=
  let digits := Nat.toDigits 10 value.significand
  if value.point ≤ -4 ∨ 16 < value.point then scientific digits (value.point - 1)
  else if value.point ≤ 0 then
    '0' :: '.' :: (List.replicate (-value.point).toNat '0' ++ digits)
  else if value.point < digits.length then
    digits.take value.point.toNat ++ '.' :: digits.drop value.point.toNat
  else digits ++ List.replicate value.exponent.toNat '0' ++ ['.', '0']

/-- This is `float.__repr__`. -/
def PyFloat.repr (value : PyFloat) : String :=
  (if value.negative then "-" else "") ++ String.ofList value.digits

/-- `sort_keys=True` -/
def byKey (first second : String × String) : Prop := first.1 ≤ second.1

instance : DecidableRel byKey := fun first second => inferInstanceAs (Decidable (first.1 ≤ second.1))

mutual

/-- This is `_canonical_json`. It is compact and its keys are sorted. -/
def canonicalJson : Json → String
  | .null => "null"
  | .bool value => if value then "true" else "false"
  | .int value => toString value
  | .float value => value.repr
  | .str value => quoteString value
  | .arr items => "[" ++ String.intercalate "," (canonicalItems items) ++ "]"
  | .obj fields =>
      "\x7b" ++ String.intercalate ","
        (((canonicalFields fields).insertionSort byKey).map fun field =>
          quoteString field.1 ++ ":" ++ field.2) ++ "\x7d"

def canonicalItems : List Json → List String
  | [] => []
  | item :: rest => canonicalJson item :: canonicalItems rest

def canonicalFields : List (String × Json) → List (String × String)
  | [] => []
  | (key, value) :: rest => (key, canonicalJson value) :: canonicalFields rest

end

/-- The payload of an entry holds its columns and the time of its writer. -/
def AuditEntry.payload (entry : AuditEntry) (now : Time) : Json :=
  .obj
    [("workspace_id", .uuid entry.workspaceId),
      ("actor", .str entry.actor),
      ("action", .str entry.action),
      ("target_type", .optional .str entry.targetType),
      ("target_id", .optional .uuid entry.targetId),
      ("before", .optional .obj entry.before),
      ("after", .optional .obj entry.after),
      ("correlation_id", .optional .str entry.correlationId),
      ("created_at", .time now)]

/-- This is `_compute_hash`. -/
def computeHash [Sha256] (prevHash : String) (payload : Json) : String :=
  Sha256.hexdigest (prevHash ++ canonicalJson payload)

/-- The first entry of a workspace follows 64 zeros. -/
def genesisHash : String := String.ofList (List.replicate 64 '0')

/-- This is a row of `audit_log`. -/
structure AuditLog where
  id : Nat
  entry : AuditEntry
  prevHash : String
  hash : String
  createdAt : Time

/-- The hash of the latest row of a workspace. -/
def latestHash (workspaceId : Uuid) (log : List AuditLog) : String :=
  match ((log.filter (·.entry.workspaceId = workspaceId)).mergeSort fun first second =>
      decide (second.id ≤ first.id)).head? with
  | some row => if row.hash = "" then genesisHash else row.hash
  | none => genesisHash

/-- This is `audit`. It chains the new row to the latest one of its workspace. -/
def appendAudit [Sha256] (id : Nat) (now : Time) (entry : AuditEntry) (log : List AuditLog) :
    List AuditLog :=
  let prevHash := latestHash entry.workspaceId log
  log ++ [{ id, entry, prevHash, hash := computeHash prevHash (entry.payload now), createdAt := now }]

end Sprawl
