/-
This file gives tables whose rows refer to rows of other tables.
-/

import Mathlib.Data.List.Nodup

namespace Referential

/-- This says what becomes of a row when the row that it refers to is deleted. -/
inductive OnDelete where
  | noAction
  | cascade
  | setNull
  deriving DecidableEq, Repr

/-- A foreign key is a column that holds the key of a row of the parent table. -/
structure Reference (Table Column : Type) where
  column : Column
  parent : Table
  onDelete : OnDelete
  required : Bool
  deriving DecidableEq, Repr

/-- The tables stand in an order in which every table refers to earlier tables only. -/
structure Schema (Table Column : Type) [DecidableEq Table] where
  tables : List Table
  references : Table → List (Reference Table Column)
  complete : ∀ table, table ∈ tables
  earlier : ∀ table, ∀ reference ∈ references table,
    tables.idxOf reference.parent < tables.idxOf table
  nullable : ∀ table, ∀ emptied ∈ references table, emptied.onDelete = .setNull →
    ∀ reference ∈ references table, reference.column = emptied.column → reference.required = false

/-- A row has a key, the keys that its columns refer to, and the rest of its columns. -/
structure Row (Key Column Content : Type) where
  id : Key
  reference : Column → Option Key
  content : Content

/-- The rows of all tables, with unique keys and every foreign key enforced. -/
structure Database {Table Column : Type} [DecidableEq Table] (schema : Schema Table Column)
    (Key : Type) (Content : Table → Type) where
  rows : (table : Table) → List (Row Key Column (Content table))
  unique : ∀ table, ((rows table).map Row.id).Nodup
  present : ∀ table, ∀ row ∈ rows table, ∀ reference ∈ schema.references table,
    reference.required = true → (row.reference reference.column).isSome = true
  resolved : ∀ table, ∀ row ∈ rows table, ∀ reference ∈ schema.references table, ∀ key,
    row.reference reference.column = some key → ∃ parent ∈ rows reference.parent, parent.id = key

variable {Table Column : Type} [DecidableEq Table] {schema : Schema Table Column}
  {Key : Type} {Content : Table → Type}

/-- A key names one row of its table. -/
theorem Database.row_unique (database : Database schema Key Content) {table : Table}
    {first second : Row Key Column (Content table)} (firstStored : first ∈ database.rows table)
    (secondStored : second ∈ database.rows table) (sameKey : first.id = second.id) :
    first = second :=
  List.inj_on_of_nodup_map (database.unique table) firstStored secondStored sameKey

end Referential
