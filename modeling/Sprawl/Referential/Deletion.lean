/-
This file gives the deletion of rows under foreign keys.
-/

import Sprawl.Referential.Tables

namespace Referential

variable {Table Column : Type} [DecidableEq Table] {schema : Schema Table Column}
  {Key : Type} {Content : Table → Type} (database : Database schema Key Content)
  (chosen : (table : Table) → Row Key Column (Content table) → Bool)

/-- The doomed rows are the chosen ones and those with a cascading reference to a doomed row. -/
inductive Doomed : (table : Table) → Row Key Column (Content table) → Prop where
  | chosen {table : Table} {row : Row Key Column (Content table)} (isChosen : chosen table row = true) :
      Doomed table row
  | cascade {table : Table} {row : Row Key Column (Content table)}
      {reference : Reference Table Column}
      {parent : Row Key Column (Content reference.parent)}
      (declared : reference ∈ schema.references table) (cascades : reference.onDelete = .cascade)
      (stored : parent ∈ database.rows reference.parent)
      (refers : row.reference reference.column = some parent.id)
      (parentDoomed : Doomed reference.parent parent) : Doomed table row

variable [DecidableEq Key]

/-- A chain of cascades of at most this length dooms the row. -/
def doomedWithin : Nat → (table : Table) → Row Key Column (Content table) → Bool
  | 0, _, _ => false
  | length + 1, table, row =>
      chosen table row || (schema.references table).any fun reference =>
        reference.onDelete = .cascade && (database.rows reference.parent).any fun parent =>
          row.reference reference.column = some parent.id &&
            doomedWithin length reference.parent parent

/-- The position of a table bounds the chains that end in it. -/
def doomed (table : Table) (row : Row Key Column (Content table)) : Bool :=
  doomedWithin database chosen (schema.tables.idxOf table + 1) table row

theorem doomedWithin_sound {length : Nat} {table : Table} {row : Row Key Column (Content table)}
    (isDoomed : doomedWithin database chosen length table row = true) :
    Doomed database chosen table row := by
  induction length generalizing table row with
  | zero => cases isDoomed
  | succ length ih =>
      rw [doomedWithin, Bool.or_eq_true, List.any_eq_true] at isDoomed
      obtain isChosen | ⟨reference, declared, cascades⟩ := isDoomed
      · exact Doomed.chosen isChosen
      · rw [Bool.and_eq_true, decide_eq_true_eq, List.any_eq_true] at cascades
        obtain ⟨cascades, parent, stored, reached⟩ := cascades
        rw [Bool.and_eq_true, decide_eq_true_eq] at reached
        exact Doomed.cascade declared cascades stored reached.1 (ih reached.2)

theorem doomedWithin_mono {length longer : Nat} (within : length ≤ longer) {table : Table}
    {row : Row Key Column (Content table)}
    (isDoomed : doomedWithin database chosen length table row = true) :
    doomedWithin database chosen longer table row = true := by
  induction length generalizing longer table row with
  | zero => cases isDoomed
  | succ length ih =>
      obtain ⟨longer, rfl⟩ := Nat.exists_eq_add_one_of_ne_zero
        (Nat.ne_of_gt (Nat.lt_of_lt_of_le (Nat.succ_pos length) within))
      rw [doomedWithin, Bool.or_eq_true, List.any_eq_true] at isDoomed ⊢
      obtain isChosen | ⟨reference, declared, cascades⟩ := isDoomed
      · exact Or.inl isChosen
      · right
        refine ⟨reference, declared, ?_⟩
        rw [Bool.and_eq_true, List.any_eq_true] at cascades ⊢
        obtain ⟨cascades, parent, stored, reached⟩ := cascades
        rw [Bool.and_eq_true] at reached
        have deeper := ih (Nat.le_of_succ_le_succ within) reached.2
        exact ⟨cascades, parent, stored, Bool.and_eq_true_iff.mpr ⟨reached.1, deeper⟩⟩

theorem doomed_iff {table : Table} {row : Row Key Column (Content table)} :
    doomed database chosen table row = true ↔ Doomed database chosen table row := by
  constructor
  · exact doomedWithin_sound database chosen
  · intro isDoomed
    induction isDoomed with
    | chosen isChosen => rw [doomed, doomedWithin, isChosen, Bool.true_or]
    | @cascade _ _ reference parent declared cascades stored refers _ ih =>
        have deeper := doomedWithin_mono database chosen
          (Nat.succ_le_of_lt (schema.earlier _ _ declared)) ih
        rw [doomed, doomedWithin, Bool.or_eq_true, List.any_eq_true]
        right
        refine ⟨reference, declared, ?_⟩
        rw [Bool.and_eq_true, decide_eq_true_eq, List.any_eq_true]
        refine ⟨cascades, parent, stored, ?_⟩
        rw [Bool.and_eq_true, decide_eq_true_eq]
        exact ⟨refers, deeper⟩

/-- The row refers through this column to a doomed row. -/
def losesParent {table : Table} (row : Row Key Column (Content table))
    (reference : Reference Table Column) : Bool :=
  (database.rows reference.parent).any fun parent =>
    row.reference reference.column = some parent.id &&
      doomed database chosen reference.parent parent

theorem losesParent_iff {table : Table} {row : Row Key Column (Content table)}
    {reference : Reference Table Column} :
    losesParent database chosen row reference = true ↔
      ∃ parent ∈ database.rows reference.parent,
        row.reference reference.column = some parent.id ∧
          Doomed database chosen reference.parent parent := by
  simp only [losesParent, List.any_eq_true, Bool.and_eq_true, decide_eq_true_eq, doomed_iff]

def survivors (table : Table) : List (Row Key Column (Content table)) :=
  (database.rows table).filter fun row => !doomed database chosen table row

theorem mem_survivors {table : Table} {row : Row Key Column (Content table)} :
    row ∈ survivors database chosen table ↔
      row ∈ database.rows table ∧ ¬ Doomed database chosen table row := by
  rw [survivors, List.mem_filter, Bool.not_eq_true', ← Bool.not_eq_true, doomed_iff]

/-- A violation names the foreign key and the table that the missing row would be in. -/
structure Violation (Table Column : Type) where
  table : Table
  column : Column
  parent : Table
  deriving DecidableEq, Repr

/-- The references without an action that would be left without their row. -/
def violations : List (Violation Table Column) :=
  schema.tables.flatMap fun table =>
    (survivors database chosen table).flatMap fun row =>
      ((schema.references table).filter fun reference =>
        reference.onDelete = .noAction && losesParent database chosen row reference).map
          fun reference => ⟨table, reference.column, reference.parent⟩

theorem violations_nil_iff :
    violations database chosen = [] ↔
      ∀ table, ∀ row ∈ survivors database chosen table, ∀ reference ∈ schema.references table,
        reference.onDelete = .noAction → losesParent database chosen row reference = false := by
  simp only [violations, List.flatMap_eq_nil_iff, List.map_eq_nil_iff, List.filter_eq_nil_iff,
    Bool.and_eq_true, decide_eq_true_eq, not_and, Bool.not_eq_true]
  constructor
  · intro none table
    exact none table (schema.complete table)
  · intro none table _
    exact none table

variable [DecidableEq Column]

/-- A column is set to null when the row that it refers to goes. -/
def isNulled {table : Table} (row : Row Key Column (Content table)) (column : Column) : Bool :=
  (schema.references table).any fun reference =>
    reference.column = column && reference.onDelete = .setNull &&
      losesParent database chosen row reference

def nulled {table : Table} (row : Row Key Column (Content table)) : Row Key Column (Content table) :=
  { row with
    reference := fun column =>
      if isNulled database chosen row column then none else row.reference column }

theorem isNulled_iff {table : Table} {row : Row Key Column (Content table)} {column : Column} :
    isNulled database chosen row column = true ↔
      ∃ reference ∈ schema.references table, reference.column = column ∧
        reference.onDelete = .setNull ∧ losesParent database chosen row reference = true := by
  simp only [isNulled, List.any_eq_true, Bool.and_eq_true, decide_eq_true_eq, and_assoc]

@[simp] theorem nulled_id {table : Table} (row : Row Key Column (Content table)) :
    (nulled database chosen row).id = row.id := rfl

@[simp] theorem nulled_reference {table : Table} (row : Row Key Column (Content table))
    (column : Column) :
    (nulled database chosen row).reference column =
      if isNulled database chosen row column then none else row.reference column := rfl

theorem nulled_kept {table : Table} {row : Row Key Column (Content table)}
    (kept : ∀ reference ∈ schema.references table,
      losesParent database chosen row reference = false) :
    nulled database chosen row = row := by
  have none : ∀ column, isNulled database chosen row column = false := by
    intro column
    rw [← Bool.not_eq_true, isNulled_iff]
    intro given
    obtain ⟨reference, declared, _, _, loses⟩ := given
    cases loses.symm.trans (kept reference declared)
  simp only [nulled, none, Bool.false_eq_true, if_false]

/-- This is the database after a deletion that no reference forbids. -/
def afterDelete (clear : violations database chosen = []) : Database schema Key Content where
  rows table := (survivors database chosen table).map (nulled database chosen)
  unique table := by
    rw [List.map_map]
    exact (database.unique table).sublist (List.filter_sublist.map Row.id)
  present table row stored reference declared required := by
    obtain ⟨before, survives, rfl⟩ := List.mem_map.mp stored
    have wasPresent := database.present table before
      ((mem_survivors database chosen).mp survives).1 reference declared required
    rw [nulled_reference]
    split
    · rename_i isEmptied
      obtain ⟨emptied, emptiedDeclared, sameColumn, setsNull, _⟩ :=
        (isNulled_iff database chosen).mp isEmptied
      have notRequired := schema.nullable table emptied emptiedDeclared setsNull
        reference declared sameColumn.symm
      cases required.symm.trans notRequired
    · exact wasPresent
  resolved table row stored reference declared key refers := by
    obtain ⟨before, survives, rfl⟩ := List.mem_map.mp stored
    obtain ⟨wasStored, notDoomed⟩ := (mem_survivors database chosen).mp survives
    rw [nulled_reference] at refers
    split at refers
    · cases refers
    rename_i notNulled
    obtain ⟨parent, parentStored, rfl⟩ :=
      database.resolved table before wasStored reference declared key refers
    have parentKept : ¬ Doomed database chosen reference.parent parent := by
      intro parentDoomed
      have loses := (losesParent_iff database chosen).mpr
        ⟨parent, parentStored, refers, parentDoomed⟩
      cases action : reference.onDelete with
      | noAction =>
          have keeps := (violations_nil_iff database chosen).mp clear table before survives
            reference declared action
          cases loses.symm.trans keeps
      | cascade => exact notDoomed (Doomed.cascade declared action parentStored refers parentDoomed)
      | setNull =>
          exact notNulled ((isNulled_iff database chosen).mpr
            ⟨reference, declared, rfl, action, loses⟩)
    exact ⟨nulled database chosen parent,
      List.mem_map_of_mem ((mem_survivors database chosen).mpr ⟨parentStored, parentKept⟩), rfl⟩

/-- A deletion takes the doomed rows away, or fails and changes nothing. -/
def delete : Except (Violation Table Column) (Database schema Key Content) :=
  if clear : violations database chosen = [] then .ok (afterDelete database chosen clear)
  else .error ((violations database chosen).head clear)

theorem delete_ok {after : Database schema Key Content}
    (deleted : delete database chosen = .ok after) :
    violations database chosen = [] ∧
      ∀ table, after.rows table = (survivors database chosen table).map (nulled database chosen) := by
  rw [delete] at deleted
  split at deleted
  · rename_i clear
    cases deleted
    exact ⟨clear, fun table => rfl⟩
  · cases deleted

section Exact

variable (leaving : (table : Table) → Row Key Column (Content table) → Bool)

/-- No row that stays refers to a row that leaves. -/
def Separate : Prop :=
  ∀ table, ∀ row ∈ database.rows table, leaving table row = false →
    ∀ reference ∈ schema.references table, ∀ parent ∈ database.rows reference.parent,
      row.reference reference.column = some parent.id → leaving reference.parent parent = false

/-- The deletion takes these rows away and leaves every other row as it was. -/
def RemovesExactly : Prop :=
  ∃ after, delete database chosen = .ok after ∧
    ∀ table, after.rows table = (database.rows table).filter fun row => !leaving table row

variable {database chosen leaving}

omit [DecidableEq Key] [DecidableEq Column] in
/-- The cascades do not go beyond rows to which no other row refers. -/
theorem Doomed.leaves
    (includes : ∀ table, ∀ row ∈ database.rows table, chosen table row = true →
      leaving table row = true)
    (separate : Separate database leaving) {table : Table} {row : Row Key Column (Content table)}
    (isDoomed : Doomed database chosen table row) (stored : row ∈ database.rows table) :
    leaving table row = true := by
  induction isDoomed with
  | chosen isChosen => exact includes _ _ stored isChosen
  | cascade declared _ parentStored refers _ ih =>
      by_contra stays
      rw [Bool.not_eq_true] at stays
      have parentStays := separate _ _ stored stays _ declared _ parentStored refers
      cases (ih parentStored).symm.trans parentStays

/-- Where the leaving rows are doomed and separate, they are the ones that the deletion takes. -/
theorem removesExactly_of_separate
    (includes : ∀ table, ∀ row ∈ database.rows table, chosen table row = true →
      leaving table row = true)
    (reached : ∀ table, ∀ row ∈ database.rows table, leaving table row = true →
      Doomed database chosen table row)
    (separate : Separate database leaving) : RemovesExactly database chosen leaving := by
  have doomed_eq : ∀ table, ∀ row ∈ database.rows table,
      doomed database chosen table row = leaving table row := by
    intro table row stored
    rw [Bool.eq_iff_iff, doomed_iff]
    exact ⟨fun isDoomed => isDoomed.leaves includes separate stored, reached table row stored⟩
  have staying : ∀ table, survivors database chosen table =
      (database.rows table).filter fun row => !leaving table row := by
    intro table
    apply List.filter_congr
    intro row stored
    rw [doomed_eq table row stored]
  have kept : ∀ table, ∀ row ∈ survivors database chosen table,
      ∀ reference ∈ schema.references table, losesParent database chosen row reference = false := by
    intro table row survives reference declared
    rw [staying, List.mem_filter, Bool.not_eq_true'] at survives
    rw [← Bool.not_eq_true, losesParent_iff]
    intro given
    obtain ⟨parent, parentStored, refers, parentDoomed⟩ := given
    have parentStays := separate table row survives.1 survives.2 reference declared parent
      parentStored refers
    cases (parentDoomed.leaves includes separate parentStored).symm.trans parentStays
  have clear : violations database chosen = [] :=
    (violations_nil_iff database chosen).mpr fun table row survives reference declared _ =>
      kept table row survives reference declared
  refine ⟨afterDelete database chosen clear, dif_pos clear, ?_⟩
  intro table
  have unchanged : (survivors database chosen table).map (nulled database chosen) =
      survivors database chosen table := by
    rw [List.map_congr_left fun row survives => nulled_kept database chosen
      (kept table row survives)]
    exact List.map_id' _
  exact unchanged.trans (staying table)

/-- A row that leaves was doomed, since the key of a survivor is still there. -/
theorem RemovesExactly.reached (exactly : RemovesExactly database chosen leaving) {table : Table}
    {row : Row Key Column (Content table)} (stored : row ∈ database.rows table)
    (leaves : leaving table row = true) : Doomed database chosen table row := by
  obtain ⟨after, deleted, rows⟩ := exactly
  by_contra notDoomed
  have survives := (mem_survivors database chosen).mpr ⟨stored, notDoomed⟩
  have remains : nulled database chosen row ∈ after.rows table := by
    rw [(delete_ok database chosen deleted).2 table]
    exact List.mem_map_of_mem survives
  rw [rows table, List.mem_filter, Bool.not_eq_true'] at remains
  have same : nulled database chosen row = row :=
    database.row_unique remains.1 stored (nulled_id database chosen row)
  rw [same] at remains
  cases leaves.symm.trans remains.2

/-- A row that stays as it was refers to rows that stay, since the keys are still enforced. -/
theorem RemovesExactly.separate (exactly : RemovesExactly database chosen leaving) :
    Separate database leaving := by
  obtain ⟨after, deleted, rows⟩ := exactly
  intro table row stored stays reference declared parent parentStored refers
  have remains : row ∈ after.rows table := by
    rw [rows table, List.mem_filter, stays]
    exact ⟨stored, rfl⟩
  obtain ⟨target, targetStored, sameKey⟩ :=
    after.resolved table row remains reference declared parent.id refers
  rw [rows reference.parent, List.mem_filter, Bool.not_eq_true'] at targetStored
  rw [← database.row_unique targetStored.1 parentStored sameKey]
  exact targetStored.2

/-- A deletion takes exactly a family of rows when each is doomed and no other row refers to it. -/
theorem removesExactly_iff
    (includes : ∀ table, ∀ row ∈ database.rows table, chosen table row = true →
      leaving table row = true) :
    RemovesExactly database chosen leaving ↔
      (∀ table, ∀ row ∈ database.rows table, leaving table row = true →
        Doomed database chosen table row) ∧ Separate database leaving := by
  constructor
  · intro exactly
    exact ⟨fun table row stored leaves => exactly.reached stored leaves, exactly.separate⟩
  · intro given
    exact removesExactly_of_separate includes given.1 given.2

end Exact

end Referential
