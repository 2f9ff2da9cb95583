/-
This file proves when the worker appends the row that the api would append.
-/

import Sprawl.Proof.Verifiable

namespace Sprawl

/-- Two rows agree on what their writers set. A column reads `NULL` and a JSON `null` as the same
value. -/
structure AuditRow.SameEntry (first second : AuditRow) : Prop where
  actor : first.actor = second.actor
  action : first.action = second.action
  targetType : first.targetType = second.targetType
  targetId : first.targetId = second.targetId
  before : first.before.getD .null = second.before.getD .null
  after : first.after.getD .null = second.after.getD .null
  correlationId : first.correlationId = second.correlationId
  prevHash : first.prevHash = second.prevHash
  hash : first.hash = second.hash

/-- A dictionary was given and it has no field. -/
def emptyDict (given : Option PyDict) : Bool := given.any fun dict => dict.fields.isEmpty

section Columns

variable {call : AuditCall}

/-- Both writers store a dictionary alike exactly if it is not empty. -/
theorem columns_same_iff (apiCall workerCall : AuditCall) (given : Option PyDict) :
    ((AuditWriter.column (.api apiCall) given).map jsonb).getD .null =
        ((AuditWriter.column (.worker workerCall) given).map jsonb).getD .null ↔
      emptyDict given = false := by
  cases given with
  | none => exact iff_of_true rfl rfl
  | some dict =>
      have keeps : AuditWriter.column (.worker workerCall) (some dict) =
          if dict.fields.isEmpty then none else some dict.value.json := by
        cases empty : dict.fields.isEmpty <;>
          simp [AuditWriter.column, nonEmptyDict, Option.filter, empty]
      have whole : AuditWriter.column (.api apiCall) (some dict) = some dict.value.json := rfl
      rw [keeps, whole]
      cases empty : dict.fields.isEmpty with
      | true => simp [emptyDict, empty, PyDict.value, PyValue.json, jsonb]
      | false => simp [emptyDict, empty]

/-- Both writers chain to the same hash exactly if the latest one is not the empty text. -/
theorem previous_same_iff (apiCall workerCall : AuditCall) (found : Option String) :
    AuditWriter.previous (.api apiCall) found = AuditWriter.previous (.worker workerCall) found ↔
      found ≠ some "" := by
  cases found with
  | none => exact iff_of_true rfl (by simp)
  | some hash =>
      simp only [AuditWriter.previous, hashOrZeros, Option.getD_some]
      by_cases empty : hash = ""
      · have zeros : genesisHash ≠ "" := by decide
        simp [empty, zeros]
      · simp [empty]

end Columns

/-- The two writers append the same entry exactly if no dictionary is empty and the latest hash of
the workspace is not the empty text. -/
theorem writers_append_same_iff [Sha256] [HashText] (own : AuditSession) (table : AuditTable)
    (call : AuditCall) :
    ∃ apiRow workerRow, AuditWriter.appended (.api call) (own, table) = [apiRow] ∧
      AuditWriter.appended (.worker call) (own, table) = [workerRow] ∧
      (apiRow.SameEntry workerRow ↔
        emptyDict call.before = false ∧ emptyDict call.after = false ∧
          latestRowHash call.workspaceId (table.rows ++ own.pending) ≠ some "") := by
  have api := (AuditWriter.call_written own table call (Or.inl rfl)).1
  have worker := (AuditWriter.call_written own table call (Or.inr rfl)).1
  refine ⟨_, _, api, worker, ?_⟩
  rw [← columns_same_iff call call call.before, ← columns_same_iff call call call.after,
    ← previous_same_iff call call]
  constructor
  · intro same
    exact ⟨same.before, same.after, same.prevHash⟩
  · rintro ⟨before, after, previous⟩
    exact ⟨rfl, rfl, rfl, rfl, before, after, rfl, previous, by
      simp only [AuditColumns.row, AuditWriter.entry, previous]⟩

section Examples

/-- An approval whose entry names no earlier state. -/
def emptyBeforeCall : AuditCall :=
  { approvalCall with
    before := some ⟨[], Or.inr (Or.inr (Nat.zero_le 1)), List.nodup_nil, trivial⟩ }

/-- The worker does not store an empty dictionary, so its row differs from the one of the api. -/
theorem emptyDict_is_not_mirrored :
    ∃ apiRow workerRow,
      @AuditWriter.appended (markingDigest "") lengthText (.api emptyBeforeCall)
        (sessionReading 6, .empty) = [apiRow] ∧
      @AuditWriter.appended (markingDigest "") lengthText (.worker emptyBeforeCall)
        (sessionReading 6, .empty) = [workerRow] ∧
      ¬ apiRow.SameEntry workerRow := by
  have api := (@AuditWriter.call_written (markingDigest "") lengthText (sessionReading 6) .empty
    emptyBeforeCall _ (Or.inl rfl)).1
  have worker := (@AuditWriter.call_written (markingDigest "") lengthText (sessionReading 6) .empty
    emptyBeforeCall _ (Or.inr rfl)).1
  refine ⟨_, _, api, worker, fun same => ?_⟩
  have stored : Json.obj [] = Json.null := same.before
  exact Json.noConfusion stored

end Examples

end Sprawl
