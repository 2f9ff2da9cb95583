/-
This file proves which audit rows a verifier can recompute from their columns.
-/

import Sprawl.Audit.Writers
import Sprawl.Proof.PyText

namespace Sprawl

open Effect Text

section Payloads

/-- Digits are not escaped. -/
theorem escapeChar_digit {char : Char} (digit : char.isDigit = true) :
    escapeChar char = String.ofList [char] := by
  have range : 48 ≤ char.toNat ∧ char.toNat ≤ 57 := by
    simpa [Char.isDigit, UInt32.le_iff_toNat_le] using digit
  unfold escapeChar
  simp only
  rw [if_neg (by omega), if_neg (by omega), if_neg (by omega), if_neg (by omega),
    if_neg (by omega), if_neg (by omega), if_neg (by omega), if_pos (by omega)]

/-- A time between quotes is its digits. -/
theorem toList_time (time : Time) :
    (canonicalJson (.time time)).toList = '"' :: (Nat.toDigits 10 time ++ ['"']) := by
  have digits (chars : List Char) (each : ∀ char ∈ chars, char.isDigit = true) :
      chars.flatMap (fun char => (escapeChar char).toList) = chars := by
    induction chars with
    | nil => rfl
    | cons char rest ih =>
        rw [List.forall_mem_cons] at each
        rw [List.flatMap_cons, ih each.2, escapeChar_digit each.1, String.toList_ofList]
        rfl
  have plain : ∀ char ∈ Nat.toDigits 10 time, char.isDigit = true :=
    fun char inside => Nat.isDigit_of_mem_toDigits (by decide) (by decide) inside
  simp only [Json.time, canonicalJson, quoteString, Nat.toString_eq_ofList_toDigits,
    String.toList_append, String.toList_join, List.flatMap_map, String.toList_ofList]
  rw [digits _ plain]
  rfl

/-- Two times meet exactly if they are the same. -/
theorem time_meets (first second : Time) :
    Meets (canonicalJson (.time first)).toList (canonicalJson (.time second)).toList
      (first = second) := by
  have free (time : Time) : '"' ∉ Nat.toDigits 10 time := by
    intro inside
    exact absurd (Nat.isDigit_of_mem_toDigits (by decide) (by decide) inside) (by decide)
  rw [toList_time, toList_time]
  apply ((meets_terminated (free first) (free second)).cons '"').congr
  constructor
  · intro same
    have read := congrArg (fun digits => Nat.ofDigitChars 10 digits 0) same
    simpa [Nat.ofDigitChars_ten_toDigits] using read
  · exact congrArg (Nat.toDigits 10)

section Sorted

variable (workspaceId : Uuid) (actor action : String) (targetType targetId : Option String)
  (correlationId : Option String)

/-- The fields of a payload in the order of their keys. -/
theorem canonicalJson_auditPayload (before after : Json) (createdAt : Time) :
    canonicalJson (auditPayload workspaceId actor action targetType targetId before after
      correlationId createdAt) =
      "\x7b" ++ String.intercalate "," ([("action", .str action), ("actor", .str actor),
        ("after", after), ("before", before), ("correlation_id", .optional .str correlationId),
        ("created_at", .time createdAt), ("target_id", .optional .str targetId),
        ("target_type", .optional .str targetType),
        ("workspace_id", .uuid workspaceId)].map fieldText) ++ "\x7d" := by
  unfold auditPayload
  rw [canonicalJson_obj]
  simp only [List.insertionSort_cons, List.insertionSort_nil, List.orderedInsert_nil,
    List.orderedInsert_cons, byName, String.reduceLE, if_true, if_false]

/-- The same for the dictionary that a writer hashes. -/
theorem canonical_payload (call : AuditCall) (now : Time) :
    (call.payload now).canonical =
      "\x7b" ++ String.intercalate "," ([(PyKey.str "action", PyValue.str call.action),
        (.str "actor", .str call.actor), (.str "after", .given call.after),
        (.str "before", .given call.before),
        (.str "correlation_id", .optional call.correlationId),
        (.str "created_at", .str (toString now)), (.str "target_id", .optional call.targetId),
        (.str "target_type", .optional call.targetType),
        (.str "workspace_id", .str (toString call.workspaceId))].map pyFieldText) ++ "\x7d" := by
  rw [AuditCall.payload, canonical_dict]
  simp only [List.insertionSort_cons, List.insertionSort_nil, List.orderedInsert_nil,
    List.orderedInsert_cons, byPyKey, PyKey.le, String.reduceLE, decide_true, decide_false,
    Bool.false_eq_true, if_true, if_false]

end Sorted

section Meeting

variable {first : String × Json} {second : PyKey × PyValue}

/-- Two fields with one key meet where their values do. -/
theorem field_meets {kept : Prop} (name : first.1 = second.1.text)
    (value : Meets (canonicalJson first.2).toList second.2.canonical.toList kept) :
    Meets (fieldText first).toList (pyFieldText second).toList kept := by
  simp only [fieldText, pyFieldText, String.toList_append, name]
  exact ((meets_self _).append value).congr (by simp)

theorem canonicalJson_optional (given : Option String) :
    canonicalJson (.optional .str given) = (PyValue.optional given).canonical := by
  cases given <;> rfl

/-- The columns of an entry meet its payload where their documents and their times do. -/
theorem auditPayload_meets (call : AuditCall) {before after : Json} {beforeKept afterKept : Prop}
    {started time : Time}
    (beforeMeets : Meets (canonicalJson before).toList (PyValue.given call.before).canonical.toList
      beforeKept)
    (afterMeets : Meets (canonicalJson after).toList (PyValue.given call.after).canonical.toList
      afterKept) :
    Meets
      (canonicalJson (auditPayload call.workspaceId call.actor call.action call.targetType
        call.targetId before after call.correlationId started)).toList
      (call.payload time).canonical.toList (afterKept ∧ beforeKept ∧ started = time) := by
  let text (name value : String) : (String × Json) × (PyKey × PyValue) × Prop :=
    ((name, .str value), (.str name, .str value), True)
  let optional (name : String) (given : Option String) :
      (String × Json) × (PyKey × PyValue) × Prop :=
    ((name, .optional .str given), (.str name, .optional given), True)
  let parts : List ((String × Json) × (PyKey × PyValue) × Prop) :=
    [text "action" call.action, text "actor" call.actor,
      (("after", after), (.str "after", .given call.after), afterKept),
      (("before", before), (.str "before", .given call.before), beforeKept),
      optional "correlation_id" call.correlationId,
      (("created_at", .time started), (.str "created_at", .str (toString time)), started = time),
      optional "target_id" call.targetId, optional "target_type" call.targetType,
      text "workspace_id" (toString call.workspaceId)]
  have each : ∀ part ∈ parts,
      Meets (fieldText part.1).toList (pyFieldText part.2.1).toList part.2.2 := by
    have unchanged (name value : String) :
        Meets (fieldText (name, .str value)).toList (pyFieldText (.str name, .str value)).toList
          True :=
      field_meets rfl (meets_self _)
    have given (name : String) (value : Option String) :
        Meets (fieldText (name, .optional .str value)).toList
          (pyFieldText (.str name, .optional value)).toList True := by
      apply field_meets rfl
      rw [canonicalJson_optional]
      exact meets_self _
    simp only [parts, text, optional, List.forall_mem_cons, List.not_mem_nil, false_implies,
      implies_true, and_true, unchanged, given, true_and]
    exact ⟨field_meets rfl afterMeets, field_meets rfl beforeMeets,
      field_meets rfl (time_meets started time)⟩
  have inside := meets_intercalate ",".toList each
  have whole := ((meets_self "\x7b".toList).append inside).append (meets_self "\x7d".toList)
  rw [canonicalJson_auditPayload, canonical_payload]
  simp only [String.toList_append, String.toList_intercalate, List.map_map]
  exact whole.congr (by simp [parts, text, optional])

end Meeting

end Payloads

/-- A digest tells the texts of a list apart. -/
def Sha256.Separates [Sha256] (texts : List String) : Prop :=
  ∀ first ∈ texts, ∀ second ∈ texts,
    Sha256.hexdigest first = Sha256.hexdigest second → first = second

/-- The column of a writer gives the text of the dictionary back. The worker stores no empty
dictionary. -/
def AuditWriter.keeps (writer : AuditWriter) (given : Option PyDict) : Bool :=
  given.all fun dict => dict.value.kept && match writer with
    | .worker _ => !dict.fields.isEmpty
    | _ => true

/-- The column value that a writer makes of a dictionary. -/
def AuditWriter.column : AuditWriter → Option PyDict → Option Json
  | .worker _, given => nonEmptyDict given
  | _, given => some (PyValue.given given).json

/-- What the verifier reads in the column meets the dictionary exactly if the column keeps it. -/
theorem column_meets (writer : AuditWriter) (given : Option PyDict) :
    Meets (canonicalJson (((writer.column given).map jsonb).getD .null)).toList
      (PyValue.given given).canonical.toList (writer.keeps given = true) := by
  cases given with
  | none =>
      cases writer <;> exact (meets_self _).congr (by simp [AuditWriter.keeps])
  | some dict =>
      have stored := py_meets dict.value dict.sortable
      cases writer with
      | worker call =>
          cases empty : dict.fields.isEmpty with
          | true =>
              have absent : AuditWriter.column (.worker call) (some dict) = none := by
                simp [AuditWriter.column, nonEmptyDict, Option.filter, empty]
              have nothing : dict.value = .dict [] :=
                congrArg PyValue.dict (List.isEmpty_iff.mp empty)
              simp only [absent, PyValue.given, Option.elim_some, nothing]
              exact (@meets_never _ _ _ 0 'n' '\x7b' rfl rfl (by decide)).congr
                (by simp [AuditWriter.keeps, empty])
          | false =>
              have present : AuditWriter.column (.worker call) (some dict) =
                  some dict.value.json := by
                simp [AuditWriter.column, nonEmptyDict, Option.filter, empty]
              simp only [present]
              exact stored.congr (by simp [AuditWriter.keeps, empty])
      | api call => exact stored.congr (by simp [AuditWriter.keeps])
      | seed calls => exact stored.congr (by simp [AuditWriter.keeps])

section Runs

variable [Sha256] [HashText]

/-- The state after a writer has run in a transaction. -/
def AuditWriter.run (writer : AuditWriter) (state : AuditSession × AuditTable) :
    AuditSession × AuditTable :=
  (writer.program.run AuditSession.answer state).2

/-- The rows that a writer appends. -/
def AuditWriter.appended (writer : AuditWriter) (state : AuditSession × AuditTable) :
    List AuditRow :=
  (writer.run state).1.pending.drop state.1.pending.length

/-- What is hashed when a writer has run and its rows are verified. -/
def AuditWriter.texts (writer : AuditWriter) (state : AuditSession × AuditTable) : List String :=
  (writer.run state).2.hashed ++ (writer.appended state).map (·.text)

/-- A row stands for an entry that its writer has hashed with the given reading of its clock. -/
structure Written (writer : AuditWriter) (started : Time) (hashed : List String) (call : AuditCall)
    (time : Time) (row : AuditRow) : Prop where
  payload : row.payload = auditPayload call.workspaceId call.actor call.action call.targetType
    call.targetId (((writer.column call.before).map jsonb).getD .null)
    (((writer.column call.after).map jsonb).getD .null) call.correlationId started
  hash : row.hash = Sha256.hexdigest (row.prevHash ++ (call.payload time).canonical)
  hashed : row.prevHash ++ (call.payload time).canonical ∈ hashed

section Rows

variable {writer : AuditWriter} {started time : Time} {hashed : List String} {call : AuditCall}
  {row : AuditRow}

omit [HashText] in
/-- The verifier hashes the text of the writer exactly if the columns give back what was hashed. -/
theorem Written.text_iff (written : Written writer started hashed call time row) :
    row.text = row.prevHash ++ (call.payload time).canonical ↔
      time = started ∧ writer.keeps call.before = true ∧ writer.keeps call.after = true := by
  have meets := @auditPayload_meets call _ _ _ _ started time (column_meets writer call.before)
    (column_meets writer call.after)
  rw [← written.payload] at meets
  unfold AuditRow.text
  rw [← String.toList_inj, String.toList_append, String.toList_append, List.append_cancel_left_eq]
  refine meets.eq_iff.trans ?_
  constructor
  · exact fun kept => ⟨kept.2.2.symm, kept.2.1, kept.1⟩
  · exact fun kept => ⟨kept.2.2, kept.2.1, kept.1.symm⟩

omit [HashText] in
/-- A digest that tells the two texts apart shows the difference. -/
theorem Written.verifies_iff (written : Written writer started hashed call time row)
    {texts : List String} (separates : Sha256.Separates texts) (within : hashed ⊆ texts)
    (text : row.text ∈ texts) :
    row.Verifies ↔
      time = started ∧ writer.keeps call.before = true ∧ writer.keeps call.after = true := by
  rw [← written.text_iff]
  constructor
  · intro verifies
    have digests : row.hash = Sha256.hexdigest row.text := verifies
    rw [written.hash] at digests
    exact (separates _ (within written.hashed) _ text digests).symm
  · intro same
    change row.hash = Sha256.hexdigest row.text
    rw [same]
    exact written.hash

end Rows

/-- The columns of an entry after a previous hash. -/
def AuditWriter.entry (writer : AuditWriter) (prevHash : String) (call : AuditCall) (time : Time) :
    AuditColumns where
  workspaceId := call.workspaceId
  actor := call.actor
  action := call.action
  targetType := call.targetType
  targetId := call.targetId
  before := writer.column call.before
  after := writer.column call.after
  correlationId := call.correlationId
  prevHash := prevHash
  hash := Sha256.hexdigest (prevHash ++ (call.payload time).canonical)

/-- One entry is one row. -/
theorem writeEntry_written (writer : AuditWriter) (prevHash : String) (call : AuditCall)
    (own : AuditSession) (table : AuditTable) :
    ∃ done : AuditSession × AuditTable,
      let row := (writer.entry prevHash call (own.readings.headD 0)).row table.nextId own.started
      (writeEntry prevHash call (writer.column call.before) (writer.column call.after)).run
        AuditSession.answer (own, table) = (row.hash, done) ∧
      done.1 = { own with readings := own.readings.tail, pending := own.pending ++ [row] } ∧
      table.hashed ⊆ done.2.hashed ∧
      Written writer own.started done.2.hashed call (own.readings.headD 0) row := by
  let text := prevHash ++ (call.payload (own.readings.headD 0)).canonical
  refine ⟨_, rfl, rfl, ?_, ?_⟩
  · exact List.subset_append_left table.hashed [text]
  · exact ⟨rfl, rfl, List.mem_append_right table.hashed List.mem_cons_self⟩

/-- The seeding loop appends a row for each of its entries. -/
theorem seedAudit_written (writer : AuditWriter) (seeds : writer.column = fun given =>
      some (PyValue.given given).json) (calls : List AuditCall) (prev : String) (own : AuditSession)
    (table : AuditTable) :
    ∃ rows, ∃ done : AuditSession × AuditTable,
      (seedAudit calls prev).run AuditSession.answer (own, table) = ((), done) ∧
      done.1.pending = own.pending ++ rows ∧ table.hashed ⊆ done.2.hashed ∧
      rows.length = calls.length ∧
      ∀ index call row, calls[index]? = some call → rows[index]? = some row →
        Written writer own.started done.2.hashed call (own.readings.getD index 0) row := by
  induction calls generalizing prev own table with
  | nil =>
      refine ⟨[], (own, table), rfl, (List.append_nil _).symm, List.Subset.refl _, rfl, ?_⟩
      intro index call row found
      exact absurd found (by simp)
  | cons call rest ih =>
      obtain ⟨⟨own', table'⟩, ran, rfl, grows, written⟩ :=
        writeEntry_written writer prev call own table
      let first := (writer.entry prev call (own.readings.headD 0)).row table.nextId own.started
      obtain ⟨rows, done, later, pending, grew, length, others⟩ := ih first.hash _ table'
      refine ⟨first :: rows, done, ?_, ?_, List.Subset.trans grows grew, by simp [length], ?_⟩
      · rw [seeds] at ran
        rw [seedAudit, Program.run_bind, ran]
        exact later
      · rw [pending, List.append_assoc, List.singleton_append]
      · intro index other row found appended
        cases index with
        | zero =>
            obtain rfl := Option.some.inj found
            obtain rfl := Option.some.inj appended
            rw [show own.readings.getD 0 0 = own.readings.headD 0 by cases own.readings <;> rfl]
            exact ⟨written.payload, written.hash, grew written.hashed⟩
        | succ index =>
            have same := others index other row found appended
            rwa [show own.readings.tail.getD index 0 = own.readings.getD (index + 1) 0 by
              cases own.readings <;> rfl] at same

/-- The lock of a workspace changes no row and hashes nothing. -/
theorem answer_advisoryLock (key : String) (own : AuditSession) (table : AuditTable) :
    ∃ locks, AuditSession.answer (.advisoryLock key) (own, table) =
      ((), own, { table with locks }) := by
  simp only [AuditSession.answer]
  split
  · exact ⟨table.locks, rfl⟩
  · exact ⟨_, rfl⟩

/-- The hash that a call of `audit` chains its entry to. -/
def AuditWriter.previous (writer : AuditWriter) (found : Option String) : String :=
  match writer with
  | .worker _ => found.getD genesisHash
  | _ => hashOrZeros found

/-- A call of `audit` writes its entry after the latest row of its workspace. -/
theorem AuditWriter.call_run (own : AuditSession) (table : AuditTable) (call : AuditCall)
    {writer : AuditWriter} (one : writer = .api call ∨ writer = .worker call) :
    ∃ locks, writer.run (own, table) =
      ((writeEntry (writer.previous (latestRowHash call.workspaceId (table.rows ++ own.pending)))
        call (writer.column call.before) (writer.column call.after)).run
        AuditSession.answer (own, { table with locks })).2 := by
  obtain ⟨locks, locked⟩ := answer_advisoryLock (auditKey call.workspaceId) own table
  refine ⟨locks, ?_⟩
  obtain rfl | rfl := one
  · change ((apiAudit call).run AuditSession.answer (own, table)).2 = _
    unfold apiAudit AuditCommand.perform
    rw [Program.run_bind, Program.run_perform, locked]
    rfl
  · change ((workerAudit call).run AuditSession.answer (own, table)).2 = _
    unfold workerAudit AuditCommand.perform
    rw [Program.run_bind, Program.run_perform, locked]
    rfl

/-- A writer appends what it has left in its transaction. -/
theorem AuditWriter.appended_of_pending {writer : AuditWriter} {own : AuditSession}
    {table : AuditTable} {rows : List AuditRow}
    (pending : (writer.run (own, table)).1.pending = own.pending ++ rows) :
    writer.appended (own, table) = rows := by
  unfold AuditWriter.appended
  rw [pending, List.drop_left]

/-- A call of `audit` appends one row. -/
theorem AuditWriter.call_written (own : AuditSession) (table : AuditTable) (call : AuditCall)
    {writer : AuditWriter} (one : writer = .api call ∨ writer = .worker call) :
    let row := (writer.entry
      (writer.previous (latestRowHash call.workspaceId (table.rows ++ own.pending))) call
      (own.readings.headD 0)).row table.nextId own.started
    writer.appended (own, table) = [row] ∧
      Written writer own.started (writer.run (own, table)).2.hashed call (own.readings.headD 0)
        row := by
  obtain ⟨locks, ran⟩ := AuditWriter.call_run own table call one
  obtain ⟨done, wrote, ended, _, written⟩ := writeEntry_written writer
    (writer.previous (latestRowHash call.workspaceId (table.rows ++ own.pending))) call own
    { table with locks }
  have state : writer.run (own, table) = done := by rw [ran, wrote]
  constructor
  · apply AuditWriter.appended_of_pending
    rw [state, ended]
  · rw [state]
    exact written

/-- A writer appends a row for each of its entries. -/
theorem AuditWriter.run_written (writer : AuditWriter) (own : AuditSession) (table : AuditTable) :
    (writer.appended (own, table)).length = writer.calls.length ∧
      ∀ index call row, writer.calls[index]? = some call →
        (writer.appended (own, table))[index]? = some row →
          Written writer own.started (writer.run (own, table)).2.hashed call
            (own.readings.getD index 0) row := by
  have whole {call : AuditCall} (one : writer = .api call ∨ writer = .worker call) :
      (writer.appended (own, table)).length = [call].length ∧
        ∀ index other row, [call][index]? = some other →
          (writer.appended (own, table))[index]? = some row →
            Written writer own.started (writer.run (own, table)).2.hashed other
              (own.readings.getD index 0) row := by
    obtain ⟨appended, written⟩ := AuditWriter.call_written own table call one
    rw [appended]
    refine ⟨rfl, fun index other row inside at_ => ?_⟩
    cases index with
    | zero =>
        obtain rfl := Option.some.inj inside
        obtain rfl := Option.some.inj at_
        rwa [show own.readings.getD 0 0 = own.readings.headD 0 by cases own.readings <;> rfl]
    | succ index => exact absurd inside (by simp)
  cases writer with
  | api call => exact whole (Or.inl rfl)
  | worker call => exact whole (Or.inr rfl)
  | seed calls =>
      obtain ⟨rows, done, ran, pending, _, length, written⟩ :=
        seedAudit_written (.seed calls) rfl calls genesisHash own table
      have state : AuditWriter.run (.seed calls) (own, table) = done := congrArg Prod.snd ran
      rw [AuditWriter.appended_of_pending (state ▸ pending), state]
      exact ⟨length, written⟩

end Runs

/-- The rows of a writer verify exactly if the clock of the writer shows the start of the transaction
and the columns keep both dictionaries. -/
theorem appended_rows_verify_iff [Sha256] [HashText] (writer : AuditWriter) (own : AuditSession)
    (table : AuditTable) (separates : Sha256.Separates (writer.texts (own, table))) :
    (writer.appended (own, table)).length = writer.calls.length ∧
      ∀ index call row, writer.calls[index]? = some call →
        (writer.appended (own, table))[index]? = some row →
          (row.Verifies ↔ own.readings.getD index 0 = own.started ∧
            writer.keeps call.before = true ∧ writer.keeps call.after = true) := by
  obtain ⟨length, written⟩ := writer.run_written own table
  refine ⟨length, fun index call row found appended => ?_⟩
  apply (written index call row found appended).verifies_iff separates
  · exact List.subset_append_left _ _
  · exact List.mem_append_right _ (List.mem_map_of_mem (List.mem_of_getElem? appended))

section Examples

/-- The entry of an approval. -/
def approvalCall : AuditCall where
  workspaceId := 1
  actor := "owner"
  action := "rotation.approved"
  targetType := some "rotation"
  targetId := some "7"
  before := some (statusDict "pending_approval").py
  after := some (statusDict "provisioning").py

/-- A transaction that started at time 5 and reads another time from its clock. -/
def sessionReading (time : Time) : AuditSession where
  id := 0
  started := 5
  readings := [time]
  pending := []

/-- The text that the api hashes for the approval. -/
def approvalText (time : Time) : String := genesisHash ++ (approvalCall.payload time).canonical

/-- Two digests of 64 digits that tell one text from all others. -/
abbrev markingDigest (marked : String) : Sha256 where
  hexdigest text :=
    if text = marked then String.ofList (List.replicate 64 'a')
    else String.ofList (List.replicate 64 'b')

theorem hexdigest_marked (marked : String) :
    (markingDigest marked).hexdigest marked = String.ofList (List.replicate 64 'a') := if_pos rfl

theorem hexdigest_unmarked {marked text : String} (different : text ≠ marked) :
    (markingDigest marked).hexdigest text = String.ofList (List.replicate 64 'b') :=
  if_neg different

/-- The marked text and another one have different digests. -/
theorem hexdigest_ne {marked text : String} (different : text ≠ marked) :
    (markingDigest marked).hexdigest marked ≠ (markingDigest marked).hexdigest text := by
  rw [hexdigest_marked, hexdigest_unmarked different]
  decide

abbrev lengthText : HashText := ⟨fun key => key.length⟩

variable [Sha256] [HashText]

/-- The api hashes one text for the approval and appends one row. -/
theorem approval_written (time : Time) :
    ∃ row, AuditWriter.appended (.api approvalCall) (sessionReading time, .empty) = [row] ∧
      AuditWriter.texts (.api approvalCall) (sessionReading time, .empty) =
        [approvalText time, row.text] ∧
      row.prevHash = genesisHash ∧
      Written (.api approvalCall) 5 [approvalText time] approvalCall time row := by
  have first : hashOrZeros (latestRowHash 1 ([] ++ [])) = genesisHash := by simp [latestRowHash, hashOrZeros]
  have text : hashOrZeros (latestRowHash 1 ([] ++ [])) ++
      (approvalCall.payload time).canonical = approvalText time := by rw [first]; rfl
  refine ⟨_, rfl, congrArg (fun hashed => [hashed, _]) text, first, rfl, rfl, ?_⟩
  exact List.mem_singleton.mpr text

omit [Sha256] [HashText]

/-- Where the clock shows the start of the transaction the row of the approval verifies. -/
theorem approval_verifies :
    ∃ row, @AuditWriter.appended (markingDigest (approvalText 5)) lengthText (.api approvalCall)
        (sessionReading 5, .empty) = [row] ∧
      @AuditRow.Verifies (markingDigest (approvalText 5)) row := by
  obtain ⟨row, appended, texts, prev, written⟩ :=
    @approval_written (markingDigest (approvalText 5)) lengthText 5
  have kept : (5 : Time) = 5 ∧ AuditWriter.keeps (.api approvalCall) approvalCall.before = true ∧
      AuditWriter.keeps (.api approvalCall) approvalCall.after = true := ⟨rfl, rfl, rfl⟩
  have same : row.text = approvalText 5 := by
    rw [(@Written.text_iff (markingDigest (approvalText 5)) _ _ _ _ _ _ written).mpr kept, prev]
    rfl
  have separates : @Sha256.Separates (markingDigest (approvalText 5))
      (@AuditWriter.texts (markingDigest (approvalText 5)) lengthText (.api approvalCall)
        (sessionReading 5, .empty)) := by
    rw [texts, same]
    intro first inFirst second inSecond _
    simp only [List.mem_cons, List.not_mem_nil, or_false, or_self] at inFirst inSecond
    rw [inFirst, inSecond]
  have verifies := (@appended_rows_verify_iff (markingDigest (approvalText 5)) lengthText (.api approvalCall)
    (sessionReading 5) .empty separates).2 0 approvalCall row rfl (by rw [appended]; rfl)
  exact ⟨row, appended, verifies.mpr kept⟩

/-- Where the clock has moved on the row of the approval does not verify. -/
theorem approval_does_not_verify :
    ∃ row, @AuditWriter.appended (markingDigest (approvalText 6)) lengthText (.api approvalCall)
        (sessionReading 6, .empty) = [row] ∧
      ¬ @AuditRow.Verifies (markingDigest (approvalText 6)) row := by
  obtain ⟨row, appended, texts, prev, written⟩ :=
    @approval_written (markingDigest (approvalText 6)) lengthText 6
  refine ⟨row, appended, fun verifies => ?_⟩
  have hashed : row.prevHash ++ (approvalCall.payload 6).canonical = approvalText 6 := by
    rw [prev]
    rfl
  have different : row.text ≠ approvalText 6 := by
    intro same
    have late := (@Written.text_iff (markingDigest (approvalText 6)) _ _ _ _ _ _ written).mp
      (same.trans hashed.symm)
    exact absurd late.1 (by decide)
  have shown : row.hash = (markingDigest (approvalText 6)).hexdigest row.text := verifies
  have stored : row.hash = (markingDigest (approvalText 6)).hexdigest
      (row.prevHash ++ (approvalCall.payload 6).canonical) :=
    @Written.hash (markingDigest (approvalText 6)) _ _ _ _ _ _ written
  rw [hashed, shown] at stored
  exact hexdigest_ne different stored.symm

end Examples

end Sprawl
