/-
This file gives the three writers of the audit log and the verifier of its rows.
-/

import Sprawl.Audit.PyValue
import Sprawl.Effect.Program

namespace Sprawl

/-- The arguments of `audit`. -/
structure AuditCall where
  workspaceId : Uuid
  actor : String
  action : String
  targetType : Option String := none
  targetId : Option String := none
  before : Option PyDict := none
  after : Option PyDict := none
  correlationId : Option String := none

/-- An insert into `audit_log` sets these columns. An absent document is a `NULL`. -/
structure AuditColumns where
  workspaceId : Uuid
  actor : String
  action : String
  targetType : Option String
  targetId : Option String
  before : Option Json
  after : Option Json
  correlationId : Option String
  prevHash : String
  hash : String

/-- A row has its id from a sequence and `created_at` from the default `now()`. -/
structure AuditRow extends AuditColumns where
  id : Nat
  createdAt : Time

/-- These are the fields of an entry that a verifier hashes. -/
def auditPayload (workspaceId : Uuid) (actor action : String) (targetType targetId : Option String)
    (before after : Json) (correlationId : Option String) (createdAt : Time) : Json :=
  .obj
    [("workspace_id", .uuid workspaceId),
      ("actor", .str actor),
      ("action", .str action),
      ("target_type", .optional .str targetType),
      ("target_id", .optional .str targetId),
      ("before", before),
      ("after", after),
      ("correlation_id", .optional .str correlationId),
      ("created_at", .time createdAt)]

/-- A text that may be absent. -/
def PyValue.optional (given : Option String) : PyValue := given.elim .null .str

/-- A writer hashes its arguments with its own clock. -/
def AuditCall.payload (call : AuditCall) (now : Time) : PyValue :=
  .dict
    [(.str "workspace_id", .str (toString call.workspaceId)),
      (.str "actor", .str call.actor),
      (.str "action", .str call.action),
      (.str "target_type", .optional call.targetType),
      (.str "target_id", .optional call.targetId),
      (.str "before", .given call.before),
      (.str "after", .given call.after),
      (.str "correlation_id", .optional call.correlationId),
      (.str "created_at", .str (toString now))]

/-- A verifier has the columns only. It reads `NULL` and a JSON `null` as the same value. -/
def AuditRow.payload (row : AuditRow) : Json :=
  auditPayload row.workspaceId row.actor row.action row.targetType row.targetId
    (row.before.getD .null) (row.after.getD .null) row.correlationId row.createdAt

/-- The text that a verifier hashes. -/
def AuditRow.text (row : AuditRow) : String := row.prevHash ++ canonicalJson row.payload

/-- `hash = sha256(prev_hash || canonical_json(entry_without_hash))` -/
def AuditRow.Verifies [Sha256] (row : AuditRow) : Prop := row.hash = Sha256.hexdigest row.text

/-- The commands of a transaction that writes audit entries. -/
inductive AuditCommand where
  | advisoryLock (key : String)
  | latestHash (workspaceId : Uuid)
  | now
  | digest (text : String)
  | insert (columns : AuditColumns)
  | commit
  | rollback

abbrev AuditCommand.Reply : AuditCommand → Type
  | .advisoryLock _ => Unit
  | .latestHash _ => Option String
  | .now => Time
  | .digest _ => String
  | .insert _ => Unit
  | .commit => Unit
  | .rollback => Unit

abbrev AuditProgram : Type → Type := Effect.Program AuditCommand AuditCommand.Reply

/-- A program issues one command and returns its reply. -/
def AuditCommand.perform (command : AuditCommand) : AuditProgram command.Reply :=
  Effect.Program.perform command

/-- The key of the advisory lock of a workspace, before `hashtext`. -/
def auditKey (workspaceId : Uuid) : String := "audit:" ++ toString workspaceId

/-- An entry is hashed with the previous hash and then inserted. -/
def writeEntry (prevHash : String) (call : AuditCall) (before after : Option Json) :
    AuditProgram String := do
  let time : Time ← AuditCommand.now.perform
  let hash : String ←
    (AuditCommand.digest (prevHash ++ (call.payload time).canonical)).perform
  let _ : Unit ← (AuditCommand.insert
    { workspaceId := call.workspaceId, actor := call.actor, action := call.action
      targetType := call.targetType, targetId := call.targetId, before, after
      correlationId := call.correlationId, prevHash, hash }).perform
  return hash

/-- `result.scalar_one_or_none() or ("0" * 64)` -/
def hashOrZeros : Option String → String
  | some hash => if hash = "" then genesisHash else hash
  | none => genesisHash

/-- This is `audit` of the api. Its model stores an absent dictionary as a JSON `null`. -/
def apiAudit (call : AuditCall) : AuditProgram Unit := do
  let _ : Unit ← (AuditCommand.advisoryLock (auditKey call.workspaceId)).perform
  let found : Option String ← (AuditCommand.latestHash call.workspaceId).perform
  let _ : String ← writeEntry (hashOrZeros found) call (some (PyValue.given call.before).json)
    (some (PyValue.given call.after).json)

/-- `json.dumps(given) if given else None` -/
def nonEmptyDict (given : Option PyDict) : Option Json :=
  (given.filter fun dict => !dict.fields.isEmpty).map fun dict => dict.value.json

/-- This is `audit` of the worker. -/
def workerAudit (call : AuditCall) : AuditProgram Unit := do
  let _ : Unit ← (AuditCommand.advisoryLock (auditKey call.workspaceId)).perform
  let found : Option String ← (AuditCommand.latestHash call.workspaceId).perform
  let _ : String ← writeEntry (found.getD genesisHash) call (nonEmptyDict call.before)
    (nonEmptyDict call.after)

/-- This is the seeding loop of `create_demo_session`. It takes no lock and reads no row. -/
def seedAudit : List AuditCall → String → AuditProgram Unit
  | [], _ => return
  | call :: rest, prev => do
      let newHash : String ← writeEntry prev call (some (PyValue.given call.before).json)
        (some (PyValue.given call.after).json)
      seedAudit rest newHash

/-- The rows that `create_demo_session` has inserted before its audit entries. -/
structure DemoSession where
  workspaceId : Uuid
  sessionId : String
  findingId : Uuid
  investigationId : Uuid
  secretId : Uuid
  rotationId : Uuid

/-- A dictionary with the status alone. -/
def statusDict (status : String) : JsonDict where
  fields := [("status", .str status)]
  distinct := by simp [Json.KeysDistinct, KeysDistinctFields]

/-- These are the audit entries of `create_demo_session`. -/
def DemoSession.entries (session : DemoSession) : List AuditCall :=
  let entry (action targetType : String) (targetId : Uuid) (before : Option JsonDict)
      (after : JsonDict) : AuditCall :=
    { workspaceId := session.workspaceId, actor := "demo-agent", action
      targetType := some targetType, targetId := some (toString targetId)
      before := before.map JsonDict.py, after := some after.py, correlationId := some session.sessionId }
  [entry "detection.finding_confirmed" "finding" session.findingId none
      { fields := [("state", .str "confirmed")]
        distinct := by simp [Json.KeysDistinct, KeysDistinctFields] },
    entry "investigation.started" "investigation" session.investigationId none
      (statusDict "running"),
    entry "investigation.complete" "investigation" session.investigationId
      (some (statusDict "running"))
      { fields := [("status", .str "complete"), ("coverage", .obj [("known_consumers", .int 2),
          ("unknown_consumers", .int 0), ("confidence", .str "high")])]
        distinct := by simp [Json.KeysDistinct, KeysDistinctFields] },
    entry "severity.computed" "secret" session.secretId none
      { fields := [("score", .int 87), ("bucket", .str "critical")]
        distinct := by simp [Json.KeysDistinct, KeysDistinctFields] },
    entry "rotation.proposed" "rotation" session.rotationId none (statusDict "proposed"),
    entry "rotation.plan_ready" "rotation" session.rotationId (some (statusDict "proposed"))
      (statusDict "pending_approval")]

/-- The writers of the audit log. A seeding loop writes the first entries of its workspace. -/
inductive AuditWriter where
  | api (call : AuditCall)
  | worker (call : AuditCall)
  | seed (calls : List AuditCall)

def AuditWriter.program : AuditWriter → AuditProgram Unit
  | .api call => apiAudit call
  | .worker call => workerAudit call
  | .seed calls => seedAudit calls genesisHash

/-- The entries of a writer in their order. -/
def AuditWriter.calls : AuditWriter → List AuditCall
  | .api call => [call]
  | .worker call => [call]
  | .seed calls => calls

/-- The committed rows, the sequence of ids, the advisory locks with their owners, and what has been
hashed so far. -/
structure AuditTable where
  rows : List AuditRow
  nextId : Nat
  locks : List (Int × Nat)
  hashed : List String

/-- An audit log without rows. -/
def AuditTable.empty : AuditTable where
  rows := []
  nextId := 1
  locks := []
  hashed := []

/-- A transaction with its start time, the readings of its process clock and its own rows. -/
structure AuditSession where
  id : Nat
  started : Time
  readings : List Time
  pending : List AuditRow

/-- This is `hashtext` of the database. -/
class HashText where
  hashtext : String → Int

/-- `ORDER BY id DESC LIMIT 1` -/
def latestRowHash (workspaceId : Uuid) (rows : List AuditRow) : Option String :=
  (((rows.filter (·.workspaceId = workspaceId)).insertionSort fun first second =>
    second.id ≤ first.id).head?).map (·.hash)

/-- A column default and the sequence complete an inserted row. -/
def AuditColumns.row (columns : AuditColumns) (id : Nat) (createdAt : Time) : AuditRow :=
  { columns with before := columns.before.map jsonb, after := columns.after.map jsonb, id, createdAt }

/-- A transaction reads the committed rows and its own. Its end releases its locks. -/
def AuditSession.answer [Sha256] [HashText] :
    Effect.Handler AuditCommand AuditCommand.Reply (AuditSession × AuditTable)
  | .advisoryLock key, (own, table) =>
      if table.locks.lookup (HashText.hashtext key) = some own.id then ((), own, table)
      else ((), own, { table with locks := (HashText.hashtext key, own.id) :: table.locks })
  | .latestHash workspaceId, (own, table) =>
      (latestRowHash workspaceId (table.rows ++ own.pending), own, table)
  | .now, (own, table) =>
      (own.readings.headD 0, { own with readings := own.readings.tail }, table)
  | .digest text, (own, table) =>
      (Sha256.hexdigest text, own, { table with hashed := table.hashed ++ [text] })
  | .insert columns, (own, table) =>
      ((), { own with pending := own.pending ++ [columns.row table.nextId own.started] },
        { table with nextId := table.nextId + 1 })
  | .commit, (own, table) =>
      ((), { own with pending := [] },
        { table with
          rows := table.rows ++ own.pending
          locks := table.locks.filter fun held => held.2 ≠ own.id })
  | .rollback, (own, table) =>
      ((), { own with pending := [] },
        { table with locks := table.locks.filter fun held => held.2 ≠ own.id })

end Sprawl
