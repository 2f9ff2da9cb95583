/-
This file proves that the audit chain of a workspace never forks.
-/

import Sprawl.Audit.Appends
import Sprawl.Ledger.Linked
import Sprawl.Proof.Verifiable

namespace Sprawl

open Effect Ledger

/-- A SHA-256 digest has 64 hexadecimal digits. -/
class LawfulSha256 [Sha256] : Prop where
  length_hexdigest : ∀ text, (Sha256.hexdigest text).length = 64

/-- The rows of a workspace. -/
def rowsOf (workspaceId : Uuid) (rows : List AuditRow) : List AuditRow :=
  rows.filter (·.workspaceId = workspaceId)

@[simp] theorem rowsOf_append (workspaceId : Uuid) (first second : List AuditRow) :
    rowsOf workspaceId (first ++ second) = rowsOf workspaceId first ++ rowsOf workspaceId second :=
  List.filter_append ..

theorem rowsOf_eq_nil {workspaceId : Uuid} {rows : List AuditRow}
    (none : ∀ row ∈ rows, row.workspaceId ≠ workspaceId) : rowsOf workspaceId rows = [] := by
  simpa [rowsOf] using none

section Chains

variable [Sha256]

/-- The hash of a row is the digest of a text that starts with the previous hash. -/
def AuditRow.Sealed (hashed : List String) (row : AuditRow) : Prop :=
  ∃ payload, row.prevHash ++ payload ∈ hashed ∧ row.hash = Sha256.hexdigest (row.prevHash ++ payload)

/-- The rows of one workspace form a chain in the order of their ids. -/
structure Chain (hashed : List String) (nextId : Nat) (rows : List AuditRow) : Prop where
  linked : Linked (·.prevHash) (·.hash) genesisHash rows
  ordered : rows.Pairwise fun first second => first.id < second.id
  drawn : ∀ row ∈ rows, row.id < nextId
  digests : ∀ row ∈ rows, row.Sealed hashed

variable {hashed more : List String} {nextId next : Nat} {rows : List AuditRow}

theorem chain_nil : Chain hashed nextId [] where
  linked := trivial
  ordered := List.Pairwise.nil
  drawn := by simp
  digests := by simp

/-- A chain stays a chain when more is hashed and more ids are drawn. -/
theorem Chain.mono (chain : Chain hashed nextId rows) (grows : hashed ⊆ more) (draws : nextId ≤ next) :
    Chain more next rows where
  linked := chain.linked
  ordered := chain.ordered
  drawn row inside := Nat.lt_of_lt_of_le (chain.drawn row inside) draws
  digests row inside := by
    obtain ⟨payload, among, digest⟩ := chain.digests row inside
    exact ⟨payload, grows among, digest⟩

/-- A sealed row with the next id that names the tip extends a chain. -/
theorem Chain.concat (chain : Chain hashed nextId rows) {row : AuditRow}
    (names : row.prevHash = tip (·.hash) genesisHash rows) (id : row.id = nextId)
    (digest : row.Sealed hashed) : Chain hashed (nextId + 1) (rows ++ [row]) where
  linked := chain.linked.concat names
  ordered := by
    rw [List.pairwise_append]
    refine ⟨chain.ordered, List.pairwise_singleton _ row, fun first inside second last => ?_⟩
    rw [List.mem_singleton.mp last, id]
    exact chain.drawn first inside
  drawn := by
    intro other inside
    obtain earlier | last := List.mem_append.mp inside
    · exact Nat.lt_succ_of_lt (chain.drawn other earlier)
    · rw [List.mem_singleton.mp last, id]
      exact Nat.lt_succ_self nextId
  digests := by
    intro other inside
    obtain earlier | last := List.mem_append.mp inside
    · exact chain.digests other earlier
    · rw [List.mem_singleton.mp last]
      exact digest

/-- The first rows of a chain are a chain. -/
theorem Chain.left {later : List AuditRow} (chain : Chain hashed nextId (rows ++ later)) :
    Chain hashed nextId rows where
  linked := (linked_append.mp chain.linked).1
  ordered := (List.pairwise_append.mp chain.ordered).1
  drawn row inside := chain.drawn row (List.mem_append_left later inside)
  digests row inside := chain.digests row (List.mem_append_left later inside)

/-- A hash of a chain has 64 digits. -/
theorem Chain.length_hash [LawfulSha256] (chain : Chain hashed nextId rows) :
    ∀ row ∈ rows, row.hash.length = 64 := by
  intro row inside
  obtain ⟨payload, _, digest⟩ := chain.digests row inside
  rw [digest]
  exact LawfulSha256.length_hexdigest _

/-- So has a previous hash. -/
theorem Chain.length_prevHash [LawfulSha256] (chain : Chain hashed nextId rows) :
    ∀ row ∈ rows, row.prevHash.length = 64 := by
  intro row inside
  obtain first | ⟨earlier, within, names⟩ := chain.linked.prev_cases row inside
  · rw [show row.prevHash = genesisHash from first]
    decide
  · rw [show row.prevHash = earlier.hash from names]
    exact chain.length_hash earlier within

/-- A digest without collisions determines the previous hash. -/
theorem Chain.prev_eq_of_hash [LawfulSha256] (chain : Chain hashed nextId rows)
    (separates : Sha256.Separates hashed) :
    ∀ first ∈ rows, ∀ second ∈ rows, first.hash = second.hash →
      first.prevHash = second.prevHash := by
  intro first inFirst second inSecond same
  obtain ⟨firstPayload, firstAmong, firstDigest⟩ := chain.digests first inFirst
  obtain ⟨secondPayload, secondAmong, secondDigest⟩ := chain.digests second inSecond
  rw [firstDigest, secondDigest] at same
  have texts := congrArg String.toList (separates _ firstAmong _ secondAmong same)
  rw [String.toList_append, String.toList_append] at texts
  have length : first.prevHash.toList.length = second.prevHash.toList.length := by
    rw [String.length_toList, String.length_toList, chain.length_prevHash first inFirst,
      chain.length_prevHash second inSecond]
  exact String.toList_inj.mp (List.append_inj_left texts length)

/-- Rows of a chain with the same id are the same row. -/
theorem Chain.eq_of_id (chain : Chain hashed nextId rows) {first second : AuditRow}
    (inFirst : first ∈ rows) (inSecond : second ∈ rows) (same : first.id = second.id) :
    first = second := by
  have distinct : (rows.map (·.id)).Nodup :=
    List.pairwise_map.mpr (chain.ordered.imp fun less => Nat.ne_of_lt less)
  exact List.inj_on_of_nodup_map distinct inFirst inSecond same

/-- The row with the greatest id of a chain is its last row. -/
theorem Chain.head?_newest (chain : Chain hashed nextId rows) :
    (rows.insertionSort fun first second => second.id ≤ first.id).head? = rows.getLast? := by
  let after (first second : AuditRow) : Prop := second.id ≤ first.id
  have total : Std.Total after := ⟨fun first second => Nat.le_total second.id first.id⟩
  have trans : IsTrans AuditRow after := ⟨fun _ _ _ before later => Nat.le_trans later before⟩
  have newest : rows.insertionSort after = rows.reverse := by
    apply @List.Perm.eq_of_pairwise _ after
    · intro first second inFirst inSecond before later
      exact chain.eq_of_id ((List.mem_insertionSort after).mp inFirst)
        (List.mem_reverse.mp inSecond) (Nat.le_antisymm later before)
    · exact List.pairwise_insertionSort after rows
    · exact List.pairwise_reverse.mpr (chain.ordered.imp Nat.le_of_lt)
    · exact (List.perm_insertionSort after rows).trans (List.reverse_perm rows).symm
  rw [← List.head?_reverse, ← newest]

/-- The rows of a chain are in the order of their ids. -/
theorem Chain.insertionSort_eq (chain : Chain hashed nextId rows) :
    (rows.insertionSort fun first second => first.id ≤ second.id) = rows :=
  List.Pairwise.insertionSort_eq (chain.ordered.imp Nat.le_of_lt)

end Chains

/-- An audit call goes from its lock over the latest hash to its insert. -/
inductive AuditStage where
  | resting
  | locked (key : String)
  | read (workspaceId : Uuid) (found : Option String)
  | digested (workspaceId : Uuid) (found : Option String) (text digest : String)

/-- The previous hash is the latest hash, as one of the processes reads it. -/
def NamesLatest (found : Option String) (prevHash : String) : Prop :=
  prevHash = hashOrZeros found ∨ prevHash = found.getD genesisHash

/-- An entry is inserted with the hash of a text that starts with the previous hash. -/
def AuditStage.allowed : AuditStage → AuditCommand → Prop
  | .resting, .advisoryLock _ => True
  | .resting, .commit => True
  | .resting, .rollback => True
  | .locked key, .latestHash workspaceId => key = auditKey workspaceId
  | .read _ _, .now => True
  | .read _ _, .digest _ => True
  | .digested workspaceId found text digest, .insert columns =>
      columns.workspaceId = workspaceId ∧ columns.hash = digest ∧
        NamesLatest found columns.prevHash ∧ ∃ payload, text = columns.prevHash ++ payload
  | _, _ => False

def AuditStage.next : AuditStage → (issued : AuditCommand) → issued.Reply → AuditStage
  | _, .advisoryLock key, _ => .locked key
  | _, .latestHash workspaceId, found => .read workspaceId found
  | stage, .now, _ => stage
  | .read workspaceId found, .digest text, digest => .digested workspaceId found text digest
  | _, _, _ => .resting

/-- The conversation of a transaction with the database. -/
def auditConversation : Conversation AuditCommand AuditCommand.Reply AuditStage where
  allowed := AuditStage.allowed
  next := AuditStage.next

/-- A program keeps to the stages of an audit call. -/
abbrev Chains (stage : AuditStage) (program : AuditProgram Unit) : Prop :=
  program.Converses auditConversation stage

section Programs

/-- A call of `audit` comes back to rest. -/
theorem audit_chains (process : AuditProcess) (call : AuditCall) {later : Unit → AuditProgram Unit}
    (rests : Chains .resting (later ())) : Chains .resting (process.audit call >>= later) := by
  cases process with
  | api =>
      exact ⟨trivial, fun _ => ⟨rfl, fun _ => ⟨trivial, fun _ => ⟨trivial, fun _ =>
        ⟨⟨rfl, rfl, Or.inl rfl, _, rfl⟩, fun _ => rests⟩⟩⟩⟩⟩
  | worker =>
      exact ⟨trivial, fun _ => ⟨rfl, fun _ => ⟨trivial, fun _ => ⟨trivial, fun _ =>
        ⟨⟨rfl, rfl, Or.inr rfl, _, rfl⟩, fun _ => rests⟩⟩⟩⟩⟩

/-- A transaction keeps to the stages of its calls. -/
theorem transaction_chains (transaction : AuditTransaction) :
    Chains .resting transaction.program := by
  obtain ⟨calls, commits⟩ := transaction
  unfold AuditTransaction.program
  induction calls with
  | nil =>
      cases commits with
      | true => exact ⟨trivial, fun _ => trivial⟩
      | false => exact ⟨trivial, fun _ => trivial⟩
  | cons first rest ih =>
      obtain ⟨process, call⟩ := first
      simp only [auditCalls, bind_assoc]
      exact audit_chains process call ih

end Programs

section Safety

variable [Sha256] [HashText]

/-- The transaction has the advisory lock of the key. -/
def AuditTable.Holds (table : AuditTable) (id : Nat) (key : String) : Prop :=
  table.locks.lookup (HashText.hashtext key) = some id

/-- The committed rows and the rows of a transaction form chains, and the transaction has the locks of
its rows. -/
structure AuditSession.Safe (own : AuditSession) (table : AuditTable) : Prop where
  chains : ∀ workspaceId,
    Chain table.hashed table.nextId (rowsOf workspaceId (table.rows ++ own.pending))
  guarded : ∀ row ∈ own.pending, table.Holds own.id (auditKey row.workspaceId)

/-- What a transaction knows in a stage. -/
def AuditStage.Fits (own : AuditSession) (table : AuditTable) : AuditStage → Prop
  | .resting => True
  | .locked key => table.Holds own.id key
  | .read workspaceId found => table.Holds own.id (auditKey workspaceId) ∧
      found = latestRowHash workspaceId (table.rows ++ own.pending)
  | .digested workspaceId found text digest => table.Holds own.id (auditKey workspaceId) ∧
      found = latestRowHash workspaceId (table.rows ++ own.pending) ∧
        digest = Sha256.hexdigest text ∧ text ∈ table.hashed

/-- A transaction is safe, and it goes on in a stage that fits. -/
def Secured (table : AuditTable) (thread : AuditThread) : Prop :=
  thread.own.Safe table ∧ ∃ stage, Chains stage thread.program ∧ stage.Fits thread.own table

/-- The committed rows form chains, and every transaction is secured. -/
structure AuditPool.Unforked (pool : AuditPool) : Prop where
  chains : ∀ workspaceId,
    Chain pool.shared.hashed pool.shared.nextId (rowsOf workspaceId pool.shared.rows)
  numbered : ∀ index (thread : AuditThread), pool.threads[index]? = some thread →
    thread.own.id = index
  secured : ∀ thread ∈ pool.threads, Secured pool.shared thread

/-- What another transaction may do to the table: it keeps the locks of this transaction and commits
rows of other workspaces only. -/
structure Undisturbed (id : Nat) (table next : AuditTable) : Prop where
  hashed : table.hashed ⊆ next.hashed
  nextId : table.nextId ≤ next.nextId
  holds : ∀ key, table.Holds id key → next.Holds id key
  rows : ∃ later, next.rows = table.rows ++ later ∧
    ∀ row ∈ later, ¬ table.Holds id (auditKey row.workspaceId)
  chains : ∀ workspaceId, Chain next.hashed next.nextId (rowsOf workspaceId next.rows)

variable {own : AuditSession} {table next : AuditTable}

/-- The rows of a workspace that the transaction has locked stay the same. -/
theorem Undisturbed.rowsOf_eq (undisturbed : Undisturbed own.id table next) {workspaceId : Uuid}
    (held : table.Holds own.id (auditKey workspaceId)) :
    rowsOf workspaceId (next.rows ++ own.pending) =
      rowsOf workspaceId (table.rows ++ own.pending) := by
  obtain ⟨later, rows, foreign⟩ := undisturbed.rows
  have none : rowsOf workspaceId later = [] := by
    apply rowsOf_eq_nil
    rintro row inside rfl
    exact foreign row inside held
  rw [rows, rowsOf_append, rowsOf_append, rowsOf_append, none, List.append_nil]

/-- The latest hash of such a workspace stays the same. -/
theorem Undisturbed.latestRowHash_eq (undisturbed : Undisturbed own.id table next)
    {workspaceId : Uuid} (held : table.Holds own.id (auditKey workspaceId)) :
    latestRowHash workspaceId (next.rows ++ own.pending) =
      latestRowHash workspaceId (table.rows ++ own.pending) := by
  have same := undisturbed.rowsOf_eq held
  unfold rowsOf at same
  unfold latestRowHash
  rw [same]

theorem AuditSession.Safe.undisturbed (safe : own.Safe table)
    (undisturbed : Undisturbed own.id table next) : own.Safe next where
  chains workspaceId := by
    by_cases idle : rowsOf workspaceId own.pending = []
    · rw [rowsOf_append, idle, List.append_nil]
      exact undisturbed.chains workspaceId
    · obtain ⟨row, inside⟩ := List.exists_mem_of_ne_nil _ idle
      obtain ⟨pending, named⟩ := List.mem_filter.mp inside
      have held := safe.guarded row pending
      rw [of_decide_eq_true named] at held
      rw [undisturbed.rowsOf_eq held]
      exact (safe.chains workspaceId).mono undisturbed.hashed undisturbed.nextId
  guarded row inside := undisturbed.holds _ (safe.guarded row inside)

theorem AuditStage.Fits.undisturbed {stage : AuditStage} (fits : stage.Fits own table)
    (undisturbed : Undisturbed own.id table next) : stage.Fits own next := by
  cases stage with
  | resting => trivial
  | locked key => exact undisturbed.holds key fits
  | read workspaceId found =>
      obtain ⟨held, latest⟩ := fits
      exact ⟨undisturbed.holds _ held, latest.trans (undisturbed.latestRowHash_eq held).symm⟩
  | digested workspaceId found text digest =>
      obtain ⟨held, latest, digests, among⟩ := fits
      exact ⟨undisturbed.holds _ held, latest.trans (undisturbed.latestRowHash_eq held).symm,
        digests, undisturbed.hashed among⟩

/-- A transaction stays secured while others go on. -/
theorem Secured.undisturbed {thread : AuditThread}
    (secured : Secured table thread) (undisturbed : Undisturbed thread.own.id table next) :
    Secured next thread := by
  obtain ⟨safe, stage, chains, fits⟩ := secured
  exact ⟨safe.undisturbed undisturbed, stage, chains, fits.undisturbed undisturbed⟩

section Steps

variable {stage : AuditStage} {other : Nat}

/-- What an answered command has to keep. -/
structure Kept (stage : AuditStage) (own : AuditSession) (table : AuditTable)
    (issued : AuditCommand) : Prop where
  safe : (AuditSession.answer issued (own, table)).2.1.Safe
    (AuditSession.answer issued (own, table)).2.2
  fits : (stage.next issued (AuditSession.answer issued (own, table)).1).Fits
    (AuditSession.answer issued (own, table)).2.1 (AuditSession.answer issued (own, table)).2.2
  id : (AuditSession.answer issued (own, table)).2.1.id = own.id
  undisturbed : ∀ other, other ≠ own.id →
    Undisturbed other table (AuditSession.answer issued (own, table)).2.2

/-- More may be hashed and more ids may be drawn. -/
theorem Undisturbed.of_growth
    (chains : ∀ workspaceId, Chain table.hashed table.nextId (rowsOf workspaceId table.rows))
    {hashed : List String} {nextId : Nat} (grows : table.hashed ⊆ hashed)
    (draws : table.nextId ≤ nextId) :
    Undisturbed other table { table with hashed, nextId } where
  hashed := grows
  nextId := draws
  holds _ held := held
  rows := ⟨[], (List.append_nil _).symm, by simp⟩
  chains workspaceId := (chains workspaceId).mono grows draws

/-- The committed rows form chains without the rows of a transaction. -/
theorem AuditSession.Safe.committed (safe : own.Safe table) (workspaceId : Uuid) :
    Chain table.hashed table.nextId (rowsOf workspaceId table.rows) := by
  have whole := safe.chains workspaceId
  rw [rowsOf_append] at whole
  exact whole.left

/-- A transaction takes a lock that no other one has. -/
theorem advisoryLock_kept (safe : own.Safe table) {key : String}
    (free : ∀ owner, table.locks.lookup (HashText.hashtext key) = some owner → owner = own.id) :
    Kept stage own table (.advisoryLock key) := by
  by_cases held : table.locks.lookup (HashText.hashtext key) = some own.id
  · have same : AuditSession.answer (.advisoryLock key) (own, table) = ((), own, table) :=
      if_pos held
    have unchanged (other : Nat) : Undisturbed other table table :=
      Undisturbed.of_growth safe.committed (List.Subset.refl _) (Nat.le_refl _)
    exact ⟨by rw [same]; exact safe, by rw [same]; exact held, by rw [same],
      fun other _ => by rw [same]; exact unchanged other⟩
  · let taken : AuditTable :=
      { table with locks := (HashText.hashtext key, own.id) :: table.locks }
    have same : AuditSession.answer (.advisoryLock key) (own, table) = ((), own, taken) :=
      if_neg held
    have holds (id : Nat) (name : String) (before : table.Holds id name) : taken.Holds id name := by
      unfold AuditTable.Holds at before ⊢
      rw [List.lookup_cons]
      by_cases shared : HashText.hashtext name = HashText.hashtext key
      · rw [shared] at before
        rw [shared, beq_self_eq_true, free id before]
      · rw [beq_false_of_ne shared]
        exact before
    have mine : taken.Holds own.id key := by
      unfold AuditTable.Holds
      rw [List.lookup_cons, beq_self_eq_true]
    have undisturbed (other : Nat) : Undisturbed other table taken :=
      { hashed := List.Subset.refl _
        nextId := Nat.le_refl _
        holds := fun name before => holds other name before
        rows := ⟨[], (List.append_nil _).symm, by simp⟩
        chains := safe.committed }
    exact ⟨by rw [same]; exact ⟨safe.chains, fun row inside => holds _ _ (safe.guarded row inside)⟩,
      by rw [same]; exact mine, by rw [same], fun other _ => by rw [same]; exact undisturbed other⟩

/-- A read of the latest hash changes nothing. -/
theorem latestHash_kept (safe : own.Safe table) {workspaceId : Uuid}
    (fits : AuditStage.Fits own table (.locked (auditKey workspaceId))) :
    Kept stage own table (.latestHash workspaceId) where
  safe := safe
  fits := ⟨fits, rfl⟩
  id := rfl
  undisturbed _ _ :=
    Undisturbed.of_growth safe.committed (List.Subset.refl _) (Nat.le_refl _)

/-- Neither does a reading of the clock. -/
theorem now_kept (safe : own.Safe table) (fits : stage.Fits own table) :
    Kept stage own table .now where
  safe := ⟨safe.chains, safe.guarded⟩
  fits := by cases stage <;> exact fits
  id := rfl
  undisturbed _ _ :=
    Undisturbed.of_growth safe.committed (List.Subset.refl _) (Nat.le_refl _)

/-- A digest is remembered. -/
theorem digest_kept (safe : own.Safe table) {workspaceId : Uuid} {found : Option String}
    {text : String} (fits : AuditStage.Fits own table (.read workspaceId found)) :
    Kept (.read workspaceId found) own table (.digest text) where
  safe := ⟨fun other => (safe.chains other).mono (List.subset_append_left _ _) (Nat.le_refl _),
    safe.guarded⟩
  fits := ⟨fits.1, fits.2, rfl, List.mem_append_right _ List.mem_cons_self⟩
  id := rfl
  undisturbed _ _ :=
    Undisturbed.of_growth safe.committed (List.subset_append_left _ _) (Nat.le_refl _)

omit [HashText] in
/-- Both processes take the latest hash of a chain for the previous hash. -/
theorem prevHash_eq_tip [LawfulSha256] {hashed : List String} {nextId : Nat} {rows : List AuditRow}
    {workspaceId : Uuid} (chain : Chain hashed nextId (rowsOf workspaceId rows)) {prevHash : String}
    (latest : NamesLatest (latestRowHash workspaceId rows) prevHash) :
    prevHash = tip (·.hash) genesisHash (rowsOf workspaceId rows) := by
  have found : latestRowHash workspaceId rows =
      (rowsOf workspaceId rows).getLast?.map (·.hash) :=
    congrArg (Option.map _) chain.head?_newest
  rw [found] at latest
  unfold tip
  obtain api | worker := latest
  · rw [api]
    cases last : (rowsOf workspaceId rows).getLast? with
    | none => rfl
    | some row =>
        have some : row.hash ≠ "" := by
          intro empty
          have long := chain.length_hash row (List.mem_of_getLast? last)
          rw [empty] at long
          exact absurd long (by decide)
        exact if_neg some
  · exact worker

omit [Sha256] [HashText] in
theorem rowsOf_concat (rows : List AuditRow) (row : AuditRow) :
    rowsOf row.workspaceId (rows ++ [row]) = rowsOf row.workspaceId rows ++ [row] := by
  have inside : rowsOf row.workspaceId [row] = [row] := List.filter_eq_self.mpr (by simp)
  rw [rowsOf_append, inside]

omit [HashText] in
/-- A row that extends the chain of its workspace leaves the other chains alone. -/
theorem chains_concat {hashed : List String} {nextId : Nat} {rows : List AuditRow}
    (chains : ∀ workspaceId, Chain hashed nextId (rowsOf workspaceId rows)) {row : AuditRow}
    (names : row.prevHash = tip (·.hash) genesisHash (rowsOf row.workspaceId rows))
    (id : row.id = nextId) (digest : row.Sealed hashed) (workspaceId : Uuid) :
    Chain hashed (nextId + 1) (rowsOf workspaceId (rows ++ [row])) := by
  by_cases same : row.workspaceId = workspaceId
  · subst same
    rw [rowsOf_concat]
    exact (chains row.workspaceId).concat names id digest
  · have outside : rowsOf workspaceId [row] = [] := rowsOf_eq_nil (by simpa using same)
    rw [rowsOf_append, outside, List.append_nil]
    exact (chains workspaceId).mono (List.Subset.refl _) (Nat.le_succ _)

/-- An inserted row extends the chain of its workspace. -/
theorem insert_kept [LawfulSha256] (safe : own.Safe table) {workspaceId : Uuid}
    {found : Option String} {text digest : String}
    (fits : AuditStage.Fits own table (.digested workspaceId found text digest))
    {columns : AuditColumns}
    (allowed : AuditStage.allowed (.digested workspaceId found text digest) (.insert columns)) :
    Kept stage own table (.insert columns) := by
  obtain ⟨held, rfl, rfl, among⟩ := fits
  obtain ⟨rfl, hash, latest, payload, rfl⟩ := allowed
  let row := columns.row table.nextId own.started
  have named : row.prevHash =
      tip (·.hash) genesisHash (rowsOf columns.workspaceId (table.rows ++ own.pending)) :=
    prevHash_eq_tip (safe.chains columns.workspaceId) latest
  constructor
  · constructor
    · intro other
      change Chain table.hashed (table.nextId + 1)
        (rowsOf other (table.rows ++ (own.pending ++ [row])))
      rw [← List.append_assoc]
      exact chains_concat safe.chains named rfl ⟨payload, among, hash⟩ other
    · intro other inside
      obtain earlier | last := List.mem_append.mp inside
      · exact safe.guarded other earlier
      · rw [List.mem_singleton.mp last]
        exact held
  · cases stage <;> trivial
  · rfl
  · exact fun other _ =>
      Undisturbed.of_growth safe.committed (List.Subset.refl _) (Nat.le_succ _)

omit [Sha256] [HashText] in
/-- A lock of another transaction stays when a transaction releases its own. -/
theorem lookup_release {locks : List (Int × Nat)} {key : Int} {id other : Nat} (different : id ≠ other)
    (held : locks.lookup key = some id) :
    (locks.filter fun lock => lock.2 ≠ other).lookup key = some id := by
  induction locks with
  | nil => exact absurd held (by simp)
  | cons lock rest ih =>
      obtain ⟨name, owner⟩ := lock
      rw [List.lookup_cons] at held
      by_cases same : key = name
      · subst same
        rw [beq_self_eq_true] at held
        obtain rfl := Option.some.inj held
        rw [List.filter_cons_of_pos (by simpa using different), List.lookup_cons,
          beq_self_eq_true]
      · rw [beq_false_of_ne same] at held
        by_cases mine : owner = other
        · rw [List.filter_cons_of_neg (by simpa using mine)]
          exact ih held
        · rw [List.filter_cons_of_pos (by simpa using mine), List.lookup_cons,
            beq_false_of_ne same]
          exact ih held

/-- A commit publishes the rows of a transaction, and nobody else has locked their workspaces. -/
theorem commit_kept (safe : own.Safe table) : Kept stage own table .commit where
  safe := ⟨by simpa [AuditSession.answer] using safe.chains, by simp [AuditSession.answer]⟩
  fits := by cases stage <;> trivial
  id := rfl
  undisturbed other different :=
    { hashed := List.Subset.refl _
      nextId := Nat.le_refl _
      holds := fun _ held => lookup_release different held
      rows := by
        refine ⟨own.pending, rfl, fun row inside held => ?_⟩
        exact different (Option.some.inj (held.symm.trans (safe.guarded row inside)))
      chains := safe.chains }

/-- A rollback drops the rows of a transaction. -/
theorem rollback_kept (safe : own.Safe table) : Kept stage own table .rollback where
  safe := ⟨by simpa [AuditSession.answer] using safe.committed, by simp [AuditSession.answer]⟩
  fits := by cases stage <;> trivial
  id := rfl
  undisturbed other different :=
    { hashed := List.Subset.refl _
      nextId := Nat.le_refl _
      holds := fun _ held => lookup_release different held
      rows := ⟨[], (List.append_nil _).symm, by simp⟩
      chains := safe.committed }

/-- A transaction keeps the table in order with every command of its stage. -/
theorem command_kept [LawfulSha256] (safe : own.Safe table) (fits : stage.Fits own table)
    {issued : AuditCommand} (allowed : stage.allowed issued)
    (free : ∀ key, issued = .advisoryLock key → ∀ owner,
      table.locks.lookup (HashText.hashtext key) = some owner → owner = own.id) :
    Kept stage own table issued := by
  cases issued with
  | advisoryLock key => exact advisoryLock_kept safe (free key rfl)
  | latestHash workspaceId =>
      cases stage with
      | locked key =>
          obtain rfl : key = auditKey workspaceId := allowed
          exact latestHash_kept safe fits
      | _ => exact absurd allowed id
  | now => exact now_kept safe fits
  | digest text =>
      cases stage with
      | read workspaceId found => exact digest_kept safe fits
      | _ => exact absurd allowed id
  | insert columns =>
      cases stage with
      | digested workspaceId found text digest => exact insert_kept safe fits allowed
      | _ => exact absurd allowed id
  | commit => exact commit_kept safe
  | rollback => exact rollback_kept safe

end Steps

namespace AuditPool.Unforked

variable {pool : AuditPool}

/-- One transaction goes on, and the others are not disturbed. -/
theorem replaced (unforked : pool.Unforked) {index : Nat} {thread stepped : AuditThread}
    {table : AuditTable} (found : pool.threads[index]? = some thread)
    (id : stepped.own.id = thread.own.id) (secured : Secured table stepped)
    (undisturbed : ∀ other, other ≠ thread.own.id → Undisturbed other pool.shared table) :
    AuditPool.Unforked { shared := table, threads := pool.threads.set index stepped } where
  chains := secured.1.committed
  numbered other otherThread inside := by
    change (pool.threads.set index stepped)[other]? = some otherThread at inside
    rw [List.getElem?_set] at inside
    split at inside
    · rename_i same
      split at inside
      · rw [← Option.some.inj inside, id, ← same]
        exact unforked.numbered index thread found
      · exact absurd inside (by simp)
    · exact unforked.numbered other otherThread inside
  secured := by
    apply Pool.forall_set secured
    intro other otherThread different inside
    have own : otherThread.own.id ≠ thread.own.id := by
      rw [unforked.numbered other otherThread inside, unforked.numbered index thread found]
      exact different
    exact (unforked.secured otherThread (List.mem_of_getElem? inside)).undisturbed
      (undisturbed _ own)

/-- A transaction that goes on keeps the chains. -/
theorem advance [LawfulSha256] (unforked : pool.Unforked) (index : Nat) :
    (pool.advance index).Unforked := by
  unfold AuditPool.advance
  cases waiting : pool.waits index with
  | true => exact unforked
  | false =>
      rw [if_neg Bool.false_ne_true]
      obtain ⟨same, _⟩ | ⟨issued, rest, own, found, _, same⟩ :=
        Pool.step_cases AuditSession.answer index pool
      · rw [same]
        exact unforked
      · rw [same]
        obtain ⟨safe, stage, chains, fits⟩ := unforked.secured _ (List.mem_of_getElem? found)
        have free (key : String) (locks : issued = .advisoryLock key) (owner : Nat)
            (held : pool.shared.locks.lookup (HashText.hashtext key) = some owner) :
            owner = own.id := by
          subst locks
          unfold AuditPool.waits at waiting
          simpa [found, held] using waiting
        have kept : Kept stage own pool.shared issued := command_kept safe fits chains.1 free
        exact unforked.replaced found kept.id ⟨kept.safe, _, chains.2 _, kept.fits⟩ kept.undisturbed

/-- So does a transaction that is rolled back. -/
theorem abort (unforked : pool.Unforked) (index : Nat) : (pool.abort index).Unforked := by
  unfold AuditPool.abort
  split
  · exact unforked
  · rename_i thread found
    obtain ⟨safe, _⟩ := unforked.secured thread (List.mem_of_getElem? found)
    have kept : Kept .resting thread.own pool.shared .rollback := rollback_kept safe
    exact unforked.replaced found kept.id ⟨kept.safe, .resting, trivial, trivial⟩ kept.undisturbed

/-- A new transaction has no rows yet. -/
theorem started (unforked : pool.Unforked) (transaction : AuditTransaction) (time : Time)
    (readings : List Time) :
    ((AuditAction.start transaction time readings).step pool).Unforked := by
  let own : AuditSession := { id := pool.threads.length, started := time, readings, pending := [] }
  have safe : own.Safe pool.shared := by
    constructor
    · intro workspaceId
      rw [List.append_nil]
      exact unforked.chains workspaceId
    · simp [own]
  constructor
  · exact unforked.chains
  · intro index thread inside
    change (pool.threads ++ [⟨transaction.program, own⟩])[index]? = some thread at inside
    rw [List.getElem?_append] at inside
    split at inside
    · exact unforked.numbered index thread inside
    · rw [List.getElem?_singleton] at inside
      split at inside
      · rw [← Option.some.inj inside]
        change pool.threads.length = index
        omega
      · exact absurd inside (by simp)
  · intro thread inside
    obtain earlier | last := List.mem_append.mp inside
    · exact unforked.secured thread earlier
    · rw [List.mem_singleton.mp last]
      exact ⟨safe, .resting, transaction_chains transaction, trivial⟩

/-- Every action keeps the chains. -/
theorem action [LawfulSha256] (unforked : pool.Unforked) (action : AuditAction) :
    (action.step pool).Unforked := by
  cases action with
  | start transaction time readings => exact unforked.started transaction time readings
  | advance index => exact unforked.advance index
  | abort index => exact unforked.abort index

end AuditPool.Unforked

section Seeds

/-- The seeding loop extends the chain of its workspace. -/
theorem seedAudit_chains {workspaceId : Uuid} {calls : List AuditCall}
    (alone : ∀ call ∈ calls, call.workspaceId = workspaceId) {prev : String} {own : AuditSession}
    {table : AuditTable}
    (chains : ∀ other, Chain table.hashed table.nextId (rowsOf other (table.rows ++ own.pending)))
    (names : prev = tip (·.hash) genesisHash (rowsOf workspaceId (table.rows ++ own.pending))) :
    ∃ done : AuditSession × AuditTable,
      (seedAudit calls prev).run AuditSession.answer (own, table) = ((), done) ∧
      done.2.rows = table.rows ∧
      (∀ other, Chain done.2.hashed done.2.nextId (rowsOf other (done.2.rows ++ done.1.pending))) ∧
      ∀ row ∈ done.1.pending, row ∈ own.pending ∨ row.workspaceId = workspaceId := by
  induction calls generalizing prev own table with
  | nil => exact ⟨(own, table), rfl, rfl, chains, fun row inside => Or.inl inside⟩
  | cons call rest ih =>
      rw [List.forall_mem_cons] at alone
      obtain ⟨rfl, others⟩ := alone
      let text := prev ++ (call.payload (own.readings.headD 0)).canonical
      let columns : AuditColumns :=
        { workspaceId := call.workspaceId, actor := call.actor, action := call.action
          targetType := call.targetType, targetId := call.targetId
          before := some (PyValue.given call.before).json
          after := some (PyValue.given call.after).json
          correlationId := call.correlationId, prevHash := prev, hash := Sha256.hexdigest text }
      let row := columns.row table.nextId own.started
      let own' : AuditSession :=
        { own with readings := own.readings.tail, pending := own.pending ++ [row] }
      let table' : AuditTable :=
        { table with hashed := table.hashed ++ [text], nextId := table.nextId + 1 }
      have ran : (seedAudit (call :: rest) prev).run AuditSession.answer (own, table) =
          (seedAudit rest row.hash).run AuditSession.answer (own', table') := rfl
      have grown (other : Uuid) : Chain (table.hashed ++ [text]) table.nextId
          (rowsOf other (table.rows ++ own.pending)) :=
        (chains other).mono (List.subset_append_left _ _) (Nat.le_refl _)
      have extended (other : Uuid) : Chain table'.hashed table'.nextId
          (rowsOf other (table'.rows ++ own'.pending)) := by
        change Chain _ _ (rowsOf other (table.rows ++ (own.pending ++ [row])))
        rw [← List.append_assoc]
        exact chains_concat grown names rfl
          ⟨_, List.mem_append_right _ List.mem_cons_self, rfl⟩ other
      have last : row.hash =
          tip (·.hash) genesisHash (rowsOf call.workspaceId (table'.rows ++ own'.pending)) := by
        change _ = tip _ _ (rowsOf row.workspaceId (table.rows ++ (own.pending ++ [row])))
        rw [← List.append_assoc, rowsOf_concat, tip_concat]
      obtain ⟨done, later, rows, all, members⟩ := ih others extended last
      refine ⟨done, ran.trans later, rows, all, fun other inside => ?_⟩
      obtain earlier | own := members other inside
      · obtain before | new := List.mem_append.mp earlier
        · exact Or.inl before
        · rw [List.mem_singleton.mp new]
          exact Or.inr rfl
      · exact Or.inr own

omit [Sha256] [HashText] in
/-- The entries of a demo session belong to its workspace. -/
theorem DemoSession.entries_workspaceId (session : DemoSession) :
    ∀ call ∈ session.entries, call.workspaceId = session.workspaceId := by
  simp [DemoSession.entries]

/-- A new demo workspace has a chain of its own. -/
theorem AuditTable.seed_chains {table : AuditTable} {seed : DemoSeed}
    (chains : ∀ other, Chain table.hashed table.nextId (rowsOf other table.rows))
    (fresh : rowsOf seed.session.workspaceId table.rows = []) :
    (∀ other, Chain (table.seed seed).hashed (table.seed seed).nextId
      (rowsOf other (table.seed seed).rows)) ∧
      ∀ other, other ≠ seed.session.workspaceId →
        rowsOf other (table.seed seed).rows = rowsOf other table.rows := by
  let own : AuditSession :=
    { id := 0, started := seed.started, readings := seed.readings, pending := [] }
  have names : genesisHash = tip (·.hash) genesisHash
      (rowsOf seed.session.workspaceId (table.rows ++ own.pending)) := by
    rw [List.append_nil, fresh]
    rfl
  obtain ⟨done, ran, rows, all, members⟩ := @seedAudit_chains _ _ _ _
    seed.session.entries_workspaceId genesisHash own table
    (by simpa only [own, List.append_nil] using chains) names
  have committed : table.seed seed = (AuditSession.answer .commit done).2.2 := by
    unfold AuditTable.seed
    simp only [Program.run_bind]
    rw [ran]
    rfl
  have published : (table.seed seed).rows = table.rows ++ done.1.pending := by
    rw [committed, ← rows]
    rfl
  constructor
  · intro other
    rw [committed]
    exact all other
  · intro other different
    have none : rowsOf other done.1.pending = [] := by
      apply rowsOf_eq_nil
      rintro row inside rfl
      obtain before | own := members row inside
      · exact absurd before List.not_mem_nil
      · exact different own
    rw [published, rowsOf_append, none, List.append_nil]

/-- The log starts with chains where each demo session has a workspace of its own. -/
theorem AuditPool.start_unforked {seeds : List DemoSeed}
    (fresh : (seeds.map (·.session.workspaceId)).Nodup) : (AuditPool.start seeds).Unforked := by
  have seeded (table : AuditTable)
      (chains : ∀ other, Chain table.hashed table.nextId (rowsOf other table.rows))
      (unseeded : ∀ seed ∈ seeds, rowsOf seed.session.workspaceId table.rows = []) :
      ∀ other, Chain (seeds.foldl AuditTable.seed table).hashed
        (seeds.foldl AuditTable.seed table).nextId
          (rowsOf other (seeds.foldl AuditTable.seed table).rows) := by
    induction seeds generalizing table with
    | nil => exact chains
    | cons seed rest ih =>
        rw [List.map_cons, List.nodup_cons] at fresh
        rw [List.forall_mem_cons] at unseeded
        obtain ⟨all, kept⟩ := AuditTable.seed_chains chains unseeded.1
        apply ih fresh.2 (table.seed seed) all
        intro later inside
        have different : later.session.workspaceId ≠ seed.session.workspaceId :=
          fun same => fresh.1 (same ▸ List.mem_map_of_mem inside)
        rw [kept _ different]
        exact unseeded.2 later inside
  exact ⟨seeded .empty (fun _ => chain_nil) (fun _ _ => rfl), by simp [AuditPool.start],
    by simp [AuditPool.start]⟩

end Seeds

end Safety

/-- The audit chain of a workspace never forks: its rows form a chain, and no two of them name the same
hash where the digest neither collides on what was hashed nor gives 64 zeros. -/
theorem audit_chain_never_forks [Sha256] [LawfulSha256] [HashText] {seeds : List DemoSeed}
    (fresh : (seeds.map (·.session.workspaceId)).Nodup) (actions : List AuditAction)
    (workspaceId : Uuid) :
    let table := (runActions AuditAction.step actions (AuditPool.start seeds)).shared
    Linked (·.prevHash) (·.hash) genesisHash (table.log workspaceId) ∧
      (Sha256.Separates table.hashed →
        (∀ text ∈ table.hashed, Sha256.hexdigest text ≠ genesisHash) →
          ((table.log workspaceId).map (·.prevHash)).Nodup) := by
  intro table
  have unforked : (runActions AuditAction.step actions (AuditPool.start seeds)).Unforked :=
    invariant_always AuditPool.Unforked
      (fun pool action unforked => unforked.action action) (AuditPool.start_unforked fresh)
  have chain : Chain table.hashed table.nextId (rowsOf workspaceId table.rows) :=
    unforked.chains workspaceId
  have log : table.log workspaceId = rowsOf workspaceId table.rows := chain.insertionSort_eq
  rw [log]
  refine ⟨chain.linked, fun separates nonzero => ?_⟩
  apply chain.linked.nodup_prev
  · exact chain.prev_eq_of_hash separates
  · intro row inside
    obtain ⟨payload, among, digest⟩ := chain.digests row inside
    rw [digest]
    exact nonzero _ among

section Examples

/-- The api and the worker write an entry for one workspace. The worker first waits for the lock. -/
def contendedActions : List AuditAction :=
  [.start { calls := [(.api, approvalCall)], commits := true } 5 [6],
    .start { calls := [(.worker, approvalCall)], commits := true } 5 [7],
    .advance 0, .advance 1] ++ List.replicate 5 (.advance 0) ++ List.replicate 6 (.advance 1)

theorem markingDigest_lawful (marked : String) : @LawfulSha256 (markingDigest marked) :=
  @LawfulSha256.mk (markingDigest marked) fun text => by
    change (if text = marked then _ else _ : String).length = 64
    split <;> decide

/-- The table after both transactions. -/
def contendedTable : AuditTable :=
  (@runActions _ _ (@AuditAction.step (markingDigest (approvalText 6)) lengthText) contendedActions
    (@AuditPool.start (markingDigest (approvalText 6)) lengthText [])).shared

/-- The text that the worker hashes behind the entry of the api. -/
def secondText : String :=
  (markingDigest (approvalText 6)).hexdigest (approvalText 6) ++
    (approvalCall.payload 7).canonical

theorem contendedTable_hashed : contendedTable.hashed = [approvalText 6, secondText] := rfl

/-- Equal texts have equal starts of one length. -/
theorem starts_eq {first second : List Char} {firstRest secondRest : String}
    (length : first.length = second.length)
    (same : String.ofList first ++ firstRest = String.ofList second ++ secondRest) :
    first = second := by
  have texts := congrArg String.toList same
  rw [String.toList_append, String.toList_append, String.toList_ofList, String.toList_ofList] at texts
  exact (List.append_inj texts length).1

theorem secondText_ne : secondText ≠ approvalText 6 := by
  unfold secondText approvalText
  rw [hexdigest_marked]
  intro same
  have starts : List.replicate 64 'a' = List.replicate 64 '0' := starts_eq (by decide) same
  exact absurd starts (by decide)

/-- The digest tells the two texts apart. -/
theorem contendedTable_separates :
    @Sha256.Separates (markingDigest (approvalText 6)) contendedTable.hashed := by
  have different := hexdigest_ne secondText_ne
  rw [contendedTable_hashed]
  intro first inFirst second inSecond same
  simp only [List.mem_cons, List.not_mem_nil, or_false] at inFirst inSecond
  obtain rfl | rfl := inFirst <;> obtain rfl | rfl := inSecond
  · rfl
  · exact absurd same different
  · exact absurd same.symm different
  · rfl

/-- Both entries are in one chain, and they name different hashes. -/
theorem contended_never_forks :
    (contendedTable.log 1).length = 2 ∧
      Linked (·.prevHash) (·.hash) genesisHash (contendedTable.log 1) ∧
        ((contendedTable.log 1).map (·.prevHash)).Nodup := by
  obtain ⟨linked, distinct⟩ := @audit_chain_never_forks (markingDigest (approvalText 6))
    (markingDigest_lawful _) lengthText [] List.nodup_nil contendedActions 1
  refine ⟨rfl, linked, distinct contendedTable_separates ?_⟩
  intro text _ zeros
  change (if text = approvalText 6 then _ else _ : String) = genesisHash at zeros
  split at zeros <;> exact absurd zeros (by decide)

end Examples

end Sprawl
