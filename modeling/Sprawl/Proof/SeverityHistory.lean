/-
This file compares the severity that a secret row has with the history of its severities.
-/

import Sprawl.Proof.JobConversation
import Sprawl.Proof.Refresh

namespace Sprawl

open Effect

section History

/-- The severities that were ever computed for a secret. -/
def Database.historyOf (db : Database) (secretId : Uuid) : List Severity :=
  db.severities.filter (·.secretId = secretId)

/-- No row of the history was computed later. -/
def Latest (history : List Severity) (row : Severity) : Prop :=
  row ∈ history ∧ ∀ other ∈ history, other.computedAt ≤ row.computedAt

/-- The secret has the score of its latest severity, and the bucket of this score. -/
def Database.Agrees (db : Database) (secretId : Uuid) : Prop :=
  ∀ row, Latest (db.historyOf secretId) row → ∀ stored ∈ db.storedSeverity secretId,
    stored = (some row.score, some (toBucket row.score))

/-- A run has written a severity of the secret since the start. -/
def Database.WrittenSince (start db : Database) (secretId : Uuid) : Prop :=
  ∃ row ∈ db.historyOf secretId, row ∉ start.severities

/-- Once a run has written a severity, the secret agrees with its history. -/
def HistoryAgrees (start : Database) (secretId : Uuid) (pool : JobPool) : Prop :=
  start.WrittenSince pool.shared secretId → pool.shared.Agrees secretId

/-- The insert of a severity finds its parents, its identifier is new, and its explanation can be
stored. -/
def Database.InsertsSeverity (db : Database) (id workspaceId secretId : Uuid)
    (explanation : Option String) : Prop :=
  explanation.all storableText = true ∧ id ∉ db.severities.map (·.id) ∧
    db.hasWorkspace workspaceId = true ∧ db.hasSecret secretId = true

/-- A severity that is about to be committed comes behind a later one with another score. -/
def Overtakes (start : Database) (secretId : Uuid) (transaction : JobTransaction) (db : Database) :
    Prop :=
  ∃ id workspaceId score factors explanation,
    .severity id workspaceId secretId score factors explanation ∈ transaction.pending ∧
    db.hasSecret secretId = true ∧
    (db.InsertsSeverity id workspaceId secretId explanation ∨ start.WrittenSince db secretId) ∧
    ∃ row, Latest (db.historyOf secretId) row ∧
      (db.InsertsSeverity id workspaceId secretId explanation →
        transaction.startedAt ≤ row.computedAt) ∧
      row.score ≠ score

/-- The action commits such a severity. -/
def CommitsOvertaken (start : Database) (secretId : Uuid) (pool : JobPool)
    (action : InvestigationAction) : Prop :=
  ∃ index rest own, action = .advance index ∧
    pool.threads[index]? = some ⟨.command .commit rest, own⟩ ∧ own.failure = none ∧
    Overtakes start secretId own pool.shared

end History

section Commit

variable [Sha256] {now : Time} {db : Database}

theorem applyAll_append (first second : List JobStatement) :
    db.applyAll now (first ++ second) = (db.applyAll now first).applyAll now second :=
  List.foldl_append

/-- Statements that write no severity keep the history and the severity of every secret. -/
theorem keepsSeverity_severities {statements : List JobStatement}
    (keeps : ∀ statement ∈ statements, KeepsSeverity statement) :
    (db.applyAll now statements).severities = db.severities := by
  apply Database.applyAll_keeps (·.severities)
  intro statement inside rows
  cases statement with
  | severity => exact (keeps _ inside).elim
  | _ => rfl

theorem keepsSeverity_secrets {statements : List JobStatement}
    (keeps : ∀ statement ∈ statements, KeepsSeverity statement) :
    (db.applyAll now statements).secrets = db.secrets := by
  apply Database.applyAll_keeps (·.secrets)
  intro statement inside rows
  cases statement with
  | secretSeverity => exact (keeps _ inside).elim
  | _ => rfl

theorem applyAll_workspaces {statements : List JobStatement} :
    (db.applyAll now statements).workspaces = db.workspaces := by
  apply Database.applyAll_keeps (·.workspaces)
  intro statement _ rows
  cases statement <;> rfl

/-- What a transaction with a severity commits. -/
structure SeverityCommitted (db committed : Database) (now : Time) (id workspaceId secretId : Uuid)
    (score : Int) (explanation : Option String) : Prop where
  added : db.InsertsSeverity id workspaceId secretId explanation → ∃ row : Severity,
    committed.severities = db.severities ++ [row] ∧ row.id = id ∧ row.secretId = secretId ∧
      row.score = score ∧ row.computedAt = now
  skipped : ¬ db.InsertsSeverity id workspaceId secretId explanation →
    committed.severities = db.severities
  stored : ∀ other, committed.storedSeverity other =
    if other = secretId then
      (db.storedSeverity other).map fun _ => (some score, some (toBucket score))
    else db.storedSeverity other

/-- The rows after an insert that may have been refused. -/
def insertedSeverity (now : Time) (db : Database) (id workspaceId secretId : Uuid) (score : Int)
    (factors : Document) (explanation : Option String) : Database :=
  db.applyAll now [.severity id workspaceId secretId score factors explanation]

theorem insertedSeverity_added {id workspaceId secretId : Uuid} {score : Int} {factors : Document}
    {explanation : Option String} (inserts : db.InsertsSeverity id workspaceId secretId explanation) :
    insertedSeverity now db id workspaceId secretId score factors explanation =
      { db with severities := db.severities ++
          [{ id, workspaceId, secretId, score, factors, explanation, computedAt := now }] } := by
  obtain ⟨storable, new, workspace, secret⟩ := inserts
  rw [← List.contains_iff_mem] at new
  have parents : (db.hasWorkspace workspaceId && db.hasSecret secretId) = true := by
    rw [workspace, secret]
    rfl
  refine Database.applyAll_cons_ok ?_
  rw [Database.jobApply, Database.insertSeverity_storable db storable, if_neg new,
    if_pos parents]

theorem insertedSeverity_skipped {id workspaceId secretId : Uuid} {score : Int} {factors : Document}
    {explanation : Option String} (skips : ¬ db.InsertsSeverity id workspaceId secretId explanation) :
    insertedSeverity now db id workspaceId secretId score factors explanation = db := by
  cases applied : db.jobApply now (.severity id workspaceId secretId score factors explanation) with
  | error raised => exact Database.applyAll_cons_error applied
  | ok written =>
      have same : written = db := by
        have storable := (Database.severity_accepted.mp ⟨written, applied⟩).1
        rw [Database.jobApply, Database.insertSeverity_storable db storable] at applied
        split at applied
        · exact (Except.ok.inj applied).symm
        · rename_i new
          split at applied
          · rename_i present
            rw [Bool.and_eq_true] at present
            rw [List.contains_iff_mem] at new
            exact absurd ⟨storable, new, present⟩ skips
          · cases applied
      rw [same] at applied
      exact Database.applyAll_cons_ok applied

theorem pair_commits {before after : List JobStatement} {id workspaceId secretId : Uuid}
    {score : Int} {factors : Document} {explanation : Option String}
    (first : ∀ statement ∈ before, KeepsSeverity statement)
    (last : ∀ statement ∈ after, KeepsSeverity statement) :
    SeverityCommitted db (db.applyAll now (before ++
      [.severity id workspaceId secretId score factors explanation,
        .secretSeverity secretId score (toBucket score)] ++ after)) now id workspaceId secretId
      score explanation := by
  let middle := db.applyAll now before
  let inserted := insertedSeverity now middle id workspaceId secretId score factors explanation
  have split : db.applyAll now (before ++
      [.severity id workspaceId secretId score factors explanation,
        .secretSeverity secretId score (toBucket score)] ++ after) =
      (inserted.updateSecretSeverity secretId score (toBucket score)).applyAll now after := by
    rw [applyAll_append, applyAll_append]
    rfl
  have middleSeverities : middle.severities = db.severities := keepsSeverity_severities first
  have middleSecrets : middle.secrets = db.secrets := keepsSeverity_secrets first
  have middleInserts : middle.InsertsSeverity id workspaceId secretId explanation ↔
      db.InsertsSeverity id workspaceId secretId explanation := by
    rw [Database.InsertsSeverity, Database.hasWorkspace, Database.hasSecret, middleSeverities,
      middleSecrets, applyAll_workspaces]
    exact Iff.rfl
  have sameSecrets : inserted.secrets = db.secrets := by
    refine Eq.trans ?_ middleSecrets
    exact Database.applyAll_keeps (·.secrets) fun statement inside rows => by
      rw [List.mem_singleton.mp inside]
      rfl
  have severities : (db.applyAll now (before ++
      [.severity id workspaceId secretId score factors explanation,
        .secretSeverity secretId score (toBucket score)] ++ after)).severities =
      inserted.severities := by
    rw [split, keepsSeverity_severities last]
    rfl
  refine ⟨fun inserts => ?_, fun skips => ?_, fun other => ?_⟩
  · rw [severities, ← middleSeverities]
    have added : inserted = _ := insertedSeverity_added (middleInserts.mpr inserts)
    rw [added]
    exact ⟨_, rfl, rfl, rfl, rfl, rfl⟩
  · have skipped : inserted = middle :=
      insertedSeverity_skipped (fun inserts => skips (middleInserts.mp inserts))
    rw [severities, skipped, middleSeverities]
  · rw [split, Database.storedSeverity, keepsSeverity_secrets last, ← Database.storedSeverity,
      Database.updateSecretSeverity_stored]
    rw [Database.storedSeverity, sameSecrets]
    rfl

end Commit

section Agreement

variable {start db committed : Database} {now : Time} {id workspaceId secretId : Uuid} {score : Int}
  {explanation : Option String}

theorem storedSeverity_ne_nil : db.storedSeverity secretId ≠ [] ↔ db.hasSecret secretId = true := by
  rw [Database.storedSeverity, Database.hasSecret, List.contains_iff_mem, ne_eq,
    List.map_eq_nil_iff, List.filter_eq_nil_iff, List.mem_map]
  simp

/-- The history after a commit. -/
theorem SeverityCommitted.history_added
    (commits : SeverityCommitted db committed now id workspaceId secretId score explanation)
    (inserts : db.InsertsSeverity id workspaceId secretId explanation) : ∃ row : Severity,
    committed.historyOf secretId = db.historyOf secretId ++ [row] ∧ row.id = id ∧
      row.score = score ∧ row.computedAt = now := by
  obtain ⟨row, severities, sameId, sameSecret, sameScore, sameTime⟩ := commits.added inserts
  refine ⟨row, ?_, sameId, sameScore, sameTime⟩
  rw [Database.historyOf, severities, List.filter_append, ← Database.historyOf,
    List.filter_singleton, sameSecret]
  simp

theorem SeverityCommitted.history_skipped
    (commits : SeverityCommitted db committed now id workspaceId secretId score explanation)
    (skips : ¬ db.InsertsSeverity id workspaceId secretId explanation) :
    committed.historyOf secretId = db.historyOf secretId := by
  rw [Database.historyOf, commits.skipped skips]
  rfl

/-- After a commit the secret agrees with its history when its latest severities have the score
that the commit stores. -/
theorem SeverityCommitted.agrees_iff
    (commits : SeverityCommitted db committed now id workspaceId secretId score explanation) :
    committed.Agrees secretId ↔ (db.hasSecret secretId = true →
      ∀ row, Latest (committed.historyOf secretId) row → row.score = score) := by
  have stored := commits.stored secretId
  rw [if_pos rfl] at stored
  rw [Database.Agrees, stored, ← storedSeverity_ne_nil]
  constructor
  · intro agrees present row latest
    obtain ⟨first, inside⟩ := List.exists_mem_of_ne_nil _ present
    have same := agrees row latest _ (List.mem_map_of_mem inside)
    exact (Option.some.inj (Prod.mk.inj same).1).symm
  · intro agrees row latest pair inside
    obtain ⟨first, among, rfl⟩ := List.mem_map.mp inside
    rw [agrees (List.ne_nil_of_mem among) row latest]

/-- The latest rows behind a new row. -/
theorem latest_append_iff {history : List Severity} {row last : Severity} :
    Latest (history ++ [last]) row ↔
      (row = last ∧ ∀ other ∈ history, other.computedAt ≤ row.computedAt) ∨
        Latest history row ∧ last.computedAt ≤ row.computedAt := by
  rw [Latest, List.forall_mem_append, List.forall_mem_singleton, List.mem_append,
    List.mem_singleton]
  constructor
  · intro given
    obtain ⟨inside | rfl, before, behind⟩ := given
    · exact Or.inr ⟨⟨inside, before⟩, behind⟩
    · exact Or.inl ⟨rfl, before⟩
  · intro given
    obtain ⟨rfl, before⟩ | ⟨⟨inside, before⟩, behind⟩ := given
    · exact ⟨Or.inr rfl, before, le_rfl⟩
    · exact ⟨Or.inl inside, before, behind⟩

/-- A commit breaks the agreement exactly when a later severity has another score. -/
theorem SeverityCommitted.kept_iff
    (commits : SeverityCommitted db committed now id workspaceId secretId score explanation)
    (older : start.severities ⊆ db.severities) :
    (start.WrittenSince committed secretId → committed.Agrees secretId) ↔
      ¬ (db.hasSecret secretId = true ∧
        (db.InsertsSeverity id workspaceId secretId explanation ∨ start.WrittenSince db secretId) ∧
        ∃ row, Latest (db.historyOf secretId) row ∧
          (db.InsertsSeverity id workspaceId secretId explanation → now ≤ row.computedAt) ∧
          row.score ≠ score) := by
  rw [commits.agrees_iff]
  by_cases inserts : db.InsertsSeverity id workspaceId secretId explanation
  · obtain ⟨last, history, sameId, sameScore, sameTime⟩ := commits.history_added inserts
    have written : start.WrittenSince committed secretId := by
      refine ⟨last, by rw [history]; simp, fun inside => inserts.2.1 ?_⟩
      rw [← sameId]
      exact List.mem_map_of_mem (older inside)
    rw [history]
    constructor
    · intro kept given
      obtain ⟨present, _, row, latest, behind, differs⟩ := given
      refine differs (kept written present row (latest_append_iff.mpr (Or.inr ⟨latest, ?_⟩)))
      rw [sameTime]
      exact behind inserts
    · intro never _ present row latest
      obtain ⟨rfl, _⟩ | ⟨before, behind⟩ := latest_append_iff.mp latest
      · exact sameScore
      · by_contra differs
        rw [sameTime] at behind
        exact never ⟨present, Or.inl inserts, row, before, fun _ => behind, differs⟩
  · have written : start.WrittenSince committed secretId ↔ start.WrittenSince db secretId := by
      rw [Database.WrittenSince, commits.history_skipped inserts]
      rfl
    rw [written, commits.history_skipped inserts]
    constructor
    · intro kept given
      obtain ⟨present, inserted | before, row, latest, _, differs⟩ := given
      · exact inserts inserted
      · exact differs (kept before present row latest)
    · intro never before present row latest
      by_contra differs
      exact never ⟨present, Or.inr before, row, latest, fun inserted => absurd inserted inserts,
        differs⟩

end Agreement

section Steps

variable [Sha256] {F : Type} [Scalar F] {start : Database} {secretId : Uuid} {pool : JobPool}

/-- The jobs keep to their conversations, and no severity is lost. -/
structure JobPool.Kept (start : Database) (pool : JobPool) : Prop where
  converses : ∀ thread ∈ pool.threads, ∃ job settled,
    Program.Converses (jobConversation job) ⟨thread.own.pending, settled⟩ thread.program
  older : start.severities ⊆ pool.shared.severities

/-- A job that goes on keeps to its conversation. -/
theorem converses_answer {job : InvestigationJob} {settled : Bool} {issued : JobCommand}
    {rest : issued.Reply → JobProgram (Except String Json)} {own : JobTransaction} {db : Database}
    (converses : Program.Converses (jobConversation job) ⟨own.pending, settled⟩
      (.command issued rest)) :
    ∃ settled, Program.Converses (jobConversation job)
      ⟨(JobTransaction.answer issued (own, db)).2.1.pending, settled⟩
      (rest (JobTransaction.answer issued (own, db)).1) := by
  have next := converses.2 (JobTransaction.answer issued (own, db)).1
  refine ⟨((jobConversation job).next ⟨own.pending, settled⟩ issued
    (JobTransaction.answer issued (own, db)).1).settled, ?_⟩
  rw [answer_stage job issued own db settled]
  exact next

/-- Only a commit that does not fail changes the rows. -/
theorem answer_shared {issued : JobCommand} {own : JobTransaction} {db : Database} :
    (JobTransaction.answer issued (own, db)).2.2 = db ∨
      issued = .commit ∧ own.failure = none ∧
        (JobTransaction.answer issued (own, db)).2.2 = own.working db := by
  cases issued with
  | commit =>
      rw [JobTransaction.answer]
      split
      · exact Or.inl rfl
      · rename_i fine
        exact Or.inr ⟨rfl, fine, rfl⟩
  | _ => exact Or.inl (answer_uncommitting trivial)

/-- What the pending statements of a job do to the severities. -/
theorem paired_working {own : JobTransaction} {db : Database} (paired : Paired own.pending) :
    ((own.working db).severities = db.severities ∧ (own.working db).secrets = db.secrets ∧
        ∀ statement ∈ own.pending, KeepsSeverity statement) ∨
      ∃ id workspaceId written score factors explanation,
        (∀ statement ∈ own.pending, KeepsSeverity statement ∨
          statement = .severity id workspaceId written score factors explanation ∨
          statement = .secretSeverity written score (toBucket score)) ∧
        .severity id workspaceId written score factors explanation ∈ own.pending ∧
        SeverityCommitted db (own.working db) own.startedAt id workspaceId written score
          explanation := by
  obtain ⟨pending, startedAt, around⟩ := own
  cases paired with
  | none keeps =>
      exact Or.inl ⟨keepsSeverity_severities keeps, keepsSeverity_secrets keeps, keeps⟩
  | some id workspaceId written score factors explanation first last =>
      refine Or.inr ⟨id, workspaceId, written, score, factors, explanation, ?_, by simp,
        pair_commits first last⟩
      intro statement inside
      obtain inside | inside := List.mem_append.mp inside
      · obtain inside | inside := List.mem_append.mp inside
        · exact Or.inl (first statement inside)
        · rw [List.mem_pair] at inside
          exact Or.inr inside
      · exact Or.inl (last statement inside)

theorem working_older {own : JobTransaction} {db : Database} (paired : Paired own.pending) :
    db.severities ⊆ (own.working db).severities := by
  obtain ⟨same, _⟩ | ⟨id, workspaceId, written, score, _, explanation, _, _, commits⟩ :=
    paired_working paired
  · rw [same]
    exact List.Subset.refl _
  · by_cases inserts : db.InsertsSeverity id workspaceId written explanation
    · obtain ⟨row, added, _⟩ := commits.added inserts
      rw [added]
      exact List.subset_append_left _ _
    · rw [commits.skipped inserts]
      exact List.Subset.refl _

theorem JobPool.Kept.step (kept : pool.Kept start) (action : InvestigationAction) :
    (action.step F pool).Kept start := by
  cases action with
  | start job around =>
      refine ⟨?_, kept.older⟩
      intro thread inside
      obtain before | last := List.mem_append.mp inside
      · exact kept.converses thread before
      · rw [List.mem_singleton.mp last]
        exact ⟨job, false, investigateSecret_converses F job⟩
  | advance index =>
      obtain same | ⟨issued, rest, own, found, _, same⟩ :=
        Pool.stepWaiting_cases JobTransaction.answer jobLocking [] index pool
      · change JobPool.Kept start (pool.stepWaiting JobTransaction.answer jobLocking [] index)
        rw [same]
        exact kept
      · change JobPool.Kept start (pool.stepWaiting JobTransaction.answer jobLocking [] index)
        rw [same]
        obtain ⟨job, settled, converses⟩ := kept.converses _ (List.mem_of_getElem? found)
        refine ⟨Pool.forall_set ⟨job, converses_answer converses⟩ fun _ thread _ within =>
          kept.converses thread (List.mem_of_getElem? within), ?_⟩
        have changed : (JobTransaction.answer issued (own, pool.shared)).2.2 = pool.shared ∨ _ :=
          answer_shared
        obtain unchanged | ⟨rfl, _, committed⟩ := changed
        · exact unchanged.symm ▸ kept.older
        · exact committed.symm ▸ List.Subset.trans kept.older (working_older converses.1)
  | cancel index =>
      change (pool.cancel index).Kept start
      unfold JobPool.cancel Pool.finish
      split
      · exact kept
      · rename_i thread found
        obtain ⟨job, settled, _⟩ := kept.converses thread (List.mem_of_getElem? found)
        exact ⟨Pool.forall_set ⟨job, settled, trivial⟩ fun _ other _ within =>
          kept.converses other (List.mem_of_getElem? within), kept.older⟩
  | tick elapsed => exact ⟨kept.converses, kept.older⟩

omit [Sha256] in
/-- Rows with the same severities and secrets agree in the same way. -/
theorem historyAgrees_congr {first second : JobPool}
    (severities : second.shared.severities = first.shared.severities)
    (secrets : second.shared.secrets = first.shared.secrets) :
    HistoryAgrees start secretId second ↔ HistoryAgrees start secretId first := by
  rw [HistoryAgrees, HistoryAgrees, Database.WrittenSince, Database.WrittenSince, Database.Agrees,
    Database.Agrees, Database.historyOf, Database.historyOf, Database.storedSeverity,
    Database.storedSeverity, severities, secrets]

omit [Sha256] in
/-- A commit for another secret leaves a secret and its history as they are. -/
theorem SeverityCommitted.other {db committed : Database} {now : Time} {id workspaceId written : Uuid}
    {score : Int} {explanation : Option String}
    (commits : SeverityCommitted db committed now id workspaceId written score explanation)
    (different : secretId ≠ written) :
    committed.historyOf secretId = db.historyOf secretId ∧
      committed.storedSeverity secretId = db.storedSeverity secretId := by
  have stored := commits.stored secretId
  rw [if_neg different] at stored
  refine ⟨?_, stored⟩
  by_cases inserts : db.InsertsSeverity id workspaceId written explanation
  · obtain ⟨row, severities, _, sameSecret, _⟩ := commits.added inserts
    rw [Database.historyOf, severities, List.filter_append, List.filter_singleton, sameSecret]
    simp [Ne.symm different, Database.historyOf]
  · rw [Database.historyOf, commits.skipped inserts]
    rfl

/-- The commit of a job keeps the agreement exactly when its severity is not overtaken. -/
theorem working_agrees_iff {own : JobTransaction} {db : Database} (paired : Paired own.pending)
    (older : start.severities ⊆ db.severities)
    (before : start.WrittenSince db secretId → db.Agrees secretId) :
    (start.WrittenSince (own.working db) secretId → (own.working db).Agrees secretId) ↔
      ¬ Overtakes start secretId own db := by
  obtain ⟨severities, secrets, keeps⟩ |
    ⟨id, workspaceId, written, score, factors, explanation, only, inside, commits⟩ :=
    paired_working paired
  · have never : ¬ Overtakes start secretId own db := by
      intro given
      obtain ⟨_, _, _, _, _, pending, _⟩ := given
      exact keeps _ pending
    refine iff_of_true ?_ never
    have same : HistoryAgrees start secretId (JobPool.start (own.working db)) ↔
        HistoryAgrees start secretId (JobPool.start db) :=
      historyAgrees_congr severities secrets
    exact same.mpr before
  · by_cases asked : secretId = written
    · subst asked
      rw [commits.kept_iff older]
      apply not_congr
      constructor
      · intro given
        exact ⟨id, workspaceId, score, factors, explanation, inside, given⟩
      · intro given
        obtain ⟨otherId, otherWorkspace, otherScore, _, _, pending, overtaken⟩ := given
        obtain keeps | same | same := only _ pending
        · exact keeps.elim
        · cases same
          exact overtaken
        · cases same
    · obtain ⟨history, stored⟩ := commits.other asked
      have never : ¬ Overtakes start secretId own db := by
        intro given
        obtain ⟨_, _, _, _, _, pending, _⟩ := given
        obtain keeps | same | same := only _ pending
        · exact keeps
        · cases same
          exact asked rfl
        · cases same
      refine iff_of_true ?_ never
      rw [Database.WrittenSince, Database.Agrees, history, stored]
      exact before

end Steps

section Runs

variable [Sha256] {F : Type} [Scalar F] {start : Database} {secretId : Uuid} {pool : JobPool}

/-- A commit never waits. -/
theorem advance_commit {outside : List SqlLock} {index : Nat}
    {rest : Except String Unit → JobProgram (Except String Json)} {own : JobTransaction}
    (found : pool.threads[index]? = some ⟨.command .commit rest, own⟩) :
    pool.advance outside index =
      { shared := (JobTransaction.answer .commit (own, pool.shared)).2.2
        threads := pool.threads.set index
          ⟨rest (JobTransaction.answer .commit (own, pool.shared)).1,
            (JobTransaction.answer .commit (own, pool.shared)).2.1⟩ } := by
  unfold JobPool.advance Pool.stepWaiting Pool.waits Pool.step
  rw [found]
  rfl

theorem answer_commit {own : JobTransaction} {db : Database} (fine : own.failure = none) :
    (JobTransaction.answer .commit (own, db)).2.2 = own.working db := by
  rw [JobTransaction.answer, fine]

/-- Every other action keeps the agreement. -/
theorem HistoryAgrees.step (agrees : HistoryAgrees start secretId pool) (kept : pool.Kept start)
    {action : InvestigationAction} (never : ¬ CommitsOvertaken start secretId pool action) :
    HistoryAgrees start secretId (action.step F pool) := by
  cases action with
  | start job around => exact agrees
  | advance index =>
      obtain same | ⟨issued, rest, own, found, _, same⟩ :=
        Pool.stepWaiting_cases JobTransaction.answer jobLocking [] index pool
      · change HistoryAgrees _ _ (pool.stepWaiting JobTransaction.answer jobLocking [] index)
        rw [same]
        exact agrees
      · change HistoryAgrees _ _ (pool.stepWaiting JobTransaction.answer jobLocking [] index)
        rw [same]
        obtain ⟨job, settled, converses⟩ := kept.converses _ (List.mem_of_getElem? found)
        have changed : (JobTransaction.answer issued (own, pool.shared)).2.2 = pool.shared ∨ _ :=
          answer_shared
        obtain unchanged | ⟨rfl, fine, committed⟩ := changed
        · exact (historyAgrees_congr (congrArg _ unchanged) (congrArg _ unchanged)).mpr agrees
        · rw [HistoryAgrees, committed, working_agrees_iff converses.1 kept.older agrees]
          intro overtakes
          exact never ⟨index, rest, own, rfl, found, fine, overtakes⟩
  | cancel index =>
      change HistoryAgrees _ _ (pool.cancel index)
      unfold JobPool.cancel Pool.finish
      split <;> exact agrees
  | tick elapsed => exact agrees

/-- The commit of an overtaken severity breaks the agreement. -/
theorem HistoryAgrees.broken (agrees : HistoryAgrees start secretId pool) (kept : pool.Kept start)
    {action : InvestigationAction} (overtaken : CommitsOvertaken start secretId pool action) :
    ¬ HistoryAgrees start secretId (action.step F pool) := by
  obtain ⟨index, rest, own, rfl, found, fine, overtakes⟩ := overtaken
  obtain ⟨job, settled, converses⟩ := kept.converses _ (List.mem_of_getElem? found)
  change ¬ HistoryAgrees _ _ (pool.advance [] index)
  rw [advance_commit found, HistoryAgrees, answer_commit fine,
    working_agrees_iff converses.1 kept.older agrees, not_not]
  exact overtakes

/-- Over any interleaving of investigations, a secret agrees with its history in all committed
states exactly if no run commits a severity behind a later one with another score. -/
theorem historyAgrees_iff (F : Type) [Scalar F] (db : Database) (secretId : Uuid)
    (actions : List InvestigationAction) :
    (∀ before, before <+: actions → HistoryAgrees db secretId
      (runActions (InvestigationAction.step F) before (JobPool.start db))) ↔
      ∀ visit ∈ visits (InvestigationAction.step F) actions (JobPool.start db),
        ¬ CommitsOvertaken db secretId visit.1 visit.2 := by
  let invariant (pool : JobPool) : Prop := pool.Kept db ∧ HistoryAgrees db secretId pool
  have begun : invariant (JobPool.start db) := by
    refine ⟨⟨fun _ inside => absurd inside List.not_mem_nil, List.Subset.refl _⟩, ?_⟩
    intro written
    obtain ⟨row, inside, new⟩ := written
    exact absurd (List.mem_of_mem_filter inside) new
  exact holds_iff_never_departs (fun pool (holds : invariant pool) => holds.2)
    (fun pool action holds never => ⟨holds.1.step action, holds.2.step holds.1 never⟩)
    (fun pool action holds overtaken => holds.2.broken holds.1 overtaken) begun

end Runs

section Example

/-- The run with the refused connection begins its last transaction first and commits last. -/
def overtakenActions : List InvestigationAction :=
  [.start criticalJob refusedAround, .start criticalJob (plainAround 200)] ++
    List.replicate 7 (.advance 0) ++ [.tick 1] ++ List.replicate 40 (.advance 1) ++
    List.replicate 6 (.advance 0)

def overtakenRows : Database :=
  (runActions (@InvestigationAction.step plainDigest Rat exactScalar) overtakenActions
    (JobPool.start criticalSecret)).shared

/-- Two overlapping runs leave a secret with the score of the run that began first. -/
theorem overtaken_disagrees :
    (overtakenRows.historyOf 1).map (fun row => (row.score, row.computedAt)) = [(60, 1), (0, 0)] ∧
      overtakenRows.storedSeverity 1 = [(some 0, some .low)] ∧
      ¬ HistoryAgrees criticalSecret 1
        (runActions (@InvestigationAction.step plainDigest Rat exactScalar) overtakenActions
          (JobPool.start criticalSecret)) := by
  have history : (overtakenRows.historyOf 1).map (fun row => (row.score, row.computedAt)) =
      [(60, 1), (0, 0)] := by decide +kernel
  have stored : overtakenRows.storedSeverity 1 = [(some 0, some .low)] := by decide +kernel
  refine ⟨history, stored, ?_⟩
  intro agrees
  obtain ⟨latest, rest, rows, first, behind⟩ := List.map_eq_cons_iff.mp history
  obtain ⟨score, time⟩ := Prod.mk.inj first
  have isLatest : Latest (overtakenRows.historyOf 1) latest := by
    refine ⟨by rw [rows]; exact List.mem_cons_self, ?_⟩
    rw [rows, List.forall_mem_cons]
    refine ⟨le_rfl, fun other inside => ?_⟩
    have earlier : (other.score, other.computedAt) ∈ [((0 : Int), 0)] := by
      rw [← behind]
      exact List.mem_map_of_mem inside
    rw [(Prod.mk.inj (List.mem_singleton.mp earlier)).2]
    exact Nat.zero_le _
  have written : criticalSecret.WrittenSince overtakenRows 1 :=
    ⟨latest, isLatest.1, List.not_mem_nil⟩
  have same := agrees written latest isLatest (some 0, some .low) (by
    change _ ∈ overtakenRows.storedSeverity 1
    rw [stored]
    exact List.mem_cons_self)
  rw [score] at same
  cases same

end Example

end Sprawl
