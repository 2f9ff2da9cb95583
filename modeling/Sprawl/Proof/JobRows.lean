/-
This file proves what the statements of the `investigate_secret` job do to the rows.
-/

import Sprawl.Effect.Raising
import Sprawl.Investigation.Job

namespace Sprawl

/-- The score and the bucket that a secret has. -/
def Database.storedSeverity (db : Database) (secretId : Uuid) :
    List (Option Int × Option SeverityBucket) :=
  (db.secrets.filter (·.id = secretId)).map fun row => (row.severityScore, row.severityBucket)

variable [Sha256]

namespace Database

/-- The rows after a statement that no constraint refuses. -/
def performed (now : Time) (db : Database) : JobStatement → Database
  | .markRunning investigationId workspaceId =>
      db.updateInvestigations (fun row => row.id = investigationId && row.workspaceId = workspaceId)
        fun row => { row with status := .running, startedAt := now }
  | .traceId investigationId traceId =>
      db.updateInvestigations (·.id = investigationId)
        fun row => { row with traceId := some traceId }
  | .graphNode row =>
      { db with
        graphNodes := if (db.graphNodes.map (·.id)).contains row.id then db.graphNodes
          else db.graphNodes ++ [row] }
  | .graphEdge row =>
      { db with
        graphEdges := if (db.graphEdges.map (·.id)).contains row.id then db.graphEdges
          else db.graphEdges ++ [row] }
  | .severity id workspaceId secretId score factors explanation =>
      { db with
        severities := if (db.severities.map (·.id)).contains id then db.severities
          else db.severities ++
            [{ id, workspaceId, secretId, score, factors, explanation, computedAt := now }] }
  | .secretSeverity secretId score bucket => db.updateSecretSeverity secretId score bucket
  | .complete investigationId coverage =>
      db.updateInvestigations (·.id = investigationId)
        fun row => { row with status := .complete, finishedAt := some now, coverage }
  | .error investigationId =>
      db.updateInvestigations (·.id = investigationId)
        fun row => { row with status := .error, finishedAt := some now }
  | .audit entry => db.audit entry

omit [Sha256] in
/-- An insert that a conflict or a missing parent can stop. -/
theorem insert_performed {conflict referenced : Bool} {db inserted rows : Database}
    (applied : (if conflict then .ok db else if referenced then .ok inserted
      else .error SqlError.integrity : Except SqlError Database) = .ok rows) :
    rows = if conflict then db else inserted := by
  split at applied
  · rename_i conflicts
    rw [if_pos conflicts]
    exact (Except.ok.inj applied).symm
  · rename_i fits
    rw [if_neg fits]
    split at applied
    · exact (Except.ok.inj applied).symm
    · cases applied

omit [Sha256] in
/-- A severity whose explanation can be stored meets the conflict and the parents. -/
theorem insertSeverity_storable {row : Severity} (db : Database)
    (stored : row.explanation.all storableText = true) :
    db.insertSeverity row =
      if (db.severities.map (·.id)).contains row.id then .ok db
      else if db.hasWorkspace row.workspaceId && db.hasSecret row.secretId then
        .ok { db with severities := db.severities ++ [row] }
      else .error .integrity := by
  rw [insertSeverity, stored, Bool.not_true, if_neg Bool.false_ne_true]

omit [Sha256] in
theorem insertSeverity_refused {row : Severity} (db : Database)
    (refused : row.explanation.all storableText = false) :
    db.insertSeverity row = .error .data := by
  rw [insertSeverity, refused, Bool.not_false, if_pos rfl]

/-- A statement that is accepted has been performed. -/
theorem jobApply_performed {now : Time} {db rows : Database} {statement : JobStatement}
    (applied : db.jobApply now statement = .ok rows) : rows = db.performed now statement := by
  cases statement with
  | markRunning investigationId workspaceId =>
      rw [jobApply, markRunning] at applied
      split at applied
      · cases applied
      · exact (Except.ok.inj applied).symm
  | graphNode row =>
      rw [insert_performed applied, performed]
      split <;> rfl
  | graphEdge row =>
      rw [insert_performed applied, performed]
      split <;> rfl
  | severity id workspaceId secretId score factors explanation =>
      rw [jobApply] at applied
      cases storable : explanation.all storableText with
      | false =>
          rw [insertSeverity_refused db storable] at applied
          cases applied
      | true =>
          rw [insertSeverity_storable db storable] at applied
          rw [insert_performed applied, performed]
          split <;> rfl
  | audit entry =>
      rw [jobApply, insertAudit] at applied
      split at applied
      · exact (Except.ok.inj applied).symm
      · cases applied
  | _ => exact (Except.ok.inj applied).symm

theorem performed_clock (now : Time) (db : Database) (statement : JobStatement) :
    (db.performed now statement).clock = db.clock := by
  cases statement <;> rfl

theorem jobApply_clock {now : Time} {statement : JobStatement} {db rows : Database}
    (applied : db.jobApply now statement = .ok rows) : rows.clock = db.clock := by
  rw [jobApply_performed applied, performed_clock]

/-- Every statement is accepted by the rows that it meets. -/
def applyEach (now : Time) : List JobStatement → Database → Except SqlError Database
  | [], db => .ok db
  | statement :: rest, db => db.jobApply now statement >>= applyEach now rest

theorem applyEach_one {now : Time} {statement : JobStatement} {db : Database} :
    applyEach now [statement] db = db.jobApply now statement := bind_pure _

theorem applyEach_append {now : Time} {first second : List JobStatement} {db : Database} :
    applyEach now (first ++ second) db = applyEach now first db >>= applyEach now second := by
  induction first generalizing db with
  | nil => rfl
  | cons statement rest ih =>
      rw [List.cons_append, applyEach, applyEach]
      cases db.jobApply now statement with
      | error raised => rfl
      | ok next => exact ih

theorem applyEach_cons_ok {now : Time} {statement : JobStatement} {rest : List JobStatement}
    {db rows : Database} :
    applyEach now (statement :: rest) db = .ok rows ↔
      ∃ next, db.jobApply now statement = .ok next ∧ applyEach now rest next = .ok rows :=
  Effect.bind_eq_ok

theorem applyEach_append_ok {now : Time} {first second : List JobStatement} {db rows : Database} :
    applyEach now (first ++ second) db = .ok rows ↔
      ∃ middle, applyEach now first db = .ok middle ∧ applyEach now second middle = .ok rows := by
  rw [applyEach_append, Effect.bind_eq_ok]

/-- A list that is accepted has been performed. -/
theorem applyEach_performed {now : Time} {statements : List JobStatement} {db rows : Database}
    (applied : applyEach now statements db = .ok rows) :
    rows = statements.foldl (performed now) db := by
  induction statements generalizing db with
  | nil => exact (Except.ok.inj applied).symm
  | cons statement rest ih =>
      obtain ⟨next, first, later⟩ := applyEach_cons_ok.mp applied
      rw [ih later, jobApply_performed first, List.foldl_cons]

theorem applyEach_clock {now : Time} {statements : List JobStatement} {db rows : Database}
    (applied : applyEach now statements db = .ok rows) : rows.clock = db.clock := by
  rw [applyEach_performed applied]
  clear applied
  induction statements generalizing db with
  | nil => rfl
  | cons statement rest ih => exact ih.trans (performed_clock now db statement)

section Accepts

/-- No constraint refuses one of the statements. -/
def Accepts (now : Time) (statements : List JobStatement) (db : Database) : Prop :=
  ∃ rows, applyEach now statements db = .ok rows

variable {now : Time} {statement : JobStatement} {rest : List JobStatement} {db : Database}

theorem accepts_nil : Accepts now [] db := ⟨db, rfl⟩

/-- A list is accepted when its first statement is and the rest is accepted after that. -/
theorem accepts_cons : Accepts now (statement :: rest) db ↔
    (∃ next, db.jobApply now statement = .ok next) ∧
      Accepts now rest (db.performed now statement) := by
  constructor
  · intro given
    obtain ⟨rows, accepted⟩ := given
    obtain ⟨next, first, later⟩ := applyEach_cons_ok.mp accepted
    obtain rfl := jobApply_performed first
    exact ⟨⟨_, first⟩, rows, later⟩
  · intro given
    obtain ⟨⟨next, first⟩, rows, later⟩ := given
    obtain rfl := jobApply_performed first
    exact ⟨rows, applyEach_cons_ok.mpr ⟨_, first, later⟩⟩

/-- A statement that no constraint can refuse. -/
theorem accepts_free {next : Database} (free : db.jobApply now statement = .ok next) :
    Accepts now (statement :: rest) db ↔ Accepts now rest (db.performed now statement) := by
  rw [accepts_cons]
  exact and_iff_right ⟨next, free⟩

/-- No investigation beside the one of the job is running for its secret. -/
def AloneRunning (db : Database) (investigationId workspaceId : Uuid) : Prop :=
  ∀ row ∈ db.investigations, (row.id = investigationId ∧ row.workspaceId = workspaceId) →
    ∀ other ∈ db.investigations, other.secretId = row.secretId → other.status = .running →
      other.id = investigationId ∧ other.workspaceId = workspaceId

theorem markRunning_accepted {investigationId workspaceId : Uuid} :
    (∃ next, db.jobApply now (.markRunning investigationId workspaceId) = .ok next) ↔
      db.AloneRunning investigationId workspaceId := by
  rw [jobApply, markRunning]
  simp only [AloneRunning]
  split
  · rename_i refused
    simp only [List.any_filter, List.any_eq_true, Bool.and_eq_true, Bool.not_eq_true',
      decide_eq_true_eq] at refused
    obtain ⟨row, stored, ⟨mine, other, among, ⟨notMine, sameSecret⟩, running⟩⟩ := refused
    constructor
    · intro given
      obtain ⟨_, accepted⟩ := given
      cases accepted
    · intro alone
      have same := alone row stored mine other among sameSecret running
      simp [same.1, same.2] at notMine
  · rename_i accepted
    refine ⟨fun _ => ?_, fun _ => ⟨_, rfl⟩⟩
    intro row stored mine other among sameSecret running
    by_contra notMine
    refine accepted (List.any_eq_true.mpr ⟨row, List.mem_filter.mpr ⟨stored, by simp [mine]⟩,
      List.any_eq_true.mpr ⟨other, among, ?_⟩⟩)
    rw [not_and_or] at notMine
    simpa [sameSecret, running] using notMine

theorem audit_accepted {entry : AuditEntry} :
    (∃ next, db.jobApply now (.audit entry) = .ok next) ↔
      db.hasWorkspace entry.workspaceId = true := by
  rw [jobApply, insertAudit]
  cases db.hasWorkspace entry.workspaceId with
  | true => exact ⟨fun _ => rfl, fun _ => ⟨_, rfl⟩⟩
  | false =>
      constructor
      · intro given
        obtain ⟨_, accepted⟩ := given
        cases accepted
      · intro present
        cases present

theorem severity_accepted {id workspaceId secretId : Uuid} {score : Int} {factors : Document}
    {explanation : Option String} :
    (∃ next, db.jobApply now (.severity id workspaceId secretId score factors explanation) =
      .ok next) ↔ explanation.all storableText = true ∧
        (id ∈ db.severities.map (·.id) ∨
          db.hasWorkspace workspaceId = true ∧ db.hasSecret secretId = true) := by
  cases storable : explanation.all storableText with
  | false =>
      rw [jobApply, insertSeverity_refused db storable]
      constructor
      · intro given
        obtain ⟨_, accepted⟩ := given
        cases accepted
      · intro given
        cases given.1
  | true =>
      rw [jobApply, insertSeverity_storable db storable, and_iff_right rfl]
      split
      · rename_i taken
        exact ⟨fun _ => Or.inl (List.contains_iff_mem.mp taken), fun _ => ⟨_, rfl⟩⟩
      · rename_i free
        split
        · rename_i present
          rw [Bool.and_eq_true] at present
          exact ⟨fun _ => Or.inr present, fun _ => ⟨_, rfl⟩⟩
        · rename_i missing
          rw [Bool.and_eq_true] at missing
          constructor
          · intro given
            obtain ⟨_, accepted⟩ := given
            cases accepted
          · intro given
            obtain taken | present := given
            · exact absurd (List.contains_iff_mem.mpr taken) free
            · exact absurd present missing

theorem performed_hasWorkspace (workspaceId : Uuid) :
    (db.performed now statement).hasWorkspace workspaceId = db.hasWorkspace workspaceId := by
  cases statement <;> rfl

theorem performed_hasSecret (secretId : Uuid) :
    (db.performed now statement).hasSecret secretId = db.hasSecret secretId := by
  cases statement with
  | secretSeverity storedId score bucket =>
      rw [performed, hasSecret, updateSecretSeverity, List.map_map]
      refine congrArg (fun ids : List Uuid => ids.contains secretId) (List.map_congr_left ?_)
      intro row stored
      change (if row.id = storedId then _ else row).id = row.id
      split <;> rfl
  | _ => rfl

end Accepts

section Keeps

variable {β : Type} (view : Database → β)

/-- A view that none of the statements changes is the same after all of them. -/
theorem foldl_performed_keeps {now : Time} {statements : List JobStatement} {db : Database}
    (keeps : ∀ statement ∈ statements, ∀ rows : Database,
      view (rows.performed now statement) = view rows) :
    view (statements.foldl (performed now) db) = view db := by
  induction statements generalizing db with
  | nil => rfl
  | cons statement rest ih =>
      rw [List.forall_mem_cons] at keeps
      exact (ih keeps.2).trans (keeps.1 db)

/-- A statement that goes through writes its rows. -/
theorem applyAll_cons_ok {now : Time} {statement : JobStatement} {rest : List JobStatement}
    {db rows : Database} (applied : db.jobApply now statement = .ok rows) :
    db.applyAll now (statement :: rest) = rows.applyAll now rest := by
  rw [applyAll, List.foldl_cons, applied]
  rfl

/-- A statement that raises changes nothing. -/
theorem applyAll_cons_error {now : Time} {statement : JobStatement} {rest : List JobStatement}
    {db : Database} {raised : SqlError} (applied : db.jobApply now statement = .error raised) :
    db.applyAll now (statement :: rest) = db.applyAll now rest := by
  rw [applyAll, List.foldl_cons, applied]
  rfl

/-- What every statement of a list preserves holds after the list. -/
theorem applyAll_preserves {holds : Database → Prop} {now : Time} {statements : List JobStatement}
    {db : Database} (preserves : ∀ statement ∈ statements, ∀ rows : Database, holds rows →
      holds (rows.performed now statement)) (before : holds db) :
    holds (db.applyAll now statements) := by
  induction statements generalizing db with
  | nil => exact before
  | cons statement rest ih =>
      rw [List.forall_mem_cons] at preserves
      cases applied : db.jobApply now statement with
      | error raised =>
          rw [applyAll_cons_error applied]
          exact ih preserves.2 before
      | ok written =>
          rw [applyAll_cons_ok applied]
          exact ih preserves.2 (jobApply_performed applied ▸ preserves.1 db before)

/-- A view that no statement of a list changes is the same after the list. -/
theorem applyAll_keeps {now : Time} {statements : List JobStatement} {db : Database}
    (keeps : ∀ statement ∈ statements, ∀ rows : Database,
      view (rows.performed now statement) = view rows) :
    view (db.applyAll now statements) = view db :=
  applyAll_preserves (fun statement inside rows same => (keeps statement inside rows).trans same) rfl

end Keeps

omit [Sha256] in
/-- The update of a secret gives it the score and the bucket, and leaves the others as they are. -/
theorem updateSecretSeverity_stored (db : Database) (secretId : Uuid) (score : Int)
    (bucket : SeverityBucket) (other : Uuid) :
    (db.updateSecretSeverity secretId score bucket).storedSeverity other =
      if other = secretId then (db.storedSeverity other).map fun _ => (some score, some bucket)
      else db.storedSeverity other := by
  let updated (row : Secret) : Secret :=
    if row.id = secretId then { row with severityScore := some score, severityBucket := some bucket }
    else row
  have sameId (row : Secret) : (updated row).id = row.id := by
    unfold updated
    split <;> rfl
  have selects : ((fun row : Secret => decide (row.id = other)) ∘ updated) =
      fun row => decide (row.id = other) := by
    funext row
    rw [Function.comp_apply, sameId]
  have split : (db.updateSecretSeverity secretId score bucket).storedSeverity other =
      (db.secrets.filter (·.id = other)).map fun row =>
        ((updated row).severityScore, (updated row).severityBucket) := by
    rw [storedSeverity, updateSecretSeverity, List.filter_map, selects, List.map_map]
    rfl
  rw [split]
  by_cases asked : other = secretId
  · rw [if_pos asked, storedSeverity, List.map_map]
    refine List.map_congr_left fun row inside => ?_
    have own : row.id = secretId := (of_decide_eq_true (List.mem_filter.mp inside).2).trans asked
    unfold updated
    rw [if_pos own]
    rfl
  · rw [if_neg asked]
    refine List.map_congr_left fun row inside => ?_
    have foreign : row.id ≠ secretId := fun own =>
      asked ((of_decide_eq_true (List.mem_filter.mp inside).2).symm.trans own)
    unfold updated
    rw [if_neg foreign]

end Database

end Sprawl
