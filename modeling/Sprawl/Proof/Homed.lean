/-
This file proves which rows the transactions of a workspace change.
-/

import Sprawl.Proof.Approval
import Sprawl.Proof.TriggerConversation
import Sprawl.Proof.Within

namespace Sprawl

open Effect

variable {κ : Type}

/-- `home` names the workspace in which an identifier is drawn. -/
structure Database.Homed (home : Uuid → Uuid) (db : Database) : Prop where
  rotations : ∀ row ∈ db.rotations, home row.id = row.workspaceId
  steps : ∀ row ∈ db.rotationSteps,
    home row.id = row.workspaceId ∧ home row.rotationId = row.workspaceId

/-- The rows of one workspace alone. -/
def Database.rowsOf (workspaceId : Uuid) (db : Database) : Database :=
  { db.ofWorkspace workspaceId with nextAuditId := 0, clock := 0 }

section Rows

variable {home : Uuid → Uuid} {db written : Database} {workspaceId other : Uuid}

/-- An update of rows in one workspace leaves the rows of the others. -/
theorem filter_updated {ρ : Type} {table : List ρ} {owner : ρ → Uuid} {selected : ρ → Bool}
    {change : ρ → ρ} (same : ∀ row, owner (change row) = owner row)
    (within : ∀ row ∈ table, selected row = true → owner row = workspaceId)
    (different : workspaceId ≠ other) :
    (table.map fun row => if selected row then change row else row).filter (owner · = other) =
      table.filter (owner · = other) := by
  induction table with
  | nil => rfl
  | cons row rest ih =>
      rw [List.forall_mem_cons] at within
      have later := ih within.2
      cases hit : selected row with
      | false =>
          simp only [List.map_cons, hit, List.filter_cons, later, Bool.false_eq_true, if_false]
      | true =>
          have moved : owner (change row) ≠ other :=
            fun reached => different ((within.1 hit).symm.trans ((same row).symm.trans reached))
          have here : owner row ≠ other := same row ▸ moved
          simp only [List.map_cons, hit, if_true, List.filter_cons, later, moved, here,
            decide_false, Bool.false_eq_true, if_false]

/-- An update of rotations keeps every row in the workspace of its identifiers. -/
theorem Database.Homed.updateRotations (homed : db.Homed home) (selected : RotationRecord → Bool)
    {change : RotationRecord → RotationRecord}
    (same : ∀ row, (change row).id = row.id ∧ (change row).workspaceId = row.workspaceId) :
    (db.updateRotations selected change).Homed home := by
  refine ⟨fun row inside => ?_, homed.steps⟩
  obtain ⟨old, within, rfl⟩ := List.mem_map.mp inside
  split
  · rw [(same old).1, (same old).2]
    exact homed.rotations old within
  · exact homed.rotations old within

theorem Database.Homed.updateSteps (homed : db.Homed home) (selected : StepRecord → Bool)
    (patch : StepPatch) : (db.updateSteps selected patch).Homed home := by
  refine ⟨homed.rotations, fun row inside => ?_⟩
  obtain ⟨old, within, rfl⟩ := List.mem_map.mp inside
  split
  · exact homed.steps old within
  · exact homed.steps old within

theorem Database.rowsOf_updateRotations {selected : RotationRecord → Bool}
    {change : RotationRecord → RotationRecord}
    (same : ∀ row, (change row).workspaceId = row.workspaceId)
    (within : ∀ row ∈ db.rotations, selected row = true → row.workspaceId = workspaceId)
    (different : workspaceId ≠ other) :
    (db.updateRotations selected change).rowsOf other = db.rowsOf other := by
  have rows := filter_updated same within different
  unfold rowsOf ofWorkspace updateRotations
  rw [rows]

theorem Database.rowsOf_updateSteps {selected : StepRecord → Bool} {patch : StepPatch}
    (within : ∀ row ∈ db.rotationSteps, selected row = true → row.workspaceId = workspaceId)
    (different : workspaceId ≠ other) :
    (db.updateSteps selected patch).rowsOf other = db.rowsOf other := by
  have same (row : StepRecord) : (patch.applyRecord row).workspaceId = row.workspaceId := rfl
  have rows := filter_updated same within different
  unfold rowsOf ofWorkspace updateSteps
  rw [rows]

variable [Sha256]

theorem Database.rowsOf_audit {entry : AuditEntry} (different : entry.workspaceId ≠ other) :
    (db.audit entry).rowsOf other = db.rowsOf other := by
  unfold rowsOf ofWorkspace audit appendAudit
  rw [List.filter_append, List.filter_singleton]
  simp [different]

theorem Database.Homed.apply (homed : db.Homed home) (statement : Write) :
    (db.apply statement).Homed home := by
  cases statement with
  | rotationStatus id path status time => exact homed.updateRotations _ fun _ => ⟨rfl, rfl⟩
  | newSecretRef id ref time => exact homed.updateRotations _ fun _ => ⟨rfl, rfl⟩
  | step stepId patch => exact homed.updateSteps _ _
  | stepsAt id indexes patch => exact homed.updateSteps _ _
  | audit entry => exact ⟨homed.rotations, homed.steps⟩

/-- A statement of one workspace leaves the rows of the others. -/
theorem Database.rowsOf_apply (homed : db.Homed home) {statement : Write}
    (within : statement.Within home workspaceId) (different : workspaceId ≠ other) :
    (db.apply statement).rowsOf other = db.rowsOf other := by
  cases statement with
  | rotationStatus id path status time =>
      refine rowsOf_updateRotations (fun _ => rfl) (fun row inside hit => ?_) different
      rw [Bool.and_eq_true, decide_eq_true_eq] at hit
      exact (homed.rotations row inside).symm.trans (hit.1 ▸ within)
  | newSecretRef id ref time =>
      refine rowsOf_updateRotations (fun _ => rfl) (fun row inside hit => ?_) different
      exact (homed.rotations row inside).symm.trans (of_decide_eq_true hit ▸ within)
  | step stepId patch =>
      refine rowsOf_updateSteps (fun row inside hit => ?_) different
      exact (homed.steps row inside).1.symm.trans (of_decide_eq_true hit ▸ within)
  | stepsAt id indexes patch =>
      refine rowsOf_updateSteps (fun row inside hit => ?_) different
      rw [Bool.and_eq_true, decide_eq_true_eq] at hit
      exact (homed.steps row inside).2.symm.trans (hit.1 ▸ within)
  | audit entry => exact rowsOf_audit (within ▸ different)

/-- A transaction of one workspace leaves the rows of the others. -/
theorem Database.homed_applyAll {statements : List Write} (homed : db.Homed home)
    (within : ∀ statement ∈ statements, statement.Within home workspaceId)
    (different : workspaceId ≠ other) :
    (statements.foldl Database.apply db).Homed home ∧
      (statements.foldl Database.apply db).rowsOf other = db.rowsOf other := by
  induction statements generalizing db with
  | nil => exact ⟨homed, rfl⟩
  | cons statement rest ih =>
      rw [List.forall_mem_cons] at within
      obtain ⟨later, rows⟩ := ih (homed.apply statement) within.2
      exact ⟨later, rows.trans (rowsOf_apply homed within.1 different)⟩

end Rows

namespace Undertaking

variable [Sha256] {home : Uuid → Uuid} {workspaceId other : Uuid} {own : Undertaking κ}
  {shared : Session Database κ}
  (pending : ∀ statement ∈ own.transaction.pending, statement.Within home workspaceId)
  (homed : shared.db.Homed home)

omit pending homed in
variable (own shared) in
/-- An event is published on the channel of its workspace. -/
theorem answer_unpublished {issued : Command} (within : issued.Within home workspaceId)
    (different : workspaceId ≠ other) :
    (answer issued (own, shared)).2.2.published.filter (·.workspaceId = other) =
      shared.published.filter (·.workspaceId = other) := by
  cases issued with
  | publish publication =>
      have elsewhere : publication.workspaceId ≠ other := within.symm ▸ different
      change (shared.published ++ [publication]).filter _ = _
      rw [List.filter_append, List.filter_singleton, decide_eq_false elsewhere]
      exact List.append_nil _
  | acquireLock secretId id =>
      simp only [answer, Session.answer]
      split <;> rfl
  | releaseLock secretId id =>
      simp only [answer, Session.answer]
      split <;> rfl
  | _ => rfl

include pending homed

/-- A transaction of a workspace reads rows that are in the workspace of their identifiers. -/
theorem view_homed :
    (Session.view { shared with pending := own.transaction.pending }).Homed home := by
  have apart : workspaceId ≠ workspaceId + 1 := (Nat.succ_ne_self _).symm
  exact (Database.homed_applyAll homed pending apart).1

theorem answer_atHome (issued : Command) : AtHome home issued (answer issued (own, shared)).1 := by
  have view := view_homed pending homed
  cases issued with
  | select query =>
      cases query with
      | rotation id path =>
          intro found
          obtain ⟨rotation, same⟩ := Option.isSome_iff_exists.mp found
          obtain ⟨row, known, _⟩ := Option.map_eq_some_iff.mp same
          have named := List.find?_some known
          rw [Bool.and_eq_true, decide_eq_true_eq, decide_eq_true_eq] at named
          rw [← named.1, ← named.2]
          exact view.rotations row (List.mem_of_find?_eq_some known)
      | steps id =>
          intro step inside
          obtain ⟨row, within, rfl⟩ := List.mem_map.mp inside
          obtain ⟨stored, named⟩ := List.mem_filter.mp (List.mem_mergeSort.mp within)
          rw [← of_decide_eq_true named]
          exact (view.steps row stored).1.trans (view.steps row stored).2.symm
      | step id rotationId =>
          intro found
          obtain ⟨step, same⟩ := Option.isSome_iff_exists.mp found
          obtain ⟨row, known, _⟩ := Option.map_eq_some_iff.mp same
          have named := List.find?_some known
          rw [Bool.and_eq_true, decide_eq_true_eq, decide_eq_true_eq] at named
          have stored := view.steps row (List.mem_of_find?_eq_some known)
          rw [← named.1, ← named.2]
          exact stored.1.trans stored.2.symm
      | _ => trivial
  | _ => trivial

/-- A commit of one workspace leaves the rows of the others. -/
theorem answer_homed (issued : Command) (different : workspaceId ≠ other) :
    (answer issued (own, shared)).2.2.db.Homed home ∧
      (answer issued (own, shared)).2.2.db.rowsOf other = shared.db.rowsOf other := by
  cases issued with
  | commit => exact Database.homed_applyAll homed pending different
  | acquireLock secretId id =>
      rw [(acquireLock_leavesAll own shared secretId id).db]
      exact ⟨homed, rfl⟩
  | releaseLock secretId id =>
      rw [(releaseLock_leavesAll own shared secretId id).db]
      exact ⟨homed, rfl⟩
  | _ => exact ⟨homed, rfl⟩

end Undertaking

section Triggers

variable (home : Uuid → Uuid) (workspaceId : Uuid)

/-- The insert is one into the workspace, under identifiers that are drawn there. -/
def ApiWrite.Within : ApiWrite → Prop
  | .investigation _ path _ => path = workspaceId
  | .rotation row => row.workspaceId = workspaceId ∧ home row.id = workspaceId
  | .rotationStep row =>
      row.workspaceId = workspaceId ∧ home row.id = workspaceId ∧ home row.rotationId = workspaceId
  | .audit entry => entry.workspaceId = workspaceId

/-- The identifiers that a request has drawn. -/
def TriggerStage.ids : TriggerStage → List Uuid
  | .named rotationId => [rotationId]
  | .proposed rotationId drawn _ => rotationId :: drawn
  | .audited rotationId drawn => rotationId :: drawn
  | _ => []

/-- The request may still draw an identifier. -/
def TriggerStage.isOpen : TriggerStage → Bool
  | .requiring | .checking | .absent | .named _ | .proposed _ _ _ => true
  | _ => false

/-- All identifiers of a request are drawn in its workspace, and there are enough of them. -/
structure TriggerStage.DrawsIn (stage : TriggerStage) (own : ApiTransaction) : Prop where
  ids : ∀ id ∈ stage.ids, home id = workspaceId
  left : ∀ id ∈ own.uuids, home id = workspaceId
  enough : stage.isOpen = true → 5 ≤ stage.ids.length + own.uuids.length
  pending : ∀ statement ∈ own.pending, statement.Within home workspaceId

variable {home workspaceId} {secretId other : Uuid} {known : String → Prop} {db written : Database}

variable [Sha256] [UuidCodec]

/-- An insert into a workspace leaves the rows of the others. -/
theorem Database.homed_apiApply (homed : db.Homed home) {statement : ApiWrite}
    (within : statement.Within home workspaceId) (different : workspaceId ≠ other)
    (ran : db.apiApply statement = .ok written) :
    written.Homed home ∧ written.rowsOf other = db.rowsOf other := by
  have apart {row : Uuid} (same : row = workspaceId) : row ≠ other := same ▸ different
  cases statement with
  | investigation id path secretId =>
      simp only [apiApply, insertInvestigation] at ran
      split at ran
      · obtain rfl := Except.ok.inj ran
        exact ⟨homed, rfl⟩
      · split at ran
        · obtain rfl := Except.ok.inj ran
          refine ⟨⟨homed.rotations, homed.steps⟩, ?_⟩
          simp [rowsOf, ofWorkspace, List.filter_append, apart within]
        · cases ran
  | rotation new =>
      simp only [apiApply, insertRotation] at ran
      split at ran
      · cases ran
      · split at ran
        · obtain rfl := Except.ok.inj ran
          exact ⟨homed, rfl⟩
        · split at ran
          · obtain rfl := Except.ok.inj ran
            refine ⟨⟨?_, homed.steps⟩, ?_⟩
            · refine List.forall_mem_append.mpr ⟨homed.rotations, ?_⟩
              rw [List.forall_mem_singleton]
              exact within.2.trans within.1.symm
            · simp [rowsOf, ofWorkspace, List.filter_append, apart within.1]
          · cases ran
  | rotationStep new =>
      simp only [apiApply, insertStep] at ran
      split at ran
      · cases ran
      · obtain rfl := Except.ok.inj ran
        refine ⟨⟨homed.rotations, ?_⟩, ?_⟩
        · refine List.forall_mem_append.mpr ⟨homed.steps, ?_⟩
          rw [List.forall_mem_singleton]
          exact ⟨within.2.1.trans within.1.symm, within.2.2.trans within.1.symm⟩
        · simp [rowsOf, ofWorkspace, List.filter_append, apart within.1]
  | audit entry =>
      simp only [apiApply, insertAudit] at ran
      split at ran
      · obtain rfl := Except.ok.inj ran
        exact ⟨⟨homed.rotations, homed.steps⟩, rowsOf_audit (apart within)⟩
      · cases ran

theorem ApiTransaction.working_homed {own : ApiTransaction} (homed : db.Homed home)
    (pending : ∀ statement ∈ own.pending, statement.Within home workspaceId)
    (different : workspaceId ≠ other) :
    (own.working db).Homed home ∧ (own.working db).rowsOf other = db.rowsOf other := by
  unfold working
  generalize own.pending = statements at pending
  induction statements generalizing db with
  | nil => exact ⟨homed, rfl⟩
  | cons statement rest ih =>
      rw [List.forall_mem_cons] at pending
      rw [List.foldl_cons]
      cases ran : db.apiApply statement with
      | error raised => exact ih homed pending.2
      | ok next =>
          obtain ⟨nextHomed, rows⟩ := Database.homed_apiApply homed pending.1 different ran
          obtain ⟨later, same⟩ := ih nextHomed pending.2
          exact ⟨later, same.trans rows⟩

/-- A trigger changes rows of its workspace only. -/
theorem ApiTransaction.answer_homed {own : ApiTransaction} (homed : db.Homed home)
    (pending : ∀ statement ∈ own.pending, statement.Within home workspaceId)
    (different : workspaceId ≠ other) (issued : ApiCommand) :
    (answer issued (own, db)).2.2.Homed home ∧
      (answer issued (own, db)).2.2.rowsOf other = db.rowsOf other := by
  cases issued with
  | commit => exact working_homed homed pending different
  | write statement =>
      simp only [answer]
      split <;> exact ⟨homed, rfl⟩
  | _ => exact ⟨homed, rfl⟩

/-- A write joins the open transaction or fails. -/
theorem ApiTransaction.answer_write (db : Database) (own : ApiTransaction) (statement : ApiWrite) :
    (∃ raised, (answer (.write statement) (own, db)).1 = .error raised ∧
        (answer (.write statement) (own, db)).2.1 = own) ∨
      ((answer (.write statement) (own, db)).1 = .ok () ∧
        (answer (.write statement) (own, db)).2.1 =
          { own with pending := own.pending ++ [statement] }) := by
  simp only [answer]
  split
  · exact Or.inr ⟨rfl, rfl⟩
  · exact Or.inl ⟨_, rfl, rfl⟩

variable {stage : TriggerStage} {own : ApiTransaction}

omit [Sha256] [UuidCodec] in
/-- A request that has ended draws nothing. -/
theorem TriggerStage.DrawsIn.ended {last : TriggerStage}
    (drawn : stage.DrawsIn home workspaceId own) (none : last.ids = [])
    (closed : last.isOpen = false) : last.DrawsIn home workspaceId own := by
  refine ⟨?_, drawn.left, fun isOpen => ?_, drawn.pending⟩
  · rw [none]
    exact fun _ inside => absurd inside List.not_mem_nil
  · exact absurd (closed.symm.trans isOpen) Bool.false_ne_true

/-- An insert of a request is one into its workspace. -/
theorem TriggerStage.DrawsIn.answer_write (drawn : stage.DrawsIn home workspaceId own)
    {statement : ApiWrite} (within : statement.Within home workspaceId)
    (fails : ∀ raised, stage.next (.write statement) (.error raised) = .failed)
    (writes : (stage.next (.write statement) (.ok ())).DrawsIn home workspaceId own) :
    (stage.next (.write statement) (ApiTransaction.answer (.write statement) (own, db)).1).DrawsIn
      home workspaceId (ApiTransaction.answer (.write statement) (own, db)).2.1 := by
  obtain ⟨raised, reply, same⟩ | ⟨reply, same⟩ := ApiTransaction.answer_write db own statement
  · rw [reply, same, fails]
    exact drawn.ended rfl rfl
  · rw [reply, same]
    refine ⟨writes.ids, writes.left, writes.enough, ?_⟩
    refine List.forall_mem_append.mpr ⟨drawn.pending, ?_⟩
    rw [List.forall_mem_singleton]
    exact within

/-- A request that may draw has an identifier of its workspace left. -/
theorem TriggerStage.DrawsIn.answer_uuid4 (drawn : stage.DrawsIn home workspaceId own)
    (isOpen : stage.isOpen = true) (few : stage.ids.length < 5)
    (grows : ∀ id, (stage.drew id).ids = stage.ids ++ [id]) :
    (stage.drew (ApiTransaction.answer .uuid4 (own, db)).1).DrawsIn home workspaceId
      (ApiTransaction.answer .uuid4 (own, db)).2.1 := by
  have enough := drawn.enough isOpen
  have left := drawn.left
  simp only [ApiTransaction.answer]
  cases supply : own.uuids with
  | nil =>
      rw [supply, List.length_nil] at enough
      omega
  | cons id rest =>
      rw [supply, List.forall_mem_cons] at left
      rw [supply, List.length_cons] at enough
      refine ⟨?_, left.2, fun _ => ?_, drawn.pending⟩
      · rw [List.headD_cons, grows]
        exact List.forall_mem_append.mpr ⟨drawn.ids, List.forall_mem_singleton.mpr left.1⟩
      · rw [List.headD_cons, grows, List.length_append, List.length_singleton]
        change 5 ≤ stage.ids.length + 1 + rest.length
        omega

/-- Each command of a request keeps to the identifiers of its workspace. -/
theorem TriggerStage.DrawsIn.answer (drawn : stage.DrawsIn home workspaceId own)
    {issued : ApiCommand} (allowed : stage.Allows workspaceId secretId known issued) :
    (stage.next issued (ApiTransaction.answer issued (own, db)).1).DrawsIn home workspaceId
      (ApiTransaction.answer issued (own, db)).2.1 := by
  cases allowed with
  | require =>
      generalize (ApiTransaction.answer _ (own, db)).1 = reply
      cases reply with
      | none => exact drawn.ended rfl rfl
      | some secret => exact ⟨drawn.ids, drawn.left, fun _ => drawn.enough rfl, drawn.pending⟩
  | check =>
      generalize (ApiTransaction.answer _ (own, db)).1 = reply
      cases reply with
      | none => exact ⟨drawn.ids, drawn.left, fun _ => drawn.enough rfl, drawn.pending⟩
      | some active => exact drawn.ended rfl rfl
  | time => exact drawn
  | name => exact drawn.answer_uuid4 rfl (by decide) fun _ => rfl
  | propose rotationId row proposes =>
      obtain ⟨same, within, _⟩ := proposes
      have own := drawn.ids rotationId List.mem_cons_self
      refine drawn.answer_write ⟨within, same ▸ own⟩ (fun _ => rfl) ?_
      rw [← same] at drawn
      exact ⟨drawn.ids, drawn.left, fun _ => drawn.enough rfl, drawn.pending⟩
  | draw rotationId drawnIds few =>
      exact drawn.answer_uuid4 rfl (Nat.succ_lt_succ few) fun _ => rfl
  | step rotationId drawnIds written row next =>
      obtain ⟨same, within, drew, _⟩ := next
      have named := drawn.ids rotationId List.mem_cons_self
      have listed := drawn.ids row.id (List.mem_cons_of_mem _ (List.mem_of_getElem? drew))
      refine drawn.answer_write ⟨within, listed, same ▸ named⟩ (fun _ => rfl) ?_
      exact ⟨drawn.ids, drawn.left, fun _ => drawn.enough rfl, drawn.pending⟩
  | audit rotationId drawnIds entry within all =>
      refine drawn.answer_write within (fun _ => rfl) ?_
      exact ⟨drawn.ids, drawn.left, fun isOpen => absurd isOpen Bool.false_ne_true, drawn.pending⟩
  | commit rotationId drawnIds =>
      have committed : TriggerStage.DrawsIn home workspaceId (.committed rotationId) own :=
        drawn.ended rfl rfl
      exact ⟨committed.ids, committed.left, committed.enough,
        fun _ inside => absurd inside List.not_mem_nil⟩

end Triggers

end Sprawl
