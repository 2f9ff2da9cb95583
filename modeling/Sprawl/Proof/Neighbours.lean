/-
This file proves that a workspace keeps its rows while the other workspaces are at work.
-/

import Mathlib.Data.List.Induction
import Sprawl.Proof.Collapse
import Sprawl.Proof.Homed

namespace Sprawl

open Effect

variable {κ : Type}

/-- A trigger of the workspace, with its identifiers. -/
def TriggersIn (home : Uuid → Uuid) (workspaceId : Uuid)
    (thread : Thread ApiCommand ApiCommand.Reply ApiTransaction (Except HttpError Json)) : Prop :=
  ∃ secretId stage,
    thread.program.Converses (rotationConversation workspaceId secretId fun _ => True) stage ∧
      stage.DrawsIn home workspaceId thread.own

/-- A new trigger gets five identifiers that are drawn in its workspace. -/
def TrafficAction.DrawsIn (home : Uuid → Uuid) : TrafficAction κ → Prop
  | .trigger workspaceId _ _ around =>
      5 ≤ around.uuids.length ∧ ∀ id ∈ around.uuids, home id = workspaceId
  | _ => True

/-- The workspace of a new trigger. -/
def TrafficAction.triggered : TrafficAction κ → Option Uuid
  | .trigger workspaceId _ _ _ => some workspaceId
  | _ => none

/-- The workspace of the errand or of the trigger that an action lets go on. -/
def TrafficAction.worksFor (before : List (TrafficAction κ)) (traffic : Traffic κ) :
    TrafficAction κ → Option Uuid
  | .errand index => traffic.pool.threads[index]?.map (·.own.errand.workspaceId)
  | .insert index => (before.filterMap TrafficAction.triggered)[index]?
  | _ => none

namespace Traffic

/-- The rows of a workspace and the events on its channel. -/
def visibleTo (workspaceId : Uuid) (traffic : Traffic κ) : Database × List Publication :=
  (traffic.pool.shared.db.rowsOf workspaceId,
    traffic.pool.shared.published.filter (·.workspaceId = workspaceId))

/-- Every errand and every trigger works for its own workspace. -/
structure Apart (home : Uuid → Uuid) (triggered : List Uuid) (traffic : Traffic κ) : Prop where
  homed : traffic.pool.shared.db.Homed home
  errands : ∀ thread ∈ traffic.pool.threads,
    WorksWithin home thread.own.errand.workspaceId thread.program ∧
      ∀ statement ∈ thread.own.transaction.pending,
        statement.Within home thread.own.errand.workspaceId
  lengths : traffic.triggers.length = triggered.length
  triggers : ∀ (index : Nat) thread workspaceId, traffic.triggers[index]? = some thread →
    triggered[index]? = some workspaceId → TriggersIn home workspaceId thread

namespace Apart

variable {home : Uuid → Uuid} {triggered : List Uuid} {traffic : Traffic κ}

/-- A new errand has written nothing. -/
theorem started (apart : traffic.Apart home triggered) (errand : Errand)
    {transaction : Transaction κ} (empty : transaction.pending = []) :
    (traffic.started errand transaction).Apart home triggered := by
  refine ⟨apart.homed, List.forall_mem_append.mpr ⟨apart.errands, ?_⟩, apart.lengths,
    apart.triggers⟩
  rw [List.forall_mem_singleton]
  exact ⟨errand_within home errand, by simp [empty]⟩

theorem sharing (apart : traffic.Apart home triggered) {shared : Session Database κ}
    (same : shared.db = traffic.pool.shared.db) : (traffic.sharing shared).Apart home triggered :=
  ⟨same ▸ apart.homed, apart.errands, apart.lengths, apart.triggers⟩

/-- The delivery of a job starts an errand and changes no row. -/
theorem deliver (apart : traffic.Apart home triggered) (index : Nat) (invocation : Invocation κ) :
    (traffic.deliver index invocation).Apart home triggered ∧
      ∀ other, (traffic.deliver index invocation).visibleTo other = traffic.visibleTo other := by
  unfold Traffic.deliver
  simp only
  split
  · exact ⟨apart, fun _ => rfl⟩
  · refine ⟨?_, fun _ => rfl⟩
    have taken : (traffic.sharing { traffic.pool.shared with
        queue := traffic.pool.shared.queue.eraseIdx index }).Apart home triggered :=
      apart.sharing rfl
    exact taken.started _ rfl

theorem duplicate (apart : traffic.Apart home triggered) (index : Nat) :
    (traffic.duplicate index).Apart home triggered ∧
      ∀ other, (traffic.duplicate index).visibleTo other = traffic.visibleTo other := by
  unfold Traffic.duplicate
  simp only
  split
  · exact ⟨apart, fun _ => rfl⟩
  · exact ⟨apart.sharing rfl, fun _ => rfl⟩

variable [Sha256]

/-- An errand that goes on keeps to its workspace. -/
theorem errand (apart : traffic.Apart home triggered) (index : Nat) :
    (traffic.errand index).Apart home triggered := by
  obtain ⟨same, _⟩ | ⟨issued, rest, own, found, _, same⟩ :=
    Pool.step_cases Undertaking.answer index traffic.pool
  · unfold Traffic.errand
    rw [same]
    exact apart
  · obtain ⟨within, pending⟩ := apart.errands _ (List.mem_of_getElem? found)
    have elsewhere : own.errand.workspaceId ≠ own.errand.workspaceId + 1 :=
      (Nat.succ_ne_self _).symm
    unfold Traffic.errand
    rw [same]
    refine ⟨(Undertaking.answer_homed pending apart.homed issued elsewhere).1, ?_, apart.lengths,
      apart.triggers⟩
    intro thread inside
    obtain before | rfl := List.mem_or_eq_of_mem_set inside
    · exact apart.errands thread before
    · refine ⟨within.2 _ (Undertaking.answer_atHome pending apart.homed issued), ?_⟩
      intro statement among
      obtain earlier | rfl := Undertaking.answer_pending _ _ _ among
      · exact pending statement earlier
      · exact within.1

/-- A step of an errand is visible to its own workspace only. -/
theorem errand_visible (apart : traffic.Apart home triggered) {index : Nat} {other : Uuid}
    (idle : traffic.pool.threads[index]?.map (·.own.errand.workspaceId) ≠ some other) :
    (traffic.errand index).visibleTo other = traffic.visibleTo other := by
  obtain ⟨same, _⟩ | ⟨issued, rest, own, found, _, same⟩ :=
    Pool.step_cases Undertaking.answer index traffic.pool
  · unfold Traffic.errand
    rw [same]
  · obtain ⟨within, pending⟩ := apart.errands _ (List.mem_of_getElem? found)
    have different : own.errand.workspaceId ≠ other := by
      rintro rfl
      rw [found] at idle
      exact idle rfl
    have rows := (Undertaking.answer_homed pending apart.homed issued different).2
    have events := Undertaking.answer_unpublished own traffic.pool.shared within.1 different
    unfold Traffic.errand visibleTo
    rw [same]
    exact Prod.ext rows events

variable [UuidCodec]

omit [Sha256] [UuidCodec] in
/-- Each trigger that has started works for the workspace of its request. -/
theorem trigger_in (apart : traffic.Apart home triggered) {index : Nat}
    {thread : Thread ApiCommand ApiCommand.Reply ApiTransaction (Except HttpError Json)}
    (found : traffic.triggers[index]? = some thread) :
    ∃ workspaceId, triggered[index]? = some workspaceId ∧ TriggersIn home workspaceId thread := by
  obtain ⟨bound, _⟩ := List.getElem?_eq_some_iff.mp found
  have named : triggered[index]? = some _ := List.getElem?_eq_getElem (apart.lengths ▸ bound)
  exact ⟨_, named, apart.triggers index thread _ found named⟩

/-- A trigger that goes on keeps to its workspace. -/
theorem insert (apart : traffic.Apart home triggered) (index : Nat) :
    (traffic.insert index).Apart home triggered := by
  obtain ⟨same, _⟩ | ⟨issued, rest, own, found, _, same⟩ :=
    Pool.step_cases ApiTransaction.answer index
      { shared := traffic.pool.shared.db, threads := traffic.triggers }
  · unfold Traffic.insert
    simp only [same]
    exact apart
  · obtain ⟨workspaceId, named, secretId, stage, converses, drawn⟩ := apart.trigger_in found
    have elsewhere : workspaceId ≠ workspaceId + 1 := (Nat.succ_ne_self _).symm
    unfold Traffic.insert
    simp only [same]
    refine ⟨(ApiTransaction.answer_homed apart.homed drawn.pending elsewhere issued).1,
      apart.errands, ?_, ?_⟩
    · exact List.length_set.trans apart.lengths
    · intro at_ thread owner here listed
      by_cases stepped : at_ = index
      · subst stepped
        obtain rfl := Option.some.inj (named.symm.trans listed)
        obtain ⟨bound, _⟩ := List.getElem?_eq_some_iff.mp found
        rw [List.getElem?_set_self bound] at here
        obtain rfl := Option.some.inj here
        exact ⟨secretId, _, converses.2 _, drawn.answer converses.1⟩
      · rw [List.getElem?_set_ne (Ne.symm stepped)] at here
        exact apart.triggers at_ thread owner here listed

/-- A step of a trigger is visible to its own workspace only. -/
theorem insert_visible (apart : traffic.Apart home triggered) {index : Nat} {other : Uuid}
    (idle : triggered[index]? ≠ some other) :
    (traffic.insert index).visibleTo other = traffic.visibleTo other := by
  obtain ⟨same, _⟩ | ⟨issued, rest, own, found, _, same⟩ :=
    Pool.step_cases ApiTransaction.answer index
      { shared := traffic.pool.shared.db, threads := traffic.triggers }
  · unfold Traffic.insert
    simp only [same]
    rfl
  · obtain ⟨workspaceId, named, secretId, stage, converses, drawn⟩ := apart.trigger_in found
    have different : workspaceId ≠ other := by
      rintro rfl
      exact idle named
    have rows := (ApiTransaction.answer_homed apart.homed drawn.pending different issued).2
    unfold Traffic.insert visibleTo
    simp only [same]
    exact Prod.ext rows rfl

omit [Sha256] [UuidCodec] in
/-- A new trigger has drawn nothing. -/
theorem trigger (apart : traffic.Apart home triggered) {workspaceId : Uuid} (secretId : Uuid)
    (claims : TokenClaims) {around : Surroundings} (enough : 5 ≤ around.uuids.length)
    (draws : ∀ id ∈ around.uuids, home id = workspaceId) :
    Apart home (triggered ++ [workspaceId]) { traffic with
      triggers := traffic.triggers ++
        [⟨(triggerRotation workspaceId secretId around.hour claims).run,
          { pending := [], uuids := around.uuids }⟩] } := by
  refine ⟨apart.homed, apart.errands, ?_, ?_⟩
  · rw [List.length_append, List.length_append, apart.lengths]
    rfl
  · intro index thread owner here listed
    by_cases earlier : index < triggered.length
    · rw [List.getElem?_append_left earlier] at listed
      rw [List.getElem?_append_left (apart.lengths ▸ earlier)] at here
      exact apart.triggers index thread owner here listed
    · have late : triggered.length ≤ index := Nat.le_of_not_lt earlier
      rw [List.getElem?_append_right late] at listed
      rw [List.getElem?_append_right (apart.lengths ▸ late)] at here
      obtain rfl := List.mem_singleton.mp (List.mem_of_getElem? here)
      obtain rfl := List.mem_singleton.mp (List.mem_of_getElem? listed)
      refine ⟨secretId, .requiring, (leaves_triggerRotation around.hour trivial).converses, ?_⟩
      exact ⟨fun _ inside => absurd inside List.not_mem_nil, draws,
        fun _ => Nat.le_trans enough (Nat.le_add_left _ _),
        fun _ inside => absurd inside List.not_mem_nil⟩

/-- Every action keeps the workspaces apart. -/
theorem action (apart : traffic.Apart home triggered) {action : TrafficAction κ}
    (draws : action.DrawsIn home) :
    (action.step traffic).Apart home (triggered ++ action.triggered.toList) := by
  have still (none : action.triggered = none) (next : (action.step traffic).Apart home triggered) :
      (action.step traffic).Apart home (triggered ++ action.triggered.toList) := by
    rw [none, Option.toList_none, List.append_nil]
    exact next
  cases action with
  | request sent clock => exact still rfl (apart.started _ rfl)
  | trigger workspaceId secretId claims around =>
      exact apart.trigger secretId claims draws.1 draws.2
  | deliver index invocation => exact still rfl (apart.deliver index invocation).1
  | duplicate index => exact still rfl (apart.duplicate index).1
  | expireLock secretId => exact still rfl (apart.sharing rfl)
  | errand index => exact still rfl (apart.errand index)
  | insert index => exact still rfl (apart.insert index)

/-- An action is visible to the workspace for which it takes a step, and to no other. -/
theorem action_visible {before : List (TrafficAction κ)}
    (apart : traffic.Apart home (before.filterMap TrafficAction.triggered))
    {action : TrafficAction κ} {other : Uuid} (idle : action.worksFor before traffic ≠ some other) :
    (action.step traffic).visibleTo other = traffic.visibleTo other := by
  cases action with
  | request sent clock => rfl
  | trigger workspaceId secretId claims around => rfl
  | deliver index invocation => exact (apart.deliver index invocation).2 other
  | duplicate index => exact (apart.duplicate index).2 other
  | expireLock secretId => rfl
  | errand index => exact apart.errand_visible idle
  | insert index => exact apart.insert_visible idle

/-- The workspaces are apart in every reachable state. -/
theorem run {db : Database} (homed : db.Homed home) (external : κ)
    {actions : List (TrafficAction κ)} (draws : ∀ action ∈ actions, action.DrawsIn home) :
    (runActions TrafficAction.step actions (Traffic.start db external)).Apart home
      (actions.filterMap TrafficAction.triggered) := by
  induction actions using List.reverseRecOn with
  | nil =>
      refine ⟨homed, fun _ inside => absurd inside List.not_mem_nil, rfl, ?_⟩
      intro index thread workspaceId found
      cases found
  | append_singleton before action ih =>
      rw [List.forall_mem_append, List.forall_mem_singleton] at draws
      have next := (ih draws.1).action draws.2
      rw [runActions_append, List.filterMap_append]
      cases named : action.triggered with
      | none =>
          rw [named] at next
          rw [List.filterMap_cons_none named]
          exact next
      | some workspaceId =>
          rw [named] at next
          rw [List.filterMap_cons_some named]
          exact next

end Apart

end Traffic

/-- While no errand and no trigger of a workspace takes a step, the workspace keeps its rows and gets
no event, whatever the others do, as long as no identifier is drawn in two workspaces. -/
theorem idle_workspace_kept [Sha256] [UuidCodec] (home : Uuid → Uuid) {db : Database}
    (homed : db.Homed home) (external : κ) {before during : List (TrafficAction κ)}
    (draws : ∀ action ∈ before ++ during, action.DrawsIn home) {workspaceId : Uuid}
    (idle : ∀ part action, part ++ [action] <+: during →
      action.worksFor (before ++ part)
        (runActions TrafficAction.step (before ++ part) (Traffic.start db external)) ≠
          some workspaceId) :
    (runActions TrafficAction.step (before ++ during) (Traffic.start db external)).visibleTo
        workspaceId =
      (runActions TrafficAction.step before (Traffic.start db external)).visibleTo workspaceId := by
  induction during using List.reverseRecOn with
  | nil => rw [List.append_nil]
  | append_singleton part action ih =>
      rw [← List.append_assoc, List.forall_mem_append] at draws
      have apart := Traffic.Apart.run homed external draws.1
      have last := apart.action_visible (idle part action (List.prefix_rfl))
      rw [← List.append_assoc, runActions_append]
      refine last.trans (ih draws.1 fun earlier next inside => idle earlier next ?_)
      exact inside.trans (List.prefix_append part [action])

section Example

/-- Workspace 2 has a secret, an investigation, a rotation and an audit entry, and workspace 1 has a
secret and a rotation that waits for approval. -/
def neighbours : Database :=
  { tenant 2 5 17 with
    users := [9]
    workspaces := (tenant 2 5 17).workspaces ++
      [{ id := 1, kind := .standard, demoSessionId := none, expiresAt := none }]
    secrets := (tenant 2 5 17).secrets ++ [plainSecret 1 4 "other"]
    rotations := (tenant 2 5 17).rotations ++ proposal.rotations
    rotationSteps := proposal.rotationSteps }

/-- Only the rotation 17 is drawn in workspace 2. -/
def neighbourHome (id : Uuid) : Uuid := if id = 17 then 2 else 1

/-- A rotation is triggered in workspace 1, another one is approved there, and its job runs. -/
def busyWorkspace : List (TrafficAction Unit) :=
  .trigger 1 4 { sub := userText, workspaceId := 1, role := "owner" }
      { uuids := (List.range 5).map (100 + ·), hour := 3600 } ::
    List.replicate 15 (.insert 0) ++ approvedJob

def busyTraffic (actions : List (TrafficAction Unit)) : Traffic Unit :=
  @runActions _ _ (@TrafficAction.step _ plainDigest userCodec) actions (Traffic.start neighbours ())

theorem busyWorkspace_works_for_one :
    ((List.range busyWorkspace.length).all fun index =>
      busyWorkspace[index]?.all fun action => decide (action.worksFor (busyWorkspace.take index)
        (busyTraffic (busyWorkspace.take index)) ≠ some 2)) = true := by decide +kernel

/-- Both rotations of workspace 1 go on, and workspace 2 keeps its rows and gets no event. -/
theorem busyWorkspace_unseen :
    (busyTraffic busyWorkspace).pool.shared.db.rotations.map (·.status) =
        [.provisioning, .provisioning, .pendingApproval] ∧
      (neighbours.rowsOf 2).rotations.length = 1 ∧
      (busyTraffic busyWorkspace).visibleTo 2 = (Traffic.start neighbours ()).visibleTo 2 := by
  have homed : neighbours.Homed neighbourHome := by
    refine ⟨?_, ?_⟩ <;> simp [neighbours, proposal, tenant, Database.empty, neighbourHome]
  have draws : ∀ action ∈ [] ++ busyWorkspace, action.DrawsIn neighbourHome := by
    have other (number : Nat) : 100 + number ≠ 17 := by omega
    simp [busyWorkspace, approvedJob, TrafficAction.DrawsIn, neighbourHome, other]
  refine ⟨by decide +kernel, by decide +kernel, ?_⟩
  refine @idle_workspace_kept _ plainDigest userCodec _ _ homed () [] busyWorkspace draws 2 ?_
  intro part action inside
  obtain ⟨rest, split⟩ := inside
  rw [List.append_assoc, List.singleton_append] at split
  have bound : part.length < busyWorkspace.length := by
    rw [← split, List.length_append, List.length_cons]
    omega
  have works :=
    List.all_eq_true.mp busyWorkspace_works_for_one part.length (List.mem_range.mpr bound)
  have here : busyWorkspace[part.length]? = some action := by rw [← split]; simp
  have start : busyWorkspace.take part.length = part := by rw [← split]; simp
  rw [here, start] at works
  exact of_decide_eq_true works

end Example

end Sprawl
