/-
This file proves when the audit trail of a rotation mirrors its status.
-/

import Sprawl.Proof.CallMoments
import Sprawl.Proof.WorldStep
import Sprawl.Rotation.Sandbox
import Sprawl.Rotation.Trail

namespace Sprawl

open Effect

variable {κ : Type}

/-- All statuses, in the order of their enumeration. -/
def rotationStatuses : List RotationStatus :=
  [.proposed, .planFailed, .pendingApproval, .provisioning, .distributing, .verifying,
    .awaitingConfirmation, .revoking, .completed, .rollingBack, .rolledBack, .rollbackFailed,
    .rejected, .needsReplan, .abandoned]

/-- The statuses have different names. -/
theorem RotationStatus.value_injective : Function.Injective RotationStatus.value := by
  intro first second same
  have every : ∀ status, status ∈ rotationStatuses := by
    intro status
    cases status <;> decide
  have names : (rotationStatuses.map RotationStatus.value).Nodup := by decide
  exact List.inj_on_of_nodup_map names (every first) (every second) same

section Trail

variable {rows after : Rows}

/-- A new entry is the latest one. -/
theorem Rows.recordedStatus_withAudit (rows : Rows) (entry : AuditEntry) :
    (rows.withAudit entry).recordedStatus =
      (if entry.targets rows.rotation.id then entry.afterStatus else none).or
        rows.recordedStatus := by
  unfold recordedStatus
  rw [withAudit_auditLog, List.reverse_append, List.reverse_singleton, List.singleton_append,
    List.findSome?_cons, withAudit_rotation]
  cases (if entry.targets rows.rotation.id then entry.afterStatus else none) <;> rfl

/-- An entry about the rotation records the status of its `after` column. -/
theorem Rows.recordedStatus_audited (rows : Rows) (actor action : String)
    (before after : Option (List (String × Json))) :
    (rows.audited actor action before after).recordedStatus =
      ((after.getD []).lookup "status").or rows.recordedStatus := by
  unfold Rows.audited
  rw [Rows.recordedStatus_withAudit]
  simp [AuditEntry.targets, AuditEntry.afterStatus]

/-- Rows with the same trail, the same identifier and the same status mirror alike. -/
theorem Rows.mirrors_congr (log : after.auditLog = rows.auditLog)
    (id : after.rotation.id = rows.rotation.id)
    (status : after.rotation.status = rows.rotation.status) : after.Mirrors ↔ rows.Mirrors := by
  unfold Mirrors recordedStatus
  rw [log, id, status]

theorem Rows.mirrors_withAudit {entry : AuditEntry} (targets : entry.targets rows.rotation.id = true)
    (records : entry.afterStatus = some (.str rows.rotation.status.value)) :
    (rows.withAudit entry).Mirrors := by
  unfold Mirrors
  rw [Rows.recordedStatus_withAudit, if_pos targets, records]
  rfl

/-- An entry that records the new status mirrors it. -/
theorem Rows.mirrors_recorded (actor action : String) (before : Option (List (String × Json)))
    (rest : List (String × Json)) :
    (rows.audited actor action before (some (statusField rows.rotation.status :: rest))).Mirrors := by
  unfold Mirrors
  rw [Rows.recordedStatus_audited]
  rfl

/-- An entry without a status changes nothing. -/
theorem Rows.mirrors_unrecorded {actor action : String} {before : Option (List (String × Json))}
    {fields : List (String × Json)} (absent : fields.lookup "status" = none) :
    (rows.audited actor action before (some fields)).Mirrors ↔ rows.Mirrors := by
  unfold Mirrors
  rw [Rows.recordedStatus_audited, Option.getD_some, absent, Option.none_or, Rows.audited_rotation]

theorem Rows.mirrors_savedRef (time : Time) (ref : Option NewSecretRef) :
    (rows.savedRef time ref).Mirrors ↔ rows.Mirrors := by
  cases ref with
  | none => exact Iff.rfl
  | some ref => exact Rows.mirrors_congr rfl rfl rfl

theorem Rows.mirrors_patchSteps (selected : RotationStep → Bool) (patch : StepPatch) :
    (rows.patchSteps selected patch).Mirrors ↔ rows.Mirrors :=
  Rows.mirrors_congr rfl rfl rfl

end Trail

section Engine

variable {rows : Rows} (mirrors : rows.Mirrors) (actor : String) (step : RotationStep) (time : Time)

include mirrors

theorem Rows.Mirrors.started : (rows.started actor step time).Mirrors := by
  unfold Rows.started
  split
  · exact Rows.mirrors_recorded _ _ _ _
  · exact mirrors

theorem Rows.Mirrors.finished (ref : Option NewSecretRef) :
    (rows.finished actor step ref time).Mirrors := by
  unfold Rows.finished
  rw [Rows.mirrors_unrecorded rfl, Rows.mirrors_savedRef, Rows.mirrors_patchSteps]
  exact mirrors

theorem Rows.Mirrors.afterFinish (steps : List RotationStep) (ref : Option NewSecretRef) :
    (rows.afterFinish actor steps step ref time).Mirrors := by
  unfold Rows.afterFinish
  split
  · exact Rows.mirrors_recorded _ _ _ _
  · exact mirrors.finished actor step time ref

theorem Rows.Mirrors.failed (error : Option String) :
    (rows.failed actor step error time).Mirrors := by
  unfold Rows.failed
  rw [Rows.mirrors_unrecorded rfl, Rows.mirrors_patchSteps]
  exact mirrors

end Engine

/-- The rollback loop writes no entry. -/
theorem CompensatedAll.auditLog {keys : ConnectorKeys} {rotation : Rotation} {time : Time}
    {steps : List RotationStep} {rows final : Rows} {events : List ConnectorEvent}
    {failures : List String}
    (all : CompensatedAll keys rotation time steps rows events final failures) :
    final.auditLog = rows.auditLog := by
  induction all with
  | nil => rfl
  | cons first others ih => rw [ih, Rows.patchSteps_auditLog]

theorem CompensatedAll.mirrors {keys : ConnectorKeys} {rotation : Rotation} {time : Time}
    {steps : List RotationStep} {rows final : Rows} {events : List ConnectorEvent}
    {failures : List String}
    (all : CompensatedAll keys rotation time steps rows events final failures)
    (mirrors : rows.Mirrors) : final.Mirrors :=
  (Rows.mirrors_congr all.auditLog (congrArg Rotation.id all.rotation_eq)
    (congrArg Rotation.status all.rotation_eq)).mpr mirrors

section Calls

variable {connectors : Connectors κ} {actor : String} {session : Session Rows κ}
  {moment : Moment Command Command.Reply (Session Rows κ)}

/-- Every moment of a rollback mirrors. -/
theorem Undoes.mirrors {rotation : Rotation} {steps : List RotationStep} {step : RotationStep}
    {error : Option String}
    (undoes : Undoes connectors actor session rotation steps step error moment)
    (mirrors : session.db.Mirrors) : moment.state.db.Mirrors := by
  have failed := mirrors.failed actor step session.clock error
  have begun : (session.db.undoing actor step error session.clock).Mirrors :=
    Rows.mirrors_recorded _ _ _ _
  cases undoes with
  | failing internal calls rows =>
      rcases rows with same | same <;> rw [same]
      · exact mirrors
      · exact failed
  | beginning internal calls rows =>
      rcases rows with same | same <;> rw [same]
      · exact failed
      · exact begun
  | compensating within =>
      cases within with
      | calling before next rest split events failures passes issued called =>
          exact passes.mirrors begun
      | recording before next rest split events more failures result passes outcome internal called =>
          exact passes.mirrors begun
  | ending events compensated failures all internal calls rows =>
      rcases rows with same | same <;> rw [same]
      · exact all.mirrors begun
      · exact Rows.mirrors_recorded _ _ _ _

/-- Every moment of a running step mirrors. -/
theorem StepShows.mirrors {step : RotationStep}
    (shows : StepShows connectors actor session step moment) (mirrors : session.db.Mirrors) :
    moment.state.db.Mirrors := by
  have started := mirrors.started actor step session.clock
  cases shows with
  | starting internal calls rows =>
      rcases rows with same | same <;> rw [same]
      · exact mirrors
      · exact started
  | executing issued external calls rows =>
      rw [rows]
      exact started
  | finishing done internal calls rows =>
      rcases rows with (same | same) | same <;> rw [same]
      · exact started
      · exact started.finished actor step session.clock _
      · exact started.afterFinish actor step session.clock _ _
  | undoing failed executed reaches undoes =>
      apply undoes.mirrors
      rw [reaches.db]
      exact started

/-- A running step ends mirrored. -/
theorem StepEnd.mirrors {step : RotationStep} {final : Session Rows κ}
    (ends : StepEnd connectors actor session step final) (mirrors : session.db.Mirrors) :
    final.db.Mirrors := by
  cases ends with
  | finished done ends =>
      rw [ends.db]
      exact (mirrors.started actor step session.clock).afterFinish actor step session.clock _ _
  | rolledBack failed later rows undone ends =>
      obtain ⟨compensated, failures, all, rfl⟩ := undone.passes
      rw [ends.db]
      exact Rows.mirrors_recorded _ _ _ _

/-- A gate blocks a rotation that does not wait for a confirmation yet. -/
structure Rows.Blocks (rows : Rows) (time : Time) : Prop where
  live : Live rows time
  revoke : ∃ step, rows.nextStep = some step ∧ step.kind = .revoke ∧
    step.requiresConfirmation = false
  incomplete : rows.answer (.incompleteVerify rows.rotation.id) ≠ 0
  unpaused : rows.rotation.status ≠ .awaitingConfirmation

/-- A settled rotation mirrors unless a gate has blocked it. -/
theorem Settles.mirrors {rows after : Rows} {time : Time} (settles : Settles rows actor time after)
    (mirrors : rows.Mirrors) (open' : ¬ rows.Blocks time) : after.Mirrors := by
  cases settles with
  | expired active late => exact Rows.mirrors_recorded _ _ _ _
  | completed live some finished => exact Rows.mirrors_recorded _ _ _ _
  | paused live step next flagged unpaused => exact Rows.mirrors_recorded _ _ _ _
  | blocked live step next passed revoke incomplete =>
      have paused : rows.rotation.status = .awaitingConfirmation := by
        by_contra unpaused
        have unflagged : step.requiresConfirmation = false := by
          by_contra flagged
          exact unpaused (passed (by simpa using flagged))
        exact open' ⟨live, ⟨step, next, revoke, unflagged⟩, incomplete, unpaused⟩
      have same : (rows.withStatus .awaitingConfirmation time).Mirrors ↔ rows.Mirrors :=
        Rows.mirrors_congr rfl rfl paused.symm
      exact same.mpr mirrors

/-- A blocked gate leaves the trail behind the status. -/
theorem Rows.Blocks.settles {rows after : Rows} {time : Time} (blocks : rows.Blocks time)
    (mirrors : rows.Mirrors) (settles : Settles rows actor time after) : ¬ after.Mirrors := by
  obtain ⟨step, next, revoke, unflagged⟩ := blocks.revoke
  cases settles with
  | expired active late => exact absurd (blocks.live.unexpired.symm.trans late) (by simp)
  | completed live some finished =>
      obtain ⟨inside, pending, _⟩ := Rows.nextStep_eq_some next
      exact absurd (pending.symm.trans (finished step inside)) (by simp)
  | paused live other same flagged unpaused =>
      obtain rfl : step = other := Option.some.inj (next.symm.trans same)
      exact absurd (unflagged.symm.trans flagged) (by simp)
  | blocked live other same passed revoke incomplete =>
      intro moved
      have recorded := (mirrors : rows.recordedStatus = _).symm.trans moved
      simp only [Option.some.injEq, Json.str.injEq] at recorded
      exact blocks.unpaused (RotationStatus.value_injective recorded)

theorem Rows.Blocks.not_executes {rows : Rows} {time : Time} (blocks : rows.Blocks time)
    (step : RotationStep) : ¬ Executes rows time step := by
  intro executes
  obtain ⟨other, next, revoke, _⟩ := blocks.revoke
  obtain rfl : step = other := Option.some.inj (executes.next.symm.trans next)
  exact blocks.incomplete (executes.verified revoke)

/-- An engine call that a gate blocks ends without a mirrored status. -/
theorem Rows.Blocks.ends {final : Session Rows κ} (blocks : session.db.Blocks session.clock)
    (mirrors : session.db.Mirrors) (ends : EngineEnd connectors actor session final) :
    ¬ final.db.Mirrors := by
  obtain ⟨step, next, _⟩ := blocks.revoke
  cases ends with
  | idle idles ends => exact absurd idles (Idles.not_of_next blocks.live.active next)
  | settled after settles ends =>
      rw [ends.db]
      exact blocks.settles mirrors settles
  | ran step executes ends => exact absurd executes (blocks.not_executes step)

/-- Every moment of an engine call mirrors unless a gate blocks. -/
theorem CallShows.mirrors (shows : CallShows connectors actor session moment)
    (mirrors : session.db.Mirrors) (open' : ¬ session.db.Blocks session.clock) :
    moment.state.db.Mirrors := by
  cases shows with
  | reading reads =>
      rw [reads.state]
      exact mirrors
  | settling after settles internal calls rows =>
      rcases rows with same | same <;> rw [same]
      · exact mirrors
      · exact settles.mirrors mirrors open'
  | running step executes shows => exact shows.mirrors mirrors

theorem EngineEnd.mirrors {final : Session Rows κ}
    (ends : EngineEnd connectors actor session final) (mirrors : session.db.Mirrors)
    (open' : ¬ session.db.Blocks session.clock) : final.db.Mirrors := by
  cases ends with
  | idle idles ends =>
      rw [ends.db]
      exact mirrors
  | settled after settles ends =>
      rw [ends.db]
      exact settles.mirrors mirrors open'
  | ran step executes ends => exact ends.mirrors mirrors

end Calls

/-- A command that commits the open transaction. -/
def Command.isCommit : Command → Bool
  | .commit => true
  | _ => false

/-- Only a commit changes the rows. -/
theorem Session.answer_db (connectors : Connectors κ) (issued : Command) (session : Session Rows κ)
    (uncommitted : issued.isCommit = false) :
    (session.answer connectors issued).2.db = session.db := by
  cases issued with
  | commit => exact absurd uncommitted (by simp [Command.isCommit])
  | acquireLock secretId rotationId =>
      simp only [Session.answer]
      split <;> rfl
  | releaseLock secretId rotationId =>
      simp only [Session.answer]
      split <;> rfl
  | _ => rfl

section Requests

variable {α : Type}

theorem requireRole_commitsOnce (roles : List String) (claims : TokenClaims)
    {next : Unit → RequestProgram α} (later : (next ()).run.IssuesAtMost Command.isCommit 1) :
    (requireRole roles claims >>= next).run.IssuesAtMost Command.isCommit 1 := by
  unfold requireRole
  split
  · exact later
  · trivial

theorem requireRotation_commitsOnce (rotationId workspaceId : Uuid)
    {next : Rotation → RequestProgram α}
    (later : ∀ rotation, (next rotation).run.IssuesAtMost Command.isCommit 1) :
    (requireRotation rotationId workspaceId >>= next).run.IssuesAtMost Command.isCommit 1 := by
  intro found
  cases found with
  | none => trivial
  | some rotation => exact later rotation

/-- A request commits at most once. -/
theorem Request.commitsOnce (request : Request) :
    request.program.run.IssuesAtMost Command.isCommit 1 := by
  cases request with
  | approve workspaceId rotationId claims =>
      apply requireRole_commitsOnce
      apply requireRotation_commitsOnce
      intro rotation
      split
      · trivial
      · exact fun _ => ⟨0, rfl, fun _ _ => trivial⟩
  | reject workspaceId rotationId claims =>
      apply requireRole_commitsOnce
      apply requireRotation_commitsOnce
      intro rotation
      split
      · trivial
      · exact fun _ _ _ => ⟨0, rfl, fun _ => trivial⟩
  | confirm workspaceId rotationId stepId claims =>
      apply requireRole_commitsOnce
      apply requireRotation_commitsOnce
      intro rotation
      split
      · trivial
      · intro found
        cases found with
        | none => trivial
        | some step =>
            change Program.IssuesAtMost _ _ (ExceptT.run (if step.status ≠ .pending then _ else _))
            split
            · trivial
            · exact fun _ _ _ => ⟨0, rfl, fun _ _ => trivial⟩

end Requests

theorem auditAll_uncommitted (workspaceId rotationId : Uuid) (sessionId : String)
    (entries : List (String × List (String × Json))) :
    (auditAll workspaceId rotationId sessionId entries).Issues (·.isCommit = false) := by
  induction entries with
  | nil => trivial
  | cons entry rest ih => exact ⟨rfl, fun _ => ih⟩

/-- A simulated failure commits at most once. -/
theorem simulateFailure_commitsOnce (sessionId : String) :
    (simulateFailure sessionId).IssuesAtMost Command.isCommit 1 := by
  intro found
  cases found with
  | none => trivial
  | some workspaceId =>
      intro rotations
      match rotations with
      | [] => trivial
      | _ :: _ :: _ => trivial
      | [rotation] =>
          intro _ _ _ _ _
          change Program.IssuesAtMost _ _ (auditAll workspaceId rotation.id sessionId
            simulatedAudit >>= _)
          exact Program.issuesAtMost_bind (auditAll_uncommitted _ _ _ _) fun _ =>
            ⟨0, rfl, fun _ _ _ => trivial⟩

section Simulation

variable (connectors : Connectors κ) {session : Session Rows κ}

/-- The audit entries join the open transaction. -/
theorem auditAll_run (workspaceId rotationId : Uuid) (sessionId : String)
    (entries : List (String × List (String × Json))) (session : Session Rows κ) :
    ((auditAll workspaceId rotationId sessionId entries).run (Session.answer connectors) session).2 =
      { session with
        pending := session.pending ++ entries.map fun entry => .audit
          { workspaceId, actor := demoActor, action := entry.1, targetType := some "rotation"
            targetId := some rotationId, after := some entry.2
            correlationId := some sessionId } } := by
  induction entries generalizing session with
  | nil => simp [auditAll]
  | cons entry rest ih =>
      change (Program.run _ (auditAll workspaceId rotationId sessionId rest) _).2 = _
      rw [ih]
      simp

/-- The step rows that a simulated failure leaves. -/
def Rows.simulatedSteps (rows : Rows) (time : Time) : Rows :=
  let at_ (indexes : List Int) (step : RotationStep) : Bool :=
    step.rotationId = rows.rotation.id && indexes.contains step.idx
  ((rows.patchSteps (at_ [0, 1, 2]) { status := some .done, executedAt := some time }).patchSteps
    (at_ [3])
    { status := some .failed, executedAt := some time
      error := some (some "Simulated: AWS IAM DeleteAccessKey returned AccessDenied") }).patchSteps
    (at_ [0, 1]) { status := some .compensated }

/-- The rows after a simulated failure. -/
def Rows.simulated (rows : Rows) (sessionId : String) (time : Time) : Rows :=
  simulatedAudit.foldl (fun rows entry => rows.withAudit
      { workspaceId := rows.workspace.id, actor := demoActor, action := entry.1
        targetType := some "rotation", targetId := some rows.rotation.id, after := some entry.2
        correlationId := some sessionId })
    ((rows.simulatedSteps time).withStatus .rolledBack time)

/-- A simulated failure finds the demo workspace of its session with a rotation that waits for its
approval. -/
structure Rows.Simulable (rows : Rows) (sessionId : String) : Prop where
  session : rows.workspace.demoSessionId = some sessionId
  demo : rows.workspace.kind = .demo
  waiting : rows.rotation.status = .pendingApproval

/-- A simulated failure writes its outcome at once or nothing at all. -/
theorem simulateFailure_run (sessionId : String) (empty : session.pending = []) :
    (session.db.Simulable sessionId ∧
      ((simulateFailure sessionId).run (Session.answer connectors) session).2.db =
        session.db.simulated sessionId session.clock) ∨
    (¬ session.db.Simulable sessionId ∧
      ((simulateFailure sessionId).run (Session.answer connectors) session).2.db = session.db) := by
  unfold simulateFailure
  simp only [select, issue, Program.bind_perform, Program.run_command, Session.answer_select]
  rw [Session.view_of_pending_nil session empty]
  by_cases demo : session.db.workspace.demoSessionId = some sessionId ∧
      session.db.workspace.kind = .demo
  · have found : SqlStore.answer (Query.demoWorkspace sessionId) session.db =
        some session.db.workspace.id := if_pos demo
    by_cases waiting : session.db.rotation.status = .pendingApproval
    · have one : SqlStore.answer (Query.pendingRotations session.db.workspace.id) session.db =
          [session.db.rotation] := if_pos ⟨session.db.inWorkspace, waiting⟩
      left
      refine ⟨⟨demo.1, demo.2, waiting⟩, ?_⟩
      simp only [found, one, issue, Program.bind_perform, Program.run_command,
        Session.answer_select, Session.view_of_pending_nil session empty, now, write,
        Session.answer_now, Session.answer_write, Program.run_bind, auditAll_run]
      simp [publish, commit, issue, Program.perform, empty, Session.view, simulatedAudit,
        SqlStore.apply, Rows.apply, Rows.simulated, Rows.simulatedSteps]
      rfl
    · have none : SqlStore.answer (Query.pendingRotations session.db.workspace.id) session.db = [] :=
        if_neg fun given => waiting given.2
      right
      refine ⟨fun simulable => waiting simulable.waiting, ?_⟩
      simp only [found, none, Program.run_command, Session.answer_select,
        Session.view_of_pending_nil session empty]
      rfl
  · have absent : SqlStore.answer (Query.demoWorkspace sessionId) session.db = none := if_neg demo
    right
    rw [absent]
    exact ⟨fun simulable => demo ⟨simulable.session, simulable.demo⟩, rfl⟩

/-- A simulated failure records the status that it writes. -/
theorem simulateFailure_mirrors (sessionId : String) (empty : session.pending = [])
    (mirrors : session.db.Mirrors) :
    ((simulateFailure sessionId).run (Session.answer connectors) session).2.db.Mirrors := by
  obtain ⟨_, same⟩ | ⟨_, same⟩ := simulateFailure_run connectors sessionId empty
  · rw [same]
    -- The last entry records `rolled_back`.
    exact Rows.mirrors_withAudit (by simp [AuditEntry.targets]) rfl
  · rw [same]
    exact mirrors

end Simulation

/-- An approval records a status that the rotation does not get. -/
theorem Rows.approved_unmirrored {rows : Rows} (actor : String)
    (waiting : rows.rotation.status = .pendingApproval) : ¬ (rows.approved actor).Mirrors := by
  intro mirrored
  have recorded : (rows.approved actor).recordedStatus =
      some (.str RotationStatus.provisioning.value) := by
    unfold Rows.approved
    rw [Rows.recordedStatus_audited]
    rfl
  have status : (rows.approved actor).rotation.status = .pendingApproval := waiting
  have same := recorded.symm.trans mirrored
  rw [status, Option.some.injEq, Json.str.injEq] at same
  exact absurd (RotationStatus.value_injective same) (by decide)

/-- An action departs from the trail when it approves a rotation or when a gate blocks it. -/
inductive TrailAction.Departs : World κ → TrailAction κ → Prop where
  | approved {world : World κ} (claims : TokenClaims) (clock : Time) (role : mayDecide claims)
      (waiting : world.db.rotation.status = .pendingApproval) :
      Departs world
        (.request (.approve world.db.rotation.workspaceId world.db.rotation.id claims) clock)
  | blocked {world : World κ} (invocation : Invocation κ)
      (blocks : world.db.Blocks invocation.clock) : Departs world (.advance invocation)

namespace World

variable {world : World κ} (mirrors : world.db.Mirrors)

include mirrors

/-- A request that is no accepted approval keeps the trail. -/
theorem handle_mirrors {request : Request} {clock : Time}
    (follows : ¬ TrailAction.Departs world (.request request clock)) :
    (world.handle request clock).db.Mirrors := by
  obtain ⟨reply, final, handled, same⟩ := world.handle_end request clock
  rw [same]
  cases handled with
  | refused error => exact mirrors
  | approved claims role sent waiting body =>
      subst sent
      exact absurd (.approved claims clock role waiting) follows
  | rejected claims role sent waiting body => exact Rows.mirrors_recorded _ _ _ _
  | confirmed claims role step sent waiting inside pending body =>
      have same : (world.db.confirmed claims.sub step clock).Mirrors ↔ world.db.Mirrors := by
        unfold Rows.confirmed
        rw [Rows.mirrors_unrecorded rfl, Rows.mirrors_patchSteps]
      exact same.mpr mirrors

/-- An action that follows the trail keeps it in every committed state. -/
theorem action_mirrors {action : TrailAction κ} (follows : ¬ action.Departs world) :
    (∀ moment ∈ action.moments world, moment.state.db.Mirrors) ∧
      (action.step world).db.Mirrors := by
  cases action with
  | request request clock =>
      have final := handle_mirrors mirrors follows
      constructor
      · intro moment inside
        obtain same | same := Program.IssuesAtMost.two_views (Session.answer Connectors.none)
          Session.db (fun issued session => Session.answer_db Connectors.none issued session)
          request.commitsOnce (world.session.opened clock) moment inside
        · rw [same]
          exact mirrors
        · rw [same]
          exact final
      · exact final
  | simulateFailure sessionId clock =>
      have final := simulateFailure_mirrors Connectors.none sessionId
        (world.session.opened_pending clock) mirrors
      constructor
      · intro moment inside
        obtain same | same := Program.IssuesAtMost.two_views (Session.answer Connectors.none)
          Session.db (fun issued session => Session.answer_db Connectors.none issued session)
          (simulateFailure_commitsOnce sessionId) (world.session.opened clock) moment inside
        · rw [same]
          exact mirrors
        · rw [same]
          exact final
      · exact final
  | advance invocation =>
      have open' : ¬ world.db.Blocks invocation.clock := fun blocks => follows (.blocked _ blocks)
      obtain ⟨final, ends, same⟩ := world.advance_end invocation
      constructor
      · intro moment inside
        exact (advanceRotation_shows invocation.connectors invocation.actor
          (world.session.opened_pending invocation.clock) moment inside).mirrors mirrors open'
      · rw [TrailAction.step, same]
        exact ends.mirrors mirrors open'

/-- An action that departs from the trail leaves it behind the status. -/
theorem departs_unmirrored {action : TrailAction κ} (departs : action.Departs world) :
    ¬ (action.step world).db.Mirrors := by
  cases departs with
  | approved claims clock role waiting =>
      obtain ⟨body, ran⟩ := approveRotation_accepts Connectors.none
        (world.session.opened_pending clock) role waiting
      have rows : (world.handle (.approve world.db.rotation.workspaceId world.db.rotation.id claims)
          clock).db = world.db.approved claims.sub := congrArg (fun ran => ran.2.db) ran
      rw [TrailAction.step, rows]
      exact Rows.approved_unmirrored claims.sub waiting
  | blocked invocation blocks =>
      obtain ⟨final, ends, same⟩ := world.advance_end invocation
      have stuck : (world.session.opened invocation.clock).db.Blocks invocation.clock := blocks
      have behind : ¬ final.db.Mirrors := stuck.ends mirrors ends
      rw [TrailAction.step, same]
      exact behind

end World

section Committed

variable (world : World κ) (action : TrailAction κ) (actions : List (TrailAction κ))

theorem TrailAction.committed_cons :
    TrailAction.committed (action :: actions) world =
      (world.db :: (action.moments world).map (·.state.db)) ++
        TrailAction.committed actions (action.step world) := by
  unfold committed
  rw [visits_cons, List.flatMap_cons, runActions_cons, List.append_assoc]

/-- The first rows are committed. -/
theorem TrailAction.mem_committed : world.db ∈ TrailAction.committed actions world := by
  cases actions with
  | nil => exact List.mem_singleton.mpr rfl
  | cons action rest =>
      rw [committed_cons]
      exact List.mem_append_left _ List.mem_cons_self

end Committed

/-- From a mirrored world the trail is kept exactly when no action departs from it. -/
theorem TrailAction.mirrored_iff {world : World κ} (mirrors : world.db.Mirrors)
    (actions : List (TrailAction κ)) :
    (∀ rows ∈ TrailAction.committed actions world, rows.Mirrors) ↔
      ∀ visit ∈ visits TrailAction.step actions world, ¬ visit.2.Departs visit.1 := by
  induction actions generalizing world with
  | nil =>
      constructor
      · intro _ visit inside
        exact absurd inside List.not_mem_nil
      · intro _ rows inside
        obtain rfl := List.mem_singleton.mp inside
        exact mirrors
  | cons action rest ih =>
      rw [TrailAction.committed_cons, visits_cons, List.forall_mem_cons]
      constructor
      · intro every
        have later := (List.forall_mem_append.mp every).2
        have after := later _ (TrailAction.mem_committed (action.step world) rest)
        exact ⟨fun departs => world.departs_unmirrored mirrors departs after,
          (ih after).mp later⟩
      · intro guarded
        obtain ⟨follows, others⟩ := guarded
        obtain ⟨moments, after⟩ := world.action_mirrors mirrors follows
        rw [List.forall_mem_append, List.forall_mem_cons, List.forall_mem_map]
        exact ⟨⟨mirrors, moments⟩, (ih after).mpr others⟩

/-- The trail of a rotation starts with its status. -/
theorem World.triggered_mirrors (proposal : Proposal) (actor : String) (external : κ) :
    (World.triggered proposal actor external).db.Mirrors := by
  have targets : (proposal.entry actor).targets proposal.rows.rotation.id = true := by
    simp [AuditEntry.targets, Proposal.entry, Proposal.rows, Proposal.rotation]
  exact Rows.mirrors_withAudit targets rfl

/-- The trail mirrors the status in every committed state of a run exactly when no action of the
run departs from it. -/
theorem status_mirrored_iff (proposal : Proposal) (actor : String) (external : κ)
    (actions : List (TrailAction κ)) :
    (∀ rows ∈ TrailAction.committed actions (World.triggered proposal actor external),
      rows.Mirrors) ↔
      ∀ visit ∈ visits TrailAction.step actions (World.triggered proposal actor external),
        ¬ visit.2.Departs visit.1 :=
  TrailAction.mirrored_iff (World.triggered_mirrors proposal actor external) actions

/-- After the approval of the demo rotation its trail says `provisioning`. -/
theorem approval_unmirrored :
    ¬ ∀ (proposal : Proposal) (actor : String) (external : SandboxStore)
      (actions : List (TrailAction SandboxStore)),
      ∀ rows ∈ TrailAction.committed actions (World.triggered proposal actor external),
        rows.Mirrors := by
  intro always
  let world : World SandboxStore := World.triggered triggeredPlan "agent" []
  have committed : (TrailAction.step (.request sandboxApproval 1) world).db ∈
      TrailAction.committed [.request sandboxApproval 1] world := by
    rw [TrailAction.committed_cons]
    exact List.mem_append_right _ (TrailAction.mem_committed _ _)
  have departs : TrailAction.Departs world (.request sandboxApproval 1) :=
    .approved sandboxOwner 1 (.inl rfl) rfl
  exact world.departs_unmirrored (World.triggered_mirrors triggeredPlan "agent" []) departs
    (always triggeredPlan "agent" [] _ _ committed)

end Sprawl
