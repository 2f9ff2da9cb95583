/-
This file proves when a committed terminal status stays under interleaved operations.
-/

import Sprawl.Proof.Advance
import Sprawl.Proof.Handle
import Sprawl.Rotation.Concurrency
import Sprawl.Rotation.Sandbox

namespace Sprawl

open Effect

variable {κ : Type}

/-- The rotation status that a statement writes. -/
def Write.status : Write → Option RotationStatus
  | .rotationStatus _ _ status _ => some status
  | _ => none

/-- The statement writes a terminal rotation status. -/
def Write.ends (statement : Write) : Bool := statement.status.any RotationStatus.isTerminal

/-- These commands can move a rotation. -/
def Command.moves : Command → Bool
  | .write statement => statement.status.isSome
  | .executeStep _ _ => true
  | _ => false

/-- The stages of an operation: it has written no terminal status yet, it has not committed one yet,
it has committed one, or it only meets a rotation that is terminal. -/
inductive Stage where
  | running
  | closing
  | finished
  | barred
  deriving DecidableEq, Repr

/-- The reply shows no rotation that an operation may move. -/
def Ended : (issued : Command) → issued.Reply → Prop
  | .select (.rotation _ _), found => ∀ rotation ∈ found, rotation.status.isTerminal = true
  | .select (.pendingRotations _), found => found = []
  | _, _ => True

/-- An operation that has committed a terminal status neither writes a status nor runs a step. -/
def endingProtocol : Protocol Command Command.Reply Stage where
  allowed stage issued := stage = .finished ∨ stage = .barred → issued.moves = false
  assumed stage issued reply := stage = .barred → Ended issued reply
  next
    | .running, .write statement => if statement.ends then .closing else .running
    | .closing, .commit => .finished
    | stage, _ => stage

/-- A program keeps to the protocol from a stage on. -/
abbrev KeepsTo {α : Type} (stage : Stage) (program : RotationProgram α) : Prop :=
  program.Follows endingProtocol stage

section Statements

@[simp] theorem allowed_running (issued : Command) : endingProtocol.allowed .running issued := by
  simp [endingProtocol]

@[simp] theorem allowed_closing (issued : Command) : endingProtocol.allowed .closing issued := by
  simp [endingProtocol]

@[simp] theorem allowed_finished (issued : Command) :
    endingProtocol.allowed .finished issued ↔ issued.moves = false := by
  simp [endingProtocol]

@[simp] theorem allowed_barred (issued : Command) :
    endingProtocol.allowed .barred issued ↔ issued.moves = false := by
  simp [endingProtocol]

@[simp] theorem assumed_barred (issued : Command) (reply : issued.Reply) :
    endingProtocol.assumed .barred issued reply ↔ Ended issued reply := by
  simp [endingProtocol]

@[simp] theorem next_finished (issued : Command) : endingProtocol.next .finished issued = .finished := by
  cases issued <;> rfl

@[simp] theorem next_barred (issued : Command) : endingProtocol.next .barred issued = .barred := by
  cases issued <;> rfl

/-- A statement that writes no terminal status keeps an operation running. -/
def Command.goesOn : Command → Bool
  | .write statement => !statement.ends
  | _ => true

theorem next_running {issued : Command} (goesOn : issued.goesOn = true) :
    endingProtocol.next .running issued = .running := by
  cases issued with
  | write statement =>
      have stays : statement.ends = false := by simpa [Command.goesOn] using goesOn
      simp [endingProtocol, stays]
  | _ => rfl

end Statements

section Programs

variable {α β : Type}

/-- Statements without a terminal status come before the rest of a running operation. -/
theorem keepsTo_bind {program : RotationProgram α} {next : α → RotationProgram β}
    (goesOn : program.Issues (·.goesOn = true)) (later : ∀ value, KeepsTo .running (next value)) :
    KeepsTo .running (program >>= next) :=
  Program.follows_bind (goesOn.mono fun issued stays => ⟨allowed_running issued, next_running stays⟩)
    later

theorem keepsTo_running {program : RotationProgram α} (goesOn : program.Issues (·.goesOn = true)) :
    KeepsTo .running program :=
  Program.follows_of_issues
    (goesOn.mono fun issued stays => ⟨allowed_running issued, next_running stays⟩)

/-- An operation that is finished keeps to every stage. -/
theorem keepsTo_of_finished {program : RotationProgram α} (finished : KeepsTo .finished program)
    {stage : Stage} (other : stage ≠ .closing) : KeepsTo stage program := by
  refine Program.Follows.weaken (fun first second => first = .finished ∧ second ≠ .closing) ?_
    ⟨rfl, other⟩ finished
  intro _ second given issued still
  obtain ⟨rfl, other⟩ := given
  rw [allowed_finished] at still
  refine ⟨fun _ => still, fun _ _ => by simp [endingProtocol], next_finished issued, ?_⟩
  cases second with
  | running =>
      rw [next_running]
      · simp
      · cases issued with
        | write statement =>
            have none : statement.status = Option.none := by simpa [Command.moves] using still
            simp [Command.goesOn, Write.ends, none]
        | _ => rfl
  | closing => exact absurd rfl other
  | finished => simp
  | barred => simp

end Programs

section Operations

attribute [local simp] select write commit now publish issue auditRotation setRotationStatus
  enqueueJob Command.goesOn Write.ends Write.status Command.moves

/-- These stages are those of a transaction that writes a terminal status. -/
theorem keepsTo_ending {α : Type} {status : RotationStatus} (rotationId workspaceId : Uuid)
    {rest : RotationProgram α} (later : KeepsTo .finished rest) (entry : AuditEntry) :
    KeepsTo .running (do
      setRotationStatus rotationId workspaceId status
      write (.audit entry)
      commit
      rest) := by
  have running : KeepsTo .running rest := keepsTo_of_finished later (by simp)
  cases ends : status.isTerminal <;>
    simp [Program.Follows, endingProtocol, ends] <;> first | exact later | exact running

theorem completeRotation_keepsTo (rotationId workspaceId : Uuid) (actor : String)
    (before : RotationStatus) (message : String) :
    KeepsTo .running (completeRotation rotationId workspaceId actor before message) := by
  unfold completeRotation
  exact keepsTo_ending rotationId workspaceId (by simp) _

theorem blockRevoke_keepsTo (rotationId workspaceId : Uuid) (step : RotationStep)
    (blocked : GateBlockedError) :
    KeepsTo .running (blockRevoke rotationId workspaceId step blocked) := by
  unfold blockRevoke
  cases ends : blocked.rotationStatus.isTerminal <;>
    simp [Program.Follows, endingProtocol, ends]

theorem finishStep_keepsTo (rotationId workspaceId : Uuid) (actor : String)
    (steps : List RotationStep) (step : RotationStep) (result : StepResult) (time : Time) :
    KeepsTo .running (finishStep rotationId workspaceId actor steps step result time) := by
  rw [finishStep_eq]
  refine keepsTo_bind ?_ fun _ => ?_
  · cases saved : result.newSecretRef <;> simp [recordFinished, saveNewSecretRef, saved]
  · split
    · exact completeRotation_keepsTo _ _ _ _ _
    · trivial

theorem rollback_keepsTo (rotationId workspaceId : Uuid) (actor : String) (failedIdx : Int)
    (steps : List RotationStep) (rotation : Rotation) :
    KeepsTo .running (rollback rotationId workspaceId actor failedIdx steps rotation) := by
  have passes := @compensateSteps_issues (·.goesOn = true) rotation (fun _ => rfl)
    (fun _ _ _ => rfl) rfl
  rw [rollback_eq]
  refine keepsTo_bind (by simp [beginRollback, RotationStatus.isTerminal, RotationStatus.terminal]) fun _ =>
    keepsTo_bind (by simp) fun time => keepsTo_bind (passes time _) fun failures => ?_
  unfold endRollback
  exact keepsTo_ending rotationId workspaceId (by simp) _

theorem runStep_keepsTo (rotationId workspaceId : Uuid) (actor : String)
    (steps : List RotationStep) (rotation : Rotation) (step : RotationStep) :
    KeepsTo .running (runStep rotationId workspaceId actor steps rotation step) := by
  unfold runStep
  refine keepsTo_bind ?_ fun _ => keepsTo_bind (by simp [callExecuteStep]) fun result =>
    keepsTo_bind (by simp) fun time => ?_
  · unfold startStep
    split
    · cases step.kind <;> simp [StepKind.toStatus, RotationStatus.isTerminal, RotationStatus.terminal]
    · trivial
  · split
    · exact finishStep_keepsTo _ _ _ _ _ _ _
    · rw [failStep_eq]
      exact keepsTo_bind (by simp [recordFailed]) fun _ => rollback_keepsTo _ _ _ _ _ _

theorem advanceSteps_keepsTo (rotationId workspaceId : Uuid) (actor : String)
    (rotation : Rotation) (steps : List RotationStep) :
    KeepsTo .running (advanceSteps rotationId workspaceId actor rotation steps) := by
  unfold advanceSteps
  split
  · trivial
  · split
    · split
      · exact completeRotation_keepsTo _ _ _ _ _
      · trivial
    · rename_i step next
      split
      · exact keepsTo_running (by simp [awaitConfirmation, RotationStatus.isTerminal,
          RotationStatus.terminal])
      · refine keepsTo_bind (revokeGates_issues (by simp) _ _) fun verdict => ?_
        cases verdict with
        | error blocked => exact blockRevoke_keepsTo _ _ _ _
        | ok passed => exact runStep_keepsTo _ _ _ _ _ _

theorem advanceRotation_keepsTo (rotationId workspaceId : Uuid) (actor : String) :
    KeepsTo .running (advanceRotation rotationId workspaceId actor) := by
  unfold advanceRotation
  refine keepsTo_bind (by simp) fun found => ?_
  cases found with
  | none => trivial
  | some rotation =>
      simp only
      split
      · trivial
      · refine keepsTo_bind (planExpired_issues (by simp) rotation) fun late => ?_
        split
        · exact keepsTo_running (by simp [expirePlan, RotationStatus.isTerminal,
            RotationStatus.terminal])
        · exact keepsTo_bind (by simp) fun steps => advanceSteps_keepsTo _ _ _ _ _

/-- An engine call that reads a terminal rotation ends at once. -/
theorem advanceRotation_barred (rotationId workspaceId : Uuid) (actor : String) :
    KeepsTo .barred (advanceRotation rotationId workspaceId actor) := by
  unfold advanceRotation
  refine Program.follows_perform_bind.mpr ⟨by simp, fun found ended => ?_⟩
  rw [assumed_barred] at ended
  cases found with
  | none => trivial
  | some rotation =>
      have terminal : rotation.status.isTerminal = true := ended rotation rfl
      simp only [terminal, if_true]
      trivial

/-- A request that finds its rotation goes on with it. -/
theorem keepsTo_requireRotation {α : Type} {stage : Stage} (rotationId workspaceId : Uuid)
    {next : Rotation → RequestProgram α}
    (later : ∀ rotation, (stage = .barred → rotation.status.isTerminal = true) →
      KeepsTo stage (next rotation).run) :
    KeepsTo stage (requireRotation rotationId workspaceId >>= next).run := by
  have stays : endingProtocol.next stage (.select (.rotation rotationId workspaceId)) = stage := by
    cases stage <;> rfl
  apply follows_requireRotation fun _ => rfl
  intro rotation ended
  rw [stays]
  exact later rotation fun barred => ended barred rotation rfl

theorem request_keepsTo (request : Request) : KeepsTo .running request.program.run := by
  cases request with
  | approve workspaceId rotationId claims =>
      refine follows_requireRole _ _ (keepsTo_requireRotation _ _ fun rotation _ => ?_)
      split
      · trivial
      · exact keepsTo_running ⟨rfl, fun _ => ⟨rfl, fun _ => ⟨rfl, fun _ => trivial⟩⟩⟩
  | reject workspaceId rotationId claims =>
      refine follows_requireRole _ _ (keepsTo_requireRotation _ _ fun rotation _ => ?_)
      split
      · trivial
      · have finished : KeepsTo .finished (pure (.ok (okEnvelope [rotationField rotationId,
            statusField .rejected])) : RotationProgram (Except HttpError Json)) := trivial
        exact keepsTo_ending rotationId workspaceId finished _
  | confirm workspaceId rotationId stepId claims =>
      refine follows_requireRole _ _ (keepsTo_requireRotation _ _ fun rotation _ => ?_)
      split
      · trivial
      · refine keepsTo_running ⟨rfl, fun found => ?_⟩
        cases found with
        | none => trivial
        | some step =>
            change Program.Issues _ (ExceptT.run (if step.status ≠ .pending then _ else _))
            split
            · trivial
            · exact ⟨rfl, fun _ => ⟨rfl, fun _ => ⟨rfl, fun _ => ⟨rfl, fun _ => ⟨rfl, fun _ =>
                trivial⟩⟩⟩⟩⟩

/-- A request that reads a terminal rotation is refused. -/
theorem request_barred (request : Request) : KeepsTo .barred request.program.run := by
  have waits {status : RotationStatus} (terminal : status.isTerminal = true) :
      status ≠ .pendingApproval ∧ status ≠ .awaitingConfirmation := by
    constructor <;> rintro rfl <;> exact absurd terminal (by decide)
  cases request with
  | approve workspaceId rotationId claims =>
      refine follows_requireRole _ _ (keepsTo_requireRotation _ _ fun rotation barred => ?_)
      rw [if_pos (waits (barred rfl)).1]
      trivial
  | reject workspaceId rotationId claims =>
      refine follows_requireRole _ _ (keepsTo_requireRotation _ _ fun rotation barred => ?_)
      rw [if_pos (waits (barred rfl))]
      trivial
  | confirm workspaceId rotationId stepId claims =>
      refine follows_requireRole _ _ (keepsTo_requireRotation _ _ fun rotation barred => ?_)
      rw [if_pos (waits (barred rfl)).2]
      trivial

theorem auditAll_goesOn (workspaceId rotationId : Uuid) (sessionId : String)
    (entries : List (String × List (String × Json))) :
    (auditAll workspaceId rotationId sessionId entries).Issues
      fun issued => ∃ entry, issued = .write (.audit entry) := by
  induction entries with
  | nil => trivial
  | cons entry rest ih => exact ⟨⟨_, rfl⟩, fun _ => ih⟩

theorem simulateFailure_keepsTo (sessionId : String) :
    KeepsTo .running (simulateFailure sessionId) := by
  unfold simulateFailure
  refine keepsTo_bind (by simp) fun workspace => ?_
  cases workspace with
  | none => trivial
  | some workspaceId =>
      refine keepsTo_bind (by simp) fun found => ?_
      match found with
      | [] => trivial
      | _ :: _ :: _ => trivial
      | [rotation] =>
          refine keepsTo_bind (by simp) fun time => keepsTo_bind (by simp) fun _ =>
            keepsTo_bind (by simp) fun _ => keepsTo_bind (by simp) fun _ => ?_
          refine Program.follows_perform_bind.mpr ⟨allowed_running _, fun _ _ => ?_⟩
          change KeepsTo .closing _
          refine Program.follows_bind ?_ fun _ => ?_
          · apply (auditAll_goesOn _ _ _ _).mono
            intro _ given
            obtain ⟨entry, rfl⟩ := given
            exact ⟨allowed_closing _, rfl⟩
          · refine Program.follows_perform_bind.mpr ⟨allowed_closing _, fun _ _ => ?_⟩
            exact ⟨fun _ => rfl, fun _ _ => ⟨fun _ => rfl, fun _ _ => trivial⟩⟩

/-- A simulated failure finds no pending rotation once the rotation is terminal. -/
theorem simulateFailure_barred (sessionId : String) :
    KeepsTo .barred (simulateFailure sessionId) := by
  unfold simulateFailure
  refine Program.follows_perform_bind.mpr ⟨by simp, fun workspace _ => ?_⟩
  cases workspace with
  | none => trivial
  | some workspaceId =>
      refine Program.follows_perform_bind.mpr ⟨by simp, fun found ended => ?_⟩
      obtain rfl : found = [] := ended rfl
      trivial

/-- Every operation keeps to the protocol from its first statement on. -/
theorem Operation.keepsTo (operation : Operation κ) : KeepsTo .running operation.program := by
  cases operation with
  | advance rotationId workspaceId invocation =>
      exact (Program.follows_map _ _).mpr (advanceRotation_keepsTo _ _ _)
  | request request clock => exact (Program.follows_map _ _).mpr (request_keepsTo request)
  | simulateFailure sessionId clock =>
      exact (Program.follows_map _ _).mpr (simulateFailure_keepsTo sessionId)

/-- An operation that has read nothing yet leaves a terminal rotation alone. -/
theorem Operation.barred (operation : Operation κ) : KeepsTo .barred operation.program := by
  cases operation with
  | advance rotationId workspaceId invocation =>
      exact (Program.follows_map _ _).mpr (advanceRotation_barred _ _ _)
  | request request clock => exact (Program.follows_map _ _).mpr (request_barred request)
  | simulateFailure sessionId clock =>
      exact (Program.follows_map _ _).mpr (simulateFailure_barred sessionId)

end Operations

section Statuses

/-- A statement that writes no status keeps the rotation status. -/
theorem Rows.apply_status (rows : Rows) (statement : Write) :
    (rows.apply statement).rotation.status = rows.rotation.status ∨
      statement.status = some (rows.apply statement).rotation.status := by
  cases statement with
  | rotationStatus rotationId workspaceId status now =>
      simp only [Rows.apply]
      split
      · exact Or.inr rfl
      · exact Or.inl rfl
  | newSecretRef rotationId ref now =>
      simp only [Rows.apply]
      split <;> exact Or.inl rfl
  | step stepId patch => exact Or.inl rfl
  | stepsAt rotationId indexes patch => exact Or.inl rfl
  | audit entry => exact Or.inl rfl

/-- A transaction shows the committed status or one that it has written. -/
theorem Session.view_status (session : Session Rows κ) :
    session.view.rotation.status = session.db.rotation.status ∨
      ∃ statement ∈ session.pending, statement.status = some session.view.rotation.status := by
  rcases session with ⟨db, pending, external, calls, queue, locks, published, clock⟩
  change (pending.foldl (fun rows statement => rows.apply statement) db).rotation.status = _ ∨
    ∃ statement ∈ pending, statement.status =
      some (pending.foldl (fun rows statement => rows.apply statement) db).rotation.status
  induction pending generalizing db with
  | nil => exact Or.inl rfl
  | cons statement rest ih =>
      rw [List.foldl_cons]
      obtain same | ⟨other, inside, written⟩ := ih (db.apply statement)
      · obtain kept | written := db.apply_status statement
        · exact Or.inl (same.trans kept)
        · exact Or.inr ⟨statement, List.mem_cons_self, written.trans (congrArg some same.symm)⟩
      · exact Or.inr ⟨other, List.mem_cons_of_mem _ inside, written⟩

/-- The transaction writes no rotation status. -/
def Transaction.statusless (transaction : Transaction κ) : Prop :=
  ∀ statement ∈ transaction.pending, statement.status = none

/-- The session that a statement of a transaction meets. -/
def Transaction.session (transaction : Transaction κ) (shared : Session Rows κ) :
    Session Rows κ :=
  { shared with pending := transaction.pending, clock := transaction.clock }

theorem Transaction.view_status {transaction : Transaction κ} (statusless : transaction.statusless)
    (shared : Session Rows κ) :
    (transaction.session shared).view.rotation.status = shared.db.rotation.status := by
  obtain same | ⟨statement, inside, written⟩ := (transaction.session shared).view_status
  · exact same
  · exact absurd (written.symm.trans (statusless statement inside)) (by simp)

section Answer

variable (issued : Command) (transaction : Transaction κ) (shared : Session Rows κ)

/-- A write waits in its transaction, a commit makes the writes visible, and every other statement
leaves the rows and the transaction alone. -/
theorem Transaction.answer_cases :
    let after := (Transaction.answer issued (transaction, shared)).2
    (∃ statement, issued = .write statement ∧
      after.1.pending = transaction.pending ++ [statement] ∧ after.2.db = shared.db) ∨
    (issued = .commit ∧ after.1.pending = [] ∧ after.2.db = (transaction.session shared).view) ∨
    ((∀ stage, endingProtocol.next stage issued = stage) ∧
      after.1.pending = transaction.pending ∧ after.2.db = shared.db) := by
  cases issued with
  | write statement => exact Or.inl ⟨statement, rfl, rfl, rfl⟩
  | commit => exact Or.inr (Or.inl ⟨rfl, rfl, rfl⟩)
  | acquireLock secretId rotationId =>
      refine Or.inr (Or.inr ⟨fun stage => by cases stage <;> rfl, ?_, ?_⟩) <;>
        · simp only [Transaction.answer, Session.answer]
          split <;> rfl
  | releaseLock secretId rotationId =>
      refine Or.inr (Or.inr ⟨fun stage => by cases stage <;> rfl, ?_, ?_⟩) <;>
        · simp only [Transaction.answer, Session.answer]
          split <;> rfl
  | _ => exact Or.inr (Or.inr ⟨fun stage => by cases stage <;> rfl, rfl, rfl⟩)

/-- A transaction that has written no status reads a terminal rotation as terminal. -/
theorem Transaction.answer_ended (statusless : transaction.statusless)
    (terminal : shared.db.rotation.status.isTerminal = true) :
    Ended issued (Transaction.answer issued (transaction, shared)).1 := by
  have shown : (transaction.session shared).view.rotation.status.isTerminal = true := by
    rw [transaction.view_status statusless]
    exact terminal
  cases issued with
  | select query =>
      cases query with
      | rotation rotationId workspaceId =>
          intro rotation found
          have answered : (transaction.session shared).view.answer
            (.rotation rotationId workspaceId) = some rotation := found
          simp only [Rows.answer] at answered
          split at answered
          · exact Option.some.inj answered ▸ shown
          · exact absurd answered (by simp)
      | pendingRotations workspaceId =>
          change (transaction.session shared).view.answer (.pendingRotations workspaceId) = []
          have other : ¬ ((transaction.session shared).view.rotation.workspaceId = workspaceId ∧
              (transaction.session shared).view.rotation.status = .pendingApproval) := by
            intro given
            obtain ⟨_, waits⟩ := given
            rw [waits] at shown
            exact absurd shown (by decide)
          exact if_neg other
      | _ => trivial
  | _ => trivial

end Answer

end Statuses

/-- The stage of an operation that has not committed a terminal status. -/
def stageOf (transaction : Transaction κ) : Stage :=
  if transaction.pending.any Write.ends then .closing else .running

/-- An operation of a pool. -/
abbrev RotationThread (κ : Type) := Thread Command Command.Reply (Transaction κ) Unit

/-- The operation has no uncommitted rotation status. It writes a status or runs a step only after
it has read a rotation that is not terminal. -/
structure AtRest (thread : RotationThread κ) : Prop where
  statusless : thread.own.statusless
  barred : KeepsTo .barred thread.program

theorem stageOf_assumed (transaction : Transaction κ) (issued : Command) (reply : issued.Reply) :
    endingProtocol.assumed (stageOf transaction) issued reply := by
  unfold stageOf
  split <;> simp [endingProtocol]

section Statement

variable {issued : Command} {rest : issued.Reply → RotationProgram Unit} {own : Transaction κ}
  {shared : Session Rows κ}

/-- A statement keeps an operation within its protocol. -/
theorem keepsTo_answer (keepsTo : KeepsTo (stageOf own) (.command issued rest)) :
    KeepsTo (stageOf (Transaction.answer issued (own, shared)).2.1)
      (rest (Transaction.answer issued (own, shared)).1) := by
  have later := keepsTo.2 (Transaction.answer issued (own, shared)).1 (stageOf_assumed own issued _)
  obtain ⟨statement, rfl, pending, _⟩ | ⟨rfl, pending, _⟩ | ⟨stays, pending, _⟩ :=
    Transaction.answer_cases issued own shared
  · have next : endingProtocol.next (stageOf own) (.write statement) =
        stageOf (Transaction.answer (.write statement) (own, shared)).2.1 := by
      unfold stageOf
      rw [pending, List.any_append]
      cases own.pending.any Write.ends <;> cases ends : statement.ends <;>
        simp [endingProtocol, ends]
    exact next ▸ later
  · have none : stageOf (Transaction.answer .commit (own, shared)).2.1 = .running := by
      unfold stageOf
      rw [pending]
      rfl
    rw [none]
    unfold stageOf at later
    split at later
    · exact keepsTo_of_finished later (by simp)
    · exact later
  · have same : stageOf (Transaction.answer issued (own, shared)).2.1 = stageOf own := by
      unfold stageOf
      rw [pending]
    rw [same, ← stays (stageOf own)]
    exact later

/-- A resting operation keeps a terminal status, runs no step and stays at rest. -/
theorem atRest_answer (atRest : AtRest ⟨.command issued rest, own⟩)
    (terminal : shared.db.rotation.status.isTerminal = true) :
    (Transaction.answer issued (own, shared)).2.2.db.rotation.status =
        shared.db.rotation.status ∧
      issued.moves = false ∧
      AtRest ⟨rest (Transaction.answer issued (own, shared)).1,
        (Transaction.answer issued (own, shared)).2.1⟩ := by
  have still : issued.moves = false := (allowed_barred issued).mp atRest.barred.1
  have later := atRest.barred.2 _
    ((assumed_barred issued _).mpr (own.answer_ended issued shared atRest.statusless terminal))
  rw [next_barred] at later
  obtain ⟨statement, rfl, pending, rows⟩ | ⟨rfl, pending, rows⟩ | ⟨_, pending, rows⟩ :=
    Transaction.answer_cases issued own shared
  · refine ⟨congrArg (·.rotation.status) rows, still, fun written inside => ?_, later⟩
    rw [pending, List.mem_append, List.mem_singleton] at inside
    rcases inside with inside | rfl
    · exact atRest.statusless written inside
    · exact Option.not_isSome_iff_eq_none.mp (by simpa [Command.moves] using still)
  · refine ⟨?_, still, fun written inside => ?_, later⟩
    · rw [rows]
      exact own.view_status atRest.statusless shared
    · rw [pending] at inside
      exact absurd inside List.not_mem_nil
  · refine ⟨congrArg (·.rotation.status) rows, still, fun written inside => ?_, later⟩
    rw [pending] at inside
    exact atRest.statusless written inside

/-- An operation that commits a terminal status is at rest afterwards. -/
theorem atRest_of_ending (keepsTo : KeepsTo (stageOf own) (.command issued rest))
    (active : shared.db.rotation.status.isTerminal = false)
    (ended : (Transaction.answer issued (own, shared)).2.2.db.rotation.status.isTerminal = true) :
    AtRest ⟨rest (Transaction.answer issued (own, shared)).1,
      (Transaction.answer issued (own, shared)).2.1⟩ := by
  have later := keepsTo.2 (Transaction.answer issued (own, shared)).1 (stageOf_assumed own issued _)
  have changed (rows : (Transaction.answer issued (own, shared)).2.2.db = shared.db) : False := by
    rw [rows, active] at ended
    exact absurd ended (by simp)
  obtain ⟨statement, rfl, pending, rows⟩ | ⟨rfl, pending, rows⟩ | ⟨_, pending, rows⟩ :=
    Transaction.answer_cases issued own shared
  · exact (changed rows).elim
  · have closing : stageOf own = .closing := by
      rw [rows] at ended
      obtain same | ⟨statement, inside, written⟩ := (own.session shared).view_status
      · rw [same] at ended
        exact absurd (active.symm.trans ended) (by simp)
      · have ends : statement.ends = true := by
          rw [Write.ends, written]
          exact ended
        exact if_pos (List.any_eq_true.mpr ⟨statement, inside, ends⟩)
    rw [closing] at later
    refine ⟨fun written inside => ?_, keepsTo_of_finished later (by simp)⟩
    rw [pending] at inside
    exact absurd inside List.not_mem_nil
  · exact (changed rows).elim

end Statement

/-- A pool is orderly when every operation keeps to its protocol and rests once the rotation is
terminal. -/
structure Orderly (pool : RotationPool κ) : Prop where
  keepsTo : ∀ thread ∈ pool.threads, KeepsTo (stageOf thread.own) thread.program
  atRest : pool.status.isTerminal = true → ∀ thread ∈ pool.threads, AtRest thread

/-- If the next statement of the chosen operation commits a terminal status, then every other
operation is at rest. -/
def EndsAlone (pool : RotationPool κ) (index : Nat) : Prop :=
  pool.status.isTerminal = false → (pool.step index).status.isTerminal = true →
    ∀ other thread, other ≠ index → pool.threads[other]? = some thread → AtRest thread

/-- An operation that has issued no statement is at rest. -/
theorem Operation.atRest (operation : Operation κ) :
    AtRest ⟨operation.program, operation.transaction⟩ := by
  refine ⟨fun statement pending => ?_, operation.barred⟩
  cases operation <;> exact absurd pending List.not_mem_nil

theorem Orderly.start (session : Session Rows κ) (operations : List (Operation κ)) :
    Orderly (Operation.pool session operations) where
  keepsTo thread inside := by
    obtain ⟨operation, _, rfl⟩ := List.mem_map.mp inside
    have running : stageOf operation.transaction = .running := by cases operation <;> rfl
    rw [running]
    exact operation.keepsTo
  atRest _ thread inside := by
    obtain ⟨operation, _, rfl⟩ := List.mem_map.mp inside
    exact operation.atRest

/-- A step that ends alone keeps a pool orderly. It keeps a terminal status and then runs no
step. -/
theorem Orderly.step {pool : RotationPool κ} (orderly : Orderly pool) {index : Nat}
    (alone : EndsAlone pool index) :
    Orderly (pool.step index) ∧ (pool.status.isTerminal = true →
      (pool.step index).status = pool.status ∧
        ∀ issued, Pool.issued index pool = some issued → issued.isExecution = false) := by
  obtain ⟨same, none⟩ | ⟨issued, rest, own, found, issues, same⟩ :=
    Pool.step_cases Transaction.answer index pool
  · have unchanged : pool.step index = pool := same
    rw [unchanged, none]
    exact ⟨orderly, fun _ => ⟨rfl, fun _ absent => absurd absent (by simp)⟩⟩
  · have stepped : pool.step index = _ := same
    have inside : (⟨.command issued rest, own⟩ : RotationThread κ) ∈ pool.threads :=
      List.mem_of_getElem? found
    have keepsTo := orderly.keepsTo _ inside
    have kept : ∀ thread ∈ (pool.step index).threads,
        KeepsTo (stageOf thread.own) thread.program := by
      rw [stepped]
      exact Pool.forall_set (keepsTo_answer keepsTo) fun other thread _ within =>
        orderly.keepsTo thread (List.mem_of_getElem? within)
    cases active : pool.status.isTerminal with
    | true =>
        obtain ⟨status, still, atRest⟩ := atRest_answer (orderly.atRest active _ inside) active
        refine ⟨⟨kept, fun _ => ?_⟩, fun _ => ⟨?_, ?_⟩⟩
        · rw [stepped]
          exact Pool.forall_set atRest fun other thread _ within =>
            orderly.atRest active thread (List.mem_of_getElem? within)
        · rw [stepped]
          exact status
        · intro other next
          obtain rfl : issued = other := Option.some.inj (issues.symm.trans next)
          cases issued <;> first | rfl | exact absurd still (by simp [Command.moves])
    | false =>
        refine ⟨⟨kept, fun ended => ?_⟩, fun terminal => absurd terminal (by simp)⟩
        have others := alone active ended
        rw [stepped] at ended ⊢
        exact Pool.forall_set (atRest_of_ending keepsTo active ended) others

/-- When every terminal status is committed while the other operations are at rest, it never changes
and no step runs after it. -/
theorem terminal_status_stays (session : Session Rows κ) (operations : List (Operation κ))
    (schedule : List Nat)
    (alone : ∀ visit ∈ visits RotationPool.step schedule (Operation.pool session operations),
      EndsAlone visit.1 visit.2) :
    ∀ before after, schedule = before ++ after →
      let pool := runActions RotationPool.step before (Operation.pool session operations)
      pool.status.isTerminal = true →
        (runActions RotationPool.step after pool).status = pool.status ∧
        ∀ visit ∈ visits RotationPool.step after pool,
          ∀ issued, Pool.issued visit.2 visit.1 = some issued → issued.isExecution = false := by
  intro before after same pool terminal
  subst same
  rw [visits_append, List.forall_mem_append] at alone
  have orderly : Orderly pool :=
    invariant_runActions Orderly (fun pool index orderly alone => (Orderly.step orderly alone).1)
      (Orderly.start session operations) alone.1
  have stays := @invariant_runActions _ _ RotationPool.step EndsAlone
    (fun later : RotationPool κ => Orderly later ∧ later.status = pool.status)
  have preserved : ∀ (later : RotationPool κ) (index : Nat),
      (Orderly later ∧ later.status = pool.status) → EndsAlone later index →
        Orderly (later.step index) ∧ (later.step index).status = pool.status := by
    intro later index given alone
    obtain ⟨orderly, same⟩ := given
    obtain ⟨kept, status⟩ := orderly.step alone
    exact ⟨kept, (status (same ▸ terminal)).1.trans same⟩
  refine ⟨(stays preserved ⟨orderly, rfl⟩ alone.2).2, fun visit inside issued issues => ?_⟩
  obtain ⟨orderly, same⟩ := invariant_visits
    (fun later : RotationPool κ => Orderly later ∧ later.status = pool.status) preserved
    ⟨orderly, rfl⟩ alone.2 visit inside
  exact ((orderly.step (alone.2 visit inside)).2 (same ▸ terminal)).2 issued issues

/-- An engine call and a rejection of the demo rotation. -/
def sandboxOperations : List (Operation SandboxStore) :=
  [.advance 5 7 (sandboxCall none), .request (.reject 7 5 sandboxOwner) 1]

/-- The demo rotation right after its proposal. -/
def sandboxSession : Session Rows SandboxStore := (World.proposed namedPlan []).session

theorem sandbox_alone :
    ∀ visit ∈ visits RotationPool.step [1, 1, 1, 1, 1, 0, 0]
        (Operation.pool sandboxSession sandboxOperations), EndsAlone visit.1 visit.2 := by
  simp only [visits_cons, visits_nil, List.forall_mem_cons, List.not_mem_nil, false_implies,
    implies_true, and_true]
  refine ⟨fun _ ended => absurd ended (by decide), fun _ ended => absurd ended (by decide),
    fun _ ended => absurd ended (by decide), fun _ ended => absurd ended (by decide), ?_,
    fun active => absurd active (by decide), fun active => absurd active (by decide)⟩
  intro _ _ other thread different found
  have reached : (runActions (Pool.step Transaction.answer) [1, 1, 1, 1]
      (Operation.pool sandboxSession sandboxOperations)).threads[other]? = some thread := found
  rw [Pool.run_other _ (by simpa using different)] at reached
  obtain ⟨operation, _, rfl⟩ := List.mem_map.mp (List.mem_of_getElem? reached)
  exact operation.atRest

/-- The rejection of the demo rotation stays when the engine call starts after it. -/
theorem sandbox_rejection_stays :
    let pool := runActions RotationPool.step [1, 1, 1, 1, 1]
      (Operation.pool sandboxSession sandboxOperations)
    (runActions RotationPool.step [0, 0] pool).status = pool.status ∧
      ∀ visit ∈ visits RotationPool.step [0, 0] pool,
        ∀ issued, Pool.issued visit.2 visit.1 = some issued → issued.isExecution = false :=
  terminal_status_stays sandboxSession sandboxOperations [1, 1, 1, 1, 1, 0, 0] sandbox_alone
    [1, 1, 1, 1, 1] [0, 0] rfl (by decide)

/-- An engine call that has loaded the rotation before its rejection moves it on afterwards. -/
theorem rejection_is_overwritten :
    ¬ ∀ (session : Session Rows SandboxStore) (operations : List (Operation SandboxStore))
        (schedule : List Nat),
      ∀ before after, schedule = before ++ after →
        let pool := runActions RotationPool.step before (Operation.pool session operations)
        pool.status.isTerminal = true →
          (runActions RotationPool.step after pool).status = pool.status ∧
          ∀ visit ∈ visits RotationPool.step after pool,
            ∀ issued, Pool.issued visit.2 visit.1 = some issued → issued.isExecution = false := by
  intro always
  have stays := always sandboxSession sandboxOperations _ [0, 1, 1, 1, 1, 1] [0, 0, 0, 0, 0, 0] rfl
    (by decide)
  exact absurd stays.1 (by decide)

end Sprawl
