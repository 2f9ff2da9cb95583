/-
This file proves that the rows and the responses of the service do not depend on what the code host
and the language model tell, but for the explanation of a severity.
-/

import Sprawl.Api.Service
import Sprawl.Proof.Untrusted

namespace Sprawl

open Effect

section Rows

/-- A severity without its explanation. -/
def Severity.trusted (severity : Severity) : Severity := { severity with explanation := none }

namespace Database

variable (db : Database)

/-- The rows without the explanations. -/
def trusted : Database := { db with severities := db.severities.map Severity.trusted }

theorem trusted_severityIds : db.trusted.severities.map (·.id) = db.severities.map (·.id) := by
  rw [trusted, List.map_map]
  rfl

variable [Sha256] [UuidCodec]

omit [UuidCodec] in
/-- A statement of the job writes the trusted rows alike. -/
theorem jobApply_trusted (now : Time) (statement : JobStatement) :
    (db.jobApply now statement).map trusted = db.trusted.jobApply now statement.trusted := by
  cases statement with
  | severity id workspaceId secretId score factors explanation =>
      simp only [jobApply, insertSeverity, JobStatement.trusted, trusted_severityIds,
        trustedExplanation_all]
      split
      · rfl
      · rename_i storable
        split
        · rfl
        · have known : (db.trusted.hasWorkspace workspaceId && db.trusted.hasSecret secretId) =
              (db.hasWorkspace workspaceId && db.hasSecret secretId) := rfl
          have forgotten : trustedExplanation explanation = none :=
            if_pos (by simpa using storable)
          rw [known]
          split
          · simp [Except.map, trusted, Severity.trusted, forgotten]
          · rfl
  | markRunning investigationId workspaceId =>
      simp only [jobApply, markRunning, JobStatement.trusted]
      exact apply_ite (Except.map trusted) _ _ _
  | graphNode row =>
      simp only [jobApply, insertGraphNode, JobStatement.trusted]
      rw [apply_ite (Except.map trusted), apply_ite (Except.map trusted)]
      rfl
  | graphEdge row =>
      simp only [jobApply, insertGraphEdge, JobStatement.trusted]
      rw [apply_ite (Except.map trusted), apply_ite (Except.map trusted)]
      rfl
  | audit entry =>
      simp only [jobApply, insertAudit, JobStatement.trusted]
      exact apply_ite (Except.map trusted) _ _ _
  | _ => rfl

/-- A statement of a request writes the trusted rows alike. -/
theorem apiApply_trusted (statement : ApiWrite) :
    (db.apiApply statement).map trusted = db.trusted.apiApply statement := by
  cases statement with
  | investigation id workspaceId secretId =>
      simp only [apiApply, insertInvestigation]
      rw [apply_ite (Except.map trusted), apply_ite (Except.map trusted)]
      rfl
  | rotation row =>
      simp only [apiApply, insertRotation]
      cases encodeCreator row.createdBy with
      | error raised => rfl
      | ok createdBy =>
          dsimp only
          rw [apply_ite (Except.map trusted), apply_ite (Except.map trusted)]
          rfl
  | rotationStep row =>
      simp only [apiApply, insertStep]
      exact apply_ite (Except.map trusted) _ _ _
  | audit entry =>
      simp only [apiApply, insertAudit]
      exact apply_ite (Except.map trusted) _ _ _

omit [Sha256] [UuidCodec] in
/-- The queries of the api, but for one, read no explanation. -/
theorem apiAnswer_trusted {query : ApiQuery} (other : ∀ id, query ≠ .latestSeverity id) :
    db.trusted.apiAnswer query = db.apiAnswer query := by
  cases query with
  | latestSeverity id => exact absurd rfl (other id)
  | _ => rfl

omit [Sha256] [UuidCodec] in
theorem latestSeverity_trusted (investigationId : Uuid) :
    db.trusted.apiAnswer (.latestSeverity investigationId) =
      (db.apiAnswer (.latestSeverity investigationId)).map Severity.trusted := by
  simp only [apiAnswer]
  change (db.investigations.find? _).bind _ = _
  cases db.investigations.find? (·.id = investigationId) with
  | none => rfl
  | some investigation =>
      have rows : db.trusted.severities.filter (·.secretId = investigation.secretId) =
          (db.severities.filter (·.secretId = investigation.secretId)).map Severity.trusted := by
        rw [trusted, List.filter_map]
        rfl
      rw [Option.bind_some, Option.bind_some, ← List.head?_map, rows]
      exact congrArg List.head? (List.map_mergeSort (f := Severity.trusted) fun _ _ _ _ => rfl).symm

end Database

end Rows

section Job

/-- What a run of the job meets, without what the outside tells. -/
def JobSurroundings.trusted (around : JobSurroundings) : JobSurroundings :=
  { around with graphRuns := around.graphRuns.map (Except.map NodeCalls.trusted) }

def JobTransaction.trusted (transaction : JobTransaction) : JobTransaction :=
  { transaction with
    pending := transaction.pending.map JobStatement.trusted
    around := transaction.around.trusted }

/-- The trusted part of what a job meets and of the rows. -/
def trustedPart (state : JobTransaction × Database) : JobTransaction × Database :=
  (state.1.trusted, state.2.trusted)

variable [Sha256] (transaction : JobTransaction) (db : Database)

theorem working_trusted :
    (transaction.working db).trusted = transaction.trusted.working db.trusted := by
  have applied (now : Time) (statements : List JobStatement) (db : Database) :
      (db.applyAll now statements).trusted =
        db.trusted.applyAll now (statements.map JobStatement.trusted) := by
    induction statements generalizing db with
    | nil => rfl
    | cons statement rest ih =>
        have same := db.jobApply_trusted now statement
        rw [Database.applyAll, List.foldl_cons, List.map_cons, Database.applyAll, List.foldl_cons,
          ← same]
        cases db.jobApply now statement with
        | error raised => exact ih db
        | ok written => exact ih written
  exact applied transaction.startedAt transaction.pending db

/-- A statement is answered alike on the trusted part. -/
theorem answer_execute_trusted (statement : JobStatement) (state : JobTransaction × Database) :
    (JobTransaction.answer (.execute statement) state).1 =
        (JobTransaction.answer (.execute statement.trusted) (trustedPart state)).1 ∧
      trustedPart (JobTransaction.answer (.execute statement) state).2 =
        (JobTransaction.answer (.execute statement.trusted) (trustedPart state)).2 := by
  obtain ⟨transaction, db⟩ := state
  have failure : transaction.trusted.failure = transaction.failure := rfl
  have applied := (transaction.working db).jobApply_trusted transaction.startedAt statement
  rw [working_trusted] at applied
  simp only [JobTransaction.answer, trustedPart, failure]
  cases transaction.failure with
  | some raised => exact ⟨rfl, rfl⟩
  | none =>
      have started : transaction.trusted.startedAt = transaction.startedAt := rfl
      simp only [started, ← applied]
      cases (transaction.working db).jobApply transaction.startedAt statement with
      | error raised => exact ⟨rfl, rfl⟩
      | ok written => simp [Except.map, JobTransaction.trusted, JobTransaction.met,
          JobSurroundings.trusted]

theorem answer_commit_trusted (state : JobTransaction × Database) :
    (JobTransaction.answer .commit state).1 =
        (JobTransaction.answer .commit (trustedPart state)).1 ∧
      trustedPart (JobTransaction.answer .commit state).2 =
        (JobTransaction.answer .commit (trustedPart state)).2 := by
  obtain ⟨transaction, db⟩ := state
  have failure : transaction.trusted.failure = transaction.failure := rfl
  simp only [JobTransaction.answer, trustedPart, failure]
  cases transaction.failure with
  | some raised => exact ⟨rfl, rfl⟩
  | none => exact ⟨rfl, congrArg (_, ·) (working_trusted transaction db)⟩

/-- The next run of the graph, without what the outside tells. -/
theorem answer_invoke_trusted (checkpointed : Bool) (state : JobTransaction × Database) :
    (JobTransaction.answer (.invoke checkpointed) state).1.map NodeCalls.trusted =
        (JobTransaction.answer (.invoke checkpointed) (trustedPart state)).1 ∧
      trustedPart (JobTransaction.answer (.invoke checkpointed) state).2 =
        (JobTransaction.answer (.invoke checkpointed) (trustedPart state)).2 := by
  obtain ⟨transaction, db⟩ := state
  cases runs : transaction.around.graphRuns with
  | nil =>
      simp [JobTransaction.answer, trustedPart, JobTransaction.trusted, JobSurroundings.trusted, runs,
        Except.map]
  | cons first rest =>
      simp [JobTransaction.answer, trustedPart, JobTransaction.trusted, JobSurroundings.trusted, runs]

theorem answer_state_trusted (issued : JobCommand) (state : JobTransaction × Database) :
    trustedPart (JobTransaction.answer issued state).2 =
      (JobTransaction.answer issued.trusted (trustedPart state)).2 := by
  cases issued with
  | execute statement => exact (answer_execute_trusted statement state).2
  | commit => exact (answer_commit_trusted state).2
  | invoke checkpointed => exact (answer_invoke_trusted checkpointed state).2
  | _ => rfl

/-- The database answers alike jobs alike on rows with one trusted part. -/
theorem JobTransaction.answer_mirrors : Mirrors
    (fun issued other : JobCommand => issued.trusted = other.trusted) JobCommand.AlikeReplies
    (fun state image => trustedPart state = trustedPart image) JobTransaction.answer
    JobTransaction.answer := by
  intro issued other state image same related
  constructor
  · cases issued <;> cases other <;> try cases same
    case execute.execute statement other =>
      have equal : statement.trusted = other.trusted := JobCommand.execute.inj same
      have reply := (answer_execute_trusted statement state).1
      rw [equal, related] at reply
      exact reply.trans (answer_execute_trusted other image).1.symm
    case commit.commit.refl =>
      have reply := (answer_commit_trusted state).1
      rw [related] at reply
      exact reply.trans (answer_commit_trusted image).1.symm
    case invoke.invoke.refl checkpointed =>
      have reply := (answer_invoke_trusted checkpointed state).1
      rw [related] at reply
      exact reply.trans (answer_invoke_trusted checkpointed image).1.symm
    case initTrace.initTrace.refl => exact congrArg (·.1.around.trace) related
    case uuid4.uuid4.refl => exact congrArg (·.1.around.uuids.headD 0) related
    all_goals trivial
  · dsimp only
    rw [answer_state_trusted, answer_state_trusted other, same, related]

end Job

section Requests

variable [Sha256] [UuidCodec]

/-- A session without the explanations. -/
def ApiSession.trusted (session : ApiSession) : ApiSession :=
  { session with committed := session.committed.trusted, working := session.working.trusted }

/-- The commands whose replies hold no explanation. -/
def ApiCommand.Determined (issued : ApiCommand) : Prop :=
  ∀ investigationId, issued ≠ .select (.latestSeverity investigationId)

/-- Two replies to one command are the same, up to the explanation. -/
def ApiCommand.AlikeReplies : (issued other : ApiCommand) → issued.Reply → other.Reply → Prop
  | .select (.latestSeverity _), .select (.latestSeverity _), reply, answer =>
      reply.map Severity.trusted = answer.map Severity.trusted
  | _, _, reply, answer => HEq reply answer

theorem ApiSession.answer_mirrors : Mirrors Eq ApiCommand.AlikeReplies
    (fun session image => session.trusted = image.trusted) ApiSession.answer ApiSession.answer := by
  rintro issued _ session image rfl related
  have working : session.working.trusted = image.working.trusted :=
    congrArg ApiSession.working related
  cases issued with
  | select query =>
      refine ⟨?_, related⟩
      have reply (other : ∀ id, query ≠ .latestSeverity id) :
          (ApiSession.answer (.select query) session).1 =
            (ApiSession.answer (.select query) image).1 := by
        have same := congrArg (·.apiAnswer query) working
        rwa [Database.apiAnswer_trusted _ other, Database.apiAnswer_trusted _ other] at same
      cases query with
      | latestSeverity investigationId =>
          have same := congrArg (·.apiAnswer (.latestSeverity investigationId)) working
          rwa [Database.latestSeverity_trusted, Database.latestSeverity_trusted] at same
      | _ => exact heq_of_eq (reply (by simp))
  | write statement =>
      have applied : (session.working.apiApply statement).map Database.trusted =
          (image.working.apiApply statement).map Database.trusted := by
        rw [Database.apiApply_trusted, Database.apiApply_trusted, working]
      simp only [ApiSession.answer]
      cases first : session.working.apiApply statement with
      | error raised =>
          cases second : image.working.apiApply statement with
          | error other =>
              rw [first, second] at applied
              obtain rfl := Except.error.inj applied
              exact ⟨HEq.rfl, related⟩
          | ok rows =>
              rw [first, second] at applied
              cases applied
      | ok written =>
          cases second : image.working.apiApply statement with
          | error other =>
              rw [first, second] at applied
              cases applied
          | ok rows =>
              rw [first, second] at applied
              have same : written.trusted = rows.trusted := Except.ok.inj applied
              simp only [ApiSession.trusted, ApiSession.mk.injEq] at related ⊢
              exact ⟨HEq.rfl, related.1, same, related.2.2⟩
  | commit =>
      simp only [ApiSession.trusted, ApiSession.mk.injEq] at related
      obtain ⟨_, _, uuids, jobs⟩ := related
      exact ⟨HEq.rfl, by simp only [ApiSession.answer, ApiSession.trusted, working, uuids, jobs]⟩
  | now =>
      have clock : session.working.trusted.clock = image.working.trusted.clock :=
        congrArg Database.clock working
      exact ⟨heq_of_eq clock, related⟩
  | uuid4 =>
      simp only [ApiSession.trusted, ApiSession.mk.injEq] at related
      obtain ⟨committed, _, uuids, jobs⟩ := related
      refine ⟨heq_of_eq (congrArg (·.headD 0) uuids), ?_⟩
      simp only [ApiSession.answer, ApiSession.trusted, committed, working, uuids, jobs]
  | enqueueInvestigation job =>
      simp only [ApiSession.trusted, ApiSession.mk.injEq] at related
      obtain ⟨committed, _, uuids, jobs⟩ := related
      exact ⟨HEq.rfl, by simp only [ApiSession.answer, ApiSession.trusted, committed, working, uuids,
        jobs]⟩

end Requests

section Handlers

variable {α : Type} {query : ApiQuery} {limit offset : Int} {workspaceId secretId : Uuid}

/-- A handler that reads no explanation. -/
abbrev Unexplained (handler : ApiHandler α) : Prop := Raising.Issues ApiCommand.Determined handler

end Handlers

section Responses

variable [Sha256] [UuidCodec] {db image : Database} {uuids : List Uuid} {statusCode : Nat}

/-- A handler that reads no explanation responds alike on rows with one trusted part. -/
theorem Unexplained.respond {handler : ApiHandler Json} (unexplained : Unexplained handler)
    (same : db.trusted = image.trusted) :
    (handler.respond db uuids statusCode).1 = (handler.respond image uuids statusCode).1 ∧
      (handler.respond db uuids statusCode).2.trusted =
        (handler.respond image uuids statusCode).2.trusted := by
  have alike : Program.Alike Eq ApiCommand.AlikeReplies Eq handler.run handler.run := by
    refine Program.alike_of_issues (fun issued determined => ⟨rfl, fun reply answer equal => ?_⟩)
      unexplained
    cases issued with
    | select query =>
        cases query with
        | latestSeverity investigationId => exact absurd rfl (determined investigationId)
        | _ => exact eq_of_heq equal
    | _ => exact eq_of_heq equal
  have start : ApiSession.trusted { committed := db, working := db, uuids, jobs := [] } =
      ApiSession.trusted { committed := image, working := image, uuids, jobs := [] } := by
    simp only [ApiSession.trusted, same]
  obtain ⟨outcomes, sessions⟩ := alike.run ApiSession.answer_mirrors start
  exact ⟨congrArg (Response.of statusCode) outcomes, congrArg ApiSession.committed sessions⟩

theorem Unexplained.respondPage {handler : ApiHandler Json} {limit offset : Int}
    (unexplained : Unexplained handler) (same : db.trusted = image.trusted) :
    (respondPage db uuids limit offset handler).1 = (respondPage image uuids limit offset handler).1 ∧
      (respondPage db uuids limit offset handler).2.trusted =
        (respondPage image uuids limit offset handler).2.trusted := by
  rw [Sprawl.respondPage, Sprawl.respondPage]
  split
  · exact unexplained.respond same
  · exact ⟨rfl, same⟩

end Responses

section Rotations

variable [Sha256] {κ : Type}

/-- A session of a rotation program without the explanations. -/
def Session.trusted (session : Session Database κ) : Session Database κ :=
  { session with db := session.db.trusted }

end Rotations

end Sprawl
