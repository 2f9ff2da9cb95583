/-
This file gives the statements of the read routes and of the two triggers, and their session.
-/

import Sprawl.Api.Database
import Sprawl.Effect.Program

namespace Sprawl

/-- A statement fails on a value that its column refuses or on a constraint. -/
inductive SqlError where
  | data
  | integrity
  deriving DecidableEq, Repr

/-- The driver encodes a text for a UUID column. It refuses a text of another form. -/
class UuidCodec where
  encode : String → Option Uuid

/-- The queries of the read routes and of the two triggers. -/
inductive ApiQuery where
  | secret (secretId workspaceId : Uuid)
  | secretPage (workspaceId : Uuid) (limit offset : Int)
  | activeRotation (secretId workspaceId : Uuid)
  | currentInvestigation (secretId workspaceId : Uuid)
  | graphNodes (secretId workspaceId : Uuid)
  | graphEdges (secretId workspaceId : Uuid)
  | latestComplete (secretId workspaceId : Uuid)
  | investigationPage (workspaceId : Uuid) (limit offset : Int)
  | investigationCount (workspaceId : Uuid)
  | investigation (investigationId workspaceId : Uuid)
  | graphCounts (secretId : Uuid)
  | latestSeverity (investigationId : Uuid)
  | rotationPage (workspaceId : Uuid) (limit offset : Int)
  | rotationCount (workspaceId : Uuid)
  | rotation (rotationId workspaceId : Uuid)
  | rotationSteps (rotationId : Uuid)
  | auditPage (workspaceId : Uuid) (limit offset : Int)
  | auditCount (workspaceId : Uuid)
  deriving DecidableEq, Repr

abbrev ApiQuery.Answer : ApiQuery → Type
  | .secret _ _ => Option Secret
  | .secretPage _ _ _ => Except SqlError (List Secret)
  | .activeRotation _ _ => Option (Uuid × RotationStatus)
  | .currentInvestigation _ _ => Option Uuid
  | .graphNodes _ _ => List GraphNode
  | .graphEdges _ _ => List GraphEdge
  | .latestComplete _ _ => Option Investigation
  | .investigationPage _ _ _ => Except SqlError (List (Investigation × Secret))
  | .investigationCount _ => Nat
  | .investigation _ _ => Option (Investigation × Secret)
  | .graphCounts _ => Nat × Nat
  | .latestSeverity _ => Option Severity
  | .rotationPage _ _ _ => Except SqlError (List (RotationRecord × Secret))
  | .rotationCount _ => Nat
  | .rotation _ _ => Option (RotationRecord × Secret)
  | .rotationSteps _ => List StepRecord
  | .auditPage _ _ _ => Except SqlError (List AuditLog)
  | .auditCount _ => Nat

/-- The database refuses a negative limit and an offset outside `bigint`. -/
def pageRefused (limit offset : Int) : Bool := limit < 0 || 9223372036854775808 ≤ offset

/-- `LIMIT :limit OFFSET :offset` -/
def pageOf {ρ : Type} (limit offset : Int) (rows : List ρ) : Except SqlError (List ρ) :=
  if pageRefused limit offset then .error .data
  else .ok ((rows.drop offset.toNat).take limit.toNat)

/-- `ORDER BY key DESC` with nulls at the given end. -/
def descending {α : Type} [LE α] [DecidableLE α] (nullsFirst : Bool) : Option α → Option α → Bool
  | none, none => true
  | none, some _ => nullsFirst
  | some _, none => !nullsFirst
  | some first, some second => second ≤ first

/-- `ORDER BY severity_score DESC NULLS LAST, last_seen DESC` -/
def bySeverity (first second : Secret) : Bool :=
  if first.severityScore = second.severityScore then second.lastSeen ≤ first.lastSeen
  else descending false first.severityScore second.severityScore

/-- `ORDER BY key DESC` -/
def newestFirst {ρ : Type} (key : ρ → Nat) (rows : List ρ) : List ρ :=
  rows.mergeSort fun first second => key second ≤ key first

namespace Database

variable (db : Database)

/-- `JOIN secrets s ON s.id = row.secret_id` -/
def joinSecrets {ρ : Type} (secretId : ρ → Uuid) (rows : List ρ) : List (ρ × Secret) :=
  rows.flatMap fun row => (db.secrets.filter (·.id = secretId row)).map (row, ·)

def secretsOf (workspaceId : Uuid) : List Secret :=
  db.secrets.filter (·.workspaceId = workspaceId)

def investigationsOf (workspaceId : Uuid) : List Investigation :=
  db.investigations.filter (·.workspaceId = workspaceId)

def rotationsOf (workspaceId : Uuid) : List RotationRecord :=
  db.rotations.filter (·.workspaceId = workspaceId)

def auditOf (workspaceId : Uuid) : List AuditLog :=
  db.auditLog.filter (·.entry.workspaceId = workspaceId)

def apiAnswer : (query : ApiQuery) → query.Answer
  | .secret secretId workspaceId => (db.secretsOf workspaceId).find? (·.id = secretId)
  | .secretPage workspaceId limit offset =>
      pageOf limit offset ((db.secretsOf workspaceId).mergeSort bySeverity)
  | .activeRotation secretId workspaceId =>
      ((db.rotationsOf workspaceId).find? fun row =>
        row.secretId = secretId && !row.status.isTerminal).map fun row => (row.id, row.status)
  | .currentInvestigation secretId workspaceId =>
      ((newestFirst (·.startedAt) ((db.investigationsOf workspaceId).filter fun row =>
        row.secretId = secretId && (row.status = .running || row.status = .complete))).head?).map
          (·.id)
  | .graphNodes secretId workspaceId =>
      db.graphNodes.filter fun row => row.workspaceId = workspaceId && row.secretId = secretId
  | .graphEdges secretId workspaceId =>
      db.graphEdges.filter fun row => row.workspaceId = workspaceId && row.secretId = secretId
  | .latestComplete secretId workspaceId =>
      (((db.investigationsOf workspaceId).filter fun row =>
        row.secretId = secretId && row.status = .complete).mergeSort fun first second =>
          descending true first.finishedAt second.finishedAt).head?
  | .investigationPage workspaceId limit offset =>
      pageOf limit offset (newestFirst (·.1.startedAt)
        (db.joinSecrets (·.secretId) (db.investigationsOf workspaceId)))
  | .investigationCount workspaceId => (db.investigationsOf workspaceId).length
  | .investigation investigationId workspaceId =>
      (db.joinSecrets (·.secretId)
        ((db.investigationsOf workspaceId).filter (·.id = investigationId))).head?
  | .graphCounts secretId =>
      ((db.graphNodes.filter (·.secretId = secretId)).length,
        (db.graphEdges.filter (·.secretId = secretId)).length)
  | .latestSeverity investigationId =>
      (db.investigations.find? (·.id = investigationId)).bind fun investigation =>
        (newestFirst (·.computedAt)
          (db.severities.filter (·.secretId = investigation.secretId))).head?
  | .rotationPage workspaceId limit offset =>
      pageOf limit offset (newestFirst (·.1.createdAt)
        (db.joinSecrets (·.secretId) (db.rotationsOf workspaceId)))
  | .rotationCount workspaceId => (db.rotationsOf workspaceId).length
  | .rotation rotationId workspaceId =>
      (db.joinSecrets (·.secretId)
        ((db.rotationsOf workspaceId).filter (·.id = rotationId))).head?
  | .rotationSteps rotationId => db.stepsOf rotationId
  | .auditPage workspaceId limit offset =>
      pageOf limit offset (newestFirst (·.id) (db.auditOf workspaceId))
  | .auditCount workspaceId => (db.auditOf workspaceId).length

end Database

/-- The columns that `trigger_rotation` inserts into `rotations`. -/
structure NewRotation where
  id : Uuid
  workspaceId : Uuid
  secretId : Uuid
  plan : Document
  coverage : Document
  expiresAt : Time
  createdBy : Option String

/-- The columns that `trigger_rotation` inserts into `rotation_steps`. -/
structure NewStep where
  id : Uuid
  workspaceId : Uuid
  rotationId : Uuid
  idx : Int
  kind : StepKind
  target : Document
  compensation : Option Document
  requiresConfirmation : Bool

/-- The inserts of the two triggers. -/
inductive ApiWrite where
  | investigation (id workspaceId secretId : Uuid)
  | rotation (row : NewRotation)
  | rotationStep (row : NewStep)
  | audit (entry : AuditEntry)

namespace Database

variable (db : Database)

def hasWorkspace (workspaceId : Uuid) : Bool := (db.workspaces.map (·.id)).contains workspaceId

def hasSecret (secretId : Uuid) : Bool := (db.secrets.map (·.id)).contains secretId

/-- A second running investigation of a secret conflicts, and so does its identifier. -/
def insertInvestigation (id workspaceId secretId : Uuid) : Except SqlError Database :=
  if db.investigations.any fun row =>
      row.id = id || (row.secretId = secretId && row.status = .running) then .ok db
  else if db.hasWorkspace workspaceId && db.hasSecret secretId then
    .ok { db with
      investigations := db.investigations ++
        [{ id, workspaceId, secretId, status := .running, traceId := none, coverage := none
           startedAt := db.clock, finishedAt := none }] }
  else .error .integrity

/-- The creator is absent or a text that encodes a user. -/
def encodeCreator [UuidCodec] (createdBy : Option String) : Except SqlError (Option Uuid) :=
  match createdBy with
  | none => .ok none
  | some text => match UuidCodec.encode text with
      | some user => .ok (some user)
      | none => .error .data

/-- A second active rotation of a secret conflicts, and so does its identifier. -/
def insertRotation [UuidCodec] (row : NewRotation) : Except SqlError Database :=
  match encodeCreator row.createdBy with
  | .error raised => .error raised
  | .ok createdBy =>
      if db.rotations.any fun old =>
          old.id = row.id || (old.secretId = row.secretId && !old.status.isTerminal) then .ok db
      else if db.hasWorkspace row.workspaceId && db.hasSecret row.secretId &&
          createdBy.all db.users.contains then
        .ok { db with
          rotations := db.rotations ++
            [{ id := row.id, workspaceId := row.workspaceId, secretId := row.secretId
               status := .pendingApproval, plan := some row.plan, planError := none
               coverage := row.coverage, newSecretRef := none
               planExpiresAt := some row.expiresAt, createdBy
               createdAt := db.clock, updatedAt := db.clock }] }
      else .error .integrity

def insertStep (row : NewStep) : Except SqlError Database :=
  if (db.rotationSteps.any fun old =>
      old.id = row.id || (old.rotationId = row.rotationId && old.idx = row.idx)) ||
      !(db.hasWorkspace row.workspaceId &&
        (db.rotations.map (·.id)).contains row.rotationId) then .error .integrity
  else
    .ok { db with
      rotationSteps := db.rotationSteps ++
        [{ id := row.id, workspaceId := row.workspaceId, rotationId := row.rotationId
           idx := row.idx, kind := row.kind, target := row.target
           compensation := row.compensation, requiresConfirmation := row.requiresConfirmation
           status := .pending, confirmedAt := none, executedAt := none, error := none }] }

def insertAudit [Sha256] (entry : AuditEntry) : Except SqlError Database :=
  if db.hasWorkspace entry.workspaceId then .ok (db.audit entry) else .error .integrity

def apiApply [Sha256] [UuidCodec] : ApiWrite → Except SqlError Database
  | .investigation id workspaceId secretId => db.insertInvestigation id workspaceId secretId
  | .rotation row => db.insertRotation row
  | .rotationStep row => db.insertStep row
  | .audit entry => db.insertAudit entry

end Database

/-- This is a queued `investigate_secret` job. -/
structure InvestigationJob where
  secretId : Uuid
  investigationId : Uuid
  workspaceId : Uuid
  deriving DecidableEq, Repr

inductive ApiCommand where
  | select (query : ApiQuery)
  | write (statement : ApiWrite)
  | commit
  | now
  | uuid4
  | enqueueInvestigation (job : InvestigationJob)

abbrev ApiCommand.Reply : ApiCommand → Type
  | .select query => query.Answer
  | .write _ => Except SqlError Unit
  | .commit => Unit
  | .now => Time
  | .uuid4 => Uuid
  | .enqueueInvestigation _ => Unit

/-- A program of the api. -/
abbrev ApiProgram : Type → Type := Effect.Program ApiCommand ApiCommand.Reply

/-- The committed rows, the rows that the open transaction reads, the identifiers that `uuid4` will
return and the queue. -/
structure ApiSession where
  committed : Database
  working : Database
  uuids : List Uuid
  jobs : List InvestigationJob

/-- A session answers each command. A statement that raises changes nothing. -/
def ApiSession.answer [Sha256] [UuidCodec] :
    Effect.Handler ApiCommand ApiCommand.Reply ApiSession
  | .select query, session => (session.working.apiAnswer query, session)
  | .write statement, session =>
      match session.working.apiApply statement with
      | .ok working => (.ok (), { session with working })
      | .error raised => (.error raised, session)
  | .commit, session => ((), { session with committed := session.working })
  | .now, session => (session.working.clock, session)
  | .uuid4, session => (session.uuids.headD 0, { session with uuids := session.uuids.tail })
  | .enqueueInvestigation job, session => ((), { session with jobs := session.jobs ++ [job] })

end Sprawl
