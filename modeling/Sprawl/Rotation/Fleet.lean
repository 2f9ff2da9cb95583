/-
This file gives the rotations that share one queue and one lock store, with the phases of a job.
-/

import Sprawl.Rotation.System

namespace Sprawl

variable {κ : Type}

/-- The rotation that a request addresses. -/
def Request.rotationId : Request → Uuid
  | .approve _ rotationId _ => rotationId
  | .reject _ rotationId _ => rotationId
  | .confirm _ rotationId _ _ => rotationId

def Request.isApproval : Request → Bool
  | .approve _ _ _ => true
  | _ => false

/-- The rows of one rotation in the table of all rotations. -/
def findRows (rotationId : Uuid) (table : List Rows) : Option Rows :=
  table.find? fun rows => rows.rotation.id = rotationId

/-- The table with the rows of one rotation replaced. -/
def putRows (rows : Rows) (table : List Rows) : List Rows :=
  table.map fun other => if other.rotation.id = rows.rotation.id then rows else other

/-- The phases of a running job: the lock is taken, `advance_rotation` has returned, or the lock
has been released. What the engine has returned decides about the next job. -/
inductive JobPhase where
  | locked
  | advanced (shouldContinue : Bool)
  | released (shouldContinue : Bool)
  deriving DecidableEq, Repr

structure RunningJob where
  job : Job
  phase : JobPhase
  deriving DecidableEq, Repr

/-- A running job pursues its rotation while its engine call or its next job is still to come. -/
def RunningJob.pursues (running : RunningJob) : Bool :=
  match running.phase with
  | .locked => true
  | .advanced shouldContinue => shouldContinue
  | .released shouldContinue => shouldContinue

/-- The fleet has one session with the rows of every rotation, the jobs that run at present and the
requests accepted since the last engine call for their rotation. -/
structure Fleet (κ : Type) where
  session : Session (List Rows) κ
  running : List RunningJob
  recent : List Request

namespace Fleet

/-- A fleet without rotations. -/
def empty (external : κ) : Fleet κ where
  session := {
    db := []
    pending := []
    external := external
    calls := []
    queue := []
    locks := []
    published := []
    clock := 0 }
  running := []
  recent := []

/-- The rows of every rotation. -/
abbrev table (fleet : Fleet κ) : List Rows := fleet.session.db

abbrev queue (fleet : Fleet κ) : List Job := fleet.session.queue

/-- One rotation of the fleet, with the shared parts of the session. -/
def world (fleet : Fleet κ) (rows : Rows) : World κ where
  session := { fleet.session with db := rows }
  accepted := fleet.recent

/-- The fleet takes the rows and the shared parts back. -/
def absorb (fleet : Fleet κ) (world : World κ) : Fleet κ :=
  { fleet with
    session := { world.session with db := putRows world.db fleet.table }
    recent := world.accepted }

/-- An unknown rotation is answered with 404. -/
def handle (request : Request) (clock : Time) (fleet : Fleet κ) : Fleet κ :=
  match findRows request.rotationId fleet.table with
  | none => fleet
  | some rows => fleet.absorb ((fleet.world rows).handle request clock)

/-- A trigger inserts its rotation unless the secret has an active one. -/
def propose (proposal : Proposal) (fleet : Fleet κ) : Fleet κ :=
  if fleet.table.any fun rows => rows.rotation.id = proposal.id ||
      (rows.rotation.secretId = proposal.secretId && !rows.rotation.status.isTerminal) then
    fleet
  else { fleet with session := { fleet.session with db := fleet.table ++ [proposal.rows] } }

/-- A delivery first takes its job out of the queue. -/
def taken (index : Nat) (fleet : Fleet κ) : Fleet κ :=
  { fleet with session := { fleet.session with queue := fleet.queue.eraseIdx index } }

/-- The lock of the secret is set. -/
def holdsLock (fleet : Fleet κ) (secretId : Uuid) : Bool :=
  (fleet.session.locks.lookup secretId).isSome

/-- A job takes the lock of its secret, or it is dropped. -/
def acquire (index : Nat) (fleet : Fleet κ) : Fleet κ :=
  match fleet.queue[index]? with
  | none => fleet
  | some job =>
      let fleet := fleet.taken index
      if fleet.holdsLock job.secretId then fleet
      else
        { fleet with
          session := { fleet.session with
            locks := (job.secretId, job.rotationId) :: fleet.session.locks }
          running := fleet.running ++ [{ job, phase := .locked }] }

/-- The requests for a rotation are no longer recent after an engine call for it. -/
def served (rotationId : Uuid) (fleet : Fleet κ) : Fleet κ :=
  { fleet with recent := fleet.recent.filter fun request => request.rotationId ≠ rotationId }

/-- The engine call of a job. -/
def engineCall (job : Job) : RotationProgram EngineResult :=
  advanceRotation job.rotationId job.workspaceId job.actor

/-- The result of the engine call. There is no rotation to advance where no rows are found. -/
def engineContinues (job : Job) (invocation : Invocation κ) (fleet : Fleet κ) : Bool :=
  match findRows job.rotationId fleet.table with
  | none => false
  | some rows => ((engineCall job).run (Session.answer invocation.connectors)
      ((fleet.world rows).session.opened invocation.clock)).1.shouldContinue

/-- The fleet after the engine call. -/
def engineRun (job : Job) (invocation : Invocation κ) (fleet : Fleet κ) : Fleet κ :=
  match findRows job.rotationId fleet.table with
  | none => fleet
  | some rows => fleet.absorb (World.work (engineCall job) invocation (fleet.world rows))

/-- A job that holds the lock makes its engine call. -/
def advance (index : Nat) (invocation : Invocation κ) (fleet : Fleet κ) : Fleet κ :=
  match fleet.running[index]? with
  | some { job, phase := .locked } =>
      { (fleet.engineRun job invocation).served job.rotationId with
        running := fleet.running.set index
          { job, phase := .advanced (fleet.engineContinues job invocation) } }
  | _ => fleet

/-- A job deletes the lock after its engine call if the lock is one of its rotation. -/
def release (index : Nat) (fleet : Fleet κ) : Fleet κ :=
  match fleet.running[index]? with
  | some { job, phase := .advanced shouldContinue } =>
      { fleet with
        session := { fleet.session with
          locks := if fleet.session.locks.lookup job.secretId = some job.rotationId then
              fleet.session.locks.filter fun held => held.1 ≠ job.secretId
            else fleet.session.locks }
        running := fleet.running.set index { job, phase := .released shouldContinue } }
  | _ => fleet

/-- A job ends after its release. It enqueues the next job if the engine wants to continue. -/
def finish (index : Nat) (fleet : Fleet κ) : Fleet κ :=
  match fleet.running[index]? with
  | some { job, phase := .released shouldContinue } =>
      { fleet with
        session := { fleet.session with
          queue := fleet.queue ++ if shouldContinue then [job] else [] }
        running := fleet.running.eraseIdx index }
  | _ => fleet

/-- A delivery that runs a job of the queue from its start to its end at once. -/
def deliver (index : Nat) (invocation : Invocation κ) (fleet : Fleet κ) : Fleet κ :=
  match fleet.queue[index]? with
  | none => fleet
  | some job =>
      match findRows job.rotationId fleet.table with
      | none => fleet.taken index
      | some rows =>
          ((fleet.taken index).absorb
            (((fleet.taken index).world rows).runJob job invocation)).served job.rotationId

/-- A job for the rotation is in the queue. -/
def Queues (fleet : Fleet κ) (rotationId : Uuid) : Prop :=
  ∃ job ∈ fleet.queue, job.rotationId = rotationId

/-- A job for the rotation is running. -/
def Runs (fleet : Fleet κ) (rotationId : Uuid) : Prop :=
  ∃ running ∈ fleet.running, running.job.rotationId = rotationId

/-- A queued or running job will still serve the rotation. -/
def Pursues (fleet : Fleet κ) (rotationId : Uuid) : Prop :=
  fleet.Queues rotationId ∨
    ∃ running ∈ fleet.running, running.job.rotationId = rotationId ∧ running.pursues = true

instance (fleet : Fleet κ) (rotationId : Uuid) : Decidable (fleet.Queues rotationId) :=
  inferInstanceAs (Decidable (∃ job ∈ _, _))

instance (fleet : Fleet κ) (rotationId : Uuid) : Decidable (fleet.Runs rotationId) :=
  inferInstanceAs (Decidable (∃ running ∈ _, _))

instance (fleet : Fleet κ) (rotationId : Uuid) : Decidable (fleet.Pursues rotationId) :=
  inferInstanceAs (Decidable (_ ∨ ∃ running ∈ _, _))

end Fleet

/-- The actions of a fleet whose jobs run phase by phase. -/
inductive PhaseAction (κ : Type) where
  | request (request : Request) (clock : Time)
  | propose (proposal : Proposal)
  | acquire (index : Nat)
  | advance (index : Nat) (invocation : Invocation κ)
  | release (index : Nat)
  | finish (index : Nat)

def PhaseAction.step : PhaseAction κ → Fleet κ → Fleet κ
  | .request sent clock, fleet => fleet.handle sent clock
  | .propose proposal, fleet => fleet.propose proposal
  | .acquire index, fleet => fleet.acquire index
  | .advance index invocation, fleet => fleet.advance index invocation
  | .release index, fleet => fleet.release index
  | .finish index, fleet => fleet.finish index

/-- The actions of a fleet whose jobs are atomic. -/
inductive FleetAction (κ : Type) where
  | request (request : Request) (clock : Time)
  | propose (proposal : Proposal)
  | deliver (index : Nat) (invocation : Invocation κ)

def FleetAction.step : FleetAction κ → Fleet κ → Fleet κ
  | .request sent clock, fleet => fleet.handle sent clock
  | .propose proposal, fleet => fleet.propose proposal
  | .deliver index invocation, fleet => fleet.deliver index invocation

end Sprawl
