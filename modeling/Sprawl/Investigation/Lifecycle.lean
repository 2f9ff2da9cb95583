/-
This file gives the interleaved triggers of an investigation, with the queue and the jobs.
-/

import Sprawl.Investigation.Pool

namespace Sprawl

open Effect

/-- The triggers and the jobs that have started, with the jobs that are queued. -/
structure Lifecycle where
  jobs : JobPool
  triggers : List TriggerThread
  queue : List InvestigationJob

/-- A trigger arrives or goes on, a job leaves the queue, goes on or is cancelled, and time passes. -/
inductive LifecycleAction where
  | trigger (uuids : List Uuid)
  | insert (index : Nat)
  | deliver (index : Nat) (around : JobSurroundings)
  | advance (index : Nat)
  | cancel (index : Nat)
  | tick (elapsed : Time)

namespace Lifecycle

/-- Nothing has started, and the queue is empty. -/
def start (db : Database) : Lifecycle where
  jobs := .start db
  triggers := []
  queue := []

def db (state : Lifecycle) : Database := state.jobs.shared

/-- A request triggers an investigation of the secret. -/
def trigger (workspaceId secretId : Uuid) (uuids : List Uuid) (state : Lifecycle) : Lifecycle :=
  { state with
    triggers := state.triggers ++
      [⟨(triggerInvestigation workspaceId secretId).run, .start uuids⟩] }

/-- The triggers of the state as a pool. -/
def triggerPool (state : Lifecycle) :
    Pool ApiCommand ApiCommand.Reply TriggerTransaction Database (Except HttpError Json) where
  shared := state.db
  threads := state.triggers

/-- A job that a trigger enqueues joins the queue. -/
def enqueued : Option ApiCommand → List InvestigationJob
  | some (.enqueueInvestigation job) => [job]
  | _ => []

/-- The chosen trigger issues its next command, unless it waits for a lock. -/
def insert [Sha256] [UuidCodec] (index : Nat) (state : Lifecycle) : Lifecycle :=
  let pool := state.triggerPool
  let outside := Pool.held jobLocking state.jobs.threads state.db
  let stepped := pool.stepWaiting TriggerTransaction.answer apiLocking outside index
  { jobs := { state.jobs with shared := stepped.shared }
    triggers := stepped.threads
    queue := state.queue ++ enqueued (pool.issued index) }

/-- A job leaves the queue and starts to run. -/
def deliver (F : Type) [Scalar F] (index : Nat) (around : JobSurroundings) (state : Lifecycle) :
    Lifecycle :=
  match state.queue[index]? with
  | none => state
  | some job =>
      { state with jobs := state.jobs.started F job around, queue := state.queue.eraseIdx index }

/-- The chosen job issues its next command, unless it waits for a lock. -/
def advance [Sha256] (index : Nat) (state : Lifecycle) : Lifecycle :=
  let outside := Pool.held apiLocking state.triggers state.db
  { state with jobs := state.jobs.advance outside index }

end Lifecycle

/-- All triggers are for one secret. -/
def LifecycleAction.step [Sha256] [UuidCodec] (F : Type) [Scalar F] (workspaceId secretId : Uuid) :
    LifecycleAction → Lifecycle → Lifecycle
  | .trigger uuids, state => state.trigger workspaceId secretId uuids
  | .insert index, state => state.insert index
  | .deliver index around, state => state.deliver F index around
  | .advance index, state => state.advance index
  | .cancel index, state => { state with jobs := state.jobs.cancel index }
  | .tick elapsed, state => { state with jobs := state.jobs.tick elapsed }

end Sprawl
