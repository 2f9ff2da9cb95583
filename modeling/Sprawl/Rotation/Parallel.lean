/-
This file gives jobs of one secret that run at once, and the same jobs one after another.
-/

import Sprawl.Api.Traffic

namespace Sprawl

open Effect

/-- A job that has been delivered, with what it brings. -/
structure DeliveredJob (κ : Type) where
  job : Job
  invocation : Invocation κ

/-- This is the result of a job that finds the lock held. -/
def Job.notAcquired (job : Job) : EngineResult where
  rotationStatus := "lock_not_acquired"
  error := some ("Rotation lock for secret " ++ toString job.secretId ++ " is held by another job")

section Sessions

variable {D κ : Type}

/-- A session without its queue, and without what belongs to a single transaction. -/
def Session.core (session : Session D κ) : Session D κ :=
  { session with pending := [], queue := [], clock := 0 }

end Sessions

namespace DeliveredJob

variable {D κ : Type} [SqlStore D] (delivered : DeliveredJob κ)

def thread : Thread Command Command.Reply (Undertaking κ) EngineResult where
  program := runRotationStep delivered.job
  own := {
    errand := .job delivered.job
    transaction := {
      pending := []
      connectors := delivered.invocation.connectors
      clock := delivered.invocation.clock } }

/-- The job runs from its start to its end at once. -/
def alone (session : Session D κ) : EngineResult × Session D κ :=
  let ran := (runRotationStep delivered.job).run (Session.answer delivered.invocation.connectors)
    (session.opened delivered.invocation.clock)
  (ran.1, ran.2.closed)

/-- The job runs up to some command. -/
def stopped (count : Nat) (session : Session D κ) : Session D κ :=
  (Program.stateAfter (Session.answer delivered.invocation.connectors) count
    (runRotationStep delivered.job) (session.opened delivered.invocation.clock)).closed

end DeliveredJob

section Jobs

variable {D κ : Type} [SqlStore D] (jobs : List (DeliveredJob κ))

/-- The jobs at their first commands. -/
def inParallel (session : Session D κ) :
    Pool Command Command.Reply (Undertaking κ) (Session D κ) EngineResult where
  shared := session
  threads := jobs.map DeliveredJob.thread

/-- The session after some of the jobs, one after another. -/
def inTurn (order : List Nat) (session : Session D κ) : Session D κ :=
  order.foldl (fun session index => match jobs[index]? with
    | some delivered => (delivered.alone session).2
    | none => session) session

end Jobs

end Sprawl
