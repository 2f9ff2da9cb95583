/-
This file gives the service: the api and the two jobs of the worker on one database.
-/

import Sprawl.Api.Routes
import Sprawl.Effect.Raising
import Sprawl.Investigation.Job
import Sprawl.Rotation.Engine

namespace Sprawl

/-- What happens in the service: an investigation, a request, a rotation job with the outside world
that it meets, and the passing of time. -/
inductive ServiceAction (κ : Type) where
  | investigate (job : InvestigationJob) (around : JobSurroundings)
  | request (around : Surroundings) (claims : TokenClaims) (sent : ApiRequest)
  | rotate (job : Job) (connectors : Connectors κ) (external : κ)
  | passed (elapsed : Time)

/-- The session of a rotation job that finds no lock held. -/
def engineSession {κ : Type} (external : κ) (db : Database) : Session Database κ where
  db := db
  pending := []
  external := external
  calls := []
  queue := []
  locks := []
  published := []
  clock := db.clock

variable {κ : Type} [Sha256] [UuidCodec]

/-- A run of `investigate_secret`. -/
def InvestigationJob.ran (F : Type) [Scalar F] (job : InvestigationJob) (around : JobSurroundings)
    (db : Database) : Except String Json × JobTransaction × Database :=
  Effect.Raising.run JobTransaction.answer (investigateSecret F job)
    (JobTransaction.start around, db)

namespace ServiceAction

/-- The rows after an action. -/
def step (F : Type) [Scalar F] : ServiceAction κ → Database → Database
  | .investigate job around, db => (job.ran F around db).2.2
  | .request around claims sent, db => (sent.respond db around claims).2
  | .rotate job connectors external, db =>
      ((runRotationStep job).run (Session.answer connectors) (engineSession external db)).2.db
  | .passed elapsed, db => { db with clock := db.clock + elapsed }

/-- The response to a request. -/
def response : ServiceAction κ → Database → Option Response
  | .request around claims sent, db => some (sent.respond db around claims).1
  | _, _ => none

/-- The return value of a job, or the text that it raises. -/
def result (F : Type) [Scalar F] : ServiceAction κ → Database → Option (Except String Json)
  | .investigate job around, db => some (job.ran F around db).1
  | _, _ => none

end ServiceAction

end Sprawl
