/-
This file gives the audit trail of a rotation and the runs of the operations that write it.
-/

import Sprawl.Rotation.System

namespace Sprawl

variable {κ : Type}

/-- The status that an entry records in its `after` column. -/
def AuditEntry.afterStatus (entry : AuditEntry) : Option Json :=
  (entry.after.getD []).lookup "status"

def AuditEntry.targets (entry : AuditEntry) (rotationId : Uuid) : Bool :=
  entry.targetType = some "rotation" && entry.targetId = some rotationId

/-- The status in the latest entry of the rotation that records one. -/
def Rows.recordedStatus (rows : Rows) : Option Json :=
  rows.auditLog.reverse.findSome? fun entry =>
    if entry.targets rows.rotation.id then entry.afterStatus else none

/-- The latest recorded status is the one of the row. -/
def Rows.Mirrors (rows : Rows) : Prop :=
  rows.recordedStatus = some (.str rows.rotation.status.value)

/-- The entry that `trigger_rotation` writes. -/
def Proposal.entry (proposal : Proposal) (actor : String) : AuditEntry where
  workspaceId := proposal.workspace.id
  actor := actor
  action := "rotation.proposed"
  targetType := some "rotation"
  targetId := some proposal.id
  after := some [statusField .pendingApproval, ("secret_id", .uuid proposal.secretId)]

/-- The world right after the commit of `trigger_rotation`, with its audit entry. -/
def World.triggered (proposal : Proposal) (actor : String) (external : κ) : World κ :=
  let world := World.proposed proposal external
  { world with session := { world.session with db := world.db.withAudit (proposal.entry actor) } }

/-- This is one `simulate_failure` call. -/
def World.simulate (sessionId : String) (clock : Time) (world : World κ) : World κ :=
  { world with session := ((simulateFailure sessionId).run (Session.answer Connectors.none)
      (world.session.opened clock)).2.closed }

/-- The actions that can write the rotation or its audit trail. -/
inductive TrailAction (κ : Type) where
  | request (request : Request) (clock : Time)
  | simulateFailure (sessionId : String) (clock : Time)
  | advance (invocation : Invocation κ)

def TrailAction.step : TrailAction κ → World κ → World κ
  | .request sent clock, world => world.handle sent clock
  | .simulateFailure sessionId clock, world => world.simulate sessionId clock
  | .advance invocation, world => world.advance invocation

/-- The moments of an action. -/
def TrailAction.moments : TrailAction κ → World κ →
    List (Effect.Moment Command Command.Reply (Session Rows κ))
  | .request sent clock, world =>
      sent.program.run.trace (Session.answer Connectors.none) (world.session.opened clock)
  | .simulateFailure sessionId clock, world =>
      (Sprawl.simulateFailure sessionId).trace (Session.answer Connectors.none)
        (world.session.opened clock)
  | .advance invocation, world => world.moments (world.engineCall invocation) invocation

/-- The rows that a run commits, at its visits, at their moments and at its end. -/
def TrailAction.committed (actions : List (TrailAction κ)) (world : World κ) : List Rows :=
  ((Effect.visits TrailAction.step actions world).flatMap fun visit =>
    visit.1.db :: (visit.2.moments visit.1).map (·.state.db)) ++
      [(Effect.runActions TrailAction.step actions world).db]

end Sprawl
