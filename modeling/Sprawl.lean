import Sprawl.Audit.Reads
import Sprawl.Audit.PyValue
import Sprawl.Proof.PyText
import Sprawl.Proof.VaultVersions
import Sprawl.Store.Versioned
import Sprawl.Text.Decimal
import Sprawl.Effect.LivePaging
import Sprawl.Proof.AuditReads
import Sprawl.Proof.PictureRuns
import Sprawl.Proof.Picture
import Sprawl.Web.BlastRadiusGraph
import Sprawl.Proof.Serial
import Sprawl.Effect.Exclusive
import Sprawl.Rotation.Parallel
import Sprawl.Proof.TextsConfined
import Sprawl.Proof.TrustedRows
import Sprawl.Api.Service
import Sprawl.Proof.Untrusted
import Sprawl.Proof.Panel
import Sprawl.Web.RotationPanel
import Sprawl.Effect.Saga
import Sprawl.Proof.SagaRun
import Sprawl.Proof.Storage
import Sprawl.Worker.Storage
import Sprawl.Proof.DemoSweep
import Sprawl.Proof.DemoSeed
import Sprawl.Proof.DemoSession
import Sprawl.Api.Demo
import Sprawl.Proof.Fanout
import Sprawl.Effect.Broadcast
import Sprawl.Streaming.Fanout
import Sprawl.Proof.Within
import Sprawl.Proof.Homed
import Sprawl.Proof.Neighbours
import Sprawl.Streaming.Connection
import Sprawl.Proof.Teardown
import Sprawl.Proof.Chunking
import Sprawl.Proof.PipelineRuns
import Sprawl.Effect.Paging
import Sprawl.Proof.SecretPages
import Sprawl.Proof.UserNames
import Sprawl.Investigation.Pipeline
import Sprawl.Effect.Flow
import Sprawl.Connectors.IamCalls
import Sprawl.Effect.Logged
import Sprawl.Proof.ScopeExact
import Sprawl.Proof.ConnectorOrder
import Sprawl.Effect.Overwriting
import Sprawl.Proof.StoredEnvironments
import Sprawl.Proof.GraphShape
import Sprawl.Trees.Rooted
import Sprawl.Proof.EventRoundTrip
import Sprawl.Proof.TriggerAlone
import Sprawl.Proof.ChainDrive
import Sprawl.Proof.Undoing
import Sprawl.Proof.KeyUndo
import Sprawl.Proof.Coverage
import Sprawl.Proof.Access
import Sprawl.Proof.PrivilegeCounts
import Sprawl.Proof.SeverityScale
import Sprawl.Proof.TriageSkip
import Sprawl.Proof.Collapse
import Sprawl.Proof.Lifecycle
import Sprawl.Proof.SeverityHistory
import Sprawl.Proof.Refresh
import Sprawl.Proof.FailedIngest
import Sprawl.Proof.JobCommits
import Sprawl.Proof.JobRun
import Sprawl.Proof.Sweep
import Sprawl.Worker.Sweeper
import Sprawl.Proof.Secrecy
import Sprawl.Effect.Relational
import Sprawl.Proof.Tamper
import Sprawl.Proof.JsonReading
import Sprawl.Audit.Payloads
import Sprawl.Proof.Restored
import Sprawl.Proof.WriterMirror
import Sprawl.Proof.AuditChain
import Sprawl.Audit.Appends
import Sprawl.Ledger.Linked
import Sprawl.Proof.Verifiable
import Sprawl.Audit.Writers
import Sprawl.Proof.JsonText
import Sprawl.Audit.Jsonb
import Sprawl.Text.Stopping
import Sprawl.Text.Meeting
import Sprawl.Proof.Approval
import Sprawl.Proof.Confined
import Sprawl.Api.Traffic
import Sprawl.Proof.DeadEnd
import Sprawl.Proof.Wake
import Sprawl.Proof.Fleet
import Sprawl.Proof.Halt
import Sprawl.Rotation.Fleet
import Sprawl.Proof.AuditMirror
import Sprawl.Rotation.Trail
import Sprawl.Proof.Provisioning
import Sprawl.Proof.CallMoments
import Sprawl.Proof.Once
import Sprawl.Proof.CallTrace
import Sprawl.Proof.Expiry
import Sprawl.Proof.LockOwner
import Sprawl.Rotation.Lock
import Sprawl.Proof.Isolation
import Sprawl.Api.Routes
import Sprawl.Api.Statements
import Sprawl.Rotation.Concurrency
import Sprawl.Proof.Race
import Sprawl.Effect.Interleaving
import Sprawl.Proof.Crash
import Sprawl.Proof.StoredSecret
import Sprawl.Proof.OldCredential
import Sprawl.Proof.Orphan
import Sprawl.Proof.Abort
import Sprawl.Proof.Ledger
import Sprawl.Proof.StepConsent
import Sprawl.Proof.Delivery
import Sprawl.Proof.RevokeConsent
import Sprawl.Proof.Consent
import Sprawl.Proof.StepOrder
import Sprawl.Proof.Design
import Sprawl.Proof.Handle
import Sprawl.Proof.Advance
import Sprawl.Proof.Rollback
import Sprawl.Proof.Outcome
import Sprawl.Proof.Transaction
import Sprawl.Proof.Order
import Sprawl.Rotation.System
import Sprawl.Effect.Transition
import Sprawl.Rotation.Requests
import Sprawl.Rotation.Engine
import Sprawl.Rotation.Steps
import Sprawl.Rotation.Rows
import Sprawl.Shared.Connectors
import Sprawl.Connectors.Vault
import Sprawl.Proof.VaultRotation
