import Turnstile.Archive
import Turnstile.Archive.Deflate
import Turnstile.Archive.Gzip
import Turnstile.Archive.Tar
import Turnstile.Cluster
import Turnstile.Cluster.ApiError
import Turnstile.Cluster.Kind
import Turnstile.Cluster.Program
import Turnstile.Cluster.Scenario
import Turnstile.Cluster.Script
import Turnstile.Cluster.Shape
import Turnstile.Command
import Turnstile.CommandLine
import Turnstile.CommandLine.Reading
import Turnstile.Condition
import Turnstile.Definition
import Turnstile.Exchange.Cluster
import Turnstile.Exchange.Files
import Turnstile.Exchange.Octets
import Turnstile.Exchange.Outcome
import Turnstile.Exchange.Settings
import Turnstile.Exchange.Snapshot
import Turnstile.Exchange.Watch
import Turnstile.Files
import Turnstile.Files.Disk
import Turnstile.Files.Fault
import Turnstile.Json
import Turnstile.Json.Field
import Turnstile.Json.MergePatch
import Turnstile.Json.Record
import Turnstile.Json.Shape
import Turnstile.Json.Written
import Turnstile.Launch.Attachment
import Turnstile.Launch.Course
import Turnstile.Launch.Failure
import Turnstile.Launch.Handshake
import Turnstile.Launch.Invocation
import Turnstile.Launch.Marker
import Turnstile.Launch.Monitor
import Turnstile.Launch.NewWorkspace
import Turnstile.Launch.Packing
import Turnstile.Launch.Payload
import Turnstile.Launch.Provision
import Turnstile.Launch.Relay
import Turnstile.Launch.RunName
import Turnstile.Launch.Session
import Turnstile.Launch.Settings
import Turnstile.Launch.Submission
import Turnstile.Launch.Watchers
import Turnstile.Main
import Turnstile.Metadata
import Turnstile.Pod
import Turnstile.Pod.Shape
import Turnstile.Proofs.Archive.Fidelity
import Turnstile.Proofs.Archive.Tree
import Turnstile.Proofs.Archive.Unpack
import Turnstile.Proofs.Archive.Walk
import Turnstile.Proofs.Clearance.Hearing
import Turnstile.Proofs.Clearance.World
import Turnstile.Proofs.Cluster.Answered
import Turnstile.Proofs.Cluster.Conduct
import Turnstile.Proofs.Cluster.Effect
import Turnstile.Proofs.Cluster.Heard
import Turnstile.Proofs.Cluster.History
import Turnstile.Proofs.Cluster.Report
import Turnstile.Proofs.Cluster.Resource
import Turnstile.Proofs.Cluster.Scenario
import Turnstile.Proofs.Cluster.Transcript
import Turnstile.Proofs.Condition.History
import Turnstile.Proofs.Condition.Recording
import Turnstile.Proofs.Condition.Retention
import Turnstile.Proofs.Condition.Timeless
import Turnstile.Proofs.Creation.Account
import Turnstile.Proofs.Creation.World
import Turnstile.Proofs.Execution.Guarded
import Turnstile.Proofs.Execution.System
import Turnstile.Proofs.Files
import Turnstile.Proofs.Json.Members
import Turnstile.Proofs.Json.Shape
import Turnstile.Proofs.Launch.Attachment
import Turnstile.Proofs.Launch.Channel
import Turnstile.Proofs.Launch.Display
import Turnstile.Proofs.Launch.Following
import Turnstile.Proofs.Launch.Handover
import Turnstile.Proofs.Launch.Handshake
import Turnstile.Proofs.Launch.Marker
import Turnstile.Proofs.Launch.MarkerLine
import Turnstile.Proofs.Launch.Monitor
import Turnstile.Proofs.Launch.Played
import Turnstile.Proofs.Launch.Provision
import Turnstile.Proofs.Launch.Punctual
import Turnstile.Proofs.Launch.Queueing
import Turnstile.Proofs.Launch.Readying
import Turnstile.Proofs.Launch.Relay
import Turnstile.Proofs.Launch.Schedule
import Turnstile.Proofs.Launch.Success
import Turnstile.Proofs.Launch.Verdict
import Turnstile.Proofs.Launch.Watchers
import Turnstile.Proofs.Metadata
import Turnstile.Proofs.Persistence
import Turnstile.Proofs.RoundTrip
import Turnstile.Proofs.Run.Adoption
import Turnstile.Proofs.Run.Agreement
import Turnstile.Proofs.Run.Clearance
import Turnstile.Proofs.Run.Coherence
import Turnstile.Proofs.Run.Convergence
import Turnstile.Proofs.Run.Entrypoint
import Turnstile.Proofs.Run.Grounds
import Turnstile.Proofs.Run.Joining
import Turnstile.Proofs.Run.Laws
import Turnstile.Proofs.Run.Life
import Turnstile.Proofs.Run.Outcome
import Turnstile.Proofs.Run.Outline
import Turnstile.Proofs.Run.Ownership
import Turnstile.Proofs.Run.Restart
import Turnstile.Proofs.Run.Resumption
import Turnstile.Proofs.Run.Ruling
import Turnstile.Proofs.Run.Settlement
import Turnstile.Proofs.Run.Verdict
import Turnstile.Proofs.Settings.Pruned
import Turnstile.Proofs.Settings.Remaining
import Turnstile.Proofs.Shell.Quoted
import Turnstile.Proofs.Shell.Token
import Turnstile.Proofs.Status
import Turnstile.Proofs.Text.Blank
import Turnstile.Proofs.Text.Octets
import Turnstile.Proofs.Turn.Controllers
import Turnstile.Proofs.Turn.Lawful
import Turnstile.Proofs.Turn.Outside
import Turnstile.Proofs.Turn.Precedence
import Turnstile.Proofs.Turn.Succession
import Turnstile.Proofs.Turn.World
import Turnstile.Proofs.Watch
import Turnstile.Proofs.Watch.Earliest
import Turnstile.Proofs.Workspace.Conduct
import Turnstile.Proofs.Workspace.Convergence
import Turnstile.Proofs.Workspace.Life
import Turnstile.Proofs.Workspace.Order
import Turnstile.Proofs.Workspace.Outcome
import Turnstile.Proofs.Workspace.Outline
import Turnstile.Proofs.Workspace.Queue
import Turnstile.Proofs.Workspace.Recomputation
import Turnstile.Proofs.Workspace.Requests
import Turnstile.Proofs.Workspace.Resumption
import Turnstile.Proofs.Workspace.Wholeness
import Turnstile.Reconcile.Controllers
import Turnstile.Reconcile.Failure
import Turnstile.Reconcile.Service
import Turnstile.Reconcile.Trigger
import Turnstile.Reconcile.Write
import Turnstile.Rehearsal.Launch
import Turnstile.Rehearsal.Provision
import Turnstile.Run
import Turnstile.Run.Entrypoint
import Turnstile.Run.Manifest
import Turnstile.Run.Plan
import Turnstile.Run.Reconcile
import Turnstile.Settings
import Turnstile.Settings.Document
import Turnstile.Shell.Quoted
import Turnstile.Text.Base64
import Turnstile.Text.Blank
import Turnstile.Text.Duration
import Turnstile.Text.Instant
import Turnstile.Watch
import Turnstile.Workspace
import Turnstile.Workspace.Progress
import Turnstile.Workspace.Queue
import Turnstile.Workspace.Reconcile
import Turnstile.Workspace.Resources
import Turnstile.Yaml
import Turnstile.Yaml.Cursor
import Turnstile.Yaml.Scalar
import Turnstile.Yaml.Token
import Turnstile.Yaml.Written
