import ResearchGraph.Lib.Table
import ResearchGraph.Lib.Check
import ResearchGraph.Lib.Fold
import ResearchGraph.Lib.Value
import ResearchGraph.Lib.Digest
import ResearchGraph.Lib.Stamp
import ResearchGraph.Models
import ResearchGraph.Operations
import ResearchGraph.State
import ResearchGraph.Decode
import ResearchGraph.Encode
import ResearchGraph.Report
import ResearchGraph.Ontology
import ResearchGraph.Authority
import ResearchGraph.Proposals
import ResearchGraph.Materialize
import ResearchGraph.Steps
import ResearchGraph.Control
import ResearchGraph.Transitions
import ResearchGraph.Validation.Nodes
import ResearchGraph.Validation.Ops
import ResearchGraph.Validation.Proposals
import ResearchGraph.Validation.ExperimentLoop
import ResearchGraph.Validation.Approval
import ResearchGraph.Validation.Patch
import ResearchGraph.Reference
import ResearchGraph.Frames
import ResearchGraph.Admission
import ResearchGraph.Staging
import ResearchGraph.Presence
import ResearchGraph.Judged
import ResearchGraph.Timeline
import ResearchGraph.Provenance
import ResearchGraph.Stamps
import ResearchGraph.Endpoints
import ResearchGraph.Creations
import ResearchGraph.Gates
import ResearchGraph.Lib.Loose
import ResearchGraph.Times
import ResearchGraph.Agreement
import ResearchGraph.Attempts
import ResearchGraph.AttemptLedger
import ResearchGraph.Layers
import ResearchGraph.Boundary
import ResearchGraph.AdmissionReplay
import ResearchGraph.Lifecycle
import ResearchGraph.Trace
import ResearchGraph.RoundTrip
import ResearchGraph.Staleness
import ResearchGraph.Coherence
import ResearchGraph.Conformance
import ResearchGraph.Guidance
import ResearchGraph.GuidanceValidity
import ResearchGraph.Applicability
import ResearchGraph.Replay
import ResearchGraph.History
import ResearchGraph.Halting
import ResearchGraph.AcceptedPatch
import ResearchGraph.Prefixes
import ResearchGraph.FailureOrder
import ResearchGraph.HaltedBranch
import ResearchGraph.Lib.Rewrite
import ResearchGraph.Adapters
import ResearchGraph.Delta
import ResearchGraph.StandingLog
import ResearchGraph.Snapshot
import ResearchGraph.Append
import ResearchGraph.Merges
import ResearchGraph.MergeOnce
import ResearchGraph.MergePaths
import ResearchGraph.MergeDocuments
import ResearchGraph.MergeFrame
import ResearchGraph.MergeConflicts
import ResearchGraph.Subsumption
import ResearchGraph.Lib.Newest
import ResearchGraph.Lib.Runs
import ResearchGraph.Store.Tasks
import ResearchGraph.Store.Receipts
import ResearchGraph.Store.Fences
import ResearchGraph.Store.Watchers
import ResearchGraph.Store.WatcherDelivery
import ResearchGraph.Store.GraphWatchers
import ResearchGraph.Store.Reconciliation
import ResearchGraph.Store.Episodes
import ResearchGraph.Store.EpisodeEndings
import ResearchGraph.Store.EpisodeAdmissions
import ResearchGraph.Store.EpisodeRuns
import ResearchGraph.Store.EpisodeLedger
import ResearchGraph.Store.EpisodeFences
import ResearchGraph.Store.EpisodeTasks
import ResearchGraph.Store.PaidInvocations
import ResearchGraph.Store.LoopInvocations
import ResearchGraph.Lib.Transaction
import ResearchGraph.Store.Actors
import ResearchGraph.Store.LiveTasks
import ResearchGraph.Lib.Shrink
import ResearchGraph.Store.TaskResults
import ResearchGraph.Store.ResultBounds
import ResearchGraph.Store.Recoveries
import ResearchGraph.Store.RecoveryLineage
import ResearchGraph.Store.RecoveryCounts
import ResearchGraph.Store.ReportAttempts
import ResearchGraph.Lib.Drain
import ResearchGraph.Store.JsonText
import ResearchGraph.Store.LifecycleNotices
import ResearchGraph.Store.NoticeDelivery
import ResearchGraph.Store.ExperimentStops
import ResearchGraph.Store.LoopLineages
import ResearchGraph.Store.EpisodeRows
import ResearchGraph.Store.LineageRuns
import ResearchGraph.Store.StopSettlement
import ResearchGraph.Lib.Saga
import ResearchGraph.Transfer.Requests
import ResearchGraph.Transfer.Store
import ResearchGraph.Transfer.Rows
import ResearchGraph.Transfer.Progress
import ResearchGraph.Transfer.Operations
import ResearchGraph.Transfer.Source
import ResearchGraph.Transfer.Custody
import ResearchGraph.Transfer.Advance
import ResearchGraph.Transfer.Complete
import ResearchGraph.Transfer.SourceRuns
import ResearchGraph.Transfer.Moves
import ResearchGraph.Transfer.Delivery
import ResearchGraph.Transfer.Crossing
import ResearchGraph.Transfer.Handoff
import ResearchGraph.Lib.PosixPath
import ResearchGraph.Agents.WriteScope
import ResearchGraph.Agents.Isolation
