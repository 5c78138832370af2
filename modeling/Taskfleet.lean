import Taskfleet.Durable
import Taskfleet.Disk
import Taskfleet.Recovery
import Taskfleet.Watermark
import Taskfleet.KeyedReplay
import Taskfleet.RunRecovery
import Taskfleet.Cancellation
import Taskfleet.ClosedRuns
import Taskfleet.Rollup
import Taskfleet.Obligations
import Taskfleet.Settlement
import Taskfleet.MergeAuthority
import Taskfleet.Reducer.Locality
import Taskfleet.Reducer.Refold
import Taskfleet.Reducer.Freeze
import Taskfleet.Tailing
import Taskfleet.ChildCompletion
import Taskfleet.Reducer.PiSessions
import Taskfleet.Attempts
import Taskfleet.Counters
import Taskfleet.ExactlyOnce
import Taskfleet.ChildSpawns
import Taskfleet.MergeRuns
import Taskfleet.TeardownLoss
import Taskfleet.ParentEdges
import Taskfleet.Publication
import Taskfleet.AdmissionRuns
import Taskfleet.NotifyRuns
import Taskfleet.DiscardRuns
import Taskfleet.PiHistory
import Taskfleet.LogReaders
import Taskfleet.NodeCancellation
import Taskfleet.RetryNames
import Taskfleet.Reducer.Inputs
import Taskfleet.Retries
import Taskfleet.ReportSchema
import Taskfleet.ReportFolds
import Taskfleet.TelemetryFiles
import Taskfleet.Answers
import Taskfleet.ResidentExpiry
import Taskfleet.MergeReflection
import Taskfleet.MergedTeardown
import Taskfleet.EventCreate
import Taskfleet.PlannedPaths
import Taskfleet.Together
import Taskfleet.PidFile
import Taskfleet.SoleSupervisor
import Taskfleet.Displays
import Taskfleet.Deadlines
import Taskfleet.Readiness
import Taskfleet.Ranks
import Taskfleet.Utf8
import Taskfleet.EntryPoint
import Taskfleet.Following
import Taskfleet.MoveAside
import Taskfleet.Waiting
import Taskfleet.UpgradeSurvey
import Taskfleet.DiscardRetries
import Taskfleet.BackwardScan
import Taskfleet.WorktreeList
import Taskfleet.LauncherScript
import Taskfleet.EvidenceRuns
import Taskfleet.SilentDeaths
import Taskfleet.CallerDiscardRuns
