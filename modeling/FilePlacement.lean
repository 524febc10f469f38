import FilePlacement.Main
import FilePlacement.Proofs.Log
import FilePlacement.Proofs.Requests
import FilePlacement.Proofs.Course
import FilePlacement.Proofs.RollBack
import FilePlacement.Proofs.Leftover
import FilePlacement.Proofs.Entries
import FilePlacement.Proofs.Lifecycle
import FilePlacement.Proofs.LocalFiles
import FilePlacement.Proofs.UploadedBytes
import FilePlacement.Proofs.WorldFiles
import FilePlacement.Proofs.Numerals
import FilePlacement.Proofs.RemoteScript
import FilePlacement.Proofs.Refresh
import FilePlacement.Proofs.Settling
import FilePlacement.Proofs.DriftHistory
import FilePlacement.Proofs.ClusterFiles
import FilePlacement.Proofs.Ownership
import FilePlacement.Proofs.TreeChanges
import FilePlacement.Proofs.TemporaryFiles
import FilePlacement.Proofs.Identity
import FilePlacement.Proofs.Coherence
import FilePlacement.Proofs.AuditTrail
import FilePlacement.Proofs.Defects
import FilePlacement.Proofs.FaultOrigins
import FilePlacement.Proofs.JsonReading
import FilePlacement.Proofs.RecordRoundTrip
import FilePlacement.Proofs.PercentEncoding
import FilePlacement.Proofs.ClusterTraffic
import FilePlacement.Proofs.DeletionTargets
import FilePlacement.Proofs.UnreadableSources
import FilePlacement.Proofs.CallSequence
import FilePlacement.Proofs.EmptySettings
import FilePlacement.Proofs.Resemblance
import FilePlacement.Proofs.Collisions
import FilePlacement.Proofs.ReleaseInfluence
import FilePlacement.Proofs.CollisionGuard
import FilePlacement.Proofs.Overwriting
import FilePlacement.Proofs.Inquiries
import FilePlacement.Proofs.TaskOutcome
import FilePlacement.Proofs.FailedCalls
import FilePlacement.Proofs.Absence
import FilePlacement.Proofs.TimeLimits
import FilePlacement.Proofs.TimedPolling
import FilePlacement.Proofs.EndpointPaths
import FilePlacement.Proofs.PollingLimit
import FilePlacement.Proofs.RequestUrls
import FilePlacement.Proofs.CivilCalendar
import FilePlacement.Proofs.Timestamps
import FilePlacement.Proofs.HttpDates
import FilePlacement.Proofs.LocalObservations
import FilePlacement.Proofs.HeadObservations
import FilePlacement.Proofs.SourceNames
import FilePlacement.Proofs.Texts
import FilePlacement.Proofs.NodeAddressing
import FilePlacement.Proofs.Releases
import FilePlacement.Proofs.DatastoreContent
import FilePlacement.Proofs.StreamedTransfers
