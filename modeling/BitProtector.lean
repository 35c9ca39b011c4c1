import BitProtector.Foundation.Effect
import BitProtector.Foundation.Table
import BitProtector.Foundation.Machine
import BitProtector.Foundation.Interleaving
import BitProtector.Foundation.Paging
import BitProtector.Foundation.FairPaging
import BitProtector.Foundation.WriteAheadLog
import BitProtector.Foundation.Guarded
import BitProtector.Rows
import BitProtector.Repository
import BitProtector.Disk
import BitProtector.Checksum
import BitProtector.Drive
import BitProtector.Mirror
import BitProtector.Integrity
import BitProtector.SyncQueue
import BitProtector.LastGoodCopy
import BitProtector.MirrorFlag
import BitProtector.ProcessingLock
import BitProtector.IntegrityRuns
import BitProtector.IntegrityPaging
import BitProtector.IntegrityCoverage
import BitProtector.IntegrityRotation
import BitProtector.IntegrityUntracking
import BitProtector.FailedSide
import BitProtector.FailedSideInvariant
import BitProtector.DriveLifecycle
import BitProtector.ItemStatus
import BitProtector.QueueDrain
import BitProtector.DrainEnd
import BitProtector.RebuildCompletion
import BitProtector.DrivePaths
import BitProtector.VirtualPath
import BitProtector.VirtualRetarget
import BitProtector.StaleBatch
import BitProtector.Tracker
import BitProtector.RootMarkers
import BitProtector.MarkerOrder
import BitProtector.SpuriousFailover
import BitProtector.VirtualAssignment
import BitProtector.FolderProvenance
import BitProtector.ProvenanceRaces
import BitProtector.RunActors
import BitProtector.CopyVerification
import BitProtector.RecoveryRaces
import BitProtector.PairFrame
import BitProtector.QuiescingPair
import BitProtector.SymlinkSync
import BitProtector.SymlinkRuns
import BitProtector.BackupRepair
import BitProtector.StagedRestore
import BitProtector.RestoreRaces
import BitProtector.QueueDedup
import BitProtector.QueueSnapshots
import BitProtector.TrackingItems
import BitProtector.FolderStatus
import BitProtector.EffectivePaths
import BitProtector.VirtualTree
import BitProtector.TreeWalk
import BitProtector.ScanStates
import BitProtector.ScanWalks
import BitProtector.ScanAgreement
import BitProtector.ScanRoundTrip
import BitProtector.VirtualNormalForms
import BitProtector.PendingBatch
import BitProtector.AtomicRestores
import BitProtector.Resolutions
import BitProtector.SidecarRoundTrip
import BitProtector.FailedResolutions
import BitProtector.ResolvedFiles
import BitProtector.IntegrityRepairs
import BitProtector.TrustedBackups
import BitProtector.Foundation.Paths
import BitProtector.Foundation.Requests
import BitProtector.MirrorFrames
import BitProtector.PausedDrain
import BitProtector.RateLimiting
import BitProtector.FolderOperations
import BitProtector.RunCounters
import BitProtector.Scheduling
import BitProtector.ChangeDetection
import BitProtector.AssignmentErrors
import BitProtector.Foundation.FileTree
import BitProtector.PathResolution
import BitProtector.PathInput
import BitProtector.TrackedOnce
import BitProtector.TrackingFallback
import BitProtector.ScheduleArithmetic
import BitProtector.CronRuns
import BitProtector.PathOverlaps
import BitProtector.Foundation.TextOrder
import BitProtector.Foundation.Calendar
import BitProtector.Foundation.Json
import BitProtector.Foundation.JsonReading
import BitProtector.Foundation.JsonWriting
import BitProtector.Listings
import BitProtector.LogTimes
import BitProtector.EventDetails
import BitProtector.PendingRestores
import BitProtector.StandbyAway
import BitProtector.AwayDrains
import BitProtector.AwayTracking
import BitProtector.ForgottenChanges
import BitProtector.TableWrites
import BitProtector.RebuildLedger
import BitProtector.QuietDrains
import BitProtector.ScannedDrains
import BitProtector.DriveLoss
import BitProtector.IntegrityHealing
import BitProtector.Sessions
import BitProtector.Foundation.Migrations
import BitProtector.Schema
import BitProtector.FilesystemBrowse
import BitProtector.BackupProvenance
import BitProtector.FolderPatterns
import BitProtector.FallbackPages
