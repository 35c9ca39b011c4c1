import BitProtector.Foundation.Table

/-! The rows of the tracking database and the enumerations of their columns.
A `CHECK(... IN ...)` column is an inductive type; creation and update times,
event-log rows and the columns no modelled statement reads are left out. -/
namespace BitProtector

inductive DriveRole
  | primary
  | secondary
  deriving DecidableEq, Repr

namespace DriveRole

def asStr : DriveRole → String
  | .primary => "primary"
  | .secondary => "secondary"

def opposite : DriveRole → DriveRole
  | .primary => .secondary
  | .secondary => .primary

@[simp] theorem opposite_opposite (role : DriveRole) : role.opposite.opposite = role := by
  cases role <;> rfl

theorem opposite_ne (role : DriveRole) : role.opposite ≠ role := by
  cases role <;> decide

theorem eq_or_opposite (role other : DriveRole) : other = role ∨ other = role.opposite := by
  cases role <;> cases other <;> decide

end DriveRole

inductive DriveState
  | active
  | quiescing
  | failed
  | rebuilding
  deriving DecidableEq, Repr

def DriveState.asStr : DriveState → String
  | .active => "active"
  | .quiescing => "quiescing"
  | .failed => "failed"
  | .rebuilding => "rebuilding"

inductive DriveMediaType
  | hdd
  | ssd
  deriving DecidableEq, Repr

structure DrivePair where
  id : Nat
  primaryPath : String
  secondaryPath : String
  primaryState : DriveState
  secondaryState : DriveState
  activeRole : DriveRole
  primaryMediaType : DriveMediaType
  secondaryMediaType : DriveMediaType
  deriving DecidableEq, Repr

/-- The row after a runtime update; `none` leaves a column alone. -/
def DrivePair.withRuntime (pair : DrivePair) (primaryPath secondaryPath : Option String)
    (primaryState secondaryState : Option DriveState) (activeRole : Option DriveRole) : DrivePair :=
  { pair with
    primaryPath := primaryPath.getD pair.primaryPath
    secondaryPath := secondaryPath.getD pair.secondaryPath
    primaryState := primaryState.getD pair.primaryState
    secondaryState := secondaryState.getD pair.secondaryState
    activeRole := activeRole.getD pair.activeRole }

structure TrackedFile where
  id : Nat
  drivePairId : Nat
  relativePath : String
  checksum : String
  fileSize : Nat
  virtualPath : Option String
  isMirrored : Bool
  trackedDirect : Bool
  trackedViaFolder : Bool
  /-- Seconds of `datetime('now')`; `none` is SQL `NULL`. -/
  lastIntegrityCheckAt : Option Nat
  deriving DecidableEq, Repr

structure TrackedFolder where
  id : Nat
  drivePairId : Nat
  folderPath : String
  virtualPath : Option String
  includeChecksumSidecars : Bool
  scanning : Bool
  scanScannedFiles : Nat
  scanTotalFiles : Nat
  mirroring : Bool
  deleting : Bool
  mirrorMirroredFiles : Nat
  mirrorTotalFiles : Nat
  deriving DecidableEq, Repr

/-- The `action` column; `other` stands for a text outside the `CHECK` list. -/
inductive SyncAction
  | mirror
  | restoreMaster
  | restoreMirror
  | verify
  | userActionRequired
  | adoptMirror
  | other (text : String)
  deriving DecidableEq, Repr

def SyncAction.asStr : SyncAction → String
  | .mirror => "mirror"
  | .restoreMaster => "restore_master"
  | .restoreMirror => "restore_mirror"
  | .verify => "verify"
  | .userActionRequired => "user_action_required"
  | .adoptMirror => "adopt_mirror"
  | .other text => text

/-- `action IN ('mirror', 'adopt_mirror')`. -/
def SyncAction.isMirroring : SyncAction → Bool
  | .mirror | .adoptMirror => true
  | _ => false

inductive SyncStatus
  | pending
  | inProgress
  | completed
  | failed
  deriving DecidableEq, Repr

def SyncStatus.asStr : SyncStatus → String
  | .pending => "pending"
  | .inProgress => "in_progress"
  | .completed => "completed"
  | .failed => "failed"

/-- `status IN ('pending', 'in_progress')`. -/
def SyncStatus.isOpen : SyncStatus → Bool
  | .pending | .inProgress => true
  | _ => false

structure SyncQueueItem where
  id : Nat
  trackedFileId : Nat
  action : SyncAction
  status : SyncStatus
  errorMessage : Option String
  reason : Option String
  deriving DecidableEq, Repr

inductive RunStatus
  | running
  | stopping
  | stopped
  | completed
  | failed
  deriving DecidableEq, Repr

structure IntegrityRun where
  id : Nat
  scopeDrivePairId : Option Nat
  recover : Bool
  trigger : String
  status : RunStatus
  totalFiles : Nat
  processedFiles : Nat
  attentionFiles : Nat
  recoveredFiles : Nat
  activeWorkers : Nat
  stopRequested : Bool
  errorMessage : Option String
  deriving DecidableEq, Repr

structure IntegrityRunResult where
  id : Nat
  runId : Nat
  fileId : Nat
  drivePairId : Nat
  relativePath : String
  status : String
  recovered : Bool
  needsAttention : Bool
  deriving DecidableEq, Repr

/-- The single row of `sync_settings`; the lock columns are `NULL` when unlocked. -/
structure SyncSettings where
  queuePaused : Bool
  processingLockedAt : Option Nat
  processingLockedByPid : Option Nat
  deriving DecidableEq, Repr

instance : Keyed DrivePair := ⟨DrivePair.id⟩
instance : Keyed TrackedFile := ⟨TrackedFile.id⟩
instance : Keyed TrackedFolder := ⟨TrackedFolder.id⟩
instance : Keyed SyncQueueItem := ⟨SyncQueueItem.id⟩
instance : Keyed IntegrityRun := ⟨IntegrityRun.id⟩
instance : Keyed IntegrityRunResult := ⟨IntegrityRunResult.id⟩

theorem DrivePair.key_withRuntime (pair : DrivePair) (pp sp ps ss role) :
    Keyed.key (pair.withRuntime pp sp ps ss role) = Keyed.key pair := rfl

/-- The tracking database. -/
structure Db where
  drivePairs : Table DrivePair
  trackedFiles : Table TrackedFile
  trackedFolders : Table TrackedFolder
  syncQueue : Table SyncQueueItem
  integrityRuns : Table IntegrityRun
  integrityRunResults : Table IntegrityRunResult
  syncSettings : SyncSettings

def Db.empty : Db :=
  ⟨.empty,.empty,.empty,.empty,.empty,.empty,⟨false,none,none⟩⟩

end BitProtector
