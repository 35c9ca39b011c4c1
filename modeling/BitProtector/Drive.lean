import BitProtector.Disk

/-! A drive pair's two roles, its emergency failover, and the life of a drive
from quiescing over failed and rebuilding back to active. -/
namespace BitProtector
open Effect

namespace DrivePair

def roleState (pair : DrivePair) : DriveRole → DriveState
  | .primary => pair.primaryState
  | .secondary => pair.secondaryState

def standbyRole (pair : DrivePair) : DriveRole := pair.activeRole.opposite

def pathForRole (pair : DrivePair) : DriveRole → String
  | .primary => pair.primaryPath
  | .secondary => pair.secondaryPath

def activePath (pair : DrivePair) : String := pair.pathForRole pair.activeRole

def standbyPath (pair : DrivePair) : String := pair.pathForRole pair.standbyRole

def isQuiescing (pair : DrivePair) : Bool :=
  pair.roleState .primary == .quiescing || pair.roleState .secondary == .quiescing

def isDegraded (pair : DrivePair) : Bool :=
  pair.roleState .primary != .active || pair.roleState .secondary != .active

def standbyAcceptsSync (pair : DrivePair) (disk : Disk) : Bool :=
  (pair.roleState pair.standbyRole == .active || pair.roleState pair.standbyRole == .rebuilding) &&
    disk.available pair.standbyPath

/-- The copy of a file on the side of a role. -/
def copyOn [Naming] (pair : DrivePair) (role : DriveRole) (relativePath : String) : Location :=
  Naming.place (pair.pathForRole role) relativePath

end DrivePair

def driveRootMarker : String := ".bitprotector-drive-root"

def driveRootMarkerPath [Naming] (path : String) : Location := Naming.place path driveRootMarker

def driveRootMarkerBytes : List UInt8 := "bitprotector managed root\n".toUTF8.toList

def ensureDriveRootMarker [Naming] (io : Io) (path : String) : Act Unit := do
  Act.ensure (← Act.look (fun disk => disk.available path)) s!"Drive root unavailable: {path}"
  if !(← Act.look (fun disk => disk.exists? (driveRootMarkerPath path))) then
    Act.ensure (io.writeMarker path) osError
    Act.store (fun disk => disk.write (driveRootMarkerPath path) driveRootMarkerBytes)

def missingExpectedRootMarker [Naming] (disk : Disk) (pair : DrivePair) (role : DriveRole) : Bool :=
  disk.available (pair.pathForRole role) &&
    !disk.exists? (driveRootMarkerPath (pair.pathForRole role)) &&
    disk.exists? (driveRootMarkerPath (pair.pathForRole role.opposite))

def rebuildActionForRole : DriveRole → SyncAction
  | .primary => .restoreMaster
  | .secondary => .restoreMirror

def requirePairMutationAllowed (pair : DrivePair) : Except String Unit :=
  if pair.isQuiescing then
    .error s!"Drive pair #{pair.id} is quiescing; confirm or cancel replacement first"
  else .ok ()

/-- The argument that an update carries for the column of a role. -/
def forRole {α : Type} (role column : DriveRole) (value : α) : Option α :=
  if role = column then some value else none

/-- `update_drive_pair_runtime`, which reads the row back. -/
def updateRuntime (id : Nat) (primaryPath secondaryPath : Option String)
    (primaryState secondaryState : Option DriveState) (activeRole : Option DriveRole) : Act DrivePair := do
  Act.execute (fun db =>
    db.updateDrivePairRuntime id primaryPath secondaryPath primaryState secondaryState activeRole)
  Act.query (fun db => db.getDrivePair id)

/-- The active root is gone, and the standby can take over. -/
def emergencyFailoverDue [Naming] (disk : Disk) (pair : DrivePair) : Bool :=
  !(disk.available pair.activePath && !missingExpectedRootMarker disk pair pair.activeRole) &&
    pair.roleState pair.activeRole == .active &&
    pair.roleState pair.standbyRole == .active && disk.available pair.standbyPath

def maybeEmergencyFailover [Naming] (pair : DrivePair) : Act DrivePair := do
  if !(← Act.look (fun disk => emergencyFailoverDue disk pair)) then pure pair
  else
    let _ ← updateRuntime pair.id none none (forRole pair.activeRole .primary .failed)
      (forRole pair.activeRole .secondary .failed) (some pair.standbyRole)
    Act.execute (fun db => db.markDrivePairUnmirrored pair.id)
    Act.execute (fun db =>
      db.failPendingSyncQueueForDrivePair pair.id "drive failover required after fatal root error")
    Act.query (fun db => db.getDrivePair pair.id)

def loadOperationalPair [Naming] (pairId : Nat) : Act DrivePair := do
  let pair ← Act.query (fun db => db.getDrivePair pairId)
  maybeEmergencyFailover pair

/-- The row and the tables after an emergency failover. -/
def DrivePair.failedOver (pair : DrivePair) : DrivePair :=
  pair.withRuntime none none (forRole pair.activeRole .primary .failed)
    (forRole pair.activeRole .secondary .failed) (some pair.standbyRole)

def Db.failedOver (db : Db) (pair : DrivePair) : Db :=
  (((db.updateDrivePairRuntime pair.id none none (forRole pair.activeRole .primary .failed)
    (forRole pair.activeRole .secondary .failed) (some pair.standbyRole)).markDrivePairUnmirrored pair.id
      ).failPendingSyncQueueForDrivePair pair.id "drive failover required after fatal root error")

/-- The pair an operation goes on with. -/
def DrivePair.operational [Naming] (pair : DrivePair) (disk : Disk) : DrivePair :=
  if emergencyFailoverDue disk pair then pair.failedOver else pair

def Db.operational [Naming] (db : Db) (disk : Disk) (pair : DrivePair) : Db :=
  if emergencyFailoverDue disk pair then db.failedOver pair else db

def markDriveQuiescing (pairId : Nat) (role : DriveRole) : Act DrivePair := do
  let pair ← Act.query (fun db => db.getDrivePair pairId)
  let state := (pair.roleState role).asStr
  let side := role.asStr
  Act.ensure (pair.roleState role == .active)
    s!"Cannot quiesce {side} drive for pair #{pairId} while it is {state}"
  updateRuntime pairId none none (forRole role .primary .quiescing) (forRole role .secondary .quiescing) none

def cancelDriveQuiescing (pairId : Nat) (role : DriveRole) : Act DrivePair := do
  let pair ← Act.query (fun db => db.getDrivePair pairId)
  let state := (pair.roleState role).asStr
  let side := role.asStr
  Act.ensure (pair.roleState role == .quiescing)
    s!"Cannot cancel {side} quiesce for pair #{pairId} while it is {state}"
  updateRuntime pairId none none (forRole role .primary .active) (forRole role .secondary .active) none

/-- The side that is active once a failure of `role` is confirmed. -/
def DrivePair.nextActive (pair : DrivePair) (role : DriveRole) : DriveRole :=
  if pair.activeRole = role then role.opposite else pair.activeRole

def confirmDriveFailure (pairId : Nat) (role : DriveRole) : Act DrivePair := do
  let pair ← Act.query (fun db => db.getDrivePair pairId)
  let state := (pair.roleState role).asStr
  let side := role.asStr
  Act.ensure (pair.roleState role == .quiescing)
    s!"Cannot confirm {side} failure for pair #{pairId} while it is {state}"
  let next := (pair.nextActive role).asStr
  let reachable ← Act.look (fun disk => disk.available (pair.pathForRole (pair.nextActive role)))
  Act.ensure (!(role == pair.activeRole && !reachable))
    s!"Cannot fail over drive pair #{pairId} because the {next} path is unavailable"
  let updated ← updateRuntime pairId none none (forRole role .primary .failed)
    (forRole role .secondary .failed) (some (pair.nextActive role))
  Act.execute (fun db => db.markDrivePairUnmirrored pairId)
  Act.execute (fun db =>
    db.failPendingSyncQueueForDrivePair pairId "drive replacement confirmed; rebuild required")
  pure updated

/-- Queue the rebuild of every file; the count is of the items that are new. -/
def queueRebuild (action : SyncAction) : List TrackedFile → Act Nat
  | [] => pure 0
  | file::files => do
    let (_,created) ← Act.insert (fun db =>
      db.createSyncQueueItemDedupWithCreated file.id action none none)
    let queued ← queueRebuild action files
    pure (if created then queued + 1 else queued)

def assignReplacementDrive [Naming] (io : Io) (pairId : Nat) (role : DriveRole) (newPath : String) :
    Act (DrivePair × Nat) := do
  let pair ← Act.query (fun db => db.getDrivePair pairId)
  let state := (pair.roleState role).asStr
  let side := role.asStr
  Act.ensure (pair.roleState role == .failed)
    s!"Cannot assign replacement {side} drive for pair #{pairId} while it is {state}"
  ensureDriveRootMarker io newPath
  let updated ← updateRuntime pairId (forRole role .primary newPath) (forRole role .secondary newPath)
    (forRole role .primary .rebuilding) (forRole role .secondary .rebuilding) none
  let files ← Act.query (fun db => .ok (db.listTrackedFilesOfPair pairId))
  let queued ← queueRebuild (rebuildActionForRole role) files
  pure (updated,queued)

/-- The side that items of an action rebuild. -/
def rebuiltRole : SyncAction → Option DriveRole
  | .restoreMaster => some .primary
  | .restoreMirror => some .secondary
  | _ => none

/-- No item of the action is pending, in progress or failed. -/
def rebuildComplete (db : Db) (pairId : Nat) (action : SyncAction) : Bool :=
  db.countSyncQueueItemsForDrivePairAction pairId action [.pending,.inProgress,.failed] == 0

def markAllMirrored (db : Db) (files : List TrackedFile) : Db :=
  files.foldl (fun db file => db.updateTrackedFileMirrorStatus file.id true) db

def maybeFinalizeRebuildForAction (pairId : Nat) (action : SyncAction) : Act (Option DrivePair) := do
  let pair ← Act.query (fun db => db.getDrivePair pairId)
  match rebuiltRole action with
  | none => pure none
  | some role =>
    if pair.roleState role ≠ .rebuilding then pure none
    else if !(← Act.query (fun db => .ok (rebuildComplete db pairId action))) then pure none
    else
      let updated ← updateRuntime pairId none none (forRole role .primary .active)
        (forRole role .secondary .active) (forRole role .primary .primary)
      Act.execute (fun db => db.markDrivePairUnmirrored pairId)
      if updated.roleState .primary = .active ∧ updated.roleState .secondary = .active then
        Act.execute (fun db => markAllMirrored db (db.listTrackedFilesOfPair pairId))
      pure (some updated)

/-! Small facts about roles and paths. -/

namespace DrivePair

theorem isDegraded_eq_false {pair : DrivePair} (sound : pair.isDegraded = false) (role : DriveRole) :
    pair.roleState role = .active := by
  simp only [isDegraded,Bool.or_eq_false_iff,bne_eq_false_iff_eq] at sound
  cases role
  · exact sound.1
  · exact sound.2

theorem standbyAcceptsSync_state {pair : DrivePair} {disk : Disk} (accepts : pair.standbyAcceptsSync disk = true) :
    pair.roleState pair.standbyRole = .active ∨ pair.roleState pair.standbyRole = .rebuilding := by
  simp only [standbyAcceptsSync,Bool.and_eq_true,Bool.or_eq_true,beq_iff_eq] at accepts
  exact accepts.1

@[simp] theorem copyOn_withRuntime [Naming] (pair : DrivePair) (ps ss role) (side : DriveRole) (relativePath : String) :
    (pair.withRuntime none none ps ss role).copyOn side relativePath = pair.copyOn side relativePath := by
  cases side <;> rfl

@[simp] theorem copyOn_operational [Naming] (pair : DrivePair) (disk : Disk) (side : DriveRole) (relativePath : String) :
    (pair.operational disk).copyOn side relativePath = pair.copyOn side relativePath := by
  unfold operational
  split
  · exact copyOn_withRuntime _ _ _ _ _ _
  · rfl

@[simp] theorem operational_id [Naming] (pair : DrivePair) (disk : Disk) : (pair.operational disk).id = pair.id := by
  unfold operational
  split <;> rfl

end DrivePair

theorem find?_updateDrivePairRuntime {db : Db} {id : Nat} {pair : DrivePair}
    (found : db.drivePairs.find? id = some pair) (pp sp ps ss role) :
    (db.updateDrivePairRuntime id pp sp ps ss role).drivePairs.find? id =
      some (pair.withRuntime pp sp ps ss role) := by
  have same : pair.id = id := Table.find?_key found
  rw [Db.updateDrivePairRuntime,Table.find?_updateWhere,found]
  simp [same]

theorem find?_updateDrivePairRuntime_other (db : Db) {id other : Nat} (differs : other ≠ id) (pp sp ps ss role) :
    (db.updateDrivePairRuntime id pp sp ps ss role).drivePairs.find? other = db.drivePairs.find? other := by
  rw [Db.updateDrivePairRuntime,Table.find?_updateWhere]
  cases found : db.drivePairs.find? other with
  | none => rfl
  | some pair =>
    have key : pair.id = other := Table.find?_key found
    simp [key,differs]

theorem updateRuntime_run {id : Nat} {pair : DrivePair} {w : World}
    (found : w.db.drivePairs.find? id = some pair) (pp sp ps ss role) :
    updateRuntime id pp sp ps ss role w = .ok (pair.withRuntime pp sp ps ss role)
      { w with db := w.db.updateDrivePairRuntime id pp sp ps ss role } := by
  unfold updateRuntime
  rw [bind_of_ok (Act.execute_apply _ _)]
  simp only [Act.query,Db.getDrivePair,find?_updateDrivePairRuntime found]

theorem setsFlags_markAllMirrored (db : Db) (files : List TrackedFile) :
    Db.SetsFlags (fun file => file.isMirrored || files.any (fun other => other.id == file.id)) db
        (markAllMirrored db files) ∧
      (markAllMirrored db files).drivePairs = db.drivePairs := by
  induction files generalizing db with
  | nil =>
    refine ⟨?_,rfl⟩
    simp only [List.any_nil,Bool.or_false]
    exact Db.setsFlags_of_eq rfl
  | cons first files ih =>
    obtain ⟨rest,kept⟩ := ih (db.updateTrackedFileMirrorStatus first.id true)
    refine ⟨?_,kept⟩
    have both := (Db.setsFlags_updateTrackedFileMirrorStatus db first.id true).trans rest
    intro id
    refine (both id).trans ?_
    congr 1
    funext file
    by_cases same : file.id = first.id
    · simp [same]
    · have other : (first.id == file.id) = false := by simpa using Ne.symm same
      simp [same,other]

/-- The row after its rebuild is complete. -/
def DrivePair.rebuilt (pair : DrivePair) (role : DriveRole) : DrivePair :=
  pair.withRuntime none none (forRole role .primary .active) (forRole role .secondary .active)
    (forRole role .primary .primary)

/-- The rebuild that an action belongs to is over, as far as the queue says. -/
def rebuildFinishes (db : Db) (pair : DrivePair) (action : SyncAction) : Option DriveRole :=
  (rebuiltRole action).filter (fun role => pair.roleState role == .rebuilding && rebuildComplete db pair.id action)

/-- The tables with the pair's row rebuilt and no file of it flagged. -/
def Db.rebuilt (db : Db) (pair : DrivePair) (role : DriveRole) : Db :=
  (db.updateDrivePairRuntime pair.id none none (forRole role .primary .active)
    (forRole role .secondary .active) (forRole role .primary .primary)).markDrivePairUnmirrored pair.id

def Db.finalized (db : Db) (pair : DrivePair) (action : SyncAction) : Db :=
  match rebuildFinishes db pair action with
  | none => db
  | some role =>
    if (pair.rebuilt role).isDegraded then db.rebuilt pair role
    else markAllMirrored (db.rebuilt pair role) ((db.rebuilt pair role).listTrackedFilesOfPair pair.id)

theorem find?_rebuilt {db : Db} {pair : DrivePair} (found : db.drivePairs.find? pair.id = some pair)
    (role : DriveRole) : (db.rebuilt pair role).drivePairs.find? pair.id = some (pair.rebuilt role) :=
  find?_updateDrivePairRuntime found _ _ _ _ _

theorem setsFlags_rebuilt (db : Db) (pair : DrivePair) (role : DriveRole) :
    Db.SetsFlags (fun file => if file.drivePairId = pair.id then false else file.isMirrored) db
      (db.rebuilt pair role) :=
  Db.setsFlags_markDrivePairUnmirrored (db.updateDrivePairRuntime pair.id none none _ _ _) pair.id

theorem DrivePair.isDegraded_iff (pair : DrivePair) :
    pair.isDegraded = false ↔ pair.roleState .primary = .active ∧ pair.roleState .secondary = .active := by
  simp [DrivePair.isDegraded]

theorem maybeFinalizeRebuildForAction_after {pair : DrivePair} {w : World} (action : SyncAction)
    (found : w.db.drivePairs.find? pair.id = some pair) :
    after (maybeFinalizeRebuildForAction pair.id action) w =
      { w with db := w.db.finalized pair action } := by
  have read : Act.query (fun db => db.getDrivePair pair.id) w = .ok pair w := by
    simp only [Act.query,Db.getDrivePair,found]
  unfold maybeFinalizeRebuildForAction Db.finalized rebuildFinishes
  rw [after_bind_of_ok read]
  cases rebuiltRole action with
  | none => rfl
  | some role =>
    by_cases rebuilding : pair.roleState role = .rebuilding
    · cases complete : rebuildComplete w.db pair.id action with
      | false =>
        simp only [rebuilding,ne_eq,not_true_eq_false,if_false,Option.filter,beq_self_eq_true,Bool.and_false,
          Bool.false_eq_true]
        rw [after_bind_of_ok (by simp only [Act.query,complete]; rfl)]
        rfl
      | true =>
        simp only [rebuilding,ne_eq,not_true_eq_false,if_false,Option.filter,beq_self_eq_true,Bool.and_self,
          if_true]
        rw [after_bind_of_ok (by simp only [Act.query,complete]; rfl)]
        simp only [Bool.not_true,Bool.false_eq_true,if_false]
        rw [after_bind_of_ok (updateRuntime_run found _ _ _ _ _),
          after_bind_of_ok (Act.execute_apply _ _)]
        change after (if (pair.rebuilt role).roleState .primary = .active ∧
          (pair.rebuilt role).roleState .secondary = .active then _ else _) _ = _
        cases degraded : (pair.rebuilt role).isDegraded with
        | true =>
          have apart : ¬(pair.rebuilt role).isDegraded = false := by simp [degraded]
          rw [if_neg (mt (DrivePair.isDegraded_iff _).mpr apart)]
          rfl
        | false =>
          rw [if_pos ((DrivePair.isDegraded_iff _).mp degraded)]
          rfl
    · have other : (pair.roleState role == .rebuilding) = false := by simpa using rebuilding
      simp only [rebuilding,ne_eq,not_false_eq_true,if_true,Option.filter,other,Bool.false_and,
        Bool.false_eq_true,if_false]
      rfl

theorem dbKept_ensureDriveRootMarker [Naming] (io : Io) (path : String) :
    Keeps DbKept (ensureDriveRootMarker io path) := by
  refine keeps_bind (dbKept_look _) fun _ => keeps_bind (dbKept_ensure _ _) fun _ => ?_
  refine keeps_bind (dbKept_look _) fun marked => ?_
  split
  · exact keeps_bind (dbKept_ensure _ _) fun _ => dbKept_store _
  · exact keeps_pure _

theorem diskKept_updateRuntime (id pp sp ps ss role) :
    Keeps DiskKept (updateRuntime id pp sp ps ss role) :=
  keeps_bind (diskKept_execute _) fun _ => diskKept_query _

theorem diskKept_maybeFinalizeRebuildForAction (pairId : Nat) (action : SyncAction) :
    Keeps DiskKept (maybeFinalizeRebuildForAction pairId action) := by
  refine keeps_bind (diskKept_query _) fun pair => ?_
  cases rebuiltRole action with
  | none => exact keeps_pure _
  | some role =>
    dsimp only
    split
    · exact keeps_pure _
    · refine keeps_bind (diskKept_query _) fun complete => ?_
      split
      · exact keeps_pure _
      · refine keeps_bind (diskKept_updateRuntime _ _ _ _ _ _) fun updated => ?_
        refine keeps_bind (diskKept_execute _) fun _ => ?_
        split
        · exact keeps_bind (diskKept_execute _) fun _ => keeps_pure _
        · exact keeps_pure _

theorem loadOperationalPair_run [Naming] {pairId : Nat} {pair : DrivePair} {w : World}
    (found : w.db.getDrivePair pairId = .ok pair) :
    loadOperationalPair pairId w =
      .ok (pair.operational w.disk) { w with db := w.db.operational w.disk pair } := by
  have read : Act.query (fun db => db.getDrivePair pairId) w = .ok pair w := by simp only [Act.query,found]
  have row := Db.getDrivePair_ok.mp found
  have same : pair.id = pairId := Table.find?_key row
  subst same
  unfold loadOperationalPair maybeEmergencyFailover DrivePair.operational Db.operational
  rw [bind_of_ok read,bind_of_ok (Act.look_apply _ _)]
  cases emergencyFailoverDue w.disk pair with
  | false => rfl
  | true =>
    simp only [Bool.not_true,Bool.false_eq_true,if_false,if_true]
    rw [bind_of_ok (updateRuntime_run row _ _ _ _ _),bind_of_ok (Act.execute_apply _ _),
      bind_of_ok (Act.execute_apply _ _)]
    have after := find?_updateDrivePairRuntime row none none (forRole pair.activeRole .primary .failed)
      (forRole pair.activeRole .secondary .failed) (some pair.standbyRole)
    simp only [Act.query,Db.getDrivePair,Db.failPendingSyncQueueForDrivePair,Db.updateQueueWhere_drivePairs,
      Db.markDrivePairUnmirrored_drivePairs,after]
    rfl

theorem loadOperationalPair_success [Naming] {pairId : Nat} {now : DrivePair} {w t : World}
    (ok : loadOperationalPair pairId w = .ok now t) :
    ∃ pair, w.db.getDrivePair pairId = .ok pair ∧ now = pair.operational w.disk ∧
      t = { w with db := w.db.operational w.disk pair } := by
  cases read : w.db.getDrivePair pairId with
  | error message =>
    have failed : Act.query (fun db => db.getDrivePair pairId) w = .error message w := by simp only [Act.query,read]
    rw [loadOperationalPair,bind_of_error failed] at ok
    cases ok
  | ok pair =>
    rw [loadOperationalPair_run read] at ok
    cases ok
    exact ⟨pair,rfl,rfl,rfl⟩

@[simp] theorem markAllMirrored_syncQueue (db : Db) (files : List TrackedFile) :
    (markAllMirrored db files).syncQueue = db.syncQueue := by
  induction files generalizing db with
  | nil => rfl
  | cons file files ih => exact ih (db.updateTrackedFileMirrorStatus file.id true)

theorem find?_operational_other [Naming] (db : Db) (disk : Disk) (pair : DrivePair) {other : Nat} (differs : other ≠ pair.id) :
    (db.operational disk pair).drivePairs.find? other = db.drivePairs.find? other := by
  unfold Db.operational
  split
  · exact find?_updateDrivePairRuntime_other db differs _ _ _ _ _
  · rfl

theorem find?_finalized_other (db : Db) (pair : DrivePair) (action : SyncAction) {other : Nat} (differs : other ≠ pair.id) :
    (db.finalized pair action).drivePairs.find? other = db.drivePairs.find? other := by
  unfold Db.finalized
  cases rebuildFinishes db pair action with
  | none => rfl
  | some role =>
    dsimp only
    split
    · exact find?_updateDrivePairRuntime_other db differs _ _ _ _ _
    · rw [(setsFlags_markAllMirrored _ _).2]
      exact find?_updateDrivePairRuntime_other db differs _ _ _ _ _

@[simp] theorem finalized_syncQueue (db : Db) (pair : DrivePair) (action : SyncAction) :
    (db.finalized pair action).syncQueue = db.syncQueue := by
  unfold Db.finalized
  cases rebuildFinishes db pair action with
  | none => rfl
  | some role =>
    dsimp only
    split
    · rfl
    · rw [markAllMirrored_syncQueue]
      rfl

/-- A queue row after the loading of a pair: a failover takes the open rows of the pair, and no others. -/
def Db.operationalRow [Naming] (db : Db) (disk : Disk) (pair : DrivePair) (row : SyncQueueItem) : SyncQueueItem :=
  if emergencyFailoverDue disk pair && (row.status.isOpen && db.ofDrivePair pair.id row.trackedFileId) then
    { row with
      status := .failed
      errorMessage := some "drive failover required after fatal root error" }
  else row

theorem find?_operational_queue [Naming] (db : Db) (disk : Disk) (pair : DrivePair) (id : Nat) :
    (db.operational disk pair).syncQueue.find? id = (db.syncQueue.find? id).map (db.operationalRow disk pair) := by
  unfold Db.operationalRow
  unfold Db.operational
  cases due : emergencyFailoverDue disk pair with
  | false =>
    simp only [Bool.false_and,Bool.false_eq_true,if_false]
    exact Option.map_id'.symm
  | true =>
    simp only [Bool.true_and,if_true]
    rw [Db.failedOver,Db.failPendingSyncQueueForDrivePair,Db.find?_updateQueueWhere]
    simp only [(Db.setsFlags_markDrivePairUnmirrored _ pair.id).ofDrivePair]
    rfl

theorem find?_operational [Naming] {db : Db} {id : Nat} {pair : DrivePair} (found : db.getDrivePair id = .ok pair)
    (disk : Disk) : (db.operational disk pair).drivePairs.find? id = some (pair.operational disk) := by
  have row := Db.getDrivePair_ok.mp found
  have same : pair.id = id := Table.find?_key row
  subst same
  unfold Db.operational DrivePair.operational
  split
  · exact find?_updateDrivePairRuntime row _ _ _ _ _
  · exact row

end BitProtector
