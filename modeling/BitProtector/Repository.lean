import BitProtector.Rows
import BitProtector.Foundation.FairPaging
import Mathlib.Order.WithBot

/-! The statements of the repository, as functions of the database. A method
that runs several statements in sequence is their composition; a concurrent
model takes the statements one at a time. -/
namespace BitProtector.Db

def queryReturnedNoRows : String := "Query returned no rows"

/-! Drive pairs -/

def getDrivePair (db : Db) (id : Nat) : Except String DrivePair :=
  match db.drivePairs.find? id with
  | some pair => .ok pair
  | none => .error queryReturnedNoRows

def listDrivePairs (db : Db) : List DrivePair := db.drivePairs.rows

def updateDrivePairRuntime (db : Db) (id : Nat) (primaryPath secondaryPath : Option String)
    (primaryState secondaryState : Option DriveState) (activeRole : Option DriveRole) : Db :=
  { db with
    drivePairs := db.drivePairs.updateWhere (fun pair => pair.id == id)
      (fun pair => pair.withRuntime primaryPath secondaryPath primaryState secondaryState activeRole)
      (fun pair => pair.key_withRuntime _ _ _ _ _) }

def markDrivePairUnmirrored (db : Db) (drivePairId : Nat) : Db :=
  { db with
    trackedFiles := db.trackedFiles.updateWhere (fun file => file.drivePairId == drivePairId)
      (fun file => { file with isMirrored := false }) (fun _ => rfl) }

/-! Tracked files -/

def getTrackedFile (db : Db) (id : Nat) : Except String TrackedFile :=
  match db.trackedFiles.find? id with
  | some file => .ok file
  | none => .error queryReturnedNoRows

def getTrackedFileByPath (db : Db) (drivePairId : Nat) (relativePath : String) :
    Except String TrackedFile :=
  match db.trackedFiles.rows.find? (fun file =>
      file.drivePairId == drivePairId && file.relativePath == relativePath) with
  | some file => .ok file
  | none => .error queryReturnedNoRows

/-- `INSERT INTO tracked_files`, refused by `UNIQUE(drive_pair_id, relative_path)`. -/
def createTrackedFileWithSource (db : Db) (drivePairId : Nat) (relativePath checksum : String)
    (fileSize : Nat) (virtualPath : Option String) (trackedDirect trackedViaFolder : Bool) :
    Except String TrackedFile × Db :=
  if db.trackedFiles.rows.any (fun file =>
      file.drivePairId == drivePairId && file.relativePath == relativePath) then
    (.error "UNIQUE constraint failed: tracked_files.drive_pair_id, tracked_files.relative_path",db)
  else
    let row : Nat → TrackedFile := fun id =>
      { id,drivePairId,relativePath,checksum,fileSize,virtualPath,isMirrored := false,
        trackedDirect,trackedViaFolder,lastIntegrityCheckAt := none }
    (.ok (row (db.trackedFiles.lastId + 1)),
      { db with trackedFiles := db.trackedFiles.insert row (fun _ => rfl) })

/-- `list_tracked_files` restricted to a pair, without paging: `ORDER BY id`. -/
def listTrackedFilesOfPair (db : Db) (drivePairId : Nat) : List TrackedFile :=
  db.trackedFiles.rows.filter (fun file => file.drivePairId == drivePairId)

def updateTrackedFile (db : Db) (id : Nat) (change : TrackedFile → TrackedFile)
    (keepsId : ∀ file, (change file).id = file.id) : Db :=
  { db with trackedFiles := db.trackedFiles.updateWhere (fun file => file.id == id) change keepsId }

def updateTrackedFileChecksum (db : Db) (id : Nat) (checksum : String) (fileSize : Nat) : Db :=
  db.updateTrackedFile id (fun file => { file with checksum,fileSize }) (fun _ => rfl)

def updateTrackedFileMirrorStatus (db : Db) (id : Nat) (isMirrored : Bool) : Db :=
  db.updateTrackedFile id (fun file => { file with isMirrored }) (fun _ => rfl)

def updateTrackedFileLastIntegrityCheckAt (db : Db) (id now : Nat) : Db :=
  db.updateTrackedFile id (fun file => { file with lastIntegrityCheckAt := some now }) (fun _ => rfl)

def updateTrackedFileSources (db : Db) (id : Nat) (trackedDirect trackedViaFolder : Bool) : Db :=
  db.updateTrackedFile id (fun file => { file with trackedDirect,trackedViaFolder }) (fun _ => rfl)

def countTrackedFiles (db : Db) : Option Nat → Nat
  | some id => (db.listTrackedFilesOfPair id).length
  | none => db.trackedFiles.rows.length

/-- `folder_path.trim_end_matches('/')`. -/
def stripFolderPath (folderPath : String) : List Char :=
  (folderPath.toList.reverse.dropWhile (· == '/')).reverse

/-- `relative_path = ?2 OR relative_path LIKE ?3 || '/%'`; `LIKE` ignores the case of ASCII letters. -/
def underFolder (folderPath relativePath : String) : Bool :=
  relativePath.toList == stripFolderPath folderPath ||
    ((stripFolderPath folderPath ++ ['/']).map Char.toLower).isPrefixOf (relativePath.toList.map Char.toLower)

def listTrackedFilesUnderFolder (db : Db) (drivePairId : Nat) (folderPath : String) : List TrackedFile :=
  (db.listTrackedFilesOfPair drivePairId).filter (fun file => underFolder folderPath file.relativePath)

def deleteSyncQueueOfFile (db : Db) (id : Nat) : Db :=
  { db with syncQueue := db.syncQueue.deleteWhere (fun item => item.trackedFileId == id) }

/-- `DELETE FROM tracked_files`; results of integrity runs go by `ON DELETE CASCADE`. -/
def removeTrackedFile (db : Db) (id : Nat) : Db :=
  { db with
    integrityRunResults := db.integrityRunResults.deleteWhere (fun result => result.fileId == id)
    trackedFiles := db.trackedFiles.deleteWhere (fun file => file.id == id) }

/-- The rows of `sync_queue` first, as their foreign key demands. -/
def deleteTrackedFile (db : Db) (id : Nat) : Db := (db.deleteSyncQueueOfFile id).removeTrackedFile id

def deleteFolderCascadeTx (db : Db) (folderId : Nat) (fileIds : List Nat) : Db :=
  let next := fileIds.foldl deleteTrackedFile db
  { next with trackedFolders := next.trackedFolders.deleteWhere (fun folder => folder.id == folderId) }

/-! Tracked folders -/

def getTrackedFolder (db : Db) (id : Nat) : Except String TrackedFolder :=
  match db.trackedFolders.find? id with
  | some folder => .ok folder
  | none => .error queryReturnedNoRows

def updateFolderWhere (db : Db) (p : TrackedFolder → Bool) (change : TrackedFolder → TrackedFolder)
    (keepsId : ∀ folder, (change folder).id = folder.id) : Db :=
  { db with trackedFolders := db.trackedFolders.updateWhere p change keepsId }

/-- No scan, mirror or delete of the folder is under way. -/
def folderIdle (folder : TrackedFolder) : Bool :=
  !folder.scanning && !folder.mirroring && !folder.deleting

def startFolderMirror (db : Db) (id totalFiles : Nat) : Except String TrackedFolder × Db :=
  if db.trackedFolders.rows.any (fun folder => folder.id == id && folderIdle folder) then
    let next := db.updateFolderWhere (fun folder => folder.id == id && folderIdle folder)
      (fun folder => { folder with mirroring := true,mirrorMirroredFiles := 0,mirrorTotalFiles := totalFiles })
      (fun _ => rfl)
    (next.getTrackedFolder id,next)
  else (.error "Folder mirror already active",db)

def updateMirrorProgress (db : Db) (id mirroredFiles : Nat) : Db :=
  db.updateFolderWhere (fun folder => folder.id == id)
    (fun folder => { folder with mirrorMirroredFiles := mirroredFiles }) (fun _ => rfl)

def finishFolderMirror (db : Db) (id : Nat) : Db :=
  db.updateFolderWhere (fun folder => folder.id == id)
    (fun folder => { folder with mirroring := false }) (fun _ => rfl)

/-! Integrity runs -/

def foreignKeyConstraintFailed : String := "FOREIGN KEY constraint failed"

/-- `last_integrity_check_at` as an `ORDER BY` column: `NULL` sorts first. -/
def checkedAt (file : TrackedFile) : WithBot Nat :=
  match file.lastIntegrityCheckAt with
  | none => ⊥
  | some seconds => WithBot.some seconds

/-- `list_tracked_files` of a pair, or of all pairs. -/
def trackedFilesInScope (db : Db) : Option Nat → List TrackedFile
  | some id => db.listTrackedFilesOfPair id
  | none => db.trackedFiles.rows

/-- `ORDER BY last_integrity_check_at ASC LIMIT ? OFFSET ?`; files of one time come in any order.
The count that the method returns beside the page is `countTrackedFiles`. -/
def listTrackedFilesOldestIntegrityFirst (db : Db) (tieBreak : Nat → Nat) (drivePairId : Option Nat)
    (page perPage : Nat) : List TrackedFile :=
  Paging.page perPage (page - 1) checkedAt (fun file => tieBreak file.id) (db.trackedFilesInScope drivePairId)

def getIntegrityRun (db : Db) (id : Nat) : Except String IntegrityRun :=
  match db.integrityRuns.find? id with
  | some run => .ok run
  | none => .error queryReturnedNoRows

def getActiveIntegrityRun (db : Db) : Option IntegrityRun :=
  db.integrityRuns.rows.reverse.find? (fun run => run.status == .running || run.status == .stopping)

def createIntegrityRun (db : Db) (scopeDrivePairId : Option Nat) (recover : Bool) (trigger : String)
    (totalFiles : Nat) : Except String IntegrityRun × Db :=
  if scopeDrivePairId.all (fun id => (db.drivePairs.find? id).isSome) then
    let row : Nat → IntegrityRun := fun id =>
      { id,scopeDrivePairId,recover,trigger,status := .running,totalFiles,processedFiles := 0,
        attentionFiles := 0,recoveredFiles := 0,activeWorkers := 0,stopRequested := false,errorMessage := none }
    (.ok (row (db.integrityRuns.lastId + 1)),
      { db with integrityRuns := db.integrityRuns.insert row (fun _ => rfl) })
  else (.error foreignKeyConstraintFailed,db)

def updateIntegrityRun (db : Db) (id : Nat) (change : IntegrityRun → IntegrityRun)
    (keepsId : ∀ run, (change run).id = run.id) : Db :=
  { db with integrityRuns := db.integrityRuns.updateWhere (fun run => run.id == id) change keepsId }

def setIntegrityRunActiveWorkers (db : Db) (id count : Nat) : Db :=
  db.updateIntegrityRun id (fun run => { run with activeWorkers := count }) (fun _ => rfl)

def requestIntegrityRunStop (db : Db) (id : Nat) : Db :=
  db.updateIntegrityRun id (fun run => { run with
    stopRequested := true,status := if run.status = .running then .stopping else run.status }) (fun _ => rfl)

def finishIntegrityRun (db : Db) (id : Nat) (status : RunStatus) (errorMessage : Option String) : Db :=
  db.updateIntegrityRun id (fun run => { run with status,errorMessage,activeWorkers := 0 }) (fun _ => rfl)

def incrementIntegrityRunProgress (db : Db) (id attentionDelta recoveredDelta : Nat) : Db :=
  db.updateIntegrityRun id (fun run => { run with
    processedFiles := run.processedFiles + 1
    attentionFiles := run.attentionFiles + attentionDelta
    recoveredFiles := run.recoveredFiles + recoveredDelta }) (fun _ => rfl)

/-- `INSERT INTO integrity_run_results`, refused by the foreign keys when a parent row is gone. -/
def insertIntegrityRunResult (db : Db) (runId fileId drivePairId : Nat) (relativePath status : String)
    (recovered needsAttention : Bool) : Except String Nat × Db :=
  if (db.integrityRuns.find? runId).isSome && (db.trackedFiles.find? fileId).isSome &&
      (db.drivePairs.find? drivePairId).isSome then
    let row : Nat → IntegrityRunResult := fun id =>
      { id,runId,fileId,drivePairId,relativePath,status,recovered,needsAttention }
    (.ok (db.integrityRunResults.lastId + 1),
      { db with integrityRunResults := db.integrityRunResults.insert row (fun _ => rfl) })
  else (.error foreignKeyConstraintFailed,db)

def getIntegrityRunResult (db : Db) (id : Nat) : Except String IntegrityRunResult :=
  match db.integrityRunResults.find? id with
  | some result => .ok result
  | none => .error queryReturnedNoRows

/-! Sync queue -/

def getSyncQueueItem (db : Db) (id : Nat) : Except String SyncQueueItem :=
  match db.syncQueue.find? id with
  | some item => .ok item
  | none => .error queryReturnedNoRows

def createSyncQueueItem (db : Db) (trackedFileId : Nat) (action : SyncAction)
    (reason errorMessage : Option String) : SyncQueueItem × Db :=
  let row : Nat → SyncQueueItem := fun id =>
    { id,trackedFileId,action,status := .pending,errorMessage,reason }
  (row (db.syncQueue.lastId + 1),
    { db with syncQueue := db.syncQueue.insert row (fun _ => rfl) })

/-- The row that makes the dedup insert a no-op. -/
def openSyncQueueItem (db : Db) (trackedFileId : Nat) (action : SyncAction) (reason : Option String) :
    Option SyncQueueItem :=
  db.syncQueue.rows.find? (fun item =>
    item.trackedFileId == trackedFileId && item.action == action && item.status.isOpen &&
      item.reason == reason)

def createSyncQueueItemDedupWithCreated (db : Db) (trackedFileId : Nat) (action : SyncAction)
    (reason errorMessage : Option String) : (SyncQueueItem × Bool) × Db :=
  match db.openSyncQueueItem trackedFileId action reason with
  | some item => ((item,false),db)
  | none =>
    let (item,next) := db.createSyncQueueItem trackedFileId action reason errorMessage
    ((item,true),next)

def createSyncQueueItemDedup (db : Db) (trackedFileId : Nat) (action : SyncAction) : SyncQueueItem × Db :=
  let ((item,_),next) := db.createSyncQueueItemDedupWithCreated trackedFileId action none none
  (item,next)

def hasPendingSyncQueueItemWithReason (db : Db) (trackedFileId : Nat) (action : SyncAction)
    (reason : String) : Bool :=
  db.syncQueue.rows.any (fun item =>
    item.trackedFileId == trackedFileId && item.action == action && item.reason == some reason &&
      item.status.isOpen)

def updateQueueWhere (db : Db) (p : SyncQueueItem → Bool) (status : SyncStatus)
    (errorMessage : Option String) : Db :=
  { db with
    syncQueue := db.syncQueue.updateWhere p (fun item => { item with status,errorMessage })
      (fun _ => rfl) }

def updateSyncQueueStatus (db : Db) (id : Nat) (status : SyncStatus) (errorMessage : Option String) : Db :=
  db.updateQueueWhere (fun item => item.id == id) status errorMessage

def requeueInProgressSyncQueue (db : Db) : Db :=
  db.updateQueueWhere (fun item => item.status == .inProgress) .pending none

def completePendingMirrorQueueForFile (db : Db) (trackedFileId : Nat) : Db :=
  db.updateQueueWhere (fun item =>
    item.trackedFileId == trackedFileId && item.action.isMirroring && item.status.isOpen) .completed none

def startPendingMirrorQueueForFile (db : Db) (trackedFileId : Nat) : Db :=
  db.updateQueueWhere (fun item =>
    item.trackedFileId == trackedFileId && item.action.isMirroring && item.status == .pending)
    .inProgress none

def failPendingMirrorQueueForFile (db : Db) (trackedFileId : Nat) (errorMessage : String) : Db :=
  db.updateQueueWhere (fun item =>
    item.trackedFileId == trackedFileId && item.action.isMirroring && item.status.isOpen)
    .failed (some errorMessage)

/-- `tracked_file_id IN (SELECT id FROM tracked_files WHERE drive_pair_id=?)`. -/
def ofDrivePair (db : Db) (drivePairId trackedFileId : Nat) : Bool :=
  (db.listTrackedFilesOfPair drivePairId).any (fun file => file.id == trackedFileId)

def failPendingSyncQueueForDrivePair (db : Db) (drivePairId : Nat) (errorMessage : String) : Db :=
  db.updateQueueWhere (fun item => item.status.isOpen && db.ofDrivePair drivePairId item.trackedFileId)
    .failed (some errorMessage)

def pendingSyncQueue (db : Db) : List SyncQueueItem := db.syncQueue.rows.filter (fun item => item.status == .pending)

/-- `COALESCE(tf.drive_pair_id, 0)`. -/
def queueDrivePairId (db : Db) (item : SyncQueueItem) : Nat :=
  ((db.trackedFiles.find? item.trackedFileId).map TrackedFile.drivePairId).getD 0

/-- The pending items with their pairs, `ORDER BY pair_rank, id LIMIT ?`. -/
def listPendingSyncQueueWithDrivePair (db : Db) (limit : Nat) : List (Nat × SyncQueueItem) :=
  (FairPaging.page db.queueDrivePairId SyncQueueItem.id limit db.pendingSyncQueue).map
    (fun item => (db.queueDrivePairId item,item))

def countSyncQueueItemsForDrivePairAction (db : Db) (drivePairId : Nat) (action : SyncAction)
    (statuses : List SyncStatus) : Nat :=
  (db.syncQueue.rows.filter (fun item =>
    item.action == action && db.ofDrivePair drivePairId item.trackedFileId &&
      (statuses.isEmpty || statuses.contains item.status))).length

/-! The sync-processing lock -/

/-- One atomic attempt: whether the lock was taken, and the database after it. -/
def tryAcquireSyncProcessingLock (db : Db) (now pid : Nat) (processIsAlive : Nat → Bool) (staleAfterSecs : Nat) :
    Bool × Db :=
  let heldByDeadProcess := db.syncSettings.processingLockedByPid.any (fun holder => !processIsAlive holder)
  let lapsed := db.syncSettings.processingLockedAt.all (fun lockedAt => lockedAt + staleAfterSecs ≤ now)
  if lapsed || heldByDeadProcess then
    (true,{ db with
      syncSettings := { db.syncSettings with processingLockedAt := some now,processingLockedByPid := some pid } })
  else (false,db)

def heartbeatSyncProcessingLock (db : Db) (now : Nat) : Db :=
  { db with syncSettings := { db.syncSettings with processingLockedAt := some now } }

def releaseSyncProcessingLock (db : Db) : Db :=
  { db with syncSettings := { db.syncSettings with processingLockedAt := none,processingLockedByPid := none } }

/-! Small facts: which tables a statement leaves alone, and what it does to a row. -/

@[simp] theorem updateDrivePairRuntime_trackedFiles (db : Db) (id pp sp ps ss role) :
    (db.updateDrivePairRuntime id pp sp ps ss role).trackedFiles = db.trackedFiles := rfl

theorem updateDrivePairRuntime_split (db : Db) (id : Nat) (primaryState secondaryState : Option DriveState)
    (activeRole : Option DriveRole) :
    (db.updateDrivePairRuntime id none none primaryState secondaryState none).updateDrivePairRuntime id none none none
      none activeRole = db.updateDrivePairRuntime id none none primaryState secondaryState activeRole := by
  unfold updateDrivePairRuntime
  congr 1
  unfold Table.updateWhere
  congr 1
  rw [List.map_map]
  apply List.map_congr_left
  intro pair _
  simp only [Function.comp_apply]
  by_cases same : pair.id = id
  · simp [same,DrivePair.withRuntime]
  · simp [same]

@[simp] theorem markDrivePairUnmirrored_drivePairs (db : Db) (id : Nat) :
    (db.markDrivePairUnmirrored id).drivePairs = db.drivePairs := rfl

@[simp] theorem updateTrackedFile_syncQueue (db : Db) (id change keepsId) :
    (db.updateTrackedFile id change keepsId).syncQueue = db.syncQueue := rfl

@[simp] theorem updateQueueWhere_drivePairs (db : Db) (p status message) :
    (db.updateQueueWhere p status message).drivePairs = db.drivePairs := rfl

@[simp] theorem tryAcquire_syncQueue (db : Db) (now pid : Nat) (processIsAlive : Nat → Bool)
    (staleAfterSecs : Nat) :
    (db.tryAcquireSyncProcessingLock now pid processIsAlive staleAfterSecs).2.syncQueue = db.syncQueue := by
  unfold tryAcquireSyncProcessingLock
  dsimp only
  split <;> rfl

theorem tryAcquire_refused {db : Db} {now holder lockedAt staleAfterSecs : Nat} (pid : Nat)
    (processIsAlive : Nat → Bool) (locked : db.syncSettings.processingLockedAt = some lockedAt)
    (held : db.syncSettings.processingLockedByPid = some holder) (alive : processIsAlive holder = true)
    (fresh : now < lockedAt + staleAfterSecs) :
    db.tryAcquireSyncProcessingLock now pid processIsAlive staleAfterSecs = (false,db) := by
  simp [tryAcquireSyncProcessingLock,locked,held,alive,Nat.not_le.mpr fresh]

theorem tryAcquire_lapsed {db : Db} {now lockedAt staleAfterSecs : Nat} (pid : Nat) (processIsAlive : Nat → Bool)
    (locked : db.syncSettings.processingLockedAt = some lockedAt) (stale : lockedAt + staleAfterSecs ≤ now) :
    (db.tryAcquireSyncProcessingLock now pid processIsAlive staleAfterSecs).1 = true := by
  simp [tryAcquireSyncProcessingLock,locked,stale]

theorem tryAcquire_taken {db : Db} {now pid staleAfterSecs : Nat} {processIsAlive : Nat → Bool}
    (taken : (db.tryAcquireSyncProcessingLock now pid processIsAlive staleAfterSecs).1 = true) :
    let next := (db.tryAcquireSyncProcessingLock now pid processIsAlive staleAfterSecs).2
    next.syncSettings.processingLockedAt = some now ∧ next.syncSettings.processingLockedByPid = some pid := by
  unfold tryAcquireSyncProcessingLock at taken ⊢
  dsimp only at taken ⊢
  split at taken
  · rename_i free
    rw [if_pos free]
    exact ⟨rfl,rfl⟩
  · cases taken

theorem createSyncQueueItemDedupWithCreated_frame (db : Db) (trackedFileId : Nat) (action : SyncAction)
    (reason errorMessage : Option String) :
    let next := (db.createSyncQueueItemDedupWithCreated trackedFileId action reason errorMessage).2
    next.drivePairs = db.drivePairs ∧ next.trackedFiles = db.trackedFiles := by
  unfold createSyncQueueItemDedupWithCreated
  cases db.openSyncQueueItem trackedFileId action reason <;> exact ⟨rfl,rfl⟩

theorem startFolderMirror_frame (db : Db) (id totalFiles : Nat) :
    (db.startFolderMirror id totalFiles).2.drivePairs = db.drivePairs ∧
      (db.startFolderMirror id totalFiles).2.trackedFiles = db.trackedFiles := by
  unfold startFolderMirror
  split <;> exact ⟨rfl,rfl⟩

theorem getDrivePair_ok {db : Db} {id : Nat} {pair : DrivePair} :
    db.getDrivePair id = .ok pair ↔ db.drivePairs.find? id = some pair := by
  unfold getDrivePair
  cases db.drivePairs.find? id <;> simp

theorem getTrackedFile_ok {db : Db} {id : Nat} {file : TrackedFile} :
    db.getTrackedFile id = .ok file ↔ db.trackedFiles.find? id = some file := by
  unfold getTrackedFile
  cases db.trackedFiles.find? id <;> simp

theorem getSyncQueueItem_ok {db : Db} {id : Nat} {item : SyncQueueItem} :
    db.getSyncQueueItem id = .ok item ↔ db.syncQueue.find? id = some item := by
  unfold getSyncQueueItem
  cases db.syncQueue.find? id <;> simp

theorem find?_of_getTrackedFile {db : Db} {id : Nat} {file : TrackedFile} (found : db.getTrackedFile id = .ok file) :
    db.trackedFiles.find? file.id = some file := by
  have row := getTrackedFile_ok.mp found
  rwa [← show file.id = id from Table.find?_key row] at row

theorem find?_updateTrackedFile (db : Db) (id other : Nat) (change keepsId) :
    (db.updateTrackedFile id change keepsId).trackedFiles.find? other =
      (db.trackedFiles.find? other).map (fun file => if other = id then change file else file) := by
  rw [updateTrackedFile,Table.find?_updateWhere]
  cases found : db.trackedFiles.find? other with
  | none => rfl
  | some file =>
    have same : file.id = other := Table.find?_key found
    simp [same]

theorem find?_markDrivePairUnmirrored (db : Db) (pairId other : Nat) :
    (db.markDrivePairUnmirrored pairId).trackedFiles.find? other =
      (db.trackedFiles.find? other).map (fun file =>
        if file.drivePairId = pairId then { file with isMirrored := false } else file) := by
  rw [markDrivePairUnmirrored,Table.find?_updateWhere]
  simp

theorem find?_updateQueueWhere (db : Db) (p : SyncQueueItem → Bool) (status : SyncStatus) (errorMessage : Option String)
    (id : Nat) : (db.updateQueueWhere p status errorMessage).syncQueue.find? id =
      (db.syncQueue.find? id).map (fun item => if p item then { item with status,errorMessage } else item) := by
  rw [updateQueueWhere,Table.find?_updateWhere]

theorem find?_updateSyncQueueStatus (db : Db) (id other : Nat) (status : SyncStatus) (errorMessage : Option String) :
    (db.updateSyncQueueStatus id status errorMessage).syncQueue.find? other =
      (db.syncQueue.find? other).map (fun item => if other = id then { item with status,errorMessage } else item) := by
  rw [updateSyncQueueStatus,find?_updateQueueWhere]
  cases found : db.syncQueue.find? other with
  | none => rfl
  | some item =>
    have same : item.id = other := Table.find?_key found
    simp [same]

theorem mem_pendingSyncQueue {db : Db} {item : SyncQueueItem} :
    item ∈ db.pendingSyncQueue ↔ db.syncQueue.find? item.id = some item ∧ item.status = .pending := by
  rw [pendingSyncQueue,List.mem_filter,beq_iff_eq]
  constructor
  · rintro ⟨member,pending⟩
    exact ⟨Table.find?_of_mem _ member,pending⟩
  · rintro ⟨found,pending⟩
    exact ⟨Table.mem_of_find? found,pending⟩

theorem pendingSyncQueue_distinct (db : Db) : (db.pendingSyncQueue.map SyncQueueItem.id).Nodup := by
  have ascending : (db.pendingSyncQueue.map SyncQueueItem.id).Pairwise (· < ·) := by
    rw [List.pairwise_map]
    exact db.syncQueue.ascending.filter _
  exact ascending.imp Nat.ne_of_lt

/-! Changes of the mirror flag alone. -/

/-- From `db` to `next` the rows of `tracked_files` keep everything but their mirror
flag, which becomes `flag` of the row. -/
def SetsFlags (flag : TrackedFile → Bool) (db next : Db) : Prop :=
  ∀ id, next.trackedFiles.find? id = (db.trackedFiles.find? id).map (fun file => { file with isMirrored := flag file })

theorem setsFlags_of_eq {db next : Db} (same : next.trackedFiles = db.trackedFiles) :
    SetsFlags (fun file => file.isMirrored) db next := by
  intro id
  rw [same]
  cases db.trackedFiles.find? id <;> rfl

theorem SetsFlags.trans {first second : TrackedFile → Bool} {a b c : Db} (ab : SetsFlags first a b)
    (bc : SetsFlags second b c) :
    SetsFlags (fun file => second { file with isMirrored := first file }) a c := by
  intro id
  rw [bc id,ab id,Option.map_map]
  rfl

theorem setsFlags_markDrivePairUnmirrored (db : Db) (pairId : Nat) :
    SetsFlags (fun file => if file.drivePairId = pairId then false else file.isMirrored) db
      (db.markDrivePairUnmirrored pairId) := by
  intro id
  rw [find?_markDrivePairUnmirrored]
  congr 1
  funext file
  by_cases member : file.drivePairId = pairId <;> simp [member]

theorem setsFlags_updateTrackedFileMirrorStatus (db : Db) (id : Nat) (isMirrored : Bool) :
    SetsFlags (fun file => if file.id = id then isMirrored else file.isMirrored) db
      (db.updateTrackedFileMirrorStatus id isMirrored) := by
  intro other
  rw [updateTrackedFileMirrorStatus,find?_updateTrackedFile]
  cases found : db.trackedFiles.find? other with
  | none => rfl
  | some file =>
    have same : file.id = other := Table.find?_key found
    subst same
    by_cases hit : file.id = id <;> simp [hit]

theorem mem_listTrackedFilesOfPair {db : Db} {pairId : Nat} {file : TrackedFile} :
    file ∈ db.listTrackedFilesOfPair pairId ↔
      db.trackedFiles.find? file.id = some file ∧ file.drivePairId = pairId := by
  rw [listTrackedFilesOfPair,List.mem_filter,beq_iff_eq]
  constructor
  · rintro ⟨member,same⟩
    exact ⟨Table.find?_of_mem _ member,same⟩
  · rintro ⟨found,same⟩
    exact ⟨Table.mem_of_find? found,same⟩

theorem ofDrivePair_iff {db : Db} {pairId fileId : Nat} :
    db.ofDrivePair pairId fileId = true ↔ ∃ file, db.trackedFiles.find? fileId = some file ∧ file.drivePairId = pairId := by
  simp only [ofDrivePair,List.any_eq_true,beq_iff_eq]
  constructor
  · rintro ⟨file,listed,rfl⟩
    obtain ⟨found,same⟩ := mem_listTrackedFilesOfPair.mp listed
    exact ⟨file,found,same⟩
  · rintro ⟨file,found,same⟩
    have key : file.id = fileId := Table.find?_key found
    exact ⟨file,mem_listTrackedFilesOfPair.mpr ⟨key ▸ found,same⟩,key⟩

theorem SetsFlags.ofDrivePair {flag : TrackedFile → Bool} {db next : Db} (flags : SetsFlags flag db next)
    (pairId fileId : Nat) : next.ofDrivePair pairId fileId = db.ofDrivePair pairId fileId := by
  rw [Bool.eq_iff_iff,ofDrivePair_iff,ofDrivePair_iff,flags fileId]
  cases db.trackedFiles.find? fileId <;> simp

end BitProtector.Db
