import BitProtector.IntegrityRuns
import BitProtector.SyncQueue
import BitProtector.Foundation.Interleaving

/-! The operations that change a drive pair and those that flag its files, statement
by statement and interleaved, with the sides that failed and wait for a replacement. -/
namespace BitProtector.FailedSide

structure Side where
  pairId : Nat
  role : DriveRole
  deriving DecidableEq, Repr

/-- What an operation does once it has loaded its pair. -/
inductive Task
  | processItem (item : SyncQueueItem) (file : TrackedFile)
  | mirrorFile (file : TrackedFile)
  | mirrorFolder (folder : TrackedFolder)
  | checkFile (file : TrackedFile)
  | resolveQueueItem (item : SyncQueueItem) (resolution : String) (newFilePath : Option Location) (file : TrackedFile)
  | loadOnly

/-- On whose behalf a file is copied, with what its operation still has to do. -/
inductive Job
  | item (item : SyncQueueItem)
  | mirrorFile
  | mirrorFolder (folderId processed : Nat) (files : List TrackedFile)
  | recovery (result : IntegrityCheckResult)
  | integrityRun (result : IntegrityCheckResult) (later : List DrivePair) (page : Nat)
      (results : List (TrackedFile × Except String IntegrityCheckResult))
  | resolution (itemId : Nat) (resolution : String) (newFilePath : Option Location)

/-- Statements on the tables that touch neither a pair nor a mirror flag. -/
inductive Statement
  | updateSyncQueueStatus (itemId : Nat) (status : SyncStatus) (errorMessage : Option String)
  | startPendingMirrorQueue (fileId : Nat)
  | completePendingMirrorQueue (fileId : Nat)
  | failPendingMirrorQueue (fileId : Nat) (errorMessage : String)
  | failPendingSyncQueueForDrivePair (pairId : Nat) (errorMessage : String)
  | createSyncQueueItemDedup (fileId : Nat) (action : SyncAction)
  | updateMirrorProgress (folderId processed : Nat)
  | finishFolderMirror (folderId : Nat)

def Statement.run : Statement → Db → Db
  | .updateSyncQueueStatus itemId status errorMessage, db => db.updateSyncQueueStatus itemId status errorMessage
  | .startPendingMirrorQueue fileId, db => db.startPendingMirrorQueueForFile fileId
  | .completePendingMirrorQueue fileId, db => db.completePendingMirrorQueueForFile fileId
  | .failPendingMirrorQueue fileId errorMessage, db => db.failPendingMirrorQueueForFile fileId errorMessage
  | .failPendingSyncQueueForDrivePair pairId errorMessage, db =>
    db.failPendingSyncQueueForDrivePair pairId errorMessage
  | .createSyncQueueItemDedup fileId action, db => (db.createSyncQueueItemDedup fileId action).2
  | .updateMirrorProgress folderId processed, db => db.updateMirrorProgress folderId processed
  | .finishFolderMirror folderId, db => db.finishFolderMirror folderId

/-- What an operation does next. -/
inductive Phase
  | finished
  | loadPair (task : Task) (pairId : Nat)
  | checkRoots (task : Task) (pair : DrivePair)
  | failover (task : Task) (pair : DrivePair)
  | confirm (pair : DrivePair) (role : DriveRole)
  | unmirror (pairId : Nat) (next : Phase)
  | statement (statement : Statement) (next : Phase)
  | reload (task : Task) (pairId : Nat)
  | start (task : Task) (pair : DrivePair)
  | startFolderMirror (folderId : Nat) (pair : DrivePair) (files : List TrackedFile)
  | mirrorFiles (folderId : Nat) (pair : DrivePair) (processed : Nat) (files : List TrackedFile)
  | runPairs (pairs : List DrivePair)
  | listPage (pair : DrivePair) (later : List DrivePair) (page : Nat)
  | recoverFiles (pair : DrivePair) (later : List DrivePair) (page : Nat)
      (results : List (TrackedFile × Except String IntegrityCheckResult))
  | copy (job : Job) (file : TrackedFile) (pair : DrivePair)
  | flag (fileId pairId : Nat) (next : Phase)
  | finalize (pairId : Nat) (action : SyncAction)
  | countRemaining (pairId : Nat) (role : DriveRole) (action : SyncAction)
  | rebuilt (pairId : Nat) (role : DriveRole)
  | readBack (pairId : Nat)
  | listFiles (pairId : Nat)
  | flagAll (pairId : Nat) (files : List TrackedFile)
  | changeState (pair : DrivePair) (role : DriveRole) (state : DriveState) (sound : pair.roleState role ≠ .failed)
  | ensureMarker (pairId : Nat) (role : DriveRole) (newPath : String)
  | assign (pairId : Nat) (role : DriveRole) (newPath : String)
  | listRebuild (pairId : Nat) (role : DriveRole)
  | queueRebuild (action : SyncAction) (files : List TrackedFile)

/-- The calls that start an operation. -/
inductive Request
  | processItem (item : SyncQueueItem)
  | mirrorFile (fileId : Nat)
  | mirrorFolder (folderId : Nat)
  | checkFile (fileId : Nat)
  | integrityRun (scope : Option Nat)
  | resolveQueueItem (itemId : Nat) (resolution : String) (newFilePath : Option Location)
  | emergencyFailover (pairId : Nat)
  | markDriveQuiescing (pairId : Nat) (role : DriveRole)
  | cancelDriveQuiescing (pairId : Nat) (role : DriveRole)
  | confirmDriveFailure (pairId : Nat) (role : DriveRole)
  | assignReplacementDrive (pairId : Nat) (role : DriveRole) (newPath : String)

/-- What a step may ask the system, the query planner or the configuration. -/
structure Answers where
  io : Io
  tieBreak : Nat → Nat
  mmapThresholdBytes : Nat
  stopRequested : Bool

inductive Input
  | request (request : Request)
  | answers (answers : Answers)

structure Shared where
  world : World
  /-- Marked failed, and no replacement assigned since. -/
  unreplaced : List Side

inductive Event
  | disk (disk : Disk)
  | enqueue (fileId : Nat) (action : SyncAction) (reason errorMessage : Option String)
  | requeueInProgress

/-- A row that was read, or the end of the operation. -/
def withRow {α : Type} (read : Except String α) (next : α → Phase) : Phase :=
  match read with
  | .ok row => next row
  | .error _ => .finished

/-- The read of a row that a change of a side's state starts with, and its guard. -/
def changeStateFrom (db : Db) (pairId : Nat) (role : DriveRole) (current target : DriveState) : Phase :=
  withRow (db.getDrivePair pairId) fun pair =>
    if sound : pair.roleState role = current ∧ pair.roleState role ≠ .failed then .changeState pair role target sound.2
    else .finished

def opening (w : World) : Request → Phase
  | .processItem item =>
    withRow (w.db.getTrackedFile item.trackedFileId) fun file => .loadPair (.processItem item file) file.drivePairId
  | .mirrorFile fileId => withRow (w.db.getTrackedFile fileId) fun file => .loadPair (.mirrorFile file) file.drivePairId
  | .mirrorFolder folderId =>
    withRow (w.db.getTrackedFolder folderId) fun folder => .loadPair (.mirrorFolder folder) folder.drivePairId
  | .checkFile fileId => withRow (w.db.getTrackedFile fileId) fun file => .loadPair (.checkFile file) file.drivePairId
  | .integrityRun scope => withRow (scopePairs w.db scope) .runPairs
  | .resolveQueueItem itemId resolution newFilePath =>
    withRow (w.db.getSyncQueueItem itemId) fun item =>
      if item.action = .userActionRequired ∧ item.status = .pending then
        withRow (w.db.getTrackedFile item.trackedFileId) fun file =>
          .loadPair (.resolveQueueItem item resolution newFilePath file) file.drivePairId
      else .finished
  | .emergencyFailover pairId => withRow (w.db.getDrivePair pairId) fun pair => .checkRoots .loadOnly pair
  | .markDriveQuiescing pairId role => changeStateFrom w.db pairId role .active .quiescing
  | .cancelDriveQuiescing pairId role => changeStateFrom w.db pairId role .quiescing .active
  | .confirmDriveFailure pairId role =>
    withRow (w.db.getDrivePair pairId) fun pair =>
      if pair.roleState role = .quiescing ∧
          (role = pair.activeRole → w.disk.available (pair.pathForRole (pair.nextActive role)) = true) then
        .confirm pair role
      else .finished
  | .assignReplacementDrive pairId role newPath =>
    withRow (w.db.getDrivePair pairId) fun pair =>
      if pair.roleState role = .failed then .ensureMarker pairId role newPath else .finished

section
variable [Blake3]

/-- An operation goes on with the pair it has loaded. -/
def started (io : Io) (pair : DrivePair) (w : World) : Task → World × Phase
  | .processItem item file =>
    if pair.isQuiescing ∨ item.action = .userActionRequired then (w,.finished)
    else (w,.statement (.updateSyncQueueStatus item.id .inProgress none) (.copy (.item item) file pair))
  | .mirrorFile file => (w,.copy .mirrorFile file pair)
  | .mirrorFolder folder =>
    if pair.standbyAcceptsSync w.disk then
      (w,.startFolderMirror folder.id pair
        ((w.db.listTrackedFilesUnderFolder pair.id folder.folderPath).filter (fun file => !file.isMirrored)))
    else (w,.finished)
  | .checkFile file =>
    match checkFileIntegrity io pair file .streaming .streaming w with
    | .ok result t => (t,if result.status = .ok then .finished else .copy (.recovery result) file pair)
    | .error _ t => (t,.finished)
  | .resolveQueueItem item resolution newFilePath file =>
    if (item.reason == some b3SidecarMismatchReason) ≠ sidecarResolution resolution then (w,.finished)
    -- Neither of these two sets a flag.
    else if resolution = "accept_current" then (Effect.after (acceptCurrent io item file pair) w,.finished)
    else if resolution = "untrack" then (Effect.after (untrack item file) w,.finished)
    else (w,.copy (.resolution item.id resolution newFilePath) file pair)
  | .loadOnly => (w,.finished)

/-- The next file of a folder's thread. -/
def nextOfFolder (folderId processed : Nat) (pair : DrivePair) (files : List TrackedFile) : Phase :=
  .statement (.updateMirrorProgress folderId (processed + 1)) (.mirrorFiles folderId pair (processed + 1) files)

def copied (io : Io) (file : TrackedFile) (pair : DrivePair) (w : World) : Job → World × Phase
  | .item item =>
    match runAction io item.action pair file w with
    | .ok (.ok ()) t => (t,.statement (.updateSyncQueueStatus item.id .completed none)
        (if item.action.setsMirrored then .flag file.id pair.id (.finalize pair.id item.action) else .finished))
    | .ok (.error message) t => (t,.statement (.updateSyncQueueStatus item.id .failed (some message)) .finished)
    | .error _ t => (t,.finished)
  | .mirrorFile =>
    match mirrorFile io pair file.relativePath w with
    | .ok _ t => (t,.flag file.id pair.id (.statement (.completePendingMirrorQueue file.id) .finished))
    | .error _ t => (t,.finished)
  | .mirrorFolder folderId processed files =>
    match mirrorFile io pair file.relativePath w with
    | .ok _ t => (t,.flag file.id pair.id
        (.statement (.completePendingMirrorQueue file.id) (nextOfFolder folderId processed pair files)))
    | .error message t =>
      (t,.statement (.failPendingMirrorQueue file.id message) (nextOfFolder folderId processed pair files))
  | .recovery result =>
    match attemptRecovery io pair file result w with
    | .ok true t => (t,.flag file.id pair.id (.statement (.completePendingMirrorQueue file.id) .finished))
    | .ok false t | .error _ t => (t,.finished)
  | .integrityRun result later page results =>
    match attemptRecovery io pair file result w with
    | .ok true t => (t,.flag file.id pair.id
        (.statement (.completePendingMirrorQueue file.id) (.recoverFiles pair later page results)))
    | .ok false t | .error _ t => (t,.recoverFiles pair later page results)
  | .resolution itemId resolution newFilePath =>
    match resolutionCopy io file pair resolution newFilePath w with
    | .ok _ t => (t,.statement (.updateSyncQueueStatus itemId .completed none) (.flag file.id pair.id .finished))
    | .error _ t => (t,.finished)

def setRole (db : Db) (pairId : Nat) (role : DriveRole) (state : DriveState) (activeRole : Option DriveRole) : Db :=
  db.updateDrivePairRuntime pairId none none (forRole role .primary state) (forRole role .secondary state) activeRole

def advance (answers : Answers) (w : World) : Phase → Option (World × Phase)
  | .finished => none
  | .loadPair task pairId => some (w,withRow (w.db.getDrivePair pairId) (.checkRoots task))
  | .checkRoots task pair =>
    some (w,if emergencyFailoverDue w.disk pair then .failover task pair else .start task pair)
  | .failover task pair =>
    some ({ w with db := setRole w.db pair.id pair.activeRole .failed (some pair.standbyRole) },
      .unmirror pair.id (.statement (.failPendingSyncQueueForDrivePair pair.id
        "drive failover required after fatal root error") (.reload task pair.id)))
  | .confirm pair role =>
    some ({ w with db := setRole w.db pair.id role .failed (some (pair.nextActive role)) },
      .unmirror pair.id (.statement (.failPendingSyncQueueForDrivePair pair.id
        "drive replacement confirmed; rebuild required") .finished))
  | .unmirror pairId next => some ({ w with db := w.db.markDrivePairUnmirrored pairId },next)
  | .statement statement next => some ({ w with db := statement.run w.db },next)
  | .reload task pairId => some (w,withRow (w.db.getDrivePair pairId) (.start task))
  | .start task pair => some (started answers.io pair w task)
  | .startFolderMirror folderId pair files =>
    match w.db.startFolderMirror folderId files.length with
    | (.ok _,db) => some ({ w with db },.mirrorFiles folderId pair 0 files)
    | (.error _,db) => some ({ w with db },.finished)
  | .mirrorFiles folderId _ _ [] => some (w,.statement (.finishFolderMirror folderId) .finished)
  | .mirrorFiles folderId pair processed (file::files) =>
    some (w,.statement (.startPendingMirrorQueue file.id) (.copy (.mirrorFolder folderId processed files) file pair))
  | .runPairs [] => some (w,.finished)
  | .runPairs (pair::later) => some (w,.listPage pair later 1)
  | .listPage pair later page =>
    let files := w.db.listTrackedFilesOldestIntegrityFirst answers.tieBreak (some pair.id) page perPage
    if answers.stopRequested then some (w,.finished)
    else if files.isEmpty then some (w,.runPairs later)
    else
      match checkFiles answers.io answers.mmapThresholdBytes pair files w with
      | .ok results t => some (t,.recoverFiles pair later page results)
      | .error _ t => some (t,.finished)
  | .recoverFiles pair later page [] => some (w,.listPage pair later (page + 1))
  | .recoverFiles pair later page ((file,.ok result)::results) =>
    some (w,if result.status = .ok then .recoverFiles pair later page results
      else .copy (.integrityRun result later page results) file pair)
  | .recoverFiles pair later page ((_,.error _)::results) => some (w,.recoverFiles pair later page results)
  | .copy job file pair => some (copied answers.io file pair w job)
  | .flag fileId _ next => some ({ w with db := w.db.updateTrackedFileMirrorStatus fileId true },next)
  | .finalize pairId action =>
    some (w,withRow (w.db.getDrivePair pairId) fun pair =>
      match rebuiltRole action with
      | none => .finished
      | some role => if pair.roleState role = .rebuilding then .countRemaining pairId role action else .finished)
  | .countRemaining pairId role action =>
    some (w,if rebuildComplete w.db pairId action then .rebuilt pairId role else .finished)
  | .rebuilt pairId role =>
    some ({ w with db := setRole w.db pairId role .active (forRole role .primary .primary) },.readBack pairId)
  | .readBack pairId =>
    some (w,withRow (w.db.getDrivePair pairId) fun updated =>
      .unmirror pairId (if updated.isDegraded then .finished else .listFiles pairId))
  | .listFiles pairId => some (w,.flagAll pairId (w.db.listTrackedFilesOfPair pairId))
  | .flagAll _ [] => some (w,.finished)
  | .flagAll pairId (file::files) =>
    some ({ w with db := w.db.updateTrackedFileMirrorStatus file.id true },.flagAll pairId files)
  | .changeState pair role state _ => some ({ w with db := setRole w.db pair.id role state none },.finished)
  | .ensureMarker pairId role newPath =>
    match ensureDriveRootMarker answers.io newPath w with
    | .ok _ t => some (t,.assign pairId role newPath)
    | .error _ t => some (t,.finished)
  | .assign pairId role newPath =>
    let db := w.db.updateDrivePairRuntime pairId (forRole role .primary newPath) (forRole role .secondary newPath)
      (forRole role .primary .rebuilding) (forRole role .secondary .rebuilding) none
    some ({ w with db },.listRebuild pairId role)
  | .listRebuild pairId role =>
    some (w,.queueRebuild (rebuildActionForRole role) (w.db.listTrackedFilesOfPair pairId))
  | .queueRebuild _ [] => some (w,.finished)
  | .queueRebuild action (file::files) =>
    some ({ w with db := (w.db.createSyncQueueItemDedup file.id action).2 },.queueRebuild action files)

/-- The side that a step marks failed, or none. -/
def Phase.fails : Phase → Option Side
  | .failover _ pair => some ⟨pair.id,pair.activeRole⟩
  | .confirm pair role => some ⟨pair.id,role⟩
  | _ => none

/-- The sides that wait for a replacement after the step of a phase. -/
def Phase.marks (sides : List Side) : Phase → List Side
  | .failover _ pair => ⟨pair.id,pair.activeRole⟩::sides
  | .confirm pair role => ⟨pair.id,role⟩::sides
  | .assign pairId role _ => sides.filter (· ≠ ⟨pairId,role⟩)
  | _ => sides

def turn : Input → Shared → Phase → Option (Shared × Phase)
  | .request request, s, .finished => some (s,opening s.world request)
  | .request _, _, _ => none
  | .answers answers, s, phase =>
    (advance answers s.world phase).map (fun next => (⟨next.1,phase.marks s.unreplaced⟩,next.2))

def outside : Event → Shared → Shared
  | .disk disk, s => { s with world := { s.world with disk } }
  | .enqueue fileId action reason errorMessage, s => { s with world := { s.world with
      db := (s.world.db.createSyncQueueItemDedupWithCreated fileId action reason errorMessage).2 } }
  | .requeueInProgress, s => { s with world := { s.world with db := s.world.db.requeueInProgressSyncQueue } }

abbrev State := Interleaved Shared Phase

def machine : Machine State (Move Input Event) := Interleaved.machine turn outside

/-- No operation is in flight, and no side has failed yet. -/
def begin (w : World) : State := ⟨⟨w,[]⟩,fun _ => .finished⟩

end

end BitProtector.FailedSide
