import BitProtector.SyncQueue
import BitProtector.VirtualPath
import BitProtector.Foundation.Like

/-! Tracking: files and folders that a user names, the scans that find new and changed
files on the active side, and what of it goes into the sync queue. A walk over a folder
yields its regular files in some order, up to an error. -/
namespace BitProtector
open Effect

/-! Checksum sidecars. -/

namespace Sidecar

def maxSidecarBytes : Nat := 4096

def sidecarPathFor (filePath : Location) : Except String Location :=
  match fileName filePath.relativePath with
  | none => .error "File path has no terminal filename"
  | some name => .ok (withFileName filePath (name ++ ".b3".toList))

def isAsciiHexdigit (c : Char) : Bool := c.isDigit || ('a' ≤ c && c ≤ 'f') || ('A' ≤ c && c ≤ 'F')

def normalizeB3Hex (candidate : List Char) : Except String String :=
  let lowered := String.ofList (candidate.map Char.toLower)
  if lowered.utf8ByteSize ≠ 64 then .error "Invalid BLAKE3 hash length in sidecar: expected 64 hex chars"
  else if lowered.toList.all isAsciiHexdigit then .ok lowered
  else .error "Invalid BLAKE3 hash in sidecar: expected hex characters only"

/-- The first word of the first line that is not blank. -/
def firstToken (content : List Char) : Option (List Char) :=
  (((content.splitOn '\n').map VirtualPath.trim).find? (· ≠ [])).map (List.takeWhile (fun c => !VirtualPath.isWhitespace c))

/-- `fs::read_to_string`. -/
def readToString (io : Io) (path : Location) : Act String := fun w =>
  match w.disk.node path with
  | some node =>
    if io.openRead path && node.whole then
      match String.fromUTF8? ⟨node.bytes.toArray⟩ with
      | some text => .ok text w
      | none => .error "stream did not contain valid UTF-8" w
    else .error osError w
  | none => .error osError w

theorem readToString_after (io : Io) (path : Location) (w : World) : after (readToString io path) w = w := by
  unfold after readToString
  cases w.disk.node path with
  | none => rfl
  | some node =>
    cases reads : io.openRead path && node.whole with
    | false => simp only [reads,Bool.false_eq_true,if_false]
    | true =>
      simp only [reads,if_true]
      cases String.fromUTF8? ⟨node.bytes.toArray⟩ <;> rfl

def readB3Sidecar (io : Io) (filePath : Location) : Act (Option String) := do
  let sidecarPath ← Act.query (fun _ => sidecarPathFor filePath)
  if !(← Act.look (fun disk => disk.exists? sidecarPath)) then pure none
  else
    let shown := sidecarPath.display
    let size ← Act.look (fileSize sidecarPath)
    Act.ensure (decide (size ≤ maxSidecarBytes)) s!"Sidecar is too large ({size} bytes, max {maxSidecarBytes}): {shown}"
    let content ← Act.mapErr (fun _ => s!"Failed to read sidecar {shown}") (readToString io sidecarPath)
    match firstToken content.toList with
    | none => Act.bail s!"Sidecar is empty: {shown}"
    | some token => do
      let hash ← Act.query (fun _ => normalizeB3Hex token)
      pure (some hash)

end Sidecar

/-! The statements of tracking. -/

namespace Db

/-- A character of a `LIKE` pattern without `ESCAPE`. -/
def wildcard (c : Char) : Like.Symbol Char :=
  if c = '_' then .anyOne else if c = '%' then .anyRun else .literal c

def updateTrackedFileVirtualPath (db : Db) (id : Nat) (virtualPath : Option String) : Db :=
  db.updateTrackedFile id (fun file => { file with virtualPath }) (fun _ => rfl)

/-- `relative_path = rtrim(folder_path, '/') OR relative_path LIKE rtrim(folder_path, '/') || '/%'`, with
whatever wildcards the folder's path has. -/
def likeFolder (folderPath relativePath : String) : Bool :=
  relativePath.toList == stripFolderPath folderPath ||
    Like.fits (Like.sameUnder Char.toLower) ((stripFolderPath folderPath ++ ['/','%']).map wildcard) relativePath.toList

/-- A tracked folder of the pair takes the path. -/
def inTrackedFolder (db : Db) (file : TrackedFile) : Bool :=
  db.trackedFolders.rows.any (fun folder =>
    folder.drivePairId == file.drivePairId && likeFolder folder.folderPath file.relativePath)

/-! `recompute_folder_provenance_for_drive`, one update after the other. -/

def clearFolderProvenance (db : Db) (drivePairId : Nat) : Db :=
  { db with
    trackedFiles := db.trackedFiles.updateWhere (fun file => file.drivePairId == drivePairId)
      (fun file => { file with trackedViaFolder := false }) (fun _ => rfl) }

def setFolderProvenance (db : Db) (drivePairId : Nat) : Db :=
  { db with
    trackedFiles := db.trackedFiles.updateWhere
      (fun file => file.drivePairId == drivePairId && !file.trackedDirect && db.inTrackedFolder file)
      (fun file => { file with trackedViaFolder := true }) (fun _ => rfl) }

def setDirectProvenance (db : Db) (drivePairId : Nat) : Db :=
  { db with
    trackedFiles := db.trackedFiles.updateWhere
      (fun file => file.drivePairId == drivePairId && !file.trackedDirect && !file.trackedViaFolder)
      (fun file => { file with trackedDirect := true }) (fun _ => rfl) }

def recomputeFolderProvenanceForDrive (db : Db) (drivePairId : Nat) : Db :=
  ((db.clearFolderProvenance drivePairId).setFolderProvenance drivePairId).setDirectProvenance drivePairId

/-- `INSERT INTO tracked_folders`, refused by `UNIQUE(drive_pair_id, folder_path)` and by the foreign key. -/
def createTrackedFolderWithSidecars (db : Db) (drivePairId : Nat) (folderPath : String) (virtualPath : Option String)
    (includeChecksumSidecars : Bool) : Except String TrackedFolder × Db :=
  if db.trackedFolders.rows.any (fun folder =>
      folder.drivePairId == drivePairId && folder.folderPath == folderPath) then
    (.error "UNIQUE constraint failed: tracked_folders.drive_pair_id, tracked_folders.folder_path",db)
  else if (db.drivePairs.find? drivePairId).isSome then
    let row : Nat → TrackedFolder := fun id =>
      { id,drivePairId,folderPath,virtualPath,includeChecksumSidecars,scanning := false,scanScannedFiles := 0,
        scanTotalFiles := 0,mirroring := false,deleting := false,mirrorMirroredFiles := 0,mirrorTotalFiles := 0 }
    (.ok (row (db.trackedFolders.lastId + 1)),
      { db with trackedFolders := db.trackedFolders.insert row (fun _ => rfl) })
  else (.error foreignKeyConstraintFailed,db)

def deleteTrackedFolder (db : Db) (id : Nat) : Db :=
  { db with trackedFolders := db.trackedFolders.deleteWhere (fun folder => folder.id == id) }

def updateTrackedFolderVirtualPath (db : Db) (id : Nat) (virtualPath : Option String) : Db :=
  db.updateFolderWhere (fun folder => folder.id == id) (fun folder => { folder with virtualPath }) (fun _ => rfl)

def startFolderScan (db : Db) (id totalFiles : Nat) : Except String TrackedFolder × Db :=
  if db.trackedFolders.rows.any (fun folder => folder.id == id && folderIdle folder) then
    let next := db.updateFolderWhere (fun folder => folder.id == id && folderIdle folder)
      (fun folder => { folder with scanning := true,scanScannedFiles := 0,scanTotalFiles := totalFiles }) (fun _ => rfl)
    (next.getTrackedFolder id,next)
  else (.error "Folder scan already active",db)

def updateScanProgress (db : Db) (id scannedFiles : Nat) : Db :=
  db.updateFolderWhere (fun folder => folder.id == id)
    (fun folder => { folder with scanScannedFiles := scannedFiles }) (fun _ => rfl)

def finishFolderScan (db : Db) (id : Nat) : Db :=
  db.updateFolderWhere (fun folder => folder.id == id) (fun folder => { folder with scanning := false }) (fun _ => rfl)

end Db

/-! One file. -/

def ensureWorldReadable (io : Io) (path : Location) : Act Unit := do
  Act.ensure (← Act.look (fun disk => disk.exists? path)) osError
  attemptCall (io.ensureWorldReadable path)

/-- `path.metadata()?.len()`. -/
def metadataLen (path : Location) : Act Nat := do
  Act.ensure (← Act.look (fun disk => disk.exists? path)) osError
  Act.look (fileSize path)

structure SidecarMismatch where
  expectedChecksum : String
  computedChecksum : String
  deriving DecidableEq, Repr

/-- A sidecar that cannot be read or parsed is ignored. -/
def sidecarMismatch (fileChecksum : String) : Except String (Option String) → Option SidecarMismatch
  | .ok (some expected) => if expected ≠ fileChecksum then some ⟨expected,fileChecksum⟩ else none
  | .ok none => none
  | .error _ => none

/-- What the file system answers for a new link: the path in its normal form or why there is
none, and whether the link of an earlier path could be removed. -/
structure LinkAnswers where
  published : String → Except String String
  unpublished : Except String Unit

/-- The path that the links had before, in its normal form. -/
def replacesPath (previous : Option String) (normalized : String) : Bool :=
  previous.any (fun path => VirtualPath.normalizeVirtualPath path != .ok normalized)

def setVirtualPath (links : LinkAnswers) (fileId : Nat) (virtualPath : String) : Act Unit := do
  let file ← Act.query (fun db => db.getTrackedFile fileId)
  let _ ← loadOperationalPair file.drivePairId
  let normalized ← Act.query (fun _ => links.published virtualPath)
  Act.execute (fun db => db.updateTrackedFileVirtualPath fileId (some normalized))
  if replacesPath file.virtualPath normalized then Act.query (fun _ => links.unpublished)

def setFolderVirtualPath (links : LinkAnswers) (folderId : Nat) (virtualPath : String) : Act Unit := do
  let folder ← Act.query (fun db => db.getTrackedFolder folderId)
  let _ ← loadOperationalPair folder.drivePairId
  let normalized ← Act.query (fun _ => links.published virtualPath)
  Act.execute (fun db => db.updateTrackedFolderVirtualPath folderId (some normalized))
  if replacesPath folder.virtualPath normalized then Act.query (fun _ => links.unpublished)

/-- `if let Err(error) = .. { undo; return Err(error) }`. -/
def orUndo (undo : Db → Db) (x : Act Unit) : Act Unit := do
  match ← attempt x with
  | .ok _ => pure ()
  | .error message => do
    Act.execute undo
    Act.bail message

def queueB3SidecarMismatch (file : TrackedFile) (mismatch : SidecarMismatch) : Act Unit := do
  let expected := mismatch.expectedChecksum
  let computed := mismatch.computedChecksum
  let _ ← Act.insert (fun db => db.createSyncQueueItemDedupWithCreated file.id .userActionRequired
    (some b3SidecarMismatchReason) (some s!"Expected {expected} from .b3 sidecar, computed {computed}"))

section
variable [Blake3]

def createTrackedFileFromDisk (io : Io) (pair : DrivePair) (relativePath : String)
    (trackedDirect trackedViaFolder : Bool) : Act (TrackedFile × Option SidecarMismatch) := do
  let masterPath := pair.copyOn pair.activeRole relativePath
  let shown := masterPath.display
  let side := pair.activeRole.asStr
  Act.ensure (← Act.look (fun disk => disk.exists? masterPath)) s!"File does not exist on active {side} drive: {shown}"
  ensureWorldReadable io masterPath
  let fileChecksum ← Act.mapErr (fun _ => "Failed to compute file checksum") (checksumFile io masterPath .streaming)
  let sidecar ← attempt (Sidecar.readB3Sidecar io masterPath)
  let size ← metadataLen masterPath
  let file ← Act.insertOrFail (fun db =>
    db.createTrackedFileWithSource pair.id relativePath fileChecksum size none trackedDirect trackedViaFolder)
  pure (file,sidecarMismatch fileChecksum sidecar)

def publish (links : LinkAnswers) (fileId : Nat) : Option String → Act Unit
  | none => pure ()
  | some virtualPath => setVirtualPath links fileId virtualPath

def queueMismatch (file : TrackedFile) : Option SidecarMismatch → Act Unit
  | none => pure ()
  | some mismatch => queueB3SidecarMismatch file mismatch

/-- The rest of `track_file` for a file that is not tracked yet. -/
def trackNewFile (io : Io) (links : LinkAnswers) (pair : DrivePair) (relativePath : String)
    (virtualPath : Option String) : Act TrackedFile := do
  let (tracked,mismatch) ← createTrackedFileFromDisk io pair relativePath true false
  orUndo (fun db => db.deleteTrackedFile tracked.id) (publish links tracked.id virtualPath)
  orUndo (fun db => db.deleteTrackedFile tracked.id) (queueMismatch tracked mismatch)
  Act.query (fun db => db.getTrackedFile tracked.id)

def trackExistingFile (io : Io) (links : LinkAnswers) (pair : DrivePair) (existing : TrackedFile)
    (relativePath : String) (virtualPath : Option String) : Act TrackedFile := do
  ensureWorldReadable io (pair.copyOn pair.activeRole relativePath)
  Act.execute (fun db => db.updateTrackedFileSources existing.id true false)
  publish links existing.id virtualPath
  Act.query (fun db => db.getTrackedFile existing.id)

/-- `tracker::track_file`. -/
def trackFile (io : Io) (links : LinkAnswers) (pair : DrivePair) (relativePath : String) (virtualPath : Option String) :
    Act TrackedFile := do
  Act.query (fun _ => requirePairMutationAllowed pair)
  ensureDriveRootMarker io pair.activePath
  if ← Act.look (fun disk => disk.available pair.standbyPath) then
    let _ ← attempt (ensureDriveRootMarker io pair.standbyPath)
  match ← attempt (Act.query (fun db => db.getTrackedFileByPath pair.id relativePath)) with
  | .ok existing => trackExistingFile io links pair existing relativePath virtualPath
  | .error _ => trackNewFile io links pair relativePath virtualPath

/-- The end of `POST /files` and of `files track`: a new file goes into the queue. -/
def queueNewTracking (pair : DrivePair) (tracked : TrackedFile) : Act Unit := do
  if ← Act.look (fun disk => pair.standbyAcceptsSync disk) then
    if !(← Act.query (fun db => .ok (db.hasPendingSyncQueueItemWithReason tracked.id .userActionRequired
        b3SidecarMismatchReason))) then
      let _ ← Act.insert (fun db => db.createSyncQueueItemDedup tracked.id .adoptMirror)

/-- `POST /files`; `resolve` is `resolve_path_within_drive_root` below a root. -/
def trackFileRoute (io : Io) (links : LinkAnswers) (resolve : String → Except String String) (pairId : Nat)
    (virtualPath : Option String) : Act Unit := do
  let pair ← loadOperationalPair pairId
  let relativePath ← Act.query (fun _ => resolve pair.activePath)
  let existing ← attempt (Act.query (fun db => db.getTrackedFileByPath pair.id relativePath))
  let tracked ← trackFile io links pair relativePath virtualPath
  match existing with
  | .ok _ => pure ()
  | .error _ => queueNewTracking pair tracked

/-! Folders. -/

omit [Blake3] in
def publishFolder (links : LinkAnswers) (folderId : Nat) : Option String → Act Unit
  | none => pure ()
  | some virtualPath => setFolderVirtualPath links folderId virtualPath

/-- `tracker::track_folder_with_options`; `isDir` says whether the folder is there. -/
def trackFolderWithOptions (io : Io) (links : LinkAnswers) (isDir : Bool) (pair : DrivePair) (folderPath : String)
    (virtualPath : Option String) (includeChecksumSidecars : Bool) : Act TrackedFolder := do
  Act.query (fun _ => requirePairMutationAllowed pair)
  ensureDriveRootMarker io pair.activePath
  let shown := (pair.copyOn pair.activeRole folderPath).display
  Act.ensure isDir s!"Folder does not exist on active drive: {shown}"
  let tracked ← Act.insertOrFail (fun db =>
    db.createTrackedFolderWithSidecars pair.id folderPath none includeChecksumSidecars)
  orUndo (fun db => db.deleteTrackedFolder tracked.id) (publishFolder links tracked.id virtualPath)
  Act.execute (fun db => db.recomputeFolderProvenanceForDrive pair.id)
  Act.query (fun db => db.getTrackedFolder tracked.id)

/-- `POST /folders`. -/
def addFolderRoute (io : Io) (links : LinkAnswers) (resolve : String → Except String String) (isDir : Bool)
    (pairId : Nat) (virtualPath : Option String) (includeChecksumSidecars : Bool) : Act Unit := do
  let pair ← loadOperationalPair pairId
  let folderPath ← Act.query (fun _ => resolve pair.activePath)
  let _ ← trackFolderWithOptions io links isDir pair folderPath virtualPath includeChecksumSidecars

/-- What a walk over a folder meets: the regular files below it, as paths below the root, and the
error that ends it, if any. -/
structure Walk where
  files : List String
  failure : Option String

def Walk.finish (walk : Walk) : Act Unit :=
  match walk.failure with
  | none => pure ()
  | some message => Act.bail message

/-- A `.b3` file that the folder does not include. -/
def passedOver (folder : TrackedFolder) (relativePath : String) : Bool :=
  !folder.includeChecksumSidecars && ".b3".toList.isSuffixOf relativePath.toList

def Walk.countFolderFiles (walk : Walk) (folder : TrackedFolder) : Act Nat := do
  walk.finish
  pure (walk.files.filter (fun path => !passedOver folder path)).length

/-- `create_for_new_tracking`. -/
def createForNewTracking (fileId : Nat) : Act SyncQueueItem := do
  let (item,created) ← Act.insert (fun db => db.createSyncQueueItemDedupWithCreated fileId .adoptMirror none none)
  Act.ensure created s!"adopt_mirror action already pending for file #{fileId}"
  pure item

/-- `create_from_change`. -/
def createFromChange (fileId : Nat) : Act SyncQueueItem :=
  Act.insert (fun db => db.createSyncQueueItemDedup fileId .mirror)

/-- What a file that a walk has tracked gets into the queue. -/
def queueAutoTracked (pair : DrivePair) (file : TrackedFile) : Option SidecarMismatch → Act Unit
  | some mismatch => queueB3SidecarMismatch file mismatch
  | none => do
    if ← Act.look (fun disk => pair.standbyAcceptsSync disk) then
      let _ ← createForNewTracking file.id
    else Act.execute (fun db => db.updateTrackedFileMirrorStatus file.id false)

/-- A file that a walk finds untracked. -/
def autoTrackFile (io : Io) (pair : DrivePair) (relativePath : String) : Act TrackedFile := do
  let (file,mismatch) ← createTrackedFileFromDisk io pair relativePath false true
  queueAutoTracked pair file mismatch
  pure file

/-- A new checksum: the flag goes, and the copy is queued if the standby takes it now. -/
def recordChange (pair : DrivePair) (fileId : Nat) (path : Location) (newHash : String) : Act Unit := do
  let newSize ← metadataLen path
  Act.execute (fun db => db.updateTrackedFileChecksum fileId newHash newSize)
  Act.execute (fun db => db.updateTrackedFileMirrorStatus fileId false)
  if ← Act.look (fun disk => pair.standbyAcceptsSync disk) then
    let _ ← createFromChange fileId

/-- One file of `scan_tracked_folder`. -/
def scanFile (io : Io) (pair : DrivePair) (relativePath : String) : Act Unit := do
  match ← attempt (Act.query (fun db => db.getTrackedFileByPath pair.id relativePath)) with
  | .ok existing =>
    let path := pair.copyOn pair.activeRole relativePath
    let currentHash ← checksumFile io path .streaming
    if currentHash ≠ existing.checksum then recordChange pair existing.id path currentHash
  | .error _ =>
    let _ ← autoTrackFile io pair relativePath

def scanFiles (io : Io) (pair : DrivePair) (folder : TrackedFolder) : Nat → List String → Act Unit
  | _, [] => pure ()
  | scanned, path::paths =>
    if passedOver folder path then scanFiles io pair folder scanned paths
    else do
      scanFile io pair path
      Act.execute (fun db => db.updateScanProgress folder.id (scanned + 1))
      scanFiles io pair folder (scanned + 1) paths

def scanTrackedFolder (io : Io) (walk : Walk) (pair : DrivePair) (folder : TrackedFolder) : Act Unit := do
  Act.query (fun _ => requirePairMutationAllowed pair)
  scanFiles io pair folder 0 walk.files
  walk.finish
  Act.execute (fun db => db.recomputeFolderProvenanceForDrive pair.id)

/-- `POST /folders/:id/scan`, with its thread. -/
def scanFolderRoute (io : Io) (counted walk : Walk) (folderId : Nat) : Act Unit := do
  let folder ← Act.query (fun db => db.getTrackedFolder folderId)
  let _ ← loadOperationalPair folder.drivePairId
  let totalFiles ← counted.countFolderFiles folder
  let _ ← Act.insertOrFail (fun db => db.startFolderScan folder.id totalFiles)
  let _ ← attempt (do
    let folder ← Act.query (fun db => db.getTrackedFolder folderId)
    let pair ← loadOperationalPair folder.drivePairId
    scanTrackedFolder io walk pair folder)
  Act.execute (fun db => db.finishFolderScan folderId)

/-- One file of `auto_track_folder_files`, which passes over the tracked ones. -/
def autoTrackPath (io : Io) (pair : DrivePair) (path : String) : Act Unit := do
  match ← attempt (Act.query (fun db => db.getTrackedFileByPath pair.id path)) with
  | .ok _ => pure ()
  | .error _ =>
    let _ ← autoTrackFile io pair path

def autoTrackFiles (io : Io) (pair : DrivePair) (folder : TrackedFolder) : List String → Act Unit
  | [] => pure ()
  | path::paths =>
    if passedOver folder path then autoTrackFiles io pair folder paths
    else do
      autoTrackPath io pair path
      autoTrackFiles io pair folder paths

def autoTrackFolderFiles (io : Io) (walk : Walk) (pair : DrivePair) (folder : TrackedFolder) : Act Unit := do
  Act.query (fun _ => requirePairMutationAllowed pair)
  autoTrackFiles io pair folder walk.files
  walk.finish
  Act.execute (fun db => db.recomputeFolderProvenanceForDrive pair.id)

/-! Change detection. -/

def detectChange (io : Io) (path : Location) (storedChecksum : String) : Act (Option String) := do
  if !(← Act.look (fun disk => disk.exists? path)) then pure none
  else
    let current ← checksumFile io path .streaming
    if current ≠ storedChecksum then pure (some current) else pure none

/-- The changed ones among the files of a pair, with their new checksums. -/
def detectChanges (io : Io) (pair : DrivePair) : List TrackedFile → Act (List (TrackedFile × String))
  | [] => pure []
  | file::files => do
    let change ← detectChange io (pair.copyOn pair.activeRole file.relativePath) file.checksum
    let changes ← detectChanges io pair files
    pure ((change.map (fun newHash => (file,newHash))).toList ++ changes)

def scanAllChanges (io : Io) (pair : DrivePair) : Act (List (TrackedFile × String)) := do
  let files ← Act.query (fun db => .ok (db.listTrackedFilesOfPair pair.id))
  detectChanges io pair files

def recordChanges (pair : DrivePair) : List (TrackedFile × String) → Act Unit
  | [] => pure ()
  | (file,newHash)::changes => do
    recordChange pair file.id (pair.copyOn pair.activeRole file.relativePath) newHash
    recordChanges pair changes

def scanAndRecordChanges (io : Io) (pair : DrivePair) : Act Unit := do
  let changes ← scanAllChanges io pair
  recordChanges pair changes

/-- `folders scan`: new files first, then the changed ones. -/
def scanFolderCommand (io : Io) (walk : Walk) (folderId : Nat) : Act Unit := do
  let folder ← Act.query (fun db => db.getTrackedFolder folderId)
  let pair ← loadOperationalPair folder.drivePairId
  autoTrackFolderFiles io walk pair folder
  scanAndRecordChanges io pair

end

end BitProtector
