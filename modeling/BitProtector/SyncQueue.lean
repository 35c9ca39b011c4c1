import BitProtector.Integrity

/-! One item of the sync queue through the worker, the resolution of an item that
waits for the user, and the routes that mirror a file or a folder at once. -/
namespace BitProtector
open Effect

def b3SidecarMismatchReason : String := "b3_sidecar_mismatch"

/-- The actions whose completion sets the mirror flag. -/
def SyncAction.setsMirrored : SyncAction → Bool
  | .mirror | .adoptMirror | .restoreMaster | .restoreMirror => true
  | _ => false

theorem SyncAction.setsMirrored_eq (action : SyncAction) :
    action.setsMirrored = (action.isMirroring || (rebuiltRole action).isSome) := by
  cases action <;> rfl

theorem rebuiltRole_of_isMirroring {action : SyncAction} (mirroring : action.isMirroring = true) :
    rebuiltRole action = none := by
  cases action with
  | mirror => rfl
  | adoptMirror => rfl
  | restoreMaster => cases mirroring
  | restoreMirror => cases mirroring
  | verify => cases mirroring
  | userActionRequired => cases mirroring
  | other text => cases mirroring

theorem isMirroring_of_rebuiltRole {action : SyncAction} {role : DriveRole} (restores : rebuiltRole action = some role) :
    action.isMirroring = false := by
  cases mirroring : action.isMirroring with
  | false => rfl
  | true =>
    rw [rebuiltRole_of_isMirroring mirroring] at restores
    cases restores

section
variable [Naming] [Blake3]

/-- `adopt_mirror`: a standby copy with the recorded checksum is taken as it is.
Its errors leave `process_item` at once. -/
def adoptMirror (io : Io) (pair : DrivePair) (file : TrackedFile) : Act Unit := do
  let standby := pair.copyOn pair.standbyRole file.relativePath
  if ← Act.look (fun disk => disk.available pair.standbyPath && disk.exists? standby) then
    let standbyChecksum ← Act.mapErr (fun _ => "Failed to checksum standby file")
      (checksumFile io standby .streaming)
    if standbyChecksum ≠ file.checksum then
      let _ ← mirrorFile io pair file.relativePath
  else
    let _ ← mirrorFile io pair file.relativePath

/-- The `match item.action`: its value is the `result` that is matched next. -/
def runAction (io : Io) (action : SyncAction) (pair : DrivePair) (file : TrackedFile) : Act (Except String Unit) :=
  match action with
  | .mirror => attempt (do let _ ← mirrorFile io pair file.relativePath)
  | .adoptMirror => do
    adoptMirror io pair file
    pure (.ok ())
  | .restoreMaster => attempt (restoreFromMirror io pair file.relativePath file.checksum)
  | .restoreMirror => attempt (restoreMirrorFromMaster io pair file.relativePath file.checksum)
  | .verify => do
    let result ← checkFileIntegrity io pair file .streaming .streaming
    if result.status = .ok then pure (.ok ()) else Act.bail "Integrity check failed"
  | other => Act.bail ("Unknown action: " ++ other.asStr)

theorem runAction_mirror (io : Io) (pair : DrivePair) (file : TrackedFile) :
    runAction io .mirror pair file = attempt (do let _ ← mirrorFile io pair file.relativePath) := rfl

theorem runAction_adoptMirror (io : Io) (pair : DrivePair) (file : TrackedFile) :
    runAction io .adoptMirror pair file = (do adoptMirror io pair file; pure (.ok ())) := rfl

def finishItem (item : SyncQueueItem) (file : TrackedFile) (pair : DrivePair) : Except String Unit → Act Unit
  | .ok () => do
    Act.execute (fun db => db.updateSyncQueueStatus item.id .completed none)
    if item.action.setsMirrored then
      Act.execute (fun db => db.updateTrackedFileMirrorStatus file.id true)
      let _ ← attempt (maybeFinalizeRebuildForAction pair.id item.action)
  | .error message => Act.execute (fun db => db.updateSyncQueueStatus item.id .failed (some message))

def processItem (io : Io) (item : SyncQueueItem) : Act Unit := do
  let file ← Act.query (fun db => db.getTrackedFile item.trackedFileId)
  let pair ← loadOperationalPair file.drivePairId
  if pair.isQuiescing then pure ()
  else if item.action = .userActionRequired then pure ()
  else
    Act.execute (fun db => db.updateSyncQueueStatus item.id .inProgress none)
    let result ← runAction io item.action pair file
    finishItem item file pair result

/-! Resolving an item that waits for the user. -/

/-- `Path::file_name`, as characters. -/
def fileName (relativePath : String) : Option (List Char) :=
  let name := ((stripFolder relativePath).reverse.takeWhile (· ≠ '/')).reverse
  if name = [] ∨ name = ['.','.'] then none else some name
where
  stripFolder (path : String) : List Char := (path.toList.reverse.dropWhile (· == '/')).reverse

/-- `with_file_name`, of the text below a root. -/
def renamedTo (relativePath : String) (name : List Char) : String :=
  let parent := (relativePath.toList.reverse.dropWhile (· ≠ '/')).reverse
  String.ofList (parent ++ name)

def withFileName (path : Location) (name : List Char) : Location := ⟨path.root,renamedTo path.relativePath name⟩

/-- Where `accept_current` writes the sidecar. -/
def acceptedSidecar (pair : DrivePair) (relativePath : String) (name : List Char) : Location :=
  Naming.place pair.primaryPath (renamedTo relativePath (name ++ ".b3".toList))

/-- `std::fs::copy`. -/
def fsCopy (io : Io) (src dst : Location) : Act Unit := do
  openFile io src
  createFile io dst
  attemptCall (io.copyPermissions dst)
  let size ← Act.look (fileSize src)
  let _ ← copyLoop io src dst (size + 1) 0 [] []

def acceptCurrent (io : Io) (item : SyncQueueItem) (file : TrackedFile) (pair : DrivePair) : Act SyncQueueItem := do
  match fileName file.relativePath with
  | none => Act.bail "Unable to determine filename for sidecar write"
  | some name =>
    let sidecar := acceptedSidecar pair file.relativePath name
    let shown := String.ofList name
    attemptCall (io.writeFile sidecar)
    Act.store (fun disk => disk.write sidecar (s!"{file.checksum}  {shown}\n".toUTF8.toList))
    Act.execute (fun db => db.updateSyncQueueStatus item.id .completed none)
    let _ ← Act.insert (fun db => db.createSyncQueueItemDedup file.id .adoptMirror)
    Act.query (fun db => db.getSyncQueueItem item.id)

def untrack (item : SyncQueueItem) (file : TrackedFile) : Act SyncQueueItem := do
  Act.execute (fun db => db.updateSyncQueueStatus item.id .completed none)
  let resolved ← Act.query (fun db => db.getSyncQueueItem item.id)
  Act.execute (fun db => db.deleteTrackedFile file.id)
  pure resolved

def provideNew (io : Io) (file : TrackedFile) (pair : DrivePair) : Option Location → Act Unit
  | none => Act.bail "new_file_path is required for 'provide_new'"
  | some src => do
    let shown := src.display
    let master := pair.copyOn .primary file.relativePath
    let mirror := pair.copyOn .secondary file.relativePath
    Act.ensure (← Act.look (fun disk => disk.exists? src)) s!"provided path does not exist: {shown}"
    Act.ensure (io.isFile src) s!"provided path is not a regular file: {shown}"
    createParentDirs io master
    createParentDirs io mirror
    fsCopy io src master
    fsCopy io src mirror

/-- The copies of the resolutions that end in a completed, mirrored file. -/
def resolutionCopy (io : Io) (file : TrackedFile) (pair : DrivePair) (resolution : String)
    (newFilePath : Option Location) : Act Unit :=
  match resolution with
  | "keep_master" => restoreMirrorFromMaster io pair file.relativePath file.checksum
  | "keep_mirror" => restoreFromMirror io pair file.relativePath file.checksum
  | "provide_new" => provideNew io file pair newFilePath
  | other => Act.bail s!"Unknown resolution '{other}'; expected keep_master, keep_mirror, provide_new, accept_current, or untrack"

def sidecarResolution (resolution : String) : Bool :=
  resolution == "accept_current" || resolution == "untrack"

def resolveQueueItem (io : Io) (itemId : Nat) (resolution : String) (newFilePath : Option Location) :
    Act SyncQueueItem := do
  let item ← Act.query (fun db => db.getSyncQueueItem itemId)
  let action := item.action.asStr
  let status := item.status.asStr
  Act.ensure (item.action == .userActionRequired)
    s!"Queue item #{itemId} has action '{action}'; only 'user_action_required' items can be resolved"
  Act.ensure (item.status == .pending)
    s!"Queue item #{itemId} has status '{status}'; only 'pending' items can be resolved"
  let file ← Act.query (fun db => db.getTrackedFile item.trackedFileId)
  let pair ← loadOperationalPair file.drivePairId
  let sidecarMismatch := item.reason == some b3SidecarMismatchReason
  Act.ensure (!(sidecarMismatch && !sidecarResolution resolution))
    s!"Reason '{b3SidecarMismatchReason}' requires 'accept_current' or 'untrack'"
  Act.ensure (!(!sidecarMismatch && sidecarResolution resolution))
    s!"Resolution '{resolution}' is only valid when reason is '{b3SidecarMismatchReason}'"
  if resolution = "accept_current" then acceptCurrent io item file pair
  else if resolution = "untrack" then untrack item file
  else
    resolutionCopy io file pair resolution newFilePath
    Act.execute (fun db => db.updateSyncQueueStatus itemId .completed none)
    Act.execute (fun db => db.updateTrackedFileMirrorStatus file.id true)
    Act.query (fun db => db.getSyncQueueItem itemId)

/-! The immediate mirror routes. -/

/-- `POST /files/:id/mirror`. -/
def mirrorFileRoute (io : Io) (id : Nat) : Act Unit := do
  let file ← Act.query (fun db => db.getTrackedFile id)
  let pair ← loadOperationalPair file.drivePairId
  let _ ← mirrorFile io pair file.relativePath
  Act.execute (fun db => db.updateTrackedFileMirrorStatus id true)
  Act.execute (fun db => db.completePendingMirrorQueueForFile id)

/-- One file in the thread of a folder mirror. -/
def mirrorFolderFile (io : Io) (pair : DrivePair) (file : TrackedFile) : Act Unit := do
  Act.execute (fun db => db.startPendingMirrorQueueForFile file.id)
  match ← attempt (mirrorFile io pair file.relativePath) with
  | .ok _ =>
    Act.execute (fun db => db.updateTrackedFileMirrorStatus file.id true)
    Act.execute (fun db => db.completePendingMirrorQueueForFile file.id)
  | .error message => Act.execute (fun db => db.failPendingMirrorQueueForFile file.id message)

def mirrorFolderFiles (io : Io) (pair : DrivePair) (folderId : Nat) : Nat → List TrackedFile → Act Unit
  | _, [] => pure ()
  | processed, file::files => do
    mirrorFolderFile io pair file
    Act.execute (fun db => db.updateMirrorProgress folderId (processed + 1))
    mirrorFolderFiles io pair folderId (processed + 1) files

/-- What `POST /folders/:id/mirror` does before it starts its thread. -/
def startMirrorFolder (folderId : Nat) : Act (DrivePair × List TrackedFile) := do
  let folder ← Act.query (fun db => db.getTrackedFolder folderId)
  let pair ← loadOperationalPair folder.drivePairId
  Act.ensure (← Act.look (fun disk => pair.standbyAcceptsSync disk))
    "Standby drive is not currently available for mirroring"
  let files ← Act.query (fun db => .ok (db.listTrackedFilesUnderFolder pair.id folder.folderPath))
  let queuedFiles := files.filter (fun file => !file.isMirrored)
  let _ ← Act.insertOrFail (fun db => db.startFolderMirror folder.id queuedFiles.length)
  pure (pair,queuedFiles)

/-- `POST /folders/:id/mirror`, with its thread. -/
def mirrorFolder (io : Io) (folderId : Nat) : Act Unit := do
  let (pair,queuedFiles) ← startMirrorFolder folderId
  mirrorFolderFiles io pair folderId 0 queuedFiles
  Act.execute (fun db => db.finishFolderMirror folderId)

/-- One file of the command that mirrors a folder; the command for one file does the same. -/
def mirrorCommandFile (io : Io) (pair : DrivePair) (file : TrackedFile) : Act Unit := do
  let _ ← mirrorFile io pair file.relativePath
  Act.execute (fun db => db.updateTrackedFileMirrorStatus file.id true)
  Act.execute (fun db => db.completePendingMirrorQueueForFile file.id)

def mirrorCommandFiles (io : Io) (pair : DrivePair) : List TrackedFile → Act Unit
  | [] => pure ()
  | file::files => do
    mirrorCommandFile io pair file
    mirrorCommandFiles io pair files

/-- What the command does before it copies. -/
def listMirrorFolder (folder : TrackedFolder) (pair : DrivePair) : Act (List TrackedFile) := do
  Act.ensure (← Act.look (fun disk => pair.standbyAcceptsSync disk))
    "Standby drive is not currently available for mirroring"
  let files ← Act.query (fun db => .ok (db.listTrackedFilesUnderFolder pair.id folder.folderPath))
  pure (files.filter (fun file => !file.isMirrored))

/-- `folders mirror`. -/
def mirrorFolderCommand (io : Io) (folderId : Nat) : Act Unit := do
  let folder ← Act.query (fun db => db.getTrackedFolder folderId)
  let pair ← loadOperationalPair folder.drivePairId
  let files ← listMirrorFolder folder pair
  mirrorCommandFiles io pair files

/-! Copies leave the tables alone. -/

theorem dbKept_checkFileIntegrity (io : Io) (pair : DrivePair) (file : TrackedFile)
    (masterStrategy mirrorStrategy : ChecksumStrategy) :
    Keeps DbKept (checkFileIntegrity io pair file masterStrategy mirrorStrategy) := by
  intro w
  rw [checkFileIntegrity_after]
  exact refl_of DbKept w

theorem dbKept_adoptMirror (io : Io) (pair : DrivePair) (file : TrackedFile) :
    Keeps DbKept (adoptMirror io pair file) := by
  have copies : Keeps DbKept (do let _ ← mirrorFile io pair file.relativePath; pure PUnit.unit) :=
    keeps_bind (dbKept_mirrorFile _ _ _) fun _ => keeps_pure _
  refine keeps_bind (dbKept_look _) fun present => ?_
  split
  · refine keeps_bind (dbKept_mapErr _ fun w => ?_) fun standbyChecksum => ?_
    · rw [checksumFile_after]
      exact refl_of DbKept w
    · split
      · exact copies
      · exact keeps_pure _
  · exact copies

theorem dbKept_runAction (io : Io) (action : SyncAction) (pair : DrivePair) (file : TrackedFile) :
    Keeps DbKept (runAction io action pair file) := by
  cases action with
  | mirror =>
    apply keeps_attempt
    exact keeps_bind (dbKept_mirrorFile _ _ _) fun _ => keeps_pure _
  | adoptMirror => exact keeps_bind (dbKept_adoptMirror _ _ _) fun _ => keeps_pure _
  | restoreMaster => exact keeps_attempt fun w => restoreSide_db _ _ _ _ _ w
  | restoreMirror => exact keeps_attempt fun w => restoreSide_db _ _ _ _ _ w
  | verify =>
    refine keeps_bind (dbKept_checkFileIntegrity _ _ _ _ _) fun result => ?_
    split
    · exact keeps_pure _
    · exact dbKept_bail _
  | userActionRequired => exact dbKept_bail _
  | other text => exact dbKept_bail _

omit [Naming] [Blake3] in
theorem dbKept_fsCopy (io : Io) (src dst : Location) : Keeps DbKept (fsCopy io src dst) := by
  refine keeps_bind (dbKept_openFile io src) fun _ => keeps_bind (dbKept_createFile io dst) fun _ => ?_
  refine keeps_bind (dbKept_ensure _ _) fun _ => keeps_bind (dbKept_look _) fun _ => ?_
  exact keeps_bind (dbKept_copyLoop _ _ _ _ _ _ _) fun _ => keeps_pure _

omit [Blake3] in
theorem dbKept_provideNew (io : Io) (file : TrackedFile) (pair : DrivePair) (newFilePath : Option Location) :
    Keeps DbKept (provideNew io file pair newFilePath) := by
  cases newFilePath with
  | none => exact dbKept_bail _
  | some src =>
    refine keeps_bind (dbKept_look _) fun _ => keeps_bind (dbKept_ensure _ _) fun _ => ?_
    refine keeps_bind (dbKept_ensure _ _) fun _ => ?_
    refine keeps_bind (dbKept_createParentDirs _ _) fun _ => ?_
    refine keeps_bind (dbKept_createParentDirs _ _) fun _ => ?_
    exact keeps_bind (dbKept_fsCopy _ _ _) fun _ => dbKept_fsCopy _ _ _

theorem dbKept_resolutionCopy (io : Io) (file : TrackedFile) (pair : DrivePair) (resolution : String)
    (newFilePath : Option Location) : Keeps DbKept (resolutionCopy io file pair resolution newFilePath) := by
  unfold resolutionCopy
  split
  · exact fun w => restoreSide_db _ _ _ _ _ w
  · exact fun w => restoreSide_db _ _ _ _ _ w
  · exact dbKept_provideNew _ _ _ _
  · exact dbKept_bail _

omit [Naming] [Blake3] in
theorem diskKept_finishItem (item : SyncQueueItem) (file : TrackedFile) (pair : DrivePair)
    (result : Except String Unit) : Keeps DiskKept (finishItem item file pair result) := by
  cases result with
  | error message => exact fun _ => rfl
  | ok _ =>
    refine keeps_bind (diskKept_execute _) fun _ => ?_
    split
    · refine keeps_bind (diskKept_execute _) fun _ => keeps_bind ?_ fun _ => keeps_pure _
      exact keeps_attempt (diskKept_maybeFinalizeRebuildForAction _ _)
    · exact keeps_pure _

/-- The world in which `process_item` runs the action of its item. -/
def itemStarted (item : SyncQueueItem) (pair : DrivePair) (w : World) : World :=
  { w with db := (w.db.operational w.disk pair).updateSyncQueueStatus item.id .inProgress none }

/-- The item is left alone: the pair is quiescing, or the user has to decide. -/
def itemSkipped (item : SyncQueueItem) (pair : DrivePair) (disk : Disk) : Bool :=
  (pair.operational disk).isQuiescing || item.action == .userActionRequired

theorem processItem_skipped {io : Io} {item : SyncQueueItem} {file : TrackedFile} {pair : DrivePair} {w : World}
    (hasFile : w.db.getTrackedFile item.trackedFileId = .ok file)
    (hasPair : w.db.getDrivePair file.drivePairId = .ok pair) (skipped : itemSkipped item pair w.disk = true) :
    processItem io item w = .ok () { w with db := w.db.operational w.disk pair } := by
  have read : Act.query (fun db => db.getTrackedFile item.trackedFileId) w = .ok file w := by
    simp only [Act.query,hasFile]
  unfold processItem
  rw [bind_of_ok read,bind_of_ok (loadOperationalPair_run hasPair)]
  cases quiet : (pair.operational w.disk).isQuiescing with
  | true => rfl
  | false =>
    have waits : item.action = .userActionRequired := by simpa [itemSkipped,quiet] using skipped
    simp only [waits,Bool.false_eq_true,if_false,if_true]
    rfl

theorem processItem_started {io : Io} {item : SyncQueueItem} {file : TrackedFile} {pair : DrivePair} {w : World}
    (hasFile : w.db.getTrackedFile item.trackedFileId = .ok file)
    (hasPair : w.db.getDrivePair file.drivePairId = .ok pair) (runs : itemSkipped item pair w.disk = false) :
    processItem io item w = (do
      let result ← runAction io item.action (pair.operational w.disk) file
      finishItem item file (pair.operational w.disk) result) (itemStarted item pair w) := by
  have read : Act.query (fun db => db.getTrackedFile item.trackedFileId) w = .ok file w := by
    simp only [Act.query,hasFile]
  obtain ⟨steady,automatic⟩ := Bool.or_eq_false_iff.mp runs
  unfold processItem
  rw [bind_of_ok read,bind_of_ok (loadOperationalPair_run hasPair)]
  simp only [steady,beq_eq_false_iff_ne.mp automatic,Bool.false_eq_true,if_false]
  rfl

theorem processItem_disk {io : Io} {item : SyncQueueItem} {file : TrackedFile} {pair : DrivePair} {w : World}
    (hasFile : w.db.getTrackedFile item.trackedFileId = .ok file)
    (hasPair : w.db.getDrivePair file.drivePairId = .ok pair) :
    (after (processItem io item) w).disk =
      if itemSkipped item pair w.disk then w.disk
      else (after (runAction io item.action (pair.operational w.disk) file) (itemStarted item pair w)).disk := by
  cases skipped : itemSkipped item pair w.disk with
  | true => rw [after_of_ok (processItem_skipped hasFile hasPair skipped)]; rfl
  | false =>
    simp only [Bool.false_eq_true,if_false]
    rw [after,processItem_started hasFile hasPair skipped,bind_apply,after]
    cases runAction io item.action (pair.operational w.disk) file (itemStarted item pair w) with
    | error m t => rfl
    | ok result t => exact diskKept_finishItem item file (pair.operational w.disk) result t

end

end BitProtector
