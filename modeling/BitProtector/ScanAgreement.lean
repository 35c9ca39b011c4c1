import BitProtector.ScanWalks

/-! The two scans of a tracked folder: `folders scan`, which tracks the new files and then looks at
every file of the pair, and `POST /folders/:id/scan`, which looks at the files it walks over. -/
namespace BitProtector.ScanAgreement
open Effect ScanStates ScanWalks

/-! The pair and the folder that a scan starts with. -/

variable {w : World} {row : DrivePair} {folder : TrackedFolder}

/-- The tables after the pair has been loaded. -/
def loaded (w : World) (row : DrivePair) : World := { w with db := w.db.operational w.disk row }

theorem failedOver_settled (disk : Disk) (row : DrivePair) : emergencyFailoverDue disk (row.operational disk) = false := by
  unfold DrivePair.operational
  split
  · have lost : row.failedOver.roleState row.failedOver.standbyRole = .failed := by
      unfold DrivePair.failedOver DrivePair.standbyRole
      cases role : row.activeRole with
      | primary => rfl
      | secondary => rfl
    have gone : (DriveState.failed == DriveState.active) = false := rfl
    rw [emergencyFailoverDue,lost,gone,Bool.and_false,Bool.false_and]
  · rename_i still
    exact Bool.eq_false_iff.mpr still

def unmirrored (pairId : Nat) (file : TrackedFile) : TrackedFile :=
  if file.drivePairId == pairId then { file with isMirrored := false } else file

theorem unmirrored_keeps (pairId : Nat) (file : TrackedFile) :
    (unmirrored pairId file).drivePairId = file.drivePairId ∧ (unmirrored pairId file).relativePath = file.relativePath ∧
      (unmirrored pairId file).checksum = file.checksum := by
  unfold unmirrored
  split
  · exact ⟨rfl,rfl,rfl⟩
  · exact ⟨rfl,rfl,rfl⟩

theorem loaded_rows (w : World) (row : DrivePair) :
    ∃ change : TrackedFile → TrackedFile, (loaded w row).db.trackedFiles.rows = w.db.trackedFiles.rows.map change ∧
      ∀ file, (change file).drivePairId = file.drivePairId ∧ (change file).relativePath = file.relativePath ∧
        (change file).checksum = file.checksum := by
  unfold loaded Db.operational
  split
  · exact ⟨unmirrored row.id,rfl,unmirrored_keeps row.id⟩
  · exact ⟨id,(List.map_id _).symm,fun _ => ⟨rfl,rfl,rfl⟩⟩

theorem loaded_refs (sound : Sound w.db) (row : DrivePair) :
    ∀ item ∈ (loaded w row).db.syncQueue.rows, item.trackedFileId ≤ (loaded w row).db.trackedFiles.lastId := by
  unfold loaded Db.operational
  split
  · intro item member
    obtain ⟨before,there,rfl⟩ := List.mem_map.mp member
    have bound := sound.refs before there
    split
    · exact bound
    · exact bound
  · exact sound.refs

theorem sound_loaded (sound : Sound w.db) (row : DrivePair) : Sound (loaded w row).db := by
  obtain ⟨change,rows,keeps⟩ := loaded_rows w row
  exact sound_of_rows sound rows (fun file => ⟨(keeps file).1,(keeps file).2.1⟩) (loaded_refs sound row)

theorem fileAt_loaded (w : World) (row : DrivePair) (pairId : Nat) (path : String) :
    (fileAt (loaded w row).db pairId path).map TrackedFile.checksum = (fileAt w.db pairId path).map TrackedFile.checksum := by
  obtain ⟨change,rows,keeps⟩ := loaded_rows w row
  rw [fileAt_of_rows rows (fun file => ⟨(keeps file).1,(keeps file).2.1⟩),Option.map_map]
  congr 1
  funext file
  exact (keeps file).2.2

theorem load_run (paired : w.db.getDrivePair folder.drivePairId = .ok row) :
    loadOperationalPair folder.drivePairId w = .ok (row.operational w.disk) (loaded w row) := loadOperationalPair_run paired

theorem load_again {v : World} {pairId : Nat} {pair : DrivePair} (paired : v.db.getDrivePair pairId = .ok pair)
    (settled : emergencyFailoverDue v.disk pair = false) : loadOperationalPair pairId v = .ok pair v := by
  rw [loadOperationalPair_run paired,DrivePair.operational,Db.operational,settled]
  rfl

/-- The row of a folder whose scan has just started. -/
def beingScanned (folder : TrackedFolder) (total : Nat) : TrackedFolder :=
  { folder with scanning := true,scanScannedFiles := 0,scanTotalFiles := total }

theorem startFolderScan_run {db : Db} (found : db.getTrackedFolder folder.id = .ok folder)
    (idle : Db.folderIdle folder = true) (total : Nat) :
    ∃ next, db.startFolderScan folder.id total = (.ok (beingScanned folder total),next) ∧
      next.getTrackedFolder folder.id = .ok (beingScanned folder total) ∧
      next.drivePairs = db.drivePairs ∧ ∀ pairId, Sound db → Takes pairId (fun _ => id) db next := by
  have row : db.trackedFolders.find? folder.id = some folder := by
    unfold Db.getTrackedFolder at found
    split at found
    · rename_i there
      rwa [Except.ok.inj found] at there
    · cases found
  have ready : db.trackedFolders.rows.any (fun other => other.id == folder.id && Db.folderIdle other) = true := by
    rw [List.any_eq_true]
    exact ⟨folder,Table.mem_of_find? row,by rw [beq_self_eq_true,idle]; rfl⟩
  let next := db.updateFolderWhere (fun other => other.id == folder.id && Db.folderIdle other)
    (fun other => beingScanned other total) (fun _ => rfl)
  have now : next.getTrackedFolder folder.id = .ok (beingScanned folder total) := by
    have there : next.trackedFolders.find? folder.id = some (beingScanned folder total) := by
      refine (Table.find?_updateWhere db.trackedFolders _ (fun other => beingScanned other total) (fun _ => rfl) _).trans ?_
      rw [row,Option.map_some,beq_self_eq_true,idle]
      rfl
    rw [Db.getTrackedFolder,there]
  refine ⟨next,?_,now,rfl,fun pairId sound => takes_folders sound _ _ _ fun _ => ⟨rfl,rfl⟩⟩
  unfold Db.startFolderScan
  rw [if_pos ready]
  exact congrArg (fun read => (read,_)) now

theorem takes_finish {db : Db} (sound : Sound db) (pairId folderId : Nat) :
    Takes pairId (fun _ => id) db (db.finishFolderScan folderId) :=
  takes_folders sound _ _ _ fun _ => ⟨rfl,rfl⟩

section
variable [Blake3] {io : Io} {counted walk : Walk}

/-! `POST /folders/:id/scan`. -/

theorem startFailed (found : w.db.getTrackedFolder folder.id = .ok folder)
    (paired : w.db.getDrivePair folder.drivePairId = .ok row) {message : String} (broken : counted.failure = some message) :
    after (scanFolderRoute io counted walk folder.id) w = loaded w row := by
  have read : Act.query (fun db => db.getTrackedFolder folder.id) w = .ok folder w := by simp only [Act.query,found]
  have stops : counted.countFolderFiles folder (loaded w row) = .error message (loaded w row) := by
    have ended : counted.finish (loaded w row) = .error message (loaded w row) := by
      rw [Walk.finish,broken]
      rfl
    rw [Walk.countFolderFiles,bind_of_error ended]
  rw [scanFolderRoute,after_bind_of_ok read,after_bind_of_ok (load_run paired),after_bind_of_error stops]

/-- The thread of a scan that has started. -/
def scanThread (io : Io) (walk : Walk) (folderId : Nat) : Act Unit := do
  let folder ← Act.query (fun db => db.getTrackedFolder folderId)
  let pair ← loadOperationalPair folder.drivePairId
  scanTrackedFolder io walk pair folder

theorem route_started (io : Io) (walk : Walk) (found : w.db.getTrackedFolder folder.id = .ok folder)
    (paired : w.db.getDrivePair folder.drivePairId = .ok row) (idle : Db.folderIdle folder = true)
    (sound : Sound (loaded w row).db) (whole : counted.failure = none) :
    ∃ v total, v.disk = w.disk ∧ Takes row.id (fun _ => id) (loaded w row).db v.db ∧
      scanThread io walk folder.id v =
        scanTrackedFolder io walk (row.operational w.disk)
          (beingScanned folder total) v ∧
      (after (scanFolderRoute io counted walk folder.id) w).db =
        (after (scanThread io walk folder.id) v).db.finishFolderScan folder.id := by
  have read : Act.query (fun db => db.getTrackedFolder folder.id) w = .ok folder w := by simp only [Act.query,found]
  have folders : (loaded w row).db.getTrackedFolder folder.id = .ok folder := by
    rw [← found]
    unfold loaded Db.operational
    split
    · rfl
    · rfl
  let total := (counted.files.filter (fun path => !passedOver folder path)).length
  have counts : counted.countFolderFiles folder (loaded w row) = .ok total (loaded w row) := by
    have ended : counted.finish (loaded w row) = .ok () (loaded w row) := by
      rw [Walk.finish,whole]
      rfl
    rw [Walk.countFolderFiles,bind_of_ok ended]
    rfl
  obtain ⟨next,started,again,pairs,takes⟩ := startFolderScan_run folders idle total
  have inserted : Act.insertOrFail (fun db => db.startFolderScan folder.id total) (loaded w row) =
      .ok (beingScanned folder total) ⟨next,w.disk⟩ := by
    rw [Act.insertOrFail,started]
    rfl
  have reread : Act.query (fun db => db.getTrackedFolder folder.id) ⟨next,w.disk⟩ =
      .ok (beingScanned folder total) ⟨next,w.disk⟩ := by
    simp only [Act.query,again]
  have pairNow : next.getDrivePair folder.drivePairId = .ok (row.operational w.disk) := by
    rw [Db.getDrivePair,pairs]
    have there := find?_operational paired w.disk
    rw [show (loaded w row).db.drivePairs.find? folder.drivePairId = _ from there]
  refine ⟨⟨next,w.disk⟩,total,rfl,takes row.id sound,?_,?_⟩
  · have loads : loadOperationalPair folder.drivePairId ⟨next,w.disk⟩ = .ok (row.operational w.disk) ⟨next,w.disk⟩ :=
      load_again pairNow (failedOver_settled w.disk row)
    rw [scanThread,bind_of_ok reread]
    exact bind_of_ok loads _
  · rw [scanFolderRoute,after_bind_of_ok read,after_bind_of_ok (load_run paired),after_bind_of_ok counts,
      after_bind_of_ok inserted]
    change (after (do let _ ← attempt (scanThread io walk folder.id); Act.execute _) ⟨next,w.disk⟩).db = _
    cases ran : scanThread io walk folder.id ⟨next,w.disk⟩ with
    | ok a t => rw [after_bind_of_ok (attempt_of_ok ran),after_of_ok ran,after_of_ok (Act.execute_apply _ _)]
    | error message t =>
      rw [after_bind_of_ok (attempt_of_error ran),after_of_error ran,after_of_ok (Act.execute_apply _ _)]

theorem readable_taken {v : World} {pair : DrivePair} {path : String} {f : String → Option FileState → Option FileState}
    (readable : Readable io w pair path) (disk : v.disk = w.disk) (takes : Takes pair.id f w.db v.db) :
    Readable io v pair path := by
  constructor
  · rw [disk]
    exact readable.read
  · intro fresh
    apply readable.permits
    cases found : fileAt w.db pair.id path with
    | none => rfl
    | some file =>
      obtain ⟨now,there,_⟩ := takes.kept path file found
      rw [fresh] at there
      cases there

theorem readable_loaded {pair : DrivePair} {path : String} (readable : Readable io w pair path) (row : DrivePair) :
    Readable io (loaded w row) pair path := by
  refine ⟨readable.read,fun fresh => readable.permits ?_⟩
  have same := fileAt_loaded w row pair.id path
  rw [fresh,Option.map_none] at same
  exact Option.map_eq_none_iff.mp same.symm

/-- What the route does to the files of the pair. -/
theorem route_takes (found : w.db.getTrackedFolder folder.id = .ok folder)
    (paired : w.db.getDrivePair folder.drivePairId = .ok row) (idle : Db.folderIdle folder = true) (sound : Sound w.db)
    (allowed : (row.operational w.disk).isQuiescing = false) (whole : counted.failure = none) (walks : walk.failure = none)
    (readable : ∀ path ∈ visits folder walk.files, Readable io w (row.operational w.disk) path) :
    Takes row.id (fun path => Option.map (flagged (loaded w row).db row.id) ∘
        if path ∈ visits folder walk.files then scanned io w.disk (row.operational w.disk) path else id)
      (loaded w row).db (after (scanFolderRoute io counted walk folder.id) w).db := by
  obtain ⟨v,total,disk,quiet,thread,ends⟩ :=
    route_started io walk found paired idle (sound_loaded sound row) whole
  have key : (row.operational w.disk).id = row.id := DrivePair.operational_id row w.disk
  obtain ⟨t,ran,kept,takes⟩ := scanTrackedFolder_run (beingScanned folder total) allowed walks quiet.sound
    (fun path member => readable_taken (readable_loaded (readable path member) row) disk (key ▸ quiet))
  have left : after (scanThread io walk folder.id) v = t := by
    rw [after,thread,ran]
  rw [ends,left]
  rw [key,disk,flagged_congr quiet.folders] at takes
  exact (quiet.trans takes).trans (takes_finish takes.sound row.id folder.id)

theorem route_refused (found : w.db.getTrackedFolder folder.id = .ok folder)
    (paired : w.db.getDrivePair folder.drivePairId = .ok row) (idle : Db.folderIdle folder = true) (sound : Sound w.db)
    (refused : (row.operational w.disk).isQuiescing = true) (whole : counted.failure = none) :
    Takes row.id (fun _ => id) (loaded w row).db (after (scanFolderRoute io counted walk folder.id) w).db := by
  obtain ⟨v,total,disk,quiet,thread,ends⟩ :=
    route_started io walk found paired idle (sound_loaded sound row) whole
  have stays : after (scanTrackedFolder io walk (row.operational w.disk) (beingScanned folder total)) v = v := by
    have denied : ∃ message, Act.query (fun _ => requirePairMutationAllowed (row.operational w.disk)) v = .error message v := by
      rw [Act.query,requirePairMutationAllowed,refused]
      exact ⟨_,rfl⟩
    obtain ⟨message,denied⟩ := denied
    rw [scanTrackedFolder,after_bind_of_error denied]
  have same : after (scanThread io walk folder.id) v = v := by
    rw [after,thread]
    exact stays
  rw [ends,same]
  exact quiet.trans (takes_finish quiet.sound row.id folder.id)

/-! `folders scan`. -/

theorem command_loaded (io : Io) (walk : Walk) (found : w.db.getTrackedFolder folder.id = .ok folder)
    (paired : w.db.getDrivePair folder.drivePairId = .ok row) : after (scanFolderCommand io walk folder.id) w =
      after (do autoTrackFolderFiles io walk (row.operational w.disk) folder
                scanAndRecordChanges io (row.operational w.disk)) (loaded w row) := by
  have read : Act.query (fun db => db.getTrackedFolder folder.id) w = .ok folder w := by simp only [Act.query,found]
  rw [scanFolderCommand,after_bind_of_ok read,after_bind_of_ok (load_run paired)]

theorem command_refused (found : w.db.getTrackedFolder folder.id = .ok folder)
    (paired : w.db.getDrivePair folder.drivePairId = .ok row) (refused : (row.operational w.disk).isQuiescing = true) :
    after (scanFolderCommand io walk folder.id) w = loaded w row := by
  have denied : ∃ message, autoTrackFolderFiles io walk (row.operational w.disk) folder (loaded w row) =
      .error message (loaded w row) := by
    have denied' : ∃ message, Act.query (fun _ => requirePairMutationAllowed (row.operational w.disk)) (loaded w row) =
        .error message (loaded w row) := by
      rw [Act.query,requirePairMutationAllowed,refused]
      exact ⟨_,rfl⟩
    obtain ⟨message,denied'⟩ := denied'
    exact ⟨message,bind_of_error denied' _⟩
  obtain ⟨message,denied⟩ := denied
  rw [command_loaded io walk found paired,after_bind_of_error denied]

theorem command_stopped (found : w.db.getTrackedFolder folder.id = .ok folder)
    (paired : w.db.getDrivePair folder.drivePairId = .ok row) (sound : Sound w.db)
    (allowed : (row.operational w.disk).isQuiescing = false) {message : String} (broken : walk.failure = some message)
    (readable : ∀ path ∈ visits folder walk.files, Readable io w (row.operational w.disk) path) :
    Takes row.id (fun path =>
        if path ∈ visits folder walk.files then autoTracked io w.disk (row.operational w.disk) path else id)
      (loaded w row).db (after (scanFolderCommand io walk folder.id) w).db := by
  obtain ⟨t,ran,kept,takes⟩ := autoTrackFiles_run folder walk.files (sound_loaded sound row)
    (fun path member => readable_loaded (readable path member) row)
  rw [DrivePair.operational_id] at takes
  have ended : walk.finish t = .error message t := by
    rw [Walk.finish,broken]
    rfl
  have stops : autoTrackFolderFiles io walk (row.operational w.disk) folder (loaded w row) = .error message t := by
    rw [autoTrackFolderFiles,bind_of_ok (permitted_run allowed _),bind_of_ok ran,bind_of_error ended]
  rw [command_loaded io walk found paired,after_bind_of_error stops]
  exact takes

theorem blocked_tracked {v : World} {change : String → Option FileState → Option FileState} {paths : List String}
    (pair : DrivePair) (key : pair.id = row.id)
    (readable : ∀ path ∈ visits folder paths, Readable io w pair path)
    (elsewhere : ∀ path, path ∉ visits folder paths → ∀ state, change path state = none ↔ state = none)
    (takes : Takes row.id change (loaded w row).db v.db) : Blocked io w.disk pair v.db ↔ Blocked io w.disk pair w.db := by
  have tracked (path : String) (stuck : unreadable io w.disk (pair.copyOn pair.activeRole path) = true) :
      fileAt v.db pair.id path = none ↔ fileAt w.db pair.id path = none := by
    have out : path ∉ visits folder paths := by
      intro member
      obtain ⟨hash,read⟩ := Option.isSome_iff_exists.mp (readable path member).read
      rw [unreadable,read,Option.isNone_some,Bool.and_false] at stuck
      cases stuck
    have before : fileAt (loaded w row).db pair.id path = none ↔ fileAt w.db pair.id path = none := by
      rw [← Option.map_eq_none_iff (f := TrackedFile.checksum),fileAt_loaded,Option.map_eq_none_iff]
    rw [← before,← stateAt_none,← stateAt_none,key,takes.state,elsewhere path out]
  constructor
  · rintro ⟨path,there,stuck⟩
    exact ⟨path,fun none => there ((tracked path stuck).mpr none),stuck⟩
  · rintro ⟨path,there,stuck⟩
    exact ⟨path,fun none => there ((tracked path stuck).mp none),stuck⟩

/-- What the command has done to the files of the pair before it looks for changes. -/
def walkedOver (io : Io) (w : World) (row : DrivePair) (folder : TrackedFolder) (walk : Walk) (path : String) :
    Option FileState → Option FileState :=
  Option.map (flagged (loaded w row).db row.id) ∘
    if path ∈ visits folder walk.files then autoTracked io w.disk (row.operational w.disk) path else id

theorem command_walked (found : w.db.getTrackedFolder folder.id = .ok folder)
    (paired : w.db.getDrivePair folder.drivePairId = .ok row) (sound : Sound w.db)
    (allowed : (row.operational w.disk).isQuiescing = false) (whole : walk.failure = none)
    (readable : ∀ path ∈ visits folder walk.files, Readable io w (row.operational w.disk) path) :
    ∃ t, t.disk = w.disk ∧ Takes row.id (walkedOver io w row folder walk) (loaded w row).db t.db ∧
      (Blocked io w.disk (row.operational w.disk) t.db ↔ Blocked io w.disk (row.operational w.disk) w.db) ∧
      after (scanFolderCommand io walk folder.id) w =
        after (scanAndRecordChanges io (row.operational w.disk)) t := by
  have key : (row.operational w.disk).id = row.id := DrivePair.operational_id row w.disk
  obtain ⟨t,ran,kept,takes⟩ := autoTrackFolderFiles_run folder allowed whole (sound_loaded sound row)
    (fun path member => readable_loaded (readable path member) row)
  rw [key] at takes
  refine ⟨t,kept,takes,blocked_tracked (row.operational w.disk) key readable ?_ takes,?_⟩
  · intro path out state
    rw [if_neg out]
    exact Option.map_eq_none_iff
  · rw [command_loaded io walk found paired,after_bind_of_ok ran]

theorem command_free (found : w.db.getTrackedFolder folder.id = .ok folder)
    (paired : w.db.getDrivePair folder.drivePairId = .ok row) (sound : Sound w.db)
    (allowed : (row.operational w.disk).isQuiescing = false) (whole : walk.failure = none)
    (readable : ∀ path ∈ visits folder walk.files, Readable io w (row.operational w.disk) path)
    (free : ¬Blocked io w.disk (row.operational w.disk) w.db) :
    Takes row.id (fun path => recorded io w.disk (row.operational w.disk) path ∘ walkedOver io w row folder walk path)
      (loaded w row).db (after (scanFolderCommand io walk folder.id) w).db := by
  obtain ⟨t,disk,takes,blocks,ends⟩ := command_walked found paired sound allowed whole readable
  have unblocked : ¬Blocked io t.disk (row.operational w.disk) t.db := by
    rw [disk,blocks]
    exact free
  obtain ⟨u,ran,_,records⟩ := scanAndRecordChanges_run takes.sound unblocked
  rw [disk,DrivePair.operational_id] at records
  rw [ends,after_of_ok ran]
  exact takes.trans records

theorem command_blocked (found : w.db.getTrackedFolder folder.id = .ok folder)
    (paired : w.db.getDrivePair folder.drivePairId = .ok row) (sound : Sound w.db)
    (allowed : (row.operational w.disk).isQuiescing = false) (whole : walk.failure = none)
    (readable : ∀ path ∈ visits folder walk.files, Readable io w (row.operational w.disk) path)
    (blocked : Blocked io w.disk (row.operational w.disk) w.db) :
    Takes row.id (walkedOver io w row folder walk)
      (loaded w row).db (after (scanFolderCommand io walk folder.id) w).db := by
  obtain ⟨t,disk,takes,blocks,ends⟩ := command_walked found paired sound allowed whole readable
  have stuck : Blocked io t.disk (row.operational w.disk) t.db := by
    rw [disk,blocks]
    exact blocked
  rw [ends,after_of_error (scanAndRecordChanges_fails stuck)]
  exact takes

/-! The file of one path. -/

omit [Blake3] in
theorem flagged_checksum (db : Db) (pairId : Nat) (state : FileState) :
    (flagged db pairId state).row.checksum = state.row.checksum := by
  unfold flagged Db.provenanceOf
  split
  · rfl
  · rfl

omit [Blake3] in
theorem changedTo_flagged (disk : Disk) (db : Db) (pair : DrivePair) (pairId : Nat) (path hash : String)
    (state : FileState) : changedTo disk pair path hash (flagged db pairId state) =
      flagged db pairId (changedTo disk pair path hash state) := by
  have rows (size : Nat) : ({ db.provenanceOf pairId state.row with checksum := hash,fileSize := size,isMirrored := false }
      : TrackedFile) = db.provenanceOf pairId { state.row with checksum := hash,fileSize := size,isMirrored := false } := by
    unfold Db.provenanceOf
    split
    · rfl
    · rfl
  apply FileState.ext
  · rw [changedTo_row,flagged,rows,flagged,changedTo_row]
  · have queues : (changedTo disk pair path hash (flagged db pairId state)).queue =
        (changedTo disk pair path hash state).queue := by
      apply changedTo_queue
      rfl
    exact queues

theorem recorded_flagged (disk : Disk) (db : Db) (pair : DrivePair) (pairId : Nat) (path : String)
    (state : Option FileState) : recorded io disk pair path (state.map (flagged db pairId)) =
      (recorded io disk pair path state).map (flagged db pairId) := by
  cases state with
  | none => rfl
  | some state =>
    cases read : hashAt io disk (pair.copyOn pair.activeRole path) with
    | none => simp [recorded,read]
    | some hash =>
      simp only [recorded,read,Option.map_some,Option.elim_some,Option.some.injEq]
      unfold refreshed
      rw [flagged_checksum]
      split
      · rfl
      · exact changedTo_flagged disk db pair pairId path hash state

theorem recorded_autoTracked (disk : Disk) (pair : DrivePair) (path : String) (state : Option FileState) :
    recorded io disk pair path (autoTracked io disk pair path state) = scanned io disk pair path state := by
  cases state with
  | some state => rfl
  | none =>
    cases read : hashAt io disk (pair.copyOn pair.activeRole path) with
    | none => simp [recorded,autoTracked,scanned,read]
    | some hash => simp [recorded,autoTracked,scanned,read,refreshed_known (enrolled_checksum disk path hash)]

/-! Where the two scans agree. -/

/-- What the scans are compared by: the row of a file, without its id, and its pending items. -/
structure Shown where
  relativePath : String
  checksum : String
  fileSize : Nat
  isMirrored : Bool
  trackedDirect : Bool
  trackedViaFolder : Bool
  pending : List SyncQueueItem
  deriving DecidableEq, Repr

omit [Blake3] in
def shown (state : FileState) : Shown where
  relativePath := state.row.relativePath
  checksum := state.row.checksum
  fileSize := state.row.fileSize
  isMirrored := state.row.isMirrored
  trackedDirect := state.row.trackedDirect
  trackedViaFolder := state.row.trackedViaFolder
  pending := state.queue.filter (fun item => item.status == .pending)

/-- The tracked file of the path has other contents than its row says. -/
def Changed (io : Io) (disk : Disk) (pair : DrivePair) (db : Db) (path : String) : Prop :=
  ∃ file hash, fileAt db pair.id path = some file ∧ hashAt io disk (pair.copyOn pair.activeRole path) = some hash ∧
    hash ≠ file.checksum

theorem recorded_shown (disk : Disk) (db : Db) (pair : DrivePair) (pairId : Nat) (path : String) (state : Option FileState) :
    ((recorded io disk pair path state).map (flagged db pairId)).map shown = (state.map (flagged db pairId)).map shown ↔
      ¬∃ before hash, state = some before ∧ hashAt io disk (pair.copyOn pair.activeRole path) = some hash ∧
        hash ≠ before.row.checksum := by
  cases state with
  | none => simp [recorded]
  | some state =>
    cases read : hashAt io disk (pair.copyOn pair.activeRole path) with
    | none => simp [recorded,read]
    | some hash =>
      by_cases same : hash = state.row.checksum
      · simp [recorded,read,same,refreshed]
      · constructor
        · intro equal
          simp only [recorded,read,refreshed,same,Option.map_some,Option.elim_some,if_false,Option.some.injEq] at equal
          have checksums := congrArg Shown.checksum equal
          simp only [shown,flagged_checksum,changedTo_row] at checksums
          exact absurd checksums same
        · intro never
          exact absurd ⟨state,hash,rfl,rfl,same⟩ never

theorem changed_autoTracked (disk : Disk) (pair : DrivePair) (path : String) (state : Option FileState) :
    (∃ before hash, autoTracked io disk pair path state = some before ∧
        hashAt io disk (pair.copyOn pair.activeRole path) = some hash ∧ hash ≠ before.row.checksum) ↔
      ∃ before hash, state = some before ∧ hashAt io disk (pair.copyOn pair.activeRole path) = some hash ∧
        hash ≠ before.row.checksum := by
  cases state with
  | some state => rfl
  | none =>
    constructor
    · rintro ⟨before,hash,tracked,read,differs⟩
      rw [autoTracked,read,Option.map_some,Option.some.injEq] at tracked
      rw [← tracked,enrolled_checksum] at differs
      exact absurd rfl differs
    · rintro ⟨before,hash,none,_⟩
      cases none

/-- The walks find the same directory: the same files, or none of them gets to its end. -/
structure SameDirectory (counted api cli : Walk) : Prop where
  counts : counted.failure = none ↔ cli.failure = none
  walks : api.failure = none ↔ cli.failure = none
  files : cli.failure = none → ∀ path, path ∈ api.files ↔ path ∈ cli.files

/-- After the scan of the route and after the one of the command, the files are shown alike. -/
def Agree (io : Io) (counted api cli : Walk) (folder : TrackedFolder) (inside : String → Prop) (w : World) : Prop :=
  ∀ path, inside path →
    (stateAt (after (scanFolderRoute io counted api folder.id) w).db folder.drivePairId path).map shown =
      (stateAt (after (scanFolderCommand io cli folder.id) w).db folder.drivePairId path).map shown

/-- A changed file is walked over exactly when no file of the pair stands in the way of the command; and a
walk that breaks off has met tracked files only. -/
def Aligned (io : Io) (cli : Walk) (folder : TrackedFolder) (inside : String → Prop) (pair : DrivePair) (w : World) : Prop :=
  pair.isQuiescing = false →
    (cli.failure = none → ∀ path, inside path → Changed io w.disk pair w.db path →
      (path ∈ visits folder cli.files ↔ ¬Blocked io w.disk pair w.db)) ∧
    (cli.failure ≠ none → ∀ path ∈ visits folder cli.files, fileAt w.db pair.id path ≠ none)

theorem changed_loaded (row pair : DrivePair) (path : String) : Changed io w.disk pair w.db path ↔
    ∃ before hash, stateAt (loaded w row).db pair.id path = some before ∧
      hashAt io w.disk (pair.copyOn pair.activeRole path) = some hash ∧ hash ≠ before.row.checksum := by
  have same := fileAt_loaded w row pair.id path
  constructor
  · rintro ⟨file,hash,found,read,differs⟩
    rw [found,Option.map_some] at same
    obtain ⟨now,there,checksum⟩ := Option.map_eq_some_iff.mp same
    refine ⟨stateOf (loaded w row).db now,hash,by rw [stateAt,there,Option.map_some],read,?_⟩
    exact fun equal => differs (equal.trans checksum)
  · rintro ⟨before,hash,seen,read,differs⟩
    obtain ⟨now,there,rfl⟩ := Option.map_eq_some_iff.mp seen
    rw [there,Option.map_some] at same
    obtain ⟨file,found,checksum⟩ := Option.map_eq_some_iff.mp same.symm
    exact ⟨file,hash,found,read,fun equal => differs (equal.trans checksum)⟩

theorem agree_whole {counted api cli : Walk} {inside : String → Prop} (found : w.db.getTrackedFolder folder.id = .ok folder)
    (paired : w.db.getDrivePair folder.drivePairId = .ok row) (idle : Db.folderIdle folder = true) (sound : Sound w.db)
    (same : SameDirectory counted api cli) (whole : cli.failure = none)
    (allowed : (row.operational w.disk).isQuiescing = false)
    (readable : ∀ path ∈ visits folder cli.files, Readable io w (row.operational w.disk) path) :
    Agree io counted api cli folder inside w ↔
      ∀ path, inside path → Changed io w.disk (row.operational w.disk) w.db path →
        (path ∈ visits folder cli.files ↔ ¬Blocked io w.disk (row.operational w.disk) w.db) := by
  have key : row.id = folder.drivePairId := Table.find?_key (Db.getDrivePair_ok.mp paired)
  have visited (path : String) : path ∈ visits folder api.files ↔ path ∈ visits folder cli.files := by
    rw [visits,visits,List.mem_filter,List.mem_filter,same.files whole]
  have route := route_takes found paired idle sound allowed (same.counts.mpr whole) (same.walks.mpr whole)
    (fun path member => readable path ((visited path).mp member))
  apply forall_congr'
  intro path
  apply imp_congr_right
  intro _
  rw [← key,route.state,changed_loaded row,DrivePair.operational_id]
  simp only [visited path]
  by_cases blocked : Blocked io w.disk (row.operational w.disk) w.db
  · rw [(command_blocked found paired sound allowed whole readable blocked).state,walkedOver]
    by_cases member : path ∈ visits folder cli.files
    · rw [if_pos member,if_pos member,Function.comp_apply,Function.comp_apply,← recorded_autoTracked,recorded_shown,
        changed_autoTracked]
      exact ⟨fun never changed => absurd changed never,fun aligned changed => (aligned changed).mp member blocked⟩
    · rw [if_neg member,if_neg member]
      exact iff_of_true rfl fun _ => iff_of_false member (not_not_intro blocked)
  · rw [(command_free found paired sound allowed whole readable blocked).state,Function.comp_apply,walkedOver]
    by_cases member : path ∈ visits folder cli.files
    · rw [if_pos member,if_pos member,Function.comp_apply,Function.comp_apply,recorded_flagged,recorded_autoTracked]
      exact iff_of_true rfl fun _ => iff_of_true member blocked
    · rw [if_neg member,if_neg member]
      simp only [Function.comp_apply,id]
      rw [recorded_flagged,eq_comm,recorded_shown]
      exact ⟨fun never changed => absurd changed never,fun aligned changed => member ((aligned changed).mpr blocked)⟩

/-- The two scans of a folder leave its files alike unless a changed file is looked at by one of them only. -/
theorem scans_agree_iff {counted api cli : Walk} {inside : String → Prop} (found : w.db.getTrackedFolder folder.id = .ok folder)
    (paired : w.db.getDrivePair folder.drivePairId = .ok row) (idle : Db.folderIdle folder = true) (sound : Sound w.db)
    (same : SameDirectory counted api cli) (under : ∀ path ∈ cli.files, inside path)
    (readable : ∀ path ∈ visits folder cli.files, Readable io w (row.operational w.disk) path) :
    Agree io counted api cli folder inside w ↔ Aligned io cli folder inside (row.operational w.disk) w := by
  have key : row.id = folder.drivePairId := Table.find?_key (Db.getDrivePair_ok.mp paired)
  unfold Aligned
  cases quiescing : (row.operational w.disk).isQuiescing with
  | true =>
    refine iff_of_true (fun path _ => ?_) fun mutable => absurd mutable Bool.true_eq_false.mp
    rw [command_refused found paired quiescing]
    cases broken : counted.failure with
    | some message => rw [startFailed found paired broken]
    | none => rw [← key,(route_refused found paired idle sound quiescing broken).state,id]
  | false =>
    cases ends : cli.failure with
    | none =>
      rw [agree_whole found paired idle sound same ends quiescing readable]
      exact ⟨fun agree _ => ⟨fun _ => agree,fun broken => absurd rfl broken⟩,fun aligned => (aligned rfl).1 rfl⟩
    | some message =>
      obtain ⟨text,broken⟩ : ∃ text, counted.failure = some text := by
        rw [← Option.ne_none_iff_exists']
        intro none
        rw [same.counts.mp none] at ends
        cases ends
      have stopped := command_stopped found paired sound quiescing ends readable
      have before (path : String) : stateAt (loaded w row).db row.id path = none ↔
          fileAt w.db (row.operational w.disk).id path = none := by
        rw [stateAt_none,DrivePair.operational_id,← Option.map_eq_none_iff (f := TrackedFile.checksum),fileAt_loaded,
          Option.map_eq_none_iff]
      constructor
      · refine fun agree _ => ⟨fun none => absurd none (Option.some_ne_none _),fun _ path member fresh => ?_⟩
        have shownAlike := agree path (under path (List.mem_filter.mp member).1)
        obtain ⟨hash,read⟩ := Option.isSome_iff_exists.mp (readable path member).read
        rw [startFailed found paired broken,← key,stopped.state,if_pos member,(before path).mpr fresh,autoTracked,read]
          at shownAlike
        cases shownAlike
      · intro aligned path _
        rw [startFailed found paired broken,← key,stopped.state]
        by_cases member : path ∈ visits folder cli.files
        · have tracked := (aligned rfl).2 (Option.some_ne_none _) path member
          rw [ne_eq,← before,← ne_eq,Option.ne_none_iff_exists'] at tracked
          obtain ⟨state,seen⟩ := tracked
          rw [if_pos member,seen]
          rfl
        · rw [if_neg member,id]

end

open FolderProvenance VirtualRetarget VirtualAssignment

def changedFile (relativePath : String) (id : Nat) : TrackedFile := ⟨id,1,relativePath,"",1,none,true,true,false,none⟩

theorem key_changedFile (relativePath : String) (id : Nat) : Keyed.key (changedFile relativePath id) = id := rfl

/-- One tracked file in a folder without sidecars, changed since its row was written. -/
def changedWorld (relativePath : String) : World where
  db := { foldersDb lowerFolder with trackedFiles := Table.empty.insert (changedFile relativePath) (key_changedFile _) }
  disk := ⟨fun location => if location.relativePath = relativePath then some ⟨[1],none⟩ else none,fun _ => true⟩

theorem sound_changedWorld (relativePath : String) : Sound (changedWorld relativePath).db := by
  constructor
  · intro a first b second _ _
    rw [List.mem_singleton.mp first,List.mem_singleton.mp second]
  · intro item member
    cases member

theorem scans_agree_photos :
    letI := sampleBlake3
    Agree .healthy ⟨["photos/f"],none⟩ ⟨["photos/f"],none⟩ ⟨["photos/f"],none⟩ (folderRow "photos" 1) (· = "photos/f")
      (changedWorld "photos/f") := by
  let _ := sampleBlake3
  have under : ∀ path ∈ ["photos/f"], path = "photos/f" := fun _ member => List.mem_singleton.mp member
  have paired : (changedWorld "photos/f").db.getDrivePair 1 = .ok (firstPair 1) := rfl
  have readable : ∀ path ∈ visits (folderRow "photos" 1) ["photos/f"], Readable .healthy (changedWorld "photos/f")
      ((firstPair 1).operational (changedWorld "photos/f").disk) path := by
    intro path member
    rw [under path (List.mem_filter.mp member).1]
    exact ⟨by decide +kernel,fun _ => rfl⟩
  apply (scans_agree_iff rfl paired rfl (sound_changedWorld _) ⟨.rfl,.rfl,fun _ _ => .rfl⟩ under readable).mpr
  intro _
  refine ⟨fun _ path own _ => iff_of_true ?_ ?_,fun broken => absurd rfl broken⟩
  · rw [own]
    decide +kernel
  · exact readsAll_iff.mp (by decide +kernel)

/-- A changed sidecar that is tracked on its own, in a folder that leaves sidecars out. -/
theorem sidecar_missed :
    letI := sampleBlake3
    ¬ ∀ (io : Io) (counted api cli : Walk) (folder : TrackedFolder) (inside : String → Prop) (row : DrivePair) (w : World),
      w.db.getTrackedFolder folder.id = .ok folder → w.db.getDrivePair folder.drivePairId = .ok row →
      Db.folderIdle folder = true → Sound w.db → SameDirectory counted api cli → (∀ path ∈ cli.files, inside path) →
      (∀ path ∈ visits folder cli.files, Readable io w (row.operational w.disk) path) →
      Agree io counted api cli folder inside w := by
  let _ := sampleBlake3
  intro agree
  have skipped : visits (folderRow "photos" 1) ["photos/f.b3"] = [] := by decide +kernel
  have same := agree .healthy ⟨["photos/f.b3"],none⟩ ⟨["photos/f.b3"],none⟩ ⟨["photos/f.b3"],none⟩ (folderRow "photos" 1)
    (· = "photos/f.b3") (firstPair 1) (changedWorld "photos/f.b3") rfl rfl rfl (sound_changedWorld _)
    ⟨.rfl,.rfl,fun _ _ => .rfl⟩ (fun _ member => List.mem_singleton.mp member)
      (by rw [skipped]; exact fun _ member => absurd member List.not_mem_nil)
    "photos/f.b3" rfl
  exact absurd same (by decide +kernel)

end BitProtector.ScanAgreement
