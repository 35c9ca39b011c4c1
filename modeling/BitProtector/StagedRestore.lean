import BitProtector.BackupRepair
import BitProtector.DrivePaths
import BitProtector.VirtualPath
import BitProtector.Foundation.WriteAheadLog

/-! A restore of the tracking database, staged beside the live files and put in their
place before the next pool is opened. The live database is a main file with the frames of
its write-ahead log over it. -/
namespace BitProtector

/-- What SQLite finds in a main file and in a write-ahead log of these bytes. -/
class SqliteFiles (α : outParam Type) where
  pages : List UInt8 → WriteAheadLog.Image α
  frames : List UInt8 → List (WriteAheadLog.Frame α)

namespace StagedRestore
open Effect RootMarkers BackupRepair WriteAheadLog

structure RestoreResult where
  status : String
  restartRequired : Bool
  safetyBackupPath : String
  stagedRestorePath : String
  deriving DecidableEq, Repr

/-- `format!("{db_path}{suffix}")`. -/
def beside (db : Location) (suffix : String) : Location := ⟨db.root,db.relativePath ++ suffix⟩

def pendingRestorePath (db : Location) : Location := beside db ".restore-pending"

def safetyBackupPath (db : Location) (stamp : String) : Location := beside db (".safety-" ++ stamp)

def walPath (db : Location) : Location := beside db "-wal"

def shmPath (db : Location) : Location := beside db "-shm"

/-- The checks of the text, and that it is what the file system calls the file. -/
def validateDbRestoreTargetPath (facts : DrivePaths.PathFacts) (io : Io) (db : Location) : Act Unit := do
  let dbPath := db.display
  let trimmed := VirtualPath.trim dbPath.toList
  Act.ensure (!trimmed.isEmpty) "Database path is required"
  Act.ensure (dbPath.toList == trimmed) "Database path must not contain leading or trailing whitespace"
  Act.ensure (!(dbPath.toList.splitOn '/').contains ['.','.'])
    "Database path must not contain parent directory components"
  Act.ensure (dbPath.toList.head? == some '/') "Database path must be absolute"
  let canonicalPath ← DrivePaths.canonicalized facts dbPath s!"Failed to canonicalize database path: {dbPath}"
  Act.ensure (canonicalPath == dbPath)
    "Database path must be canonical and must not include symlinks or normalization components"
  Act.ensure (← Act.look (fun disk => disk.exists? db && io.isFile db))
    s!"Database path must point to an existing file: {canonicalPath}"

section
variable [Sqlite]

def stageRestore (facts : DrivePaths.PathFacts) (calls : RepairCalls) (db source : Location) : Act RestoreResult := do
  validateDbRestoreTargetPath facts calls.io db
  verifySqliteDatabase calls.io source
  let safetyPath := safetyBackupPath db calls.stamp
  Act.mapErr (fun _ => "Failed to create current database safety backup") (fsCopy calls.io db safetyPath)
  verifySqliteDatabase calls.io safetyPath
  let stagedPath := pendingRestorePath db
  Act.mapErr (fun _ => "Failed to stage database restore") (fsCopy calls.io source stagedPath)
  verifySqliteDatabase calls.io stagedPath
  pure ⟨"staged",true,safetyPath.display,stagedPath.display⟩

def removeSidecar (io : Io) (sidecar : Location) : Act Unit := do
  if ← Act.look (fun disk => disk.exists? sidecar) then
    let shown := sidecar.display
    Act.ensure (io.removeFile sidecar) s!"Failed to remove stale SQLite sidecar before restore apply: {shown}"
    Act.store (fun disk => disk.remove sidecar)

/-- The safety copy of what the staged file is to replace. -/
def copyReplaced (calls : RepairCalls) (db : Location) : Act Unit := do
  if ← Act.look (fun disk => disk.exists? db) then
    Act.mapErr (fun _ => "Failed to create pre-restore safety backup")
      (fsCopy calls.io db (safetyBackupPath db calls.stamp))

/-- The sidecars go with the file they belong to, and the staged file takes its place. -/
def installStaged (calls : RepairCalls) (db : Location) : Act Unit := do
  removeSidecar calls.io (walPath db)
  removeSidecar calls.io (shmPath db)
  Act.ensure calls.rename "Failed to apply staged database restore"
  Act.store (fun disk => renamed disk (pendingRestorePath db) db)

def applyPendingRestore (calls : RepairCalls) (db : Location) : Act (Option Location) := do
  if !(← Act.look (fun disk => disk.exists? (pendingRestorePath db))) then pure none
  else
    verifySqliteDatabase calls.io (pendingRestorePath db)
    copyReplaced calls db
    installStaged calls db
    pure (some (safetyBackupPath db calls.stamp))

end

/-! What the files hold. -/

section
variable {α : Type} [SqliteFiles α]

def mainPages (disk : Disk) (path : Location) : Image α :=
  match disk.node path with
  | some node => SqliteFiles.pages node.bytes
  | none => fun _ => none

def logFrames (disk : Disk) (db : Location) : List (Frame α) :=
  match disk.node (walPath db) with
  | some node => SqliteFiles.frames node.bytes
  | none => []

/-- Everything that was committed. -/
def committedState (disk : Disk) (db : Location) : Image α := shown (mainPages disk db) (logFrames disk db)

/-- What the last committed frame about a page left there is in the main file already. -/
def WrittenBack (disk : Disk) (db : Location) : Prop :=
  ∀ page (content : Option α), lastLeft (committed (logFrames disk db)) page = some content →
    mainPages disk db page = content

/-- The copy exists and shows this state by itself. -/
def Recovers (disk : Disk) (copy : Location) (state : Image α) : Prop :=
  disk.exists? copy = true ∧ mainPages disk copy = state

theorem recovers_iff {disk later : Disk} {db copy : Location} (there : later.exists? copy = true)
    (copied : mainPages later copy = mainPages (α := α) disk db) :
    Recovers later copy (committedState (α := α) disk db) ↔ WrittenBack disk db := by
  unfold Recovers WrittenBack
  rw [copied,committedState,← shown_eq_main]
  exact ⟨fun both => both.2.symm,fun same => ⟨there,same.symm⟩⟩

end

theorem beside_ne (db : Location) {first second : String} (apart : first ≠ second) : beside db first ≠ beside db second := by
  intro same
  apply apart
  exact String.append_right_inj _ |>.mp (congrArg Location.relativePath same)

theorem ne_beside (db : Location) {suffix : String} (named : suffix ≠ "") : db ≠ beside db suffix := by
  intro same
  apply named
  have path : db.relativePath ++ "" = db.relativePath ++ suffix := by
    rw [String.append_empty]
    exact congrArg Location.relativePath same
  exact ((String.append_right_inj _).mp path).symm

theorem safety_ne {stamp suffix : String} (apart : suffix.toList.take 2 ≠ ['.','s']) : ".safety-" ++ stamp ≠ suffix := by
  rintro rfl
  apply apart
  rw [String.toList_append]
  rfl

/-- What a copy that succeeds has left: all of its source. -/
theorem fsCopy_success {io : Io} {src dst : Location} {w t : World} (apart : src ≠ dst)
    (ok : fsCopy io src dst w = .ok () t) :
    ∃ node, w.disk.node src = some node ∧ t = { w with disk := w.disk.write dst node.bytes } := by
  cases enters : entersCopy io w.disk src dst with
  | false =>
    have failed : fsCopy io src dst w = .error osError w := not_enters_error enters _
    cases failed.symm.trans ok
  | true =>
    obtain ⟨opened,created,present⟩ := openFile_create_of_enters enters
    obtain ⟨node,found⟩ := Option.isSome_iff_exists.mp present
    have source : copySource w.disk src dst = node := by
      rw [copySource,Disk.write_other _ _ apart,found]
      rfl
    have copied := @copyLoop_created io src dst w present
    unfold fsCopy at ok
    rw [bind_of_ok opened,bind_of_ok created] at ok
    obtain ⟨_,u,permitted,ok⟩ := bind_success ok
    obtain ⟨_,rfl⟩ := Act.ensure_success permitted
    rw [bind_of_ok (Act.look_apply _ _)] at ok
    obtain ⟨_,v,looped,ok⟩ := bind_success ok
    cases ok
    rw [copied] at looped
    split at looped
    · rename_i arrived
      cases looped
      refine ⟨node,found,?_⟩
      rw [delivered_of_arrives arrived,source]
    · cases looped

/-- One file stays as it is. -/
def FileKept (path : Location) (w t : World) : Prop := t.disk.node path = w.disk.node path

instance (path : Location) : IsPreorder World (FileKept path) where
  refl _ := rfl
  trans _ _ _ first second := second.trans first

theorem fileKept_still {α : Type} {x : Act α} (path : Location) (still : ∀ w, after x w = w) : Keeps (FileKept path) x := by
  intro w
  rw [still]
  rfl

theorem node_of_kept {α : Type} {x : Act α} {path : Location} {w t : World} {a : α} (kept : Keeps (FileKept path) x)
    (ok : x w = .ok a t) : t.disk.node path = w.disk.node path := by
  have same := kept w
  rw [after_of_ok ok] at same
  exact same

theorem fileKept_fsCopy {io : Io} {src dst path : Location} (apart : path ≠ dst) (text : String → String) :
    Keeps (FileKept path) (Act.mapErr text (fsCopy io src dst)) := by
  intro w
  rw [Act.after_mapErr]
  exact (writesOnly_fsCopy io src dst w).others path apart

theorem fileKept_removeSidecar (io : Io) {sidecar path : Location} (apart : path ≠ sidecar) :
    Keeps (FileKept path) (removeSidecar io sidecar) := by
  refine keeps_bind (fileKept_still path fun _ => rfl) fun there => ?_
  cases there with
  | false => exact keeps_pure _
  | true =>
    refine keeps_bind (fileKept_still path (ensure_still _ _)) fun _ => ?_
    exact fun w => Disk.remove_other w.disk apart

theorem fileKept_validate (path : Location) (facts : DrivePaths.PathFacts) (io : Io) (db : Location) :
    Keeps (FileKept path) (validateDbRestoreTargetPath facts io db) := by
  refine keeps_bind (fileKept_still path (ensure_still _ _)) fun _ => ?_
  refine keeps_bind (fileKept_still path (ensure_still _ _)) fun _ => ?_
  refine keeps_bind (fileKept_still path (ensure_still _ _)) fun _ => ?_
  refine keeps_bind (fileKept_still path (ensure_still _ _)) fun _ => ?_
  refine keeps_bind (fileKept_still path fun _ => ?_) fun canonicalPath => ?_
  · unfold DrivePaths.canonicalized
    split <;> rfl
  · refine keeps_bind (fileKept_still path (ensure_still _ _)) fun _ => ?_
    exact keeps_bind (fileKept_still path fun _ => rfl) fun _ => fileKept_still path (ensure_still _ _)

theorem safety_apart_main (db : Location) (stamp : String) : db ≠ safetyBackupPath db stamp :=
  ne_beside db (safety_ne (by decide))

theorem safety_apart_pending (db : Location) (stamp : String) : safetyBackupPath db stamp ≠ pendingRestorePath db :=
  beside_ne db (safety_ne (by decide))

theorem safety_apart_wal (db : Location) (stamp : String) : safetyBackupPath db stamp ≠ walPath db :=
  beside_ne db (safety_ne (by decide))

theorem safety_apart_shm (db : Location) (stamp : String) : safetyBackupPath db stamp ≠ shmPath db :=
  beside_ne db (safety_ne (by decide))

theorem pending_apart_main (db : Location) : pendingRestorePath db ≠ db :=
  (ne_beside db (by decide)).symm

theorem saved_success {calls : RepairCalls} {db : Location} {w t : World} {text : String → String}
    (ok : Act.mapErr text (fsCopy calls.io db (safetyBackupPath db calls.stamp)) w = .ok () t) :
    ∃ node, w.disk.node db = some node ∧ t.disk.node (safetyBackupPath db calls.stamp) = some ⟨node.bytes,none⟩ := by
  obtain ⟨node,found,rfl⟩ := fsCopy_success (safety_apart_main db calls.stamp) (Act.mapErr_success ok)
  exact ⟨node,found,Disk.write_same _ _ _⟩

theorem removeSidecar_success {io : Io} {sidecar : Location} {w t : World} (ok : removeSidecar io sidecar w = .ok () t) :
    t.disk.node sidecar = none := by
  unfold removeSidecar at ok
  rw [bind_of_ok (Act.look_apply _ _)] at ok
  cases there : w.disk.exists? sidecar with
  | false =>
    rw [there] at ok
    cases ok
    exact Option.isSome_eq_false_iff.mp there |> Option.isNone_iff_eq_none.mp
  | true =>
    rw [there] at ok
    obtain ⟨_,u,_,removed⟩ := bind_success ok
    cases removed
    exact Disk.remove_same _ _

theorem installStaged_success {calls : RepairCalls} {db : Location} {w t : World}
    (ok : installStaged calls db w = .ok () t) :
    t.disk.node db = w.disk.node (pendingRestorePath db) ∧ t.disk.node (walPath db) = none ∧
      t.disk.node (shmPath db) = none ∧ t.disk.node (pendingRestorePath db) = none := by
  obtain ⟨_,u,first,ok⟩ := bind_success ok
  obtain ⟨_,v,second,last⟩ := bind_success ok
  obtain ⟨_,x,renames,installed⟩ := bind_success last
  obtain ⟨_,rfl⟩ := Act.ensure_success renames
  cases installed
  have walShm : walPath db ≠ shmPath db := beside_ne db (by decide)
  have pendingWal : pendingRestorePath db ≠ walPath db := beside_ne db (by decide)
  have pendingShm : pendingRestorePath db ≠ shmPath db := beside_ne db (by decide)
  have walMain : walPath db ≠ db := (ne_beside db (by decide)).symm
  have gone := (node_of_kept (fileKept_removeSidecar calls.io walShm) second).trans (removeSidecar_success first)
  have staged := (node_of_kept (fileKept_removeSidecar calls.io pendingShm) second).trans
    (node_of_kept (fileKept_removeSidecar calls.io pendingWal) first)
  have shmMain : shmPath db ≠ db := (ne_beside db (by decide)).symm
  refine ⟨?_,?_,?_,?_⟩
  · rw [← staged]
    exact if_pos rfl
  · rw [← gone]
    exact (if_neg walMain).trans (if_neg pendingWal.symm)
  · rw [← removeSidecar_success second]
    exact (if_neg shmMain).trans (if_neg pendingShm.symm)
  · exact (if_neg (pending_apart_main db)).trans (if_pos rfl)

theorem copyReplaced_success {calls : RepairCalls} {db : Location} {w t : World} (there : w.disk.exists? db = true)
    (ok : copyReplaced calls db w = .ok () t) :
    ∃ node, w.disk.node db = some node ∧ t.disk.node (safetyBackupPath db calls.stamp) = some ⟨node.bytes,none⟩ := by
  unfold copyReplaced at ok
  rw [bind_of_ok (Act.look_apply _ _),there] at ok
  exact saved_success ok

theorem fileKept_copyReplaced (calls : RepairCalls) {db path : Location} (apart : path ≠ safetyBackupPath db calls.stamp) :
    Keeps (FileKept path) (copyReplaced calls db) := by
  refine keeps_bind (fileKept_still path fun _ => rfl) fun there => ?_
  cases there with
  | false => exact keeps_pure _
  | true => exact fileKept_fsCopy apart _

theorem fileKept_installStaged (calls : RepairCalls) {db path : Location} (main : path ≠ db) (wal : path ≠ walPath db)
    (shm : path ≠ shmPath db) (pending : path ≠ pendingRestorePath db) : Keeps (FileKept path) (installStaged calls db) := by
  refine keeps_bind (fileKept_removeSidecar calls.io wal) fun _ => ?_
  refine keeps_bind (fileKept_removeSidecar calls.io shm) fun _ => ?_
  refine keeps_bind (fileKept_still path (ensure_still _ _)) fun _ => ?_
  exact fun w => (if_neg main).trans (if_neg pending)

section
variable [Sqlite]

theorem fileKept_verify (path : Location) (io : Io) (file : Location) :
    Keeps (FileKept path) (verifySqliteDatabase io file) := by
  apply fileKept_still path
  intro w
  rcases verifySqliteDatabase_cases io file w with ⟨verified,_⟩ | ⟨message,failed,_⟩
  · exact after_of_ok verified
  · exact after_of_error failed

theorem stageRestore_success {facts : DrivePaths.PathFacts} {calls : RepairCalls} {db source : Location} {w t : World}
    {result : RestoreResult} (ok : stageRestore facts calls db source w = .ok result t) :
    ∃ node, w.disk.node db = some node ∧ t.disk.node (safetyBackupPath db calls.stamp) = some ⟨node.bytes,none⟩ := by
  obtain ⟨_,u,valid,checks⟩ := bind_success ok
  obtain ⟨_,v,sound,saves⟩ := bind_success checks
  obtain ⟨_,x,saved,rechecks⟩ := bind_success saves
  obtain ⟨_,y,safe,stages⟩ := bind_success rechecks
  obtain ⟨_,z,staged,verifies⟩ := bind_success stages
  obtain ⟨_,last,verified,ended⟩ := bind_success verifies
  cases ended
  obtain ⟨node,found,written⟩ := saved_success saved
  refine ⟨node,?_,?_⟩
  · rw [← found,node_of_kept (fileKept_verify db calls.io source) sound,
      node_of_kept (fileKept_validate db facts calls.io db) valid]
  · rw [← written,node_of_kept (fileKept_verify _ calls.io (pendingRestorePath db)) verified,
      node_of_kept (fileKept_fsCopy (safety_apart_pending db calls.stamp) _) staged,
      node_of_kept (fileKept_verify _ calls.io (safetyBackupPath db calls.stamp)) safe]

theorem applyPendingRestore_success {calls : RepairCalls} {db safety : Location} {w t : World}
    (there : w.disk.exists? db = true) (ok : applyPendingRestore calls db w = .ok (some safety) t) :
    safety = safetyBackupPath db calls.stamp ∧
      (∃ node, w.disk.node db = some node ∧ t.disk.node safety = some ⟨node.bytes,none⟩) ∧
      t.disk.node db = w.disk.node (pendingRestorePath db) ∧ t.disk.node (walPath db) = none := by
  unfold applyPendingRestore at ok
  rw [bind_of_ok (Act.look_apply _ _)] at ok
  split at ok
  · cases ok
  · obtain ⟨_,u,sound,saves⟩ := bind_success ok
    obtain ⟨_,v,saved,installs⟩ := bind_success saves
    obtain ⟨_,x,installed,ended⟩ := bind_success installs
    cases ended
    have main := node_of_kept (fileKept_verify db calls.io (pendingRestorePath db)) sound
    have pending := (node_of_kept (fileKept_copyReplaced calls (safety_apart_pending db calls.stamp).symm) saved).trans
      (node_of_kept (fileKept_verify _ calls.io (pendingRestorePath db)) sound)
    have still : u.disk.exists? db = true := by
      rw [Disk.exists?,main]
      exact there
    obtain ⟨node,found,written⟩ := copyReplaced_success still saved
    obtain ⟨replaced,gone,_,_⟩ := installStaged_success installed
    refine ⟨rfl,⟨node,main ▸ found,?_⟩,replaced.trans pending,gone⟩
    rw [← written]
    exact node_of_kept (fileKept_installStaged calls (safety_apart_main db calls.stamp).symm (safety_apart_wal db calls.stamp)
      (safety_apart_shm db calls.stamp) (safety_apart_pending db calls.stamp)) installed

theorem applyPendingRestore_cases {calls : RepairCalls} {db : Location} {w t : World} {result : Option Location}
    (ok : applyPendingRestore calls db w = .ok result t) :
    (w.disk.node (pendingRestorePath db) = none ∧ t = w) ∨
      ((∃ staged, w.disk.node (pendingRestorePath db) = some staged) ∧
        t.disk.node db = w.disk.node (pendingRestorePath db) ∧ t.disk.node (walPath db) = none ∧
        t.disk.node (shmPath db) = none ∧ t.disk.node (pendingRestorePath db) = none) := by
  unfold applyPendingRestore at ok
  rw [bind_of_ok (Act.look_apply _ _)] at ok
  cases there : w.disk.exists? (pendingRestorePath db) with
  | false =>
    simp only [there,Bool.not_false,if_true] at ok
    cases ok
    exact .inl ⟨Option.isNone_iff_eq_none.mp (Option.isSome_eq_false_iff.mp there),rfl⟩
  | true =>
    simp only [there,Bool.not_true,Bool.false_eq_true,if_false] at ok
    obtain ⟨_,u,sound,saves⟩ := bind_success ok
    obtain ⟨_,v,saved,installs⟩ := bind_success saves
    obtain ⟨_,x,installed,ended⟩ := bind_success installs
    cases ended
    obtain ⟨replaced,gone,cleared,moved⟩ := installStaged_success installed
    have pending := (node_of_kept (fileKept_copyReplaced calls (safety_apart_pending db calls.stamp).symm) saved).trans
      (node_of_kept (fileKept_verify _ calls.io (pendingRestorePath db)) sound)
    exact .inr ⟨Option.isSome_iff_exists.mp there,replaced.trans pending,gone,cleared,moved⟩

/-- A safety copy is everything that was committed if and only if no committed frame of the log waits to be written to the
main file: what is copied when a restore is staged and when it is applied is the main file alone. -/
theorem safety_copies_complete {α : Type} [SqliteFiles α] (facts : DrivePaths.PathFacts) (calls : RepairCalls)
    (db source : Location) (w : World) :
    (∀ result t, stageRestore facts calls db source w = .ok result t →
      (Recovers t.disk (safetyBackupPath db calls.stamp) (committedState w.disk db) ↔ WrittenBack w.disk db)) ∧
    ∀ safety t, w.disk.exists? db = true → applyPendingRestore calls db w = .ok (some safety) t →
      t.disk.node db = w.disk.node (pendingRestorePath db) ∧ t.disk.node (walPath db) = none ∧
        (Recovers t.disk safety (committedState w.disk db) ↔ WrittenBack w.disk db) := by
  have copied {t : World} {copy : Location} {node : FileNode} (found : w.disk.node db = some node)
      (written : t.disk.node copy = some ⟨node.bytes,none⟩) :
      t.disk.exists? copy = true ∧ mainPages t.disk copy = mainPages w.disk db := by
    refine ⟨by rw [Disk.exists?,written]; rfl,?_⟩
    rw [mainPages,mainPages,written,found]
  constructor
  · intro result t ok
    obtain ⟨node,found,written⟩ := stageRestore_success ok
    obtain ⟨there,same⟩ := copied found written
    exact recovers_iff there same
  · intro safety t present ok
    obtain ⟨rfl,⟨node,found,written⟩,replaced,gone⟩ := applyPendingRestore_success present ok
    obtain ⟨there,same⟩ := copied found written
    exact ⟨replaced,gone,recovers_iff there same⟩

end

/-! A service with one frame in its log that no checkpoint has written back. -/

/-- Pages of one byte, and frames of three: the page, its content, and how many pages there are then. -/
def sampleFrames : List UInt8 → List (Frame UInt8)
  | page::content::size::rest =>
    ⟨page.toNat,content,if size = 0 then none else some size.toNat⟩::sampleFrames rest
  | _ => []

@[reducible] def sampleSqliteFiles : SqliteFiles UInt8 where
  pages bytes page := bytes[page]?
  frames := sampleFrames

@[reducible] def soundSqlite : Sqlite where
  integrityCheck _ := .ok ["ok"]

def liveDb : Location := ⟨"/var/lib/bitprotector","bitprotector.db"⟩

def backupCopy : Location := ⟨"/backup","bitprotector.db"⟩

def liveFacts : DrivePaths.PathFacts where
  exists? _ := true
  isDir _ := true
  canonicalize path := some path

def restoreCalls : RepairCalls := ⟨.healthy,"20250101000000",true⟩

/-- The main file has `main` as its one page, and the log a frame of it with `logged`. -/
def liveFiles (main logged : UInt8) : World where
  db := Db.empty
  disk :=
    { node := fun path =>
        if path = liveDb then some ⟨[main],none⟩
        else if path = walPath liveDb then some ⟨[0,logged,1],none⟩
        else if path = backupCopy then some ⟨[9],none⟩
        else none
      available := fun _ => true }

theorem safety_copies_checkpointed :
    letI := soundSqlite
    letI := sampleSqliteFiles
    ∃ result t, stageRestore liveFacts restoreCalls liveDb backupCopy (liveFiles 8 8) = .ok result t ∧
      Recovers t.disk (safetyBackupPath liveDb restoreCalls.stamp) (committedState (liveFiles 8 8).disk liveDb) := by
  let _ := soundSqlite
  let _ := sampleSqliteFiles
  obtain ⟨result,t,ran⟩ : ∃ result t,
      stageRestore liveFacts restoreCalls liveDb backupCopy (liveFiles 8 8) = .ok result t := ⟨_,_,rfl⟩
  refine ⟨result,t,ran,?_⟩
  apply ((safety_copies_complete liveFacts restoreCalls liveDb backupCopy (liveFiles 8 8)).1 result t ran).mpr
  intro page content last
  cases page with
  | zero =>
    cases last
    rfl
  | succ page =>
    have ended : lastLeft (committed (logFrames (liveFiles 8 8).disk liveDb)) (page + 1) = some (none : Option UInt8) := by
      change (none : Option (Option UInt8)).or (Frame.leaves ⟨0,8,some 1⟩ (page + 1)) = _
      simp [Frame.leaves]
    cases ended.symm.trans last
    rfl

theorem safety_copies_lack_the_log :
    letI := soundSqlite
    letI := sampleSqliteFiles
    ∃ result t safety u,
      stageRestore liveFacts restoreCalls liveDb backupCopy (liveFiles 7 8) = .ok result t ∧
      ¬Recovers t.disk (safetyBackupPath liveDb restoreCalls.stamp) (committedState (liveFiles 7 8).disk liveDb) ∧
      applyPendingRestore restoreCalls liveDb t = .ok (some safety) u ∧
      ¬Recovers u.disk safety (committedState t.disk liveDb) ∧
      mainPages u.disk liveDb 0 = some 9 ∧ u.disk.node (walPath liveDb) = none := by
  let _ := soundSqlite
  let _ := sampleSqliteFiles
  refine ⟨_,_,_,_,rfl,?_,rfl,?_,rfl,rfl⟩
  · intro recovers
    have page := congrFun recovers.2 0
    revert page
    decide
  · intro recovers
    have page := congrFun recovers.2 0
    revert page
    decide

end StagedRestore

end BitProtector
