import BitProtector.BackupRepair
import BitProtector.Foundation.Machine

/-! Which backup files a check takes for healthy. Each write of a backup leaves its hash beside
it; the check asks SQLite about the file and does not read that hash. -/
namespace BitProtector.TrustedBackups
open Effect RootMarkers BackupRepair

/-! The backup runs. -/

structure BackupResult where
  backupConfigId : Nat
  backupPath : String
  status : String
  error : Option String
  deriving DecidableEq, Repr

/-- What the calls of one backup run answer. -/
structure BackupRun where
  /-- What SQLite's backup makes of the live database, or why it fails. -/
  snapshot : Except String (List UInt8)
  tempDir : String
  statusWrite : Nat → Option String
  /-- The write of a configuration. -/
  write : Nat → RepairCalls

def withLastError (s : Backups) (id : Nat) (error : Option String) : Backups :=
  { s with
    configs := s.configs.updateWhere (fun config => config.id == id) (fun config => { config with lastError := error })
      (fun _ => rfl) }

def setLastError (run : BackupRun) (id : Nat) (error : Option String) : BackupAct Unit := fun s =>
  match run.statusWrite s.statusWrites with
  | some message => .error message s.attempted
  | none => .ok () (withLastError s.attempted id error)

/-- The time of the last backup is left out. -/
def updateDbBackupLastBackup (run : BackupRun) (id : Nat) : BackupAct Unit := setLastError run id none

def updateDbBackupError (run : BackupRun) (id : Nat) (error : Option String) : BackupAct Unit := setLastError run id error

def backupTmpPath (dest : Location) (stamp : String) : Location := ⟨dest.root,"." ++ backupFilename ++ "." ++ stamp ++ ".tmp"⟩

def checksumPath (dest : Location) : Location := ⟨dest.root,checksumFilename⟩

def installBackup (calls : RepairCalls) (src dst : Location) : BackupAct Unit := fun s =>
  if calls.rename then .ok () { s with disk := renamed s.disk src dst }
  else .error "Failed to install database backup atomically" s

section
variable [Sqlite] [Blake3]

/-- The hash that goes beside a file of these bytes. -/
def recordOf (bytes : List UInt8) : List UInt8 := (checksumBytes bytes).toUTF8.toList

def writeBackupFile (names : String → String) (calls : RepairCalls) (snapshotPath : Location) (config : DbBackupConfig) :
    BackupAct Location := do
  let finalPath := backupFilePath names config
  onDisk (Act.mapErr (fun _ => "Failed to create backup directory") (createParentDirs calls.io finalPath))
  let tmpPath := backupTmpPath finalPath calls.stamp
  onDisk (Act.mapErr (fun _ => "Failed to copy database backup") (fsCopy calls.io snapshotPath tmpPath))
  onDisk (verifySqliteDatabase calls.io tmpPath)
  let checksum ← onDisk (checksumFile calls.io tmpPath .streaming)
  installBackup calls tmpPath finalPath
  onDisk (Act.ensure (calls.io.writeFile (checksumPath finalPath)) "Failed to write database backup checksum")
  onDisk (Act.store (fun disk => disk.write (checksumPath finalPath) checksum.toUTF8.toList))
  pure finalPath

def createSqliteSnapshot (run : BackupRun) (snapshotPath : Location) : BackupAct Unit := do
  match run.snapshot with
  | .error message => throw message
  | .ok bytes => do
    onDisk (Act.store (fun disk => disk.write snapshotPath bytes))
    onDisk (verifySqliteDatabase .healthy snapshotPath)

def backUp (names : String → String) (run : BackupRun) (snapshotPath : Location) (config : DbBackupConfig) :
    BackupAct BackupResult := do
  match ← attempt (writeBackupFile names (run.write config.id) snapshotPath config) with
  | .ok path => do
    let _ ← attempt (updateDbBackupLastBackup run config.id)
    pure ⟨config.id,path.display,"success",none⟩
  | .error message => do
    let _ ← attempt (updateDbBackupError run config.id (some message))
    pure ⟨config.id,(backupFilePath names config).display,"failed",some message⟩

def backUpAll (names : String → String) (run : BackupRun) (snapshotPath : Location) :
    List DbBackupConfig → BackupAct (List BackupResult)
  | [] => pure []
  | config::configs => do
    let result ← backUp names run snapshotPath config
    let results ← backUpAll names run snapshotPath configs
    pure (result::results)

/-- However it ends, the temporary directory is gone. -/
def withTempFile {α : Type} (path : Location) (x : BackupAct α) : BackupAct α := fun s =>
  match x s with
  | .ok a t => .ok a { t with disk := t.disk.remove path }
  | .error message t => .error message { t with disk := t.disk.remove path }

def runAllBackups (names : String → String) (run : BackupRun) : BackupAct (List BackupResult) := do
  let s ← get
  let enabled := enabledConfigs s.configs
  if enabled.isEmpty then pure []
  else
    let snapshotPath : Location := ⟨run.tempDir,backupFilename⟩
    withTempFile snapshotPath (do
      createSqliteSnapshot run snapshotPath
      backUpAll names run snapshotPath enabled)

/-! What lies beside a backup. -/

/-- The hash of the file is the one that the last write of a backup left beside it. -/
def Matches (disk : Disk) (path : Location) : Prop :=
  ∃ node, disk.node path = some node ∧ disk.node (checksumPath path) = some ⟨recordOf node.bytes,none⟩

/-- In the directory, what passes for a backup is what was written last. -/
def ConsistentAt (disk : Disk) (root : String) : Prop :=
  Healthy disk ⟨root,backupFilename⟩ → Matches disk ⟨root,backupFilename⟩

/-- A name that a backup or its hash has. -/
def Published (path : Location) : Prop := path.relativePath = backupFilename ∨ path.relativePath = checksumFilename

omit [Sqlite] [Blake3] in
theorem hidden_apart {path : Location} (published : Published path) {root rest : String} : path ≠ ⟨root,"." ++ rest⟩ := by
  intro same
  have name : path.relativePath = "." ++ rest := congrArg Location.relativePath same
  have dot : ("." ++ rest).toList.head? = some '.' := by
    rw [String.toList_append]
    rfl
  rcases published with own | own <;> rw [own] at name <;> rw [← name] at dot <;> exact absurd dot (by decide)

omit [Sqlite] [Blake3] in
theorem backupTmpPath_apart {path : Location} (published : Published path) (dest : Location) (stamp : String) :
    path ≠ backupTmpPath dest stamp := by
  rw [backupTmpPath,String.append_assoc,String.append_assoc,String.append_assoc]
  exact hidden_apart published

omit [Sqlite] [Blake3] in
theorem repairTmpPath_hidden {path : Location} (published : Published path) (dest : Location) (stamp : String) :
    path ≠ repairTmpPath dest stamp := by
  rw [repairTmpPath,String.append_assoc,String.append_assoc,String.append_assoc]
  exact hidden_apart published

/-- The directory stays consistent from `s` to `t`. -/
def StaysConsistent (root : String) (s t : Backups) : Prop := ConsistentAt s.disk root → ConsistentAt t.disk root

instance (root : String) : IsPreorder Backups (StaysConsistent root) where
  refl _ := id
  trans _ _ _ first second := second ∘ first

theorem staysConsistent_of_published {root : String} {s t : Backups}
    (same : ∀ path, path.root = root → Published path → t.disk.node path = s.disk.node path) : StaysConsistent root s t := by
  have file := same ⟨root,backupFilename⟩ rfl (.inl rfl)
  have record := same (checksumPath ⟨root,backupFilename⟩) rfl (.inr rfl)
  intro consistent healthy
  unfold Matches
  rw [file,record]
  exact consistent (healthy_of_node file.symm healthy)

theorem staysConsistent_onDisk {α : Type} {x : Act α} (root : String)
    (kept : ∀ w path, path.root = root → Published path → (after x w).disk.node path = w.disk.node path) :
    Keeps (StaysConsistent root) (onDisk x) := by
  intro s
  have same := kept ⟨Db.empty,s.disk⟩
  cases ran : x ⟨Db.empty,s.disk⟩ with
  | ok a t =>
    rw [after_of_ok ran] at same
    rw [after_of_ok (onDisk_of_ok ran)]
    exact staysConsistent_of_published same
  | error message t =>
    rw [after_of_error ran] at same
    rw [after_of_error (onDisk_of_error ran)]
    exact staysConsistent_of_published same

theorem staysConsistent_still {α : Type} {x : Act α} (root : String) (still : ∀ w, after x w = w) :
    Keeps (StaysConsistent root) (onDisk x) :=
  staysConsistent_onDisk root fun w _ _ _ => by rw [still]

theorem staysConsistent_fsCopy (root : String) (io : Io) (source tmp : Location) (text : String → String)
    (hidden : ∀ path, Published path → path ≠ tmp) :
    Keeps (StaysConsistent root) (onDisk (Act.mapErr text (fsCopy io source tmp))) := by
  apply staysConsistent_onDisk
  intro w path _ published
  rw [Act.after_mapErr]
  exact (writesOnly_fsCopy io source tmp w).others path (hidden path published)

theorem staysConsistent_createParentDirs (root : String) (io : Io) (dest : Location) (text : String → String) :
    Keeps (StaysConsistent root) (onDisk (Act.mapErr text (createParentDirs io dest))) := by
  apply staysConsistent_onDisk
  intro w path _ _
  rw [Act.after_mapErr]
  exact createParentDirs_node io dest w path

/-! A write that records what it has installed. -/

/-- If the backup is put in its place its hash is written too. -/
def Records (calls : RepairCalls) (dest : Location) : Prop :=
  calls.rename = true → calls.io.writeFile (checksumPath dest) = true

/-- The same for a repair, which reads the installed file for its hash. -/
def RereadsAndRecords (calls : RepairCalls) (dest : Location) : Prop :=
  calls.rename = true → calls.io.openRead dest = true ∧ calls.io.writeFile (checksumPath dest) = true

/-- The disk with a backup and its hash. -/
def published (disk : Disk) (tmp dest : Location) (bytes : List UInt8) : Disk :=
  (renamed disk tmp dest).write (checksumPath dest) (recordOf bytes)

omit [Sqlite] in
theorem matches_published {disk : Disk} {tmp dest : Location} {node : FileNode}
    (canonical : dest.relativePath = backupFilename) (found : disk.node tmp = some node) :
    Matches (published disk tmp dest node.bytes) dest := by
  refine ⟨node,?_,Disk.write_same _ _ _⟩
  have file : dest ≠ checksumPath dest := checksumPath_apart dest dest canonical
  rw [published,Disk.write_other _ _ file]
  simp only [renamed,if_true]
  exact found

theorem consistentAt_published {root : String} {disk : Disk} {tmp dest : Location} {node : FileNode}
    (hidden : ∀ path, Published path → path ≠ tmp) (canonical : dest.relativePath = backupFilename)
    (found : disk.node tmp = some node) (consistent : ConsistentAt disk root) :
    ConsistentAt (published disk tmp dest node.bytes) root := by
  by_cases own : dest = ⟨root,backupFilename⟩
  · rw [ConsistentAt,← own]
    intro _
    exact matches_published canonical found
  · have elsewhere : dest.root ≠ root := fun same => own (by rw [← same,← canonical])
    have kept (path : Location) (inside : path.root = root) (named : Published path) :
        (published disk tmp dest node.bytes).node path = disk.node path := by
      have apart : path ≠ dest := fun same => elsewhere (by rw [← same,inside])
      have record : path ≠ checksumPath dest := fun same => elsewhere (by rw [← inside,same]; rfl)
      rw [published,Disk.write_other _ _ record]
      simp only [renamed,apart,hidden path named,if_false]
    intro healthy
    have same : (published disk tmp dest node.bytes).node ⟨root,backupFilename⟩ = disk.node ⟨root,backupFilename⟩ :=
      kept ⟨root,backupFilename⟩ rfl (.inl rfl)
    obtain ⟨other,there,record⟩ := consistent (healthy_of_node same.symm healthy)
    exact ⟨other,same.trans there,(kept (checksumPath ⟨root,backupFilename⟩) rfl (.inr rfl)).trans record⟩

omit [Sqlite] in
theorem checksumFile_cases (io : Io) {w : World} {path : Location} {node : FileNode} (found : w.disk.node path = some node)
    (whole : node.whole = true) (strategy : ChecksumStrategy) :
    (io.openRead path = true ∧ checksumFile io path strategy w = .ok (checksumBytes node.bytes) w) ∨
      (io.openRead path = false ∧ ∃ message, checksumFile io path strategy w = .error message w) := by
  rw [checksumFile_run,found]
  cases opens : io.openRead path with
  | true => exact .inl ⟨rfl,by simp only [whole,Bool.and_self,if_true]⟩
  | false => exact .inr ⟨rfl,osError,by simp only [Bool.false_and,Bool.false_eq_true,if_false]⟩

omit [Sqlite] in
theorem record_run {calls : RepairCalls} {tmp dest : Location} {s : Backups} {bytes : List UInt8} {α : Type} (a : α)
    (writes : calls.io.writeFile (checksumPath dest) = true) (message : String) :
    (do
      onDisk (Act.ensure (calls.io.writeFile (checksumPath dest)) message)
      onDisk (Act.store (fun disk => disk.write (checksumPath dest) (checksumBytes bytes).toUTF8.toList))
      pure a : BackupAct α) { s with disk := renamed s.disk tmp dest } =
      .ok a { s with disk := published s.disk tmp dest bytes } := by
  rw [writes]
  rfl

theorem staysConsistent_writeBackupFile (root : String) (names : String → String) {calls : RepairCalls}
    (snapshotPath : Location) (config : DbBackupConfig) (records : Records calls (backupFilePath names config)) :
    Keeps (StaysConsistent root) (writeBackupFile names calls snapshotPath config) := by
  have hidden (path : Location) (named : Published path) : path ≠ backupTmpPath (backupFilePath names config) calls.stamp :=
    backupTmpPath_apart named _ _
  unfold writeBackupFile
  apply keeps_bind (staysConsistent_createParentDirs root calls.io _ _)
  intro _
  apply keeps_bind (staysConsistent_fsCopy root calls.io snapshotPath _ _ hidden)
  intro _ s
  rcases verifySqliteDatabase_cases calls.io (backupTmpPath (backupFilePath names config) calls.stamp) ⟨Db.empty,s.disk⟩ with
    ⟨verified,node,found,whole,_⟩ | ⟨message,failed,_⟩
  · rw [after_bind_of_ok (onDisk_of_ok verified)]
    rcases checksumFile_cases calls.io (w := ⟨Db.empty,s.disk⟩) found whole .streaming with ⟨_,hashed⟩ | ⟨_,message,failed⟩
    · rw [after_bind_of_ok (onDisk_of_ok hashed)]
      cases renames : calls.rename with
      | false =>
        have failed : installBackup calls (backupTmpPath (backupFilePath names config) calls.stamp)
            (backupFilePath names config) s = .error "Failed to install database backup atomically" s := by
          rw [installBackup,renames]
          rfl
        rw [after_bind_of_error failed]
        exact refl_of (StaysConsistent root) s
      | true =>
        have installed : installBackup calls (backupTmpPath (backupFilePath names config) calls.stamp)
            (backupFilePath names config) s = .ok () { s with
              disk := renamed s.disk (backupTmpPath (backupFilePath names config) calls.stamp)
                (backupFilePath names config) } := by
          rw [installBackup,renames]
          rfl
        rw [after_bind_of_ok installed,after_of_ok (record_run (s := s) _ (records renames) _)]
        exact consistentAt_published hidden rfl found
    · rw [after_bind_of_error (onDisk_of_error failed)]
      exact refl_of (StaysConsistent root) s
  · rw [after_bind_of_error (onDisk_of_error failed)]
    exact refl_of (StaysConsistent root) s

theorem staysConsistent_copyBackupAtomically (root : String) {calls : RepairCalls} (id : Nat) (source : Location)
    {dest : Location} (canonical : dest.relativePath = backupFilename) (records : RereadsAndRecords calls dest) :
    Keeps (StaysConsistent root) (copyBackupAtomically calls id source dest) := by
  have hidden (path : Location) (named : Published path) : path ≠ repairTmpPath dest calls.stamp :=
    repairTmpPath_hidden named _ _
  unfold copyBackupAtomically
  apply keeps_bind (staysConsistent_createParentDirs root calls.io _ _)
  intro _
  apply keeps_bind (staysConsistent_fsCopy root calls.io source _ _ hidden)
  intro _ s
  rcases verifySqliteDatabase_cases calls.io (repairTmpPath dest calls.stamp) ⟨Db.empty,s.disk⟩ with
    ⟨verified,node,found,whole,_⟩ | ⟨message,failed,_⟩
  · rw [after_bind_of_ok (onDisk_of_ok verified)]
    cases renames : calls.rename with
    | false =>
      have failed : renameOver calls id (repairTmpPath dest calls.stamp) dest s =
          .error "Failed to replace corrupt database backup" s := by
        rw [renameOver,renames]
        rfl
      rw [after_bind_of_error failed]
      exact refl_of (StaysConsistent root) s
    | true =>
      obtain ⟨opens,writes⟩ := records renames
      have installed : renameOver calls id (repairTmpPath dest calls.stamp) dest s = .ok () { s with
          disk := renamed s.disk (repairTmpPath dest calls.stamp) dest,journal := s.journal ++ [.replaced id] } := by
        rw [renameOver,renames]
        rfl
      have there : (renamed s.disk (repairTmpPath dest calls.stamp) dest).node dest = some node := by
        simp only [renamed,if_true]
        exact found
      rw [after_bind_of_ok installed,
        after_bind_of_ok (onDisk_of_ok (checksumFile_whole calls.io there opens whole .streaming))]
      have allowed (w : World) : Act.ensure (calls.io.writeFile ⟨dest.root,checksumFilename⟩)
          "Failed to write repaired backup checksum" w = .ok () w := by
        rw [checksumPath] at writes
        rw [writes]
        exact Act.ensure_true _ _
      dsimp only
      rw [after_bind_of_ok (onDisk_of_ok (allowed _))]
      exact consistentAt_published hidden canonical found
  · rw [after_bind_of_error (onDisk_of_error failed)]
    exact refl_of (StaysConsistent root) s

theorem writeBackupFile_matches {names : String → String} {calls : RepairCalls} {snapshotPath path : Location}
    {config : DbBackupConfig} {s t : Backups} (ran : writeBackupFile names calls snapshotPath config s = .ok path t) :
    path = backupFilePath names config ∧ Matches t.disk path := by
  obtain ⟨_,_,_,afterParents⟩ := bind_success ran
  obtain ⟨_,u,_,afterCopy⟩ := bind_success afterParents
  obtain ⟨_,v,verified,afterVerify⟩ := bind_success afterCopy
  rcases verifySqliteDatabase_cases calls.io (backupTmpPath (backupFilePath names config) calls.stamp) ⟨Db.empty,u.disk⟩ with
    ⟨passed,node,found,whole,_⟩ | ⟨message,failed,_⟩
  · cases verified.symm.trans (onDisk_of_ok passed)
    rcases checksumFile_cases calls.io (w := ⟨Db.empty,u.disk⟩) found whole .streaming with ⟨_,hashed⟩ | ⟨_,message,failed⟩
    · rw [bind_of_ok (onDisk_of_ok hashed)] at afterVerify
      obtain ⟨_,w,installs,recorded⟩ := bind_success afterVerify
      unfold installBackup at installs
      split at installs
      · cases installs
        cases writes : calls.io.writeFile (checksumPath (backupFilePath names config)) with
        | true =>
          cases recorded.symm.trans (record_run (s := u) _ writes _)
          exact ⟨rfl,matches_published rfl found⟩
        | false =>
          rw [writes] at recorded
          cases recorded
      · cases installs
    · rw [bind_of_error (onDisk_of_error failed)] at afterVerify
      cases afterVerify
  · cases verified.symm.trans (onDisk_of_error failed)

theorem copyBackupAtomically_matches {calls : RepairCalls} {id : Nat} {source dest : Location} {s t : Backups}
    (canonical : dest.relativePath = backupFilename) (ran : copyBackupAtomically calls id source dest s = .ok () t) :
    Matches t.disk dest := by
  obtain ⟨_,_,_,afterParents⟩ := bind_success ran
  obtain ⟨_,u,_,afterCopy⟩ := bind_success afterParents
  obtain ⟨_,v,verified,afterVerify⟩ := bind_success afterCopy
  rcases verifySqliteDatabase_cases calls.io (repairTmpPath dest calls.stamp) ⟨Db.empty,u.disk⟩ with
    ⟨passed,node,found,whole,_⟩ | ⟨message,failed,_⟩
  · cases verified.symm.trans (onDisk_of_ok passed)
    obtain ⟨_,w,installs,afterRename⟩ := bind_success afterVerify
    unfold renameOver at installs
    split at installs
    · cases installs
      have there : (renamed u.disk (repairTmpPath dest calls.stamp) dest).node dest = some node := by
        simp only [renamed,if_true]
        exact found
      rcases checksumFile_cases calls.io (w := ⟨Db.empty,renamed u.disk (repairTmpPath dest calls.stamp) dest⟩) there whole
        .streaming with ⟨_,hashed⟩ | ⟨_,message,failed⟩
      · rw [bind_of_ok (onDisk_of_ok hashed)] at afterRename
        obtain ⟨_,x,allowed,stored⟩ := bind_success afterRename
        cases writes : calls.io.writeFile ⟨dest.root,checksumFilename⟩ with
        | true =>
          rw [writes] at allowed
          cases allowed
          cases stored
          exact matches_published canonical found
        | false =>
          rw [writes] at allowed
          cases allowed
      · rw [bind_of_error (onDisk_of_error failed)] at afterRename
        cases afterRename
    · cases installs
  · cases verified.symm.trans (onDisk_of_error failed)

/-! Whole runs of the writer and of the check. -/

theorem staysConsistent_of_disk (root : String) {s t : Backups} (same : t.disk = s.disk) : StaysConsistent root s t := by
  intro consistent
  rw [same]
  exact consistent

theorem staysConsistent_updateStatus (root : String) (run : Run) (id : Nat) (status : String) (error : Option String) :
    Keeps (StaysConsistent root) (updateDbBackupIntegrityStatus run id status error) := by
  intro s
  rcases updateStatus_cases run id status error s with ⟨message,_,failed⟩ | ⟨_,done⟩
  · rw [after_of_error failed]
    exact staysConsistent_of_disk root rfl
  · rw [after_of_ok done]
    exact staysConsistent_of_disk root rfl

theorem staysConsistent_retry (root : String) (run : Run) (id : Nat) (status : String) (error : Option String)
    (attempts : Nat) (lastError : Option String) :
    Keeps (StaysConsistent root) (retryStatusWrite run id status error attempts lastError) := by
  induction attempts generalizing lastError with
  | zero => exact keeps_pure _
  | succ attempts ih =>
    apply keeps_bind (keeps_attempt (staysConsistent_updateStatus root run id status error))
    intro result
    cases result with
    | ok _ => exact keeps_pure _
    | error message => exact ih (some message)

theorem staysConsistent_presentStatus (root : String) (path : Location) :
    Keeps (StaysConsistent root) (presentStatus path) := by
  intro s
  obtain ⟨status,looked,_⟩ := presentStatus_run path s
  rw [after_of_ok looked]
  exact refl_of (StaysConsistent root) s

theorem staysConsistent_replaceBackup (root : String) {run : Run} (sourceId : Nat) (sourcePath : Location)
    {item : BackupHealth} (canonical : item.path.relativePath = backupFilename)
    (records : RereadsAndRecords (run.repair item.config.id) item.path) :
    Keeps (StaysConsistent root) (replaceBackup run sourceId sourcePath item) := by
  unfold replaceBackup
  apply keeps_bind (keeps_attempt (keeps_bind
    (staysConsistent_copyBackupAtomically root item.config.id sourcePath canonical records)
    fun _ => staysConsistent_still root fun w => checksumFile_after _ w _ _))
  intro result
  cases result with
  | ok checksum => exact keeps_bind (staysConsistent_retry root run _ _ _ _ _) fun _ => keeps_pure _
  | error message => exact keeps_bind (keeps_attempt (staysConsistent_updateStatus root run _ _ _)) fun _ => keeps_pure _

theorem staysConsistent_settleBackup (root : String) {run : Run} (source : Option (Nat × Location)) {item : BackupHealth}
    (canonical : item.path.relativePath = backupFilename)
    (records : RereadsAndRecords (run.repair item.config.id) item.path) :
    Keeps (StaysConsistent root) (settleBackup run source item) := by
  have unhealthy : Keeps (StaysConsistent root) (reportUnhealthy run item) := by
    apply keeps_bind (staysConsistent_presentStatus root item.path)
    intro status
    exact keeps_bind (keeps_attempt (staysConsistent_updateStatus root run _ _ _)) fun _ => keeps_pure _
  unfold settleBackup
  split
  · exact keeps_bind (keeps_attempt (staysConsistent_updateStatus root run _ _ _)) fun _ => keeps_pure _
  · split
    · exact unhealthy
    · rename_i sourceId sourcePath
      split
      · unfold repairBackup
        apply keeps_bind (staysConsistent_presentStatus root item.path)
        intro preStatus
        apply keeps_bind (staysConsistent_retry root run _ _ _ _ _)
        intro (written,reason)
        cases written with
        | true => exact staysConsistent_replaceBackup root sourceId sourcePath canonical records
        | false => exact keeps_pure _
      · exact unhealthy

theorem staysConsistent_settleBackups (root : String) {run : Run} (source : Option (Nat × Location))
    {items : List BackupHealth} (canonical : ∀ item ∈ items, item.path.relativePath = backupFilename)
    (records : ∀ item ∈ items, RereadsAndRecords (run.repair item.config.id) item.path) :
    Keeps (StaysConsistent root) (settleBackups run source items) := by
  induction items with
  | nil => exact keeps_pure _
  | cons item items ih =>
    apply keeps_bind (staysConsistent_settleBackup root source (canonical item List.mem_cons_self)
      (records item List.mem_cons_self))
    intro result
    apply keeps_bind (ih (fun other member => canonical other (List.mem_cons_of_mem _ member))
      fun other member => records other (List.mem_cons_of_mem _ member))
    intro results
    exact keeps_pure _

theorem staysConsistent_check (root : String) (names : String → String) {run : Run} {s : Backups}
    (records : ∀ config ∈ enabledConfigs s.configs,
      RereadsAndRecords (run.repair config.id) (backupFilePath names config)) :
    StaysConsistent root s (after (runBackupIntegrityCheck names run) s) := by
  obtain ⟨items,inspected,canonical,same⟩ := runBackupIntegrityCheck_yields names run s
  rw [after,same]
  refine staysConsistent_settleBackups root _ canonical (fun item member => ?_) s
  obtain ⟨listed,found⟩ := inspected_mem inspected member
  rw [found.at_path]
  exact records item.config listed

theorem staysConsistent_setLastError (root : String) (run : BackupRun) (id : Nat) (error : Option String) :
    Keeps (StaysConsistent root) (setLastError run id error) := by
  intro s
  apply staysConsistent_of_disk
  unfold after setLastError
  cases run.statusWrite s.statusWrites <;> rfl

theorem staysConsistent_backUpAll (root : String) (names : String → String) {run : BackupRun} (snapshotPath : Location)
    {configs : List DbBackupConfig}
    (records : ∀ config ∈ configs, Records (run.write config.id) (backupFilePath names config)) :
    Keeps (StaysConsistent root) (backUpAll names run snapshotPath configs) := by
  induction configs with
  | nil => exact keeps_pure _
  | cons config configs ih =>
    apply keeps_bind
    · unfold backUp
      apply keeps_bind (keeps_attempt (staysConsistent_writeBackupFile root names snapshotPath config
        (records config List.mem_cons_self)))
      intro result
      cases result with
      | ok path => exact keeps_bind (keeps_attempt (staysConsistent_setLastError root run _ _)) fun _ => keeps_pure _
      | error message => exact keeps_bind (keeps_attempt (staysConsistent_setLastError root run _ _)) fun _ => keeps_pure _
    · intro result
      exact keeps_bind (ih fun other member => records other (List.mem_cons_of_mem _ member)) fun _ => keeps_pure _

theorem staysConsistent_snapshot {root : String} {run : BackupRun} (elsewhere : root ≠ run.tempDir) :
    Keeps (StaysConsistent root) (createSqliteSnapshot run ⟨run.tempDir,backupFilename⟩) := by
  unfold createSqliteSnapshot
  cases run.snapshot with
  | error message => exact keeps_throw message
  | ok bytes =>
    apply keeps_bind
    · apply staysConsistent_onDisk
      intro w path inside _
      refine Disk.write_other _ _ fun same => elsewhere ?_
      rw [← inside,same]
    · intro _
      apply staysConsistent_still
      intro w
      rcases verifySqliteDatabase_cases .healthy ⟨run.tempDir,backupFilename⟩ w with ⟨verified,_⟩ | ⟨message,failed,_⟩
      · exact after_of_ok verified
      · exact after_of_error failed

omit [Sqlite] [Blake3] in
theorem after_withTempFile {α : Type} (path : Location) (x : BackupAct α) (s : Backups) :
    after (withTempFile path x) s = { after x s with disk := (after x s).disk.remove path } := by
  unfold after withTempFile
  cases x s <;> rfl

theorem staysConsistent_runAllBackups (root : String) (names : String → String) {run : BackupRun} {s : Backups}
    (records : ∀ config ∈ enabledConfigs s.configs, Records (run.write config.id) (backupFilePath names config)) :
    StaysConsistent root s (after (runAllBackups names run) s) := by
  have reads : (get : BackupAct Backups) s = .ok s s := rfl
  unfold runAllBackups
  rw [after_bind_of_ok reads]
  dsimp only
  split
  · exact refl_of (StaysConsistent root) s
  · rw [after_withTempFile]
    by_cases own : root = run.tempDir
    · subst own
      intro _ healthy
      obtain ⟨node,found,_⟩ := healthy
      rw [Disk.remove_same] at found
      cases found
    · refine trans_of (StaysConsistent root) (keeps_bind (staysConsistent_snapshot own)
        (fun _ => staysConsistent_backUpAll root names ⟨run.tempDir,backupFilename⟩ records) s) (staysConsistent_of_published ?_)
      intro path inside _
      refine Disk.remove_other _ fun same => own ?_
      rw [← inside,same]

/-! What a check reports. -/

/-- How a result tells what was done for a destination. -/
structure Reported (run : Run) (source : Option (Nat × Location)) (item : BackupHealth) (result : BackupIntegrityResult) :
    Prop where
  about : result.backupConfigId = item.config.id
  ok : result.status = "ok" ↔ item.isHealthy = true ∧ item.config.inErrorState = false
  repaired : ∀ id, result.repairedFromId = some id → item.isHealthy = false ∧ ∃ path, source = some (id,path)
  repairs : item.isHealthy = false → (∀ n, run.statusWrite n = none) →
    ∀ id path, source = some (id,path) → id ≠ item.config.id → result.repairedFromId = some id

omit [Sqlite] [Blake3] in
theorem updateStatus_attempted (run : Run) (id : Nat) (status : String) (error : Option String) (s : Backups) :
    Yields (attempt (updateDbBackupIntegrityStatus run id status error)) s (fun _ _ => True) :=
  yields_attempt (fun _ _ _ => trivial) (fun _ _ _ => trivial)

omit [Sqlite] [Blake3] in
theorem retry_marked (run : Run) (id : Nat) (status : String) (error : Option String) (attempts : Nat)
    (lastError : Option String) (s : Backups) :
    Yields (retryStatusWrite run id status error (attempts + 1) lastError) s (fun result _ =>
      (∀ n, run.statusWrite n = none) → result.1 = true) := by
  rcases updateStatus_cases run id status error s with ⟨message,refused,_⟩ | ⟨_,done⟩
  · apply (retryStatusWrite_yields run id status error (attempts + 1) lastError s).mono
    intro result t _ writes
    rw [writes] at refused
    cases refused
  · apply yields_bind_ok (attempt_of_ok done)
    exact yields_pure fun _ => rfl

omit [Sqlite] [Blake3] in
theorem reported_unhealthy {run : Run} {source : Option (Nat × Location)} {item : BackupHealth}
    {result : BackupIntegrityResult} (unhealthy : item.isHealthy = false) (about : result.backupConfigId = item.config.id)
    (status : result.status ≠ "ok") (repaired : ∀ id, result.repairedFromId = some id → ∃ path, source = some (id,path))
    (repairs : (∀ n, run.statusWrite n = none) → ∀ id path, source = some (id,path) → id ≠ item.config.id →
      result.repairedFromId = some id) : Reported run source item result where
  about := about
  ok := by
    rw [unhealthy]
    exact iff_of_false status fun both => Bool.false_ne_true both.1
  repaired id from_ := ⟨unhealthy,repaired id from_⟩
  repairs _ := repairs

omit [Sqlite] [Blake3] in
theorem presentStatus_ne_ok {status : String} (marks : status = "corrupt" ∨ status = "missing") : status ≠ "ok" := by
  rcases marks with rfl | rfl <;> decide

omit [Sqlite] [Blake3] in
theorem reportHealthy_reported (run : Run) (source : Option (Nat × Location)) {item : BackupHealth}
    (healthy : item.isHealthy = true) (s : Backups) :
    Yields (reportHealthy run item) s (fun result _ => Reported run source item result) := by
  have never : item.isHealthy ≠ false := by simp [healthy]
  apply yields_bind (updateStatus_attempted run item.config.id (healthyStatus item.config) none s)
  intro _ t _
  refine yields_pure ⟨rfl,?_,fun id from_ => (by cases from_),fun unhealthy => absurd unhealthy never⟩
  change healthyStatus item.config = "ok" ↔ _
  rw [healthy,healthyStatus]
  cases item.config.inErrorState <;> simp

omit [Sqlite] [Blake3] in
theorem reportUnhealthy_reported (run : Run) {source : Option (Nat × Location)} {item : BackupHealth}
    (unhealthy : item.isHealthy = false) (alone : ∀ id path, source = some (id,path) → id = item.config.id) (s : Backups) :
    Yields (reportUnhealthy run item) s (fun result _ => Reported run source item result) := by
  obtain ⟨status,looked,marks⟩ := presentStatus_run item.path s
  apply yields_bind_ok looked
  apply yields_bind (updateStatus_attempted run item.config.id status _ s)
  intro _ t _
  apply yields_pure
  apply reported_unhealthy unhealthy rfl (presentStatus_ne_ok marks)
  · intro id from_
    cases from_
  · intro _ id path chosen other
    exact absurd (alone id path chosen) other

theorem replaceBackup_reported (run : Run) (sourceId : Nat) (sourcePath : Location) {item : BackupHealth}
    (unhealthy : item.isHealthy = false) (s : Backups) :
    Yields (replaceBackup run sourceId sourcePath item) s
      (fun result _ => Reported run (some (sourceId,sourcePath)) item result) := by
  have settled (result : BackupIntegrityResult) (about : result.backupConfigId = item.config.id)
      (status : result.status ≠ "ok") (from_ : result.repairedFromId = some sourceId) :
      Reported run (some (sourceId,sourcePath)) item result := by
    apply reported_unhealthy unhealthy about status
    · intro id same
      cases from_.symm.trans same
      exact ⟨sourcePath,rfl⟩
    · intro _ id path chosen _
      cases chosen
      exact from_
  have tried : Yields (attempt (do
      copyBackupAtomically (run.repair item.config.id) item.config.id sourcePath item.path
      onDisk (checksumFile (run.repair item.config.id).io item.path .streaming))) s (fun _ _ => True) :=
    yields_attempt (fun _ _ _ => trivial) (fun _ _ _ => trivial)
  apply yields_bind tried
  intro outcome t _
  cases outcome with
  | ok checksum =>
    apply yields_bind (retryStatusWrite_yields run item.config.id "repaired" none 6 none t)
    intro _ _ _
    have status : "repaired" ≠ "ok" := by decide
    exact yields_pure (settled _ rfl status rfl)
  | error message =>
    apply yields_bind (updateStatus_attempted run item.config.id "failed" (some message) t)
    intro _ _ _
    have status : "failed" ≠ "ok" := by decide
    exact yields_pure (settled _ rfl status rfl)

theorem repairBackup_reported (run : Run) (sourceId : Nat) (sourcePath : Location) {item : BackupHealth}
    (unhealthy : item.isHealthy = false) (s : Backups) :
    Yields (repairBackup run sourceId sourcePath item) s
      (fun result _ => Reported run (some (sourceId,sourcePath)) item result) := by
  obtain ⟨status,looked,marks⟩ := presentStatus_run item.path s
  apply yields_bind_ok looked
  apply yields_bind (retry_marked run item.config.id status item.error 2 none s)
  rintro ⟨written,reason⟩ t marked
  cases written with
  | true => exact replaceBackup_reported run sourceId sourcePath unhealthy t
  | false =>
    apply yields_pure
    apply reported_unhealthy unhealthy rfl (presentStatus_ne_ok marks)
    · intro id from_
      cases from_
    · intro writes
      cases marked writes

theorem settleBackup_reported (run : Run) (source : Option (Nat × Location)) (item : BackupHealth) (s : Backups) :
    Yields (settleBackup run source item) s (fun result _ => Reported run source item result) := by
  unfold settleBackup
  cases healthy : item.isHealthy with
  | true => exact reportHealthy_reported run source healthy s
  | false =>
    simp only [Bool.false_eq_true,if_false]
    cases source with
    | none => exact reportUnhealthy_reported run healthy (fun _ _ chosen => by cases chosen) s
    | some chosen =>
      obtain ⟨sourceId,sourcePath⟩ := chosen
      dsimp only
      split
      · exact repairBackup_reported run sourceId sourcePath healthy s
      · rename_i own
        apply reportUnhealthy_reported run healthy _ s
        intro id path chosen
        cases chosen
        exact not_not.mp own

theorem settleBackups_reported (run : Run) (source : Option (Nat × Location)) (items : List BackupHealth) (s : Backups) :
    Yields (settleBackups run source items) s (fun results _ => List.Forall₂ (Reported run source) items results) := by
  induction items generalizing s with
  | nil => exact yields_pure .nil
  | cons item items ih =>
    apply yields_bind (settleBackup_reported run source item s)
    intro result t first
    apply yields_bind (ih t)
    intro results u rest
    exact yields_pure (.cons first rest)

/-! Which files a check trusts. -/

omit [Blake3] in
/-- The file of the destination can be read, and SQLite accepts it. -/
def accepted (names : String → String) (disk : Disk) (config : DbBackupConfig) : Bool :=
  match disk.node (backupFilePath names config) with
  | some node => node.whole && passes node.bytes
  | none => false

omit [Blake3] in
theorem accepted_iff {names : String → String} {disk : Disk} {config : DbBackupConfig} :
    accepted names disk config = true ↔ Healthy disk (backupFilePath names config) := by
  unfold accepted Healthy
  cases disk.node (backupFilePath names config) with
  | none => simp
  | some node => simp

/-- A check reports the destination as ok, or repairs another from it, whatever its status writes and its file operations
answer. -/
def Trusted (names : String → String) (s : Backups) (config : DbBackupConfig) : Prop :=
  ∃ run results t, runBackupIntegrityCheck names run s = .ok results t ∧ ∃ result ∈ results,
    (result.backupConfigId = config.id ∧ result.status = "ok") ∨ result.repairedFromId = some config.id

/-- No check trusts a file whose hash is not the one beside it. -/
def Trustworthy (names : String → String) (s : Backups) : Prop :=
  ∀ config ∈ enabledConfigs s.configs, Trusted names s config → Matches s.disk (backupFilePath names config)

/-- The first accepted destination, when there is one that is not. -/
def Serves (names : String → String) (s : Backups) (config : DbBackupConfig) : Prop :=
  (enabledConfigs s.configs).find? (accepted names s.disk) = some config ∧
    ∃ other ∈ enabledConfigs s.configs, accepted names s.disk other = false

/-- SQLite accepts no file whose hash is not the one beside it, except where an error was recorded that has the check
report a repair, and the file is the source of none. -/
def Genuine (names : String → String) (s : Backups) : Prop :=
  ∀ config ∈ enabledConfigs s.configs, accepted names s.disk config = true →
    Matches s.disk (backupFilePath names config) ∨ (config.inErrorState = true ∧ ¬Serves names s config)

omit [Blake3] in
theorem inspected_find {names : String → String} {disk : Disk} {configs : List DbBackupConfig} {items : List BackupHealth}
    (inspected : List.Forall₂ (Inspected names disk) configs items) :
    configs.find? (accepted names disk) = (items.find? BackupHealth.isHealthy).map BackupHealth.config := by
  induction inspected with
  | nil => rfl
  | cons first _ ih =>
    have same : accepted names disk _ = _ := Bool.eq_iff_iff.mpr
      (accepted_iff.trans (first.at_path ▸ first.healthy.symm))
    rw [List.find?_cons,List.find?_cons,same]
    cases BackupHealth.isHealthy _ with
    | true => exact congrArg some first.of_config.symm
    | false => exact ih

omit [Sqlite] [Blake3] in
theorem repairSource_eq (items : List BackupHealth) :
    repairSource items = (items.find? BackupHealth.isHealthy).map (fun item => (item.config.id,item.path)) := by
  unfold repairSource
  cases items with
  | nil => rfl
  | cons item items =>
    rw [List.find?_cons,List.head?_cons]
    cases healthy : item.isHealthy <;> simp [Option.filter,healthy]

omit [Sqlite] [Blake3] in
theorem enabledConfigs_unique {configs : Table DbBackupConfig} {first second : DbBackupConfig}
    (one : first ∈ enabledConfigs configs) (other : second ∈ enabledConfigs configs) (same : first.id = second.id) :
    first = second := by
  have found := (mem_enabledConfigs.mp one).1
  rw [same,(mem_enabledConfigs.mp other).1] at found
  exact (Option.some.inj found).symm

theorem check_reported (names : String → String) (run : Run) (s : Backups) :
    ∃ items results t, List.Forall₂ (Inspected names s.disk) (enabledConfigs s.configs) items ∧
      runBackupIntegrityCheck names run s = .ok results t ∧
      List.Forall₂ (Reported run (repairSource items)) items results := by
  obtain ⟨items,inspected,_,same⟩ := runBackupIntegrityCheck_yields names run s
  obtain ⟨results,t,ran,reported⟩ := settleBackups_reported run (repairSource items) items s
  exact ⟨items,results,t,inspected,same.trans ran,reported⟩

omit [Blake3] in
theorem inspected_accepted {names : String → String} {disk : Disk} {item : BackupHealth}
    (inspected : Inspected names disk item.config item) : accepted names disk item.config = item.isHealthy := by
  rw [Bool.eq_iff_iff,accepted_iff,← inspected.at_path]
  exact inspected.healthy.symm

/-- What is trusted is what is accepted and not in an error state, and the source of repairs. -/
theorem trusted_iff {names : String → String} {s : Backups} {config : DbBackupConfig}
    (listed : config ∈ enabledConfigs s.configs) : Trusted names s config ↔
      (accepted names s.disk config = true ∧ config.inErrorState = false) ∨ Serves names s config := by
  constructor
  · rintro ⟨run,results,t,ran,result,present,which⟩
    obtain ⟨items,_,_,inspected,again,reported⟩ := check_reported names run s
    cases ran.symm.trans again
    obtain ⟨item,member,told⟩ := forall₂_mem reported.flip present
    obtain ⟨known,found⟩ := inspected_mem inspected member
    rcases which with ⟨about,ok⟩ | from_
    · obtain ⟨healthy,calm⟩ := told.ok.mp ok
      obtain rfl : item.config = config := enabledConfigs_unique known listed (told.about.symm.trans about)
      exact .inl ⟨(inspected_accepted found).trans healthy,calm⟩
    · obtain ⟨unhealthy,path,chosen⟩ := told.repaired config.id from_
      rw [repairSource_eq] at chosen
      obtain ⟨source,first,same⟩ := Option.map_eq_some_iff.mp chosen
      obtain ⟨source_known,_⟩ := inspected_mem inspected (List.mem_of_find?_eq_some first)
      obtain rfl : source.config = config := enabledConfigs_unique source_known listed (congrArg Prod.fst same)
      refine .inr ⟨?_,item.config,known,(inspected_accepted found).trans unhealthy⟩
      rw [inspected_find inspected,first]
      rfl
  · rintro (⟨good,calm⟩ | ⟨first,other,known,bad⟩)
    · obtain ⟨items,results,t,inspected,ran,reported⟩ := check_reported names ⟨fun _ => none,fun _ => ⟨.healthy,"",true⟩⟩ s
      obtain ⟨item,member,found⟩ := inspected_of_mem inspected listed
      obtain ⟨result,present,told⟩ := forall₂_mem reported member
      obtain rfl := found.of_config
      have healthy : item.isHealthy = true := (inspected_accepted found).symm.trans good
      exact ⟨_,results,t,ran,result,present,.inl ⟨told.about,told.ok.mpr ⟨healthy,calm⟩⟩⟩
    · obtain ⟨items,results,t,inspected,ran,reported⟩ := check_reported names ⟨fun _ => none,fun _ => ⟨.healthy,"",true⟩⟩ s
      obtain ⟨item,member,found⟩ := inspected_of_mem inspected known
      obtain ⟨result,present,told⟩ := forall₂_mem reported member
      obtain rfl := found.of_config
      have unhealthy : item.isHealthy = false := (inspected_accepted found).symm.trans bad
      rw [inspected_find inspected] at first
      obtain ⟨source,chosen,rfl⟩ := Option.map_eq_some_iff.mp first
      have apart : source.config.id ≠ item.config.id := by
        intro same
        obtain good := (inspected_accepted (inspected_mem inspected (List.mem_of_find?_eq_some chosen)).2).trans
          (List.find?_some chosen)
        rw [enabledConfigs_unique listed known same,bad] at good
        cases good
      refine ⟨_,results,t,ran,result,present,.inr (told.repairs unhealthy (fun _ => rfl) _ source.path ?_ apart)⟩
      rw [repairSource_eq,chosen]
      rfl

theorem trustworthy_iff (names : String → String) (s : Backups) : Trustworthy names s ↔ Genuine names s := by
  constructor
  · intro trusts config listed good
    by_cases calm : config.inErrorState = false
    · exact .inl (trusts config listed ((trusted_iff listed).mpr (.inl ⟨good,calm⟩)))
    · by_cases serves : Serves names s config
      · exact .inl (trusts config listed ((trusted_iff listed).mpr (.inr serves)))
      · exact .inr ⟨Bool.eq_true_of_not_eq_false calm,serves⟩
  · intro genuine config listed trusted
    rcases (trusted_iff listed).mp trusted with ⟨good,calm⟩ | serves
    · rcases genuine config listed good with same | ⟨error,_⟩
      · exact same
      · cases calm.symm.trans error
    · rcases genuine config listed (List.find?_some serves.1) with same | ⟨_,idle⟩
      · exact same
      · exact absurd serves idle

/-! Histories. -/

inductive Deed
  | backup (run : BackupRun)
  | check (run : Run)
  /-- Anything at all happens to the backup file in a directory. -/
  | change (root : String) (content : Option FileNode)
  | configure (configs : Table DbBackupConfig)

def changed (disk : Disk) (path : Location) (content : Option FileNode) : Disk :=
  { disk with node := fun other => if other = path then content else disk.node other }

def deeds (names : String → String) : Machine Backups Deed where
  step
    | .backup run,s => some (after (runAllBackups names run) s)
    | .check run,s => some (after (runBackupIntegrityCheck names run) s)
    | .change root content,s => some { s with disk := changed s.disk ⟨root,backupFilename⟩ content }
    | .configure configs,s => some { s with configs }

/-- What keeps a history from leaving a file that passes for a backup without its hash: a write that puts a file in its place
also records it, and what becomes of a file is not accepted, or has the hash that was recorded. -/
def Kept (names : String → String) : Deed → Backups → Prop
  | .backup run,s => ∀ config ∈ enabledConfigs s.configs, Records (run.write config.id) (backupFilePath names config)
  | .check run,s => ∀ config ∈ enabledConfigs s.configs,
      RereadsAndRecords (run.repair config.id) (backupFilePath names config)
  | .change root content,s => ∀ node, content = some node → node.whole = true → passes node.bytes = true →
      s.disk.node ⟨root,checksumFilename⟩ = some ⟨recordOf node.bytes,none⟩
  | .configure _,_ => True

theorem consistentAt_changed {disk : Disk} {root changedRoot : String} {content : Option FileNode}
    (kept : ∀ node, content = some node → node.whole = true → passes node.bytes = true →
      disk.node ⟨changedRoot,checksumFilename⟩ = some ⟨recordOf node.bytes,none⟩) (consistent : ConsistentAt disk root) :
    ConsistentAt (changed disk ⟨changedRoot,backupFilename⟩ content) root := by
  have record : (⟨root,checksumFilename⟩ : Location) ≠ ⟨changedRoot,backupFilename⟩ := by
    intro same
    have different : checksumFilename ≠ backupFilename := by decide
    exact different (congrArg Location.relativePath same)
  unfold ConsistentAt Healthy Matches checksumPath
  simp only [changed,record,if_false]
  by_cases own : root = changedRoot
  · subst own
    simp only [if_true]
    rintro ⟨node,found,whole,passed⟩
    exact ⟨node,found,kept node found whole passed⟩
  · have apart : (⟨root,backupFilename⟩ : Location) ≠ ⟨changedRoot,backupFilename⟩ :=
      fun same => own (congrArg Location.root same)
    simp only [apart,if_false]
    exact consistent

theorem deed_keeps {names : String → String} {deed : Deed} {s t : Backups} (root : String) (kept : Kept names deed s)
    (taken : (deeds names).step deed s = some t) : StaysConsistent root s t := by
  cases deed with
  | backup run =>
    cases taken
    exact staysConsistent_runAllBackups root names kept
  | check run =>
    cases taken
    exact staysConsistent_check root names kept
  | change changedRoot content =>
    cases taken
    exact consistentAt_changed kept
  | configure configs =>
    cases taken
    exact staysConsistent_of_disk root rfl

/-- A check trusts no file whose hash is not the recorded one, in any state, exactly when SQLite accepts none, but for those that
an earlier error covers; and after every history whose deeds all meet the condition it is so. -/
theorem backups_trusted_iff (names : String → String) :
    (∀ s, Trustworthy names s ↔ Genuine names s) ∧
      ∀ start s, (∀ root, ConsistentAt start.disk root) → (deeds names).Reaches (Kept names) start s → Trustworthy names s := by
  refine ⟨trustworthy_iff names,fun start s consistent reached => (trustworthy_iff names s).mpr ?_⟩
  have now := reached.invariant consistent fun deed s t before kept taken root => deed_keeps root kept taken (before root)
  intro config _ good
  exact .inl (now (names config.backupPath) (accepted_iff.mp good))

end

/-! A backup, and the same destination with its file truncated to nothing. -/

/-- Every file is a database. -/
@[reducible] def lenientSqlite : Sqlite where
  integrityCheck _ := .ok ["ok"]

theorem key_destination (id : Nat) : Keyed.key (destination id) = id := rfl

def unwritten : Backups where
  configs := Table.empty.insert destination key_destination
  disk := { node := fun _ => none,available := fun _ => true }
  statusWrites := 0
  journal := []

def firstBackup : BackupRun where
  snapshot := .ok [1]
  tempDir := "/tmp/snapshot"
  statusWrite _ := none
  write _ := ⟨.healthy,"20250101000000",true⟩

theorem backups_trusted_written :
    letI := sampleBlake3
    letI := lenientSqlite
    Trustworthy id (after (runAllBackups id firstBackup) unwritten) := by
  apply (@backups_trusted_iff lenientSqlite sampleBlake3 id).2 unwritten
  · rintro root ⟨node,found,_⟩
    cases found
  · refine .step (.backup firstBackup) .start ?_ rfl
    intro config _ _
    exact rfl

/-- The truncated file is accepted, and its hash is not the recorded one. -/
theorem truncated_backup_trusted :
    ¬∀ (_ : Blake3) (_ : Sqlite) (names : String → String) (start s : Backups), (∀ root, ConsistentAt start.disk root) →
      (deeds names).Reaches (fun _ _ => True) start s → Trustworthy names s := by
  intro trusts
  let _ := sampleBlake3
  let _ := lenientSqlite
  have backedUp : (deeds id).Reaches (fun _ _ => True) unwritten (after (runAllBackups id firstBackup) unwritten) :=
    .step (.backup firstBackup) .start trivial rfl
  have recorded : (after (runAllBackups id firstBackup) unwritten).disk.node ⟨"/first",checksumFilename⟩ =
      some ⟨recordOf [1],none⟩ := by decide +kernel
  have listed : destination 1 ∈ enabledConfigs (after (runAllBackups id firstBackup) unwritten).configs := by decide +kernel
  generalize after (runAllBackups id firstBackup) unwritten = u at *
  have truncated := backedUp.step (.change "/first" (some ⟨[],none⟩)) trivial rfl
  have consistent (root : String) : ConsistentAt unwritten.disk root := by
    rintro ⟨node,found,_⟩
    cases found
  have genuine := (trustworthy_iff id _).mp (trusts sampleBlake3 lenientSqlite id unwritten _ consistent truncated)
  rcases genuine (destination 1) listed rfl with ⟨node,found,record⟩ | ⟨error,_⟩
  · cases found
    have stays := recorded.symm.trans record
    exact absurd stays (by decide +kernel)
  · exact absurd error (by decide)

end BitProtector.TrustedBackups
