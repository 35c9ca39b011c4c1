import BitProtector.PendingRestores
import BitProtector.TrustedBackups

/-! Where the bytes of a backup come from. Copies stop halfway, and SQLite may accept what they leave; but what is
accepted in a destination is a whole snapshot, and so is what a restore from there puts in the place of the database. -/
namespace BitProtector.BackupProvenance
open Effect RootMarkers BackupRepair TrustedBackups StagedRestore FailedResolutions PendingRestores

section
variable [Sqlite]

/-- Whatever is accepted in one of the places is one of the known contents. -/
def Traced (known : List (List UInt8)) (places : Set Location) (disk : Disk) : Prop :=
  ∀ path ∈ places, ∀ node, disk.node path = some node → node.whole = true → passes node.bytes = true → node.bytes ∈ known

variable {known : List (List UInt8)} {places : Set Location} {disk other : Disk}

theorem Traced.mono (traced : Traced known places disk) {fewer : Set Location} (less : fewer ⊆ places)
    {more : List (List UInt8)} (grown : known ⊆ more) : Traced more fewer disk :=
  fun path listed node found whole passed => grown (traced path (less listed) node found whole passed)

theorem Traced.of_files (traced : Traced known places disk) (same : ∀ path ∈ places, other.node path = disk.node path) :
    Traced known places other := by
  intro path listed node found
  rw [same path listed] at found
  exact traced path listed node found

theorem Traced.changed (traced : Traced known places disk) {path : Location} {content : Option FileNode}
    (fits : path ∈ places → ∀ node, content = some node → node.whole = true → passes node.bytes = true → node.bytes ∈ known) :
    Traced known places (changed disk path content) := by
  intro place listed node found
  simp only [TrustedBackups.changed] at found
  split at found
  · rename_i same
    exact fits (same ▸ listed) node found
  · exact traced place listed node found

theorem Traced.written (traced : Traced known places disk) {path : Location} {bytes : List UInt8}
    (fits : path ∈ places → passes bytes = true → bytes ∈ known) : Traced known places (disk.write path bytes) := by
  intro place listed node found
  by_cases same : place = path
  · subst same
    rw [Disk.write_same] at found
    cases found
    exact fun _ => fits listed
  · rw [Disk.write_other _ _ same] at found
    exact traced place listed node found

theorem Traced.renamed (traced : Traced known places disk) {src : Location} (listed : src ∈ places) (dst : Location) :
    Traced known places (renamed disk src dst) := by
  intro place member node found
  simp only [BackupRepair.renamed] at found
  split at found
  · exact traced src listed node found
  · split at found
    · cases found
    · exact traced place member node found

theorem Traced.removed (traced : Traced known places disk) (path : Location) : Traced known places (disk.remove path) := by
  intro place listed node found
  by_cases same : place = path
  · rw [same,Disk.remove_same] at found
    cases found
  · rw [Disk.remove_other _ same] at found
    exact traced place listed node found

/-! A copy of a traced file. -/

omit [Sqlite] in
/-- A copy that succeeds has read its source to the end. -/
theorem fsCopy_whole {io : Io} {src dst : Location} {text : String → String} {w t : World} (apart : src ≠ dst)
    (ran : Act.mapErr text (fsCopy io src dst) w = .ok () t) :
    ∃ node, w.disk.node src = some node ∧ node.whole = true ∧ t.disk = w.disk.write dst node.bytes := by
  obtain ⟨⟨enters,completes⟩,rfl⟩ := fsCopy_iff.mp ran
  obtain ⟨permitted,arrived⟩ := Bool.and_eq_true_iff.mp completes
  obtain ⟨node,found⟩ := Option.isSome_iff_exists.mp (openFile_create_of_enters enters).2.2
  have source : copySource w.disk src dst = node := by
    rw [copySource,Disk.write_other _ _ apart,found]
    rfl
  have whole := (Bool.and_eq_true_iff.mp arrived).1
  rw [source] at whole
  refine ⟨node,found,whole,?_⟩
  rw [got,if_pos permitted,delivered_of_arrives arrived,source]

theorem Traced.copied (traced : Traced known places disk) {src dst : Location} (listed : src ∈ places) {node : FileNode}
    (found : disk.node src = some node) (whole : node.whole = true) :
    Traced known (insert dst places) (disk.write dst node.bytes) := by
  intro place member other there
  by_cases same : place = dst
  · rw [same,Disk.write_same] at there
    cases there
    exact fun _ => traced src listed node found whole
  · rw [Disk.write_other _ _ same] at there
    exact traced place (member.resolve_left same) other there

def StaysTraced (known : List (List UInt8)) (places : Set Location) (s t : Backups) : Prop :=
  Traced known places s.disk → Traced known places t.disk

instance (known : List (List UInt8)) (places : Set Location) : IsPreorder Backups (StaysTraced known places) where
  refl _ := id
  trans _ _ _ first second := second ∘ first

theorem staysTraced_of_disk {s t : Backups} (same : t.disk = s.disk) : StaysTraced known places s t := by
  intro traced
  rwa [same]

omit [Sqlite] in
theorem after_onDisk {α : Type} (x : Act α) (s : Backups) :
    after (onDisk x) s = { s with disk := (after x ⟨Db.empty,s.disk⟩).disk } := by
  unfold after onDisk
  cases x ⟨Db.empty,s.disk⟩ <;> rfl

theorem staysTraced_onDisk {α : Type} {x : Act α}
    (kept : ∀ w, Traced known places w.disk → Traced known places (after x w).disk) :
    Keeps (StaysTraced known places) (onDisk x) := by
  intro s traced
  rw [after_onDisk]
  exact kept ⟨Db.empty,s.disk⟩ traced

theorem staysTraced_still {α : Type} {x : Act α} (still : ∀ w, after x w = w) :
    Keeps (StaysTraced known places) (onDisk x) :=
  staysTraced_onDisk fun w traced => by rwa [still]

theorem staysTraced_verify (io : Io) (path : Location) :
    Keeps (StaysTraced known places) (onDisk (verifySqliteDatabase io path)) :=
  staysTraced_onDisk fun w traced => traced.of_files fun place _ => fileKept_verify place io path w

theorem staysTraced_createParentDirs (io : Io) (path : Location) (text : String → String) :
    Keeps (StaysTraced known places) (onDisk (Act.mapErr text (createParentDirs io path))) := by
  apply staysTraced_onDisk
  intro w traced
  rw [Act.after_mapErr]
  exact traced.of_files fun place _ => createParentDirs_node io path w place

theorem staysTraced_fsCopy (io : Io) (src : Location) {dst : Location} (hidden : dst ∉ places) (text : String → String) :
    Keeps (StaysTraced known places) (onDisk (Act.mapErr text (fsCopy io src dst))) :=
  staysTraced_onDisk fun w traced => traced.of_files fun path listed =>
    fileKept_fsCopy (fun same : path = dst => hidden (same ▸ listed)) text w

theorem staysTraced_copying {α : Type} {io : Io} {src tmp : Location} {text : String → String} {rest : BackupAct α}
    (listed : src ∈ places) (hidden : tmp ∉ places) (follows : Keeps (StaysTraced known (insert tmp places)) rest) :
    Keeps (StaysTraced known places) (onDisk (Act.mapErr text (fsCopy io src tmp)) >>= fun _ => rest) := by
  intro s traced
  cases copied : Act.mapErr text (fsCopy io src tmp) ⟨Db.empty,s.disk⟩ with
  | error message t =>
    have kept := staysTraced_fsCopy io src hidden text s traced
    rw [after_of_error (onDisk_of_error copied)] at kept
    rwa [after_bind_of_error (onDisk_of_error copied)]
  | ok _ t =>
    have apart : src ≠ tmp := fun same => hidden (same ▸ listed)
    obtain ⟨node,found,whole,written⟩ := fsCopy_whole apart copied
    have complete : Traced known (insert tmp places) t.disk := by
      rw [written]
      exact traced.copied listed found whole
    rw [after_bind_of_ok (onDisk_of_ok copied)]
    exact (follows _ complete).mono (Set.subset_insert tmp places) (List.Subset.refl known)

/-! A backup run, and a check with its repairs. -/

/-- A name that no temporary file and no recorded hash has. -/
structure Lasting (path : Location) : Prop where
  written : ∀ dest stamp, path ≠ backupTmpPath dest stamp
  repaired : ∀ dest stamp, path ≠ repairTmpPath dest stamp
  recorded : ∀ dest, path ≠ checksumPath dest

omit [Sqlite] in
theorem lasting_backup {path : Location} (canonical : path.relativePath = backupFilename) : Lasting path where
  written dest stamp := backupTmpPath_apart (.inl canonical) dest stamp
  repaired dest stamp := repairTmpPath_hidden (.inl canonical) dest stamp
  recorded dest := checksumPath_apart dest path canonical

omit [Sqlite] in
theorem ends_apart {first second : String} (ends : first.toList.getLast? ≠ second.toList.getLast?)
    (named : first.toList ≠ []) (also_named : second.toList ≠ []) (front rest : String) : front ++ first ≠ rest ++ second := by
  intro same
  apply ends
  have last := congrArg (fun text => text.toList.getLast?) same
  simpa only [String.toList_append,List.getLast?_append_of_ne_nil _ named,List.getLast?_append_of_ne_nil _ also_named] using last

omit [Sqlite] in
theorem lasting_pending (db : Location) : Lasting (pendingRestorePath db) where
  written dest stamp same := ends_apart (by decide) (by decide) (by decide) _ _ (congrArg Location.relativePath same)
  repaired dest stamp same := ends_apart (by decide) (by decide) (by decide) _ _ (congrArg Location.relativePath same)
  recorded dest same := @ends_apart ".restore-pending" checksumFilename (by decide) (by decide) (by decide) db.relativePath ""
    ((congrArg Location.relativePath same).trans String.empty_append.symm)

variable [Blake3]

omit [Blake3] in
theorem staysTraced_record {path : Location} {bytes : List UInt8} (apart : path ∉ places) :
    Keeps (StaysTraced known places) (onDisk (Act.store (fun disk => disk.write path bytes))) :=
  staysTraced_onDisk fun _ traced => traced.written fun listed => absurd listed apart

theorem staysTraced_checksumFile (io : Io) (path : Location) (strategy : ChecksumStrategy) :
    Keeps (StaysTraced known places) (onDisk (checksumFile io path strategy)) :=
  staysTraced_still fun w => checksumFile_after io w path strategy

omit [Blake3] in
theorem staysTraced_installBackup (calls : RepairCalls) {src : Location} (listed : src ∈ places) (dst : Location) :
    Keeps (StaysTraced known places) (installBackup calls src dst) := by
  intro s traced
  unfold installBackup after
  cases calls.rename with
  | false => exact traced
  | true => exact traced.renamed listed dst

omit [Blake3] in
theorem staysTraced_renameOver (calls : RepairCalls) (id : Nat) {src : Location} (listed : src ∈ places) (dst : Location) :
    Keeps (StaysTraced known places) (renameOver calls id src dst) := by
  intro s traced
  unfold renameOver after
  cases calls.rename with
  | false => exact traced
  | true => exact traced.renamed listed dst

theorem staysTraced_writeBackupFile (lasting : ∀ path ∈ places, Lasting path) (names : String → String) (calls : RepairCalls)
    {snapshotPath : Location} (listed : snapshotPath ∈ places) (config : DbBackupConfig) :
    Keeps (StaysTraced known places) (writeBackupFile names calls snapshotPath config) := by
  unfold writeBackupFile
  apply keeps_bind (staysTraced_createParentDirs _ _ _)
  intro _
  apply staysTraced_copying listed fun member => (lasting _ member).written _ _ rfl
  apply keeps_bind (staysTraced_verify _ _)
  intro _
  apply keeps_bind (staysTraced_checksumFile _ _ _)
  intro checksum
  apply keeps_bind (staysTraced_installBackup calls (Set.mem_insert _ _) _)
  intro _
  apply keeps_bind (staysTraced_still (ensure_still _ _))
  intro _
  apply keeps_bind (staysTraced_record _)
  · intro _
    exact keeps_pure _
  · rintro (own | member)
    · exact backupTmpPath_apart (.inr rfl) _ _ own
    · exact (lasting _ member).recorded _ rfl

theorem staysTraced_copyBackupAtomically (lasting : ∀ path ∈ places, Lasting path) (calls : RepairCalls) (id : Nat)
    {source : Location} (listed : source ∈ places) (dest : Location) :
    Keeps (StaysTraced known places) (copyBackupAtomically calls id source dest) := by
  unfold copyBackupAtomically
  apply keeps_bind (staysTraced_createParentDirs _ _ _)
  intro _
  apply staysTraced_copying listed fun member => (lasting _ member).repaired _ _ rfl
  apply keeps_bind (staysTraced_verify _ _)
  intro _
  apply keeps_bind (staysTraced_renameOver calls id (Set.mem_insert _ _) _)
  intro _
  apply keeps_bind (staysTraced_checksumFile _ _ _)
  intro checksum
  apply keeps_bind (staysTraced_still (ensure_still _ _))
  intro _
  apply staysTraced_record
  rintro (own | member)
  · exact repairTmpPath_hidden (.inr rfl) _ _ own
  · exact (lasting _ member).recorded _ rfl

omit [Blake3] in
theorem staysTraced_updateStatus (run : Run) (id : Nat) (status : String) (error : Option String) :
    Keeps (StaysTraced known places) (updateDbBackupIntegrityStatus run id status error) := by
  intro s
  rcases updateStatus_cases run id status error s with ⟨message,_,failed⟩ | ⟨_,done⟩
  · rw [after_of_error failed]
    exact staysTraced_of_disk rfl
  · rw [after_of_ok done]
    exact staysTraced_of_disk rfl

omit [Blake3] in
theorem staysTraced_retry (run : Run) (id : Nat) (status : String) (error : Option String) (attempts : Nat)
    (lastError : Option String) : Keeps (StaysTraced known places) (retryStatusWrite run id status error attempts lastError) := by
  induction attempts generalizing lastError with
  | zero => exact keeps_pure _
  | succ attempts ih =>
    apply keeps_bind (keeps_attempt (staysTraced_updateStatus run id status error))
    intro result
    cases result with
    | ok _ => exact keeps_pure _
    | error message => exact ih (some message)

omit [Blake3] in
theorem staysTraced_presentStatus (path : Location) : Keeps (StaysTraced known places) (presentStatus path) := by
  intro s
  obtain ⟨status,looked,_⟩ := presentStatus_run path s
  rw [after_of_ok looked]
  exact id

theorem staysTraced_replaceBackup (lasting : ∀ path ∈ places, Lasting path) (run : Run) (sourceId : Nat) {sourcePath : Location}
    (listed : sourcePath ∈ places) (item : BackupHealth) :
    Keeps (StaysTraced known places) (replaceBackup run sourceId sourcePath item) := by
  unfold replaceBackup
  apply keeps_bind (keeps_attempt (keeps_bind
    (staysTraced_copyBackupAtomically lasting (run.repair item.config.id) item.config.id listed item.path)
    fun _ => staysTraced_checksumFile _ _ _))
  intro result
  cases result with
  | ok checksum => exact keeps_bind (staysTraced_retry run _ _ _ _ _) fun _ => keeps_pure _
  | error message => exact keeps_bind (keeps_attempt (staysTraced_updateStatus run _ _ _)) fun _ => keeps_pure _

theorem staysTraced_settleBackup (lasting : ∀ path ∈ places, Lasting path) (run : Run) {source : Option (Nat × Location)}
    (listed : ∀ id path, source = some (id,path) → path ∈ places) (item : BackupHealth) :
    Keeps (StaysTraced known places) (settleBackup run source item) := by
  have unhealthy : Keeps (StaysTraced known places) (reportUnhealthy run item) := by
    apply keeps_bind (staysTraced_presentStatus item.path)
    intro status
    exact keeps_bind (keeps_attempt (staysTraced_updateStatus run _ _ _)) fun _ => keeps_pure _
  unfold settleBackup
  split
  · exact keeps_bind (keeps_attempt (staysTraced_updateStatus run _ _ _)) fun _ => keeps_pure _
  · split
    · exact unhealthy
    · rename_i sourceId sourcePath
      split
      · apply keeps_bind (staysTraced_presentStatus item.path)
        intro preStatus
        apply keeps_bind (staysTraced_retry run _ _ _ _ _)
        intro (written,reason)
        cases written with
        | true => exact staysTraced_replaceBackup lasting run sourceId (listed sourceId sourcePath rfl) item
        | false => exact keeps_pure _
      · exact unhealthy

theorem staysTraced_settleBackups (lasting : ∀ path ∈ places, Lasting path) (run : Run) {source : Option (Nat × Location)}
    (listed : ∀ id path, source = some (id,path) → path ∈ places) (items : List BackupHealth) :
    Keeps (StaysTraced known places) (settleBackups run source items) := by
  induction items with
  | nil => exact keeps_pure _
  | cons item items ih =>
    apply keeps_bind (staysTraced_settleBackup lasting run listed item)
    intro result
    exact keeps_bind ih fun results => keeps_pure _

/-- The source of the repairs is one of the destinations. -/
theorem traced_check (lasting : ∀ path ∈ places, Lasting path) (names : String → String) (run : Run) {s : Backups}
    (inside : ∀ config ∈ enabledConfigs s.configs, backupFilePath names config ∈ places) :
    StaysTraced known places s (after (runBackupIntegrityCheck names run) s) := by
  obtain ⟨items,inspected,_,same⟩ := runBackupIntegrityCheck_yields names run s
  rw [after,same]
  refine staysTraced_settleBackups lasting run (fun id path chosen => ?_) items s
  rw [repairSource_eq] at chosen
  obtain ⟨item,found,shape⟩ := Option.map_eq_some_iff.mp chosen
  cases shape
  obtain ⟨enabled,looked⟩ := inspected_mem inspected (List.mem_of_find?_eq_some found)
  rw [looked.at_path]
  exact inside item.config enabled

omit [Blake3] in
theorem staysTraced_setLastError (run : BackupRun) (id : Nat) (error : Option String) :
    Keeps (StaysTraced known places) (setLastError run id error) := by
  intro s
  apply staysTraced_of_disk
  unfold after setLastError
  cases run.statusWrite s.statusWrites <;> rfl

theorem staysTraced_backUpAll (lasting : ∀ path ∈ places, Lasting path) (names : String → String) (run : BackupRun)
    {snapshotPath : Location} (listed : snapshotPath ∈ places) (configs : List DbBackupConfig) :
    Keeps (StaysTraced known places) (backUpAll names run snapshotPath configs) := by
  induction configs with
  | nil => exact keeps_pure _
  | cons config configs ih =>
    apply keeps_bind
    · apply keeps_bind (keeps_attempt (staysTraced_writeBackupFile lasting names (run.write config.id) listed config))
      intro result
      cases result with
      | ok path => exact keeps_bind (keeps_attempt (staysTraced_setLastError run _ _)) fun _ => keeps_pure _
      | error message => exact keeps_bind (keeps_attempt (staysTraced_setLastError run _ _)) fun _ => keeps_pure _
    · intro result
      exact keeps_bind ih fun _ => keeps_pure _

/-- What a run takes from the live database. -/
def snapshots (run : BackupRun) (configs : Table DbBackupConfig) : List (List UInt8) :=
  if (enabledConfigs configs).isEmpty then []
  else
    match run.snapshot with
    | .ok bytes => [bytes]
    | .error _ => []

theorem traced_runAllBackups (lasting : ∀ path ∈ places, Lasting path) (names : String → String) (run : BackupRun) {s : Backups}
    (traced : Traced known places s.disk) :
    Traced (known ++ snapshots run s.configs) places (after (runAllBackups names run) s).disk := by
  have wider := traced.mono (Set.Subset.refl places) (List.subset_append_left known (snapshots run s.configs))
  have reads : (get : BackupAct Backups) s = .ok s s := rfl
  unfold runAllBackups
  rw [after_bind_of_ok reads]
  dsimp only
  split
  · exact wider
  · rename_i some_enabled
    rw [after_withTempFile]
    apply Traced.removed
    unfold createSqliteSnapshot
    unfold snapshots at wider ⊢
    rw [if_neg some_enabled] at wider ⊢
    cases taken : run.snapshot with
    | error message =>
      rw [taken] at wider
      exact wider
    | ok bytes =>
      rw [taken] at wider
      have lastingAll (path : Location) (member : path ∈ insert (⟨run.tempDir,backupFilename⟩ : Location) places) :
        Lasting path := by
        rcases member with rfl | member
        · exact lasting_backup rfl
        · exact lasting path member
      have written : Traced (known ++ [bytes]) (insert (⟨run.tempDir,backupFilename⟩ : Location) places)
          (s.disk.write ⟨run.tempDir,backupFilename⟩ bytes) := by
        intro path member node found
        by_cases own : path = ⟨run.tempDir,backupFilename⟩
        · rw [own,Disk.write_same] at found
          cases found
          exact fun _ _ => List.mem_append_right known (List.mem_singleton.mpr rfl)
        · rw [Disk.write_other _ _ own] at found
          exact wider path (member.resolve_left own) node found
      have stored : onDisk (Act.store (fun disk => disk.write ⟨run.tempDir,backupFilename⟩ bytes)) s =
          .ok () { s with disk := s.disk.write ⟨run.tempDir,backupFilename⟩ bytes } := rfl
      dsimp only
      rw [bind_assoc,after_bind_of_ok stored]
      have follows := keeps_bind (R := StaysTraced (known ++ [bytes]) (insert ⟨run.tempDir,backupFilename⟩ places))
        (staysTraced_verify .healthy ⟨run.tempDir,backupFilename⟩) fun _ =>
          staysTraced_backUpAll lastingAll names run (Set.mem_insert _ _) (enabledConfigs s.configs)
      exact (follows _ written).mono (Set.subset_insert _ _) (List.Subset.refl _)

/-! A restore: the copy under the pending name, and the start that puts it in place. -/

omit [Blake3] in
theorem fileKept_stageRestore (facts : DrivePaths.PathFacts) (calls : RepairCalls) (db source : Location) {path : Location}
    (safety : path ≠ safetyBackupPath db calls.stamp) (pending : path ≠ pendingRestorePath db) :
    Keeps (FileKept path) (stageRestore facts calls db source) := by
  unfold stageRestore
  apply keeps_bind (fileKept_validate path facts calls.io db)
  intro _
  apply keeps_bind (fileKept_verify path calls.io source)
  intro _
  apply keeps_bind (fileKept_fsCopy safety _)
  intro _
  apply keeps_bind (fileKept_verify path calls.io _)
  intro _
  apply keeps_bind (fileKept_fsCopy pending _)
  intro _
  apply keeps_bind (fileKept_verify path calls.io _)
  intro _
  exact keeps_pure _

/-- The device takes all of a pending file that it lets begin. -/
def TakesPending (io : Io) (db : Location) : Prop :=
  io.writeLimit (pendingRestorePath db) = none ∧ io.copyPermissions (pendingRestorePath db) = true

omit [Blake3] in
/-- Then the pending file has all of the source, which was found sound. -/
theorem stagedBytes_whole {facts : DrivePaths.PathFacts} {calls : RepairCalls} {db source : Location} {w : World}
    (takes : TakesPending calls.io db) (safety : source ≠ safetyBackupPath db calls.stamp)
    (pending : source ≠ pendingRestorePath db) (prepares : Prepares facts calls db source w) :
    ∃ node, w.disk.node source = some node ∧ node.whole = true ∧ stagedBytes calls db source w = node.bytes := by
  obtain ⟨unlimited,permitted⟩ := takes
  obtain ⟨_,node,found,whole,_⟩ := prepares.source
  have kept : copySource (saved calls db w).disk source (pendingRestorePath db) = node := by
    rw [copySource,Disk.write_other _ _ pending,saved,Disk.write_other _ _ safety,found]
    rfl
  refine ⟨node,found,whole,?_⟩
  rw [stagedBytes,got,if_pos permitted,delivered,kept,unlimited]
  exact FileNode.readable_of_whole whole

omit [Blake3] in
theorem traced_stageRestore (facts : DrivePaths.PathFacts) {calls : RepairCalls} {db source : Location} {w : World}
    (takes : TakesPending calls.io db) (hidden : safetyBackupPath db calls.stamp ∉ places) (listed : source ∈ places)
    (other : source ≠ pendingRestorePath db) (traced : Traced known places w.disk) :
    Traced known places (after (stageRestore facts calls db source) w).disk := by
  have safety {path : Location} (member : path ∈ places) : path ≠ safetyBackupPath db calls.stamp :=
    fun same => hidden (same ▸ member)
  intro path member node found
  by_cases pending : path = pendingRestorePath db
  · subst pending
    by_cases writes : WritesPending facts calls db source w
    · obtain ⟨origin,there,whole,same⟩ := stagedBytes_whole takes (safety listed) other writes.1
      rw [pending_of_writes writes,same] at found
      cases found
      exact fun _ => traced source listed origin there whole
    · rw [pending_of_not_writes writes] at found
      exact traced _ member node found
  · rw [fileKept_stageRestore facts calls db source (safety member) pending w] at found
    exact traced path member node found

/-- The same over whole worlds. -/
def WorldTraced (known : List (List UInt8)) (places : Set Location) (w t : World) : Prop :=
  Traced known places w.disk → Traced known places t.disk

instance (known : List (List UInt8)) (places : Set Location) : IsPreorder World (WorldTraced known places) where
  refl _ := id
  trans _ _ _ first second := second ∘ first

omit [Blake3] in
theorem worldTraced_of_files {α : Type} {x : Act α} (kept : ∀ path ∈ places, Keeps (FileKept path) x) :
    Keeps (WorldTraced known places) x :=
  fun w traced => traced.of_files fun path listed => kept path listed w

omit [Blake3] in
theorem worldTraced_removeSidecar (io : Io) (sidecar : Location) :
    Keeps (WorldTraced known places) (removeSidecar io sidecar) := by
  apply keeps_bind (worldTraced_of_files fun path _ => fileKept_still path fun _ => rfl)
  intro there
  cases there with
  | false => exact keeps_pure _
  | true =>
    apply keeps_bind (worldTraced_of_files fun path _ => fileKept_still path (ensure_still _ _))
    intro _ w traced
    exact traced.removed sidecar

omit [Blake3] in
theorem traced_applyPendingRestore (calls : RepairCalls) {db : Location} (listed : pendingRestorePath db ∈ places)
    (hidden : safetyBackupPath db calls.stamp ∉ places) : Keeps (WorldTraced known places) (applyPendingRestore calls db) := by
  unfold applyPendingRestore
  apply keeps_bind (worldTraced_of_files fun path _ => fileKept_still path fun _ => rfl)
  intro there
  cases there with
  | false => exact keeps_pure _
  | true =>
    apply keeps_bind (worldTraced_of_files fun path _ => fileKept_verify path calls.io _)
    intro _
    apply keeps_bind (worldTraced_of_files fun path member =>
      fileKept_copyReplaced calls fun same : path = _ => hidden (same ▸ member))
    intro _
    apply keeps_bind
    · apply keeps_bind (worldTraced_removeSidecar calls.io _)
      intro _
      apply keeps_bind (worldTraced_removeSidecar calls.io _)
      intro _
      apply keeps_bind (worldTraced_of_files fun path _ => fileKept_still path (ensure_still _ _))
      intro _ w traced
      exact traced.renamed listed db
    · intro _
      exact keeps_pure _

omit [Blake3] in
theorem start_failed (calls : RepairCalls) (db : Location) (w : World) :
    FailsInto (FileKept db w) (applyPendingRestore calls db) w := by
  simp only [applyPendingRestore,installStaged]
  apply failsInto_bind (fileKept_still db fun _ => rfl)
  intro there t
  cases there with
  | false =>
    intro _ _ failed
    cases failed
  | true =>
    apply failsInto_bind (fileKept_verify db calls.io _)
    intro _ _
    apply failsInto_bind (fileKept_copyReplaced calls (safety_apart_main db calls.stamp))
    intro _ _
    simp only [bind_assoc]
    apply failsInto_bind (fileKept_removeSidecar calls.io (ne_beside db (by decide)))
    intro _ _
    apply failsInto_bind (fileKept_removeSidecar calls.io (ne_beside db (by decide)))
    intro _ _
    apply failsInto_bind (fileKept_still db (ensure_still _ _))
    intro _ _ _ _ failed
    cases failed

omit [Blake3] in
theorem started_known (calls : RepairCalls) {db : Location} {w : World} (listed : pendingRestorePath db ∈ places)
    (traced : Traced known places w.disk) :
    (after (applyPendingRestore calls db) w).disk.node db = w.disk.node db ∨
      ∃ node, (after (applyPendingRestore calls db) w).disk.node db = some node ∧ node.bytes ∈ known := by
  cases ran : applyPendingRestore calls db w with
  | error message t =>
    rw [after_of_error ran]
    exact .inl (start_failed calls db w message t ran)
  | ok result t =>
    rw [after_of_ok ran]
    rcases applyPendingRestore_cases ran with ⟨_,same⟩ | ⟨⟨staged,found⟩,replaced,_⟩
    · rw [same]
      exact .inl rfl
    · have present : w.disk.exists? (pendingRestorePath db) = true := by
        rw [Disk.exists?,found]
        rfl
      unfold applyPendingRestore at ran
      rw [bind_of_ok (Act.look_apply _ _),present] at ran
      obtain ⟨_,u,verified,_⟩ := bind_success ran
      obtain ⟨⟨_,node,there,whole,passed⟩,_⟩ := verify_iff.mp verified
      exact .inr ⟨node,replaced.trans there,traced _ listed node there whole passed⟩

/-! Histories. -/

/-- The backups, with every snapshot that a run has taken. -/
structure Archive where
  backups : Backups
  taken : List (List UInt8)

inductive Deed
  | backup (run : BackupRun)
  | check (run : Run)
  | stage (facts : DrivePaths.PathFacts) (calls : RepairCalls) (source : Location)
  | start (calls : RepairCalls)
  /-- Anything at all happens to a file. -/
  | change (path : Location) (content : Option FileNode)
  | configure (configs : Table DbBackupConfig)

def machine (names : String → String) (db : Location) : Machine Archive Deed where
  step
    | .backup run,s => some ⟨after (runAllBackups names run) s.backups,s.taken ++ snapshots run s.backups.configs⟩
    | .check run,s => some { s with backups := after (runBackupIntegrityCheck names run) s.backups }
    | .stage facts calls source,s => some { s with backups := after (onDisk (stageRestore facts calls db source)) s.backups }
    | .start calls,s => some { s with backups := after (onDisk (applyPendingRestore calls db)) s.backups }
    | .change path content,s => some { s with backups.disk := changed s.backups.disk path content }
    | .configure configs,s => some { s with backups.configs := configs }

/-- The backups in these directories, and what waits to be restored. -/
def watched (directories : Set String) (db : Location) : Set Location :=
  {path | path.relativePath = backupFilename ∧ path.root ∈ directories ∨ path = pendingRestorePath db}

/-- The destinations are in the directories, a restore is staged from one of them onto a device that takes all of it, and what
else becomes of a watched file is not accepted, or is a snapshot too. -/
def Permitted (names : String → String) (directories : Set String) (db : Location) : Deed → Archive → Prop
  | .check _,s => ∀ config ∈ enabledConfigs s.backups.configs, names config.backupPath ∈ directories
  | .stage _ calls source,_ => source.relativePath = backupFilename ∧ source.root ∈ directories ∧ TakesPending calls.io db
  | .change path content,s => path ∈ watched directories db → ∀ node, content = some node → node.whole = true →
      passes node.bytes = true → node.bytes ∈ s.taken
  | _,_ => True

variable {names : String → String} {directories : Set String} {db : Location}

omit [Sqlite] [Blake3] in
theorem lasting_watched (path : Location) (listed : path ∈ watched directories db) : Lasting path := by
  rcases listed with ⟨canonical,_⟩ | rfl
  · exact lasting_backup canonical
  · exact lasting_pending db

omit [Sqlite] [Blake3] in
theorem beside_hyphen (db : Location) {suffix : String} (hyphen : '-' ∈ suffix.toList) :
    (beside db suffix).relativePath ≠ backupFilename := by
  intro same
  have member : '-' ∈ (beside db suffix).relativePath.toList := by
    simp [beside,hyphen]
  rw [same] at member
  exact absurd member (by decide)

omit [Sqlite] [Blake3] in
theorem safety_unwatched (directories : Set String) (db : Location) (stamp : String) :
    safetyBackupPath db stamp ∉ watched directories db := by
  rintro (⟨canonical,_⟩ | same)
  · exact beside_hyphen db (by simp) canonical
  · exact safety_apart_pending db stamp same

theorem deed_traces {deed : Deed} {s t : Archive} (traced : Traced s.taken (watched directories db) s.backups.disk)
    (permitted : Permitted names directories db deed s) (taken : (machine names db).step deed s = some t) :
    Traced t.taken (watched directories db) t.backups.disk := by
  have waiting : pendingRestorePath db ∈ watched directories db := .inr rfl
  cases deed with
  | backup run =>
    cases taken
    exact traced_runAllBackups lasting_watched names run traced
  | check run =>
    cases taken
    exact traced_check lasting_watched names run (fun config enabled => .inl ⟨rfl,permitted config enabled⟩) traced
  | stage facts calls source =>
    cases taken
    obtain ⟨canonical,inside,takes⟩ := permitted
    have other : source ≠ pendingRestorePath db := by
      rintro rfl
      exact beside_hyphen db (by simp) canonical
    dsimp only
    rw [after_onDisk]
    exact traced_stageRestore (w := ⟨Db.empty,s.backups.disk⟩) facts takes (safety_unwatched _ db _) (.inl ⟨canonical,inside⟩)
      other traced
  | start calls =>
    cases taken
    dsimp only
    rw [after_onDisk]
    exact traced_applyPendingRestore calls waiting (safety_unwatched _ db _) ⟨Db.empty,s.backups.disk⟩ traced
  | change path content =>
    cases taken
    exact traced.changed permitted
  | configure configs =>
    cases taken
    exact traced

/-- After every history, whatever failed on the way, what a check accepts in a destination is a snapshot that a backup run took,
and a start leaves the database as it is or puts such a snapshot in its place. -/
theorem backups_are_snapshots (names : String → String) (directories : Set String) (db : Location) (start s : Archive)
    (traced : Traced start.taken (watched directories db) start.backups.disk)
    (reached : (machine names db).Reaches (Permitted names directories db) start s) :
    (∀ root ∈ directories, ∀ node, s.backups.disk.node ⟨root,backupFilename⟩ = some node → node.whole = true →
      passes node.bytes = true → node.bytes ∈ s.taken) ∧
    ∀ calls t, (machine names db).step (.start calls) s = some t → t.backups.disk.node db = s.backups.disk.node db ∨
      ∃ node, t.backups.disk.node db = some node ∧ node.bytes ∈ s.taken := by
  have now := reached.invariant traced fun deed s t before permitted taken => deed_traces before permitted taken
  refine ⟨fun root inside => now ⟨root,backupFilename⟩ (.inl ⟨rfl,inside⟩),fun calls t started => ?_⟩
  cases started
  dsimp only
  rw [after_onDisk]
  exact started_known (w := ⟨Db.empty,s.backups.disk⟩) calls (.inr rfl) now

end

/-! The database is there, is backed up, and a restore of it is staged. -/

theorem backups_are_snapshots_staged :
    letI := sampleBlake3
    letI := lenientSqlite
    ∃ s : Archive, s.taken = [[1]] ∧
      (∀ root ∈ ({"/first"} : Set String), ∀ node, s.backups.disk.node ⟨root,backupFilename⟩ = some node → node.whole = true →
        passes node.bytes = true → node.bytes ∈ s.taken) ∧
      ∀ calls t, (machine id liveDb).step (.start calls) s = some t →
        t.backups.disk.node liveDb = s.backups.disk.node liveDb ∨
          ∃ node, t.backups.disk.node liveDb = some node ∧ node.bytes ∈ s.taken := by
  let _ := sampleBlake3
  let _ := lenientSqlite
  have unwatched : liveDb ∉ watched {"/first"} liveDb := by
    rintro (⟨_,inside⟩ | same)
    · exact absurd inside (by simp [liveDb])
    · exact pending_apart_main liveDb same.symm
  have created : (machine id liveDb).Reaches (Permitted id {"/first"} liveDb) ⟨unwritten,[]⟩ _ :=
    .step (.change liveDb (some ⟨[7],none⟩)) .start (fun listed => absurd listed unwatched) rfl
  have backedUp := created.step (Deed.backup firstBackup) (by trivial) rfl
  have staged := backedUp.step (Deed.stage liveFacts restoreCalls ⟨"/first",backupFilename⟩) (by exact ⟨rfl,rfl,rfl,rfl⟩) rfl
  refine ⟨_,by decide +kernel,backups_are_snapshots id {"/first"} liveDb _ _ ?_ staged⟩
  intro path _ node found
  cases found

end BitProtector.BackupProvenance
