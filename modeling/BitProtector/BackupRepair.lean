import BitProtector.RootMarkers
import Mathlib.Data.List.Sort

/-! The backups of the tracking database: one canonical file in each configured
destination, the check of all of them, and the repair of the bad ones from a healthy one. -/
namespace BitProtector

/-- The integrity check of SQLite. -/
class Sqlite where
  /-- The rows of `PRAGMA integrity_check` on a file of these bytes, or why there are none. -/
  integrityCheck : List UInt8 → Except String (List String)

namespace BackupRepair
open Effect RootMarkers

def backupFilename : String := "bitprotector.db"

def checksumFilename : String := "bitprotector.db.blake3"

structure DbBackupConfig where
  id : Nat
  backupPath : String
  priority : Nat
  enabled : Bool
  lastIntegrityStatus : Option String
  lastError : Option String
  deriving DecidableEq, Repr

instance : Keyed DbBackupConfig := ⟨DbBackupConfig.id⟩

/-- What was done for a destination, for statements about the order of things. -/
inductive Entry
  | persisted (configId : Nat) (status : String)
  | replaced (configId : Nat)
  deriving DecidableEq, Repr

structure Backups where
  configs : Table DbBackupConfig
  disk : Disk
  /-- Status writes that were attempted. -/
  statusWrites : Nat
  journal : List Entry

abbrev BackupAct := EStateM String Backups

def onDisk {α : Type} (x : Act α) : BackupAct α := fun s =>
  match x ⟨Db.empty,s.disk⟩ with
  | .ok a t => .ok a { s with disk := t.disk }
  | .error message t => .error message { s with disk := t.disk }

/-- What the system calls of one repair answer. -/
structure RepairCalls where
  io : Io
  /-- `Utc::now()`, as the name of the temporary file has it. -/
  stamp : String
  rename : Bool

/-- What the calls of one check answer. -/
structure Run where
  /-- The answer to the status write of a number. -/
  statusWrite : Nat → Option String
  /-- The repair of a configuration. -/
  repair : Nat → RepairCalls

structure BackupHealth where
  config : DbBackupConfig
  path : Location
  checksum : Option String
  error : Option String
  deriving DecidableEq, Repr

def BackupHealth.isHealthy (health : BackupHealth) : Bool := health.error.isNone && health.checksum.isSome

structure BackupIntegrityResult where
  backupConfigId : Nat
  backupPath : String
  status : String
  checksum : Option String
  repairedFromId : Option Nat
  error : Option String
  deriving DecidableEq, Repr

/-- The directory that a configured path names may have several names. -/
def backupFilePath (directory : String → String) (config : DbBackupConfig) : Location :=
  ⟨directory config.backupPath,backupFilename⟩

/-- `fs::rename`. -/
def renamed (disk : Disk) (src dst : Location) : Disk :=
  { disk with node := fun path => if path = dst then disk.node src else if path = src then none else disk.node path }

/-- `ORDER BY priority, id`. -/
def listDbBackupConfigs (configs : Table DbBackupConfig) : List DbBackupConfig :=
  configs.rows.insertionSort (fun a b => a.priority ≤ b.priority)

/-- `UPDATE db_backup_config SET last_integrity_status=?, last_error=? WHERE id=?`. -/
def Backups.withStatus (s : Backups) (id : Nat) (status : String) (error : Option String) : Backups :=
  { s with
    configs := s.configs.updateWhere (fun config => config.id == id)
      (fun config => { config with lastIntegrityStatus := some status,lastError := error }) (fun _ => rfl)
    journal := s.journal ++ [.persisted id status] }

def Backups.attempted (s : Backups) : Backups := { s with statusWrites := s.statusWrites + 1 }

def updateDbBackupIntegrityStatus (run : Run) (id : Nat) (status : String) (error : Option String) : BackupAct Unit :=
  fun s =>
    match run.statusWrite s.statusWrites with
    | some message => .error message s.attempted
    | none => .ok () (s.attempted.withStatus id status error)

/-- The attempts that are left, and the error of the last one. -/
def retryStatusWrite (run : Run) (configId : Nat) (status : String) (error : Option String) :
    Nat → Option String → BackupAct (Bool × Option String)
  | 0, lastError => pure (false,lastError)
  | attempts + 1, _ => do
    match ← attempt (updateDbBackupIntegrityStatus run configId status error) with
    | .ok _ => pure (true,none)
    | .error message => retryStatusWrite run configId status error attempts (some message)

section
variable [Sqlite]

/-- No row of the check but `ok`. -/
def refuse : List String → Act Unit
  | [] => pure ()
  | value::rows => if value ≠ "ok" then Act.bail s!"SQLite integrity check failed: {value}" else refuse rows

/-- A directory in the place of the file is a file that cannot be read. -/
def verifySqliteDatabase (io : Io) (path : Location) : Act Unit := do
  let shown := path.display
  Act.ensure (← Act.look (fun disk => disk.exists? path)) s!"Database backup does not exist: {shown}"
  Act.ensure (io.openRead path) s!"Failed to open SQLite database {shown}"
  match ← Act.look (fun disk => (disk.node path).filter FileNode.whole) with
  | none => Act.bail osError
  | some node => do
    let rows ← Act.query (fun _ => Sqlite.integrityCheck node.bytes)
    refuse rows

variable [Blake3]

def repairTmpPath (dest : Location) (stamp : String) : Location :=
  ⟨dest.root,"." ++ backupFilename ++ ".repair." ++ stamp ++ ".tmp"⟩

def renameOver (calls : RepairCalls) (configId : Nat) (src dst : Location) : BackupAct Unit := fun s =>
  if calls.rename then
    .ok () { s with disk := renamed s.disk src dst,journal := s.journal ++ [.replaced configId] }
  else .error "Failed to replace corrupt database backup" s

def copyBackupAtomically (calls : RepairCalls) (configId : Nat) (source dest : Location) : BackupAct Unit := do
  onDisk (Act.mapErr (fun _ => "Failed to create backup directory") (createParentDirs calls.io dest))
  let tmpPath := repairTmpPath dest calls.stamp
  onDisk (Act.mapErr (fun _ => "Failed to copy healthy database backup") (fsCopy calls.io source tmpPath))
  onDisk (verifySqliteDatabase calls.io tmpPath)
  renameOver calls configId tmpPath dest
  let checksum ← onDisk (checksumFile calls.io dest .streaming)
  let checksumPath : Location := ⟨dest.root,checksumFilename⟩
  onDisk (Act.ensure (calls.io.writeFile checksumPath) "Failed to write repaired backup checksum")
  onDisk (Act.store (fun disk => disk.write checksumPath checksum.toUTF8.toList))

/-- A file is read as it is on the disk: whatever keeps it from being read belongs to its state. -/
def inspectBackup (directory : String → String) (config : DbBackupConfig) : BackupAct BackupHealth := do
  let path := backupFilePath directory config
  if !(← onDisk (Act.look (fun disk => disk.exists? path))) then pure ⟨config,path,none,some "missing"⟩
  else
    match ← attempt (onDisk (do verifySqliteDatabase .healthy path; checksumFile .healthy path .streaming)) with
    | .ok checksum => pure ⟨config,path,some checksum,none⟩
    | .error e => pure ⟨config,path,none,some e⟩

def inspectBackups (directory : String → String) : List DbBackupConfig → BackupAct (List BackupHealth)
  | [] => pure []
  | config::configs => do
    let health ← inspectBackup directory config
    let rest ← inspectBackups directory configs
    pure (health::rest)

/-- The first destination if it is healthy, else the first healthy one. -/
def repairSource (health : List BackupHealth) : Option (Nat × Location) :=
  ((health.head?.filter BackupHealth.isHealthy).or (health.find? BackupHealth.isHealthy)).map
    (fun item => (item.config.id,item.path))

/-- `corrupt` or `missing`. -/
def presentStatus (path : Location) : BackupAct String := do
  if ← onDisk (Act.look (fun disk => disk.exists? path)) then pure "corrupt" else pure "missing"

/-- The recorded status is one of an error. -/
def DbBackupConfig.inErrorState (config : DbBackupConfig) : Bool :=
  config.lastIntegrityStatus == some "corrupt" || config.lastIntegrityStatus == some "missing" ||
    config.lastIntegrityStatus == some "failed"

/-- Healthy after an error state is repaired, even if an earlier check did it. -/
def healthyStatus (config : DbBackupConfig) : String := if config.inErrorState then "repaired" else "ok"

def reportHealthy (run : Run) (item : BackupHealth) : BackupAct BackupIntegrityResult := do
  let status := healthyStatus item.config
  let _ ← attempt (updateDbBackupIntegrityStatus run item.config.id status none)
  pure ⟨item.config.id,item.path.display,status,item.checksum,none,none⟩

def reportUnhealthy (run : Run) (item : BackupHealth) : BackupAct BackupIntegrityResult := do
  let status ← presentStatus item.path
  let message := item.error.getD "No healthy backup available for repair"
  let _ ← attempt (updateDbBackupIntegrityStatus run item.config.id status (some message))
  pure ⟨item.config.id,item.path.display,status,none,none,some message⟩

def replaceBackup (run : Run) (sourceId : Nat) (sourcePath : Location) (item : BackupHealth) :
    BackupAct BackupIntegrityResult := do
  let id := item.config.id
  let shown := item.path.display
  match ← attempt (do
      copyBackupAtomically (run.repair id) id sourcePath item.path
      onDisk (checksumFile (run.repair id).io item.path .streaming)) with
  | .ok checksum => do
    let _ ← retryStatusWrite run id "repaired" none 6 none
    pure ⟨id,shown,"repaired",some checksum,some sourceId,none⟩
  | .error message => do
    let _ ← attempt (updateDbBackupIntegrityStatus run id "failed" (some message))
    pure ⟨id,shown,"failed",none,some sourceId,some message⟩

/-- The state that was found is persisted first: without it no later check could tell that a
repair was made whose own status was lost. -/
def repairBackup (run : Run) (sourceId : Nat) (sourcePath : Location) (item : BackupHealth) :
    BackupAct BackupIntegrityResult := do
  let preStatus ← presentStatus item.path
  let (preWriteOk,preWriteErr) ← retryStatusWrite run item.config.id preStatus item.error 3 none
  if preWriteOk then replaceBackup run sourceId sourcePath item
  else
    let reason := preWriteErr.getD "unknown error"
    pure ⟨item.config.id,item.path.display,preStatus,none,none,
      some s!"pre-repair marker write failed; repair deferred to next integrity check: {reason}"⟩

def settleBackup (run : Run) (source : Option (Nat × Location)) (item : BackupHealth) :
    BackupAct BackupIntegrityResult :=
  if item.isHealthy then reportHealthy run item
  else
    match source with
    | none => reportUnhealthy run item
    | some (sourceId,sourcePath) =>
      if sourceId ≠ item.config.id then repairBackup run sourceId sourcePath item else reportUnhealthy run item

def settleBackups (run : Run) (source : Option (Nat × Location)) :
    List BackupHealth → BackupAct (List BackupIntegrityResult)
  | [] => pure []
  | item::items => do
    let result ← settleBackup run source item
    let results ← settleBackups run source items
    pure (result::results)

def enabledConfigs (configs : Table DbBackupConfig) : List DbBackupConfig :=
  (listDbBackupConfigs configs).filter DbBackupConfig.enabled

def runBackupIntegrityCheck (directory : String → String) (run : Run) : BackupAct (List BackupIntegrityResult) := do
  let s ← get
  let health ← inspectBackups directory (enabledConfigs s.configs)
  settleBackups run (repairSource health) health

/-! What a file is found to be. -/

def passes (bytes : List UInt8) : Bool :=
  match Sqlite.integrityCheck bytes with
  | .ok rows => rows.all (fun value => value == "ok")
  | .error _ => false

/-- The file can be read to its end, and SQLite finds nothing wrong with it. -/
def Healthy (disk : Disk) (path : Location) : Prop :=
  ∃ node, disk.node path = some node ∧ node.whole = true ∧ passes node.bytes = true

omit [Blake3] [Sqlite] in
theorem refuse_cases (rows : List String) (w : World) :
    (refuse rows w = .ok () w ∧ rows.all (fun value => value == "ok") = true) ∨
      ∃ message, refuse rows w = .error message w ∧ rows.all (fun value => value == "ok") = false := by
  induction rows with
  | nil => exact .inl ⟨rfl,rfl⟩
  | cons value rows ih =>
    unfold refuse
    by_cases good : value = "ok"
    · simpa [good] using ih
    · refine .inr ⟨_,by rw [if_pos good]; rfl,by simp [good]⟩

omit [Blake3] in
theorem verifySqliteDatabase_cases (io : Io) (path : Location) (w : World) :
    (verifySqliteDatabase io path w = .ok () w ∧ Healthy w.disk path) ∨
      ∃ message, verifySqliteDatabase io path w = .error message w ∧ ¬(io.openRead path = true ∧ Healthy w.disk path) := by
  unfold verifySqliteDatabase
  rw [bind_of_ok (Act.look_apply _ _)]
  cases found : w.disk.node path with
  | none =>
    refine .inr ⟨_,by rw [Disk.exists?,found]; exact bind_of_error (Act.ensure_false _ _) _,?_⟩
    rintro ⟨_,node,there,_⟩
    rw [found] at there
    cases there
  | some node =>
    have exists_ : w.disk.exists? path = true := by rw [Disk.exists?,found]; rfl
    rw [exists_,bind_of_ok (Act.ensure_true _ _)]
    cases opens : io.openRead path with
    | false => exact .inr ⟨_,bind_of_error (Act.ensure_false _ _) _,fun both => Bool.false_ne_true both.1⟩
    | true =>
      rw [bind_of_ok (Act.ensure_true _ _),bind_of_ok (Act.look_apply _ _),found]
      have same {other : FileNode} (there : w.disk.node path = some other) : other = node := by
        rw [found,Option.some.injEq] at there
        exact there.symm
      cases whole : node.whole with
      | false =>
        simp only [Option.filter,whole,Bool.false_eq_true,if_false]
        refine .inr ⟨_,rfl,?_⟩
        rintro ⟨_,other,there,reads,_⟩
        rw [same there,whole] at reads
        cases reads
      | true =>
        simp only [Option.filter,whole,if_true]
        cases checked : Sqlite.integrityCheck node.bytes with
        | error message =>
          refine .inr ⟨message,rfl,?_⟩
          rintro ⟨_,other,there,_,good⟩
          rw [same there,passes,checked] at good
          cases good
        | ok rows =>
          have read : Act.query (fun _ => Except.ok rows) w = .ok rows w := rfl
          rcases refuse_cases rows w with ⟨ran,good⟩ | ⟨message,ran,bad⟩
          · exact .inl ⟨(bind_of_ok read _).trans ran,node,found,whole,by rw [passes,checked]; exact good⟩
          · refine .inr ⟨message,(bind_of_ok read _).trans ran,?_⟩
            rintro ⟨_,other,there,_,good⟩
            rw [same there,passes,checked] at good
            exact Bool.false_ne_true (bad.symm.trans good)

/-- What an inspection finds. -/
structure Inspected (directory : String → String) (disk : Disk) (config : DbBackupConfig) (item : BackupHealth) : Prop where
  of_config : item.config = config
  at_path : item.path = backupFilePath directory config
  healthy : item.isHealthy = true ↔ Healthy disk item.path

omit [Blake3] [Sqlite] in
theorem onDisk_of_ok {α : Type} {x : Act α} {s : Backups} {a : α} {t : World} (ran : x ⟨Db.empty,s.disk⟩ = .ok a t) :
    onDisk x s = .ok a { s with disk := t.disk } := by
  rw [onDisk,ran]

omit [Blake3] [Sqlite] in
theorem onDisk_of_error {α : Type} {x : Act α} {s : Backups} {message : String} {t : World}
    (ran : x ⟨Db.empty,s.disk⟩ = .error message t) : onDisk x s = .error message { s with disk := t.disk } := by
  rw [onDisk,ran]

omit [Sqlite] in
theorem checksumFile_whole (io : Io) {w : World} {path : Location} {node : FileNode} (found : w.disk.node path = some node)
    (opens : io.openRead path = true) (whole : node.whole = true) (strategy : ChecksumStrategy) :
    checksumFile io path strategy w = .ok (checksumBytes node.bytes) w := by
  rw [checksumFile_run,found]
  simp only [opens,whole,Bool.and_self,if_true]

theorem inspectBackup_yields (directory : String → String) (config : DbBackupConfig) (s : Backups) :
    Yields (inspectBackup directory config) s (fun item t => t = s ∧ Inspected directory s.disk config item) := by
  have looked : onDisk (Act.look (fun disk => disk.exists? (backupFilePath directory config))) s =
      .ok (s.disk.exists? (backupFilePath directory config)) s := rfl
  unfold inspectBackup
  apply yields_bind_ok looked
  cases there : s.disk.exists? (backupFilePath directory config) with
  | false =>
    refine yields_pure ⟨rfl,rfl,rfl,iff_of_false Bool.false_ne_true ?_⟩
    rintro ⟨node,found,_⟩
    rw [Disk.exists?,found] at there
    cases there
  | true =>
    simp only [Bool.not_true,Bool.false_eq_true,if_false]
    rcases verifySqliteDatabase_cases .healthy (backupFilePath directory config) ⟨Db.empty,s.disk⟩ with
      ⟨verified,good⟩ | ⟨message,failed,bad⟩
    · obtain ⟨node,found,whole,_⟩ := id good
      have hashed := checksumFile_whole .healthy (w := ⟨Db.empty,s.disk⟩) found rfl whole .streaming
      have both := onDisk_of_ok ((bind_of_ok verified
        (fun _ => checksumFile .healthy (backupFilePath directory config) .streaming)).trans hashed)
      apply yields_bind_ok (attempt_of_ok both)
      exact yields_pure ⟨rfl,rfl,rfl,iff_of_true rfl good⟩
    · have failed := onDisk_of_error (bind_of_error failed
        (fun _ => checksumFile .healthy (backupFilePath directory config) .streaming))
      apply yields_bind_ok (attempt_of_error failed)
      exact yields_pure ⟨rfl,rfl,rfl,iff_of_false Bool.false_ne_true fun good => bad ⟨rfl,good⟩⟩

theorem inspectBackups_yields (directory : String → String) (configs : List DbBackupConfig) (s : Backups) :
    Yields (inspectBackups directory configs) s (fun items t => t = s ∧
      List.Forall₂ (Inspected directory s.disk) configs items) := by
  induction configs with
  | nil => exact yields_pure ⟨rfl,.nil⟩
  | cons config configs ih =>
    apply yields_bind (inspectBackup_yields directory config s)
    rintro item _ ⟨rfl,inspected⟩
    apply yields_bind ih
    rintro items _ ⟨rfl,rest⟩
    exact yields_pure ⟨rfl,.cons inspected rest⟩

/-! What the settling of one destination can change. -/

def Entry.configId : Entry → Nat
  | .persisted configId _ => configId
  | .replaced configId => configId

omit [Blake3] in
theorem healthy_of_node {disk other : Disk} {path : Location} (same : other.node path = disk.node path)
    (good : Healthy disk path) : Healthy other path := by
  unfold Healthy
  rw [same]
  exact good

/-- From `s` to `t` nothing is changed but what belongs to one destination, and its file, if at all, to a healthy one. -/
structure Touches (id : Nat) (path : Location) (s t : Backups) : Prop where
  others : ∀ other, other.relativePath = backupFilename → other ≠ path → t.disk.node other = s.disk.node other
  own : t.disk.node path = s.disk.node path ∨ Healthy t.disk path
  rows : ∀ other, other ≠ id → t.configs.find? other = s.configs.find? other
  row : ∀ config, s.configs.find? id = some config → ∃ status error,
    t.configs.find? id = some { config with lastIntegrityStatus := status,lastError := error }
  journal : ∃ new, t.journal = s.journal ++ new ∧ (∀ entry ∈ new, entry.configId = id) ∧
    (.replaced id ∈ new → Healthy t.disk path)

omit [Blake3] in
theorem Touches.stays {id : Nat} {path : Location} {s t : Backups} (touches : Touches id path s t)
    (good : Healthy s.disk path) : Healthy t.disk path := by
  rcases touches.own with same | healthy
  · exact healthy_of_node same good
  · exact healthy

instance (id : Nat) (path : Location) : IsPreorder Backups (Touches id path) where
  refl s := ⟨fun _ _ _ => rfl,.inl rfl,fun _ _ => rfl,fun config found => ⟨_,_,found⟩,[],by simp,by simp,by simp⟩
  trans s t u first second := by
    refine ⟨fun other canonical apart => ?_,?_,fun other apart => ?_,fun config found => ?_,?_⟩
    · exact (second.others other canonical apart).trans (first.others other canonical apart)
    · rcases second.own with same | good
      · rcases first.own with before | good
        · exact .inl (same.trans before)
        · exact .inr (healthy_of_node same good)
      · exact .inr good
    · exact (second.rows other apart).trans (first.rows other apart)
    · obtain ⟨status,error,there⟩ := first.row config found
      obtain ⟨status,error,there⟩ := second.row _ there
      exact ⟨status,error,there⟩
    · obtain ⟨new,grown,own,replaced⟩ := first.journal
      obtain ⟨later,grownLater,ownLater,replacedLater⟩ := second.journal
      refine ⟨new ++ later,by rw [grownLater,grown,List.append_assoc],?_,?_⟩
      · intro entry member
        rcases List.mem_append.mp member with old | young
        · exact own entry old
        · exact ownLater entry young
      · intro member
        rcases List.mem_append.mp member with old | young
        · exact second.stays (replaced old)
        · exact replacedLater young

omit [Blake3] in
theorem touches_disk {id : Nat} {path : Location} {s : Backups} {disk : Disk}
    (kept : ∀ other, other.relativePath = backupFilename → disk.node other = s.disk.node other)
    (canonical : path.relativePath = backupFilename) : Touches id path s { s with disk } :=
  ⟨fun other same _ => kept other same,.inl (kept path canonical),fun _ _ => rfl,fun _ found => ⟨_,_,found⟩,
    [],by simp,by simp,by simp⟩

omit [Blake3] in
theorem touches_onDisk {α : Type} {x : Act α} {id : Nat} {path : Location}
    (kept : ∀ w other, other.relativePath = backupFilename → (after x w).disk.node other = w.disk.node other)
    (canonical : path.relativePath = backupFilename) : Keeps (Touches id path) (onDisk x) := by
  intro s
  have same := kept ⟨Db.empty,s.disk⟩
  cases ran : x ⟨Db.empty,s.disk⟩ with
  | ok a t =>
    rw [after_of_ok ran] at same
    rw [after_of_ok (onDisk_of_ok ran)]
    exact touches_disk same canonical
  | error message t =>
    rw [after_of_error ran] at same
    rw [after_of_error (onDisk_of_error ran)]
    exact touches_disk same canonical

omit [Blake3] in
theorem touches_onDisk_still {α : Type} {x : Act α} {id : Nat} {path : Location} (still : ∀ w, after x w = w)
    (canonical : path.relativePath = backupFilename) : Keeps (Touches id path) (onDisk x) :=
  touches_onDisk (fun w _ _ => by rw [still]) canonical

omit [Blake3] [Sqlite] in
theorem updateStatus_cases (run : Run) (id : Nat) (status : String) (error : Option String) (s : Backups) :
    (∃ message, run.statusWrite s.statusWrites = some message ∧
      updateDbBackupIntegrityStatus run id status error s = .error message s.attempted) ∨
    (run.statusWrite s.statusWrites = none ∧
      updateDbBackupIntegrityStatus run id status error s = .ok () (s.attempted.withStatus id status error)) := by
  unfold updateDbBackupIntegrityStatus
  cases run.statusWrite s.statusWrites with
  | some message => exact .inl ⟨message,rfl,rfl⟩
  | none => exact .inr ⟨rfl,rfl⟩

omit [Blake3] [Sqlite] in
theorem find?_withStatus (s : Backups) (id other : Nat) (status : String) (error : Option String) :
    (s.withStatus id status error).configs.find? other = (s.configs.find? other).map (fun config =>
      if other = id then { config with lastIntegrityStatus := some status,lastError := error } else config) := by
  rw [Backups.withStatus,Table.find?_updateWhere]
  cases found : s.configs.find? other with
  | none => rfl
  | some config =>
    have same : config.id = other := Table.find?_key found
    simp [same]

omit [Blake3] in
theorem touches_withStatus (s : Backups) (id : Nat) (path : Location) (status : String) (error : Option String) :
    Touches id path s (s.withStatus id status error) := by
  refine ⟨fun _ _ _ => rfl,.inl rfl,fun other apart => ?_,fun config found => ?_,[.persisted id status],rfl,?_,by simp⟩
  · rw [find?_withStatus]
    simp only [apart,if_false,Option.map_id']
  · refine ⟨some status,error,?_⟩
    rw [find?_withStatus,found]
    simp
  · intro entry member
    rw [List.mem_singleton.mp member]
    rfl

omit [Blake3] in
theorem touches_attempted (s : Backups) (id : Nat) (path : Location) : Touches id path s s.attempted :=
  ⟨fun _ _ _ => rfl,.inl rfl,fun _ _ => rfl,fun _ found => ⟨_,_,found⟩,[],by simp [Backups.attempted],by simp,by simp⟩

omit [Blake3] in
theorem touches_updateStatus (run : Run) (id : Nat) (path : Location) (status : String) (error : Option String) :
    Keeps (Touches id path) (updateDbBackupIntegrityStatus run id status error) := by
  intro s
  have attempted := touches_attempted s id path
  rcases updateStatus_cases run id status error s with ⟨message,_,failed⟩ | ⟨_,done⟩
  · rw [after_of_error failed]
    exact attempted
  · rw [after_of_ok done]
    exact trans_of (Touches id path) attempted (touches_withStatus _ _ _ _ _)

omit [Blake3] in
theorem touches_retry (run : Run) (id : Nat) (path : Location) (status : String) (error : Option String) (attempts : Nat)
    (lastError : Option String) : Keeps (Touches id path) (retryStatusWrite run id status error attempts lastError) := by
  induction attempts generalizing lastError with
  | zero => exact keeps_pure _
  | succ attempts ih =>
    apply keeps_bind (keeps_attempt (touches_updateStatus run id path status error))
    intro result
    cases result with
    | ok _ => exact keeps_pure _
    | error message => exact ih (some message)

omit [Blake3] [Sqlite] in
theorem repairTmpPath_apart (dest other : Location) (stamp : String) (canonical : other.relativePath = backupFilename) :
    other ≠ repairTmpPath dest stamp := by
  rintro rfl
  have length := congrArg String.length canonical
  simp only [repairTmpPath,String.length_append] at length
  have name : ".repair.".length = 8 := rfl
  omega

omit [Blake3] [Sqlite] in
theorem checksumPath_apart (dest other : Location) (canonical : other.relativePath = backupFilename) :
    other ≠ ⟨dest.root,checksumFilename⟩ := by
  rintro rfl
  have different : checksumFilename ≠ backupFilename := by decide
  exact different canonical

omit [Blake3] [Sqlite] in
theorem createParentDirs_node (io : Io) (path : Location) (w : World) (other : Location) :
    (after (createParentDirs io path) w).disk.node other = w.disk.node other := by
  unfold createParentDirs attemptCall
  cases io.createDirAll path with
  | false => rfl
  | true =>
    rw [after_bind_of_ok (Act.ensure_true _ _)]
    cases io.createsRoot path.root <;> rfl

omit [Blake3] in
theorem touches_fsCopy_tmp (io : Io) (source dest : Location) (stamp : String) (id : Nat) {path : Location}
    (canonical : path.relativePath = backupFilename) (text : String → String) :
    Keeps (Touches id path) (onDisk (Act.mapErr text (fsCopy io source (repairTmpPath dest stamp)))) := by
  apply touches_onDisk _ canonical
  intro w other same
  rw [Act.after_mapErr]
  exact (writesOnly_fsCopy io source (repairTmpPath dest stamp) w).others other (repairTmpPath_apart dest other stamp same)

omit [Blake3] in
theorem touches_renameOver (calls : RepairCalls) (id : Nat) {dest : Location} {s : Backups}
    (good : Healthy s.disk (repairTmpPath dest calls.stamp)) :
    Touches id dest s (after (renameOver calls id (repairTmpPath dest calls.stamp) dest) s) := by
  have installed : Healthy (renamed s.disk (repairTmpPath dest calls.stamp) dest) dest := by
    unfold Healthy
    simp only [renamed,if_true]
    exact good
  unfold renameOver after
  cases calls.rename with
  | false => exact refl_of (Touches id dest) s
  | true =>
    refine ⟨fun other same apart => ?_,.inr installed,fun _ _ => rfl,fun _ found => ⟨_,_,found⟩,
      [.replaced id],rfl,?_,fun _ => installed⟩
    · change (renamed s.disk (repairTmpPath dest calls.stamp) dest).node other = _
      simp only [renamed,apart,repairTmpPath_apart dest other calls.stamp same,if_false]
    · intro entry member
      rw [List.mem_singleton.mp member]
      rfl

theorem touches_copyBackupAtomically (calls : RepairCalls) (id : Nat) (source : Location) {dest : Location}
    (canonical : dest.relativePath = backupFilename) :
    Keeps (Touches id dest) (copyBackupAtomically calls id source dest) := by
  apply keeps_bind
  · apply touches_onDisk _ canonical
    intro w other _
    rw [Act.after_mapErr]
    exact createParentDirs_node calls.io dest w other
  intro _
  apply keeps_bind (touches_fsCopy_tmp calls.io source dest calls.stamp id canonical _)
  intro _ s
  rcases verifySqliteDatabase_cases calls.io (repairTmpPath dest calls.stamp) ⟨Db.empty,s.disk⟩ with
    ⟨verified,good⟩ | ⟨message,failed,_⟩
  · rw [after_bind_of_ok (onDisk_of_ok verified)]
    apply related_bind (touches_renameOver calls id good)
    intro _
    apply keeps_bind (touches_onDisk_still (fun w => checksumFile_after _ w _ _) canonical)
    intro checksum
    apply keeps_bind (touches_onDisk_still (ensure_still _ _) canonical)
    intro _
    apply touches_onDisk _ canonical
    intro w other same
    exact Disk.write_other _ _ (checksumPath_apart dest other same)
  · rw [after_bind_of_error (onDisk_of_error failed)]
    exact refl_of (Touches id dest) s

/-! The order of what is done for a destination. -/

/-- Every file is replaced after its corrupt or missing state was persisted. -/
def Guarded (entries : List Entry) : Prop :=
  ∀ before id after, entries = before ++ .replaced id::after →
    ∃ status, (status = "corrupt" ∨ status = "missing") ∧ .persisted id status ∈ before

omit [Blake3] [Sqlite] in
theorem guarded_append {first second : List Entry} (head : Guarded first) (tail : Guarded second) :
    Guarded (first ++ second) := by
  intro before id after same
  rcases List.append_eq_append_iff.mp same with ⟨middle,rfl,rest⟩ | ⟨middle,rfl,rest⟩
  · obtain ⟨status,marks,member⟩ := tail middle id after rest
    exact ⟨status,marks,List.mem_append_right _ member⟩
  · cases middle with
    | nil =>
      obtain ⟨status,marks,member⟩ := tail [] id after rest.symm
      cases member
    | cons entry middle =>
      obtain ⟨rfl,rfl⟩ := List.cons.inj rest
      exact head before id middle rfl

omit [Blake3] [Sqlite] in
theorem guarded_of_persisted {entries : List Entry} (none : ∀ id, .replaced id ∉ entries) : Guarded entries := by
  rintro before id after rfl
  exact absurd (List.mem_append_right _ List.mem_cons_self) (none id)

omit [Blake3] [Sqlite] in
theorem guarded_marked {id : Nat} {status : String} (marks : status = "corrupt" ∨ status = "missing") {rest : List Entry}
    (own : ∀ entry ∈ rest, entry.configId = id) : Guarded (.persisted id status::rest) := by
  intro before other after same
  cases before with
  | nil => cases same
  | cons first before =>
    obtain ⟨rfl,rfl⟩ := List.cons.inj same
    have about : other = id := own (.replaced other) (List.mem_append_right _ List.mem_cons_self)
    rw [about]
    exact ⟨status,marks,List.mem_cons_self⟩

/-- The recorded status of a destination is one of an error or of a repair. -/
def Noted (id : Nat) (s : Backups) : Prop :=
  ∀ config, s.configs.find? id = some config → config.inErrorState = true ∨ config.lastIntegrityStatus = some "repaired"

omit [Blake3] [Sqlite] in
theorem noted_withStatus (s : Backups) (id : Nat) {status : String} (error : Option String)
    (notes : status = "corrupt" ∨ status = "missing" ∨ status = "failed" ∨ status = "repaired") :
    Noted id (s.withStatus id status error) := by
  intro config found
  rw [find?_withStatus] at found
  obtain ⟨old,_,rfl⟩ := Option.map_eq_some_iff.mp found
  simp only [if_true]
  rcases notes with rfl | rfl | rfl | rfl
  · exact .inl rfl
  · exact .inl rfl
  · exact .inl rfl
  · exact .inr rfl

/-- From `s` to `t` a destination that was noted stays so. -/
def StaysNoted (id : Nat) (s t : Backups) : Prop := Noted id s → Noted id t

instance (id : Nat) : IsPreorder Backups (StaysNoted id) where
  refl _ := fun noted => noted
  trans _ _ _ first second := fun noted => second (first noted)

omit [Blake3] [Sqlite] in
theorem staysNoted_updateStatus (run : Run) (id : Nat) {status : String} (error : Option String)
    (notes : status = "corrupt" ∨ status = "missing" ∨ status = "failed" ∨ status = "repaired") :
    Keeps (StaysNoted id) (updateDbBackupIntegrityStatus run id status error) := by
  intro s noted
  rcases updateStatus_cases run id status error s with ⟨message,_,failed⟩ | ⟨_,done⟩
  · rw [after_of_error failed]
    exact noted
  · rw [after_of_ok done]
    exact noted_withStatus _ _ _ notes

omit [Blake3] [Sqlite] in
theorem staysNoted_retry (run : Run) (id : Nat) {status : String} (error : Option String)
    (notes : status = "corrupt" ∨ status = "missing" ∨ status = "failed" ∨ status = "repaired") (attempts : Nat)
    (lastError : Option String) : Keeps (StaysNoted id) (retryStatusWrite run id status error attempts lastError) := by
  induction attempts generalizing lastError with
  | zero => exact keeps_pure _
  | succ attempts ih =>
    apply keeps_bind (keeps_attempt (staysNoted_updateStatus run id error notes))
    intro result
    cases result with
    | ok _ => exact keeps_pure _
    | error message => exact ih (some message)

omit [Blake3] [Sqlite] in
theorem staysNoted_onDisk {α : Type} (x : Act α) (id : Nat) : Keeps (StaysNoted id) (onDisk x) := by
  intro s noted
  unfold after onDisk
  cases x ⟨Db.empty,s.disk⟩ <;> exact noted

omit [Blake3] [Sqlite] in
theorem staysNoted_renameOver (calls : RepairCalls) (id : Nat) (src dst : Location) :
    Keeps (StaysNoted id) (renameOver calls id src dst) := by
  intro s noted
  unfold after renameOver
  cases calls.rename <;> exact noted

theorem staysNoted_copyBackupAtomically (calls : RepairCalls) (id : Nat) (source dest : Location) :
    Keeps (StaysNoted id) (copyBackupAtomically calls id source dest) := by
  refine keeps_bind (staysNoted_onDisk _ id) fun _ => keeps_bind (staysNoted_onDisk _ id) fun _ => ?_
  refine keeps_bind (staysNoted_onDisk _ id) fun _ => keeps_bind (staysNoted_renameOver calls id _ _) fun _ => ?_
  refine keeps_bind (staysNoted_onDisk _ id) fun _ => keeps_bind (staysNoted_onDisk _ id) fun _ => ?_
  exact staysNoted_onDisk _ id

omit [Blake3] [Sqlite] in
theorem retryStatusWrite_yields (run : Run) (id : Nat) (status : String) (error : Option String) (attempts : Nat)
    (lastError : Option String) (s : Backups) :
    Yields (retryStatusWrite run id status error attempts lastError) s (fun result t =>
      (result.1 = true ∧ t.journal = s.journal ++ [.persisted id status] ∧
          ∃ (u : Backups) (message : Option String), t = u.withStatus id status message) ∨
        (result.1 = false ∧ t.disk = s.disk ∧ t.journal = s.journal)) := by
  induction attempts generalizing lastError s with
  | zero => exact yields_pure (.inr ⟨rfl,rfl,rfl⟩)
  | succ attempts ih =>
    unfold retryStatusWrite
    rcases updateStatus_cases run id status error s with ⟨message,_,failed⟩ | ⟨_,done⟩
    · apply yields_bind_ok (attempt_of_error failed)
      exact ih (some message) s.attempted
    · apply yields_bind_ok (attempt_of_ok done)
      exact yields_pure (.inl ⟨rfl,rfl,_,_,rfl⟩)

omit [Blake3] [Sqlite] in
theorem presentStatus_run (path : Location) (s : Backups) :
    ∃ status, presentStatus path s = .ok status s ∧ (status = "corrupt" ∨ status = "missing") := by
  have looked : onDisk (Act.look (fun disk => disk.exists? path)) s = .ok (s.disk.exists? path) s := rfl
  unfold presentStatus
  rw [bind_of_ok looked]
  cases s.disk.exists? path with
  | true => exact ⟨_,rfl,.inl rfl⟩
  | false => exact ⟨_,rfl,.inr rfl⟩

/-- What is true of a destination once it is settled. -/
structure Settled (item : BackupHealth) (s : Backups) (result : BackupIntegrityResult) (t : Backups) : Prop where
  touches : Touches item.config.id item.path s t
  journal : ∃ new, t.journal = s.journal ++ new ∧ Guarded new ∧ (.replaced item.config.id ∈ new → Noted item.config.id t)
  still : item.isHealthy = true → t.disk = s.disk
  about : result.backupConfigId = item.config.id
  healthy : item.isHealthy = true → result.status = healthyStatus item.config

omit [Blake3] in
theorem yields_report (run : Run) (item : BackupHealth) (status : String) (error : Option String)
    (result : BackupIntegrityResult) (about : result.backupConfigId = item.config.id)
    (reports : item.isHealthy = true → result.status = healthyStatus item.config) (s : Backups) :
    Yields (do
      let _ ← attempt (updateDbBackupIntegrityStatus run item.config.id status error)
      pure result) s (Settled item s) := by
  have attempted := touches_attempted s item.config.id item.path
  rcases updateStatus_cases run item.config.id status error s with ⟨message,_,failed⟩ | ⟨_,done⟩
  · apply yields_bind_ok (attempt_of_error failed)
    exact yields_pure
      ⟨attempted,⟨[],by simp [Backups.attempted],guarded_of_persisted (by simp),by simp⟩,fun _ => rfl,about,reports⟩
  · apply yields_bind_ok (attempt_of_ok done)
    refine yields_pure ⟨?_,⟨_,rfl,guarded_of_persisted (by simp),by simp⟩,fun _ => rfl,about,reports⟩
    exact trans_of (Touches _ _) attempted (touches_withStatus _ _ _ _ _)

theorem replaceBackup_yields (run : Run) (sourceId : Nat) (sourcePath : Location) {item : BackupHealth}
    (canonical : item.path.relativePath = backupFilename) (s : Backups) :
    Yields (replaceBackup run sourceId sourcePath item) s (fun result t =>
      (result.backupConfigId = item.config.id ∧ Touches item.config.id item.path s t) ∧ StaysNoted item.config.id s t) := by
  have copies : Keeps (Touches item.config.id item.path) (do
      copyBackupAtomically (run.repair item.config.id) item.config.id sourcePath item.path
      onDisk (checksumFile (run.repair item.config.id).io item.path .streaming)) := by
    apply keeps_bind (touches_copyBackupAtomically _ _ _ canonical)
    intro _
    exact touches_onDisk_still (fun w => checksumFile_after _ w _ _) canonical
  refine Yields.and_keeps (Yields.and_keeps ?_ ?_) ?_
  · apply yields_bind (yields_attempt (Q := fun _ _ => True) (fun _ _ _ => trivial) (fun _ _ _ => trivial))
    rintro (message | checksum) t _
    · apply yields_bind (yields_attempt (Q := fun _ _ => True) (fun _ _ _ => trivial) (fun _ _ _ => trivial))
      intro _ _ _
      exact yields_pure rfl
    · apply yields_bind (retryStatusWrite_yields run item.config.id "repaired" none 6 none t)
      intro _ _ _
      exact yields_pure rfl
  · apply keeps_bind (keeps_attempt copies)
    rintro (message | checksum)
    · apply keeps_bind (keeps_attempt (touches_updateStatus _ _ _ _ _))
      intro _
      exact keeps_pure _
    · apply keeps_bind (touches_retry _ _ _ _ _ _ _)
      intro _
      exact keeps_pure _
  · apply keeps_bind (keeps_attempt (keeps_bind (staysNoted_copyBackupAtomically _ _ _ _) fun _ => staysNoted_onDisk _ _))
    rintro (message | checksum)
    · apply keeps_bind (keeps_attempt (staysNoted_updateStatus _ _ _ (.inr (.inr (.inl rfl)))))
      intro _
      exact keeps_pure _
    · apply keeps_bind (staysNoted_retry _ _ _ (.inr (.inr (.inr rfl))) _ _)
      intro _
      exact keeps_pure _

theorem repairBackup_yields (run : Run) (sourceId : Nat) (sourcePath : Location) {item : BackupHealth}
    (canonical : item.path.relativePath = backupFilename) (unhealthy : item.isHealthy = false) (s : Backups) :
    Yields (repairBackup run sourceId sourcePath item) s (Settled item s) := by
  obtain ⟨preStatus,looked,marks⟩ := presentStatus_run item.path s
  have never : item.isHealthy ≠ true := by simp [unhealthy]
  unfold repairBackup
  apply yields_bind_ok looked
  apply yields_bind ((retryStatusWrite_yields run item.config.id preStatus item.error 3 none s).and_keeps
    (touches_retry run item.config.id item.path preStatus item.error 3 none))
  rintro ⟨preWriteOk,preWriteErr⟩ t ⟨⟨rfl,marked,before,error,written⟩ | ⟨rfl,_,same⟩,touched⟩
  · apply (replaceBackup_yields run sourceId sourcePath canonical t).mono
    rintro result u ⟨⟨about,after⟩,notes⟩
    have noted : Noted item.config.id t := by
      rw [written]
      exact noted_withStatus before _ error (marks.imp id .inl)
    -- whatever follows the marker is about this destination
    obtain ⟨new,grown,own,_⟩ := after.journal
    refine ⟨trans_of (Touches _ _) touched after,⟨.persisted item.config.id preStatus::new,?_,guarded_marked marks own,
      fun _ => notes noted⟩,fun healthy => absurd healthy never,about,fun healthy => absurd healthy never⟩
    rw [grown,marked,List.append_assoc]
    rfl
  · exact yields_pure ⟨touched,⟨[],by simp [same],guarded_of_persisted (by simp),by simp⟩,
      fun healthy => absurd healthy never,rfl,fun healthy => absurd healthy never⟩

theorem settleBackup_yields (run : Run) (source : Option (Nat × Location)) {item : BackupHealth}
    (canonical : item.path.relativePath = backupFilename) (s : Backups) :
    Yields (settleBackup run source item) s (Settled item s) := by
  unfold settleBackup
  cases healthy : item.isHealthy with
  | true => exact yields_report run item _ none _ rfl (fun _ => rfl) s
  | false =>
    have reports : Yields (reportUnhealthy run item) s (Settled item s) := by
      obtain ⟨status,looked,_⟩ := presentStatus_run item.path s
      unfold reportUnhealthy
      apply yields_bind_ok looked
      exact yields_report run item status _ _ rfl (fun good => by rw [healthy] at good; cases good) s
    simp only [Bool.false_eq_true,if_false]
    split
    · exact reports
    · rename_i sourceId sourcePath
      split
      · exact repairBackup_yields run sourceId sourcePath canonical healthy s
      · exact reports

/-! All destinations, one after the other. -/

/-- What is true once the destinations of a list are settled. -/
structure SettledAll (items : List BackupHealth) (s : Backups) (results : List BackupIntegrityResult) (t : Backups) :
    Prop where
  stays : ∀ path, path.relativePath = backupFilename → Healthy s.disk path → Healthy t.disk path
  spared : ∀ path, path.relativePath = backupFilename → (∀ item ∈ items, item.path = path → item.isHealthy = true) →
    t.disk.node path = s.disk.node path
  row : ∀ id config, s.configs.find? id = some config → ∃ status error,
    t.configs.find? id = some { config with lastIntegrityStatus := status,lastError := error }
  rows : ∀ id, (∀ item ∈ items, item.config.id ≠ id) → t.configs.find? id = s.configs.find? id
  journal : ∃ new, t.journal = s.journal ++ new ∧ Guarded new ∧
    ∀ id, .replaced id ∈ new → Noted id t ∧ ∃ item ∈ items, item.config.id = id ∧ Healthy t.disk item.path
  reports : List.Forall₂ (fun (item : BackupHealth) result => result.backupConfigId = item.config.id ∧
    (item.isHealthy = true → result.status = healthyStatus item.config)) items results

omit [Blake3] in
theorem settledAll_cons {item : BackupHealth} {items : List BackupHealth} {s t u : Backups} {result : BackupIntegrityResult}
    {results : List BackupIntegrityResult} (canonical : item.path.relativePath = backupFilename)
    (fresh : ∀ other ∈ items, other.config.id ≠ item.config.id) (first : Settled item s result t)
    (rest : SettledAll items t results u) :
    SettledAll (item::items) s (result::results) u where
  stays path same good := by
    apply rest.stays path same
    by_cases own : path = item.path
    · rw [own] at good ⊢
      exact first.touches.stays good
    · exact healthy_of_node (first.touches.others path same own) good
  spared path same healthy := by
    rw [rest.spared path same fun other member => healthy other (List.mem_cons_of_mem _ member)]
    by_cases own : item.path = path
    · rw [first.still (healthy item List.mem_cons_self own)]
    · exact first.touches.others path same fun other => own other.symm
  row id config found := by
    by_cases own : id = item.config.id
    · subst own
      obtain ⟨status,error,there⟩ := first.touches.row config found
      obtain ⟨status,error,there⟩ := rest.row _ _ there
      exact ⟨status,error,there⟩
    · exact rest.row id config ((first.touches.rows id own).trans found)
  rows id apart := by
    rw [rest.rows id fun other member => apart other (List.mem_cons_of_mem _ member)]
    exact first.touches.rows id fun own => apart item List.mem_cons_self own.symm
  journal := by
    obtain ⟨new,grown,own,installed⟩ := first.touches.journal
    obtain ⟨other,same,guarded,noted⟩ := first.journal
    obtain rfl : other = new := List.append_cancel_left (same.symm.trans grown)
    obtain ⟨later,grownLater,guardedLater,installedLater⟩ := rest.journal
    refine ⟨other ++ later,by rw [grownLater,grown,List.append_assoc],guarded_append guarded guardedLater,?_⟩
    intro id member
    rcases List.mem_append.mp member with old | young
    · obtain rfl : id = item.config.id := own _ old
      refine ⟨fun config found => noted old config ?_,item,List.mem_cons_self,rfl,rest.stays item.path canonical (installed old)⟩
      rw [← rest.rows item.config.id fresh]
      exact found
    · obtain ⟨notedLater,other,present,about,good⟩ := installedLater id young
      exact ⟨notedLater,other,List.mem_cons_of_mem _ present,about,good⟩
  reports := .cons ⟨first.about,first.healthy⟩ rest.reports

theorem settleBackups_yields (run : Run) (source : Option (Nat × Location)) (items : List BackupHealth)
    (canonical : ∀ item ∈ items, item.path.relativePath = backupFilename)
    (distinct : (items.map (fun item => item.config.id)).Nodup) (s : Backups) :
    Yields (settleBackups run source items) s (SettledAll items s) := by
  induction items generalizing s with
  | nil =>
    exact yields_pure ⟨fun _ _ good => good,fun _ _ _ => rfl,fun _ _ found => ⟨_,_,found⟩,fun _ _ => rfl,
      ⟨[],by simp,guarded_of_persisted (by simp),by simp⟩,.nil⟩
  | cons item items ih =>
    have mine := canonical item List.mem_cons_self
    obtain ⟨fresh,apart⟩ := List.nodup_cons.mp distinct
    apply yields_bind (settleBackup_yields run source mine s)
    intro result t first
    apply yields_bind (ih (fun other member => canonical other (List.mem_cons_of_mem _ member)) apart t)
    intro results u rest
    refine yields_pure (settledAll_cons mine (fun other member same => ?_) first rest)
    exact fresh (List.mem_map.mpr ⟨other,member,same⟩)

/-! When every write succeeds. -/

structure RepairCalls.Succeed (calls : RepairCalls) : Prop where
  openRead : ∀ path, calls.io.openRead path = true
  create : ∀ path, calls.io.create path = true
  createDirAll : ∀ path, calls.io.createDirAll path = true
  writeLimit : ∀ path, calls.io.writeLimit path = none
  copyPermissions : ∀ path, calls.io.copyPermissions path = true
  writeFile : ∀ path, calls.io.writeFile path = true
  rename : calls.rename = true

structure Run.Succeeds (run : Run) : Prop where
  statusWrite : ∀ n, run.statusWrite n = none
  repair : ∀ id, (run.repair id).Succeed

omit [Blake3] [Sqlite] in
theorem fsCopy_succeeds {calls : RepairCalls} (succeed : calls.Succeed) {src dst : Location} {w : World} {node : FileNode}
    (apart : src ≠ dst) (found : w.disk.node src = some node) (whole : node.whole = true) :
    fsCopy calls.io src dst w = .ok () { w with disk := w.disk.write dst node.bytes } := by
  have present : w.disk.exists? src = true := by
    rw [Disk.exists?,found]
    rfl
  have enters : entersCopy calls.io w.disk src dst = true := by
    simp only [entersCopy,present,succeed.openRead,succeed.create,Bool.and_self]
  obtain ⟨opened,created,_⟩ := openFile_create_of_enters enters
  have source : copySource w.disk src dst = node := by
    rw [copySource,Disk.write_other _ _ apart,found]
    rfl
  have content : delivered calls.io w.disk src dst = node.bytes := by
    rw [delivered,succeed.writeLimit,source,fitting,FileNode.readable_of_whole whole]
  have arrived : arrives calls.io w.disk src dst = true := by
    simp only [arrives,content,source,whole,FileNode.readable_of_whole whole,beq_self_eq_true,Bool.and_self]
  have permitted : attemptCall (calls.io.copyPermissions dst) { w with disk := w.disk.write dst [] } =
      .ok () { w with disk := w.disk.write dst [] } := by
    rw [succeed.copyPermissions]
    rfl
  have copied := @copyLoop_created calls.io src dst w present
  rw [if_pos arrived,content] at copied
  unfold fsCopy
  rw [bind_of_ok opened,bind_of_ok created,bind_of_ok permitted,bind_of_ok (Act.look_apply _ _)]
  exact bind_of_ok copied _

omit [Blake3] in
theorem verifySqliteDatabase_healthy {calls : RepairCalls} (succeed : calls.Succeed) {path : Location} {w : World}
    (good : Healthy w.disk path) : verifySqliteDatabase calls.io path w = .ok () w := by
  rcases verifySqliteDatabase_cases calls.io path w with ⟨verified,_⟩ | ⟨message,_,bad⟩
  · exact verified
  · exact absurd ⟨succeed.openRead path,good⟩ bad

theorem copyBackupAtomically_succeeds {calls : RepairCalls} (succeed : calls.Succeed) (id : Nat) {source dest : Location}
    (canonical : source.relativePath = backupFilename) (installs : dest.relativePath = backupFilename) {s : Backups}
    (good : Healthy s.disk source) :
    Yields (copyBackupAtomically calls id source dest) s (fun _ t => Healthy t.disk dest ∧ t.configs = s.configs) := by
  have prepared : Yields (onDisk (Act.mapErr (fun _ => "Failed to create backup directory")
      (createParentDirs calls.io dest))) s (fun _ t => t.disk.node = s.disk.node ∧ t.configs = s.configs) := by
    unfold Yields onDisk Act.mapErr createParentDirs
    rw [succeed.createDirAll]
    cases calls.io.createsRoot dest.root with
    | false => exact ⟨(),s,rfl,rfl,rfl⟩
    | true => exact ⟨(),{ s with disk := s.disk.mount dest.root },rfl,rfl,rfl⟩
  apply yields_bind prepared
  rintro _ t ⟨nodes,configs⟩
  obtain ⟨node,found,whole,passed⟩ := good
  rw [← nodes] at found
  have copied := onDisk_of_ok (s := t) (Act.mapErr_of_ok (fsCopy_succeeds (w := ⟨Db.empty,t.disk⟩) succeed
    (repairTmpPath_apart dest source calls.stamp canonical) found whole) (fun _ => "Failed to copy healthy database backup"))
  apply yields_bind_ok copied
  have written : Healthy (t.disk.write (repairTmpPath dest calls.stamp) node.bytes) (repairTmpPath dest calls.stamp) :=
    ⟨⟨node.bytes,none⟩,Disk.write_same _ _ _,rfl,passed⟩
  apply yields_bind_ok (onDisk_of_ok (verifySqliteDatabase_healthy succeed written))
  have moved : renameOver calls id (repairTmpPath dest calls.stamp) dest
      { t with disk := t.disk.write (repairTmpPath dest calls.stamp) node.bytes } = .ok () { t with
        disk := renamed (t.disk.write (repairTmpPath dest calls.stamp) node.bytes) (repairTmpPath dest calls.stamp) dest
        journal := t.journal ++ [.replaced id] } := by
    rw [renameOver,succeed.rename]
    rfl
  apply yields_bind_ok moved
  have there : (renamed (t.disk.write (repairTmpPath dest calls.stamp) node.bytes)
      (repairTmpPath dest calls.stamp) dest).node dest = some ⟨node.bytes,none⟩ := by
    simp only [renamed,if_true,Disk.write_same]
  apply yields_bind_ok (onDisk_of_ok (checksumFile_whole calls.io there (succeed.openRead dest) rfl .streaming))
  have allowed (message : String) (w : World) :
      Act.ensure (calls.io.writeFile ⟨dest.root,checksumFilename⟩) message w = .ok () w := by
    rw [succeed.writeFile]
    rfl
  apply yields_bind_ok (onDisk_of_ok (allowed _ _))
  refine ⟨(),_,rfl,healthy_of_node (Disk.write_other _ _ (checksumPath_apart dest dest installs)) ?_,configs⟩
  exact ⟨_,there,rfl,passed⟩

omit [Blake3] [Sqlite] in
theorem updateStatus_succeeds {run : Run} (succeeds : run.Succeeds) (id : Nat) (status : String) (error : Option String)
    (s : Backups) :
    updateDbBackupIntegrityStatus run id status error s = .ok () (s.attempted.withStatus id status error) := by
  unfold updateDbBackupIntegrityStatus
  rw [succeeds.statusWrite]

omit [Blake3] [Sqlite] in
theorem retryStatusWrite_succeeds {run : Run} (succeeds : run.Succeeds) (id : Nat) (status : String)
    (error : Option String) (attempts : Nat) (lastError : Option String) (s : Backups) :
    retryStatusWrite run id status error (attempts + 1) lastError s =
      .ok (true,none) (s.attempted.withStatus id status error) :=
  bind_of_ok (attempt_of_ok (updateStatus_succeeds succeeds id status error s)) _

omit [Blake3] [Sqlite] in
theorem status_withStatus {s : Backups} {id : Nat} {config : DbBackupConfig} (found : s.configs.find? id = some config)
    (status : String) (error : Option String) : ∃ row, (s.attempted.withStatus id status error).configs.find? id = some row ∧
      row.lastIntegrityStatus = some status := by
  refine ⟨{ config with lastIntegrityStatus := some status,lastError := error },?_,rfl⟩
  rw [find?_withStatus]
  change (s.configs.find? id).map _ = _
  rw [found]
  simp

/-- What a check is to report of a destination. -/
def settledStatus (item : BackupHealth) : String := if item.isHealthy then healthyStatus item.config else "repaired"

/-- The file is healthy, and the status is reported and persisted. -/
structure Succeeded (item : BackupHealth) (result : BackupIntegrityResult) (t : Backups) : Prop where
  status : result.status = settledStatus item
  healthy : Healthy t.disk item.path
  persisted : ∃ row, t.configs.find? item.config.id = some row ∧ row.lastIntegrityStatus = some result.status

theorem replaceBackup_succeeds {run : Run} (succeeds : run.Succeeds) (sourceId : Nat) {sourcePath : Location}
    (source : sourcePath.relativePath = backupFilename) {item : BackupHealth}
    (canonical : item.path.relativePath = backupFilename) (unhealthy : item.isHealthy = false) {s : Backups}
    {config : DbBackupConfig} (found : s.configs.find? item.config.id = some config) (good : Healthy s.disk sourcePath) :
    Yields (replaceBackup run sourceId sourcePath item) s (Succeeded item) := by
  have calls := succeeds.repair item.config.id
  have copied : Yields (do
      copyBackupAtomically (run.repair item.config.id) item.config.id sourcePath item.path
      onDisk (checksumFile (run.repair item.config.id).io item.path .streaming)) s
      (fun _ t => Healthy t.disk item.path ∧ t.configs = s.configs) := by
    apply yields_bind (copyBackupAtomically_succeeds calls item.config.id source canonical good)
    rintro _ t ⟨installed,same⟩
    obtain ⟨node,there,whole,_⟩ := id installed
    exact ⟨_,_,onDisk_of_ok (checksumFile_whole _ there (calls.openRead item.path) whole .streaming),installed,same⟩
  obtain ⟨checksum,t,ran,installed,same⟩ := copied
  rw [← same] at found
  obtain ⟨row,there,recorded⟩ := status_withStatus found "repaired" none
  unfold replaceBackup
  apply yields_bind_ok (attempt_of_ok ran)
  apply yields_bind_ok (retryStatusWrite_succeeds succeeds item.config.id "repaired" none 5 none t)
  refine yields_pure ⟨?_,installed,row,there,recorded⟩
  rw [settledStatus,unhealthy]
  rfl

theorem settleBackup_succeeds {run : Run} (succeeds : run.Succeeds) {sourceId : Nat} {sourcePath : Location}
    (source : sourcePath.relativePath = backupFilename) {item : BackupHealth}
    (canonical : item.path.relativePath = backupFilename) (other : item.isHealthy = false → sourceId ≠ item.config.id)
    {s : Backups} (holds : item.isHealthy = true → Healthy s.disk item.path) {config : DbBackupConfig}
    (found : s.configs.find? item.config.id = some config) (good : Healthy s.disk sourcePath) :
    Yields (settleBackup run (some (sourceId,sourcePath)) item) s (Succeeded item) := by
  unfold settleBackup
  cases healthy : item.isHealthy with
  | true =>
    obtain ⟨row,there,recorded⟩ := status_withStatus found (healthyStatus item.config) none
    simp only [if_true]
    unfold reportHealthy
    apply yields_bind_ok (attempt_of_ok (updateStatus_succeeds succeeds item.config.id _ none s))
    refine yields_pure ⟨?_,holds healthy,row,there,recorded⟩
    rw [settledStatus,healthy]
    rfl
  | false =>
    obtain ⟨preStatus,looked,_⟩ := presentStatus_run item.path s
    obtain ⟨row,there,_⟩ := status_withStatus found preStatus item.error
    simp only [Bool.false_eq_true,if_false,ne_eq,other healthy,not_false_eq_true,if_true]
    unfold repairBackup
    apply yields_bind_ok looked
    apply yields_bind_ok (retryStatusWrite_succeeds succeeds item.config.id preStatus item.error 2 none s)
    exact replaceBackup_succeeds succeeds sourceId source canonical healthy there good

theorem settleBackups_succeeds {run : Run} (succeeds : run.Succeeds) {sourceId : Nat} {sourcePath : Location}
    (source : sourcePath.relativePath = backupFilename) (items : List BackupHealth)
    (canonical : ∀ item ∈ items, item.path.relativePath = backupFilename)
    (others : ∀ item ∈ items, item.isHealthy = false → sourceId ≠ item.config.id)
    (distinct : (items.map (fun item => item.config.id)).Nodup) {s : Backups}
    (holds : ∀ item ∈ items, item.isHealthy = true → Healthy s.disk item.path)
    (found : ∀ item ∈ items, ∃ config, s.configs.find? item.config.id = some config) (good : Healthy s.disk sourcePath) :
    Yields (settleBackups run (some (sourceId,sourcePath)) items) s (fun results t =>
      List.Forall₂ (fun item result => Succeeded item result t) items results) := by
  induction items generalizing s with
  | nil => exact yields_pure .nil
  | cons item items ih =>
    have later : ∀ other ∈ items, other ∈ item::items := fun other => List.mem_cons_of_mem _
    have mine := canonical item List.mem_cons_self
    obtain ⟨fresh,apart⟩ := List.nodup_cons.mp distinct
    obtain ⟨config,row⟩ := found item List.mem_cons_self
    apply yields_bind ((settleBackup_succeeds succeeds source mine (others item List.mem_cons_self)
      (holds item List.mem_cons_self) row good).and (settleBackup_yields run (some (sourceId,sourcePath)) mine s))
    rintro result t ⟨succeeded,first⟩
    have stays (path : Location) (same : path.relativePath = backupFilename) (healthy : Healthy s.disk path) :
        Healthy t.disk path := by
      by_cases own : path = item.path
      · exact own ▸ succeeded.healthy
      · exact healthy_of_node (first.touches.others path same own) healthy
    apply yields_bind ((ih (fun other member => canonical other (later other member))
      (fun other member => others other (later other member)) apart
      (fun other member healthy => stays _ (canonical other (later other member)) (holds other (later other member) healthy))
      (fun other member => ?_) (stays _ source good)).and
      (settleBackups_yields run (some (sourceId,sourcePath)) items (fun other member => canonical other (later other member))
        apart t))
    · rintro results u ⟨rest,all⟩
      refine yields_pure (.cons ⟨succeeded.status,all.stays _ mine succeeded.healthy,?_⟩ rest)
      obtain ⟨row,there,recorded⟩ := succeeded.persisted
      refine ⟨row,(all.rows item.config.id fun other member same => ?_).trans there,recorded⟩
      exact fresh (List.mem_map.mpr ⟨other,member,same⟩)
    · obtain ⟨config,there⟩ := found other (later other member)
      refine ⟨config,(first.touches.rows other.config.id fun same => ?_).trans there⟩
      exact fresh (List.mem_map.mpr ⟨other,member,same⟩)

/-! The whole check. -/

omit [Blake3] [Sqlite] in
theorem mem_enabledConfigs {configs : Table DbBackupConfig} {config : DbBackupConfig} :
    config ∈ enabledConfigs configs ↔ configs.find? config.id = some config ∧ config.enabled = true := by
  rw [enabledConfigs,listDbBackupConfigs,List.mem_filter,List.mem_insertionSort]
  constructor
  · rintro ⟨member,enabled⟩
    exact ⟨Table.find?_of_mem configs member,enabled⟩
  · rintro ⟨found,enabled⟩
    exact ⟨Table.mem_of_find? found,enabled⟩

omit [Blake3] [Sqlite] in
theorem enabledConfigs_distinct (configs : Table DbBackupConfig) :
    ((enabledConfigs configs).map DbBackupConfig.id).Nodup := by
  have ascending : (configs.rows.map DbBackupConfig.id).Pairwise (· < ·) := by
    rw [List.pairwise_map]
    exact configs.ascending
  have rows : (configs.rows.map DbBackupConfig.id).Nodup := ascending.imp Nat.ne_of_lt
  have sorted : ((listDbBackupConfigs configs).map DbBackupConfig.id).Nodup :=
    ((List.perm_insertionSort (fun a b : DbBackupConfig => a.priority ≤ b.priority) configs.rows).map _).nodup_iff.mpr rows
  exact sorted.sublist (List.filter_sublist.map _)

omit [Blake3] in
theorem inspected_map {directory : String → String} {disk : Disk} {configs : List DbBackupConfig} {items : List BackupHealth}
    (inspected : List.Forall₂ (Inspected directory disk) configs items) :
    items.map (fun item => item.config.id) = configs.map DbBackupConfig.id := by
  induction inspected with
  | nil => rfl
  | cons first _ ih => rw [List.map_cons,List.map_cons,first.of_config,ih]

omit [Blake3] in
theorem inspected_mem {directory : String → String} {disk : Disk} {configs : List DbBackupConfig} {items : List BackupHealth}
    (inspected : List.Forall₂ (Inspected directory disk) configs items) {item : BackupHealth} (member : item ∈ items) :
    item.config ∈ configs ∧ Inspected directory disk item.config item := by
  induction inspected with
  | nil => cases member
  | cons first _ ih =>
    rcases List.mem_cons.mp member with rfl | later
    · have own := first.of_config
      subst own
      exact ⟨List.mem_cons_self,first⟩
    · obtain ⟨present,found⟩ := ih later
      exact ⟨List.mem_cons_of_mem _ present,found⟩

omit [Blake3] in
theorem inspected_of_mem {directory : String → String} {disk : Disk} {configs : List DbBackupConfig}
    {items : List BackupHealth} (inspected : List.Forall₂ (Inspected directory disk) configs items) {config : DbBackupConfig}
    (member : config ∈ configs) : ∃ item ∈ items, Inspected directory disk config item := by
  induction inspected with
  | nil => cases member
  | cons first _ ih =>
    rcases List.mem_cons.mp member with rfl | later
    · exact ⟨_,List.mem_cons_self,first⟩
    · obtain ⟨item,present,found⟩ := ih later
      exact ⟨item,List.mem_cons_of_mem _ present,found⟩

omit [Blake3] [Sqlite] in
theorem repairSource_mem {items : List BackupHealth} {source : Nat × Location} (chosen : repairSource items = some source) :
    ∃ item ∈ items, item.isHealthy = true ∧ source = (item.config.id,item.path) := by
  obtain ⟨item,first,rfl⟩ := Option.map_eq_some_iff.mp chosen
  refine ⟨item,?_,?_,rfl⟩
  · rcases Option.or_eq_some_iff.mp first with head | ⟨_,later⟩
    · exact List.mem_of_head? (Option.filter_eq_some_iff.mp head).1
    · exact List.mem_of_find?_eq_some later
  · rcases Option.or_eq_some_iff.mp first with head | ⟨_,later⟩
    · exact (Option.filter_eq_some_iff.mp head).2
    · exact List.find?_some later

omit [Blake3] [Sqlite] in
theorem repairSource_isSome {items : List BackupHealth} {item : BackupHealth} (member : item ∈ items)
    (healthy : item.isHealthy = true) : ∃ source, repairSource items = some source := by
  have there : (items.find? BackupHealth.isHealthy).isSome = true := List.find?_isSome.mpr ⟨item,member,healthy⟩
  obtain ⟨found,first⟩ := Option.isSome_iff_exists.mp there
  unfold repairSource
  rw [first]
  cases items.head?.filter BackupHealth.isHealthy with
  | none => exact ⟨_,rfl⟩
  | some head => exact ⟨_,rfl⟩

omit [Blake3] [Sqlite] in
theorem forall₂_mem {α β : Type} {R : α → β → Prop} {xs : List α} {ys : List β} (all : List.Forall₂ R xs ys) {x : α}
    (member : x ∈ xs) : ∃ y ∈ ys, R x y := by
  induction all with
  | nil => cases member
  | cons first _ ih =>
    rcases List.mem_cons.mp member with rfl | later
    · exact ⟨_,List.mem_cons_self,first⟩
    · obtain ⟨y,present,related⟩ := ih later
      exact ⟨y,List.mem_cons_of_mem _ present,related⟩

theorem runBackupIntegrityCheck_yields (directory : String → String) (run : Run) (s : Backups) :
    ∃ items, List.Forall₂ (Inspected directory s.disk) (enabledConfigs s.configs) items ∧
      (∀ item ∈ items, item.path.relativePath = backupFilename) ∧
      runBackupIntegrityCheck directory run s = settleBackups run (repairSource items) items s := by
  obtain ⟨items,_,ran,rfl,inspected⟩ := inspectBackups_yields directory (enabledConfigs s.configs) s
  refine ⟨items,inspected,fun item member => ?_,?_⟩
  · rw [(inspected_mem inspected member).2.at_path]
    rfl
  · unfold runBackupIntegrityCheck
    rw [bind_of_ok (rfl : (get : BackupAct Backups) _ = .ok _ _),bind_of_ok ran]

/-- `ok` if the file was found healthy and not recorded as bad before; `repaired` if it was found bad, or healthy
after it had been recorded as bad. -/
def Truthful (directory : String → String) (disk : Disk) (config : DbBackupConfig) (status : String) : Prop :=
  (status = "ok" ∧ Healthy disk (backupFilePath directory config) ∧ config.inErrorState = false) ∨
    (status = "repaired" ∧ (¬Healthy disk (backupFilePath directory config) ∨ config.inErrorState = true))

omit [Blake3] in
theorem settledStatus_truthful {directory : String → String} {disk : Disk} {config : DbBackupConfig} {item : BackupHealth}
    (inspected : Inspected directory disk config item) : Truthful directory disk config (settledStatus item) := by
  have found := inspected.healthy
  rw [inspected.at_path] at found
  unfold settledStatus healthyStatus
  rw [inspected.of_config]
  cases healthy : item.isHealthy with
  | false =>
    refine .inr ⟨rfl,.inl fun good => ?_⟩
    rw [found.mpr good] at healthy
    cases healthy
  | true =>
    cases error : config.inErrorState with
    | true => exact .inr ⟨rfl,.inr error⟩
    | false => exact .inl ⟨rfl,found.mp healthy,error⟩

theorem next_repaired (directory : String → String) (run : Run) {s : Backups} {config : DbBackupConfig}
    (found : s.configs.find? config.id = some config) (enabled : config.enabled = true) (error : config.inErrorState = true)
    (good : Healthy s.disk (backupFilePath directory config)) :
    Yields (runBackupIntegrityCheck directory run) s (fun results _ =>
      ∃ result ∈ results, result.backupConfigId = config.id ∧ result.status = "repaired") := by
  obtain ⟨items,inspected,canonical,same⟩ := runBackupIntegrityCheck_yields directory run s
  obtain ⟨item,member,found_⟩ := inspected_of_mem inspected (mem_enabledConfigs.mpr ⟨found,enabled⟩)
  have distinct : (items.map (fun item => item.config.id)).Nodup := by
    rw [inspected_map inspected]
    exact enabledConfigs_distinct s.configs
  have healthy : item.isHealthy = true := found_.healthy.mpr (found_.at_path ▸ good)
  obtain ⟨results,t,ran,all⟩ := settleBackups_yields run (repairSource items) items canonical distinct s
  refine ⟨results,t,same.trans ran,?_⟩
  obtain ⟨result,present,about,status⟩ := forall₂_mem all.reports member
  rw [found_.of_config] at about
  refine ⟨result,present,about,?_⟩
  rw [status healthy,found_.of_config,healthyStatus,error]
  rfl

omit [Blake3] in
theorem reported {directory : String → String} {disk : Disk} {configs : List DbBackupConfig} {items : List BackupHealth}
    {results : List BackupIntegrityResult} {t : Backups} (inspected : List.Forall₂ (Inspected directory disk) configs items)
    (about : List.Forall₂ (fun (item : BackupHealth) result => result.backupConfigId = item.config.id ∧
      (item.isHealthy = true → result.status = healthyStatus item.config)) items results)
    (each : List.Forall₂ (fun item result => Succeeded item result t) items results) :
    List.Forall₂ (fun config result => result.backupConfigId = config.id ∧
      Truthful directory disk config result.status ∧ Healthy t.disk (backupFilePath directory config) ∧
      ∃ row, t.configs.find? config.id = some row ∧ row.lastIntegrityStatus = some result.status) configs results := by
  induction inspected generalizing results with
  | nil =>
    cases about
    exact .nil
  | cons first _ ih =>
    cases about with
    | cons own others =>
      cases each with
      | cons succeeded later =>
        have truthful := settledStatus_truthful first
        rw [← succeeded.status] at truthful
        have healthy := succeeded.healthy
        have persisted := succeeded.persisted
        rw [first.at_path] at healthy
        rw [first.of_config] at persisted
        exact .cons ⟨own.1.trans (by rw [first.of_config]),truthful,healthy,persisted⟩ (ih others later)

/-- However the reads, copies and status writes of a check end: no healthy file is touched; with a healthy file and no
failing write every destination is healthy in the end, with a true status; what is replaced was persisted as bad
before, and if the status after it is lost the next check makes up for it. -/
theorem backups_repaired (directory : String → String) (run : Run) (s : Backups) :
    Yields (runBackupIntegrityCheck directory run) s (fun results t =>
      (∀ path, path.relativePath = backupFilename → Healthy s.disk path → t.disk.node path = s.disk.node path) ∧
      ((∃ config ∈ enabledConfigs s.configs, Healthy s.disk (backupFilePath directory config)) → run.Succeeds →
        List.Forall₂ (fun config result => result.backupConfigId = config.id ∧
          Truthful directory s.disk config result.status ∧ Healthy t.disk (backupFilePath directory config) ∧
          ∃ row, t.configs.find? config.id = some row ∧ row.lastIntegrityStatus = some result.status)
          (enabledConfigs s.configs) results) ∧
      ∃ new, t.journal = s.journal ++ new ∧ Guarded new ∧
        ∀ id row, .replaced id ∈ new → t.configs.find? id = some row → row.lastIntegrityStatus ≠ some "repaired" →
          ∀ (again : Run) (u : Backups), u.configs = t.configs → u.disk = t.disk →
            Yields (runBackupIntegrityCheck directory again) u (fun results _ =>
              ∃ result ∈ results, result.backupConfigId = id ∧ result.status = "repaired")) := by
  obtain ⟨items,inspected,canonical,same⟩ := runBackupIntegrityCheck_yields directory run s
  have distinct : (items.map (fun item => item.config.id)).Nodup := by
    rw [inspected_map inspected]
    exact enabledConfigs_distinct s.configs
  obtain ⟨results,t,ran,all⟩ := settleBackups_yields run (repairSource items) items canonical distinct s
  refine ⟨results,t,same.trans ran,fun path same good => ?_,fun ⟨config,enabled,good⟩ succeeds => ?_,?_⟩
  · apply all.spared path same
    rintro item member rfl
    exact (inspected_mem inspected member).2.healthy.mpr good
  · obtain ⟨item,member,found⟩ := inspected_of_mem inspected enabled
    obtain ⟨source,chosen⟩ := repairSource_isSome member (found.healthy.mpr (found.at_path ▸ good))
    obtain ⟨origin,there,healthy,rfl⟩ := repairSource_mem chosen
    rw [chosen] at ran
    have rows : ∀ item ∈ items, s.configs.find? item.config.id = some item.config := fun item present =>
      (mem_enabledConfigs.mp (inspected_mem inspected present).1).1
    have source := (inspected_mem inspected there).2.healthy.mp healthy
    -- two items of one configuration have one file, and so one state
    have others : ∀ item ∈ items, item.isHealthy = false → origin.config.id ≠ item.config.id := by
      intro item present bad same
      have config : origin.config = item.config := by
        have row := rows origin there
        rw [same,rows item present,Option.some.injEq] at row
        exact row.symm
      have path : origin.path = item.path := by
        rw [(inspected_mem inspected there).2.at_path,(inspected_mem inspected present).2.at_path,config]
      rw [path] at source
      rw [(inspected_mem inspected present).2.healthy.mpr source] at bad
      cases bad
    obtain ⟨_,u,again,each⟩ := settleBackups_succeeds succeeds (canonical origin there) items canonical others distinct
      (fun item present healthy => (inspected_mem inspected present).2.healthy.mp healthy)
      (fun item present => ⟨_,rows item present⟩) source
    cases ran.symm.trans again
    exact reported inspected all.reports each
  · obtain ⟨new,grown,guarded,installed⟩ := all.journal
    refine ⟨new,grown,guarded,fun id row replaced found lost again u configs disk => ?_⟩
    obtain ⟨noted,item,member,rfl,good⟩ := installed id replaced
    obtain ⟨present,inspection⟩ := inspected_mem inspected member
    obtain ⟨before,enabled⟩ := mem_enabledConfigs.mp present
    obtain ⟨status,error,after⟩ := all.row _ _ before
    have bad : row.inErrorState = true := (noted row found).resolve_right lost
    have fields : { item.config with lastIntegrityStatus := status,lastError := error } = row :=
      Option.some.inj (after.symm.trans found)
    have about : row.id = item.config.id := Table.find?_key found
    have directories : backupFilePath directory row = item.path := by
      rw [inspection.at_path,← fields]
      rfl
    have next := next_repaired directory again (s := u) (by rw [about,configs]; exact found) (by rw [← fields]; exact enabled)
      bad (by rw [directories,disk]; exact good)
    rw [about] at next
    exact next

end

/-! Two destinations, the first of them corrupt, and a check that loses the status of its repair. -/

/-- SQLite on the contents that the run below uses. -/
@[reducible] def sampleSqlite : Sqlite where
  integrityCheck
  | [1] => .ok ["ok"]
  | _ => .error "file is not a database"

def destination (id : Nat) : DbBackupConfig := ⟨id,if id = 1 then "/first" else "/second",id,true,some "ok",none⟩

def corruptFirst : Backups where
  configs := (Table.empty.insert destination (fun _ => rfl)).insert destination (fun _ => rfl)
  disk :=
    { node := fun path =>
        if path = ⟨"/first",backupFilename⟩ then some ⟨[2],none⟩
        else if path = ⟨"/second",backupFilename⟩ then some ⟨[1],none⟩
        else none
      available := fun _ => true }
  statusWrites := 0
  journal := []

/-- The marker is written, and the next six writes fail. -/
def losesStatus : Run where
  statusWrite n := if 1 ≤ n ∧ n ≤ 6 then some "database is locked" else none
  repair _ := ⟨.healthy,"20250101000000",true⟩

theorem backups_repaired_lost :
    letI := sampleBlake3
    letI := sampleSqlite
    ∃ results t, runBackupIntegrityCheck id losesStatus corruptFirst = .ok results t ∧
      t.disk.node ⟨"/first",backupFilename⟩ = some ⟨[1],none⟩ ∧
      (t.configs.find? 1).bind DbBackupConfig.lastIntegrityStatus = some "corrupt" ∧
      Yields (runBackupIntegrityCheck id losesStatus) t (fun results _ =>
        ∃ result ∈ results, result.backupConfigId = 1 ∧ result.status = "repaired") := by
  let _ := sampleBlake3
  let _ := sampleSqlite
  obtain ⟨results,t,ran,_,_,new,grown,_,next⟩ := backups_repaired id losesStatus corruptFirst
  have ended : after (runBackupIntegrityCheck id losesStatus) corruptFirst = t := after_of_ok ran
  have copied : (after (runBackupIntegrityCheck id losesStatus) corruptFirst).disk.node ⟨"/first",backupFilename⟩ =
      some ⟨[1],none⟩ := by decide +kernel
  have recorded : (after (runBackupIntegrityCheck id losesStatus) corruptFirst).configs.find? 1 =
      some { destination 1 with lastIntegrityStatus := some "corrupt",lastError := some "file is not a database" } := by
    decide +kernel
  have journal : (after (runBackupIntegrityCheck id losesStatus) corruptFirst).journal =
      [.persisted 1 "corrupt",.replaced 1,.persisted 2 "ok"] := by decide +kernel
  rw [ended] at copied recorded journal
  refine ⟨results,t,ran,copied,by rw [recorded]; rfl,?_⟩
  have same : new = [.persisted 1 "corrupt",.replaced 1,.persisted 2 "ok"] := grown.symm.trans journal
  apply next 1 _ _ recorded (by decide) losesStatus t rfl rfl
  rw [same]
  decide

/-! A destination that is away at one check and back, healthy as ever, at the next. -/

def unchecked : Backups where
  configs := (Table.empty.insert (fun id => { destination id with lastIntegrityStatus := none }) (fun _ => rfl)).insert
    (fun id => { destination id with lastIntegrityStatus := none }) (fun _ => rfl)
  disk :=
    { node := fun path => if path = ⟨"/second",backupFilename⟩ then some ⟨[1],none⟩ else none
      available := fun root => root ≠ "/first" }
  statusWrites := 0
  journal := []

def bothHealthy : Disk where
  node path := if path.relativePath = backupFilename then some ⟨[1],none⟩ else none
  available _ := true

/-- Nothing can be created below the first destination. -/
def unplugged : Run where
  statusWrite _ := none
  repair _ := ⟨{ Io.healthy with createDirAll := fun path => path.root ≠ "/first" },"20250101000000",true⟩

def plugged : Run where
  statusWrite _ := none
  repair _ := ⟨.healthy,"20250102000000",true⟩

theorem succeeds_plugged : plugged.Succeeds :=
  ⟨fun _ => rfl,fun _ => ⟨fun _ => rfl,fun _ => rfl,fun _ => rfl,fun _ => rfl,fun _ => rfl,fun _ => rfl,rfl⟩⟩

/-- Of all files nothing was ever replaced, and one of them is reported as repaired. -/
theorem returned_counts_as_repaired :
    letI := sampleBlake3
    letI := sampleSqlite
    ¬ ∀ (first second : Run) (s : Backups) (disk : Disk), s.journal = [] →
      (∀ config ∈ s.configs.rows, config.lastIntegrityStatus = none) → second.Succeeds →
      (∀ config ∈ enabledConfigs s.configs, Healthy disk (backupFilePath id config)) →
      Yields (runBackupIntegrityCheck id second) { after (runBackupIntegrityCheck id first) s with disk } (fun results t =>
        ∀ result ∈ results, result.status = "repaired" → .replaced result.backupConfigId ∈ t.journal) := by
  let _ := sampleBlake3
  let _ := sampleSqlite
  intro truthful
  have fresh : ∀ config ∈ unchecked.configs.rows, config.lastIntegrityStatus = none := by decide +kernel
  have healthy : ∀ config ∈ enabledConfigs unchecked.configs, Healthy bothHealthy (backupFilePath id config) :=
    fun _ _ => ⟨⟨[1],none⟩,rfl,rfl,rfl⟩
  obtain ⟨results,t,ran,replaced⟩ := truthful unplugged plugged unchecked bothHealthy rfl fresh succeeds_plugged healthy
  have reported : (match runBackupIntegrityCheck id plugged
      { after (runBackupIntegrityCheck id unplugged) unchecked with disk := bothHealthy } with
      | .ok results t => results.any (fun result => result.status == "repaired" &&
          !t.journal.contains (.replaced result.backupConfigId))
      | .error _ _ => false) = true := by decide +kernel
  rw [ran] at reported
  obtain ⟨result,member,both⟩ := List.any_eq_true.mp reported
  rw [Bool.and_eq_true,beq_iff_eq,Bool.not_eq_true'] at both
  have listed := replaced result member both.1
  rw [← List.contains_iff_mem,both.2] at listed
  cases listed

end BackupRepair

end BitProtector
