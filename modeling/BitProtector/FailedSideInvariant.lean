import BitProtector.FailedSide
import BitProtector.IntegrityPaging
import BitProtector.LastGoodCopy

/-! When no file of a pair stays flagged while a side of it waits for a replacement:
no failure is committed over an operation that goes by an older row of the pair,
and no copy is made for which the failed side is no obstacle. -/
namespace BitProtector.FailedSide
open Effect

def Task.files : Task → List TrackedFile
  | .processItem _ file | .mirrorFile file | .checkFile file | .resolveQueueItem _ _ _ file => [file]
  | .mirrorFolder _ | .loadOnly => []

/-- The operation flags a file if all goes well. -/
def Task.mayFlag : Task → Bool
  | .processItem item _ => item.action.setsMirrored
  | .mirrorFile _ | .mirrorFolder _ | .checkFile _ => true
  | .resolveQueueItem _ resolution _ _ => !sidecarResolution resolution
  | .loadOnly => false

def Job.mayFlag : Job → Bool
  | .item queued => queued.action.setsMirrored
  | _ => true

/-- The files that come after the one that is copied. -/
def Job.files : Job → List TrackedFile
  | .mirrorFolder _ _ files => files
  | .integrityRun _ _ _ results => results.map Prod.fst
  | _ => []

def Job.later : Job → List DrivePair
  | .integrityRun _ later _ _ => later
  | _ => []

/-- The rows of pairs, read before, on which an operation still acts. -/
def Phase.rows : Phase → List DrivePair
  | .checkRoots task pair | .start task pair => if task.mayFlag then [pair] else []
  | .startFolderMirror _ pair _ | .mirrorFiles _ pair _ _ | .changeState pair _ _ _ => [pair]
  | .runPairs pairs => pairs
  | .listPage pair later _ | .recoverFiles pair later _ _ => pair::later
  | .copy job _ pair => if job.mayFlag then pair::job.later else []
  | .flag _ _ next | .statement _ next | .unmirror _ next => next.rows
  | _ => []

/-- The pairs of which an operation flags a file whatever happens. -/
def Phase.claims : Phase → List Nat
  | .flag _ pairId next => pairId::next.claims
  | .finalize pairId _ | .countRemaining pairId _ _ | .rebuilt pairId _ | .readBack pairId | .listFiles pairId
  | .flagAll pairId _ => [pairId]
  | .statement _ next | .unmirror _ next => next.claims
  | _ => []

def ofPair (pairId : Nat) (files : List TrackedFile) : List (Nat × Nat) :=
  files.map (fun file => (file.id,pairId))

/-- The files that an operation may come to, each with its pair. -/
def Phase.holds : Phase → List (Nat × Nat)
  | .loadPair task pairId | .reload task pairId => ofPair pairId task.files
  | .checkRoots task pair | .failover task pair | .start task pair => ofPair pair.id task.files
  | .startFolderMirror _ pair files | .mirrorFiles _ pair _ files => ofPair pair.id files
  | .recoverFiles pair _ _ results => ofPair pair.id (results.map Prod.fst)
  | .copy job file pair => ofPair pair.id (file::job.files)
  | .flag fileId pairId next => (fileId,pairId)::next.holds
  | .flagAll pairId files => ofPair pairId files
  | .statement _ next | .unmirror _ next => next.holds
  | _ => []

/-- The pair whose flags the next step takes down. -/
def Phase.clears : Phase → Option Nat
  | .unmirror pairId _ => some pairId
  | _ => none

/-- The operation goes by a row of the pair that it has read before. -/
def Phase.ReliesOn (phase : Phase) (pairId : Nat) : Prop :=
  (∃ pair ∈ phase.rows, pair.id = pairId) ∨ pairId ∈ phase.claims

def Waits (sides : List Side) (pairId : Nat) : Prop := ∃ role, ⟨pairId,role⟩ ∈ sides

def Unflagged (db : Db) (pairId : Nat) : Prop :=
  ∀ id file, db.trackedFiles.find? id = some file → file.drivePairId = pairId → file.isMirrored = false

section
variable [Blake3]

/-- The actions that get through although a side has failed: `mirror` from a failed
active side, `adopt_mirror` with a matching standby copy, a restore from a failed side. -/
def ActionLetThrough (io : Io) (file : TrackedFile) (pair : DrivePair) (disk : Disk) : SyncAction → Prop
  | .mirror => pair.roleState pair.activeRole = .failed
  | .adoptMirror => adoption io pair file disk = .taken ∨ pair.roleState pair.activeRole = .failed
  | .restoreMaster => pair.roleState .secondary = .failed
  | .restoreMirror => pair.roleState .primary = .failed
  | .verify | .userActionRequired | .other _ => False

/-- `provide_new` asks for no state at all. -/
def ResolutionLetThrough (pair : DrivePair) (resolution : String) : Prop :=
  (resolution = "keep_master" ∧ pair.roleState .primary = .failed) ∨
    (resolution = "keep_mirror" ∧ pair.roleState .secondary = .failed) ∨ resolution = "provide_new"

def Job.LetThrough (io : Io) (file : TrackedFile) (pair : DrivePair) (disk : Disk) : Job → Prop
  | .item queued => ActionLetThrough io file pair disk queued.action
  | .mirrorFile | .mirrorFolder _ _ _ => pair.roleState pair.activeRole = .failed
  | .recovery _ | .integrityRun _ _ _ _ => False
  | .resolution _ chosen _ => ResolutionLetThrough pair chosen

/-- A failure is committed only when nobody goes by an older row of the pair, and no
copy of a pair with a failed side is let through. -/
def Careful : Move Input Event → State → Prop
  | .turn i (.answers answers), s =>
    (∀ side, (s.op i).fails = some side → ∀ j, ¬(s.op j).ReliesOn side.pairId) ∧
    (∀ job file pair, s.op i = .copy job file pair → Waits s.shared.unreplaced pair.id →
      ¬job.LetThrough answers.io file pair s.shared.world.disk)
  | _, _ => True

end

/-! What the guards see of a failed side. -/

section
variable [Blake3] {io : Io} {pair : DrivePair} {file : TrackedFile} {w t : World}

omit [Blake3] in
theorem prepareMirror_accepts {relativePath : String} (ok : prepareMirror io pair relativePath w = .ok () t) :
    pair.standbyAcceptsSync w.disk = true := by
  obtain ⟨accepts,u,looked,ok⟩ := bind_success ok
  obtain ⟨rfl,rfl⟩ := Act.look_success looked
  obtain ⟨_,u,ensured,_⟩ := bind_success ok
  exact (Act.ensure_success ensured).1

theorem mirrorFile_active_failed {digest : String} {role : DriveRole}
    (ok : mirrorFile io pair file.relativePath w = .ok digest t) (failed : pair.roleState role = .failed) :
    pair.roleState pair.activeRole = .failed := by
  obtain ⟨_,u,prepared,_⟩ := bind_success ok
  have state := DrivePair.standbyAcceptsSync_state (prepareMirror_accepts prepared)
  rcases pair.activeRole.eq_or_opposite role with rfl | rfl
  · exact failed
  · change pair.roleState pair.standbyRole = .failed at failed
    rw [failed] at state
    rcases state with active | rebuilding
    · cases active
    · cases rebuilding

theorem restoreSide_source_failed {target role : DriveRole} {expected : String}
    (ok : restoreSide io pair target file.relativePath expected w = .ok () t) (failed : pair.roleState role = .failed) :
    pair.roleState target.opposite = .failed := by
  obtain ⟨_,u,prepared,_⟩ := bind_success ok
  obtain ⟨_,v,ensured,_⟩ := bind_success prepared
  obtain ⟨sound,_⟩ := Act.ensure_success ensured
  rcases target.eq_or_opposite role with rfl | rfl
  · simp [failed] at sound
  · exact failed

theorem runAction_letThrough {action : SyncAction} {role : DriveRole} (sets : action.setsMirrored = true)
    (ok : runAction io action pair file w = .ok (.ok ()) t) (failed : pair.roleState role = .failed) :
    ActionLetThrough io file pair w.disk action := by
  have of_copy {u : World} (ok : (do let _ ← mirrorFile io pair file.relativePath) w = .ok () u) :
      pair.roleState pair.activeRole = .failed := by
    obtain ⟨digest,v,mirrored,_⟩ := bind_success ok
    exact mirrorFile_active_failed mirrored failed
  cases action with
  | mirror => exact of_copy (attempt_success ok)
  | adoptMirror =>
    obtain ⟨_,u,adopted,_⟩ := bind_success ok
    rw [adoptMirror_run] at adopted
    cases choice : adoption io pair file w.disk with
    | taken => exact .inl choice
    | copied =>
      rw [choice] at adopted
      exact .inr (of_copy adopted)
    | unreadable =>
      rw [choice] at adopted
      cases adopted
  | restoreMaster => exact restoreSide_source_failed (attempt_success ok) failed
  | restoreMirror => exact restoreSide_source_failed (attempt_success ok) failed
  | verify => cases sets
  | userActionRequired => cases sets
  | other text => cases sets

theorem attemptRecovery_sound {result : IntegrityCheckResult} {role : DriveRole}
    (ok : attemptRecovery io pair file result w = .ok true t) : pair.roleState role ≠ .failed := by
  cases degraded : pair.isDegraded with
  | true =>
    rw [attemptRecovery,degraded] at ok
    cases ok
  | false =>
    rw [DrivePair.isDegraded_eq_false degraded role]
    decide

theorem resolutionCopy_letThrough {resolution : String} {newFilePath : Option Location} {role : DriveRole}
    (ok : resolutionCopy io file pair resolution newFilePath w = .ok () t) (failed : pair.roleState role = .failed) :
    ResolutionLetThrough pair resolution := by
  unfold resolutionCopy at ok
  split at ok
  · exact .inl ⟨rfl,restoreSide_source_failed ok failed⟩
  · exact .inr (.inl ⟨rfl,restoreSide_source_failed ok failed⟩)
  · exact .inr (.inr rfl)
  · cases ok

end

/-! What an operation in flight has to respect, and what keeps it so. -/

structure Heeds (db : Db) (sides : List Side) (phase : Phase) : Prop where
  rows : ∀ pair ∈ phase.rows, ∀ role, ⟨pair.id,role⟩ ∈ sides → pair.roleState role = .failed
  claims : ∀ pairId ∈ phase.claims, ¬Waits sides pairId
  holds : ∀ held ∈ phase.holds, ∀ file, db.trackedFiles.find? held.1 = some file → file.drivePairId = held.2

/-- The failed sides stay so, the files keep their pairs, and no flag of a pair with a
failed side goes up. -/
structure Quiet (sides : List Side) (db next : Db) : Prop where
  pairs : ∀ pairId pair, next.drivePairs.find? pairId = some pair → ∃ old, db.drivePairs.find? pairId = some old ∧
    ∀ role, ⟨pairId,role⟩ ∈ sides → old.roleState role = .failed → pair.roleState role = .failed
  files : ∀ id file, next.trackedFiles.find? id = some file → ∃ old, db.trackedFiles.find? id = some old ∧
    old.drivePairId = file.drivePairId ∧
      (file.isMirrored = true → old.isMirrored = true ∨ ¬Waits sides file.drivePairId)

namespace Quiet

variable {sides : List Side} {db next : Db}

theorem pairs_of_eq (same : next.drivePairs = db.drivePairs) : ∀ pairId pair,
    next.drivePairs.find? pairId = some pair → ∃ old, db.drivePairs.find? pairId = some old ∧
      ∀ role, ⟨pairId,role⟩ ∈ sides → old.roleState role = .failed → pair.roleState role = .failed :=
  fun _ pair found => ⟨pair,by rw [← same]; exact found,fun _ _ failed => failed⟩

theorem files_of_eq (same : next.trackedFiles = db.trackedFiles) : ∀ id file,
    next.trackedFiles.find? id = some file → ∃ old, db.trackedFiles.find? id = some old ∧
      old.drivePairId = file.drivePairId ∧
        (file.isMirrored = true → old.isMirrored = true ∨ ¬Waits sides file.drivePairId) :=
  fun _ file found => ⟨file,by rw [← same]; exact found,rfl,.inl⟩

theorem of_eq (pairs : next.drivePairs = db.drivePairs) (files : next.trackedFiles = db.trackedFiles) :
    Quiet sides db next := ⟨pairs_of_eq pairs,files_of_eq files⟩

theorem refl (sides : List Side) (db : Db) : Quiet sides db db := of_eq rfl rfl

theorem trans {third : Db} (first : Quiet sides db next) (second : Quiet sides next third) : Quiet sides db third where
  pairs pairId pair found := by
    obtain ⟨middle,there,later⟩ := second.pairs pairId pair found
    obtain ⟨old,before,earlier⟩ := first.pairs pairId middle there
    exact ⟨old,before,fun role waits failed => later role waits (earlier role waits failed)⟩
  files id file found := by
    obtain ⟨middle,there,same,later⟩ := second.files id file found
    obtain ⟨old,before,kept,earlier⟩ := first.files id middle there
    refine ⟨old,before,kept.trans same,fun flagged => ?_⟩
    rcases later flagged with up | free
    · rw [← same]
      exact earlier up
    · exact .inr free

theorem flag {fileId pairId : Nat} (free : ¬Waits sides pairId)
    (held : ∀ file, db.trackedFiles.find? fileId = some file → file.drivePairId = pairId) :
    Quiet sides db (db.updateTrackedFileMirrorStatus fileId true) where
  pairs := pairs_of_eq rfl
  files id file found := by
    rw [Db.updateTrackedFileMirrorStatus,Db.find?_updateTrackedFile] at found
    obtain ⟨old,there,rfl⟩ := Option.map_eq_some_iff.mp found
    by_cases same : id = fileId
    · rw [if_pos same]
      rw [same] at there
      refine ⟨old,by rw [same]; exact there,rfl,fun _ => .inr ?_⟩
      rw [held old there]
      exact free
    · rw [if_neg same]
      exact ⟨old,there,rfl,.inl⟩

theorem unmirror (pairId : Nat) : Quiet sides db (db.markDrivePairUnmirrored pairId) where
  pairs := pairs_of_eq rfl
  files id file found := by
    rw [Db.find?_markDrivePairUnmirrored] at found
    obtain ⟨old,there,rfl⟩ := Option.map_eq_some_iff.mp found
    refine ⟨old,there,by split <;> rfl,fun flagged => .inl ?_⟩
    by_cases member : old.drivePairId = pairId
    · simp [member] at flagged
    · simpa [member] using flagged

theorem untrack (fileId : Nat) : Quiet sides db (db.deleteTrackedFile fileId) where
  pairs := pairs_of_eq rfl
  files id file found := by
    have kept : (db.trackedFiles.deleteWhere (fun file => file.id == fileId)).find? id = some file := found
    rw [Table.find?_deleteWhere] at kept
    exact ⟨file,(Option.filter_eq_some_iff.mp kept).1,rfl,.inl⟩

theorem updateDrivePairRuntime {pairId : Nat} (pp sp ps ss active)
    (kept : ∀ old role, db.drivePairs.find? pairId = some old → ⟨pairId,role⟩ ∈ sides → old.roleState role = .failed →
      (old.withRuntime pp sp ps ss active).roleState role = .failed) :
    Quiet sides db (db.updateDrivePairRuntime pairId pp sp ps ss active) where
  files := files_of_eq rfl
  pairs other pair found := by
    rw [Db.updateDrivePairRuntime,Table.find?_updateWhere] at found
    obtain ⟨old,there,rfl⟩ := Option.map_eq_some_iff.mp found
    refine ⟨old,there,fun role waits failed => ?_⟩
    by_cases mine : old.id = pairId
    · have same : other = pairId := (Table.find?_key there).symm.trans mine
      subst same
      simpa [mine] using kept old role there waits failed
    · simpa [mine] using failed

theorem statement (statement : Statement) : Quiet sides db (statement.run db) := by
  cases statement with
  | createSyncQueueItemDedup fileId action =>
    obtain ⟨pairs,files⟩ := db.createSyncQueueItemDedupWithCreated_frame fileId action none none
    exact of_eq pairs files
  | updateSyncQueueStatus => exact of_eq rfl rfl
  | startPendingMirrorQueue => exact of_eq rfl rfl
  | completePendingMirrorQueue => exact of_eq rfl rfl
  | failPendingMirrorQueue => exact of_eq rfl rfl
  | failPendingSyncQueueForDrivePair => exact of_eq rfl rfl
  | updateMirrorProgress => exact of_eq rfl rfl
  | finishFolderMirror => exact of_eq rfl rfl

end Quiet

/-- `Quiet`, of the worlds before and after an action. -/
def QuietStep (sides : List Side) (w t : World) : Prop := Quiet sides w.db t.db

instance (sides : List Side) : IsPreorder World (QuietStep sides) where
  refl w := Quiet.refl sides w.db
  trans _ _ _ := Quiet.trans

theorem quietStep_of_dbKept {α : Type} {sides : List Side} {x : Act α} (kept : Keeps DbKept x) :
    Keeps (QuietStep sides) x := by
  intro w
  have same : (after x w).db = w.db := kept w
  rw [QuietStep,same]
  exact Quiet.refl sides w.db

theorem quietStep_query {α : Type} {sides : List Side} (read : Db → Except String α) :
    Keeps (QuietStep sides) (Act.query read) := by
  intro w
  unfold after Act.query
  cases read w.db <;> exact Quiet.refl sides w.db

theorem acceptCurrent_quiet (sides : List Side) (io : Io) (item : SyncQueueItem) (file : TrackedFile) (pair : DrivePair) :
    Keeps (QuietStep sides) (acceptCurrent io item file pair) := by
  unfold acceptCurrent
  cases fileName file.relativePath with
  | none => exact quietStep_of_dbKept (dbKept_bail _)
  | some name =>
    refine keeps_bind (quietStep_of_dbKept (dbKept_ensure _ _)) fun _ => ?_
    refine keeps_bind (quietStep_of_dbKept (dbKept_store _)) fun _ => ?_
    refine keeps_bind (fun w => Quiet.statement (.updateSyncQueueStatus item.id .completed none)) fun _ => ?_
    refine keeps_bind (fun w => Quiet.statement (.createSyncQueueItemDedup file.id .adoptMirror)) fun _ => ?_
    exact quietStep_query _

theorem untrack_quiet (sides : List Side) (item : SyncQueueItem) (file : TrackedFile) :
    Keeps (QuietStep sides) (untrack item file) := by
  refine keeps_bind (fun w => Quiet.statement (.updateSyncQueueStatus item.id .completed none)) fun _ => ?_
  refine keeps_bind (quietStep_query _) fun resolved => ?_
  exact keeps_bind (fun w => Quiet.untrack file.id) fun _ => keeps_pure _

namespace Heeds

variable {sides fewer : List Side} {db after : Db}

theorem inert {phase : Phase} (rows : phase.rows = []) (claims : phase.claims = []) (holds : phase.holds = []) :
    Heeds db sides phase := by
  constructor
  · simp [rows]
  · simp [claims]
  · simp [holds]

theorem finished : Heeds db sides .finished := inert rfl rfl rfl

theorem withRow {α : Type} {read : Except String α} {next : α → Phase}
    (each : ∀ row, read = .ok row → Heeds db sides (next row)) : Heeds db sides (withRow read next) := by
  cases read with
  | ok row => exact each row rfl
  | error message => exact finished

theorem statement {next : Phase} (statement : Statement) (heeds : Heeds db sides next) :
    Heeds db sides (.statement statement next) := ⟨heeds.rows,heeds.claims,heeds.holds⟩

theorem flag {fileId pairId : Nat} {next : Phase} (free : ¬Waits sides pairId)
    (held : ∀ file, db.trackedFiles.find? fileId = some file → file.drivePairId = pairId)
    (heeds : Heeds db sides next) : Heeds db sides (.flag fileId pairId next) where
  rows := heeds.rows
  claims other member := by
    rcases List.mem_cons.mp member with rfl | after
    · exact free
    · exact heeds.claims other after
  holds other member := by
    rcases List.mem_cons.mp member with rfl | after
    · exact held
    · exact heeds.holds other after

theorem later {phase : Phase} (heeds : Heeds db sides phase) (quiet : Quiet fewer db after)
    (inside : ∀ side ∈ fewer, side ∈ sides) : Heeds after fewer phase where
  rows pair member role waits := heeds.rows pair member role (inside _ waits)
  claims pairId member := fun ⟨role,waits⟩ => heeds.claims pairId member ⟨role,inside _ waits⟩
  holds held member file found := by
    obtain ⟨old,there,same,_⟩ := quiet.files held.1 file found
    exact same.symm.trans (heeds.holds held member old there)

theorem failing {phase : Phase} (heeds : Heeds db sides phase) (side : Side) (apart : ¬phase.ReliesOn side.pairId)
    (files : after.trackedFiles = db.trackedFiles) : Heeds after (side::sides) phase where
  rows pair member role waits := by
    rcases List.mem_cons.mp waits with rfl | before
    · exact absurd (.inl ⟨pair,member,rfl⟩) apart
    · exact heeds.rows pair member role before
  claims pairId member := by
    rintro ⟨role,waits⟩
    rcases List.mem_cons.mp waits with rfl | before
    · exact apart (.inr member)
    · exact heeds.claims pairId member ⟨role,before⟩
  holds held member file found := heeds.holds held member file (by rw [← files]; exact found)

end Heeds

/-- The sides that wait for a replacement are failed in their rows. -/
def RowsFailed (db : Db) (sides : List Side) : Prop :=
  ∀ side ∈ sides, ∀ pair, db.drivePairs.find? side.pairId = some pair → pair.roleState side.role = .failed

theorem RowsFailed.row {db : Db} {sides : List Side} {pair : DrivePair} {pairId : Nat} (failed : RowsFailed db sides)
    (found : db.getDrivePair pairId = .ok pair) (role : DriveRole) (waits : ⟨pair.id,role⟩ ∈ sides) :
    pair.roleState role = .failed := by
  have row := Db.getDrivePair_ok.mp found
  have same : pair.id = pairId := Table.find?_key row
  exact failed ⟨pair.id,role⟩ waits pair (by rw [same]; exact row)

/-- A step that is quiet and leaves its operation at a phase that heeds the failed sides. -/
def Goes (sides : List Side) (w : World) (next : World × Phase) : Prop :=
  Quiet sides w.db next.1.db ∧ Heeds next.1.db sides next.2

theorem goes_of_db {sides : List Side} {w t : World} {phase : Phase} (same : t.db = w.db)
    (heeds : Heeds w.db sides phase) : Goes sides w (t,phase) := by
  constructor
  · change Quiet sides w.db t.db
    rw [same]
    exact Quiet.refl sides w.db
  · change Heeds t.db sides phase
    rw [same]
    exact heeds

theorem mem_ofPair {pairId : Nat} {files : List TrackedFile} {held : Nat × Nat} (member : held ∈ ofPair pairId files) :
    ∃ file ∈ files, held = (file.id,pairId) := by
  obtain ⟨file,inside,rfl⟩ := List.mem_map.mp member
  exact ⟨file,inside,rfl⟩

/-- Every file of the list has a row of the pair, if it has one. -/
def Owned (db : Db) (pairId : Nat) (files : List TrackedFile) : Prop :=
  ∀ held ∈ ofPair pairId files, ∀ file, db.trackedFiles.find? held.1 = some file → file.drivePairId = held.2

theorem owned_of_rows {db : Db} {pairId : Nat} {files : List TrackedFile}
    (rows : ∀ file ∈ files, db.trackedFiles.find? file.id = some file ∧ file.drivePairId = pairId) :
    Owned db pairId files := by
  intro held member file found
  obtain ⟨listed,inside,rfl⟩ := mem_ofPair member
  obtain ⟨row,same⟩ := rows listed inside
  rw [row,Option.some.injEq] at found
  rw [← found]
  exact same

theorem Owned.head {db : Db} {pairId : Nat} {file : TrackedFile} {files : List TrackedFile}
    (owned : Owned db pairId (file::files)) (row : TrackedFile) (found : db.trackedFiles.find? file.id = some row) :
    row.drivePairId = pairId := owned (file.id,pairId) (List.mem_cons_self ..) row found

theorem Owned.tail {db : Db} {pairId : Nat} {file : TrackedFile} {files : List TrackedFile}
    (owned : Owned db pairId (file::files)) : Owned db pairId files :=
  fun held member => owned held (List.mem_cons_of_mem _ member)

/-! The phases one after the other. -/

section
variable [Blake3] {sides : List Side} {io : Io} {w : World}

omit [Blake3] in
theorem opening_heeds (failed : RowsFailed w.db sides) (request : Request) : Heeds w.db sides (opening w request) := by
  have of_file {fileId : Nat} {file : TrackedFile} {task : Task} (found : w.db.getTrackedFile fileId = .ok file)
      (same : task.files = [file]) : Heeds w.db sides (.loadPair task file.drivePairId) := by
    refine ⟨nofun,nofun,?_⟩
    change Owned w.db file.drivePairId task.files
    rw [same]
    apply owned_of_rows
    intro other member
    rw [List.mem_singleton.mp member]
    exact ⟨Db.find?_of_getTrackedFile found,rfl⟩
  have changes (pairId : Nat) (role : DriveRole) (current target : DriveState) :
      Heeds w.db sides (changeStateFrom w.db pairId role current target) := by
    refine Heeds.withRow fun pair found => ?_
    split
    · refine ⟨fun other member => ?_,nofun,nofun⟩
      rw [List.mem_singleton.mp member]
      exact failed.row found
    · exact Heeds.finished
  cases request with
  | processItem item => exact Heeds.withRow fun file found => of_file found rfl
  | mirrorFile fileId => exact Heeds.withRow fun file found => of_file found rfl
  | mirrorFolder folderId => exact Heeds.withRow fun folder _ => Heeds.inert rfl rfl rfl
  | checkFile fileId => exact Heeds.withRow fun file found => of_file found rfl
  | integrityRun scope =>
    refine Heeds.withRow fun pairs found => ⟨fun pair member => ?_,nofun,nofun⟩
    exact fun role waits => failed ⟨pair.id,role⟩ waits pair (scopePairs_rows found pair member)
  | resolveQueueItem itemId resolution newFilePath =>
    refine Heeds.withRow fun item _ => ?_
    split
    · exact Heeds.withRow fun file found => of_file found rfl
    · exact Heeds.finished
  | emergencyFailover pairId => exact Heeds.withRow fun pair _ => Heeds.inert rfl rfl rfl
  | markDriveQuiescing pairId role => exact changes pairId role _ _
  | cancelDriveQuiescing pairId role => exact changes pairId role _ _
  | confirmDriveFailure pairId role =>
    refine Heeds.withRow fun pair _ => ?_
    split
    · exact Heeds.inert rfl rfl rfl
    · exact Heeds.finished
  | assignReplacementDrive pairId role newPath =>
    refine Heeds.withRow fun pair _ => ?_
    split
    · exact Heeds.inert rfl rfl rfl
    · exact Heeds.finished

omit [Blake3] in
theorem free_of_guard {pair : DrivePair} {letThrough : Prop}
    (rows : ∀ role, ⟨pair.id,role⟩ ∈ sides → pair.roleState role = .failed)
    (careful : Waits sides pair.id → ¬letThrough) (guard : ∀ role, pair.roleState role = .failed → letThrough) :
    ¬Waits sides pair.id := by
  rintro ⟨role,waits⟩
  exact careful ⟨role,waits⟩ (guard role (rows role waits))

theorem started_goes {pair : DrivePair} {task : Task} (heeds : Heeds w.db sides (.start task pair)) :
    Goes sides w (started io pair w task) := by
  have here {phase : Phase} (after : Heeds w.db sides phase) : Goes sides w (w,phase) := goes_of_db rfl after
  have copy {job : Job} {file : TrackedFile} (flags : job.mayFlag = true → task.mayFlag = true)
      (alone : job.later = []) (only : job.files = []) (same : task.files = [file]) :
      Heeds w.db sides (.copy job file pair) := by
    have rows := heeds.rows
    have holds := heeds.holds
    simp only [Phase.rows,Phase.holds,same] at rows holds
    refine ⟨?_,nofun,?_⟩
    · simp only [Phase.rows,alone]
      cases may : job.mayFlag with
      | false => exact nofun
      | true => simpa only [flags may,if_true] using rows
    · simpa only [Phase.holds,only] using holds
  cases task with
  | processItem item file =>
    rw [started]
    split
    · exact here Heeds.finished
    · exact here ((copy id rfl rfl rfl).statement _)
  | mirrorFile file => exact here (copy (fun _ => rfl) rfl rfl rfl)
  | mirrorFolder folder =>
    rw [started]
    split
    · refine here ⟨heeds.rows,nofun,owned_of_rows fun file member => ?_⟩
      have listed := (List.mem_filter.mp (List.mem_filter.mp member).1).1
      exact Db.mem_listTrackedFilesOfPair.mp listed
    · exact here Heeds.finished
  | checkFile file =>
    have kept := checkFileIntegrity_after io w pair file .streaming .streaming
    rw [started]
    cases ran : checkFileIntegrity io pair file .streaming .streaming w with
    | ok result t =>
      rw [after_of_ok ran] at kept
      rw [kept]
      refine here ?_
      split
      · exact Heeds.finished
      · exact copy (fun _ => rfl) rfl rfl rfl
    | error message t =>
      rw [after_of_error ran] at kept
      rw [kept]
      exact here Heeds.finished
  | resolveQueueItem item resolution newFilePath file =>
    rw [started]
    split
    · exact here Heeds.finished
    · rename_i fits
      split
      · exact ⟨acceptCurrent_quiet sides io item file pair w,Heeds.finished⟩
      · rename_i copies
        split
        · exact ⟨untrack_quiet sides item file w,Heeds.finished⟩
        · rename_i keeps
          refine here (copy (fun _ => ?_) rfl rfl rfl)
          simp [Task.mayFlag,sidecarResolution,copies,keeps]
  | loadOnly => exact here Heeds.finished

omit [Blake3] in
theorem heeds_claim {phase : Phase} {pairId : Nat} (free : ¬Waits sides pairId) (rows : phase.rows = [])
    (claims : phase.claims = [pairId]) (holds : phase.holds = []) : Heeds w.db sides phase := by
  constructor
  · simp [rows]
  · rw [claims]
    intro other member
    rw [List.mem_singleton.mp member]
    exact free
  · simp [holds]

theorem copied_goes {pair : DrivePair} {file : TrackedFile} {job : Job} (heeds : Heeds w.db sides (.copy job file pair))
    (careful : Waits sides pair.id → ¬job.LetThrough io file pair w.disk) : Goes sides w (copied io file pair w job) := by
  have owned : Owned w.db pair.id (file::job.files) := heeds.holds
  have flag {next : Phase} (free : ¬Waits sides pair.id) (after : Heeds w.db sides next) :
      Heeds w.db sides (.flag file.id pair.id next) := Heeds.flag free owned.head after
  have rows (may : job.mayFlag = true) : ∀ role, ⟨pair.id,role⟩ ∈ sides → pair.roleState role = .failed := by
    apply heeds.rows pair
    simp only [Phase.rows,may,if_true,List.mem_cons,true_or]
  cases job with
  | item queued =>
    have kept := dbKept_runAction io queued.action pair file w
    rw [copied]
    cases ran : runAction io queued.action pair file w with
    | error message t =>
      rw [after_of_error ran] at kept
      exact goes_of_db kept Heeds.finished
    | ok result t =>
      rw [after_of_ok ran] at kept
      cases result with
      | error message => exact goes_of_db kept (Heeds.finished.statement _)
      | ok _ =>
        refine goes_of_db kept (Heeds.statement _ ?_)
        split
        · rename_i sets
          have free := free_of_guard (rows sets) careful fun role => runAction_letThrough sets ran
          exact flag free (heeds_claim free rfl rfl rfl)
        · exact Heeds.finished
  | mirrorFile =>
    have kept := dbKept_mirrorFile io pair file.relativePath w
    rw [copied]
    cases ran : mirrorFile io pair file.relativePath w with
    | error message t =>
      rw [after_of_error ran] at kept
      exact goes_of_db kept Heeds.finished
    | ok digest t =>
      rw [after_of_ok ran] at kept
      have free := free_of_guard (rows rfl) careful fun role => mirrorFile_active_failed ran
      exact goes_of_db kept (flag free (Heeds.finished.statement _))
  | mirrorFolder folderId processed files =>
    have kept := dbKept_mirrorFile io pair file.relativePath w
    have turns : Heeds w.db sides (nextOfFolder folderId processed pair files) := by
      refine Heeds.statement _ ⟨fun other member => ?_,nofun,owned.tail⟩
      rw [List.mem_singleton.mp member]
      exact rows rfl
    rw [copied]
    cases ran : mirrorFile io pair file.relativePath w with
    | error message t =>
      rw [after_of_error ran] at kept
      exact goes_of_db kept (turns.statement _)
    | ok digest t =>
      rw [after_of_ok ran] at kept
      have free := free_of_guard (rows rfl) careful fun role => mirrorFile_active_failed ran
      exact goes_of_db kept (flag free (turns.statement _))
  | recovery result =>
    have kept := attemptRecovery_db io pair file result w
    rw [copied]
    cases ran : attemptRecovery io pair file result w with
    | error message t =>
      rw [after_of_error ran] at kept
      exact goes_of_db kept Heeds.finished
    | ok recovered t =>
      rw [after_of_ok ran] at kept
      cases recovered with
      | false => exact goes_of_db kept Heeds.finished
      | true =>
        have free := free_of_guard (rows rfl) careful fun role failed => attemptRecovery_sound ran failed
        exact goes_of_db kept (flag free (Heeds.finished.statement _))
  | integrityRun result later page results =>
    have kept := attemptRecovery_db io pair file result w
    have goes_on : Heeds w.db sides (.recoverFiles pair later page results) :=
      ⟨heeds.rows,nofun,owned.tail⟩
    rw [copied]
    cases ran : attemptRecovery io pair file result w with
    | error message t =>
      rw [after_of_error ran] at kept
      exact goes_of_db kept goes_on
    | ok recovered t =>
      rw [after_of_ok ran] at kept
      cases recovered with
      | false => exact goes_of_db kept goes_on
      | true =>
        have free := free_of_guard (rows rfl) careful fun role failed => attemptRecovery_sound ran failed
        exact goes_of_db kept (flag free (goes_on.statement _))
  | resolution itemId chosen newFilePath =>
    have kept := dbKept_resolutionCopy io file pair chosen newFilePath w
    rw [copied]
    cases ran : resolutionCopy io file pair chosen newFilePath w with
    | error message t =>
      rw [after_of_error ran] at kept
      exact goes_of_db kept Heeds.finished
    | ok _ t =>
      rw [after_of_ok ran] at kept
      have free := free_of_guard (rows rfl) careful fun role => resolutionCopy_letThrough ran
      exact goes_of_db kept ((flag free Heeds.finished).statement _)

omit [Blake3] in
theorem setRole_quiet {pairId : Nat} {role : DriveRole} (state : DriveState) (active : Option DriveRole)
    (apart : ∀ old, w.db.drivePairs.find? pairId = some old → ⟨pairId,role⟩ ∉ sides) :
    Quiet sides w.db (setRole w.db pairId role state active) := by
  apply Quiet.updateDrivePairRuntime
  intro old other there waits failed
  cases role with
  | primary =>
    cases other with
    | primary => exact absurd waits (apart old there)
    | secondary => exact failed
  | secondary =>
    cases other with
    | primary => exact failed
    | secondary => exact absurd waits (apart old there)

/-- A step that marks no side failed goes quietly. -/
theorem advance_goes {answers : Answers} {phase : Phase} {next : World × Phase} (failed : RowsFailed w.db sides)
    (heeds : Heeds w.db sides phase) (marks_none : phase.fails = none)
    (careful : ∀ job file pair, phase = .copy job file pair → Waits sides pair.id →
      ¬job.LetThrough answers.io file pair w.disk)
    (advanced : advance answers w phase = some next) : Goes (phase.marks sides) w next := by
  have here {after : Phase} (ok : Heeds w.db sides after) : Goes sides w (w,after) := goes_of_db rfl ok
  have loaded {pairId : Nat} {task : Task} {step : DrivePair → Phase}
      (held : Owned w.db pairId task.files)
      (each : ∀ pair, (step pair).rows = (if task.mayFlag then [pair] else []) ∧ (step pair).claims = [] ∧
        (step pair).holds = ofPair pair.id task.files) :
      Heeds w.db sides (withRow (w.db.getDrivePair pairId) step) := by
    refine Heeds.withRow fun pair found => ?_
    obtain ⟨rows,claims,holds⟩ := each pair
    have same : pair.id = pairId := Table.find?_key (Db.getDrivePair_ok.mp found)
    constructor
    · rw [rows]
      intro other member
      split at member
      · rw [List.mem_singleton.mp member]
        exact failed.row found
      · cases member
    · simp [claims]
    · rw [holds,same]
      exact held
  cases phase with
  | finished => cases advanced
  | loadPair task pairId =>
    cases advanced
    exact here (loaded heeds.holds fun pair => ⟨rfl,rfl,rfl⟩)
  | checkRoots task pair =>
    cases advanced
    refine here ?_
    split
    · exact ⟨nofun,nofun,heeds.holds⟩
    · exact ⟨heeds.rows,nofun,heeds.holds⟩
  | failover task pair => cases marks_none
  | confirm pair role => cases marks_none
  | unmirror pairId after =>
    cases advanced
    have quiet : Quiet sides w.db (w.db.markDrivePairUnmirrored pairId) := Quiet.unmirror pairId
    have goes_on : Heeds w.db sides after := ⟨heeds.rows,heeds.claims,heeds.holds⟩
    exact ⟨quiet,goes_on.later quiet fun _ member => member⟩
  | statement statement after =>
    cases advanced
    have quiet : Quiet sides w.db (statement.run w.db) := Quiet.statement statement
    have goes_on : Heeds w.db sides after := ⟨heeds.rows,heeds.claims,heeds.holds⟩
    exact ⟨quiet,goes_on.later quiet fun _ member => member⟩
  | reload task pairId =>
    cases advanced
    exact here (loaded heeds.holds fun pair => ⟨rfl,rfl,rfl⟩)
  | start task pair =>
    cases advanced
    exact started_goes heeds
  | startFolderMirror folderId pair files =>
    obtain ⟨pairs,kept⟩ := w.db.startFolderMirror_frame folderId files.length
    have quiet : Quiet sides w.db (w.db.startFolderMirror folderId files.length).2 := Quiet.of_eq pairs kept
    have turns : Heeds w.db sides (.mirrorFiles folderId pair 0 files) :=
      ⟨heeds.rows,nofun,heeds.holds⟩
    rw [advance] at advanced
    cases begun : w.db.startFolderMirror folderId files.length with
    | mk result db =>
      rw [begun] at quiet advanced
      cases result with
      | ok folder =>
        cases advanced
        exact ⟨quiet,turns.later quiet fun _ member => member⟩
      | error message =>
        cases advanced
        exact ⟨quiet,Heeds.finished⟩
  | mirrorFiles folderId pair processed files =>
    cases files with
    | nil =>
      cases advanced
      exact here (Heeds.finished.statement _)
    | cons file files =>
      cases advanced
      exact here (Heeds.statement _ ⟨heeds.rows,nofun,heeds.holds⟩)
  | runPairs pairs =>
    cases pairs with
    | nil =>
      cases advanced
      exact here Heeds.finished
    | cons pair later =>
      cases advanced
      exact here ⟨heeds.rows,nofun,nofun⟩
  | listPage pair later page =>
    rw [advance] at advanced
    split at advanced
    · cases advanced
      exact here Heeds.finished
    · split at advanced
      · cases advanced
        exact here ⟨fun other member => heeds.rows other (List.mem_cons_of_mem _ member),nofun,nofun⟩
      · obtain ⟨results,checked,same⟩ := checkFiles_of answers.io answers.mmapThresholdBytes pair
          (w.db.listTrackedFilesOldestIntegrityFirst answers.tieBreak (some pair.id) page perPage) w
        rw [checked] at advanced
        cases advanced
        refine here ⟨heeds.rows,nofun,?_⟩
        change Owned w.db pair.id (results.map Prod.fst)
        rw [same]
        intro held member file found
        obtain ⟨listed,inside,rfl⟩ := mem_ofPair member
        obtain ⟨row,there,ofPair⟩ := Db.members_iff.mp (w.db.listPage_subset _ _ _ _ inside).1
        rw [found,Option.some.injEq] at there
        rw [there]
        exact ofPair
  | recoverFiles pair later page results =>
    cases results with
    | nil =>
      cases advanced
      exact here ⟨heeds.rows,nofun,nofun⟩
    | cons first results =>
      obtain ⟨file,checked⟩ := first
      have owned : Owned w.db pair.id (file::results.map Prod.fst) := heeds.holds
      have goes_on : Heeds w.db sides (.recoverFiles pair later page results) :=
        ⟨heeds.rows,nofun,owned.tail⟩
      cases checked with
      | error message =>
        cases advanced
        exact here goes_on
      | ok result =>
        cases advanced
        refine here ?_
        split
        · exact goes_on
        · exact ⟨heeds.rows,nofun,owned⟩
  | copy job file pair =>
    cases advanced
    exact copied_goes heeds (careful job file pair rfl)
  | flag fileId pairId after =>
    cases advanced
    have free : ¬Waits sides pairId := heeds.claims pairId (List.mem_cons_self ..)
    have held := heeds.holds (fileId,pairId) (List.mem_cons_self ..)
    have quiet : Quiet sides w.db (w.db.updateTrackedFileMirrorStatus fileId true) := Quiet.flag free held
    have goes_on : Heeds w.db sides after :=
      ⟨heeds.rows,fun other member => heeds.claims other (List.mem_cons_of_mem _ member),
        fun other member => heeds.holds other (List.mem_cons_of_mem _ member)⟩
    exact ⟨quiet,goes_on.later quiet fun _ member => member⟩
  | finalize pairId action =>
    cases advanced
    have free : ¬Waits sides pairId := heeds.claims pairId (List.mem_cons_self ..)
    refine here (Heeds.withRow fun pair _ => ?_)
    cases rebuiltRole action with
    | none => exact Heeds.finished
    | some role =>
      dsimp only
      split
      · exact heeds_claim free rfl rfl rfl
      · exact Heeds.finished
  | countRemaining pairId role action =>
    cases advanced
    have free : ¬Waits sides pairId := heeds.claims pairId (List.mem_cons_self ..)
    refine here ?_
    split
    · exact heeds_claim free rfl rfl rfl
    · exact Heeds.finished
  | rebuilt pairId role =>
    cases advanced
    have free : ¬Waits sides pairId := heeds.claims pairId (List.mem_cons_self ..)
    refine ⟨setRole_quiet _ _ fun _ _ waits => free ⟨role,waits⟩,?_⟩
    exact heeds_claim (w := { w with db := _ }) free rfl rfl rfl
  | readBack pairId =>
    cases advanced
    have free : ¬Waits sides pairId := heeds.claims pairId (List.mem_cons_self ..)
    refine here (Heeds.withRow fun updated _ => ?_)
    split
    · exact Heeds.inert rfl rfl rfl
    · exact heeds_claim free rfl rfl rfl
  | listFiles pairId =>
    cases advanced
    refine here ⟨nofun,heeds.claims,owned_of_rows fun file member => ?_⟩
    exact Db.mem_listTrackedFilesOfPair.mp member
  | flagAll pairId files =>
    cases files with
    | nil =>
      cases advanced
      exact here Heeds.finished
    | cons file files =>
      cases advanced
      have free : ¬Waits sides pairId := heeds.claims pairId (List.mem_cons_self ..)
      have owned : Owned w.db pairId (file::files) := heeds.holds
      have quiet : Quiet sides w.db (w.db.updateTrackedFileMirrorStatus file.id true) := Quiet.flag free owned.head
      have goes_on : Heeds w.db sides (.flagAll pairId files) :=
        ⟨nofun,heeds.claims,owned.tail⟩
      exact ⟨quiet,goes_on.later quiet fun _ member => member⟩
  | changeState pair role state sound =>
    cases advanced
    refine ⟨setRole_quiet _ _ fun _ _ waits => ?_,Heeds.finished⟩
    exact sound (heeds.rows pair (List.mem_cons_self ..) role waits)
  | ensureMarker pairId role newPath =>
    have kept := (untouched_ensureDriveRootMarker answers.io newPath w).1
    have assigns : Heeds w.db sides (.assign pairId role newPath) :=
      Heeds.inert rfl rfl rfl
    rw [advance] at advanced
    cases ran : ensureDriveRootMarker answers.io newPath w with
    | ok _ t =>
      rw [ran] at advanced
      rw [after_of_ok ran] at kept
      cases advanced
      exact goes_of_db kept assigns
    | error message t =>
      rw [ran] at advanced
      rw [after_of_error ran] at kept
      cases advanced
      exact goes_of_db kept Heeds.finished
  | assign pairId role newPath =>
    cases advanced
    refine ⟨?_,Heeds.inert rfl rfl rfl⟩
    apply Quiet.updateDrivePairRuntime
    intro old other _ waits kept
    have apart : other ≠ role := by
      rintro rfl
      simpa using (List.mem_filter.mp waits).2
    cases role with
    | primary =>
      cases other with
      | primary => exact absurd rfl apart
      | secondary => exact kept
    | secondary =>
      cases other with
      | primary => exact kept
      | secondary => exact absurd rfl apart
  | listRebuild pairId role =>
    cases advanced
    exact here (Heeds.inert rfl rfl rfl)
  | queueRebuild action files =>
    cases files with
    | nil =>
      cases advanced
      exact here Heeds.finished
    | cons file files =>
      cases advanced
      refine ⟨Quiet.statement (.createSyncQueueItemDedup file.id action),?_⟩
      exact Heeds.inert rfl rfl rfl

/-! The invariant of a whole run. -/

omit [Blake3] in
theorem setRole_failed {pairId : Nat} {role : DriveRole} {active : Option DriveRole} {pair : DrivePair}
    (found : (setRole w.db pairId role .failed active).drivePairs.find? pairId = some pair) :
    pair.roleState role = .failed := by
  rw [setRole,Db.updateDrivePairRuntime,Table.find?_updateWhere] at found
  obtain ⟨old,there,rfl⟩ := Option.map_eq_some_iff.mp found
  have same : old.id = pairId := Table.find?_key there
  rw [if_pos (by simpa using same)]
  cases role <;> rfl

omit [Blake3] in
theorem setRole_failed_kept {pairId : Nat} {role : DriveRole} {active : Option DriveRole} (failed : RowsFailed w.db sides) :
    RowsFailed (setRole w.db pairId role .failed active) (⟨pairId,role⟩::sides) := by
  intro side waits pair found
  by_cases same : side = ⟨pairId,role⟩
  · subst same
    exact setRole_failed found
  · have before : side ∈ sides := (List.mem_cons.mp waits).resolve_left same
    rw [setRole,Db.updateDrivePairRuntime,Table.find?_updateWhere] at found
    obtain ⟨old,there,rfl⟩ := Option.map_eq_some_iff.mp found
    have state := failed side before old there
    split
    · cases role <;> cases other : side.role <;> rw [other] at state <;> first | exact state | rfl
    · exact state

structure Kept (s : State) : Prop where
  rows : RowsFailed s.shared.world.db s.shared.unreplaced
  heeds : ∀ i, Heeds s.shared.world.db s.shared.unreplaced (s.op i)
  flags : ∀ side ∈ s.shared.unreplaced, (∃ i, (s.op i).clears = some side.pairId) ∨
    Unflagged s.shared.world.db side.pairId

omit [Blake3] in
theorem Unflagged.quiet {db next : Db} {side : Side} (unflagged : Unflagged db side.pairId) (quiet : Quiet sides db next)
    (waits : side ∈ sides) : Unflagged next side.pairId := by
  intro id file found ofPair
  obtain ⟨old,there,same,up⟩ := quiet.files id file found
  have down := unflagged id old there (same.trans ofPair)
  cases flagged : file.isMirrored with
  | false => rfl
  | true =>
    rcases up flagged with before | free
    · rw [down] at before
      cases before
    · rw [ofPair] at free
      exact absurd ⟨side.role,waits⟩ free

omit [Blake3] in
theorem RowsFailed.quiet {fewer : List Side} {db next : Db} (failed : RowsFailed db sides) (quiet : Quiet fewer db next)
    (inside : ∀ side ∈ fewer, side ∈ sides) : RowsFailed next fewer := by
  intro side waits pair found
  obtain ⟨old,there,kept⟩ := quiet.pairs side.pairId pair found
  exact kept side.role waits (failed side (inside side waits) old there)

omit [Blake3] in
theorem unflagged_unmirror (db : Db) (pairId : Nat) : Unflagged (db.markDrivePairUnmirrored pairId) pairId := by
  intro id file found ofPair
  rw [Db.find?_markDrivePairUnmirrored] at found
  obtain ⟨old,_,rfl⟩ := Option.map_eq_some_iff.mp found
  split at ofPair
  · rename_i member
    simp [member]
  · rename_i other
    exact absurd ofPair other

omit [Blake3] in
theorem marks_subset {phase : Phase} (marks_none : phase.fails = none) : ∀ side ∈ phase.marks sides, side ∈ sides := by
  intro side waits
  cases phase with
  | failover task pair => cases marks_none
  | confirm pair role => cases marks_none
  | assign pairId role newPath => exact (List.mem_filter.mp waits).1
  | _ => exact waits

/-- A step of operation `i` that marks no side failed. -/
theorem kept_goes {s : State} {i : Nat} {answers : Answers} {next : World × Phase} (kept : Kept s)
    (marks_none : (s.op i).fails = none) (goes : Goes ((s.op i).marks s.shared.unreplaced) s.shared.world next)
    (advanced : advance answers s.shared.world (s.op i) = some next) :
    Kept (s.moved i ⟨next.1,(s.op i).marks s.shared.unreplaced⟩ next.2) where
  rows := kept.rows.quiet goes.1 (marks_subset marks_none)
  heeds := Interleaved.forall_moved goes.2 fun j _ => (kept.heeds j).later goes.1 (marks_subset marks_none)
  flags side waits := by
    rcases kept.flags side (marks_subset marks_none side waits) with ⟨j,clears⟩ | unflagged
    · by_cases same : j = i
      · -- The step is the one that takes the flags down.
        rw [same] at clears
        cases phase : s.op i with
        | unmirror pairId after =>
          rw [phase] at clears advanced
          cases advanced
          cases clears
          exact .inr (unflagged_unmirror _ _)
        | _ =>
          rw [phase] at clears
          cases clears
      · exact .inl ⟨j,by rw [s.moved_other _ _ same]; exact clears⟩
    · exact .inr (unflagged.quiet goes.1 waits)

omit [Blake3] in
/-- A step of operation `i` that marks a side failed and is about to take the flags down. -/
theorem kept_fails {s : State} {i pairId : Nat} {role : DriveRole} {active : Option DriveRole} {after : Phase}
    (kept : Kept s) (apart : ∀ j, ¬(s.op j).ReliesOn pairId) (own : (s.op i).clears = none)
    (goes_on : Heeds (setRole s.shared.world.db pairId role .failed active) (⟨pairId,role⟩::s.shared.unreplaced) after) :
    Kept (s.moved i ⟨{ s.shared.world with db := setRole s.shared.world.db pairId role .failed active },
      ⟨pairId,role⟩::s.shared.unreplaced⟩ (.unmirror pairId after)) where
  rows := setRole_failed_kept kept.rows
  heeds := by
    refine Interleaved.forall_moved ⟨goes_on.rows,goes_on.claims,goes_on.holds⟩ fun j _ => ?_
    exact (kept.heeds j).failing ⟨pairId,role⟩ (apart j) rfl
  flags side waits := by
    by_cases mine : side.pairId = pairId
    · exact .inl ⟨i,by rw [s.moved_same,mine]; rfl⟩
    · have before : side ∈ s.shared.unreplaced := by
        rcases List.mem_cons.mp waits with rfl | before
        · exact absurd rfl mine
        · exact before
      rcases kept.flags side before with ⟨j,clears⟩ | unflagged
      · have other : j ≠ i := by
          rintro rfl
          rw [own] at clears
          cases clears
        exact .inl ⟨j,by rw [s.moved_other _ _ other]; exact clears⟩
      · exact .inr unflagged

theorem kept_turn {s : State} {i : Nat} {input : Input} {next : Shared × Phase} (kept : Kept s)
    (careful : Careful (.turn i input) s) (turned : turn input s.shared (s.op i) = some next) :
    Kept (s.moved i next.1 next.2) := by
  cases input with
  | request request =>
    cases phase : s.op i with
    | finished =>
      rw [phase] at turned
      cases turned
      refine ⟨kept.rows,Interleaved.forall_moved (opening_heeds kept.rows request) fun j _ => kept.heeds j,?_⟩
      intro side waits
      rcases kept.flags side waits with ⟨j,clears⟩ | unflagged
      · have other : j ≠ i := by
          rintro rfl
          rw [phase] at clears
          cases clears
        exact .inl ⟨j,by rw [s.moved_other _ _ other]; exact clears⟩
      · exact .inr unflagged
    | _ =>
      rw [phase] at turned
      cases turned
  | answers answers =>
    obtain ⟨undisturbed,guarded⟩ := careful
    obtain ⟨step,advanced,rfl⟩ := Option.map_eq_some_iff.mp turned
    have heeds := kept.heeds i
    cases fails : (s.op i).fails with
    | none =>
      exact kept_goes kept fails (advance_goes kept.rows heeds fails guarded advanced) advanced
    | some side =>
      have apart := undisturbed side fails
      cases phase : s.op i with
      | failover task pair =>
        rw [phase] at fails advanced heeds
        cases advanced
        cases fails
        refine kept_fails kept apart (by rw [phase]; rfl) ?_
        exact ⟨nofun,nofun,heeds.holds⟩
      | confirm pair role =>
        rw [phase] at fails advanced heeds
        cases advanced
        cases fails
        refine kept_fails kept apart (by rw [phase]; rfl) ?_
        exact Heeds.inert rfl rfl rfl
      | _ =>
        rw [phase] at fails
        cases fails

omit [Blake3] in
theorem kept_outside {s : State} (event : Event) (kept : Kept s) : Kept { s with shared := outside event s.shared } := by
  have quietly {next : Db} (quiet : Quiet s.shared.unreplaced s.shared.world.db next) (disk : Disk) :
      Kept { s with shared := ⟨⟨next,disk⟩,s.shared.unreplaced⟩ } := by
    refine ⟨kept.rows.quiet quiet fun _ waits => waits,fun i => (kept.heeds i).later quiet fun _ waits => waits,?_⟩
    intro side waits
    rcases kept.flags side waits with clears | unflagged
    · exact .inl clears
    · exact .inr (unflagged.quiet quiet waits)
  cases event with
  | disk disk => exact quietly (Quiet.refl _ _) disk
  | enqueue fileId action reason errorMessage =>
    obtain ⟨pairs,files⟩ := s.shared.world.db.createSyncQueueItemDedupWithCreated_frame fileId action reason errorMessage
    exact quietly (Quiet.of_eq pairs files) _
  | requeueInProgress =>
    have quiet : Quiet s.shared.unreplaced s.shared.world.db s.shared.world.db.requeueInProgressSyncQueue :=
      Quiet.of_eq rfl rfl
    exact quietly quiet _

/-- While a side waits for a replacement, no file of its pair is flagged, the moment
apart in which the operation that marked it is about to take the flags down. -/
theorem failedSide_unmirrored {w : World} {s : State} (reached : machine.Reaches Careful (begin w) s) :
    ∀ side ∈ s.shared.unreplaced, (∀ i, (s.op i).clears ≠ some side.pairId) →
      Unflagged s.shared.world.db side.pairId := by
  have kept : Kept s := by
    apply Interleaved.invariant_of_turns reached
    · exact ⟨fun _ waits => (by cases waits),fun _ => Heeds.finished,fun _ waits => (by cases waits)⟩
    · exact fun i input s next kept careful turned => kept_turn kept careful turned
    · exact fun event s kept _ => kept_outside event kept
  intro side waits settled
  rcases kept.flags side waits with ⟨i,clears⟩ | unflagged
  · exact absurd clears (settled i)
  · exact unflagged

end

/-! A failure that is confirmed on its own, and one over an item in flight. -/

def healthyAnswers : Answers := ⟨Io.healthy,id,0,false⟩

def ask (i : Nat) (request : Request) : Move Input Event := .turn i (.request request)

def goOn (i : Nat) : Move Input Event := .turn i (.answers healthyAnswers)

/-- The secondary side is quiescing, and the file of the pair is flagged. -/
def quiescingWorld : World where
  db := { corruptedWorld.db with
    drivePairs := Table.empty.insert (fun id => { corruptedPair with id,secondaryState := .quiescing }) (fun _ => rfl)
    trackedFiles := Table.empty.insert (fun id => { corruptedFile with id,isMirrored := true }) (fun _ => rfl) }
  disk := corruptedWorld.disk

theorem failedSide_unmirrored_confirmed :
    letI := sampleBlake3
    ∃ s, machine.exec (begin quiescingWorld) [ask 0 (.confirmDriveFailure 1 .secondary),goOn 0,goOn 0,goOn 0] = some s ∧
      s.shared.unreplaced = [⟨1,.secondary⟩] ∧ Unflagged s.shared.world.db 1 := by
  let _ := sampleBlake3
  have alone (phase : Phase) (s : State) (rows : phase.rows = []) (claims : phase.claims = [])
      (others : ∀ j, j ≠ 0 → ¬(s.op j).ReliesOn 1) (shared : Shared) :
      ∀ j, ¬((s.moved 0 shared phase).op j).ReliesOn 1 := by
    refine Interleaved.forall_moved (P := fun phase : Phase => ¬phase.ReliesOn 1) ?_ others
    simp [Phase.ReliesOn,rows,claims]
  have nobody : ∀ j, j ≠ 0 → ¬((begin quiescingWorld).op j).ReliesOn 1 := by
    intro j _
    simp [begin,Phase.ReliesOn,Phase.rows,Phase.claims]
  have run : machine.Reaches Careful (begin quiescingWorld) _ :=
    .step (goOn 0) (.step (goOn 0) (.step (goOn 0) (.step (ask 0 (.confirmDriveFailure 1 .secondary)) .start trivial rfl)
      ⟨fun side fails => by cases fails; exact alone _ _ rfl rfl nobody _,fun _ _ _ copies => (nomatch copies)⟩ rfl)
      ⟨fun _ fails => (nomatch fails),fun _ _ _ copies => (nomatch copies)⟩ rfl)
      ⟨fun _ fails => (nomatch fails),fun _ _ _ copies => (nomatch copies)⟩ rfl
  refine ⟨_,rfl,rfl,failedSide_unmirrored run ⟨1,.secondary⟩ (List.mem_singleton.mpr rfl) fun i => ?_⟩
  by_cases mine : i = 0
  · subst mine
    exact fun clears => nomatch clears
  · simp [Interleaved.moved,mine,begin,Phase.clears]

/-- The copy of an item is done when a failure of the standby is confirmed. -/
def confirmedInFlight : List (Move Input Event) :=
  [ask 0 (.processItem corruptedItem),goOn 0,goOn 0,goOn 0,goOn 0,goOn 0,
    ask 1 (.markDriveQuiescing 1 .secondary),goOn 1,
    ask 1 (.confirmDriveFailure 1 .secondary),goOn 1,goOn 1,goOn 1,
    goOn 0,goOn 0,goOn 0]

theorem item_flags_failed_side :
    ¬ ∀ (_ : Blake3) (w : World) (s : State), machine.Reaches (fun _ _ => True) (begin w) s →
      (∀ i, s.op i = .finished) → ∀ side ∈ s.shared.unreplaced, Unflagged s.shared.world.db side.pairId := by
  intro unmirrored
  let _ := sampleBlake3
  obtain ⟨s,ran,idle,waits,flagged⟩ : ∃ s, machine.exec (begin corruptedWorld) confirmedInFlight = some s ∧
      (∀ i, s.op i = .finished) ∧ ⟨1,.secondary⟩ ∈ s.shared.unreplaced ∧
      s.shared.world.db.trackedFiles.find? 1 = some { corruptedFile with isMirrored := true } := by
    refine ⟨_,rfl,fun i => ?_,List.mem_singleton.mpr rfl,rfl⟩
    by_cases first : i = 0
    · subst first
      rfl
    · by_cases second : i = 1
      · subst second
        rfl
      · simp [Interleaved.moved,first,second,begin]
  have down := unmirrored sampleBlake3 corruptedWorld s (Machine.reaches_of_exec ran) idle _ waits 1 _ flagged rfl
  cases down

end BitProtector.FailedSide
