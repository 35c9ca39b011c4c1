import BitProtector.PairFrame

/-! The statements that an operation writes to the tables with, one after the other. Whatever each of them keeps, every
operation keeps. The statements that complete a restore item and those that end a rebuild are not among them. -/
namespace BitProtector.TableWrites
open Effect

/-- The update leaves the sides that are rebuilding, and their roots, as they are. -/
def SparesRebuilds (pair next : DrivePair) : Prop :=
  ∀ side, pair.roleState side = .rebuilding →
    next.roleState side = .rebuilding ∧ next.pathForRole side = pair.pathForRole side

/-- `clear_completed_sync_queue`. -/
def clearCompletedSyncQueue (db : Db) : Db :=
  { db with syncQueue := db.syncQueue.deleteWhere (fun item => item.status == .completed) }

inductive Wrote : Db → Db → Prop
  | file (db : Db) (id : Nat) (change : TrackedFile → TrackedFile) (keepsId : ∀ file, (change file).id = file.id)
      (stays : ∀ file, (change file).drivePairId = file.drivePairId ∧ (change file).relativePath = file.relativePath) :
      Wrote db (db.updateTrackedFile id change keepsId)
  | unmirrored (db : Db) (pairId : Nat) : Wrote db (db.markDrivePairUnmirrored pairId)
  | provenance (db : Db) (pairId : Nat) : Wrote db (db.recomputeFolderProvenanceForDrive pairId)
  | created (db : Db) (pairId : Nat) (relativePath checksum : String) (fileSize : Nat) (virtualPath : Option String)
      (direct viaFolder : Bool) : Wrote db
        (db.createTrackedFileWithSource pairId relativePath checksum fileSize virtualPath direct viaFolder).2
  | untracked (db : Db) (id : Nat) : Wrote db (db.deleteTrackedFile id)
  | queued (db : Db) (fileId : Nat) (action : SyncAction) (reason message : Option String) :
      Wrote db (db.createSyncQueueItem fileId action reason message).2
  | cleared (db : Db) : Wrote db (clearCompletedSyncQueue db)
  | status (db : Db) (p : SyncQueueItem → Bool) (status : SyncStatus) (message : Option String)
      (plain : status = .completed → ∀ row ∈ db.syncQueue.rows, p row = true → rebuiltRole row.action = none) :
      Wrote db (db.updateQueueWhere p status message)
  | runtime (db : Db) (id : Nat) (pp sp : Option String) (ps ss : Option DriveState) (active : Option DriveRole)
      (spares : ∀ pair, db.drivePairs.find? id = some pair → SparesRebuilds pair (pair.withRuntime pp sp ps ss active)) :
      Wrote db (db.updateDrivePairRuntime id pp sp ps ss active)
  | elsewhere (db next : Db) (pairs : next.drivePairs = db.drivePairs) (files : next.trackedFiles = db.trackedFiles)
      (queue : next.syncQueue = db.syncQueue) : Wrote db next

/-- Any number of statements, with whatever happens on the disks beside them. -/
def Writes (w t : World) : Prop := Relation.ReflTransGen Wrote w.db t.db

instance : IsPreorder World Writes where
  refl _ := .refl
  trans _ _ _ first second := Relation.ReflTransGen.trans first second

/-- What every statement keeps. -/
theorem Writes.keeps {R : Db → Db → Prop} [IsPreorder Db R] {w t : World} (writes : Writes w t)
    (each : ∀ db next, Wrote db next → R db next) : R w.db t.db := by
  unfold Writes at writes
  generalize t.db = last at writes ⊢
  induction writes with
  | refl => exact refl_of R _
  | tail _ wrote ih => exact trans_of R ih (each _ _ wrote)

theorem writes_one {w t : World} (wrote : Wrote w.db t.db) : Writes w t := .single wrote

/-! Steps. -/

theorem writes_dbKept {α : Type} {x : Act α} (kept : Keeps DbKept x) : Keeps Writes x := by
  intro w
  rw [Writes,kept w]

theorem writes_still {α : Type} {x : Act α} (still : ∀ w, after x w = w) : Keeps Writes x := by
  intro w
  rw [still]
  exact refl_of Writes w

theorem writes_query {α : Type} (read : Db → Except String α) : Keeps Writes (Act.query read) :=
  writes_still (Act.after_query read)

theorem writes_look {α : Type} (view : Disk → α) : Keeps Writes (Act.look view) := writes_still fun _ => rfl

theorem writes_ensure (condition : Bool) (message : String) : Keeps Writes (Act.ensure condition message) :=
  writes_still (RootMarkers.ensure_still condition message)

theorem writes_bail {α : Type} (message : String) : Keeps Writes (Act.bail message : Act α) := writes_still fun _ => rfl

theorem writes_execute {update : Db → Db} (wrote : ∀ db, Wrote db (update db)) : Keeps Writes (Act.execute update) :=
  fun w => writes_one (wrote w.db)

theorem writes_insert {α : Type} {update : Db → α × Db} (wrote : ∀ db, Wrote db (update db).2) :
    Keeps Writes (Act.insert update) := fun w => writes_one (wrote w.db)

theorem writes_insertOrFail {α : Type} {update : Db → Except String α × Db} (wrote : ∀ db, Wrote db (update db).2) :
    Keeps Writes (Act.insertOrFail update) := by
  intro w
  rw [Act.after_insertOrFail]
  exact writes_one (wrote w.db)

theorem writes_mapErr {α : Type} {x : Act α} (text : String → String) (inner : Keeps Writes x) :
    Keeps Writes (Act.mapErr text x) := by
  intro w
  rw [Act.after_mapErr]
  exact inner w

theorem writes_discard {α : Type} {x : Act α} (inner : Keeps Writes x) : Keeps Writes (do let _ ← x; pure PUnit.unit) :=
  keeps_bind inner fun _ => keeps_pure _

theorem writes_optionally {α β : Type} {condition : Bool} {x : Act α} {rest : Act β} (first : Keeps Writes x)
    (second : Keeps Writes rest) : Keeps Writes (if condition then (do let _ ← x; rest) else rest) := by
  split
  · exact keeps_bind first fun _ => second
  · exact second

theorem writes_elsewhere {update : Db → Db} (pairs : ∀ db, (update db).drivePairs = db.drivePairs)
    (files : ∀ db, (update db).trackedFiles = db.trackedFiles) (queue : ∀ db, (update db).syncQueue = db.syncQueue) :
    Keeps Writes (Act.execute update) :=
  writes_execute fun db => .elsewhere db _ (pairs db) (files db) (queue db)

theorem writes_flag (id : Nat) (isMirrored : Bool) :
    Keeps Writes (Act.execute (fun db => db.updateTrackedFileMirrorStatus id isMirrored)) :=
  writes_execute fun db => .file db id (fun file => { file with isMirrored }) (fun _ => rfl) fun _ => ⟨rfl,rfl⟩

theorem writes_reopened {update : Db → Db} (p : Db → SyncQueueItem → Bool) (status : SyncStatus) (message : Option String)
    (opened : status ≠ .completed) (same : ∀ db, update db = db.updateQueueWhere (p db) status message) :
    Keeps Writes (Act.execute update) := by
  apply writes_execute
  intro db
  rw [same]
  exact .status db (p db) status message fun completed => absurd completed opened

theorem writes_mirrored (fileId : Nat) :
    Keeps Writes (Act.execute (fun db => db.completePendingMirrorQueueForFile fileId)) := by
  refine writes_execute fun db => .status db _ _ _ fun _ row _ taken => ?_
  simp only [Bool.and_eq_true] at taken
  exact rebuiltRole_of_isMirroring taken.1.2

theorem writes_enqueue {α : Type} {update : Db → α × Db} (fileId : Nat) (action : SyncAction)
    (reason message : Option String)
    (queues : ∀ db, (update db).2 = (db.createSyncQueueItemDedupWithCreated fileId action reason message).2) :
    Keeps Writes (Act.insert update) := by
  intro w
  change Relation.ReflTransGen Wrote w.db (update w.db).2
  rw [queues]
  unfold Db.createSyncQueueItemDedupWithCreated
  split
  · exact .refl
  · exact .single (.queued w.db fileId action reason message)

theorem writes_recompute (pairId : Nat) : Keeps Writes (Act.execute (fun db => db.recomputeFolderProvenanceForDrive pairId)) :=
  writes_execute fun db => .provenance db pairId

theorem writes_untracked (id : Nat) : Keeps Writes (Act.execute (fun db => db.deleteTrackedFile id)) :=
  writes_execute fun db => .untracked db id

theorem writes_orUndo {undo : Db → Db} {x : Act Unit} (undone : ∀ db, Wrote db (undo db)) (inner : Keeps Writes x) :
    Keeps Writes (orUndo undo x) := by
  refine keeps_bind (keeps_attempt inner) fun result => ?_
  cases result with
  | ok _ => exact keeps_pure _
  | error message => exact keeps_bind (writes_execute undone) fun _ => writes_bail message

theorem writes_finish (walk : Walk) : Keeps Writes walk.finish := by
  unfold Walk.finish
  cases walk.failure with
  | none => exact keeps_pure _
  | some message => exact writes_bail message

/-! The pair of an operation. -/

theorem sparesRebuilds_of_state {pair : DrivePair} {role : DriveRole} {path : Option String} {state : DriveState}
    {active : Option DriveRole} (other : pair.roleState role ≠ .rebuilding) :
    SparesRebuilds pair (pair.withRuntime (path.bind (forRole role .primary)) (path.bind (forRole role .secondary))
      (forRole role .primary state) (forRole role .secondary state) active) := by
  intro side rebuilding
  cases role <;> cases side <;> cases path
  all_goals first | exact absurd rebuilding other | exact ⟨rebuilding,rfl⟩

theorem writes_setState {w : World} {pairId : Nat} {pair : DrivePair} {role : DriveRole} (path : Option String)
    (state : DriveState) (active : Option DriveRole) (found : w.db.drivePairs.find? pairId = some pair)
    (other : pair.roleState role ≠ .rebuilding) : Writes w (after (updateRuntime pairId (path.bind (forRole role .primary))
      (path.bind (forRole role .secondary)) (forRole role .primary state) (forRole role .secondary state) active) w) := by
  rw [after_of_ok (updateRuntime_run found _ _ _ _ _)]
  refine writes_one (.runtime _ _ _ _ _ _ _ fun row there => ?_)
  obtain rfl : row = pair := Option.some.inj (there.symm.trans found)
  exact sparesRebuilds_of_state other

theorem writes_operational {w : World} {pair : DrivePair} (found : w.db.drivePairs.find? pair.id = some pair) :
    Writes w { w with db := w.db.operational w.disk pair } := by
  unfold Db.operational
  split
  · rename_i due
    have active : pair.roleState pair.activeRole ≠ .rebuilding := by
      simp only [emergencyFailoverDue,Bool.and_eq_true,beq_iff_eq] at due
      rw [due.1.1.2]
      decide
    let failed : Db := w.db.updateDrivePairRuntime pair.id none none (forRole pair.activeRole .primary .failed)
      (forRole pair.activeRole .secondary .failed) (some pair.standbyRole)
    have runtime : Wrote w.db failed := .runtime _ _ _ _ _ _ _ fun row there => by
      obtain rfl : row = pair := Option.some.inj (there.symm.trans found)
      exact @sparesRebuilds_of_state row row.activeRole none .failed (some row.standbyRole) active
    have unflagged : Wrote failed (failed.markDrivePairUnmirrored pair.id) := .unmirrored _ _
    exact ((Relation.ReflTransGen.single runtime).tail unflagged).tail (.status _ _ _ _ fun completed => by cases completed)
  · exact refl_of Writes w

theorem writes_load (pairId : Nat) : Keeps Writes (loadOperationalPair pairId) := by
  intro w
  rcases VirtualAssignment.after_loadOperationalPair pairId w with still | ⟨pair,read,ends⟩
  · rw [still]
    exact refl_of Writes w
  · rw [ends]
    have row := Db.getDrivePair_ok.mp read
    have key : pair.id = pairId := Table.find?_key row
    exact writes_operational (key.symm ▸ row)

/-- A first part that leaves the world alone unless it says what the rest relies on. -/
theorem writes_guarded {α β : Type} {x : Act α} {f : α → Act β} {w : World} (still : ∀ w, after x w = w)
    (rest : ∀ a, x w = .ok a w → Writes w (after (f a) w)) : Writes w (after (x >>= f) w) := by
  rcases after_bind_cases x f w with ⟨message,failed⟩ | ⟨a,t,ran,ends⟩
  · have same := still w
    rw [after_of_error failed] at same
    rw [same]
    exact refl_of Writes w
  · have same := still w
    rw [after_of_ok ran] at same
    subst same
    rw [ends]
    exact rest a ran

theorem ensure_holds {condition : Bool} {message : String} {w t : World} (ok : Act.ensure condition message w = .ok () t) :
    condition = true := (Act.ensure_success ok).1

theorem writes_markDriveQuiescing (pairId : Nat) (role : DriveRole) : Keeps Writes (markDriveQuiescing pairId role) := by
  intro w
  refine writes_guarded (Act.after_query _) fun pair read => writes_guarded (RootMarkers.ensure_still _ _) fun _ guarded => ?_
  have active : pair.roleState role = .active := by simpa using ensure_holds guarded
  exact writes_setState none .quiescing none (query_getDrivePair read).1 (by rw [active]; decide)

theorem writes_cancelDriveQuiescing (pairId : Nat) (role : DriveRole) : Keeps Writes (cancelDriveQuiescing pairId role) := by
  intro w
  refine writes_guarded (Act.after_query _) fun pair read => writes_guarded (RootMarkers.ensure_still _ _) fun _ guarded => ?_
  have quiescing : pair.roleState role = .quiescing := by simpa using ensure_holds guarded
  exact writes_setState none .active none (query_getDrivePair read).1 (by rw [quiescing]; decide)

theorem writes_confirmDriveFailure (pairId : Nat) (role : DriveRole) : Keeps Writes (confirmDriveFailure pairId role) := by
  intro w
  refine writes_guarded (Act.after_query _) fun pair read => writes_guarded (RootMarkers.ensure_still _ _) fun _ guarded => ?_
  have quiescing : pair.roleState role = .quiescing := by simpa using ensure_holds guarded
  refine writes_guarded (fun _ => rfl) fun reachable _ => writes_guarded (RootMarkers.ensure_still _ _) fun _ _ => ?_
  refine related_bind (writes_setState none .failed _ (query_getDrivePair read).1 (by rw [quiescing]; decide)) fun updated => ?_
  refine keeps_bind (writes_execute fun db => .unmirrored db pairId) fun _ => keeps_bind ?_ fun _ => keeps_pure _
  exact writes_reopened (fun db item => item.status.isOpen && db.ofDrivePair pairId item.trackedFileId) .failed
    (some "drive replacement confirmed; rebuild required") (fun completed => by cases completed) fun _ => rfl

theorem writes_queueRebuild (action : SyncAction) (files : List TrackedFile) : Keeps Writes (queueRebuild action files) := by
  induction files with
  | nil => exact keeps_pure _
  | cons file files ih =>
    exact keeps_bind (writes_enqueue file.id action none none fun _ => rfl) fun created =>
      keeps_bind ih fun _ => keeps_pure _

theorem writes_assignReplacementDrive (io : Io) (pairId : Nat) (role : DriveRole) (newPath : String) :
    Keeps Writes (assignReplacementDrive io pairId role newPath) := by
  intro w
  refine writes_guarded (Act.after_query _) fun pair read => writes_guarded (RootMarkers.ensure_still _ _) fun _ guarded => ?_
  have failed : pair.roleState role = .failed := by simpa using ensure_holds guarded
  have found := (query_getDrivePair read).1
  have marks := dbKept_ensureDriveRootMarker io newPath w
  rcases after_bind_cases (ensureDriveRootMarker io newPath) _ w with ⟨message,refused⟩ | ⟨_,t,marked,ends⟩
  · rw [after_of_error refused] at marks
    rw [Writes,marks]
  · rw [after_of_ok marked] at marks
    rw [ends]
    have there : t.db.drivePairs.find? pairId = some pair := by
      rw [marks]
      exact found
    have unchanged {u : World} (rest : Writes t u) : Writes w u := by
      unfold Writes at rest ⊢
      rwa [marks] at rest
    refine unchanged (related_bind (writes_setState (some newPath) .rebuilding none there (by rw [failed]; decide)) fun _ => ?_)
    exact keeps_bind (writes_query _) fun files => keeps_bind (writes_queueRebuild _ files) fun queued => keeps_pure _

/-! Files and folders. -/

theorem writes_setVirtualPath (links : LinkAnswers) (fileId : Nat) (virtualPath : String) :
    Keeps Writes (setVirtualPath links fileId virtualPath) := by
  refine keeps_bind (writes_query _) fun file => keeps_bind (writes_load _) fun _ => ?_
  refine keeps_bind (writes_query _) fun normalized => keeps_bind ?_ fun _ => ?_
  · exact writes_execute fun db => .file db fileId (fun file => { file with virtualPath := some normalized }) (fun _ => rfl)
      fun _ => ⟨rfl,rfl⟩
  · split
    · exact writes_query _
    · exact keeps_pure _

theorem writes_setFolderVirtualPath (links : LinkAnswers) (folderId : Nat) (virtualPath : String) :
    Keeps Writes (setFolderVirtualPath links folderId virtualPath) := by
  refine keeps_bind (writes_query _) fun folder => keeps_bind (writes_load _) fun _ => ?_
  refine keeps_bind (writes_query _) fun normalized => ?_
  refine keeps_bind (writes_elsewhere (fun _ => rfl) (fun _ => rfl) fun _ => rfl) fun _ => ?_
  split
  · exact writes_query _
  · exact keeps_pure _

theorem writes_publish (links : LinkAnswers) (fileId : Nat) (virtualPath : Option String) :
    Keeps Writes (publish links fileId virtualPath) := by
  cases virtualPath with
  | none => exact keeps_pure _
  | some path => exact writes_setVirtualPath links fileId path

theorem writes_publishFolder (links : LinkAnswers) (folderId : Nat) (virtualPath : Option String) :
    Keeps Writes (publishFolder links folderId virtualPath) := by
  cases virtualPath with
  | none => exact keeps_pure _
  | some path => exact writes_setFolderVirtualPath links folderId path

theorem writes_queueMismatch (file : TrackedFile) (mismatch : Option SidecarMismatch) :
    Keeps Writes (queueMismatch file mismatch) := by
  cases mismatch with
  | none => exact keeps_pure _
  | some mismatch => exact writes_discard (writes_enqueue _ _ _ _ fun _ => rfl)

theorem writes_ensureWorldReadable (io : Io) (path : Location) : Keeps Writes (ensureWorldReadable io path) :=
  keeps_bind (writes_look _) fun _ => keeps_bind (writes_ensure _ _) fun _ => writes_ensure _ _

theorem writes_metadataLen (path : Location) : Keeps Writes (metadataLen path) :=
  keeps_bind (writes_look _) fun _ => keeps_bind (writes_ensure _ _) fun _ => writes_look _

theorem writes_readB3Sidecar (io : Io) (path : Location) : Keeps Writes (Sidecar.readB3Sidecar io path) := by
  refine keeps_bind (writes_query _) fun sidecarPath => keeps_bind (writes_look _) fun there => ?_
  split
  · exact keeps_pure _
  · refine keeps_bind (writes_look _) fun size => keeps_bind (writes_ensure _ _) fun _ => ?_
    refine keeps_bind (writes_mapErr _ (writes_still (Sidecar.readToString_after io _))) fun content => ?_
    split
    · exact writes_bail _
    · exact keeps_bind (writes_query _) fun _ => keeps_pure _

theorem writes_queueNewTracking (pair : DrivePair) (tracked : TrackedFile) : Keeps Writes (queueNewTracking pair tracked) := by
  refine keeps_bind (writes_look _) fun accepts => ?_
  split
  · refine keeps_bind (writes_query _) fun pending => ?_
    split
    · exact writes_discard (writes_enqueue _ _ _ _ fun _ => rfl)
    · exact keeps_pure _
  · exact keeps_pure _

theorem writes_recordChange (pair : DrivePair) (fileId : Nat) (path : Location) (newHash : String) :
    Keeps Writes (recordChange pair fileId path newHash) := by
  refine keeps_bind (writes_metadataLen path) fun size => keeps_bind ?_ fun _ => ?_
  · exact writes_execute fun db => .file db fileId (fun file => { file with checksum := newHash,fileSize := size })
      (fun _ => rfl) fun _ => ⟨rfl,rfl⟩
  · refine keeps_bind (writes_flag fileId false) fun _ => keeps_bind (writes_look _) fun accepts => ?_
    split
    · exact writes_discard (writes_enqueue _ _ _ _ fun _ => rfl)
    · exact keeps_pure _

theorem writes_trackExistingFile (io : Io) (links : LinkAnswers) (pair : DrivePair) (existing : TrackedFile)
    (relativePath : String) (virtualPath : Option String) :
    Keeps Writes (trackExistingFile io links pair existing relativePath virtualPath) := by
  refine keeps_bind (writes_ensureWorldReadable _ _) fun _ => keeps_bind ?_ fun _ => ?_
  · exact writes_execute fun db => .file db existing.id
      (fun file => { file with trackedDirect := true,trackedViaFolder := false }) (fun _ => rfl) fun _ => ⟨rfl,rfl⟩
  · exact keeps_bind (writes_publish links existing.id virtualPath) fun _ => writes_query _

theorem writes_marker (io : Io) (path : String) : Keeps Writes (ensureDriveRootMarker io path) :=
  writes_dbKept (dbKept_ensureDriveRootMarker io path)

theorem writes_trackFolderWithOptions (io : Io) (links : LinkAnswers) (isDir : Bool) (pair : DrivePair)
    (folderPath : String) (virtualPath : Option String) (sidecars : Bool) :
    Keeps Writes (trackFolderWithOptions io links isDir pair folderPath virtualPath sidecars) := by
  refine keeps_bind (writes_query _) fun _ => keeps_bind (writes_marker io _) fun _ => ?_
  refine keeps_bind (writes_ensure _ _) fun _ => keeps_bind (writes_insertOrFail fun db => ?_) fun tracked => ?_
  · unfold Db.createTrackedFolderWithSidecars
    split
    · exact .elsewhere db _ rfl rfl rfl
    · split <;> exact .elsewhere db _ rfl rfl rfl
  · refine keeps_bind (writes_orUndo (fun db => .elsewhere db _ rfl rfl rfl) ?_) fun _ => ?_
    · exact writes_publishFolder links tracked.id virtualPath
    · exact keeps_bind (writes_recompute pair.id) fun _ => writes_query _

theorem writes_addFolderRoute (io : Io) (links : LinkAnswers) (resolve : String → Except String String) (isDir : Bool)
    (pairId : Nat) (virtualPath : Option String) (sidecars : Bool) :
    Keeps Writes (addFolderRoute io links resolve isDir pairId virtualPath sidecars) :=
  keeps_bind (writes_load pairId) fun pair => keeps_bind (writes_query _) fun folderPath =>
    writes_discard (writes_trackFolderWithOptions io links isDir pair folderPath virtualPath sidecars)

theorem writes_startMirrorFolder (folderId : Nat) : Keeps Writes (startMirrorFolder folderId) := by
  refine keeps_bind (writes_query _) fun folder => keeps_bind (writes_load _) fun pair => ?_
  refine keeps_bind (writes_look _) fun _ => keeps_bind (writes_ensure _ _) fun _ => ?_
  refine keeps_bind (writes_query _) fun files => keeps_bind (writes_insertOrFail fun db => ?_) fun _ => keeps_pure _
  obtain ⟨pairs,same⟩ := db.startFolderMirror_frame folder.id (files.filter fun file => !file.isMirrored).length
  refine .elsewhere db _ pairs same ?_
  unfold Db.startFolderMirror
  split <;> rfl

section
variable [Blake3]

theorem writes_createTrackedFileFromDisk (io : Io) (pair : DrivePair) (relativePath : String) (direct viaFolder : Bool) :
    Keeps Writes (createTrackedFileFromDisk io pair relativePath direct viaFolder) := by
  refine keeps_bind (writes_look _) fun _ => keeps_bind (writes_ensure _ _) fun _ => ?_
  refine keeps_bind (writes_ensureWorldReadable _ _) fun _ => ?_
  refine keeps_bind (writes_mapErr _ (writes_still fun w => checksumFile_after io w _ _)) fun _ => ?_
  refine keeps_bind (keeps_attempt (writes_readB3Sidecar _ _)) fun _ => keeps_bind (writes_metadataLen _) fun _ => ?_
  exact keeps_bind (writes_insertOrFail fun db => .created db _ _ _ _ _ _ _) fun _ => keeps_pure _

theorem writes_trackNewFile (io : Io) (links : LinkAnswers) (pair : DrivePair) (relativePath : String)
    (virtualPath : Option String) : Keeps Writes (trackNewFile io links pair relativePath virtualPath) := by
  refine keeps_bind (writes_createTrackedFileFromDisk io pair relativePath true false) fun tracked => ?_
  refine keeps_bind (writes_orUndo (fun db => .untracked db _) (writes_publish links _ virtualPath)) fun _ => ?_
  exact keeps_bind (writes_orUndo (fun db => .untracked db _) (writes_queueMismatch tracked.1 tracked.2)) fun _ =>
    writes_query _

theorem writes_trackFile (io : Io) (links : LinkAnswers) (pair : DrivePair) (relativePath : String)
    (virtualPath : Option String) : Keeps Writes (trackFile io links pair relativePath virtualPath) := by
  refine keeps_bind (writes_query _) fun _ => keeps_bind (writes_marker io _) fun _ => ?_
  refine keeps_bind (writes_look _) fun available => writes_optionally (keeps_attempt (writes_marker io _)) ?_
  refine keeps_bind (keeps_attempt (writes_query _)) fun existing => ?_
  cases existing with
  | ok existing => exact writes_trackExistingFile io links pair existing relativePath virtualPath
  | error _ => exact writes_trackNewFile io links pair relativePath virtualPath

theorem writes_trackFileRoute (io : Io) (links : LinkAnswers) (resolve : String → Except String String) (pairId : Nat)
    (virtualPath : Option String) : Keeps Writes (trackFileRoute io links resolve pairId virtualPath) := by
  refine keeps_bind (writes_load pairId) fun pair => keeps_bind (writes_query _) fun relativePath => ?_
  refine keeps_bind (keeps_attempt (writes_query _)) fun existing => ?_
  refine keeps_bind (writes_trackFile io links pair relativePath virtualPath) fun tracked => ?_
  cases existing with
  | ok _ => exact keeps_pure _
  | error _ => exact writes_queueNewTracking pair tracked

theorem writes_autoTrackFile (io : Io) (pair : DrivePair) (relativePath : String) :
    Keeps Writes (autoTrackFile io pair relativePath) := by
  refine keeps_bind (writes_createTrackedFileFromDisk io pair relativePath false true) fun tracked => ?_
  refine keeps_bind ?_ fun _ => keeps_pure _
  cases tracked.2 with
  | some mismatch => exact writes_queueMismatch tracked.1 (some mismatch)
  | none =>
    refine keeps_bind (writes_look _) fun accepts => ?_
    split
    · refine writes_discard (keeps_bind (writes_enqueue tracked.1.id .adoptMirror none none fun _ => rfl) fun _ => ?_)
      exact keeps_bind (writes_ensure _ _) fun _ => keeps_pure _
    · exact writes_flag tracked.1.id false

theorem writes_scanFile (io : Io) (pair : DrivePair) (relativePath : String) : Keeps Writes (scanFile io pair relativePath) := by
  refine keeps_bind (keeps_attempt (writes_query _)) fun existing => ?_
  cases existing with
  | error _ => exact writes_discard (writes_autoTrackFile io pair relativePath)
  | ok existing =>
    refine keeps_bind (writes_still fun w => checksumFile_after io w _ _) fun currentHash => ?_
    split
    · exact writes_recordChange pair _ _ _
    · exact keeps_pure _

theorem writes_scanFiles (io : Io) (pair : DrivePair) (folder : TrackedFolder) (scanned : Nat) (paths : List String) :
    Keeps Writes (scanFiles io pair folder scanned paths) := by
  induction paths generalizing scanned with
  | nil => exact keeps_pure _
  | cons path paths ih =>
    unfold scanFiles
    split
    · exact ih scanned
    · refine keeps_bind (writes_scanFile io pair path) fun _ => ?_
      exact keeps_bind (writes_elsewhere (fun _ => rfl) (fun _ => rfl) fun _ => rfl) fun _ => ih (scanned + 1)

theorem writes_scanTrackedFolder (io : Io) (walk : Walk) (pair : DrivePair) (folder : TrackedFolder) :
    Keeps Writes (scanTrackedFolder io walk pair folder) :=
  keeps_bind (writes_query _) fun _ => keeps_bind (writes_scanFiles io pair folder 0 _) fun _ =>
    keeps_bind (writes_finish walk) fun _ => writes_recompute pair.id

theorem writes_scanFolderRoute (io : Io) (counted walk : Walk) (folderId : Nat) :
    Keeps Writes (scanFolderRoute io counted walk folderId) := by
  refine keeps_bind (writes_query _) fun folder => keeps_bind (writes_load _) fun _ => ?_
  refine keeps_bind (keeps_bind (writes_finish counted) fun _ => keeps_pure _) fun total => ?_
  refine keeps_bind (writes_insertOrFail fun db => ?_) fun _ => keeps_bind (keeps_attempt ?_) fun _ => ?_
  · unfold Db.startFolderScan
    split <;> exact .elsewhere db _ rfl rfl rfl
  · exact keeps_bind (writes_query _) fun folder => keeps_bind (writes_load _) fun pair =>
      writes_scanTrackedFolder io walk pair folder
  · exact writes_elsewhere (fun _ => rfl) (fun _ => rfl) fun _ => rfl

theorem writes_autoTrackFiles (io : Io) (pair : DrivePair) (folder : TrackedFolder) (paths : List String) :
    Keeps Writes (autoTrackFiles io pair folder paths) := by
  induction paths with
  | nil => exact keeps_pure _
  | cons path paths ih =>
    unfold autoTrackFiles
    split
    · exact ih
    · refine keeps_bind (keeps_bind (keeps_attempt (writes_query _)) fun existing => ?_) fun _ => ih
      cases existing with
      | ok _ => exact keeps_pure _
      | error _ => exact writes_discard (writes_autoTrackFile io pair path)

theorem writes_autoTrackFolderFiles (io : Io) (walk : Walk) (pair : DrivePair) (folder : TrackedFolder) :
    Keeps Writes (autoTrackFolderFiles io walk pair folder) :=
  keeps_bind (writes_query _) fun _ => keeps_bind (writes_autoTrackFiles io pair folder walk.files) fun _ =>
    keeps_bind (writes_finish walk) fun _ => writes_recompute pair.id

omit [Blake3] in
theorem writes_recordChanges (pair : DrivePair) (changes : List (TrackedFile × String)) :
    Keeps Writes (recordChanges pair changes) := by
  induction changes with
  | nil => exact keeps_pure _
  | cons change changes ih => exact keeps_bind (writes_recordChange pair _ _ _) fun _ => ih

theorem writes_scanAndRecordChanges (io : Io) (pair : DrivePair) : Keeps Writes (scanAndRecordChanges io pair) := by
  refine keeps_bind (keeps_bind (writes_query _) fun files => ?_) fun changes => writes_recordChanges pair changes
  induction files with
  | nil => exact keeps_pure _
  | cons file files ih =>
    exact keeps_bind (writes_still (PairFrame.detectChange_still io _ _)) fun _ => keeps_bind ih fun _ => keeps_pure _

theorem writes_scanFolderCommand (io : Io) (walk : Walk) (folderId : Nat) :
    Keeps Writes (scanFolderCommand io walk folderId) :=
  keeps_bind (writes_query _) fun folder => keeps_bind (writes_load _) fun pair =>
    keeps_bind (writes_autoTrackFolderFiles io walk pair folder) fun _ => writes_scanAndRecordChanges io pair

/-! Copies outside of the queue. -/

theorem writes_mirrorFile (io : Io) (pair : DrivePair) (relativePath : String) :
    Keeps Writes (mirrorFile io pair relativePath) := writes_dbKept (dbKept_mirrorFile io pair relativePath)

theorem writes_mirrorFileRoute (io : Io) (id : Nat) : Keeps Writes (mirrorFileRoute io id) := by
  refine keeps_bind (writes_query _) fun file => keeps_bind (writes_load _) fun pair => ?_
  refine keeps_bind (writes_mirrorFile io pair _) fun _ => keeps_bind (writes_flag id true) fun _ => ?_
  exact writes_mirrored id

theorem writes_mirrorFolderFile (io : Io) (pair : DrivePair) (file : TrackedFile) :
    Keeps Writes (mirrorFolderFile io pair file) := by
  refine keeps_bind (writes_reopened (fun _ item => item.trackedFileId == file.id && item.action.isMirroring &&
    item.status == .pending) .inProgress none (fun completed => by cases completed) fun _ => rfl) fun _ => ?_
  refine keeps_bind (keeps_attempt (writes_mirrorFile io pair _)) fun copied => ?_
  cases copied with
  | ok _ => exact keeps_bind (writes_flag file.id true) fun _ => writes_mirrored file.id
  | error message =>
    have failed : Keeps Writes (Act.execute (fun db => db.failPendingMirrorQueueForFile file.id message)) :=
      writes_reopened (fun _ item => item.trackedFileId == file.id && item.action.isMirroring && item.status.isOpen)
        .failed (some message) (fun completed => by cases completed) fun _ => rfl
    exact failed

theorem writes_recovery (io : Io) (pair : DrivePair) (file : TrackedFile) (result : IntegrityCheckResult) :
    Keeps Writes (attemptRecoveryWithReconciliation io pair file result) := by
  refine keeps_bind (writes_dbKept fun w => ?_) fun recovered => ?_
  · exact (PairFrame.below_attemptRecovery io pair file result w).db
  · split
    · exact keeps_bind (writes_flag file.id true) fun _ => keeps_bind (writes_mirrored file.id) fun _ => keeps_pure _
    · exact keeps_pure _

/-! The resolution of an item, which is not a restore item. -/

omit [Blake3] in
/-- The row, if it is there, asks for no restore. -/
def PlainRow (id : Nat) (db : Db) : Prop := ∀ row, db.syncQueue.find? id = some row → rebuiltRole row.action = none

omit [Blake3] in
/-- Of steps that may complete the row. -/
def WritesGiven (id : Nat) (w t : World) : Prop := PlainRow id w.db → PlainRow id t.db ∧ Writes w t

omit [Blake3] in
instance (id : Nat) : IsPreorder World (WritesGiven id) where
  refl w plain := ⟨plain,refl_of Writes w⟩
  trans _ _ _ first second plain := by
    obtain ⟨still,writes⟩ := first plain
    obtain ⟨ends,more⟩ := second still
    exact ⟨ends,trans_of Writes writes more⟩

omit [Blake3] in
theorem given_dbKept {α : Type} {id : Nat} {x : Act α} (kept : Keeps DbKept x) : Keeps (WritesGiven id) x := by
  intro w plain
  rw [kept w]
  exact ⟨plain,writes_dbKept kept w⟩

omit [Blake3] in
theorem given_still {α : Type} {id : Nat} {x : Act α} (still : ∀ w, after x w = w) : Keeps (WritesGiven id) x := by
  intro w
  rw [still]
  exact refl_of (WritesGiven id) w

omit [Blake3] in
theorem given_execute {id : Nat} {update : Db → Db}
    (plain : ∀ db, PlainRow id db → PlainRow id (update db) ∧ Wrote db (update db)) :
    Keeps (WritesGiven id) (Act.execute update) := fun w before => (plain w.db before).imp_right writes_one

omit [Blake3] in
theorem given_complete (id : Nat) :
    Keeps (WritesGiven id) (Act.execute (fun db => db.updateSyncQueueStatus id .completed none)) := by
  refine given_execute fun db plain => ⟨fun row found => ?_,.status db _ _ _ fun _ row member own => ?_⟩
  · rw [Db.find?_updateSyncQueueStatus] at found
    obtain ⟨old,there,rfl⟩ := Option.map_eq_some_iff.mp found
    rw [if_pos rfl]
    exact plain old there
  · exact plain row (by rw [← beq_iff_eq.mp own]; exact Table.find?_of_mem _ member)

omit [Blake3] in
theorem given_load (id pairId : Nat) : Keeps (WritesGiven id) (loadOperationalPair pairId) := by
  intro w plain
  refine ⟨?_,writes_load pairId w⟩
  rcases VirtualAssignment.after_loadOperationalPair pairId w with still | ⟨pair,read,ends⟩
  · rw [still]
    exact plain
  · rw [ends]
    intro row found
    rw [find?_operational_queue] at found
    obtain ⟨old,there,rfl⟩ := Option.map_eq_some_iff.mp found
    unfold Db.operationalRow
    split <;> exact plain old there

omit [Blake3] in
theorem given_acceptCurrent (io : Io) (item : SyncQueueItem) (file : TrackedFile) (pair : DrivePair) :
    Keeps (WritesGiven item.id) (acceptCurrent io item file pair) := by
  unfold acceptCurrent
  split
  · exact given_still fun _ => rfl
  · refine keeps_bind (given_still (RootMarkers.ensure_still _ _)) fun _ => keeps_bind (given_dbKept (dbKept_store _)) fun _ => ?_
    refine keeps_bind (given_complete item.id) fun _ => keeps_bind (fun w plain => ⟨fun row found => ?_,?_⟩) fun _ => ?_
    · change ((w.db.createSyncQueueItemDedupWithCreated file.id .adoptMirror none none).2).syncQueue.find? item.id = _ at found
      unfold Db.createSyncQueueItemDedupWithCreated at found
      split at found
      · exact plain row found
      · rw [Db.createSyncQueueItem,Table.find?_insert] at found
        split at found
        · cases found
          rfl
        · exact plain row found
    · exact writes_enqueue file.id .adoptMirror none none (fun _ => rfl) w
    · exact given_still (Act.after_query _)

omit [Blake3] in
theorem given_untrack (item : SyncQueueItem) (file : TrackedFile) : Keeps (WritesGiven item.id) (untrack item file) := by
  refine keeps_bind (given_complete item.id) fun _ => keeps_bind (given_still (Act.after_query _)) fun _ => ?_
  refine keeps_bind (given_execute fun db plain => ⟨fun row found => ?_,.untracked db file.id⟩) fun _ => keeps_pure _
  rw [Db.deleteTrackedFile,Db.removeTrackedFile,Db.deleteSyncQueueOfFile,Table.find?_deleteWhere] at found
  exact plain row (Option.filter_eq_some_iff.mp found).1

theorem writes_resolveQueueItem (io : Io) (itemId : Nat) (resolution : String) (newFilePath : Option Location) :
    Keeps Writes (resolveQueueItem io itemId resolution newFilePath) := by
  intro w
  refine writes_guarded (Act.after_query _) fun item read => writes_guarded (RootMarkers.ensure_still _ _) fun _ asked => ?_
  have row := Db.getSyncQueueItem_ok.mp (Act.query_success read).1
  have own : item.id = itemId := Table.find?_key row
  have waits : item.action = .userActionRequired := by simpa using ensure_holds asked
  have plain : PlainRow item.id w.db := by
    intro other found
    rw [own,row] at found
    cases found
    rw [waits]
    rfl
  rw [← own]
  refine ((?_ : Keeps (WritesGiven item.id) _) w plain).2
  refine keeps_bind (given_still (RootMarkers.ensure_still _ _)) fun _ =>
    keeps_bind (given_still (Act.after_query _)) fun file => ?_
  refine keeps_bind (given_load item.id file.drivePairId) fun pair => ?_
  refine keeps_bind (given_still (RootMarkers.ensure_still _ _)) fun _ => ?_
  refine keeps_bind (given_still (RootMarkers.ensure_still _ _)) fun _ => ?_
  split
  · exact given_acceptCurrent io item file pair
  · split
    · exact given_untrack item file
    · refine keeps_bind (given_dbKept (dbKept_resolutionCopy io file pair resolution newFilePath)) fun _ => ?_
      refine keeps_bind (given_complete item.id) fun _ => keeps_bind ?_ fun _ => given_still (Act.after_query _)
      exact given_execute fun db plain => ⟨plain,.file db file.id (fun file => { file with isMirrored := true })
        (fun _ => rfl) fun _ => ⟨rfl,rfl⟩⟩

end

/-! Operations that work on the links too. -/

section
open VirtualPath VirtualRetarget VirtualAssignment

def LinkedWrites (s t : Linked) : Prop := Writes s.world t.world

instance : IsPreorder Linked LinkedWrites where
  refl s := refl_of Writes s.world
  trans _ _ _ first second := trans_of Writes first second

theorem writes_inWorld {α : Type} {x : Act α} (inner : Keeps Writes x) : Keeps LinkedWrites (inWorld x) := by
  intro s
  rw [LinkedWrites,(erases_inWorld x).after s]
  exact inner s.world

theorem writes_onLinks {α : Type} (x : LinkAct α) : Keeps LinkedWrites (onLinks x) := by
  intro s
  rw [LinkedWrites,after_onLinks]
  exact refl_of Writes s.world

theorem writes_removeVirtualPath (calls : LinkCalls) (fileId : Nat) : Keeps LinkedWrites (removeVirtualPath calls fileId) := by
  refine keeps_bind (writes_inWorld (writes_query _)) fun file => ?_
  split
  · exact writes_inWorld (writes_bail _)
  · refine keeps_bind (writes_inWorld (writes_query _)) fun normalized => keeps_bind ?_ fun _ => writes_onLinks _
    exact writes_inWorld (writes_execute fun db => .file db fileId (fun file => { file with virtualPath := none })
      (fun _ => rfl) fun _ => ⟨rfl,rfl⟩)

theorem writes_untrackFile (calls : LinkCalls) (file : TrackedFile) : Keeps LinkedWrites (untrackFile calls file) := by
  unfold untrackFile
  split
  · exact keeps_bind (writes_removeVirtualPath calls file.id) fun _ => writes_inWorld (writes_untracked file.id)
  · exact writes_inWorld (writes_untracked file.id)

theorem writes_deleteFile (calls : LinkCalls) (id : Nat) : Keeps LinkedWrites (deleteFile calls id) := by
  refine keeps_bind (writes_inWorld (writes_query _)) fun file => keeps_bind (writes_inWorld (writes_query _)) fun active => ?_
  exact keeps_bind (writes_inWorld (writes_ensure _ _)) fun _ => writes_untrackFile calls file

theorem writes_untrackCommand (calls : LinkCalls) (id : Nat) : Keeps LinkedWrites (untrackCommand calls id) :=
  keeps_bind (writes_inWorld (writes_query _)) fun file => writes_untrackFile calls file

theorem writes_removeSymlinks (calls : LinkCalls) (paths : List String) :
    Keeps LinkedWrites (FolderProvenance.removeSymlinks calls paths) := by
  induction paths with
  | nil => exact keeps_pure _
  | cons path paths ih => exact keeps_bind (keeps_attempt (writes_onLinks _)) fun _ => ih

theorem writes_cascade (folderId : Nat) (fileIds : List Nat) :
    Keeps Writes (Act.execute (fun db => db.deleteFolderCascadeTx folderId fileIds)) := by
  intro w
  have deleted (db : Db) : Relation.ReflTransGen Wrote db (fileIds.foldl Db.deleteTrackedFile db) := by
    induction fileIds generalizing db with
    | nil => exact .refl
    | cons id fileIds ih => exact .head (.untracked db id) (ih (db.deleteTrackedFile id))
  exact (deleted w.db).tail (.elsewhere _ _ rfl rfl rfl)

theorem writes_untrackFolderCascade (calls : LinkCalls) (folderId : Nat) :
    Keeps LinkedWrites (FolderProvenance.untrackFolderCascade calls folderId) := by
  refine keeps_bind (writes_inWorld (writes_query _)) fun folder => keeps_bind (writes_inWorld (writes_query _)) fun pair => ?_
  refine keeps_bind (writes_inWorld (writes_query _)) fun _ => keeps_bind (writes_inWorld (writes_query _)) fun descendants => ?_
  refine keeps_bind (writes_inWorld (writes_cascade folder.id _)) fun _ => keeps_bind (writes_removeSymlinks calls _) fun _ => ?_
  exact keeps_bind (writes_inWorld (writes_recompute folder.drivePairId)) fun _ => keeps_pure _

end

end BitProtector.TableWrites
