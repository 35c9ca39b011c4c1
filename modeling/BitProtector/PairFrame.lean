import BitProtector.SpuriousFailover
import BitProtector.VirtualAssignment
import BitProtector.FolderProvenance

/-! What an operation with one pair leaves of another: no file below the other roots is written,
and no row of the other pair changes. -/
namespace BitProtector.PairFrame
open Effect RootMarkers

def roots (pair : DrivePair) : List String := [pair.primaryPath,pair.secondaryPath]

theorem pathForRole_mem (pair : DrivePair) (role : DriveRole) : pair.pathForRole role ∈ roots pair := by
  cases role
  · exact List.mem_cons_self
  · exact List.mem_cons_of_mem _ List.mem_cons_self

/-! Files. -/

def IsMarker (pair : DrivePair) (path : Location) : Prop := ∃ role, path = driveRootMarkerPath (pair.pathForRole role)

/-- What an operation with a file of the pair may write: the root markers and the two copies. -/
def Touches (pair : DrivePair) (relativePath : String) (path : Location) : Prop :=
  IsMarker pair path ∨ ∃ role, path = pair.copyOn role relativePath

/-- Where `accept_current` writes. -/
def IsSidecar (pair : DrivePair) (file : TrackedFile) (path : Location) : Prop :=
  ∃ name, fileName file.relativePath = some name ∧ path = acceptedSidecar pair file.relativePath name

theorem touches_marker (pair : DrivePair) (role : DriveRole) (relativePath : String) :
    Touches pair relativePath (driveRootMarkerPath (pair.pathForRole role)) := .inl ⟨role,rfl⟩

theorem touches_copy (pair : DrivePair) (role : DriveRole) (relativePath : String) :
    Touches pair relativePath (pair.copyOn role relativePath) := .inr ⟨role,rfl⟩

theorem Touches.root_mem {pair : DrivePair} {relativePath : String} {path : Location}
    (touches : Touches pair relativePath path) : path.root ∈ roots pair := by
  rcases touches with ⟨role,rfl⟩ | ⟨role,rfl⟩
  · exact pathForRole_mem pair role
  · exact pathForRole_mem pair role

/-- No row changes, and no file but those of a set. -/
structure Below (places : Location → Prop) (w t : World) : Prop where
  db : t.db = w.db
  nodes : ∀ path, ¬places path → t.disk.node path = w.disk.node path

instance (places : Location → Prop) : IsPreorder World (Below places) where
  refl _ := ⟨rfl,fun _ _ => rfl⟩
  trans _ _ _ first second := ⟨second.db.trans first.db,fun path apart =>
    (second.nodes path apart).trans (first.nodes path apart)⟩

theorem below_still {α : Type} {places : Location → Prop} {x : Act α} (still : ∀ w, after x w = w) :
    Keeps (Below places) x := by
  intro w
  rw [still]
  exact refl_of (Below places) w

theorem below_look {α : Type} (places : Location → Prop) (view : Disk → α) : Keeps (Below places) (Act.look view) :=
  below_still fun _ => rfl

theorem below_ensure (places : Location → Prop) (condition : Bool) (message : String) :
    Keeps (Below places) (Act.ensure condition message) := below_still (ensure_still condition message)

theorem below_mapErr {α : Type} {places : Location → Prop} {x : Act α} (text : String → String)
    (inner : Keeps (Below places) x) : Keeps (Below places) (Act.mapErr text x) := by
  intro w
  rw [Act.after_mapErr]
  exact inner w

theorem below_of_writesOnly {α : Type} {places : Location → Prop} {path : Location} {x : Act α}
    (member : places path) (writes : Keeps (WritesOnly path) x) : Keeps (Below places) x := by
  intro w
  refine ⟨(writes w).db,fun other apart => (writes w).others other ?_⟩
  rintro rfl
  exact apart member

theorem below_ensureDriveRootMarker {places : Location → Prop} {root : String} (member : places (driveRootMarkerPath root))
    (io : Io) :
    Keeps (Below places) (ensureDriveRootMarker io root) := by
  refine keeps_bind (below_look _ _) fun _ => keeps_bind (below_ensure _ _ _) fun _ => ?_
  refine keeps_bind (below_look _ _) fun _ => ?_
  split
  · refine keeps_bind (below_ensure _ _ _) fun _ => ?_
    exact below_of_writesOnly member fun w => writesOnly_write (driveRootMarkerPath root) driveRootMarkerBytes w
  · exact keeps_pure _

theorem below_createParentDirs (places : Location → Prop) (io : Io) (path : Location) :
    Keeps (Below places) (createParentDirs io path) := by
  refine keeps_bind (below_ensure _ _ _) fun _ => ?_
  cases io.createsRoot path.root with
  | false => exact keeps_pure _
  | true => exact fun w => ⟨rfl,fun _ _ => rfl⟩

theorem below_prepareMirror (io : Io) (pair : DrivePair) (relativePath : String) :
    Keeps (Below (Touches pair relativePath)) (prepareMirror io pair relativePath) := by
  refine keeps_bind (below_look _ _) fun _ => keeps_bind (below_ensure _ _ _) fun _ => ?_
  refine keeps_bind (below_ensureDriveRootMarker (touches_marker pair _ relativePath) _) fun _ => ?_
  refine keeps_bind (below_ensureDriveRootMarker (touches_marker pair _ relativePath) _) fun _ => ?_
  refine keeps_bind (below_look _ _) fun _ => keeps_bind (below_ensure _ _ _) fun _ => ?_
  exact below_mapErr _ (below_createParentDirs _ _ _)

theorem below_prepareRestore (io : Io) (pair : DrivePair) (target : DriveRole) (relativePath : String) :
    Keeps (Below (Touches pair relativePath)) (prepareRestore io pair target relativePath) := by
  refine keeps_bind (below_ensure _ _ _) fun _ => keeps_bind (below_look _ _) fun _ => ?_
  refine keeps_bind (below_ensure _ _ _) fun _ => keeps_bind (below_createParentDirs _ _ _) fun _ => ?_
  exact below_ensureDriveRootMarker (touches_marker pair target relativePath) _

section
variable [Blake3]

theorem below_copyWithChecksum {places : Location → Prop} {dst : Location} (member : places dst) (io : Io)
    (src : Location) : Keeps (Below places) (copyWithChecksum io src dst) :=
  below_of_writesOnly member (writesOnly_copyWithChecksum io src dst)

theorem below_copyAndVerifyChecksum {places : Location → Prop} {dst : Location} (member : places dst) (io : Io)
    (src : Location) (expected : String) : Keeps (Below places) (copyAndVerifyChecksum io src dst expected) := by
  refine keeps_bind (below_still (openFile_still io src)) fun _ => ?_
  refine keeps_bind (below_of_writesOnly member (writesOnly_createFile io dst)) fun _ => ?_
  refine keeps_bind (below_look _ _) fun size => ?_
  refine keeps_bind (below_of_writesOnly member (writesOnly_copyLoop _ _ _ _ _ _ _)) fun hashed => ?_
  refine keeps_bind (below_ensure _ _ _) fun _ => ?_
  have bails : ∀ message, Keeps (Below places) (Act.bail message : Act PUnit) := fun _ => below_still fun _ => rfl
  dsimp only
  by_cases differs : checksumBytes hashed.1 ≠ expected
  · rw [if_pos differs]
    split
    · refine keeps_bind (fun w => ⟨rfl,fun path apart => Disk.remove_other _ ?_⟩) fun _ => ?_
      · rintro rfl
        exact apart member
      · exact keeps_bind (bails _) fun _ => below_ensure _ _ _
    · exact keeps_bind (bails _) fun _ => below_ensure _ _ _
  · rw [if_neg differs]
    exact below_ensure _ _ _

theorem below_mirrorFile (io : Io) (pair : DrivePair) (relativePath : String) :
    Keeps (Below (Touches pair relativePath)) (mirrorFile io pair relativePath) := by
  refine keeps_bind (below_prepareMirror _ _ _) fun _ => ?_
  refine keeps_bind (below_mapErr _ (below_copyWithChecksum (touches_copy pair _ _) _ _)) fun copied => ?_
  exact keeps_bind (below_ensure _ _ _) fun _ => keeps_pure _

theorem below_restoreSide (io : Io) (pair : DrivePair) (target : DriveRole) (relativePath expected : String) :
    Keeps (Below (Touches pair relativePath)) (restoreSide io pair target relativePath expected) := by
  refine keeps_bind (below_prepareRestore _ _ _ _) fun _ => ?_
  exact below_mapErr _ (below_copyAndVerifyChecksum (touches_copy pair target _) _ _ _)

omit [Blake3] in
theorem below_discard {α : Type} {places : Location → Prop} {x : Act α} (inner : Keeps (Below places) x) :
    Keeps (Below places) (do let _ ← x; pure PUnit.unit) :=
  keeps_bind inner fun _ => keeps_pure _

theorem below_adoptMirror (io : Io) (pair : DrivePair) (file : TrackedFile) :
    Keeps (Below (Touches pair file.relativePath)) (adoptMirror io pair file) := by
  refine keeps_bind (below_look _ _) fun present => ?_
  split
  · refine keeps_bind (below_mapErr _ (below_still fun w => checksumFile_after io w _ _)) fun digest => ?_
    split
    · exact below_discard (below_mirrorFile _ _ _)
    · exact keeps_pure _
  · exact below_discard (below_mirrorFile _ _ _)

theorem below_runAction (io : Io) (action : SyncAction) (pair : DrivePair) (file : TrackedFile) :
    Keeps (Below (Touches pair file.relativePath)) (runAction io action pair file) := by
  cases action with
  | mirror => exact keeps_attempt (below_discard (below_mirrorFile _ _ _))
  | adoptMirror => exact keeps_bind (below_adoptMirror _ _ _) fun _ => keeps_pure _
  | restoreMaster => exact keeps_attempt (below_restoreSide _ _ _ _ _)
  | restoreMirror => exact keeps_attempt (below_restoreSide _ _ _ _ _)
  | verify =>
    refine keeps_bind (below_still fun w => checkFileIntegrity_after io w _ _ _ _) fun result => ?_
    split
    · exact keeps_pure _
    · exact below_still fun _ => rfl
  | userActionRequired => exact below_still fun _ => rfl
  | other text => exact below_still fun _ => rfl

omit [Blake3] in
theorem below_provideNew (io : Io) (file : TrackedFile) (pair : DrivePair) (newFilePath : Option Location) :
    Keeps (Below (Touches pair file.relativePath)) (provideNew io file pair newFilePath) := by
  cases newFilePath with
  | none => exact below_still fun _ => rfl
  | some src =>
    refine keeps_bind (below_look _ _) fun _ => keeps_bind (below_ensure _ _ _) fun _ => ?_
    refine keeps_bind (below_ensure _ _ _) fun _ => ?_
    refine keeps_bind (below_createParentDirs _ _ _) fun _ => ?_
    refine keeps_bind (below_createParentDirs _ _ _) fun _ => ?_
    refine keeps_bind (below_of_writesOnly ?_ (writesOnly_fsCopy io src _)) fun _ => ?_
    · exact touches_copy pair .primary _
    · exact below_of_writesOnly (touches_copy pair .secondary _) (writesOnly_fsCopy io src _)

theorem below_resolutionCopy (io : Io) (file : TrackedFile) (pair : DrivePair) (resolution : String)
    (newFilePath : Option Location) :
    Keeps (Below (Touches pair file.relativePath)) (resolutionCopy io file pair resolution newFilePath) := by
  unfold resolutionCopy
  split
  · exact below_restoreSide _ _ _ _ _
  · exact below_restoreSide _ _ _ _ _
  · exact below_provideNew _ _ _ _
  · exact below_still fun _ => rfl

theorem below_attemptRecovery (io : Io) (pair : DrivePair) (file : TrackedFile) (result : IntegrityCheckResult) :
    Keeps (Below (Touches pair file.relativePath)) (attemptRecovery io pair file result) := by
  rw [attemptRecovery_eq]
  cases recoveredRole pair result.status with
  | none => exact keeps_pure _
  | some target => exact keeps_bind (below_restoreSide _ _ _ _ _) fun _ => keeps_pure _

end

/-! Rows. -/

/-- None of the files is of the pair. -/
def Foreign (pairId : Nat) (ids : List Nat) (db : Db) : Prop :=
  ∀ id ∈ ids, ∀ file, db.trackedFiles.find? id = some file → file.drivePairId ≠ pairId

/-- Files keep their pairs, and no id is used again. -/
structure PairsOfFilesKept (db next : Db) : Prop where
  lastId : db.trackedFiles.lastId ≤ next.trackedFiles.lastId
  rows : ∀ id file, next.trackedFiles.find? id = some file → id ≤ db.trackedFiles.lastId →
    ∃ old, db.trackedFiles.find? id = some old ∧ old.drivePairId = file.drivePairId

/-- Each file of the pair was there before, with its flag and checksum. -/
def RowsFrozen (pairId : Nat) (db next : Db) : Prop :=
  ∀ id file, next.trackedFiles.find? id = some file → file.drivePairId = pairId →
    ∃ old, db.trackedFiles.find? id = some old ∧ old.drivePairId = pairId ∧ file.isMirrored = old.isMirrored ∧
      file.checksum = old.checksum

theorem RowsFrozen.foreign {pairId : Nat} {ids : List Nat} {db next : Db} (frozen : RowsFrozen pairId db next)
    (foreign : Foreign pairId ids db) : Foreign pairId ids next := by
  intro id member file found own
  obtain ⟨old,there,same,_⟩ := frozen id file found own
  exact foreign id member old there same

/-- Of a change of the tables: no file moves, and those of the pair stay as they are. -/
structure FilesSpared (pairId : Nat) (ids : List Nat) (db next : Db) : Prop where
  kept : PairsOfFilesKept db next
  frozen : Foreign pairId ids db → RowsFrozen pairId db next

section
variable {pairId : Nat} {ids : List Nat} {db next third : Db}

theorem FilesSpared.trans (first : FilesSpared pairId ids db next) (second : FilesSpared pairId ids next third) :
    FilesSpared pairId ids db third := by
  constructor
  · refine ⟨first.kept.lastId.trans second.kept.lastId,fun id file found old => ?_⟩
    obtain ⟨middle,there,same⟩ := second.kept.rows id file found (old.trans first.kept.lastId)
    obtain ⟨row,before,kept⟩ := first.kept.rows id middle there old
    exact ⟨row,before,kept.trans same⟩
  · intro foreign id file found own
    obtain ⟨middle,there,mine,flag,checksum⟩ := second.frozen ((first.frozen foreign).foreign foreign) id file found own
    obtain ⟨row,before,owned,earlier,older⟩ := first.frozen foreign id middle there mine
    exact ⟨row,before,owned,flag.trans earlier,checksum.trans older⟩

theorem filesSpared_of_eq (same : next.trackedFiles = db.trackedFiles) : FilesSpared pairId ids db next := by
  constructor
  · refine ⟨by rw [same],fun id file found _ => ⟨file,?_,rfl⟩⟩
    rwa [same] at found
  · intro _ id file found own
    rw [same] at found
    exact ⟨file,found,own,rfl,rfl⟩

theorem filesSpared_updateWhere {p : TrackedFile → Bool} (change : TrackedFile → TrackedFile)
    (keepsKey : ∀ file, Keyed.key (change file) = Keyed.key file)
    (written : next.trackedFiles = db.trackedFiles.updateWhere p change keepsKey)
    (stays : ∀ file, (change file).drivePairId = file.drivePairId)
    (spares : ∀ file, p file = true → file.drivePairId = pairId → file.id ∈ ids ∨
      (change file).isMirrored = file.isMirrored ∧ (change file).checksum = file.checksum) :
    FilesSpared pairId ids db next := by
  have row {id : Nat} {file : TrackedFile} (found : next.trackedFiles.find? id = some file) :
      ∃ old, db.trackedFiles.find? id = some old ∧ (if p old then change old else old) = file := by
    rw [written,Table.find?_updateWhere] at found
    exact Option.map_eq_some_iff.mp found
  constructor
  · refine ⟨by rw [written]; exact Nat.le_refl _,fun id file found _ => ?_⟩
    obtain ⟨old,there,rfl⟩ := row found
    refine ⟨old,there,?_⟩
    split
    · exact (stays old).symm
    · rfl
  · intro foreign id file found own
    obtain ⟨old,there,rfl⟩ := row found
    have key : old.id = id := Table.find?_key there
    by_cases hit : p old = true
    · rw [if_pos hit] at own ⊢
      rw [stays] at own
      rcases spares old hit own with listed | same
      · exact absurd own (foreign id (key ▸ listed) old there)
      · exact ⟨old,there,own,same⟩
    · rw [if_neg hit] at own ⊢
      exact ⟨old,there,own,rfl,rfl⟩

theorem filesSpared_updateTrackedFile {id : Nat} {change : TrackedFile → TrackedFile}
    {keepsId : ∀ file, (change file).id = file.id} (listed : id ∈ ids)
    (stays : ∀ file, (change file).drivePairId = file.drivePairId) :
    FilesSpared pairId ids db (db.updateTrackedFile id change keepsId) := by
  refine filesSpared_updateWhere change keepsId rfl stays fun file hit _ => .inl ?_
  rw [beq_iff_eq.mp hit]
  exact listed

theorem filesSpared_insert (row : Nat → TrackedFile) (keyed : ∀ n, Keyed.key (row n) = n)
    (written : next.trackedFiles = db.trackedFiles.insert row keyed) (other : ∀ n, (row n).drivePairId ≠ pairId) :
    FilesSpared pairId ids db next := by
  constructor
  · refine ⟨by rw [written]; exact Nat.le_succ _,fun id file found old => ⟨file,?_,rfl⟩⟩
    rwa [written,Table.find?_insert,if_neg (Nat.ne_of_lt (Nat.lt_succ_of_le old))] at found
  · intro _ id file found own
    rw [written,Table.find?_insert] at found
    split at found
    · cases found
      exact absurd own (other _)
    · exact ⟨file,found,own,rfl,rfl⟩

theorem filesSpared_deleteWhere {p : TrackedFile → Bool} (written : next.trackedFiles = db.trackedFiles.deleteWhere p) :
    FilesSpared pairId ids db next := by
  have row {id : Nat} {file : TrackedFile} (found : next.trackedFiles.find? id = some file) :
      db.trackedFiles.find? id = some file := by
    rw [written,Table.find?_deleteWhere] at found
    exact (Option.filter_eq_some_iff.mp found).1
  constructor
  · exact ⟨by rw [written]; exact Nat.le_refl _,fun id file found _ => ⟨file,row found,rfl⟩⟩
  · exact fun _ id file found own => ⟨file,row found,own,rfl,rfl⟩

theorem filesSpared_markDrivePairUnmirrored {other : Nat} (apart : other ≠ pairId) :
    FilesSpared pairId ids db (db.markDrivePairUnmirrored other) := by
  refine filesSpared_updateWhere (fun file => { file with isMirrored := false }) (fun _ => rfl) rfl (fun _ => rfl)
    fun file hit own => ?_
  exact absurd ((beq_iff_eq.mp hit).symm.trans own) apart

theorem filesSpared_of_unmirrored {other : Nat} (apart : other ≠ pairId)
    (same : next.trackedFiles = (db.markDrivePairUnmirrored other).trackedFiles) : FilesSpared pairId ids db next :=
  (filesSpared_markDrivePairUnmirrored apart).trans (filesSpared_of_eq same)

theorem filesSpared_markAllMirrored {files : List TrackedFile} (listed : ∀ file ∈ files, file.id ∈ ids) :
    FilesSpared pairId ids db (markAllMirrored db files) := by
  induction files generalizing db with
  | nil => exact filesSpared_of_eq rfl
  | cons file files ih =>
    obtain ⟨first,later⟩ := List.forall_mem_cons.mp listed
    have one : FilesSpared pairId ids db (db.updateTrackedFileMirrorStatus file.id true) :=
      filesSpared_updateTrackedFile first fun _ => rfl
    exact one.trans (ih later)

theorem filesSpared_recompute (other : Nat) : FilesSpared pairId ids db (db.recomputeFolderProvenanceForDrive other) := by
  have cleared : FilesSpared pairId ids db (db.clearFolderProvenance other) :=
    filesSpared_updateWhere (fun file => { file with trackedViaFolder := false }) (fun _ => rfl) rfl (fun _ => rfl)
      fun _ _ _ => .inr ⟨rfl,rfl⟩
  have taken : FilesSpared pairId ids (db.clearFolderProvenance other)
      ((db.clearFolderProvenance other).setFolderProvenance other) :=
    filesSpared_updateWhere (fun file => { file with trackedViaFolder := true }) (fun _ => rfl) rfl (fun _ => rfl)
      fun _ _ _ => .inr ⟨rfl,rfl⟩
  refine (cleared.trans taken).trans ?_
  exact filesSpared_updateWhere (fun file => { file with trackedDirect := true }) (fun _ => rfl) rfl (fun _ => rfl)
    fun _ _ _ => .inr ⟨rfl,rfl⟩

theorem filesSpared_createTrackedFileWithSource {other : Nat} (apart : other ≠ pairId) (relativePath checksum : String)
    (fileSize : Nat) (virtualPath : Option String) (direct viaFolder : Bool) : FilesSpared pairId ids db
      (db.createTrackedFileWithSource other relativePath checksum fileSize virtualPath direct viaFolder).2 := by
  unfold Db.createTrackedFileWithSource
  split
  · exact filesSpared_of_eq rfl
  · exact filesSpared_insert (fun id => ⟨id,other,relativePath,checksum,fileSize,virtualPath,false,direct,viaFolder,none⟩)
      (fun _ => rfl) rfl fun _ => apart

theorem filesSpared_operational {disk : Disk} {pair : DrivePair} (apart : pair.id ≠ pairId) :
    FilesSpared pairId ids db (db.operational disk pair) := by
  unfold Db.operational
  split
  · exact filesSpared_of_unmirrored apart rfl
  · exact filesSpared_of_eq rfl

theorem filesSpared_rebuilt {pair : DrivePair} (apart : pair.id ≠ pairId) (role : DriveRole) :
    FilesSpared pairId ids db (db.rebuilt pair role) := filesSpared_of_unmirrored apart rfl

theorem filesSpared_of_foreign {more : List Nat} (spared : FilesSpared pairId more db next)
    (foreign : Foreign pairId more db) : FilesSpared pairId ids db next :=
  ⟨spared.kept,fun _ => spared.frozen foreign⟩

theorem filesSpared_finalized {pair : DrivePair} (apart : pair.id ≠ pairId) (action : SyncAction) :
    FilesSpared pairId ids db (db.finalized pair action) := by
  unfold Db.finalized
  cases rebuildFinishes db pair action with
  | none => exact filesSpared_of_eq rfl
  | some role =>
    dsimp only
    split
    · exact filesSpared_rebuilt apart role
    · refine (filesSpared_rebuilt apart role).trans (filesSpared_of_foreign (filesSpared_markAllMirrored
        fun file => List.mem_map_of_mem (f := TrackedFile.id)) fun id member file found own => ?_)
      obtain ⟨listed,there,rfl⟩ := List.mem_map.mp member
      obtain ⟨row,mine⟩ := Db.mem_listTrackedFilesOfPair.mp there
      obtain rfl : file = listed := Option.some.inj (found.symm.trans row)
      exact apart (mine.symm.trans own)

end

/-! Both. -/

/-- A side of the pair is quiescing. -/
def Quiescing (pairId : Nat) (db : Db) : Prop :=
  ∃ pair, db.drivePairs.find? pairId = some pair ∧ pair.isQuiescing = true

/-- The row of the pair, the files of a set, and the flags and checksums of the pair's files stay. -/
structure Frozen (pairId : Nat) (inside : Location → Prop) (w t : World) : Prop where
  row : t.db.drivePairs.find? pairId = w.db.drivePairs.find? pairId
  nodes : ∀ path, inside path → t.disk.node path = w.disk.node path
  files : RowsFrozen pairId w.db t.db

theorem Frozen.quiescing {pairId : Nat} {inside : Location → Prop} {w t : World} (frozen : Frozen pairId inside w t)
    (quiescing : Quiescing pairId w.db) : Quiescing pairId t.db := by
  obtain ⟨pair,row,state⟩ := quiescing
  exact ⟨pair,frozen.row.trans row,state⟩

theorem rowsFrozen_refl (pairId : Nat) (db : Db) : RowsFrozen pairId db db :=
  fun _ file found own => ⟨file,found,own,rfl,rfl⟩

theorem Frozen.trans {pairId : Nat} {inside : Location → Prop} {w u t : World} (first : Frozen pairId inside w u)
    (second : Frozen pairId inside u t) : Frozen pairId inside w t where
  row := second.row.trans first.row
  nodes path member := (second.nodes path member).trans (first.nodes path member)
  files id file found own := by
    obtain ⟨middle,there,mine,flag,checksum⟩ := second.files id file found own
    obtain ⟨old,before,owned,earlier,older⟩ := first.files id middle there mine
    exact ⟨old,before,owned,flag.trans earlier,checksum.trans older⟩

/-- No file moves from pair to pair, no pair becomes quiescing, and one that is stays as it is unless one of
the files is its own. -/
structure Spares (pairId : Nat) (inside : Location → Prop) (ids : List Nat) (w t : World) : Prop where
  kept : PairsOfFilesKept w.db t.db
  calm : ∀ id, Quiescing id t.db → Quiescing id w.db
  frozen : Quiescing pairId w.db → Foreign pairId ids w.db → Frozen pairId inside w t

theorem pairsOfFilesKept_trans {db next third : Db} (first : PairsOfFilesKept db next)
    (second : PairsOfFilesKept next third) : PairsOfFilesKept db third := by
  refine ⟨first.lastId.trans second.lastId,fun id file found old => ?_⟩
  obtain ⟨middle,there,same⟩ := second.rows id file found (old.trans first.lastId)
  obtain ⟨row,before,kept⟩ := first.rows id middle there old
  exact ⟨row,before,kept.trans same⟩

instance (pairId : Nat) (inside : Location → Prop) (ids : List Nat) : IsPreorder World (Spares pairId inside ids) where
  refl w := ⟨⟨Nat.le_refl _,fun _ file found _ => ⟨file,found,rfl⟩⟩,fun _ quiescing => quiescing,fun _ _ =>
    ⟨rfl,fun _ _ => rfl,rowsFrozen_refl _ _⟩⟩
  trans _ _ _ first second := by
    refine ⟨pairsOfFilesKept_trans first.kept second.kept,fun id quiescing => first.calm id (second.calm id quiescing),
      fun quiescing foreign => ?_⟩
    have before := first.frozen quiescing foreign
    exact before.trans (second.frozen (before.quiescing quiescing) (before.files.foreign foreign))

section
variable {pairId : Nat} {inside : Location → Prop} {ids : List Nat}

theorem spares_still {α : Type} {x : Act α} (still : ∀ w, after x w = w) :
    Keeps (Spares pairId inside ids) x := by
  intro w
  rw [still]
  exact refl_of (Spares pairId inside ids) w

theorem spares_query {α : Type} (read : Db → Except String α) : Keeps (Spares pairId inside ids) (Act.query read) :=
  spares_still (Act.after_query read)

theorem spares_look {α : Type} (view : Disk → α) : Keeps (Spares pairId inside ids) (Act.look view) :=
  spares_still fun _ => rfl

theorem spares_ensure (condition : Bool) (message : String) :
    Keeps (Spares pairId inside ids) (Act.ensure condition message) := spares_still (ensure_still condition message)

theorem spares_bail {α : Type} (message : String) : Keeps (Spares pairId inside ids) (Act.bail message : Act α) :=
  spares_still fun _ => rfl

theorem quiescing_of_row {id : Nat} {db next : Db} (row : next.drivePairs.find? id = db.drivePairs.find? id)
    (quiescing : Quiescing id next) : Quiescing id db := by
  obtain ⟨pair,found,state⟩ := quiescing
  exact ⟨pair,row.symm.trans found,state⟩

theorem spares_of_tables {w : World} {next : Db} (pairs : next.drivePairs = w.db.drivePairs)
    (files : FilesSpared pairId ids w.db next) : Spares pairId inside ids w { w with db := next } :=
  ⟨files.kept,fun _ => quiescing_of_row (by rw [pairs]),fun _ foreign => ⟨by rw [pairs],fun _ _ => rfl,files.frozen foreign⟩⟩

theorem spares_of_row {w : World} {next : Db} {other : Nat} (apart : other ≠ pairId)
    (pairs : ∀ id, id ≠ other → next.drivePairs.find? id = w.db.drivePairs.find? id)
    (calm : Quiescing other next → Quiescing other w.db) (files : FilesSpared pairId ids w.db next) :
    Spares pairId inside ids w { w with db := next } := by
  refine ⟨files.kept,fun id quiescing => ?_,fun _ foreign => ⟨pairs pairId (Ne.symm apart),fun _ _ => rfl,
    files.frozen foreign⟩⟩
  by_cases own : id = other
  · rw [own] at quiescing ⊢
    exact calm quiescing
  · exact quiescing_of_row (pairs id own) quiescing

theorem spares_execute {update : Db → Db} (pairs : ∀ db, (update db).drivePairs = db.drivePairs)
    (files : ∀ db, FilesSpared pairId ids db (update db)) : Keeps (Spares pairId inside ids) (Act.execute update) :=
  fun w => spares_of_tables (pairs w.db) (files w.db)

theorem spares_insert {α : Type} {update : Db → α × Db} (pairs : ∀ db, (update db).2.drivePairs = db.drivePairs)
    (files : ∀ db, FilesSpared pairId ids db (update db).2) : Keeps (Spares pairId inside ids) (Act.insert update) :=
  fun w => spares_of_tables (pairs w.db) (files w.db)

theorem spares_insertOrFail {α : Type} {update : Db → Except String α × Db}
    (pairs : ∀ db, (update db).2.drivePairs = db.drivePairs) (files : ∀ db, FilesSpared pairId ids db (update db).2) :
    Keeps (Spares pairId inside ids) (Act.insertOrFail update) := by
  intro w
  have spares : Spares pairId inside ids w { w with db := (update w.db).2 } :=
    spares_of_tables (pairs w.db) (files w.db)
  unfold after Act.insertOrFail
  cases (update w.db).1 <;> exact spares

theorem spares_mapErr {α : Type} {x : Act α} (text : String → String) (inner : Keeps (Spares pairId inside ids) x) :
    Keeps (Spares pairId inside ids) (Act.mapErr text x) := by
  intro w
  rw [Act.after_mapErr]
  exact inner w

theorem spares_discard {α : Type} {x : Act α} (inner : Keeps (Spares pairId inside ids) x) :
    Keeps (Spares pairId inside ids) (do let _ ← x; pure PUnit.unit) :=
  keeps_bind inner fun _ => keeps_pure _

theorem spares_below {α : Type} {places : Location → Prop} {x : Act α} (clear : ∀ path, places path → ¬inside path)
    (below : Keeps (Below places) x) : Keeps (Spares pairId inside ids) x := by
  intro w
  have files : FilesSpared pairId ids w.db (after x w).db := filesSpared_of_eq (by rw [(below w).db])
  refine ⟨files.kept,fun _ => quiescing_of_row (by rw [(below w).db]),fun _ foreign => ⟨by rw [(below w).db],
    fun path member => (below w).nodes path ?_,files.frozen foreign⟩⟩
  exact fun mine => clear path mine member

theorem spares_bind_found {α β : Type} (more : α → List Nat) {x : Act α} {f : α → Act β}
    (first : Keeps (Spares pairId inside ids) x)
    (found : ∀ w a t, x w = .ok a t → Foreign pairId (more a) t.db)
    (rest : ∀ a, Keeps (Spares pairId inside (more a)) (f a)) :
    Keeps (Spares pairId inside ids) (x >>= f) := by
  intro w
  have head := first w
  rcases after_bind_cases x f w with ⟨message,failed⟩ | ⟨a,t,ran,ends⟩
  · rwa [after_of_error failed] at head
  · rw [after_of_ok ran] at head
    rw [ends]
    have tail := rest a t
    refine ⟨pairsOfFilesKept_trans head.kept tail.kept,fun id quiescing => head.calm id (tail.calm id quiescing),
      fun quiescing foreign => ?_⟩
    have before := head.frozen quiescing foreign
    exact before.trans (tail.frozen (before.quiescing quiescing) (found w a t ran))

theorem not_due_of_quiescing {pair : DrivePair} (quiescing : pair.isQuiescing = true) (disk : Disk) :
    emergencyFailoverDue disk pair = false := by
  by_contra due
  simp only [emergencyFailoverDue,Bool.not_eq_false,Bool.and_eq_true,beq_iff_eq] at due
  obtain ⟨⟨⟨_,active⟩,standby⟩,_⟩ := due
  have steady : ∀ role, pair.roleState role = .active := by
    intro role
    rcases pair.activeRole.eq_or_opposite role with rfl | rfl
    · exact active
    · exact standby
  rw [DrivePair.isQuiescing,steady,steady] at quiescing
  cases quiescing

theorem quiescing_of_withRuntime {pair : DrivePair} {role : DriveRole} {state : DriveState} {activeRole : Option DriveRole}
    (steady : state ≠ .quiescing)
    (quiescing : (pair.withRuntime none none (forRole role .primary state) (forRole role .secondary state)
      activeRole).isQuiescing = true) : pair.isQuiescing = true := by
  simp only [DrivePair.isQuiescing,Bool.or_eq_true,beq_iff_eq] at quiescing ⊢
  cases role
  · rcases quiescing with changed | stayed
    · exact absurd changed steady
    · exact .inr stayed
  · rcases quiescing with stayed | changed
    · exact .inl stayed
    · exact absurd changed steady

theorem quiescing_of_finalized {db : Db} {pair : DrivePair} {action : SyncAction}
    (found : db.drivePairs.find? pair.id = some pair) (quiescing : Quiescing pair.id (db.finalized pair action)) :
    Quiescing pair.id db := by
  obtain ⟨row,there,state⟩ := quiescing
  rw [find?_finalized action found,Option.some.injEq] at there
  subst there
  cases finishes : rebuildFinishes db pair action with
  | none =>
    rw [finishes] at state
    exact ⟨pair,found,state⟩
  | some role =>
    rw [finishes] at state
    exact ⟨pair,found,quiescing_of_withRuntime (by decide) state⟩

theorem quiescing_of_operational {db : Db} {disk : Disk} {pair : DrivePair}
    (found : db.drivePairs.find? pair.id = some pair) (quiescing : Quiescing pair.id (db.operational disk pair)) :
    Quiescing pair.id db := by
  obtain ⟨row,there,state⟩ := quiescing
  rw [find?_operational (Db.getDrivePair_ok.mpr found) disk,Option.some.injEq] at there
  subst there
  unfold DrivePair.operational at state
  split at state
  · exact ⟨pair,found,quiescing_of_withRuntime (by decide) state⟩
  · exact ⟨pair,found,state⟩

theorem spares_load (id : Nat) : Keeps (Spares pairId inside ids) (loadOperationalPair id) := by
  intro w
  rcases VirtualAssignment.after_loadOperationalPair id w with still | ⟨pair,read,after⟩
  · rw [still]
    exact refl_of (Spares pairId inside ids) w
  · rw [after]
    have key : pair.id = id := Table.find?_key (Db.getDrivePair_ok.mp read)
    have row : w.db.drivePairs.find? pair.id = some pair := key.symm ▸ Db.getDrivePair_ok.mp read
    have spares : ∀ (other : Nat), pair.id ≠ other →
        Spares other inside ids w { w with db := w.db.operational w.disk pair } := fun other apart =>
      spares_of_row apart (fun id => find?_operational_other _ _ _) (quiescing_of_operational row)
        (filesSpared_operational apart)
    by_cases own : pair.id = pairId
    · have others := spares (pair.id + 1) (Nat.ne_of_lt (Nat.lt_succ_self _))
      refine ⟨others.kept,others.calm,fun quiescing _ => ?_⟩
      obtain ⟨there,found,state⟩ := quiescing
      obtain rfl : there = pair := Option.some.inj (found.symm.trans (own ▸ row))
      rw [Db.operational,not_due_of_quiescing state]
      exact ⟨rfl,fun _ _ => rfl,rowsFrozen_refl pairId w.db⟩
    · exact spares pairId own

/-! Statements that many operations share. -/

theorem spares_quiet {update : Db → Db} (pairs : ∀ db, (update db).drivePairs = db.drivePairs)
    (files : ∀ db, (update db).trackedFiles = db.trackedFiles) :
    Keeps (Spares pairId inside ids) (Act.execute update) :=
  spares_execute pairs fun db => filesSpared_of_eq (files db)

theorem spares_flag {id : Nat} (listed : id ∈ ids) (flag : Bool) :
    Keeps (Spares pairId inside ids) (Act.execute (fun db => db.updateTrackedFileMirrorStatus id flag)) :=
  spares_execute (fun _ => rfl) fun _ => filesSpared_updateTrackedFile listed fun _ => rfl

theorem spares_enqueue {α : Type} {update : Db → α × Db} (fileId : Nat) (action : SyncAction) (reason error : Option String)
    (queues : ∀ db, (update db).2 = (db.createSyncQueueItemDedupWithCreated fileId action reason error).2) :
    Keeps (Spares pairId inside ids) (Act.insert update) := by
  apply spares_insert
  · intro db
    rw [queues]
    exact (db.createSyncQueueItemDedupWithCreated_frame fileId action reason error).1
  · intro db
    apply filesSpared_of_eq
    rw [queues]
    exact (db.createSyncQueueItemDedupWithCreated_frame fileId action reason error).2

theorem spares_orUndo {undo : Db → Db} {x : Act Unit} (pairs : ∀ db, (undo db).drivePairs = db.drivePairs)
    (files : ∀ db, FilesSpared pairId ids db (undo db)) (inner : Keeps (Spares pairId inside ids) x) :
    Keeps (Spares pairId inside ids) (orUndo undo x) := by
  refine keeps_bind (keeps_attempt inner) fun result => ?_
  cases result with
  | ok _ => exact keeps_pure _
  | error message => exact keeps_bind (spares_execute pairs files) fun _ => spares_bail message

theorem filesSpared_deleteTrackedFile (db : Db) (id : Nat) : FilesSpared pairId ids db (db.deleteTrackedFile id) :=
  filesSpared_deleteWhere rfl

theorem filesSpared_updateTrackedFileVirtualPath (db : Db) (id : Nat) (virtualPath : Option String) :
    FilesSpared pairId ids db (db.updateTrackedFileVirtualPath id virtualPath) :=
  filesSpared_updateWhere (fun file => { file with virtualPath }) (fun _ => rfl) rfl (fun _ => rfl) fun _ _ _ =>
    .inr ⟨rfl,rfl⟩

theorem filesSpared_updateTrackedFileSources (db : Db) (id : Nat) (direct viaFolder : Bool) :
    FilesSpared pairId ids db (db.updateTrackedFileSources id direct viaFolder) :=
  filesSpared_updateWhere (fun file => { file with trackedDirect := direct,trackedViaFolder := viaFolder }) (fun _ => rfl)
    rfl (fun _ => rfl) fun _ _ _ => .inr ⟨rfl,rfl⟩

theorem spares_setVirtualPath (links : LinkAnswers) (fileId : Nat) (virtualPath : String) :
    Keeps (Spares pairId inside ids) (setVirtualPath links fileId virtualPath) := by
  refine keeps_bind (spares_query _) fun file => keeps_bind (spares_load _) fun _ => ?_
  refine keeps_bind (spares_query _) fun normalized => keeps_bind ?_ fun _ => ?_
  · exact spares_execute (fun _ => rfl) fun db => filesSpared_updateTrackedFileVirtualPath db fileId (some normalized)
  · split
    · exact spares_query _
    · exact keeps_pure _

theorem spares_setFolderVirtualPath (links : LinkAnswers) (folderId : Nat) (virtualPath : String) :
    Keeps (Spares pairId inside ids) (setFolderVirtualPath links folderId virtualPath) := by
  refine keeps_bind (spares_query _) fun folder => keeps_bind (spares_load _) fun _ => ?_
  refine keeps_bind (spares_query _) fun normalized => ?_
  refine keeps_bind (spares_quiet (fun _ => rfl) fun _ => rfl) fun _ => ?_
  split
  · exact spares_query _
  · exact keeps_pure _

theorem spares_publish (links : LinkAnswers) (fileId : Nat) (virtualPath : Option String) :
    Keeps (Spares pairId inside ids) (publish links fileId virtualPath) := by
  cases virtualPath with
  | none => exact keeps_pure _
  | some path => exact spares_setVirtualPath links fileId path

theorem spares_publishFolder (links : LinkAnswers) (folderId : Nat) (virtualPath : Option String) :
    Keeps (Spares pairId inside ids) (publishFolder links folderId virtualPath) := by
  cases virtualPath with
  | none => exact keeps_pure _
  | some path => exact spares_setFolderVirtualPath links folderId path

theorem spares_queueMismatch (file : TrackedFile) (mismatch : Option SidecarMismatch) :
    Keeps (Spares pairId inside ids) (queueMismatch file mismatch) := by
  cases mismatch with
  | none => exact keeps_pure _
  | some mismatch => exact spares_discard (spares_enqueue _ _ _ _ fun _ => rfl)

theorem spares_ensureWorldReadable (io : Io) (path : Location) :
    Keeps (Spares pairId inside ids) (ensureWorldReadable io path) :=
  keeps_bind (spares_look _) fun _ => keeps_bind (spares_ensure _ _) fun _ => spares_ensure _ _

theorem spares_metadataLen (path : Location) : Keeps (Spares pairId inside ids) (metadataLen path) :=
  keeps_bind (spares_look _) fun _ => keeps_bind (spares_ensure _ _) fun _ => spares_look _

theorem spares_readB3Sidecar (io : Io) (path : Location) :
    Keeps (Spares pairId inside ids) (Sidecar.readB3Sidecar io path) := by
  refine keeps_bind (spares_query _) fun sidecarPath => keeps_bind (spares_look _) fun there => ?_
  split
  · exact keeps_pure _
  · refine keeps_bind (spares_look _) fun size => keeps_bind (spares_ensure _ _) fun _ => ?_
    refine keeps_bind (spares_mapErr _ (spares_still (Sidecar.readToString_after io _))) fun content => ?_
    split
    · exact spares_bail _
    · exact keeps_bind (spares_query _) fun _ => keeps_pure _

theorem spares_finish (walk : Walk) : Keeps (Spares pairId inside ids) walk.finish := by
  unfold Walk.finish
  cases walk.failure with
  | none => exact keeps_pure _
  | some message => exact spares_bail message

theorem spares_recompute (other : Nat) : Keeps (Spares pairId inside ids)
    (Act.execute (fun db => db.recomputeFolderProvenanceForDrive other)) :=
  spares_execute (fun _ => rfl) fun _ => filesSpared_recompute other

theorem spares_untrack (item : SyncQueueItem) (file : TrackedFile) :
    Keeps (Spares pairId inside ids) (untrack item file) := by
  refine keeps_bind (spares_quiet (fun _ => rfl) fun _ => rfl) fun _ => keeps_bind (spares_query _) fun _ => ?_
  refine keeps_bind ?_ fun _ => keeps_pure _
  exact spares_execute (fun _ => rfl) fun db => filesSpared_deleteTrackedFile db file.id

theorem spares_maybeFinalize {other : Nat} (apart : other ≠ pairId) (action : SyncAction) :
    Keeps (Spares pairId inside ids) (maybeFinalizeRebuildForAction other action) := by
  intro w
  cases row : w.db.drivePairs.find? other with
  | none =>
    have failed : Act.query (fun db => db.getDrivePair other) w = .error Db.queryReturnedNoRows w := by
      simp only [Act.query,Db.getDrivePair,row]
    unfold maybeFinalizeRebuildForAction
    rw [after_bind_of_error failed]
    exact refl_of (Spares pairId inside ids) w
  | some pair =>
    obtain rfl : pair.id = other := Table.find?_key row
    rw [maybeFinalizeRebuildForAction_after action row]
    exact spares_of_row apart (fun id => find?_finalized_other w.db pair action) (quiescing_of_finalized row)
      (filesSpared_finalized apart action)

theorem spares_finishItem {pair : DrivePair} (other : pair.id ≠ pairId) (item : SyncQueueItem) {file : TrackedFile}
    (listed : file.id ∈ ids) (result : Except String Unit) :
    Keeps (Spares pairId inside ids) (finishItem item file pair result) := by
  cases result with
  | error message =>
    have failed : Keeps (Spares pairId inside ids)
        (Act.execute (fun db => db.updateSyncQueueStatus item.id .failed (some message))) :=
      spares_quiet (fun _ => rfl) fun _ => rfl
    exact failed
  | ok _ =>
    refine keeps_bind (spares_quiet (fun _ => rfl) fun _ => rfl) fun _ => ?_
    split
    · refine keeps_bind (spares_flag listed true) fun _ => ?_
      exact spares_discard (keeps_attempt (spares_maybeFinalize other item.action))
    · exact keeps_pure _

theorem spares_startFolderMirror (folderId totalFiles : Nat) : Keeps (Spares pairId inside ids)
    (Act.insertOrFail (fun db => db.startFolderMirror folderId totalFiles)) :=
  spares_insertOrFail (fun db => (db.startFolderMirror_frame folderId totalFiles).1) fun db =>
    filesSpared_of_eq (db.startFolderMirror_frame folderId totalFiles).2

theorem spares_queueNewTracking (pair : DrivePair) (tracked : TrackedFile) :
    Keeps (Spares pairId inside ids) (queueNewTracking pair tracked) := by
  refine keeps_bind (spares_look _) fun accepts => ?_
  split
  · refine keeps_bind (spares_query _) fun pending => ?_
    split
    · exact spares_discard (spares_enqueue _ _ _ _ fun _ => rfl)
    · exact keeps_pure _
  · exact keeps_pure _

end

/-! Operations that work on the links too. -/

section
open VirtualPath VirtualRetarget VirtualAssignment
variable {pairId : Nat} {inside : Location → Prop} {ids : List Nat}

def LinkedSpares (pairId : Nat) (inside : Location → Prop) (ids : List Nat) (s t : Linked) : Prop :=
  Spares pairId inside ids s.world t.world

instance (pairId : Nat) (inside : Location → Prop) (ids : List Nat) : IsPreorder Linked (LinkedSpares pairId inside ids) where
  refl s := refl_of (Spares pairId inside ids) s.world
  trans _ _ _ first second := trans_of (Spares pairId inside ids) first second

theorem spares_inWorld {α : Type} {x : Act α} (inner : Keeps (Spares pairId inside ids) x) :
    Keeps (LinkedSpares pairId inside ids) (inWorld x) := by
  intro s
  rw [LinkedSpares,(erases_inWorld x).after s]
  exact inner s.world

theorem spares_onLinks {α : Type} (x : LinkAct α) : Keeps (LinkedSpares pairId inside ids) (onLinks x) := by
  intro s
  rw [LinkedSpares,after_onLinks]
  exact refl_of (Spares pairId inside ids) s.world

theorem filesSpared_updateVirtualPath (owner : VirtualOwner) (virtualPath : Option String) (db : Db) :
    FilesSpared pairId ids db (updateVirtualPath owner virtualPath db) := by
  cases owner with
  | file id => exact filesSpared_updateTrackedFileVirtualPath db id virtualPath
  | folder id => exact filesSpared_of_eq rfl

theorem spares_removeVirtualPath (calls : LinkCalls) (fileId : Nat) :
    Keeps (LinkedSpares pairId inside ids) (removeVirtualPath calls fileId) := by
  refine keeps_bind (spares_inWorld (spares_query _)) fun file => ?_
  split
  · exact spares_inWorld (spares_bail _)
  · refine keeps_bind (spares_inWorld (spares_query _)) fun normalized => keeps_bind ?_ fun _ => spares_onLinks _
    exact spares_inWorld (spares_execute (fun _ => rfl) (filesSpared_updateVirtualPath (.file fileId) none))

theorem spares_untrackFile (calls : LinkCalls) (file : TrackedFile) :
    Keeps (LinkedSpares pairId inside ids) (untrackFile calls file) := by
  have deleted : Keeps (LinkedSpares pairId inside ids)
      (inWorld (Act.execute (fun db => db.deleteTrackedFile file.id))) :=
    spares_inWorld (spares_execute (fun _ => rfl) fun db => filesSpared_deleteTrackedFile db file.id)
  unfold untrackFile
  split
  · exact keeps_bind (spares_removeVirtualPath calls file.id) fun _ => deleted
  · exact deleted

theorem spares_deleteFile (calls : LinkCalls) (id : Nat) :
    Keeps (LinkedSpares pairId inside ids) (deleteFile calls id) := by
  refine keeps_bind (spares_inWorld (spares_query _)) fun file => ?_
  refine keeps_bind (spares_inWorld (spares_query _)) fun active => ?_
  exact keeps_bind (spares_inWorld (spares_ensure _ _)) fun _ => spares_untrackFile calls file

theorem spares_untrackCommand (calls : LinkCalls) (id : Nat) :
    Keeps (LinkedSpares pairId inside ids) (untrackCommand calls id) :=
  keeps_bind (spares_inWorld (spares_query _)) fun file => spares_untrackFile calls file

theorem spares_removeSymlinks (calls : LinkCalls) (paths : List String) :
    Keeps (LinkedSpares pairId inside ids) (FolderProvenance.removeSymlinks calls paths) := by
  induction paths with
  | nil => exact keeps_pure _
  | cons path paths ih => exact keeps_bind (keeps_attempt (spares_onLinks _)) fun _ => ih

theorem filesSpared_deleteTrackedFiles (db : Db) (fileIds : List Nat) :
    FilesSpared pairId ids db (fileIds.foldl Db.deleteTrackedFile db) := by
  induction fileIds generalizing db with
  | nil => exact filesSpared_of_eq rfl
  | cons id fileIds ih => exact (filesSpared_deleteTrackedFile db id).trans (ih (db.deleteTrackedFile id))

theorem deleteTrackedFiles_drivePairs (db : Db) (fileIds : List Nat) :
    (fileIds.foldl Db.deleteTrackedFile db).drivePairs = db.drivePairs := by
  induction fileIds generalizing db with
  | nil => rfl
  | cons id fileIds ih => exact ih (db.deleteTrackedFile id)

theorem spares_untrackFolderCascade (calls : LinkCalls) (folderId : Nat) :
    Keeps (LinkedSpares pairId inside ids) (FolderProvenance.untrackFolderCascade calls folderId) := by
  refine keeps_bind (spares_inWorld (spares_query _)) fun folder => ?_
  refine keeps_bind (spares_inWorld (spares_query _)) fun pair => ?_
  refine keeps_bind (spares_inWorld (spares_query _)) fun _ => ?_
  refine keeps_bind (spares_inWorld (spares_query _)) fun descendants => keeps_bind ?_ fun _ => ?_
  · apply spares_inWorld
    apply spares_execute
    · exact fun db => deleteTrackedFiles_drivePairs db _
    · exact fun db => (filesSpared_deleteTrackedFiles db _).trans (filesSpared_of_eq rfl)
  · refine keeps_bind (spares_removeSymlinks calls _) fun _ => keeps_bind ?_ fun _ => keeps_pure _
    exact spares_inWorld (spares_recompute folder.drivePairId)

end

/-! Operations with a pair of their own. -/

section
variable [Blake3] {pairId : Nat} {inside : Location → Prop} {ids : List Nat} {pair : DrivePair}

theorem spares_mirrorFolderFile (io : Io) {file : TrackedFile}
    (clear : ∀ path, Touches pair file.relativePath path → ¬inside path)
    (listed : file.id ∈ ids) :
    Keeps (Spares pairId inside ids) (mirrorFolderFile io pair file) := by
  refine keeps_bind (spares_quiet (fun _ => rfl) fun _ => rfl) fun _ => ?_
  refine keeps_bind (keeps_attempt (spares_below clear (below_mirrorFile io pair _))) fun copied => ?_
  cases copied with
  | ok _ => exact keeps_bind (spares_flag listed true) fun _ => spares_quiet (fun _ => rfl) fun _ => rfl
  | error message =>
    have failed : Keeps (Spares pairId inside ids)
        (Act.execute (fun db => db.failPendingMirrorQueueForFile file.id message)) :=
      spares_quiet (fun _ => rfl) fun _ => rfl
    exact failed

theorem spares_recovery (io : Io) {file : TrackedFile} (clear : ∀ path, Touches pair file.relativePath path → ¬inside path)
    (listed : file.id ∈ ids) (result : IntegrityCheckResult) :
    Keeps (Spares pairId inside ids) (attemptRecoveryWithReconciliation io pair file result) := by
  refine keeps_bind (spares_below clear (below_attemptRecovery io pair file result)) fun recovered => ?_
  split
  · refine keeps_bind (spares_flag listed true) fun _ => ?_
    exact keeps_bind (spares_quiet (fun _ => rfl) fun _ => rfl) fun _ => keeps_pure _
  · exact keeps_pure _

omit [Blake3] in
theorem spares_acceptCurrent (io : Io) (item : SyncQueueItem) {file : TrackedFile}
    (clear : ∀ path, IsSidecar pair file path → ¬inside path) :
    Keeps (Spares pairId inside ids) (acceptCurrent io item file pair) := by
  unfold acceptCurrent
  split
  · exact spares_bail _
  · rename_i name named
    refine keeps_bind (spares_ensure _ _) fun _ => keeps_bind ?_ fun _ => ?_
    · exact spares_below clear (below_of_writesOnly ⟨name,named,rfl⟩ fun w => writesOnly_write _ _ w)
    · refine keeps_bind (spares_quiet (fun _ => rfl) fun _ => rfl) fun _ => ?_
      exact keeps_bind (spares_enqueue _ _ _ _ fun _ => rfl) fun _ => spares_query _

omit [Blake3] in
theorem spares_ensureMarker (clear : ∀ path, IsMarker pair path → ¬inside path) (role : DriveRole) (io : Io) :
    Keeps (Spares pairId inside ids) (ensureDriveRootMarker io (pair.pathForRole role)) :=
  spares_below clear (below_ensureDriveRootMarker ⟨role,rfl⟩ io)

omit [Blake3] in
theorem foreign_of_path (other : pair.id ≠ pairId) {db : Db} {relativePath : String} {file : TrackedFile}
    (read : db.getTrackedFileByPath pair.id relativePath = .ok file) : Foreign pairId [file.id] db := by
  unfold Db.getTrackedFileByPath at read
  split at read
  · rename_i found
    cases read
    intro id member row there own
    rw [List.mem_singleton.mp member] at there
    obtain rfl : file = row :=
      Option.some.inj ((Table.find?_of_mem db.trackedFiles (List.mem_of_find?_eq_some found)).symm.trans there)
    have held := List.find?_some found
    rw [Bool.and_eq_true,beq_iff_eq] at held
    exact other (held.1.symm.trans own)
  · cases read

theorem spares_createTrackedFileFromDisk (other : pair.id ≠ pairId) (io : Io) (relativePath : String)
    (direct viaFolder : Bool) :
    Keeps (Spares pairId inside ids) (createTrackedFileFromDisk io pair relativePath direct viaFolder) := by
  refine keeps_bind (spares_look _) fun _ => keeps_bind (spares_ensure _ _) fun _ => ?_
  refine keeps_bind (spares_ensureWorldReadable _ _) fun _ => ?_
  refine keeps_bind (spares_mapErr _ (spares_still fun w => checksumFile_after io w _ _)) fun _ => ?_
  refine keeps_bind (keeps_attempt (spares_readB3Sidecar _ _)) fun _ => ?_
  refine keeps_bind (spares_metadataLen _) fun _ => keeps_bind ?_ fun _ => keeps_pure _
  apply spares_insertOrFail
  · exact fun db => MarkerOrder.createTrackedFileWithSource_pairs db _ _ _ _ _ _ _
  · exact fun db => filesSpared_createTrackedFileWithSource other _ _ _ _ _ _

omit [Blake3] in
theorem foreign_of_created (other : pair.id ≠ pairId) {db next : Db} {relativePath checksum : String} {fileSize : Nat}
    {virtualPath : Option String} {direct viaFolder : Bool} {file : TrackedFile}
    (created : db.createTrackedFileWithSource pair.id relativePath checksum fileSize virtualPath direct viaFolder =
      (.ok file,next)) : Foreign pairId [file.id] next := by
  unfold Db.createTrackedFileWithSource at created
  split at created
  · cases created
  · cases created
    intro id member row there own
    rw [List.mem_singleton.mp member,Table.find?_insert,if_pos rfl] at there
    cases there
    exact other own

theorem createTrackedFileFromDisk_foreign (other : pair.id ≠ pairId) {io : Io} {relativePath : String}
    {direct viaFolder : Bool} {w t : World} {tracked : TrackedFile × Option SidecarMismatch}
    (ok : createTrackedFileFromDisk io pair relativePath direct viaFolder w = .ok tracked t) :
    Foreign pairId [tracked.1.id] t.db := by
  obtain ⟨_,_,_,ok⟩ := bind_success ok
  obtain ⟨_,_,_,ok⟩ := bind_success ok
  obtain ⟨_,_,_,ok⟩ := bind_success ok
  obtain ⟨_,_,_,ok⟩ := bind_success ok
  obtain ⟨_,_,_,ok⟩ := bind_success ok
  obtain ⟨_,_,_,ok⟩ := bind_success ok
  obtain ⟨file,stored,created,ok⟩ := bind_success ok
  cases ok
  exact foreign_of_created other (Act.insertOrFail_value created)

theorem spares_trackNewFile (other : pair.id ≠ pairId) (io : Io) (links : LinkAnswers) (relativePath : String)
    (virtualPath : Option String) :
    Keeps (Spares pairId inside ids) (trackNewFile io links pair relativePath virtualPath) := by
  refine keeps_bind (spares_createTrackedFileFromDisk other io relativePath true false) fun tracked => ?_
  have undone : ∀ db, FilesSpared pairId ids db (db.deleteTrackedFile tracked.1.id) := fun db =>
    filesSpared_deleteTrackedFile db tracked.1.id
  refine keeps_bind (spares_orUndo (fun _ => rfl) undone (spares_publish links _ virtualPath)) fun _ => ?_
  refine keeps_bind (spares_orUndo (fun _ => rfl) undone ?_) fun _ => spares_query _
  exact spares_queueMismatch tracked.1 tracked.2

omit [Blake3] in
theorem spares_trackExistingFile (io : Io) (links : LinkAnswers) (pair : DrivePair) (existing : TrackedFile)
    (relativePath : String) (virtualPath : Option String) :
    Keeps (Spares pairId inside ids) (trackExistingFile io links pair existing relativePath virtualPath) := by
  refine keeps_bind (spares_ensureWorldReadable _ _) fun _ => keeps_bind ?_ fun _ => ?_
  · exact spares_execute (fun _ => rfl) fun db => filesSpared_updateTrackedFileSources db existing.id true false
  · exact keeps_bind (spares_publish links existing.id virtualPath) fun _ => spares_query _

omit [Blake3] in
theorem spares_optionally {α β : Type} {condition : Bool} {x : Act α} {rest : Act β}
    (first : Keeps (Spares pairId inside ids) x) (second : Keeps (Spares pairId inside ids) rest) :
    Keeps (Spares pairId inside ids) (if condition then (do let _ ← x; rest) else rest) := by
  split
  · exact keeps_bind first fun _ => second
  · exact second

theorem spares_trackFile (other : pair.id ≠ pairId) (clear : ∀ path, IsMarker pair path → ¬inside path) (io : Io)
    (links : LinkAnswers) (relativePath : String) (virtualPath : Option String) :
    Keeps (Spares pairId inside ids) (trackFile io links pair relativePath virtualPath) := by
  refine keeps_bind (spares_query _) fun _ => keeps_bind (spares_ensureMarker clear _ io) fun _ => ?_
  refine keeps_bind (spares_look _) fun available => spares_optionally ?_ ?_
  · exact keeps_attempt (spares_ensureMarker clear _ io)
  · refine keeps_bind (keeps_attempt (spares_query _)) fun existing => ?_
    cases existing with
    | ok existing => exact spares_trackExistingFile io links pair existing relativePath virtualPath
    | error _ => exact spares_trackNewFile other io links relativePath virtualPath

omit [Blake3] in
theorem spares_trackFolderWithOptions (clear : ∀ path, IsMarker pair path → ¬inside path) (io : Io) (links : LinkAnswers)
    (isDir : Bool)
    (folderPath : String) (virtualPath : Option String) (sidecars : Bool) : Keeps (Spares pairId inside ids)
      (trackFolderWithOptions io links isDir pair folderPath virtualPath sidecars) := by
  refine keeps_bind (spares_query _) fun _ => keeps_bind (spares_ensureMarker clear _ io) fun _ => ?_
  refine keeps_bind (spares_ensure _ _) fun _ => keeps_bind ?_ fun tracked => ?_
  · apply spares_insertOrFail
    · exact fun db => MarkerOrder.createTrackedFolderWithSidecars_pairs db _ _ _ _
    · intro db
      apply filesSpared_of_eq
      unfold Db.createTrackedFolderWithSidecars
      split
      · rfl
      · split <;> rfl
  · refine keeps_bind (spares_orUndo (fun _ => rfl) (fun _ => filesSpared_of_eq rfl) ?_) fun _ => ?_
    · exact spares_publishFolder links tracked.id virtualPath
    · exact keeps_bind (spares_recompute pair.id) fun _ => spares_query _

theorem spares_autoTrackFile (other : pair.id ≠ pairId) (io : Io) (relativePath : String) :
    Keeps (Spares pairId inside ids) (autoTrackFile io pair relativePath) := by
  apply spares_bind_found fun tracked => [tracked.1.id]
  · exact spares_createTrackedFileFromDisk other io relativePath false true
  · exact fun _ _ _ created => createTrackedFileFromDisk_foreign other created
  · intro tracked
    refine keeps_bind ?_ fun _ => keeps_pure _
    cases tracked.2 with
    | some mismatch => exact spares_queueMismatch tracked.1 (some mismatch)
    | none =>
      refine keeps_bind (spares_look _) fun accepts => ?_
      split
      · refine spares_discard (keeps_bind (spares_enqueue tracked.1.id .adoptMirror none none fun _ => rfl) fun _ => ?_)
        exact keeps_bind (spares_ensure _ _) fun _ => keeps_pure _
      · exact spares_flag List.mem_cons_self false

omit [Blake3] in
theorem spares_recordChange {fileId : Nat} (listed : fileId ∈ ids) (pair : DrivePair) (path : Location) (newHash : String) :
    Keeps (Spares pairId inside ids) (recordChange pair fileId path newHash) := by
  refine keeps_bind (spares_metadataLen path) fun size => keeps_bind ?_ fun _ => ?_
  · exact spares_execute (fun _ => rfl) fun _ => filesSpared_updateTrackedFile listed fun _ => rfl
  · refine keeps_bind (spares_flag listed false) fun _ => keeps_bind (spares_look _) fun accepts => ?_
    split
    · exact spares_discard (spares_enqueue _ _ _ _ fun _ => rfl)
    · exact keeps_pure _

theorem spares_scanFile (other : pair.id ≠ pairId) (io : Io) (relativePath : String) :
    Keeps (Spares pairId inside ids) (scanFile io pair relativePath) := by
  apply spares_bind_found fun existing => (existing.toOption.map TrackedFile.id).toList
  · exact keeps_attempt (spares_query _)
  · intro w existing t read
    cases existing with
    | error _ => exact fun _ member => absurd member (List.not_mem_nil)
    | ok existing =>
      obtain ⟨found,rfl⟩ := Act.query_success (attempt_success read)
      exact foreign_of_path other found
  · intro existing
    cases existing with
    | error _ => exact spares_discard (spares_autoTrackFile other io relativePath)
    | ok existing =>
      refine keeps_bind (spares_still fun w => checksumFile_after io w _ _) fun currentHash => ?_
      split
      · exact spares_recordChange List.mem_cons_self pair _ _
      · exact keeps_pure _

theorem spares_scanFiles (other : pair.id ≠ pairId) (io : Io) (folder : TrackedFolder) (scanned : Nat)
    (paths : List String) : Keeps (Spares pairId inside ids) (scanFiles io pair folder scanned paths) := by
  induction paths generalizing scanned with
  | nil => exact keeps_pure _
  | cons path paths ih =>
    unfold scanFiles
    split
    · exact ih scanned
    · refine keeps_bind (spares_scanFile other io path) fun _ => ?_
      exact keeps_bind (spares_quiet (fun _ => rfl) fun _ => rfl) fun _ => ih (scanned + 1)

theorem spares_scanTrackedFolder (other : pair.id ≠ pairId) (io : Io) (walk : Walk) (folder : TrackedFolder) :
    Keeps (Spares pairId inside ids) (scanTrackedFolder io walk pair folder) := by
  refine keeps_bind (spares_query _) fun _ => keeps_bind (spares_scanFiles other io folder 0 _) fun _ => ?_
  exact keeps_bind (spares_finish walk) fun _ => spares_recompute pair.id

theorem spares_autoTrackFiles (other : pair.id ≠ pairId) (io : Io) (folder : TrackedFolder) (paths : List String) :
    Keeps (Spares pairId inside ids) (autoTrackFiles io pair folder paths) := by
  induction paths with
  | nil => exact keeps_pure _
  | cons path paths ih =>
    unfold autoTrackFiles
    split
    · exact ih
    · refine keeps_bind (keeps_bind (keeps_attempt (spares_query _)) fun existing => ?_) fun _ => ih
      cases existing with
      | ok _ => exact keeps_pure _
      | error _ => exact spares_discard (spares_autoTrackFile other io path)

theorem spares_autoTrackFolderFiles (other : pair.id ≠ pairId) (io : Io) (walk : Walk) (folder : TrackedFolder) :
    Keeps (Spares pairId inside ids) (autoTrackFolderFiles io walk pair folder) := by
  refine keeps_bind (spares_query _) fun _ => ?_
  refine keeps_bind (spares_autoTrackFiles other io folder walk.files) fun _ => ?_
  exact keeps_bind (spares_finish walk) fun _ => spares_recompute pair.id

theorem detectChange_still (io : Io) (path : Location) (storedChecksum : String) (w : World) :
    after (detectChange io path storedChecksum) w = w := by
  unfold detectChange
  rw [after_bind_of_ok (Act.look_apply _ _)]
  split
  · rfl
  · rcases after_bind_cases (checksumFile io path .streaming) _ w with ⟨message,failed⟩ | ⟨current,t,ran,ends⟩
    · exact (after_of_error failed).symm.trans (checksumFile_after io w path .streaming)
    · rw [ends,← checksumFile_after io w path .streaming,after_of_ok ran]
      split <;> rfl

theorem detectChanges_still {io : Io} {w t : World} {files : List TrackedFile} {changes : List (TrackedFile × String)}
    (ok : detectChanges io pair files w = .ok changes t) : t = w ∧ ∀ change ∈ changes, change.1 ∈ files := by
  induction files generalizing w changes t with
  | nil =>
    cases ok
    exact ⟨rfl,fun _ member => absurd member (List.not_mem_nil)⟩
  | cons file files ih =>
    obtain ⟨change,u,first,ok⟩ := bind_success ok
    obtain ⟨later,v,rest,ok⟩ := bind_success ok
    cases ok
    obtain ⟨rfl,known⟩ := ih rest
    obtain rfl : _ = w := (after_of_ok first).symm.trans (detectChange_still io _ _ w)
    refine ⟨rfl,fun one member => ?_⟩
    rcases List.mem_append.mp member with mine | other
    · obtain ⟨_,_,rfl⟩ := Option.map_eq_some_iff.mp (Option.mem_toList.mp mine)
      exact List.mem_cons_self
    · exact List.mem_cons_of_mem file (known one other)

omit [Blake3] in
theorem spares_recordChanges (pair : DrivePair) {changes : List (TrackedFile × String)}
    (listed : ∀ change ∈ changes, change.1.id ∈ ids) :
    Keeps (Spares pairId inside ids) (recordChanges pair changes) := by
  induction changes with
  | nil => exact keeps_pure _
  | cons change changes ih =>
    obtain ⟨first,later⟩ := List.forall_mem_cons.mp listed
    exact keeps_bind (spares_recordChange first pair _ _) fun _ => ih later

omit [Blake3] in
theorem foreign_of_listed (other : pair.id ≠ pairId) {db : Db} {listed : List Nat}
    (known : ∀ id ∈ listed, ∃ file ∈ db.listTrackedFilesOfPair pair.id, file.id = id) : Foreign pairId listed db := by
  intro id member file found own
  obtain ⟨row,there,rfl⟩ := known id member
  obtain ⟨held,mine⟩ := Db.mem_listTrackedFilesOfPair.mp there
  obtain rfl : file = row := Option.some.inj (found.symm.trans held)
  exact other (mine.symm.trans own)

theorem spares_scanAndRecordChanges (other : pair.id ≠ pairId) (io : Io) :
    Keeps (Spares pairId inside ids) (scanAndRecordChanges io pair) := by
  apply spares_bind_found fun changes => changes.map (fun change => change.1.id)
  · refine keeps_bind (spares_query _) fun files => ?_
    induction files with
    | nil => exact keeps_pure _
    | cons file files ih =>
      exact keeps_bind (spares_still (detectChange_still io _ _)) fun _ =>
        keeps_bind ih fun _ => keeps_pure _
  · intro w changes t ok
    obtain ⟨files,u,read,ok⟩ := bind_success ok
    obtain ⟨listed,rfl⟩ := Act.query_success read
    cases listed
    obtain ⟨rfl,known⟩ := detectChanges_still ok
    refine foreign_of_listed other fun id member => ?_
    obtain ⟨change,there,rfl⟩ := List.mem_map.mp member
    exact ⟨change.1,known change there,rfl⟩
  · exact fun changes => spares_recordChanges pair fun change member => List.mem_map.mpr ⟨change,member,rfl⟩

end

end BitProtector.PairFrame
