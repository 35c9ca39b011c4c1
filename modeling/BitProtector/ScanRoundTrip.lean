import BitProtector.ScanWalks

/-! Tracking a folder, scanning it and taking it away again: which files stay. A scan only adds
files of its walk, wherever it breaks off. -/
namespace BitProtector.ScanRoundTrip
open Effect FolderPatterns FolderProvenance FolderStatus ScanStates ScanWalks

/-- What of a row says which file it is and how it is tracked. -/
structure Origin where
  id : Nat
  drivePairId : Nat
  relativePath : String
  trackedDirect : Bool
  trackedViaFolder : Bool
  deriving DecidableEq, Repr

def origin (file : TrackedFile) : Origin :=
  ⟨file.id,file.drivePairId,file.relativePath,file.trackedDirect,file.trackedViaFolder⟩

/-! Folders that keep their places. -/

theorem row_kept {db next : Db} (kept : PlacesKept db next) {folder : TrackedFolder}
    (present : folder ∈ db.trackedFolders.rows) :
    ∃ now ∈ next.trackedFolders.rows, now.id = folder.id ∧ place now = place folder := by
  have same := kept folder.id
  have found : db.trackedFolders.find? folder.id = some folder := Table.find?_of_mem _ present
  rw [found,Option.map_some] at same
  obtain ⟨now,there,places⟩ := Option.map_eq_some_iff.mp same
  exact ⟨now,Table.mem_of_find? there,Table.find?_key there,places⟩

theorem places_back {db next : Db} (kept : PlacesKept db next) : PlacesKept next db := fun id => (kept id).symm

theorem inTrackedFolder_iff {db : Db} {file : TrackedFile} : db.inTrackedFolder file = true ↔
    ∃ folder ∈ db.trackedFolders.rows, folder.drivePairId = file.drivePairId ∧
      Db.likeFolder folder.folderPath file.relativePath = true := by
  rw [Db.inTrackedFolder,List.any_eq_true]
  simp only [Bool.and_eq_true,beq_iff_eq]

/-! What a walk over a tracked folder may do to the tables. -/

/-- The files of the pair have right flags, and every path of the walk is taken by a folder of it. -/
structure Covered (pairId folderId : Nat) (paths : List String) (db : Db) : Prop where
  settled : ∀ file ∈ db.trackedFiles.rows, file.drivePairId = pairId →
    file.trackedViaFolder = !file.trackedDirect ∧ (file.trackedDirect = false → db.inTrackedFolder file = true)
  taken : ∀ path ∈ paths, ∃ folder ∈ db.trackedFolders.rows, folder.drivePairId = pairId ∧
    Db.likeFolder folder.folderPath path = true
  home : ∀ folder ∈ db.trackedFolders.rows, folder.id = folderId → folder.drivePairId = pairId

/-- No file goes away, and the new ones are files of the walk that the folder brings in. -/
structure Grows (pairId : Nat) (paths : List String) (db next : Db) : Prop where
  kept : ∀ file ∈ db.trackedFiles.rows, ∃ now ∈ next.trackedFiles.rows, origin now = origin file
  fresh : ∀ now ∈ next.trackedFiles.rows, (∃ file ∈ db.trackedFiles.rows, origin now = origin file) ∨
    now.drivePairId = pairId ∧ now.relativePath ∈ paths ∧ now.trackedDirect = false ∧ now.trackedViaFolder = true
  folders : PlacesKept db next

variable {pairId folderId : Nat} {paths : List String} {db next : Db}

theorem Grows.refl (db : Db) : Grows pairId paths db db :=
  ⟨fun file present => ⟨file,present,rfl⟩,fun now present => .inl ⟨now,present,rfl⟩,.of_eq rfl⟩

theorem Grows.trans {last : Db} (first : Grows pairId paths db next) (second : Grows pairId paths next last) :
    Grows pairId paths db last := by
  constructor
  · intro file present
    obtain ⟨now,there,same⟩ := first.kept file present
    obtain ⟨later,still,again⟩ := second.kept now there
    exact ⟨later,still,again.trans same⟩
  · intro later present
    rcases second.fresh later present with ⟨now,there,again⟩ | new
    · rcases first.fresh now there with ⟨file,row,same⟩ | ⟨pair,path,direct,via⟩
      · exact .inl ⟨file,row,again.trans same⟩
      · rw [origin,origin,Origin.mk.injEq] at again
        obtain ⟨_,samePair,samePath,sameDirect,sameVia⟩ := again
        exact .inr ⟨samePair.trans pair,samePath ▸ path,sameDirect.trans direct,sameVia.trans via⟩
    · exact .inr new
  · exact first.folders.trans second.folders

theorem inTrackedFolder_kept (kept : PlacesKept db next) {file now : TrackedFile} (pair : now.drivePairId = file.drivePairId)
    (path : now.relativePath = file.relativePath) (taken : db.inTrackedFolder file = true) :
    next.inTrackedFolder now = true := by
  obtain ⟨folder,present,own,like⟩ := inTrackedFolder_iff.mp taken
  obtain ⟨other,there,_,places⟩ := row_kept kept present
  obtain ⟨samePair,samePath⟩ := Prod.mk.inj places
  exact inTrackedFolder_iff.mpr ⟨other,there,(samePair.trans own).trans pair.symm,by rw [samePath,path]; exact like⟩

theorem Covered.grows (covered : Covered pairId folderId paths db) (grows : Grows pairId paths db next) :
    Covered pairId folderId paths next := by
  have taken : ∀ path ∈ paths, ∃ folder ∈ next.trackedFolders.rows, folder.drivePairId = pairId ∧
      Db.likeFolder folder.folderPath path = true := by
    intro path member
    obtain ⟨folder,present,own,like⟩ := covered.taken path member
    obtain ⟨other,there,_,places⟩ := row_kept grows.folders present
    obtain ⟨samePair,samePath⟩ := Prod.mk.inj places
    exact ⟨other,there,samePair.trans own,by rw [samePath]; exact like⟩
  constructor
  · intro now present own
    rcases grows.fresh now present with ⟨file,row,same⟩ | ⟨pair,path,direct,via⟩
    · rw [origin,origin,Origin.mk.injEq] at same
      obtain ⟨_,samePair,samePath,sameDirect,sameVia⟩ := same
      obtain ⟨flags,inside⟩ := covered.settled file row (samePair.symm.trans own)
      rw [sameVia,sameDirect]
      exact ⟨flags,fun indirect => inTrackedFolder_kept grows.folders samePair samePath (inside indirect)⟩
    · rw [direct,via]
      refine ⟨rfl,fun _ => ?_⟩
      obtain ⟨folder,there,ofPair,like⟩ := taken _ path
      exact inTrackedFolder_iff.mpr ⟨folder,there,ofPair.trans pair.symm,like⟩
  · exact taken
  · intro now present same
    obtain ⟨folder,there,key,places⟩ := row_kept (places_back grows.folders) present
    rw [(Prod.mk.inj places).1.symm]
    exact covered.home folder there (key.trans same)

theorem Grows.of_rows {change : TrackedFile → TrackedFile} (rows : next.trackedFiles.rows = db.trackedFiles.rows.map change)
    (same : ∀ file, origin (change file) = origin file) (folders : PlacesKept db next) : Grows pairId paths db next := by
  constructor
  · intro file present
    refine ⟨change file,?_,same file⟩
    rw [rows]
    exact List.mem_map_of_mem present
  · intro now present
    rw [rows] at present
    obtain ⟨file,row,rfl⟩ := List.mem_map.mp present
    exact .inl ⟨file,row,same file⟩
  · exact folders

theorem Grows.of_tables (files : next.trackedFiles = db.trackedFiles) (folders : next.trackedFolders = db.trackedFolders) :
    Grows pairId paths db next := by
  have rows : next.trackedFiles.rows = db.trackedFiles.rows.map id := by
    rw [files,List.map_id]
  exact .of_rows rows (fun _ => rfl) (.of_eq folders)

theorem provenanceOf_settled {file : TrackedFile} (settled : file.drivePairId = pairId →
    file.trackedViaFolder = !file.trackedDirect ∧ (file.trackedDirect = false → db.inTrackedFolder file = true)) :
    db.provenanceOf pairId file = file := by
  unfold Db.provenanceOf
  split
  · rename_i own
    obtain ⟨flags,inside⟩ := settled own
    cases direct : file.trackedDirect with
    | true =>
      rw [direct] at flags
      cases file
      simp_all
    | false =>
      rw [direct] at flags
      rw [inside direct]
      cases file
      simp_all
  · rfl

theorem Grows.recompute (covered : Covered pairId folderId paths db) :
    Grows pairId paths db (db.recomputeFolderProvenanceForDrive pairId) := by
  have still {file : TrackedFile} (present : file ∈ db.trackedFiles.rows) : db.provenanceOf pairId file = file :=
    provenanceOf_settled (covered.settled file present)
  constructor
  · intro file present
    have there := mem_recompute pairId present
    rw [still present] at there
    exact ⟨file,there,rfl⟩
  · intro now present
    obtain ⟨file,row,same⟩ := of_mem_recompute present
    rw [still row] at same
    exact .inl ⟨file,row,by rw [same]⟩
  · exact .of_eq rfl

/-! The steps of a scan. -/

/-- Where the tables are in order, they grow. -/
def Extends (pairId folderId : Nat) (paths : List String) (w t : World) : Prop :=
  Covered pairId folderId paths w.db → Grows pairId paths w.db t.db

instance : IsPreorder World (Extends pairId folderId paths) where
  refl w _ := Grows.refl w.db
  trans _ _ _ first second covered := (first covered).trans (second (covered.grows (first covered)))

theorem extends_still {α : Type} {x : Act α} (still : ∀ w, (after x w).db = w.db) :
    Keeps (Extends pairId folderId paths) x := by
  intro w _
  rw [still]
  exact Grows.refl w.db

theorem extends_query {α : Type} (read : Db → Except String α) : Keeps (Extends pairId folderId paths) (Act.query read) :=
  extends_still fun w => congrArg World.db (Act.after_query read w)

theorem extends_dbKept {α : Type} {x : Act α} (kept : Keeps DbKept x) : Keeps (Extends pairId folderId paths) x :=
  extends_still kept

theorem extends_look {α : Type} (view : Disk → α) : Keeps (Extends pairId folderId paths) (Act.look view) :=
  extends_dbKept (dbKept_look view)

theorem extends_ensure (condition : Bool) (message : String) :
    Keeps (Extends pairId folderId paths) (Act.ensure condition message) := extends_dbKept (dbKept_ensure condition message)

theorem extends_mapErr {α : Type} {x : Act α} (text : String → String) (inner : Keeps (Extends pairId folderId paths) x) :
    Keeps (Extends pairId folderId paths) (Act.mapErr text x) := by
  intro w
  rw [Act.after_mapErr]
  exact inner w

theorem extends_update (change : TrackedFile → TrackedFile) (id : Nat) (keepsId)
    (same : ∀ file, origin (change file) = origin file) :
    Keeps (Extends pairId folderId paths) (Act.execute (fun db => db.updateTrackedFile id change keepsId)) := by
  intro w _
  have rows : (w.db.updateTrackedFile id change keepsId).trackedFiles.rows =
      w.db.trackedFiles.rows.map (fun file => if file.id == id then change file else file) := rfl
  refine .of_rows rows (fun file => ?_) (.of_eq rfl)
  split
  · exact same file
  · rfl

theorem extends_updateTrackedFileChecksum (id size : Nat) (checksum : String) :
    Keeps (Extends pairId folderId paths) (Act.execute (fun db => db.updateTrackedFileChecksum id checksum size)) :=
  extends_update (fun file => { file with checksum,fileSize := size }) id (fun _ => rfl) fun _ => rfl

theorem extends_updateTrackedFileMirrorStatus (id : Nat) (isMirrored : Bool) :
    Keeps (Extends pairId folderId paths) (Act.execute (fun db => db.updateTrackedFileMirrorStatus id isMirrored)) :=
  extends_update (fun file => { file with isMirrored }) id (fun _ => rfl) fun _ => rfl

theorem extends_folder (p : TrackedFolder → Bool) (change : TrackedFolder → TrackedFolder) (keepsId)
    (keepsPlace : ∀ folder, place (change folder) = place folder) :
    Keeps (Extends pairId folderId paths) (Act.execute (fun db => db.updateFolderWhere p change keepsId)) := by
  intro w _
  have rows : (w.db.updateFolderWhere p change keepsId).trackedFiles.rows = w.db.trackedFiles.rows.map id :=
    (List.map_id _).symm
  exact .of_rows rows (fun _ => rfl) (placesKept_updateFolderWhere w.db p change keepsId keepsPlace)

theorem extends_startFolderScan (id totalFiles : Nat) :
    Keeps (Extends pairId folderId paths) (Act.insertOrFail (fun db => db.startFolderScan id totalFiles)) := by
  intro w _
  rw [Act.after_insertOrFail]
  unfold Db.startFolderScan
  split
  · exact .of_rows (List.map_id _).symm (fun _ => rfl) (placesKept_updateFolderWhere w.db _ _ _ fun _ => rfl)
  · exact Grows.refl w.db

theorem extends_dedup {α : Type} {update : Db → α × Db} (fileId : Nat) (action : SyncAction) (reason message : Option String)
    (queues : ∀ db, (update db).2 = (db.createSyncQueueItemDedupWithCreated fileId action reason message).2) :
    Keeps (Extends pairId folderId paths) (Act.insert update) := by
  intro w _
  have files := (w.db.createSyncQueueItemDedupWithCreated_frame fileId action reason message).2
  have folders : (w.db.createSyncQueueItemDedupWithCreated fileId action reason message).2.trackedFolders =
      w.db.trackedFolders := by
    unfold Db.createSyncQueueItemDedupWithCreated
    cases w.db.openSyncQueueItem fileId action reason <;> rfl
  rw [← queues] at files folders
  exact .of_tables files folders

theorem extends_recompute : Keeps (Extends pairId folderId paths)
    (Act.execute (fun db => db.recomputeFolderProvenanceForDrive pairId)) := fun _ covered => Grows.recompute covered

theorem extends_load (id : Nat) : Keeps (Extends pairId folderId paths) (loadOperationalPair id) := by
  intro w _
  rcases VirtualAssignment.after_loadOperationalPair id w with still | ⟨pair,_,loaded⟩
  · rw [still]
    exact Grows.refl w.db
  · rw [loaded]
    change Grows pairId paths w.db (w.db.operational w.disk pair)
    unfold Db.operational
    split
    · have rows : (w.db.failedOver pair).trackedFiles.rows = w.db.trackedFiles.rows.map
          (fun file => if file.drivePairId == pair.id then { file with isMirrored := false } else file) := rfl
      refine .of_rows rows (fun file => ?_) (.of_eq rfl)
      split
      · rfl
      · rfl
    · exact Grows.refl w.db

theorem extends_create {path : String} (member : path ∈ paths) (checksum : String) (fileSize : Nat) :
    Keeps (Extends pairId folderId paths) (Act.insertOrFail (fun db =>
      db.createTrackedFileWithSource pairId path checksum fileSize none false true)) := by
  intro w _
  rw [Act.after_insertOrFail]
  unfold Db.createTrackedFileWithSource
  split
  · exact Grows.refl w.db
  · constructor
    · intro file present
      exact ⟨file,List.mem_append_left _ present,rfl⟩
    · intro now present
      rcases List.mem_append.mp present with old | new
      · exact .inl ⟨now,old,rfl⟩
      · rw [List.mem_singleton.mp new]
        exact .inr ⟨rfl,member,rfl,rfl⟩
    · exact .of_eq rfl

/-! The scans. -/

theorem extends_bind_folder {α : Type} {f : TrackedFolder → Act α}
    (rest : ∀ folder, folder.drivePairId = pairId → Keeps (Extends pairId folderId paths) (f folder)) :
    Keeps (Extends pairId folderId paths) (Act.query (fun db => db.getTrackedFolder folderId) >>= f) := by
  intro w covered
  cases found : w.db.trackedFolders.find? folderId with
  | none =>
    have failed : Act.query (fun db => db.getTrackedFolder folderId) w = .error Db.queryReturnedNoRows w := by
      simp only [Act.query,Db.getTrackedFolder,found]
    rw [after_bind_of_error failed]
    exact Grows.refl w.db
  | some folder =>
    have read : Act.query (fun db => db.getTrackedFolder folderId) w = .ok folder w := by
      simp only [Act.query,Db.getTrackedFolder,found]
    have own := covered.home folder (Table.mem_of_find? found) (Table.find?_key found)
    rw [after_bind_of_ok read]
    exact rest folder own w covered

theorem extends_bind_load {α : Type} {f : DrivePair → Act α} (id : Nat)
    (rest : ∀ pair, pair.id = id → Keeps (Extends pairId folderId paths) (f pair)) :
    Keeps (Extends pairId folderId paths) (loadOperationalPair id >>= f) := by
  intro w
  have loads : Extends pairId folderId paths w (after (loadOperationalPair id) w) := extends_load id w
  rcases after_bind_cases (loadOperationalPair id) f w with ⟨message,failed⟩ | ⟨pair,t,ran,ends⟩
  · rwa [after_of_error failed] at loads
  · rw [after_of_ok ran] at loads
    rw [ends]
    obtain ⟨old,read,rfl,_⟩ := loadOperationalPair_success ran
    have key : (old.operational w.disk).id = id := by
      rw [DrivePair.operational_id]
      exact Table.find?_key (Db.getDrivePair_ok.mp read)
    exact trans_of (Extends pairId folderId paths) loads (rest _ key t)

theorem extends_metadataLen (location : Location) : Keeps (Extends pairId folderId paths) (metadataLen location) :=
  keeps_bind (extends_look _) fun _ => keeps_bind (extends_ensure _ _) fun _ => extends_look _

theorem extends_ensureWorldReadable (io : Io) (location : Location) :
    Keeps (Extends pairId folderId paths) (ensureWorldReadable io location) :=
  keeps_bind (extends_look _) fun _ => keeps_bind (extends_ensure _ _) fun _ => extends_ensure _ _

theorem extends_finish (walk : Walk) : Keeps (Extends pairId folderId paths) walk.finish := by
  unfold Walk.finish
  split
  · exact keeps_pure ()
  · exact extends_dbKept (dbKept_bail _)

section
variable [Blake3] {io : Io} {pair : DrivePair} {path : String}

theorem extends_checksumFile (location : Location) (strategy : ChecksumStrategy) :
    Keeps (Extends pairId folderId paths) (checksumFile io location strategy) :=
  extends_still fun w => congrArg World.db (checksumFile_after io w location strategy)

theorem extends_createTrackedFileFromDisk (own : pair.id = pairId) (member : path ∈ paths) :
    Keeps (Extends pairId folderId paths) (createTrackedFileFromDisk io pair path false true) := by
  subst own
  apply keeps_bind (extends_look _)
  intro _
  apply keeps_bind (extends_ensure _ _)
  intro _
  apply keeps_bind (extends_ensureWorldReadable io _)
  intro _
  apply keeps_bind (extends_mapErr _ (extends_checksumFile _ _))
  intro checksum
  apply keeps_bind (keeps_attempt (extends_still fun w => congrArg World.db ((looks_readB3Sidecar io _).still w)))
  intro _
  apply keeps_bind (extends_metadataLen _)
  intro size
  exact keeps_bind (extends_create member checksum size) fun _ => keeps_pure _

omit [Blake3] in
theorem extends_queueAutoTracked (file : TrackedFile) (mismatch : Option SidecarMismatch) :
    Keeps (Extends pairId folderId paths) (queueAutoTracked pair file mismatch) := by
  cases mismatch with
  | some mismatch => exact keeps_bind (extends_dedup _ _ _ _ fun _ => rfl) fun _ => keeps_pure _
  | none =>
    apply keeps_bind (extends_look _)
    intro accepts
    split
    · apply keeps_bind
      · exact keeps_bind (extends_dedup _ _ _ _ fun _ => rfl) fun _ => keeps_bind (extends_ensure _ _) fun _ => keeps_pure _
      · exact fun _ => keeps_pure _
    · exact extends_updateTrackedFileMirrorStatus _ _

theorem extends_autoTrackFile (own : pair.id = pairId) (member : path ∈ paths) :
    Keeps (Extends pairId folderId paths) (autoTrackFile io pair path) :=
  keeps_bind (extends_createTrackedFileFromDisk own member) fun _ =>
    keeps_bind (extends_queueAutoTracked _ _) fun _ => keeps_pure _

omit [Blake3] in
theorem extends_recordChange (fileId : Nat) (location : Location) (hash : String) :
    Keeps (Extends pairId folderId paths) (recordChange pair fileId location hash) := by
  apply keeps_bind (extends_metadataLen location)
  intro size
  apply keeps_bind (extends_updateTrackedFileChecksum fileId size hash)
  intro _
  apply keeps_bind (extends_updateTrackedFileMirrorStatus fileId false)
  intro _
  apply keeps_bind (extends_look _)
  intro accepts
  split
  · exact keeps_bind (extends_dedup _ _ _ _ fun _ => rfl) fun _ => keeps_pure _
  · exact keeps_pure _

theorem extends_scanFile (own : pair.id = pairId) (member : path ∈ paths) :
    Keeps (Extends pairId folderId paths) (scanFile io pair path) := by
  apply keeps_bind (keeps_attempt (extends_query _))
  intro existing
  cases existing with
  | ok existing =>
    apply keeps_bind (extends_checksumFile _ _)
    intro hash
    split
    · exact extends_recordChange _ _ _
    · exact keeps_pure _
  | error _ => exact keeps_bind (extends_autoTrackFile own member) fun _ => keeps_pure _

theorem extends_scanFiles (own : pair.id = pairId) (folder : TrackedFolder) (walked : List String) (count : Nat)
    (members : walked ⊆ paths) : Keeps (Extends pairId folderId paths) (scanFiles io pair folder count walked) := by
  induction walked generalizing count with
  | nil => exact keeps_pure _
  | cons path walked ih =>
    have rest := fun count => ih count fun _ member => members (List.mem_cons_of_mem path member)
    unfold scanFiles
    split
    · exact rest count
    · apply keeps_bind (extends_scanFile own (members List.mem_cons_self))
      intro _
      apply keeps_bind
      · exact extends_folder _ (fun other => { other with scanScannedFiles := count + 1 }) _ fun _ => rfl
      · exact fun _ => rest (count + 1)

theorem extends_scanTrackedFolder (own : pair.id = pairId) (walk : Walk) (folder : TrackedFolder)
    (members : walk.files ⊆ paths) : Keeps (Extends pairId folderId paths) (scanTrackedFolder io walk pair folder) := by
  apply keeps_bind (extends_query _)
  intro _
  apply keeps_bind (extends_scanFiles own folder walk.files 0 members)
  intro _
  apply keeps_bind (extends_finish walk)
  intro _
  rw [own]
  exact extends_recompute

/-- `POST /folders/:id/scan`, wherever it stops. -/
theorem extends_scanFolderRoute (counted walk : Walk) (members : walk.files ⊆ paths) :
    Keeps (Extends pairId folderId paths) (scanFolderRoute io counted walk folderId) := by
  apply extends_bind_folder
  intro folder home
  apply extends_bind_load
  intro _ _
  apply keeps_bind (keeps_bind (extends_finish counted) fun _ => keeps_pure _)
  intro total
  apply keeps_bind (extends_startFolderScan folder.id total)
  intro _
  apply keeps_bind
  · apply keeps_attempt
    apply extends_bind_folder
    intro folder home
    apply extends_bind_load
    intro pair key
    exact extends_scanTrackedFolder (key.trans home) walk folder members
  · intro _
    exact extends_folder _ (fun other => { other with scanning := false }) _ fun _ => rfl

theorem extends_autoTrackFiles (own : pair.id = pairId) (folder : TrackedFolder) (walked : List String)
    (members : walked ⊆ paths) : Keeps (Extends pairId folderId paths) (autoTrackFiles io pair folder walked) := by
  induction walked with
  | nil => exact keeps_pure _
  | cons path walked ih =>
    have rest := ih fun _ member => members (List.mem_cons_of_mem path member)
    unfold autoTrackFiles
    split
    · exact rest
    · apply keeps_bind _ fun _ => rest
      apply keeps_bind (keeps_attempt (extends_query _))
      intro existing
      cases existing with
      | ok _ => exact keeps_pure _
      | error _ => exact keeps_bind (extends_autoTrackFile own (members List.mem_cons_self)) fun _ => keeps_pure _

omit [Blake3] in
theorem extends_recordChanges (changes : List (TrackedFile × String)) :
    Keeps (Extends pairId folderId paths) (recordChanges pair changes) := by
  induction changes with
  | nil => exact keeps_pure _
  | cons change changes ih => exact keeps_bind (extends_recordChange _ _ _) fun _ => ih

theorem extends_detectChange (location : Location) (stored : String) :
    Keeps (Extends pairId folderId paths) (detectChange io location stored) := by
  apply keeps_bind (extends_look _)
  intro present
  split
  · exact keeps_pure _
  · apply keeps_bind (extends_checksumFile location _)
    intro current
    split
    · exact keeps_pure _
    · exact keeps_pure _

theorem extends_detectChanges (files : List TrackedFile) :
    Keeps (Extends pairId folderId paths) (detectChanges io pair files) := by
  induction files with
  | nil => exact keeps_pure _
  | cons file files ih =>
    apply keeps_bind (extends_detectChange _ file.checksum)
    exact fun _ => keeps_bind ih fun _ => keeps_pure _

/-- `folders scan`, wherever it stops. -/
theorem extends_scanFolderCommand (walk : Walk) (members : walk.files ⊆ paths) :
    Keeps (Extends pairId folderId paths) (scanFolderCommand io walk folderId) := by
  apply extends_bind_folder
  intro folder home
  apply extends_bind_load
  intro pair key
  have own : pair.id = pairId := key.trans home
  apply keeps_bind
  · apply keeps_bind (extends_query _)
    intro _
    apply keeps_bind (extends_autoTrackFiles own folder walk.files members)
    intro _
    apply keeps_bind (extends_finish walk)
    intro _
    rw [own]
    exact extends_recompute
  · intro _
    apply keeps_bind
    · exact keeps_bind (extends_query _) fun files => extends_detectChanges files
    · exact fun changes => extends_recordChanges changes

end

/-! Tracking the folder. -/

/-- How the files of a pair are tracked is what their flags say. -/
def WellFlagged (pairId : Nat) (db : Db) : Prop :=
  ∀ file ∈ db.trackedFiles.rows, file.drivePairId = pairId →
    file.trackedViaFolder = !file.trackedDirect ∧ (file.trackedDirect = false → InFolder db file)

/-- A folder that holds the file, or takes it as a pattern in any letter case, stands letter by letter at the
beginning of the file's path. -/
def Plain (folderPath relativePath : String) : Prop :=
  Reads folderPath relativePath ∨ Beneath folderPath relativePath → Begins folderPath relativePath

theorem Plain.like {folderPath relativePath : String} (plain : Plain folderPath relativePath) :
    Db.likeFolder folderPath relativePath = true ↔ Beneath folderPath relativePath := by
  rw [likeFolder_iff]
  constructor
  · exact fun reads => (plain (.inl reads)).beneath
  · exact fun beneath => (plain (.inr beneath)).reads

theorem Plain.under {folderPath relativePath : String} (plain : Plain folderPath relativePath) :
    Db.underFolder folderPath relativePath = true ↔ Beneath folderPath relativePath := by
  constructor
  · exact fun under => plain.like.mp (Db.likeFolder_of_underFolder under)
  · exact fun beneath => underFolder_iff.mpr (spells_iff.mpr (.inl (plain (.inr beneath))))

theorem orUndo_success {undo : Db → Db} {x : Act Unit} {w t : World} (ok : orUndo undo x w = .ok () t) : x w = .ok () t := by
  obtain ⟨result,u,tried,ends⟩ := bind_success ok
  cases result with
  | ok _ =>
    cases ends
    exact attempt_success tried
  | error message =>
    obtain ⟨_,v,_,fails⟩ := bind_success ends
    cases fails

theorem extends_publishFolder (links : LinkAnswers) (id : Nat) (virtualPath : Option String) :
    Keeps (Extends pairId folderId paths) (publishFolder links id virtualPath) := by
  cases virtualPath with
  | none => exact keeps_pure ()
  | some virtualPath =>
    apply keeps_bind (extends_query _)
    intro folder
    apply keeps_bind (extends_load _)
    intro _
    apply keeps_bind (extends_query _)
    intro normalized
    apply keeps_bind
    · exact extends_folder _ (fun other => { other with virtualPath := some normalized }) _ fun _ => rfl
    · intro _
      split
      · exact extends_query _
      · exact keeps_pure ()

theorem track_ok {io : Io} {links : LinkAnswers} {isDir : Bool} {pair : DrivePair} {folderPath : String}
    {virtualPath : Option String} {sidecars : Bool} {folder : TrackedFolder} {w t : World}
    (tracked : trackFolderWithOptions io links isDir pair folderPath virtualPath sidecars w = .ok folder t) :
    ∃ row added, w.db.createTrackedFolderWithSidecars pair.id folderPath none sidecars = (.ok row,added) ∧
      folder.id = row.id ∧
      ∀ paths, Covered pair.id row.id paths added → Grows pair.id paths added t.db := by
  obtain ⟨_,a,allowed,tracked⟩ := bind_success tracked
  obtain ⟨_,b,marked,tracked⟩ := bind_success tracked
  obtain ⟨_,c,there,tracked⟩ := bind_success tracked
  obtain ⟨row,d,inserted,tracked⟩ := bind_success tracked
  obtain ⟨_,e,published,tracked⟩ := bind_success tracked
  obtain ⟨_,f,computed,read⟩ := bind_success tracked
  have first : a = w := (Act.query_success allowed).2
  have second : c = b := (Act.ensure_success there).2
  have same : c.db = w.db := by
    have kept := dbKept_ensureDriveRootMarker io pair.activePath a
    rw [after_of_ok marked,first] at kept
    rw [second]
    exact kept
  have value := Act.insertOrFail_value inserted
  rw [same] at value
  obtain ⟨found,last⟩ := Act.query_success read
  refine ⟨row,d.db,value,?_,fun paths covered => ?_⟩
  · unfold Db.getTrackedFolder at found
    split at found
    · rename_i there
      cases found
      exact Table.find?_key there
    · cases found
  · have publishes : Extends pair.id row.id paths d (after (publishFolder links row.id virtualPath) d) :=
      extends_publishFolder links row.id virtualPath d
    rw [after_of_ok (orUndo_success published)] at publishes
    have grows := publishes covered
    cases computed
    rw [last]
    exact grows.trans (Grows.recompute (covered.grows grows))

theorem covered_added {pairId : Nat} {folderPath : String} {sidecars : Bool} {row : TrackedFolder} {db added : Db}
    (created : db.createTrackedFolderWithSidecars pairId folderPath none sidecars = (.ok row,added))
    (flags : WellFlagged pairId db) (below : ∀ path ∈ paths, Db.likeFolder folderPath path = true)
    (plain : ∀ folder ∈ db.trackedFolders.rows, folder.drivePairId = pairId → ∀ file ∈ db.trackedFiles.rows,
      file.drivePairId = pairId → Plain folder.folderPath file.relativePath) :
    Covered pairId row.id paths added ∧ added.trackedFiles = db.trackedFiles ∧
      row.drivePairId = pairId ∧ row.folderPath = folderPath ∧ row.id = db.trackedFolders.lastId + 1 ∧
      added.trackedFolders.rows = db.trackedFolders.rows ++ [row] := by
  unfold Db.createTrackedFolderWithSidecars at created
  split at created
  · cases created
  · split at created
    · cases created
      refine ⟨⟨fun file present own => ?_,fun path member => ?_,fun folder present same => ?_⟩,rfl,rfl,rfl,rfl,rfl⟩
      · obtain ⟨via,inside⟩ := flags file present own
        refine ⟨via,fun indirect => ?_⟩
        obtain ⟨folder,there,ofPair,beneath⟩ := inside indirect
        have like := (plain folder there (ofPair.trans own) file present own).like.mpr beneath
        exact inTrackedFolder_iff.mpr ⟨folder,List.mem_append_left _ there,ofPair,like⟩
      · exact ⟨_,List.mem_append_right _ (List.mem_singleton_self _),rfl,below path member⟩
      · rcases List.mem_append.mp present with old | new
        · have bound : folder.id ≤ db.trackedFolders.lastId := db.trackedFolders.bounded folder old
          rw [same] at bound
          exact absurd bound (Nat.not_succ_le_self _)
        · rw [List.mem_singleton.mp new]
    · cases created

/-! Taking the folder away. -/

/-- The cascade before its last statement. -/
def uncovered (db : Db) (folder : TrackedFolder) : Db :=
  db.deleteFolderCascadeTx folder.id
    ((db.listFolderOriginDescendantFiles folder.drivePairId folder.folderPath folder.id).map TrackedFile.id)

theorem mem_uncovered {folder : TrackedFolder} {file : TrackedFile} : file ∈ (uncovered db folder).trackedFiles.rows ↔
    file ∈ db.trackedFiles.rows ∧
      file ∉ db.listFolderOriginDescendantFiles folder.drivePairId folder.folderPath folder.id := by
  have search (id : Nat) : (uncovered db folder).trackedFiles.find? id =
      if id ∈ (db.listFolderOriginDescendantFiles folder.drivePairId folder.folderPath folder.id).map TrackedFile.id then none
      else db.trackedFiles.find? id := Db.find?_deleteTrackedFiles _ _ _
  constructor
  · intro present
    have found : (uncovered db folder).trackedFiles.find? file.id = some file := Table.find?_of_mem _ present
    rw [search] at found
    split at found
    · cases found
    · rename_i other
      exact ⟨Table.mem_of_find? found,fun listed => other (List.mem_map_of_mem listed)⟩
  · rintro ⟨present,other⟩
    have found : db.trackedFiles.find? file.id = some file := Table.find?_of_mem _ present
    have out : file.id ∉ (db.listFolderOriginDescendantFiles folder.drivePairId folder.folderPath folder.id).map
        TrackedFile.id := by
      intro listed
      obtain ⟨second,member,same⟩ := List.mem_map.mp listed
      have equal : second = file := Table.key_injective _ (Table.mem_of_find? (mem_descendants.mp member).1) present same
      rw [equal] at member
      exact other member
    have there := search file.id
    rw [if_neg out,found] at there
    exact Table.mem_of_find? there

theorem mem_uncovered_folders {folder other : TrackedFolder} : other ∈ (uncovered db folder).trackedFolders.rows ↔
    other ∈ db.trackedFolders.rows ∧ other.id ≠ folder.id := by
  have rows : (uncovered db folder).trackedFolders = db.trackedFolders.deleteWhere (fun other => other.id == folder.id) := by
    rw [← Db.deleteTrackedFiles_trackedFolders db
      ((db.listFolderOriginDescendantFiles folder.drivePairId folder.folderPath folder.id).map TrackedFile.id)]
    rfl
  rw [rows,Table.deleteWhere_rows,List.mem_filter]
  simp only [Bool.not_eq_true',beq_eq_false_iff_ne]

/-! The round trip. -/

/-- A scan of a folder, by the command or by the route with its count. -/
inductive Scan
  | command (walk : Walk)
  | route (counted walk : Walk)

def Scan.walk : Scan → Walk
  | .command walk => walk
  | .route _ walk => walk

def Scan.run [Blake3] (io : Io) (folderId : Nat) : Scan → Act Unit
  | .command walk => scanFolderCommand io walk folderId
  | .route counted walk => scanFolderRoute io counted walk folderId

theorem extends_scan [Blake3] (io : Io) (scan : Scan) :
    Keeps (Extends pairId folderId scan.walk.files) (scan.run io folderId) := by
  cases scan with
  | command walk => exact extends_scanFolderCommand walk (List.Subset.refl _)
  | route counted walk => exact extends_scanFolderRoute counted walk (List.Subset.refl _)

/-- What stays: the files that were there, and of those that the scan brought in the ones that lie in a folder
that was tracked before. -/
structure RoundTrip (pairId : Nat) (walked : List String) (db scanned last : Db) : Prop where
  before : ∀ file ∈ db.trackedFiles.rows, ∃ now ∈ last.trackedFiles.rows, origin now = origin file
  after : ∀ now ∈ last.trackedFiles.rows, (∃ file ∈ db.trackedFiles.rows, origin now = origin file) ∨
    now.drivePairId = pairId ∧ now.relativePath ∈ walked ∧ now.trackedDirect = false ∧ now.trackedViaFolder = true ∧
      InFolder db now
  others : ∀ file ∈ scanned.trackedFiles.rows, file.drivePairId = pairId → InFolder db file →
    ∃ now ∈ last.trackedFiles.rows, origin now = origin file

/-- The folder is one of those that are tracked before and while it is. -/
def Concerned (pairId : Nat) (folderPath : String) (db : Db) (other : String) : Prop :=
  other = folderPath ∨ ∃ folder ∈ db.trackedFolders.rows, folder.drivePairId = pairId ∧ folder.folderPath = other

/-- Tracked before, or met by the walk. -/
def Met (pairId : Nat) (walked : List String) (db : Db) (path : String) : Prop :=
  path ∈ walked ∨ ∃ file ∈ db.trackedFiles.rows, file.drivePairId = pairId ∧ file.relativePath = path

/-- After the scan, before the folder goes. -/
structure Standing (pairId : Nat) (walked : List String) (folderPath : String) (row : TrackedFolder) (db scanned : Db) :
    Prop where
  covered : Covered pairId row.id walked scanned
  kept : ∀ file ∈ db.trackedFiles.rows, ∃ now ∈ scanned.trackedFiles.rows, origin now = origin file
  fresh : ∀ now ∈ scanned.trackedFiles.rows, (∃ file ∈ db.trackedFiles.rows, origin now = origin file) ∨
    now.drivePairId = pairId ∧ now.relativePath ∈ walked ∧ now.trackedDirect = false ∧ now.trackedViaFolder = true
  older : ∀ folder ∈ db.trackedFolders.rows, ∃ now ∈ scanned.trackedFolders.rows,
    now.id ≠ row.id ∧ now.drivePairId = folder.drivePairId ∧ now.folderPath = folder.folderPath
  olderOnly : ∀ now ∈ scanned.trackedFolders.rows, now.id ≠ row.id → ∃ folder ∈ db.trackedFolders.rows,
    now.drivePairId = folder.drivePairId ∧ now.folderPath = folder.folderPath
  own : ∀ now ∈ scanned.trackedFolders.rows, now.id = row.id → now.drivePairId = pairId ∧ now.folderPath = folderPath

theorem standing_of_grows {walked : List String} {folderPath : String} {sidecars : Bool} {row : TrackedFolder}
    {db added scanned : Db} (created : db.createTrackedFolderWithSidecars pairId folderPath none sidecars = (.ok row,added))
    (flags : WellFlagged pairId db) (below : ∀ path ∈ walked, Db.likeFolder folderPath path = true)
    (plain : ∀ folder ∈ db.trackedFolders.rows, folder.drivePairId = pairId → ∀ file ∈ db.trackedFiles.rows,
      file.drivePairId = pairId → Plain folder.folderPath file.relativePath)
    (grows : Grows pairId walked added scanned) : Standing pairId walked folderPath row db scanned := by
  obtain ⟨covered,files,ofPair,path,id,folders⟩ := covered_added created flags below plain
  have apart {folder : TrackedFolder} (old : folder ∈ db.trackedFolders.rows) : folder.id ≠ row.id := by
    have bound : folder.id ≤ db.trackedFolders.lastId := db.trackedFolders.bounded folder old
    omega
  have source {now : TrackedFolder} (present : now ∈ scanned.trackedFolders.rows) :
      ∃ folder ∈ db.trackedFolders.rows ++ [row], folder.id = now.id ∧ place folder = place now := by
    rw [← folders]
    exact row_kept (places_back grows.folders) present
  constructor
  · exact covered.grows grows
  · rw [← files]
    exact grows.kept
  · rw [← files]
    exact grows.fresh
  · intro folder old
    obtain ⟨now,present,same,places⟩ := row_kept grows.folders (folders ▸ List.mem_append_left _ old)
    obtain ⟨samePair,samePath⟩ := Prod.mk.inj places
    exact ⟨now,present,same ▸ apart old,samePair,samePath⟩
  · intro now present other
    obtain ⟨folder,there,same,places⟩ := source present
    obtain ⟨samePair,samePath⟩ := Prod.mk.inj places
    rcases List.mem_append.mp there with old | new
    · exact ⟨folder,old,samePair.symm,samePath.symm⟩
    · rw [List.mem_singleton.mp new] at same
      exact absurd same.symm other
  · intro now present own
    obtain ⟨folder,there,same,places⟩ := source present
    obtain ⟨samePair,samePath⟩ := Prod.mk.inj places
    rcases List.mem_append.mp there with old | new
    · exact absurd (same.trans own) (apart old)
    · rw [List.mem_singleton.mp new] at samePair samePath
      exact ⟨samePair.symm.trans ofPair,samePath.symm.trans path⟩

section
variable {walked : List String} {folderPath : String} {row folder : TrackedFolder} {scanned : Db}

theorem takenByOther_iff (standing : Standing pairId walked folderPath row db scanned) {path : String}
    (plain : ∀ folder ∈ db.trackedFolders.rows, folder.drivePairId = pairId → Plain folder.folderPath path) :
    scanned.takenByOther pairId row.id path = true ↔
      ∃ folder ∈ db.trackedFolders.rows, folder.drivePairId = pairId ∧ Beneath folder.folderPath path := by
  rw [Db.takenByOther,List.any_eq_true]
  simp only [Bool.and_eq_true,beq_iff_eq,bne_iff_ne,and_assoc]
  constructor
  · rintro ⟨now,present,own,other,under⟩
    obtain ⟨folder,old,samePair,samePath⟩ := standing.olderOnly now present other
    rw [samePath] at under
    exact ⟨folder,old,samePair.symm.trans own,(plain folder old (samePair.symm.trans own)).under.mp under⟩
  · rintro ⟨folder,old,own,beneath⟩
    obtain ⟨now,present,other,samePair,samePath⟩ := standing.older folder old
    refine ⟨now,present,samePair.trans own,other,?_⟩
    rw [samePath]
    exact (plain folder old own).under.mpr beneath

theorem roundTrip_of_standing (standing : Standing pairId walked folderPath row db scanned) (flags : WellFlagged pairId db)
    (below : ∀ path ∈ walked, Db.underFolder folderPath path = true)
    (plain : ∀ other, Concerned pairId folderPath db other → ∀ path, Met pairId walked db path → Plain other path)
    (found : scanned.trackedFolders.find? row.id = some folder) :
    RoundTrip pairId walked db scanned (cascaded scanned folder) := by
  have id : folder.id = row.id := Table.find?_key found
  obtain ⟨ofPair,ofPath⟩ := standing.own folder (Table.mem_of_find? found) id
  have met {now : TrackedFile} (present : now ∈ scanned.trackedFiles.rows) (own : now.drivePairId = pairId) :
      Met pairId walked db now.relativePath := by
    rcases standing.fresh now present with ⟨file,old,same⟩ | ⟨_,path,_⟩
    · rw [origin,origin,Origin.mk.injEq] at same
      exact .inr ⟨file,old,same.2.1.symm.trans own,same.2.2.1.symm⟩
    · exact .inl path
  have taken {now : TrackedFile} (present : now ∈ scanned.trackedFiles.rows) (own : now.drivePairId = pairId) :
      scanned.takenByOther pairId row.id now.relativePath = true ↔ InFolder db now := by
    rw [takenByOther_iff standing fun other old ofOther =>
      plain _ (.inr ⟨other,old,ofOther,rfl⟩) _ (met present own),InFolder,own]
  -- A file that only the folder brought in goes with it, so one that is left lies in an older folder.
  have leaves {now : TrackedFile} (left : now ∈ (uncovered scanned folder).trackedFiles.rows) (own : now.drivePairId = pairId)
      (indirect : now.trackedDirect = false) : InFolder db now := by
    obtain ⟨present,other⟩ := mem_uncovered.mp left
    obtain ⟨via,_⟩ := standing.covered.settled now present own
    rw [indirect] at via
    rcases standing.fresh now present with ⟨file,old,same⟩ | ⟨_,path,_⟩
    · rw [origin,origin,Origin.mk.injEq] at same
      obtain ⟨_,samePair,samePath,sameDirect,_⟩ := same
      have inside := (flags file old (samePair.symm.trans own)).2 (sameDirect.symm.trans indirect)
      rwa [inFolder_congr samePair samePath]
    · rw [← taken present own]
      by_contra alone
      rw [Bool.not_eq_true] at alone
      have there : scanned.trackedFiles.find? now.id = some now := Table.find?_of_mem _ present
      apply other
      rw [mem_descendants,ofPair,ofPath,id]
      exact ⟨there,own,indirect,via,below _ path,alone⟩
  have still {now : TrackedFile} (left : now ∈ (uncovered scanned folder).trackedFiles.rows) :
      (uncovered scanned folder).provenanceOf pairId now = now := by
    apply provenanceOf_settled
    intro own
    obtain ⟨present,_⟩ := mem_uncovered.mp left
    refine ⟨(standing.covered.settled now present own).1,fun indirect => ?_⟩
    obtain ⟨older,old,ofOlder,beneath⟩ := leaves left own indirect
    obtain ⟨other,there,apart,samePair,samePath⟩ := standing.older older old
    have like := (plain _ (.inr ⟨older,old,ofOlder.trans own,rfl⟩) _ (met present own)).like.mpr beneath
    rw [← id] at apart
    exact inTrackedFolder_iff.mpr ⟨other,mem_uncovered_folders.mpr ⟨there,apart⟩,samePair.trans ofOlder,
      by rw [samePath]; exact like⟩
  have tables : cascaded scanned folder = (uncovered scanned folder).recomputeFolderProvenanceForDrive pairId := by
    rw [cascaded,uncovered,ofPair]
  have stays {now : TrackedFile} (present : now ∈ scanned.trackedFiles.rows)
      (held : now.drivePairId = pairId → now.trackedDirect = false → InFolder db now) :
      now ∈ (cascaded scanned folder).trackedFiles.rows := by
    have left : now ∈ (uncovered scanned folder).trackedFiles.rows := by
      refine mem_uncovered.mpr ⟨present,fun listed => ?_⟩
      obtain ⟨_,own,indirect,_,_,alone⟩ := mem_descendants.mp listed
      rw [ofPair] at own
      rw [ofPair,id,(taken present own).mpr (held own indirect)] at alone
      cases alone
    rw [tables,← still left]
    exact mem_recompute pairId left
  constructor
  · intro file old
    obtain ⟨now,present,same⟩ := standing.kept file old
    refine ⟨now,stays present fun own indirect => ?_,same⟩
    rw [origin,origin,Origin.mk.injEq] at same
    obtain ⟨_,samePair,samePath,sameDirect,_⟩ := same
    have inside := (flags file old (samePair.symm.trans own)).2 (sameDirect.symm.trans indirect)
    rwa [inFolder_congr samePair samePath]
  · intro now there
    rw [tables] at there
    obtain ⟨file,left,same⟩ := of_mem_recompute there
    rw [still left] at same
    subst same
    rcases standing.fresh file (mem_uncovered.mp left).1 with old | ⟨own,path,direct,via⟩
    · exact .inl old
    · exact .inr ⟨own,path,direct,via,leaves left own direct⟩
  · exact fun file present own inside => ⟨file,stays present fun _ _ => inside,rfl⟩

end

open VirtualRetarget VirtualAssignment

def noLinks : LinkAnswers := ⟨fun _ => .error "",.ok ()⟩

def untrackedWorld (folders : Table TrackedFolder) (relativePath : String) : World where
  db := { foldersDb folders with trackedFiles := Table.empty }
  disk := ⟨fun location => if location.relativePath = relativePath then some ⟨[1],none⟩ else none,fun _ => true⟩

theorem wellFlagged_untrackedWorld (folders : Table TrackedFolder) (relativePath : String) :
    WellFlagged 1 (untrackedWorld folders relativePath).db := fun _ present => absurd present List.not_mem_nil

def oneFile (relativePath : String) : Scan := .command ⟨[relativePath],none⟩

def returns {α σ : Type} (p : α → Bool) : EStateM.Result String σ α → Bool
  | .ok a _ => p a
  | .error _ _ => false

theorem ok_of_returns {α σ : Type} {x : EStateM String σ α} {s : σ} {p : α → Bool} (held : returns p (x s) = true) :
    ∃ a, x s = .ok a (after x s) ∧ p a = true := by
  unfold after
  cases ran : x s with
  | ok a t =>
    rw [ran] at held
    exact ⟨a,rfl,held⟩
  | error message t =>
    rw [ran] at held
    cases held

section
variable [Blake3]

/-- Tracking the folder, and the scan of its one file. -/
def trackOne (folderPath : String) : Act TrackedFolder :=
  trackFolderWithOptions .healthy noLinks true (firstPair 1) folderPath none false

def scannedOne (folders : Table TrackedFolder) (folderPath relativePath : String) (folderId : Nat) : Linked where
  world := after ((oneFile relativePath).run .healthy folderId)
    (after (trackOne folderPath) (untrackedWorld folders relativePath))
  links := fun _ => none

end

/-- The same files as before, tracked in the same way. -/
structure SameFiles (db last : Db) : Prop where
  before : ∀ file ∈ db.trackedFiles.rows, ∃ now ∈ last.trackedFiles.rows, origin now = origin file
  after : ∀ now ∈ last.trackedFiles.rows, ∃ file ∈ db.trackedFiles.rows, origin now = origin file

end BitProtector.ScanRoundTrip
