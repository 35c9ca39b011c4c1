import BitProtector.FolderWalk

/-! The scans of a folder over a file system with links: they end, and no file gets tracked under
two paths exactly if no two ways into the folder, by links or none, and no two hard links lead to one file. -/
namespace BitProtector.TrackedOnce
open Effect Paths MirrorFrames FileTree PathResolution PathTexts ScanStates ScanWalks FolderWalk

/-! The rows that a scan adds. -/

/-- The files of the pair are those that it had, and some of these paths. -/
def Adds (pairId : Nat) (paths : List String) (w t : World) : Prop :=
  ∀ now ∈ t.db.trackedFiles.rows, now.drivePairId = pairId → now.relativePath ∈ paths ∨
    ∃ file ∈ w.db.trackedFiles.rows, file.drivePairId = pairId ∧ file.relativePath = now.relativePath

instance {pairId : Nat} {paths : List String} : IsPreorder World (Adds pairId paths) where
  refl _ now present own := .inr ⟨now,present,own,rfl⟩
  trans _ _ _ first second later present own := by
    rcases second later present own with listed | ⟨now,there,own',same⟩
    · exact .inl listed
    · rcases first now there own' with listed | ⟨file,row,own'',path⟩
      · exact .inl (same ▸ listed)
      · exact .inr ⟨file,row,own'',path.trans same⟩

section
variable {pairId : Nat} {paths : List String}

theorem adds_kept {α : Type} {x : Act α} (kept : ∀ w, ∀ now ∈ (after x w).db.trackedFiles.rows,
    ∃ file ∈ w.db.trackedFiles.rows, file.drivePairId = now.drivePairId ∧ file.relativePath = now.relativePath) :
    Keeps (Adds pairId paths) x := by
  intro w now present own
  obtain ⟨file,row,pair,path⟩ := kept w now present
  exact .inr ⟨file,row,pair.trans own,path⟩

theorem adds_still {α : Type} {x : Act α} (still : ∀ w, (after x w).db = w.db) : Keeps (Adds pairId paths) x :=
  adds_kept fun w now present => ⟨now,by rwa [still] at present,rfl,rfl⟩

theorem adds_query {α : Type} (read : Db → Except String α) : Keeps (Adds pairId paths) (Act.query read) :=
  adds_still fun w => congrArg World.db (Act.after_query read w)

theorem adds_look {α : Type} (view : Disk → α) : Keeps (Adds pairId paths) (Act.look view) := adds_still (dbKept_look view)

theorem adds_ensure (condition : Bool) (message : String) : Keeps (Adds pairId paths) (Act.ensure condition message) :=
  adds_still (dbKept_ensure condition message)

theorem adds_mapErr {α : Type} {x : Act α} (text : String → String) (inner : Keeps (Adds pairId paths) x) :
    Keeps (Adds pairId paths) (Act.mapErr text x) := by
  intro w
  rw [Act.after_mapErr]
  exact inner w

theorem adds_update (change : TrackedFile → TrackedFile) (id : Nat) (keepsId)
    (same : ∀ file, (change file).drivePairId = file.drivePairId ∧ (change file).relativePath = file.relativePath) :
    Keeps (Adds pairId paths) (Act.execute (fun db => db.updateTrackedFile id change keepsId)) := by
  apply adds_kept
  intro w now present
  have rows : (w.db.updateTrackedFile id change keepsId).trackedFiles.rows =
      w.db.trackedFiles.rows.map (fun file => if file.id == id then change file else file) := rfl
  change now ∈ (w.db.updateTrackedFile id change keepsId).trackedFiles.rows at present
  rw [rows] at present
  obtain ⟨file,row,rfl⟩ := List.mem_map.mp present
  refine ⟨file,row,?_⟩
  split
  · exact ⟨(same file).1.symm,(same file).2.symm⟩
  · exact ⟨rfl,rfl⟩

theorem adds_updateTrackedFileMirrorStatus (id : Nat) (isMirrored : Bool) :
    Keeps (Adds pairId paths) (Act.execute (fun db => db.updateTrackedFileMirrorStatus id isMirrored)) :=
  adds_update (fun file => { file with isMirrored }) id (fun _ => rfl) fun _ => ⟨rfl,rfl⟩

theorem adds_updateTrackedFileChecksum (id size : Nat) (checksum : String) :
    Keeps (Adds pairId paths) (Act.execute (fun db => db.updateTrackedFileChecksum id checksum size)) :=
  adds_update (fun file => { file with checksum,fileSize := size }) id (fun _ => rfl) fun _ => ⟨rfl,rfl⟩

theorem adds_dedup {α : Type} {update : Db → α × Db} (fileId : Nat) (action : SyncAction) (reason message : Option String)
    (queues : ∀ db, (update db).2 = (db.createSyncQueueItemDedupWithCreated fileId action reason message).2) :
    Keeps (Adds pairId paths) (Act.insert update) := by
  apply adds_kept
  intro w now present
  have files := (w.db.createSyncQueueItemDedupWithCreated_frame fileId action reason message).2
  rw [← queues] at files
  change now ∈ (update w.db).2.trackedFiles.rows at present
  rw [files] at present
  exact ⟨now,present,rfl,rfl⟩

theorem adds_recompute (id : Nat) :
    Keeps (Adds pairId paths) (Act.execute (fun db => db.recomputeFolderProvenanceForDrive id)) := by
  apply adds_kept
  intro w now present
  obtain ⟨file,row,rfl⟩ := of_mem_recompute present
  obtain ⟨_,pair,path⟩ := provenanceOf_keeps w.db id file
  exact ⟨file,row,pair.symm,path.symm⟩

theorem adds_create {path : String} (member : path ∈ paths) (checksum : String) (fileSize : Nat) :
    Keeps (Adds pairId paths) (Act.insertOrFail (fun db =>
      db.createTrackedFileWithSource pairId path checksum fileSize none false true)) := by
  intro w now present own
  rw [Act.after_insertOrFail] at present
  unfold Db.createTrackedFileWithSource at present
  split at present
  · exact .inr ⟨now,present,own,rfl⟩
  · rcases List.mem_append.mp present with old | new
    · exact .inr ⟨now,old,own,rfl⟩
    · rw [List.mem_singleton.mp new]
      exact .inl member

theorem adds_metadataLen (location : Location) : Keeps (Adds pairId paths) (metadataLen location) :=
  keeps_bind (adds_look _) fun _ => keeps_bind (adds_ensure _ _) fun _ => adds_look _

section
variable [Blake3] {io : Io} {pair : DrivePair} {path : String}

theorem adds_createTrackedFileFromDisk (own : pair.id = pairId) (member : path ∈ paths) :
    Keeps (Adds pairId paths) (createTrackedFileFromDisk io pair path false true) := by
  subst own
  apply keeps_bind (adds_look _)
  intro _
  apply keeps_bind (adds_ensure _ _)
  intro _
  apply keeps_bind (keeps_bind (adds_look _) fun _ => keeps_bind (adds_ensure _ _) fun _ => adds_ensure _ _)
  intro _
  apply keeps_bind (adds_mapErr _ (adds_still fun w => congrArg World.db (checksumFile_after io w _ _)))
  intro checksum
  apply keeps_bind (keeps_attempt (adds_still fun w => congrArg World.db ((looks_readB3Sidecar io _).still w)))
  intro _
  apply keeps_bind (adds_metadataLen _)
  intro size
  exact keeps_bind (adds_create member checksum size) fun _ => keeps_pure _

omit [Blake3] in
theorem adds_queueAutoTracked (file : TrackedFile) (mismatch : Option SidecarMismatch) :
    Keeps (Adds pairId paths) (queueAutoTracked pair file mismatch) := by
  cases mismatch with
  | some mismatch => exact keeps_bind (adds_dedup _ _ _ _ fun _ => rfl) fun _ => keeps_pure _
  | none =>
    apply keeps_bind (adds_look _)
    intro accepts
    split
    · apply keeps_bind
      · exact keeps_bind (adds_dedup _ _ _ _ fun _ => rfl) fun _ => keeps_bind (adds_ensure _ _) fun _ => keeps_pure _
      · exact fun _ => keeps_pure _
    · exact adds_updateTrackedFileMirrorStatus _ _

theorem adds_autoTrackFile (own : pair.id = pairId) (member : path ∈ paths) :
    Keeps (Adds pairId paths) (autoTrackFile io pair path) :=
  keeps_bind (adds_createTrackedFileFromDisk own member) fun _ => keeps_bind (adds_queueAutoTracked _ _) fun _ => keeps_pure _

omit [Blake3] in
theorem adds_recordChange (fileId : Nat) (location : Location) (hash : String) :
    Keeps (Adds pairId paths) (recordChange pair fileId location hash) := by
  apply keeps_bind (adds_metadataLen location)
  intro size
  apply keeps_bind (adds_updateTrackedFileChecksum fileId size hash)
  intro _
  apply keeps_bind (adds_updateTrackedFileMirrorStatus fileId false)
  intro _
  apply keeps_bind (adds_look _)
  intro accepts
  split
  · exact keeps_bind (adds_dedup _ _ _ _ fun _ => rfl) fun _ => keeps_pure _
  · exact keeps_pure _

theorem adds_scanFile (own : pair.id = pairId) (member : path ∈ paths) : Keeps (Adds pairId paths) (scanFile io pair path) := by
  apply keeps_bind (keeps_attempt (adds_query _))
  intro existing
  cases existing with
  | ok existing =>
    apply keeps_bind (adds_still fun w => congrArg World.db (checksumFile_after io w _ _))
    intro hash
    split
    · exact adds_recordChange _ _ _
    · exact keeps_pure _
  | error _ => exact keeps_bind (adds_autoTrackFile own member) fun _ => keeps_pure _

theorem adds_scanFiles (own : pair.id = pairId) (folder : TrackedFolder) (walked : List String) (count : Nat)
    (members : visits folder walked ⊆ paths) : Keeps (Adds pairId paths) (scanFiles io pair folder count walked) := by
  induction walked generalizing count with
  | nil => exact keeps_pure _
  | cons path walked ih =>
    unfold scanFiles
    cases skipped : passedOver folder path with
    | true =>
      rw [if_pos rfl]
      exact ih count fun _ member => members (by rwa [visits,List.filter_cons_of_neg (by simp [skipped])])
    | false =>
      have here : visits folder (path::walked) = path::visits folder walked := List.filter_cons_of_pos (by simp [skipped])
      rw [here] at members
      rw [if_neg Bool.false_ne_true]
      apply keeps_bind (adds_scanFile own (members List.mem_cons_self))
      intro _
      apply keeps_bind
      · exact adds_kept fun _ now present => ⟨now,present,rfl,rfl⟩
      · exact fun _ => ih (count + 1) fun _ member => members (List.mem_cons_of_mem path member)

theorem adds_autoTrackFiles (own : pair.id = pairId) (folder : TrackedFolder) (walked : List String)
    (members : visits folder walked ⊆ paths) : Keeps (Adds pairId paths) (autoTrackFiles io pair folder walked) := by
  induction walked with
  | nil => exact keeps_pure _
  | cons path walked ih =>
    unfold autoTrackFiles
    cases skipped : passedOver folder path with
    | true =>
      rw [if_pos rfl]
      exact ih fun _ member => members (by rwa [visits,List.filter_cons_of_neg (by simp [skipped])])
    | false =>
      have here : visits folder (path::walked) = path::visits folder walked := List.filter_cons_of_pos (by simp [skipped])
      rw [here] at members
      rw [if_neg Bool.false_ne_true]
      apply keeps_bind
      · apply keeps_bind (keeps_attempt (adds_query _))
        intro existing
        cases existing with
        | ok _ => exact keeps_pure _
        | error _ => exact keeps_bind (adds_autoTrackFile own (members List.mem_cons_self)) fun _ => keeps_pure _
      · exact fun _ => ih fun _ member => members (List.mem_cons_of_mem path member)

omit [Blake3] in
theorem adds_finish (walk : Walk) : Keeps (Adds pairId paths) walk.finish := by
  unfold Walk.finish
  split
  · exact keeps_pure ()
  · exact adds_still (dbKept_bail _)

theorem adds_scans (io : Io) (pair : DrivePair) (folder : TrackedFolder) (walk : Walk) :
    Keeps (Adds pair.id (visits folder walk.files)) (autoTrackFolderFiles io walk pair folder) ∧
      Keeps (Adds pair.id (visits folder walk.files)) (scanTrackedFolder io walk pair folder) := by
  constructor
  · apply keeps_bind (adds_query _)
    intro _
    apply keeps_bind (adds_autoTrackFiles rfl folder walk.files (List.Subset.refl _))
    intro _
    exact keeps_bind (adds_finish walk) fun _ => adds_recompute _
  · apply keeps_bind (adds_query _)
    intro _
    apply keeps_bind (adds_scanFiles rfl folder walk.files 0 (List.Subset.refl _))
    intro _
    exact keeps_bind (adds_finish walk) fun _ => adds_recompute _

theorem refused_quiescing {folder : TrackedFolder} {walk : Walk} (quiescing : pair.isQuiescing = true) (w : World) :
    after (autoTrackFolderFiles io walk pair folder) w = w ∧ after (scanTrackedFolder io walk pair folder) w = w := by
  have refused : ∃ message, Act.query (fun _ => requirePairMutationAllowed pair) w = .error message w := by
    rw [Act.query,requirePairMutationAllowed,quiescing]
    exact ⟨_,rfl⟩
  obtain ⟨message,refused⟩ := refused
  exact ⟨after_bind_of_error refused _,after_bind_of_error refused _⟩

end

end

/-! Files under two paths. -/

section
variable {κ : Type} (inode : List (List Char) → κ)

/-- No two tracked paths of the pair mean one physical file; hard links are one file in several places. -/
def Once (files : FileSystem) (pair : DrivePair) (db : Db) : Prop :=
  ∀ a ∈ db.trackedFiles.rows, ∀ b ∈ db.trackedFiles.rows, a.drivePairId = pair.id → b.drivePairId = pair.id →
    ∀ place other, realPlace files pair a.relativePath = some place → realPlace files pair b.relativePath = some other →
      inode place = inode other → a.relativePath = b.relativePath

/-- Every walk of the folder ends, and after the scans that go along it no file is tracked under two paths if none was before. -/
def ScansOnce [Blake3] (files : FileSystem) (pair : DrivePair) (folder : TrackedFolder) (db : Db) : Prop :=
  ∀ (listing : Listing files) (outside : String), ∃ walk enough,
    (∀ fuel, enough ≤ fuel → walkFolder listing outside pair folder fuel = some walk) ∧
      (Once inode files pair db → ∀ (io : Io) (disk : Disk),
        Once inode files pair (after (autoTrackFolderFiles io walk pair folder) ⟨db,disk⟩).db ∧
          Once inode files pair (after (scanTrackedFolder io walk pair folder) ⟨db,disk⟩).db)

/-- No two ways in, through links or none, lead to one place that is tracked behind both. -/
def WaysApart (files : FileSystem) (pair : DrivePair) (folder : TrackedFolder) : Prop :=
  ∀ start links, reach files (folderFullPath pair folder) = some (start,links) →
    ∀ way door left rest path way' door' left' rest' path', Way files.tree links start way door left →
      Way files.tree links start way' door' left' → Taken files pair folder (way ++ rest) (door ++ rest) path →
        Taken files pair folder (way' ++ rest') (door' ++ rest') path' → door ++ rest = door' ++ rest' → way = way'

/-- No two places that the walk meets are hard links of one file. -/
def HardLinksApart (files : FileSystem) (pair : DrivePair) (folder : TrackedFolder) : Prop :=
  ∀ names place path names' place' path', Met files pair folder names place path → Met files pair folder names' place' path' →
    inode place = inode place' → place = place'

/-- No path that is tracked already means a file that the walk meets under another one. -/
def RowsApart (files : FileSystem) (pair : DrivePair) (folder : TrackedFolder) (db : Db) : Prop :=
  ∀ names place path, Met files pair folder names place path → ∀ row ∈ db.trackedFiles.rows, row.drivePairId = pair.id →
    ∀ other, realPlace files pair row.relativePath = some other → inode other = inode place → row.relativePath = path

end

section
variable {κ : Type} {inode : List (List Char) → κ} {files : FileSystem} {pair : DrivePair} {folder : TrackedFolder} {db : Db}

theorem waysApart_linkFree (free : LinkFree files.tree) : WaysApart files pair folder := by
  have only {links left : Nat} {start way door : List (List Char)} (isWay : Way files.tree links start way door left) :
    way = [] := by
    cases way using List.reverseRecOn with
    | nil => rfl
    | append_singleton above last =>
      have leads := isWay.leads
      rw [resolve_snoc] at leads
      obtain ⟨⟨mid,rest⟩,first,_⟩ := Option.bind_eq_some_iff.mp leads
      obtain ⟨found,there,link⟩ := Option.any_eq_true _ _ |>.mp (isWay.linked above last rfl mid rest first)
      rw [free _ _ there] at link
      cases link
  intro start links rooted way door left rest path way' door' left' rest' path' isWay isWay' _ _ _
  rw [only isWay,only isWay']

theorem met_same {names names' place : List (List Char)} {path path' : String} (apart : WaysApart files pair folder)
    (met : Met files pair folder names place path) (met' : Met files pair folder names' place path') : path = path' := by
  obtain ⟨start,links,left,rooted,leads,taken⟩ := met
  obtain ⟨_,_,left',rooted',leads',taken'⟩ := met'
  cases rooted.symm.trans rooted'
  obtain ⟨way,rest,door,rfl,isWay,rfl⟩ := way_split leads
  obtain ⟨way',rest',door',rfl,isWay',same⟩ := way_split leads'
  have taken'' := taken'
  rw [same] at taken''
  obtain rfl := apart _ _ rooted _ _ _ _ _ _ _ _ _ _ isWay isWay' taken taken'' same
  cases isWay.leads.symm.trans isWay'.leads
  obtain rfl := List.append_cancel_left same
  exact Option.some.inj (taken.path.symm.trans taken'.path)

theorem once_after {t : World} {paths : List String} {disk : Disk} (relative : isAbsolute folder.folderPath = false)
    (once : Once inode files pair db) (ways : WaysApart files pair folder) (hard : HardLinksApart inode files pair folder)
    (rows : RowsApart inode files pair folder db)
    (met : ∀ path ∈ paths, ∃ names place, Met files pair folder names place path) (adds : Adds pair.id paths ⟨db,disk⟩ t) :
    Once inode files pair t.db := by
  intro a rowA b rowB ownA ownB place other meansA meansB same
  have old {file : TrackedFile} {path : String} {here there : List (List Char)} (row : file ∈ db.trackedFiles.rows)
      (own : file.drivePairId = pair.id) (means : realPlace files pair file.relativePath = some here) (listed : path ∈ paths)
      (means' : realPlace files pair path = some there) (same : inode here = inode there) : file.relativePath = path := by
    obtain ⟨names,place',met'⟩ := met path listed
    cases (realPlace_met relative met').symm.trans means'
    exact rows names _ path met' file row own here means same
  rcases adds a rowA ownA with newA | ⟨fileA,oldA,pairA,pathA⟩
  · rcases adds b rowB ownB with newB | ⟨fileB,oldB,pairB,pathB⟩
    · obtain ⟨_,_,metA⟩ := met _ newA
      obtain ⟨_,_,metB⟩ := met _ newB
      cases (realPlace_met relative metA).symm.trans meansA
      cases (realPlace_met relative metB).symm.trans meansB
      cases hard _ _ _ _ _ _ metA metB same
      exact met_same ways metA metB
    · rw [← pathB] at meansB
      rw [← pathB,old oldB pairB meansB newA meansA same.symm]
  · rw [← pathA] at meansA
    rcases adds b rowB ownB with newB | ⟨fileB,oldB,pairB,pathB⟩
    · rw [← pathA,old oldA pairA meansA newB meansB same]
    · rw [← pathB] at meansB
      rw [← pathA,← pathB]
      exact once fileA oldA fileB oldB pairA pairB place other meansA meansB same

/-! What a scan that nothing stops tracks. -/

theorem met_isDir {names place : List (List Char)} {path : String} (met : Met files pair folder names place path) :
    isDir files (folderFullPath pair folder) = true := by
  obtain ⟨start,links,left,rooted,leads,taken⟩ := met
  refine isDir_iff.mpr ⟨start,by rw [canonicalize,rooted]; rfl,?_⟩
  obtain ⟨name,names,rfl⟩ := List.exists_cons_of_ne_nil taken.inside
  cases directory : files.tree.isDirectory start with
  | true => rfl
  | false =>
    rw [List.map_cons,resolve_stuck directory] at leads
    cases leads

/-- Every path is a file that can be read. -/
def anyDisk : Disk := ⟨fun _ => some ⟨[],none⟩,fun _ => true⟩

variable [Blake3]

theorem autoTrack_tracks {walk : Walk} (allowed : pair.isQuiescing = false) (whole : walk.failure = none) (sound : Sound db) :
    ∃ t, after (autoTrackFolderFiles .healthy walk pair folder) ⟨db,anyDisk⟩ = t ∧
      (∀ path ∈ visits folder walk.files, ∃ row ∈ t.db.trackedFiles.rows, row.drivePairId = pair.id ∧ row.relativePath = path) ∧
      ∀ file ∈ db.trackedFiles.rows, file.drivePairId = pair.id →
        ∃ row ∈ t.db.trackedFiles.rows, row.drivePairId = pair.id ∧ row.relativePath = file.relativePath := by
  have readable : ∀ path ∈ visits folder walk.files, Readable .healthy ⟨db,anyDisk⟩ pair path :=
    fun path _ => ⟨rfl,fun _ => rfl⟩
  obtain ⟨t,ran,_,takes⟩ := autoTrackFolderFiles_run folder allowed whole sound readable
  refine ⟨t,after_of_ok ran,?_,?_⟩
  · intro path member
    have state := takes.state path
    cases found : fileAt t.db pair.id path with
    | some row =>
      obtain ⟨present,own,same⟩ := fileAt_some found
      exact ⟨row,present,own,same⟩
    | none =>
      rw [stateAt_none.mpr found,Function.comp_apply,if_pos member] at state
      cases before : stateAt db pair.id path with
      | none =>
        rw [before] at state
        cases state
      | some held =>
        rw [before] at state
        cases state
  · intro file present own
    have found := fileAt_of_mem sound present
    rw [own] at found
    obtain ⟨row,there,_⟩ := takes.kept _ _ found
    obtain ⟨present',own',same⟩ := fileAt_some there
    exact ⟨row,present',own',same⟩

theorem same_of_scansOnce (finite : FileSystem.Finite files) (relative : isAbsolute folder.folderPath = false) (sound : Sound db)
    (scans : ScansOnce inode files pair folder db) (once : Once inode files pair db) (allowed : pair.isQuiescing = false)
    {names place : List (List Char)} {path : String} (met : Met files pair folder names place path) :
    (∀ names' place' path', Met files pair folder names' place' path' → inode place = inode place' → path = path') ∧
      ∀ row ∈ db.trackedFiles.rows, row.drivePairId = pair.id → ∀ other, realPlace files pair row.relativePath = some other →
        inode other = inode place → row.relativePath = path := by
  obtain ⟨listing,unrefused⟩ := exists_unrefused finite
  obtain ⟨walk,enough,walked,scanned⟩ := scans listing ""
  obtain ⟨whole,visited⟩ := visited_of_met relative unrefused (met_isDir met) (walked enough (Nat.le_refl _))
  obtain ⟨t,ran,tracks,keeps⟩ := autoTrack_tracks allowed whole sound
  have after_ := (scanned once .healthy anyDisk).1
  rw [ran] at after_
  obtain ⟨row,present,own,same⟩ := tracks path (visited _ _ _ met)
  have means : realPlace files pair row.relativePath = some place := by rw [same,realPlace_met relative met]
  constructor
  · intro names' place' path' met' one
    obtain ⟨row',present',own',same'⟩ := tracks path' (visited _ _ _ met')
    have means' : realPlace files pair row'.relativePath = some place' := by rw [same',realPlace_met relative met']
    rw [← same,← same',after_ row present row' present' own own' place place' means means' one]
  · intro file there pairOf other meansFile one
    obtain ⟨row',present',own',same'⟩ := keeps file there pairOf
    rw [← same'] at meansFile
    rw [← same,← same',after_ row' present' row present own' own other place meansFile means one]

/-- The scans of a folder end and track each file once exactly if neither two ways into the folder, nor two hard
links in it, nor a path that is tracked already lead to one file. -/
theorem scansOnce_iff (inode : List (List Char) → κ) (finite : FileSystem.Finite files)
    (relative : isAbsolute folder.folderPath = false) (sound : Sound db) :
    ScansOnce inode files pair folder db ↔
      (Once inode files pair db → pair.isQuiescing = false →
        WaysApart files pair folder ∧ HardLinksApart inode files pair folder ∧ RowsApart inode files pair folder db) := by
  constructor
  · intro scans once allowed
    have same {names place : List (List Char)} {path : String} (met : Met files pair folder names place path) :=
      same_of_scansOnce finite relative sound scans once allowed met
    refine ⟨?_,?_,fun names place path met => (same met).2⟩
    · intro start links rooted way door left rest path way' door' left' rest' path' isWay isWay' taken taken' shared
      have standing : Standing files.tree (door ++ rest) := ⟨.file,taken.file,rfl⟩
      have standing' : Standing files.tree (door' ++ rest') := ⟨.file,taken'.file,rfl⟩
      have met : Met files pair folder (way ++ rest) (door ++ rest) path := ⟨start,links,left,rooted,isWay.behind standing,taken⟩
      have met' : Met files pair folder (way' ++ rest') (door ++ rest) path' := by
        rw [shared]
        exact ⟨start,links,left',rooted,isWay'.behind standing',taken'⟩
      obtain rfl := (same met).1 _ _ _ met' rfl
      exact way_unique isWay isWay' standing standing' (met_unique relative met met')
    · intro names place path names' place' path' met met' one
      obtain rfl := (same met).1 _ _ _ met' one
      exact Option.some.inj ((realPlace_met relative met).symm.trans (realPlace_met relative met'))
  · intro apart listing outside
    obtain ⟨walk,enough,walked⟩ := walkFolder_ends finite listing outside pair folder
    refine ⟨walk,enough,walked,fun once io disk => ?_⟩
    cases allowed : pair.isQuiescing with
    | true =>
      obtain ⟨auto,scan⟩ := refused_quiescing allowed ⟨db,disk⟩
      rw [auto,scan]
      exact ⟨once,once⟩
    | false =>
      obtain ⟨ways,hard,rows⟩ := apart once allowed
      have met := met_of_visited (walked enough (Nat.le_refl _))
      obtain ⟨auto,scan⟩ := adds_scans io pair folder walk
      exact ⟨once_after relative once ways hard rows met (auto ⟨db,disk⟩),
        once_after relative once ways hard rows met (scan ⟨db,disk⟩)⟩

end

/-! A folder with one file, and with a link to itself beside it. -/

theorem finite_of_subset {files : FileSystem} {places : List (List (List Char))}
    (listed : ∀ place found, files.tree.entry place = some found → place ∈ places) : FileSystem.Finite files := by
  apply Set.Finite.subset places.finite_toSet
  intro place there
  obtain ⟨found,same⟩ := Option.isSome_iff_exists.mp there
  exact listed place found same

theorem sound_empty : Sound Db.empty := ⟨fun _ impossible => absurd impossible (by simp [Db.empty,Table.empty]),
  fun _ impossible => absurd impossible (by simp [Db.empty,Table.empty])⟩

def drive : DrivePair := ⟨1,"/r","/s",.active,.active,.primary,.hdd,.hdd⟩

def docs : TrackedFolder := ⟨1,1,"d",none,false,false,0,0,false,false,0,0⟩

theorem ordinary_plain : ∀ name ∈ [['r'],['d'],['f']], Ordinary name := by
  decide

def plainFolder : FileSystem := onlyFile [['r'],['d'],['f']] ordinary_plain

theorem scansOnce_plain :
    letI := sampleBlake3
    ScansOnce id plainFolder drive docs Db.empty := by
  let _ := sampleBlake3
  have listed : ∀ place found, plainFolder.tree.entry place = some found → place ∈ [['r'],['d'],['f']].inits :=
    fun place found there => (List.mem_inits _ _).mpr (ladder_above there)
  have finite : FileSystem.Finite plainFolder := finite_of_subset listed
  apply (scansOnce_iff id finite (by decide) sound_empty).mpr
  intro _ _
  refine ⟨waysApart_linkFree (ladder_linkFree rfl),fun _ _ _ _ _ _ _ _ same => same,?_⟩
  intro names place path met row impossible
  simp [Db.empty,Table.empty] at impossible

def loopedEntry (here : List (List Char)) : Option (Entry (List Char)) :=
  if here ∈ [[],[['r']],[['r'],['d']]] then some .directory
  else if here = [['r'],['d'],['f']] then some .file
  else if here = [['r'],['d'],['l']] then some (.link false [.current])
  else none

def loopedPlaces : List (List (List Char)) := [[],[['r']],[['r'],['d']],[['r'],['d'],['f']],[['r'],['d'],['l']]]

theorem loopedEntry_listed {here : List (List Char)} {found : Entry (List Char)} (there : loopedEntry here = some found) :
    here ∈ loopedPlaces := by
  unfold loopedEntry at there
  split at there
  · rename_i directory
    simp only [List.mem_cons,List.not_mem_nil,or_false] at directory
    rcases directory with rfl | rfl | rfl
    · decide
    · decide
    · decide
  · split at there
    · rename_i file
      rw [file]
      decide
    · split at there
      · rename_i link
        rw [link]
        decide
      · cases there

def looped : FileSystem where
  tree :=
    { entry := loopedEntry
      root := rfl
      parents := by
        intro here name found there
        have listed := loopedEntry_listed there
        simp only [loopedPlaces,List.mem_cons,List.not_mem_nil,or_false] at listed
        have above {whole : List (List Char)} (same : here ++ [name] = whole) : here = whole.dropLast := by
          rw [← same,List.dropLast_concat]
        rcases listed with empty | same | same | same | same
        · simp at empty
        · rw [above same]
          decide
        · rw [above same]
          decide
        · rw [above same]
          decide
        · rw [above same]
          decide }
  ordinary := by
    intro names found there name member
    have listed := loopedEntry_listed there
    have inside : ∀ place ∈ loopedPlaces, ∀ name ∈ place, name ∈ [['r'],['d'],['f'],['l']] := by decide
    have plain : ∀ name ∈ [['r'],['d'],['f'],['l']], name ≠ [] ∧ '/' ∉ name ∧ name ≠ ['.'] ∧ name ≠ ['.','.'] := by decide
    exact plain name (inside names listed name member)
  here := []
  directory := rfl

theorem looped_met : Met looped drive docs [['f']] [['r'],['d'],['f']] "d/f" ∧
    Met looped drive docs [['l'],['f']] [['r'],['d'],['f']] "d/l/f" := by
  constructor
  · exact ⟨[['r'],['d']],40,40,by decide +kernel,by decide +kernel,by decide,by decide,by decide +kernel,by decide +kernel⟩
  · exact ⟨[['r'],['d']],40,39,by decide +kernel,by decide +kernel,by decide,by decide,by decide +kernel,by decide +kernel⟩

theorem looped_tracked_twice :
    letI := sampleBlake3
    ¬ ∀ (inode : List (List Char) → List (List Char)) (files : FileSystem) (pair : DrivePair) (folder : TrackedFolder)
      (db : Db), FileSystem.Finite files → isAbsolute folder.folderPath = false → Sound db →
        ScansOnce inode files pair folder db := by
  let _ := sampleBlake3
  intro scans
  have finite : FileSystem.Finite looped := finite_of_subset fun place found there => loopedEntry_listed there
  have once : Once id looped drive Db.empty := fun a impossible => absurd impossible (by simp [Db.empty,Table.empty])
  have same := (same_of_scansOnce finite (by decide) sound_empty
    (scans id looped drive docs Db.empty finite (by decide) sound_empty) once rfl looped_met.1).1 _ _ _ looped_met.2 rfl
  exact absurd same (by decide)

end BitProtector.TrackedOnce
