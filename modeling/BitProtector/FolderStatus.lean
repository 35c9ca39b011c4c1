import BitProtector.TrackingItems

/-! What the listing says of a folder beside what a mirror of the folder copies. The
statistics read the folder's path as an unescaped pattern, the mirror as an escaped one. -/
namespace BitProtector.FolderStatus
open Effect

/-! The two ways to be under a folder. -/

/-- Only the wildcards of the folder's path take the file. -/
def wildcardOnly (folderPath relativePath : String) : Bool :=
  Db.likeFolder folderPath relativePath && !Db.underFolder folderPath relativePath

/-- The files that a mirror of the folder looks at. -/
def mirrorFiles (db : Db) (folder : TrackedFolder) : List TrackedFile :=
  db.listTrackedFilesUnderFolder folder.drivePairId folder.folderPath

theorem mem_mirrorFiles {db : Db} {folder : TrackedFolder} {file : TrackedFile} :
    file ∈ mirrorFiles db folder ↔ file ∈ db.listTrackedFilesOfPair folder.drivePairId ∧
      Db.underFolder folder.folderPath file.relativePath = true := List.mem_filter

theorem mem_folderStatsFiles {db : Db} {folder : TrackedFolder} {file : TrackedFile} :
    file ∈ db.folderStatsFiles folder ↔ file ∈ db.listTrackedFilesOfPair folder.drivePairId ∧
      Db.likeFolder folder.folderPath file.relativePath = true := List.mem_filter

theorem mirrorFiles_subset (db : Db) (folder : TrackedFolder) : mirrorFiles db folder ⊆ db.folderStatsFiles folder := by
  intro file member
  obtain ⟨ofPair,under⟩ := mem_mirrorFiles.mp member
  exact mem_folderStatsFiles.mpr ⟨ofPair,Db.likeFolder_of_underFolder under⟩

theorem mirrorFiles_filter (db : Db) (folder : TrackedFolder) :
    (db.folderStatsFiles folder).filter (fun file => Db.underFolder folder.folderPath file.relativePath) =
      mirrorFiles db folder := by
  rw [Db.folderStatsFiles,List.filter_filter,mirrorFiles,Db.listTrackedFilesUnderFolder]
  congr 1
  funext file
  cases under : Db.underFolder folder.folderPath file.relativePath with
  | false => simp
  | true => simp [Db.likeFolder_of_underFolder under]

/-- No file is taken by wildcards only. -/
def Literal (db : Db) (folder : TrackedFolder) : Prop :=
  ∀ file ∈ db.listTrackedFilesOfPair folder.drivePairId, wildcardOnly folder.folderPath file.relativePath = false

theorem Literal.under {db : Db} {folder : TrackedFolder} (literal : Literal db folder) {file : TrackedFile}
    (counted : file ∈ db.folderStatsFiles folder) : file ∈ mirrorFiles db folder := by
  obtain ⟨ofPair,like⟩ := mem_folderStatsFiles.mp counted
  have exact := literal file ofPair
  rw [wildcardOnly,like,Bool.true_and,Bool.not_eq_false'] at exact
  exact mem_mirrorFiles.mpr ⟨ofPair,exact⟩

theorem literal_iff_length {db : Db} {folder : TrackedFolder} :
    Literal db folder ↔ db.folderTotalFiles folder = (mirrorFiles db folder).length := by
  rw [Db.folderTotalFiles,← mirrorFiles_filter,eq_comm,List.length_filter_eq_length_iff]
  constructor
  · intro literal file counted
    exact (mem_mirrorFiles.mp (literal.under counted)).2
  · intro under file ofPair
    rw [wildcardOnly]
    cases like : Db.likeFolder folder.folderPath file.relativePath with
    | false => rfl
    | true => simp [under file (mem_folderStatsFiles.mpr ⟨ofPair,like⟩)]

theorem Literal.files {db : Db} {folder : TrackedFolder} (literal : Literal db folder) :
    db.folderStatsFiles folder = mirrorFiles db folder := by
  rw [← mirrorFiles_filter,eq_comm,List.filter_eq_self]
  intro file counted
  exact (mem_mirrorFiles.mp (literal.under counted)).2

/-! The status. -/

theorem folderStatus_mirrored {db : Db} {lastScannedAt : Nat → Option Nat} {folder : TrackedFolder}
    (mirrored : db.folderStatus lastScannedAt folder = .mirrored) :
    ∀ file ∈ db.folderStatsFiles folder, file.isMirrored = true := by
  unfold Db.folderStatus at mirrored
  split at mirrored
  · cases mirrored
  · split at mirrored
    · cases mirrored
    · split at mirrored
      · rename_i all
        exact List.countP_eq_length.mp all
      · split at mirrored <;> cases mirrored

theorem folderStatus_of_all {db : Db} {folder : TrackedFolder} (lastScannedAt : Nat → Option Nat)
    (all : ∀ file ∈ db.folderStatsFiles folder, file.isMirrored = true) :
    db.folderStatus lastScannedAt folder = .mirrored ∨ db.folderTotalFiles folder = 0 ∧
      (db.folderStatus lastScannedAt folder = .empty ∨ db.folderStatus lastScannedAt folder = .notScanned) := by
  have same : db.folderMirroredFiles folder = db.folderTotalFiles folder := List.countP_eq_length.mpr all
  unfold Db.folderStatus
  by_cases none : db.folderTotalFiles folder = 0
  · refine .inr ⟨none,?_⟩
    by_cases scanned : lastScannedAt folder.id = Option.none <;> simp [none,scanned]
  · simp [none,same]

/-! What a mirror leaves. -/

/-- Where a folder is: the columns that a mirror reads. -/
def place (folder : TrackedFolder) : Nat × String := (folder.drivePairId,folder.folderPath)

def PlacesKept (db next : Db) : Prop :=
  ∀ id, (next.trackedFolders.find? id).map place = (db.trackedFolders.find? id).map place

theorem PlacesKept.of_eq {db next : Db} (same : next.trackedFolders = db.trackedFolders) : PlacesKept db next := by
  intro id
  rw [same]

theorem PlacesKept.trans {a b c : Db} (first : PlacesKept a b) (second : PlacesKept b c) : PlacesKept a c :=
  fun id => (second id).trans (first id)

theorem placesKept_updateFolderWhere (db : Db) (p : TrackedFolder → Bool) (change : TrackedFolder → TrackedFolder)
    (keepsId) (keepsPlace : ∀ folder, place (change folder) = place folder) :
    PlacesKept db (db.updateFolderWhere p change keepsId) := by
  intro id
  rw [Db.updateFolderWhere,Table.find?_updateWhere,Option.map_map]
  congr 1
  funext folder
  simp only [Function.comp_apply]
  split
  · exact keepsPlace folder
  · rfl

theorem placesKept_startFolderMirror (db : Db) (id totalFiles : Nat) :
    PlacesKept db (db.startFolderMirror id totalFiles).2 := by
  unfold Db.startFolderMirror
  split
  · exact placesKept_updateFolderWhere db _ _ _ fun _ => rfl
  · exact .of_eq rfl

theorem placesKept_operational (db : Db) (disk : Disk) (pair : DrivePair) : PlacesKept db (db.operational disk pair) := by
  unfold Db.operational
  split
  · exact .of_eq rfl
  · exact .of_eq rfl

theorem PlacesKept.row {db next : Db} (kept : PlacesKept db next) {folder other : TrackedFolder}
    (found : db.trackedFolders.find? folder.id = some folder) (present : other ∈ next.trackedFolders.rows)
    (own : other.id = folder.id) : other.drivePairId = folder.drivePairId ∧ other.folderPath = folder.folderPath := by
  have row : next.trackedFolders.find? other.id = some other := Table.find?_of_mem _ present
  have same := kept folder.id
  rw [← own,row,own,found] at same
  exact Prod.mk.inj (Option.some.inj same)

section
variable [Blake3]

theorem mirrorFolderFile_returns (io : Io) (pair : DrivePair) (file : TrackedFile) (w : World) :
    ∃ t, mirrorFolderFile io pair file w = .ok () t := by
  unfold mirrorFolderFile
  rw [bind_of_ok (Act.execute_apply _ _)]
  cases copied : mirrorFile io pair file.relativePath
      { w with db := w.db.startPendingMirrorQueueForFile file.id } with
  | ok digest u =>
    rw [bind_of_ok (attempt_of_ok copied)]
    exact ⟨_,rfl⟩
  | error message u =>
    rw [bind_of_ok (attempt_of_error copied)]
    exact ⟨_,rfl⟩

theorem mirrorFolderFile_folders (io : Io) (pair : DrivePair) (file : TrackedFile) (w : World) :
    (after (mirrorFolderFile io pair file) w).db.trackedFolders = w.db.trackedFolders := by
  have kept := dbKept_mirrorFile io pair file.relativePath { w with db := w.db.startPendingMirrorQueueForFile file.id }
  unfold mirrorFolderFile
  rw [after_bind_of_ok (Act.execute_apply _ _)]
  cases copied : mirrorFile io pair file.relativePath
      { w with db := w.db.startPendingMirrorQueueForFile file.id } with
  | ok digest u =>
    rw [after_of_ok copied] at kept
    rw [after_bind_of_ok (attempt_of_ok copied)]
    change u.db.trackedFolders = _
    rw [kept]
    rfl
  | error message u =>
    rw [after_of_error copied] at kept
    rw [after_bind_of_ok (attempt_of_error copied)]
    change u.db.trackedFolders = _
    rw [kept]
    rfl

/-- The world after one turn. -/
def turned (io : Io) (pair : DrivePair) (folderId processed : Nat) (file : TrackedFile) (w : World) : World :=
  after (do
    mirrorFolderFile io pair file
    Act.execute (fun db => db.updateMirrorProgress folderId (processed + 1))) w

theorem turned_eq (io : Io) (pair : DrivePair) (folderId processed : Nat) (file : TrackedFile) (w : World) :
    turned io pair folderId processed file w = { after (mirrorFolderFile io pair file) w with
      db := (after (mirrorFolderFile io pair file) w).db.updateMirrorProgress folderId (processed + 1) } :=
  mirrorFolderFile_progress io pair file _ w

theorem placesKept_turned (io : Io) (pair : DrivePair) (folderId processed : Nat) (file : TrackedFile) (w : World) :
    PlacesKept w.db (turned io pair folderId processed file w).db := by
  rw [turned_eq]
  exact (PlacesKept.of_eq (mirrorFolderFile_folders io pair file w)).trans
    (placesKept_updateFolderWhere _ _ _ _ fun _ => rfl)

theorem mirrorFolderFiles_cons (io : Io) (pair : DrivePair) (folderId processed : Nat) (file : TrackedFile)
    (files : List TrackedFile) (w : World) :
    after (mirrorFolderFiles io pair folderId processed (file::files)) w =
      after (mirrorFolderFiles io pair folderId (processed + 1) files) (turned io pair folderId processed file w) := by
  obtain ⟨t,ran⟩ := mirrorFolderFile_returns io pair file w
  rw [turned_eq,mirrorFolderFiles,after_bind_of_ok ran,after_bind_of_ok (Act.execute_apply _ _),after_of_ok ran]

theorem mirrorFolderFiles_returns (io : Io) (pair : DrivePair) (folderId processed : Nat) (files : List TrackedFile)
    (w : World) : ∃ t, mirrorFolderFiles io pair folderId processed files w = .ok () t := by
  induction files generalizing processed w with
  | nil => exact ⟨w,rfl⟩
  | cons file files ih =>
    obtain ⟨t,ran⟩ := mirrorFolderFile_returns io pair file w
    rw [mirrorFolderFiles,bind_of_ok ran,bind_of_ok (Act.execute_apply _ _)]
    exact ih (processed + 1) _

theorem placesKept_mirrorFolderFiles (io : Io) (pair : DrivePair) (folderId processed : Nat) (files : List TrackedFile)
    (w : World) : PlacesKept w.db (after (mirrorFolderFiles io pair folderId processed files) w).db := by
  induction files generalizing processed w with
  | nil => exact .of_eq rfl
  | cons file files ih =>
    rw [mirrorFolderFiles_cons]
    exact (placesKept_turned io pair folderId processed file w).trans (ih (processed + 1) _)

/-- A turn copies its file. -/
def Copies (io : Io) (pair : DrivePair) (turn : World × TrackedFile) : Prop :=
  ∃ digest t, mirrorFile io pair turn.2.relativePath
    { turn.1 with db := turn.1.db.startPendingMirrorQueueForFile turn.2.id } = .ok digest t

theorem setsFlags_turned {io : Io} {pair : DrivePair} {file : TrackedFile} {w : World} (folderId processed : Nat)
    (copies : Copies io pair (w,file)) :
    Db.SetsFlags (fun old => if old.id = file.id then true else old.isMirrored) w.db
      (turned io pair folderId processed file w).db := by
  obtain ⟨digest,t,ran⟩ := copies
  have kept := dbKept_mirrorFile io pair file.relativePath { w with db := w.db.startPendingMirrorQueueForFile file.id }
  rw [after_of_ok ran] at kept
  have left : (turned io pair folderId processed file w).db.trackedFiles =
      (t.db.updateTrackedFileMirrorStatus file.id true).trackedFiles := by
    rw [turned_eq]
    unfold mirrorFolderFile
    rw [after_bind_of_ok (Act.execute_apply _ _),after_bind_of_ok (attempt_of_ok ran)]
    rfl
  intro id
  rw [left,kept]
  exact Db.setsFlags_updateTrackedFileMirrorStatus _ file.id true id

theorem setsFlags_mirrorFolderFiles {io : Io} {pair : DrivePair} {folderId processed : Nat} {files : List TrackedFile}
    {w : World} (copies : ∀ turn ∈ folderTurns io pair folderId processed files w, Copies io pair turn) :
    Db.SetsFlags (fun old => old.isMirrored || files.any (fun file => old.id == file.id)) w.db
      (after (mirrorFolderFiles io pair folderId processed files) w).db := by
  induction files generalizing processed w with
  | nil =>
    simp only [List.any_nil,Bool.or_false]
    exact Db.setsFlags_of_eq rfl
  | cons file files ih =>
    rw [mirrorFolderFiles_cons]
    have first := setsFlags_turned folderId processed (copies (w,file) List.mem_cons_self)
    have rest := ih fun turn member => copies turn (List.mem_cons_of_mem _ member)
    have whole := first.trans rest
    have same : (fun old : TrackedFile => (if old.id = file.id then true else old.isMirrored) ||
        files.any (fun file => old.id == file.id)) =
        fun old => old.isMirrored || (file::files).any (fun file => old.id == file.id) := by
      funext old
      by_cases own : old.id = file.id
      · simp [own]
      · simp [own,beq_eq_false_iff_ne.mpr own]
    rw [← same]
    exact whole

theorem folderTurns_places {io : Io} {pair : DrivePair} {folderId processed : Nat} {files : List TrackedFile} {w : World}
    {turn : World × TrackedFile} (member : turn ∈ folderTurns io pair folderId processed files w) :
    PlacesKept w.db turn.1.db ∧ turn.2 ∈ files := by
  induction files generalizing processed w with
  | nil => cases member
  | cons file files ih =>
    rcases List.mem_cons.mp member with rfl | later
    · exact ⟨.of_eq rfl,List.mem_cons_self⟩
    · obtain ⟨kept,queued⟩ := ih later
      exact ⟨(placesKept_turned io pair folderId processed file w).trans kept,List.mem_cons_of_mem _ queued⟩

omit [Blake3] in
theorem startMirrorFolder_success {folderId : Nat} {w t : World} {pair : DrivePair} {files : List TrackedFile}
    (started : startMirrorFolder folderId w = .ok (pair,files) t) :
    ∃ folder, w.db.getTrackedFolder folderId = .ok folder ∧
      files = (mirrorFiles t.db folder).filter (fun file => !file.isMirrored) ∧
      (∃ flag, Db.SetsFlags flag w.db t.db) ∧ PlacesKept w.db t.db := by
  unfold startMirrorFolder at started
  obtain ⟨folder,a,readFolder,rest⟩ := bind_success started
  obtain ⟨now,b,loaded,rest'⟩ := bind_success rest
  obtain ⟨_,c,looked,rest⟩ := bind_success rest'
  obtain ⟨_,d,ensured,rest'⟩ := bind_success rest
  obtain ⟨listed,e,readFiles,rest⟩ := bind_success rest'
  obtain ⟨_,f,inserted,ended⟩ := bind_success rest
  obtain ⟨hasFolder,sameRead⟩ := Act.query_success readFolder
  obtain ⟨before,hasPair,operational,loadedWorld⟩ := loadOperationalPair_success loaded
  obtain ⟨listing,sameListed⟩ := Act.query_success readFiles
  have insertedWorld := Act.insertOrFail_success inserted
  have worlds : e = b := sameListed.trans ((Act.ensure_success ensured).2.trans (Act.look_success looked).2)
  cases ended
  cases listing
  have sameDb : d.db = w.db.operational w.disk before := by
    rw [← sameListed,worlds,loadedWorld,sameRead]
  have same : pair.id = folder.drivePairId := by
    rw [operational,DrivePair.operational_id]
    exact Table.find?_key (Db.getDrivePair_ok.mp hasPair)
  obtain ⟨_,tables⟩ := Db.startFolderMirror_frame e.db folder.id
    ((d.db.listTrackedFilesUnderFolder pair.id folder.folderPath).filter (fun file => !file.isMirrored)).length
  have left : t.db.trackedFiles = d.db.trackedFiles := by
    rw [insertedWorld,sameListed]
    rw [sameListed] at tables
    exact tables
  refine ⟨folder,hasFolder,?_,?_,?_⟩
  · rw [mirrorFiles,Db.listTrackedFilesUnderFolder,Db.listTrackedFilesUnderFolder,Db.listTrackedFilesOfPair,
      Db.listTrackedFilesOfPair,left,same]
  · obtain ⟨flag,flags,_⟩ := setsFlags_operational w.db w.disk before
    refine ⟨flag,fun id => ?_⟩
    rw [left,sameDb]
    exact flags id
  · rw [insertedWorld,sameListed,sameDb]
    exact (placesKept_operational w.db w.disk before).trans (placesKept_startFolderMirror _ _ _)

/-! What is reported. -/

omit [Blake3] in
theorem mirrorFiles_place (db : Db) {folder other : TrackedFolder} (pair : other.drivePairId = folder.drivePairId)
    (path : other.folderPath = folder.folderPath) : mirrorFiles db other = mirrorFiles db folder := by
  rw [mirrorFiles,mirrorFiles,pair,path]

omit [Blake3] in
theorem folderStatsFiles_place (db : Db) {folder other : TrackedFolder} (pair : other.drivePairId = folder.drivePairId)
    (path : other.folderPath = folder.folderPath) : db.folderStatsFiles other = db.folderStatsFiles folder := by
  rw [Db.folderStatsFiles,Db.folderStatsFiles,pair,path]

omit [Blake3] in
theorem row_of_setsFlags {flag : TrackedFile → Bool} {db next : Db} (flags : Db.SetsFlags flag db next) {pairId : Nat}
    {file : TrackedFile} (listed : file ∈ next.listTrackedFilesOfPair pairId) :
    ∃ old ∈ db.listTrackedFilesOfPair pairId, file = { old with isMirrored := flag old } := by
  obtain ⟨row,pair⟩ := Db.mem_listTrackedFilesOfPair.mp listed
  rw [flags] at row
  obtain ⟨old,found,same⟩ := Option.map_eq_some_iff.mp row
  subst same
  exact ⟨old,Db.mem_listTrackedFilesOfPair.mpr ⟨found,pair⟩,rfl⟩

omit [Blake3] in
theorem Literal.setsFlags {flag : TrackedFile → Bool} {db next : Db} {folder : TrackedFolder} (literal : Literal db folder)
    (flags : Db.SetsFlags flag db next) : Literal next folder := by
  intro file listed
  obtain ⟨old,before,rfl⟩ := row_of_setsFlags flags listed
  exact literal old before

/-- The item is the folder's, in some listing. -/
def Reported (db : Db) (folder : TrackedFolder) (item : TrackingItem) : Prop :=
  ∃ tieBreak lastScannedAt request, item ∈ (db.listTrackingItems tieBreak lastScannedAt request).1 ∧
    item.kind = .folder ∧ item.id = folder.id

omit [Blake3] in
theorem Reported.row {db next : Db} {folder : TrackedFolder} {item : TrackingItem} (reported : Reported next folder item)
    (kept : PlacesKept db next) (found : db.trackedFolders.find? folder.id = some folder) :
    ∃ lastScannedAt other, item = next.folderItem lastScannedAt other ∧ other.drivePairId = folder.drivePairId ∧
      other.folderPath = folder.folderPath := by
  obtain ⟨tieBreak,lastScannedAt,request,listed,kind,own⟩ := reported
  rcases Db.mem_trackingItems (Db.mem_listTrackingItems listed) with ⟨file,_,rfl⟩ | ⟨other,present,rfl⟩
  · cases kind
  · exact ⟨lastScannedAt,other,rfl,kept.row found present own⟩

/-- The mirror starts, and copies every file it queued. -/
def FinishesWithoutFailures (io : Io) (folderId : Nat) (w : World) : Prop :=
  ∃ pair files t, startMirrorFolder folderId w = .ok (pair,files) t ∧
    ∀ turn ∈ folderTurns io pair folderId 0 files t, Copies io pair turn

/-- The listing of a folder fits what a mirror of it does. -/
structure StatusAgrees (db : Db) (folder : TrackedFolder) : Prop where
  counts : ∀ item, Reported db folder item → item.folderTotalFiles = some (mirrorFiles db folder).length ∧
    item.folderMirroredFiles = some ((mirrorFiles db folder).countP TrackedFile.isMirrored)
  finished : ∀ io w, w.db = db → FinishesWithoutFailures io folder.id w →
    ∀ item, Reported (after (mirrorFolder io folder.id) w).db folder item →
      item.folderStatus = some .mirrored ∨
        mirrorFiles (after (mirrorFolder io folder.id) w).db folder = [] ∧
          (item.folderStatus = some .empty ∨ item.folderStatus = some .notScanned)
  nothingLeft : ∀ item, Reported db folder item → item.folderStatus = some .mirrored →
    ∀ file ∈ mirrorFiles db folder, file.isMirrored = true
  notBefore : ∀ io w pair files t, w.db = db → startMirrorFolder folder.id w = .ok (pair,files) t →
    ∀ turn ∈ folderTurns io pair folder.id 0 files t, ∀ item, Reported turn.1.db folder item →
      item.folderStatus ≠ some .mirrored

omit [Blake3] in
theorem reported_mirrored {db next : Db} {folder : TrackedFolder} {item : TrackingItem} (kept : PlacesKept db next)
    (found : db.trackedFolders.find? folder.id = some folder) (reported : Reported next folder item)
    (mirrored : item.folderStatus = some .mirrored) : ∀ file ∈ mirrorFiles next folder, file.isMirrored = true := by
  obtain ⟨lastScannedAt,other,rfl,pair,path⟩ := reported.row kept found
  intro file member
  rw [← mirrorFiles_place next pair path] at member
  exact folderStatus_mirrored (Option.some.inj mirrored) file (mirrorFiles_subset next other member)

theorem finished_mirrored {db : Db} {folder : TrackedFolder} (found : db.trackedFolders.find? folder.id = some folder)
    (literal : Literal db folder) {io : Io} {w : World} (same : w.db = db)
    (finishes : FinishesWithoutFailures io folder.id w) {item : TrackingItem}
    (reported : Reported (after (mirrorFolder io folder.id) w).db folder item) :
    item.folderStatus = some .mirrored ∨
      mirrorFiles (after (mirrorFolder io folder.id) w).db folder = [] ∧
        (item.folderStatus = some .empty ∨ item.folderStatus = some .notScanned) := by
  obtain ⟨pair,files,t,started,copies⟩ := finishes
  obtain ⟨row,hasFolder,queued,⟨flag,flags⟩,kept⟩ := startMirrorFolder_success started
  have own : row = folder := by
    rw [same,Db.getTrackedFolder,found] at hasFolder
    exact (Except.ok.inj hasFolder).symm
  subst own
  rw [same] at flags kept
  have thread := setsFlags_mirrorFolderFiles copies
  obtain ⟨v,ran⟩ : ∃ v, mirrorFolderFiles io pair row.id 0 files t = .ok () v := mirrorFolderFiles_returns _ _ _ _ _ _
  have left : (after (mirrorFolder io row.id) w).db =
      (after (mirrorFolderFiles io pair row.id 0 files) t).db.finishFolderMirror row.id := by
    rw [mirrorFolder,after_bind_of_ok started,after_of_ok ran]
    change (after (do mirrorFolderFiles io pair row.id 0 files; Act.execute _) t).db = _
    rw [after_bind_of_ok ran]
    rfl
  rw [left] at reported ⊢
  have places : PlacesKept db ((after (mirrorFolderFiles io pair row.id 0 files) t).db.finishFolderMirror row.id) :=
    (kept.trans (placesKept_mirrorFolderFiles io pair row.id 0 files t)).trans
      (placesKept_updateFolderWhere _ _ _ _ fun _ => rfl)
  obtain ⟨lastScannedAt,other,rfl,samePair,samePath⟩ := reported.row places found
  have all : ∀ file ∈ ((after (mirrorFolderFiles io pair row.id 0 files) t).db.finishFolderMirror row.id).folderStatsFiles
      other, file.isMirrored = true := by
    intro file counted
    rw [folderStatsFiles_place _ samePair samePath] at counted
    obtain ⟨listed,like⟩ := mem_folderStatsFiles.mp counted
    obtain ⟨old,before,rfl⟩ := row_of_setsFlags thread listed
    have under := (literal.setsFlags flags).under (mem_folderStatsFiles.mpr ⟨before,like⟩)
    cases up : old.isMirrored with
    | true => simp
    | false =>
      have inQueue : old ∈ files := by
        rw [queued]
        exact List.mem_filter.mpr ⟨under,by simp [up]⟩
      have some : files.any (fun file => old.id == file.id) = true := List.any_eq_true.mpr ⟨old,inQueue,beq_self_eq_true _⟩
      simp [some]
  rcases folderStatus_of_all lastScannedAt all with mirrored | ⟨none,status⟩
  · exact .inl (congrArg some mirrored)
  · refine .inr ⟨?_,status.imp (congrArg some) (congrArg some)⟩
    rw [← mirrorFiles_place _ samePair samePath,← List.length_eq_zero_iff]
    have fewer := List.length_filter_le (fun file : TrackedFile => Db.underFolder other.folderPath file.relativePath)
      (((after (mirrorFolderFiles io pair row.id 0 files) t).db.finishFolderMirror row.id).folderStatsFiles other)
    rw [mirrorFiles_filter] at fewer
    exact Nat.eq_zero_of_le_zero (fewer.trans (Nat.le_of_eq none))

/-- Exactly where no tracked file is taken by the wildcards of the folder's path alone,
the listing of the folder fits its mirror. -/
theorem folderStatus_agrees_iff (db : Db) (folder : TrackedFolder) (hasFolder : db.getTrackedFolder folder.id = .ok folder) :
    StatusAgrees db folder ↔
      ∀ file ∈ db.listTrackedFilesOfPair folder.drivePairId, wildcardOnly folder.folderPath file.relativePath = false := by
  have found : db.trackedFolders.find? folder.id = some folder := by
    unfold Db.getTrackedFolder at hasFolder
    cases row : db.trackedFolders.find? folder.id with
    | none =>
      rw [row] at hasFolder
      cases hasFolder
    | some other =>
      rw [row] at hasFolder
      exact congrArg some (Except.ok.inj hasFolder)
  have present := Table.mem_of_find? found
  constructor
  · intro agrees
    obtain ⟨page,listed⟩ := Db.folderItem_listed (fun id => id) (fun _ => none) present
    obtain ⟨total,_⟩ := agrees.counts _ ⟨_,_,_,listed,rfl,rfl⟩
    exact literal_iff_length.mpr (Option.some.inj total)
  · intro literal
    have files := Literal.files literal
    constructor
    · intro item reported
      obtain ⟨lastScannedAt,other,rfl,pair,path⟩ := reported.row (.of_eq rfl) found
      have same := (folderStatsFiles_place db pair path).trans files
      constructor
      · exact congrArg (fun listed => some (List.length listed)) same
      · exact congrArg (fun listed => some (List.countP TrackedFile.isMirrored listed)) same
    · intro io w same finishes item reported
      exact finished_mirrored found literal same finishes reported
    · intro item reported mirrored
      exact reported_mirrored (.of_eq rfl) found reported mirrored
    · intro io w pair queue t same started turn member item reported mirrored
      obtain ⟨row,hasRow,queued,_,kept⟩ := startMirrorFolder_success started
      obtain ⟨places,inQueue⟩ := folderTurns_places member
      rw [same] at kept hasRow
      have own : row = folder := Except.ok.inj (hasRow.symm.trans hasFolder)
      subst own
      obtain ⟨rows,distinct⟩ := startMirrorFolder_rows started
      have atTurn := (folderTurns_rows io pair row.id 0 queue t rows distinct turn member).1
      rw [queued] at inQueue
      obtain ⟨under,down⟩ := List.mem_filter.mp inQueue
      obtain ⟨listed,inFolder⟩ := mem_mirrorFiles.mp under
      have waiting : turn.2 ∈ mirrorFiles turn.1.db row :=
        mem_mirrorFiles.mpr ⟨Db.mem_listTrackedFilesOfPair.mpr ⟨atTurn,(Db.mem_listTrackedFilesOfPair.mp listed).2⟩,inFolder⟩
      have up := reported_mirrored (kept.trans places) found reported mirrored turn.2 waiting
      rw [up] at down
      cases down

end

open FolderProvenance

theorem folderStatus_agrees_photos :
    letI := sampleBlake3
    StatusAgrees (foldersDb lowerFolder) (folderRow "photos" 1) := by
  let _ := sampleBlake3
  exact (folderStatus_agrees_iff (foldersDb lowerFolder) (folderRow "photos" 1) rfl).mpr (by decide +kernel)

/-- The underscore of the folder's path stands for a letter of the file's. -/
def wildcardFolder : Table TrackedFolder := Table.empty.insert (folderRow "ph_tos") (key_folderRow _)

theorem wildcard_counted :
    letI := sampleBlake3
    ¬ ∀ (db : Db) (folder : TrackedFolder), db.getTrackedFolder folder.id = .ok folder → StatusAgrees db folder := by
  let _ := sampleBlake3
  intro agrees
  have listed : (foldersDb wildcardFolder).folderItem (fun _ => none) (folderRow "ph_tos" 1) ∈
      ((foldersDb wildcardFolder).listTrackingItems (fun id => id) (fun _ => none) Db.allFolders).1 := by
    decide +kernel
  obtain ⟨total,_⟩ := (agrees (foldersDb wildcardFolder) (folderRow "ph_tos" 1) rfl).counts _ ⟨_,_,_,listed,rfl,rfl⟩
  exact absurd total (by decide +kernel)

end BitProtector.FolderStatus
