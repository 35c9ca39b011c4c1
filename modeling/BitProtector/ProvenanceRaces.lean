import BitProtector.FolderProvenance
import BitProtector.Foundation.Interleaving

/-! The recomputation, tracking, folder scans and the untracking of folders of one pair, with every
statement on the tables a step of its own. -/
namespace BitProtector.ProvenanceRaces
open FolderProvenance

/-- The tables with two notes that only the proofs keep: the files that a scan has tracked and no call has
tracked directly since, and whether a recomputation has cleared the flags and none has set them again. -/
structure Ledger where
  db : Db
  scanned : List Nat
  cleared : Bool

/-- The next statement of an operation, with what it has read. -/
inductive Phase
  | idle
  | clearing
  | setting
  | directing
  | scanning (folder : TrackedFolder)
  | storing (folder : TrackedFolder) (path : String)
  | tracking (path : String) (existing : Option Nat)
  | publishing (fileId : Nat)
  | untracking (folder : TrackedFolder)
  | deleting (folder : TrackedFolder) (fileIds : List Nat)

inductive Input
  | recompute
  | scan (folderId : Nat)
  | visit (path : String)
  | finish
  | track (path : String)
  | untrack (folderId : Nat)
  | store (checksum : String) (fileSize : Nat)
  | proceed
  | leave

inductive Event
  | addFolder (folderPath : String) (includeChecksumSidecars : Bool)

/-- An operation that reads a folder of the pair first. -/
def readFolder (pairId : Nat) (l : Ledger) (folderId : Nat) (next : TrackedFolder → Phase) : Option (Ledger × Phase) :=
  match l.db.getTrackedFolder folderId with
  | .ok folder => if folder.drivePairId = pairId then some (l,next folder) else none
  | .error _ => none

/-- A regular file below the folder that a scan walks over. -/
def visit (pairId : Nat) (l : Ledger) (folder : TrackedFolder) (path : String) : Option (Ledger × Phase) :=
  if Beneath folder.folderPath path then
    if passedOver folder path then some (l,.scanning folder)
    else match l.db.getTrackedFileByPath pairId path with
      | .ok _ => some (l,.scanning folder)
      | .error _ => some (l,.storing folder path)
  else none

def existingFile (pairId : Nat) (db : Db) (path : String) : Option Nat :=
  match db.getTrackedFileByPath pairId path with
  | .ok file => some file.id
  | .error _ => none

/-- `INSERT INTO tracked_files` by a scan; an error ends the scan. -/
def storeScanned (pairId : Nat) (l : Ledger) (folder : TrackedFolder) (path checksum : String) (fileSize : Nat) :
    Ledger × Phase :=
  match l.db.createTrackedFileWithSource pairId path checksum fileSize none false true with
  | (.ok file,db) => ({ l with db,scanned := file.id::l.scanned },.scanning folder)
  | (.error _,_) => (l,.idle)

/-- The same by `track_file`. -/
def storeTracked (pairId : Nat) (l : Ledger) (path checksum : String) (fileSize : Nat) : Ledger × Phase :=
  match l.db.createTrackedFileWithSource pairId path checksum fileSize none true false with
  | (.ok file,db) => ({ l with db,scanned := l.scanned.filter (· != file.id) },.publishing file.id)
  | (.error _,_) => (l,.idle)

/-- One statement of an operation. It can `leave` at any point: when it is done, or when something fails. -/
def turn (pairId : Nat) : Input → Ledger → Phase → Option (Ledger × Phase)
  | .leave,l,_ => some (l,.idle)
  | .recompute,l,.idle => some (l,.clearing)
  | .proceed,l,.clearing => some ({ l with db := l.db.clearFolderProvenance pairId,cleared := true },.setting)
  | .proceed,l,.setting => some ({ l with db := l.db.setFolderProvenance pairId,cleared := false },.directing)
  | .proceed,l,.directing => some ({ l with db := l.db.setDirectProvenance pairId },.idle)
  | .scan folderId,l,.idle => readFolder pairId l folderId .scanning
  | .visit path,l,.scanning folder => visit pairId l folder path
  | .store checksum fileSize,l,.storing folder path => some (storeScanned pairId l folder path checksum fileSize)
  | .finish,l,.scanning _ => some (l,.clearing)
  | .track path,l,.idle => some (l,.tracking path (existingFile pairId l.db path))
  | .proceed,l,.tracking _ (some fileId) =>
    some ({ l with db := l.db.updateTrackedFileSources fileId true false,scanned := l.scanned.filter (· != fileId) },.idle)
  | .store checksum fileSize,l,.tracking path none => some (storeTracked pairId l path checksum fileSize)
  | .proceed,l,.publishing fileId => some ({ l with db := l.db.deleteTrackedFile fileId },.idle)
  | .untrack folderId,l,.idle => readFolder pairId l folderId .untracking
  | .proceed,l,.untracking folder =>
    some (l,.deleting folder ((l.db.listFolderOriginDescendantFiles folder.drivePairId folder.folderPath folder.id).map
      TrackedFile.id))
  | .proceed,l,.deleting folder fileIds => some ({ l with db := l.db.deleteFolderCascadeTx folder.id fileIds },.clearing)
  | _,_,_ => none

def outside (pairId : Nat) : Event → Ledger → Ledger
  | .addFolder folderPath includeChecksumSidecars,l =>
    { l with db := (l.db.createTrackedFolderWithSidecars pairId folderPath none includeChecksumSidecars).2 }

abbrev Races := Interleaved Ledger Phase

def machine (pairId : Nat) : Machine Races (Move Input Event) := Interleaved.machine (turn pairId) (outside pairId)

/-! Alone, an operation does what the sequential program does. -/

theorem recompute_alone (pairId : Nat) (l : Ledger) :
    Interleaved.alone (turn pairId) [.recompute,.proceed,.proceed,.proceed] (l,.idle) =
      some ({ l with db := l.db.recomputeFolderProvenanceForDrive pairId,cleared := false },.idle) := rfl

theorem untrack_alone {pairId folderId : Nat} {l : Ledger} {folder : TrackedFolder}
    (found : l.db.getTrackedFolder folderId = .ok folder) (own : folder.drivePairId = pairId) :
    Interleaved.alone (turn pairId) [.untrack folderId,.proceed,.proceed,.proceed,.proceed,.proceed] (l,.idle) =
      some ({ l with db := cascaded l.db folder,cleared := false },.idle) := by
  subst own
  have read : readFolder folder.drivePairId l folderId .untracking = some (l,.untracking folder) := by
    rw [readFolder,found]
    exact if_pos rfl
  rw [Interleaved.alone,turn,read]
  rfl

/-! What must hold in every state, and when it does. -/

/-- No scanned file is tracked directly beneath a tracked folder, and none stays when no folder holds it. -/
structure Sound (l : Ledger) : Prop where
  indirect : ∀ id ∈ l.scanned, ∀ file, l.db.trackedFiles.find? id = some file → InFolder l.db file →
    file.trackedDirect = false
  covered : ∀ id ∈ l.scanned, ∀ file, l.db.trackedFiles.find? id = some file → InFolder l.db file

/-- For the path the patterns of the folders say what its components say. -/
def Agrees (pairId : Nat) (db : Db) (path : String) : Prop :=
  ∀ folder ∈ db.trackedFolders.rows, folder.drivePairId = pairId →
    (Db.underFolder folder.folderPath path = true ↔ Beneath folder.folderPath path)

/-- The folder is not about to be deleted by an operation that has listed its files without this one. -/
def Stays (s : Races) (id folderId : Nat) : Prop :=
  ∀ i folder fileIds, s.op i = .deleting folder fileIds → folder.id = folderId → id ∈ fileIds

/-- A tracked folder that stays holds the path. -/
def Safe (pairId : Nat) (s : Races) (id : Nat) (path : String) : Prop :=
  ∃ folder ∈ s.shared.db.trackedFolders.rows, folder.drivePairId = pairId ∧ Beneath folder.folderPath path ∧
    Stays s id folder.id

/-- What is asked of an operation's next statement. -/
def Meets (pairId : Nat) (s : Races) : Input → Phase → Prop
  | .proceed,.directing => s.shared.cleared = false
  | .proceed,.untracking folder => s.shared.cleared = false ∧
    ∀ id ∈ s.shared.scanned, ∀ file, s.shared.db.trackedFiles.find? id = some file →
      Beneath folder.folderPath file.relativePath →
      ∀ other ∈ s.shared.db.trackedFolders.rows, other.drivePairId = pairId → other.id ≠ folder.id →
        Beneath other.folderPath file.relativePath →
        ∃ holder ∈ s.shared.db.trackedFolders.rows, holder.drivePairId = pairId ∧ holder.id ≠ folder.id ∧
          Beneath holder.folderPath file.relativePath ∧ Stays s id holder.id
  | .store _ _,.storing _ path => Agrees pairId s.shared.db path ∧
    ∃ folder ∈ s.shared.db.trackedFolders.rows, folder.drivePairId = pairId ∧ Beneath folder.folderPath path ∧
      ∀ i other fileIds, s.op i = .deleting other fileIds → other.id ≠ folder.id
  | _,_ => True

def Apart (pairId : Nat) : Move Input Event → Races → Prop
  | .turn i input,s => Meets pairId s input (s.op i)
  | .outside (.addFolder folderPath _),s =>
    ∀ id ∈ s.shared.scanned, ∀ file, s.shared.db.trackedFiles.find? id = some file →
      (Db.underFolder folderPath file.relativePath = true ↔ Beneath folderPath file.relativePath)

/-! The invariant. -/

structure FileKept (pairId : Nat) (s : Races) (id : Nat) (file : TrackedFile) : Prop where
  own : file.drivePairId = pairId
  indirect : file.trackedDirect = false
  flagged : s.shared.cleared = false → file.trackedViaFolder = true
  agrees : Agrees pairId s.shared.db file.relativePath
  safe : Safe pairId s id file.relativePath

/-- The folder's row, if it is still there, is the one that was read. -/
structure Current (pairId : Nat) (db : Db) (folder : TrackedFolder) : Prop where
  own : folder.drivePairId = pairId
  known : folder.id ≤ db.trackedFolders.lastId
  same : ∀ row ∈ db.trackedFolders.rows, row.id = folder.id → row = folder

structure Kept (pairId : Nat) (s : Races) : Prop where
  files : ∀ id ∈ s.shared.scanned, ∀ file, s.shared.db.trackedFiles.find? id = some file → FileKept pairId s id file
  current : ∀ i folder, s.op i = .untracking folder → Current pairId s.shared.db folder

theorem Kept.sound {pairId : Nat} {s : Races} (kept : Kept pairId s) : Sound s.shared := by
  constructor
  · intro id member file found _
    exact (kept.files id member file found).indirect
  · intro id member file found
    have row := kept.files id member file found
    obtain ⟨folder,present,pair,beneath,_⟩ := row.safe
    exact ⟨folder,present,pair.trans row.own.symm,beneath⟩

theorem Current.of_eq {pairId : Nat} {db next : Db} {folder : TrackedFolder} (current : Current pairId db folder)
    (folders : next.trackedFolders = db.trackedFolders) : Current pairId next folder := by
  constructor
  · exact current.own
  · rw [folders]
    exact current.known
  · rw [folders]
    exact current.same

theorem stays_moved {s : Races} {id folderId i : Nat} {l : Ledger} {phase : Phase} (stays : Stays s id folderId)
    (listed : ∀ folder fileIds, phase = .deleting folder fileIds → folder.id = folderId → id ∈ fileIds) :
    Stays (s.moved i l phase) id folderId := by
  intro j folder fileIds standing
  by_cases mine : j = i
  · rw [mine,Interleaved.moved_same] at standing
    exact listed folder fileIds standing
  · rw [s.moved_other l phase mine] at standing
    exact stays j folder fileIds standing

theorem FileKept.moved {pairId id i : Nat} {s : Races} {l : Ledger} {phase : Phase} {file now : TrackedFile}
    (kept : FileKept pairId s id file) (folders : l.db.trackedFolders = s.shared.db.trackedFolders)
    (plain : ∀ folder fileIds, phase ≠ .deleting folder fileIds) (pair : now.drivePairId = file.drivePairId)
    (path : now.relativePath = file.relativePath) (indirect : now.trackedDirect = false)
    (flagged : l.cleared = false → now.trackedViaFolder = true) : FileKept pairId (s.moved i l phase) id now where
  own := pair.trans kept.own
  indirect := indirect
  flagged := flagged
  agrees := by
    rw [path,Agrees,Interleaved.moved_shared,folders]
    exact kept.agrees
  safe := by
    obtain ⟨folder,present,own,beneath,stays⟩ := kept.safe
    refine ⟨folder,?_,own,path ▸ beneath,stays_moved stays fun other fileIds same => absurd same (plain other fileIds)⟩
    rw [Interleaved.moved_shared,folders]
    exact present

theorem current_moved {pairId i : Nat} {s : Races} {l : Ledger} {phase : Phase} (kept : Kept pairId s)
    (folders : l.db.trackedFolders = s.shared.db.trackedFolders)
    (own : ∀ folder, phase = .untracking folder → Current pairId s.shared.db folder) (j : Nat) (folder : TrackedFolder)
    (standing : (s.moved i l phase).op j = .untracking folder) : Current pairId l.db folder := by
  by_cases mine : j = i
  · rw [mine,Interleaved.moved_same] at standing
    exact (own folder standing).of_eq folders
  · rw [s.moved_other l phase mine] at standing
    exact (kept.current j folder standing).of_eq folders

theorem kept_still {pairId i : Nat} {s : Races} {phase : Phase} (kept : Kept pairId s)
    (plain : ∀ folder fileIds, phase ≠ .deleting folder fileIds)
    (own : ∀ folder, phase = .untracking folder → Current pairId s.shared.db folder) :
    Kept pairId (s.moved i s.shared phase) where
  files := fun id member file found =>
    (kept.files id member file found).moved rfl plain rfl rfl (kept.files id member file found).indirect
      (kept.files id member file found).flagged
  current := current_moved kept rfl own

/-! The three updates of the recomputation. -/

theorem kept_flags {pairId i : Nat} {s : Races} {l : Ledger} {phase : Phase} {change : TrackedFile → TrackedFile}
    (kept : Kept pairId s) (folders : l.db.trackedFolders = s.shared.db.trackedFolders)
    (scanned : l.scanned = s.shared.scanned)
    (rows : ∀ id, l.db.trackedFiles.find? id = (s.shared.db.trackedFiles.find? id).map change)
    (plain : ∀ folder fileIds, phase ≠ .deleting folder fileIds) (other : ∀ folder, phase ≠ .untracking folder)
    (changed : ∀ id file, FileKept pairId s id file → (change file).drivePairId = file.drivePairId ∧
      (change file).relativePath = file.relativePath ∧ (change file).trackedDirect = false ∧
      (l.cleared = false → (change file).trackedViaFolder = true)) : Kept pairId (s.moved i l phase) where
  files := by
    intro id member now found
    rw [Interleaved.moved_shared,rows] at found
    obtain ⟨file,there,rfl⟩ := Option.map_eq_some_iff.mp found
    rw [Interleaved.moved_shared,scanned] at member
    have row := kept.files id member file there
    obtain ⟨pair,path,indirect,flagged⟩ := changed id file row
    exact row.moved folders plain pair path indirect flagged
  current := current_moved kept folders fun folder same => absurd same (other folder)

theorem kept_cleared {pairId i : Nat} {s : Races} (kept : Kept pairId s) :
    Kept pairId (s.moved i { s.shared with db := s.shared.db.clearFolderProvenance pairId,cleared := true } .setting) := by
  apply kept_flags kept
  · rfl
  · rfl
  · exact Db.find?_clearFolderProvenance s.shared.db pairId
  · exact nofun
  · exact nofun
  · intro id file row
    rw [if_pos row.own]
    exact ⟨rfl,rfl,row.indirect,nofun⟩

theorem kept_set {pairId i : Nat} {s : Races} (kept : Kept pairId s) :
    Kept pairId (s.moved i { s.shared with db := s.shared.db.setFolderProvenance pairId,cleared := false } .directing) := by
  apply kept_flags kept
  · rfl
  · rfl
  · exact Db.find?_setFolderProvenance s.shared.db pairId
  · exact nofun
  · exact nofun
  · intro id file row
    obtain ⟨folder,present,pair,beneath,_⟩ := row.safe
    have under := (row.agrees folder present pair).mpr beneath
    have taken : s.shared.db.inTrackedFolder file = true := by
      rw [Db.inTrackedFolder,List.any_eq_true]
      refine ⟨folder,present,?_⟩
      rw [Bool.and_eq_true,beq_iff_eq]
      exact ⟨pair.trans row.own.symm,Db.likeFolder_of_underFolder under⟩
    rw [if_pos ⟨row.own,row.indirect,taken⟩]
    exact ⟨rfl,rfl,row.indirect,fun _ => rfl⟩

theorem kept_directed {pairId i : Nat} {s : Races} (kept : Kept pairId s) (set : s.shared.cleared = false) :
    Kept pairId (s.moved i { s.shared with db := s.shared.db.setDirectProvenance pairId } .idle) := by
  apply kept_flags kept
  · rfl
  · rfl
  · exact Db.find?_setDirectProvenance s.shared.db pairId
  · exact nofun
  · exact nofun
  · intro id file row
    have flagged := row.flagged set
    rw [if_neg fun all => absurd (all.2.2.symm.trans flagged) Bool.false_ne_true]
    exact ⟨rfl,rfl,row.indirect,fun _ => flagged⟩

/-! Rows that come and go. -/

theorem createTrackedFile_ok {db next : Db} {pairId fileSize : Nat} {path checksum : String} {direct viaFolder : Bool}
    {file : TrackedFile}
    (created : db.createTrackedFileWithSource pairId path checksum fileSize none direct viaFolder = (.ok file,next)) :
    next.trackedFolders = db.trackedFolders ∧ file.drivePairId = pairId ∧ file.relativePath = path ∧
      file.trackedDirect = direct ∧ file.trackedViaFolder = viaFolder ∧
      ∀ id, next.trackedFiles.find? id = if id = file.id then some file else db.trackedFiles.find? id := by
  unfold Db.createTrackedFileWithSource at created
  split at created
  · cases created
  · cases created
    exact ⟨rfl,rfl,rfl,rfl,rfl,fun id => Table.find?_insert _ _ _ id⟩

theorem kept_fewer {pairId i : Nat} {s : Races} {l : Ledger} {phase : Phase} (kept : Kept pairId s)
    (folders : l.db.trackedFolders = s.shared.db.trackedFolders) (cleared : l.cleared = s.shared.cleared)
    (rows : ∀ id ∈ l.scanned, ∀ file, l.db.trackedFiles.find? id = some file →
      id ∈ s.shared.scanned ∧ s.shared.db.trackedFiles.find? id = some file)
    (plain : ∀ folder fileIds, phase ≠ .deleting folder fileIds) (other : ∀ folder, phase ≠ .untracking folder) :
    Kept pairId (s.moved i l phase) where
  files := by
    intro id member file found
    obtain ⟨scanned,there⟩ := rows id member file found
    have row := kept.files id scanned file there
    exact row.moved folders plain rfl rfl row.indirect fun set => row.flagged (cleared ▸ set)
  current := current_moved kept folders fun folder same => absurd same (other folder)

theorem kept_storeScanned {pairId i fileSize : Nat} {s : Races} {folder : TrackedFolder} {path checksum : String}
    (kept : Kept pairId s) (met : Meets pairId s (.store checksum fileSize) (.storing folder path)) :
    Kept pairId (s.moved i (storeScanned pairId s.shared folder path checksum fileSize).1
      (storeScanned pairId s.shared folder path checksum fileSize).2) := by
  obtain ⟨agrees,holder,present,pair,beneath,unlisted⟩ := met
  unfold storeScanned
  split
  · rename_i file db created
    obtain ⟨folders,own,here,direct,viaFolder,rows⟩ := createTrackedFile_ok created
    constructor
    · intro id member now found
      rw [Interleaved.moved_shared,rows] at found
      split at found
      · cases found
        refine ⟨own,direct,fun _ => viaFolder,?_,holder,?_,pair,here ▸ beneath,?_⟩
        · rw [here,Agrees,Interleaved.moved_shared,folders]
          exact agrees
        · rw [Interleaved.moved_shared,folders]
          exact present
        · apply stays_moved
          · intro j other fileIds standing same
            exact absurd same (unlisted j other fileIds standing)
          · exact nofun
      · rename_i other
        have before : id ∈ s.shared.scanned := (List.mem_cons.mp member).resolve_left other
        have row := kept.files id before now found
        exact row.moved folders nofun rfl rfl row.indirect row.flagged
    · apply current_moved kept
      · exact folders
      · exact nofun
  · apply kept_still kept
    · exact nofun
    · exact nofun

theorem kept_storeTracked {pairId i fileSize : Nat} {s : Races} {path checksum : String} (kept : Kept pairId s) :
    Kept pairId (s.moved i (storeTracked pairId s.shared path checksum fileSize).1
      (storeTracked pairId s.shared path checksum fileSize).2) := by
  unfold storeTracked
  split
  · rename_i file db created
    obtain ⟨folders,_,_,_,_,rows⟩ := createTrackedFile_ok created
    apply kept_fewer kept
    · exact folders
    · rfl
    · intro id member now found
      obtain ⟨before,other⟩ := List.mem_filter.mp member
      rw [rows,if_neg (by simpa using other)] at found
      exact ⟨before,found⟩
    · exact nofun
    · exact nofun
  · apply kept_still kept
    · exact nofun
    · exact nofun

theorem kept_tracked {pairId i fileId : Nat} {s : Races} (kept : Kept pairId s) :
    Kept pairId (s.moved i { s.shared with
      db := s.shared.db.updateTrackedFileSources fileId true false
      scanned := s.shared.scanned.filter (· != fileId) } .idle) := by
  apply kept_fewer kept
  · rfl
  · rfl
  · intro id member now found
    obtain ⟨before,other⟩ := List.mem_filter.mp member
    have apart : id ≠ fileId := by simpa using other
    rw [Db.updateTrackedFileSources,Db.find?_updateTrackedFile] at found
    simp only [apart,if_false,Option.map_id'] at found
    exact ⟨before,found⟩
  · exact nofun
  · exact nofun

theorem kept_undone {pairId i fileId : Nat} {s : Races} (kept : Kept pairId s) :
    Kept pairId (s.moved i { s.shared with db := s.shared.db.deleteTrackedFile fileId } .idle) := by
  apply kept_fewer kept
  · rfl
  · rfl
  · intro id member now found
    have row := Db.find?_deleteTrackedFiles s.shared.db [fileId] id
    rw [List.foldl_cons,List.foldl_nil] at row
    rw [row] at found
    split at found
    · cases found
    · exact ⟨member,found⟩
  · exact nofun
  · exact nofun

/-! The untracking. -/

theorem mem_listed {pairId id : Nat} {s : Races} {folder : TrackedFolder} {file : TrackedFile}
    (row : FileKept pairId s id file) (found : s.shared.db.trackedFiles.find? id = some file)
    (own : folder.drivePairId = pairId) (present : folder ∈ s.shared.db.trackedFolders.rows)
    (beneath : Beneath folder.folderPath file.relativePath) (set : s.shared.cleared = false)
    (alone : s.shared.db.takenByOther pairId folder.id file.relativePath = false) :
    id ∈ (s.shared.db.listFolderOriginDescendantFiles folder.drivePairId folder.folderPath folder.id).map
      TrackedFile.id := by
  subst own
  have key : file.id = id := Table.find?_key found
  rw [List.mem_map]
  refine ⟨file,mem_descendants.mpr ?_,key⟩
  rw [key]
  exact ⟨found,row.own,row.indirect,row.flagged set,(row.agrees folder present rfl).mpr beneath,alone⟩

theorem kept_listed {pairId i : Nat} {s : Races} {folder : TrackedFolder} (kept : Kept pairId s)
    (standing : s.op i = .untracking folder) (met : Meets pairId s .proceed (.untracking folder)) :
    Kept pairId (s.moved i s.shared (.deleting folder
      ((s.shared.db.listFolderOriginDescendantFiles folder.drivePairId folder.folderPath folder.id).map
        TrackedFile.id))) where
  files := by
    intro id member file found
    obtain ⟨set,held⟩ := met
    have row := kept.files id member file found
    have current := kept.current i folder standing
    refine ⟨row.own,row.indirect,row.flagged,row.agrees,?_⟩
    obtain ⟨holder,present,pair,beneath,stays⟩ := row.safe
    by_cases same : holder.id = folder.id
    · obtain rfl := current.same holder present same
      by_cases taken : s.shared.db.takenByOther pairId holder.id file.relativePath = true
      · -- another folder holds the file too, and one of those stays
        obtain ⟨other,listed,takes⟩ := List.any_eq_true.mp taken
        simp only [Bool.and_eq_true,beq_iff_eq,bne_iff_ne] at takes
        obtain ⟨⟨ours,apart⟩,under⟩ := takes
        obtain ⟨keeper,here,its,distinct,below,staying⟩ := held id member file found beneath other listed ours apart
          ((row.agrees other listed ours).mp under)
        refine ⟨keeper,here,its,below,stays_moved staying fun listing fileIds now same => ?_⟩
        cases now
        exact absurd same.symm distinct
      · have listed := mem_listed row found pair present beneath set (Bool.eq_false_iff.mpr taken)
        refine ⟨holder,present,pair,beneath,stays_moved stays fun listing fileIds now _ => ?_⟩
        cases now
        exact listed
    · refine ⟨holder,present,pair,beneath,stays_moved stays fun listing fileIds now other => ?_⟩
      cases now
      exact absurd other.symm same
  current := current_moved kept rfl nofun

theorem deleteFolderCascadeTx_trackedFolders (db : Db) (folderId : Nat) (fileIds : List Nat) :
    (db.deleteFolderCascadeTx folderId fileIds).trackedFolders =
      db.trackedFolders.deleteWhere (fun other => other.id == folderId) := by
  rw [← Db.deleteTrackedFiles_trackedFolders db fileIds]
  rfl

theorem kept_deleted {pairId i : Nat} {s : Races} {folder : TrackedFolder} {fileIds : List Nat} (kept : Kept pairId s)
    (standing : s.op i = .deleting folder fileIds) :
    Kept pairId (s.moved i { s.shared with db := s.shared.db.deleteFolderCascadeTx folder.id fileIds } .clearing) where
  files := by
    intro id member file found
    have folders := deleteFolderCascadeTx_trackedFolders s.shared.db folder.id fileIds
    have left : (fileIds.foldl Db.deleteTrackedFile s.shared.db).trackedFiles.find? id = some file := found
    rw [Db.find?_deleteTrackedFiles] at left
    split at left
    · cases left
    · rename_i unlisted
      have row := kept.files id member file left
      obtain ⟨holder,present,pair,beneath,stays⟩ := row.safe
      have other : holder.id ≠ folder.id := fun same => unlisted (stays i folder fileIds standing same.symm)
      refine ⟨row.own,row.indirect,row.flagged,?_,holder,?_,pair,beneath,stays_moved stays nofun⟩
      · intro any listed
        rw [Interleaved.moved_shared,folders] at listed
        exact row.agrees any (List.mem_filter.mp listed).1
      · rw [Interleaved.moved_shared,folders,Table.deleteWhere_rows,List.mem_filter]
        exact ⟨present,by simpa using other⟩
  current := by
    intro j reading reads
    rw [Interleaved.moved_shared]
    have before : s.op j = .untracking reading := by
      by_cases mine : j = i
      · rw [mine,Interleaved.moved_same] at reads
        cases reads
      · rw [s.moved_other _ _ mine] at reads
        exact reads
    have current := kept.current j reading before
    have folders := deleteFolderCascadeTx_trackedFolders s.shared.db folder.id fileIds
    refine ⟨current.own,?_,fun row listed => ?_⟩
    · rw [folders]
      exact current.known
    · rw [folders] at listed
      exact current.same row (List.mem_filter.mp listed).1

/-! Whole runs. -/

theorem current_read {pairId folderId : Nat} {db : Db} {folder : TrackedFolder}
    (found : db.getTrackedFolder folderId = .ok folder)
    (own : folder.drivePairId = pairId) : Current pairId db folder := by
  unfold Db.getTrackedFolder at found
  split at found
  · rename_i row there
    cases found
    have present := Table.mem_of_find? there
    refine ⟨own,db.trackedFolders.bounded folder present,fun other listed same => ?_⟩
    exact db.trackedFolders.key_injective listed present same
  · cases found

theorem kept_readFolder {pairId i folderId : Nat} {s : Races} {reading : TrackedFolder → Phase} {next : Ledger × Phase}
    (kept : Kept pairId s) (read : readFolder pairId s.shared folderId reading = some next)
    (plain : ∀ folder other fileIds, reading folder ≠ .deleting other fileIds)
    (own : ∀ folder other, reading folder = .untracking other → other = folder) :
    Kept pairId (s.moved i next.1 next.2) := by
  unfold readFolder at read
  split at read
  · rename_i folder found
    split at read
    · rename_i ours
      cases read
      apply kept_still kept (plain folder)
      intro other same
      exact own folder other same ▸ current_read found ours
    · cases read
  · cases read

theorem kept_visit {pairId i : Nat} {s : Races} {folder : TrackedFolder} {path : String} {next : Ledger × Phase}
    (kept : Kept pairId s) (visited : visit pairId s.shared folder path = some next) :
    Kept pairId (s.moved i next.1 next.2) := by
  unfold visit at visited
  split at visited
  · split at visited
    · cases visited
      apply kept_still kept
      · exact nofun
      · exact nofun
    · split at visited
      · cases visited
        apply kept_still kept
        · exact nofun
        · exact nofun
      · cases visited
        apply kept_still kept
        · exact nofun
        · exact nofun
  · cases visited

theorem kept_turn {pairId i : Nat} {s : Races} {input : Input} {phase : Phase} {next : Ledger × Phase}
    (kept : Kept pairId s) (standing : s.op i = phase) (met : Meets pairId s input phase)
    (turned : turn pairId input s.shared phase = some next) : Kept pairId (s.moved i next.1 next.2) := by
  unfold turn at turned
  split at turned
  · cases turned
    apply kept_still kept
    · exact nofun
    · exact nofun
  · cases turned
    apply kept_still kept
    · exact nofun
    · exact nofun
  · cases turned
    exact kept_cleared kept
  · cases turned
    exact kept_set kept
  · cases turned
    exact kept_directed kept met
  · apply kept_readFolder kept turned
    · intro folder other fileIds same
      cases same
    · intro folder other same
      cases same
  · exact kept_visit kept turned
  · cases turned
    exact kept_storeScanned kept met
  · cases turned
    apply kept_still kept
    · exact nofun
    · exact nofun
  · cases turned
    apply kept_still kept
    · exact nofun
    · exact nofun
  · cases turned
    exact kept_tracked kept
  · cases turned
    exact kept_storeTracked kept
  · cases turned
    exact kept_undone kept
  · apply kept_readFolder kept turned
    · intro folder other fileIds same
      cases same
    · intro folder other same
      exact (Phase.untracking.inj same).symm
  · cases turned
    exact kept_listed kept standing met
  · cases turned
    exact kept_deleted kept standing
  · cases turned

theorem createTrackedFolder_cases (db : Db) (pairId : Nat) (folderPath : String) (sidecars : Bool) :
    (db.createTrackedFolderWithSidecars pairId folderPath none sidecars).2.trackedFiles = db.trackedFiles ∧
      ((db.createTrackedFolderWithSidecars pairId folderPath none sidecars).2.trackedFolders = db.trackedFolders ∨
        ∃ folder : TrackedFolder, folder.id = db.trackedFolders.lastId + 1 ∧ folder.folderPath = folderPath ∧
          (db.createTrackedFolderWithSidecars pairId folderPath none sidecars).2.trackedFolders.rows =
            db.trackedFolders.rows ++ [folder] ∧
          (db.createTrackedFolderWithSidecars pairId folderPath none sidecars).2.trackedFolders.lastId =
            db.trackedFolders.lastId + 1) := by
  unfold Db.createTrackedFolderWithSidecars
  split
  · exact ⟨rfl,.inl rfl⟩
  · split
    · exact ⟨rfl,.inr ⟨_,rfl,rfl,rfl,rfl⟩⟩
    · exact ⟨rfl,.inl rfl⟩

theorem kept_outside {pairId : Nat} {s : Races} {event : Event} (kept : Kept pairId s)
    (met : Apart pairId (.outside event) s) :
    Kept pairId { s with shared := outside pairId event s.shared } := by
  obtain ⟨folderPath,sidecars⟩ := event
  obtain ⟨files,folders⟩ := createTrackedFolder_cases s.shared.db pairId folderPath sidecars
  have wider : ∀ folder, folder ∈ s.shared.db.trackedFolders.rows →
      folder ∈ (outside pairId (.addFolder folderPath sidecars) s.shared).db.trackedFolders.rows := by
    intro folder present
    rcases folders with same | ⟨new,_,_,rows,_⟩
    · exact same ▸ present
    · exact rows ▸ List.mem_append_left _ present
  have either : ∀ folder, folder ∈ (outside pairId (.addFolder folderPath sidecars) s.shared).db.trackedFolders.rows →
      folder ∈ s.shared.db.trackedFolders.rows ∨
        folder.id = s.shared.db.trackedFolders.lastId + 1 ∧ folder.folderPath = folderPath := by
    intro folder present
    rcases folders with same | ⟨new,number,named,rows,_⟩
    · exact .inl (same ▸ present)
    · rcases List.mem_append.mp (rows ▸ present) with old | last
      · exact .inl old
      · obtain rfl := List.mem_singleton.mp last
        exact .inr ⟨number,named⟩
  constructor
  · intro id member file found
    have there : s.shared.db.trackedFiles.find? id = some file := files ▸ found
    have row := kept.files id member file there
    obtain ⟨holder,present,pair,beneath,stays⟩ := row.safe
    refine ⟨row.own,row.indirect,row.flagged,fun folder listed ours => ?_,holder,wider holder present,pair,beneath,stays⟩
    rcases either folder listed with old | ⟨_,named⟩
    · exact row.agrees folder old ours
    · rw [named]
      exact met id member file there
  · intro i folder standing
    have current := kept.current i folder standing
    refine ⟨current.own,?_,fun row listed same => ?_⟩
    · rcases folders with same | ⟨_,_,_,_,last⟩
      · exact same ▸ current.known
      · exact last ▸ Nat.le_succ_of_le current.known
    · rcases either row listed with old | ⟨number,_⟩
      · exact current.same row old same
      · have known := current.known
        omega

/-- Nothing runs, and every scanned file is flagged and beneath a tracked folder. -/
structure Ready (pairId : Nat) (s : Races) : Prop where
  idle : ∀ i, s.op i = .idle
  files : ∀ id ∈ s.shared.scanned, ∀ file, s.shared.db.trackedFiles.find? id = some file →
    file.drivePairId = pairId ∧ file.trackedDirect = false ∧ file.trackedViaFolder = true ∧ InFolder s.shared.db file ∧
      Agrees pairId s.shared.db file.relativePath

theorem Ready.kept {pairId : Nat} {s : Races} (ready : Ready pairId s) : Kept pairId s where
  files := by
    intro id member file found
    obtain ⟨own,indirect,flagged,⟨folder,present,pair,beneath⟩,agrees⟩ := ready.files id member file found
    refine ⟨own,indirect,fun _ => flagged,agrees,folder,present,pair.trans own,beneath,fun i other fileIds standing => ?_⟩
    rw [ready.idle i] at standing
    cases standing
  current := by
    intro i folder standing
    rw [ready.idle i] at standing
    cases standing

/-- In a run whose steps all meet the condition no scanned file is tracked directly beneath a tracked folder, and
none is left behind. -/
theorem provenance_sound {pairId : Nat} {start s : Races} (ready : Ready pairId start)
    (reached : (machine pairId).Reaches (Apart pairId) start s) : Sound s.shared := by
  have kept : Kept pairId s := by
    apply Interleaved.invariant_of_turns reached ready.kept
    · intro i input s next holds met turned
      exact kept_turn holds rfl met turned
    · intro event s holds met
      exact kept_outside holds met
  exact kept.sound

/-! A scanned file in its folder: a recomputation beside a scan, and two recomputations at a time. -/

def oneFolder : Races := ⟨⟨foldersDb lowerFolder,[1],false⟩,fun _ => .idle⟩

theorem ready_oneFolder : Ready 1 oneFolder where
  idle := fun _ => rfl
  files := by
    intro id member file found
    obtain rfl := List.mem_singleton.mp member
    obtain rfl : scannedFile "photos/f" 1 = file := Option.some.inj found
    refine ⟨rfl,rfl,rfl,⟨folderRow "photos" 1,List.mem_singleton.mpr rfl,rfl,by decide +kernel⟩,fun folder listed _ => ?_⟩
    obtain rfl := List.mem_singleton.mp (show folder ∈ [folderRow "photos" 1] from listed)
    decide +kernel

theorem undeleted_turn {start s t : Races} (i : Nat) (input : Input)
    (before : (machine 1).Reaches (Apart 1) start s ∧ ∀ j folder fileIds, s.op j ≠ .deleting folder fileIds)
    (met : Meets 1 s input (s.op i)) (taken : (machine 1).step (.turn i input) s = some t)
    (mine : ∀ folder fileIds, t.op i ≠ .deleting folder fileIds) :
    (machine 1).Reaches (Apart 1) start t ∧ ∀ j folder fileIds, t.op j ≠ .deleting folder fileIds := by
  obtain ⟨reached,others⟩ := before
  obtain ⟨next,_,rfl⟩ := Option.map_eq_some_iff.mp taken
  refine ⟨.step (.turn i input) reached met taken,?_⟩
  rw [Interleaved.moved_same] at mine
  exact Interleaved.forall_moved (P := fun phase : Phase => ∀ folder fileIds, phase ≠ .deleting folder fileIds) mine
    fun j _ => others j

/-- A recomputation, beside a scan that finds a new file and a file that is tracked by its path. -/
def besideScan : List (Move Input Event) :=
  [.turn 0 .recompute,.turn 1 (.scan 1),.turn 0 .proceed,.turn 1 (.visit "photos/g"),.turn 2 (.track "notes"),
    .turn 1 (.store "g" 1),.turn 2 (.store "n" 1),.turn 0 .proceed,.turn 0 .proceed,.turn 1 .finish,.turn 1 .proceed,
    .turn 1 .proceed,.turn 1 .proceed]

theorem provenance_sound_besideScan : ∃ s, (machine 1).exec oneFolder besideScan = some s ∧ s.shared.scanned = [2,1] ∧
    s.shared.db.trackedFiles.rows.map TrackedFile.trackedDirect = [false,false,true] ∧ Sound s.shared := by
  have idle : (machine 1).Reaches (Apart 1) oneFolder oneFolder ∧
      ∀ j folder fileIds, oneFolder.op j ≠ .deleting folder fileIds := ⟨.start,fun _ _ _ => nofun⟩
  have asked := undeleted_turn 0 .recompute idle trivial rfl (fun _ => nofun)
  have scanning := undeleted_turn 1 (.scan 1) asked trivial rfl (fun _ => nofun)
  have cleared := undeleted_turn 0 .proceed scanning trivial rfl (fun _ => nofun)
  have visited := undeleted_turn 1 (.visit "photos/g") cleared trivial rfl (fun _ => nofun)
  have tracking := undeleted_turn 2 (.track "notes") visited trivial rfl (fun _ => nofun)
  have stored := undeleted_turn 1 (.store "g" 1) tracking ⟨fun folder listed _ => by
      obtain rfl := List.mem_singleton.mp (show folder ∈ [folderRow "photos" 1] from listed)
      decide +kernel,folderRow "photos" 1,List.mem_singleton.mpr rfl,rfl,by decide +kernel,
    fun j folder fileIds standing => absurd standing (tracking.2 j folder fileIds)⟩ rfl (fun _ => nofun)
  have tracked := undeleted_turn 2 (.store "n" 1) stored trivial rfl (fun _ => nofun)
  have set := undeleted_turn 0 .proceed tracked trivial rfl (fun _ => nofun)
  have recomputed := undeleted_turn 0 .proceed set rfl rfl (fun _ => nofun)
  have scanned := undeleted_turn 1 .finish recomputed trivial rfl (fun _ => nofun)
  have clearedToo := undeleted_turn 1 .proceed scanned trivial rfl (fun _ => nofun)
  have setToo := undeleted_turn 1 .proceed clearedToo trivial rfl (fun _ => nofun)
  have ended := undeleted_turn 1 .proceed setToo rfl rfl (fun _ => nofun)
  exact ⟨_,rfl,rfl,by decide +kernel,provenance_sound ready_oneFolder ended.1⟩

/-- The second clears the flag between the first one's last two updates. -/
theorem recomputes_race : ¬ ∀ (pairId : Nat) (start s : Races), Ready pairId start →
    (machine pairId).Reaches (fun _ _ => True) start s → Sound s.shared := by
  intro sound
  obtain ⟨s,ran,row,present,scanned⟩ : ∃ s, (machine 1).exec oneFolder
      [.turn 0 .recompute,.turn 1 .recompute,.turn 0 .proceed,.turn 0 .proceed,.turn 1 .proceed,.turn 0 .proceed] = some s ∧
      s.shared.db.trackedFiles.find? 1 = some { scannedFile "photos/f" 1 with trackedDirect := true,trackedViaFolder := false } ∧
      folderRow "photos" 1 ∈ s.shared.db.trackedFolders.rows ∧ 1 ∈ s.shared.scanned :=
    ⟨_,rfl,by decide +kernel,List.mem_singleton.mpr rfl,List.mem_singleton.mpr rfl⟩
  have after := sound 1 oneFolder s ready_oneFolder (Machine.reaches_of_exec ran)
  have direct := after.indirect 1 scanned _ row ⟨folderRow "photos" 1,present,rfl,by decide +kernel⟩
  cases direct

end BitProtector.ProvenanceRaces
