import BitProtector.FolderProvenance
import BitProtector.Foundation.Paging

/-! The listing of what is tracked: files with the virtual path they have or take from a
tracked folder, and folders with how far their files are mirrored. -/
namespace BitProtector

inductive TrackingItemKind
  | file
  | folder
  deriving DecidableEq, Repr

inductive TrackingSource
  | direct
  | folder
  deriving DecidableEq, Repr

inductive TrackingFolderStatus
  | notScanned
  | empty
  | tracked
  | mirrored
  | partially
  deriving DecidableEq, Repr

structure TrackingItem where
  kind : TrackingItemKind
  id : Nat
  drivePairId : Nat
  path : String
  virtualPath : Option String
  isMirrored : Option Bool
  trackedDirect : Option Bool
  trackedViaFolder : Option Bool
  source : TrackingSource
  folderStatus : Option TrackingFolderStatus
  folderTotalFiles : Option Nat
  folderMirroredFiles : Option Nat
  deriving DecidableEq, Repr

/-- The arguments of `list_tracking_items`. -/
structure TrackingRequest where
  drivePairId : Option Nat
  query : Option String
  virtualPrefix : Option String
  hasVirtualPath : Option Bool
  itemKind : Option String
  source : Option String
  page : Int
  perPage : Int
  deriving DecidableEq, Repr

namespace Db

/-! The virtual path of a file. -/

/-- The folders whose virtual path a file may take. -/
def virtualFolders (db : Db) (file : TrackedFile) : List TrackedFolder :=
  db.trackedFolders.rows.filter (fun folder =>
    folder.drivePairId == file.drivePairId && folder.virtualPath.isSome &&
      likeFolder folder.folderPath file.relativePath)

/-- `ORDER BY length(rtrim(f.folder_path, '/')) DESC LIMIT 1`; of folders of one length any may come first. -/
def longestVirtualFolder (db : Db) (tieBreak : Nat → Nat) (file : TrackedFile) : Option TrackedFolder :=
  (Paging.ordered (fun folder => OrderDual.toDual (stripFolderPath folder.folderPath).length)
    (fun folder => tieBreak folder.id) (db.virtualFolders file)).head?

/-- What a file takes from the virtual path of a folder. -/
def inheritedPath (folderPath relativePath virtualPath : String) : String :=
  if relativePath.toList = stripFolderPath folderPath then virtualPath
  else virtualPath ++ "/" ++ String.ofList (relativePath.toList.drop ((stripFolderPath folderPath).length + 1))

def effectiveVirtualPath (db : Db) (tieBreak : Nat → Nat) (file : TrackedFile) : Option String :=
  file.virtualPath.orElse fun _ =>
    (db.longestVirtualFolder tieBreak file).bind fun folder =>
      folder.virtualPath.map (inheritedPath folder.folderPath file.relativePath)

/-! The status of a folder. -/

/-- The files that the statistics of a folder join. -/
def folderStatsFiles (db : Db) (folder : TrackedFolder) : List TrackedFile :=
  (db.listTrackedFilesOfPair folder.drivePairId).filter (fun file => likeFolder folder.folderPath file.relativePath)

def folderTotalFiles (db : Db) (folder : TrackedFolder) : Nat := (db.folderStatsFiles folder).length

def folderMirroredFiles (db : Db) (folder : TrackedFolder) : Nat :=
  (db.folderStatsFiles folder).countP TrackedFile.isMirrored

def folderStatus (db : Db) (lastScannedAt : Nat → Option Nat) (folder : TrackedFolder) : TrackingFolderStatus :=
  if db.folderTotalFiles folder = 0 ∧ lastScannedAt folder.id = none then .notScanned
  else if db.folderTotalFiles folder = 0 then .empty
  else if db.folderMirroredFiles folder = db.folderTotalFiles folder then .mirrored
  else if db.folderMirroredFiles folder = 0 then .tracked
  else .partially

/-! The rows of the listing. -/

def fileItem (db : Db) (tieBreak : Nat → Nat) (file : TrackedFile) : TrackingItem where
  kind := .file
  id := file.id
  drivePairId := file.drivePairId
  path := file.relativePath
  virtualPath := db.effectiveVirtualPath tieBreak file
  isMirrored := some file.isMirrored
  trackedDirect := some file.trackedDirect
  trackedViaFolder := some file.trackedViaFolder
  source := if file.trackedViaFolder then .folder else .direct
  folderStatus := none
  folderTotalFiles := none
  folderMirroredFiles := none

/-- The `last_scanned_at` column is read for its being `NULL` only. -/
def folderItem (db : Db) (lastScannedAt : Nat → Option Nat) (folder : TrackedFolder) : TrackingItem where
  kind := .folder
  id := folder.id
  drivePairId := folder.drivePairId
  path := folder.folderPath
  virtualPath := folder.virtualPath
  isMirrored := none
  trackedDirect := none
  trackedViaFolder := none
  source := .folder
  folderStatus := some (db.folderStatus lastScannedAt folder)
  folderTotalFiles := some (db.folderTotalFiles folder)
  folderMirroredFiles := some (db.folderMirroredFiles folder)

/-- `LIKE` without `ESCAPE`. -/
def likes (pattern text : List Char) : Bool :=
  Like.fits (Like.sameUnder Char.toLower) (pattern.map wildcard) text

/-- A filter that is left out, or blank, takes everything. -/
def passes (filter : Option String) (takes : List Char → Bool) : Bool :=
  match filter.map (fun text => VirtualPath.trim text.toList) with
  | none | some [] => true
  | some text => takes text

/-- The conditions that files and folders have in common. -/
def takesPaths (request : TrackingRequest) (drivePairId : Nat) (path : String) (virtualPath : Option String) : Bool :=
  request.drivePairId.all (· == drivePairId) &&
    passes request.query (fun text =>
      likes (['%'] ++ text ++ ['%']) path.toList || likes (['%'] ++ text ++ ['%']) (virtualPath.getD "").toList) &&
    passes request.virtualPrefix (fun text => virtualPath.any (fun path => likes (text ++ ['%']) path.toList)) &&
    request.hasVirtualPath.all (· == virtualPath.isSome)

def takesSource (source : String) (file : TrackedFile) : Bool :=
  if source = "direct" then file.trackedDirect
  else if source = "folder" then !file.trackedDirect && file.trackedViaFolder
  else true

def fileItems (db : Db) (tieBreak : Nat → Nat) (request : TrackingRequest) : List TrackingItem :=
  (db.trackedFiles.rows.filter (fun file =>
    takesPaths request file.drivePairId file.relativePath (db.effectiveVirtualPath tieBreak file) &&
      takesSource (request.source.getD "all") file)).map (db.fileItem tieBreak)

def folderItems (db : Db) (lastScannedAt : Nat → Option Nat) (request : TrackingRequest) : List TrackingItem :=
  (db.trackedFolders.rows.filter (fun folder =>
    takesPaths request folder.drivePairId folder.folderPath folder.virtualPath)).map (db.folderItem lastScannedAt)

/-- The two branches of the union, `ORDER BY kind, id`. -/
def trackingItems (db : Db) (tieBreak : Nat → Nat) (lastScannedAt : Nat → Option Nat) (request : TrackingRequest) :
    List TrackingItem :=
  let itemKind := request.itemKind.getD "all"
  let source := request.source.getD "all"
  (if itemKind ≠ "folder" then db.fileItems tieBreak request else []) ++
    (if itemKind ≠ "file" ∧ (source = "all" ∨ source = "folder") then db.folderItems lastScannedAt request else [])

def listTrackingItems (db : Db) (tieBreak : Nat → Nat) (lastScannedAt : Nat → Option Nat) (request : TrackingRequest) :
    List TrackingItem × Nat :=
  let items := db.trackingItems tieBreak lastScannedAt request
  let page := (max request.page 1).toNat
  let perPage := (max 1 (min request.perPage 200)).toNat
  ((items.drop ((page - 1) * perPage)).take perPage,items.length)

/-! What is on a page. -/

section
variable {db : Db} {tieBreak : Nat → Nat} {lastScannedAt : Nat → Option Nat} {request : TrackingRequest}
  {item : TrackingItem}

theorem mem_trackingItems (member : item ∈ db.trackingItems tieBreak lastScannedAt request) :
    (∃ file ∈ db.trackedFiles.rows, item = db.fileItem tieBreak file) ∨
      ∃ folder ∈ db.trackedFolders.rows, item = db.folderItem lastScannedAt folder := by
  rcases List.mem_append.mp member with files | folders
  · left
    split at files
    · obtain ⟨file,taken,same⟩ := List.mem_map.mp files
      exact ⟨file,(List.mem_filter.mp taken).1,same.symm⟩
    · cases files
  · right
    split at folders
    · obtain ⟨folder,taken,same⟩ := List.mem_map.mp folders
      exact ⟨folder,(List.mem_filter.mp taken).1,same.symm⟩
    · cases folders

theorem mem_listTrackingItems (listed : item ∈ (db.listTrackingItems tieBreak lastScannedAt request).1) :
    item ∈ db.trackingItems tieBreak lastScannedAt request :=
  List.mem_of_mem_drop (List.mem_of_mem_take listed)

theorem mem_page_of_mem (member : item ∈ db.trackingItems tieBreak lastScannedAt request) :
    ∃ page, item ∈ (db.listTrackingItems tieBreak lastScannedAt { request with page,perPage := 1 }).1 := by
  obtain ⟨index,bound,rfl⟩ := List.getElem_of_mem member
  refine ⟨index + 1,?_⟩
  have same : db.trackingItems tieBreak lastScannedAt { request with page := index + 1,perPage := 1 } =
      db.trackingItems tieBreak lastScannedAt request := rfl
  have single : (max 1 (min (1 : Int) 200)).toNat = 1 := rfl
  have place : (max ((index : Int) + 1) 1).toNat - 1 = index := by omega
  change _ ∈ ((db.trackingItems tieBreak lastScannedAt { request with page := index + 1,perPage := 1 }).drop
    (((max ((index : Int) + 1) 1).toNat - 1) * (max 1 (min (1 : Int) 200)).toNat)).take (max 1 (min (1 : Int) 200)).toNat
  rw [same,single,place,Nat.mul_one,List.drop_eq_getElem_cons bound]
  exact List.mem_cons_self

end

/-- Every folder, nothing else. -/
def allFolders : TrackingRequest := ⟨none,none,none,none,some "folder",none,1,1⟩

theorem folderItem_listed {db : Db} (tieBreak : Nat → Nat) (lastScannedAt : Nat → Option Nat) {folder : TrackedFolder}
    (present : folder ∈ db.trackedFolders.rows) :
    ∃ page, db.folderItem lastScannedAt folder ∈
      (db.listTrackingItems tieBreak lastScannedAt { allFolders with page,perPage := 1 }).1 := by
  apply mem_page_of_mem
  apply List.mem_append_right
  rw [if_pos ⟨by decide,.inl rfl⟩]
  apply List.mem_map_of_mem
  exact List.mem_filter.mpr ⟨present,rfl⟩

end Db
end BitProtector
