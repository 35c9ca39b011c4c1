import BitProtector.ChangeDetection

/-! The listing of what is tracked that the browser puts together itself, from one page of the
files and from all folders, beside the listing of the server. -/
namespace BitProtector.TrackingFallback

/-! The parameters. -/

inductive KindFilter
  | file
  | folder
  | all
  deriving DecidableEq, Repr

inductive SourceFilter
  | direct
  | folder
  | all
  deriving DecidableEq, Repr

structure TrackingListParams where
  driveId : Option Nat
  q : Option String
  virtualPrefix : Option String
  hasVirtualPath : Option Bool
  itemKind : Option KindFilter
  source : Option SourceFilter
  page : Option Int
  perPage : Option Int
  deriving DecidableEq, Repr

def KindFilter.text : KindFilter → String
  | .file => "file"
  | .folder => "folder"
  | .all => "all"

def SourceFilter.text : SourceFilter → String
  | .direct => "direct"
  | .folder => "folder"
  | .all => "all"

/-- `GET /tracking/items` with these parameters. -/
def TrackingListParams.request (params : TrackingListParams) : TrackingRequest where
  drivePairId := params.driveId
  query := params.q
  virtualPrefix := params.virtualPrefix
  hasVirtualPath := params.hasVirtualPath
  itemKind := params.itemKind.map KindFilter.text
  source := params.source.map SourceFilter.text
  page := params.page.getD 1
  perPage := params.perPage.getD 50

/-! The items of the browser. -/

/-- An absent text counts as the empty one does. -/
def filled (text : Option String) : Bool := text.any (· ≠ "")

def normalizeFolderPath (path : String) : List Char := path.toList.rdropWhile (· == '/')

def isPathInFolder (relativePath folderPath : String) : Bool :=
  let normalizedFolder := normalizeFolderPath folderPath
  relativePath.toList == normalizedFolder || (normalizedFolder ++ ['/']).isPrefixOf relativePath.toList

def deriveFileVirtualPath (file : TrackedFile) (folders : List TrackedFolder) : Option String :=
  if filled file.virtualPath then file.virtualPath
  else
    let matchingFolders := (folders.filter (fun folder =>
      folder.drivePairId == file.drivePairId && filled folder.virtualPath &&
        isPathInFolder file.relativePath folder.folderPath)).mergeSort (fun a b =>
          (normalizeFolderPath b.folderPath).length ≤ (normalizeFolderPath a.folderPath).length)
    matchingFolders.head?.bind fun folder => folder.virtualPath.map fun virtualPath =>
      let normalizedFolderPath := normalizeFolderPath folder.folderPath
      if file.relativePath.toList = normalizedFolderPath then virtualPath
      else
        let suffix := file.relativePath.toList.drop (normalizedFolderPath.length + 1)
        String.ofList (virtualPath.toList.rdropWhile (· == '/') ++ '/'::suffix)

def fileSource (file : TrackedFile) : TrackingSource :=
  if file.trackedDirect then .direct else if file.trackedViaFolder then .folder else .direct

def toFileItem (file : TrackedFile) (folders : List TrackedFolder) : TrackingItem where
  kind := .file
  id := file.id
  drivePairId := file.drivePairId
  path := file.relativePath
  virtualPath := deriveFileVirtualPath file folders
  isMirrored := some file.isMirrored
  trackedDirect := some file.trackedDirect
  trackedViaFolder := some file.trackedViaFolder
  source := fileSource file
  folderStatus := none
  folderTotalFiles := none
  folderMirroredFiles := none

/-- The files of a page that count for a folder. -/
def statsFiles (files : List TrackedFile) (folder : TrackedFolder) : List TrackedFile :=
  files.filter (fun file => folder.drivePairId == file.drivePairId && isPathInFolder file.relativePath folder.folderPath)

def statusOf (lastScannedAt : Option Nat) (total mirrored : Nat) : TrackingFolderStatus :=
  if total = 0 then if lastScannedAt.isSome then .empty else .notScanned
  else if mirrored = total then .mirrored
  else if mirrored = 0 then .tracked
  else .partially

/-- `toFolderItem`, with the statistics of the page put in. -/
def toFolderItem (lastScannedAt : Nat → Option Nat) (files : List TrackedFile) (folder : TrackedFolder) : TrackingItem :=
  let total := (statsFiles files folder).length
  let mirrored := (statsFiles files folder).countP TrackedFile.isMirrored
  { kind := .folder
    id := folder.id
    drivePairId := folder.drivePairId
    path := folder.folderPath
    virtualPath := folder.virtualPath
    isMirrored := none
    trackedDirect := none
    trackedViaFolder := none
    source := .folder
    folderStatus := some (statusOf (lastScannedAt folder.id) total mirrored)
    folderTotalFiles := some total
    folderMirroredFiles := some mirrored }

/-! Its filters. -/

/-- `toLowerCase` where names of ASCII letters are looked into: beside these letters only the sign of the unit kelvin
and the I with a dot have a lower case with one of them in it. -/
def toLowerCase (text : List Char) : List Char :=
  text.flatMap (fun c => if c = '\u212a' then ['k'] else if c = '\u0130' then ['i','\u0307'] else [c.toLower])

def includeBySource (item : TrackingItem) (source : Option SourceFilter) : Bool :=
  match source with
  | none | some .all => true
  | some .direct => item.kind != .folder && item.source == .direct
  | some .folder => item.kind == .folder || item.source == .folder

def includeByHasVirtualPath (item : TrackingItem) (hasVirtualPath : Option Bool) : Bool :=
  hasVirtualPath.all (· == filled item.virtualPath)

def includeByVirtualPrefix (item : TrackingItem) (virtualPrefix : Option String) : Bool :=
  virtualPrefix.all (fun text => text == "" || text.toList.isPrefixOf (item.virtualPath.getD "").toList)

def includeByQuery (item : TrackingItem) (query : Option String) : Bool :=
  query.all (fun text => text == "" ||
    decide (toLowerCase text.toList <:+: toLowerCase item.path.toList) ||
      decide (toLowerCase text.toList <:+: toLowerCase (item.virtualPath.getD "").toList))

def includes (params : TrackingListParams) (item : TrackingItem) : Bool :=
  params.driveId.all (· == item.drivePairId) &&
    (match params.itemKind.getD .all with
      | .all => true
      | .file => item.kind == .file
      | .folder => item.kind == .folder) &&
    includeBySource item params.source && includeByHasVirtualPath item params.hasVirtualPath &&
    includeByVirtualPrefix item params.virtualPrefix && includeByQuery item params.q

/-! Its listing. -/

/-- By `localeCompare` of the kinds, and then by the ids. -/
def before (a b : TrackingItem) : Bool :=
  if a.kind ≠ b.kind then a.kind == .file else a.id ≤ b.id

def pageOf (params : TrackingListParams) : Nat := (max (params.page.getD 1) 1).toNat

def sizeOf (params : TrackingListParams) : Nat := (min (max (params.perPage.getD 50) 1) 200).toNat

/-- The answer of `GET /files`. -/
def fetched (db : Db) (params : TrackingListParams) : List TrackedFile :=
  (db.listTrackedFiles params.driveId none none (pageOf params) (sizeOf params)).1

/-- `listFallback`; `GET /folders` answers with all folders in the order of their ids. -/
def listFallback (db : Db) (lastScannedAt : Nat → Option Nat) (params : TrackingListParams) : List TrackingItem × Nat :=
  let folderRows := db.trackedFolders.rows
  let files := (fetched db params).map (toFileItem · folderRows)
  let foldersWithStatus := folderRows.map (toFolderItem lastScannedAt (fetched db params))
  let items := ((files ++ foldersWithStatus).filter (includes params)).mergeSort before
  let offset := (pageOf params - 1) * sizeOf params
  ((items.drop offset).take (sizeOf params),items.length)

/-! The rows of both listings. -/

def offsetOf (params : TrackingListParams) : Nat := (pageOf params - 1) * sizeOf params

/-- The files of the fetched page that the browser's filters take. -/
def shownFiles (db : Db) (params : TrackingListParams) : List TrackedFile :=
  (fetched db params).filter (fun file => includes params (toFileItem file db.trackedFolders.rows))

def shownFolders (db : Db) (lastScannedAt : Nat → Option Nat) (params : TrackingListParams) : List TrackedFolder :=
  db.trackedFolders.rows.filter (fun folder => includes params (toFolderItem lastScannedAt (fetched db params) folder))

/-- The files that the server's filters take, of all pages. -/
def takenFiles (db : Db) (tieBreak : Nat → Nat) (request : TrackingRequest) : List TrackedFile :=
  if request.itemKind.getD "all" ≠ "folder" then
    db.trackedFiles.rows.filter (fun file =>
      Db.takesPaths request file.drivePairId file.relativePath (db.effectiveVirtualPath tieBreak file) &&
        Db.takesSource (request.source.getD "all") file)
  else []

def takenFolders (db : Db) (request : TrackingRequest) : List TrackedFolder :=
  if request.itemKind.getD "all" ≠ "file" ∧ (request.source.getD "all" = "all" ∨ request.source.getD "all" = "folder") then
    db.trackedFolders.rows.filter (fun folder =>
      Db.takesPaths request folder.drivePairId folder.folderPath folder.virtualPath)
  else []

/-- What is on the requested page of some files and folders, of these in their order. -/
def foldersOnPage (params : TrackingListParams) (files : List TrackedFile) (folders : List TrackedFolder) : List TrackedFolder :=
  (folders.drop (offsetOf params - files.length)).take (sizeOf params - (files.drop (offsetOf params)).length)

/-- What both listings show of a file is the same. -/
def SameFile (db : Db) (tieBreak : Nat → Nat) (file : TrackedFile) : Prop :=
  deriveFileVirtualPath file db.trackedFolders.rows = db.effectiveVirtualPath tieBreak file ∧
    (file.trackedDirect && file.trackedViaFolder) = false

/-- No file that the server counts for a folder is missing on the fetched page. -/
def Complete (db : Db) (params : TrackingListParams) (folder : TrackedFolder) : Prop :=
  ∀ file ∈ db.folderStatsFiles folder,
    file ∈ fetched db params ∧ isPathInFolder file.relativePath folder.folderPath = true

section
variable {db : Db} {tieBreak : Nat → Nat} {lastScannedAt : Nat → Option Nat} {params : TrackingListParams}
  {request : TrackingRequest}

theorem trackingItems_eq : db.trackingItems tieBreak lastScannedAt request =
    (takenFiles db tieBreak request).map (db.fileItem tieBreak) ++
      (takenFolders db request).map (db.folderItem lastScannedAt) := by
  unfold Db.trackingItems takenFiles takenFolders Db.fileItems Db.folderItems
  dsimp only
  congr 1
  · split <;> rfl
  · split <;> rfl

theorem fetched_sublist : (fetched db params).Sublist db.trackedFiles.rows :=
  ((List.take_sublist _ _).trans (List.drop_sublist _ _)).trans List.filter_sublist

theorem shownFiles_sublist : (shownFiles db params).Sublist db.trackedFiles.rows := List.filter_sublist.trans fetched_sublist

theorem shownFolders_sublist : (shownFolders db lastScannedAt params).Sublist db.trackedFolders.rows := List.filter_sublist

theorem takenFiles_sublist : (takenFiles db tieBreak request).Sublist db.trackedFiles.rows := by
  unfold takenFiles
  split
  · exact List.filter_sublist
  · exact List.nil_sublist _

theorem takenFolders_sublist : (takenFolders db request).Sublist db.trackedFolders.rows := by
  unfold takenFolders
  split
  · exact List.filter_sublist
  · exact List.nil_sublist _

theorem nodup_rows {ρ : Type} [Keyed ρ] {table : Table ρ} : table.rows.Nodup :=
  table.ascending.imp fun less same => Nat.ne_of_lt less (congrArg Keyed.key same)

theorem before_id {a b : TrackingItem} (kind : a.kind = b.kind) (least : a.id ≤ b.id) : before a b = true := by
  rw [before,if_neg (not_not_intro kind)]
  exact decide_eq_true least

theorem fallbackItems_eq :
    (((fetched db params).map (toFileItem · db.trackedFolders.rows) ++
        db.trackedFolders.rows.map (toFolderItem lastScannedAt (fetched db params))).filter (includes params)).mergeSort before =
      (shownFiles db params).map (toFileItem · db.trackedFolders.rows) ++
        (shownFolders db lastScannedAt params).map (toFolderItem lastScannedAt (fetched db params)) := by
  rw [List.filter_append,List.filter_map,List.filter_map]
  apply List.mergeSort_of_pairwise
  have files : (shownFiles db params).Pairwise (fun a b => a.id < b.id) := db.trackedFiles.ascending.sublist shownFiles_sublist
  have folders : (shownFolders db lastScannedAt params).Pairwise (fun a b => a.id < b.id) :=
    db.trackedFolders.ascending.sublist shownFolders_sublist
  rw [List.pairwise_append]
  refine ⟨?_,?_,?_⟩
  · apply List.pairwise_map.mpr
    apply files.imp
    intro a b less
    exact before_id (a := toFileItem a _) (b := toFileItem b _) rfl (Nat.le_of_lt less)
  · apply List.pairwise_map.mpr
    apply folders.imp
    intro a b less
    exact before_id (a := toFolderItem _ _ a) (b := toFolderItem _ _ b) rfl (Nat.le_of_lt less)
  · intro a first b second
    obtain ⟨file,_,rfl⟩ := List.mem_map.mp first
    obtain ⟨folder,_,rfl⟩ := List.mem_map.mp second
    rfl

theorem listFallback_eq : listFallback db lastScannedAt params =
    ((((shownFiles db params).map (toFileItem · db.trackedFolders.rows) ++
        (shownFolders db lastScannedAt params).map (toFolderItem lastScannedAt (fetched db params))).drop
          (offsetOf params)).take (sizeOf params),
      (shownFiles db params).length + (shownFolders db lastScannedAt params).length) := by
  unfold listFallback
  dsimp only
  rw [fallbackItems_eq,List.length_append,List.length_map,List.length_map]
  rfl

theorem listTrackingItems_eq : db.listTrackingItems tieBreak lastScannedAt params.request =
    ((((takenFiles db tieBreak params.request).map (db.fileItem tieBreak) ++
        (takenFolders db params.request).map (db.folderItem lastScannedAt)).drop (offsetOf params)).take (sizeOf params),
      (takenFiles db tieBreak params.request).length + (takenFolders db params.request).length) := by
  have size : (max 1 (min params.request.perPage 200)).toNat = sizeOf params := by
    change (max 1 (min (params.perPage.getD 50) 200)).toNat = (min (max (params.perPage.getD 50) 1) 200).toNat
    congr 1
    omega
  unfold Db.listTrackingItems
  dsimp only
  rw [trackingItems_eq,size,List.length_append,List.length_map,List.length_map]
  rfl

/-! Lists of two kinds. -/

theorem append_eq_append_of_kinds {α : Type} {p : α → Bool} {a b c d : List α} (left : ∀ x ∈ a, p x = true)
    (left' : ∀ x ∈ b, p x = true) (right : ∀ x ∈ c, p x = false) (right' : ∀ x ∈ d, p x = false) :
    a ++ c = b ++ d ↔ a = b ∧ c = d := by
  have front {x y : List α} (yes : ∀ z ∈ x, p z = true) (no : ∀ z ∈ y, p z = false) : (x ++ y).filter p = x := by
    rw [List.filter_append,List.filter_eq_self.mpr yes,List.filter_eq_nil_iff.mpr fun z member => by simp [no z member],
      List.append_nil]
  constructor
  · intro same
    have fronts := congrArg (List.filter p) same
    rw [front left right,front left' right'] at fronts
    subst fronts
    exact ⟨rfl,List.append_cancel_left same⟩
  · rintro ⟨rfl,rfl⟩
    rfl

theorem map_eq_map_of_rows {ρ α : Type} {f g : ρ → α} {xs ys : List ρ}
    (key : ∀ x ∈ xs, ∀ y ∈ ys, f x = g y → x = y) :
    xs.map f = ys.map g ↔ xs = ys ∧ ∀ x ∈ xs, f x = g x := by
  induction xs generalizing ys with
  | nil =>
    rw [List.map_nil,eq_comm,List.map_eq_nil_iff]
    constructor
    · rintro rfl
      exact ⟨rfl,fun _ impossible => absurd impossible (by simp)⟩
    · exact fun both => both.1.symm
  | cons x xs ih =>
    cases ys with
    | nil => simp
    | cons y ys =>
      have rest : xs.map f = ys.map g ↔ xs = ys ∧ ∀ x ∈ xs, f x = g x :=
        ih fun a first b second => key a (List.mem_cons_of_mem _ first) b (List.mem_cons_of_mem _ second)
      rw [List.map_cons,List.map_cons,List.cons.injEq,rest,List.cons.injEq,List.forall_mem_cons]
      constructor
      · rintro ⟨same,rfl,others⟩
        obtain rfl := key x List.mem_cons_self y List.mem_cons_self same
        exact ⟨⟨rfl,rfl⟩,same,others⟩
      · rintro ⟨⟨rfl,rfl⟩,same,others⟩
        exact ⟨same,rfl,others⟩

theorem slice_append {α : Type} (files folders : List α) (offset size : Nat) :
    ((files ++ folders).drop offset).take size = (files.drop offset).take size ++
      (folders.drop (offset - files.length)).take (size - (files.drop offset).length) := by
  rw [List.drop_append,List.take_append]

/-! What the items show. -/

theorem fileItem_eq_iff {file : TrackedFile} :
    toFileItem file db.trackedFolders.rows = db.fileItem tieBreak file ↔ SameFile db tieBreak file := by
  have source : fileSource file = (if file.trackedViaFolder then .folder else .direct) ↔
      (file.trackedDirect && file.trackedViaFolder) = false := by
    unfold fileSource
    cases file.trackedDirect <;> cases file.trackedViaFolder <;> simp
  rw [SameFile,← source]
  simp [toFileItem,Db.fileItem]

theorem folderStatus_eq {folder : TrackedFolder} : db.folderStatus lastScannedAt folder =
    statusOf (lastScannedAt folder.id) (db.folderTotalFiles folder) (db.folderMirroredFiles folder) := by
  unfold Db.folderStatus statusOf
  by_cases none : db.folderTotalFiles folder = 0
  · cases lastScannedAt folder.id <;> simp [none]
  · simp [none]

theorem likeFolder_of_isPathInFolder {relativePath folderPath : String}
    (inside : isPathInFolder relativePath folderPath = true) : Db.likeFolder folderPath relativePath = true := by
  apply Db.likeFolder_of_underFolder
  change (relativePath.toList == Db.stripFolderPath folderPath ||
    (Db.stripFolderPath folderPath ++ ['/']).isPrefixOf relativePath.toList) = true at inside
  unfold Db.underFolder
  rw [Bool.or_eq_true] at inside ⊢
  refine inside.imp id fun below => ?_
  rw [List.isPrefixOf_iff_prefix] at below ⊢
  exact below.map Char.toLower

theorem statsFiles_sublist {folder : TrackedFolder} :
    (statsFiles (fetched db params) folder).Sublist (db.folderStatsFiles folder) := by
  let counts (file : TrackedFile) : Bool :=
    Db.likeFolder folder.folderPath file.relativePath && file.drivePairId == folder.drivePairId
  have whole : db.folderStatsFiles folder = db.trackedFiles.rows.filter counts := List.filter_filter
  have narrower : statsFiles (fetched db params) folder =
      ((fetched db params).filter counts).filter (fun file => isPathInFolder file.relativePath folder.folderPath) := by
    rw [List.filter_filter,statsFiles]
    congr 1
    funext file
    cases inside : isPathInFolder file.relativePath folder.folderPath with
    | false => simp
    | true => simp [counts,likeFolder_of_isPathInFolder inside,Bool.beq_comm]
  rw [whole,narrower]
  exact List.filter_sublist.trans (fetched_sublist.filter _)

theorem statsFiles_eq_iff {folder : TrackedFolder} :
    statsFiles (fetched db params) folder = db.folderStatsFiles folder ↔ Complete db params folder := by
  constructor
  · intro same file counted
    rw [← same] at counted
    obtain ⟨onPage,inside⟩ := List.mem_filter.mp counted
    exact ⟨onPage,(Bool.and_eq_true_iff.mp inside).2⟩
  · intro complete
    apply statsFiles_sublist.eq_of_length_le
    have distinct : (db.folderStatsFiles folder).Nodup :=
      (nodup_rows.sublist List.filter_sublist).sublist List.filter_sublist
    apply (distinct.subperm ?_).length_le
    intro file counted
    obtain ⟨onPage,inside⟩ := complete file counted
    have own := (List.mem_filter.mp (List.mem_filter.mp counted).1).2
    exact List.mem_filter.mpr ⟨onPage,by rw [inside,Bool.and_true,Bool.beq_comm]; exact own⟩

theorem folderItem_eq_iff {folder : TrackedFolder} :
    toFolderItem lastScannedAt (fetched db params) folder = db.folderItem lastScannedAt folder ↔ Complete db params folder := by
  rw [← statsFiles_eq_iff]
  constructor
  · intro same
    apply statsFiles_sublist.eq_of_length
    exact Option.some.inj (congrArg TrackingItem.folderTotalFiles same)
  · intro same
    unfold toFolderItem Db.folderItem
    dsimp only
    rw [same,folderStatus_eq]
    rfl

/-! The rows that only one of the listings has. -/

theorem length_add_missing {α : Type} [DecidableEq α] {xs ys : List α} (distinct : xs.Nodup) (distinct' : ys.Nodup) :
    xs.length + (ys.filter (· ∉ xs)).length = ys.length + (xs.filter (· ∉ ys)).length := by
  have shared : (xs.filter (· ∈ ys)).length = (ys.filter (· ∈ xs)).length := by
    apply List.Perm.length_eq
    rw [List.perm_ext_iff_of_nodup (distinct.filter _) (distinct'.filter _)]
    intro x
    simp only [List.mem_filter,decide_eq_true_eq]
    exact And.comm
  have split {a b : List α} : a.length = (a.filter (· ∈ b)).length + (a.filter (· ∉ b)).length := by
    rw [← List.countP_eq_length_filter,← List.countP_eq_length_filter,List.length_eq_countP_add_countP (· ∈ b)]
    simp
  have left := split (a := xs) (b := ys)
  have right := split (a := ys) (b := xs)
  omega

end

/-- How many of the rows that the server's filters take the browser leaves out. -/
def missing (db : Db) (tieBreak : Nat → Nat) (lastScannedAt : Nat → Option Nat) (params : TrackingListParams) : Nat :=
  ((takenFiles db tieBreak params.request).filter (· ∉ shownFiles db params)).length +
    ((takenFolders db params.request).filter (· ∉ shownFolders db lastScannedAt params)).length

/-- How many rows it has that the server's filters refuse. -/
def surplus (db : Db) (tieBreak : Nat → Nat) (lastScannedAt : Nat → Option Nat) (params : TrackingListParams) : Nat :=
  ((shownFiles db params).filter (· ∉ takenFiles db tieBreak params.request)).length +
    ((shownFolders db lastScannedAt params).filter (· ∉ takenFolders db params.request)).length

/-- When the browser shows what the server lists. -/
structure Agrees (db : Db) (tieBreak : Nat → Nat) (lastScannedAt : Nat → Option Nat)
    (params : TrackingListParams) : Prop where
  /-- In both totals as many rows are counted. -/
  balanced : missing db tieBreak lastScannedAt params = surplus db tieBreak lastScannedAt params
  /-- What passes of the first page of the files is the first page of what passes. -/
  first : pageOf params = 1 → shownFiles db params = (takenFiles db tieBreak params.request).take (sizeOf params) ∧
    ∀ file ∈ shownFiles db params, SameFile db tieBreak file
  /-- No file is left for a later page. -/
  later : pageOf params ≠ 1 → (takenFiles db tieBreak params.request).length ≤ offsetOf params
  sameFolders : foldersOnPage params (shownFiles db params) (shownFolders db lastScannedAt params) =
    foldersOnPage params (takenFiles db tieBreak params.request) (takenFolders db params.request)
  complete : ∀ folder ∈ foldersOnPage params (takenFiles db tieBreak params.request) (takenFolders db params.request),
    Complete db params folder

section
variable {db : Db} {tieBreak : Nat → Nat} {lastScannedAt : Nat → Option Nat} {params : TrackingListParams}

theorem totals_iff : (shownFiles db params).length + (shownFolders db lastScannedAt params).length =
      (takenFiles db tieBreak params.request).length + (takenFolders db params.request).length ↔
    missing db tieBreak lastScannedAt params = surplus db tieBreak lastScannedAt params := by
  have shown : (shownFiles db params).Nodup := nodup_rows.sublist shownFiles_sublist
  have taken : (takenFiles db tieBreak params.request).Nodup := nodup_rows.sublist takenFiles_sublist
  have shown' : (shownFolders db lastScannedAt params).Nodup := nodup_rows.sublist shownFolders_sublist
  have taken' : (takenFolders db params.request).Nodup := nodup_rows.sublist takenFolders_sublist
  have files := length_add_missing shown taken
  have folders := length_add_missing shown' taken'
  unfold missing surplus
  omega

theorem shownFiles_le : (shownFiles db params).length ≤ sizeOf params :=
  (List.length_filter_le _ _).trans (List.length_take_le _ _)

theorem size_le_offset (later : pageOf params ≠ 1) : sizeOf params ≤ offsetOf params := by
  have positive : 1 ≤ pageOf params := by
    unfold pageOf
    omega
  exact Nat.le_mul_of_pos_left _ (by omega)

theorem offset_first (first : pageOf params = 1) : offsetOf params = 0 := by
  rw [offsetOf,first,Nat.sub_self,Nat.zero_mul]

theorem filePages_iff :
    (((shownFiles db params).drop (offsetOf params)).take (sizeOf params)).map (toFileItem · db.trackedFolders.rows) =
      (((takenFiles db tieBreak params.request).drop (offsetOf params)).take (sizeOf params)).map (db.fileItem tieBreak) ↔
    (pageOf params = 1 → shownFiles db params = (takenFiles db tieBreak params.request).take (sizeOf params) ∧
      ∀ file ∈ shownFiles db params, SameFile db tieBreak file) ∧
    (pageOf params ≠ 1 → (takenFiles db tieBreak params.request).length ≤ offsetOf params) := by
  by_cases first : pageOf params = 1
  · rw [offset_first first,List.drop_zero,List.drop_zero,List.take_of_length_le shownFiles_le,map_eq_map_of_rows]
    · simp only [fileItem_eq_iff]
      exact ⟨fun both => ⟨fun _ => both,fun other => absurd first other⟩,fun both => both.1 first⟩
    · intro file shown other taken same
      apply Table.key_injective _ (shownFiles_sublist.subset shown) (takenFiles_sublist.subset (List.mem_of_mem_take taken))
      exact congrArg TrackingItem.id same
  · have none : (shownFiles db params).drop (offsetOf params) = [] :=
      List.drop_eq_nil_of_le (shownFiles_le.trans (size_le_offset first))
    have some : 0 < sizeOf params := by
      unfold sizeOf
      omega
    rw [none,List.take_nil,List.map_nil,eq_comm,List.map_eq_nil_iff,List.take_eq_nil_iff,List.drop_eq_nil_iff]
    constructor
    · intro empty
      exact ⟨fun impossible => absurd impossible first,fun _ => empty.resolve_left (Nat.ne_of_gt some)⟩
    · intro both
      exact .inr (both.2 first)

theorem folderPages_iff :
    (foldersOnPage params (shownFiles db params) (shownFolders db lastScannedAt params)).map
        (toFolderItem lastScannedAt (fetched db params)) =
      (foldersOnPage params (takenFiles db tieBreak params.request) (takenFolders db params.request)).map
        (db.folderItem lastScannedAt) ↔
    foldersOnPage params (shownFiles db params) (shownFolders db lastScannedAt params) =
      foldersOnPage params (takenFiles db tieBreak params.request) (takenFolders db params.request) ∧
    ∀ folder ∈ foldersOnPage params (takenFiles db tieBreak params.request) (takenFolders db params.request),
      Complete db params folder := by
  rw [map_eq_map_of_rows]
  · simp only [folderItem_eq_iff]
    constructor
    · rintro ⟨same,each⟩
      exact ⟨same,by rwa [← same]⟩
    · rintro ⟨same,each⟩
      exact ⟨same,by rwa [same]⟩
  · intro folder shown other taken same
    apply Table.key_injective _ (shownFolders_sublist.subset (List.mem_of_mem_drop (List.mem_of_mem_take shown)))
      (takenFolders_sublist.subset (List.mem_of_mem_drop (List.mem_of_mem_take taken)))
    exact congrArg TrackingItem.id same

theorem append_eq_append_of_kind {files files' folders folders' : List TrackingItem}
    (file : ∀ item ∈ files, item.kind = .file) (file' : ∀ item ∈ files', item.kind = .file)
    (folder : ∀ item ∈ folders, item.kind = .folder) (folder' : ∀ item ∈ folders', item.kind = .folder) :
    files ++ folders = files' ++ folders' ↔ files = files' ∧ folders = folders' := by
  apply append_eq_append_of_kinds (p := fun item => item.kind == .file)
  · exact fun item member => by rw [file item member]; rfl
  · exact fun item member => by rw [file' item member]; rfl
  · exact fun item member => by rw [folder item member]; rfl
  · exact fun item member => by rw [folder' item member]; rfl

theorem listFallback_agrees_iff :
    listFallback db lastScannedAt params = db.listTrackingItems tieBreak lastScannedAt params.request ↔
      Agrees db tieBreak lastScannedAt params := by
  have kind {ρ : Type} {f : ρ → TrackingItem} {rows : List ρ} {which : TrackingItemKind}
      (each : ∀ row, (f row).kind = which) : ∀ item ∈ rows.map f, item.kind = which := by
    intro item member
    obtain ⟨row,_,rfl⟩ := List.mem_map.mp member
    exact each row
  rw [listFallback_eq,listTrackingItems_eq,Prod.mk.injEq,slice_append,slice_append,totals_iff,List.length_map,
    List.length_map]
  simp only [← List.map_drop,← List.map_take,List.length_map]
  rw [append_eq_append_of_kind (kind fun _ => rfl) (kind fun _ => rfl) (kind fun _ => rfl) (kind fun _ => rfl)]
  change (_ ∧ (foldersOnPage params (shownFiles db params) (shownFolders db lastScannedAt params)).map _ =
    (foldersOnPage params (takenFiles db tieBreak params.request) (takenFolders db params.request)).map _) ∧ _ ↔ _
  rw [filePages_iff,folderPages_iff]
  constructor
  · rintro ⟨⟨⟨first,later⟩,same,complete⟩,balanced⟩
    exact ⟨balanced,first,later,same,complete⟩
  · intro agrees
    exact ⟨⟨⟨agrees.first,agrees.later⟩,agrees.sameFolders,agrees.complete⟩,agrees.balanced⟩

end

end BitProtector.TrackingFallback
