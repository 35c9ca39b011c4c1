import BitProtector.ChangeDetection
import BitProtector.Foundation.TextOrder
import BitProtector.TrackingItems

/-! The five paged listings, from the numbers in a request to the rows of a page. The files and the
event log take the numbers as they are; the others put them into bounds first, once in the route and
once in the repository. -/
namespace BitProtector.Listings

/-! Offsets. -/

/-- What a build does on overflow: it panics, or wraps around. -/
inductive Build
  | checked
  | wrapping
  deriving DecidableEq

def In64 (n : Int) : Prop := -9223372036854775808 ≤ n ∧ n ≤ 9223372036854775807

instance : DecidablePred In64 := fun _ => inferInstanceAs (Decidable (_ ∧ _))

/-- The result of an operation on `i64`. -/
def Build.int64 : Build → Int → Option Int
  | .checked, n => if In64 n then some n else none
  | .wrapping, n => some (n.bmod 18446744073709551616)

/-- The `page` and `per_page` that a query is made with. -/
structure Window where
  page : Int
  perPage : Int
  deriving DecidableEq

def Window.clamped (window : Window) : Window := ⟨max window.page 1,max 1 (min window.perPage 200)⟩

/-- `(page - 1) * per_page`. -/
def Build.offset (build : Build) (window : Window) : Option Int := do
  let before ← build.int64 (window.page - 1)
  build.int64 (before * window.perPage)

section
variable {α : Type}

/-- `LIMIT {per_page} OFFSET {offset}`. A negative limit is none at all, a negative offset is zero. -/
def slice (limit offset : Int) (rows : List α) : List α :=
  if limit < 0 then rows.drop offset.toNat else (rows.drop offset.toNat).take limit.toNat

/-- A page and `COUNT(*)`. -/
def answer (build : Build) (window : Window) (rows : List α) : Option (List α × Nat) := do
  let offset ← build.offset window
  pure (slice window.perPage offset rows,rows.length)

end

/-! Rows. -/

structure EventLogRow where
  id : Nat
  eventType : String
  trackedFileId : Option Nat
  message : String
  details : Option String
  createdAt : String
  deriving DecidableEq

instance : Keyed EventLogRow := ⟨EventLogRow.id⟩

structure Store where
  db : Db
  eventLog : Table EventLogRow

def fileRows (db : Db) (drivePairId : Option Nat) (virtualPathPrefix : Option String) (isMirrored : Option Bool) :
    List TrackedFile :=
  db.trackedFiles.rows.filter (fun file =>
    drivePairId.all (· == file.drivePairId) &&
      virtualPathPrefix.all (fun text => file.virtualPath.any (fun path => Db.likes (text.toList ++ ['%']) path.toList)) &&
      isMirrored.all (· == file.isMirrored))

/-- A queue row with the path of its file. -/
structure QueueEntry where
  item : SyncQueueItem
  relativePath : String
  deriving DecidableEq

def queueEntry (db : Db) (item : SyncQueueItem) : QueueEntry :=
  ⟨item,((db.trackedFiles.find? item.trackedFileId).map TrackedFile.relativePath).getD ""⟩

def queueRows (db : Db) (status : Option String) : List QueueEntry :=
  (db.syncQueue.rows.filter (fun item => status.all (· == item.status.asStr))).map (queueEntry db)

def resultRows (db : Db) (runId : Nat) (issuesOnly : Bool) : List IntegrityRunResult :=
  db.integrityRunResults.rows.filter (fun result => result.runId == runId && (!issuesOnly || result.needsAttention))

/-- The filters of the event log; the two times are texts. -/
structure LogFilter where
  eventType : Option String
  trackedFileId : Option Nat
  since : Option String
  upTo : Option String

/-- An event with the path of its file. -/
structure EventLogEntry where
  row : EventLogRow
  filePath : Option String
  deriving DecidableEq

def eventFilePath (db : Db) (row : EventLogRow) : Option String := do
  let file ← row.trackedFileId.bind db.trackedFiles.find?
  let pair ← db.drivePairs.find? file.drivePairId
  pure (pair.primaryPath ++ "/" ++ file.relativePath)

/-- `=`, `>=` and `<=` of texts. -/
def LogFilter.takes (filter : LogFilter) (row : EventLogRow) : Bool :=
  filter.eventType.all (· == row.eventType) && filter.trackedFileId.all (fun id => row.trackedFileId == some id) &&
    filter.since.all (fun time => !TextOrder.before row.createdAt.toList time.toList) &&
    filter.upTo.all (fun time => !TextOrder.before time.toList row.createdAt.toList)

/-- `ORDER BY e.id DESC`. -/
def logRows (store : Store) (filter : LogFilter) : List EventLogEntry :=
  (store.eventLog.rows.filter filter.takes).reverse.map (fun row => ⟨row,eventFilePath store.db row⟩)

/-! The queries of the repository. -/

def listTrackedFiles (build : Build) (db : Db) (drivePairId : Option Nat) (virtualPathPrefix : Option String)
    (isMirrored : Option Bool) (window : Window) : Option (List TrackedFile × Nat) :=
  answer build window (fileRows db drivePairId virtualPathPrefix isMirrored)

/-- Neither files nor folders asked for is the empty listing. -/
def listTrackingItems (build : Build) (db : Db) (tieBreak : Nat → Nat) (lastScannedAt : Nat → Option Nat)
    (request : TrackingRequest) : Option (List TrackingItem × Nat) :=
  answer build (Window.clamped ⟨request.page,request.perPage⟩) (db.trackingItems tieBreak lastScannedAt request)

def listSyncQueue (build : Build) (db : Db) (status : Option String) (window : Window) :
    Option (List QueueEntry × Nat) :=
  answer build window.clamped (queueRows db status)

def listIntegrityRunResults (build : Build) (db : Db) (runId : Nat) (issuesOnly : Bool) (window : Window) :
    Option (List IntegrityRunResult × Nat) :=
  answer build window.clamped (resultRows db runId issuesOnly)

def listEventLogs (build : Build) (store : Store) (filter : LogFilter) (window : Window) :
    Option (List EventLogEntry × Nat) :=
  answer build window (logRows store filter)

/-! The routes. -/

structure ListQuery where
  page : Option Int64
  perPage : Option Int64

def ListQuery.window (query : ListQuery) : Window :=
  ⟨(query.page.getD 1).toInt,(query.perPage.getD 50).toInt⟩

/-- A listing with its filters; the numbers of the tracking request are overwritten by those of the query. -/
inductive Listing
  | files (drivePairId : Option Nat) (virtualPathPrefix : Option String) (isMirrored : Option Bool)
  | items (tieBreak : Nat → Nat) (lastScannedAt : Nat → Option Nat) (request : TrackingRequest)
  | queue (status : Option String)
  | results (runId : Nat) (issuesOnly : Bool)
  | logs (filter : LogFilter)

def Listing.Row : Listing → Type
  | .files _ _ _ => TrackedFile
  | .items _ _ _ => TrackingItem
  | .queue _ => QueueEntry
  | .results _ _ => IntegrityRunResult
  | .logs _ => EventLogEntry

def list (build : Build) (store : Store) : (listing : Listing) → ListQuery → Option (List listing.Row × Nat)
  | .files drivePairId virtualPathPrefix isMirrored, query =>
    listTrackedFiles build store.db drivePairId virtualPathPrefix isMirrored query.window
  | .items tieBreak lastScannedAt request, query =>
    listTrackingItems build store.db tieBreak lastScannedAt
      { request with page := query.window.clamped.page,perPage := query.window.clamped.perPage }
  | .queue status, query => listSyncQueue build store.db status query.window.clamped
  | .results runId issuesOnly, query => listIntegrityRunResults build store.db runId issuesOnly query.window.clamped
  | .logs filter, query => listEventLogs build store filter query.window

/-! What a listing is to show. -/

/-- The full filtered list. -/
def rows (store : Store) : (listing : Listing) → List listing.Row
  | .files drivePairId virtualPathPrefix isMirrored => fileRows store.db drivePairId virtualPathPrefix isMirrored
  | .items tieBreak lastScannedAt request => store.db.trackingItems tieBreak lastScannedAt request
  | .queue status => queueRows store.db status
  | .results runId issuesOnly => resultRows store.db runId issuesOnly
  | .logs filter => logRows store filter

def Listing.clamps : Listing → Bool
  | .files _ _ _ | .logs _ => false
  | _ => true

def Listing.window (listing : Listing) (query : ListQuery) : Window :=
  if listing.clamps then query.window.clamped else query.window

/-- A request for the page with index `k`. -/
def pageQuery (size : Int64) (k : Nat) : ListQuery := ⟨some (Int64.ofNat (k + 1)),some size⟩

/-- The first pages, one after the other. -/
def pages (build : Build) (store : Store) (listing : Listing) (size : Int64) (count : Nat) : Option (List listing.Row) :=
  ((List.range count).mapM (fun k => (list build store listing (pageQuery size k)).map Prod.fst)).map List.flatten

/-- No operation of the offset leaves the `i64`. -/
def Computes (listing : Listing) (query : ListQuery) : Prop :=
  Build.checked.offset (listing.window query) ≠ none

/-- The rows on a page of a listing. -/
def Listing.size (listing : Listing) (size : Int64) : Nat :=
  if listing.clamps then (min size.toInt 200).toNat else size.toInt.toNat

/-- The first pages come without overflow and are the first rows, each once, whatever the build. -/
structure Partitions (store : Store) (listing : Listing) (size : Int64) (count : Nat) : Prop where
  computes : ∀ k < count, Computes listing (pageQuery size k)
  concatenate : ∀ build, pages build store listing size count = some ((rows store listing).take (count * listing.size size))
  once : ((rows store listing).take (count * listing.size size)).Nodup

/-- Where the offset stays in the `i64`. -/
def Fits (listing : Listing) (query : ListQuery) : Prop :=
  if listing.clamps then (query.window.page - 1) * max 1 (min query.window.perPage 200) ≤ 9223372036854775807
  else -9223372036854775808 < query.window.page ∧ -9223372036854775808 ≤ (query.window.page - 1) * query.window.perPage ∧
    (query.window.page - 1) * query.window.perPage ≤ 9223372036854775807

instance (listing : Listing) : DecidablePred (Fits listing) := fun _ => inferInstanceAs (Decidable (ite _ _ _))

/-! The numbers. -/

theorem offset_checked_iff {window : Window} :
    Build.checked.offset window ≠ none ↔ In64 (window.page - 1) ∧ In64 ((window.page - 1) * window.perPage) := by
  by_cases before : In64 (window.page - 1)
  · by_cases product : In64 ((window.page - 1) * window.perPage)
    · simp [Build.offset,Build.int64,before,product]
    · simp [Build.offset,Build.int64,before,product]
  · simp [Build.offset,Build.int64,before]

theorem int64_of_in64 {n : Int} (bounds : In64 n) (build : Build) : build.int64 n = some n := by
  cases build with
  | checked => simp [Build.int64,bounds]
  | wrapping =>
    obtain ⟨low,high⟩ := bounds
    have same : n.bmod 18446744073709551616 = n := Int.bmod_eq_of_le (by omega) (by omega)
    simp [Build.int64,same]

theorem offset_of_bounds {window : Window} (before : In64 (window.page - 1))
    (product : In64 ((window.page - 1) * window.perPage)) (build : Build) :
    build.offset window = some ((window.page - 1) * window.perPage) := by
  rw [Build.offset,int64_of_in64 before,Option.bind_eq_bind,Option.bind_some,int64_of_in64 product]

theorem toInt_in64 (n : Int64) : In64 n.toInt := by
  have low := n.le_toInt
  have high := n.toInt_lt
  constructor <;> omega

theorem window_in64 (query : ListQuery) : In64 query.window.page ∧ In64 query.window.perPage :=
  ⟨toInt_in64 _,toInt_in64 _⟩

theorem clamped_clamped (window : Window) : window.clamped.clamped = window.clamped := by
  simp only [Window.clamped,Window.mk.injEq]
  omega

theorem computes_iff_fits {listing : Listing} {query : ListQuery} : Computes listing query ↔ Fits listing query := by
  obtain ⟨⟨low,high⟩,_⟩ := window_in64 query
  rw [Computes,offset_checked_iff,Fits,Listing.window]
  split
  · have positive : 0 < max 1 (min query.window.perPage 200) := by omega
    simp only [Window.clamped,In64]
    rcases Int.le_total query.window.page 1 with first | later
    · have none : (query.window.page - 1) * max 1 (min query.window.perPage 200) ≤ 0 :=
        Int.mul_nonpos_of_nonpos_of_nonneg (by omega) (by omega)
      rw [Int.max_eq_right first,Int.sub_self,Int.zero_mul]
      omega
    · have some : 0 ≤ (query.window.page - 1) * max 1 (min query.window.perPage 200) :=
        Int.mul_nonneg (by omega) (by omega)
      rw [Int.max_eq_left later]
      omega
  · unfold In64
    omega

/-! Pages. -/

theorem list_eq (build : Build) (store : Store) (listing : Listing) (query : ListQuery) :
    list build store listing query = answer build (listing.window query) (rows store listing) := by
  cases listing with
  | files drivePairId virtualPathPrefix isMirrored => rfl
  | items tieBreak lastScannedAt request =>
    change answer build query.window.clamped.clamped _ = _
    rw [clamped_clamped]
    rfl
  | queue status =>
    change answer build query.window.clamped.clamped _ = _
    rw [clamped_clamped]
    rfl
  | results runId issuesOnly =>
    change answer build query.window.clamped.clamped _ = _
    rw [clamped_clamped]
    rfl
  | logs filter => rfl

theorem pageQuery_window {size : Int64} {k : Nat} (bound : k + 1 < 9223372036854775808) :
    (pageQuery size k).window = ⟨k + 1,size.toInt⟩ := by
  have whole : (Int64.ofNat (k + 1)).toInt = (k + 1 : Nat) := Int64.toInt_ofNat_of_lt bound
  rw [ListQuery.window,pageQuery,Option.getD_some,Option.getD_some,whole]
  rfl

theorem listing_window {listing : Listing} {size : Int64} {k : Nat} (positive : 1 ≤ size.toInt)
    (bound : k + 1 < 9223372036854775808) :
    listing.window (pageQuery size k) = ⟨k + 1,listing.size size⟩ := by
  rw [Listing.window,pageQuery_window bound,Listing.size]
  split
  · have page : max ((k : Int) + 1) 1 = k + 1 := by omega
    have perPage : max 1 (min size.toInt 200) = ((min size.toInt 200).toNat : Int) := by omega
    rw [Window.clamped,page,perPage]
  · have perPage : size.toInt = (size.toInt.toNat : Int) := by omega
    rw [← perPage]

/-- The page with index `k`, without overflow. -/
theorem answer_page {α : Type} {k size : Nat} (bound : k < 9223372036854775807) (fits : k * size ≤ 9223372036854775807)
    (build : Build) (rows : List α) :
    answer build ⟨k + 1,size⟩ rows = some ((rows.drop (k * size)).take size,rows.length) := by
  have before : ((k : Int) + 1 - 1) = k := by omega
  have offset : build.offset ⟨k + 1,size⟩ = some ((k * size : Nat) : Int) := by
    rw [offset_of_bounds]
    · simp [before]
    · unfold In64
      dsimp only
      omega
    · unfold In64
      dsimp only
      rw [before,← Int.natCast_mul]
      omega
  have limit : ¬(size : Int) < 0 := by omega
  rw [answer,offset]
  simp only [Option.bind_eq_bind,Option.bind_some,Option.pure_def,slice,if_neg limit,Int.toNat_natCast]

theorem list_page {build : Build} {store : Store} {listing : Listing} {size : Int64} {k : Nat}
    (positive : 1 ≤ size.toInt) (bound : k < 9223372036854775807) (fits : k * listing.size size ≤ 9223372036854775807) :
    (list build store listing (pageQuery size k)).map Prod.fst =
      some (((rows store listing).drop (k * listing.size size)).take (listing.size size)) := by
  rw [list_eq,listing_window positive (by omega),answer_page bound fits,Option.map_some]

/-- Without overflow it is the listing that the search for changes reads. -/
theorem listTrackedFiles_db {k perPage : Nat} (bound : k < 9223372036854775807) (fits : k * perPage ≤ 9223372036854775807)
    (build : Build) (db : Db) (drivePairId : Option Nat) (virtualPathPrefix : Option String) (isMirrored : Option Bool) :
    listTrackedFiles build db drivePairId virtualPathPrefix isMirrored ⟨k + 1,perPage⟩ =
      some (db.listTrackedFiles drivePairId virtualPathPrefix isMirrored (k + 1) perPage) :=
  answer_page bound fits build _

/-- Without overflow it is the listing of what is tracked. -/
theorem listTrackingItems_db {request : TrackingRequest} (bound : request.page ≤ 9223372036854775807)
    (fits : (max request.page 1 - 1) * max 1 (min request.perPage 200) ≤ 9223372036854775807) (build : Build) (db : Db)
    (tieBreak : Nat → Nat) (lastScannedAt : Nat → Option Nat) :
    listTrackingItems build db tieBreak lastScannedAt request =
      some (db.listTrackingItems tieBreak lastScannedAt request) := by
  obtain ⟨k,page⟩ : ∃ k : Nat, max request.page 1 = k + 1 := ⟨(max request.page 1).toNat - 1,by omega⟩
  obtain ⟨size,perPage⟩ : ∃ size : Nat, max 1 (min request.perPage 200) = size :=
    ⟨(max 1 (min request.perPage 200)).toNat,by omega⟩
  have before : ((k : Int) + 1 - 1) = k := by omega
  rw [page,perPage,before,← Int.natCast_mul] at fits
  rw [listTrackingItems,Window.clamped,Db.listTrackingItems]
  dsimp only
  rw [page,perPage,answer_page (by omega) (by omega)]
  rfl

theorem pages_flatten {α : Type} (rows : List α) (size count : Nat) :
    ((List.range count).map (fun k => (rows.drop (k * size)).take size)).flatten = rows.take (count * size) := by
  induction count with
  | zero => simp
  | succ count ih =>
    rw [List.range_succ,List.map_append,List.flatten_append,ih,Nat.succ_mul,List.take_add]
    simp

theorem mapM_of_some {α β : Type} {f : α → Option β} {g : α → β} {list : List α} (all : ∀ a ∈ list, f a = some (g a)) :
    list.mapM f = some (list.map g) := by
  induction list with
  | nil => rfl
  | cons a rest ih =>
    obtain ⟨first,others⟩ := List.forall_mem_cons.mp all
    rw [List.mapM_cons,first,ih others]
    rfl

/-- Rows of a table, however they are shown, are told apart by their ids. -/
theorem shown_nodup {ρ β : Type} [Keyed ρ] (table : Table ρ) (takes : ρ → Bool) (shown : ρ → β) (name : β → Nat)
    (named : ∀ row, name (shown row) = Keyed.key row) : ((table.rows.filter takes).map shown).Nodup := by
  rw [List.Nodup,List.pairwise_map]
  apply (table.ascending.filter takes).imp
  intro a b less same
  have ids := congrArg name same
  rw [named,named] at ids
  omega

theorem filtered_nodup {ρ : Type} [Keyed ρ] (table : Table ρ) (takes : ρ → Bool) : (table.rows.filter takes).Nodup := by
  have distinct := shown_nodup table takes id Keyed.key fun row => rfl
  rwa [List.map_id] at distinct

theorem trackingItems_nodup (db : Db) (tieBreak : Nat → Nat) (lastScannedAt : Nat → Option Nat)
    (request : TrackingRequest) : (db.trackingItems tieBreak lastScannedAt request).Nodup := by
  have files : (db.fileItems tieBreak request).Nodup :=
    shown_nodup db.trackedFiles _ (db.fileItem tieBreak) TrackingItem.id fun file => rfl
  have folders : (db.folderItems lastScannedAt request).Nodup :=
    shown_nodup db.trackedFolders _ (db.folderItem lastScannedAt) TrackingItem.id fun folder => rfl
  have apart : (db.fileItems tieBreak request).Disjoint (db.folderItems lastScannedAt request) := by
    intro item inFiles inFolders
    obtain ⟨file,_,rfl⟩ := List.mem_map.mp inFiles
    obtain ⟨folder,_,same⟩ := List.mem_map.mp inFolders
    have kinds := congrArg TrackingItem.kind same
    cases kinds
  unfold Db.trackingItems
  dsimp only
  split
  · split
    · exact files.append folders apart
    · simpa using files
  · split
    · simpa using folders
    · simp

theorem logRows_nodup (store : Store) (filter : LogFilter) : (logRows store filter).Nodup := by
  rw [logRows,List.map_reverse,List.nodup_reverse]
  exact shown_nodup store.eventLog _ _ (fun entry : EventLogEntry => entry.row.id) fun row => rfl

theorem rows_nodup (store : Store) (listing : Listing) : (rows store listing).Nodup := by
  cases listing with
  | files drivePairId virtualPathPrefix isMirrored => exact filtered_nodup store.db.trackedFiles _
  | items tieBreak lastScannedAt request => exact trackingItems_nodup store.db tieBreak lastScannedAt request
  | queue status => exact shown_nodup store.db.syncQueue _ (queueEntry store.db) (fun entry => entry.item.id) fun item => rfl
  | results runId issuesOnly => exact filtered_nodup store.db.integrityRunResults _
  | logs filter => exact logRows_nodup store filter

theorem pages_take {build : Build} {store : Store} {listing : Listing} {size : Int64} {count : Nat}
    (positive : 1 ≤ size.toInt) (bound : count < 9223372036854775807) (fits : count * listing.size size ≤ 9223372036854775807) :
    pages build store listing size (count + 1) = some ((rows store listing).take ((count + 1) * listing.size size)) := by
  have all : ∀ k ∈ List.range (count + 1), (list build store listing (pageQuery size k)).map Prod.fst =
      some (((rows store listing).drop (k * listing.size size)).take (listing.size size)) := by
    intro k member
    have below := List.mem_range.mp member
    have less : k * listing.size size ≤ count * listing.size size := Nat.mul_le_mul_right _ (by omega)
    exact list_page positive (by omega) (by omega)
  rw [pages,mapM_of_some all,Option.map_some,pages_flatten]

theorem computes_page_iff {listing : Listing} {size : Int64} {k : Nat} (positive : 1 ≤ size.toInt)
    (bound : k < 9223372036854775807) :
    Computes listing (pageQuery size k) ↔ k * listing.size size ≤ 9223372036854775807 := by
  have before : ((k : Int) + 1 - 1) = k := by omega
  rw [Computes,listing_window positive (by omega),offset_checked_iff]
  dsimp only
  rw [before,← Int.natCast_mul]
  unfold In64
  omega

theorem partitions_iff {store : Store} {listing : Listing} {size : Int64} {count : Nat} (positive : 1 ≤ size.toInt)
    (bound : count < 9223372036854775807) :
    Partitions store listing size (count + 1) ↔ count * listing.size size ≤ 9223372036854775807 := by
  constructor
  · intro sound
    exact (computes_page_iff positive bound).mp (sound.computes count (by omega))
  · intro fits
    constructor
    · intro k below
      have less : k * listing.size size ≤ count * listing.size size := Nat.mul_le_mul_right _ (by omega)
      exact (computes_page_iff positive (by omega)).mpr (by omega)
    · intro build
      exact pages_take positive bound fits
    · exact (rows_nodup store listing).sublist (List.take_sublist _ _)

theorem size_positive {listing : Listing} {size : Int64} (positive : 1 ≤ size.toInt) : 0 < listing.size size := by
  unfold Listing.size
  split <;> omega

theorem pages_whole (store : Store) (listing : Listing) {size : Int64} (positive : 1 ≤ size.toInt)
    (countable : (rows store listing).length ≤ 9223372036854775807) :
    ∃ count, Partitions store listing size count ∧ ∀ build, pages build store listing size count = some (rows store listing) := by
  have nonzero : 0 < listing.size size := size_positive positive
  have needed : (rows store listing).length - 1 <
      ((rows store listing).length - 1) / listing.size size * listing.size size + listing.size size :=
    Nat.lt_div_mul_add nonzero
  have below : ((rows store listing).length - 1) / listing.size size * listing.size size ≤ (rows store listing).length - 1 :=
    Nat.div_mul_le_self _ _
  have few : ((rows store listing).length - 1) / listing.size size ≤ (rows store listing).length - 1 := Nat.div_le_self _ _
  refine ⟨((rows store listing).length - 1) / listing.size size + 1,(partitions_iff positive (by omega)).mpr (by omega),?_⟩
  intro build
  rw [pages_take positive (by omega) (by omega),List.take_of_length_le]
  rw [Nat.succ_mul]
  omega

/-- The offset is computed without overflow if and only if the numbers fit; and the first pages of a size come without
overflow and hold the first rows, each once, if and only if the last one's offset fits. The pages that hold all rows do. -/
theorem listings_paginate (store : Store) (listing : Listing) :
    (∀ query, Computes listing query ↔ Fits listing query) ∧
      ∀ size : Int64, 1 ≤ size.toInt →
        (∀ count, count < 9223372036854775807 →
          (Partitions store listing size (count + 1) ↔ count * listing.size size ≤ 9223372036854775807)) ∧
        ((rows store listing).length ≤ 9223372036854775807 → ∃ count, Partitions store listing size count ∧
          ∀ build, pages build store listing size count = some (rows store listing)) := by
  refine ⟨fun query => computes_iff_fits,fun size positive => ⟨fun count bound => ?_,fun countable => ?_⟩⟩
  · exact partitions_iff positive bound
  · exact pages_whole store listing positive countable

/-! One event in the log. -/

def started : EventLogRow := ⟨1,"folder_tracked",none,"Folder tracked: docs",none,"2024-05-01 10:00:00"⟩

def oneEvent : Store := ⟨Db.empty,Table.empty.insert (fun id => { started with id }) fun _ => rfl⟩

def everyEvent : Listing := .logs ⟨none,none,none,none⟩

theorem listings_paginate_oneEvent :
    ¬Computes everyEvent (pageQuery 9223372036854775807 2) ∧
      ¬Computes (.queue none) (pageQuery 200 9223372036854775806) ∧
      (Partitions oneEvent everyEvent 50 3 ↔ 2 * everyEvent.size 50 ≤ 9223372036854775807) := by
  refine ⟨?_,?_,?_⟩
  · rw [(listings_paginate oneEvent everyEvent).1]
    decide
  · rw [(listings_paginate oneEvent (.queue none)).1]
    decide
  · exact ((listings_paginate oneEvent everyEvent).2 50 (by decide)).1 2 (by decide)

/-- The third page of the largest size overflows, and a build that wraps around shows its event again. So does the
last page of a listing that puts its numbers into bounds. -/
theorem offsets_overflow :
    (¬∀ listing query, Computes listing query) ∧ ¬Computes (.queue none) (pageQuery 200 9223372036854775806) ∧
      (¬∀ store listing (size : Int64) count, 1 ≤ size.toInt → Partitions store listing size count) ∧
      pages .wrapping oneEvent everyEvent 9223372036854775807 3 = some [⟨started,none⟩,⟨started,none⟩] := by
  have third : ¬Computes everyEvent (pageQuery 9223372036854775807 2) := by
    intro computes
    exact computes (by decide)
  refine ⟨fun computes => third (computes _ _),fun computes => computes (by decide),?_,rfl⟩
  intro partitions
  exact third ((partitions oneEvent everyEvent 9223372036854775807 3 (by decide)).computes 2 (by decide))

end BitProtector.Listings
