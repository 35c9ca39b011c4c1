import BitProtector.EffectivePaths
import BitProtector.TrackingFallback
import BitProtector.VirtualTree

/-! For which rows and parameters the browser's own listing is the server's: where the texts
are read alike, as far as the one page of files that is fetched goes. -/
namespace BitProtector.FallbackPages
open FolderProvenance FolderPatterns EffectivePaths TrackingFallback
open Db (stripFolderPath likes)

/-! The texts. -/

/-- The names of ASCII letters, digits and `.`, `-` and `/`. -/
def plainName (name : String) : Bool := name.toList.all (fun c => c.isAlphanum || c == '.' || c == '-' || c == '/')

def plainNames (db : Db) : Bool :=
  db.trackedFiles.rows.all (fun file => plainName file.relativePath && file.virtualPath.all plainName) &&
    db.trackedFolders.rows.all (fun folder => plainName folder.folderPath && folder.virtualPath.all plainName)

/-- A text with nothing to cut off at its ends, and without wildcards. -/
def Bare (text : String) : Prop :=
  VirtualPath.trim text.toList = text.toList ∧ '%' ∉ text.toList ∧ '_' ∉ text.toList

instance (text : String) : Decidable (Bare text) := inferInstanceAs (Decidable (_ ∧ _))

/-- Equal but for the case of ASCII letters. -/
def lower (text : String) : List Char := text.toList.map Char.toLower

/-- A pair whose rows are asked for. -/
def Asked (params : TrackingListParams) (drivePairId : Nat) : Prop := ∀ id, params.driveId = some id → id = drivePairId

/-- A folder at the beginning of a file's path, with a virtual path. -/
structure Gives (db : Db) (file : TrackedFile) (folder : TrackedFolder) (virtualPath : String) : Prop where
  row : folder ∈ db.trackedFolders.rows
  pair : folder.drivePairId = file.drivePairId
  begins : Begins folder.folderPath file.relativePath
  named : folder.virtualPath = some virtualPath

/-- The virtual paths that files and folders have, and that files without one could take from a folder. -/
inductive Carried (db : Db) (params : TrackingListParams) : String → Prop
  | file {file : TrackedFile} {path : String} (row : file ∈ db.trackedFiles.rows) (asked : Asked params file.drivePairId)
    (own : file.virtualPath = some path) : Carried db params path
  | folder {folder : TrackedFolder} {path : String} (row : folder ∈ db.trackedFolders.rows)
    (asked : Asked params folder.drivePairId) (own : folder.virtualPath = some path) : Carried db params path
  | below {file : TrackedFile} {folder : TrackedFolder} {path : String} (row : file ∈ db.trackedFiles.rows)
    (asked : Asked params file.drivePairId) (free : file.virtualPath = none) (gives : Gives db file folder path) :
    Carried db params (Db.inheritedPath folder.folderPath file.relativePath path)

/-- The browser and the server read the rows asked for and the parameters in the same way. -/
structure Alike (db : Db) (params : TrackingListParams) : Prop where
  /-- The browser takes the sign of the unit kelvin for a `k`. -/
  query : ∀ text, params.q = some text → Bare text ∧ '\u212a' ∉ text.toList
  virtualPrefix : ∀ text, params.virtualPrefix = some text → Bare text ∧
    ∀ path, Carried db params path → lower text <+: lower path → text.toList <+: path.toList
  tracked : params.source = some .direct → ∀ file ∈ db.trackedFiles.rows, Asked params file.drivePairId →
    file.trackedDirect = true ∨ file.trackedViaFolder = true
  filled : ¬Carried db params ""
  begins : ∀ folder ∈ db.trackedFolders.rows, Asked params folder.drivePairId → ∀ file ∈ db.trackedFiles.rows,
    folder.drivePairId = file.drivePairId → Reads folder.folderPath file.relativePath →
      Begins folder.folderPath file.relativePath
  slash : ∀ file ∈ db.trackedFiles.rows, Asked params file.drivePairId → file.virtualPath = none →
    ∀ folder virtualPath, Gives db file folder virtualPath → virtualPath.toList.getLast? ≠ some '/'
  single : ∀ file ∈ db.trackedFiles.rows, Asked params file.drivePairId → file.virtualPath = none →
    ∀ first second own other, Gives db file first own → Gives db file second other →
      stripFolderPath first.folderPath = stripFolderPath second.folderPath → own = other

/-! The pages. -/

/-- What comes after so much else is on the page. -/
def OnPage (params : TrackingListParams) (place : Nat) : Prop :=
  offsetOf params ≤ place ∧ place < offsetOf params + TrackingFallback.sizeOf params

instance (params : TrackingListParams) (place : Nat) : Decidable (OnPage params place) :=
  inferInstanceAs (Decidable (_ ∧ _))

/-- The file is one of the page of all files of the drives asked for. -/
def Fetched (db : Db) (params : TrackingListParams) (file : TrackedFile) : Prop :=
  OnPage params (db.trackedFiles.rows.countP (fun other =>
    params.driveId.all (· == other.drivePairId) && other.id < file.id))

instance (db : Db) (params : TrackingListParams) (file : TrackedFile) : Decidable (Fetched db params file) :=
  inferInstanceAs (Decidable (OnPage _ _))

/-- Where a folder comes in the server's listing, after all files. -/
def placeOf (db : Db) (tieBreak : Nat → Nat) (params : TrackingListParams) (folder : TrackedFolder) : Nat :=
  (takenFiles db tieBreak params.request).length +
    (takenFolders db params.request).countP (fun other => other.id < folder.id)

/-- The files that the statistics of the folders on the page count are fetched. -/
def Counted (db : Db) (tieBreak : Nat → Nat) (params : TrackingListParams) : Prop :=
  ∀ folder ∈ takenFolders db params.request, OnPage params (placeOf db tieBreak params folder) →
    ∀ file ∈ db.folderStatsFiles folder, Fetched db params file

/-- The fetched page has all files that the request asks for. -/
structure Whole (db : Db) (tieBreak : Nat → Nat) (params : TrackingListParams) : Prop where
  files : ∀ file ∈ takenFiles db tieBreak params.request, Fetched db params file
  /-- A file that is tracked in both ways has another source in the browser. -/
  once : pageOf params = 1 → ∀ file ∈ takenFiles db tieBreak params.request,
    (file.trackedDirect && file.trackedViaFolder) = false
  folders : Counted db tieBreak params

/-- What the requested page alone needs. -/
structure Seen (db : Db) (tieBreak : Nat → Nat) (params : TrackingListParams) : Prop where
  files : ∀ file ∈ ((takenFiles db tieBreak params.request).drop (offsetOf params)).take (TrackingFallback.sizeOf params),
    pageOf params = 1 ∧ Fetched db params file ∧ (file.trackedDirect && file.trackedViaFolder) = false
  folders : Counted db tieBreak params

/-! The filters of texts. -/

theorem literals_of_bare {text : String} (bare : Bare text) : text.toList.map Db.wildcard = text.toList.map .literal := by
  apply List.map_congr_left
  intro c member
  have underscore : c ≠ '_' := fun same => bare.2.2 (same ▸ member)
  have percent : c ≠ '%' := fun same => bare.2.1 (same ▸ member)
  rw [Db.wildcard,if_neg underscore,if_neg percent]

theorem likes_front {text path : String} (bare : Bare text) :
    likes (text.toList ++ ['%']) path.toList = true ↔ lower text <+: lower path := by
  rw [likes,List.map_append,literals_of_bare bare]
  exact Like.fits_prefix

theorem likes_within {text path : String} (bare : Bare text) :
    likes (['%'] ++ text.toList ++ ['%']) path.toList = true ↔ lower text <:+: lower path := by
  have within : likes (['%'] ++ text.toList ++ ['%']) path.toList =
      Like.fits (Like.sameUnder Char.toLower) (.anyRun::(text.toList.map .literal ++ [.anyRun])) path.toList := by
    rw [likes,List.map_append,List.map_append,literals_of_bare bare]
    rfl
  rw [within,Like.fits_anyRun,List.infix_iff_prefix_suffix]
  constructor
  · rintro ⟨back,suffix,front⟩
    exact ⟨_,Like.fits_prefix.mp front,suffix.map Char.toLower⟩
  · rintro ⟨back,front,before,whole⟩
    obtain ⟨first,rest,split,_,rfl⟩ := List.map_eq_append_iff.mp whole.symm
    exact ⟨rest,⟨first,split.symm⟩,Like.fits_prefix.mpr front⟩

theorem plainName_iff {name : String} : plainName name = true ↔
    ∀ c ∈ name.toList, c.isAlphanum = true ∨ c = '.' ∨ c = '-' ∨ c = '/' := by
  simp only [plainName,List.all_eq_true,Bool.or_eq_true,beq_iff_eq,or_assoc]

theorem lower_ascii {name : String} (plain : plainName name = true) : ∀ c ∈ lower name, c.val.toNat < 128 := by
  intro c member
  obtain ⟨d,inside,rfl⟩ := List.mem_map.mp member
  have ascii : d.val.toNat < 128 := by
    rcases plainName_iff.mp plain d inside with alphanum | rfl | rfl | rfl
    · have ranges : (decide (d.val ≥ 'A'.val ∧ d.val ≤ 'Z'.val) || (d.val ≥ 'a'.val && d.val ≤ 'z'.val) ||
          (d.val ≥ '0'.val && d.val ≤ '9'.val)) = true := alphanum
      simp only [Bool.or_eq_true,Bool.and_eq_true,decide_eq_true_eq,ge_iff_le,UInt32.le_iff_toNat_le] at ranges
      have upper : ('Z'.val.toNat = 90) := rfl
      have small : ('z'.val.toNat = 122) := rfl
      have digit : ('9'.val.toNat = 57) := rfl
      omega
    · decide
    · decide
    · decide
  unfold Char.toLower
  split
  · rename_i upper
    have value : (d.val + ('a'.val - 'A'.val)).toNat = (d.val.toNat + 32) % 4294967296 := rfl
    have low : d.val.toNat ≤ 90 := upper.2
    change (d.val + ('a'.val - 'A'.val)).toNat < 128
    omega
  · exact ascii

theorem toLowerCase_of_absent {text : List Char} (kelvin : '\u212a' ∉ text) (dotted : '\u0130' ∉ text) :
    toLowerCase text = text.map Char.toLower := by
  induction text with
  | nil => rfl
  | cons c text ih =>
    rw [List.mem_cons,not_or] at kelvin dotted
    rw [toLowerCase,List.flatMap_cons,if_neg (Ne.symm kelvin.1),if_neg (Ne.symm dotted.1),List.map_cons]
    exact congrArg (c.toLower::·) (ih kelvin.2 dotted.2)

theorem toLowerCase_plain {name : String} (plain : plainName name = true) : toLowerCase name.toList = lower name := by
  apply toLowerCase_of_absent
  · exact fun member => absurd (plainName_iff.mp plain _ member) (by decide)
  · exact fun member => absurd (plainName_iff.mp plain _ member) (by decide)

theorem within_plain {text name : String} (kelvin : '\u212a' ∉ text.toList) (plain : plainName name = true) :
    toLowerCase text.toList <:+: toLowerCase name.toList ↔ lower text <:+: lower name := by
  rw [toLowerCase_plain plain]
  by_cases dotted : '\u0130' ∈ text.toList
  · refine iff_of_false (fun found => ?_) (fun found => ?_)
    · have member : '\u0307' ∈ toLowerCase text.toList := List.mem_flatMap.mpr ⟨_,dotted,by simp⟩
      exact absurd (lower_ascii plain _ (found.subset member)) (by decide)
    · have member : '\u0130' ∈ lower text := List.mem_map.mpr ⟨_,dotted,by decide⟩
      exact absurd (lower_ascii plain _ (found.subset member)) (by decide)
  · rw [toLowerCase_of_absent kelvin dotted]
    rfl

theorem plain_inherited {folderPath relativePath virtualPath : String} (file : plainName relativePath = true)
    (folder : plainName virtualPath = true) : plainName (Db.inheritedPath folderPath relativePath virtualPath) = true := by
  unfold Db.inheritedPath
  split
  · exact folder
  · rw [plainName_iff] at file folder ⊢
    intro c member
    simp only [String.toList_append,String.toList_ofList,List.mem_append] at member
    rcases member with (front | slash) | back
    · exact folder c front
    · exact .inr (.inr (.inr (List.mem_singleton.mp slash)))
    · exact file c (List.mem_of_mem_drop back)

section
variable {db : Db} {params : TrackingListParams} (plain : plainNames db = true)
include plain

theorem plain_file {file : TrackedFile} (row : file ∈ db.trackedFiles.rows) :
    plainName file.relativePath = true ∧ ∀ path, file.virtualPath = some path → plainName path = true := by
  rw [plainNames,Bool.and_eq_true,List.all_eq_true] at plain
  have names := plain.1 file row
  rw [Bool.and_eq_true,Option.all_eq_true] at names
  exact names

theorem plain_folder {folder : TrackedFolder} (row : folder ∈ db.trackedFolders.rows) :
    plainName folder.folderPath = true ∧ ∀ path, folder.virtualPath = some path → plainName path = true := by
  rw [plainNames,Bool.and_eq_true,List.all_eq_true,List.all_eq_true] at plain
  have names := plain.2 folder row
  rw [Bool.and_eq_true,Option.all_eq_true] at names
  exact names

theorem plain_carried {path : String} (carried : Carried db params path) : plainName path = true := by
  cases carried with
  | file row _ own => exact (plain_file plain row).2 path own
  | folder row _ own => exact (plain_folder plain row).2 path own
  | below row _ _ gives => exact plain_inherited (plain_file plain row).1 ((plain_folder plain gives.row).2 _ gives.named)

end

/-! The filters of rows. -/

theorem stripFolderPath_normalized (folderPath : String) : normalizeFolderPath folderPath = stripFolderPath folderPath := rfl

theorem isPathInFolder_iff {relativePath folderPath : String} :
    isPathInFolder relativePath folderPath = true ↔ Begins folderPath relativePath := by
  rw [isPathInFolder,stripFolderPath_normalized,Bool.or_eq_true,beq_iff_eq,List.isPrefixOf_iff_prefix,begins_iff]

theorem filled_some {text : String} (nonempty : text ≠ "") : filled (some text) = true := by
  rw [filled,Option.any_some]
  exact decide_eq_true nonempty

/-! The virtual paths of files. -/

theorem inheritedPath_eq {file : TrackedFile} {folder : TrackedFolder} {virtualPath : String}
    (plainEnd : virtualPath.toList.getLast? ≠ some '/') :
    (if file.relativePath.toList = normalizeFolderPath folder.folderPath then virtualPath
      else String.ofList (virtualPath.toList.rdropWhile (· == '/') ++
        '/'::file.relativePath.toList.drop ((normalizeFolderPath folder.folderPath).length + 1))) =
      Db.inheritedPath folder.folderPath file.relativePath virtualPath := by
  have whole : virtualPath.toList.rdropWhile (· == '/') = virtualPath.toList := by
    rw [List.rdropWhile_eq_self_iff]
    intro some slash
    rw [List.getLast?_eq_some_getLast some,beq_iff_eq.mp slash] at plainEnd
    exact plainEnd rfl
  unfold Db.inheritedPath
  rw [stripFolderPath_normalized,whole]
  split
  · rfl
  · apply String.toList_injective
    simp

theorem longest_of_head? {ρ : Type} {measure : ρ → Nat} {rows : List ρ} {other : ρ}
    (first : (rows.mergeSort (fun a b => measure b ≤ measure a)).head? = some other) :
    other ∈ rows ∧ ∀ row ∈ rows, measure row ≤ measure other := by
  have transitive : ∀ a b c : ρ, decide (measure b ≤ measure a) = true → decide (measure c ≤ measure b) = true →
      decide (measure c ≤ measure a) = true := by
    intro a b c first second
    rw [decide_eq_true_eq] at *
    exact second.trans first
  have total : ∀ a b : ρ, (decide (measure b ≤ measure a) || decide (measure a ≤ measure b)) = true := by
    intro a b
    simpa using Nat.le_total _ _
  have order := List.pairwise_mergeSort transitive total rows
  have placed (row : ρ) : row ∈ rows.mergeSort (fun a b => measure b ≤ measure a) ↔ row ∈ rows := List.mem_mergeSort
  obtain ⟨rest,sorted⟩ := List.head?_eq_some_iff.mp first
  rw [sorted] at order placed
  refine ⟨(placed other).mp List.mem_cons_self,fun row member => ?_⟩
  have listed := (placed row).mpr member
  rcases List.mem_cons.mp listed with rfl | later
  · exact Nat.le_refl _
  · exact of_decide_eq_true ((List.pairwise_cons.mp order).1 row later)

/-! The rows of both listings. -/

theorem asked_iff {params : TrackingListParams} {drivePairId : Nat} :
    params.driveId.all (· == drivePairId) = true ↔ Asked params drivePairId := by
  simp [Asked,Option.all_eq_true]

theorem mem_fetched {db : Db} {params : TrackingListParams} {file : TrackedFile} : file ∈ fetched db params ↔
    file ∈ db.trackedFiles.rows ∧ Asked params file.drivePairId ∧ Fetched db params file := by
  have ascending : (db.trackedFiles.rows.filter (fun file => params.driveId.all (· == file.drivePairId))).Pairwise
      (fun a b => a.id < b.id) := db.trackedFiles.ascending.filter _
  have same : fetched db params = ((db.trackedFiles.rows.filter (fun file =>
      params.driveId.all (· == file.drivePairId))).drop (offsetOf params)).take (TrackingFallback.sizeOf params) := by
    simp [fetched,Db.listTrackedFiles,offsetOf]
  rw [same,Paging.mem_slice_iff ascending,List.mem_filter,asked_iff,List.countP_filter,and_assoc]
  simp only [Fetched,OnPage,Bool.and_comm]

theorem passes_bare {text : String} (bare : VirtualPath.trim text.toList = text.toList) (takes : List Char → Bool) :
    Db.passes (some text) takes = (text == "" || takes text.toList) := by
  rw [Db.passes,Option.map_some,bare]
  by_cases empty : text = ""
  · subst empty
    rfl
  · rw [beq_false_of_ne empty,Bool.false_or]
    split
    · contradiction
    · rename_i none
      exact absurd (String.toList_eq_nil_iff.mp (Option.some.inj none)) empty
    · rename_i other same
      rw [Option.some.inj same]

section
variable {db : Db} {params : TrackingListParams} (plain : plainNames db = true) (alike : Alike db params)
include alike

theorem filled_eq {virtualPath : Option String} (carried : ∀ path, virtualPath = some path → Carried db params path) :
    filled virtualPath = virtualPath.isSome := by
  cases virtualPath with
  | none => rfl
  | some path => exact filled_some fun empty => alike.filled (empty ▸ carried path rfl)

theorem prefix_eq {item : TrackingItem}
    (carried : ∀ path, item.virtualPath = some path → Carried db params path) :
    includeByVirtualPrefix item params.virtualPrefix = Db.passes params.virtualPrefix (fun text =>
      item.virtualPath.any (fun path => likes (text ++ ['%']) path.toList)) := by
  cases given : params.virtualPrefix with
  | none => rfl
  | some text =>
    obtain ⟨bare,spelled⟩ := alike.virtualPrefix text given
    rw [includeByVirtualPrefix,Option.all_some,passes_bare bare.1]
    by_cases empty : text = ""
    · simp [empty]
    · have some : text.toList ≠ [] := fun none => empty (String.toList_eq_nil_iff.mp none)
      congr 1
      cases own : item.virtualPath with
      | none =>
        rw [Option.getD_none,Option.any_none]
        exact Bool.eq_false_iff.mpr fun front => some (List.prefix_nil.mp (List.isPrefixOf_iff_prefix.mp front))
      | some path =>
        rw [Option.getD_some,Option.any_some,Bool.eq_iff_iff,List.isPrefixOf_iff_prefix,likes_front bare]
        exact ⟨fun front => front.map Char.toLower,spelled path (carried path own)⟩

include plain in
theorem query_eq {item : TrackingItem} (named : plainName item.path = true)
    (carried : ∀ path, item.virtualPath = some path → Carried db params path) :
    includeByQuery item params.q = Db.passes params.q (fun text =>
      likes (['%'] ++ text ++ ['%']) item.path.toList || likes (['%'] ++ text ++ ['%']) (item.virtualPath.getD "").toList) := by
  cases given : params.q with
  | none => rfl
  | some text =>
    obtain ⟨bare,kelvin⟩ := alike.query text given
    have path : plainName (item.virtualPath.getD "") = true := by
      cases own : item.virtualPath with
      | none => rfl
      | some path => exact plain_carried plain (carried path own)
    rw [includeByQuery,Option.all_some,passes_bare bare.1,Bool.or_assoc,Bool.eq_iff_iff]
    simp only [Bool.or_eq_true,decide_eq_true_eq,within_plain kelvin named,within_plain kelvin path,likes_within bare]

include plain in
theorem takesPaths_eq {item : TrackingItem} (named : plainName item.path = true)
    (carried : Asked params item.drivePairId → ∀ path, item.virtualPath = some path → Carried db params path) :
    (params.driveId.all (· == item.drivePairId) && includeByHasVirtualPath item params.hasVirtualPath &&
        includeByVirtualPrefix item params.virtualPrefix && includeByQuery item params.q) =
      Db.takesPaths params.request item.drivePairId item.path item.virtualPath := by
  unfold Db.takesPaths
  cases asked : params.driveId.all (· == item.drivePairId) with
  | false =>
    have refused : params.request.drivePairId.all (· == item.drivePairId) = false := asked
    simp [refused]
  | true =>
    have drive : params.request.drivePairId.all (· == item.drivePairId) = true := asked
    have own := carried (by simpa [Asked,Option.all_eq_true] using asked)
    have has : includeByHasVirtualPath item params.hasVirtualPath =
        params.request.hasVirtualPath.all (· == item.virtualPath.isSome) := by
      rw [includeByHasVirtualPath,filled_eq alike own]
      rfl
    rw [drive,has,prefix_eq alike own,query_eq plain alike named own]
    simp only [TrackingListParams.request,Bool.true_and]
    ac_rfl

section
variable {file : TrackedFile} (row : file ∈ db.trackedFiles.rows) (asked : Asked params file.drivePairId)
  (free : file.virtualPath = none)
include row asked

theorem virtualFolders_eq : db.virtualFolders file = db.trackedFolders.rows.filter (fun folder =>
    folder.drivePairId == file.drivePairId && filled folder.virtualPath &&
      isPathInFolder file.relativePath folder.folderPath) := by
  unfold Db.virtualFolders
  apply List.filter_congr
  intro folder listed
  by_cases pair : folder.drivePairId = file.drivePairId
  · have own : Asked params folder.drivePairId := pair ▸ asked
    rw [filled_eq alike fun path has => .folder listed own has]
    congr 1
    rw [Bool.eq_iff_iff,likeFolder_iff,isPathInFolder_iff]
    exact ⟨alike.begins folder listed own file row pair,Begins.reads⟩
  · rw [beq_false_of_ne pair,Bool.false_and,Bool.false_and,Bool.false_and,Bool.false_and]

theorem gives_of_mem {folder : TrackedFolder} (listed : folder ∈ db.virtualFolders file) :
    ∃ virtualPath, Gives db file folder virtualPath := by
  obtain ⟨named,reads⟩ := mem_virtualFolders.mp listed
  obtain ⟨virtualPath,has⟩ := Option.isSome_iff_exists.mp named.named
  exact ⟨virtualPath,named.row,named.pair,
    alike.begins folder named.row (named.pair ▸ asked) file row named.pair reads,has⟩

include free

theorem derive_eq (tieBreak : Nat → Nat) :
    deriveFileVirtualPath file db.trackedFolders.rows = db.effectiveVirtualPath tieBreak file := by
  unfold deriveFileVirtualPath
  have none : filled file.virtualPath = false := by
    rw [free]
    rfl
  rw [none,if_neg Bool.false_ne_true,← virtualFolders_eq alike row asked]
  dsimp only
  change ((db.virtualFolders file).mergeSort fun a b => length b ≤ length a).head?.bind _ = _
  cases picked : db.longestVirtualFolder tieBreak file with
  | none =>
    have empty := picked_none.mp picked
    rw [(effectiveVirtualPath_none free).mpr empty,empty,List.mergeSort_nil]
    rfl
  | some folder =>
    have longest := longest_of_picked picked
    obtain ⟨virtualPath,gives⟩ := gives_of_mem alike row asked longest.1
    rw [effectiveVirtualPath_picked free picked gives.named]
    cases first : ((db.virtualFolders file).mergeSort fun a b => length b ≤ length a).head? with
    | none =>
      have member : folder ∈ (db.virtualFolders file).mergeSort fun a b => length b ≤ length a :=
        List.mem_mergeSort.mpr longest.1
      rw [List.head?_eq_none_iff.mp first] at member
      cases member
    | some other =>
      obtain ⟨listed,least⟩ := longest_of_head? first
      obtain ⟨another,also⟩ := gives_of_mem alike row asked listed
      -- Of one length at the beginning of one path, the two are spelled the same.
      have spelled : stripFolderPath other.folderPath = stripFolderPath folder.folderPath :=
        also.begins.same gives.begins (Nat.le_antisymm (longest.2 other listed) (least folder longest.1))
      have path : another = virtualPath := alike.single file row asked free other folder another virtualPath also gives spelled
      rw [Option.bind_some,also.named,Option.map_some,path,← inheritedPath_eq (alike.slash file row asked free _ _ gives),
        stripFolderPath_normalized,stripFolderPath_normalized,spelled]

omit free in
theorem virtualPath_eq (tieBreak : Nat → Nat) :
    deriveFileVirtualPath file db.trackedFolders.rows = db.effectiveVirtualPath tieBreak file := by
  cases own : file.virtualPath with
  | none => exact derive_eq alike row asked own tieBreak
  | some path =>
    have nonempty : path ≠ "" := fun empty => alike.filled (empty ▸ .file row asked own)
    rw [effectiveVirtualPath_own tieBreak (by rw [own]; rfl),deriveFileVirtualPath,own,filled_some nonempty,if_pos rfl]

omit free in
theorem carried_effective (tieBreak : Nat → Nat) {path : String} (has : db.effectiveVirtualPath tieBreak file = some path) :
    Carried db params path := by
  cases own : file.virtualPath with
  | some path' =>
    rw [effectiveVirtualPath_own tieBreak (by rw [own]; rfl)] at has
    exact .file row asked has
  | none =>
    cases picked : db.longestVirtualFolder tieBreak file with
    | none =>
      rw [(effectiveVirtualPath_none own).mpr (picked_none.mp picked)] at has
      cases has
    | some folder =>
      obtain ⟨virtualPath,gives⟩ := gives_of_mem alike row asked (longest_of_picked picked).1
      rw [effectiveVirtualPath_picked own picked gives.named] at has
      exact Option.some.inj has ▸ .below row asked own gives

end

theorem source_eq {file : TrackedFile} (row : file ∈ db.trackedFiles.rows) (asked : Asked params file.drivePairId) :
    includeBySource (toFileItem file db.trackedFolders.rows) params.source =
      Db.takesSource (params.request.source.getD "all") file := by
  cases given : params.source with
  | none => simp [includeBySource,TrackingListParams.request,given,Db.takesSource]
  | some source =>
    cases source with
    | all => simp [includeBySource,TrackingListParams.request,given,Db.takesSource,SourceFilter.text]
    | direct =>
      have tracked := alike.tracked given file row asked
      revert tracked
      simp only [includeBySource,TrackingListParams.request,given,Db.takesSource,toFileItem,fileSource]
      cases file.trackedDirect <;> cases file.trackedViaFolder <;> decide
    | folder =>
      simp only [includeBySource,TrackingListParams.request,given,Db.takesSource,toFileItem,fileSource]
      cases file.trackedDirect <;> cases file.trackedViaFolder <;> decide

include plain in
theorem includes_eq {item : TrackingItem} (named : plainName item.path = true)
    (carried : Asked params item.drivePairId → ∀ path, item.virtualPath = some path → Carried db params path) :
    includes params item = ((match params.itemKind.getD .all with
      | .all => true
      | .file => item.kind == .file
      | .folder => item.kind == .folder) && includeBySource item params.source &&
        Db.takesPaths params.request item.drivePairId item.path item.virtualPath) := by
  rw [← takesPaths_eq plain alike named carried,includes]
  ac_rfl

include plain in
theorem mem_shownFiles (tieBreak : Nat → Nat) {file : TrackedFile} : file ∈ shownFiles db params ↔
    file ∈ takenFiles db tieBreak params.request ∧ file ∈ fetched db params := by
  rw [shownFiles,List.mem_filter,and_comm]
  refine and_congr_left fun onPage => ?_
  obtain ⟨row,asked,_⟩ := mem_fetched.mp onPage
  have path : (toFileItem file db.trackedFolders.rows).virtualPath = db.effectiveVirtualPath tieBreak file :=
    virtualPath_eq alike row asked tieBreak
  have taken : includes params (toFileItem file db.trackedFolders.rows) = _ :=
    includes_eq plain alike (plain_file plain row).1 (fun _ text has => carried_effective alike row asked tieBreak (path ▸ has))
  rw [taken,path,source_eq alike row asked]
  unfold takenFiles
  cases kind : params.itemKind with
  | none => simp [TrackingListParams.request,kind,toFileItem,row,and_comm]
  | some kind' => cases kind' <;> simp [TrackingListParams.request,kind,KindFilter.text,toFileItem,row,and_comm]

include plain in
theorem shownFolders_eq (lastScannedAt : Nat → Option Nat) :
    shownFolders db lastScannedAt params = takenFolders db params.request := by
  have kind : (match params.itemKind.getD .all with
      | .all => true
      | .file => TrackingItemKind.folder == .file
      | .folder => TrackingItemKind.folder == .folder) = decide (params.request.itemKind.getD "all" ≠ "file") := by
    unfold TrackingListParams.request
    cases params.itemKind with
    | none => rfl
    | some kind => cases kind <;> rfl
  have source (folder : TrackedFolder) :
      includeBySource (toFolderItem lastScannedAt (fetched db params) folder) params.source =
        decide (params.request.source.getD "all" = "all" ∨ params.request.source.getD "all" = "folder") := by
    unfold TrackingListParams.request
    cases params.source with
    | none => rfl
    | some source => cases source <;> rfl
  have taken {folder : TrackedFolder} (row : folder ∈ db.trackedFolders.rows) :
      includes params (toFolderItem lastScannedAt (fetched db params) folder) =
        (decide (params.request.itemKind.getD "all" ≠ "file") &&
          decide (params.request.source.getD "all" = "all" ∨ params.request.source.getD "all" = "folder") &&
            Db.takesPaths params.request folder.drivePairId folder.folderPath folder.virtualPath) := by
    rw [← source folder,← kind]
    exact includes_eq plain alike (plain_folder plain row).1 (fun asked _ own => .folder row asked own)
  unfold shownFolders takenFolders
  split
  · rename_i asks
    apply List.filter_congr
    intro folder row
    rw [taken row,decide_eq_true asks.1,decide_eq_true asks.2,Bool.true_and,Bool.true_and]
  · rename_i refuses
    apply List.filter_eq_nil_iff.mpr
    intro folder row all
    rw [taken row,Bool.and_eq_true,Bool.and_eq_true,decide_eq_true_eq,decide_eq_true_eq] at all
    exact refuses all.1

end

/-! The two listings. -/

section
variable {db : Db} {tieBreak : Nat → Nat} {lastScannedAt : Nat → Option Nat} {params : TrackingListParams}

theorem asked_of_takesPaths {drivePairId : Nat} {path : String} {virtualPath : Option String}
    (takes : Db.takesPaths params.request drivePairId path virtualPath = true) : Asked params drivePairId := by
  unfold Db.takesPaths at takes
  simp only [Bool.and_eq_true] at takes
  exact asked_iff.mp takes.1.1.1

theorem asked_of_takenFile {file : TrackedFile} (taken : file ∈ takenFiles db tieBreak params.request) :
    Asked params file.drivePairId := by
  unfold takenFiles at taken
  split at taken
  · exact asked_of_takesPaths (Bool.and_eq_true_iff.mp (List.mem_filter.mp taken).2).1
  · cases taken

theorem asked_of_takenFolder {folder : TrackedFolder} (taken : folder ∈ takenFolders db params.request) :
    Asked params folder.drivePairId := by
  unfold takenFolders at taken
  split at taken
  · exact asked_of_takesPaths (List.mem_filter.mp taken).2
  · cases taken

theorem mem_foldersOnPage {folder : TrackedFolder} :
    folder ∈ foldersOnPage params (takenFiles db tieBreak params.request) (takenFolders db params.request) ↔
      folder ∈ takenFolders db params.request ∧ OnPage params (placeOf db tieBreak params folder) := by
  have ascending : (takenFolders db params.request).Pairwise (fun a b => a.id < b.id) :=
    db.trackedFolders.ascending.sublist takenFolders_sublist
  rw [foldersOnPage,Paging.mem_slice_iff ascending,List.length_drop,OnPage,placeOf]
  refine and_congr_right fun _ => ?_
  omega

theorem counted_of_agrees (agrees : Agrees db tieBreak lastScannedAt params) : Counted db tieBreak params := by
  intro folder taken onPage file counted
  exact (mem_fetched.mp (agrees.complete folder (mem_foldersOnPage.mpr ⟨taken,onPage⟩) file counted).1).2.2

theorem seen_of_agrees (agrees : Agrees db tieBreak lastScannedAt params) : Seen db tieBreak params := by
  refine ⟨fun file listed => ?_,counted_of_agrees agrees⟩
  by_cases first : pageOf params = 1
  · obtain ⟨same,each⟩ := agrees.first first
    rw [offset_first first,List.drop_zero,← same] at listed
    exact ⟨first,(mem_fetched.mp (List.mem_filter.mp listed).1).2.2,(each file listed).2⟩
  · rw [List.drop_eq_nil_of_le (agrees.later first),List.take_nil] at listed
    cases listed

section
variable (plain : plainNames db = true) (alike : Alike db params)
include plain alike

theorem surplus_none : surplus db tieBreak lastScannedAt params = 0 := by
  have files : (shownFiles db params).filter (· ∉ takenFiles db tieBreak params.request) = [] := by
    apply List.filter_eq_nil_iff.mpr
    intro file shown
    simpa using ((mem_shownFiles plain alike tieBreak).mp shown).1
  rw [surplus,files,shownFolders_eq plain alike]
  simp

theorem whole_of_agrees (agrees : Agrees db tieBreak lastScannedAt params) : Whole db tieBreak params := by
  have none : missing db tieBreak lastScannedAt params = 0 := agrees.balanced.trans (surplus_none plain alike)
  have shown : ∀ file ∈ takenFiles db tieBreak params.request, file ∈ shownFiles db params := by
    have empty := List.eq_nil_of_length_eq_zero (Nat.add_eq_zero_iff.mp none).1
    intro file taken
    simpa using List.filter_eq_nil_iff.mp empty file taken
  constructor
  · intro file taken
    exact (mem_fetched.mp ((mem_shownFiles plain alike tieBreak).mp (shown file taken)).2).2.2
  · intro first file taken
    exact ((agrees.first first).2 file (shown file taken)).2
  · exact counted_of_agrees agrees

theorem shown_taken (whole : Whole db tieBreak params) : shownFiles db params = takenFiles db tieBreak params.request := by
  have ascending {files : List TrackedFile} (part : files.Sublist db.trackedFiles.rows) :
      files.Pairwise (fun a b => a.id < b.id) := db.trackedFiles.ascending.sublist part
  have each (file : TrackedFile) : file ∈ shownFiles db params ↔ file ∈ takenFiles db tieBreak params.request := by
    rw [mem_shownFiles plain alike tieBreak,and_iff_left_iff_imp]
    intro taken
    exact mem_fetched.mpr ⟨takenFiles_sublist.subset taken,asked_of_takenFile taken,whole.files file taken⟩
  have perm := (List.perm_ext_iff_of_nodup (nodup_rows.sublist shownFiles_sublist)
    (nodup_rows.sublist takenFiles_sublist)).mpr each
  apply perm.eq_of_pairwise _ (ascending shownFiles_sublist) (ascending takenFiles_sublist)
  intro a b _ _ less more
  exact absurd less (Nat.lt_asymm more)

theorem agrees_of_whole (whole : Whole db tieBreak params) : Agrees db tieBreak lastScannedAt params := by
  have files := shown_taken plain alike whole
  have folders := shownFolders_eq plain alike lastScannedAt
  constructor
  · simp [missing,surplus,files,folders]
  · intro first
    refine ⟨by rw [← files,List.take_of_length_le shownFiles_le],fun file shown => ?_⟩
    obtain ⟨row,asked,_⟩ := mem_fetched.mp (List.mem_filter.mp shown).1
    exact ⟨virtualPath_eq alike row asked tieBreak,whole.once first file (files ▸ shown)⟩
  · intro later
    rw [← files]
    exact shownFiles_le.trans (size_le_offset later)
  · rw [files,folders]
  · intro folder listed file counted
    obtain ⟨taken,onPage⟩ := mem_foldersOnPage.mp listed
    have row := takenFolders_sublist.subset taken
    have asked := asked_of_takenFolder taken
    obtain ⟨own,reads⟩ := List.mem_filter.mp counted
    obtain ⟨present,member⟩ := List.mem_filter.mp own
    have pair : file.drivePairId = folder.drivePairId := beq_iff_eq.mp member
    refine ⟨mem_fetched.mpr ⟨present,pair ▸ asked,whole.folders folder taken onPage file counted⟩,?_⟩
    exact isPathInFolder_iff.mpr (alike.begins folder row asked file present pair.symm (likeFolder_iff.mp reads))

end

end

/-! A file and its folder, looked for by a letter and by a virtual path. -/

def lookedFor : TrackingListParams := ⟨some 1,some "O",some "/v",some true,some .all,some .all,some 1,some 50⟩

theorem alike_lookedFor : Alike (namedDb "photos") lookedFor := by
  have file {row : TrackedFile} (listed : row ∈ (namedDb "photos").trackedFiles.rows) : row = scannedFile "photos/f" 1 :=
    List.mem_singleton.mp listed
  have folder {row : TrackedFolder} (listed : row ∈ (namedDb "photos").trackedFolders.rows) : row = namedFolder "photos" 1 :=
    List.mem_singleton.mp listed
  have carried {path : String} (carried : Carried (namedDb "photos") lookedFor path) : path = "/v" ∨ path = "/v/f" := by
    cases carried with
    | file row _ own =>
      obtain rfl := file row
      cases own
    | folder row _ own =>
      obtain rfl := folder row
      exact .inl (Option.some.inj own).symm
    | below row _ _ gives =>
      obtain rfl := file row
      obtain rfl := folder gives.row
      obtain rfl := Option.some.inj gives.named
      exact .inr (by decide +kernel)
  constructor
  · rintro text ⟨⟩
    decide +kernel
  · rintro text ⟨⟩
    refine ⟨by decide +kernel,fun path has _ => ?_⟩
    rcases carried has with rfl | rfl
    · decide +kernel
    · decide +kernel
  · rintro ⟨⟩
  · intro empty
    rcases carried empty with impossible | impossible
    · exact absurd impossible (by decide)
    · exact absurd impossible (by decide)
  · intro row listed _ other present _ _
    obtain rfl := folder listed
    obtain rfl := file present
    exact .inr ⟨_,['f'],rfl,rfl⟩
  · intro row listed _ _ other path gives
    obtain rfl := folder gives.row
    obtain rfl := Option.some.inj gives.named
    decide +kernel
  · intro row listed _ _ first second own other gives also _
    obtain rfl := folder gives.row
    obtain rfl := folder also.row
    exact Option.some.inj (gives.named.symm.trans also.named)

def twoFiles : Db :=
  { Db.empty with
    trackedFiles := (Table.empty.insert (scannedFile "a") (key_scannedFile _)).insert (scannedFile "b") (key_scannedFile _) }

def allItems (page perPage : Int) : TrackingListParams := ⟨none,none,none,none,none,none,some page,some perPage⟩

example : listFallback twoFiles (fun _ => none) (allItems 1 50) =
    twoFiles.listTrackingItems id (fun _ => none) (allItems 1 50).request := by
  rw [listFallback_eq]
  decide +kernel

end BitProtector.FallbackPages
