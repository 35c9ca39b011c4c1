import BitProtector.TrackedOnce
import Mathlib.Data.Char
import Mathlib.Data.List.Lex
import Mathlib.Data.Prod.Lex

/-! The browser with which the web client picks directories and files. It shows one real directory at a time, follows links,
and offers the way back up. -/
namespace BitProtector.FilesystemBrowse
open Paths VirtualPath VirtualTree MirrorFrames FileTree PathResolution FolderWalk

structure BrowseQuery where
  path : Option String
  includeHidden : Option Bool
  directoriesOnly : Option Bool

inductive EntryKind
  | directory
  | file
  deriving DecidableEq, Repr

structure FilesystemEntry where
  name : List Char
  path : String
  kind : EntryKind
  isHidden : Bool
  isSelectable : Bool
  hasChildren : Bool
  deriving DecidableEq, Repr

structure BrowseResponse where
  path : String
  canonicalPath : String
  parentPath : Option String
  entries : List FilesystemEntry
  deriving DecidableEq, Repr

def pathKind (files : FileSystem) (path : String) : EntryKind := if isDir files path then .directory else .file

def startsWithDot (name : List Char) : Bool := name.head? == some '.'

def EntryKind.rank : EntryKind → Nat
  | .directory => 0
  | .file => 1

/-- The directories first, and names that differ in the case of ASCII letters only side by side. -/
def sortKey (entry : FilesystemEntry) : Nat ×ₗ (List Char ×ₗ List Char) :=
  toLex (entry.kind.rank,toLex (entry.name.map Char.toLower,entry.name))

section
variable {files : FileSystem} (listing : Listing files)

/-- A directory that cannot be read shows none. -/
def hasChildren (path : String) (includeHidden : Bool) : Bool :=
  ((listing.readDir path).getD []).any fun name => includeHidden || !startsWithDot name

def entryAt (includeHidden directoriesOnly : Bool) (name : List Char) (kind : EntryKind) (place : List (List Char)) :
    FilesystemEntry where
  name := name
  path := rendered place
  kind := kind
  isHidden := startsWithDot name
  isSelectable := if directoriesOnly then kind == .directory else true
  hasChildren := if kind == .directory then hasChildren listing (rendered place) includeHidden else false

/-- What is pushed for a name of the directory: nothing for a link that leads nowhere. -/
def entryOf (dir : String) (includeHidden directoriesOnly : Bool) (name : List Char) : Option FilesystemEntry :=
  let path := join dir (String.ofList name)
  if !includeHidden && startsWithDot name then none
  else
    let kind := pathKind files path
    if directoriesOnly && kind != .directory then none
    else (canonicalize files path).map (entryAt listing includeHidden directoriesOnly name kind)

def responseOf (includeHidden directoriesOnly : Bool) (place names : List (List Char)) : BrowseResponse where
  path := rendered place
  canonicalPath := rendered place
  parentPath := if place = [] then none else some (rendered place.dropLast)
  entries := (names.filterMap (entryOf listing (rendered place) includeHidden directoriesOnly)).insertionSort
    fun a b => sortKey a ≤ sortKey b

def browseFilesystem (query : BrowseQuery) : Except String BrowseResponse :=
  let requestedPath := query.path.getD "/"
  let includeHidden := query.includeHidden.getD false
  let directoriesOnly := query.directoriesOnly.getD false
  if containsParentDir requestedPath then .error "Parent-directory traversal is not allowed"
  else
    match canonicalize files requestedPath with
    | none => .error osError
    | some place =>
      if !isDir files (rendered place) then .error s!"Path is not a directory: {rendered place}"
      else
        match listing.readDir (rendered place) with
        | none => .error osError
        | some names => .ok (responseOf listing includeHidden directoriesOnly place names)

/-- The way of a user who opens the browser, and from then on goes into directories and up. -/
inductive Reached (includeHidden directoriesOnly : Bool) : BrowseResponse → Prop
  | opened {first : BrowseResponse}
    (shown : browseFilesystem listing ⟨none,some includeHidden,some directoriesOnly⟩ = .ok first) :
      Reached includeHidden directoriesOnly first
  | into {here next : BrowseResponse} {entry : FilesystemEntry} (way : Reached includeHidden directoriesOnly here)
      (listed : entry ∈ here.entries) (directory : entry.kind = .directory)
      (shown : browseFilesystem listing ⟨some entry.path,some includeHidden,some directoriesOnly⟩ = .ok next) :
      Reached includeHidden directoriesOnly next
  | up {here next : BrowseResponse} {parent : String} (way : Reached includeHidden directoriesOnly here)
      (above : here.parentPath = some parent)
      (shown : browseFilesystem listing ⟨some parent,some includeHidden,some directoriesOnly⟩ = .ok next) :
      Reached includeHidden directoriesOnly next

end

/-! What an answer should show. -/

/-- A name in the directory that is not hidden and leads somewhere, to a directory where only these are asked for. -/
def Offered (files : FileSystem) (includeHidden directoriesOnly : Bool) (place : List (List Char)) (name : List Char) : Prop :=
  (files.tree.entry (place ++ [name])).isSome = true ∧ (includeHidden = true ∨ startsWithDot name = false) ∧
    ∃ target, canonicalize files (join (rendered place) (String.ofList name)) = some target ∧
      (directoriesOnly = true → files.tree.isDirectory target = true)

/-- The entry says what its name leads to. -/
def Tells (files : FileSystem) (includeHidden : Bool) (place : List (List Char)) (entry : FilesystemEntry) : Prop :=
  ∃ target, canonicalize files (join (rendered place) (String.ofList entry.name)) = some target ∧
    entry.path = rendered target ∧ (entry.kind = .directory ↔ files.tree.isDirectory target = true) ∧
    entry.isHidden = startsWithDot entry.name ∧ entry.isSelectable = true ∧
    (entry.hasChildren = true ↔ files.tree.isDirectory target = true ∧ ∃ name,
      (files.tree.entry (target ++ [name])).isSome = true ∧ (includeHidden = true ∨ startsWithDot name = false))

section
variable {files : FileSystem} {listing : Listing files} {includeHidden directoriesOnly : Bool} {place : List (List Char)}

theorem containsParentDir_rendered (ordinary : ∀ name ∈ place, Ordinary name) : containsParentDir (rendered place) = false := by
  have named : Named place := fun name member => ⟨(ordinary name member).1,(ordinary name member).2.1⟩
  rw [containsParentDir,rendered,String.toList_ofList,components_joinSegments named]
  apply List.any_eq_false.mpr
  intro name member
  simpa using (ordinary name member).2.2.2

theorem canonicalize_rendered (standing : Standing files.tree place) : canonicalize files (rendered place) = some place := by
  rw [canonicalize,reach_rendered standing]
  rfl

theorem isDir_rendered (directory : files.tree.isDirectory place = true) : isDir files (rendered place) = true :=
  isDir_iff.mpr ⟨place,canonicalize_rendered (standing_directory directory),directory⟩

theorem browse_directory (unrefused : Unrefused listing) (directory : files.tree.isDirectory place = true) :
    ∃ names, listing.readDir (rendered place) = some names ∧
      browseFilesystem listing ⟨some (rendered place),some includeHidden,some directoriesOnly⟩ =
        .ok (responseOf listing includeHidden directoriesOnly place names) := by
  have standing := standing_directory directory
  obtain ⟨names,reads⟩ := Option.isSome_iff_exists.mp (unrefused _ (isDir_rendered directory))
  refine ⟨names,reads,?_⟩
  simp [browseFilesystem,containsParentDir_rendered (ordinary_standing standing),canonicalize_rendered standing,
    isDir_rendered directory,reads]

theorem browse_success {query : BrowseQuery} {response : BrowseResponse} (ok : browseFilesystem listing query = .ok response) :
    ∃ place names, files.tree.isDirectory place = true ∧ listing.readDir (rendered place) = some names ∧
      response = responseOf listing (query.includeHidden.getD false) (query.directoriesOnly.getD false) place names := by
  simp only [browseFilesystem] at ok
  split_ifs at ok
  split at ok
  · cases ok
  · rename_i place found
    split_ifs at ok with there
    split at ok
    · cases ok
    · rename_i names reads
      cases ok
      obtain ⟨other,reached,directory⟩ := isDir_iff.mp (by simpa using there)
      rw [canonicalize_rendered (standing_canonicalize found)] at reached
      cases reached
      exact ⟨place,names,directory,reads,rfl⟩

theorem reached_directory {response : BrowseResponse} (reached : Reached listing includeHidden directoriesOnly response) :
    ∃ place names, files.tree.isDirectory place = true ∧ listing.readDir (rendered place) = some names ∧
      response = responseOf listing includeHidden directoriesOnly place names := by
  cases reached with
  | opened shown => exact browse_success shown
  | into _ _ _ shown => exact browse_success shown
  | up _ _ shown => exact browse_success shown

theorem mem_entries {names : List (List Char)} {entry : FilesystemEntry} :
    entry ∈ (responseOf listing includeHidden directoriesOnly place names).entries ↔
      ∃ name ∈ names, entryOf listing (rendered place) includeHidden directoriesOnly name = some entry := by
  simp [responseOf,List.mem_insertionSort]

theorem entryOf_directory {dir : String} {name : List Char} {entry : FilesystemEntry}
    (pushed : entryOf listing dir includeHidden directoriesOnly name = some entry) (directory : entry.kind = .directory) :
    entry.name = name ∧ ∃ target, canonicalize files (join dir (String.ofList name)) = some target ∧
      files.tree.isDirectory target = true ∧ entry.path = rendered target := by
  simp only [entryOf] at pushed
  split_ifs at pushed
  obtain ⟨target,found,rfl⟩ := Option.map_eq_some_iff.mp pushed
  simp only [entryAt,pathKind] at directory
  split_ifs at directory with there
  obtain ⟨other,reached,isDirectory⟩ := isDir_iff.mp there
  rw [found] at reached
  cases reached
  exact ⟨rfl,target,found,isDirectory,rfl⟩

theorem canonicalize_child (directory : files.tree.isDirectory place = true) {name : List Char} {found : Entry (List Char)}
    (there : files.tree.entry (place ++ [name]) = some found) (plain : found.isLink = false) :
    canonicalize files (join (rendered place) (String.ofList name)) = some (place ++ [name]) := by
  have ordinary : Ordinary name := files.ordinary _ _ there name (by simp)
  rw [canonicalize,reach_entry (reach_rendered (standing_directory directory)) ordinary,resolve_plain there plain,resolve_nil]
  rfl

/-- A directory that is no link is an entry of the one above it, unless it is hidden. -/
theorem entryOf_child (directory : files.tree.isDirectory place = true) {name : List Char}
    (below : files.tree.entry (place ++ [name]) = some .directory) (visible : includeHidden = true ∨ startsWithDot name = false) :
    ∃ entry, entryOf listing (rendered place) includeHidden directoriesOnly name = some entry ∧ entry.kind = .directory ∧
      entry.path = rendered (place ++ [name]) := by
  have found := canonicalize_child directory below rfl
  have isDirectory : isDir files (join (rendered place) (String.ofList name)) = true :=
    isDir_iff.mpr ⟨_,found,FileTree.Tree.isDirectory_iff.mpr below⟩
  have shown : (!includeHidden && startsWithDot name) = false := by
    rcases visible with all | plain <;> simp [*]
  have kind : pathKind files (join (rendered place) (String.ofList name)) = .directory := if_pos isDirectory
  exact ⟨entryAt listing includeHidden directoriesOnly name .directory (place ++ [name]),
    by simp [entryOf,shown,kind,found],rfl,rfl⟩

theorem listed_rendered {names : List (List Char)} (directory : files.tree.isDirectory place = true)
    (reads : listing.readDir (rendered place) = some names) (name : List Char) :
    name ∈ names ↔ (files.tree.entry (place ++ [name])).isSome = true := by
  obtain ⟨other,reached,_,listed⟩ := listing.listed _ _ reads
  rw [canonicalize_rendered (standing_directory directory)] at reached
  cases reached
  exact listed name

theorem entry_of_listed (directory : files.tree.isDirectory place = true) {names : List (List Char)}
    (reads : listing.readDir (rendered place) = some names) {name : List Char}
    (below : files.tree.entry (place ++ [name]) = some .directory) (visible : includeHidden = true ∨ startsWithDot name = false) :
    ∃ entry ∈ (responseOf listing includeHidden directoriesOnly place names).entries, entry.kind = .directory ∧
      entry.path = rendered (place ++ [name]) := by
  have member : name ∈ names := (listed_rendered directory reads name).mpr (by rw [below]; rfl)
  obtain ⟨entry,pushed,kind,path⟩ := entryOf_child directory below visible
  exact ⟨entry,mem_entries.mpr ⟨name,member,pushed⟩,kind,path⟩

theorem reached_of_directory (unrefused : Unrefused listing) (directory : files.tree.isDirectory place = true)
    (visible : ∀ name ∈ place, includeHidden = true ∨ startsWithDot name = false) :
    ∃ names, listing.readDir (rendered place) = some names ∧
      Reached listing includeHidden directoriesOnly (responseOf listing includeHidden directoriesOnly place names) := by
  induction place using List.reverseRecOn with
  | nil =>
    obtain ⟨names,reads,shown⟩ := browse_directory unrefused directory
    exact ⟨names,reads,.opened shown⟩
  | append_singleton place name ih =>
    have below := FileTree.Tree.isDirectory_iff.mp directory
    have above := FileTree.Tree.isDirectory_iff.mpr (files.tree.parents _ _ _ below)
    obtain ⟨others,reads,way⟩ := ih above fun other member => visible other (List.mem_append_left _ member)
    obtain ⟨entry,listed,kind,path⟩ := entry_of_listed above reads below (visible name (by simp))
    obtain ⟨names,opens,shown⟩ := browse_directory unrefused directory
    exact ⟨names,opens,.into way listed kind (by rw [path]; exact shown)⟩

omit listing in
theorem kind_of_found {path : String} {target : List (List Char)} (found : canonicalize files path = some target) :
    pathKind files path = .directory ↔ files.tree.isDirectory target = true := by
  have there : isDir files path = true ↔ files.tree.isDirectory target = true := by
    rw [isDir_iff]
    constructor
    · rintro ⟨other,reached,directory⟩
      cases found.symm.trans reached
      exact directory
    · exact fun directory => ⟨target,found,directory⟩
  rw [pathKind,← there]
  split_ifs <;> simp [*]

theorem hasChildren_iff (unrefused : Unrefused listing) (directory : files.tree.isDirectory place = true) :
    hasChildren listing (rendered place) includeHidden = true ↔
      ∃ name, (files.tree.entry (place ++ [name])).isSome = true ∧ (includeHidden = true ∨ startsWithDot name = false) := by
  obtain ⟨names,reads⟩ := Option.isSome_iff_exists.mp (unrefused _ (isDir_rendered directory))
  rw [hasChildren,reads,Option.getD_some,List.any_eq_true]
  simp only [listed_rendered directory reads,Bool.or_eq_true,Bool.not_eq_true']

theorem tells_of_entry (unrefused : Unrefused listing) {names : List (List Char)} {entry : FilesystemEntry}
    (listed : entry ∈ (responseOf listing includeHidden directoriesOnly place names).entries) :
    Tells files includeHidden place entry := by
  obtain ⟨name,_,pushed⟩ := mem_entries.mp listed
  simp only [entryOf] at pushed
  split_ifs at pushed with hidden other
  obtain ⟨target,found,rfl⟩ := Option.map_eq_some_iff.mp pushed
  refine ⟨target,found,rfl,kind_of_found found,rfl,?_,?_⟩
  · cases directoriesOnly with
    | false => rfl
    | true => simpa [entryAt] using other
  · change (if pathKind files (join (rendered place) (String.ofList name)) == .directory then
      hasChildren listing (rendered target) includeHidden else false) = true ↔ _
    by_cases directory : files.tree.isDirectory target = true
    · rw [if_pos (beq_iff_eq.mpr ((kind_of_found found).mpr directory)),hasChildren_iff unrefused directory]
      exact (and_iff_right directory).symm
    · rw [if_neg (fun kind => directory ((kind_of_found found).mp (beq_iff_eq.mp kind)))]
      exact iff_of_false Bool.false_ne_true fun both => directory both.1

theorem shown_names {names : List (List Char)} (directory : files.tree.isDirectory place = true)
    (reads : listing.readDir (rendered place) = some names) (name : List Char) :
    (∃ entry ∈ (responseOf listing includeHidden directoriesOnly place names).entries, entry.name = name) ↔
      Offered files includeHidden directoriesOnly place name := by
  have listed := listed_rendered directory reads name
  constructor
  · rintro ⟨entry,member,rfl⟩
    obtain ⟨name,inside,pushed⟩ := mem_entries.mp member
    simp only [entryOf] at pushed
    split_ifs at pushed with hidden other
    obtain ⟨target,found,rfl⟩ := Option.map_eq_some_iff.mp pushed
    refine ⟨(listed_rendered directory reads name).mp inside,?_,target,found,fun only => ?_⟩
    · cases includeHidden with
      | true => exact .inl rfl
      | false => exact .inr (by simpa [entryAt] using hidden)
    · exact (kind_of_found found).mp (by simpa [only] using other)
  · rintro ⟨there,visible,target,found,kept⟩
    have shown : (!includeHidden && startsWithDot name) = false := by
      rcases visible with all | plain <;> simp [*]
    have taken : (directoriesOnly && pathKind files (join (rendered place) (String.ofList name)) != .directory) = false := by
      cases directoriesOnly with
      | false => rfl
      | true => simpa using (kind_of_found found).mpr (kept rfl)
    refine ⟨entryAt listing includeHidden directoriesOnly name
      (pathKind files (join (rendered place) (String.ofList name))) target,
      mem_entries.mpr ⟨name,listed.mpr there,?_⟩,rfl⟩
    simp [entryOf,shown,taken,found]

end

end BitProtector.FilesystemBrowse
