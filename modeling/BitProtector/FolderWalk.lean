import BitProtector.PathTexts
import BitProtector.ScanWalks
import BitProtector.Foundation.LinkWays
import BitProtector.Foundation.StackWalk
import Mathlib.Data.Set.Finite.Lattice

/-! The walk of the three folder scans over a file system with links. Each path text is resolved
from the top, so the links that the system follows for one path bound the depth of every walk;
a file behind several links is met under several paths. -/
namespace BitProtector.FolderWalk
open Effect Paths MirrorFrames FileTree PathResolution PathTexts StackWalk ScanStates ScanWalks

/-! What the walks see of the file system. -/

/-- `Path::is_dir`, which follows links. -/
def isDir (files : FileSystem) (path : String) : Bool := (canonicalize files path).any files.tree.isDirectory

/-- `Path::is_file`, which follows links. -/
def isFile (files : FileSystem) (path : String) : Bool :=
  (canonicalize files path).any fun place => files.tree.entry place == some .file

/-- `fs::read_dir`: the names in a directory, in any order, or a refusal. -/
structure Listing (files : FileSystem) where
  readDir : String → Option (List (List Char))
  listed : ∀ dir names, readDir dir = some names → ∃ place, canonicalize files dir = some place ∧
    files.tree.isDirectory place = true ∧ ∀ name, name ∈ names ↔ (files.tree.entry (place ++ [name])).isSome = true

/-! The walk. -/

/-- The entries of a directory: the directories among them, the files as paths below the active drive, and the error
that a file outside of it ends with. -/
def meet (files : FileSystem) (active outside dir : String) : List (List Char) → Opened String String String
  | [] => ⟨[],[],none⟩
  | name::names =>
    let path := join dir (String.ofList name)
    let rest := meet files active outside dir names
    if isDir files path then { rest with nodes := path::rest.nodes }
    else if isFile files path then
      match stripPrefix active path with
      | none => ⟨[],[],some outside⟩
      | some relativePath => { rest with items := relativePath::rest.items }
    else rest

def openDir {files : FileSystem} (listing : Listing files) (active outside dir : String) : Opened String String String :=
  match listing.readDir dir with
  | none => ⟨[],[],some s!"Cannot read folder: {dir}"⟩
  | some names => meet files active outside dir names

def folderFullPath (pair : DrivePair) (folder : TrackedFolder) : String := join pair.activePath folder.folderPath

/-- The loop of `auto_track_folder_files`, `count_folder_files` and `scan_tracked_folder` until the stack is empty,
if so many rounds are enough for it. -/
def walkFolder {files : FileSystem} (listing : Listing files) (outside : String) (pair : DrivePair) (folder : TrackedFolder)
    (fuel : Nat) : Option Walk :=
  (drain (openDir listing pair.activePath outside) fuel [folderFullPath pair folder]).map fun found => ⟨found.1,found.2⟩

section
variable {files : FileSystem} {listing : Listing files} {active outside dir path : String} {names place : List (List Char)}
  {links left : Nat}

theorem isDir_iff : isDir files path = true ↔ ∃ place, canonicalize files path = some place ∧
    files.tree.isDirectory place = true := by
  rw [isDir,Option.any_eq_true]

theorem isFile_iff : isFile files path = true ↔ ∃ place, canonicalize files path = some place ∧
    files.tree.entry place = some .file := by
  rw [isFile,Option.any_eq_true]
  simp only [beq_iff_eq]

theorem mem_meet_nodes (next : path ∈ (meet files active outside dir names).nodes) :
    ∃ name ∈ names, path = join dir (String.ofList name) ∧ isDir files path = true := by
  induction names with
  | nil => cases next
  | cons name names ih =>
    have later (deeper : path ∈ (meet files active outside dir names).nodes) :
        ∃ other ∈ name::names, path = join dir (String.ofList other) ∧ isDir files path = true := by
      obtain ⟨other,member,found⟩ := ih deeper
      exact ⟨other,List.mem_cons_of_mem name member,found⟩
    unfold meet at next
    dsimp only at next
    split at next
    · rename_i directory
      rcases List.mem_cons.mp next with rfl | deeper
      · exact ⟨name,List.mem_cons_self,rfl,directory⟩
      · exact later deeper
    · split at next
      · split at next
        · cases next
        · exact later next
      · exact later next

theorem mem_meet_items {item : String} (found : item ∈ (meet files active outside dir names).items) :
    ∃ name ∈ names, isDir files (join dir (String.ofList name)) = false ∧ isFile files (join dir (String.ofList name)) = true ∧
      stripPrefix active (join dir (String.ofList name)) = some item := by
  induction names with
  | nil => cases found
  | cons name names ih =>
    have later (deeper : item ∈ (meet files active outside dir names).items) :
        ∃ other ∈ name::names, isDir files (join dir (String.ofList other)) = false ∧
          isFile files (join dir (String.ofList other)) = true ∧
            stripPrefix active (join dir (String.ofList other)) = some item := by
      obtain ⟨other,member,there⟩ := ih deeper
      exact ⟨other,List.mem_cons_of_mem name member,there⟩
    unfold meet at found
    dsimp only at found
    split at found
    · exact later found
    · rename_i noDirectory
      split at found
      · rename_i file
        split at found
        · cases found
        · rename_i relativePath below
          rcases List.mem_cons.mp found with rfl | deeper
          · exact ⟨name,List.mem_cons_self,Bool.eq_false_iff.mpr noDirectory,file,below⟩
          · exact later deeper
      · exact later found

theorem meet_complete (inside : ∀ name ∈ names, isFile files (join dir (String.ofList name)) = true →
      (stripPrefix active (join dir (String.ofList name))).isSome = true) :
    (meet files active outside dir names).failure = none ∧
      (∀ name ∈ names, isDir files (join dir (String.ofList name)) = true →
        join dir (String.ofList name) ∈ (meet files active outside dir names).nodes) ∧
      ∀ name ∈ names, isDir files (join dir (String.ofList name)) = false → isFile files (join dir (String.ofList name)) = true →
        ∀ item, stripPrefix active (join dir (String.ofList name)) = some item →
          item ∈ (meet files active outside dir names).items := by
  induction names with
  | nil => exact ⟨rfl,fun _ member => absurd member (by simp),fun _ member => absurd member (by simp)⟩
  | cons name names ih =>
    obtain ⟨fine,nodes,items⟩ := ih fun other member => inside other (List.mem_cons_of_mem _ member)
    unfold meet
    dsimp only
    split
    · rename_i directory
      refine ⟨fine,?_,?_⟩
      · intro other member there
        rcases List.mem_cons.mp member with rfl | later
        · exact List.mem_cons_self
        · exact List.mem_cons_of_mem _ (nodes other later there)
      · intro other member none_
        rcases List.mem_cons.mp member with rfl | later
        · rw [directory] at none_
          cases none_
        · exact items other later none_
    · rename_i noDirectory
      split
      · rename_i file
        obtain ⟨relativePath,below⟩ := Option.isSome_iff_exists.mp (inside name List.mem_cons_self file)
        rw [below]
        refine ⟨fine,?_,?_⟩
        · intro other member there
          rcases List.mem_cons.mp member with rfl | later
          · exact absurd there noDirectory
          · exact nodes other later there
        · intro other member none_ there item stripped
          rcases List.mem_cons.mp member with rfl | later
          · rw [below] at stripped
            cases stripped
            exact List.mem_cons_self
          · exact List.mem_cons_of_mem _ (items other later none_ there item stripped)
      · rename_i noFile
        refine ⟨fine,?_,?_⟩
        · intro other member there
          rcases List.mem_cons.mp member with rfl | later
          · exact absurd there noDirectory
          · exact nodes other later there
        · intro other member none_ there item stripped
          rcases List.mem_cons.mp member with rfl | later
          · exact absurd there noFile
          · exact items other later none_ there item stripped

/-! The end of every walk. -/

theorem ordinary_text {name : List Char} (ordinary : Ordinary name) : isAbsolute (String.ofList name) = false ∧
    steps (String.ofList name).toList = [.name name] := by
  have alone : ∀ other ∈ [name], Ordinary other := fun other member => by rwa [List.mem_singleton.mp member]
  have text : (['/'].intercalate [name] : List Char) = name := List.append_nil name
  refine ⟨?_,?_⟩
  · have relative := relativeText_relative (List.cons_ne_nil name []) alone
    rwa [relativeText,text] at relative
  · have names := steps_names (List.cons_ne_nil name []) alone
    rw [text] at names
    rw [String.toList_ofList]
    exact names

theorem reach_entry (at_ : reach files dir = some (place,links)) {name : List Char} (ordinary : Ordinary name) :
    reach files (join dir (String.ofList name)) = resolve files.tree links place [.name name] := by
  obtain ⟨relative,single⟩ := ordinary_text ordinary
  rw [reach_join at_ relative,single]

theorem ordinary_listed (reads : listing.readDir dir = some names) : ∃ place links, reach files dir = some (place,links) ∧
    files.tree.isDirectory place = true ∧
    ∀ name, (name ∈ names ↔ (files.tree.entry (place ++ [name])).isSome = true) ∧ (name ∈ names → Ordinary name) := by
  obtain ⟨place,reached,directory,listed⟩ := listing.listed dir names reads
  obtain ⟨⟨place,links⟩,at_,rfl⟩ := Option.map_eq_some_iff.mp reached
  refine ⟨place,links,at_,directory,fun name => ⟨listed name,fun member => ?_⟩⟩
  obtain ⟨found,there⟩ := Option.isSome_iff_exists.mp ((listed name).mp member)
  exact files.ordinary _ found there name (by simp)

/-- Nothing but this many places. -/
def FileSystem.Finite (files : FileSystem) : Prop := {place | (files.tree.entry place).isSome = true}.Finite

theorem exists_height (finite : FileSystem.Finite files) :
    ∃ height, ∀ place found, files.tree.entry place = some found → place.length ≤ height := by
  obtain ⟨height,bound⟩ := (finite.image List.length).bddAbove
  exact ⟨height,fun place found there => bound (Set.mem_image_of_mem _ (Option.isSome_iff_exists.mpr ⟨found,there⟩))⟩

/-- The links left for a path, and below the same link the names that could still follow. -/
def room (files : FileSystem) (height : Nat) (path : String) : Nat :=
  (reach files path).elim 0 fun reached => reached.2 * (height + 1) + (height - reached.1.length) + 1

theorem room_lower {height : Nat} (bound : ∀ place found, files.tree.entry place = some found → place.length ≤ height)
    (next : path ∈ (openDir listing active outside dir).nodes) : room files height path < room files height dir := by
  unfold openDir at next
  split at next
  · cases next
  · rename_i names reads
    obtain ⟨name,member,rfl,directory⟩ := mem_meet_nodes next
    obtain ⟨place,links,at_,_,listed⟩ := ordinary_listed reads
    have entry := reach_entry at_ ((listed name).2 member)
    obtain ⟨target,reached,_⟩ := isDir_iff.mp directory
    obtain ⟨⟨target,left⟩,leads,rfl⟩ := Option.map_eq_some_iff.mp reached
    rw [room,room,leads,at_,Option.elim_some,Option.elim_some]
    rw [entry] at leads
    rcases resolve_name leads with ⟨_,⟨found,there,_⟩,rfl,rfl⟩ | ⟨_,fewer⟩
    · have deep := bound _ _ there
      rw [List.length_append,List.length_singleton] at deep
      dsimp only
      rw [List.length_append,List.length_singleton]
      omega
    · have lower : (left + 1) * (height + 1) ≤ links * (height + 1) := Nat.mul_le_mul_right _ fewer
      rw [Nat.add_mul,Nat.one_mul] at lower
      dsimp only
      omega

theorem walkFolder_ends (finite : FileSystem.Finite files) (listing : Listing files) (outside : String) (pair : DrivePair)
    (folder : TrackedFolder) : ∃ walk enough, ∀ fuel, enough ≤ fuel →
      walkFolder listing outside pair folder fuel = some walk := by
  obtain ⟨height,bound⟩ := exists_height finite
  have ends : Ends (openDir listing pair.activePath outside) [folderFullPath pair folder] :=
    ends_of_measure (room files height) (fun dir path next => room_lower bound next) _
  obtain ⟨enough,found,ended⟩ := ends
  exact ⟨⟨found.1,found.2⟩,enough,fun fuel more => congrArg (Option.map _) (drain_more ended more)⟩

/-! The names below the folder. -/

/-- The path of the entry that these names lead to. -/
def below (path : String) (names : List (List Char)) : String :=
  names.foldl (fun dir name => join dir (String.ofList name)) path

theorem below_snoc (path : String) (names : List (List Char)) (name : List Char) :
    below path (names ++ [name]) = join (below path names) (String.ofList name) := by
  rw [below,List.foldl_append]
  rfl

theorem ordinary_next {name : List Char} (reached : resolve files.tree links place [.name name] = some (names,left)) :
    Ordinary name := by
  rcases resolve_name reached with ⟨_,⟨found,there,_⟩,_⟩ | ⟨link,_⟩
  · exact files.ordinary _ found there name (by simp)
  · obtain ⟨found,there,_⟩ := Option.any_eq_true _ _ |>.mp link
    exact files.ordinary _ found there name (by simp)

section
variable {start target : List (List Char)}

theorem ordinary_names (reached : resolve files.tree links start (names.map .name) = some (target,left)) :
    ∀ name ∈ names, Ordinary name := by
  induction names using List.reverseRecOn generalizing target left with
  | nil => exact fun name member => absurd member (by simp)
  | append_singleton above last ih =>
    rw [resolve_snoc] at reached
    obtain ⟨⟨mid,rest⟩,first,second⟩ := Option.bind_eq_some_iff.mp reached
    intro name member
    rcases List.mem_append.mp member with higher | here
    · exact ih first name higher
    · rw [List.mem_singleton.mp here]
      exact ordinary_next second

theorem reach_below (rooted : reach files path = some (start,links))
    (reached : resolve files.tree links start (names.map .name) = some (target,left)) :
    reach files (below path names) = some (target,left) := by
  induction names using List.reverseRecOn generalizing target left with
  | nil =>
    rw [List.map_nil,resolve_nil] at reached
    exact rooted.trans reached
  | append_singleton above last ih =>
    rw [resolve_snoc] at reached
    obtain ⟨⟨mid,rest⟩,first,second⟩ := Option.bind_eq_some_iff.mp reached
    rw [below_snoc,reach_entry (ih first) (ordinary_next second),second]

end

theorem segmentsOf_name {name : List Char} (ordinary : Ordinary name) : segmentsOf (String.ofList name) = [name] := by
  have alone : ∀ other ∈ [name], '/' ∉ other := fun other member => by
    rw [List.mem_singleton.mp member]
    exact ordinary.2.1
  have text : (['/'].intercalate [name] : List Char) = name := List.append_nil name
  have parts := segmentsOf_relativeText (List.cons_ne_nil name []) alone
  rwa [relativeText,text] at parts

theorem namesOf_below (path : String) (ordinary : ∀ name ∈ names, Ordinary name) :
    namesOf (below path names) = namesOf path ++ names := by
  induction names using List.reverseRecOn with
  | nil => exact (List.append_nil _).symm
  | append_singleton above last ih =>
    have plain := ordinary last (by simp)
    have alone : namesOf (String.ofList last) = [last] := by
      rw [namesOf,segmentsOf_name plain,List.filter_cons_of_pos (by simp [passed_ordinary plain]),List.filter_nil]
    rw [below_snoc,namesOf_join _ (ordinary_text plain).1,ih fun name member => ordinary name (by simp [member]),alone,
      List.append_assoc]

theorem isAbsolute_below (path : String) (ordinary : ∀ name ∈ names, Ordinary name) :
    isAbsolute (below path names) = isAbsolute path := by
  induction names using List.reverseRecOn with
  | nil => rfl
  | append_singleton above last ih =>
    rw [below_snoc,isAbsolute_join (ordinary_text (ordinary last (by simp))).1,ih fun name member =>
      ordinary name (by simp [member])]

theorem endsNamed_below (path : String) (nonempty : names ≠ []) (ordinary : ∀ name ∈ names, Ordinary name) :
    EndsNamed (below path names) := by
  cases names using List.reverseRecOn with
  | nil => exact absurd rfl nonempty
  | append_singleton above last =>
    have plain := ordinary last (by simp)
    rw [below_snoc]
    exact endsNamed_join _ (ordinary_text plain).1 ⟨[],last,segmentsOf_name plain,passed_ordinary plain⟩

theorem beginsHere_below (filled : path ≠ "") (ordinary : ∀ name ∈ names, Ordinary name) :
    beginsHere (below path names) = beginsHere path ∧ below path names ≠ "" := by
  induction names using List.reverseRecOn with
  | nil => exact ⟨rfl,filled⟩
  | append_singleton above last ih =>
    have plain := ordinary last (by simp)
    obtain ⟨begins,kept⟩ := ih fun name member => ordinary name (by simp [member])
    obtain ⟨same,filled⟩ := beginsHere_join kept (ordinary_text plain).1
    rw [below_snoc]
    exact ⟨same.trans begins,filled⟩

end

/-! The files that a walk meets. -/

/-- A file to track at the names below the folder, and its path. -/
structure Taken (files : FileSystem) (pair : DrivePair) (folder : TrackedFolder) (names place : List (List Char))
    (relativePath : String) : Prop where
  file : files.tree.entry place = some .file
  inside : names ≠ []
  path : stripPrefix pair.activePath (below (folderFullPath pair folder) names) = some relativePath
  wanted : passedOver folder relativePath = false

def Met (files : FileSystem) (pair : DrivePair) (folder : TrackedFolder) (names place : List (List Char))
    (relativePath : String) : Prop :=
  ∃ start links left, reach files (folderFullPath pair folder) = some (start,links) ∧
    resolve files.tree links start (names.map .name) = some (place,left) ∧ Taken files pair folder names place relativePath

/-- The file that a tracked path means. -/
def realPlace (files : FileSystem) (pair : DrivePair) (relativePath : String) : Option (List (List Char)) :=
  canonicalize files (join pair.activePath relativePath)

section
variable {files : FileSystem} {pair : DrivePair} {folder : TrackedFolder} {names place : List (List Char)} {relativePath : String}

theorem ordinary_met (met : Met files pair folder names place relativePath) : ∀ name ∈ names, Ordinary name := by
  obtain ⟨_,_,_,_,leads,_⟩ := met
  exact ordinary_names leads

theorem namesOf_met (relative : isAbsolute folder.folderPath = false) (met : Met files pair folder names place relativePath) :
    namesOf relativePath = namesOf folder.folderPath ++ names := by
  have ordinary := ordinary_met met
  obtain ⟨_,_,_,_,_,taken⟩ := met
  have behind := (stripPrefix_some taken.path (endsNamed_below _ taken.inside ordinary)).1
  rw [namesOf_below _ ordinary,folderFullPath,namesOf_join _ relative,List.append_assoc] at behind
  exact (List.append_cancel_left behind).symm

theorem met_unique {others place' : List (List Char)} (relative : isAbsolute folder.folderPath = false)
    (met : Met files pair folder names place relativePath) (met' : Met files pair folder others place' relativePath) :
    names = others :=
  List.append_cancel_left ((namesOf_met relative met).symm.trans (namesOf_met relative met'))

theorem realPlace_met (relative : isAbsolute folder.folderPath = false) (met : Met files pair folder names place relativePath) :
    realPlace files pair relativePath = some place := by
  have ordinary := ordinary_met met
  have behind := namesOf_met relative met
  obtain ⟨start,links,left,rooted,leads,taken⟩ := met
  have ends := endsNamed_below (folderFullPath pair folder) taken.inside ordinary
  have reached : canonicalize files (below (folderFullPath pair folder) names) = some place := by
    rw [canonicalize,reach_below rooted leads]
    rfl
  obtain ⟨split,⟨empty,rfl⟩ | ⟨_,absolute,rest⟩⟩ := stripPrefix_some taken.path ends
  · rw [realPlace,empty,join_empty,reached]
  · have filled : namesOf relativePath ≠ [] := by
      rw [behind]
      exact List.append_ne_nil_of_right_ne_nil _ taken.inside
    obtain ⟨noRoot,named⟩ := rest filled
    have same : isAbsolute (join pair.activePath relativePath) = isAbsolute (below (folderFullPath pair folder) names) := by
      rw [isAbsolute_join noRoot,absolute]
    rw [realPlace,canonicalize,reach_congr (endsNamed_join _ noRoot named) ends same ((namesOf_join _ noRoot).trans split.symm)]
    exact reached

theorem stripPrefix_below (relative : isAbsolute folder.folderPath = false) (ordinary : ∀ name ∈ names, Ordinary name) :
    (stripPrefix pair.activePath (below (folderFullPath pair folder) names)).isSome = true := by
  by_cases empty : pair.activePath = ""
  · rw [stripPrefix,if_pos empty]
    rfl
  · obtain ⟨begins,filled⟩ := beginsHere_join empty relative
    have absolute : isAbsolute pair.activePath = isAbsolute (below (folderFullPath pair folder) names) := by
      rw [isAbsolute_below _ ordinary,folderFullPath,isAbsolute_join relative]
    have split : namesOf (below (folderFullPath pair folder) names) =
        namesOf pair.activePath ++ (namesOf folder.folderPath ++ names) := by
      rw [namesOf_below _ ordinary,folderFullPath,namesOf_join _ relative,List.append_assoc]
    exact stripPrefix_isSome absolute (begins.symm.trans (beginsHere_below filled ordinary).1.symm) split

section
variable {listing : Listing files} {outside dir : String} {links : Nat} {walk : Walk} {fuel : Nat}

theorem reached_names (reached : Reached (openDir listing pair.activePath outside) [folderFullPath pair folder] dir)
    (at_ : reach files dir = some (place,links)) :
    ∃ start budget names, reach files (folderFullPath pair folder) = some (start,budget) ∧
      dir = below (folderFullPath pair folder) names ∧
      resolve files.tree budget start (names.map .name) = some (place,links) := by
  induction reached generalizing place links with
  | start listed =>
    rw [List.mem_singleton.mp listed] at at_ ⊢
    exact ⟨place,links,[],at_,rfl,resolve_nil⟩
  | next _ member ih =>
    unfold openDir at member
    split at member
    · cases member
    · rename_i listed reads
      obtain ⟨name,inside,rfl,_⟩ := mem_meet_nodes member
      obtain ⟨above,left,higher,_,ordinary⟩ := ordinary_listed reads
      obtain ⟨start,budget,names,rooted,rfl,leads⟩ := ih higher
      rw [reach_entry higher ((ordinary name).2 inside)] at at_
      refine ⟨start,budget,names ++ [name],rooted,(below_snoc _ _ _).symm,?_⟩
      rw [resolve_snoc,leads]
      exact at_

theorem met_of_visited (walked : walkFolder listing outside pair folder fuel = some walk) :
    ∀ path ∈ visits folder walk.files, ∃ names place, Met files pair folder names place path := by
  obtain ⟨found,ended,rfl⟩ := Option.map_eq_some_iff.mp walked
  intro path member
  obtain ⟨visited,wanted⟩ := List.mem_filter.mp member
  obtain ⟨dir,reached,items⟩ := found_of_drain ended path visited
  unfold openDir at items
  split at items
  · cases items
  · rename_i listed reads
    obtain ⟨name,inside,_,file,stripped⟩ := mem_meet_items items
    obtain ⟨above,left,higher,_,ordinary⟩ := ordinary_listed reads
    obtain ⟨start,budget,names,rooted,rfl,leads⟩ := reached_names reached higher
    obtain ⟨place,at_,isFile⟩ := isFile_iff.mp file
    obtain ⟨⟨place,links⟩,entry,rfl⟩ := Option.map_eq_some_iff.mp at_
    rw [reach_entry higher ((ordinary name).2 inside)] at entry
    refine ⟨names ++ [name],place,start,budget,links,rooted,?_,isFile,by simp,?_,?_⟩
    · rw [resolve_snoc,leads]
      exact entry
    · rw [below_snoc]
      exact stripped
    · simpa using wanted

/-! A walk that no directory refuses. -/

def Unrefused (listing : Listing files) : Prop := ∀ dir, isDir files dir = true → (listing.readDir dir).isSome = true

theorem exists_unrefused (finite : FileSystem.Finite files) : ∃ listing : Listing files, Unrefused listing := by
  have entries (place : List (List Char)) :
      ∃ names : List (List Char), ∀ name, name ∈ names ↔ (files.tree.entry (place ++ [name])).isSome = true := by
    have behind : {name | (files.tree.entry (place ++ [name])).isSome = true}.Finite := by
      apply Set.Finite.preimage _ finite
      intro name _ other _ same
      exact (List.cons.inj (List.append_cancel_left same)).1
    exact ⟨behind.toFinset.toList,fun name => by rw [Finset.mem_toList,Set.Finite.mem_toFinset]; rfl⟩
  choose entriesOf listed using entries
  refine ⟨⟨fun dir => (canonicalize files dir).bind fun place =>
    if files.tree.isDirectory place then some (entriesOf place) else none,?_⟩,?_⟩
  · intro dir names reads
    obtain ⟨place,reached,same⟩ := Option.bind_eq_some_iff.mp reads
    split at same
    · rename_i directory
      cases same
      exact ⟨place,reached,directory,listed place⟩
    · cases same
  · intro dir there
    obtain ⟨place,reached,directory⟩ := isDir_iff.mp there
    change ((canonicalize files dir).bind fun place =>
      if files.tree.isDirectory place then some (entriesOf place) else none).isSome = true
    rw [reached,Option.bind_some,if_pos directory]
    rfl

theorem reached_isDir (folderDir : isDir files (folderFullPath pair folder) = true)
    (reached : Reached (openDir listing pair.activePath outside) [folderFullPath pair folder] dir) : isDir files dir = true := by
  cases reached with
  | start listed => rwa [List.mem_singleton.mp listed]
  | next _ member =>
    unfold openDir at member
    split at member
    · cases member
    · obtain ⟨_,_,_,directory⟩ := mem_meet_nodes member
      exact directory

theorem directory_of_name {left : Nat} {above target : List (List Char)} {name : List Char}
    (leads : resolve files.tree links above [.name name] = some (target,left)) : files.tree.isDirectory above = true := by
  cases directory : files.tree.isDirectory above with
  | true => rfl
  | false =>
    rw [resolve_stuck directory] at leads
    cases leads

theorem openDir_complete (relative : isAbsolute folder.folderPath = false) {listed : List (List Char)}
    (reached : Reached (openDir listing pair.activePath outside) [folderFullPath pair folder] dir)
    (reads : listing.readDir dir = some listed) : ∀ name ∈ listed, isFile files (join dir (String.ofList name)) = true →
      (stripPrefix pair.activePath (join dir (String.ofList name))).isSome = true := by
  intro name member _
  obtain ⟨above,left,higher,_,ordinary⟩ := ordinary_listed reads
  obtain ⟨start,budget,names,_,rfl,leads⟩ := reached_names reached higher
  rw [← below_snoc]
  apply stripPrefix_below relative
  intro other listed
  rcases List.mem_append.mp listed with upper | last
  · exact ordinary_names leads other upper
  · rw [List.mem_singleton.mp last]
    exact (ordinary name).2 member

section
variable {start above mid : List (List Char)} {budget rest : Nat}

theorem listed_of_name (unrefused : Unrefused listing) (rooted : reach files (folderFullPath pair folder) = some (start,budget))
    (leads : resolve files.tree budget start (above.map .name) = some (mid,rest)) {name : List Char} {left : Nat}
    (next : resolve files.tree rest mid [.name name] = some (place,left)) :
    ∃ listed, listing.readDir (below (folderFullPath pair folder) above) = some listed ∧ name ∈ listed := by
  have at_ := reach_below rooted leads
  have directory : isDir files (below (folderFullPath pair folder) above) = true :=
    isDir_iff.mpr ⟨mid,by rw [canonicalize,at_]; rfl,directory_of_name next⟩
  obtain ⟨listed,reads⟩ := Option.isSome_iff_exists.mp (unrefused _ directory)
  obtain ⟨place',_,same,_,members⟩ := ordinary_listed reads
  cases at_.symm.trans same
  refine ⟨listed,reads,(members name).1.mpr ?_⟩
  rcases resolve_name next with ⟨_,⟨found,there,_⟩,_⟩ | ⟨link,_⟩
  · rw [there]
    rfl
  · obtain ⟨found,there,_⟩ := Option.any_eq_true _ _ |>.mp link
    rw [there]
    rfl

theorem reached_above (relative : isAbsolute folder.folderPath = false) (unrefused : Unrefused listing)
    (rooted : reach files (folderFullPath pair folder) = some (start,budget))
    (leads : resolve files.tree budget start (above.map .name) = some (mid,rest))
    (directory : files.tree.isDirectory mid = true) :
    Reached (openDir listing pair.activePath outside) [folderFullPath pair folder]
      (below (folderFullPath pair folder) above) := by
  induction above using List.reverseRecOn generalizing mid rest with
  | nil => exact .start (List.mem_singleton.mpr rfl)
  | append_singleton above last ih =>
    have at_ := reach_below rooted leads
    rw [resolve_snoc] at leads
    obtain ⟨⟨upper,left⟩,first,second⟩ := Option.bind_eq_some_iff.mp leads
    have opened := ih first (directory_of_name second)
    obtain ⟨listed,reads,member⟩ := listed_of_name unrefused rooted first second
    have there : isDir files (join (below (folderFullPath pair folder) above) (String.ofList last)) = true := by
      rw [← below_snoc]
      exact isDir_iff.mpr ⟨mid,by rw [canonicalize,at_]; rfl,directory⟩
    rw [below_snoc]
    apply opened.next
    rw [openDir,reads]
    exact (meet_complete (openDir_complete relative opened reads)).2.1 last member there

end

theorem visited_of_met (relative : isAbsolute folder.folderPath = false) (unrefused : Unrefused listing)
    (folderDir : isDir files (folderFullPath pair folder) = true)
    (walked : walkFolder listing outside pair folder fuel = some walk) :
    walk.failure = none ∧ ∀ names place path, Met files pair folder names place path → path ∈ visits folder walk.files := by
  obtain ⟨found,ended,rfl⟩ := Option.map_eq_some_iff.mp walked
  have fine : ∀ dir, Reached (openDir listing pair.activePath outside) [folderFullPath pair folder] dir →
      (openDir listing pair.activePath outside dir).failure = none := by
    intro dir reached
    obtain ⟨listed,reads⟩ := Option.isSome_iff_exists.mp (unrefused dir (reached_isDir folderDir reached))
    rw [openDir,reads]
    exact (meet_complete (openDir_complete relative reached reads)).1
  obtain ⟨whole,all⟩ := drain_complete ended fine
  refine ⟨whole,?_⟩
  rintro names place path ⟨start,budget,left,rooted,leads,taken⟩
  refine List.mem_filter.mpr ⟨?_,by simp [taken.wanted]⟩
  cases names using List.reverseRecOn with
  | nil => exact absurd rfl taken.inside
  | append_singleton above last =>
    have at_ := reach_below rooted leads
    rw [resolve_snoc] at leads
    obtain ⟨⟨mid,rest⟩,first,second⟩ := Option.bind_eq_some_iff.mp leads
    have opened : Reached (openDir listing pair.activePath outside) [folderFullPath pair folder] _ :=
      reached_above relative unrefused rooted first (directory_of_name second)
    obtain ⟨listed,reads,member⟩ := listed_of_name unrefused rooted first second
    have canonical : canonicalize files (join (below (folderFullPath pair folder) above) (String.ofList last)) = some place := by
      rw [← below_snoc,canonicalize,at_]
      rfl
    have noDirectory : isDir files (join (below (folderFullPath pair folder) above) (String.ofList last)) = false := by
      rw [isDir,canonical,Option.any_some,Tree.isDirectory,taken.file]
      rfl
    have file : isFile files (join (below (folderFullPath pair folder) above) (String.ofList last)) = true :=
      isFile_iff.mpr ⟨place,canonical,taken.file⟩
    apply all _ opened
    rw [openDir,reads]
    have stripped := taken.path
    rw [below_snoc] at stripped
    exact (meet_complete (openDir_complete relative opened reads)).2.2 last member noDirectory file path stripped

end

end

end BitProtector.FolderWalk
