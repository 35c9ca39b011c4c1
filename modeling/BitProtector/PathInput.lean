import BitProtector.PathResolution

/-! The resolution of a typed path in the browser beside the one of the server, over file
systems without links. The browser trims every segment, by another notion of white space. -/
namespace BitProtector.PathInput
open Paths VirtualTree VirtualPath MirrorFrames FileTree PathResolution

/-! The browser. -/

/-- The white space and line ends of `String.prototype.trim`. -/
def isJsWhitespace (c : Char) : Bool :=
  (9 ≤ c.toNat && c.toNat ≤ 13) || c.toNat == 0x20 || c.toNat == 0xA0 || c.toNat == 0x1680 ||
    (0x2000 ≤ c.toNat && c.toNat ≤ 0x200A) || c.toNat == 0x2028 || c.toNat == 0x2029 || c.toNat == 0x202F ||
    c.toNat == 0x205F || c.toNat == 0x3000 || c.toNat == 0xFEFF

def jsTrim (text : List Char) : List Char := (text.dropWhile isJsWhitespace).rdropWhile isJsWhitespace

def isAbsoluteFilesystemPath (path : List Char) : Bool := (jsTrim path).head? == some '/'

def hasParentDirSegment (path : List Char) : Bool := ((path.splitOn '/').map jsTrim).any (· == ['.','.'])

def normalizeSegments (path : List Char) : List (List Char) :=
  ((path.splitOn '/').map jsTrim).filter (fun segment => segment ≠ [] ∧ segment ≠ ['.'])

def normalizeAbsoluteFilesystemPath (path : List Char) : List Char :=
  let segments := normalizeSegments path
  if segments = [] then ['/'] else '/'::['/'].intercalate segments

def normalizeRelativeFilesystemPath (path : List Char) : List Char := ['/'].intercalate (normalizeSegments path)

def joinAbsoluteFilesystemPath (root relativePath : List Char) : List Char :=
  let normalizedRoot := normalizeAbsoluteFilesystemPath root
  let normalizedRelative := normalizeRelativeFilesystemPath relativePath
  if normalizedRelative = [] then normalizedRoot
  else if normalizedRoot = ['/'] then '/'::normalizedRelative
  else normalizedRoot ++ '/'::normalizedRelative

structure TrackedPathResolution where
  relativePath : Option (List Char)
  absolutePath : Option (List Char)
  error : Option String
  deriving DecidableEq, Repr

def resolveTrackedPathInput (activeRoot : Option String) (inputPath : String) : TrackedPathResolution :=
  let trimmed := jsTrim inputPath.toList
  if trimmed = [] then ⟨none,none,some "Path is required"⟩
  else if hasParentDirSegment trimmed then ⟨none,none,some "Parent-directory traversal is not allowed"⟩
  else
    match activeRoot.filter (· ≠ "") with
    | none => ⟨none,none,some "Select a drive pair first"⟩
    | some activeRoot =>
      let normalizedRoot := normalizeAbsoluteFilesystemPath activeRoot.toList
      let absolutePath :=
        if isAbsoluteFilesystemPath trimmed then normalizeAbsoluteFilesystemPath trimmed
        else joinAbsoluteFilesystemPath normalizedRoot trimmed
      let start := if normalizedRoot = ['/'] then ['/'] else normalizedRoot ++ ['/']
      if absolutePath = normalizedRoot then ⟨none,some absolutePath,some "Select a path inside the active drive root"⟩
      else if !start.isPrefixOf absolutePath then
        ⟨none,some absolutePath,some "Selected path must be inside the active drive root"⟩
      else
        let relativePath := if normalizedRoot = ['/'] then absolutePath.drop 1 else absolutePath.drop start.length
        if relativePath = [] then ⟨none,some absolutePath,some "Select a path inside the active drive root"⟩
        else ⟨some relativePath,some absolutePath,none⟩

/-! Trimming. -/

theorem mem_of_mem_jsTrim {text : List Char} {c : Char} (member : c ∈ jsTrim text) : c ∈ text :=
  (List.dropWhile_suffix isJsWhitespace).subset ((List.rdropWhile_prefix isJsWhitespace _).subset member)

theorem jsTrim_idem (text : List Char) : jsTrim (jsTrim text) = jsTrim text := by
  have front : (jsTrim text).dropWhile isJsWhitespace = jsTrim text := dropWhile_rdropWhile_dropWhile isJsWhitespace text
  rw [jsTrim,front]
  exact List.rdropWhile_idempotent _ _

/-! Segments. -/

/-- What the browser makes of a segment that it keeps. -/
structure Clean (segment : List Char) : Prop where
  nonempty : segment ≠ []
  no_slash : '/' ∉ segment
  no_dot : segment ≠ ['.']
  trimmed : jsTrim segment = segment

theorem clean_normalizeSegments (path : List Char) : ∀ segment ∈ normalizeSegments path, Clean segment := by
  intro segment member
  obtain ⟨listed,kept⟩ := List.mem_filter.mp member
  obtain ⟨whole,part,rfl⟩ := List.mem_map.mp listed
  obtain ⟨nonempty,no_dot⟩ := of_decide_eq_true kept
  exact ⟨nonempty,fun slash => no_slash_of_mem_splitOn part (mem_of_mem_jsTrim slash),no_dot,jsTrim_idem whole⟩

theorem splitOn_clean {segments : List (List Char)} (nonempty : segments ≠ []) (clean : ∀ segment ∈ segments, Clean segment) :
    (['/'].intercalate segments).splitOn '/' = segments :=
  List.splitOn_intercalate '/' (fun segment member => (clean segment member).no_slash) nonempty

theorem normalizeSegments_intercalate {segments : List (List Char)} (clean : ∀ segment ∈ segments, Clean segment) :
    normalizeSegments (['/'].intercalate segments) = segments := by
  by_cases nonempty : segments = []
  · subst nonempty
    rfl
  · have same : segments.map jsTrim = segments :=
      (List.map_congr_left fun segment member => (clean segment member).trimmed).trans (List.map_id' segments)
    rw [normalizeSegments,splitOn_clean nonempty clean,same,List.filter_eq_self]
    exact fun segment member => decide_eq_true ⟨(clean segment member).nonempty,(clean segment member).no_dot⟩

theorem normalizeSegments_slash (front back : List Char) :
    normalizeSegments (front ++ '/'::back) = normalizeSegments front ++ normalizeSegments back := by
  rw [normalizeSegments,List.splitOn_append_cons_self,List.map_append,List.filter_append]
  rfl

theorem normalizeAbsolute_eq (path : List Char) :
    normalizeAbsoluteFilesystemPath path = joinSegments (normalizeSegments path) := by
  unfold normalizeAbsoluteFilesystemPath
  dsimp only
  split
  · rename_i empty
    rw [empty]
    rfl
  · rfl

theorem normalizeSegments_joinSegments {segments : List (List Char)} (clean : ∀ segment ∈ segments, Clean segment) :
    normalizeSegments (joinSegments segments) = segments := by
  have split := normalizeSegments_slash [] (['/'].intercalate segments)
  rw [normalizeSegments_intercalate clean] at split
  exact split

theorem joinSegments_root {segments : List (List Char)} (clean : ∀ segment ∈ segments, Clean segment) :
    joinSegments segments = ['/'] ↔ segments = [] := by
  constructor
  · intro root
    have names := normalizeSegments_joinSegments clean
    rw [root] at names
    exact names.symm
  · rintro rfl
    rfl

theorem joinAbsolute_eq {root relativePath : List Char} : joinAbsoluteFilesystemPath root relativePath =
    joinSegments (normalizeSegments root ++ normalizeSegments relativePath) := by
  have clean := clean_normalizeSegments root
  have clean' := clean_normalizeSegments relativePath
  have relative : normalizeRelativeFilesystemPath relativePath = [] ↔ normalizeSegments relativePath = [] := by
    constructor
    · intro empty
      have names := normalizeSegments_intercalate clean'
      rw [← normalizeRelativeFilesystemPath,empty] at names
      exact names.symm
    · intro empty
      rw [normalizeRelativeFilesystemPath,empty]
      rfl
  unfold joinAbsoluteFilesystemPath
  dsimp only
  rw [normalizeAbsolute_eq]
  by_cases nothing : normalizeSegments relativePath = []
  · rw [if_pos (relative.mpr nothing),nothing,List.append_nil]
  · rw [if_neg (mt relative.mp nothing)]
    by_cases top : normalizeSegments root = []
    · rw [if_pos ((joinSegments_root clean).mpr top),top]
      rfl
    · rw [if_neg (mt (joinSegments_root clean).mp top),normalizeRelativeFilesystemPath,joinSegments_eq top,
        joinSegments_eq (List.append_ne_nil_of_left_ne_nil top _),List.flatMap_append,← joinSegments_eq nothing]
      rfl

/-! What the browser accepts. -/

/-- The segments that the browser reads from a trimmed input, below those that it reads from a root. -/
def readTarget (root input : List Char) : List (List Char) :=
  if isAbsoluteFilesystemPath input then normalizeSegments input else normalizeSegments root ++ normalizeSegments input

theorem clean_readTarget (root input : List Char) : ∀ segment ∈ readTarget root input, Clean segment := by
  unfold readTarget
  split
  · exact clean_normalizeSegments input
  · intro segment member
    rcases List.mem_append.mp member with above | below
    · exact clean_normalizeSegments root segment above
    · exact clean_normalizeSegments input segment below

theorem absolutePath_eq (root input : List Char) :
    (if isAbsoluteFilesystemPath input then normalizeAbsoluteFilesystemPath input
      else joinAbsoluteFilesystemPath (normalizeAbsoluteFilesystemPath root) input) = joinSegments (readTarget root input) := by
  unfold readTarget
  split
  · exact normalizeAbsolute_eq input
  · rw [joinAbsolute_eq,normalizeAbsolute_eq,normalizeSegments_joinSegments (clean_normalizeSegments root)]

theorem joinSegments_clean_injective {segments others : List (List Char)} (clean : ∀ segment ∈ segments, Clean segment)
    (clean' : ∀ segment ∈ others, Clean segment) (same : joinSegments segments = joinSegments others) : segments = others := by
  rw [← normalizeSegments_joinSegments clean,← normalizeSegments_joinSegments clean',same]

theorem joinSegments_below {root others : List (List Char)} {rest : List Char} (clean : ∀ segment ∈ root, Clean segment)
    (clean' : ∀ segment ∈ others, Clean segment) (nonempty : root ≠ []) :
    joinSegments others = joinSegments root ++ '/'::rest ↔
      ∃ names, names ≠ [] ∧ others = root ++ names ∧ rest = ['/'].intercalate names := by
  have split {segments : List (List Char)} (clean : ∀ segment ∈ segments, Clean segment) (filled : segments ≠ []) :
      (joinSegments segments).splitOn '/' = []::segments := by
    have whole := List.splitOn_append_cons_self (a := '/') [] (['/'].intercalate segments)
    rw [splitOn_clean filled clean] at whole
    exact whole
  constructor
  · intro whole
    have filled : others ≠ [] := by
      rintro rfl
      have length := congrArg List.length whole
      rw [joinSegments_eq nonempty,List.length_append,List.length_cons] at length
      obtain ⟨first,more,rfl⟩ := List.exists_cons_of_ne_nil nonempty
      rw [List.flatMap_cons,List.length_append,List.length_cons] at length
      change 1 = _ at length
      omega
    have parts := congrArg (List.splitOn '/') whole
    rw [split clean' filled,List.splitOn_append_cons_self,split clean nonempty,List.cons_append,List.cons.injEq] at parts
    exact ⟨rest.splitOn '/',List.splitOn_ne_nil _ _,parts.2,(List.intercalate_splitOn '/').symm⟩
  · rintro ⟨names,filled,rfl,rfl⟩
    rw [joinSegments_eq nonempty,joinSegments_eq (List.append_ne_nil_of_left_ne_nil nonempty _),List.flatMap_append,
      ← joinSegments_eq filled]
    rfl

/-- The browser reads the input as names below the root. -/
structure Accepts (activeRoot inputPath : String) (names : List (List Char)) : Prop where
  given : jsTrim inputPath.toList ≠ []
  level : hasParentDirSegment (jsTrim inputPath.toList) = false
  rooted : activeRoot ≠ ""
  below : names ≠ []
  found : readTarget activeRoot.toList (jsTrim inputPath.toList) = normalizeSegments activeRoot.toList ++ names

theorem strictlyInside_iff {root others : List (List Char)} {relativePath : List Char} (clean : ∀ segment ∈ root, Clean segment)
    (clean' : ∀ segment ∈ others, Clean segment) :
    (let start := if joinSegments root = ['/'] then ['/'] else joinSegments root ++ ['/']
      if joinSegments others = joinSegments root then
        (⟨none,some (joinSegments others),some "Select a path inside the active drive root"⟩ : TrackedPathResolution)
      else if !start.isPrefixOf (joinSegments others) then
        ⟨none,some (joinSegments others),some "Selected path must be inside the active drive root"⟩
      else
        let rest := if joinSegments root = ['/'] then (joinSegments others).drop 1 else (joinSegments others).drop start.length
        if rest = [] then ⟨none,some (joinSegments others),some "Select a path inside the active drive root"⟩
        else ⟨some rest,some (joinSegments others),none⟩).relativePath = some relativePath ↔
      ∃ names, names ≠ [] ∧ others = root ++ names ∧ relativePath = ['/'].intercalate names := by
  have filled {names : List (List Char)} (nonempty : names ≠ []) (clean : ∀ segment ∈ names, Clean segment) :
      ['/'].intercalate names ≠ [] := by
    intro empty
    have segments := normalizeSegments_intercalate clean
    rw [empty] at segments
    exact nonempty segments.symm
  have equal : joinSegments others = joinSegments root ↔ others = root :=
    ⟨joinSegments_clean_injective clean' clean,fun same => by rw [same]⟩
  by_cases top : root = []
  · subst top
    have slash : joinSegments [] = ['/'] := rfl
    have begins : ['/'].isPrefixOf (joinSegments others) = true := rfl
    have rest : (joinSegments others).drop 1 = ['/'].intercalate others := rfl
    dsimp only
    rw [if_pos slash,begins,rest,if_pos slash]
    by_cases same : others = []
    · rw [if_pos (equal.mpr same)]
      constructor
      · intro impossible
        cases impossible
      · rintro ⟨names,nonempty,whole,_⟩
        rw [same,List.nil_append] at whole
        exact absurd whole.symm nonempty
    · rw [if_neg (mt equal.mp same),if_neg (by simp),if_neg (filled same clean')]
      constructor
      · intro found
        exact ⟨others,same,rfl,(Option.some.inj found).symm⟩
      · rintro ⟨names,_,rfl,rfl⟩
        rfl
  · have deep : joinSegments root ≠ ['/'] := mt (joinSegments_root clean).mp top
    dsimp only
    rw [if_neg deep,if_neg deep]
    by_cases inside : (joinSegments root ++ ['/']).isPrefixOf (joinSegments others) = true
    · obtain ⟨rest,whole⟩ := List.isPrefixOf_iff_prefix.mp inside
      have split := whole
      rw [List.append_assoc,List.singleton_append] at split
      obtain ⟨names,nonempty,found,text⟩ := (joinSegments_below clean clean' top).mp split.symm
      have apart : others ≠ root := by
        intro same
        rw [same] at found
        exact nonempty (List.append_cancel_left ((List.append_nil root).trans found)).symm
      have cleanNames : ∀ segment ∈ names, Clean segment := fun segment member =>
        clean' segment (found ▸ List.mem_append_right root member)
      have dropped : (joinSegments others).drop (joinSegments root ++ ['/']).length = ['/'].intercalate names := by
        rw [← whole,List.drop_left,text]
      rw [if_neg (mt equal.mp apart),inside,if_neg (by simp),dropped,if_neg (filled nonempty cleanNames)]
      constructor
      · intro same
        exact ⟨names,nonempty,found,(Option.some.inj same).symm⟩
      · rintro ⟨other,_,whole',rfl⟩
        rw [found] at whole'
        rw [List.append_cancel_left whole']
    · have outside : (joinSegments root ++ ['/']).isPrefixOf (joinSegments others) = false := Bool.eq_false_iff.mpr inside
      constructor
      · intro impossible
        split at impossible
        · cases impossible
        · rw [outside,Bool.not_false,if_pos rfl] at impossible
          cases impossible
      · rintro ⟨names,nonempty,found,_⟩
        have whole := (joinSegments_below clean clean' top).mpr ⟨names,nonempty,found,rfl⟩
        exfalso
        apply inside
        rw [whole]
        exact List.isPrefixOf_iff_prefix.mpr ⟨['/'].intercalate names,by rw [List.append_assoc]; rfl⟩

theorem relativePath_iff {activeRoot : Option String} {inputPath : String} {relativePath : List Char} :
    (resolveTrackedPathInput activeRoot inputPath).relativePath = some relativePath ↔
      ∃ root names, activeRoot = some root ∧ Accepts root inputPath names ∧ relativePath = ['/'].intercalate names := by
  constructor
  · intro resolved
    unfold resolveTrackedPathInput at resolved
    dsimp only at resolved
    split at resolved
    · cases resolved
    · rename_i given
      split at resolved
      · cases resolved
      · rename_i level
        split at resolved
        · cases resolved
        · rename_i root chosen
          obtain ⟨same,rooted⟩ := Option.filter_eq_some_iff.mp chosen
          rw [absolutePath_eq,normalizeAbsolute_eq] at resolved
          obtain ⟨names,below,found,text⟩ := (strictlyInside_iff (clean_normalizeSegments _) (clean_readTarget _ _)).mp resolved
          exact ⟨root,names,same,⟨given,Bool.eq_false_iff.mpr level,of_decide_eq_true rooted,below,found⟩,text⟩
  · rintro ⟨root,names,rfl,accepts,rfl⟩
    have chosen : (some root).filter (· ≠ "") = some root := Option.filter_some_pos (decide_eq_true accepts.rooted)
    unfold resolveTrackedPathInput
    dsimp only
    rw [if_neg accepts.given,if_neg (by simp [accepts.level]),chosen]
    dsimp only
    rw [absolutePath_eq,normalizeAbsolute_eq]
    exact (strictlyInside_iff (clean_normalizeSegments _) (clean_readTarget _ _)).mpr ⟨names,accepts.below,accepts.found,rfl⟩

theorem accepts_unique {root inputPath : String} {names others : List (List Char)} (accepts : Accepts root inputPath names)
    (also : Accepts root inputPath others) : names = others :=
  List.append_cancel_left (accepts.found.symm.trans also.found)

theorem clean_accepts {root inputPath : String} {names : List (List Char)} (accepts : Accepts root inputPath names) :
    ∀ segment ∈ names, Clean segment := fun segment member =>
  clean_readTarget _ _ segment (accepts.found ▸ List.mem_append_right _ member)

/-! Where a text leads by its names alone. -/

/-- Every `..` goes one name up. -/
def lexicalPlace (here : List (List Char)) (path : String) : Option (List (List Char)) :=
  if path = "" then none else some (walk (if isAbsolute path then [] else here) (steps path.toList))

/-- The names from the drive root down to the target of an input, which has one unless it goes up anywhere. -/
def Below (here : List (List Char)) (driveRoot inputPath : String) (names : List (List Char)) : Prop :=
  names ≠ [] ∧ containsParentDir (trimmed inputPath) = false ∧
    ∃ root, lexicalPlace here driveRoot = some root ∧ lexicalPlace root (trimmed inputPath) = some (root ++ names)

section
variable {here names : List (List Char)} {driveRoot inputPath : String}

theorem lexicalPlace_canonicalize {files : FileSystem} {path : String} {place : List (List Char)} (free : LinkFree files.tree)
    (reached : canonicalize files path = some place) : lexicalPlace files.here path = some place := by
  obtain ⟨⟨_,left⟩,leads,rfl⟩ := Option.map_eq_some_iff.mp reached
  unfold reach at leads
  unfold lexicalPlace
  split at leads
  · cases leads
  · rename_i nonempty
    rw [if_neg nonempty,(resolve_linkFree free leads).1]

theorem below_leads {files : FileSystem} {targetKind : PathTargetKind} {root : List (List Char)} (free : LinkFree files.tree)
    (leads : Leads (pathTree files) driveRoot inputPath targetKind root names) :
    Below files.here driveRoot inputPath names := by
  have rooted := leads.rooted
  have found := leads.found
  rw [pathTree_canonicalize] at rooted found
  refine ⟨leads.below,leads.level,root,lexicalPlace_canonicalize free rooted,?_⟩
  rw [candidate] at found
  by_cases absolute : isAbsolute (trimmed inputPath) = true
  · rw [if_pos absolute] at found
    have leads := lexicalPlace_canonicalize free found
    rw [lexicalPlace,if_pos absolute] at leads ⊢
    exact leads
  · rw [if_neg absolute,canonicalize,
      reach_join (reach_rendered (standing_canonicalize rooted)) (Bool.eq_false_iff.mpr absolute)] at found
    obtain ⟨⟨_,left⟩,reached,rfl⟩ := Option.map_eq_some_iff.mp found
    rw [lexicalPlace,if_neg leads.given,if_neg absolute]
    exact congrArg some (resolve_linkFree free reached).1.symm

/-! A tree in which an input leads to its lexical target. -/

theorem ordinary_step {name text : List Char} (noSlash : '/' ∉ text) (named : PathResolution.step text = .name name) :
    Ordinary name := by
  unfold PathResolution.step at named
  split at named
  · cases named
  · rename_i plain
    split at named
    · cases named
    · rename_i level
      cases named
      exact ⟨fun empty => plain (.inl empty),noSlash,fun dot => plain (.inr dot),level⟩

theorem ordinary_walk {parts : List (Paths.Part (List Char))} (start : ∀ name ∈ here, Ordinary name)
    (named : ∀ name, Paths.Part.name name ∈ parts → Ordinary name) : ∀ name ∈ walk here parts, Ordinary name := by
  induction parts generalizing here with
  | nil => exact start
  | cons part parts ih =>
    apply ih
    · cases part with
      | current => exact start
      | parent => exact fun name member => start name (List.mem_of_mem_dropLast member)
      | name text =>
        intro name member
        rcases List.mem_append.mp member with above | last
        · exact start name above
        · rw [List.mem_singleton.mp last]
          exact named text List.mem_cons_self
    · exact fun name member => named name (List.mem_cons_of_mem _ member)

theorem ordinary_steps {path name : List Char} (member : Paths.Part.name name ∈ steps path) : Ordinary name := by
  obtain ⟨text,component,named⟩ := List.mem_map.mp member
  exact ordinary_step (no_slash_of_mem_splitOn component) named

/-- The places on the way along a path. -/
def stops (here : List (List Char)) (path : List Char) : List (List (List Char)) :=
  (List.range ((steps path).length + 1)).map fun count => walk here ((steps path).take count)

theorem walk_take_mem (here : List (List Char)) (path : List Char) (count : Nat) :
    walk here ((steps path).take count) ∈ stops here path := by
  rw [List.take_eq_take_min]
  exact List.mem_map.mpr ⟨_,List.mem_range.mpr (Nat.lt_succ_of_le (Nat.min_le_right _ _)),rfl⟩

theorem ordinary_stops {path : List Char} (start : ∀ name ∈ here, Ordinary name) :
    ∀ place ∈ stops here path, ∀ name ∈ place, Ordinary name := by
  intro place member
  obtain ⟨count,_,rfl⟩ := List.mem_map.mp member
  exact ordinary_walk start fun name listed => ordinary_steps (List.mem_of_mem_take listed)

/-- The working directory and the stops of two paths, and nothing else. -/
def bothPaths (here start next : List (List Char)) (path more : List Char) (ordinary : ∀ name ∈ here, Ordinary name)
    (ordinary' : ∀ name ∈ start, Ordinary name) (ordinary'' : ∀ name ∈ next, Ordinary name) : FileSystem where
  tree := directories (here::(stops start path ++ stops next more))
  ordinary := by
    intro names found there
    rcases (directories_entry there).2 with rfl | ⟨place,listed,above⟩
    · simp
    · intro name member
      have lower := above.subset member
      rcases List.mem_cons.mp listed with rfl | stop
      · exact ordinary name lower
      · rcases List.mem_append.mp stop with first | second
        · exact ordinary_stops ordinary' place first name lower
        · exact ordinary_stops ordinary'' place second name lower
  here := here
  directory := directories_isDirectory List.mem_cons_self

section
variable {start next : List (List Char)} {path more : List Char} {ordinary : ∀ name ∈ here, Ordinary name}
  {ordinary' : ∀ name ∈ start, Ordinary name} {ordinary'' : ∀ name ∈ next, Ordinary name}

theorem bothPaths_first : resolve (bothPaths here start next path more ordinary ordinary' ordinary'').tree maxLinks start
    (steps path) = some (walk start (steps path),maxLinks) :=
  resolve_through fun count => directories_isDirectory
    (List.mem_cons_of_mem _ (List.mem_append_left _ (walk_take_mem start path count)))

theorem bothPaths_second : resolve (bothPaths here start next path more ordinary ordinary' ordinary'').tree maxLinks next
    (steps more) = some (walk next (steps more),maxLinks) :=
  resolve_through fun count => directories_isDirectory
    (List.mem_cons_of_mem _ (List.mem_append_right _ (walk_take_mem next more count)))

theorem bothPaths_target :
    (bothPaths here start next path more ordinary ordinary' ordinary'').tree.isDirectory (walk next (steps more)) = true := by
  have last := walk_take_mem next more (steps more).length
  rw [List.take_length] at last
  exact directories_isDirectory (List.mem_cons_of_mem _ (List.mem_append_right _ last))

end

theorem leads_somewhere (ordinary : ∀ name ∈ here, Ordinary name) (below : Below here driveRoot inputPath names) :
    ∃ files : FileSystem, files.here = here ∧ LinkFree files.tree ∧
      ∃ root, Leads (pathTree files) driveRoot inputPath .directory root names := by
  obtain ⟨filled,level,root,rooted,leads⟩ := below
  unfold lexicalPlace at rooted leads
  split at rooted
  · cases rooted
  · rename_i nonempty
    split at leads
    · cases leads
    · rename_i given
      let start := if isAbsolute driveRoot then [] else here
      let next := if isAbsolute (trimmed inputPath) then [] else root
      have first : ∀ name ∈ start, Ordinary name := by
        intro name member
        simp only [start] at member
        split at member
        · cases member
        · exact ordinary name member
      have whole : walk start (steps driveRoot.toList) = root := Option.some.inj rooted
      have rootOrdinary : ∀ name ∈ root, Ordinary name :=
        whole ▸ ordinary_walk first fun name listed => ordinary_steps listed
      have second : ∀ name ∈ next, Ordinary name := by
        intro name member
        simp only [next] at member
        split at member
        · cases member
        · exact rootOrdinary name member
      let files := bothPaths here start next driveRoot.toList (trimmed inputPath).toList ordinary first second
      have target : walk next (steps (trimmed inputPath).toList) = root ++ names := Option.some.inj leads
      have toRoot : resolve files.tree maxLinks start (steps driveRoot.toList) = some (root,maxLinks) := by
        rw [← whole]
        exact bothPaths_first
      have toTarget : resolve files.tree maxLinks next (steps (trimmed inputPath).toList) = some (root ++ names,maxLinks) := by
        rw [← target]
        exact bothPaths_second
      have rooted : canonicalize files driveRoot = some root := by
        rw [canonicalize,reach,if_neg nonempty]
        exact congrArg (Option.map Prod.fst) toRoot
      refine ⟨files,rfl,directories_linkFree,root,given,level,rooted,?_,filled,?_⟩
      · rw [pathTree_canonicalize,candidate]
        simp only [next] at toTarget
        split
        · rename_i absolute
          rw [if_pos absolute] at toTarget
          rw [canonicalize,reach,if_neg given,if_pos absolute,toTarget]
          rfl
        · rename_i relative
          rw [if_neg relative] at toTarget
          rw [canonicalize,reach_join (reach_rendered (standing_canonicalize rooted)) (Bool.eq_false_iff.mpr relative),
            toTarget]
          rfl
      · have directory : files.tree.isDirectory (root ++ names) = true := by
          rw [← target]
          exact bothPaths_target
        exact if_pos directory

end

/-! Both sides. -/

/-- The browser accepts what lies below the root, and under the path that the server answers. -/
def Alike (driveRoot inputPath : String) : Prop :=
  ∀ files : FileSystem, LinkFree files.tree →
    ((resolveTrackedPathInput (some driveRoot) inputPath).relativePath.isSome = true ↔
        ∃ names, Below files.here driveRoot inputPath names) ∧
      ∀ targetKind relativePath, resolvePathWithinDriveRoot (pathTree files) driveRoot inputPath targetKind = .ok relativePath →
        (resolveTrackedPathInput (some driveRoot) inputPath).relativePath = some relativePath.toList

section
variable {here names : List (List Char)} {driveRoot inputPath : String}

theorem relativePath_accepts {relativePath : List Char} :
    (resolveTrackedPathInput (some driveRoot) inputPath).relativePath = some relativePath ↔
      ∃ names, Accepts driveRoot inputPath names ∧ relativePath = ['/'].intercalate names := by
  rw [relativePath_iff]
  constructor
  · rintro ⟨root,names,same,accepts,text⟩
    cases same
    exact ⟨names,accepts,text⟩
  · rintro ⟨names,accepts,text⟩
    exact ⟨driveRoot,names,rfl,accepts,text⟩

theorem accepted_iff : (resolveTrackedPathInput (some driveRoot) inputPath).relativePath.isSome = true ↔
    ∃ names, Accepts driveRoot inputPath names := by
  rw [Option.isSome_iff_exists]
  constructor
  · rintro ⟨relativePath,resolved⟩
    obtain ⟨names,accepts,_⟩ := relativePath_accepts.mp resolved
    exact ⟨names,accepts⟩
  · rintro ⟨names,accepts⟩
    exact ⟨_,relativePath_accepts.mpr ⟨names,accepts,rfl⟩⟩

theorem accepts_of_below (alike : Alike driveRoot inputPath) (ordinary : ∀ name ∈ here, Ordinary name)
    (below : Below here driveRoot inputPath names) : Accepts driveRoot inputPath names := by
  obtain ⟨files,rfl,free,root,leads⟩ := leads_somewhere ordinary below
  have answered : resolvePathWithinDriveRoot (pathTree files) driveRoot inputPath .directory = .ok (relativeText names) :=
    resolve_ok_iff.mpr ⟨root,names,leads,rfl⟩
  obtain ⟨others,accepts,text⟩ := relativePath_accepts.mp ((alike files free).2 .directory _ answered)
  have found := leads.found
  rw [pathTree_canonicalize] at found
  have plain : ∀ name ∈ names, '/' ∉ name := fun name member =>
    (ordinary_standing (standing_canonicalize found) name (List.mem_append_right _ member)).2.1
  rw [relativeText,String.toList_ofList] at text
  have same : names = others := by
    rw [← List.splitOn_intercalate '/' plain leads.below,text,splitOn_clean accepts.below (clean_accepts accepts)]
  rwa [same]

theorem alike_iff_accepts (driveRoot inputPath : String) : Alike driveRoot inputPath ↔
    ∀ here, (∀ name ∈ here, Ordinary name) →
      ∀ names, Accepts driveRoot inputPath names ↔ Below here driveRoot inputPath names := by
  constructor
  · intro alike here ordinary names
    constructor
    · intro accepts
      let files : FileSystem := bothPaths here [] [] [] [] ordinary (by simp) (by simp)
      obtain ⟨others,below⟩ := (alike files directories_linkFree).1.mp (accepted_iff.mpr ⟨names,accepts⟩)
      rw [accepts_unique accepts (accepts_of_below alike ordinary below)]
      exact below
    · exact accepts_of_below alike ordinary
  · intro same files free
    have ordinary : ∀ name ∈ files.here, Ordinary name := ordinary_standing (standing_directory files.directory)
    refine ⟨?_,?_⟩
    · rw [accepted_iff]
      exact exists_congr (same files.here ordinary)
    · intro targetKind relativePath ok
      obtain ⟨root,names,leads,rfl⟩ := resolve_ok_iff.mp ok
      exact relativePath_accepts.mpr ⟨names,(same files.here ordinary names).mpr (below_leads free leads),
        String.toList_ofList⟩

/-! The names of a text, and what the trimming makes of them. -/

def namesOf (path : List Char) : List (List Char) :=
  (path.splitOn '/').filter (fun segment => segment ≠ [] ∧ segment ≠ ['.'])

theorem mem_namesOf {path name : List Char} (member : name ∈ namesOf path) :
    name ∈ path.splitOn '/' ∧ name ≠ [] ∧ name ≠ ['.'] := by
  obtain ⟨listed,kept⟩ := List.mem_filter.mp member
  exact ⟨listed,of_decide_eq_true kept⟩

theorem normalizeSegments_eq (path : List Char) :
    normalizeSegments path = ((namesOf path).map jsTrim).filter (fun segment => segment ≠ [] ∧ segment ≠ ['.']) := by
  rw [normalizeSegments,namesOf]
  induction path.splitOn '/' with
  | nil => rfl
  | cons segment segments ih =>
    by_cases name : segment ≠ [] ∧ segment ≠ ['.']
    · rw [List.filter_cons_of_pos (by simpa using name),List.map_cons,List.map_cons,List.filter_cons,List.filter_cons,ih]
    · have dropped : ¬(jsTrim segment ≠ [] ∧ jsTrim segment ≠ ['.']) := by
        rcases not_and_or.mp name with empty | dot
        · rw [not_not.mp empty]
          exact fun both => both.1 rfl
        · rw [not_not.mp dot]
          exact fun both => both.2 (by decide)
      rw [List.filter_cons_of_neg (by simpa using name),List.map_cons,List.filter_cons_of_neg (by simpa using dropped),ih]

theorem hasParentDirSegment_false {path : List Char} (level : ∀ name ∈ namesOf path, jsTrim name ≠ ['.','.']) :
    hasParentDirSegment path = false := by
  rw [hasParentDirSegment,List.any_eq_false]
  intro segment listed same
  obtain ⟨whole,part,rfl⟩ := List.mem_map.mp listed
  rw [beq_iff_eq] at same
  refine level whole (List.mem_filter.mpr ⟨part,decide_eq_true ⟨?_,?_⟩⟩) same
  · rintro rfl
    cases same
  · rintro rfl
    exact absurd same (by decide)

theorem mem_of_containsParentDir {path : String} (level : containsParentDir path = false) :
    ['.','.'] ∉ path.toList.splitOn '/' := by
  intro member
  rw [containsParentDir,List.any_eq_false] at level
  exact level ['.','.'] (List.mem_filter.mpr ⟨member,rfl⟩) (by simp)

/-- The walk along a path that never goes up. -/
theorem walk_level {path : List Char} (level : ['.','.'] ∉ path.splitOn '/') : walk here (steps path) = here ++ namesOf path := by
  have walked {segments : List (List Char)} (level : ['.','.'] ∉ segments) (here : List (List Char)) :
      walk here (segments.map PathResolution.step) =
        here ++ segments.filter (fun segment => segment ≠ [] ∧ segment ≠ ['.']) := by
    induction segments generalizing here with
    | nil => exact (List.append_nil here).symm
    | cons segment segments ih =>
      have apart : segment ≠ ['.','.'] := fun same => level (same ▸ List.mem_cons_self)
      have rest := ih fun member => level (List.mem_cons_of_mem _ member)
      rw [List.map_cons,walk,List.foldl_cons]
      by_cases plain : segment = [] ∨ segment = ['.']
      · rw [List.filter_cons_of_neg (by simpa using not_and_or.mpr (plain.imp not_not.mpr not_not.mpr)),← rest here,
          PathResolution.step,if_pos plain]
        rfl
      · rw [List.filter_cons_of_pos (by simpa using not_or.mp plain),PathResolution.step,if_neg plain,if_neg apart]
        change walk (here ++ [segment]) _ = _
        rw [rest,List.append_assoc,List.singleton_append]
  exact walked level here

theorem below_namesOf (below : Below here driveRoot inputPath names) : ∃ root, lexicalPlace here driveRoot = some root ∧
    namesOf (trim inputPath.toList) = (if isAbsolute (trimmed inputPath) then root else []) ++ names := by
  obtain ⟨_,level,root,rooted,leads⟩ := below
  refine ⟨root,rooted,?_⟩
  have text : (trimmed inputPath).toList = trim inputPath.toList := by rw [trimmed,String.toList_ofList]
  unfold lexicalPlace at leads
  split at leads
  · cases leads
  · rw [walk_level (mem_of_containsParentDir level),text,Option.some.injEq] at leads
    split at leads
    · rename_i absolute
      rw [if_pos absolute]
      exact leads
    · rename_i relative
      rw [if_neg relative]
      exact List.append_cancel_left leads

/-- A drive root that never goes up is its own names, below the working directory if it is relative. -/
theorem lexicalPlace_level {root : List (List Char)} (rooted : lexicalPlace here driveRoot = some root)
    (level : ['.','.'] ∉ driveRoot.toList.splitOn '/') :
    root = (if isAbsolute driveRoot then [] else here) ++ namesOf driveRoot.toList := by
  unfold lexicalPlace at rooted
  split at rooted
  · cases rooted
  · rw [walk_level level] at rooted
    exact (Option.some.inj rooted).symm

/-- The root of an input that the browser accepts from the top never goes up, not even when it is trimmed. -/
theorem level_root (accepts : Accepts driveRoot inputPath names)
    (absolute : isAbsoluteFilesystemPath (jsTrim inputPath.toList) = true) :
    ∀ name ∈ namesOf driveRoot.toList, jsTrim name ≠ ['.','.'] := by
  intro name member same
  have found := accepts.found
  rw [readTarget,if_pos absolute] at found
  have up : ['.','.'] ∈ normalizeSegments (jsTrim inputPath.toList) := by
    rw [found,normalizeSegments_eq]
    exact List.mem_append_left _ (List.mem_filter.mpr ⟨same ▸ List.mem_map_of_mem member,rfl⟩)
  have listed := (List.mem_filter.mp up).1
  have level := accepts.level
  rw [hasParentDirSegment,List.any_eq_false] at level
  exact level _ listed rfl

/-! The two notions of white space. -/

/-- White space that only the server trims. -/
def foreign (c : Char) : Bool := isWhitespace c && !isJsWhitespace c

def weight (segments : List (List Char)) : Nat := segments.flatten.countP foreign

theorem weight_append (segments others : List (List Char)) : weight (segments ++ others) = weight segments + weight others := by
  simp [weight]

theorem weight_cons (segment : List Char) (segments : List (List Char)) :
    weight (segment::segments) = segment.countP foreign + weight segments := by
  simp [weight]

theorem countP_jsTrim (text : List Char) : (jsTrim text).countP foreign = text.countP foreign := by
  have kept {text : List Char} : (text.dropWhile isJsWhitespace).countP foreign = text.countP foreign := by
    have whole := List.takeWhile_append_dropWhile (p := isJsWhitespace) (l := text)
    have none : (text.takeWhile isJsWhitespace).countP foreign = 0 := by
      rw [List.countP_eq_zero]
      intro c member
      simp [foreign,List.mem_takeWhile_imp member]
    have split := congrArg (List.countP foreign) whole
    rw [List.countP_append,none,Nat.zero_add] at split
    exact split
  rw [jsTrim,List.rdropWhile,List.countP_reverse,kept,List.countP_reverse,kept]

theorem weight_filter (segments : List (List Char)) :
    weight (segments.filter (fun segment => segment ≠ [] ∧ segment ≠ ['.'])) = weight segments := by
  induction segments with
  | nil => rfl
  | cons segment segments ih =>
    by_cases name : segment ≠ [] ∧ segment ≠ ['.']
    · rw [List.filter_cons_of_pos (by simpa using name),weight_cons,weight_cons,ih]
    · have none : segment.countP foreign = 0 := by
        rcases not_and_or.mp name with empty | dot
        · rw [not_not.mp empty]
          rfl
        · rw [not_not.mp dot]
          decide
      rw [List.filter_cons_of_neg (by simpa using name),ih,weight_cons,none,Nat.zero_add]

theorem weight_splitOn (text : List Char) : weight (text.splitOn '/') = text.countP foreign := by
  induction text with
  | nil => rfl
  | cons c text ih =>
    rw [List.splitOn_cons_eq_if_modifyHead,List.countP_cons]
    by_cases slash : c = '/'
    · subst slash
      rw [if_pos (by rfl),if_neg (by decide),weight_cons,ih]
      exact Nat.zero_add _
    · rw [if_neg (by simpa using slash),← ih]
      cases parts : text.splitOn '/' with
      | nil => exact absurd parts (List.splitOn_ne_nil _ _)
      | cons first rest =>
        rw [List.modifyHead_cons,weight_cons,weight_cons,List.countP_cons]
        omega

theorem weight_namesOf (text : List Char) : weight (namesOf text) = text.countP foreign := by
  rw [namesOf,weight_filter,weight_splitOn]

theorem weight_normalizeSegments (text : List Char) : weight (normalizeSegments text) = text.countP foreign := by
  rw [normalizeSegments,weight_filter,← weight_splitOn]
  induction text.splitOn '/' with
  | nil => rfl
  | cons segment segments ih => rw [List.map_cons,weight_cons,weight_cons,countP_jsTrim,ih]

theorem jsTrim_eq_trim {text : List Char} (kept : jsTrim (trim text) = trim text) (nonempty : trim text ≠ [])
    (weighs : text.countP foreign ≤ (trim text).countP foreign) : jsTrim text = trim text := by
  have ends : ∃ front back, text = front ++ trim text ++ back ∧ (∀ c ∈ front, isWhitespace c = true) ∧
      ∀ c ∈ back, isWhitespace c = true := by
    refine ⟨text.takeWhile isWhitespace,(text.dropWhile isWhitespace).rtakeWhile isWhitespace,?_,
      fun _ => List.mem_takeWhile_imp,fun _ => List.mem_rtakeWhile_imp⟩
    have back : trim text ++ (text.dropWhile isWhitespace).rtakeWhile isWhitespace = text.dropWhile isWhitespace :=
      List.rdropWhile_append_rtakeWhile
    rw [List.append_assoc,back,List.takeWhile_append_dropWhile]
  obtain ⟨front,back,whole,first,last⟩ := ends
  have none : front.countP foreign = 0 ∧ back.countP foreign = 0 := by
    have counts := congrArg (List.countP foreign) whole
    rw [List.countP_append,List.countP_append] at counts
    omega
  have blank {part : List Char} (white : ∀ c ∈ part, isWhitespace c = true) (own : part.countP foreign = 0) :
      ∀ c ∈ part, isJsWhitespace c = true := by
    intro c member
    have other := List.countP_eq_zero.mp own c member
    rw [foreign,white c member,Bool.true_and,Bool.not_eq_true',Bool.not_eq_false] at other
    exact other
  have stripped : (trim text).dropWhile isJsWhitespace = trim text := by
    rw [← kept]
    exact dropWhile_rdropWhile_dropWhile isJsWhitespace _
  have head : (trim text ++ back).dropWhile isJsWhitespace = trim text ++ back := by
    rw [List.dropWhile_append,stripped]
    simp [nonempty]
  have tail : (trim text).rdropWhile isJsWhitespace = trim text := by
    rw [jsTrim,stripped] at kept
    exact kept
  have dropped : (trim text ++ back).rdropWhile isJsWhitespace = (trim text).rdropWhile isJsWhitespace := by
    rw [List.rdropWhile,List.reverse_append,List.dropWhile_append_of_pos]
    · rfl
    · exact fun c member => blank last none.2 c (List.mem_reverse.mp member)
  have split : text = front ++ (trim text ++ back) := by rw [← List.append_assoc]; exact whole
  calc jsTrim text = jsTrim (front ++ (trim text ++ back)) := congrArg jsTrim split
    _ = trim text := by rw [jsTrim,List.dropWhile_append_of_pos (blank first none.1),head,dropped,tail]

theorem head_of_jsTrim {c : Char} {text : List Char} (kept : jsTrim (c::text) = c::text) : isJsWhitespace c = false := by
  have front : (jsTrim (c::text)).dropWhile isJsWhitespace = jsTrim (c::text) := dropWhile_rdropWhile_dropWhile isJsWhitespace _
  rw [kept] at front
  by_contra white
  rw [List.dropWhile_cons_of_pos (by simpa using white)] at front
  have shorter := (List.dropWhile_suffix (l := text) isJsWhitespace).length_le
  rw [front,List.length_cons] at shorter
  omega

theorem last_of_jsTrim {c : Char} {text : List Char} (kept : jsTrim (text ++ [c]) = text ++ [c]) : isJsWhitespace c = false := by
  have back : (jsTrim (text ++ [c])).rdropWhile isJsWhitespace = jsTrim (text ++ [c]) := List.rdropWhile_idempotent _ _
  rw [kept] at back
  by_contra white
  rw [List.rdropWhile_concat_pos _ _ _ (by simpa using white)] at back
  have shorter := (List.rdropWhile_prefix isJsWhitespace text).length_le
  rw [back,List.length_append] at shorter
  exact absurd shorter (by simp)

theorem jsTrim_eq_self {text : List Char} (head : ∀ c rest, text = c::rest → isJsWhitespace c = false)
    (last : ∀ rest c, text = rest ++ [c] → isJsWhitespace c = false) : jsTrim text = text := by
  have front : text.dropWhile isJsWhitespace = text := by
    cases text with
    | nil => rfl
    | cons c rest => exact List.dropWhile_cons_of_neg (by simp [head c rest rfl])
  rw [jsTrim,front]
  cases text using List.reverseRecOn with
  | nil => rfl
  | append_singleton rest c => exact List.rdropWhile_concat_neg _ _ _ (by simp [last rest c rfl])

theorem splitOn_concat {c : Char} (other : c ≠ '/') (text : List Char) :
    ∃ front segment, (text ++ [c]).splitOn '/' = front ++ [segment ++ [c]] := by
  induction text with
  | nil => exact ⟨[],[],List.splitOn_eq_singleton (by simpa using other.symm)⟩
  | cons d text ih =>
    obtain ⟨front,segment,split⟩ := ih
    rw [List.cons_append,List.splitOn_cons_eq_if_modifyHead,split]
    split
    · exact ⟨[]::front,segment,rfl⟩
    · cases front with
      | nil => exact ⟨[],d::segment,rfl⟩
      | cons first front => exact ⟨(d::first)::front,segment,rfl⟩

theorem blank_name {c : Char} (white : isJsWhitespace c = true) : c ≠ '/' ∧ c ≠ '.' := by
  constructor
  · rintro rfl
    exact absurd white (by decide)
  · rintro rfl
    exact absurd white (by decide)

theorem dropWhile_slash {text rest others : List Char} {c : Char} (slash : text.dropWhile isJsWhitespace = '/'::rest)
    (server : text.dropWhile isWhitespace = c::others) (plain : isJsWhitespace c = false) : c = '/' := by
  induction text with
  | nil => cases slash
  | cons d text ih =>
    by_cases white : isJsWhitespace d = true
    · rw [List.dropWhile_cons_of_pos white] at slash
      by_cases also : isWhitespace d = true
      · rw [List.dropWhile_cons_of_pos also] at server
        exact ih slash server
      · rw [List.dropWhile_cons_of_neg also] at server
        obtain ⟨rfl,_⟩ := List.cons.inj server
        rw [plain] at white
        cases white
    · rw [List.dropWhile_cons_of_neg white] at slash
      obtain ⟨rfl,_⟩ := List.cons.inj slash
      rw [List.dropWhile_cons_of_neg (by decide)] at server
      exact (List.cons.inj server).1.symm

theorem head_of_prefix {front text : List Char} {c : Char} {rest : List Char} (begins : front <+: text)
    (head : front = c::rest) : ∃ more, text = c::more := by
  obtain ⟨tail,rfl⟩ := begins
  exact ⟨rest ++ tail,by rw [head]; rfl⟩

/-! Where the browser reads the names below the root. -/

section
variable (accepts : Accepts driveRoot inputPath names) (below : Below here driveRoot inputPath names)
include accepts below

theorem jsTrim_trim : jsTrim (trim inputPath.toList) = trim inputPath.toList := by
  obtain ⟨root,_,parts⟩ := below_namesOf below
  have clean := clean_accepts accepts
  apply jsTrim_eq_self
  · intro c rest text
    by_contra white
    rw [Bool.not_eq_false] at white
    have relative : ¬isAbsolute (trimmed inputPath) = true := by
      rw [isAbsolute,trimmed,String.toList_ofList,text]
      simpa using (blank_name white).1
    rw [if_neg relative,List.nil_append,text] at parts
    obtain ⟨first,others,split⟩ := List.exists_cons_of_ne_nil (List.splitOn_ne_nil '/' rest)
    have listed : c::first ∈ namesOf (c::rest) := by
      refine List.mem_filter.mpr ⟨?_,by simp [(blank_name white).2]⟩
      rw [List.splitOn_cons_eq_if_modifyHead,if_neg (by simpa using (blank_name white).1),split]
      exact List.mem_cons_self
    rw [parts] at listed
    rw [head_of_jsTrim (clean _ listed).trimmed] at white
    cases white
  · intro rest c text
    by_contra white
    rw [Bool.not_eq_false] at white
    obtain ⟨front,segment,split⟩ := splitOn_concat (blank_name white).1 rest
    have last : namesOf (rest ++ [c]) =
        front.filter (fun segment => segment ≠ [] ∧ segment ≠ ['.']) ++ [segment ++ [c]] := by
      have name : segment ++ [c] ≠ [] ∧ segment ++ [c] ≠ ['.'] := by
        refine ⟨by simp,fun dot => (blank_name white).2 ?_⟩
        exact (List.append_inj' (dot.trans (List.nil_append _).symm) rfl).2 |> List.singleton_inj.mp
      rw [namesOf,split,List.filter_append,List.filter_cons_of_pos (by simpa using name),List.filter_nil]
    obtain ⟨before,final,rfl⟩ := (List.eq_nil_or_concat names).resolve_left below.1
    rw [text,last,List.concat_eq_append,← List.append_assoc] at parts
    have same := List.singleton_inj.mp (List.append_inj' parts rfl).2
    have kept := (clean final (by simp)).trimmed
    rw [← same] at kept
    rw [last_of_jsTrim kept] at white
    cases white

theorem absolute_of_jsTrim (absolute : isAbsoluteFilesystemPath (jsTrim inputPath.toList) = true) :
    isAbsolute (trimmed inputPath) = true := by
  have kept := jsTrim_trim accepts below
  rw [isAbsoluteFilesystemPath,jsTrim_idem,beq_iff_eq] at absolute
  obtain ⟨rest,slash⟩ := List.head?_eq_some_iff.mp absolute
  obtain ⟨more,front⟩ := head_of_prefix (List.rdropWhile_prefix isJsWhitespace _) slash
  rw [isAbsolute,trimmed,String.toList_ofList,beq_iff_eq]
  cases text : trim inputPath.toList with
  | nil =>
    obtain ⟨root,_,parts⟩ := below_namesOf below
    rw [text] at parts
    exact absurd (List.append_eq_nil_iff.mp parts.symm).2 below.1
  | cons c others =>
    obtain ⟨after,server⟩ := head_of_prefix (List.rdropWhile_prefix isWhitespace (inputPath.toList.dropWhile isWhitespace)) text
    rw [text] at kept
    rw [dropWhile_slash front server (head_of_jsTrim kept)]
    rfl

theorem trims_alike : jsTrim inputPath.toList = trim inputPath.toList := by
  obtain ⟨root,rooted,parts⟩ := below_namesOf below
  have nonempty : trim inputPath.toList ≠ [] := by
    intro empty
    rw [empty] at parts
    exact below.1 (List.append_eq_nil_iff.mp parts.symm).2
  apply jsTrim_eq_trim (jsTrim_trim accepts below) nonempty
  have found := accepts.found
  rw [← countP_jsTrim inputPath.toList,← weight_normalizeSegments,← weight_namesOf,parts,weight_append]
  by_cases absolute : isAbsoluteFilesystemPath (jsTrim inputPath.toList) = true
  · have up : ['.','.'] ∉ driveRoot.toList.splitOn '/' := by
      intro member
      exact level_root accepts absolute _ (List.mem_filter.mpr ⟨member,rfl⟩) (by decide)
    rw [readTarget,if_pos absolute] at found
    rw [found,weight_append,if_pos (absolute_of_jsTrim accepts below absolute),lexicalPlace_level rooted up,weight_append,
      weight_normalizeSegments,weight_namesOf]
    omega
  · rw [readTarget,if_neg absolute] at found
    rw [List.append_cancel_left found]
    omega

end

/-- The names as the browser has them, each trimmed, lie strictly below those of the drive root. -/
def TrimmedBelow (driveRoot inputPath : String) : Prop :=
  driveRoot ≠ "" ∧ hasParentDirSegment (jsTrim inputPath.toList) = false ∧
    if isAbsoluteFilesystemPath (jsTrim inputPath.toList) then
      normalizeSegments driveRoot.toList <+: normalizeSegments (jsTrim inputPath.toList) ∧
        normalizeSegments driveRoot.toList ≠ normalizeSegments (jsTrim inputPath.toList)
    else normalizeSegments (jsTrim inputPath.toList) ≠ []

/-- The ways in which the browser's trimming misreads an input, in a working directory. -/
inductive Misread (here : List (List Char)) (driveRoot inputPath : String) : Prop
  /-- It lies below the root, and the browser trims its ends otherwise than the server. -/
  | ends (names : List (List Char)) (below : Below here driveRoot inputPath names)
    (apart : jsTrim inputPath.toList ≠ trim inputPath.toList)
  /-- A name below the root begins or ends with white space. -/
  | name (names : List (List Char)) (below : Below here driveRoot inputPath names) (segment : List Char)
    (member : segment ∈ names) (blank : jsTrim segment ≠ segment)
  /-- It lies below the root from the top, and the root does not start there or goes up, if only when it is trimmed. -/
  | root (names : List (List Char)) (below : Below here driveRoot inputPath names)
    (absolute : isAbsolute (trimmed inputPath) = true)
    (up : isAbsolute driveRoot = false ∨ ∃ segment ∈ namesOf driveRoot.toList, jsTrim segment = ['.','.'])
  /-- It does not lie below the root, and the trimming moves it there. -/
  | moved (apart : ∀ names, ¬Below here driveRoot inputPath names) (inside : TrimmedBelow driveRoot inputPath)

theorem trimmedBelow_iff : TrimmedBelow driveRoot inputPath ↔ ∃ names, Accepts driveRoot inputPath names := by
  constructor
  · rintro ⟨rooted,level,inside⟩
    have given : jsTrim inputPath.toList ≠ [] := by
      intro empty
      rw [empty] at inside
      exact inside rfl
    split at inside
    · rename_i absolute
      obtain ⟨⟨names,whole⟩,apart⟩ := inside
      refine ⟨names,given,level,rooted,?_,?_⟩
      · rintro rfl
        exact apart (by rw [← whole,List.append_nil])
      · rw [readTarget,if_pos absolute,whole]
    · rename_i relative
      exact ⟨_,given,level,rooted,inside,by rw [readTarget,if_neg relative]⟩
  · rintro ⟨names,accepts⟩
    refine ⟨accepts.rooted,accepts.level,?_⟩
    have found := accepts.found
    split
    · rename_i absolute
      rw [readTarget,if_pos absolute] at found
      rw [found]
      refine ⟨List.prefix_append _ _,fun same => accepts.below ?_⟩
      exact List.append_cancel_left (same.symm.trans (List.append_nil _).symm)
    · rename_i relative
      rw [readTarget,if_neg relative] at found
      rw [List.append_cancel_left found]
      exact accepts.below

theorem accepts_of_plain (below : Below here driveRoot inputPath names) (plain : ¬Misread here driveRoot inputPath) :
    Accepts driveRoot inputPath names := by
  have same : jsTrim inputPath.toList = trim inputPath.toList := by
    by_contra apart
    exact plain (.ends names below apart)
  have kept : ∀ segment ∈ names, jsTrim segment = segment := by
    intro segment member
    by_contra blank
    exact plain (.name names below segment member blank)
  have settled (absolute : isAbsolute (trimmed inputPath) = true) : isAbsolute driveRoot = true ∧
      ∀ segment ∈ namesOf driveRoot.toList, jsTrim segment ≠ ['.','.'] := by
    constructor
    · by_contra relative
      exact plain (.root names below absolute (.inl (Bool.eq_false_iff.mpr relative)))
    · intro segment member up
      exact plain (.root names below absolute (.inr ⟨segment,member,up⟩))
  have top : isAbsoluteFilesystemPath (trim inputPath.toList) = isAbsolute (trimmed inputPath) := by
    rw [isAbsoluteFilesystemPath,← same,jsTrim_idem,isAbsolute,trimmed,String.toList_ofList,same]
  obtain ⟨root,rooted,parts⟩ := below_namesOf below
  have own : ∀ segment ∈ names, segment ∈ (trim inputPath.toList).splitOn '/' ∧ segment ≠ [] ∧ segment ≠ ['.'] :=
    fun segment member => mem_namesOf (parts ▸ List.mem_append_right _ member)
  have level : ∀ segment ∈ names, jsTrim segment ≠ ['.','.'] := by
    intro segment member up
    rw [kept segment member] at up
    have none := mem_of_containsParentDir below.2.1
    rw [trimmed,String.toList_ofList] at none
    exact none (up ▸ (own segment member).1)
  have read : (names.map jsTrim).filter (fun segment => segment ≠ [] ∧ segment ≠ ['.']) = names := by
    rw [List.map_congr_left kept,List.map_id',List.filter_eq_self]
    exact fun segment member => decide_eq_true (own segment member).2
  have nonempty : driveRoot ≠ "" := by
    rintro rfl
    cases rooted
  have whole : namesOf (trim inputPath.toList) =
      (if isAbsolute (trimmed inputPath) then namesOf driveRoot.toList else []) ++ names := by
    rw [parts]
    split
    · rename_i absolute
      obtain ⟨above,none⟩ := settled absolute
      have up : ['.','.'] ∉ driveRoot.toList.splitOn '/' := fun member =>
        none _ (List.mem_filter.mpr ⟨member,rfl⟩) (by decide)
      rw [lexicalPlace_level rooted up,if_pos above,List.nil_append]
    · rfl
  constructor
  · rw [same]
    intro empty
    rw [empty] at parts
    exact below.1 (List.append_eq_nil_iff.mp parts.symm).2
  · rw [same]
    apply hasParentDirSegment_false
    rw [whole]
    intro segment member
    rcases List.mem_append.mp member with above | under
    · split at above
      · rename_i absolute
        exact (settled absolute).2 segment above
      · cases above
    · exact level segment under
  · exact nonempty
  · exact below.1
  · rw [same,readTarget,top,normalizeSegments_eq (trim inputPath.toList),whole]
    split
    · rw [List.map_append,List.filter_append,read,← normalizeSegments_eq]
    · rw [List.nil_append,read]

theorem ordinary_indented : ∀ name ∈ [['r'],['d','o','c','s'],[' ','a']], Ordinary name := by
  decide

def indented : FileSystem := onlyFile [['r'],['d','o','c','s'],[' ','a']] ordinary_indented

theorem indented_resolves : resolvePathWithinDriveRoot (pathTree indented) "/r" "docs/ a" .file = .ok "docs/ a" := by
  decide +kernel

end

end BitProtector.PathInput
