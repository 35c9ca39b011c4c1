import BitProtector.MirrorFrames
import BitProtector.Foundation.FileTree

/-! What the resolution of a path below a drive root answers over a file system with links: the
real path of the target below the real root. That text goes through the trimming again when it
is resolved in turn. -/
namespace BitProtector.PathResolution
open Paths VirtualTree VirtualPath MirrorFrames FileTree

/-! Path texts in a file system. -/

/-- An empty component wants a directory, as a dot does. -/
def step (name : List Char) : Paths.Part (List Char) :=
  if name = [] ∨ name = ['.'] then .current else if name = ['.','.'] then .parent else .name name

def steps (path : List Char) : List (Paths.Part (List Char)) := (path.splitOn '/').map step

/-- A tree with the working directory of the process. -/
structure FileSystem where
  tree : FileTree.Tree (List Char)
  ordinary : ∀ names found, tree.entry names = some found → ∀ name ∈ names, Ordinary name
  here : List (List Char)
  directory : tree.isDirectory here = true

/-- The links that the system follows for one path. -/
def maxLinks : Nat := 40

@[irreducible] def reach (files : FileSystem) (path : String) : Option (List (List Char) × Nat) :=
  if path = "" then none
  else resolve files.tree maxLinks (if isAbsolute path then [] else files.here) (steps path.toList)

/-- `Path::canonicalize`. -/
def canonicalize (files : FileSystem) (path : String) : Option (List (List Char)) := (reach files path).map Prod.fst

theorem standing_start (files : FileSystem) (path : String) :
    Standing files.tree (if isAbsolute path then [] else files.here) := by
  split
  · exact standing_root
  · exact standing_directory files.directory

theorem standing_canonicalize {files : FileSystem} {path : String} {names : List (List Char)}
    (reached : canonicalize files path = some names) : Standing files.tree names := by
  obtain ⟨⟨place,left⟩,leads,rfl⟩ := Option.map_eq_some_iff.mp reached
  unfold reach at leads
  split at leads
  · cases leads
  · exact standing_resolve (standing_start files path) leads

theorem ordinary_standing {files : FileSystem} {names : List (List Char)} (standing : Standing files.tree names) :
    ∀ name ∈ names, Ordinary name := by
  obtain ⟨found,there,_⟩ := standing
  exact files.ordinary names found there

/-- The file system as the resolution sees it. -/
def pathTree (files : FileSystem) : PathTree where
  canonicalize := canonicalize files
  isFile names := files.tree.entry names == some .file
  isDir names := files.tree.isDirectory names
  ordinary _ _ reached := ordinary_standing (standing_canonicalize reached)

@[simp] theorem pathTree_canonicalize (files : FileSystem) (path : String) :
    (pathTree files).canonicalize path = canonicalize files path := rfl

/-! Joined paths. -/

theorem steps_append_slash (front back : List Char) : steps (front ++ '/'::back) = steps front ++ steps back := by
  rw [steps,List.splitOn_append_cons_self,List.map_append]
  rfl

theorem step_ordinary {name : List Char} (ordinary : Ordinary name) : step name = .name name := by
  rw [step,if_neg (not_or.mpr ⟨ordinary.1,ordinary.2.2.1⟩),if_neg ordinary.2.2.2]

theorem splitOn_names {names : List (List Char)} (nonempty : names ≠ []) (ordinary : ∀ name ∈ names, Ordinary name) :
    (['/'].intercalate names).splitOn '/' = names :=
  List.splitOn_intercalate '/' (fun name member => (ordinary name member).2.1) nonempty

theorem steps_names {names : List (List Char)} (nonempty : names ≠ []) (ordinary : ∀ name ∈ names, Ordinary name) :
    steps (['/'].intercalate names) = names.map .name := by
  rw [steps,splitOn_names nonempty ordinary]
  exact List.map_congr_left fun name member => step_ordinary (ordinary name member)

theorem reach_join {files : FileSystem} {root relativePath : String} {place : List (List Char)} {left : Nat}
    (rooted : reach files root = some (place,left)) (relative : isAbsolute relativePath = false) :
    reach files (join root relativePath) = resolve files.tree left place (steps relativePath.toList) := by
  unfold reach at rooted
  split at rooted
  · cases rooted
  · rename_i nonempty
    let start := if isAbsolute root then [] else files.here
    obtain ⟨front,leads,text⟩ : ∃ front, resolve files.tree maxLinks start (steps front) = some (place,left) ∧
        (join root relativePath).toList = front ++ '/'::relativePath.toList := by
      unfold join
      rw [if_neg (by simp [relative])]
      cases same : root.toList using List.reverseRecOn with
      | nil => exact absurd (String.toList_inj.mp same) nonempty
      | append_singleton front last =>
        rw [List.getLast?_concat,Option.all_some]
        by_cases slash : last = '/'
        · subst slash
          have split : steps root.toList = steps front ++ [.current] := by
            rw [same]
            exact steps_append_slash front []
          rw [split,resolve_append] at rooted
          obtain ⟨⟨before,some_⟩,leads,rest⟩ := Option.bind_eq_some_iff.mp rooted
          dsimp only at rest
          cases directory : files.tree.isDirectory before with
          | false =>
            rw [resolve_stuck directory] at rest
            cases rest
          | true =>
            rw [resolve_current directory,resolve_nil] at rest
            cases rest
            refine ⟨front,leads,?_⟩
            rw [beq_self_eq_true,if_pos rfl,String.toList_append,same,List.append_assoc]
            rfl
        · refine ⟨front ++ [last],by rwa [← same],?_⟩
          rw [if_neg (by simpa using slash),String.toList_append,String.toList_append,same,List.append_assoc]
          rfl
    have filled : join root relativePath ≠ "" := by
      intro empty
      rw [empty] at text
      simp at text
    rw [reach,if_neg filled,isAbsolute_join relative,text,steps_append_slash,resolve_append,leads,Option.bind_some]

theorem reach_rendered {files : FileSystem} {names : List (List Char)} (standing : Standing files.tree names) :
    reach files (rendered names) = some (names,maxLinks) := by
  have filled : rendered names ≠ "" := by
    intro empty
    have text := String.toList_inj.mpr empty
    rw [rendered,String.toList_ofList,joinSegments] at text
    cases text
  have absolute : isAbsolute (rendered names) = true := by
    rw [isAbsolute,rendered,String.toList_ofList,joinSegments]
    rfl
  have root : files.tree.isDirectory [] = true := FileTree.Tree.isDirectory_iff.mpr files.tree.root
  have split : steps (rendered names).toList = .current::steps (['/'].intercalate names) := by
    rw [rendered,String.toList_ofList,joinSegments]
    exact steps_append_slash [] _
  rw [reach,if_neg filled,if_pos absolute,split,resolve_current root]
  by_cases empty : names = []
  · subst empty
    have last : steps (['/'].intercalate ([] : List (List Char))) = [.current] := rfl
    rw [last,resolve_current root,resolve_nil]
  · rw [steps_names empty (ordinary_standing standing)]
    have leads : resolve files.tree maxLinks [] (names.map .name) = some ([] ++ names,maxLinks) := resolve_names standing
    rwa [List.nil_append] at leads

/-! What is accepted. -/

/-- The text that is resolved for a trimmed input. -/
def candidate (root : List (List Char)) (trimmed : String) : String :=
  if isAbsolute trimmed then trimmed else join (rendered root) trimmed

def trimmed (inputPath : String) : String := String.ofList (trim inputPath.toList)

def relativeText (names : List (List Char)) : String := String.ofList (['/'].intercalate names)

/-- An input leads below the root by these names, to a target of the kind. -/
structure Leads (tree : PathTree) (driveRoot inputPath : String) (targetKind : PathTargetKind)
    (root names : List (List Char)) : Prop where
  given : trimmed inputPath ≠ ""
  level : containsParentDir (trimmed inputPath) = false
  rooted : tree.canonicalize driveRoot = some root
  found : tree.canonicalize (candidate root (trimmed inputPath)) = some (root ++ names)
  below : names ≠ []
  kind : checkTargetKind tree (root ++ names) targetKind = .ok ()

theorem resolve_ok_iff {tree : PathTree} {driveRoot inputPath relativePath : String} {targetKind : PathTargetKind} :
    resolvePathWithinDriveRoot tree driveRoot inputPath targetKind = .ok relativePath ↔
      ∃ root names, Leads tree driveRoot inputPath targetKind root names ∧ relativePath = relativeText names := by
  constructor
  · intro ok
    unfold resolvePathWithinDriveRoot at ok
    dsimp only at ok
    split at ok
    · cases ok
    · rename_i given
      split at ok
      · cases ok
      · rename_i level
        obtain ⟨root,rooted,looks⟩ := except_bind_success ok
        obtain ⟨canonical,found,strips⟩ := except_bind_success looks
        obtain ⟨names,stripped,checks⟩ := except_bind_success strips
        split at checks
        · cases checks
        · rename_i below
          obtain ⟨_,kind,ends⟩ := except_bind_success checks
          cases ends
          have inside := orElseError_ok stripped
          unfold stripRoot at inside
          split at inside
          · rename_i first
            obtain ⟨rest,rfl⟩ := first
            rw [List.drop_left,Option.some.injEq] at inside
            subst inside
            exact ⟨root,rest,⟨given,Bool.eq_false_iff.mpr level,orElseError_ok rooted,orElseError_ok found,below,kind⟩,rfl⟩
          · cases inside
  · rintro ⟨root,names,leads,rfl⟩
    have given := leads.given
    have level := leads.level
    have found := leads.found
    unfold trimmed at given level found
    unfold candidate at found
    have stripped : stripRoot root (root ++ names) = some names := by
      rw [stripRoot,if_pos (List.prefix_append _ _),List.drop_left]
    unfold resolvePathWithinDriveRoot
    dsimp only
    rw [if_neg given,if_neg (by simp [level]),leads.rooted]
    change (do
      let canonical ← orElseError _ (tree.canonicalize (if isAbsolute _ then _ else _))
      let relative ← orElseError _ (stripRoot root canonical)
      if relative = [] then throw _
      checkTargetKind tree canonical targetKind
      pure (String.ofList (['/'].intercalate relative)) : Except String String) = _
    rw [found]
    change (do
      let relative ← orElseError _ (stripRoot root (root ++ names))
      if relative = [] then throw _
      checkTargetKind tree (root ++ names) targetKind
      pure (String.ofList (['/'].intercalate relative)) : Except String String) = _
    rw [stripped]
    change (if names = [] then throw _ else do
      checkTargetKind tree (root ++ names) targetKind
      pure (String.ofList (['/'].intercalate names)) : Except String String) = _
    rw [if_neg leads.below,leads.kind]
    rfl

/-! The answer as an input. -/

def ofKind (files : FileSystem) (place : List (List Char)) : PathTargetKind → Prop
  | .file => files.tree.entry place = some .file
  | .directory => files.tree.entry place = some .directory

/-- Where an input leads, whatever is there. -/
def target (files : FileSystem) (driveRoot inputPath : String) : Option (List (List Char)) :=
  (canonicalize files driveRoot).bind fun root => canonicalize files (candidate root (trimmed inputPath))

/-- What an answer promises of the path that it names. -/
structure Resolved (files : FileSystem) (driveRoot inputPath : String) (targetKind : PathTargetKind)
    (relativePath : String) : Prop where
  nonempty : relativePath ≠ ""
  plain : ∀ component ∈ relativePath.toList.splitOn '/', component ≠ [] ∧ component ≠ ['.'] ∧ component ≠ ['.','.']
  contained : ∃ root place, canonicalize files driveRoot = some root ∧
    canonicalize files (join driveRoot relativePath) = some place ∧ root <+: place ∧ ofKind files place targetKind
  again : resolvePathWithinDriveRoot (pathTree files) driveRoot relativePath targetKind = .ok relativePath
  same : target files driveRoot relativePath = target files driveRoot inputPath

/-- A path below the root that the trimming leaves as it is, or takes to another path of the same target. -/
def TrimSafe (files : FileSystem) (root names : List (List Char)) : Prop :=
  trimmed (relativeText names) = relativeText names ∨
    (trimmed (relativeText names) ≠ "" ∧ containsParentDir (trimmed (relativeText names)) = false ∧
      canonicalize files (candidate root (trimmed (relativeText names))) = some (root ++ names))

section
variable {files : FileSystem} {driveRoot inputPath : String} {targetKind : PathTargetKind}
  {root names : List (List Char)}

theorem checkTargetKind_ofKind {place : List (List Char)} (kind : checkTargetKind (pathTree files) place targetKind = .ok ()) :
    ofKind files place targetKind := by
  cases targetKind with
  | file =>
    simp only [checkTargetKind] at kind
    split at kind
    · rename_i is
      exact eq_of_beq is
    · cases kind
  | directory =>
    simp only [checkTargetKind] at kind
    split at kind
    · rename_i is
      exact FileTree.Tree.isDirectory_iff.mp is
    · cases kind

theorem relativeText_injective {others : List (List Char)} (nonempty : names ≠ []) (also : others ≠ [])
    (ordinary : ∀ name ∈ names, Ordinary name) (ordinary' : ∀ name ∈ others, Ordinary name)
    (same : relativeText names = relativeText others) : names = others := by
  have texts := String.ofList_injective same
  rw [← splitOn_names nonempty ordinary,← splitOn_names also ordinary',texts]

theorem relativeText_relative (nonempty : names ≠ []) (ordinary : ∀ name ∈ names, Ordinary name) :
    isAbsolute (relativeText names) = false := (inside_of_ordinary nonempty ordinary).1

theorem canonicalize_below {root : String} {place : List (List Char)} {left : Nat} (rooted : reach files root = some (place,left))
    (standing : Standing files.tree (place ++ names)) (nonempty : names ≠ []) :
    canonicalize files (join root (relativeText names)) = some (place ++ names) := by
  have ordinary : ∀ name ∈ names, Ordinary name := fun name member =>
    ordinary_standing standing name (List.mem_append_right _ member)
  rw [canonicalize,reach_join rooted (relativeText_relative nonempty ordinary),relativeText,String.toList_ofList,
    steps_names nonempty ordinary,resolve_names standing]
  rfl

theorem resolved_iff (leads : Leads (pathTree files) driveRoot inputPath targetKind root names) :
    Resolved files driveRoot inputPath targetKind (relativeText names) ↔ TrimSafe files root names := by
  have rooted := leads.rooted
  have found := leads.found
  rw [pathTree_canonicalize] at rooted found
  have standing : Standing files.tree (root ++ names) := standing_canonicalize found
  have ordinary : ∀ name ∈ names, Ordinary name := fun name member =>
    ordinary_standing standing name (List.mem_append_right _ member)
  have relative := relativeText_relative leads.below ordinary
  have direct : canonicalize files (candidate root (relativeText names)) = some (root ++ names) := by
    rw [candidate,if_neg (by simp [relative])]
    exact canonicalize_below (reach_rendered (standing_canonicalize rooted)) standing leads.below
  have level : containsParentDir (relativeText names) = false := by
    have named : Named names := fun name member => ⟨(ordinary name member).1,(ordinary name member).2.1⟩
    rw [containsParentDir,relativeText,String.toList_ofList,components_intercalate named,List.any_eq_false]
    intro name member
    simpa using (ordinary name member).2.2.2
  have nonempty : relativeText names ≠ "" := by
    intro empty
    have text : ['/'].intercalate names = [] := String.ofList_injective empty
    have split := splitOn_names leads.below ordinary
    rw [text,List.splitOn_nil] at split
    exact (ordinary [] (split ▸ List.mem_singleton_self _)).1 rfl
  have led : target files driveRoot inputPath = some (root ++ names) := by
    rw [target,rooted,Option.bind_some,found]
  have survives : TrimSafe files root names ↔ Leads (pathTree files) driveRoot (relativeText names) targetKind root names := by
    constructor
    · rintro (kept | ⟨given,still,found⟩)
      · refine ⟨?_,?_,leads.rooted,?_,leads.below,leads.kind⟩
        · rwa [kept]
        · rwa [kept]
        · rw [kept]
          exact direct
      · exact ⟨given,still,leads.rooted,found,leads.below,leads.kind⟩
    · exact fun later => .inr ⟨later.given,later.level,later.found⟩
  rw [survives]
  constructor
  · intro resolved
    obtain ⟨root',names',again,text⟩ := resolve_ok_iff.mp resolved.again
    cases again.rooted.symm.trans leads.rooted
    have found' := again.found
    rw [pathTree_canonicalize] at found'
    have ordinary' : ∀ name ∈ names', Ordinary name := fun name member =>
      ordinary_standing (standing_canonicalize found') name (List.mem_append_right _ member)
    rwa [relativeText_injective again.below leads.below ordinary' ordinary text.symm] at again
  · intro again
    refine ⟨nonempty,?_,?_,resolve_ok_iff.mpr ⟨root,names,again,rfl⟩,?_⟩
    · rw [relativeText,String.toList_ofList,splitOn_names leads.below ordinary]
      exact fun name member => ⟨(ordinary name member).1,(ordinary name member).2.2⟩
    · obtain ⟨⟨place,left⟩,reached,rfl⟩ := Option.map_eq_some_iff.mp rooted
      exact ⟨place,place ++ names,rooted,canonicalize_below reached standing leads.below,List.prefix_append _ _,
        checkTargetKind_ofKind leads.kind⟩
    · rw [led,target,rooted,Option.bind_some]
      exact again.found

/-- Every answer is contained and stable exactly if the path of the target below the root is
trim safe: no link and no form of the input makes a difference. -/
theorem resolution_stable_iff (files : FileSystem) (driveRoot inputPath : String) (targetKind : PathTargetKind) :
    (∀ relativePath, resolvePathWithinDriveRoot (pathTree files) driveRoot inputPath targetKind = .ok relativePath →
        Resolved files driveRoot inputPath targetKind relativePath) ↔
      ∀ root names, Leads (pathTree files) driveRoot inputPath targetKind root names → TrimSafe files root names := by
  constructor
  · intro stable root names leads
    exact (resolved_iff leads).mp (stable _ (resolve_ok_iff.mpr ⟨root,names,leads,rfl⟩))
  · intro safe relativePath ok
    obtain ⟨root,names,leads,rfl⟩ := resolve_ok_iff.mp ok
    exact (resolved_iff leads).mpr (safe root names leads)

end

/-! One file, at the place of these names. -/

def onlyFile (names : List (List Char)) (ordinary : ∀ name ∈ names, Ordinary name) : FileSystem where
  tree := ladder names .file
  ordinary := by
    intro here found there name member
    exact ordinary name ((ladder_above there).subset member)
  here := []
  directory := FileTree.Tree.isDirectory_iff.mpr (ladder names .file).root

theorem ordinary_spaced : ∀ name ∈ [['r'],[' ','a']], Ordinary name := by
  decide

/-- The name of the file begins with a blank. -/
def spaced : FileSystem := onlyFile [['r'],[' ','a']] ordinary_spaced

theorem spaced_resolves : resolvePathWithinDriveRoot (pathTree spaced) "/r" "/r/ a" .file = .ok " a" := by
  decide +kernel

theorem spaced_unstable : ¬ ∀ (files : FileSystem) (driveRoot inputPath : String) (targetKind : PathTargetKind)
    (relativePath : String), resolvePathWithinDriveRoot (pathTree files) driveRoot inputPath targetKind = .ok relativePath →
      Resolved files driveRoot inputPath targetKind relativePath := by
  intro stable
  have again := (stable spaced "/r" "/r/ a" .file " a" spaced_resolves).again
  have refused : resolvePathWithinDriveRoot (pathTree spaced) "/r" " a" .file ≠ .ok " a" := by
    decide +kernel
  exact refused again

end BitProtector.PathResolution
