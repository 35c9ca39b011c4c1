import BitProtector.TrackingItems

/-! The tree of virtual paths, one level at a time. The statement takes the paths that match
the parent as an unescaped pattern, and cuts each of them after as many characters as the
parent has bytes. -/
namespace BitProtector

/-- Its texts are the characters of the columns. -/
structure VirtualPathTreeNode where
  name : List Char
  path : List Char
  itemCount : Nat
  hasChildren : Bool
  deriving DecidableEq, Repr

namespace VirtualTree
open VirtualPath FolderPatterns

/-- `str::len`. -/
def byteLength (text : List Char) : Nat := (text.map Char.utf8Size).foldr (· + ·) 0

def normalizeParent (parent : List Char) : List Char :=
  let trimmed := trim parent
  if trimmed = [] then ['/']
  else
    let normalized := if trimmed.head? = some '/' then trimmed else '/'::trimmed
    if 1 < byteLength normalized then normalized.rdropWhile (· == '/') else normalized

def searchPrefix (parent : List Char) : List Char := if parent = ['/'] then ['/'] else parent ++ ['/']

def childPath (parent name : List Char) : List Char := if parent = ['/'] then '/'::name else parent ++ '/'::name

/-- What of a path the common table expression `suffixes` keeps. -/
def suffixOf (text path : List Char) : Option (List Char) :=
  if Db.likes (text ++ ['%']) path ∧ byteLength text ≤ path.length then some (path.drop (byteLength text)) else none

/-- The expression `segments`, and the condition on its names. -/
def segmentOf (suffix : List Char) : Option (List Char × Bool) :=
  let name := suffix.takeWhile (· ≠ '/')
  if suffix ≠ [] ∧ name ≠ [] then some (name,suffix.contains '/') else none

def segment (text path : List Char) : Option (List Char × Bool) := (suffixOf text path).bind segmentOf

/-- `GROUP BY name`. -/
def groupOf (parent : List Char) (segments : List (List Char × Bool)) (name : List Char) : VirtualPathTreeNode where
  name := name
  path := childPath parent name
  itemCount := segments.countP (fun segment => segment.1 == name)
  hasChildren := segments.any (fun segment => segment.1 == name && segment.2)

/-- `ORDER BY name`: code point by code point. -/
def inOrder (a b : List Char) : Bool := !b.lex a (fun x y => x.toNat.blt y.toNat)

def treeNodes (paths : List (List Char)) (parent : List Char) : List VirtualPathTreeNode :=
  let parent := normalizeParent parent
  let segments := paths.filterMap (segment (searchPrefix parent))
  ((segments.map Prod.fst).dedup.insertionSort (fun a b => inOrder a b)).map (groupOf parent segments)

/-- The paths of the files and then of the folders. -/
def virtualPaths (db : Db) (tieBreak : Nat → Nat) : List (List Char) :=
  (db.trackedFiles.rows.filterMap (db.effectiveVirtualPath tieBreak) ++
    db.trackedFolders.rows.filterMap TrackedFolder.virtualPath).map String.toList

def listVirtualPathTreeNodes (db : Db) (tieBreak : Nat → Nat) (parent : List Char) : List VirtualPathTreeNode :=
  treeNodes (virtualPaths db tieBreak) parent

/-- The parent that `GET /virtual-paths/tree` goes on with. -/
def requestedParent (parent : Option (List Char)) : List Char :=
  match parent.map trim with
  | none | some [] => ['/']
  | some trimmed => trimmed

def virtualPathTree (db : Db) (tieBreak : Nat → Nat) (parent : Option (List Char)) : Except String (List VirtualPathTreeNode) :=
  let parent := requestedParent parent
  if parent.head? ≠ some '/' then .error "Parent virtual prefix must be absolute"
  else if ['.','.'] <:+: parent then .error "Parent virtual prefix may not contain '..'"
  else .ok (listVirtualPathTreeNodes db tieBreak parent)

/-! What one level should show. -/

/-- The components of a path text, whatever they are called. -/
def components (path : List Char) : List (List Char) := (path.splitOn '/').filter (· ≠ [])

/-- The component after those of the parent, and whether there are more. -/
def next (parent path : List Char) : Option (List Char × Bool) :=
  if components parent <+: components path then
    match (components path).drop (components parent).length with
    | [] => none
    | name::deeper => some (name,!deeper.isEmpty)
  else none

/-- One node for each next component, with what lies at and below it. -/
structure Exact (parent : List Char) (paths : List (List Char)) (nodes : List VirtualPathTreeNode) : Prop where
  once : (nodes.map VirtualPathTreeNode.name).Nodup
  names : ∀ name, name ∈ nodes.map VirtualPathTreeNode.name ↔ ∃ path ∈ paths, ∃ deeper, next parent path = some (name,deeper)
  full : ∀ node ∈ nodes, components node.path = components parent ++ [node.name]
  count : ∀ node ∈ nodes, node.itemCount = paths.countP (fun path => (next parent path).any (·.1 == node.name))
  children : ∀ node ∈ nodes, node.hasChildren = true ↔ ∃ path ∈ paths, next parent path = some (node.name,true)

/-- The pattern takes the path, and the cut leaves the name and a slash exactly if there is more. -/
def Shows (parent path name : List Char) (deeper : Bool) : Prop :=
  Db.likes (searchPrefix parent ++ ['%']) path = true ∧ ∃ rest, path.drop (byteLength (searchPrefix parent)) = name ++ rest ∧
    ((deeper = true ∧ rest.head? = some '/') ∨ (deeper = false ∧ rest = []))

/-- The pattern does not take the path, or the cut leaves no name. -/
def Skips (parent path : List Char) : Prop :=
  Db.likes (searchPrefix parent ++ ['%']) path = true →
    path.drop (byteLength (searchPrefix parent)) = [] ∨ (path.drop (byteLength (searchPrefix parent))).head? = some '/'

/-- The statement does with the path what it should under the parent. -/
structure Fits (parent path : List Char) : Prop where
  under : ∀ name deeper, next parent path = some (name,deeper) →
    components (normalizeParent parent) = components parent ∧ Shows (normalizeParent parent) path name deeper
  apart : next parent path = none → Skips (normalizeParent parent) path

/-! What the texts say of it. -/

def Ascii (text : List Char) : Prop := ∀ c ∈ text, c.val.toNat < 128

/-- The text, in another letter case or as a pattern, stands at the beginning of the path. -/
def Taken (text path : List Char) : Prop := ∃ front back, path = front ++ back ∧ Stands text front

/-- After the text the path goes on with a name, and then ends, or has more components after a slash. -/
def GoesOn (text path : List Char) : Prop :=
  ∃ name tail, path = text ++ (name ++ tail) ∧ name ≠ [] ∧ '/' ∉ name ∧
    (tail = [] ∨ ∃ more, tail = '/'::more ∧ components more ≠ [])

/-- The texts leave no doubt where the path belongs under the parent. -/
inductive Legible (parent path : List Char) : Prop
  /-- The parent is spelled as it is asked for, in ASCII, and the path goes on from it. -/
  | below (spelled : components (normalizeParent parent) = components parent) (ascii : Ascii (normalizeParent parent))
    (goesOn : GoesOn (searchPrefix (normalizeParent parent)) path)
  /-- The path is the parent's, up to slashes at the end. -/
  | ends (slashes : List Char) (whole : path = searchPrefix (normalizeParent parent) ++ slashes)
    (only : ∀ c ∈ slashes, c = '/') (apart : next parent path = none)
  /-- The path lies elsewhere, and the parent does not stand at its beginning in any letter case or as a pattern. -/
  | apart (apart : next parent path = none) (untaken : ¬Taken (searchPrefix (normalizeParent parent)) path)

/-! Components. -/

theorem components_append_slash (front back : List Char) :
    components (front ++ '/'::back) = components front ++ components back := by
  rw [components,List.splitOn_append_cons_self,List.filter_append]
  rfl

theorem mem_components {path name : List Char} (member : name ∈ components path) : name ≠ [] ∧ '/' ∉ name := by
  obtain ⟨split,nonempty⟩ := List.mem_filter.mp member
  exact ⟨of_decide_eq_true nonempty,no_slash_of_mem_splitOn split⟩

theorem components_name {name : List Char} (nonempty : name ≠ []) (noSlash : '/' ∉ name) : components name = [name] := by
  rw [components,List.splitOn_eq_singleton noSlash]
  simp [nonempty]

theorem components_root : components ['/'] = [] := by decide

theorem components_childPath {parent name : List Char} (nonempty : name ≠ []) (noSlash : '/' ∉ name) :
    components (childPath parent name) = components parent ++ [name] := by
  unfold childPath
  split
  · rename_i root
    have split := components_append_slash [] name
    rw [components_name nonempty noSlash] at split
    rw [root,components_root]
    exact split
  · rw [components_append_slash,components_name nonempty noSlash]

theorem next_some {parent path name : List Char} {deeper : Bool} :
    next parent path = some (name,deeper) ↔
      ∃ back, components path = components parent ++ name::back ∧ deeper = !back.isEmpty := by
  unfold next
  split
  · rename_i beneath
    obtain ⟨rest,whole⟩ := beneath
    rw [← whole,List.drop_left]
    cases rest with
    | nil =>
      refine iff_of_false (Option.some_ne_none _).symm ?_
      rintro ⟨back,same,_⟩
      exact absurd (List.append_cancel_left same) (List.cons_ne_nil _ _).symm
    | cons first back =>
      rw [Option.some.injEq,Prod.mk.injEq]
      constructor
      · rintro ⟨rfl,rfl⟩
        exact ⟨back,rfl,rfl⟩
      · rintro ⟨other,same,more⟩
        obtain ⟨rfl,rfl⟩ := List.cons.inj (List.append_cancel_left same)
        exact ⟨rfl,more.symm⟩
  · rename_i apart
    refine iff_of_false (Option.some_ne_none _).symm ?_
    rintro ⟨back,whole,_⟩
    exact apart ⟨_,whole.symm⟩

theorem next_name {parent path name : List Char} {deeper : Bool} (shown : next parent path = some (name,deeper)) :
    name ≠ [] ∧ '/' ∉ name := by
  obtain ⟨back,whole,_⟩ := next_some.mp shown
  have member : name ∈ components path := by
    rw [whole]
    simp
  exact mem_components member

/-! Segments. -/

theorem segmentOf_some {suffix name : List Char} {deeper : Bool} :
    segmentOf suffix = some (name,deeper) ↔ (name ≠ [] ∧ '/' ∉ name) ∧
      ∃ rest, suffix = name ++ rest ∧ ((deeper = true ∧ rest.head? = some '/') ∨ (deeper = false ∧ rest = [])) := by
  constructor
  · intro shown
    by_cases kept : suffix ≠ [] ∧ suffix.takeWhile (· ≠ '/') ≠ []
    · rw [segmentOf,if_pos kept] at shown
      obtain ⟨rfl,rfl⟩ := Prod.mk.inj (Option.some.inj shown)
      have noSlash : '/' ∉ suffix.takeWhile (· ≠ '/') := by
        intro member
        have other := List.mem_takeWhile_imp member
        simp at other
      refine ⟨⟨kept.2,noSlash⟩,suffix.dropWhile (· ≠ '/'),List.takeWhile_append_dropWhile.symm,?_⟩
      cases ends : suffix.dropWhile (· ≠ '/') with
      | nil =>
        right
        refine ⟨?_,rfl⟩
        have whole : suffix.takeWhile (· ≠ '/') ++ suffix.dropWhile (· ≠ '/') = suffix := List.takeWhile_append_dropWhile
        rw [ends,List.append_nil] at whole
        rw [whole] at noSlash
        simp [noSlash]
      | cons c rest =>
        left
        have slash : c = '/' := by
          have head := List.head?_dropWhile_not (· ≠ '/') suffix
          rw [ends] at head
          simpa using head
        subst slash
        refine ⟨?_,rfl⟩
        have member : '/' ∈ suffix := (List.dropWhile_suffix (· ≠ '/')).subset (by rw [ends]; exact List.mem_cons_self)
        simpa using member
    · rw [segmentOf,if_neg kept] at shown
      cases shown
  · rintro ⟨⟨nonempty,noSlash⟩,rest,rfl,ends⟩
    have taken : (name ++ rest).takeWhile (· ≠ '/') = name := by
      rw [List.takeWhile_append_of_pos (by
        intro c member
        have other : c ≠ '/' := fun same => noSlash (same ▸ member)
        simpa using other)]
      rcases ends with ⟨_,slash⟩ | ⟨_,empty⟩
      · obtain ⟨tail,rfl⟩ := List.head?_eq_some_iff.mp slash
        simp
      · simp [empty]
    rw [segmentOf,taken,if_pos ⟨by simp [nonempty],nonempty⟩]
    rcases ends with ⟨rfl,slash⟩ | ⟨rfl,rfl⟩
    · obtain ⟨tail,rfl⟩ := List.head?_eq_some_iff.mp slash
      simp
    · simp [noSlash]

theorem segment_some {parent path name : List Char} {deeper : Bool} :
    segment (searchPrefix parent) path = some (name,deeper) ↔ (name ≠ [] ∧ '/' ∉ name) ∧ Shows parent path name deeper := by
  unfold segment suffixOf Shows
  by_cases taken : Db.likes (searchPrefix parent ++ ['%']) path = true
  · by_cases long : byteLength (searchPrefix parent) ≤ path.length
    · rw [if_pos ⟨taken,long⟩,Option.bind_some,segmentOf_some]
      simp only [taken,true_and]
    · rw [if_neg (by simp [long])]
      refine iff_of_false (Option.some_ne_none _).symm ?_
      rintro ⟨⟨nonempty,_⟩,_,rest,cut,_⟩
      rw [List.drop_eq_nil_of_le (Nat.le_of_not_le long)] at cut
      exact nonempty (List.append_eq_nil_iff.mp cut.symm).1
  · rw [if_neg (by simp [taken])]
    refine iff_of_false (Option.some_ne_none _).symm ?_
    rintro ⟨_,like,_⟩
    exact taken like

theorem segment_none {parent path : List Char} :
    segment (searchPrefix parent) path = none ↔ Skips parent path := by
  constructor
  · intro hidden taken
    cases cut : path.drop (byteLength (searchPrefix parent)) with
    | nil => exact .inl rfl
    | cons c rest =>
      by_cases slash : c = '/'
      · exact .inr (by rw [slash]; rfl)
      · exfalso
        have long : byteLength (searchPrefix parent) ≤ path.length := by
          by_contra short
          rw [List.drop_eq_nil_of_le (Nat.le_of_not_le short)] at cut
          cases cut
        rw [segment,suffixOf,if_pos ⟨taken,long⟩,Option.bind_some,cut,segmentOf] at hidden
        simp [slash] at hidden
  · intro skips
    rw [Option.eq_none_iff_forall_ne_some]
    rintro ⟨name,deeper⟩ shown
    obtain ⟨⟨nonempty,noSlash⟩,taken,rest,cut,_⟩ := segment_some.mp shown
    obtain ⟨c,name,rfl⟩ := List.exists_cons_of_ne_nil nonempty
    rcases skips taken with empty | slash
    · rw [empty] at cut
      cases cut
    · rw [cut] at slash
      exact noSlash (by rw [Option.some.inj slash.symm]; exact List.mem_cons_self)

theorem fits_iff {parent path : List Char} :
    Fits parent path ↔ segment (searchPrefix (normalizeParent parent)) path = next parent path ∧
      (next parent path ≠ none → components (normalizeParent parent) = components parent) := by
  constructor
  · intro fits
    cases shown : next parent path with
    | none => exact ⟨segment_none.mpr (fits.apart shown),fun present => absurd rfl present⟩
    | some entry =>
      obtain ⟨spelled,shows⟩ := fits.under entry.1 entry.2 shown
      exact ⟨segment_some.mpr ⟨next_name shown,shows⟩,fun _ => spelled⟩
  · rintro ⟨same,spelled⟩
    constructor
    · intro name deeper shown
      rw [shown] at same spelled
      exact ⟨spelled (Option.some_ne_none _),(segment_some.mp same).2⟩
    · intro hidden
      rw [hidden] at same
      exact segment_none.mp same

/-! Legible paths fit. -/

theorem likes_iff {text path : List Char} : Db.likes (text ++ ['%']) path = true ↔ Taken text path := by
  have whole : (text ++ ['%']).map Db.wildcard = text.map Db.wildcard ++ [.anyRun] := by
    rw [List.map_append]
    rfl
  rw [Db.likes,whole,Like.fits_append]
  constructor
  · rintro ⟨front,back,split,stands,_⟩
    exact ⟨front,back,split,fits_wildcards.mp stands⟩
  · rintro ⟨front,back,split,stands⟩
    exact ⟨front,back,split,fits_wildcards.mpr stands,Like.fits_run _ _⟩

theorem byteLength_cons (c : Char) (text : List Char) : byteLength (c::text) = c.utf8Size + byteLength text := rfl

theorem length_le_byteLength (text : List Char) : text.length ≤ byteLength text := by
  induction text with
  | nil => exact Nat.le_refl 0
  | cons c text ih =>
    have some := c.utf8Size_pos
    rw [byteLength_cons,List.length_cons]
    omega

theorem byteLength_ascii {text : List Char} : byteLength text = text.length ↔ Ascii text := by
  induction text with
  | nil => exact iff_of_true rfl fun _ member => absurd member List.not_mem_nil
  | cons c text ih =>
    have one : c.utf8Size = 1 ↔ c.val.toNat < 128 := by
      rw [Char.utf8Size_eq_one_iff,UInt32.le_iff_toNat_le]
      exact Nat.lt_succ_iff.symm
    have some := c.utf8Size_pos
    have rest := length_le_byteLength text
    rw [Ascii,List.forall_mem_cons,← one,← Ascii,← ih,byteLength_cons,List.length_cons]
    omega

theorem ascii_searchPrefix {parent : List Char} : Ascii (searchPrefix parent) ↔ Ascii parent := by
  unfold searchPrefix
  split
  · rename_i root
    rw [root]
  · rw [Ascii,Ascii,List.forall_mem_append]
    refine and_iff_left ?_
    intro c member
    rw [List.mem_singleton.mp member]
    decide

theorem components_searchPrefix (parent : List Char) (back : List Char) :
    components (searchPrefix parent ++ back) = components parent ++ components back := by
  unfold searchPrefix
  split
  · rename_i root
    rw [root]
    exact components_append_slash [] back
  · rw [List.append_assoc,List.singleton_append,components_append_slash]

theorem next_goesOn {parent text name tail : List Char} (spelled : components text = components parent)
    (nonempty : name ≠ []) (noSlash : '/' ∉ name) (ends : tail = [] ∨ ∃ more, tail = '/'::more ∧ components more ≠ []) :
    next parent (searchPrefix text ++ (name ++ tail)) = some (name,!tail.isEmpty) := by
  refine next_some.mpr ?_
  rw [components_searchPrefix,spelled]
  rcases ends with rfl | ⟨more,rfl,deeper⟩
  · exact ⟨[],by rw [List.append_nil,components_name nonempty noSlash],rfl⟩
  · refine ⟨components more,by rw [components_append_slash,components_name nonempty noSlash]; rfl,?_⟩
    rw [List.isEmpty_eq_false_iff.mpr deeper]
    rfl

theorem Legible.fits {parent path : List Char} (legible : Legible parent path) : Fits parent path := by
  rcases legible with ⟨spelled,ascii,name,tail,rfl,nonempty,noSlash,ends⟩ | ⟨slashes,whole,only,apart⟩ | ⟨apart,untaken⟩
  · have should := next_goesOn spelled nonempty noSlash ends
    have cut : (searchPrefix (normalizeParent parent) ++ (name ++ tail)).drop
        (byteLength (searchPrefix (normalizeParent parent))) = name ++ tail := by
      rw [byteLength_ascii.mpr (ascii_searchPrefix.mpr ascii),List.drop_left]
    constructor
    · intro shown deeper same
      rw [should,Option.some.injEq,Prod.mk.injEq] at same
      obtain ⟨rfl,rfl⟩ := same
      refine ⟨spelled,likes_iff.mpr ⟨_,_,rfl,.refl _⟩,tail,cut,?_⟩
      rcases ends with rfl | ⟨more,rfl,_⟩
      · exact .inr ⟨rfl,rfl⟩
      · exact .inl ⟨rfl,rfl⟩
    · intro none
      rw [should] at none
      cases none
  · constructor
    · intro name deeper shown
      rw [apart] at shown
      cases shown
    · intro _ _
      have long := length_le_byteLength (searchPrefix (normalizeParent parent))
      rw [whole,List.drop_append,List.drop_eq_nil_of_le long,List.nil_append]
      cases left : slashes.drop (byteLength (searchPrefix (normalizeParent parent)) -
          (searchPrefix (normalizeParent parent)).length) with
      | nil => exact .inl rfl
      | cons c rest =>
        have member : c ∈ slashes := List.mem_of_mem_drop (by rw [left]; exact List.mem_cons_self)
        exact .inr (congrArg some (only c member))
  · constructor
    · intro name deeper shown
      rw [apart] at shown
      cases shown
    · exact fun _ taken => absurd (likes_iff.mp taken) untaken

/-! The nodes of one level. -/

/-- The segments that are grouped. -/
def segments (paths : List (List Char)) (parent : List Char) : List (List Char × Bool) :=
  paths.filterMap (segment (searchPrefix (normalizeParent parent)))

theorem treeNodes_names (paths : List (List Char)) (parent : List Char) :
    ((treeNodes paths parent).map VirtualPathTreeNode.name).Perm ((segments paths parent).map Prod.fst).dedup := by
  have names : (treeNodes paths parent).map VirtualPathTreeNode.name =
      ((segments paths parent).map Prod.fst).dedup.insertionSort (fun a b => inOrder a b) := by
    rw [treeNodes,List.map_map]
    exact List.map_id _
  rw [names]
  exact List.perm_insertionSort _ _

theorem treeNodes_once (paths : List (List Char)) (parent : List Char) :
    ((treeNodes paths parent).map VirtualPathTreeNode.name).Nodup :=
  (treeNodes_names paths parent).nodup_iff.mpr (List.nodup_dedup _)

theorem mem_treeNodes_names {paths : List (List Char)} {parent name : List Char} :
    name ∈ (treeNodes paths parent).map VirtualPathTreeNode.name ↔ ∃ deeper, (name,deeper) ∈ segments paths parent := by
  rw [(treeNodes_names paths parent).mem_iff,List.mem_dedup,List.mem_map]
  constructor
  · rintro ⟨⟨_,deeper⟩,member,rfl⟩
    exact ⟨deeper,member⟩
  · rintro ⟨deeper,member⟩
    exact ⟨_,member,rfl⟩

theorem mem_treeNodes {paths : List (List Char)} {parent : List Char} {node : VirtualPathTreeNode}
    (member : node ∈ treeNodes paths parent) :
    node = groupOf (normalizeParent parent) (segments paths parent) node.name := by
  obtain ⟨name,_,rfl⟩ := List.mem_map.mp member
  rfl

theorem treeNodes_name {paths : List (List Char)} {parent : List Char} {node : VirtualPathTreeNode}
    (member : node ∈ treeNodes paths parent) : node.name ≠ [] ∧ '/' ∉ node.name := by
  obtain ⟨deeper,shown⟩ := mem_treeNodes_names.mp (List.mem_map_of_mem member)
  obtain ⟨path,_,entry⟩ := List.mem_filterMap.mp shown
  exact (segment_some.mp entry).1

theorem treeNodes_path {paths : List (List Char)} {parent : List Char} {node : VirtualPathTreeNode}
    (member : node ∈ treeNodes paths parent) : node.path = childPath (normalizeParent parent) node.name := by
  rw [mem_treeNodes member]
  rfl

theorem exact_of_fits {paths : List (List Char)} {parent : List Char} (fits : ∀ path ∈ paths, Fits parent path) :
    Exact parent paths (treeNodes paths parent) := by
  have same : segments paths parent = paths.filterMap (next parent) :=
    List.filterMap_congr fun path present => (fits_iff.mp (fits path present)).1
  have mem_segments (entry : List Char × Bool) :
      entry ∈ segments paths parent ↔ ∃ path ∈ paths, next parent path = some entry := by
    rw [same,List.mem_filterMap]
  constructor
  · exact treeNodes_once paths parent
  · intro name
    rw [mem_treeNodes_names]
    constructor
    · rintro ⟨deeper,member⟩
      obtain ⟨path,present,shown⟩ := (mem_segments _).mp member
      exact ⟨path,present,deeper,shown⟩
    · rintro ⟨path,present,deeper,shown⟩
      exact ⟨deeper,(mem_segments _).mpr ⟨path,present,shown⟩⟩
  · intro node member
    obtain ⟨nonempty,noSlash⟩ := treeNodes_name member
    obtain ⟨deeper,entry⟩ := mem_treeNodes_names.mp (List.mem_map_of_mem member)
    obtain ⟨path,present,shown⟩ := (mem_segments _).mp entry
    rw [treeNodes_path member,components_childPath nonempty noSlash,((fits path present).under _ _ shown).1]
  · intro node member
    rw [mem_treeNodes member]
    simp only [groupOf,same,List.countP_filterMap]
    congr 1
    funext path
    cases next parent path <;> rfl
  · intro node member
    rw [mem_treeNodes member]
    simp only [groupOf,List.any_eq_true,Bool.and_eq_true,beq_iff_eq]
    constructor
    · rintro ⟨⟨name,deeper⟩,entry,rfl,more⟩
      have more : deeper = true := more
      obtain ⟨path,present,shown⟩ := (mem_segments _).mp entry
      rw [more] at shown
      exact ⟨path,present,shown⟩
    · rintro ⟨path,present,shown⟩
      exact ⟨_,(mem_segments _).mpr ⟨path,present,shown⟩,rfl,rfl⟩

end VirtualTree
end BitProtector
