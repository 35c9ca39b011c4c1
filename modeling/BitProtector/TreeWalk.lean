import BitProtector.VirtualTree
import Mathlib.Data.Finset.Max
import Mathlib.Data.Prod.Lex

/-! A walk through the tree of virtual paths, from the root and by the route. It should ask
for nothing that the route refuses, and come to every item once. -/
namespace BitProtector.VirtualTree
open VirtualPath FolderPatterns

/-! Texts of joined components. -/

/-- Components, whatever else they are called. -/
def Named (names : List (List Char)) : Prop := ∀ name ∈ names, name ≠ [] ∧ '/' ∉ name

theorem Named.append {names more : List (List Char)} (first : Named names) (second : Named more) :
    Named (names ++ more) := by
  intro name member
  rcases List.mem_append.mp member with front | back
  · exact first name front
  · exact second name back

theorem Named.left {names more : List (List Char)} (named : Named (names ++ more)) : Named names :=
  fun name member => named name (List.mem_append_left _ member)

theorem named_components (path : List Char) : Named (components path) := fun _ => mem_components

theorem components_joinSegments {names : List (List Char)} (named : Named names) : components (joinSegments names) = names := by
  cases names with
  | nil => exact components_root
  | cons first rest =>
    have inner := List.splitOn_intercalate '/' (fun name member => (named name member).2) (List.cons_ne_nil first rest)
    have split := components_append_slash [] (['/'].intercalate (first::rest))
    have whole : components (['/'].intercalate (first::rest)) = first::rest := by
      rw [components,inner,List.filter_eq_self]
      intro name member
      exact decide_eq_true (named name member).1
    rw [whole] at split
    exact split

theorem childPath_joinSegments {names : List (List Char)} (named : Named names) (name : List Char) :
    childPath (joinSegments names) name = joinSegments (names ++ [name]) := by
  unfold childPath
  cases names with
  | nil => rw [if_pos (by rfl),List.nil_append,joinSegments_eq (List.cons_ne_nil _ _)]; simp
  | cons first rest =>
    have other : joinSegments (first::rest) ≠ ['/'] := by
      intro root
      have none := components_joinSegments named
      rw [root,components_root] at none
      cases none
    rw [if_neg other,joinSegments_eq (List.cons_ne_nil _ _),joinSegments_eq (by simp),List.flatMap_append]
    simp

theorem head?_joinSegments (names : List (List Char)) : (joinSegments names).head? = some '/' := rfl

theorem joinSegments_begins {names more : List (List Char)} (nonempty : names ≠ []) :
    joinSegments names <+: joinSegments (names ++ more) := by
  rw [joinSegments_eq nonempty,joinSegments_eq (List.append_ne_nil_of_left_ne_nil nonempty _),List.flatMap_append]
  exact List.prefix_append _ _

theorem flatten_components (path : List Char) : (components path).flatten = path.filter (· ≠ '/') := by
  rw [components,List.flatten_filter_ne_nil]
  induction path with
  | nil => rfl
  | cons c path ih =>
    rw [List.splitOn_cons_eq_if_modifyHead]
    by_cases slash : c = '/'
    · simp [slash,ih]
    · cases parts : path.splitOn '/' with
      | nil => exact absurd parts (List.splitOn_ne_nil _ _)
      | cons head tail =>
        rw [parts] at ih
        rw [List.flatten_cons] at ih
        have kept : (c::path).filter (· ≠ '/') = c::path.filter (· ≠ '/') := List.filter_cons_of_pos (by simpa using slash)
        rw [kept,if_neg (by simpa using slash),← ih]
        rfl

theorem components_rdropWhile (text : List Char) : components (text.rdropWhile (· == '/')) = components text := by
  induction text using List.reverseRecOn with
  | nil => rfl
  | append_singleton text c ih =>
    by_cases slash : c = '/'
    · subst slash
      rw [List.rdropWhile_concat_pos _ _ _ (by rfl),ih,components_append_slash]
      exact (List.append_nil _).symm
    · rw [List.rdropWhile_concat_neg _ _ _ (by simpa using slash)]

/-! Blanks at the ends. -/

theorem trim_trim (text : List Char) : trim (trim text) = trim text := trim_eq_self (dropWhile_trim _) (rdropWhile_trim _)

theorem normalizeParent_trim (parent : List Char) : normalizeParent (trim parent) = normalizeParent parent := by
  rw [normalizeParent,normalizeParent,trim_trim]

theorem trim_of_slash {text : List Char} (absolute : text.head? = some '/') : trim text = text.rdropWhile isWhitespace := by
  obtain ⟨rest,rfl⟩ := List.head?_eq_some_iff.mp absolute
  rw [trim,List.dropWhile_cons_of_neg (by decide)]
  rfl

theorem head?_trim {text : List Char} (absolute : text.head? = some '/') : (trim text).head? = some '/' := by
  rw [trim_of_slash absolute]
  obtain ⟨rest,rfl⟩ := List.head?_eq_some_iff.mp absolute
  obtain ⟨tail,whole⟩ := List.rdropWhile_prefix isWhitespace ('/'::rest)
  cases kept : ('/'::rest).rdropWhile isWhitespace with
  | nil =>
    have blank := List.rdropWhile_eq_nil_iff.mp kept '/' List.mem_cons_self
    exact absurd blank (by decide)
  | cons c others =>
    rw [kept] at whole
    rw [(List.cons.inj whole).1]
    rfl

theorem normalizeParent_of_slash {parent : List Char} (absolute : parent.head? = some '/') :
    normalizeParent parent =
      if 1 < byteLength (trim parent) then (trim parent).rdropWhile (· == '/') else trim parent := by
  have head := head?_trim absolute
  have some : trim parent ≠ [] := by
    intro empty
    rw [empty] at head
    cases head
  rw [normalizeParent,if_neg some,if_pos head]

theorem components_normalizeParent {parent : List Char} (absolute : parent.head? = some '/') :
    components (normalizeParent parent) = components (trim parent) := by
  rw [normalizeParent_of_slash absolute]
  split
  · exact components_rdropWhile _
  · rfl

theorem trim_of_components {text : List Char} (absolute : text.head? = some '/')
    (same : components (trim text) = components text) : trim text = text := by
  have flat := congrArg List.flatten same
  rw [flatten_components,flatten_components,trim_of_slash absolute] at flat
  have whole : text.rdropWhile isWhitespace ++ text.rtakeWhile isWhitespace = text := List.rdropWhile_append_rtakeWhile
  have none : (text.rtakeWhile isWhitespace).filter (· ≠ '/') = [] := by
    have split := congrArg (List.filter (· ≠ '/')) whole
    rw [List.filter_append,flat] at split
    exact List.append_right_eq_self.mp split
  have empty : text.rtakeWhile isWhitespace = [] := by
    rw [List.eq_nil_iff_forall_not_mem]
    intro c member
    have blank := List.mem_rtakeWhile_imp member
    have slash := List.filter_eq_nil_iff.mp none c member
    have same : c = '/' := by simpa using slash
    rw [same] at blank
    exact absurd blank (by decide)
  rw [trim_of_slash absolute]
  rwa [empty,List.append_nil] at whole

theorem normalizeParent_joinSegments {names : List (List Char)} (named : Named names)
    (trimmed : trim (joinSegments names) = joinSegments names) : normalizeParent (joinSegments names) = joinSegments names := by
  rw [normalizeParent_of_slash (head?_joinSegments names),trimmed]
  cases names using List.reverseRecOn with
  | nil => rfl
  | append_singleton front last =>
    obtain ⟨nonempty,noSlash⟩ := named last (by simp)
    obtain ⟨init,c,rfl⟩ := (List.eq_nil_or_concat last).resolve_left nonempty
    have plain : c ≠ '/' := by
      intro slash
      exact noSlash (by simp [slash])
    have ends : joinSegments (front ++ [init.concat c]) = (front.flatMap (List.cons '/') ++ '/'::init) ++ [c] := by
      rw [joinSegments_eq (by simp),List.flatMap_append]
      simp
    rw [ends,List.rdropWhile_concat_neg _ _ _ (by simpa using plain),ite_self]

theorem infix_dropWhile {p : Char → Bool} {piece text : List Char} (nonempty : piece ≠ []) (kept : ∀ c ∈ piece, p c = false)
    (within : piece <:+: text) : piece <:+: text.dropWhile p := by
  induction text with
  | nil => exact within
  | cons c text ih =>
    by_cases dropped : p c = true
    · rw [List.dropWhile_cons_of_pos dropped]
      rcases List.infix_cons_iff.mp within with first | later
      · obtain ⟨d,piece,rfl⟩ := List.exists_cons_of_ne_nil nonempty
        obtain ⟨rest,whole⟩ := first
        obtain rfl := (List.cons.inj whole).1
        rw [kept d List.mem_cons_self] at dropped
        cases dropped
      · exact ih later
    · rwa [List.dropWhile_cons_of_neg dropped]

theorem infix_trim {piece text : List Char} (nonempty : piece ≠ []) (kept : ∀ c ∈ piece, isWhitespace c = false)
    (within : piece <:+: text) : piece <:+: trim text := by
  have front := infix_dropWhile nonempty kept within
  have nonempty' : piece.reverse ≠ [] := by simpa using nonempty
  have back := infix_dropWhile nonempty' (by simpa using kept) (List.reverse_infix.mpr front)
  rw [trim,← List.reverse_reverse piece]
  exact List.reverse_infix.mpr back

/-! The walk. -/

/-- All nodes asked for so far have children; only such nodes are opened. -/
def Opens (trail : List VirtualPathTreeNode) : Prop := ∀ node, trail.getLast? = some node → node.hasChildren = true

/-- A way down from the root, and the path where it ends. -/
inductive Trail (db : Db) (tieBreak : Nat → Nat) : List VirtualPathTreeNode → List Char → Prop
  | root : Trail db tieBreak [] ['/']
  | step {trail : List VirtualPathTreeNode} {parent : List Char} {nodes : List VirtualPathTreeNode}
      {node : VirtualPathTreeNode} (before : Trail db tieBreak trail parent) (opens : Opens trail)
      (answer : virtualPathTree db tieBreak (some parent) = .ok nodes) (shown : node ∈ nodes) :
      Trail db tieBreak (trail ++ [node]) node.path

/-- The route accepts what it returned, shows every level as it is, and leads to each item
of the listing in one way. -/
structure Walks (db : Db) (tieBreak : Nat → Nat) : Prop where
  accepted : ∀ trail path, Trail db tieBreak trail path → ∃ nodes, virtualPathTree db tieBreak (some path) = .ok nodes
  exact : ∀ trail path nodes, Trail db tieBreak trail path → Opens trail →
    virtualPathTree db tieBreak (some path) = .ok nodes → Exact path (virtualPaths db tieBreak) nodes
  reached : ∀ lastScannedAt request, ∀ item ∈ (db.listTrackingItems tieBreak lastScannedAt request).1, ∀ path,
    item.virtualPath = some path → ∃! trail, trail ≠ [] ∧ Trail db tieBreak trail path.toList

/-- The path is its components, each after a slash. -/
def Joined (path : List Char) : Prop := components path ≠ [] ∧ path = joinSegments (components path)

/-- What the walk asks of the paths' texts: components joined by single slashes, no two dots in a row, parents
in ASCII that do not end in a blank, and none of them, in any letter case or as a pattern, at the beginning of a
path that lies elsewhere. -/
structure Walkable (paths : List (List Char)) : Prop where
  joined : ∀ path ∈ paths, Joined path
  dots : ∀ path ∈ paths, ¬['.','.'] <:+: path
  parents : ∀ path ∈ paths, ∀ front name back, components path = front ++ name::back →
    trim (joinSegments front) = joinSegments front ∧ Ascii (joinSegments front)
  branches : ∀ path ∈ paths, ∀ front name back, components path = front ++ name::back →
    ∀ other ∈ paths, next (joinSegments front) other = none → ¬Taken (searchPrefix (joinSegments front)) other

/-! The texts of joined paths. -/

theorem searchPrefix_joinSegments {front : List (List Char)} (named : Named front) :
    searchPrefix (joinSegments front) = front.flatMap (List.cons '/') ++ ['/'] := by
  unfold searchPrefix
  cases front with
  | nil => rfl
  | cons first rest =>
    have other : joinSegments (first::rest) ≠ ['/'] := by
      intro root
      have none := components_joinSegments named
      rw [root,components_root] at none
      cases none
    rw [if_neg other,joinSegments_eq (List.cons_ne_nil _ _)]

theorem flatMap_split {names : List (List Char)} (named : Named names) {front rest : List Char}
    (whole : names.flatMap (List.cons '/') = front ++ '/'::rest) :
    ∃ before name after, names = before ++ name::after ∧ front = before.flatMap (List.cons '/') ∧
      rest = name ++ after.flatMap (List.cons '/') := by
  induction names generalizing front with
  | nil => simp at whole
  | cons first names ih =>
    have later : Named names := fun name member => named name (List.mem_cons_of_mem _ member)
    rw [List.flatMap_cons,List.cons_append] at whole
    cases front with
    | nil => exact ⟨[],first,names,rfl,rfl,(List.cons.inj whole).2.symm⟩
    | cons c front =>
      obtain ⟨rfl,behind⟩ := List.cons.inj whole
      rcases List.append_eq_append_iff.mp behind with ⟨more,rfl,further⟩ | ⟨more,own,further⟩
      · obtain ⟨before,name,after,rfl,rfl,rfl⟩ := ih later further
        exact ⟨first::before,name,after,rfl,rfl,rfl⟩
      · cases more with
        | nil =>
          have start : names.flatMap (List.cons '/') = [] ++ '/'::rest := further.symm
          obtain ⟨before,name,after,rfl,empty,rfl⟩ := ih later start
          refine ⟨first::before,name,after,rfl,?_,rfl⟩
          rw [List.flatMap_cons,← empty,own]
          simp
        | cons d more =>
          obtain ⟨rfl,_⟩ := List.cons.inj further
          exact absurd (by rw [own]; simp) (named first List.mem_cons_self).2

theorem Joined.split {path front rest : List Char} (joined : Joined path) (whole : path = front ++ '/'::rest) :
    ∃ before name after, components path = before ++ name::after ∧ front = before.flatMap (List.cons '/') ∧
      rest = name ++ after.flatMap (List.cons '/') := by
  refine flatMap_split (named_components path) ?_
  rw [← joinSegments_eq joined.1,← joined.2,whole]

theorem components_tail {first : List Char} {rest : List (List Char)} (named : Named (first::rest)) :
    components (first ++ rest.flatMap (List.cons '/')) = first::rest := by
  have whole := components_joinSegments named
  rw [joinSegments_eq (List.cons_ne_nil _ _),List.flatMap_cons] at whole
  exact (components_append_slash [] _).symm.trans whole

theorem goesOn_of_next {front : List (List Char)} (named : Named front) {path name : List Char} {deeper : Bool}
    (joined : Joined path) (should : next (joinSegments front) path = some (name,deeper)) :
    GoesOn (searchPrefix (joinSegments front)) path := by
  obtain ⟨back,parts,_⟩ := next_some.mp should
  rw [components_joinSegments named] at parts
  have all : Named (front ++ name::back) := parts ▸ named_components path
  have own := all name (by simp)
  refine ⟨name,back.flatMap (List.cons '/'),?_,own.1,own.2,?_⟩
  · rw [searchPrefix_joinSegments named]
    refine joined.2.trans ?_
    rw [joinSegments_eq joined.1,parts,List.flatMap_append,List.flatMap_cons,List.append_assoc]
    rfl
  · cases back with
    | nil => exact .inl rfl
    | cons first rest =>
      have deeper : Named (first::rest) := fun name member => all name (by simp [List.mem_cons.mp member])
      refine .inr ⟨first ++ rest.flatMap (List.cons '/'),rfl,?_⟩
      rw [components_tail deeper]
      exact List.cons_ne_nil _ _

theorem taken_of_next {front : List (List Char)} (named : Named front) {path name : List Char} {deeper : Bool}
    (joined : Joined path) (should : next (joinSegments front) path = some (name,deeper)) :
    Taken (searchPrefix (joinSegments front)) path := by
  obtain ⟨_,_,whole,_⟩ := goesOn_of_next named joined should
  exact ⟨_,_,whole,.refl _⟩

/-- What a parent without `%` takes of a joined path: some of its components, and as many characters. -/
theorem Taken.split {front : List (List Char)} (named : Named front) {path : List Char} (joined : Joined path)
    (taken : Taken (searchPrefix (joinSegments front)) path) (plain : '%' ∉ joinSegments front) :
    ∃ before name after, components path = before ++ name::after ∧
      Stands (front.flatMap (List.cons '/')) (before.flatMap (List.cons '/')) ∧
      ∀ more, path.drop ((searchPrefix (joinSegments front)).length + more) =
        (name ++ after.flatMap (List.cons '/')).drop more := by
  rw [searchPrefix_joinSegments named] at taken ⊢
  obtain ⟨text,back,whole,stands⟩ := taken
  obtain ⟨first,rest,rfl,ahead,none⟩ := stands.split
  cases none
  rw [List.append_assoc,List.singleton_append] at whole
  obtain ⟨before,name,after,parts,rfl,rfl⟩ := joined.split whole
  have unescaped : '%' ∉ front.flatMap (List.cons '/') := by
    cases front with
    | nil => exact List.not_mem_nil
    | cons first rest => rwa [joinSegments_eq (List.cons_ne_nil _ _)] at plain
  refine ⟨before,name,after,parts,ahead,fun more => ?_⟩
  have length : (front.flatMap (List.cons '/') ++ ['/']).length = (before.flatMap (List.cons '/') ++ ['/']).length := by
    rw [List.length_append,List.length_append,ahead.length_eq unescaped]
  have cut : path = (before.flatMap (List.cons '/') ++ ['/']) ++ (name ++ after.flatMap (List.cons '/')) := by
    rw [whole,List.append_assoc]
    rfl
  rw [cut,length,List.drop_append]
  simp

section
variable {db : Db} {tieBreak : Nat → Nat}

theorem virtualPathTree_ok {path : List Char} (absolute : path.head? = some '/') {nodes : List VirtualPathTreeNode} :
    virtualPathTree db tieBreak (some path) = .ok nodes ↔
      ¬['.','.'] <:+: trim path ∧ nodes = treeNodes (virtualPaths db tieBreak) path := by
  have head := head?_trim absolute
  have asked : requestedParent (some path) = trim path := by
    unfold requestedParent
    rw [Option.map_some]
    split
    · rename_i empty
      cases empty
    · rename_i empty
      rw [Option.some.inj empty] at head
      cases head
    · rename_i text _ same
      exact (Option.some.inj same).symm
  have same : treeNodes (virtualPaths db tieBreak) (trim path) = treeNodes (virtualPaths db tieBreak) path := by
    rw [treeNodes,treeNodes,normalizeParent_trim]
  rw [virtualPathTree,asked,if_neg (by simp [head]),listVirtualPathTreeNodes,same]
  split
  · rename_i dots
    refine iff_of_false (fun ok => by cases ok) fun both => both.1 dots
  · rename_i plain
    constructor
    · intro ok
      exact ⟨plain,(Except.ok.inj ok).symm⟩
    · rintro ⟨_,rfl⟩
      rfl

theorem treeNodes_inj {paths : List (List Char)} {parent : List Char} {a b : VirtualPathTreeNode}
    (first : a ∈ treeNodes paths parent) (second : b ∈ treeNodes paths parent) (same : a.name = b.name) : a = b :=
  List.inj_on_of_nodup_map (treeNodes_once paths parent) first second same

/-- The components on a way down. -/
def names (trail : List VirtualPathTreeNode) : List (List Char) := trail.map VirtualPathTreeNode.name

theorem names_snoc (trail : List VirtualPathTreeNode) (node : VirtualPathTreeNode) :
    names (trail ++ [node]) = names trail ++ [node.name] := List.map_append

/-! A walk over paths that fit. -/

theorem Walkable.fits {paths : List (List Char)} (walkable : Walkable paths) {path : List Char} (present : path ∈ paths)
    {front back : List (List Char)} {name : List Char} (whole : components path = front ++ name::back)
    {other : List Char} (also : other ∈ paths) : Fits (joinSegments front) other := by
  have named : Named front := (whole ▸ named_components path : Named (front ++ name::back)).left
  obtain ⟨trimmed,ascii⟩ := walkable.parents path present front name back whole
  have spelled := normalizeParent_joinSegments named trimmed
  apply Legible.fits
  cases shown : next (joinSegments front) other with
  | none =>
    refine .apart shown ?_
    rw [spelled]
    exact walkable.branches path present front name back whole other also shown
  | some entry =>
    refine .below (by rw [spelled]) (by rwa [spelled]) ?_
    rw [spelled]
    exact goesOn_of_next named (walkable.joined other also) shown

/-- Where a walk is: at the text of its names, which are those of some path. -/
structure OnWay (paths : List (List Char)) (trail : List VirtualPathTreeNode) (path : List Char) : Prop where
  text : path = joinSegments (names trail)
  named : Named (names trail)
  trimmed : Opens trail → trim path = path
  fits : Opens trail → ∀ other ∈ paths, Fits path other
  below : trail ≠ [] → ∃ other ∈ paths, names trail <+: components other

theorem onWay_root {paths : List (List Char)} (walkable : Walkable paths) : OnWay paths [] ['/'] := by
  constructor
  · rfl
  · intro name member
    cases member
  · intro _
    decide
  · intro _ other also
    cases whole : components other with
    | nil => exact absurd whole (walkable.joined other also).1
    | cons name back =>
      have here : components other = [] ++ name::back := whole
      exact walkable.fits also here also
  · intro none
    exact absurd rfl none

theorem OnWay.step {paths : List (List Char)} (walkable : Walkable paths) {trail : List VirtualPathTreeNode}
    {parent : List Char} (way : OnWay paths trail parent) (opens : Opens trail) {node : VirtualPathTreeNode}
    (shown : node ∈ treeNodes paths parent) : OnWay paths (trail ++ [node]) node.path := by
  have exact := exact_of_fits (way.fits opens)
  have spelled : normalizeParent parent = parent := by
    have trimmed := way.trimmed opens
    rw [way.text] at trimmed ⊢
    exact normalizeParent_joinSegments way.named trimmed
  have text : node.path = joinSegments (names (trail ++ [node])) := by
    rw [treeNodes_path shown,spelled,way.text,childPath_joinSegments way.named,names_snoc]
  obtain ⟨path,present,deeper,should⟩ := (exact.names node.name).mp (List.mem_map_of_mem shown)
  obtain ⟨back,whole,_⟩ := next_some.mp should
  rw [way.text,components_joinSegments way.named] at whole
  have named : Named (names (trail ++ [node])) := by
    rw [names_snoc]
    apply way.named.append
    intro name member
    rw [List.mem_singleton.mp member]
    exact treeNodes_name shown
  -- A node with children is the front of a longer path.
  have longer (more : Opens (trail ++ [node])) : ∃ other ∈ paths, ∃ name rest,
      components other = names (trail ++ [node]) ++ name::rest := by
    have children := more node (by simp)
    obtain ⟨other,also,goes⟩ := (exact.children node shown).mp children
    obtain ⟨rest,parts,nonempty⟩ := next_some.mp goes
    rw [way.text,components_joinSegments way.named] at parts
    cases rest with
    | nil => cases nonempty
    | cons name rest => exact ⟨other,also,name,rest,by rw [parts,names_snoc,List.append_assoc]; rfl⟩
  constructor
  · exact text
  · exact named
  · intro more
    obtain ⟨other,also,name,rest,parts⟩ := longer more
    rw [text]
    exact (walkable.parents other also _ name rest parts).1
  · intro more
    obtain ⟨other,also,name,rest,parts⟩ := longer more
    intro third listed
    rw [text]
    exact walkable.fits also parts listed
  · intro _
    refine ⟨path,present,back,?_⟩
    rw [names_snoc,whole,List.append_assoc]
    rfl

theorem OnWay.absolute {paths : List (List Char)} {trail : List VirtualPathTreeNode} {path : List Char}
    (place : OnWay paths trail path) : path.head? = some '/' := by
  rw [place.text]
  exact head?_joinSegments _

theorem Trail.onWay {trail : List VirtualPathTreeNode} {path : List Char} (way : Trail db tieBreak trail path)
    (walkable : Walkable (virtualPaths db tieBreak)) : OnWay (virtualPaths db tieBreak) trail path := by
  induction way with
  | root => exact onWay_root walkable
  | step before opens answer shown ih =>
    obtain ⟨_,rfl⟩ := (virtualPathTree_ok ih.absolute).mp answer
    exact ih.step walkable opens shown

/-- What a walk comes to the route accepts. -/
theorem Trail.accepted {trail : List VirtualPathTreeNode} {path : List Char} (way : Trail db tieBreak trail path)
    (walkable : Walkable (virtualPaths db tieBreak)) :
    virtualPathTree db tieBreak (some path) = .ok (treeNodes (virtualPaths db tieBreak) path) := by
  have place := way.onWay walkable
  refine (virtualPathTree_ok place.absolute).mpr ⟨?_,rfl⟩
  have inside : trim path <:+: path :=
    (List.rdropWhile_prefix isWhitespace _).isInfix.trans (List.dropWhile_suffix isWhitespace).isInfix
  intro dots
  cases trail with
  | nil =>
    rw [place.text] at dots
    exact absurd dots (by decide)
  | cons node rest =>
    obtain ⟨other,also,back,whole⟩ := place.below (List.cons_ne_nil _ _)
    apply walkable.dots other also
    refine (dots.trans inside).trans ?_
    rw [place.text,(walkable.joined other also).2,← whole]
    exact (joinSegments_begins (List.cons_ne_nil _ _)).isInfix

theorem trail_to_front (walkable : Walkable (virtualPaths db tieBreak)) {path : List Char}
    (present : path ∈ virtualPaths db tieBreak) (front back : List (List Char)) (whole : components path = front ++ back) :
    ∃ trail, Trail db tieBreak trail (joinSegments front) ∧ names trail = front ∧ (back ≠ [] → Opens trail) := by
  induction front using List.reverseRecOn generalizing back with
  | nil => exact ⟨[],.root,rfl,fun _ node none => by cases none⟩
  | append_singleton front name ih =>
    have parts : components path = front ++ name::back := by rw [whole,List.append_assoc]; rfl
    obtain ⟨trail,way,same,opens⟩ := ih (name::back) parts
    have open' := opens (List.cons_ne_nil _ _)
    have place := way.onWay walkable
    have exact := exact_of_fits (place.fits open')
    have named : Named front := same ▸ place.named
    have should : next (joinSegments front) path = some (name,!back.isEmpty) :=
      next_some.mpr ⟨back,by rw [components_joinSegments named,parts],rfl⟩
    obtain ⟨node,shown,rfl⟩ := List.mem_map.mp ((exact.names name).mpr ⟨path,present,_,should⟩)
    have further := Trail.step way open' (way.accepted walkable) shown
    have text := (further.onWay walkable).text
    rw [names_snoc,same] at text
    rw [text] at further
    refine ⟨trail ++ [node],further,by rw [names_snoc,same],?_⟩
    intro more last ends
    rw [List.getLast?_append,List.getLast?_singleton] at ends
    obtain rfl := Option.some.inj ends
    apply (exact.children node shown).mpr
    refine ⟨path,present,?_⟩
    rw [should]
    cases back with
    | nil => exact absurd rfl more
    | cons _ _ => rfl

theorem trail_unique (walkable : Walkable (virtualPaths db tieBreak)) {trail other : List VirtualPathTreeNode}
    {path place : List Char} (first : Trail db tieBreak trail path) (second : Trail db tieBreak other place)
    (same : names trail = names other) : trail = other := by
  induction first generalizing other place with
  | root => exact (List.map_eq_nil_iff.mp same.symm).symm
  | step before opens answer shown ih =>
    cases second with
    | root =>
      rw [names_snoc] at same
      exact absurd same (by simp [names])
    | step before' opens' answer' shown' =>
      rw [names_snoc,names_snoc] at same
      obtain ⟨front,last⟩ := List.append_inj' same rfl
      obtain rfl := ih before' front
      have text := (before.onWay walkable).text.trans (before'.onWay walkable).text.symm
      subst text
      rw [answer] at answer'
      obtain rfl := Except.ok.inj answer'
      obtain ⟨_,rfl⟩ := (virtualPathTree_ok (before.onWay walkable).absolute).mp answer
      rw [treeNodes_inj shown shown' (List.cons.inj last).1]

theorem mem_virtualPaths_of_listed {lastScannedAt : Nat → Option Nat} {request : TrackingRequest} {item : TrackingItem}
    (listed : item ∈ (db.listTrackingItems tieBreak lastScannedAt request).1) {path : String}
    (has : item.virtualPath = some path) : path.toList ∈ virtualPaths db tieBreak := by
  apply List.mem_map_of_mem
  rcases Db.mem_trackingItems (Db.mem_listTrackingItems listed) with ⟨file,present,rfl⟩ | ⟨folder,present,rfl⟩
  · exact List.mem_append_left _ (List.mem_filterMap.mpr ⟨file,present,has⟩)
  · exact List.mem_append_right _ (List.mem_filterMap.mpr ⟨folder,present,has⟩)

theorem walks_of_walkable (walkable : Walkable (virtualPaths db tieBreak)) : Walks db tieBreak := by
  constructor
  · intro trail path way
    exact ⟨_,way.accepted walkable⟩
  · intro trail path nodes way opens answer
    rw [way.accepted walkable] at answer
    obtain rfl := Except.ok.inj answer
    exact exact_of_fits ((way.onWay walkable).fits opens)
  · intro lastScannedAt request item listed path has
    have present := mem_virtualPaths_of_listed listed has
    obtain ⟨some,text⟩ := walkable.joined _ present
    obtain ⟨trail,way,same,_⟩ := trail_to_front walkable present (components path.toList) [] (by simp)
    rw [← text] at way
    refine ⟨trail,⟨?_,way⟩,?_⟩
    · rintro rfl
      exact some same.symm
    · rintro other ⟨_,second⟩
      apply trail_unique walkable second way
      have text := (second.onWay walkable).text
      rw [same,text,components_joinSegments (second.onWay walkable).named]

/-! What a walk that is right says of the paths. -/

theorem spelled_of_exact {front : List (List Char)} (named : Named front) {paths : List (List Char)}
    (exact : Exact (joinSegments front) paths (treeNodes paths (joinSegments front))) {node : VirtualPathTreeNode}
    (shown : node ∈ treeNodes paths (joinSegments front)) :
    trim (joinSegments front) = joinSegments front ∧ node.path = joinSegments (front ++ [node.name]) := by
  obtain ⟨nonempty,noSlash⟩ := treeNodes_name shown
  have full := exact.full node shown
  rw [treeNodes_path shown,components_childPath nonempty noSlash] at full
  have same := List.append_cancel_right full
  rw [components_normalizeParent (head?_joinSegments front)] at same
  have trimmed := trim_of_components (head?_joinSegments front) same
  refine ⟨trimmed,?_⟩
  rw [treeNodes_path shown,normalizeParent_joinSegments named trimmed,childPath_joinSegments named]

theorem Walks.text (walks : Walks db tieBreak) {trail : List VirtualPathTreeNode} {path : List Char}
    (way : Trail db tieBreak trail path) : path = joinSegments (names trail) ∧ Named (names trail) := by
  induction way with
  | root => exact ⟨rfl,fun _ member => by cases member⟩
  | step before opens answer shown ih =>
    obtain ⟨rfl,named⟩ := ih
    have exact := walks.exact _ _ _ before opens answer
    obtain ⟨_,rfl⟩ := (virtualPathTree_ok (head?_joinSegments _)).mp answer
    rw [names_snoc]
    refine ⟨(spelled_of_exact named exact shown).2,named.append ?_⟩
    intro name member
    rw [List.mem_singleton.mp member]
    exact treeNodes_name shown

theorem Walks.level (walks : Walks db tieBreak) {trail : List VirtualPathTreeNode} {path : List Char}
    (way : Trail db tieBreak trail path) (opens : Opens trail) :
    virtualPathTree db tieBreak (some path) = .ok (treeNodes (virtualPaths db tieBreak) path) ∧
      Exact path (virtualPaths db tieBreak) (treeNodes (virtualPaths db tieBreak) path) := by
  obtain ⟨nodes,answer⟩ := walks.accepted _ _ way
  have exact := walks.exact _ _ _ way opens answer
  have absolute : path.head? = some '/' := by
    rw [(walks.text way).1]
    exact head?_joinSegments _
  obtain ⟨_,rfl⟩ := (virtualPathTree_ok absolute).mp answer
  exact ⟨answer,exact⟩

theorem Walks.to_front (walks : Walks db tieBreak) {path : List Char} (present : path ∈ virtualPaths db tieBreak)
    (front : List (List Char)) (name : List Char) (back : List (List Char)) (whole : components path = front ++ name::back) :
    ∃ trail, Trail db tieBreak trail (joinSegments front) ∧ Opens trail := by
  induction front using List.reverseRecOn generalizing name back with
  | nil => exact ⟨[],.root,fun node none => by cases none⟩
  | append_singleton front last ih =>
    have parts : components path = front ++ last::name::back := by rw [whole,List.append_assoc]; rfl
    have named : Named front := (parts ▸ named_components path : Named (front ++ last::name::back)).left
    obtain ⟨trail,way,opens⟩ := ih last (name::back) parts
    obtain ⟨answer,exact⟩ := walks.level way opens
    have should : next (joinSegments front) path = some (last,true) :=
      next_some.mpr ⟨name::back,by rw [components_joinSegments named,parts],rfl⟩
    obtain ⟨node,shown,rfl⟩ := List.mem_map.mp ((exact.names last).mpr ⟨path,present,_,should⟩)
    have further := Trail.step way opens answer shown
    rw [(spelled_of_exact named exact shown).2] at further
    refine ⟨trail ++ [node],further,?_⟩
    intro other ends
    rw [List.getLast?_append,List.getLast?_singleton] at ends
    obtain rfl := Option.some.inj ends
    exact (exact.children node shown).mpr ⟨path,present,should⟩

theorem Walks.at_front (walks : Walks db tieBreak) {path : List Char} (present : path ∈ virtualPaths db tieBreak)
    {front back : List (List Char)} {name : List Char} (whole : components path = front ++ name::back) :
    trim (joinSegments front) = joinSegments front ∧
      Exact (joinSegments front) (virtualPaths db tieBreak) (treeNodes (virtualPaths db tieBreak) (joinSegments front)) := by
  have named : Named front := (whole ▸ named_components path : Named (front ++ name::back)).left
  obtain ⟨trail,way,opens⟩ := walks.to_front present front name back whole
  obtain ⟨_,exact⟩ := walks.level way opens
  have should : next (joinSegments front) path = some (name,!back.isEmpty) :=
    next_some.mpr ⟨back,by rw [components_joinSegments named,whole],rfl⟩
  obtain ⟨node,shown,_⟩ := List.mem_map.mp ((exact.names name).mpr ⟨path,present,_,should⟩)
  exact ⟨(spelled_of_exact named exact shown).1,exact⟩

end

/-! What a level that is right says of the paths. -/

theorem count_names {parent : List Char} {paths : List (List Char)} (exact : Exact parent paths (treeNodes paths parent))
    (name : List Char) :
    (segments paths parent).countP (·.1 == name) = paths.countP (fun path => (next parent path).any (·.1 == name)) := by
  by_cases listed : name ∈ (treeNodes paths parent).map VirtualPathTreeNode.name
  · obtain ⟨node,member,rfl⟩ := List.mem_map.mp listed
    rw [← exact.count node member,mem_treeNodes member]
    rfl
  · rw [List.countP_eq_zero.mpr,List.countP_eq_zero.mpr]
    · intro path present shown
      obtain ⟨⟨other,deeper⟩,should,same⟩ := Option.any_eq_true _ _ |>.mp shown
      rw [beq_iff_eq] at same
      exact listed ((exact.names name).mpr ⟨path,present,deeper,same ▸ should⟩)
    · rintro ⟨other,deeper⟩ present same
      rw [beq_iff_eq] at same
      exact listed (mem_treeNodes_names.mpr ⟨deeper,same ▸ present⟩)

theorem count_shown {parent : List Char} {paths : List (List Char)} (exact : Exact parent paths (treeNodes paths parent)) :
    paths.countP (fun path => (segment (searchPrefix (normalizeParent parent)) path).isSome) =
      paths.countP (fun path => (next parent path).isSome) := by
  have perm : ((segments paths parent).map Prod.fst).Perm ((paths.filterMap (next parent)).map Prod.fst) := by
    rw [List.perm_iff_count]
    intro name
    have counts := count_names exact name
    rw [List.count_eq_countP,List.count_eq_countP,List.countP_map,List.countP_map,List.countP_filterMap]
    refine counts.trans ?_
    congr 1
    funext path
    cases next parent path <;> rfl
  have length := perm.length_eq
  rw [List.length_map,List.length_map,segments,List.length_filterMap_eq_countP,List.length_filterMap_eq_countP] at length
  exact length

theorem all_of_countP {α : Type} {p q : α → Bool} {list : List α} (less : ∀ a ∈ list, q a = true → p a = true)
    (same : list.countP p = list.countP q) : ∀ a ∈ list, p a = true → q a = true := by
  induction list with
  | nil => exact fun a member => absurd member List.not_mem_nil
  | cons a list ih =>
    have later : ∀ b ∈ list, q b = true → p b = true := fun b member => less b (List.mem_cons_of_mem _ member)
    have fewer : list.countP q ≤ list.countP p := List.countP_mono_left later
    have own := less a List.mem_cons_self
    rw [List.countP_cons,List.countP_cons] at same
    intro b member holds
    rcases List.mem_cons.mp member with rfl | member
    · by_contra other
      rw [if_pos holds,if_neg other] at same
      omega
    · refine ih later ?_ b member holds
      split at same
      · split at same
        · exact Nat.succ.inj same
        · omega
      · rename_i hidden
        rw [if_neg (mt own hidden)] at same
        exact same

section
variable {front : List (List Char)} (named : Named front) (trimmed : trim (joinSegments front) = joinSegments front)
  (plain : '%' ∉ joinSegments front) {paths : List (List Char)} (joined : ∀ path ∈ paths, Joined path)
include named trimmed plain joined

theorem legible_of_exact (ascii : Ascii (joinSegments front))
    (exact : Exact (joinSegments front) paths (treeNodes paths (joinSegments front))) :
    ∀ path ∈ paths, Legible (joinSegments front) path := by
  have spelled := normalizeParent_joinSegments named trimmed
  have bytes : byteLength (searchPrefix (joinSegments front)) = (searchPrefix (joinSegments front)).length :=
    byteLength_ascii.mpr (ascii_searchPrefix.mpr ascii)
  have shown {path : List Char} (present : path ∈ paths) (taken : Taken (searchPrefix (joinSegments front)) path) :
      (segment (searchPrefix (joinSegments front)) path).isSome = true := by
    obtain ⟨before,name,after,parts,_,cut⟩ := taken.split named (joined path present) plain
    have all : Named (before ++ name::after) := parts ▸ named_components path
    have own := all name (by simp)
    refine Option.isSome_iff_exists.mpr ⟨(name,!after.isEmpty),segment_some.mpr ⟨own,likes_iff.mpr taken,
      after.flatMap (List.cons '/'),by rw [bytes]; exact cut 0,?_⟩⟩
    cases after with
    | nil => exact .inr ⟨rfl,rfl⟩
    | cons _ _ => exact .inl ⟨rfl,rfl⟩
  have counts := count_shown exact
  rw [spelled] at counts
  intro path present
  cases should : next (joinSegments front) path with
  | some entry =>
    refine .below (by rw [spelled]) (by rwa [spelled]) ?_
    rw [spelled]
    exact goesOn_of_next named (joined path present) should
  | none =>
    refine .apart should ?_
    rw [spelled]
    intro taken
    have extra := all_of_countP (fun other also below => ?_) counts path present (shown present taken)
    · rw [should] at extra
      cases extra
    · obtain ⟨entry,should⟩ := Option.isSome_iff_exists.mp below
      exact shown also (taken_of_next named (joined other also) should)

end

theorem ascii_flatMap {names : List (List Char)} :
    Ascii (names.flatMap (List.cons '/')) ↔ ∀ name ∈ names, Ascii name := by
  unfold Ascii
  simp only [List.mem_flatMap,List.mem_cons]
  constructor
  · exact fun ascii name member c inside => ascii c ⟨name,member,.inr inside⟩
  · rintro ascii c ⟨name,member,rfl | inside⟩
    · decide
    · exact ascii name member c inside

theorem ascii_joinSegments {names : List (List Char)} : Ascii (joinSegments names) ↔ ∀ name ∈ names, Ascii name := by
  cases names with
  | nil =>
    refine iff_of_true (fun c member => ?_) fun name member => absurd member List.not_mem_nil
    rw [List.mem_singleton.mp member]
    decide
  | cons first rest => rw [joinSegments_eq (List.cons_ne_nil _ _),ascii_flatMap]

theorem toLower_beyond {c d : Char} (beyond : ¬c.val.toNat < 128) (folded : c.toLower = d.toLower) : d = c := by
  have own : c.toLower = c := by
    unfold Char.toLower
    rw [dif_neg]
    intro upper
    have low : c.val.toNat ≤ 90 := upper.2
    omega
  exact toLower_mark (.inr (by omega)) (folded.symm.trans own)

theorem stands_beyond {pattern text : List Char} (stands : Stands pattern text) (beyond : ¬Ascii pattern) : ¬Ascii text := by
  simp only [Ascii,not_forall] at beyond ⊢
  obtain ⟨c,member,high⟩ := beyond
  refine ⟨c,stands.mem (fun d => toLower_beyond high) ⟨?_,?_⟩ member,high⟩
  · rintro rfl
    exact high (by decide)
  · rintro rfl
    exact high (by decide)

theorem count_slash_flatMap {names : List (List Char)} (named : Named names) :
    (names.flatMap (List.cons '/')).count '/' = names.length := by
  induction names with
  | nil => rfl
  | cons first rest ih =>
    rw [List.flatMap_cons,List.count_append,List.count_cons_self,List.count_eq_zero.mpr (named first List.mem_cons_self).2,
      ih fun name member => named name (List.mem_cons_of_mem _ member),List.length_cons]
    omega

/-- How many components a path has, and then how long the last one is. -/
def extent (path : List Char) : Nat ×ₗ Nat :=
  toLex ((components path).length,((components path).getLast?.getD []).length)

theorem extent_le {front before after : List (List Char)} {last name : List Char} {path other : List Char}
    (whole : components path = front ++ [last]) (pieces : components other = before ++ name::after)
    (deeper : front.length ≤ before.length) (most : extent other ≤ extent path) :
    after = [] ∧ name.length ≤ last.length := by
  rw [extent,extent,whole,pieces,Prod.Lex.toLex_le_toLex] at most
  simp only [List.length_append,List.length_cons,List.length_nil,List.getLast?_append,List.getLast?_singleton,
    Option.some_or,Option.getD_some] at most
  rcases most with fewer | ⟨same,shorter⟩
  · omega
  · obtain rfl : after = [] := List.length_eq_zero_iff.mp (by omega)
    exact ⟨rfl,shorter⟩

/-- A walk over paths without `%` asks for no parent with a character beyond ASCII: of the longest paths below
such parents, the one with the longest name would be cut short. -/
theorem Walks.ascii (walks : Walks db tieBreak) (joined : ∀ path ∈ virtualPaths db tieBreak, Joined path)
    (plain : ∀ path ∈ virtualPaths db tieBreak, '%' ∉ path) {path : List Char} (present : path ∈ virtualPaths db tieBreak)
    {front back : List (List Char)} {name : List Char} (whole : components path = front ++ name::back) :
    Ascii (joinSegments front) := by
  classical
  by_contra beyond
  let under : List Char → Prop := fun path => ¬Ascii (joinSegments (components path).dropLast)
  have inside {path : List Char} {front back : List (List Char)} {name : List Char}
      (whole : components path = front ++ name::back) (beyond : ¬Ascii (joinSegments front)) : under path := by
    intro ascii
    rw [ascii_joinSegments,whole,List.dropLast_append_of_ne_nil (List.cons_ne_nil _ _)] at ascii
    exact beyond (ascii_joinSegments.mpr fun name member => ascii name (List.mem_append_left _ member))
  obtain ⟨longest,among,most⟩ := ((virtualPaths db tieBreak).toFinset.filter under).exists_max_image extent
    ⟨path,Finset.mem_filter.mpr ⟨List.mem_toFinset.mpr present,inside whole beyond⟩⟩
  obtain ⟨listed,below⟩ := Finset.mem_filter.mp among
  rw [List.mem_toFinset] at listed
  obtain ⟨parent,last,parts⟩ := (List.eq_nil_or_concat (components longest)).resolve_left (joined longest listed).1
  rw [List.concat_eq_append] at parts
  have named : Named parent := (parts ▸ named_components longest : Named (parent ++ [last])).left
  have high : ¬Ascii (joinSegments parent) := by
    have text := below
    simp only [under,parts,List.dropLast_concat] at text
    exact text
  obtain ⟨trimmed,exact⟩ := walks.at_front listed parts
  have should : next (joinSegments parent) longest = some (last,false) :=
    next_some.mpr ⟨[],by rw [components_joinSegments named,parts],rfl⟩
  obtain ⟨deeper,grouped⟩ := mem_treeNodes_names.mp ((exact.names last).mpr ⟨longest,listed,_,should⟩)
  obtain ⟨other,also,shown⟩ := List.mem_filterMap.mp grouped
  rw [normalizeParent_joinSegments named trimmed] at shown
  obtain ⟨⟨nonempty,_⟩,like,tail,cut,_⟩ := segment_some.mp shown
  have unescaped : '%' ∉ joinSegments parent := by
    cases parent with
    | nil => decide
    | cons first rest =>
      intro member
      apply plain longest listed
      rw [(joined longest listed).2,parts]
      exact (joinSegments_begins (List.cons_ne_nil _ _)).subset member
  obtain ⟨before,name,after,pieces,stands,cuts⟩ := (likes_iff.mp like).split named (joined other also) unescaped
  have far : ¬Ascii (joinSegments before) := by
    rw [ascii_joinSegments,← ascii_flatMap]
    apply stands_beyond stands
    rwa [ascii_flatMap,← ascii_joinSegments]
  have deeper : parent.length ≤ before.length := by
    have slashes := stands.count_slash
    rwa [count_slash_flatMap named,count_slash_flatMap (pieces ▸ named_components other : Named (before ++ name::after)).left]
      at slashes
  obtain ⟨rfl,short⟩ := extent_le parts pieces deeper
    (most other (Finset.mem_filter.mpr ⟨List.mem_toFinset.mpr also,inside pieces far⟩))
  -- The parent has more bytes than characters, so that the cut takes some of the name.
  have bytes := length_le_byteLength (searchPrefix (joinSegments parent))
  have more : byteLength (searchPrefix (joinSegments parent)) ≠ (searchPrefix (joinSegments parent)).length :=
    fun same => high (ascii_searchPrefix.mp (byteLength_ascii.mp same))
  have rest := cuts (byteLength (searchPrefix (joinSegments parent)) - (searchPrefix (joinSegments parent)).length)
  rw [Nat.add_sub_cancel' bytes,cut,List.flatMap_nil,List.append_nil] at rest
  have lengths := congrArg List.length rest
  rw [List.length_append,List.length_drop] at lengths
  have some := List.length_pos_of_ne_nil nonempty
  omega

/-- Every file and folder. -/
def everything : TrackingRequest := ⟨none,none,none,none,none,none,1,1⟩

theorem listed_of_mem_virtualPaths {db : Db} {tieBreak : Nat → Nat} {path : List Char}
    (present : path ∈ virtualPaths db tieBreak) (lastScannedAt : Nat → Option Nat) :
    ∃ request, ∃ item ∈ (db.listTrackingItems tieBreak lastScannedAt request).1,
      ∃ text, item.virtualPath = some text ∧ text.toList = path := by
  obtain ⟨text,member,rfl⟩ := List.mem_map.mp present
  have row : ∃ item ∈ db.trackingItems tieBreak lastScannedAt everything, item.virtualPath = some text := by
    rcases List.mem_append.mp member with files | folders
    · obtain ⟨file,listed,has⟩ := List.mem_filterMap.mp files
      refine ⟨db.fileItem tieBreak file,List.mem_append_left _ ?_,has⟩
      exact List.mem_map_of_mem (List.mem_filter.mpr ⟨listed,rfl⟩)
    · obtain ⟨folder,listed,has⟩ := List.mem_filterMap.mp folders
      refine ⟨db.folderItem lastScannedAt folder,List.mem_append_right _ ?_,has⟩
      exact List.mem_map_of_mem (List.mem_filter.mpr ⟨listed,rfl⟩)
  obtain ⟨item,listed,has⟩ := row
  obtain ⟨page,onPage⟩ := Db.mem_page_of_mem listed
  exact ⟨_,item,onPage,text,has,rfl⟩

theorem walkable_of_walks {db : Db} {tieBreak : Nat → Nat} (walks : Walks db tieBreak)
    (plain : ∀ path ∈ virtualPaths db tieBreak, '%' ∉ path) : Walkable (virtualPaths db tieBreak) := by
  have arrives {path : List Char} (present : path ∈ virtualPaths db tieBreak) :
      ∃ trail, trail ≠ [] ∧ Trail db tieBreak trail path := by
    obtain ⟨request,item,listed,text,has,rfl⟩ := listed_of_mem_virtualPaths present (fun _ => none)
    obtain ⟨trail,arrived,_⟩ := walks.reached _ request item listed text has
    exact ⟨trail,arrived⟩
  have joined : ∀ path ∈ virtualPaths db tieBreak, Joined path := by
    intro path present
    obtain ⟨trail,some,way⟩ := arrives present
    obtain ⟨text,named⟩ := walks.text way
    have parts : components path = names trail := by rw [text,components_joinSegments named]
    refine ⟨?_,by rw [parts]; exact text⟩
    rw [parts]
    exact fun none => some (List.map_eq_nil_iff.mp none)
  constructor
  · exact joined
  · intro path present dots
    obtain ⟨trail,_,way⟩ := arrives present
    obtain ⟨nodes,answer⟩ := walks.accepted _ _ way
    have absolute : path.head? = some '/' := by
      rw [(walks.text way).1]
      exact head?_joinSegments _
    have visible : ∀ c ∈ ['.','.'], isWhitespace c = false := by
      simp only [List.forall_mem_cons,List.not_mem_nil,false_implies,implies_true,and_true]
      exact ⟨rfl,rfl⟩
    exact ((virtualPathTree_ok absolute).mp answer).1 (infix_trim (List.cons_ne_nil _ _) visible dots)
  · intro path present front name back whole
    exact ⟨(walks.at_front present whole).1,walks.ascii joined plain present whole⟩
  · intro path present front name back whole other also hidden taken
    have named : Named front := (whole ▸ named_components path : Named (front ++ name::back)).left
    obtain ⟨trimmed,exact⟩ := walks.at_front present whole
    have unescaped : '%' ∉ joinSegments front := by
      cases front with
      | nil => decide
      | cons first rest =>
        intro member
        apply plain path present
        rw [(joined path present).2,whole]
        exact (joinSegments_begins (List.cons_ne_nil _ _)).subset member
    have ascii := walks.ascii joined plain present whole
    have spelled := normalizeParent_joinSegments named trimmed
    rcases legible_of_exact named trimmed unescaped joined ascii exact other also with
      ⟨_,_,name,tail,rfl,nonempty,noSlash,ends⟩ | ⟨slashes,text,only,_⟩ | ⟨_,untaken⟩
    · rw [spelled,next_goesOn rfl nonempty noSlash ends] at hidden
      cases hidden
    · rw [spelled,searchPrefix_joinSegments named,List.append_assoc,List.singleton_append] at text
      obtain ⟨before,last,after,parts,_,rfl⟩ := (joined other also).split text
      have own := (parts ▸ named_components other : Named (before ++ last::after)) last (by simp)
      obtain ⟨c,letters,rfl⟩ := List.exists_cons_of_ne_nil own.1
      exact own.2 (by rw [only c (by simp)]; exact List.mem_cons_self)
    · rw [spelled] at untaken
      exact untaken taken

/-- A level shows what it should if the texts leave no doubt about any path, and below a joined ASCII parent
without `%` only then; the walk comes to every item once if they leave none on its way, and over paths without `%`
only then. -/
theorem virtualTree_agrees_iff (db : Db) (tieBreak : Nat → Nat) :
    (∀ parent, (∀ path ∈ virtualPaths db tieBreak, Legible parent path) →
      Exact parent (virtualPaths db tieBreak) (listVirtualPathTreeNodes db tieBreak parent)) ∧
    (∀ front, Named front → trim (joinSegments front) = joinSegments front → Ascii (joinSegments front) →
      '%' ∉ joinSegments front → (∀ path ∈ virtualPaths db tieBreak, Joined path) →
      Exact (joinSegments front) (virtualPaths db tieBreak)
        (listVirtualPathTreeNodes db tieBreak (joinSegments front)) →
      ∀ path ∈ virtualPaths db tieBreak, Legible (joinSegments front) path) ∧
    (Walkable (virtualPaths db tieBreak) → Walks db tieBreak) ∧
    ((∀ path ∈ virtualPaths db tieBreak, '%' ∉ path) → Walks db tieBreak → Walkable (virtualPaths db tieBreak)) := by
  refine ⟨fun parent legible => ?_,fun front named trimmed ascii plain joined exact => ?_,walks_of_walkable,
    fun plain walks => walkable_of_walks walks plain⟩
  · exact exact_of_fits fun path present => (legible path present).fits
  · exact legible_of_exact named trimmed plain joined ascii exact

/-! Tables with given virtual paths. -/

def pathFile (path : String) (id : Nat) : TrackedFile := ⟨id,1,"","",0,some path,false,true,false,none⟩

theorem key_pathFile (path : String) (id : Nat) : Keyed.key (pathFile path id) = id := rfl

def fileTable (paths : List String) : Table TrackedFile :=
  paths.foldl (fun files path => files.insert (pathFile path) (key_pathFile path)) Table.empty

def pathsDb (paths : List (List Char)) : Db := { Db.empty with trackedFiles := fileTable (paths.map String.ofList) }

def twoPaths : List (List Char) := ["/v/a".toList,"/w".toList]

theorem virtualPaths_twoPaths : virtualPaths (pathsDb twoPaths) id = twoPaths := by decide +kernel

theorem front_twoPaths {path : List Char} (present : path ∈ twoPaths) {front back : List (List Char)} {name : List Char}
    (whole : components path = front ++ name::back) : front = [] ∨ front = [['v']] := by
  cases front with
  | nil => exact .inl rfl
  | cons first front =>
    right
    rcases List.mem_pair.mp present with rfl | rfl
    · have parts : components "/v/a".toList = [['v'],['a']] := by decide +kernel
      rw [parts] at whole
      obtain ⟨rfl,rest⟩ := List.cons.inj whole
      cases front with
      | nil => rfl
      | cons second front => exact absurd (List.cons.inj rest).2.symm (by simp)
    · have parts : components "/w".toList = [['w']] := by decide +kernel
      rw [parts] at whole
      exact absurd (List.cons.inj whole).2.symm (by simp)

theorem ascii_of_all {text : List Char} (all : text.all (fun c => c.val.toNat < 128) = true) : Ascii text := by
  simpa [Ascii] using all

theorem virtualTree_agrees_twoPaths : Walks (pathsDb twoPaths) id ∧ Walkable (virtualPaths (pathsDb twoPaths) id) := by
  obtain ⟨_,_,walks,back⟩ := virtualTree_agrees_iff (pathsDb twoPaths) id
  have walked : Walks (pathsDb twoPaths) id := by
    apply walks
    rw [virtualPaths_twoPaths]
    constructor
    · intro path present
      rcases List.mem_pair.mp present with rfl | rfl
      · exact ⟨by decide +kernel,by decide +kernel⟩
      · exact ⟨by decide +kernel,by decide +kernel⟩
    · decide +kernel
    · intro path present front name back whole
      rcases front_twoPaths present whole with rfl | rfl
      · exact ⟨by decide +kernel,ascii_of_all (by decide +kernel)⟩
      · exact ⟨by decide +kernel,ascii_of_all (by decide +kernel)⟩
    · intro path present front name back whole other also hidden
      rcases front_twoPaths present whole with rfl | rfl
      · rcases List.mem_pair.mp also with rfl | rfl
        · exact absurd hidden (by decide +kernel)
        · exact absurd hidden (by decide +kernel)
      · rcases List.mem_pair.mp also with rfl | rfl
        · exact absurd hidden (by decide +kernel)
        · rw [← likes_iff]
          decide +kernel
  refine ⟨walked,back ?_ walked⟩
  rw [virtualPaths_twoPaths]
  decide +kernel

/-- Two bytes of the parent's letter take a letter off the name. -/
theorem letter_lost : ¬ ∀ (db : Db) (tieBreak : Nat → Nat),
    (∀ parent, Exact parent (virtualPaths db tieBreak) (listVirtualPathTreeNodes db tieBreak parent)) ∧ Walks db tieBreak := by
  intro agrees
  have exact := (agrees (pathsDb ["/é/ab".toList]) id).1 "/é".toList
  have paths : virtualPaths (pathsDb ["/é/ab".toList]) id = ["/é/ab".toList] := by decide +kernel
  rw [listVirtualPathTreeNodes,paths] at exact
  have listed := (exact.names "ab".toList).mpr ⟨_,List.mem_singleton_self _,false,by decide +kernel⟩
  exact absurd listed (by decide +kernel)

end BitProtector.VirtualTree
