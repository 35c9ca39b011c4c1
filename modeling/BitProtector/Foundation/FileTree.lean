import BitProtector.Foundation.Paths

/-! A tree of directories, files and links, and the resolution of paths in it. One resolution
follows so many links and no more. -/
namespace BitProtector.FileTree
open Paths

variable {ν : Type}

/-- What stands at a place. The target of a link starts at the root, or beside the link. -/
inductive Entry (ν : Type)
  | directory
  | file
  | special
  | link (absolute : Bool) (target : List (Paths.Part ν))
  deriving DecidableEq, Repr

def Entry.isLink : Entry ν → Bool
  | .link _ _ => true
  | _ => false

def Entry.isDirectory : Entry ν → Bool
  | .directory => true
  | _ => false

structure Tree (ν : Type) where
  entry : List ν → Option (Entry ν)
  root : entry [] = some .directory
  parents : ∀ here name found, entry (here ++ [name]) = some found → entry here = some .directory

def Tree.isDirectory (tree : Tree ν) (here : List ν) : Bool := (tree.entry here).any Entry.isDirectory

theorem Tree.isDirectory_iff {tree : Tree ν} {here : List ν} :
    tree.isDirectory here = true ↔ tree.entry here = some .directory := by
  rw [isDirectory]
  cases tree.entry here with
  | none => simp
  | some found => cases found <;> simp [Entry.isDirectory]

/-- The steps up to the next link, from which `follow` goes on. Only a directory has something below or above it. -/
def resolveWith (tree : Tree ν) (follow : List ν → List (Paths.Part ν) → Option (List ν × Nat)) (links : Nat) :
    List ν → List (Paths.Part ν) → Option (List ν × Nat)
  | here, [] => some (here,links)
  | here, part::rest =>
    if tree.isDirectory here then
      match part with
      | .current => resolveWith tree follow links here rest
      | .parent => resolveWith tree follow links here.dropLast rest
      | .name text =>
        match tree.entry (here ++ [text]) with
        | none => none
        | some (.link absolute target) => follow (if absolute then [] else here) (target ++ rest)
        | some _ => resolveWith tree follow links (here ++ [text]) rest
    else none

/-- Where the steps lead from a place, and how many more links could have been followed. -/
def resolve (tree : Tree ν) : Nat → List ν → List (Paths.Part ν) → Option (List ν × Nat)
  | 0 => resolveWith tree (fun _ _ => none) 0
  | links + 1 => resolveWith tree (resolve tree links) (links + 1)

variable {tree : Tree ν} {links left : Nat} {here place : List ν} {parts more : List (Paths.Part ν)}

/-- What follows a link where so many may be followed. -/
def follow (tree : Tree ν) : Nat → List ν → List (Paths.Part ν) → Option (List ν × Nat)
  | 0 => fun _ _ => none
  | links + 1 => resolve tree links

theorem resolve_eq (tree : Tree ν) (links : Nat) : resolve tree links = resolveWith tree (follow tree links) links := by
  cases links <;> rfl

@[simp] theorem resolve_nil : resolve tree links here [] = some (here,links) := by
  rw [resolve_eq]
  rfl

theorem resolve_stuck {part : Paths.Part ν} (stuck : tree.isDirectory here = false) :
    resolve tree links here (part::parts) = none := by
  rw [resolve_eq]
  cases part <;> rw [resolveWith,if_neg (by simp [stuck])]

theorem resolve_current (directory : tree.isDirectory here = true) :
    resolve tree links here (.current::parts) = resolve tree links here parts := by
  rw [resolve_eq,resolveWith,if_pos directory]

theorem resolve_parent (directory : tree.isDirectory here = true) :
    resolve tree links here (.parent::parts) = resolve tree links here.dropLast parts := by
  rw [resolve_eq,resolveWith,if_pos directory]

theorem resolve_missing {text : ν} (missing : tree.entry (here ++ [text]) = none) :
    resolve tree links here (.name text::parts) = none := by
  rw [resolve_eq,resolveWith,missing]
  split <;> rfl

theorem resolve_link {text : ν} {absolute : Bool} {target : List (Paths.Part ν)}
    (found : tree.entry (here ++ [text]) = some (.link absolute target)) :
    resolve tree links here (.name text::parts) =
      follow tree links (if absolute then [] else here) (target ++ parts) := by
  rw [resolve_eq,resolveWith,if_pos (Tree.isDirectory_iff.mpr (tree.parents _ _ _ found)),found]

theorem resolve_plain {text : ν} {found : Entry ν} (there : tree.entry (here ++ [text]) = some found)
    (plain : found.isLink = false) : resolve tree links here (.name text::parts) =
      resolve tree links (here ++ [text]) parts := by
  rw [resolve_eq,resolveWith,if_pos (Tree.isDirectory_iff.mpr (tree.parents _ _ _ there)),there]
  cases found with
  | link => cases plain
  | directory | file | special => rfl

theorem resolve_induction {P : Nat → List ν → List (Paths.Part ν) → Prop}
    (nil : ∀ links here, P links here [])
    (cons : ∀ links here part parts, (∀ next, P links next parts) →
      (∀ fewer, links = fewer + 1 → ∀ next steps, P fewer next steps) → P links here (part::parts))
    (links : Nat) (here : List ν) (parts : List (Paths.Part ν)) : P links here parts := by
  induction links generalizing here parts with
  | zero =>
    induction parts generalizing here with
    | nil => exact nil 0 here
    | cons part parts ih =>
      apply cons 0 here part parts ih
      intro fewer impossible
      cases impossible
  | succ links outer =>
    induction parts generalizing here with
    | nil => exact nil (links + 1) here
    | cons part parts ih =>
      apply cons (links + 1) here part parts ih
      intro fewer same
      cases same
      exact outer

theorem resolve_append (tree : Tree ν) (links : Nat) (here : List ν) (parts more : List (Paths.Part ν)) :
    resolve tree links here (parts ++ more) =
      (resolve tree links here parts).bind fun reached => resolve tree reached.2 reached.1 more := by
  induction links, here, parts using resolve_induction generalizing more with
  | nil links here => rw [List.nil_append,resolve_nil,Option.bind_some]
  | cons links here part parts ih outer =>
    rw [List.cons_append]
    cases directory : tree.isDirectory here with
    | false => rw [resolve_stuck directory,resolve_stuck directory,Option.bind_none]
    | true =>
      cases part with
      | current => rw [resolve_current directory,resolve_current directory,ih]
      | parent => rw [resolve_parent directory,resolve_parent directory,ih]
      | name text =>
        cases found : tree.entry (here ++ [text]) with
        | none => rw [resolve_missing found,resolve_missing found,Option.bind_none]
        | some entry =>
          cases plain : entry.isLink with
          | false => rw [resolve_plain found plain,resolve_plain found plain,ih]
          | true =>
            cases entry with
            | directory | file | special => cases plain
            | link absolute target =>
              rw [resolve_link found,resolve_link found,← List.append_assoc]
              cases links with
              | zero => rfl
              | succ fewer => exact outer fewer rfl _ _ more

/-! Real places. -/

/-- Something other than a link stands there. -/
def Standing (tree : Tree ν) (here : List ν) : Prop := ∃ found, tree.entry here = some found ∧ found.isLink = false

theorem standing_directory (directory : tree.isDirectory here = true) : Standing tree here :=
  ⟨.directory,Tree.isDirectory_iff.mp directory,rfl⟩

theorem standing_root : Standing tree [] := ⟨.directory,tree.root,rfl⟩

theorem standing_dropLast (standing : Standing tree here) : Standing tree here.dropLast := by
  cases here using List.reverseRecOn with
  | nil => exact standing
  | append_singleton here text =>
    obtain ⟨found,there,_⟩ := standing
    rw [List.dropLast_concat]
    exact ⟨.directory,tree.parents _ _ _ there,rfl⟩

theorem isDirectory_above {below : List ν} (standing : Standing tree (here ++ below)) (nonempty : below ≠ []) :
    tree.isDirectory here = true := by
  induction below using List.reverseRecOn with
  | nil => exact absurd rfl nonempty
  | append_singleton below text ih =>
    obtain ⟨found,there,_⟩ := standing
    rw [← List.append_assoc] at there
    have above := Tree.isDirectory_iff.mpr (tree.parents _ _ _ there)
    by_cases last : below = []
    · rwa [last,List.append_nil] at above
    · exact ih (standing_directory above) last

theorem standing_resolve (standing : Standing tree here) (reached : resolve tree links here parts = some (place,left)) :
    Standing tree place := by
  induction links, here, parts using resolve_induction with
  | nil links here =>
    rw [resolve_nil,Option.some.injEq,Prod.mk.injEq] at reached
    rwa [← reached.1]
  | cons links here part parts ih outer =>
    cases directory : tree.isDirectory here with
    | false =>
      rw [resolve_stuck directory] at reached
      cases reached
    | true =>
      cases part with
      | current =>
        rw [resolve_current directory] at reached
        exact ih here standing reached
      | parent =>
        rw [resolve_parent directory] at reached
        exact ih _ (standing_dropLast standing) reached
      | name text =>
        cases found : tree.entry (here ++ [text]) with
        | none =>
          rw [resolve_missing found] at reached
          cases reached
        | some entry =>
          cases plain : entry.isLink with
          | false =>
            rw [resolve_plain found plain] at reached
            exact ih _ ⟨entry,found,plain⟩ reached
          | true =>
            cases entry with
            | directory | file | special => cases plain
            | link absolute target =>
              rw [resolve_link found] at reached
              cases links with
              | zero => cases reached
              | succ fewer =>
                apply outer fewer rfl _ _ _ reached
                cases absolute with
                | true => exact standing_root
                | false => exact standing

theorem resolve_names {names : List ν} (standing : Standing tree (here ++ names)) :
    resolve tree links here (names.map .name) = some (here ++ names,links) := by
  induction names generalizing here with
  | nil => rw [List.map_nil,resolve_nil,List.append_nil]
  | cons text names ih =>
    have split : here ++ text::names = (here ++ [text]) ++ names := by rw [List.append_assoc,List.singleton_append]
    rw [split] at standing ⊢
    have there : Standing tree (here ++ [text]) := by
      by_cases last : names = []
      · rwa [last,List.append_nil] at standing
      · exact standing_directory (isDirectory_above standing last)
    obtain ⟨found,entry,plain⟩ := there
    rw [List.map_cons,resolve_plain entry plain,ih standing]

/-! Trees without links. -/

def LinkFree (tree : Tree ν) : Prop := ∀ here found, tree.entry here = some found → found.isLink = false

theorem resolve_linkFree (free : LinkFree tree) (reached : resolve tree links here parts = some (place,left)) :
    place = walk here parts ∧ left = links := by
  induction parts generalizing here with
  | nil =>
    rw [resolve_nil,Option.some.injEq,Prod.mk.injEq] at reached
    exact ⟨reached.1.symm,reached.2.symm⟩
  | cons part parts ih =>
    cases directory : tree.isDirectory here with
    | false =>
      rw [resolve_stuck directory] at reached
      cases reached
    | true =>
      cases part with
      | current =>
        rw [resolve_current directory] at reached
        exact ih reached
      | parent =>
        rw [resolve_parent directory] at reached
        exact ih reached
      | name text =>
        cases found : tree.entry (here ++ [text]) with
        | none =>
          rw [resolve_missing found] at reached
          cases reached
        | some entry =>
          rw [resolve_plain found (free _ _ found)] at reached
          exact ih reached

/-! Trees of directories. -/

theorem resolve_through (stops : ∀ k, tree.isDirectory (walk here (parts.take k)) = true) :
    resolve tree links here parts = some (walk here parts,links) := by
  induction parts generalizing here with
  | nil => exact resolve_nil
  | cons part parts ih =>
    have directory : tree.isDirectory here = true := stops 0
    have rest : ∀ k, tree.isDirectory (walk (Paths.step here part) (parts.take k)) = true := fun k => stops (k + 1)
    cases part with
    | current =>
      rw [resolve_current directory]
      exact ih rest
    | parent =>
      rw [resolve_parent directory]
      exact ih rest
    | name text =>
      have there : tree.entry (here ++ [text]) = some .directory := Tree.isDirectory_iff.mp (rest 0)
      rw [resolve_plain there rfl]
      exact ih rest

/-- The directories above some places, and these. -/
def directories [DecidableEq ν] (places : List (List ν)) : Tree ν where
  entry here := if here = [] ∨ ∃ place ∈ places, here <+: place then some .directory else none
  root := if_pos (.inl rfl)
  parents := by
    intro here name found there
    rw [Option.ite_none_right_eq_some] at there
    rcases there.1 with empty | ⟨place,member,above⟩
    · simp at empty
    · exact if_pos (.inr ⟨place,member,(List.prefix_append here [name]).trans above⟩)

section
variable [DecidableEq ν] {places : List (List ν)}

theorem directories_entry {found : Entry ν} (there : (directories places).entry here = some found) :
    found = .directory ∧ (here = [] ∨ ∃ place ∈ places, here <+: place) := by
  change (if here = [] ∨ ∃ place ∈ places, here <+: place then some Entry.directory else none) = some found at there
  rw [Option.ite_none_right_eq_some] at there
  exact ⟨(Option.some.inj there.2).symm,there.1⟩

theorem directories_isDirectory (listed : place ∈ places) : (directories places).isDirectory place = true :=
  Tree.isDirectory_iff.mpr (if_pos (.inr ⟨place,listed,List.prefix_rfl⟩))

theorem directories_linkFree : LinkFree (directories places) := by
  intro here found there
  rw [(directories_entry there).1]
  rfl

end

/-! The tree of one path. -/

/-- What stands at a place, and the directories above it. -/
def ladder (names : List ν) (last : Entry ν) [DecidableEq ν] : Tree ν where
  entry here := if here = names ∧ names ≠ [] then some last else if here <+: names then some .directory else none
  root := by
    rw [if_neg fun both => both.2 both.1.symm,if_pos List.nil_prefix]
  parents := by
    intro here name found there
    have above : here ++ [name] <+: names := by
      split at there
      · rename_i whole
        exact whole.1 ▸ List.prefix_rfl
      · split at there
        · assumption
        · cases there
    have shorter : here ≠ names := by
      intro same
      have bound := above.length_le
      rw [← same,List.length_append,List.length_singleton] at bound
      omega
    rw [if_neg fun both => shorter both.1,if_pos ((List.prefix_append here [name]).trans above)]

section
variable [DecidableEq ν] {names : List ν} {last : Entry ν}

theorem ladder_above {found : Entry ν} (there : (ladder names last).entry here = some found) : here <+: names := by
  change (if here = names ∧ names ≠ [] then some last else if here <+: names then some .directory else none) = _ at there
  split at there
  · rename_i whole
    exact whole.1 ▸ List.prefix_rfl
  · split at there
    · assumption
    · cases there

theorem ladder_linkFree (plain : last.isLink = false) : LinkFree (ladder names last) := by
  intro here found there
  change (if here = names ∧ names ≠ [] then some last else if here <+: names then some .directory else none) = _ at there
  split at there
  · cases there
    exact plain
  · split at there
    · cases there
      rfl
    · cases there

end

end BitProtector.FileTree
