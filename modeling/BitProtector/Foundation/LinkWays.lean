import BitProtector.Foundation.FileTree

/-! The names that lead into a tree from a place: up to the last link among them they are a way
in, and from there on they are the names of the real place. Each place that two lists of names
share is behind two ways in. -/
namespace BitProtector.FileTree
open Paths

variable {ν : Type} {tree : Tree ν} {links left : Nat} {here place : List ν} {parts : List (Paths.Part ν)} {names : List ν}

/-! Links run out. -/

theorem resolve_left_le (reached : resolve tree links here parts = some (place,left)) : left ≤ links := by
  induction links, here, parts using resolve_induction with
  | nil links here =>
    rw [resolve_nil,Option.some.injEq,Prod.mk.injEq] at reached
    exact Nat.le_of_eq reached.2.symm
  | cons links here part parts ih outer =>
    cases directory : tree.isDirectory here with
    | false =>
      rw [resolve_stuck directory] at reached
      cases reached
    | true =>
      cases part with
      | current =>
        rw [resolve_current directory] at reached
        exact ih here reached
      | parent =>
        rw [resolve_parent directory] at reached
        exact ih _ reached
      | name text =>
        cases found : tree.entry (here ++ [text]) with
        | none =>
          rw [resolve_missing found] at reached
          cases reached
        | some entry =>
          cases plain : entry.isLink with
          | false =>
            rw [resolve_plain found plain] at reached
            exact ih _ reached
          | true =>
            cases entry with
            | directory | file | special => cases plain
            | link absolute target =>
              rw [resolve_link found] at reached
              cases links with
              | zero => cases reached
              | succ fewer => exact Nat.le_succ_of_le (outer fewer rfl _ _ reached)

theorem resolve_name {name : ν} (reached : resolve tree links here [.name name] = some (place,left)) :
    (tree.entry (here ++ [name])).any Entry.isLink = false ∧ Standing tree (here ++ [name]) ∧
        place = here ++ [name] ∧ left = links ∨
      (tree.entry (here ++ [name])).any Entry.isLink = true ∧ left < links := by
  cases found : tree.entry (here ++ [name]) with
  | none =>
    rw [resolve_missing found] at reached
    cases reached
  | some entry =>
    cases plain : entry.isLink with
    | false =>
      rw [resolve_plain found plain,resolve_nil,Option.some.injEq,Prod.mk.injEq] at reached
      exact .inl ⟨plain,⟨entry,found,plain⟩,reached.1.symm,reached.2.symm⟩
    | true =>
      cases entry with
      | directory | file | special => cases plain
      | link absolute target =>
        rw [resolve_link found] at reached
        cases links with
        | zero => cases reached
        | succ fewer => exact .inr ⟨rfl,Nat.lt_succ_of_le (resolve_left_le reached)⟩

theorem resolve_snoc {above : List ν} {last : ν} : resolve tree links here ((above ++ [last]).map .name) =
    (resolve tree links here (above.map .name)).bind fun reached => resolve tree reached.2 reached.1 [.name last] := by
  rw [List.map_append,resolve_append]
  rfl

/-! Ways in. -/

/-- No names, or names the last of which is one of a link. -/
structure Way (tree : Tree ν) (links : Nat) (here : List ν) (names place : List ν) (left : Nat) : Prop where
  leads : resolve tree links here (names.map .name) = some (place,left)
  linked : ∀ above last, names = above ++ [last] → ∀ mid rest, resolve tree links here (above.map .name) = some (mid,rest) →
    (tree.entry (mid ++ [last])).any Entry.isLink = true

theorem way_here (tree : Tree ν) (links : Nat) (here : List ν) : Way tree links here [] here links := by
  constructor
  · rw [List.map_nil,resolve_nil]
  · intro above last impossible
    simp at impossible

theorem way_split (reached : resolve tree links here (names.map .name) = some (place,left)) :
    ∃ way rest door, names = way ++ rest ∧ Way tree links here way door left ∧ place = door ++ rest := by
  induction names using List.reverseRecOn generalizing place left with
  | nil =>
    rw [List.map_nil,resolve_nil,Option.some.injEq,Prod.mk.injEq] at reached
    obtain ⟨rfl,rfl⟩ := reached
    exact ⟨[],[],here,rfl,way_here tree links here,(List.append_nil here).symm⟩
  | append_singleton above last ih =>
    have whole := reached
    rw [resolve_snoc] at reached
    obtain ⟨⟨mid,rest⟩,first,second⟩ := Option.bind_eq_some_iff.mp reached
    rcases resolve_name second with ⟨_,_,rfl,rfl⟩ | ⟨link,_⟩
    · obtain ⟨way,names,door,rfl,isWay,rfl⟩ := ih first
      exact ⟨way,names ++ [last],door,List.append_assoc _ _ _,isWay,List.append_assoc _ _ _⟩
    · refine ⟨above ++ [last],[],place,(List.append_nil _).symm,⟨whole,?_⟩,(List.append_nil _).symm⟩
      intro above' last' same mid' rest' leads
      obtain ⟨rfl,lasts⟩ := List.append_inj' same rfl
      cases lasts
      cases first.symm.trans leads
      exact link

section
variable {way rest door : List ν}

theorem Way.behind (isWay : Way tree links here way door left) (standing : Standing tree (door ++ rest)) :
    resolve tree links here ((way ++ rest).map .name) = some (door ++ rest,left) := by
  rw [List.map_append,resolve_append,isWay.leads,Option.bind_some,resolve_names standing]

theorem standing_between {front back : List ν} (standing : Standing tree (door ++ (front ++ back))) :
    Standing tree (door ++ front) := by
  rw [← List.append_assoc] at standing
  by_cases last : back = []
  · rwa [last,List.append_nil] at standing
  · exact standing_directory (isDirectory_above standing last)

theorem way_longest {more door' : List ν} {left' : Nat} (isWay : Way tree links here way door left)
    (longer : Way tree links here (way ++ more) door' left') (standing : Standing tree (door ++ (more ++ rest))) : more = [] := by
  cases more using List.reverseRecOn with
  | nil => rfl
  | append_singleton front last =>
    exfalso
    have above := standing_between (standing_between standing)
    have leads := isWay.behind above
    have link := longer.linked (way ++ front) last (List.append_assoc _ _ _).symm _ _ leads
    obtain ⟨found,there,plain⟩ := standing_between standing
    rw [← List.append_assoc] at there
    rw [there,Option.any_some,plain] at link
    cases link

theorem way_unique {way' rest' door' : List ν} {left' : Nat} (isWay : Way tree links here way door left)
    (isWay' : Way tree links here way' door' left') (standing : Standing tree (door ++ rest))
    (standing' : Standing tree (door' ++ rest')) (same : way ++ rest = way' ++ rest') : way = way' := by
  rcases List.append_eq_append_iff.mp same with ⟨more,rfl,rfl⟩ | ⟨more,rfl,rfl⟩
  · rw [way_longest isWay isWay' standing,List.append_nil]
  · rw [way_longest isWay' isWay standing',List.append_nil]

end

end BitProtector.FileTree
