import Mathlib.Data.List.Induction

/-! Walking down and up a tree of names by the parts of a path. A path that never climbs
above its start stays below it, wherever that is. -/
namespace BitProtector.Paths

variable {ν : Type}

inductive Part (ν : Type)
  | name (text : ν)
  | current
  | parent
  deriving DecidableEq, Repr

/-- Above the root of the tree is the root. -/
def step (here : List ν) : Part ν → List ν
  | .name text => here ++ [text]
  | .current => here
  | .parent => here.dropLast

def walk (here : List ν) (parts : List (Part ν)) : List ν := parts.foldl step here

/-- No part climbs above the place that lies `depth` names up. -/
def inside : Nat → List (Part ν) → Bool
  | _, [] => true
  | depth, .name _::parts => inside (depth + 1) parts
  | depth, .current::parts => inside depth parts
  | 0, .parent::_ => false
  | depth + 1, .parent::parts => inside depth parts

theorem walk_append (here : List ν) (parts more : List (Part ν)) :
    walk here (parts ++ more) = walk (walk here parts) more := List.foldl_append

theorem walk_forall {Fits : ν → Prop} {here : List ν} {parts : List (Part ν)} (start : ∀ text ∈ here, Fits text)
    (named : ∀ text, Part.name text ∈ parts → Fits text) : ∀ text ∈ walk here parts, Fits text := by
  induction parts generalizing here with
  | nil => exact start
  | cons part parts ih =>
    apply ih
    · cases part with
      | current => exact start
      | parent => exact fun text member => start text ((List.dropLast_subset _ member))
      | name added =>
        intro text member
        rcases List.mem_append.mp member with old | new
        · exact start text old
        · rw [List.mem_singleton.mp new]
          exact named added List.mem_cons_self
    · exact fun text member => named text (List.mem_cons_of_mem _ member)

theorem walk_inside (root : List ν) {below : List ν} {parts : List (Part ν)}
    (stays : inside below.length parts = true) : walk (root ++ below) parts = root ++ walk below parts := by
  induction parts generalizing below with
  | nil => rfl
  | cons part parts ih =>
    cases part with
    | current => exact ih stays
    | name text =>
      have deeper : inside (below ++ [text]).length parts = true := by
        rwa [List.length_append]
      have rest := ih deeper
      rwa [← List.append_assoc] at rest
    | parent =>
      cases below using List.reverseRecOn with
      | nil => cases stays
      | append_singleton below text =>
        have higher : inside below.length parts = true := by
          rwa [List.length_append] at stays
        have rest := ih higher
        have up : step (root ++ (below ++ [text])) .parent = root ++ below := by
          rw [step,← List.append_assoc,List.dropLast_concat]
        have down : step (below ++ [text]) .parent = below := List.dropLast_concat
        rw [walk,List.foldl_cons,up]
        rw [walk,List.foldl_cons,down]
        exact rest

theorem walk_inside_nil (root : List ν) {parts : List (Part ν)} (stays : inside 0 parts = true) :
    walk root parts = root ++ walk [] parts := by
  have whole : walk (root ++ []) parts = root ++ walk [] parts := walk_inside root stays
  rwa [List.append_nil] at whole

end BitProtector.Paths
