import Mathlib.Data.List.Basic
import Mathlib.Order.WellFounded

/-! A walk over a graph with a stack of the nodes still to open, the last one pushed first. It
keeps no record of the nodes that it has opened, and it ends with the first node that fails. -/
namespace BitProtector.StackWalk

variable {δ φ ε : Type}

/-- What is found on opening a node. -/
structure Opened (δ φ ε : Type) where
  nodes : List δ
  items : List φ
  failure : Option ε

/-- The items in their order, and the failure that ended the walk, if so many nodes are enough to end it. -/
def drain (opened : δ → Opened δ φ ε) : Nat → List δ → Option (List φ × Option ε)
  | 0, _ => none
  | _ + 1, [] => some ([],none)
  | fuel + 1, node::stack =>
    match (opened node).failure with
    | some failure => some ((opened node).items,some failure)
    | none =>
      (drain opened fuel ((opened node).nodes.reverse ++ stack)).map fun rest => ((opened node).items ++ rest.1,rest.2)

variable {opened : δ → Opened δ φ ε} {node : δ} {stack : List δ} {fuel : Nat}

theorem drain_failed {failure : ε} (failed : (opened node).failure = some failure) :
    drain opened (fuel + 1) (node::stack) = some ((opened node).items,some failure) := by
  rw [drain,failed]

theorem drain_opened (fine : (opened node).failure = none) : drain opened (fuel + 1) (node::stack) =
    (drain opened fuel ((opened node).nodes.reverse ++ stack)).map fun rest => ((opened node).items ++ rest.1,rest.2) := by
  rw [drain,fine]

theorem drain_more {result : List φ × Option ε} (ended : drain opened fuel stack = some result) {more : Nat}
    (enough : fuel ≤ more) : drain opened more stack = some result := by
  induction fuel generalizing stack result more with
  | zero => cases ended
  | succ fuel ih =>
    obtain ⟨more,rfl⟩ := Nat.exists_eq_add_of_le' (Nat.lt_of_lt_of_le fuel.succ_pos enough)
    cases stack with
    | nil => exact ended
    | cons node stack =>
      cases fine : (opened node).failure with
      | some failure =>
        rw [drain_failed fine] at ended ⊢
        exact ended
      | none =>
        rw [drain_opened fine] at ended
        obtain ⟨rest,shorter,rfl⟩ := Option.map_eq_some_iff.mp ended
        rw [drain_opened fine,ih shorter (Nat.le_of_succ_le_succ enough),Option.map_some]

/-! The end of a walk. -/

def Ends (opened : δ → Opened δ φ ε) (stack : List δ) : Prop := ∃ fuel result, drain opened fuel stack = some result

theorem ends_cons (opens : Acc (fun next node => next ∈ (opened node).nodes) node) :
    ∀ stack, Ends opened stack → Ends opened (node::stack) := by
  induction opens with
  | intro node _ ih =>
    intro stack rest
    cases fine : (opened node).failure with
    | some failure => exact ⟨1,_,drain_failed fine⟩
    | none =>
      have pushed : ∀ nodes ⊆ (opened node).nodes, Ends opened (nodes ++ stack) := by
        intro nodes members
        induction nodes with
        | nil => exact rest
        | cons next nodes ahead =>
          exact ih next (members List.mem_cons_self) _ (ahead fun _ member => members (List.mem_cons_of_mem _ member))
      obtain ⟨fuel,result,ended⟩ := pushed _ (List.reverse_subset.mpr (List.Subset.refl _))
      exact ⟨fuel + 1,_,(drain_opened fine).trans (congrArg (Option.map _) ended)⟩

theorem ends_of_measure (size : δ → Nat) (lower : ∀ node, ∀ next ∈ (opened node).nodes, size next < size node)
    (stack : List δ) : Ends opened stack := by
  have opens : ∀ node, Acc (fun next node => next ∈ (opened node).nodes) node := fun node =>
    Subrelation.accessible (fun {next node} member => lower node next member) ((measure size).wf.apply node)
  induction stack with
  | nil => exact ⟨1,_,rfl⟩
  | cons node stack ih => exact ends_cons (opens node) stack ih

/-! What a walk finds. -/

/-- The nodes that a walk from the stack comes to if nothing fails. -/
inductive Reached (opened : δ → Opened δ φ ε) (stack : List δ) : δ → Prop
  | start {node : δ} (listed : node ∈ stack) : Reached opened stack node
  | next {node next : δ} (reached : Reached opened stack node) (member : next ∈ (opened node).nodes) : Reached opened stack next

theorem Reached.mono {others : List δ} (reached : Reached opened stack node)
    (starts : ∀ first ∈ stack, Reached opened others first) : Reached opened others node := by
  induction reached with
  | start listed => exact starts _ listed
  | next _ member ih => exact ih.next member

theorem Reached.behind {next : δ} (reached : Reached opened ((opened node).nodes.reverse ++ stack) next) :
    Reached opened (node::stack) next := by
  apply reached.mono
  intro first listed
  rcases List.mem_append.mp listed with pushed | waiting
  · exact .next (.start List.mem_cons_self) (List.mem_reverse.mp pushed)
  · exact .start (List.mem_cons_of_mem _ waiting)

theorem Reached.ahead {next : δ} (reached : Reached opened (node::stack) next) :
    next = node ∨ Reached opened ((opened node).nodes.reverse ++ stack) next := by
  induction reached with
  | start listed =>
    rcases List.mem_cons.mp listed with same | waiting
    · exact .inl same
    · exact .inr (.start (List.mem_append_right _ waiting))
  | next _ member ih =>
    rcases ih with rfl | reached
    · exact .inr (.start (List.mem_append_left _ (List.mem_reverse.mpr member)))
    · exact .inr (reached.next member)

theorem found_of_drain {result : List φ × Option ε} (ended : drain opened fuel stack = some result) :
    ∀ item ∈ result.1, ∃ node, Reached opened stack node ∧ item ∈ (opened node).items := by
  induction fuel generalizing stack result with
  | zero => cases ended
  | succ fuel ih =>
    cases stack with
    | nil =>
      cases ended
      intro item member
      cases member
    | cons node stack =>
      cases fine : (opened node).failure with
      | some failure =>
        rw [drain_failed fine,Option.some.injEq] at ended
        subst ended
        exact fun item member => ⟨node,.start List.mem_cons_self,member⟩
      | none =>
        rw [drain_opened fine] at ended
        obtain ⟨rest,shorter,rfl⟩ := Option.map_eq_some_iff.mp ended
        intro item member
        rcases List.mem_append.mp member with here | later
        · exact ⟨node,.start List.mem_cons_self,here⟩
        · obtain ⟨next,reached,there⟩ := ih shorter item later
          exact ⟨next,reached.behind,there⟩

theorem drain_complete {result : List φ × Option ε} (ended : drain opened fuel stack = some result)
    (fine : ∀ node, Reached opened stack node → (opened node).failure = none) :
    result.2 = none ∧ ∀ node, Reached opened stack node → (opened node).items ⊆ result.1 := by
  induction fuel generalizing stack result with
  | zero => cases ended
  | succ fuel ih =>
    cases stack with
    | nil =>
      cases ended
      have nowhere : ∀ node, ¬ Reached opened [] node := by
        intro node reached
        induction reached with
        | start listed => cases listed
        | next _ _ impossible => exact impossible
      exact ⟨rfl,fun node reached => absurd reached (nowhere node)⟩
    | cons node stack =>
      have here := fine node (.start List.mem_cons_self)
      rw [drain_opened here] at ended
      obtain ⟨rest,shorter,rfl⟩ := Option.map_eq_some_iff.mp ended
      obtain ⟨whole,all⟩ := ih shorter fun next reached => fine next reached.behind
      refine ⟨whole,?_⟩
      intro next reached item member
      rcases reached.ahead with rfl | later
      · exact List.mem_append_left _ member
      · exact List.mem_append_right _ (all next later member)

end BitProtector.StackWalk
