import Mathlib.Data.List.Basic
import Mathlib.Order.Defs.Unbundled

/-! Rows that may hold a key, and what keeps two of them from holding the same one: a row
is added with a key that no row holds, and no other change makes a row hold anything. -/
namespace BitProtector.Guarded

variable {ρ κ : Type} (id : ρ → Nat) (holds : ρ → Option κ)

def AtMostOne (rows : List ρ) : Prop :=
  ∀ a ∈ rows, ∀ b ∈ rows, ∀ k, holds a = some k → holds b = some k → id a = id b

def Free (k : κ) (rows : List ρ) : Prop := ∀ a ∈ rows, holds a ≠ some k

/-- Whatever holds a key held it before. -/
def Shrinks (rows later : List ρ) : Prop :=
  ∀ b ∈ later, ∀ k, holds b = some k → ∃ a ∈ rows, id a = id b ∧ holds a = some k

instance : IsPreorder (List ρ) (Shrinks id holds) where
  refl _ b member _ held := ⟨b,member,rfl,held⟩
  trans _ _ _ first second := by
    intro c member k held
    obtain ⟨b,before,same,held⟩ := second c member k held
    obtain ⟨a,origin,equal,held⟩ := first b before k held
    exact ⟨a,origin,equal.trans same,held⟩

variable {id holds}

theorem shrinks_of_subset {rows later : List ρ} (subset : later ⊆ rows) : Shrinks id holds rows later :=
  fun b member _ held => ⟨b,subset member,rfl,held⟩

theorem shrinks_map {rows : List ρ} {f : ρ → ρ} (keeps : ∀ a, id (f a) = id a)
    (gains : ∀ a ∈ rows, ∀ k, holds (f a) = some k → holds a = some k) : Shrinks id holds rows (rows.map f) := by
  intro b member k held
  obtain ⟨a,before,rfl⟩ := List.mem_map.mp member
  exact ⟨a,before,(keeps a).symm,gains a before k held⟩

theorem AtMostOne.of_shrinks {rows later : List ρ} (unique : AtMostOne id holds rows)
    (shrinks : Shrinks id holds rows later) : AtMostOne id holds later := by
  intro a inA b inB k heldA heldB
  obtain ⟨x,inX,sameA,heldX⟩ := shrinks a inA k heldA
  obtain ⟨y,inY,sameB,heldY⟩ := shrinks b inB k heldB
  rw [← sameA,← sameB]
  exact unique x inX y inY k heldX heldY

theorem Free.of_shrinks {k : κ} {rows later : List ρ} (free : Free holds k rows)
    (shrinks : Shrinks id holds rows later) : Free holds k later := by
  intro b member held
  obtain ⟨a,before,_,held⟩ := shrinks b member k held
  exact free a before held

theorem AtMostOne.concat {rows : List ρ} {row : ρ} (unique : AtMostOne id holds rows)
    (free : ∀ k, holds row = some k → Free holds k rows) : AtMostOne id holds (rows ++ [row]) := by
  intro a inA b inB k heldA heldB
  rcases List.mem_append.mp inA with beforeA | last
  · rcases List.mem_append.mp inB with beforeB | last
    · exact unique a beforeA b beforeB k heldA heldB
    · cases List.mem_singleton.mp last
      exact absurd heldA (free k heldB a beforeA)
  · cases List.mem_singleton.mp last
    rcases List.mem_append.mp inB with beforeB | last
    · exact absurd heldB (free k heldA b beforeB)
    · cases List.mem_singleton.mp last
      rfl

theorem Free.concat {k : κ} {rows : List ρ} {row : ρ} (free : Free holds k rows) (other : holds row ≠ some k) :
    Free holds k (rows ++ [row]) := by
  intro a member
  rcases List.mem_append.mp member with before | last
  · exact free a before
  · cases List.mem_singleton.mp last
    exact other

end BitProtector.Guarded
