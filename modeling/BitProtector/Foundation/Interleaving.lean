import BitProtector.Foundation.Machine

/-! Operations in flight over a shared state. Each operation is at a phase of its
own; a turn takes one of them from its phase to its next and changes the shared
state, and what is outside of all operations changes the shared state alone. -/
namespace BitProtector

structure Interleaved (σ φ : Type) where
  shared : σ
  op : Nat → φ

inductive Move (α ε : Type)
  | turn (i : Nat) (input : α)
  | outside (event : ε)

namespace Interleaved

variable {σ φ α ε : Type}

/-- Operation `i` is at `phase` now, and the shared state is `shared`. -/
def moved (s : Interleaved σ φ) (i : Nat) (shared : σ) (phase : φ) : Interleaved σ φ :=
  ⟨shared,fun j => if j = i then phase else s.op j⟩

@[simp] theorem moved_shared (s : Interleaved σ φ) (i : Nat) (shared : σ) (phase : φ) :
    (s.moved i shared phase).shared = shared := rfl

@[simp] theorem moved_same (s : Interleaved σ φ) (i : Nat) (shared : σ) (phase : φ) :
    (s.moved i shared phase).op i = phase := by
  simp [moved]

theorem moved_other (s : Interleaved σ φ) {i j : Nat} (shared : σ) (phase : φ) (other : j ≠ i) :
    (s.moved i shared phase).op j = s.op j := by
  simp [moved,other]

/-- What holds of the phase of `i` after a turn, and held of the others before it. -/
theorem forall_moved {P : φ → Prop} {s : Interleaved σ φ} {i : Nat} {shared : σ} {phase : φ}
    (mine : P phase) (others : ∀ j, j ≠ i → P (s.op j)) (j : Nat) : P ((s.moved i shared phase).op j) := by
  by_cases same : j = i
  · rw [same,moved_same]
    exact mine
  · rw [moved_other s shared phase same]
    exact others j same

/-- What no two operations do at once, they do not after a turn that brings its own to nothing of the kind. -/
theorem single_moved {R : φ → φ → Prop} (symmetric : ∀ a b, R a b → R b a) {s : Interleaved σ φ} {i : Nat} {shared : σ}
    {phase : φ} (single : ∀ j k, R (s.op j) (s.op k) → j = k) (free : ∀ j, j ≠ i → ¬R (s.op j) phase) {j k : Nat}
    (both : R ((s.moved i shared phase).op j) ((s.moved i shared phase).op k)) : j = k := by
  by_cases first : j = i
  · by_cases second : k = i
    · exact first.trans second.symm
    · rw [first,moved_same,moved_other s shared phase second] at both
      exact absurd (symmetric _ _ both) (free k second)
  · rw [moved_other s shared phase first] at both
    by_cases second : k = i
    · rw [second,moved_same] at both
      exact absurd both (free j first)
    · rw [moved_other s shared phase second] at both
      exact single j k both

variable (turn : α → σ → φ → Option (σ × φ)) (outside : ε → σ → σ)

def step : Move α ε → Interleaved σ φ → Option (Interleaved σ φ)
  | .turn i input, s => (turn input s.shared (s.op i)).map (fun next => s.moved i next.1 next.2)
  | .outside event, s => some { s with shared := outside event s.shared }

def machine : Machine (Interleaved σ φ) (Move α ε) := ⟨step turn outside⟩

/-- What the turns of one operation leave when nothing runs in between. -/
def alone : List α → σ × φ → Option (σ × φ)
  | [],at_ => some at_
  | input::inputs,at_ => (turn input at_.1 at_.2).bind (alone inputs)

variable {turn outside}

/-- An invariant of every turn and of every change from outside. -/
theorem invariant_of_turns {allowed : Move α ε → Interleaved σ φ → Prop} {I : Interleaved σ φ → Prop}
    {start s : Interleaved σ φ} (reached : (machine turn outside).Reaches allowed start s) (initial : I start)
    (turns : ∀ i input s next, I s → allowed (.turn i input) s →
      turn input s.shared (s.op i) = some next → I (s.moved i next.1 next.2))
    (events : ∀ event s, I s → allowed (.outside event) s → I { s with shared := outside event s.shared }) : I s := by
  apply reached.invariant initial
  intro l s t holds met taken
  cases l with
  | turn i input =>
    obtain ⟨next,turned,rfl⟩ := Option.map_eq_some_iff.mp taken
    exact turns i input s next holds met turned
  | outside event =>
    cases taken
    exact events event s holds met

/-- Turns of one operation with nothing in between are a run. -/
theorem reaches_of_alone {allowed : Move α ε → Interleaved σ φ → Prop} {i : Nat} {inputs : List α}
    (fits : ∀ input ∈ inputs, ∀ s, allowed (.turn i input) s) {s : Interleaved σ φ} {at_ : σ × φ}
    (ran : alone turn inputs (s.shared,s.op i) = some at_) :
    (machine turn outside).Reaches allowed s (s.moved i at_.1 at_.2) := by
  induction inputs generalizing s with
  | nil =>
    cases ran
    have same : s.moved i s.shared (s.op i) = s := by
      unfold moved
      congr 1
      funext j
      split
      · rename_i own
        rw [own]
      · rfl
    rw [same]
    exact .start
  | cons input inputs ih =>
    obtain ⟨next,turned,rest⟩ := Option.bind_eq_some_iff.mp ran
    have first : (machine turn outside).Reaches allowed s (s.moved i next.1 next.2) :=
      .step (.turn i input) .start (fits input List.mem_cons_self s) (Option.map_eq_some_iff.mpr ⟨next,turned,rfl⟩)
    have later : (machine turn outside).Reaches allowed (s.moved i next.1 next.2)
        ((s.moved i next.1 next.2).moved i at_.1 at_.2) := by
      apply ih (fun other member => fits other (List.mem_cons_of_mem _ member))
      rw [moved_shared,moved_same]
      exact rest
    have once : (s.moved i next.1 next.2).moved i at_.1 at_.2 = s.moved i at_.1 at_.2 := by
      unfold moved
      congr 1
      funext j
      split
      · rfl
      · rename_i other
        exact if_neg other
    rw [← once]
    exact first.trans later

end Interleaved

end BitProtector
