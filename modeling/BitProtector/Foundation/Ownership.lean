import Mathlib.Logic.Function.Basic

/-! Values that are held in families: every owner holds a family of values, and no
value is held twice, neither by two owners nor in two places of one family. -/
namespace BitProtector.Ownership

variable {κ ι π : Type}

/-- What each owner holds, one value a place. -/
abbrev Holding (κ ι π : Type) := κ → Option (ι → π)

def Exclusive (held : Holding κ ι π) : Prop :=
  ∀ a b f g, held a = some f → held b = some g → ∀ i j, f i = g j → a = b ∧ i = j

/-- Nobody but `a` holds a value of the family. -/
def FreeFor (held : Holding κ ι π) (a : κ) (f : ι → π) : Prop :=
  ∀ b, b ≠ a → ∀ g, held b = some g → ∀ i j, f i ≠ g j

theorem exclusive_empty : Exclusive (fun _ => none : Holding κ ι π) := by
  intro a b f g holds
  cases holds

theorem Exclusive.injective {held : Holding κ ι π} (exclusive : Exclusive held) {a : κ} {f : ι → π}
    (holds : held a = some f) : Function.Injective f :=
  fun i j same => (exclusive a a f f holds holds i j same).2

theorem Exclusive.freeFor {held : Holding κ ι π} (exclusive : Exclusive held) {a : κ} {f : ι → π}
    (holds : held a = some f) : FreeFor held a f :=
  fun b other g holding i j same => other (exclusive a b f g holds holding i j same).1.symm

variable [DecidableEq κ]

theorem exclusive_update_iff {held : Holding κ ι π} (exclusive : Exclusive held) (a : κ) (f : ι → π) :
    Exclusive (Function.update held a (some f)) ↔ Function.Injective f ∧ FreeFor held a f := by
  constructor
  · intro after
    have own : Function.update held a (some f) a = some f := Function.update_self a (some f) held
    refine ⟨after.injective own,fun b other g holds => ?_⟩
    apply after.freeFor own b other g
    rwa [Function.update_of_ne other]
  · rintro ⟨injective,free⟩ b c g h holds holding i j same
    by_cases first : b = a
    · subst first
      rw [Function.update_self] at holds
      cases holds
      by_cases second : c = b
      · subst second
        rw [Function.update_self] at holding
        cases holding
        exact ⟨rfl,injective same⟩
      · rw [Function.update_of_ne second] at holding
        exact absurd same (free c second h holding i j)
    · rw [Function.update_of_ne first] at holds
      by_cases second : c = a
      · subst second
        rw [Function.update_self] at holding
        cases holding
        exact absurd same.symm (free b first g holds j i)
      · rw [Function.update_of_ne second] at holding
        exact exclusive b c g h holds holding i j same

theorem Exclusive.release {held : Holding κ ι π} (exclusive : Exclusive held) (a : κ) :
    Exclusive (Function.update held a none) := by
  intro b c f g holds holding
  have kept : ∀ d h, Function.update held a none d = some h → held d = some h := by
    intro d h some
    by_cases same : d = a
    · subst same
      simp at some
    · rwa [Function.update_of_ne same] at some
  exact exclusive b c f g (kept b f holds) (kept c g holding)

end BitProtector.Ownership
