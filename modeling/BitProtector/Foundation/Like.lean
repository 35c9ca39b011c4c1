import Mathlib.Data.List.Basic
import Mathlib.Data.List.Forall2
import Mathlib.Data.List.Infix

/-! Patterns of literals and wildcards, and the texts they match up to a comparison of
symbols. -/
namespace BitProtector.Like

inductive Symbol (α : Type)
  | literal (a : α)
  | anyOne
  | anyRun
  deriving DecidableEq, Repr

variable {α : Type}

def fits (same : α → α → Bool) : List (Symbol α) → List α → Bool
  | [],text => text.isEmpty
  | .anyRun::pattern,text => text.tails.any (fits same pattern)
  | .anyOne::_,[] => false
  | .anyOne::pattern,_::text => fits same pattern text
  | .literal _::_,[] => false
  | .literal a::pattern,b::text => same a b && fits same pattern text

theorem fits_anyRun {same : α → α → Bool} {pattern : List (Symbol α)} {text : List α} :
    fits same (.anyRun::pattern) text = true ↔ ∃ back, back <:+ text ∧ fits same pattern back = true := by
  simp only [fits,List.any_eq_true,List.mem_tails]

theorem fits_run (same : α → α → Bool) (text : List α) : fits same [.anyRun] text = true :=
  fits_anyRun.mpr ⟨[],List.nil_suffix,rfl⟩

theorem fits_append {same : α → α → Bool} {first second : List (Symbol α)} {text : List α} :
    fits same (first ++ second) text = true ↔
      ∃ front back, text = front ++ back ∧ fits same first front = true ∧ fits same second back = true := by
  induction first generalizing text with
  | nil =>
    constructor
    · exact fun rest => ⟨[],text,rfl,rfl,rest⟩
    · rintro ⟨front,back,rfl,empty,rest⟩
      rw [List.isEmpty_iff.mp empty]
      exact rest
  | cons symbol first ih =>
    cases symbol with
    | anyRun =>
      rw [List.cons_append,fits_anyRun]
      constructor
      · rintro ⟨tail,⟨start,rfl⟩,later⟩
        obtain ⟨front,back,rfl,taken,rest⟩ := ih.mp later
        exact ⟨start ++ front,back,by rw [List.append_assoc],fits_anyRun.mpr ⟨front,⟨start,rfl⟩,taken⟩,rest⟩
      · rintro ⟨front,back,rfl,taken,rest⟩
        obtain ⟨tail,⟨start,rfl⟩,later⟩ := fits_anyRun.mp taken
        exact ⟨tail ++ back,⟨start,by rw [List.append_assoc]⟩,ih.mpr ⟨tail,back,rfl,later,rest⟩⟩
    | anyOne =>
      cases text with
      | nil =>
        refine iff_of_false Bool.false_ne_true ?_
        rintro ⟨front,back,empty,taken,_⟩
        obtain ⟨rfl,_⟩ := List.append_eq_nil_iff.mp empty.symm
        cases taken
      | cons b text =>
        rw [List.cons_append,fits,ih]
        constructor
        · rintro ⟨front,back,rfl,taken,rest⟩
          exact ⟨b::front,back,rfl,taken,rest⟩
        · rintro ⟨front,back,whole,taken,rest⟩
          cases front with
          | nil => cases taken
          | cons c front =>
            obtain ⟨rfl,rfl⟩ := List.cons.inj whole
            exact ⟨front,back,rfl,taken,rest⟩
    | literal a =>
      cases text with
      | nil =>
        refine iff_of_false Bool.false_ne_true ?_
        rintro ⟨front,back,empty,taken,_⟩
        obtain ⟨rfl,_⟩ := List.append_eq_nil_iff.mp empty.symm
        cases taken
      | cons b text =>
        rw [List.cons_append,fits,Bool.and_eq_true,ih]
        constructor
        · rintro ⟨agree,front,back,rfl,taken,rest⟩
          exact ⟨b::front,back,rfl,Bool.and_eq_true_iff.mpr ⟨agree,taken⟩,rest⟩
        · rintro ⟨front,back,whole,taken,rest⟩
          cases front with
          | nil => cases taken
          | cons c front =>
            obtain ⟨rfl,rfl⟩ := List.cons.inj whole
            obtain ⟨agree,taken⟩ := Bool.and_eq_true_iff.mp taken
            exact ⟨agree,front,back,rfl,taken,rest⟩

theorem fits_literals {same : α → α → Bool} {literals : List α} {pattern : List (Symbol α)} {text : List α} :
    fits same (literals.map .literal ++ pattern) text = true ↔
      ∃ front back, text = front ++ back ∧ List.Forall₂ (fun a b => same a b = true) literals front ∧
        fits same pattern back = true := by
  induction literals generalizing text with
  | nil => simp
  | cons a literals ih =>
    cases text with
    | nil =>
      constructor
      · intro impossible
        cases impossible
      · rintro ⟨front,back,empty,agree,_⟩
        obtain ⟨rfl,_⟩ := List.append_eq_nil_iff.mp empty.symm
        cases agree
    | cons b text =>
      rw [List.map_cons,List.cons_append,fits,Bool.and_eq_true,ih]
      constructor
      · rintro ⟨first,front,back,rfl,agree,rest⟩
        exact ⟨b::front,back,rfl,.cons first agree,rest⟩
      · rintro ⟨front,back,whole,agree,rest⟩
        cases agree with
        | cons first agree =>
          obtain ⟨rfl,rfl⟩ := List.cons.inj whole
          exact ⟨first,_,back,rfl,agree,rest⟩

/-- Two symbols count as the same when they fold to the same. -/
def sameUnder {β : Type} [DecidableEq β] (fold : α → β) (a b : α) : Bool := fold a == fold b

theorem forall₂_sameUnder {β : Type} [DecidableEq β] {fold : α → β} {xs ys : List α} :
    List.Forall₂ (fun a b => sameUnder fold a b = true) xs ys ↔ xs.map fold = ys.map fold := by
  induction xs generalizing ys with
  | nil => cases ys <;> simp
  | cons a xs ih =>
    cases ys with
    | nil => simp
    | cons b ys => rw [List.forall₂_cons,ih,sameUnder,beq_iff_eq,List.map_cons,List.map_cons,List.cons.injEq]

theorem fits_prefix {β : Type} [DecidableEq β] {fold : α → β} {literals text : List α} :
    fits (sameUnder fold) (literals.map .literal ++ [.anyRun]) text = true ↔ literals.map fold <+: text.map fold := by
  rw [fits_literals]
  constructor
  · rintro ⟨front,back,rfl,agree,_⟩
    rw [forall₂_sameUnder.mp agree,List.map_append]
    exact List.prefix_append _ _
  · rintro ⟨rest,whole⟩
    obtain ⟨front,back,rfl,first,_⟩ := List.map_eq_append_iff.mp whole.symm
    exact ⟨front,back,rfl,forall₂_sameUnder.mpr first.symm,fits_run _ _⟩

theorem fits_widened {same : α → α → Bool} {read : α → Symbol α}
    (wider : ∀ a, read a = .literal a ∨ read a = .anyOne ∨ read a = .anyRun) {literals : List α}
    {pattern : List (Symbol α)} {text : List α} (exact : fits same (literals.map .literal ++ pattern) text = true) :
    fits same (literals.map read ++ pattern) text = true := by
  induction literals generalizing text with
  | nil => exact exact
  | cons a literals ih =>
    cases text with
    | nil => cases exact
    | cons b text =>
      rw [List.map_cons,List.cons_append,fits,Bool.and_eq_true] at exact
      obtain ⟨first,rest⟩ := exact
      have later := ih rest
      rw [List.map_cons,List.cons_append]
      rcases wider a with symbol | symbol | symbol
      · rw [symbol,fits,first,later]
        rfl
      · rw [symbol]
        exact later
      · rw [symbol]
        exact fits_anyRun.mpr ⟨text,List.suffix_cons b text,later⟩

end BitProtector.Like
