import Mathlib.Order.Defs.Unbundled

/-! Sets that grow along a list. Something adds the elements of the list one after the
other and may stop anywhere; what comes early in the list is never there without having
been added before what comes late. -/
namespace BitProtector.Growth

variable {α : Type}

/-- Beside the elements of `before` there are the first ones of `xs`. -/
def GrowsBy (xs : List α) (before next : α → Prop) : Prop := ∃ k, ∀ a, next a ↔ before a ∨ a ∈ xs.take k

/-- Whenever `second` has been added, `first` has. -/
def Precedes (first second : α) (xs : List α) : Prop := ∀ k, second ∈ xs.take k → first ∈ xs.take k

theorem growsBy_of_iff (xs : List α) {before next : α → Prop} (same : ∀ a, next a ↔ before a) :
    GrowsBy xs before next := by
  refine ⟨0,fun a => ?_⟩
  rw [same,List.take_zero]
  simp

instance (xs : List α) : IsPreorder (α → Prop) (GrowsBy xs) where
  refl _ := growsBy_of_iff xs fun _ => Iff.rfl
  trans before middle next := by
    rintro ⟨k,first⟩ ⟨n,second⟩
    refine ⟨max k n,fun a => ?_⟩
    rw [second,first,or_assoc]
    apply or_congr_right
    rcases Nat.le_total k n with less | less
    · rw [Nat.max_eq_right less]
      exact ⟨fun either => either.elim (fun member => List.take_subset_take_left xs less member) id,.inr⟩
    · rw [Nat.max_eq_left less]
      exact ⟨fun either => either.elim id (fun member => List.take_subset_take_left xs less member),.inl⟩

theorem growsBy_single {x : α} {before next : α → Prop} (others : ∀ a, a ≠ x → (next a ↔ before a))
    (grows : before x → next x) : GrowsBy [x] before next := by
  by_cases added : next x
  · refine ⟨1,fun a => ?_⟩
    rw [List.take_succ_cons,List.take_zero,List.mem_singleton]
    by_cases same : a = x
    · subst same
      exact ⟨fun _ => .inr rfl,fun _ => added⟩
    · exact ⟨fun holds => .inl ((others a same).mp holds),fun either =>
        either.elim (others a same).mpr fun equal => absurd equal same⟩
  · apply growsBy_of_iff
    intro a
    by_cases same : a = x
    · subst same
      exact ⟨fun holds => absurd holds added,fun held => absurd (grows held) added⟩
    · exact others a same

theorem GrowsBy.append_right {xs : List α} {before next : α → Prop} (grows : GrowsBy xs before next) (ys : List α) :
    GrowsBy (xs ++ ys) before next := by
  obtain ⟨k,each⟩ := grows
  refine ⟨min k xs.length,fun a => ?_⟩
  rw [each,List.take_append_of_le_length (Nat.min_le_right k xs.length),← List.take_take,List.take_length]

theorem GrowsBy.append {xs ys : List α} {before middle next : α → Prop} (first : GrowsBy xs before middle)
    (whole : ∀ x ∈ xs, middle x) (second : GrowsBy ys middle next) : GrowsBy (xs ++ ys) before next := by
  obtain ⟨k,each⟩ := first
  obtain ⟨n,later⟩ := second
  refine ⟨xs.length + n,fun a => ?_⟩
  rw [later,each,List.take_length_add_append,List.mem_append,or_assoc]
  constructor
  · rintro (held | early | late)
    · exact .inl held
    · exact .inr (.inl (List.mem_of_mem_take early))
    · exact .inr (.inr late)
  · rintro (held | early | late)
    · exact .inl held
    · rcases (each a).mp (whole a early) with held | early
      · exact .inl held
      · exact .inr (.inl early)
    · exact .inr (.inr late)

theorem GrowsBy.keeps_order {xs : List α} {before next : α → Prop} (grows : GrowsBy xs before next) {first second : α}
    (ordered : before second → before first) (precedes : Precedes first second xs ∨ before first)
    (added : next second) : next first := by
  obtain ⟨k,each⟩ := grows
  rw [each] at added ⊢
  rcases precedes with precedes | held
  · exact added.imp ordered (precedes k)
  · exact .inl held

theorem GrowsBy.subset {xs : List α} {before next : α → Prop} (grows : GrowsBy xs before next) {a : α}
    (held : before a) : next a := by
  obtain ⟨k,each⟩ := grows
  exact (each a).mpr (.inl held)

theorem precedes_nil (first second : α) : Precedes first second [] := by
  intro k none
  rw [List.take_nil] at none
  cases none

theorem precedes_cons (first second : α) (xs : List α) : Precedes first second (first::xs) := by
  intro k member
  cases k with
  | zero => cases member
  | succ k => exact List.mem_cons_self

end BitProtector.Growth
