import Mathlib.Data.List.Forall2

/-! Passes over a list: a fallible map that stops at the first error, and writers that
own one key of a store each. -/
namespace BitProtector.Passes

variable {α β ε κ ν : Type}

theorem mapM_ok {f : α → Except ε β} {items : List α} {images : List β} :
    items.mapM f = .ok images ↔ List.Forall₂ (fun item image => f item = .ok image) items images := by
  induction items generalizing images with
  | nil =>
    rw [List.mapM_nil,List.forall₂_nil_left_iff]
    constructor
    · intro ok
      cases ok
      rfl
    · rintro rfl
      rfl
  | cons item items ih =>
    rw [List.mapM_cons]
    constructor
    · intro ok
      cases first : f item with
      | error e =>
        rw [first] at ok
        cases ok
      | ok image =>
        cases rest : items.mapM f with
        | error e =>
          rw [first,rest] at ok
          cases ok
        | ok others =>
          rw [first,rest] at ok
          cases ok
          exact .cons first (ih.mp rest)
    · rintro (_ | ⟨first,rest⟩)
      rw [first,ih.mpr rest]
      rfl

theorem mapM_exists {f : α → Except ε β} {items : List α} :
    (∃ images, items.mapM f = .ok images) ↔ ∀ item ∈ items, ∃ image, f item = .ok image := by
  induction items with
  | nil => exact iff_of_true ⟨[],rfl⟩ (by simp)
  | cons item items ih =>
    rw [List.forall_mem_cons,← ih]
    constructor
    · rintro ⟨images,ok⟩
      cases mapM_ok.mp ok with
      | cons first rest => exact ⟨⟨_,first⟩,_,mapM_ok.mpr rest⟩
    · rintro ⟨⟨image,first⟩,images,rest⟩
      exact ⟨image::images,mapM_ok.mpr (.cons first (mapM_ok.mp rest))⟩

theorem mem_mapM {f : α → Except ε β} {items : List α} {images : List β} (ok : items.mapM f = .ok images)
    {item : α} (member : item ∈ items) : ∃ image ∈ images, f item = .ok image := by
  have pairs := mapM_ok.mp ok
  induction pairs with
  | nil => cases member
  | cons first rest ih =>
    rcases List.mem_cons.mp member with rfl | later
    · exact ⟨_,List.mem_cons_self,first⟩
    · obtain ⟨image,present,mapped⟩ := ih (mapM_ok.mpr rest) later
      exact ⟨image,List.mem_cons_of_mem _ present,mapped⟩

theorem mapM_mem {f : α → Except ε β} {items : List α} {images : List β} (ok : items.mapM f = .ok images)
    {image : β} (member : image ∈ images) : ∃ item ∈ items, f item = .ok image := by
  have pairs := mapM_ok.mp ok
  induction pairs with
  | nil => cases member
  | cons first rest ih =>
    rcases List.mem_cons.mp member with rfl | later
    · exact ⟨_,List.mem_cons_self,first⟩
    · obtain ⟨item,present,mapped⟩ := ih (mapM_ok.mpr rest) later
      exact ⟨item,List.mem_cons_of_mem _ present,mapped⟩

/-! Writers. -/

variable {act : α → (κ → ν) → κ → ν}

theorem foldl_kept {writers : List α} {k : κ} (idle : ∀ a ∈ writers, ∀ store, act a store k = store k) (store : κ → ν) :
    writers.foldl (fun store a => act a store) store k = store k := by
  induction writers generalizing store with
  | nil => rfl
  | cons a writers ih =>
    rw [List.foldl_cons,ih (fun b member => idle b (List.mem_cons_of_mem _ member))]
    exact idle a List.mem_cons_self store

theorem foldl_at (act : α → (κ → ν) → κ → ν) {writers : List α} (distinct : writers.Nodup) {a : α} (member : a ∈ writers) {k : κ}
    (reads : ∀ store other, store k = other k → act a store k = act a other k)
    (idle : ∀ b ∈ writers, b ≠ a → ∀ store, act b store k = store k) (store : κ → ν) :
    writers.foldl (fun store a => act a store) store k = act a store k := by
  induction writers generalizing store with
  | nil => cases member
  | cons b writers ih =>
    obtain ⟨absent,distinct⟩ := List.nodup_cons.mp distinct
    rw [List.foldl_cons]
    rcases List.mem_cons.mp member with rfl | later
    · apply foldl_kept
      intro c present
      exact idle c (List.mem_cons_of_mem _ present) (fun same => absent (same ▸ present))
    · have other : b ≠ a := fun same => absent (same ▸ later)
      rw [ih distinct later (fun c present => idle c (List.mem_cons_of_mem _ present))]
      exact reads _ _ (idle b List.mem_cons_self other store)

end BitProtector.Passes
