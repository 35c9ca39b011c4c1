import Mathlib.Data.List.Induction
import Mathlib.Data.List.Sort
import Mathlib.Data.List.Perm.Subperm
import Mathlib.Logic.Function.Basic
import Mathlib.Order.Basic

/-! Paging by offset over a list that is ordered by a key, while every element of
a page has its key replaced by the next reading of a clock. Elements of equal keys
come in any order, a new one for each page. -/
namespace BitProtector.Paging

section Order
variable {ι κ : Type} [LinearOrder κ]

/-- The order of a page: by key, and by `prio` where keys are equal. -/
def Before (key : ι → κ) (prio : ι → Nat) (a b : ι) : Prop :=
  key a < key b ∨ (key a = key b ∧ prio a ≤ prio b)

instance (key : ι → κ) (prio : ι → Nat) : DecidableRel (Before key prio) :=
  fun _ _ => inferInstanceAs (Decidable (_ ∨ _))

instance (key : ι → κ) (prio : ι → Nat) : Std.Total (Before key prio) where
  total a b := by
    rcases lt_trichotomy (key a) (key b) with less | same | more
    · exact .inl (.inl less)
    · rcases Nat.le_total (prio a) (prio b) with first | second
      · exact .inl (.inr ⟨same,first⟩)
      · exact .inr (.inr ⟨same.symm,second⟩)
    · exact .inr (.inl more)

instance (key : ι → κ) (prio : ι → Nat) : IsTrans ι (Before key prio) where
  trans a b c := by
    rintro (ab | ⟨ab,pab⟩) (bc | ⟨bc,pbc⟩)
    · exact .inl (ab.trans bc)
    · exact .inl (bc ▸ ab)
    · exact .inl (ab ▸ bc)
    · exact .inr ⟨ab.trans bc,pab.trans pbc⟩

theorem Before.key_le {key : ι → κ} {prio : ι → Nat} {a b : ι} (before : Before key prio a b) : key a ≤ key b := by
  rcases before with less | ⟨same,_⟩
  · exact le_of_lt less
  · exact le_of_eq same

def ordered (key : ι → κ) (prio : ι → Nat) (ids : List ι) : List ι := ids.insertionSort (Before key prio)

/-- The page with index `k`, counted from zero. -/
def page (size k : Nat) (key : ι → κ) (prio : ι → Nat) (ids : List ι) : List ι :=
  ((ordered key prio ids).drop (size * k)).take size

variable {key : ι → κ} {prio : ι → Nat} {ids : List ι} {size k : Nat}

theorem ordered_perm : (ordered key prio ids).Perm ids := List.perm_insertionSort _ _

theorem ordered_pairwise (key : ι → κ) (prio : ι → Nat) (ids : List ι) :
    (ordered key prio ids).Pairwise (Before key prio) := List.pairwise_insertionSort _ _

theorem ordered_nodup (key : ι → κ) (prio : ι → Nat) (distinct : ids.Nodup) : (ordered key prio ids).Nodup :=
  ordered_perm.nodup_iff.mpr distinct

/-- What comes first is least, by key and then by `prio`. -/
theorem before_of_head? {a : ι} (first : (ordered key prio ids).head? = some a) :
    a ∈ ids ∧ ∀ b ∈ ids, Before key prio a b := by
  obtain ⟨rest,whole⟩ := List.head?_eq_some_iff.mp first
  have sorted := ordered_pairwise key prio ids
  rw [whole,List.pairwise_cons] at sorted
  refine ⟨ordered_perm.subset (by rw [whole]; exact List.mem_cons_self),fun b member => ?_⟩
  have placed : b ∈ ordered key prio ids := ordered_perm.mem_iff.mpr member
  rw [whole] at placed
  rcases List.mem_cons.mp placed with rfl | later
  · exact .inr ⟨rfl,Nat.le_refl _⟩
  · exact sorted.1 b later

theorem head?_ordered_eq_none : (ordered key prio ids).head? = none ↔ ids = [] := by
  rw [List.head?_eq_none_iff]
  constructor
  · intro empty
    have placed : (ordered key prio ids).Perm ids := ordered_perm
    rw [empty] at placed
    exact placed.symm.eq_nil
  · intro empty
    rw [empty]
    rfl

theorem page_length : (page size k key prio ids).length = min size (ids.length - size * k) := by
  rw [page,List.length_take,List.length_drop,ordered_perm.length_eq]

theorem page_nodup (distinct : ids.Nodup) : (page size k key prio ids).Nodup :=
  ((ordered_nodup key prio distinct).sublist (List.drop_sublist _ _)).sublist (List.take_sublist _ _)

theorem page_subset : page size k key prio ids ⊆ ids := fun _ member =>
  ordered_perm.subset ((List.drop_sublist _ _).subset ((List.take_sublist _ _).subset member))

theorem before_of_offset {a b : ι} {m : Nat} (first : a ∈ (ordered key prio ids).take m)
    (second : b ∈ (ordered key prio ids).drop m) : Before key prio a b := by
  have sorted := ordered_pairwise key prio ids
  rw [← List.take_append_drop m (ordered key prio ids),List.pairwise_append] at sorted
  exact sorted.2.2 a first b second

theorem offset_disjoint (distinct : ids.Nodup) {a : ι} {m : Nat} (first : a ∈ (ordered key prio ids).take m)
    (second : a ∈ (ordered key prio ids).drop m) : False := by
  have split := ordered_nodup key prio distinct
  rw [← List.take_append_drop m (ordered key prio ids),List.nodup_append] at split
  exact split.2.2 a first a second rfl

/-- An element that fewer than `m` others can precede stands before the offset `m`. -/
theorem not_after_offset (distinct : ids.Nodup) {u : ι} (ahead : List ι) {m : Nat} (few : ahead.length < m)
    (enough : m ≤ ids.length) (preceding : ∀ v ∈ ids, v ≠ u → Before key prio v u → v ∈ ahead) :
    u ∉ (ordered key prio ids).drop m := by
  intro late
  have front : (ordered key prio ids).take m ⊆ ahead := by
    intro v early
    have member : v ∈ ids := ordered_perm.subset ((List.take_sublist _ _).subset early)
    have other : v ≠ u := by
      rintro rfl
      exact offset_disjoint distinct early late
    exact preceding v member other (before_of_offset early late)
  have short := List.Nodup.length_le_of_subset
    ((ordered_nodup key prio distinct).sublist (List.take_sublist m _)) front
  rw [List.length_take,ordered_perm.length_eq,Nat.min_eq_left enough] at short
  omega

theorem mem_take_iff_of_preceding (distinct : ids.Nodup) {front : List ι} (inside : front ⊆ ids)
    (apart : front.Nodup) (preceding : ∀ p ∈ front, ∀ u ∈ ids, u ∉ front → ¬Before key prio u p) (a : ι) :
    a ∈ (ordered key prio ids).take front.length ↔ a ∈ front := by
  have bound : front.length ≤ ids.length := List.Nodup.length_le_of_subset apart inside
  have length : ((ordered key prio ids).take front.length).length = front.length := by
    rw [List.length_take,ordered_perm.length_eq,Nat.min_eq_left bound]
  have taken_front : (ordered key prio ids).take front.length ⊆ front := by
    intro b early
    by_contra outside
    -- Some element of the front then stands after the offset, and so after `b`.
    have missing : ∃ p ∈ front, p ∉ (ordered key prio ids).take front.length := by
      by_contra all_taken
      push Not at all_taken
      have more : (b::front).length ≤ ((ordered key prio ids).take front.length).length := by
        apply List.Nodup.length_le_of_subset
        · exact List.nodup_cons.mpr ⟨outside,apart⟩
        · intro c member
          rcases List.mem_cons.mp member with rfl | member
          · exact early
          · exact all_taken c member
      rw [length,List.length_cons] at more
      omega
    obtain ⟨p,member,late⟩ := missing
    have sorted : p ∈ ordered key prio ids := ordered_perm.symm.subset (inside member)
    rw [← List.take_append_drop front.length (ordered key prio ids),List.mem_append] at sorted
    have dropped := sorted.resolve_left late
    have b_in : b ∈ ids := ordered_perm.subset ((List.take_sublist _ _).subset early)
    exact preceding p member b b_in outside (before_of_offset early dropped)
  constructor
  · intro early
    exact taken_front early
  · intro member
    have same := List.Nodup.subperm ((ordered_nodup key prio distinct).sublist
      (List.take_sublist front.length _)) taken_front
    exact (same.perm_of_length_le (le_of_eq length.symm)).symm.subset member

theorem page_congr {other : ι → κ}
    (same : ∀ i ∈ ids, other i = key i) : page size k other prio ids = page size k key prio ids := by
  have sorted : ordered other prio ids = ordered key prio ids := by
    have mapped := List.map_insertionSort (Before other prio) (Before key prio) id ids fun a ha b hb => by
      simp only [Before,id_eq,same a ha,same b hb]
    simpa only [List.map_id,ordered] using mapped
  rw [page,page,sorted]

theorem mem_after_page {a : ι} (member : a ∈ ids) (early : a ∉ (ordered key prio ids).take (size * k))
    (outside : a ∉ page size k key prio ids) : a ∈ ((ordered key prio ids).drop (size * k)).drop size := by
  have sorted : a ∈ ordered key prio ids := ordered_perm.symm.subset member
  rw [← List.take_append_drop (size * k) (ordered key prio ids),List.mem_append] at sorted
  have late := sorted.resolve_left early
  rw [← List.take_append_drop size ((ordered key prio ids).drop (size * k)),List.mem_append] at late
  exact late.resolve_left outside

theorem before_of_page {a b : ι} (first : a ∈ page size k key prio ids)
    (second : b ∈ ((ordered key prio ids).drop (size * k)).drop size) : Before key prio a b := by
  have sorted := (ordered_pairwise key prio ids).sublist (List.drop_sublist (size * k) _)
  rw [← List.take_append_drop size ((ordered key prio ids).drop (size * k)),List.pairwise_append] at sorted
  exact sorted.2.2 a first b second

end Order

section Run
variable {ι κ : Type} [DecidableEq ι] [LinearOrder κ]

/-- The keys now, and what has been touched since the start. -/
structure Paged (ι κ : Type) where
  key : ι → κ
  log : List ι

def touch (clock : Nat → κ) (s : Paged ι κ) (i : ι) : Paged ι κ :=
  ⟨Function.update s.key i (clock s.log.length),s.log ++ [i]⟩

def touchAll (clock : Nat → κ) (s : Paged ι κ) (items : List ι) : Paged ι κ := items.foldl (touch clock) s

/-- The first pages, one after the other; `prio` orders equal keys anew for each page. -/
def run (clock : Nat → κ) (prio : Nat → ι → Nat) (size : Nat) (ids : List ι) (key : ι → κ) : Nat → Paged ι κ
  | 0 => ⟨key,[]⟩
  | k + 1 =>
    let s := run clock prio size ids key k
    touchAll clock s (page size k s.key (prio k) ids)

/-- Those pages one by one. -/
def pages (clock : Nat → κ) (prio : Nat → ι → Nat) (size : Nat) (ids : List ι) (key : ι → κ) (k : Nat) : List (List ι) :=
  (List.range k).map (fun j => page size j (run clock prio size ids key j).key (prio j) ids)

variable {clock : Nat → κ}

omit [LinearOrder κ] in
theorem touchAll_log (s : Paged ι κ) (items : List ι) : (touchAll clock s items).log = s.log ++ items := by
  induction items generalizing s with
  | nil => simp [touchAll]
  | cons i items ih => simpa [touchAll,touch] using ih (touch clock s i)

omit [LinearOrder κ] in
theorem touchAll_key_other (s : Paged ι κ) {items : List ι} {i : ι} (absent : i ∉ items) :
    (touchAll clock s items).key i = s.key i := by
  induction items generalizing s with
  | nil => rfl
  | cons j items ih =>
    rw [List.mem_cons,not_or] at absent
    refine (ih (touch clock s j) absent.2).trans ?_
    exact Function.update_of_ne absent.1 _ _

omit [LinearOrder κ] in
theorem touchAll_key_congr {other : Nat → κ} {s t : Paged ι κ} {i : ι} (same : s.key i = t.key i)
    (readings : ∀ j, clock (s.log.length + j) = other (t.log.length + j)) (items : List ι) :
    (touchAll clock s items).key i = (touchAll other t items).key i := by
  induction items generalizing s t with
  | nil => exact same
  | cons first items ih =>
    refine ih (s := touch clock s first) (t := touch other t first) ?_ fun j => ?_
    · have now : clock s.log.length = other t.log.length := readings 0
      by_cases hit : i = first
      · simp only [touch,hit,Function.update_self,now]
      · simpa only [touch,Function.update_of_ne hit] using same
    · have next := readings (1 + j)
      simpa only [touch,List.length_append,List.length_singleton,Nat.add_assoc] using next

omit [LinearOrder κ] in
theorem touchAll_append (s : Paged ι κ) (items more : List ι) :
    touchAll clock s (items ++ more) = touchAll clock (touchAll clock s items) more := by
  simp only [touchAll,List.foldl_append]

omit [LinearOrder κ] in
theorem touchAll_key_mem (clock : Nat → κ) (s : Paged ι κ) {items : List ι} {i : ι} (member : i ∈ items) :
    ∃ j, s.log.length ≤ j ∧ j < s.log.length + items.length ∧ (touchAll clock s items).key i = clock j := by
  induction items generalizing s with
  | nil => cases member
  | cons first items ih =>
    by_cases later : i ∈ items
    · obtain ⟨j,low,high,reading⟩ := ih (touch clock s first) later
      simp only [touch,List.length_append,List.length_singleton] at low high
      exact ⟨j,by omega,by simp only [List.length_cons]; omega,reading⟩
    · have same : i = first := (List.mem_cons.mp member).resolve_right later
      subst same
      refine ⟨s.log.length,Nat.le_refl _,by simp,?_⟩
      refine (touchAll_key_other (touch clock s i) later).trans ?_
      exact Function.update_self _ _ _

omit [LinearOrder κ] in
theorem touchAll_key_last (s : Paged ι κ) (items : List ι) (i : ι) :
    (touchAll clock s (items ++ [i])).key i = clock (s.log.length + items.length) := by
  rw [touchAll,List.foldl_append]
  change Function.update _ i _ i = _
  rw [Function.update_self,show (items.foldl (touch clock) s).log = _ from touchAll_log s items,
    List.length_append]

variable {prio : Nat → ι → Nat} {size : Nat} {ids : List ι} {key : ι → κ}

theorem run_log_succ (k : Nat) : (run clock prio size ids key (k + 1)).log =
    (run clock prio size ids key k).log ++
      page size k (run clock prio size ids key k).key (prio k) ids := touchAll_log _ _

@[simp] theorem pages_length (k : Nat) : (pages clock prio size ids key k).length = k := by simp [pages]

theorem pages_succ (k : Nat) : pages clock prio size ids key (k + 1) =
    pages clock prio size ids key k ++ [page size k (run clock prio size ids key k).key (prio k) ids] := by
  simp only [pages,List.range_succ,List.map_append,List.map_cons,List.map_nil]

theorem pages_flatten (k : Nat) : (pages clock prio size ids key k).flatten = (run clock prio size ids key k).log := by
  induction k with
  | zero => rfl
  | succ k ih => rw [pages_succ,run_log_succ,List.flatten_append,ih,List.flatten_singleton]

theorem run_eq_touchAll (k : Nat) :
    run clock prio size ids key k = touchAll clock ⟨key,[]⟩ (run clock prio size ids key k).log := by
  induction k with
  | zero => rfl
  | succ k ih =>
    rw [run_log_succ,touchAll_append,← ih]
    rfl

theorem run_log_length (k : Nat) : (run clock prio size ids key k).log.length = min (size * k) ids.length := by
  induction k with
  | zero => simp [run]
  | succ k ih =>
    rw [run_log_succ,List.length_append,ih,page_length,Nat.mul_succ]
    omega

theorem run_log_subset (k : Nat) : (run clock prio size ids key k).log ⊆ ids := by
  induction k with
  | zero => simp [run]
  | succ k ih =>
    rw [run_log_succ]
    exact List.append_subset.mpr ⟨ih,page_subset⟩

theorem run_log_initial {k j : Nat} (le : k ≤ j) :
    (run clock prio size ids key k).log <+: (run clock prio size ids key j).log := by
  induction le with
  | refl => exact List.prefix_rfl
  | step _ ih =>
    rw [run_log_succ]
    exact ih.trans (List.prefix_append _ _)

theorem run_key_other (k : Nat) {i : ι} (absent : i ∉ (run clock prio size ids key k).log) :
    (run clock prio size ids key k).key i = key i := by
  induction k with
  | zero => rfl
  | succ k ih =>
    rw [run_log_succ,List.mem_append,not_or] at absent
    exact (touchAll_key_other _ absent.2).trans (ih absent.1)

theorem run_key_mem (k : Nat) {i : ι} (member : i ∈ (run clock prio size ids key k).log) :
    ∃ j < (run clock prio size ids key k).log.length, (run clock prio size ids key k).key i = clock j := by
  induction k with
  | zero => cases member
  | succ k ih =>
    by_cases now : i ∈ page size k (run clock prio size ids key k).key (prio k) ids
    · obtain ⟨j,_,high,reading⟩ := touchAll_key_mem clock (run clock prio size ids key k) now
      exact ⟨j,by rw [run_log_succ,List.length_append]; exact high,reading⟩
    · rw [run_log_succ,List.mem_append] at member
      obtain ⟨j,low,reading⟩ := ih (member.resolve_right now)
      refine ⟨j,?_,(touchAll_key_other _ now).trans reading⟩
      rw [run_log_succ,List.length_append]
      omega

theorem run_key_last (k : Nat) {ahead : List ι} {last : ι}
    (split : (run clock prio size ids key k).log = ahead ++ [last]) :
    (run clock prio size ids key k).key last = clock ahead.length := by
  induction k with
  | zero => simp [run] at split
  | succ k ih =>
    rw [run_log_succ] at split
    rcases List.eq_nil_or_concat (page size k (run clock prio size ids key k).key (prio k) ids) with
      empty | ⟨front,newest,parts⟩
    · rw [empty,List.append_nil] at split
      refine Eq.trans ?_ (ih split)
      exact touchAll_key_other _ (by rw [empty]; exact List.not_mem_nil)
    · rw [List.concat_eq_append] at parts
      rw [parts,← List.append_assoc] at split
      obtain ⟨before,same⟩ := List.append_inj' split rfl
      rw [List.singleton_inj] at same
      subst same
      rw [← before,List.length_append]
      change (touchAll clock _ (page size k (run clock prio size ids key k).key (prio k) ids)).key newest = _
      rw [parts]
      exact touchAll_key_last _ _ _

theorem run_past_end {k j : Nat} (done : ids.length ≤ size * k) (le : k ≤ j) :
    run clock prio size ids key j = run clock prio size ids key k := by
  induction le with
  | refl => rfl
  | @step j le ih =>
    have past : ids.length ≤ size * j := done.trans (Nat.mul_le_mul_left size le)
    have empty : page size j (run clock prio size ids key j).key (prio j) ids = [] := by
      apply List.eq_nil_of_length_eq_zero
      rw [page_length]
      omega
    rw [run,empty]
    exact ih

theorem run_congr_key {other : ι → κ} (same : ∀ i ∈ ids, other i = key i) (k : Nat) :
    (run clock prio size ids other k).log = (run clock prio size ids key k).log ∧
      ∀ i, other i = key i → (run clock prio size ids other k).key i = (run clock prio size ids key k).key i := by
  induction k with
  | zero => exact ⟨rfl,fun _ agree => agree⟩
  | succ k ih =>
    obtain ⟨logs,keys⟩ := ih
    have pages : page size k (run clock prio size ids other k).key (prio k) ids =
        page size k (run clock prio size ids key k).key (prio k) ids := page_congr fun i member => keys i (same i member)
    refine ⟨?_,fun i agree => ?_⟩
    · rw [run_log_succ,run_log_succ,logs,pages]
    · rw [run,run,pages]
      exact touchAll_key_congr (keys i agree) (fun j => by rw [logs]) _

theorem run_congr {other : Nat → ι → Nat} {k : Nat} (same : ∀ q < k, other q = prio q) :
    run clock other size ids key k = run clock prio size ids key k := by
  induction k with
  | zero => rfl
  | succ k ih =>
    have before := ih fun q less => same q (Nat.lt_succ_of_lt less)
    simp only [run,before,same k (Nat.lt_succ_self k)]

/-- Before every offset there are at most so many elements whose key the clock has
passed when the page is read. -/
def FewPassed (clock : Nat → κ) (size : Nat) (ids : List ι) (key : ι → κ) : Prop :=
  ∀ k, 0 < k → size * k < ids.length →
    (ids.filter (fun i => key i ≤ clock (size * k - 1))).length ≤ size * k

/-- The touched elements are distinct, and had the smallest keys. -/
def Swept (ids : List ι) (key : ι → κ) (s : Paged ι κ) : Prop :=
  s.log.Nodup ∧ ∀ p ∈ s.log, ∀ u ∈ ids, u ∉ s.log → key p ≤ key u

theorem swept_run (prio : Nat → ι → Nat) (monotone : Monotone clock) (distinct : ids.Nodup) (few : FewPassed clock size ids key)
    (k : Nat) :
    Swept ids key (run clock prio size ids key k) := by
  induction k with
  | zero => exact ⟨List.nodup_nil,by simp [run]⟩
  | succ k ih =>
    obtain ⟨nodup,smallest⟩ := ih
    by_cases inside : size * k < ids.length
    · have length : (run clock prio size ids key k).log.length = size * k := by
        rw [run_log_length]
        omega
      -- What was touched precedes what was not, by the readings so far.
      have preceding : ∀ p ∈ (run clock prio size ids key k).log, ∀ u ∈ ids,
          u ∉ (run clock prio size ids key k).log → ¬Before (run clock prio size ids key k).key (prio k) u p := by
        intro p member u inIds absent before
        obtain ⟨j,early,reading⟩ := run_key_mem k member
        have passed : key u ≤ clock (size * k - 1) := by
          rw [← run_key_other k absent]
          refine before.key_le.trans ?_
          rw [reading]
          exact monotone (by omega)
        have pos : 0 < k := by
          rcases Nat.eq_zero_or_pos k with rfl | pos
          · cases member
          · exact pos
        have many : (u::(run clock prio size ids key k).log).length ≤
            (ids.filter (fun i => key i ≤ clock (size * k - 1))).length := by
          apply List.Nodup.length_le_of_subset (List.nodup_cons.mpr ⟨absent,nodup⟩)
          intro v touched
          rw [List.mem_filter,decide_eq_true_eq]
          rcases List.mem_cons.mp touched with rfl | touched
          · exact ⟨inIds,passed⟩
          · exact ⟨run_log_subset k touched,(smallest v touched u inIds absent).trans passed⟩
        have bound := few k pos inside
        rw [List.length_cons,length] at many
        omega
      have front := mem_take_iff_of_preceding distinct (run_log_subset k) nodup preceding
      rw [length] at front
      have fresh : ∀ a ∈ page size k (run clock prio size ids key k).key (prio k) ids,
          a ∉ (run clock prio size ids key k).log := fun a now touched =>
        offset_disjoint distinct ((front a).mpr touched) ((List.take_sublist _ _).subset now)
      rw [Swept,run_log_succ]
      constructor
      · rw [List.nodup_append]
        refine ⟨nodup,page_nodup distinct,?_⟩
        rintro a touched _ now rfl
        exact fresh a now touched
      · intro p member u inIds absent
        rw [List.mem_append,not_or] at absent
        rcases List.mem_append.mp member with touched | now
        · exact smallest p touched u inIds absent.1
        · have after := mem_after_page inIds (fun early => absent.1 ((front u).mp early)) absent.2
          have le := (before_of_page now after).key_le
          rwa [run_key_other k (fresh p now),run_key_other k absent.1] at le
    · have empty : page size k (run clock prio size ids key k).key (prio k) ids = [] := by
        apply List.eq_nil_of_length_eq_zero
        rw [page_length]
        omega
      rw [Swept,run_log_succ,empty,List.append_nil]
      exact ⟨nodup,smallest⟩

omit [DecidableEq ι] in
theorem exists_least {items : List ι} (key : ι → κ) (nonempty : items ≠ []) : ∃ u ∈ items, ∀ v ∈ items, key u ≤ key v := by
  induction items with
  | nil => exact absurd rfl nonempty
  | cons first items ih =>
    by_cases rest : items = []
    · exact ⟨first,by simp,by simp [rest]⟩
    · obtain ⟨u,member,least⟩ := ih rest
      rcases le_total (key first) (key u) with low | high
      · refine ⟨first,by simp,?_⟩
        intro v inside
        rcases List.mem_cons.mp inside with rfl | inside
        · exact le_refl _
        · exact low.trans (least v inside)
      · refine ⟨u,by simp [member],?_⟩
        intro v inside
        rcases List.mem_cons.mp inside with rfl | inside
        · exact high
        · exact least v inside

/-- Where the clock has passed too many keys, some element that is left over stays
before every later offset if ties go its way, and is never touched. -/
theorem exists_starved (prio : Nat → ι → Nat) (monotone : Monotone clock) (distinct : ids.Nodup) {k : Nat} (pos : 0 < size * k)
    (inside : size * k < ids.length)
    (many : size * k < (ids.filter (fun i => key i ≤ clock (size * k - 1))).length) :
    ∃ u ∈ ids, ∀ other : Nat → ι → Nat, (∀ q < k, other q = prio q) →
      (∀ q, k ≤ q → ∀ v, v ≠ u → other q u < other q v) → ∀ j, u ∉ (run clock other size ids key j).log := by
  have length : (run clock prio size ids key k).log.length = size * k := by
    rw [run_log_length]
    omega
  -- The last element touched has the newest reading.
  obtain ⟨ahead,last,split⟩ : ∃ ahead last, (run clock prio size ids key k).log = ahead ++ [last] := by
    rcases List.eq_nil_or_concat (run clock prio size ids key k).log with empty | ⟨ahead,last,split⟩
    · rw [empty,List.length_nil] at length
      omega
    · exact ⟨ahead,last,by rw [split,List.concat_eq_append]⟩
  have newest := run_key_last k split
  have count : ahead.length = size * k - 1 := by
    rw [split,List.length_append,List.length_singleton] at length
    omega
  rw [count] at newest
  have left_over : ids.filter (fun i => i ∉ (run clock prio size ids key k).log) ≠ [] := by
    intro none_left
    have all_touched : ids ⊆ (run clock prio size ids key k).log := by
      intro i member
      by_contra absent
      have listed : i ∈ ids.filter (fun i => i ∉ (run clock prio size ids key k).log) :=
        List.mem_filter.mpr ⟨member,by simpa using absent⟩
      rw [none_left] at listed
      cases listed
    have short := List.Nodup.length_le_of_subset distinct all_touched
    omega
  obtain ⟨u,listed,least⟩ := exists_least key left_over
  obtain ⟨member,absent⟩ := List.mem_filter.mp listed
  have absent : u ∉ (run clock prio size ids key k).log := by simpa using absent
  have passed : key u ≤ clock (size * k - 1) := by
    by_contra later
    have short : (ids.filter (fun i => key i ≤ clock (size * k - 1))).length ≤
        (run clock prio size ids key k).log.length := by
      apply List.Nodup.length_le_of_subset (distinct.filter _)
      intro i low
      rw [List.mem_filter,decide_eq_true_eq] at low
      by_contra untouched
      have above := least i (List.mem_filter.mpr ⟨low.1,by simpa using untouched⟩)
      exact later (above.trans low.2)
    omega
  refine ⟨u,member,fun other same favours => ?_⟩
  -- From the page `k` on, only the elements of `ahead` may have a key below that of `u`.
  have kept : ∀ j, k ≤ j → u ∉ (run clock other size ids key j).log ∧
      ∀ v ∈ ids, v ∉ ahead → key u ≤ (run clock other size ids key j).key v := by
    intro j le
    induction j, le using Nat.le_induction with
    | base =>
      rw [run_congr same]
      refine ⟨absent,fun v inIds outside => ?_⟩
      by_cases touched : v ∈ (run clock prio size ids key k).log
      · rw [split,List.mem_append,List.mem_singleton] at touched
        rw [touched.resolve_left outside,newest]
        exact passed
      · rw [run_key_other k touched]
        exact least v (List.mem_filter.mpr ⟨inIds,by simpa using touched⟩)
    | succ j le ih =>
      obtain ⟨untouched,above⟩ := ih
      have deep : size * k ≤ size * j := Nat.mul_le_mul_left size le
      have skipped : u ∉ page size j (run clock other size ids key j).key (other j) ids := by
        intro now
        have late := (List.take_sublist _ _).subset now
        by_cases bound : size * j ≤ ids.length
        · refine not_after_offset distinct ahead (by omega) bound ?_ late
          intro v inIds ne before
          by_contra outside
          have low := above v inIds outside
          rw [← run_key_other j untouched] at low
          rcases before with less | ⟨_,first⟩
          · exact absurd low (not_le.mpr less)
          · exact absurd first (Nat.not_le.mpr (favours j le v ne))
        · have empty : (ordered (run clock other size ids key j).key (other j) ids).drop (size * j) = [] := by
            apply List.drop_eq_nil_of_le
            rw [ordered_perm.length_eq]
            omega
          rw [empty] at late
          cases late
      refine ⟨?_,fun v inIds outside => ?_⟩
      · rw [run_log_succ,List.mem_append,not_or]
        exact ⟨untouched,skipped⟩
      · by_cases now : v ∈ page size j (run clock other size ids key j).key (other j) ids
        · obtain ⟨reading,low,_,at_reading⟩ := touchAll_key_mem clock (run clock other size ids key j) now
          rw [run_log_length] at low
          refine passed.trans ?_
          rw [show (run clock other size ids key (j + 1)).key v = clock reading from at_reading]
          exact monotone (by omega)
        · rw [show (run clock other size ids key (j + 1)).key v = _ from touchAll_key_other _ now]
          exact above v inIds outside
  intro j
  rcases Nat.le_total k j with le | le
  · exact (kept j le).1
  · intro early
    exact (kept k (Nat.le_refl k)).1 ((run_log_initial le).subset early)

/-- The one element that the first page has no room for comes first from then on, and
is never touched, however ties are broken. -/
theorem exists_left_out (prio : Nat → ι → Nat) (distinct : ids.Nodup) (pos : 0 < size) (fits : ids.length = size + 1)
    (low : ∀ i ∈ ids, ∀ j, key i < clock j) : ∃ u ∈ ids, ∀ j, u ∉ (run clock prio size ids key j).log := by
  have first : (run clock prio size ids key 1).log = page size 0 key (prio 0) ids := run_log_succ 0
  have length : (run clock prio size ids key 1).log.length = size := by
    rw [run_log_length]
    omega
  have apart : (run clock prio size ids key 1).log.Nodup := by
    rw [first]
    exact page_nodup distinct
  obtain ⟨u,member,absent⟩ : ∃ u ∈ ids, u ∉ (run clock prio size ids key 1).log := by
    by_contra all_touched
    push Not at all_touched
    have short := List.Nodup.length_le_of_subset distinct all_touched
    omega
  have others : ∀ v ∈ ids, v ≠ u → v ∈ (run clock prio size ids key 1).log := by
    intro v inside ne
    by_contra untouched
    have many : (u::v::(run clock prio size ids key 1).log).length ≤ ids.length := by
      refine List.Nodup.length_le_of_subset ?_ ?_
      · exact List.nodup_cons.mpr ⟨by simp [ne.symm,absent],List.nodup_cons.mpr ⟨untouched,apart⟩⟩
      · exact List.cons_subset.mpr ⟨member,List.cons_subset.mpr ⟨inside,run_log_subset 1⟩⟩
    simp only [List.length_cons] at many
    omega
  have skipped : u ∉ page size 1 (run clock prio size ids key 1).key (prio 1) ids := by
    intro now
    have late := (List.take_sublist _ _).subset now
    rw [Nat.mul_one] at late
    refine not_after_offset distinct [] pos (by omega) (fun v inside ne before => ?_) late
    obtain ⟨j,_,reading⟩ := run_key_mem 1 (others v inside ne)
    have le := before.key_le
    rw [reading,run_key_other 1 absent] at le
    exact absurd (low u member j) (not_lt.mpr le)
  have second : u ∉ (run clock prio size ids key 2).log := by
    rw [run_log_succ,List.mem_append,not_or]
    exact ⟨absent,skipped⟩
  refine ⟨u,member,fun j touched => ?_⟩
  rcases Nat.le_total j 2 with le | le
  · exact second ((run_log_initial le).subset touched)
  · rw [run_past_end (by omega) le] at touched
    exact second touched

/-- For every way to break ties the pages touch each element exactly once, if and only
if the clock never passes too many keys. -/
theorem run_covers_iff (monotone : Monotone clock) (distinct : ids.Nodup) (pos : 0 < size) {pages : Nat}
    (enough : ids.length ≤ size * pages) :
    (∀ prio, (run clock prio size ids key pages).log.Perm ids) ↔ FewPassed clock size ids key := by
  constructor
  · intro covers k k_pos inside
    by_contra many
    obtain ⟨u,member,starved⟩ := exists_starved (fun _ _ => 0) monotone distinct (Nat.mul_pos pos k_pos) inside
      (Nat.not_le.mp many)
    refine starved (fun q v => if q < k then 0 else if v = u then 0 else 1) ?_ ?_ pages
      ((covers _).symm.subset member)
    · intro q less
      funext v
      simp [less]
    · intro q late v ne
      simp [Nat.not_lt.mpr late,ne]
  · intro few prio
    have swept := swept_run prio monotone distinct few pages
    have sub := List.Nodup.subperm swept.1 (run_log_subset pages)
    apply sub.perm_of_length_le
    rw [run_log_length]
    omega

theorem run_of_past_end {k j : Nat} (done : ids.length ≤ size * k) (too : ids.length ≤ size * j) :
    run clock prio size ids key j = run clock prio size ids key k := by
  rcases Nat.le_total k j with le | le
  · exact run_past_end done le
  · exact (run_past_end too le).symm

/-! Rotation: nothing is touched again while something else has not been touched at all. -/

omit [LinearOrder κ] [DecidableEq ι] in
/-- Over pages touched one after the other; the elements of one page are touched together. -/
def Rotates (ids : List ι) (pages : List (List ι)) : Prop :=
  ∀ before page after, pages = before ++ page::after → ∀ i ∈ page, i ∈ before.flatten →
    ∀ u ∈ ids, u ∈ before.flatten ∨ u ∈ page

omit [LinearOrder κ] [DecidableEq ι] in
theorem exists_repeat {pages : List (List ι)} (each : ∀ page ∈ pages, page.Nodup) (repeats : ¬pages.flatten.Nodup) :
    ∃ before page after, pages = before ++ page::after ∧ ∃ i ∈ page, i ∈ before.flatten := by
  induction pages using List.reverseRecOn with
  | nil => exact absurd List.nodup_nil repeats
  | append_singleton pages last ih =>
    by_cases early : pages.flatten.Nodup
    · rw [List.flatten_append,List.flatten_singleton,List.nodup_append] at repeats
      have mixed : ¬∀ i ∈ pages.flatten, ∀ j ∈ last, i ≠ j := fun apart =>
        repeats ⟨early,each last (by simp),apart⟩
      push Not at mixed
      obtain ⟨i,touched,_,now,rfl⟩ := mixed
      exact ⟨pages,last,[],rfl,i,now,touched⟩
    · obtain ⟨before,page,after,split,again⟩ := ih (fun page member => each page (by simp [member])) early
      exact ⟨before,page,after ++ [last],by rw [split,List.append_assoc,List.cons_append],again⟩

omit [LinearOrder κ] [DecidableEq ι] in
theorem not_rotates_of_repeats {pages : List (List ι)} (each : ∀ page ∈ pages, page.Nodup)
    (repeats : ¬pages.flatten.Nodup) {u : ι} (member : u ∈ ids) (missed : u ∉ pages.flatten) : ¬Rotates ids pages := by
  obtain ⟨before,page,after,split,i,now,touched⟩ := exists_repeat each repeats
  intro rotates
  rw [split,List.flatten_append,List.flatten_cons,List.mem_append,List.mem_append,not_or,not_or] at missed
  rcases rotates before page after split i now touched u member with early | now
  · exact missed.1 early
  · exact missed.2.1 now

theorem pages_nodup (distinct : ids.Nodup) (k : Nat) : ∀ page ∈ pages clock prio size ids key k, page.Nodup := by
  intro page member
  obtain ⟨j,_,rfl⟩ := List.mem_map.mp member
  exact page_nodup distinct

theorem not_rotates_of_many (monotone : Monotone clock) (distinct : ids.Nodup) {k m : Nat} (pos : 0 < size * k)
    (inside : size * k < ids.length) (many : size * k < (ids.filter (fun i => key i ≤ clock (size * k - 1))).length)
    (whole : ids.length ≤ size * m) : ∃ prio, ¬Rotates ids (pages clock prio size ids key m) := by
  obtain ⟨u,member,starved⟩ := exists_starved (fun _ _ => 0) monotone distinct pos inside many
  let prio : Nat → ι → Nat := fun q v => if q < k then 0 else if v = u then 0 else 1
  have missed : u ∉ (run clock prio size ids key m).log := by
    refine starved prio (fun q less => ?_) (fun q late v ne => ?_) m
    · funext v
      simp [prio,less]
    · simp [prio,Nat.not_lt.mpr late,ne]
  refine ⟨prio,not_rotates_of_repeats (pages_nodup distinct m) (fun apart => ?_) member (by rwa [pages_flatten])⟩
  rw [pages_flatten] at apart
  have short : (u::(run clock prio size ids key m).log).length ≤ ids.length :=
    List.Nodup.length_le_of_subset (List.nodup_cons.mpr ⟨missed,apart⟩)
      (List.cons_subset.mpr ⟨member,run_log_subset m⟩)
  rw [List.length_cons,run_log_length] at short
  omega

theorem not_rotates_of_few (monotone : Monotone clock) (distinct : ids.Nodup) (pos : 0 < size) (inside : size < ids.length)
    (few : (ids.filter (fun i => key i ≤ clock (size - 1))).length ≤ size) (first : ι → Nat) (again : ι → Nat) :
    ¬Rotates ids [page size 0 key first ids,page size 0 (touchAll clock ⟨key,[]⟩ (page size 0 key first ids)).key again ids] := by
  intro rotates
  have length : (page size 0 key first ids).length = size := by
    rw [page_length]
    omega
  have later : ∀ u ∈ ids, u ∉ page size 0 key first ids → clock (size - 1) < key u := by
    intro u member outside
    by_contra passed
    have listed : (u::page size 0 key first ids).length ≤ (ids.filter (fun i => key i ≤ clock (size - 1))).length := by
      refine List.Nodup.length_le_of_subset (List.nodup_cons.mpr ⟨outside,page_nodup distinct⟩) fun v touched => ?_
      rw [List.mem_filter,decide_eq_true_eq]
      rcases List.mem_cons.mp touched with rfl | touched
      · exact ⟨member,not_lt.mp passed⟩
      · have behind := mem_after_page (k := 0) member (by simp) outside
        exact ⟨page_subset touched,(before_of_page touched behind).key_le.trans (not_lt.mp passed)⟩
    rw [List.length_cons,length] at listed
    omega
  let key' := (touchAll clock ⟨key,[]⟩ (page size 0 key first ids)).key
  have preceding : ∀ p ∈ page size 0 key first ids, ∀ u ∈ ids, u ∉ page size 0 key first ids → ¬Before key' again u p := by
    intro p touched u member outside before
    obtain ⟨j,_,high,reading⟩ := touchAll_key_mem clock ⟨key,[]⟩ touched
    have le : key u ≤ clock j := by
      have first_le := before.key_le
      rwa [show key' p = clock j from reading,show key' u = key u from touchAll_key_other _ outside] at first_le
    rw [List.length_nil,Nat.zero_add,length] at high
    exact absurd (later u member outside) (not_lt.mpr (le.trans (monotone (by omega))))
  have same (i : ι) : i ∈ page size 0 key' again ids ↔ i ∈ page size 0 key first ids := by
    have front := mem_take_iff_of_preceding distinct page_subset (page_nodup distinct) preceding i
    rwa [length] at front
  obtain ⟨i,touched⟩ : ∃ i, i ∈ page size 0 key first ids :=
    List.exists_mem_of_length_pos (by omega)
  have all : ids ⊆ page size 0 key first ids := by
    intro u member
    rcases rotates [page size 0 key first ids] (page size 0 key' again ids) [] rfl i ((same i).mpr touched) (by simpa)
      u member with early | now
    · simpa using early
    · exact (same u).mp now
  have short := List.Nodup.length_le_of_subset distinct all
  omega

/-! Several lists, one after the other. -/

variable {γ : Type}

/-- What is touched in all, with every list paged to its end. -/
def sweep (prio : γ → Nat → ι → Nat) (size : Nat) : List (γ × List ι) → (Nat → κ) → (ι → κ) → List ι
  | [],_,_ => []
  | (label,ids)::groups,clock,key =>
    let s := run clock (prio label) size ids key ids.length
    s.log ++ sweep prio size groups (fun i => clock (ids.length + i)) s.key

/-- The clock passes too many keys of no list, while that list is paged. -/
def AllFewPassed (size : Nat) (key : ι → κ) : List (List ι) → (Nat → κ) → Prop
  | [],_ => True
  | ids::groups,clock =>
    FewPassed clock size ids key ∧ AllFewPassed size key groups (fun i => clock (ids.length + i))

theorem sweep_subset (prio : γ → Nat → ι → Nat) (groups : List (γ × List ι)) :
    sweep prio size groups clock key ⊆ (groups.map Prod.snd).flatten := by
  induction groups generalizing clock key with
  | nil => exact List.nil_subset _
  | cons group groups ih =>
    rw [sweep,List.map_cons,List.flatten_cons]
    refine List.append_subset.mpr ⟨fun i touched => ?_,fun i touched => ?_⟩
    · exact List.mem_append_left _ (run_log_subset _ touched)
    · exact List.mem_append_right _ (ih touched)

theorem sweep_congr {other : ι → κ} {prio : γ → Nat → ι → Nat} {groups : List (γ × List ι)}
    (same : ∀ i ∈ (groups.map Prod.snd).flatten, other i = key i) :
    sweep prio size groups clock other = sweep prio size groups clock key := by
  induction groups generalizing clock other key with
  | nil => rfl
  | cons group groups ih =>
    rw [List.map_cons,List.flatten_cons] at same
    have mine : ∀ i ∈ group.2, other i = key i := fun i member => same i (List.mem_append_left _ member)
    obtain ⟨logs,_⟩ := run_congr_key mine group.2.length
    rw [sweep,sweep,logs,ih fun i member => (run_congr_key mine group.2.length).2 i (same i (List.mem_append_right _ member))]

omit [LinearOrder κ] [DecidableEq ι] in
theorem perm_append_iff {first second whole rest : List ι} (inside : first ⊆ whole) (beside : second ⊆ rest)
    (apart : List.Disjoint whole rest) : (first ++ second).Perm (whole ++ rest) ↔ first.Perm whole ∧ second.Perm rest := by
  classical
  constructor
  · intro perm
    have counts := List.perm_iff_count.mp perm
    simp only [List.count_append] at counts
    have none_of {a : ι} {items : List ι} (absent : a ∉ items) : items.count a = 0 := List.count_eq_zero.mpr absent
    constructor
    · refine List.perm_iff_count.mpr fun a => ?_
      by_cases member : a ∈ whole
      · have out := apart member
        have total := counts a
        rwa [none_of (fun early => out (beside early)),none_of out] at total
      · rw [none_of (fun early => member (inside early)),none_of member]
    · refine List.perm_iff_count.mpr fun a => ?_
      by_cases member : a ∈ rest
      · have out : a ∉ whole := fun early => apart early member
        have total := counts a
        rwa [none_of (fun early => out (inside early)),none_of out,Nat.zero_add,Nat.zero_add] at total
      · rw [none_of (fun early => member (beside early)),none_of member]
  · rintro ⟨head,tail⟩
    exact head.append tail

theorem sweep_covers_iff {groups : List (γ × List ι)} (monotone : Monotone clock) (pos : 0 < size)
    (distinct : (groups.map Prod.snd).flatten.Nodup) :
    (∀ prio, (sweep prio size groups clock key).Perm (groups.map Prod.snd).flatten) ↔
      AllFewPassed size key (groups.map Prod.snd) clock := by
  induction groups generalizing clock key with
  | nil => simp [sweep,AllFewPassed]
  | cons group groups ih =>
    obtain ⟨label,ids⟩ := group
    simp only [List.map_cons,List.flatten_cons] at distinct ⊢
    obtain ⟨mine,others,apart⟩ := List.nodup_append'.mp distinct
    have enough : ids.length ≤ size * ids.length := Nat.le_mul_of_pos_left _ pos
    have later : Monotone (fun i => clock (ids.length + i)) := fun a b le => monotone (Nat.add_le_add_left le _)
    -- The list touched first leaves the keys of the others alone.
    have kept (prio : γ → Nat → ι → Nat) :
        sweep prio size groups (fun i => clock (ids.length + i)) (run clock (prio label) size ids key ids.length).key =
          sweep prio size groups (fun i => clock (ids.length + i)) key :=
      sweep_congr fun i member => run_key_other _ fun touched => apart (run_log_subset _ touched) member
    have each (prio : γ → Nat → ι → Nat) : (sweep prio size ((label,ids)::groups) clock key).Perm
        (ids ++ (groups.map Prod.snd).flatten) ↔
          (run clock (prio label) size ids key ids.length).log.Perm ids ∧
            (sweep prio size groups (fun i => clock (ids.length + i)) key).Perm (groups.map Prod.snd).flatten := by
      rw [sweep,kept]
      exact perm_append_iff (run_log_subset _) (sweep_subset _ _) apart
    simp only [AllFewPassed,← ih later others,← run_covers_iff monotone mine pos enough,each,forall_and]
    refine and_congr_left fun _ => ⟨fun covers prio => covers fun _ => prio,fun covers prio => covers _⟩

end Run

/-! Pages of an ascending list. -/

section Rank
variable {ι κ : Type} [LinearOrder κ] {key : ι → κ} {items : List ι}

theorem getElem?_eq_some_iff_rank (ascending : items.Pairwise (fun a b => key a < key b)) {a : ι} {i : Nat} :
    items[i]? = some a ↔ a ∈ items ∧ items.countP (fun b => key b < key a) = i := by
  induction items generalizing i with
  | nil => simp
  | cons b items ih =>
    obtain ⟨least,rest⟩ := List.pairwise_cons.mp ascending
    cases i with
    | zero =>
      rw [List.getElem?_cons_zero,Option.some.injEq]
      constructor
      · rintro rfl
        refine ⟨List.mem_cons_self,List.countP_eq_zero.mpr fun c member => ?_⟩
        rw [decide_eq_true_eq,not_lt]
        rcases List.mem_cons.mp member with rfl | later
        · exact le_rfl
        · exact le_of_lt (least c later)
      · rintro ⟨member,none⟩
        rcases List.mem_cons.mp member with same | later
        · exact same.symm
        · rw [List.countP_eq_zero] at none
          exact absurd (decide_eq_true (least a later)) (none b List.mem_cons_self)
    | succ i =>
      rw [List.getElem?_cons_succ,ih rest]
      constructor
      · rintro ⟨later,rank⟩
        refine ⟨List.mem_cons_of_mem _ later,?_⟩
        rw [List.countP_cons_of_pos (by simpa using least a later),rank]
      · rintro ⟨member,rank⟩
        rcases List.mem_cons.mp member with rfl | later
        · rw [List.countP_cons_of_neg (by simp),List.countP_eq_zero.mpr] at rank
          · cases rank
          · exact fun c later => by simpa using le_of_lt (least c later)
        · rw [List.countP_cons_of_pos (by simpa using least a later)] at rank
          exact ⟨later,Nat.succ.inj rank⟩

theorem mem_slice_iff (ascending : items.Pairwise (fun a b => key a < key b)) {a : ι} {offset size : Nat} :
    a ∈ (items.drop offset).take size ↔ a ∈ items ∧ offset ≤ items.countP (fun b => key b < key a) ∧
      items.countP (fun b => key b < key a) < offset + size := by
  rw [List.mem_iff_getElem?]
  constructor
  · rintro ⟨i,place⟩
    rw [List.getElem?_take] at place
    split at place
    · rename_i inside
      rw [List.getElem?_drop,getElem?_eq_some_iff_rank ascending] at place
      exact ⟨place.1,by omega,by omega⟩
    · cases place
  · rintro ⟨member,low,high⟩
    refine ⟨items.countP (fun b => key b < key a) - offset,?_⟩
    rw [List.getElem?_take,if_pos (by omega),List.getElem?_drop,getElem?_eq_some_iff_rank ascending]
    exact ⟨member,by omega⟩

end Rank

end BitProtector.Paging
