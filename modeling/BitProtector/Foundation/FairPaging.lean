import BitProtector.Foundation.Paging
import Mathlib.Data.Finset.Max

/-! The head of a list whose elements belong to groups, with every group taking its
turn: by place within the group, and by key where places are equal. Lists that
shrink move what is left of them forward, never back. -/
namespace BitProtector.FairPaging

variable {ι γ : Type} [DecidableEq γ] (group : ι → γ) (key : ι → Nat)

/-- What stands before an element in its group. -/
def leaders (items : List ι) (a : ι) : List ι := items.filter (fun b => group b = group a ∧ key b < key a)

def rank (items : List ι) (a : ι) : Nat := (leaders group key items a).length

def page (size : Nat) (items : List ι) : List ι := Paging.page size 0 (rank group key items) key items

def Ahead (items : List ι) (a b : ι) : Prop :=
  rank group key items a < rank group key items b ∨
    (rank group key items a = rank group key items b ∧ key a < key b)

instance (items : List ι) (b : ι) : DecidablePred (Ahead group key items · b) :=
  fun _ => inferInstanceAs (Decidable (_ ∨ _))

/-- What stands before an element of the whole list. -/
def ahead (items : List ι) (a : ι) : List ι := items.filter (Ahead group key items · a)

variable {group key} {items part : List ι} {a b : ι} {size : Nat}

omit [DecidableEq γ] in
theorem key_injective (distinct : (items.map key).Nodup) (left : a ∈ items) (right : b ∈ items)
    (same : key a = key b) : a = b :=
  List.inj_on_of_nodup_map distinct left right same

theorem mem_leaders : b ∈ leaders group key items a ↔ b ∈ items ∧ group b = group a ∧ key b < key a := by
  simp [leaders]

theorem mem_ahead : b ∈ ahead group key items a ↔ b ∈ items ∧ Ahead group key items b a := by
  simp [ahead]

theorem leaders_nodup (distinct : items.Nodup) : (leaders group key items a).Nodup := distinct.filter _

variable (group key) in
theorem rank_mono (a : ι) (distinct : part.Nodup) (inside : part ⊆ items) :
    rank group key part a ≤ rank group key items a := by
  apply List.Nodup.length_le_of_subset (leaders_nodup distinct)
  intro b leads
  obtain ⟨member,before⟩ := mem_leaders.mp leads
  exact mem_leaders.mpr ⟨inside member,before⟩

theorem rank_lt (distinct : items.Nodup) (member : a ∈ items) (together : group a = group b) (less : key a < key b) :
    rank group key items a < rank group key items b := by
  have apart : a ∉ leaders group key items a := fun leads => lt_irrefl _ (mem_leaders.mp leads).2.2
  have more : (a::leaders group key items a).length ≤ (leaders group key items b).length := by
    apply List.Nodup.length_le_of_subset
    · exact List.nodup_cons.mpr ⟨apart,leaders_nodup distinct⟩
    · intro c listed
      rcases List.mem_cons.mp listed with rfl | leads
      · exact mem_leaders.mpr ⟨member,together,less⟩
      · obtain ⟨inside,same,before⟩ := mem_leaders.mp leads
        exact mem_leaders.mpr ⟨inside,same.trans together,before.trans less⟩
  exact more

theorem eq_of_rank (distinct : (items.map key).Nodup) (left : a ∈ items) (right : b ∈ items)
    (together : group a = group b) (same : rank group key items a = rank group key items b) : a = b := by
  have nodup := List.Nodup.of_map _ distinct
  rcases lt_trichotomy (key a) (key b) with less | equal | more
  · exact absurd same (Nat.ne_of_lt (rank_lt nodup left together less))
  · exact key_injective distinct left right equal
  · exact absurd same.symm (Nat.ne_of_lt (rank_lt nodup right together.symm more))

theorem exists_rank (distinct : (items.map key).Nodup) {k : Nat} (member : a ∈ items)
    (low : k ≤ rank group key items a) :
    ∃ b ∈ items, group b = group a ∧ rank group key items b = k ∧ key b ≤ key a := by
  classical
  have nodup := List.Nodup.of_map _ distinct
  -- Downwards from `a`, to the last of its leaders each time.
  induction gap : rank group key items a - k generalizing a with
  | zero => exact ⟨a,member,rfl,by omega,le_refl _⟩
  | succ gap ih =>
    have some_lead : (leaders group key items a).toFinset.Nonempty := by
      rw [List.toFinset_nonempty_iff]
      apply List.ne_nil_of_length_pos
      change 0 < rank group key items a
      omega
    obtain ⟨last,leads,greatest⟩ := Finset.exists_max_image _ key some_lead
    obtain ⟨inside,together,less⟩ := mem_leaders.mp (List.mem_toFinset.mp leads)
    have next : rank group key items a ≤ rank group key items last + 1 := by
      have covered : leaders group key items a ⊆ last::leaders group key items last := by
        intro c listed
        obtain ⟨present,same,_⟩ := mem_leaders.mp listed
        rcases Nat.lt_or_eq_of_le (greatest c (List.mem_toFinset.mpr listed)) with before | equal
        · exact List.mem_cons_of_mem _ (mem_leaders.mpr ⟨present,same.trans together.symm,before⟩)
        · rw [key_injective distinct present inside equal]
          exact List.mem_cons_self
      exact List.Nodup.length_le_of_subset (leaders_nodup nodup) covered
    have lower := rank_lt nodup inside together less
    obtain ⟨b,found,same,place,early⟩ := ih inside (by omega) (by omega)
    exact ⟨b,found,same.trans together,place,early.trans less.le⟩

theorem rank_le_ahead (distinct : items.Nodup) (a : ι) :
    rank group key items a ≤ (ahead group key items a).length := by
  apply List.Nodup.length_le_of_subset (leaders_nodup distinct)
  intro b leads
  obtain ⟨inside,together,less⟩ := mem_leaders.mp leads
  exact mem_ahead.mpr ⟨inside,.inl (rank_lt distinct inside together less)⟩

/-! The page of the first elements. -/

theorem page_subset : page group key size items ⊆ items := Paging.page_subset

theorem page_nodup (distinct : items.Nodup) : (page group key size items).Nodup := Paging.page_nodup distinct

theorem page_length : (page group key size items).length = min size items.length := by
  rw [page,Paging.page_length,Nat.mul_zero,Nat.sub_zero]

theorem mem_take_iff {less : ι → ι → Prop} [DecidableRel less] (irreflexive : ∀ c, ¬less c c) {sorted : List ι}
    (strict : sorted.Pairwise (fun c d => less c d ∧ ¬less d c)) (member : a ∈ sorted) (size : Nat) :
    a ∈ sorted.take size ↔ (sorted.filter (less · a)).length < size := by
  induction sorted generalizing size with
  | nil => cases member
  | cons first rest ih =>
    obtain ⟨before,strict⟩ := List.pairwise_cons.mp strict
    cases size with
    | zero => simp
    | succ size =>
      rcases List.mem_cons.mp member with rfl | later
      · have none_before : rest.filter (less · a) = [] := by
          rw [List.filter_eq_nil_iff]
          intro c present
          simpa using (before c present).2
        simp [irreflexive,none_before]
      · obtain ⟨precedes,_⟩ := before a later
        have other : a ≠ first := by
          rintro rfl
          exact irreflexive _ precedes
        simp [precedes,other,ih strict later size]

theorem mem_page_iff (distinct : (items.map key).Nodup) (member : a ∈ items) :
    a ∈ page group key size items ↔ (ahead group key items a).length < size := by
  let sorted := Paging.ordered (rank group key items) key items
  have perm : sorted.Perm items := Paging.ordered_perm
  have apart : sorted.Nodup := Paging.ordered_nodup _ _ (List.Nodup.of_map _ distinct)
  have strict : sorted.Pairwise (fun c d => Ahead group key items c d ∧ ¬Ahead group key items d c) := by
    have both := (Paging.ordered_pairwise (rank group key items) key items).and apart
    refine both.imp_of_mem ?_
    rintro c d first second ⟨before,differ⟩
    have keys : key c ≠ key d := fun same =>
      differ (key_injective distinct (perm.subset first) (perm.subset second) same)
    unfold Ahead
    rcases before with less | ⟨same,less⟩
    · exact ⟨.inl less,by omega⟩
    · exact ⟨.inr ⟨same,by omega⟩,by omega⟩
  have head : page group key size items = sorted.take size := by
    rw [page,Paging.page,Nat.mul_zero,List.drop_zero]
  have counts : (sorted.filter (Ahead group key items · a)).length = (ahead group key items a).length :=
    (perm.filter _).length_eq
  rw [head,← counts]
  exact mem_take_iff (fun c self => by unfold Ahead at self; omega) strict (perm.symm.subset member) size

theorem ahead_mono (distinct : (items.map key).Nodup) (nodup : part.Nodup) (inside : part ⊆ items) (a : ι) :
    (ahead group key part a).length ≤ (ahead group key items a).length := by
  have keys : (part.map key).Nodup := by
    refine (List.nodup_map_iff_inj_on nodup).mpr fun b left c right same => ?_
    exact key_injective distinct (inside left) (inside right) same
  -- An element that stands before `a` in the part gives up its place in its group to one that does so in the whole.
  have images : ((ahead group key part a).map (fun b => (group b,rank group key part b))).Nodup := by
    refine (List.nodup_map_iff_inj_on (nodup.filter _)).mpr fun b left c right same => ?_
    obtain ⟨together,place⟩ := Prod.mk.inj same
    exact eq_of_rank keys (List.mem_filter.mp left).1 (List.mem_filter.mp right).1 together place
  have covered : (ahead group key part a).map (fun b => (group b,rank group key part b)) ⊆
      (ahead group key items a).map (fun b => (group b,rank group key items b)) := by
    intro place listed
    obtain ⟨b,stands,rfl⟩ := List.mem_map.mp listed
    obtain ⟨present,before⟩ := mem_ahead.mp stands
    have higher := rank_mono group key a nodup inside
    obtain ⟨c,found,together,rank_c,early⟩ :=
      exists_rank distinct (inside present) (rank_mono group key b nodup inside)
    refine List.mem_map.mpr ⟨c,mem_ahead.mpr ⟨found,?_⟩,by rw [together,rank_c]⟩
    unfold Ahead at before ⊢
    rw [rank_c]
    omega
  have lengths := List.Nodup.length_le_of_subset images covered
  rwa [List.length_map,List.length_map] at lengths

theorem size_le_ahead (distinct : (items.map key).Nodup) (nodup : part.Nodup) (inside : part ⊆ items)
    (front : page group key size items ⊆ part) (member : a ∈ part) (outside : a ∉ page group key size items) :
    size ≤ (ahead group key part a).length := by
  have apart : items.Nodup := List.Nodup.of_map _ distinct
  have behind {b : ι} (present : b ∈ items) (late : b ∉ page group key size items) :
      size ≤ (ahead group key items b).length := by
    rw [mem_page_iff distinct present] at late
    exact Nat.le_of_not_lt late
  have precedes {b c : ι} (early : b ∈ page group key size items) (present : c ∈ items)
      (late : c ∉ page group key size items) : Ahead group key items b c := by
    by_contra not_before
    -- Otherwise all that stands before `c` stands before `b`, which is on the page.
    have differ : key b ≠ key c := by
      intro same
      exact late (key_injective distinct (page_subset early) present same ▸ early)
    have few := (mem_page_iff distinct (page_subset early)).mp early
    have fewer : (ahead group key items c).length ≤ (ahead group key items b).length := by
      apply List.Nodup.length_le_of_subset (apart.filter _)
      intro d stands
      obtain ⟨listed,before⟩ := mem_ahead.mp stands
      refine mem_ahead.mpr ⟨listed,?_⟩
      unfold Ahead at before not_before ⊢
      omega
    exact absurd (behind present late) (by omega)
  have full : (page group key size items).length = size := by
    have enough := (behind (inside member) outside).trans (List.length_filter_le _ _)
    rw [page_length,Nat.min_eq_left enough]
  have each : page group key size items ⊆ ahead group key part a := by
    intro b early
    refine mem_ahead.mpr ⟨front early,?_⟩
    have lower := rank_mono group key b nodup inside
    -- `c` has in the whole list the place that `a` has in the part.
    obtain ⟨c,present,together,place,not_later⟩ :=
      exists_rank distinct (inside member) (rank_mono group key a nodup inside)
    have late : c ∉ page group key size items := by
      intro early_c
      by_cases same : c = a
      · exact outside (same ▸ early_c)
      · have less : key c < key a := by
          have differ : key c ≠ key a := fun equal => same (key_injective distinct present (inside member) equal)
          omega
        have kept : c::leaders group key items c ⊆ leaders group key part a := by
          intro d listed
          rcases List.mem_cons.mp listed with rfl | leads
          · exact mem_leaders.mpr ⟨front early_c,together,less⟩
          · obtain ⟨found,grouped,before⟩ := mem_leaders.mp leads
            have on_page : d ∈ page group key size items := by
              rw [mem_page_iff distinct found]
              refine Nat.lt_of_le_of_lt ?_ ((mem_page_iff distinct present).mp early_c)
              have ranks := rank_lt apart found grouped before
              apply List.Nodup.length_le_of_subset (apart.filter _)
              intro e stands
              obtain ⟨here,first⟩ := mem_ahead.mp stands
              refine mem_ahead.mpr ⟨here,?_⟩
              unfold Ahead at first ⊢
              omega
            exact mem_leaders.mpr ⟨front on_page,grouped.trans together,before.trans less⟩
        have nodup_c : (c::leaders group key items c).Nodup := by
          refine List.nodup_cons.mpr ⟨fun leads => ?_,leaders_nodup apart⟩
          exact lt_irrefl _ (mem_leaders.mp leads).2.2
        have more := List.Nodup.length_le_of_subset nodup_c kept
        change rank group key items c + 1 ≤ rank group key part a at more
        omega
    have before := precedes early present late
    unfold Ahead at before ⊢
    omega
  rw [← full]
  exact List.Nodup.length_le_of_subset (page_nodup apart) each

/-! What each group gets of the page. -/

/-- The elements of a group. -/
def share (group : ι → γ) (items : List ι) (g : γ) : List ι := items.filter (fun a => group a = g)

theorem mem_share {g : γ} : a ∈ share group items g ↔ a ∈ items ∧ group a = g := by
  simp [share]

theorem share_nodup (distinct : items.Nodup) (g : γ) : (share group items g).Nodup := distinct.filter _

theorem share_page_isPrefix (ascending : items.Pairwise (fun a b => key a < key b)) (g : γ) :
    share group (page group key size items) g <+: share group items g := by
  have nodup : items.Nodup := ascending.imp fun less same => Nat.ne_of_lt less (congrArg key same)
  let sorted := Paging.ordered (rank group key items) key items
  have perm : sorted.Perm items := Paging.ordered_perm
  have within : (share group sorted g).Pairwise (fun a b => key a ≤ key b) := by
    have before := (Paging.ordered_pairwise (rank group key items) key items).filter (fun a => group a = g)
    refine before.imp_of_mem fun {a b} first second before => ?_
    obtain ⟨listed,own⟩ := mem_share.mp first
    obtain ⟨present,other⟩ := mem_share.mp second
    by_contra later
    have less := rank_lt nodup (perm.subset present) (other.trans own.symm) (Nat.lt_of_not_le later)
    exact absurd before.key_le (Nat.not_le_of_lt less)
  have same : share group sorted g = share group items g := by
    have listed : (share group items g).Pairwise (fun a b => key a ≤ key b) := (ascending.filter _).imp Nat.le_of_lt
    apply List.Perm.eq_of_pairwise ?_ within listed (perm.filter _)
    intro a b first second le ge
    exact key_injective (List.pairwise_map.mpr (ascending.imp Nat.ne_of_lt)) (perm.subset (mem_share.mp first).1)
      (mem_share.mp second).1 (Nat.le_antisymm le ge)
  rw [← same,page,Paging.page,Nat.mul_zero,List.drop_zero]
  exact (List.take_prefix size sorted).filter _

theorem page_of_ahead (distinct : (items.map key).Nodup) (early : b ∈ page group key size items) (member : a ∈ items)
    (before : Ahead group key items a b) : a ∈ page group key size items := by
  rw [mem_page_iff distinct member]
  refine Nat.lt_of_le_of_lt ?_ ((mem_page_iff distinct (page_subset early)).mp early)
  apply List.Nodup.length_le_of_subset ((List.Nodup.of_map _ distinct).filter _)
  intro c stands
  obtain ⟨present,first⟩ := mem_ahead.mp stands
  refine mem_ahead.mpr ⟨present,?_⟩
  unfold Ahead at first before ⊢
  omega

theorem exists_next (distinct : (items.map key).Nodup) {g : γ} (member : a ∈ items) (own : group a = g)
    (outside : a ∉ page group key size items) :
    ∃ b ∈ items, b ∉ page group key size items ∧ group b = g ∧
      rank group key items b = (share group (page group key size items) g).length := by
  have nodup : items.Nodup := List.Nodup.of_map _ distinct
  have leads {b : ι} (late : b ∉ page group key size items) (there : b ∈ items) (grouped : group b = g) :
      share group (page group key size items) g ⊆ leaders group key items b := by
    intro c listed
    obtain ⟨early,together⟩ := mem_share.mp listed
    refine mem_leaders.mpr ⟨page_subset early,together.trans grouped.symm,?_⟩
    by_contra later
    have apart : key b ≠ key c := fun same => late (key_injective distinct there (page_subset early) same ▸ early)
    have less := rank_lt nodup there (grouped.trans together.symm) (by omega : key b < key c)
    exact late (page_of_ahead distinct early there (.inl less))
  have few := List.Nodup.length_le_of_subset (share_nodup (page_nodup nodup) g) (leads outside member own)
  obtain ⟨b,present,together,place,_⟩ := exists_rank distinct member few
  refine ⟨b,present,fun early => ?_,together.trans own,place⟩
  -- On the page `b` would stand with its leaders, one more than the share has.
  have kept : b::leaders group key items b ⊆ share group (page group key size items) g := by
    intro c listed
    rcases List.mem_cons.mp listed with rfl | ahead
    · exact mem_share.mpr ⟨early,together.trans own⟩
    · obtain ⟨there,same,less⟩ := mem_leaders.mp ahead
      refine mem_share.mpr ⟨page_of_ahead distinct early there (.inl (rank_lt nodup there same less)),?_⟩
      exact same.trans (together.trans own)
  have apart : (b::leaders group key items b).Nodup :=
    List.nodup_cons.mpr ⟨fun ahead => lt_irrefl _ (mem_leaders.mp ahead).2.2,leaders_nodup nodup⟩
  have more := List.Nodup.length_le_of_subset apart kept
  rw [List.length_cons] at more
  change rank group key items b + 1 ≤ _ at more
  omega

theorem share_page_balanced (distinct : (items.map key).Nodup) {g : γ} (h : γ) (member : a ∈ items) (own : group a = g)
    (outside : a ∉ page group key size items) :
    (share group (page group key size items) h).length ≤ (share group (page group key size items) g).length + 1 := by
  have nodup : items.Nodup := List.Nodup.of_map _ distinct
  obtain ⟨b,present,late,_,place⟩ := exists_next distinct member own outside
  have places : ((share group (page group key size items) h).map (rank group key items)).Nodup := by
    refine (List.nodup_map_iff_inj_on (share_nodup (page_nodup nodup) h)).mpr fun c left d right same => ?_
    obtain ⟨early,grouped⟩ := mem_share.mp left
    obtain ⟨earlier,together⟩ := mem_share.mp right
    exact eq_of_rank distinct (page_subset early) (page_subset earlier) (grouped.trans together.symm) same
  have bounded : (share group (page group key size items) h).map (rank group key items) ⊆
      List.range ((share group (page group key size items) g).length + 1) := by
    intro k listed
    obtain ⟨c,there,rfl⟩ := List.mem_map.mp listed
    rw [List.mem_range,← place]
    by_contra later
    have before : rank group key items b < rank group key items c := by omega
    exact late (page_of_ahead distinct (mem_share.mp there).1 present (.inl before))
  have lengths := List.Nodup.length_le_of_subset places bounded
  rwa [List.length_map,List.length_range] at lengths

theorem page_represents (distinct : (items.map key).Nodup) (room : (items.map group).dedup.length ≤ size)
    (member : a ∈ items) : ∃ b ∈ page group key size items, group b = group a := by
  by_contra missing
  have nodup : items.Nodup := List.Nodup.of_map _ distinct
  have absent : a ∉ page group key size items := fun early => missing ⟨a,early,rfl⟩
  obtain ⟨b,present,late,together,place⟩ := exists_next distinct member rfl absent
  have none_taken : share group (page group key size items) (group a) = [] := by
    rw [List.eq_nil_iff_forall_not_mem]
    intro c listed
    obtain ⟨early,same⟩ := mem_share.mp listed
    exact missing ⟨c,early,same⟩
  rw [none_taken,List.length_nil] at place
  rw [mem_page_iff distinct present,Nat.not_lt] at late
  -- What stands before the first of its group is the first of another group.
  have firsts : ∀ c ∈ ahead group key items b, c ∈ items ∧ rank group key items c = 0 ∧ group c ≠ group a := by
    intro c stands
    obtain ⟨there,before⟩ := mem_ahead.mp stands
    unfold Ahead at before
    have first : rank group key items c = 0 := by omega
    refine ⟨there,first,fun same => ?_⟩
    have equal := eq_of_rank distinct there present (same.trans together.symm) (first.trans place.symm)
    rw [equal] at before
    omega
  have images : ((ahead group key items b).map group).Nodup := by
    refine (List.nodup_map_iff_inj_on (nodup.filter _)).mpr fun c left d right same => ?_
    obtain ⟨there,first,_⟩ := firsts c left
    obtain ⟨here,also,_⟩ := firsts d right
    exact eq_of_rank distinct there here same (first.trans also.symm)
  have apart : (group a::(ahead group key items b).map group).Nodup := by
    refine List.nodup_cons.mpr ⟨fun listed => ?_,images⟩
    obtain ⟨c,stands,same⟩ := List.mem_map.mp listed
    exact (firsts c stands).2.2 same
  have inside : group a::(ahead group key items b).map group ⊆ (items.map group).dedup := by
    intro g listed
    rw [List.mem_dedup]
    rcases List.mem_cons.mp listed with rfl | other
    · exact List.mem_map_of_mem member
    · obtain ⟨c,stands,rfl⟩ := List.mem_map.mp other
      exact List.mem_map_of_mem (firsts c stands).1
  have lengths := List.Nodup.length_le_of_subset apart inside
  rw [List.length_cons,List.length_map] at lengths
  omega

end BitProtector.FairPaging
