import BitProtector.Tracker

/-! The ways in which the text of a folder's path can stand at the beginning of a file's: letter
by letter, but for the case of letters, or as a pattern. -/
namespace BitProtector.FolderPatterns
open VirtualPath
open Db (stripFolderPath underFolder likeFolder wildcard)

/-- `_` stands for any character, `%` for any characters, and each character for itself in either case. -/
inductive Stands : List Char → List Char → Prop
  | nil : Stands [] []
  | letter {c d : Char} {pattern text : List Char} (same : c.toLower = d.toLower) (rest : Stands pattern text) :
    Stands (c::pattern) (d::text)
  | one (d : Char) {pattern text : List Char} (rest : Stands pattern text) : Stands ('_'::pattern) (d::text)
  | run (front : List Char) {pattern text : List Char} (rest : Stands pattern text) : Stands ('%'::pattern) (front ++ text)

/-- The file's path is the folder's, or some beginning of it, up to a slash, is in a relation with the folder's. -/
def Takes (related : List Char → List Char → Prop) (folderPath relativePath : String) : Prop :=
  relativePath.toList = stripFolderPath folderPath ∨
    ∃ start rest, relativePath.toList = start ++ '/'::rest ∧ related (stripFolderPath folderPath) start

/-- Letter by letter. -/
abbrev Begins : String → String → Prop := Takes Eq

/-- But for the case of ASCII letters. -/
abbrev Spells : String → String → Prop := Takes fun folder start => folder.map Char.toLower = start.map Char.toLower

/-- As a pattern. -/
abbrev Reads : String → String → Prop := Takes Stands

theorem Takes.mono {first second : List Char → List Char → Prop} {folderPath relativePath : String}
    (weaker : ∀ text, first (stripFolderPath folderPath) text → second (stripFolderPath folderPath) text)
    (takes : Takes first folderPath relativePath) : Takes second folderPath relativePath := by
  refine takes.imp id ?_
  rintro ⟨start,rest,split,related⟩
  exact ⟨start,rest,split,weaker start related⟩

theorem Stands.refl (text : List Char) : Stands text text := by
  induction text with
  | nil => exact .nil
  | cons c text ih => exact .letter rfl ih

theorem Begins.reads {folderPath relativePath : String} (begins : Begins folderPath relativePath) :
    Reads folderPath relativePath := begins.mono fun text same => by
  rw [same]
  exact .refl text

theorem begins_iff {folderPath relativePath : String} : Begins folderPath relativePath ↔
    relativePath.toList = stripFolderPath folderPath ∨ stripFolderPath folderPath ++ ['/'] <+: relativePath.toList := by
  refine or_congr_right ?_
  constructor
  · rintro ⟨start,rest,split,rfl⟩
    exact ⟨rest,by rw [split,List.append_assoc]; rfl⟩
  · rintro ⟨rest,whole⟩
    exact ⟨_,rest,by rw [← whole,List.append_assoc]; rfl,rfl⟩

/-! The statements' own comparisons. -/

theorem toLower_mark {c d : Char} (mark : d.val.toNat < 97 ∨ 122 < d.val.toNat) (folded : c.toLower = d) : c = d := by
  unfold Char.toLower at folded
  split at folded
  · rename_i upper
    have low : 65 ≤ c.val.toNat ∧ c.val.toNat ≤ 90 := upper
    have value : (c.val.toNat + 32) % 4294967296 = d.val.toNat := congrArg (fun d : Char => d.val.toNat) folded
    omega
  · exact folded

theorem toLower_slash {c : Char} : c.toLower = '/' ↔ c = '/' := by
  constructor
  · exact toLower_mark (.inl (by decide))
  · intro same
    subst same
    rfl

theorem toLower_dot {c : Char} : c.toLower = '.' ↔ c = '.' := by
  constructor
  · exact toLower_mark (.inl (by decide))
  · intro same
    subst same
    rfl

theorem underFolder_iff {folderPath relativePath : String} :
    underFolder folderPath relativePath = true ↔ Spells folderPath relativePath := by
  rw [underFolder,Bool.or_eq_true,beq_iff_eq,List.isPrefixOf_iff_prefix]
  refine or_congr_right ?_
  rw [List.map_append]
  constructor
  · rintro ⟨rest,whole⟩
    rw [List.append_assoc] at whole
    obtain ⟨start,back,split,front,last⟩ := List.map_eq_append_iff.mp whole.symm
    obtain ⟨slash,tail,rfl,folded,_⟩ := List.map_eq_cons_iff.mp last
    obtain rfl := toLower_slash.mp folded
    exact ⟨start,tail,split,front.symm⟩
  · rintro ⟨start,rest,split,same⟩
    exact ⟨rest.map Char.toLower,by rw [split,same]; simp⟩

theorem fits_wildcards {pattern text : List Char} :
    Like.fits (Like.sameUnder Char.toLower) (pattern.map wildcard) text = true ↔ Stands pattern text := by
  constructor
  · intro fits
    induction pattern generalizing text with
    | nil =>
      rw [List.isEmpty_iff.mp fits]
      exact .nil
    | cons c pattern ih =>
      rw [List.map_cons] at fits
      by_cases underscore : c = '_'
      · subst underscore
        cases text with
        | nil => cases fits
        | cons d text => exact .one d (ih fits)
      · by_cases percent : c = '%'
        · subst percent
          obtain ⟨back,⟨front,rfl⟩,later⟩ := Like.fits_anyRun.mp fits
          exact .run front (ih later)
        · rw [wildcard,if_neg underscore,if_neg percent] at fits
          cases text with
          | nil => cases fits
          | cons d text =>
            rw [Like.fits,Bool.and_eq_true,Like.sameUnder,beq_iff_eq] at fits
            exact .letter fits.1 (ih fits.2)
  · intro stands
    induction stands with
    | nil => rfl
    | @letter c d pattern text same _ ih =>
      rw [List.map_cons,wildcard]
      split
      · exact ih
      · split
        · exact Like.fits_anyRun.mpr ⟨text,List.suffix_cons d text,ih⟩
        · rw [Like.fits,ih,Like.sameUnder,same,beq_self_eq_true]
          rfl
    | one d _ ih => exact ih
    | @run front pattern text _ ih => exact Like.fits_anyRun.mpr ⟨text,List.suffix_append _ _,ih⟩

theorem fits_slash {text : List Char} :
    Like.fits (Like.sameUnder Char.toLower) (['/'].map .literal ++ [.anyRun]) text = true ↔ ∃ rest, text = '/'::rest := by
  rw [Like.fits_prefix]
  constructor
  · intro begins
    cases text with
    | nil => exact absurd (List.prefix_nil.mp begins) (List.cons_ne_nil _ _)
    | cons c text =>
      obtain rfl := toLower_slash.mp (List.cons_prefix_cons.mp begins).1.symm
      exact ⟨text,rfl⟩
  · rintro ⟨rest,rfl⟩
    exact List.cons_prefix_cons.mpr ⟨rfl,List.nil_prefix⟩

theorem likeFolder_iff {folderPath relativePath : String} :
    likeFolder folderPath relativePath = true ↔ Reads folderPath relativePath := by
  have whole : (stripFolderPath folderPath ++ ['/','%']).map wildcard =
      (stripFolderPath folderPath).map wildcard ++ (['/'].map .literal ++ [.anyRun]) := by
    rw [List.map_append]
    rfl
  rw [likeFolder,whole,Bool.or_eq_true,beq_iff_eq,Like.fits_append]
  refine or_congr_right ?_
  constructor
  · rintro ⟨start,back,split,stands,ends⟩
    obtain ⟨rest,rfl⟩ := fits_slash.mp ends
    exact ⟨start,rest,split,fits_wildcards.mp stands⟩
  · rintro ⟨start,rest,split,stands⟩
    exact ⟨start,'/'::rest,split,fits_wildcards.mpr stands,fits_slash.mpr ⟨rest,rfl⟩⟩

/-! The texts and their components. -/

theorem linkKey_slash (front back : List Char) :
    linkKey (String.ofList (front ++ '/'::back)) = linkKey (String.ofList front) ++ linkKey (String.ofList back) := by
  rw [linkKey,linkKey,linkKey,String.toList_ofList,String.toList_ofList,String.toList_ofList,
    List.splitOn_append_cons_self,List.filter_append]

theorem linkKey_rdropWhile (text : List Char) :
    linkKey (String.ofList (text.rdropWhile (· == '/'))) = linkKey (String.ofList text) := by
  induction text using List.reverseRecOn with
  | nil => rfl
  | append_singleton text c ih =>
    by_cases slash : c = '/'
    · subst slash
      rw [List.rdropWhile_concat_pos _ _ _ (by rfl),ih,linkKey_slash]
      exact (List.append_nil _).symm
    · rw [List.rdropWhile_concat_neg _ _ _ (by simpa using slash)]

theorem linkKey_stripFolderPath (folderPath : String) :
    linkKey (String.ofList (stripFolderPath folderPath)) = linkKey folderPath := by
  have stripped := linkKey_rdropWhile folderPath.toList
  rw [String.ofList_toList] at stripped
  exact stripped

theorem Begins.split {folderPath relativePath : String} (begins : Begins folderPath relativePath) :
    relativePath.toList = stripFolderPath folderPath ∨
      ∃ rest, relativePath.toList = stripFolderPath folderPath ++ '/'::rest ∧
        linkKey relativePath = linkKey folderPath ++ linkKey (String.ofList rest) := by
  refine begins.imp id ?_
  rintro ⟨start,rest,split,rfl⟩
  refine ⟨rest,split,?_⟩
  rw [← String.ofList_toList (s := relativePath),split,linkKey_slash,linkKey_stripFolderPath]

theorem Begins.beneath {folderPath relativePath : String} (begins : Begins folderPath relativePath) :
    linkKey folderPath <+: linkKey relativePath := by
  rcases begins.split with same | ⟨rest,_,components⟩
  · rw [← String.ofList_toList (s := relativePath),same,linkKey_stripFolderPath]
  · exact ⟨_,components.symm⟩

theorem Begins.same {first second relativePath : String} (begins : Begins first relativePath)
    (also : Begins second relativePath) (level : (stripFolderPath first).length = (stripFolderPath second).length) :
    stripFolderPath first = stripFolderPath second := by
  have front {folderPath : String} (begins : Begins folderPath relativePath) :
      stripFolderPath folderPath <+: relativePath.toList := by
    rcases begins_iff.mp begins with same | further
    · rw [same]
    · exact (List.prefix_append _ _).trans further
  exact (List.prefix_of_prefix_length_le (front begins) (front also) (Nat.le_of_eq level)).eq_of_length level

theorem Begins.linear {first second relativePath : String} (begins : Begins first relativePath)
    (also : Begins second relativePath) (shorter : (stripFolderPath first).length ≤ (stripFolderPath second).length) :
    linkKey first <+: linkKey second := by
  have front {folderPath : String} (begins : Begins folderPath relativePath) :
      stripFolderPath folderPath ++ ['/'] <+: relativePath.toList ++ ['/'] := by
    rcases begins_iff.mp begins with same | ⟨rest,whole⟩
    · rw [same]
    · rw [← whole,List.append_assoc]
      exact List.prefix_append _ _
  have inside : stripFolderPath first ++ ['/'] <+: stripFolderPath second ++ ['/'] := by
    refine List.prefix_of_prefix_length_le (front begins) (front also) ?_
    rw [List.length_append,List.length_append]
    exact Nat.add_le_add_right shorter 1
  have whole : Begins first (String.ofList (stripFolderPath second)) := by
    rw [begins_iff,String.toList_ofList]
    rcases List.prefix_concat_iff.mp inside with same | proper
    · exact .inl (List.append_cancel_right same).symm
    · exact .inr proper
  have below := whole.beneath
  rwa [linkKey_stripFolderPath] at below

/-! A folder that holds the file and whose path only the case of letters tells from the beginning of
the file's begins it. -/

theorem splitOn_toLower (text : List Char) :
    (text.map Char.toLower).splitOn '/' = (text.splitOn '/').map (List.map Char.toLower) := by
  induction text with
  | nil => rfl
  | cons c text ih =>
    rw [List.map_cons,List.splitOn_cons_eq_if_modifyHead,List.splitOn_cons_eq_if_modifyHead,ih]
    simp only [beq_iff_eq,toLower_slash]
    split
    · rfl
    · cases text.splitOn '/' <;> rfl

theorem dot_of_folded {first second : List Char} (folded : first.map Char.toLower = second.map Char.toLower) :
    first = ['.'] ↔ second = ['.'] := by
  have dot {text : List Char} : text = ['.'] ↔ text.map Char.toLower = ['.'] := by
    rw [List.map_eq_singleton_iff]
    simp only [toLower_dot]
    constructor
    · exact fun same => ⟨'.',same,rfl⟩
    · rintro ⟨c,same,rfl⟩
      exact same
  rw [dot,folded,← dot]

theorem nil_of_folded {first second : List Char} (folded : first.map Char.toLower = second.map Char.toLower) :
    first = [] ↔ second = [] := by
  rw [← List.map_eq_nil_iff (f := Char.toLower),folded,List.map_eq_nil_iff]

theorem same_of_folded {first second more : List (List Char)}
    (folded : first.map (List.map Char.toLower) = second.map (List.map Char.toLower))
    (inside : first.filter (fun segment => segment ≠ [] ∧ segment ≠ ['.']) <+:
      second.filter (fun segment => segment ≠ [] ∧ segment ≠ ['.']) ++ more) : first = second := by
  induction first generalizing second with
  | nil => exact (List.map_eq_nil_iff.mp folded.symm).symm
  | cons x first ih =>
    cases second with
    | nil => cases folded
    | cons y second =>
      rw [List.map_cons,List.map_cons,List.cons.injEq] at folded
      obtain ⟨head,tail⟩ := folded
      by_cases component : x ≠ [] ∧ x ≠ ['.']
      · have also : y ≠ [] ∧ y ≠ ['.'] :=
          ⟨mt (nil_of_folded head).mpr component.1,mt (dot_of_folded head).mpr component.2⟩
        rw [List.filter_cons_of_pos (by simpa using component),List.filter_cons_of_pos (by simpa using also),
          List.cons_append,List.cons_prefix_cons] at inside
        rw [inside.1,ih tail inside.2]
      · have also : ¬(y ≠ [] ∧ y ≠ ['.']) := fun other =>
          component ⟨mt (nil_of_folded head).mp other.1,mt (dot_of_folded head).mp other.2⟩
        rw [List.filter_cons_of_neg (by simpa using component),List.filter_cons_of_neg (by simpa using also)] at inside
        have same : x = y := by
          rcases not_and_or.mp component with empty | dot
          · rw [not_not.mp empty,(nil_of_folded head).mp (not_not.mp empty)]
          · rw [not_not.mp dot,(dot_of_folded head).mp (not_not.mp dot)]
        rw [same,ih tail inside]

theorem Spells.begins {folderPath relativePath : String} (spells : Spells folderPath relativePath)
    (beneath : linkKey folderPath <+: linkKey relativePath) : Begins folderPath relativePath := by
  refine spells.imp id ?_
  rintro ⟨start,rest,split,folded⟩
  refine ⟨start,rest,split,?_⟩
  rw [← linkKey_stripFolderPath,← String.ofList_toList (s := relativePath),split,linkKey_slash] at beneath
  rw [linkKey,linkKey,String.toList_ofList,String.toList_ofList] at beneath
  have parts : (stripFolderPath folderPath).splitOn '/' = start.splitOn '/' := by
    refine same_of_folded ?_ beneath
    rw [← splitOn_toLower,← splitOn_toLower,folded]
  have joined : ['/'].intercalate ((stripFolderPath folderPath).splitOn '/') = stripFolderPath folderPath :=
    List.intercalate_splitOn '/'
  rw [← joined,parts,List.intercalate_splitOn]

/-! For a path that is its components joined by slashes, a pattern that holds the file begins its path too. -/

/-- No component is empty or `.`. -/
def Tidy (text : List Char) : Prop := ∀ segment ∈ text.splitOn '/', segment ≠ [] ∧ segment ≠ ['.']

instance (text : List Char) : Decidable (Tidy text) := inferInstanceAs (Decidable (∀ segment ∈ _, _))

theorem tidy_slash {front back : List Char} : Tidy (front ++ '/'::back) ↔ Tidy front ∧ Tidy back := by
  rw [Tidy,List.splitOn_append_cons_self]
  exact List.forall_mem_append

/-- Without `%` a pattern stands for as many characters as it has. -/
theorem Stands.length_eq {pattern text : List Char} (stands : Stands pattern text) (plain : '%' ∉ pattern) :
    text.length = pattern.length := by
  induction stands with
  | nil => rfl
  | letter _ _ ih => exact congrArg (· + 1) (ih fun member => plain (List.mem_cons_of_mem _ member))
  | one _ _ ih => exact congrArg (· + 1) (ih fun member => plain (List.mem_cons_of_mem _ member))
  | run => exact absurd List.mem_cons_self plain

theorem Stands.mem {c : Char} (folded : ∀ d : Char, c.toLower = d.toLower → d = c) (plain : c ≠ '_' ∧ c ≠ '%')
    {pattern text : List Char} (stands : Stands pattern text) (member : c ∈ pattern) : c ∈ text := by
  induction stands with
  | nil => cases member
  | letter same _ ih =>
    rcases List.mem_cons.mp member with rfl | later
    · rw [folded _ same]
      exact List.mem_cons_self
    · exact List.mem_cons_of_mem _ (ih later)
  | one _ _ ih => exact List.mem_cons_of_mem _ (ih (List.mem_of_ne_of_mem plain.1 member))
  | run front _ ih => exact List.mem_append_right _ (ih (List.mem_of_ne_of_mem plain.2 member))

theorem Stands.count_slash {pattern text : List Char} (stands : Stands pattern text) :
    pattern.count '/' ≤ text.count '/' := by
  induction stands with
  | nil => exact Nat.le_refl 0
  | @letter c d _ _ same _ ih =>
    have slash : c = '/' ↔ d = '/' := by rw [← toLower_slash,same,toLower_slash]
    by_cases own : c = '/'
    · rw [own,slash.mp own,List.count_cons_self,List.count_cons_self]
      exact Nat.succ_le_succ ih
    · rw [List.count_cons_of_ne own,List.count_cons_of_ne (mt slash.mpr own)]
      exact ih
  | one d _ ih =>
    rw [List.count_cons_of_ne (by decide)]
    exact ih.trans (List.count_le_count_cons)
  | run front _ ih =>
    rw [List.count_cons_of_ne (by decide),List.count_append]
    exact ih.trans (Nat.le_add_left _ _)

theorem Stands.split {front back text : List Char} (stands : Stands (front ++ '/'::back) text) :
    ∃ first rest, text = first ++ '/'::rest ∧ Stands front first ∧ Stands back rest := by
  induction front generalizing text with
  | nil =>
    cases stands with
    | @letter _ d _ text same rest =>
      obtain rfl := toLower_slash.mp (same.symm.trans rfl)
      exact ⟨[],text,rfl,.nil,rest⟩
  | cons c front ih =>
    cases stands with
    | @letter _ d _ _ same rest =>
      obtain ⟨first,back',rfl,ahead,behind⟩ := ih rest
      exact ⟨d::first,back',rfl,.letter same ahead,behind⟩
    | @one d _ _ rest =>
      obtain ⟨first,back',rfl,ahead,behind⟩ := ih rest
      exact ⟨d::first,back',rfl,.one d ahead,behind⟩
    | @run run _ _ rest =>
      obtain ⟨first,back',rfl,ahead,behind⟩ := ih rest
      exact ⟨run ++ first,back',(List.append_assoc _ _ _).symm,.run run ahead,behind⟩

theorem Stands.tidy {pattern text : List Char} (stands : Stands pattern text) (tidy : Tidy text) : Tidy pattern := by
  by_cases slash : '/' ∈ pattern
  · obtain ⟨front,back,rfl⟩ := List.append_of_mem slash
    obtain ⟨first,rest,rfl,ahead,behind⟩ := stands.split
    obtain ⟨former,latter⟩ := tidy_slash.mp tidy
    exact tidy_slash.mpr ⟨ahead.tidy former,behind.tidy latter⟩
  · intro segment member
    rw [List.splitOn_eq_singleton slash,List.mem_singleton] at member
    subst member
    constructor
    · rintro rfl
      cases stands
      exact (tidy [] (List.mem_singleton_self _)).1 rfl
    · rintro rfl
      cases stands with
      | @letter _ d _ _ same rest =>
        obtain rfl := toLower_dot.mp (same.symm.trans rfl)
        cases rest
        exact (tidy ['.'] (List.mem_singleton_self _)).2 rfl
termination_by pattern.length

theorem linkKey_tidy {text : List Char} (tidy : Tidy text) : linkKey (String.ofList text) = text.splitOn '/' := by
  rw [linkKey,String.toList_ofList,List.filter_eq_self]
  exact fun segment member => by simpa using tidy segment member

theorem intercalate_append {segments more : List (List Char)} (some : segments ≠ []) (others : more ≠ []) :
    ['/'].intercalate (segments ++ more) = ['/'].intercalate segments ++ '/'::['/'].intercalate more := by
  induction segments with
  | nil => exact absurd rfl some
  | cons segment segments ih =>
    cases segments with
    | nil =>
      rw [List.singleton_append,List.intercalate_cons_of_ne_nil others,List.intercalate_singleton,List.append_assoc]
      rfl
    | cons next segments =>
      rw [List.cons_append,List.cons_append,List.intercalate_cons_cons,List.intercalate_cons_cons,← List.cons_append,
        ih (List.cons_ne_nil _ _),List.append_assoc,List.append_assoc,List.append_assoc]

theorem splitOn_prefix {first second : List Char} (inside : first.splitOn '/' <+: second.splitOn '/') :
    second = first ∨ ∃ rest, second = first ++ '/'::rest := by
  obtain ⟨more,whole⟩ := inside
  have joined := congrArg (List.intercalate ['/']) whole
  rw [List.intercalate_splitOn] at joined
  by_cases all : more = []
  · rw [all,List.append_nil,List.intercalate_splitOn] at joined
    exact .inl joined.symm
  · rw [intercalate_append (List.splitOn_ne_nil _ _) all,List.intercalate_splitOn] at joined
    exact .inr ⟨_,joined.symm⟩

theorem Reads.begins {folderPath relativePath : String} (reads : Reads folderPath relativePath)
    (tidy : Tidy relativePath.toList) (beneath : linkKey folderPath <+: linkKey relativePath) :
    Begins folderPath relativePath := by
  rcases reads with same | ⟨start,rest,split,stands⟩
  · exact .inl same
  · rw [split] at tidy
    have plain := stands.tidy (tidy_slash.mp tidy).1
    rw [← linkKey_stripFolderPath,linkKey_tidy plain,← String.ofList_toList (s := relativePath),split,
      linkKey_tidy tidy] at beneath
    rcases splitOn_prefix beneath with same | ⟨more,whole⟩
    · exact .inl (split.trans same)
    · exact .inr ⟨_,more,split.trans whole,rfl⟩

end BitProtector.FolderPatterns
