import BitProtector.PathResolution

/-! The components of a path text, and the text of what is left behind a base. Where the last
component is a name, the components alone say where the system ends up. -/
namespace BitProtector.PathTexts
open Paths VirtualTree MirrorFrames FileTree PathResolution

/-- An empty component or a dot, which `Path::components` passes over. -/
def passed (segment : List Char) : Bool := segment == [] || segment == ['.']

def segmentsOf (path : String) : List (List Char) := path.toList.splitOn '/'

def namesOf (path : String) : List (List Char) := (segmentsOf path).filter (!passed ·)

/-- What is behind the names of a base. -/
def stripSegments : List (List Char) → List (List Char) → Option (List (List Char))
  | [], segments => some segments
  | name::names, segments =>
    match segments.dropWhile passed with
    | [] => none
    | first::rest => if first = name then stripSegments names rest else none

/-- A relative path that begins with a dot has it as a component of its own. -/
def beginsHere (path : String) : Bool := (segmentsOf path).head? == some ['.']

/-- `Path::strip_prefix` of a path that ends with a name. -/
def stripPrefix (base path : String) : Option String :=
  if base = "" then some path
  else if isAbsolute base = isAbsolute path ∧ beginsHere base = beginsHere path then
    (stripSegments (namesOf base) (segmentsOf path)).map fun rest => String.ofList (['/'].intercalate (rest.dropWhile passed))
  else none

/-! Joined texts. -/

section
variable {root relativePath base path rest : String} {segments : List (List Char)}

theorem step_passed {segment : List Char} (still : passed segment = true) : PathResolution.step segment = .current := by
  rw [passed,Bool.or_eq_true,beq_iff_eq,beq_iff_eq] at still
  rw [PathResolution.step,if_pos still]

theorem passed_ordinary {name : List Char} (ordinary : Ordinary name) : passed name = false := by
  rw [passed,Bool.or_eq_false_iff,beq_eq_false_iff_ne,beq_eq_false_iff_ne]
  exact ⟨ordinary.1,ordinary.2.2.1⟩

theorem segmentsOf_join (root : String) (relative : isAbsolute relativePath = false) :
    (root = "" ∧ join root relativePath = relativePath) ∨
      ∃ front, segmentsOf (join root relativePath) = front ++ segmentsOf relativePath ∧
        front.filter (!passed ·) = namesOf root ∧ front.head? = (segmentsOf root).head? := by
  unfold join
  rw [if_neg (by simp [relative])]
  cases text : root.toList using List.reverseRecOn with
  | nil =>
    have empty : root = "" := String.toList_inj.mp text
    subst empty
    exact .inl ⟨rfl,rfl⟩
  | append_singleton front last =>
    right
    rw [List.getLast?_concat,Option.all_some]
    by_cases slash : last = '/'
    · subst slash
      have parts : segmentsOf root = front.splitOn '/' ++ [[]] := by
        rw [segmentsOf,text]
        exact List.splitOn_append_cons_self front []
      refine ⟨front.splitOn '/',?_,?_,?_⟩
      · rw [beq_self_eq_true,if_pos rfl,segmentsOf,String.toList_append,text,List.append_assoc]
        exact List.splitOn_append_cons_self front relativePath.toList
      · rw [namesOf,parts,List.filter_append]
        exact (List.append_nil _).symm
      · rw [parts,List.head?_append_of_ne_nil _ (List.splitOn_ne_nil _ _)]
    · refine ⟨segmentsOf root,?_,rfl,rfl⟩
      rw [if_neg (by simpa using slash),segmentsOf,String.toList_append,String.toList_append,List.append_assoc]
      exact List.splitOn_append_cons_self root.toList relativePath.toList

theorem namesOf_join (root : String) (relative : isAbsolute relativePath = false) :
    namesOf (join root relativePath) = namesOf root ++ namesOf relativePath := by
  rcases segmentsOf_join root relative with ⟨rfl,same⟩ | ⟨front,parts,names,_⟩
  · rw [same]
    rfl
  · rw [namesOf,parts,List.filter_append,names]
    rfl

theorem segmentsOf_relativeText {names : List (List Char)} (nonempty : names ≠ [])
    (plain : ∀ name ∈ names, '/' ∉ name) : segmentsOf (relativeText names) = names := by
  rw [segmentsOf,relativeText,String.toList_ofList,List.splitOn_intercalate '/' plain nonempty]

theorem relative_of_head {first : List Char} (begins : (segmentsOf path).head? = some first) (filled : first ≠ []) :
    isAbsolute path = false := by
  rw [isAbsolute,beq_eq_false_iff_ne]
  intro slash
  obtain ⟨text,same⟩ := List.head?_eq_some_iff.mp slash
  have parts : segmentsOf path = []::text.splitOn '/' := by
    rw [segmentsOf,same]
    exact List.splitOn_append_cons_self [] text
  rw [parts,List.head?_cons,Option.some.injEq] at begins
  exact filled begins.symm

/-! Paths that end with a name. -/

def EndsNamed (path : String) : Prop := ∃ front name, segmentsOf path = front ++ [name] ∧ passed name = false

theorem endsNamed_join (root : String) (relative : isAbsolute relativePath = false) (named : EndsNamed relativePath) :
    EndsNamed (join root relativePath) := by
  rcases segmentsOf_join root relative with ⟨_,same⟩ | ⟨front,parts,_⟩
  · rwa [same]
  · obtain ⟨more,name,ends,plain⟩ := named
    exact ⟨front ++ more,name,by rw [parts,ends,List.append_assoc],plain⟩

theorem resolve_segments {means : List Char → Paths.Part (List Char)} {tree : FileTree.Tree (List Char)}
    (still : ∀ segment, passed segment = true →
    means segment = .current) {links : Nat} {here front : List (List Char)} {name : List Char} (plain : passed name = false) :
    resolve tree links here ((front ++ [name]).map means) =
      resolve tree links here (((front ++ [name]).filter (!passed ·)).map means) := by
  induction front generalizing here links with
  | nil => rw [List.nil_append,List.filter_cons_of_pos (by simp [plain]),List.filter_nil]
  | cons segment front ih =>
    have filled : ((front ++ [name]).filter (!passed ·)).map means ≠ [] := by
      rw [List.filter_append,List.filter_cons_of_pos (by simp [plain])]
      simp
    rw [List.cons_append,List.map_cons]
    cases skips : passed segment with
    | true =>
      rw [List.filter_cons_of_neg (by simp [skips]),still segment skips,← ih]
      cases directory : tree.isDirectory here with
      | true => rw [resolve_current directory]
      | false =>
        rw [resolve_stuck directory,ih]
        obtain ⟨first,rest,same⟩ := List.exists_cons_of_ne_nil filled
        rw [same,resolve_stuck directory]
    | false =>
      rw [List.filter_cons_of_pos (by simp [skips]),List.map_cons]
      have one (more : List (Paths.Part (List Char))) : resolve tree links here (means segment::more) =
          (resolve tree links here [means segment]).bind fun reached => resolve tree reached.2 reached.1 more :=
        resolve_append tree links here [means segment] more
      rw [one ((front ++ [name]).map means),one (((front ++ [name]).filter (!passed ·)).map means)]
      exact congrArg (Option.bind _) (funext fun reached => ih)

theorem reach_named {files : FileSystem} (named : EndsNamed path) : reach files path =
    resolve files.tree maxLinks (if isAbsolute path then [] else files.here) ((namesOf path).map PathResolution.step) := by
  obtain ⟨front,name,ends,plain⟩ := named
  have filled : path ≠ "" := by
    rintro rfl
    have parts : segmentsOf "" = [] ++ [[]] := rfl
    rw [parts] at ends
    obtain ⟨_,last⟩ := List.append_inj' ends rfl
    cases last
    cases plain
  have parts : steps path.toList = (front ++ [name]).map PathResolution.step := by rw [steps,← ends]; rfl
  rw [reach,if_neg filled,parts,namesOf,ends]
  exact resolve_segments (fun _ => step_passed) plain

theorem reach_congr {files : FileSystem} {other : String} (named : EndsNamed path) (named' : EndsNamed other)
    (same : isAbsolute path = isAbsolute other) (names : namesOf path = namesOf other) :
    reach files path = reach files other := by
  rw [reach_named named,reach_named named',same,names]

/-! What is left behind a base. -/

theorem stripSegments_some {names : List (List Char)} {left : List (List Char)}
    (stripped : stripSegments names segments = some left) :
    ∃ front, segments = front ++ left ∧ front.filter (!passed ·) = names := by
  induction names generalizing segments with
  | nil =>
    cases stripped
    exact ⟨[],rfl,rfl⟩
  | cons name names ih =>
    unfold stripSegments at stripped
    split at stripped
    · cases stripped
    · rename_i segment more drops
      split at stripped
      · rename_i same
        subst same
        obtain ⟨front,rfl,kept⟩ := ih stripped
        have whole := List.takeWhile_append_dropWhile (p := passed) (l := segments)
        rw [drops] at whole
        have first : passed segment = false := by
          have head := List.head?_dropWhile_not passed segments
          rw [drops] at head
          simpa using head
        have skipped : (segments.takeWhile passed).filter (!passed ·) = [] :=
          List.filter_eq_nil_iff.mpr fun other member => by simp [List.mem_takeWhile_imp member]
        refine ⟨segments.takeWhile passed ++ segment::front,?_,?_⟩
        · rw [List.append_assoc,List.cons_append,whole]
        · rw [List.filter_append,skipped,List.nil_append,List.filter_cons_of_pos (by simp [first]),kept]
      · cases stripped

theorem stripSegments_own (front more : List (List Char)) :
    ∃ left, stripSegments (front.filter (!passed ·)) (front ++ more) = some left := by
  induction front with
  | nil => exact ⟨more,rfl⟩
  | cons segment front ih =>
    cases skips : passed segment with
    | true =>
      rw [List.filter_cons_of_neg (by simp [skips]),List.cons_append]
      cases names : front.filter (!passed ·) with
      | nil => exact ⟨_,rfl⟩
      | cons name names' =>
        rw [names] at ih
        rw [stripSegments,List.dropWhile_cons_of_pos skips]
        exact ih
    | false =>
      rw [List.filter_cons_of_pos (by simp [skips]),List.cons_append,stripSegments,
        List.dropWhile_cons_of_neg (by simp [skips])]
      dsimp only
      rw [if_pos rfl]
      exact ih

/-- What `Path::strip_prefix` answers has the names behind those of the base. -/
theorem stripPrefix_some (stripped : stripPrefix base path = some rest) (named : EndsNamed path) :
    namesOf path = namesOf base ++ namesOf rest ∧
      (base = "" ∧ rest = path ∨ base ≠ "" ∧ isAbsolute base = isAbsolute path ∧
        (namesOf rest ≠ [] → isAbsolute rest = false ∧ EndsNamed rest)) := by
  unfold stripPrefix at stripped
  split at stripped
  · rename_i empty
    subst empty
    cases stripped
    exact ⟨rfl,.inl ⟨rfl,rfl⟩⟩
  · rename_i filled
    split at stripped
    · rename_i both
      obtain ⟨left,strips,rfl⟩ := Option.map_eq_some_iff.mp stripped
      obtain ⟨front,parts,kept⟩ := stripSegments_some strips
      have whole := List.takeWhile_append_dropWhile (p := passed) (l := left)
      have skipped : (left.takeWhile passed).filter (!passed ·) = [] :=
        List.filter_eq_nil_iff.mpr fun other member => by simp [List.mem_takeWhile_imp member]
      have names : namesOf path = namesOf base ++ (left.dropWhile passed).filter (!passed ·) := by
        rw [namesOf,parts,List.filter_append,kept]
        conv_lhs => rw [← whole,List.filter_append,skipped,List.nil_append]
      by_cases nothing : left.dropWhile passed = []
      · have empty : namesOf (String.ofList (['/'].intercalate (left.dropWhile passed))) = [] := by
          rw [nothing]
          rfl
        rw [empty]
        rw [nothing] at names
        exact ⟨names,.inr ⟨filled,both.1,fun impossible => absurd rfl impossible⟩⟩
      · have plain : ∀ name ∈ left.dropWhile passed, '/' ∉ name := by
          intro name member
          have listed : name ∈ segmentsOf path := by
            rw [parts]
            exact List.mem_append_right _ ((List.dropWhile_suffix passed).subset member)
          exact VirtualPath.no_slash_of_mem_splitOn listed
        have text : segmentsOf (String.ofList (['/'].intercalate (left.dropWhile passed))) = left.dropWhile passed :=
          segmentsOf_relativeText nothing plain
        have restNames : namesOf (String.ofList (['/'].intercalate (left.dropWhile passed))) =
            (left.dropWhile passed).filter (!passed ·) := by rw [namesOf,text]
        refine ⟨by rw [names,restNames],.inr ⟨filled,both.1,fun _ => ⟨?_,?_⟩⟩⟩
        · obtain ⟨first,more,same⟩ := List.exists_cons_of_ne_nil nothing
          have head := List.head?_dropWhile_not passed left
          rw [same] at head text
          have keeps : passed first = false := by simpa using head
          have begins : (segmentsOf (String.ofList (['/'].intercalate (left.dropWhile passed)))).head? = some first := by
            rw [same,text,List.head?_cons]
          apply relative_of_head begins
          rintro rfl
          cases keeps
        · obtain ⟨before,name,ends,keeps⟩ := named
          rw [parts,← whole,← List.append_assoc] at ends
          obtain ⟨last,other,same⟩ := (List.eq_nil_or_concat (left.dropWhile passed)).resolve_left nothing
          rw [List.concat_eq_append] at same
          rw [same,← List.append_assoc] at ends
          obtain ⟨_,lasts⟩ := List.append_inj' ends rfl
          cases lasts
          exact ⟨last,name,by rw [text,same],keeps⟩
    · cases stripped

theorem stripPrefix_isSome {more : List (List Char)} (absolute : isAbsolute base = isAbsolute path)
    (begins : beginsHere base = beginsHere path) (names : namesOf path = namesOf base ++ more) :
    (stripPrefix base path).isSome = true := by
  obtain ⟨front,back,parts,kept,_⟩ := List.filter_eq_append_iff.mp names
  unfold stripPrefix
  split
  · rfl
  · rw [if_pos ⟨absolute,begins⟩,parts,← kept]
    obtain ⟨left,strips⟩ := stripSegments_own front back
    rw [strips]
    rfl

theorem beginsHere_join {root relativePath : String} (filled : root ≠ "") (relative : isAbsolute relativePath = false) :
    beginsHere (join root relativePath) = beginsHere root ∧ join root relativePath ≠ "" := by
  rcases segmentsOf_join root relative with ⟨empty,_⟩ | ⟨front,parts,_,head⟩
  · exact absurd empty filled
  · have nonempty : front ≠ [] := by
      rintro rfl
      exact List.splitOn_ne_nil _ _ (List.head?_eq_none_iff.mp head.symm)
    constructor
    · rw [beginsHere,parts,List.head?_append_of_ne_nil _ nonempty,head]
      rfl
    · intro empty
      have single : segmentsOf "" = [[]] := rfl
      rw [empty,single] at parts
      have rest : segmentsOf relativePath ≠ [] := List.splitOn_ne_nil _ _
      have counted := congrArg List.length parts
      rw [List.length_singleton,List.length_append] at counted
      have some_ := List.length_pos_of_ne_nil nonempty
      have more := List.length_pos_of_ne_nil rest
      omega

theorem join_empty (path : String) : join "" path = path := by
  unfold join
  split
  · rfl
  · exact String.empty_append

end

end BitProtector.PathTexts
