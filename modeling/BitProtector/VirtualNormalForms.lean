import BitProtector.VirtualAssignment

/-! The normal form of a virtual path. The walk drops `.` and refuses `..` by the component
as it was given and trims it afterwards, so that a dot between blanks passes both checks
and comes out as a dot. -/
namespace BitProtector.VirtualNormalForms
open VirtualPath VirtualAssignment VirtualRetarget

/-- What stands between the slashes of an absolute path. -/
def componentsOf (path : String) : List (List Char) := (path.toList.drop 1).splitOn '/'

structure InNormalForm (path : String) : Prop where
  absolute : path.toList.head? = some '/'
  components : ∀ component ∈ componentsOf path, component ≠ [] ∧ component ≠ ['.'] ∧ component ≠ ['.','.']
  no_trailing_slash : path.toList.getLast? ≠ some '/'
  again : normalizeVirtualPath path = .ok path

/-- Only blanks keep the component from being `.` or `..`. -/
def BlankDots (component : List Char) : Prop :=
  (trim component = ['.'] ∨ trim component = ['.','.']) ∧ trim component ≠ component

/-- No component of the given path is `.` or `..` between blanks. -/
def BareDots (given : String) : Prop := ∀ component ∈ (trim given.toList).splitOn '/', ¬BlankDots component

/-! One pass. -/

theorem undotted_iff_bare {given : String} {parts segments : List (List Char)}
    (ok : normalizeSegments given parts = .ok segments) :
    (∀ segment ∈ segments, segment ≠ ['.'] ∧ segment ≠ ['.','.']) ↔ ∀ part ∈ parts, ¬BlankDots part := by
  induction parts generalizing segments with
  | nil =>
    cases ok
    simp
  | cons part parts ih =>
    rw [List.forall_mem_cons]
    unfold normalizeSegments at ok
    split at ok
    · rename_i dropped
      have bare : ¬BlankDots part := by
        rintro ⟨_,blanks⟩
        rcases dropped with rfl | rfl <;> exact blanks rfl
      rw [ih ok,and_iff_right bare]
    · rename_i kept
      split at ok
      · cases ok
      · rename_i descends
        split at ok
        · cases ok
        · cases rest : normalizeSegments given parts with
          | error message =>
            rw [rest] at ok
            cases ok
          | ok others =>
            rw [rest] at ok
            cases ok
            rw [List.forall_mem_cons,ih rest]
            apply and_congr_left'
            constructor
            · rintro ⟨dot,dots⟩ ⟨blank | blank,_⟩
              · exact dot blank
              · exact dots blank
            · intro bare
              constructor
              · intro dot
                exact bare ⟨.inl dot,fun same => kept (.inr (same ▸ dot))⟩
              · intro dots
                exact bare ⟨.inr dots,fun same => descends (same ▸ dots)⟩

theorem componentsOf_joinSegments {segments : List (List Char)} (nonempty : segments ≠ [])
    (plain : ∀ segment ∈ segments, Plain segment) : componentsOf (String.ofList (joinSegments segments)) = segments := by
  rw [componentsOf,String.toList_ofList,joinSegments,List.drop_one,List.tail_cons]
  exact List.splitOn_intercalate '/' (fun segment member => (plain segment member).no_slash) nonempty

theorem inNormalForm_of_canonical {path : String} (canonical : Canonical path) : InNormalForm path := by
  have again := canonical.normalize
  obtain ⟨segments,nonempty,rfl,clean⟩ := canonical
  have plain : ∀ segment ∈ segments, Plain segment := fun segment member => (clean segment member).1
  refine ⟨?_,?_,?_,again⟩
  · rw [String.toList_ofList]
    exact List.head?_cons
  · rw [componentsOf_joinSegments nonempty plain]
    intro segment member
    exact ⟨(plain segment member).nonempty,(clean segment member).2⟩
  · rw [String.toList_ofList,joinSegments_eq nonempty]
    obtain ⟨front,last,rfl⟩ := (List.eq_nil_or_concat segments).resolve_left nonempty
    have whole := plain last (by simp)
    intro slash
    rw [List.concat_eq_append,List.flatMap_append,List.flatMap_singleton,
      List.getLast?_append_of_ne_nil _ (List.cons_ne_nil '/' last),
      List.getLast?_cons_of_ne_nil whole.nonempty] at slash
    exact whole.no_slash (List.mem_of_getLast? slash)

theorem inNormalForm_iff {given path : String} (ok : normalizeVirtualPath given = .ok path) :
    InNormalForm path ↔ BareDots given := by
  obtain ⟨segments,parsed,nonempty,rfl⟩ := normalizeVirtualPath_ok ok
  have plain := plain_of_normalizeSegments parsed fun part member => no_slash_of_mem_splitOn member
  rw [BareDots,← undotted_iff_bare parsed]
  constructor
  · intro normal segment member
    have listed : segment ∈ componentsOf (String.ofList (joinSegments segments)) := by
      rwa [componentsOf_joinSegments nonempty plain]
    exact (normal.components segment listed).2
  · intro undotted
    exact inNormalForm_of_canonical
      ⟨segments,nonempty,rfl,fun segment member => ⟨plain segment member,undotted segment member⟩⟩

/-! Runs. -/

/-- A call on virtual paths, or other work of the program on the rows. -/
inductive Deed
  | call (moment : Moment)
  | rows (db : Db)

def perform : Deed → Linked → Option Linked
  | .call moment, s => step moment s
  | .rows db, s => some { s with
      world := { s.world with db := db } }

def program : Machine Linked Deed := ⟨perform⟩

def pathsOf (db : Db) : List String := (virtualEntries db).map VirtualEntry.virtualPath

/-- The paths that are asked for are free of dots between blanks; other work assigns no path. -/
def Bare : Deed → Linked → Prop
  | .call moment, _ => ∀ given, moment.call.given = some given → BareDots given
  | .rows db, s => pathsOf db ⊆ pathsOf s.world.db

theorem pathsOf_kept {s t : Linked} (kept : AssigneesKept s t) : pathsOf t.world.db ⊆ pathsOf s.world.db := by
  intro path listed
  obtain ⟨entry,member,rfl⟩ := List.mem_map.mp listed
  exact List.mem_map_of_mem ((virtualEntries_of_kept kept entry).mp member)

theorem pathsOf_written {owner : VirtualOwner} {virtualPath : Option String} {s t : Linked}
    (written : Written owner virtualPath s t) {path : String} (listed : path ∈ pathsOf t.world.db) :
    path ∈ pathsOf s.world.db ∨ virtualPath = some path := by
  obtain ⟨entry,member,rfl⟩ := List.mem_map.mp listed
  rcases mem_virtualEntries_update.mp ((virtualEntries_of_kept written.rows entry).mp member) with
    ⟨_,old⟩ | ⟨_,fresh,_⟩
  · exact .inl (List.mem_map_of_mem old)
  · exact .inr fresh

theorem pathsOf_call (calls : LinkCalls) (call : Call) (s : Linked) {path : String}
    (listed : path ∈ pathsOf (Effect.after (call.run calls) s).world.db) :
    path ∈ pathsOf s.world.db ∨ ∃ given, call.given = some given ∧ normalizeVirtualPath given = .ok path := by
  have assigned {owner : VirtualOwner} {given : String}
      (listed : path ∈ pathsOf (Effect.after (assignVirtualPath calls owner given) s).world.db) :
      path ∈ pathsOf s.world.db ∨ normalizeVirtualPath given = .ok path := by
    rcases assign_rows calls owner given s with kept | ⟨_,_,normalized,_,valid,written⟩
    · exact .inl (pathsOf_kept kept listed)
    · rcases pathsOf_written written listed with old | fresh
      · exact .inl old
      · rw [← Option.some.inj fresh]
        exact .inr (validated_apart valid).1
  have released {owner : VirtualOwner} {t : Linked} (rows : AssigneesKept s t ∨ Written owner none s t)
      (listed : path ∈ pathsOf t.world.db) : path ∈ pathsOf s.world.db := by
    rcases rows with kept | written
    · exact pathsOf_kept kept listed
    · exact (pathsOf_written written listed).resolve_right nofun
  cases call with
  | setVirtualPath fileId virtualPath => exact (assigned listed).imp_right fun normal => ⟨virtualPath,rfl,normal⟩
  | removeVirtualPath fileId => exact .inl (released (remove_rows calls (.file fileId) _ (fun _ => rfl) s) listed)
  | setFolderVirtualPath folderId virtualPath =>
    exact (assigned listed).imp_right fun normal => ⟨virtualPath,rfl,normal⟩
  | removeFolderVirtualPath folderId =>
    exact .inl (released (remove_rows calls (.folder folderId) _ (fun _ => rfl) s) listed)

/-- Every stored path is in normal form. -/
def Normal (db : Db) : Prop := ∀ path ∈ pathsOf db, InNormalForm path

theorem normal_step {deed : Deed} {s t : Linked} (normal : Normal s.world.db) (bare : Bare deed s)
    (taken : program.step deed s = some t) : Normal t.world.db := by
  intro path listed
  cases deed with
  | rows db =>
    cases taken
    exact normal path (bare listed)
  | call moment =>
    cases taken
    rcases pathsOf_call moment.calls moment.call (moment.seen s) listed with old | ⟨given,asked,ok⟩
    · exact normal path old
    · exact (inNormalForm_iff ok).mpr (bare given asked)

theorem normal_run {s t : Linked} (fresh : virtualEntries s.world.db = []) (reached : program.Reaches Bare s t) :
    Normal t.world.db := by
  refine reached.invariant ?_ fun deed before after normal bare taken => normal_step normal bare taken
  intro path listed
  rw [pathsOf,fresh] at listed
  cases listed

theorem collectVirtualReservations_of_normal {db : Db} (normal : Normal db) :
    ∃ reservations, collectVirtualReservations db = .ok reservations := by
  apply Passes.mapM_exists.mpr
  intro entry member
  have again := (normal entry.virtualPath (List.mem_map_of_mem member)).again
  exact ⟨⟨entry.owner,entry.virtualPath⟩,by rw [again]; rfl⟩

/-- An accepted path comes out in normal form if and only if none of its components is a dot or two dots
between blanks; and as long as no such path is asked for, the reservations can be collected. -/
theorem virtual_paths_normal {given path : String} (accepted : normalizeVirtualPath given = .ok path) {s t : Linked}
    (fresh : virtualEntries s.world.db = []) (reached : program.Reaches Bare s t) :
    (InNormalForm path ↔ BareDots given) ∧
      ∃ reservations, collectVirtualReservations t.world.db = .ok reservations := by
  constructor
  · exact inNormalForm_iff accepted
  · exact collectVirtualReservations_of_normal (normal_run fresh reached)

theorem virtual_paths_normal_freeRows :
    InNormalForm "/a/b" ∧
      ∃ reservations, collectVirtualReservations (afterCalls [.setVirtualPath 1 " /a/./b /"] freeRows).world.db =
        .ok reservations := by
  have bare : BareDots " /a/./b /" := by
    rintro component member ⟨dots,blanks⟩
    have listed : component ∈ [[],['a'],['.'],['b',' '],[]] := member
    simp only [List.mem_cons,List.not_mem_nil,or_false] at listed
    rcases listed with rfl | rfl | rfl | rfl | rfl
    · exact blanks rfl
    · exact blanks rfl
    · exact blanks rfl
    · revert dots
      decide
    · exact blanks rfl
  have taken : program.step (.call (.next (.setVirtualPath 1 " /a/./b /") freeRows)) freeRows =
      some (afterCalls [.setVirtualPath 1 " /a/./b /"] freeRows) := step_afterCalls [] _ _
  have asks : Bare (.call (.next (.setVirtualPath 1 " /a/./b /") freeRows)) freeRows := by
    intro given asked
    cases asked
    exact bare
  have accepted : normalizeVirtualPath " /a/./b /" = .ok "/a/b" := by decide +kernel
  have fresh : virtualEntries freeRows.world.db = [] := rfl
  obtain ⟨normal,collects⟩ := virtual_paths_normal accepted fresh (.step _ .start asks taken)
  exact ⟨normal.mpr bare,collects⟩

/-- A component ` .. ` is stored as `..`; from then on no reservation can be collected. -/
theorem blank_dots_stored :
    ¬(∀ given path, normalizeVirtualPath given = .ok path → InNormalForm path) ∧
      ¬∀ s t : Linked, virtualEntries s.world.db = [] → program.Reaches (fun deed _ => ∃ moment, deed = .call moment) s t →
        ∃ reservations, collectVirtualReservations t.world.db = .ok reservations := by
  constructor
  · intro normal
    have ascends := normal "/a/ .. /b" "/a/../b" (by decide +kernel)
    have refused : normalizeVirtualPath "/a/../b" ≠ .ok "/a/../b" := by decide +kernel
    exact refused ascends.again
  · intro collects
    have taken : program.step (.call (.next (.setVirtualPath 1 "/a/ .. /b") freeRows)) freeRows =
        some (afterCalls [.setVirtualPath 1 "/a/ .. /b"] freeRows) := step_afterCalls [] _ _
    obtain ⟨reservations,collected⟩ := collects freeRows _ rfl (.step _ .start ⟨_,rfl⟩ taken)
    have fails : (collectVirtualReservations
        (afterCalls [.setVirtualPath 1 "/a/ .. /b"] freeRows).world.db).isOk = false := by decide +kernel
    rw [collected] at fails
    cases fails

end BitProtector.VirtualNormalForms
