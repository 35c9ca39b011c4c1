import BitProtector.IntegrityCoverage
import Mathlib.Algebra.Order.BigOperators.Group.List

/-! Sequences of integrity runs over all pairs, each stopped between two pages: in
which order they get round to the files. -/
namespace BitProtector

/-- An unscoped run that is asked for. -/
structure RunRequest where
  env : RunEnv
  recover : Bool
  trigger : String

section
variable [Blake3]

/-- These runs take place one after the other, and each is cut short. -/
def PartialRuns (clock : Clock) : List RunRequest → RunWorld → RunWorld → Prop
  | [],s,t => t = s
  | request::requests,s,t => ∃ run middle,
      runSync request.env clock none request.recover request.trigger s = .ok run middle ∧ run.status = .stopped ∧
        PartialRuns clock requests middle t

end

/-- A page of some pair, whatever the times of its files and the order of ties. -/
def IsPage (db : Db) (page : List Nat) : Prop :=
  ∃ (pairId k : Nat) (key : Nat → WithBot Nat) (tieBreak : Nat → Nat),
    page = Paging.page perPage k key tieBreak (db.idsOfPair pairId)

/-- What runs leave as it is, and that none of them is still active. -/
structure SameFiles (s t : RunWorld) : Prop where
  pairs : t.world.db.drivePairs = s.world.db.drivePairs
  members : t.world.db.members = s.world.db.members
  idle : t.world.db.getActiveIntegrityRun = none

namespace SameFiles

theorem idsOfPair {s t : RunWorld} (same : SameFiles s t) (pairId : Nat) :
    t.world.db.idsOfPair pairId = s.world.db.idsOfPair pairId := by
  rw [Db.idsOfPair_eq,Db.idsOfPair_eq,same.members]

theorem listDrivePairs {s t : RunWorld} (same : SameFiles s t) : t.world.db.listDrivePairs = s.world.db.listDrivePairs := by
  rw [Db.listDrivePairs,Db.listDrivePairs,same.pairs]

end SameFiles

theorem getActiveIntegrityRun_none {db : Db} : db.getActiveIntegrityRun = none ↔
    ∀ run ∈ db.integrityRuns.rows, run.status ≠ .running ∧ run.status ≠ .stopping := by
  simp [Db.getActiveIntegrityRun,List.find?_eq_none]

theorem idle_after {s t : RunWorld} {runId : Nat} {status : RunStatus} (idle : s.world.db.getActiveIntegrityRun = none)
    (others : ∀ id, id ≠ runId → t.world.db.integrityRuns.find? id = s.world.db.integrityRuns.find? id)
    (mine : (t.world.db.integrityRuns.find? runId).map IntegrityRun.status = some status)
    (rests : status ≠ .running ∧ status ≠ .stopping) : t.world.db.getActiveIntegrityRun = none := by
  refine getActiveIntegrityRun_none.mpr fun run member => ?_
  have row : t.world.db.integrityRuns.find? run.id = some run := t.world.db.integrityRuns.find?_of_mem member
  by_cases own : run.id = runId
  · rw [own] at row
    rw [row,Option.map_some,Option.some.injEq] at mine
    rwa [mine]
  · rw [others run.id own] at row
    exact getActiveIntegrityRun_none.mp idle run (Table.mem_of_find? row)

section
variable [Blake3] {env : RunEnv} {clock : Clock} {runId : Nat} {recover : Bool}

/-- How a run gets through its pairs: what it recorded, and the pages that it listed. -/
structure PairsDone (clock : Clock) (runId : Nat) (files : List Nat) (pages : List (List Nat)) (s : RunWorld) (stopped : Bool)
    (middle t : RunWorld) : Prop where
  recorded : Recorded clock runId files s middle
  pages : t.pages = s.pages ++ pages
  ends : (stopped = false ∧ middle = t) ∨ (stopped = true ∧ Ended runId .stopped middle t)

omit [Blake3] in
theorem PairsDone.after {files more : List Nat} {listed next : List (List Nat)} {s t middle u : RunWorld} {stopped : Bool}
    (recorded : Recorded clock runId files s t) (pages : t.pages = s.pages ++ listed)
    (rest : PairsDone clock runId more next t stopped middle u) :
    PairsDone clock runId (files ++ more) (listed ++ next) s stopped middle u :=
  ⟨recorded.trans rest.recorded,by rw [rest.pages,pages,List.append_assoc],rest.ends⟩

variable (env clock recover) in
theorem processPairs_any (pairs : List DrivePair) {s : RunWorld} (running : s.world.db.stopFlag runId = some false)
    (there : ∀ pair ∈ pairs, (s.world.db.drivePairs.find? pair.id).isSome) :
    ∃ stopped t middle files listed, processPairs env clock runId recover pairs s = .ok stopped t ∧
      PairsDone clock runId files listed s stopped middle t ∧ ∀ page ∈ listed, IsPage s.world.db page := by
  induction pairs generalizing s with
  | nil => exact ⟨false,s,s,[],[],rfl,⟨.of_steady (.refl _ _) rfl rfl,(List.append_nil _).symm,.inl ⟨rfl,rfl⟩⟩,by simp⟩
  | cons pair pairs ih =>
    obtain ⟨K,t,_,pages,ends⟩ := processPairs_pair env clock recover pair pairs running (there pair (by simp))
    have mine : ∀ page ∈ pagesFrom env clock pair.id s K, IsPage s.world.db page := by
      intro page member
      obtain ⟨j,_,rfl⟩ := List.mem_map.mp member
      exact ⟨pair.id,j,_,_,rfl⟩
    rcases ends with ⟨recorded,_,next⟩ | ⟨ran,_,middle,recorded,ended⟩
    · have still : ∀ other ∈ pairs, (t.world.db.drivePairs.find? other.id).isSome := by
        intro other member
        rw [recorded.pairs]
        exact there other (by simp [member])
      obtain ⟨stopped,u,middle,files,listed,rest,done,others⟩ := ih (recorded.stopFlag.trans running) still
      refine ⟨stopped,u,middle,_,_,next.trans rest,.after recorded pages done,fun page member => ?_⟩
      rcases List.mem_append.mp member with now | later
      · exact mine page now
      · obtain ⟨pairId,k,key,tieBreak,rfl⟩ := others page later
        exact ⟨pairId,k,key,tieBreak,by rw [recorded.idsOfPair]⟩
    · exact ⟨true,t,middle,_,_,ran,⟨recorded,pages,.inr ⟨rfl,ended⟩⟩,mine⟩

omit [Blake3] in
theorem sameFiles_of_ended {trigger : String} {s middle u : RunWorld} {files : List Nat} {status : RunStatus}
    (idle : s.world.db.getActiveIntegrityRun = none)
    (recorded : Recorded clock (s.world.db.integrityRuns.lastId + 1) files (startedRun none recover trigger s) middle)
    (ended : Ended (s.world.db.integrityRuns.lastId + 1) status middle u) (rests : status ≠ .running ∧ status ≠ .stopping) :
    SameFiles s u := by
  have started : SteadyRows (s.world.db.integrityRuns.lastId + 1) s.world.db (startedRun none recover trigger s).world.db :=
    (createIntegrityRun_of_scope rfl recover trigger).2.1
  refine ⟨?_,?_,idle_after idle (fun id other => ?_) ended.status rests⟩
  · exact ended.rows.pairs.trans (recorded.pairs.trans started.pairs)
  · exact ended.rows.members.trans (recorded.members.trans started.members)
  · exact (ended.rows.otherRuns id other).trans ((recorded.otherRuns id other).trans (started.otherRuns id other))

omit [Blake3] in
theorem startedRun_running (recover : Bool) (trigger : String) (s : RunWorld) :
    (startedRun none recover trigger s).world.db.stopFlag (s.world.db.integrityRuns.lastId + 1) = some false ∧
      SteadyRows (s.world.db.integrityRuns.lastId + 1) s.world.db (startedRun none recover trigger s).world.db := by
  have found : scopePairs s.world.db none = .ok s.world.db.listDrivePairs := rfl
  obtain ⟨_,steady,row⟩ := createIntegrityRun_of_scope found recover trigger
  refine ⟨?_,steady⟩
  rw [Db.stopFlag,show (startedRun none recover trigger s).world.db.integrityRuns.find? _ = _ from row]
  rfl

theorem runSync_of_pairs {trigger : String} {s : RunWorld} (idle : s.world.db.getActiveIntegrityRun = none)
    {stopped : Bool} {t middle : RunWorld} {files : List Nat} {listed : List (List Nat)}
    (ran : processPairs env clock (s.world.db.integrityRuns.lastId + 1) recover s.world.db.listDrivePairs
      (startedRun none recover trigger s) = .ok stopped t)
    (done : PairsDone clock (s.world.db.integrityRuns.lastId + 1) files listed (startedRun none recover trigger s)
      stopped middle t) :
    ∃ run u, runSync env clock none recover trigger s = .ok run u ∧ SameFiles s u ∧ u.pages = s.pages ++ listed ∧
      u.world.db.stamp = middle.world.db.stamp ∧
      ((stopped = true ∨ env.stopRequested t.pages.length = true) → run.status = .stopped) := by
  have found : scopePairs s.world.db none = .ok s.world.db.listDrivePairs := rfl
  obtain ⟨_,steady,row⟩ := createIntegrityRun_of_scope found recover trigger
  have again : scopePairs (startedRun none recover trigger s).world.db none = .ok s.world.db.listDrivePairs :=
    congrArg (fun table => Except.ok (Table.rows table)) steady.pairs
  rcases done.ends with ⟨rfl,rfl⟩ | ⟨rfl,ended⟩
  · have running : middle.world.db.stopFlag (s.world.db.integrityRuns.lastId + 1) = some false :=
      done.recorded.stopFlag.trans (startedRun_running recover trigger s).1
    obtain ⟨u,finished,ended⟩ := processRun_finishes row again ran rfl running
    obtain ⟨run,result,status,_⟩ := runSync_ends idle rfl finished ended
    have rests : run.status ≠ .running ∧ run.status ≠ .stopping := by
      rw [status]
      cases env.stopRequested middle.pages.length <;> decide
    rw [← status] at ended
    refine ⟨run,u,result,sameFiles_of_ended idle done.recorded ended rests,ended.pages.trans done.pages,
      ended.rows.stamps,fun cut => ?_⟩
    rw [status,cut.resolve_left Bool.false_ne_true]
    rfl
  · have finished : processRun env clock _ (startedRun none recover trigger s) = .ok () t :=
      processRun_stopped row again ran rfl
    obtain ⟨run,result,status,_⟩ := runSync_ends idle rfl finished ended
    exact ⟨run,t,result,sameFiles_of_ended idle done.recorded ended (by decide),done.pages,ended.rows.stamps,
      fun _ => status⟩

variable (env clock recover) in
theorem runSync_any (trigger : String) {s : RunWorld} (idle : s.world.db.getActiveIntegrityRun = none) :
    ∃ run t listed, runSync env clock none recover trigger s = .ok run t ∧ SameFiles s t ∧ t.pages = s.pages ++ listed ∧
      ∀ page ∈ listed, IsPage s.world.db page := by
  obtain ⟨running,steady⟩ := startedRun_running recover trigger s
  obtain ⟨stopped,t,middle,files,listed,ran,done,pages⟩ := processPairs_any env clock recover
    s.world.db.listDrivePairs running fun pair member => by
      rw [steady.pairs]
      exact Option.isSome_iff_exists.mpr ⟨pair,s.world.db.drivePairs.find?_of_mem member⟩
  obtain ⟨run,u,result,same,shown,_⟩ := runSync_of_pairs idle ran done
  refine ⟨run,u,listed,result,same,shown,fun page member => ?_⟩
  obtain ⟨pairId,k,key,tieBreak,rfl⟩ := pages page member
  exact ⟨pairId,k,key,tieBreak,by rw [Db.idsOfPair_eq,Db.idsOfPair_eq,steady.members]⟩

/-- A request to stop that arrives when so many pages are listed. -/
def stopAfter (tieBreak : Nat → Nat → Nat → Nat) (limit : Nat) : RunEnv where
  io _ := Io.healthy
  mmapThresholdBytes := 0
  cfg := ⟨2,2⟩
  tieBreak := tieBreak
  deadlinePassed _ := false
  stopRequested listed := decide (limit ≤ listed)

omit [Blake3] in
theorem stopAfter_cut (tieBreak : Nat → Nat → Nat → Nat) (limit listed : Nat) :
    (stopAfter tieBreak limit).cut listed = decide (limit ≤ listed) := Bool.or_false _

variable (clock recover) in
theorem processPairs_cut (pairs : List DrivePair) {s : RunWorld} (running : s.world.db.stopFlag runId = some false)
    (there : ∀ pair ∈ pairs, (s.world.db.drivePairs.find? pair.id).isSome) (cut : env.cut s.pages.length = true) :
    ∃ stopped t middle, processPairs env clock runId recover pairs s = .ok stopped t ∧
      PairsDone clock runId [] [] s stopped middle t := by
  induction pairs generalizing s with
  | nil => exact ⟨false,s,s,rfl,.of_steady (.refl _ _) rfl rfl,(List.append_nil _).symm,.inl ⟨rfl,rfl⟩⟩
  | cons pair pairs ih =>
    obtain ⟨K,t,uncut,pages,ends⟩ := processPairs_pair env clock recover pair pairs running (there pair (by simp))
    have none_listed : K = 0 := by
      by_contra some_listed
      have first := (uncut 0 (Nat.pos_of_ne_zero some_listed)).1
      rw [Nat.add_zero,cut] at first
      cases first
    subst none_listed
    rw [show pagesFrom env clock pair.id s 0 = [] from rfl,List.append_nil] at pages
    rcases ends with ⟨recorded,_,next⟩ | ⟨ran,_,middle,recorded,ended⟩
    · have still : ∀ other ∈ pairs, (t.world.db.drivePairs.find? other.id).isSome := by
        intro other member
        rw [recorded.pairs]
        exact there other (by simp [member])
      obtain ⟨stopped,u,middle,rest,done⟩ := ih (recorded.stopFlag.trans running) still (by rwa [pages])
      have nothing : Recorded clock runId [] s t := recorded
      exact ⟨stopped,u,middle,next.trans rest,done.after nothing (pages.trans (List.append_nil _).symm)⟩
    · exact ⟨true,t,middle,ran,recorded,by rw [pages,List.append_nil],.inr ⟨rfl,ended⟩⟩

omit [Blake3] in
theorem pagesFrom_congr {s t : RunWorld} (env : RunEnv) (clock : Clock) {pairId : Nat}
    (stamps : t.world.db.stamp = s.world.db.stamp)
    (readings : t.readings = s.readings) (ids : t.world.db.idsOfPair pairId = s.world.db.idsOfPair pairId) (k : Nat) :
    pagedFrom env clock pairId t k = pagedFrom env clock pairId s k ∧
      pagesFrom env clock pairId t k = pagesFrom env clock pairId s k := by
  have later : readingsFrom clock t = readingsFrom clock s := by
    funext i
    rw [readingsFrom,readingsFrom,readings]
  rw [pagedFrom,pagedFrom,pagesFrom,pagesFrom,stamps,later,ids]
  exact ⟨rfl,rfl⟩

variable (clock recover) in
theorem processPairs_first (tieBreak : Nat → Nat → Nat → Nat) {limit m : Nat} (empty : List DrivePair) (pair : DrivePair)
    (others : List DrivePair) {s : RunWorld} (running : s.world.db.stopFlag runId = some false)
    (there : ∀ other ∈ empty ++ pair::others, (s.world.db.drivePairs.find? other.id).isSome)
    (no_files : ∀ other ∈ empty, s.world.db.idsOfPair other.id = []) (pos : 0 < m)
    (inside : perPage * (m - 1) < (s.world.db.idsOfPair pair.id).length) (upTo : limit = s.pages.length + m) :
    let env := stopAfter tieBreak limit
    ∃ stopped t middle, processPairs env clock runId recover (empty ++ pair::others) s = .ok stopped t ∧
      PairsDone clock runId (pagedFrom env clock pair.id s m).log (pagesFrom env clock pair.id s m) s stopped middle t := by
  intro env
  have early {listed : Nat} (uncut : env.cut listed = false) : listed < limit := by
    rw [stopAfter_cut,decide_eq_false_iff_not] at uncut
    exact Nat.not_le.mp uncut
  have late {listed : Nat} (cut : env.cut listed = true) : limit ≤ listed := by
    rwa [stopAfter_cut,decide_eq_true_eq] at cut
  induction empty generalizing s with
  | nil =>
    rw [List.nil_append] at there ⊢
    obtain ⟨K,t,uncut,pages,ends⟩ := processPairs_pair env clock recover pair others running (there pair (by simp))
    have le : K ≤ m := by
      by_contra more
      have still := early (uncut m (Nat.not_le.mp more)).1
      omega
    rcases ends with ⟨recorded,done,next⟩ | ⟨ran,cut,middle,recorded,ended⟩
    · have enough : m - 1 < K := Nat.lt_of_mul_lt_mul_left (Nat.lt_of_lt_of_le inside done)
      have same : K = m := by omega
      subst same
      have shown : t.pages.length = limit := by
        rw [pages,List.length_append,pagesFrom,Paging.pages_length,upTo]
      have still : ∀ other ∈ others, (t.world.db.drivePairs.find? other.id).isSome := by
        intro other member
        rw [recorded.pairs]
        exact there other (by simp [member])
      obtain ⟨stopped,u,middle,rest,nothing⟩ := processPairs_cut clock recover others
        (recorded.stopFlag.trans running) still (show env.cut t.pages.length = true by rw [shown,stopAfter_cut]; simp)
      refine ⟨stopped,u,middle,next.trans rest,?_⟩
      have both := nothing.after recorded pages
      rwa [List.append_nil,List.append_nil] at both
    · have same : K = m := by
        have reached := late cut
        omega
      subst same
      exact ⟨true,t,middle,ran,recorded,pages,.inr ⟨rfl,ended⟩⟩
  | cons first empty ih =>
    rw [List.cons_append] at there ⊢
    obtain ⟨K,t,uncut,pages,ends⟩ := processPairs_pair env clock recover first (empty ++ pair::others) running
      (there first (by simp))
    have none_listed : K = 0 := by
      by_contra some_listed
      have some_file := (uncut 0 (Nat.pos_of_ne_zero some_listed)).2
      rw [no_files first (by simp)] at some_file
      cases some_file
    subst none_listed
    have pages : t.pages = s.pages := pages.trans (List.append_nil _)
    rcases ends with ⟨recorded,_,next⟩ | ⟨_,cut,_⟩
    · have nothing : Recorded clock runId [] s t := recorded
      obtain ⟨stopped,u,middle,rest,done⟩ := ih (recorded.stopFlag.trans running)
        (fun other member => by
          rw [recorded.pairs]
          exact there other (List.mem_cons_of_mem _ member))
        (fun other member => by
          rw [recorded.idsOfPair]
          exact no_files other (List.mem_cons_of_mem _ member))
        (by rwa [recorded.idsOfPair]) (by rw [pages,upTo])
      obtain ⟨paged,listed⟩ := pagesFrom_congr env clock nothing.stamps nothing.readings (nothing.idsOfPair pair.id) m
      rw [paged,listed] at done
      exact ⟨stopped,u,middle,next.trans rest,done.after nothing (pages.trans (List.append_nil _).symm)⟩
    · have reached := late cut
      omega

variable (clock recover) in
theorem runSync_first (tieBreak : Nat → Nat → Nat → Nat) (trigger : String) {m : Nat} {empty others : List DrivePair}
    {pair : DrivePair} {s : RunWorld} (idle : s.world.db.getActiveIntegrityRun = none)
    (split : s.world.db.listDrivePairs = empty ++ pair::others)
    (no_files : ∀ other ∈ empty, s.world.db.idsOfPair other.id = []) (pos : 0 < m)
    (inside : perPage * (m - 1) < (s.world.db.idsOfPair pair.id).length) :
    let env := stopAfter tieBreak (s.pages.length + m)
    ∃ run t, runSync env clock none recover trigger s = .ok run t ∧ run.status = .stopped ∧ SameFiles s t ∧
      t.pages = s.pages ++ pagesFrom env clock pair.id s m ∧
      t.world.db.stamp = (pagedFrom env clock pair.id s m).key := by
  intro env
  obtain ⟨running,steady⟩ := startedRun_running recover trigger s
  have ids (pairId : Nat) : (startedRun none recover trigger s).world.db.idsOfPair pairId = s.world.db.idsOfPair pairId := by
    rw [Db.idsOfPair_eq,Db.idsOfPair_eq,steady.members]
  obtain ⟨paged,listed⟩ := pagesFrom_congr env clock steady.stamps (show _ = s.readings from rfl) (ids pair.id) m
  obtain ⟨stopped,t,middle,ran,done⟩ := processPairs_first clock recover tieBreak empty pair others running
    (fun other member => by
      rw [← split] at member
      rw [steady.pairs]
      exact Option.isSome_iff_exists.mpr ⟨other,s.world.db.drivePairs.find?_of_mem member⟩)
    (fun other member => by
      rw [ids]
      exact no_files other member)
    pos (by rwa [ids]) (show s.pages.length + m = _ from rfl)
  rw [← split] at ran
  have shown : t.pages.length = s.pages.length + m := by
    rw [done.pages,List.length_append,pagesFrom,Paging.pages_length]
    rfl
  obtain ⟨run,u,result,same,pages,stamps,stops⟩ := runSync_of_pairs idle ran done
  refine ⟨run,u,result,stops (.inr ?_),same,?_,?_⟩
  · rw [shown]
    exact decide_eq_true (Nat.le_refl _)
  · rw [pages]
    exact congrArg (s.pages ++ ·) listed
  · rw [stamps,done.recorded.stamps]
    exact (congrArg Paging.Paged.key (Paging.run_eq_touchAll m)).symm.trans (congrArg Paging.Paged.key paged)

theorem partialRuns_onePage (clock : Clock) {empty others : List DrivePair} {pair : DrivePair} (count : Nat) {s : RunWorld}
    (idle : s.world.db.getActiveIntegrityRun = none) (split : s.world.db.listDrivePairs = empty ++ pair::others)
    (no_files : ∀ other ∈ empty, s.world.db.idsOfPair other.id = []) (some_file : 0 < (s.world.db.idsOfPair pair.id).length) :
    ∃ requests t listed, PartialRuns clock requests s t ∧ t.pages = s.pages ++ listed ∧ listed.length = count ∧
      ∀ page ∈ listed, page.Nodup ∧ page ⊆ s.world.db.idsOfPair pair.id ∧ page ≠ [] := by
  induction count generalizing s with
  | zero => exact ⟨[],s,[],rfl,(List.append_nil _).symm,rfl,by simp⟩
  | succ count ih =>
    let env := stopAfter (fun _ _ _ => 0) (s.pages.length + 1)
    obtain ⟨run,t,ran,stopped,same,pages,_⟩ := runSync_first clock false (fun _ _ _ => 0) "scheduled" idle split no_files
      (Nat.succ_pos 0) (by simpa using some_file)
    obtain ⟨requests,u,listed,rest,shown,length,each⟩ := ih same.idle (same.listDrivePairs.trans split)
      (fun other member => by
        rw [same.idsOfPair]
        exact no_files other member)
      (by rwa [same.idsOfPair])
    simp only [same.idsOfPair] at each
    refine ⟨⟨env,false,"scheduled"⟩::requests,u,_,⟨run,t,ran,stopped,rest⟩,
      by rw [shown,pages,List.append_assoc],by rw [List.length_append,length,pagesFrom,Paging.pages_length,Nat.add_comm],?_⟩
    intro page member
    rcases List.mem_append.mp member with now | later
    · obtain ⟨j,first,rfl⟩ := List.mem_map.mp now
      have zero : j = 0 := Nat.lt_one_iff.mp (List.mem_range.mp first)
      subst zero
      refine ⟨Paging.page_nodup (s.world.db.idsOfPair_nodup pair.id),Paging.page_subset,fun none_listed => ?_⟩
      have length := congrArg List.length none_listed
      rw [Paging.page_length,List.length_nil,Nat.mul_zero,Nat.sub_zero] at length
      have pos : 0 < perPage := by decide
      omega
    · exact each page later

theorem partialRuns_pages {requests : List RunRequest} {s t : RunWorld} (idle : s.world.db.getActiveIntegrityRun = none)
    (runs : PartialRuns clock requests s t) :
    ∃ listed, t.pages = s.pages ++ listed ∧ ∀ page ∈ listed, IsPage s.world.db page := by
  induction requests generalizing s with
  | nil =>
    cases runs
    exact ⟨[],(List.append_nil _).symm,by simp⟩
  | cons request requests ih =>
    obtain ⟨run,middle,ran,_,rest⟩ := runs
    obtain ⟨_,_,first,again,same,pages,early⟩ := runSync_any request.env clock
      request.recover request.trigger idle
    rw [ran] at again
    cases again
    obtain ⟨listed,shown,later⟩ := ih same.idle rest
    refine ⟨first ++ listed,by rw [shown,pages,List.append_assoc],fun page member => ?_⟩
    rcases List.mem_append.mp member with now | member
    · exact early page now
    · obtain ⟨pairId,k,key,tieBreak,rfl⟩ := later page member
      exact ⟨pairId,k,key,tieBreak,by rw [same.idsOfPair]⟩

omit [Blake3] in
theorem mem_ids {db : Db} {id : Nat} : id ∈ db.trackedFiles.rows.map TrackedFile.id ↔ ∃ pairId, (id,pairId) ∈ db.members := by
  simp [Db.members]

omit [Blake3] in
theorem isPage_whole {db : Db} {pairId : Nat} (ofPair : ∀ file ∈ db.trackedFiles.rows, file.drivePairId = pairId)
    (few : db.trackedFiles.rows.length ≤ perPage) {page : List Nat} (isPage : IsPage db page) {id : Nat} (listed : id ∈ page) :
    db.trackedFiles.rows.map TrackedFile.id ⊆ page := by
  obtain ⟨other,k,key,tieBreak,rfl⟩ := isPage
  have one_pair {u p : Nat} (member : (u,p) ∈ db.members) : p = pairId := by
    obtain ⟨file,row,rfl⟩ := Db.members_iff.mp member
    exact ofPair file (Table.mem_of_find? row)
  have mine : other = pairId := one_pair (mem_idsOfPair.mp (Paging.page_subset listed))
  subst mine
  have short : (db.idsOfPair other).length ≤ perPage := by
    rw [Db.idsOfPair,List.length_map]
    exact (List.length_filter_le _ _).trans few
  have first : k = 0 := by
    by_contra later
    have beyond : perPage * 1 ≤ perPage * k := Nat.mul_le_mul_left _ (Nat.one_le_iff_ne_zero.mpr later)
    have nothing : (Paging.page perPage k key tieBreak (db.idsOfPair other)).length = 0 := by
      rw [Paging.page_length]
      omega
    rw [List.eq_nil_of_length_eq_zero nothing] at listed
    cases listed
  subst first
  intro u member
  obtain ⟨p,inside⟩ := mem_ids.mp member
  rw [one_pair inside] at inside
  have all : Paging.page perPage 0 key tieBreak (db.idsOfPair other) = Paging.ordered key tieBreak (db.idsOfPair other) := by
    rw [Paging.page,Nat.mul_zero,List.drop_zero,List.take_of_length_le]
    rwa [Paging.ordered_perm.length_eq]
  rw [all]
  exact Paging.ordered_perm.symm.subset (mem_idsOfPair.mpr inside)

/-- Runs of one page each never leave the first pair that has files. -/
theorem not_rotates_of_two_pairs (clock : Clock) {empty others : List DrivePair} {pair : DrivePair} {s : RunWorld}
    (idle : s.world.db.getActiveIntegrityRun = none) (split : s.world.db.listDrivePairs = empty ++ pair::others)
    (no_files : ∀ other ∈ empty, s.world.db.idsOfPair other.id = []) (some_file : 0 < (s.world.db.idsOfPair pair.id).length)
    {id pairId : Nat} (elsewhere : (id,pairId) ∈ s.world.db.members) (other : pairId ≠ pair.id) :
    ∃ requests t listed, PartialRuns clock requests s t ∧ t.pages = s.pages ++ listed ∧
      ¬Paging.Rotates (s.world.db.trackedFiles.rows.map TrackedFile.id) listed := by
  obtain ⟨requests,t,listed,runs,pages,length,each⟩ := partialRuns_onePage clock
    ((s.world.db.idsOfPair pair.id).length + 1) idle split no_files some_file
  have inside : listed.flatten ⊆ s.world.db.idsOfPair pair.id := by
    intro u member
    obtain ⟨page,shown,member⟩ := List.mem_flatten.mp member
    exact (each page shown).2.1 member
  have many : listed.length ≤ listed.flatten.length := by
    rw [List.length_flatten,← List.length_map (f := List.length)]
    refine List.length_le_sum_of_one_le _ fun n member => ?_
    obtain ⟨page,shown,rfl⟩ := List.mem_map.mp member
    exact List.length_pos_iff.mpr (each page shown).2.2
  refine ⟨requests,t,listed,runs,pages,Paging.not_rotates_of_repeats (fun page shown => (each page shown).1)
    (fun apart => ?_) (mem_ids.mpr ⟨pairId,elsewhere⟩) (fun touched => ?_)⟩
  · have short := List.Nodup.length_le_of_subset apart inside
    omega
  · exact other (pair_unique elsewhere (mem_idsOfPair.mp (inside touched)))

theorem not_rotates_of_many_files (clock : Clock) {empty others : List DrivePair} {pair : DrivePair} {s : RunWorld}
    (idle : s.world.db.getActiveIntegrityRun = none) (split : s.world.db.listDrivePairs = empty ++ pair::others)
    (no_files : ∀ other ∈ empty, s.world.db.idsOfPair other.id = [])
    (many_files : perPage < (s.world.db.idsOfPair pair.id).length) :
    ∃ requests t listed, PartialRuns clock requests s t ∧ t.pages = s.pages ++ listed ∧
      ¬Paging.Rotates (s.world.db.idsOfPair pair.id) listed := by
  have distinct := s.world.db.idsOfPair_nodup pair.id
  have monotone := readingsFrom_monotone clock s
  by_cases many : perPage * 1 < ((s.world.db.idsOfPair pair.id).filter
      (fun id => s.world.db.stamp id ≤ readingsFrom clock s (perPage * 1 - 1))).length
  · -- The whole of the files, in as many pages as they take.
    obtain ⟨m,pos,inside,whole⟩ : ∃ m, 0 < m ∧ perPage * (m - 1) < (s.world.db.idsOfPair pair.id).length ∧
        (s.world.db.idsOfPair pair.id).length ≤ perPage * m := by
      refine ⟨((s.world.db.idsOfPair pair.id).length + 99) / 100,?_,?_,?_⟩ <;> rw [perPage] at * <;> omega
    obtain ⟨prio,starves⟩ := Paging.not_rotates_of_many monotone distinct (by decide) (by simpa using many_files) many whole
    let tieBreak : Nat → Nat → Nat → Nat := fun _ page => prio (page - 1)
    obtain ⟨run,t,ran,stopped,_,pages,_⟩ := runSync_first clock false tieBreak "scheduled" idle split no_files pos inside
    exact ⟨[⟨stopAfter tieBreak (s.pages.length + m),false,"scheduled"⟩],t,_,⟨run,t,ran,stopped,rfl⟩,pages,starves⟩
  · obtain ⟨run,t,ran,stopped,same,pages,stamps⟩ := runSync_first clock false (fun _ _ _ => 0) "scheduled" idle split
      no_files (Nat.succ_pos 0) (by rw [Nat.sub_self,Nat.mul_zero]; exact Nat.zero_lt_of_lt many_files)
    obtain ⟨run',u,ran',stopped',_,pages',_⟩ := runSync_first clock false (fun _ _ _ => 0) "scheduled" same.idle
      (same.listDrivePairs.trans split) (fun other member => by rw [same.idsOfPair]; exact no_files other member)
      (Nat.succ_pos 0) (by rw [Nat.sub_self,Nat.mul_zero,same.idsOfPair]; exact Nat.zero_lt_of_lt many_files)
    have again := Paging.not_rotates_of_few monotone distinct (by decide) many_files
      (by rwa [Nat.mul_one,Nat.not_lt] at many) (fun _ => 0) (fun _ => 0)
    refine ⟨[⟨stopAfter (fun _ _ _ => 0) (s.pages.length + 1),false,"scheduled"⟩,
      ⟨stopAfter (fun _ _ _ => 0) (t.pages.length + 1),false,"scheduled"⟩],u,
      [Paging.page perPage 0 s.world.db.stamp (fun _ => 0) (s.world.db.idsOfPair pair.id),
        Paging.page perPage 0 t.world.db.stamp (fun _ => 0) (t.world.db.idsOfPair pair.id)],
      ⟨run,t,ran,stopped,run',u,ran',stopped',rfl⟩,?_,?_⟩
    · rw [pages',pages,List.append_assoc]
      rfl
    · rw [same.idsOfPair,stamps]
      exact again

omit [Blake3] in
theorem exists_first_pair {db : Db} (keys : db.ForeignKeys) {file : TrackedFile} (member : file ∈ db.trackedFiles.rows) :
    ∃ empty pair others, db.listDrivePairs = empty ++ pair::others ∧ (∀ other ∈ empty, db.idsOfPair other.id = []) ∧
      0 < (db.idsOfPair pair.id).length := by
  obtain ⟨parent,there⟩ := Option.isSome_iff_exists.mp (keys.filePair file member)
  have inside : file.id ∈ db.idsOfPair parent.id :=
    mem_idsOfPair.mpr (Db.members_iff.mpr ⟨file,db.trackedFiles.find?_of_mem member,(Table.find?_key there).symm⟩)
  cases found : db.listDrivePairs.find? (fun pair => !(db.idsOfPair pair.id).isEmpty) with
  | none =>
    have empty := List.find?_eq_none.mp found parent (Table.mem_of_find? there)
    simp only [Bool.not_eq_true,Bool.not_eq_false',List.isEmpty_iff] at empty
    rw [empty] at inside
    cases inside
  | some pair =>
    obtain ⟨filled,empty,others,split,none_before⟩ := List.find?_eq_some_iff_append.mp found
    refine ⟨empty,pair,others,split,fun other early => ?_,?_⟩
    · simpa using none_before other early
    · exact List.length_pos_iff.mpr (by simpa using filled)

/-- Sequences of unscoped runs that are each cut short never come back to a file while
another is left over, if and only if all files are of one pair and fit on one page. -/
theorem partialRuns_rotate_iff (clock : Clock) (s : RunWorld) (keys : s.world.db.ForeignKeys)
    (idle : s.world.db.getActiveIntegrityRun = none) :
    (∀ requests t listed, PartialRuns clock requests s t → t.pages = s.pages ++ listed →
      Paging.Rotates (s.world.db.trackedFiles.rows.map TrackedFile.id) listed) ↔
    ∃ pairId, (∀ file ∈ s.world.db.trackedFiles.rows, file.drivePairId = pairId) ∧
      s.world.db.trackedFiles.rows.length ≤ perPage := by
  constructor
  · intro rotates
    rcases List.eq_nil_or_concat s.world.db.trackedFiles.rows with none_tracked | ⟨_,file,files⟩
    · exact ⟨0,by simp [none_tracked],by simp [none_tracked]⟩
    · have member : file ∈ s.world.db.trackedFiles.rows := by simp [files]
      obtain ⟨empty,pair,others,split,no_files,some_file⟩ := exists_first_pair keys member
      have ofPair : ∀ file ∈ s.world.db.trackedFiles.rows, file.drivePairId = pair.id := by
        intro other tracked
        by_contra elsewhere
        obtain ⟨requests,t,listed,runs,pages,breaks⟩ := not_rotates_of_two_pairs clock idle split no_files some_file
          (Db.members_iff.mpr ⟨other,s.world.db.trackedFiles.find?_of_mem tracked,rfl⟩) elsewhere
        exact breaks (rotates requests t listed runs pages)
      have whole : s.world.db.idsOfPair pair.id = s.world.db.trackedFiles.rows.map TrackedFile.id := by
        rw [Db.idsOfPair,Db.listTrackedFilesOfPair,List.filter_eq_self.mpr fun other tracked => by simp [ofPair other tracked]]
      refine ⟨pair.id,ofPair,?_⟩
      by_contra more
      have many_files : perPage < (s.world.db.idsOfPair pair.id).length := by
        rw [whole,List.length_map]
        exact Nat.not_le.mp more
      obtain ⟨requests,t,listed,runs,pages,breaks⟩ := not_rotates_of_many_files clock idle split no_files many_files
      rw [whole] at breaks
      exact breaks (rotates requests t listed runs pages)
  · rintro ⟨pairId,ofPair,few⟩ requests t listed runs pages before page after split id now _ u tracked
    obtain ⟨shown,same,each⟩ := partialRuns_pages idle runs
    rw [pages] at same
    have this_one : IsPage s.world.db page := each page (by rw [← List.append_cancel_left same,split]; simp)
    exact .inr (isPage_whole ofPair few this_one now tracked)

end

theorem partialRuns_rotate_iff_unchecked :
    letI := sampleBlake3
    (∀ requests t listed, PartialRuns steadyClock requests (uncheckedWorld 3) t →
      t.pages = (uncheckedWorld 3).pages ++ listed →
        Paging.Rotates ((uncheckedDb 3).trackedFiles.rows.map TrackedFile.id) listed) ↔
    ∃ pairId, (∀ file ∈ (uncheckedDb 3).trackedFiles.rows, file.drivePairId = pairId) ∧
      (uncheckedDb 3).trackedFiles.rows.length ≤ perPage :=
  letI := sampleBlake3
  partialRuns_rotate_iff steadyClock (uncheckedWorld 3) (uncheckedDb_keys 3) rfl

/-- With 101 files of one pair a run over all of them, stopped at its end, has checked a
file twice and another not at all. -/
theorem partialRuns_come_back :
    ¬ ∀ (_ : Blake3) (clock : Clock) (s t : RunWorld) (requests : List RunRequest) (listed : List (List Nat)),
      s.world.db.ForeignKeys → s.world.db.getActiveIntegrityRun = none → PartialRuns clock requests s t →
      t.pages = s.pages ++ listed → Paging.Rotates (s.world.db.trackedFiles.rows.map TrackedFile.id) listed := by
  intro rotates
  let _ := sampleBlake3
  let s := uncheckedWorld (perPage + 1)
  obtain ⟨count,_⟩ := uncheckedDb_ids (perPage + 1)
  have whole : s.world.db.idsOfPair (photoPair 1).id = s.world.db.trackedFiles.rows.map TrackedFile.id := by
    have ofPair : ∀ file ∈ s.world.db.trackedFiles.rows, file.drivePairId = 1 := fun file tracked =>
      ((uncheckedFiles_rows (perPage + 1)).2 file tracked).1
    rw [Db.idsOfPair,Db.listTrackedFilesOfPair,List.filter_eq_self.mpr fun file tracked => by
      rw [ofPair file tracked]
      rfl]
  have split : s.world.db.listDrivePairs = [] ++ photoPair 1::[] := rfl
  have many_files : perPage < (s.world.db.idsOfPair (photoPair 1).id).length := by
    rw [show (s.world.db.idsOfPair (photoPair 1).id).length = perPage + 1 from count]
    exact Nat.lt_succ_self _
  obtain ⟨requests,t,listed,runs,pages,breaks⟩ := not_rotates_of_many_files steadyClock rfl split (by simp) many_files
  rw [whole] at breaks
  exact breaks (rotates sampleBlake3 steadyClock s t requests listed (uncheckedDb_keys _) rfl runs pages)

end BitProtector
