import BitProtector.IntegrityPaging

/-! Which files an undisturbed integrity run records. -/
namespace BitProtector
open Effect

/-- The foreign keys that the schema declares between these tables. -/
structure Db.ForeignKeys (db : Db) : Prop where
  resultRun : ∀ result ∈ db.integrityRunResults.rows, (db.integrityRuns.find? result.runId).isSome
  filePair : ∀ file ∈ db.trackedFiles.rows, (db.drivePairs.find? file.drivePairId).isSome

/-- No stop is requested and no deadline passes. -/
def RunEnv.Undisturbed (env : RunEnv) : Prop := ∀ listed, env.cut listed = false

theorem scopePairs_there {db : Db} {scope : Option Nat} {pairs : List DrivePair} (found : scopePairs db scope = .ok pairs) :
    ∀ pair ∈ pairs, (db.drivePairs.find? pair.id).isSome := by
  intro pair member
  rw [scopePairs_rows found pair member]
  rfl

theorem mem_idsOfPair {db : Db} {id pairId : Nat} : id ∈ db.idsOfPair pairId ↔ (id,pairId) ∈ db.members := by
  rw [Db.idsOfPair_eq]
  constructor
  · intro member
    obtain ⟨⟨_,_⟩,inside,rfl⟩ := List.mem_map.mp member
    obtain ⟨inside,same⟩ := List.mem_filter.mp inside
    rwa [← beq_iff_eq.mp same]
  · intro member
    exact List.mem_map.mpr ⟨_,List.mem_filter.mpr ⟨member,by simp⟩,rfl⟩

theorem pair_unique {db : Db} {id pairId other : Nat} (first : (id,pairId) ∈ db.members) (second : (id,other) ∈ db.members) :
    pairId = other := by
  obtain ⟨file,found,rfl⟩ := Db.members_iff.mp first
  obtain ⟨same,again,rfl⟩ := Db.members_iff.mp second
  rw [found] at again
  cases again
  rfl

theorem groups_perm {db : Db} (keys : db.ForeignKeys) {scope : Option Nat} {pairs : List DrivePair}
    (found : scopePairs db scope = .ok pairs) :
    ((groupsOf db pairs).map Prod.snd).flatten.Perm ((db.trackedFilesInScope scope).map TrackedFile.id) := by
  cases scope with
  | some pairId =>
    simp only [scopePairs,Db.getDrivePair] at found
    cases row : db.drivePairs.find? pairId with
    | none => simp [row,Except.map] at found
    | some there =>
      simp only [row,Except.map,Except.ok.injEq] at found
      subst found
      simp [groupsOf,Db.idsOfPair,Db.trackedFilesInScope,show there.id = pairId from Table.find?_key row]
  | none =>
    cases found
    have distinct : ((db.trackedFilesInScope none).map TrackedFile.id).Nodup :=
      List.pairwise_map.mpr (db.trackedFiles.ascending.imp Nat.ne_of_lt)
    refine (List.perm_ext_iff_of_nodup ?_ distinct).mpr fun id => ?_
    · refine List.nodup_flatten.mpr ⟨?_,?_⟩
      · intro ids member
        obtain ⟨_,inside,rfl⟩ := List.mem_map.mp member
        obtain ⟨pair,_,rfl⟩ := List.mem_map.mp inside
        exact db.idsOfPair_nodup pair.id
      · rw [List.pairwise_map,groupsOf,List.pairwise_map]
        refine db.drivePairs.ascending.imp fun {a b} less => ?_
        intro id ofA ofB
        exact Nat.ne_of_lt less (pair_unique (mem_idsOfPair.mp ofA) (mem_idsOfPair.mp ofB))
    · simp only [List.mem_flatten,groupsOf,List.map_map,List.mem_map]
      constructor
      · rintro ⟨_,⟨pair,_,rfl⟩,member⟩
        obtain ⟨file,row,_⟩ := Db.members_iff.mp (mem_idsOfPair.mp member)
        exact ⟨file,Table.mem_of_find? row,Table.find?_key row⟩
      · rintro ⟨file,member,rfl⟩
        obtain ⟨pair,there⟩ := Option.isSome_iff_exists.mp (keys.filePair file member)
        refine ⟨_,⟨pair,Table.mem_of_find? there,rfl⟩,mem_idsOfPair.mpr (Db.members_iff.mpr ⟨file,?_,?_⟩)⟩
        · exact db.trackedFiles.find?_of_mem member
        · exact (Table.find?_key there).symm

/-! A run from its row to its final status. -/

/-- The row with which a run starts. -/
def createdRun (db : Db) (scope : Option Nat) (recover : Bool) (trigger : String) : IntegrityRun :=
  ⟨db.integrityRuns.lastId + 1,scope,recover,trigger,.running,db.countTrackedFiles scope,0,0,0,0,false,none⟩

def startedRun (scope : Option Nat) (recover : Bool) (trigger : String) (s : RunWorld) : RunWorld :=
  s.withDb (s.world.db.createIntegrityRun scope recover trigger (s.world.db.countTrackedFiles scope)).2

theorem createIntegrityRun_of_scope {db : Db} {scope : Option Nat} {pairs : List DrivePair}
    (found : scopePairs db scope = .ok pairs) (recover : Bool) (trigger : String) :
    let created := db.createIntegrityRun scope recover trigger (db.countTrackedFiles scope)
    created.1 = .ok (createdRun db scope recover trigger) ∧
      SteadyRows (db.integrityRuns.lastId + 1) db created.2 ∧
      created.2.integrityRuns.find? (db.integrityRuns.lastId + 1) = some (createdRun db scope recover trigger) := by
  have there : scope.all (fun id => (db.drivePairs.find? id).isSome) = true := by
    cases scope with
    | none => rfl
    | some pairId =>
      simp only [scopePairs,Db.getDrivePair] at found
      cases row : db.drivePairs.find? pairId with
      | none => simp [row,Except.map] at found
      | some _ => simp [row]
  simp only [Db.createIntegrityRun,there,if_true]
  refine ⟨rfl,⟨rfl,rfl,rfl,rfl,fun id other => ?_⟩,?_⟩
  · rw [Table.find?_insert,if_neg other]
  · rw [Table.find?_insert,if_pos rfl]
    rfl

section
variable [Blake3] {env : RunEnv} {clock : Clock}

theorem processRun_finishes {runId : Nat} {recover : Bool} {s t : RunWorld} {run : IntegrityRun} {pairs : List DrivePair}
    (row : s.world.db.integrityRuns.find? runId = some run)
    (found : scopePairs s.world.db run.scopeDrivePairId = .ok pairs)
    (ran : processPairs env clock runId recover pairs s = .ok false t) (recovers : run.recover = recover)
    (running : t.world.db.stopFlag runId = some false) :
    ∃ u, processRun env clock runId s = .ok () u ∧
      Ended runId (if env.stopRequested t.pages.length then .stopped else .completed) t u := by
  subst recovers
  have current : s.world.db.getIntegrityRun runId = .ok run := by rw [Db.getIntegrityRun,row]
  have steps : processRun env clock runId s = (outsideStop env runId >>= fun _ => do
      let finalState ← onWorld (Act.query (fun db => db.getIntegrityRun runId))
      onWorld (Act.execute (fun db =>
        db.finishIntegrityRun runId (if finalState.stopRequested then .stopped else .completed) none))) t := by
    rw [processRun,bind_of_ok (onWorld_query current),bind_of_ok (onWorld_query found),
      bind_of_ok ran]
    rfl
  rw [steps]
  obtain ⟨now,there,flag⟩ := Db.stopFlag_some running
  cases asked : env.stopRequested t.pages.length with
  | false =>
    have final : t.world.db.getIntegrityRun runId = .ok now := by rw [Db.getIntegrityRun,there]
    refine ⟨_,?_,ended_finish (.refl _ _) rfl rfl .completed none (by rw [there]; rfl)⟩
    rw [bind_of_ok (outsideStop_quiet asked),bind_of_ok (onWorld_query final),flag]
    rfl
  | true =>
    let requested := t.withDb (t.world.db.requestIntegrityRunStop runId)
    obtain ⟨last,found,stop⟩ : ∃ last, requested.world.db.integrityRuns.find? runId = some last ∧ last.stopRequested = true := by
      refine ⟨_,(Db.find?_updateIntegrityRun _ _ _ _).trans (by rw [there]; rfl),rfl⟩
    have final : requested.world.db.getIntegrityRun runId = .ok last := by rw [Db.getIntegrityRun,found]
    have asks : outsideStop env runId t = .ok () requested := by
      rw [outsideStop,bind_of_ok (show pagesListed t = .ok t.pages.length t from rfl),asked]
      rfl
    refine ⟨_,?_,ended_finish (s := t) (t := requested) (.updateIntegrityRun _ _ _ _) rfl rfl .stopped none
      (by rw [found]; rfl)⟩
    rw [bind_of_ok asks,bind_of_ok (onWorld_query final),stop]
    rfl

theorem processRun_stopped {runId : Nat} {recover : Bool} {s t : RunWorld} {run : IntegrityRun} {pairs : List DrivePair}
    (row : s.world.db.integrityRuns.find? runId = some run)
    (found : scopePairs s.world.db run.scopeDrivePairId = .ok pairs)
    (ran : processPairs env clock runId recover pairs s = .ok true t) (recovers : run.recover = recover) :
    processRun env clock runId s = .ok () t := by
  subst recovers
  have current : s.world.db.getIntegrityRun runId = .ok run := by rw [Db.getIntegrityRun,row]
  rw [processRun,bind_of_ok (onWorld_query current),bind_of_ok (onWorld_query found),bind_of_ok ran]
  rfl

/-- With no other run under way, the run is created, and what is left of the call is its processing. -/
theorem runSync_created {scope : Option Nat} (recover : Bool) (trigger : String) {s : RunWorld} {pairs : List DrivePair}
    (idle : s.world.db.getActiveIntegrityRun = none) (found : scopePairs s.world.db scope = .ok pairs) :
    runSync env clock scope recover trigger s = (do
      match ← attempt (processRun env clock (s.world.db.integrityRuns.lastId + 1)) with
      | .error message =>
        onWorld (Act.execute (fun db =>
          db.finishIntegrityRun (s.world.db.integrityRuns.lastId + 1) .failed (some message)))
        throw message
      | .ok () => onWorld (Act.query (fun db => db.getIntegrityRun (s.world.db.integrityRuns.lastId + 1))) :
        RunAct IntegrityRun) (startedRun scope recover trigger s) := by
  obtain ⟨created,_,_⟩ := createIntegrityRun_of_scope found recover trigger
  have inserted : onWorld (Act.insertOrFail (fun db =>
      db.createIntegrityRun scope recover trigger (s.world.db.countTrackedFiles scope))) s =
        .ok (createdRun s.world.db scope recover trigger) (startedRun scope recover trigger s) := by
    rw [onWorld,Act.insertOrFail,created]
    rfl
  have active : onWorld (Act.query (fun db => .ok db.getActiveIntegrityRun)) s = .ok none s := by
    simp only [onWorld,Act.query,idle]
  have free : onWorld (Act.ensure (none : Option IntegrityRun).isNone "Another integrity run is already active") s =
      .ok () s := rfl
  have total : onWorld (Act.query (fun db => .ok (db.countTrackedFiles scope))) s =
      .ok (s.world.db.countTrackedFiles scope) s := rfl
  rw [runSync,bind_of_ok active,bind_of_ok free,bind_of_ok total,bind_of_ok inserted]
  rfl

theorem runSync_ends {scope : Option Nat} {recover : Bool} {trigger : String} {s middle t : RunWorld}
    {pairs : List DrivePair} {status : RunStatus} (idle : s.world.db.getActiveIntegrityRun = none)
    (found : scopePairs s.world.db scope = .ok pairs)
    (ran : processRun env clock (s.world.db.integrityRuns.lastId + 1) (startedRun scope recover trigger s) = .ok () t)
    (ended : Ended (s.world.db.integrityRuns.lastId + 1) status middle t) :
    ∃ run, runSync env clock scope recover trigger s = .ok run t ∧ run.status = status ∧
      run.id = s.world.db.integrityRuns.lastId + 1 := by
  obtain ⟨run,row,status_eq⟩ := Option.map_eq_some_iff.mp ended.status
  have last : t.world.db.getIntegrityRun (s.world.db.integrityRuns.lastId + 1) = .ok run := by
    rw [Db.getIntegrityRun,row]
  refine ⟨run,?_,status_eq,Table.find?_key row⟩
  rw [runSync_created recover trigger idle found,bind_of_ok (attempt_of_ok ran)]
  exact onWorld_query last

theorem runSync_undisturbed {scope : Option Nat} (recover : Bool) (trigger : String) {s : RunWorld} {pairs : List DrivePair}
    (keys : s.world.db.ForeignKeys) (idle : s.world.db.getActiveIntegrityRun = none)
    (found : scopePairs s.world.db scope = .ok pairs) (undisturbed : env.Undisturbed) :
    ∃ run t, runSync env clock scope recover trigger s = .ok run t ∧ run.status = .completed ∧
      t.world.db.recordedFiles run.id = sweepFrom env clock pairs s := by
  obtain ⟨_,steady,row⟩ := createIntegrityRun_of_scope found recover trigger
  let runId := s.world.db.integrityRuns.lastId + 1
  let started := startedRun scope recover trigger s
  have running : started.world.db.stopFlag runId = some false := by
    rw [Db.stopFlag,show started.world.db.integrityRuns.find? runId = _ from row]
    rfl
  have again : scopePairs started.world.db scope = .ok pairs := by
    rw [← found]
    cases scope with
    | none => exact congrArg (fun table => Except.ok (Table.rows table)) steady.pairs
    | some pairId => simp only [scopePairs,Db.getDrivePair,show started.world.db.drivePairs = _ from steady.pairs]
  have there : ∀ pair ∈ pairs, (started.world.db.drivePairs.find? pair.id).isSome := by
    rw [show started.world.db.drivePairs = _ from steady.pairs]
    exact scopePairs_there found
  obtain ⟨t,ran,recorded⟩ : ∃ t, processPairs env clock runId recover pairs started = .ok false t ∧
      Recorded clock runId (sweepFrom env clock pairs started) started t :=
    processPairs_uncut undisturbed pairs running there
  obtain ⟨u,finished,ended⟩ := processRun_finishes row again ran rfl (recorded.stopFlag.trans running)
  obtain ⟨run,done,status,id⟩ := runSync_ends idle found finished ended
  refine ⟨run,u,done,?_,?_⟩
  · rw [status,(Bool.or_eq_false_iff.mp (undisturbed _)).1]
    rfl
  · -- No earlier result can carry the id of the new run.
    have fresh : s.world.db.recordedFiles runId = [] := by
      refine List.map_eq_nil_iff.mpr (List.filter_eq_nil_iff.mpr fun result member same => ?_)
      obtain ⟨parent,there⟩ := Option.isSome_iff_exists.mp (keys.resultRun result member)
      have bound := s.world.db.integrityRuns.bounded parent (Table.mem_of_find? there)
      rw [Table.find?_key there,beq_iff_eq.mp same] at bound
      exact absurd bound (Nat.not_succ_le_self _)
    rw [id,ended.rows.recorded,recorded.recorded,show started.world.db.recordedFiles runId = _ from steady.recorded,
      fresh,List.nil_append,sweepFrom,sweepFrom,groupsOf,groupsOf]
    simp only [Db.idsOfPair_eq,show started.world.db.members = _ from steady.members,
      show started.world.db.stamp = _ from steady.stamps]
    rfl

omit [Blake3] in
theorem ids_nodup (db : Db) (scope : Option Nat) : ((db.trackedFilesInScope scope).map TrackedFile.id).Nodup := by
  refine List.pairwise_map.mpr (List.Pairwise.imp Nat.ne_of_lt ?_)
  cases scope with
  | none => exact db.trackedFiles.ascending
  | some pairId => exact db.trackedFiles.ascending.filter _

omit [Blake3] in
theorem readingsFrom_monotone (clock : Clock) (s : RunWorld) : Monotone (readingsFrom clock s) := fun _ _ le =>
  WithBot.coe_le_coe.mpr (clock.monotone (Nat.add_le_add_left le _))

/-- Nothing disturbs the run, and files of one time come in this order. -/
def quietEnv (tieBreak : Nat → Nat → Nat → Nat) : RunEnv where
  io _ := Io.healthy
  mmapThresholdBytes := 0
  cfg := ⟨2,2⟩
  tieBreak := tieBreak
  deadlinePassed _ := false
  stopRequested _ := false

/-- An undisturbed run completes. It records every file of its scope exactly once and no
other, however files of one time are ordered, if and only if the clock passes too many
times of no pair's files before a page of that pair is listed. -/
theorem integrityRun_covers_iff (clock : Clock) (scope : Option Nat) (recover : Bool) (trigger : String) (s : RunWorld)
    (pairs : List DrivePair) (keys : s.world.db.ForeignKeys) (idle : s.world.db.getActiveIntegrityRun = none)
    (found : scopePairs s.world.db scope = .ok pairs) :
    (∀ env : RunEnv, env.Undisturbed → ∃ run t, runSync env clock scope recover trigger s = .ok run t ∧
      run.status = .completed) ∧
    ((∀ env : RunEnv, env.Undisturbed → ∀ run t, runSync env clock scope recover trigger s = .ok run t →
        run.status = .completed →
          (t.world.db.recordedFiles run.id).Perm ((s.world.db.trackedFilesInScope scope).map TrackedFile.id)) ↔
      Paging.AllFewPassed perPage s.world.db.stamp ((groupsOf s.world.db pairs).map Prod.snd) (readingsFrom clock s)) := by
  have perm := groups_perm keys found
  have distinct : ((groupsOf s.world.db pairs).map Prod.snd).flatten.Nodup := perm.nodup_iff.mpr (ids_nodup _ _)
  constructor
  · intro env undisturbed
    obtain ⟨run,t,ran,completed,_⟩ := runSync_undisturbed recover trigger keys idle found undisturbed
    exact ⟨run,t,ran,completed⟩
  · rw [← Paging.sweep_covers_iff (readingsFrom_monotone clock s) (by decide) distinct]
    constructor
    · intro covers prio
      let env := quietEnv (fun pairId page => prio pairId (page - 1))
      have undisturbed : env.Undisturbed := fun _ => rfl
      obtain ⟨run,t,ran,completed,recorded⟩ := runSync_undisturbed recover trigger keys idle found undisturbed
      have all := covers env undisturbed run t ran completed
      rw [recorded] at all
      exact all.trans perm.symm
    · intro covers env undisturbed run t ran _
      obtain ⟨_,_,again,_,recorded⟩ := runSync_undisturbed recover trigger keys idle found undisturbed
      rw [ran] at again
      cases again
      rw [recorded]
      exact (covers _).trans perm

end

theorem sweepFrom_single (env : RunEnv) (clock : Clock) (pair : DrivePair) (s : RunWorld) :
    sweepFrom env clock [pair] s = (pagedFrom env clock pair.id s (s.world.db.idsOfPair pair.id).length).log := by
  simp only [sweepFrom,groupsOf,List.map_cons,List.map_nil,Paging.sweep,List.append_nil]
  rfl

/-! One file more than a page holds, none of them checked before. -/

def photoPair (id : Nat) : DrivePair := ⟨id,"/primary","/secondary",.active,.active,.primary,.hdd,.hdd⟩

def uncheckedFile (id : Nat) : TrackedFile := ⟨id,1,s!"photos/{id}",sampleBlake3.toHex [2],1,none,true,true,false,none⟩

theorem key_uncheckedFile (id : Nat) : Keyed.key (uncheckedFile id) = id := rfl

def uncheckedFiles : Nat → Table TrackedFile
  | 0 => .empty
  | n + 1 => (uncheckedFiles n).insert uncheckedFile key_uncheckedFile

def uncheckedDb (n : Nat) : Db :=
  { Db.empty with
    drivePairs := Table.empty.insert photoPair (fun _ => rfl)
    trackedFiles := uncheckedFiles n }

def uncheckedWorld (n : Nat) : RunWorld := ⟨⟨uncheckedDb n,⟨fun _ => none,fun _ => true⟩⟩,0,[]⟩

theorem uncheckedFiles_rows (n : Nat) : (uncheckedFiles n).rows.length = n ∧
    ∀ file ∈ (uncheckedFiles n).rows, file.drivePairId = 1 ∧ file.lastIntegrityCheckAt = none := by
  induction n with
  | zero => exact ⟨rfl,fun _ member => absurd member List.not_mem_nil⟩
  | succ n ih =>
    rw [uncheckedFiles,Table.insert_rows,List.length_append,ih.1]
    refine ⟨rfl,fun file member => ?_⟩
    rcases List.mem_append.mp member with old | new
    · exact ih.2 file old
    · rw [List.mem_singleton.mp new]
      exact ⟨rfl,rfl⟩

theorem uncheckedDb_keys (n : Nat) : (uncheckedDb n).ForeignKeys := by
  constructor
  · intro result member
    exact absurd member List.not_mem_nil
  · intro file member
    have ofPair : file.drivePairId = 1 := ((uncheckedFiles_rows n).2 file member).1
    rw [ofPair]
    rfl

theorem uncheckedDb_ids (n : Nat) : ((uncheckedDb n).idsOfPair 1).length = n ∧
    ∀ id, (uncheckedDb n).stamp id = ⊥ := by
  obtain ⟨count,rows⟩ := uncheckedFiles_rows n
  constructor
  · have all : (uncheckedDb n).listTrackedFilesOfPair 1 = (uncheckedFiles n).rows :=
      List.filter_eq_self.mpr fun file member => by rw [(rows file member).1]; rfl
    rw [Db.idsOfPair,List.length_map,all,count]
  · intro id
    cases found : (uncheckedFiles n).find? id with
    | none => rw [Db.stamp,show (uncheckedDb n).trackedFiles.find? id = none from found]; rfl
    | some file =>
      have unchecked := (rows file (Table.mem_of_find? found)).2
      rw [Db.stamp,show (uncheckedDb n).trackedFiles.find? id = some file from found]
      simp only [Option.map_some,Option.getD_some,Db.checkedAt,unchecked]

def steadyClock : Clock := ⟨fun _ => 1000,fun _ _ _ => le_refl _⟩

theorem integrityRun_covers_iff_unchecked :
    letI := sampleBlake3
    (∀ env : RunEnv, env.Undisturbed → ∃ run t,
        runSync env steadyClock none true "scheduled" (uncheckedWorld 3) = .ok run t ∧ run.status = .completed) ∧
    ((∀ env : RunEnv, env.Undisturbed → ∀ run t,
        runSync env steadyClock none true "scheduled" (uncheckedWorld 3) = .ok run t → run.status = .completed →
          (t.world.db.recordedFiles run.id).Perm (((uncheckedDb 3).trackedFilesInScope none).map TrackedFile.id)) ↔
      Paging.AllFewPassed perPage (uncheckedDb 3).stamp
        ((groupsOf (uncheckedDb 3) [photoPair 1]).map Prod.snd) (readingsFrom steadyClock (uncheckedWorld 3))) :=
  letI := sampleBlake3
  integrityRun_covers_iff steadyClock none true "scheduled" (uncheckedWorld 3) [photoPair 1] (uncheckedDb_keys 3) rfl rfl

/-- A file beyond the first page is left out, whichever way files of one time are ordered. -/
theorem uncheckedWorld_left_out (env : RunEnv) :
    ∃ id ∈ (uncheckedDb (perPage + 1)).idsOfPair 1,
      id ∉ sweepFrom env steadyClock [photoPair 1] (uncheckedWorld (perPage + 1)) := by
  obtain ⟨count,null⟩ := uncheckedDb_ids (perPage + 1)
  have low : ∀ id ∈ (uncheckedDb (perPage + 1)).idsOfPair 1, ∀ j,
      (uncheckedDb (perPage + 1)).stamp id < readingsFrom steadyClock (uncheckedWorld (perPage + 1)) j := by
    intro id _ j
    rw [null]
    exact WithBot.bot_lt_coe _
  obtain ⟨id,member,missed⟩ := Paging.exists_left_out (fun k => env.tieBreak 1 (k + 1))
    ((uncheckedDb (perPage + 1)).idsOfPair_nodup 1) (by decide) count low
  refine ⟨id,member,?_⟩
  rw [sweepFrom_single]
  exact missed _

/-- Of 101 files that were never checked a run records 100, and some of these again. -/
theorem integrityRun_misses_file :
    ¬ ∀ (_ : Blake3) (env : RunEnv) (clock : Clock) (scope : Option Nat) (recover : Bool) (trigger : String)
      (s t : RunWorld) (run : IntegrityRun), s.world.db.ForeignKeys → s.world.db.getActiveIntegrityRun = none →
      env.Undisturbed → runSync env clock scope recover trigger s = .ok run t → run.status = .completed →
        (t.world.db.recordedFiles run.id).Perm ((s.world.db.trackedFilesInScope scope).map TrackedFile.id) := by
  intro covers
  let _ := sampleBlake3
  let env := quietEnv (fun _ _ id => id)
  let s := uncheckedWorld (perPage + 1)
  have keys : s.world.db.ForeignKeys := uncheckedDb_keys (perPage + 1)
  have undisturbed : env.Undisturbed := fun _ => rfl
  have found : scopePairs s.world.db (some 1) = .ok [photoPair 1] := rfl
  obtain ⟨run,t,ran,completed,recorded⟩ := runSync_undisturbed false "manual" keys rfl found undisturbed
  have all := covers sampleBlake3 env steadyClock (some 1) false "manual" s t run keys rfl undisturbed ran completed
  obtain ⟨id,member,missed⟩ := uncheckedWorld_left_out env
  rw [recorded] at all
  exact missed (all.symm.subset member)

end BitProtector
