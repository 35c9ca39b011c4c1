import BitProtector.IntegrityRuns

/-! What a whole integrity run records: the paging of each pair's files, as the code
does it on rows, is the paging of a list by offset over the keys that it replaces. -/
namespace BitProtector
open Effect

namespace Db

def members (db : Db) : List (Nat × Nat) := db.trackedFiles.rows.map (fun file => (file.id,file.drivePairId))

def idsOfPair (db : Db) (pairId : Nat) : List Nat := (db.listTrackedFilesOfPair pairId).map TrackedFile.id

/-- The time of a file's last check, by the file's id. -/
def stamp (db : Db) (id : Nat) : WithBot Nat := ((db.trackedFiles.find? id).map checkedAt).getD ⊥

/-- The files of a run's results, in the order in which they were recorded. -/
def recordedFiles (db : Db) (runId : Nat) : List Nat :=
  (db.integrityRunResults.rows.filter (fun result => result.runId == runId)).map IntegrityRunResult.fileId

def stopFlag (db : Db) (runId : Nat) : Option Bool := (db.integrityRuns.find? runId).map IntegrityRun.stopRequested

theorem idsOfPair_eq (db : Db) (pairId : Nat) :
    db.idsOfPair pairId = (db.members.filter (fun member => member.2 == pairId)).map Prod.fst := by
  simp only [idsOfPair,listTrackedFilesOfPair,members,List.filter_map,List.map_map]
  rfl

theorem idsOfPair_nodup (db : Db) (pairId : Nat) : (db.idsOfPair pairId).Nodup := by
  have ascending : (db.listTrackedFilesOfPair pairId).Pairwise (fun a b => a.id < b.id) := db.trackedFiles.ascending.filter _
  exact List.pairwise_map.mpr (ascending.imp Nat.ne_of_lt)

theorem stamp_of_mem {db : Db} {file : TrackedFile} (member : file ∈ db.trackedFiles.rows) :
    db.stamp file.id = checkedAt file := by
  rw [stamp,show db.trackedFiles.find? file.id = some file from db.trackedFiles.find?_of_mem member]
  rfl

theorem members_iff {db : Db} {id pairId : Nat} :
    (id,pairId) ∈ db.members ↔ ∃ file, db.trackedFiles.find? id = some file ∧ file.drivePairId = pairId := by
  simp only [members,List.mem_map,Prod.mk.injEq]
  constructor
  · rintro ⟨file,member,rfl,rfl⟩
    exact ⟨file,db.trackedFiles.find?_of_mem member,rfl⟩
  · rintro ⟨file,found,rfl⟩
    exact ⟨file,Table.mem_of_find? found,Table.find?_key found,rfl⟩

theorem members_updateTrackedFile (db : Db) (id : Nat) (change keepsId)
    (keepsPair : ∀ file : TrackedFile, (change file).drivePairId = file.drivePairId) :
    (db.updateTrackedFile id change keepsId).members = db.members := by
  simp only [members,updateTrackedFile,Table.updateWhere_rows,List.map_map]
  congr 1
  funext file
  by_cases hit : file.id = id <;> simp [hit,keepsId,keepsPair]

theorem stamp_updateTrackedFile_of_kept (db : Db) (id : Nat) (change keepsId)
    (keeps : ∀ file : TrackedFile, checkedAt (change file) = checkedAt file) :
    (db.updateTrackedFile id change keepsId).stamp = db.stamp := by
  funext other
  simp only [stamp,find?_updateTrackedFile,Option.map_map]
  congr 2
  funext file
  by_cases hit : other = id <;> simp [hit,keeps]

theorem stamp_updateTrackedFileLastIntegrityCheckAt {db : Db} {id pairId : Nat} (now : Nat)
    (tracked : (id,pairId) ∈ db.members) :
    (db.updateTrackedFileLastIntegrityCheckAt id now).stamp = Function.update db.stamp id (WithBot.some now) := by
  obtain ⟨file,found,_⟩ := members_iff.mp tracked
  funext other
  simp only [stamp,updateTrackedFileLastIntegrityCheckAt,find?_updateTrackedFile]
  by_cases hit : other = id
  · subst hit
    simp [found,checkedAt]
  · simp [hit,Function.update_of_ne,stamp]

theorem stopFlag_updateIntegrityRun_of_kept (db : Db) (id runId : Nat) (change keepsId)
    (keeps : ∀ run : IntegrityRun, (change run).stopRequested = run.stopRequested) :
    (db.updateIntegrityRun id change keepsId).stopFlag runId = db.stopFlag runId := by
  rw [stopFlag,updateIntegrityRun,Table.find?_updateWhere,Option.map_map,stopFlag]
  congr 1
  funext run
  by_cases hit : (run.id == id) = true <;> simp only [Function.comp,hit,if_true,keeps]
  rfl

theorem find?_updateIntegrityRun (db : Db) (id : Nat) (change keepsId) :
    (db.updateIntegrityRun id change keepsId).integrityRuns.find? id = (db.integrityRuns.find? id).map change := by
  rw [updateIntegrityRun,Table.find?_updateWhere]
  cases found : db.integrityRuns.find? id with
  | none => rfl
  | some run =>
    have same : run.id = id := Table.find?_key found
    simp [same]

theorem stopFlag_some {db : Db} {runId : Nat} {flag : Bool} (flagged : db.stopFlag runId = some flag) :
    ∃ run, db.integrityRuns.find? runId = some run ∧ run.stopRequested = flag := Option.map_eq_some_iff.mp flagged

theorem listPage_ids (db : Db) (tieBreak : Nat → Nat) (pairId page perPage : Nat) :
    (db.listTrackedFilesOldestIntegrityFirst tieBreak (some pairId) page perPage).map TrackedFile.id =
      Paging.page perPage (page - 1) db.stamp tieBreak (db.idsOfPair pairId) := by
  have sorted : (Paging.ordered checkedAt (fun file => tieBreak file.id) (db.listTrackedFilesOfPair pairId)).map TrackedFile.id =
      Paging.ordered db.stamp tieBreak (db.idsOfPair pairId) := by
    refine List.map_insertionSort _ _ _ _ fun a ha b hb => ?_
    rw [Paging.Before,Paging.Before,stamp_of_mem (List.mem_filter.mp ha).1,stamp_of_mem (List.mem_filter.mp hb).1]
  simp only [listTrackedFilesOldestIntegrityFirst,trackedFilesInScope,Paging.page,List.map_take,List.map_drop,sorted]

theorem listPage_subset (db : Db) (tieBreak : Nat → Nat) (pairId page perPage : Nat) {file : TrackedFile}
    (listed : file ∈ db.listTrackedFilesOldestIntegrityFirst tieBreak (some pairId) page perPage) :
    (file.id,pairId) ∈ db.members ∧ file.drivePairId = pairId := by
  obtain ⟨member,same⟩ := List.mem_filter.mp (Paging.page_subset listed)
  have same : file.drivePairId = pairId := by simpa using same
  exact ⟨members_iff.mpr ⟨file,db.trackedFiles.find?_of_mem member,same⟩,same⟩

end Db

/-- Nothing that a run goes by has changed, the row of the run itself apart. -/
structure SteadyRows (runId : Nat) (db next : Db) : Prop where
  pairs : next.drivePairs = db.drivePairs
  members : next.members = db.members
  stamps : next.stamp = db.stamp
  recorded : next.recordedFiles runId = db.recordedFiles runId
  otherRuns : ∀ id, id ≠ runId → next.integrityRuns.find? id = db.integrityRuns.find? id

namespace SteadyRows

theorem refl (runId : Nat) (db : Db) : SteadyRows runId db db := ⟨rfl,rfl,rfl,rfl,fun _ _ => rfl⟩

theorem trans {runId : Nat} {a b c : Db} (ab : SteadyRows runId a b) (bc : SteadyRows runId b c) :
    SteadyRows runId a c where
  pairs := bc.pairs.trans ab.pairs
  members := bc.members.trans ab.members
  stamps := bc.stamps.trans ab.stamps
  recorded := bc.recorded.trans ab.recorded
  otherRuns id other := (bc.otherRuns id other).trans (ab.otherRuns id other)

theorem updateIntegrityRun (db : Db) (runId : Nat) (change keepsId) :
    SteadyRows runId db (db.updateIntegrityRun runId change keepsId) where
  pairs := rfl
  members := rfl
  stamps := rfl
  recorded := rfl
  otherRuns id other := by
    rw [Db.updateIntegrityRun,Table.find?_updateWhere]
    cases found : db.integrityRuns.find? id with
    | none => rfl
    | some run =>
      have same : run.id = id := Table.find?_key found
      simp [same,other]

theorem updateTrackedFileMirrorStatus (runId : Nat) (db : Db) (id : Nat) (isMirrored : Bool) :
    SteadyRows runId db (db.updateTrackedFileMirrorStatus id isMirrored) where
  pairs := rfl
  members := Db.members_updateTrackedFile _ _ _ _ fun _ => rfl
  stamps := Db.stamp_updateTrackedFile_of_kept _ _ _ _ fun _ => rfl
  recorded := rfl
  otherRuns _ _ := rfl

end SteadyRows

/-- From `s` to `t` the run has recorded these files, at as many readings of the clock. -/
structure Recorded (clock : Clock) (runId : Nat) (files : List Nat) (s t : RunWorld) : Prop where
  pairs : t.world.db.drivePairs = s.world.db.drivePairs
  members : t.world.db.members = s.world.db.members
  stamps : t.world.db.stamp =
    (Paging.touchAll (fun i => WithBot.some (clock.now (s.readings + i))) ⟨s.world.db.stamp,[]⟩ files).key
  readings : t.readings = s.readings + files.length
  recorded : t.world.db.recordedFiles runId = s.world.db.recordedFiles runId ++ files
  otherRuns : ∀ id, id ≠ runId → t.world.db.integrityRuns.find? id = s.world.db.integrityRuns.find? id
  stopFlag : t.world.db.stopFlag runId = s.world.db.stopFlag runId

namespace Recorded

variable {clock : Clock} {runId : Nat}

theorem of_steady {s t : RunWorld} (steady : SteadyRows runId s.world.db t.world.db) (readings : t.readings = s.readings)
    (stopFlag : t.world.db.stopFlag runId = s.world.db.stopFlag runId) : Recorded clock runId [] s t :=
  ⟨steady.pairs,steady.members,steady.stamps,readings,by rw [steady.recorded,List.append_nil],steady.otherRuns,stopFlag⟩

theorem trans {first second : List Nat} {s t u : RunWorld} (st : Recorded clock runId first s t)
    (tu : Recorded clock runId second t u) : Recorded clock runId (first ++ second) s u where
  pairs := tu.pairs.trans st.pairs
  members := tu.members.trans st.members
  stamps := by
    rw [tu.stamps,Paging.touchAll_append]
    funext id
    refine Paging.touchAll_key_congr (by rw [st.stamps]) (fun i => ?_) second
    rw [Paging.touchAll_log,st.readings]
    simp [Nat.add_assoc]
  readings := by rw [tu.readings,st.readings,List.length_append,Nat.add_assoc]
  recorded := by rw [tu.recorded,st.recorded,List.append_assoc]
  otherRuns id other := (tu.otherRuns id other).trans (st.otherRuns id other)
  stopFlag := tu.stopFlag.trans st.stopFlag

end Recorded

/-! One statement after the other. -/

def RunWorld.withDb (s : RunWorld) (db : Db) : RunWorld := { s with world := { s.world with db } }

theorem onWorld_of_ok {α : Type} {x : Act α} {s : RunWorld} {a : α} {t : World} (ok : x s.world = .ok a t) :
    onWorld x s = .ok a { s with world := t } := by
  rw [onWorld,ok]

@[simp] theorem onWorld_execute (update : Db → Db) (s : RunWorld) :
    onWorld (Act.execute update) s = .ok () (s.withDb (update s.world.db)) := rfl

theorem onWorld_query {α : Type} {read : Db → Except String α} {s : RunWorld} {a : α}
    (found : read s.world.db = .ok a) : onWorld (Act.query read) s = .ok a s := by
  rw [onWorld,Act.query,found]

theorem insertIntegrityRunResult_of_rows {db : Db} {runId fileId drivePairId : Nat} (relativePath status : String)
    (recovered needsAttention : Bool) (run : (db.integrityRuns.find? runId).isSome)
    (tracked : (db.trackedFiles.find? fileId).isSome) (pair : (db.drivePairs.find? drivePairId).isSome) :
    ∃ table resultId row, db.insertIntegrityRunResult runId fileId drivePairId relativePath status recovered needsAttention =
        (.ok resultId,{ db with integrityRunResults := table }) ∧
      (table.find? resultId = some row ∧ row.fileId = fileId ∧ row.runId = runId) ∧
      ({ db with integrityRunResults := table } : Db).recordedFiles runId = db.recordedFiles runId ++ [fileId] ∧
      ∀ id other, db.integrityRunResults.find? id = some other → table.find? id = some other := by
  let row : Nat → IntegrityRunResult := fun id =>
    ⟨id,runId,fileId,drivePairId,relativePath,status,recovered,needsAttention⟩
  let table := db.integrityRunResults.insert row (fun _ => rfl)
  refine ⟨table,db.integrityRunResults.lastId + 1,row (db.integrityRunResults.lastId + 1),?_,⟨?_,rfl,rfl⟩,?_,?_⟩
  · simp only [Db.insertIntegrityRunResult,run,tracked,pair,Bool.and_self,if_true]
    rfl
  · rw [Table.find?_insert,if_pos rfl]
  · simp [Db.recordedFiles,table,row,List.filter_append]
  · intro id other found
    have bound := db.integrityRunResults.bounded other (Table.mem_of_find? found)
    rw [Table.find?_key found] at bound
    rw [Table.find?_insert,if_neg (by omega),found]

theorem appendIntegrityRunResult_of_rows {runId : Nat} {file : TrackedFile} {w : World} (status : String)
    (recovered needsAttention : Bool) (run : (w.db.integrityRuns.find? runId).isSome)
    (tracked : (w.db.trackedFiles.find? file.id).isSome) (pair : (w.db.drivePairs.find? file.drivePairId).isSome) :
    ∃ row table, appendIntegrityRunResult runId file status recovered needsAttention w =
        .ok row { w with db := { w.db with integrityRunResults := table } } ∧
      ({ w.db with integrityRunResults := table } : Db).recordedFiles runId = w.db.recordedFiles runId ++ [file.id] := by
  obtain ⟨table,resultId,row,stored,⟨found,_⟩,results,_⟩ := insertIntegrityRunResult_of_rows file.relativePath status
    recovered needsAttention run tracked pair
  have readBack : ({ w.db with integrityRunResults := table } : Db).getIntegrityRunResult resultId = .ok row := by
    simp only [Db.getIntegrityRunResult,found]
  have inserted : Act.insertOrFail (fun db => db.insertIntegrityRunResult runId file.id file.drivePairId
      file.relativePath status recovered needsAttention) w =
        .ok resultId { w with db := { w.db with integrityRunResults := table } } := by
    rw [Act.insertOrFail,stored]
  exact ⟨row,table,by rw [appendIntegrityRunResult,bind_of_ok inserted,Act.query,readBack],results⟩

/-- Where a run can record a file: its row, the file's and the pair's are there. -/
structure Recordable (runId fileId pairId : Nat) (s : RunWorld) : Prop where
  run : (s.world.db.stopFlag runId).isSome
  tracked : (fileId,pairId) ∈ s.world.db.members
  pair : (s.world.db.drivePairs.find? pairId).isSome

theorem Recordable.after {clock : Clock} {runId fileId pairId : Nat} {files : List Nat} {s t : RunWorld}
    (recordable : Recordable runId fileId pairId s) (recorded : Recorded clock runId files s t) :
    Recordable runId fileId pairId t where
  run := by rw [recorded.stopFlag]; exact recordable.run
  tracked := by rw [recorded.members]; exact recordable.tracked
  pair := by rw [recorded.pairs]; exact recordable.pair

theorem recordResult_records (clock : Clock) {runId : Nat} {file : TrackedFile} {s : RunWorld} (status : String)
    (recovered needsAttention : Bool) (recordable : Recordable runId file.id file.drivePairId s) :
    ∃ t, recordResult clock runId file status recovered needsAttention s = .ok () t ∧
      Recorded clock runId [file.id] s t ∧ t.pages = s.pages := by
  let stamped := s.world.db.updateTrackedFileLastIntegrityCheckAt file.id (clock.now s.readings)
  have run : (stamped.integrityRuns.find? runId).isSome := by
    have there := recordable.run
    rwa [Db.stopFlag,Option.isSome_map] at there
  have kept : stamped.members = s.world.db.members := Db.members_updateTrackedFile _ _ _ _ fun _ => rfl
  have tracked : (stamped.trackedFiles.find? file.id).isSome := by
    obtain ⟨row,found,_⟩ := Db.members_iff.mp (kept ▸ recordable.tracked)
    rw [found]
    rfl
  obtain ⟨row,table,appended,results⟩ := appendIntegrityRunResult_of_rows (w := ⟨stamped,s.world.disk⟩) status
    recovered needsAttention run tracked recordable.pair
  let stored : Db := { stamped with integrityRunResults := table }
  let counted := stored.incrementIntegrityRunProgress runId needsAttention.toNat recovered.toNat
  have steady : SteadyRows runId stored counted := SteadyRows.updateIntegrityRun _ _ _ _
  refine ⟨⟨⟨counted,s.world.disk⟩,s.readings + 1,s.pages⟩,?_,?_,rfl⟩
  · have taken : recordResult clock runId file status recovered needsAttention s =
        ((onWorld (appendIntegrityRunResult runId file status recovered needsAttention) >>= fun _ =>
          onWorld (Act.execute (fun db => db.incrementIntegrityRunProgress runId needsAttention.toNat recovered.toNat)))
            ⟨⟨stamped,s.world.disk⟩,s.readings + 1,s.pages⟩) := rfl
    rw [taken,bind_of_ok (onWorld_of_ok appended)]
    rfl
  · exact {
      pairs := rfl
      members := steady.members.trans kept
      stamps := steady.stamps.trans
        (Db.stamp_updateTrackedFileLastIntegrityCheckAt (clock.now s.readings) recordable.tracked)
      readings := rfl
      recorded := steady.recorded.trans results
      otherRuns := fun id other => steady.otherRuns id other
      stopFlag := Db.stopFlag_updateIntegrityRun_of_kept _ _ _ _ _ fun _ => rfl }

section
variable [Blake3]

theorem checkFiles_of (io : Io) (mmapThresholdBytes : Nat) (pair : DrivePair) (files : List TrackedFile) (w : World) :
    ∃ results, checkFiles io mmapThresholdBytes pair files w = .ok results w ∧ results.map Prod.fst = files := by
  induction files with
  | nil => exact ⟨[],rfl,rfl⟩
  | cons file files ih =>
    obtain ⟨results,checked,same⟩ := ih
    let masterStrategy := ChecksumStrategy.forDrive mmapThresholdBytes pair.primaryMediaType file.fileSize
    let mirrorStrategy := ChecksumStrategy.forDrive mmapThresholdBytes pair.secondaryMediaType file.fileSize
    have still := checkFileIntegrity_after io w pair file masterStrategy mirrorStrategy
    obtain ⟨result,ran⟩ : ∃ result, attempt (checkFileIntegrity io pair file masterStrategy mirrorStrategy) w =
        .ok result w := by
      cases ran : checkFileIntegrity io pair file masterStrategy mirrorStrategy w with
      | ok result t =>
        rw [after_of_ok ran] at still
        exact ⟨_,still ▸ attempt_of_ok ran⟩
      | error message t =>
        rw [after_of_error ran] at still
        exact ⟨_,still ▸ attempt_of_error ran⟩
    refine ⟨(file,result)::results,?_,by rw [List.map_cons,same]⟩
    rw [checkFiles,bind_of_ok ran,bind_of_ok checked]
    rfl

theorem recoverOrNot_steady (io : Io) (pair : DrivePair) (file : TrackedFile) (result : IntegrityCheckResult)
    (runId : Nat) (w : World) : ∃ recovered t, recoverOrNot io pair file result w = .ok recovered t ∧
      SteadyRows runId w.db t.db ∧ t.db.integrityRuns = w.db.integrityRuns ∧
      t.db.integrityRunResults = w.db.integrityRunResults := by
  have kept := attemptRecovery_db io pair file result w
  cases ran : attemptRecovery io pair file result w with
  | error message t =>
    rw [after_of_error ran] at kept
    have failed : attemptRecoveryWithReconciliation io pair file result w = .error message t := bind_of_error ran _
    refine ⟨false,t,?_,kept ▸ .refl _ _,by rw [kept],by rw [kept]⟩
    rw [recoverOrNot,bind_of_ok (attempt_of_error failed)]
    rfl
  | ok recovered t =>
    rw [after_of_ok ran] at kept
    cases recovered with
    | false =>
      have skipped : attemptRecoveryWithReconciliation io pair file result w = .ok false t := bind_of_ok ran _
      refine ⟨false,t,?_,kept ▸ .refl _ _,by rw [kept],by rw [kept]⟩
      rw [recoverOrNot,bind_of_ok (attempt_of_ok skipped)]
      rfl
    | true =>
      let flagged := t.db.updateTrackedFileMirrorStatus file.id true
      have reconciled : attemptRecoveryWithReconciliation io pair file result w =
          .ok true { t with db := flagged.completePendingMirrorQueueForFile file.id } := bind_of_ok ran _
      have flag : SteadyRows runId t.db flagged := .updateTrackedFileMirrorStatus _ _ _ _
      refine ⟨true,{ t with db := flagged.completePendingMirrorQueueForFile file.id },?_,?_,?_,?_⟩
      · rw [recoverOrNot,bind_of_ok (attempt_of_ok reconciled)]
        rfl
      · rw [← kept]
        exact ⟨flag.pairs,flag.members,flag.stamps,flag.recorded,flag.otherRuns⟩
      · rw [← kept]
        rfl
      · rw [← kept]
        rfl

theorem recordFile_records (io : Io) (clock : Clock) {runId : Nat} (recover : Bool) (pair : DrivePair)
    {file : TrackedFile} {s : RunWorld} (result : Except String IntegrityCheckResult)
    (recordable : Recordable runId file.id file.drivePairId s) :
    ∃ t, recordFile io clock runId recover pair file result s = .ok () t ∧
      Recorded clock runId [file.id] s t ∧ t.pages = s.pages := by
  cases result with
  | error message => exact recordResult_records clock _ _ _ recordable
  | ok result =>
    obtain ⟨recovered,t,ran,steady,pages⟩ : ∃ recovered t,
        onWorld (if recover && result.status != .ok then recoverOrNot io pair file result else pure false) s =
          .ok recovered t ∧ Recorded clock runId [] s t ∧ t.pages = s.pages := by
      cases recover && result.status != .ok with
      | false => exact ⟨false,s,rfl,.of_steady (.refl _ _) rfl rfl,rfl⟩
      | true =>
        obtain ⟨recovered,t,ran,steady,runs,_⟩ := recoverOrNot_steady io pair file result runId s.world
        exact ⟨recovered,_,onWorld_of_ok ran,.of_steady steady rfl (by rw [Db.stopFlag,runs,Db.stopFlag]),rfl⟩
    obtain ⟨u,done,recorded,same⟩ := recordResult_records clock (statusStr result.status) recovered
      (result.status != .ok && !recovered) (recordable.after steady)
    exact ⟨u,by rw [recordFile,bind_of_ok ran,done],steady.trans recorded,same.trans pages⟩

theorem recordFiles_record (io : Io) (clock : Clock) {runId : Nat} (recover : Bool) (pair : DrivePair)
    (results : List (TrackedFile × Except String IntegrityCheckResult)) {s : RunWorld}
    (recordable : ∀ row ∈ results, Recordable runId row.1.id row.1.drivePairId s) :
    ∃ t, recordFiles io clock runId recover pair results s = .ok () t ∧
      Recorded clock runId (results.map (fun row => row.1.id)) s t ∧ t.pages = s.pages := by
  induction results generalizing s with
  | nil => exact ⟨s,rfl,.of_steady (.refl _ _) rfl rfl,rfl⟩
  | cons row results ih =>
    obtain ⟨t,first,recorded,pages⟩ := recordFile_records io clock recover pair row.2 (recordable row (by simp))
    obtain ⟨u,rest,more,same⟩ := ih fun other member => (recordable other (by simp [member])).after recorded
    exact ⟨u,by rw [recordFiles,bind_of_ok first,rest],recorded.trans more,same.trans pages⟩

end

/-! The end of a run. -/

/-- The run is over with this status, and nothing else has changed. -/
structure Ended (runId : Nat) (status : RunStatus) (s t : RunWorld) : Prop where
  rows : SteadyRows runId s.world.db t.world.db
  readings : t.readings = s.readings
  pages : t.pages = s.pages
  status : (t.world.db.integrityRuns.find? runId).map IntegrityRun.status = some status

theorem ended_finish {runId : Nat} {s t : RunWorld} (steady : SteadyRows runId s.world.db t.world.db)
    (readings : t.readings = s.readings) (pages : t.pages = s.pages) (status : RunStatus) (message : Option String)
    (there : (t.world.db.integrityRuns.find? runId).isSome) :
    Ended runId status s (t.withDb (t.world.db.finishIntegrityRun runId status message)) where
  rows := steady.trans (.updateIntegrityRun _ _ _ _)
  readings := readings
  pages := pages
  status := by
    obtain ⟨run,found⟩ := Option.isSome_iff_exists.mp there
    simp only [RunWorld.withDb,Db.finishIntegrityRun,Db.find?_updateIntegrityRun,found,Option.map_some]

theorem Ended.setActiveWorkers {runId : Nat} {status : RunStatus} {s t : RunWorld} (ended : Ended runId status s t)
    (count : Nat) : Ended runId status s (t.withDb (t.world.db.setIntegrityRunActiveWorkers runId count)) where
  rows := ended.rows.trans (.updateIntegrityRun _ _ _ _)
  readings := ended.readings
  pages := ended.pages
  status := by
    rw [RunWorld.withDb,Db.setIntegrityRunActiveWorkers,Db.find?_updateIntegrityRun,Option.map_map]
    exact ended.status

/-- A deadline or a request is met at the check before a page. -/
def RunEnv.cut (env : RunEnv) (listed : Nat) : Bool := env.stopRequested listed || env.deadlinePassed listed

theorem outsideStop_quiet {env : RunEnv} {runId : Nat} {s : RunWorld} (quiet : env.stopRequested s.pages.length = false) :
    outsideStop env runId s = .ok () s := by
  rw [outsideStop,bind_of_ok (show pagesListed s = .ok s.pages.length s from rfl),quiet]
  rfl

theorem checkShouldStop_goes {env : RunEnv} {runId : Nat} {s : RunWorld} (running : s.world.db.stopFlag runId = some false)
    (quiet : env.deadlinePassed s.pages.length = false) : checkShouldStop env runId s = .ok false s := by
  obtain ⟨run,found,flag⟩ := Db.stopFlag_some running
  have current : s.world.db.getIntegrityRun runId = .ok run := by rw [Db.getIntegrityRun,found]
  rw [checkShouldStop,bind_of_ok (onWorld_query current)]
  simp only [flag,Bool.false_eq_true,if_false]
  rw [bind_of_ok (show pagesListed s = .ok s.pages.length s from rfl),quiet]
  rfl

theorem checkShouldStop_stops {env : RunEnv} {runId : Nat} {s : RunWorld}
    (running : s.world.db.stopFlag runId = some false) (cut : env.cut s.pages.length = true) :
    ∃ t u, outsideStop env runId s = .ok () t ∧ checkShouldStop env runId t = .ok true u ∧ Ended runId .stopped s u := by
  obtain ⟨run,found,flag⟩ := Db.stopFlag_some running
  have listed (t : RunWorld) : pagesListed t = .ok t.pages.length t := rfl
  cases asked : env.stopRequested s.pages.length with
  | true =>
    let requested := s.world.db.requestIntegrityRunStop runId
    obtain ⟨now,there,stop⟩ : ∃ now, requested.integrityRuns.find? runId = some now ∧ now.stopRequested = true := by
      refine ⟨_,(Db.find?_updateIntegrityRun _ _ _ _).trans (by rw [found]; rfl),rfl⟩
    have current : requested.getIntegrityRun runId = .ok now := by rw [Db.getIntegrityRun,there]
    have idle : (requested.setIntegrityRunActiveWorkers runId 0).integrityRuns.find? runId =
        some { now with activeWorkers := 0 } := by
      rw [Db.setIntegrityRunActiveWorkers,Db.find?_updateIntegrityRun,there]
      rfl
    refine ⟨s.withDb requested,_,?_,?_,ended_finish (s := s)
      (t := s.withDb (requested.setIntegrityRunActiveWorkers runId 0))
      (SteadyRows.trans (.updateIntegrityRun _ _ _ _) (.updateIntegrityRun _ _ _ _)) rfl rfl .stopped none
      (by rw [RunWorld.withDb,idle]; rfl)⟩
    · rw [outsideStop,bind_of_ok (listed s),asked]
      rfl
    · rw [checkShouldStop,bind_of_ok (onWorld_query (s := s.withDb requested) current),stop]
      rfl
  | false =>
    have late : env.deadlinePassed s.pages.length = true := by simpa only [RunEnv.cut,asked,Bool.false_or] using cut
    have current : s.world.db.getIntegrityRun runId = .ok run := by rw [Db.getIntegrityRun,found]
    have idle : (s.world.db.setIntegrityRunActiveWorkers runId 0).integrityRuns.find? runId =
        some { run with activeWorkers := 0 } := by
      rw [Db.setIntegrityRunActiveWorkers,Db.find?_updateIntegrityRun,found]
      rfl
    refine ⟨s,_,outsideStop_quiet asked,?_,ended_finish (s := s)
      (t := s.withDb (s.world.db.setIntegrityRunActiveWorkers runId 0)) (.updateIntegrityRun _ _ _ _) rfl rfl .stopped none
      (by rw [RunWorld.withDb,idle]; rfl)⟩
    rw [checkShouldStop,bind_of_ok (onWorld_query current)]
    simp only [flag,Bool.false_eq_true,if_false]
    rw [bind_of_ok (listed s),late]
    rfl

/-! The loop over the pages of a pair. -/

section
variable [Blake3] {env : RunEnv} {clock : Clock} {runId : Nat} {recover : Bool} {pair : DrivePair}

variable (clock recover pair) in
theorem pageLoop_cut (fuel page : Nat) {s : RunWorld} (running : s.world.db.stopFlag runId = some false)
    (cut : env.cut s.pages.length = true) :
    ∃ t, pageLoop env clock runId recover pair (fuel + 1) page s = .ok true t ∧ Ended runId .stopped s t := by
  obtain ⟨t,u,asked,stopped,ended⟩ := checkShouldStop_stops running cut
  refine ⟨_,?_,ended.setActiveWorkers 0⟩
  rw [pageLoop,bind_of_ok asked,bind_of_ok stopped]
  rfl

variable (clock recover pair) in
theorem pageLoop_turn (fuel page : Nat) {s : RunWorld} (running : s.world.db.stopFlag runId = some false)
    (uncut : env.cut s.pages.length = false) (there : (s.world.db.drivePairs.find? pair.id).isSome) :
    let ids := Paging.page perPage (page - 1) s.world.db.stamp (env.tieBreak pair.id page) (s.world.db.idsOfPair pair.id)
    (ids = [] → pageLoop env clock runId recover pair (fuel + 1) page s = .ok false s) ∧
    (ids ≠ [] → ∃ t, Recorded clock runId ids s t ∧ t.pages = s.pages ++ [ids] ∧
      pageLoop env clock runId recover pair (fuel + 1) page s =
        if (s.world.db.idsOfPair pair.id).length ≤ page * perPage then .ok false t
        else pageLoop env clock runId recover pair fuel (page + 1) t) := by
  obtain ⟨quiet,early⟩ := Bool.or_eq_false_iff.mp uncut
  have goes : ∀ f : Bool → RunAct Bool, (outsideStop env runId >>= fun _ => checkShouldStop env runId >>= f) s = f false s :=
    fun f => by rw [bind_of_ok (outsideStop_quiet quiet),bind_of_ok (checkShouldStop_goes running early)]
  let files := s.world.db.listTrackedFilesOldestIntegrityFirst (env.tieBreak pair.id page) (some pair.id) page perPage
  have mapped : files.map TrackedFile.id = Paging.page perPage (page - 1) s.world.db.stamp (env.tieBreak pair.id page)
      (s.world.db.idsOfPair pair.id) := Db.listPage_ids _ _ _ _ _
  have counted : s.world.db.countTrackedFiles (some pair.id) = (s.world.db.idsOfPair pair.id).length := by
    rw [Db.idsOfPair,List.length_map]
    rfl
  rw [← mapped]
  refine ⟨fun none_left => ?_,fun some_left => ?_⟩
  · have empty : files = [] := List.map_eq_nil_iff.mp none_left
    have listed : listPage env pair.id page s = .ok (files,s.world.db.countTrackedFiles (some pair.id)) s := by
      change EStateM.Result.ok (files,_) { s with pages := if files.isEmpty then s.pages else _ } = _
      rw [empty]
      rfl
    rw [pageLoop,goes]
    simp only [Bool.false_eq_true,if_false]
    rw [bind_of_ok listed,empty]
    rfl
  · have full : files.isEmpty = false := by
      cases isNil : files with
      | nil => exact absurd (by rw [isNil]; rfl) some_left
      | cons => rfl
    let shown : RunWorld := { s with pages := s.pages ++ [files.map TrackedFile.id] }
    have listed : listPage env pair.id page s = .ok (files,s.world.db.countTrackedFiles (some pair.id)) shown := by
      change EStateM.Result.ok (files,_) { s with pages := if files.isEmpty then s.pages else _ } = _
      rw [full]
      rfl
    obtain ⟨results,checked,same⟩ := checkFiles_of (env.io shown.pages.length) env.mmapThresholdBytes pair files s.world
    have recordable : ∀ row ∈ results, Recordable runId row.1.id row.1.drivePairId shown := by
      intro row member
      have listedFile : row.1 ∈ files := same ▸ List.mem_map_of_mem member
      obtain ⟨tracked,ofPair⟩ := Db.listPage_subset _ _ _ _ _ listedFile
      exact ⟨by rw [running]; rfl,ofPair ▸ tracked,ofPair ▸ there⟩
    obtain ⟨t,ran,recorded,pages⟩ := recordFiles_record (env.io shown.pages.length) clock recover pair results recordable
    have ids : results.map (fun row => row.1.id) = files.map TrackedFile.id := by rw [← same,List.map_map]; rfl
    rw [ids] at recorded
    refine ⟨t,⟨recorded.pairs,recorded.members,recorded.stamps,recorded.readings,recorded.recorded,recorded.otherRuns,
      recorded.stopFlag⟩,pages,?_⟩
    rw [pageLoop,goes]
    simp only [Bool.false_eq_true,if_false]
    rw [bind_of_ok listed]
    simp only [full,Bool.false_eq_true,if_false]
    rw [bind_of_ok (show pagesListed shown = .ok shown.pages.length shown from rfl),
      bind_of_ok (onWorld_of_ok (s := shown) checked),bind_of_ok ran,counted]
    split <;> rfl

/-- The readings of the clock from a state on, as the times that rows take. -/
def readingsFrom (clock : Clock) (s : RunWorld) (i : Nat) : WithBot Nat := WithBot.some (clock.now (s.readings + i))

/-- The first pages of a pair as a paging of its ids. -/
def pagedFrom (env : RunEnv) (clock : Clock) (pairId : Nat) (s : RunWorld) (k : Nat) : Paging.Paged Nat (WithBot Nat) :=
  Paging.run (readingsFrom clock s) (fun k => env.tieBreak pairId (k + 1)) perPage (s.world.db.idsOfPair pairId)
    s.world.db.stamp k

def pagesFrom (env : RunEnv) (clock : Clock) (pairId : Nat) (s : RunWorld) (k : Nat) : List (List Nat) :=
  Paging.pages (readingsFrom clock s) (fun k => env.tieBreak pairId (k + 1)) perPage (s.world.db.idsOfPair pairId)
    s.world.db.stamp k

omit [Blake3] in
theorem Recorded.idsOfPair {files : List Nat} {s t : RunWorld} (recorded : Recorded clock runId files s t) (pairId : Nat) :
    t.world.db.idsOfPair pairId = s.world.db.idsOfPair pairId := by
  rw [Db.idsOfPair_eq,Db.idsOfPair_eq,recorded.members]

variable (env clock recover pair) in
theorem pageLoop_run {start : RunWorld} (running : start.world.db.stopFlag runId = some false)
    (there : (start.world.db.drivePairs.find? pair.id).isSome) (fuel k : Nat) {s : RunWorld}
    (before : Recorded clock runId (pagedFrom env clock pair.id start k).log start s)
    (listed : s.pages = start.pages ++ pagesFrom env clock pair.id start k)
    (open_ : k = 0 ∨ perPage * k < (start.world.db.idsOfPair pair.id).length)
    (enough : (start.world.db.idsOfPair pair.id).length < perPage * (k + fuel)) :
    ∃ K t, k ≤ K ∧
      (∀ j, k ≤ j → j < K → env.cut (start.pages.length + j) = false ∧
        perPage * j < (start.world.db.idsOfPair pair.id).length) ∧
      t.pages = start.pages ++ pagesFrom env clock pair.id start K ∧
      ((pageLoop env clock runId recover pair fuel (k + 1) s = .ok false t ∧
          Recorded clock runId (pagedFrom env clock pair.id start K).log start t ∧
          (start.world.db.idsOfPair pair.id).length ≤ perPage * K) ∨
        (pageLoop env clock runId recover pair fuel (k + 1) s = .ok true t ∧
          env.cut (start.pages.length + K) = true ∧
          ∃ middle, Recorded clock runId (pagedFrom env clock pair.id start K).log start middle ∧
            Ended runId .stopped middle t)) := by
  induction fuel generalizing k s with
  | zero =>
    rw [Nat.add_zero] at enough
    rcases open_ with rfl | more
    · exact absurd enough (Nat.not_lt_zero _)
    · omega
  | succ fuel ih =>
    have now : s.world.db.stopFlag runId = some false := before.stopFlag.trans running
    have count : s.pages.length = start.pages.length + k := by
      rw [listed,List.length_append,pagesFrom,Paging.pages_length]
    cases cut : env.cut s.pages.length with
    | true =>
      obtain ⟨t,stopped,ended⟩ := pageLoop_cut clock recover pair fuel (k + 1) now cut
      exact ⟨k,t,Nat.le_refl k,fun j low high => by omega,ended.pages.trans listed,
        .inr ⟨stopped,count ▸ cut,s,before,ended⟩⟩
    | false =>
      have keys : s.world.db.stamp = (pagedFrom env clock pair.id start k).key := by
        exact before.stamps.trans (congrArg Paging.Paged.key (Paging.run_eq_touchAll k).symm)
      have turn := pageLoop_turn clock recover pair fuel (k + 1) now cut
        (by rw [before.pairs]; exact there)
      simp only [before.idsOfPair,keys,Nat.add_sub_cancel] at turn
      have log : (pagedFrom env clock pair.id start (k + 1)).log = (pagedFrom env clock pair.id start k).log ++
          Paging.page perPage k (pagedFrom env clock pair.id start k).key (env.tieBreak pair.id (k + 1))
            (start.world.db.idsOfPair pair.id) := Paging.run_log_succ k
      by_cases none_left : Paging.page perPage k (pagedFrom env clock pair.id start k).key
          (env.tieBreak pair.id (k + 1)) (start.world.db.idsOfPair pair.id) = []
      · have length := congrArg List.length none_left
        rw [Paging.page_length,List.length_nil] at length
        refine ⟨k,s,Nat.le_refl k,fun j low high => by omega,listed,.inl ⟨turn.1 none_left,before,?_⟩⟩
        have some_page : 0 < perPage := by decide
        omega
      · have inside : perPage * k < (start.world.db.idsOfPair pair.id).length := by
          by_contra past
          refine none_left (List.eq_nil_of_length_eq_zero ?_)
          rw [Paging.page_length]
          omega
        obtain ⟨t,recorded,pages,next⟩ := turn.2 none_left
        have after : Recorded clock runId (pagedFrom env clock pair.id start (k + 1)).log start t := by
          rw [log]
          exact before.trans recorded
        have shown : t.pages = start.pages ++ pagesFrom env clock pair.id start (k + 1) := by
          rw [pages,listed,pagesFrom,pagesFrom,Paging.pages_succ,List.append_assoc]
          rfl
        by_cases last : (start.world.db.idsOfPair pair.id).length ≤ (k + 1) * perPage
        · rw [if_pos last] at next
          refine ⟨k + 1,t,Nat.le_succ k,fun j low high => ?_,shown,.inl ⟨next,after,by rwa [Nat.mul_comm]⟩⟩
          rw [show j = k by omega,← count]
          exact ⟨cut,inside⟩
        · rw [if_neg last] at next
          obtain ⟨K,u,le,uncut,total,ends⟩ := ih (k + 1) after shown
            (.inr (by rw [Nat.mul_comm]; exact Nat.not_le.mp last)) (by rwa [Nat.add_right_comm,Nat.add_assoc])
          refine ⟨K,u,by omega,fun j low high => ?_,total,by rw [next]; exact ends⟩
          rcases Nat.eq_or_lt_of_le low with rfl | low
          · rw [← count]
            exact ⟨cut,inside⟩
          · exact uncut j low high

omit [Blake3] in
theorem recorded_setActiveWorkers (clock : Clock) (runId count : Nat) (s : RunWorld) :
    Recorded clock runId [] s (s.withDb (s.world.db.setIntegrityRunActiveWorkers runId count)) :=
  .of_steady (.updateIntegrityRun _ _ _ _) rfl (Db.stopFlag_updateIntegrityRun_of_kept _ _ _ _ _ fun _ => rfl)

variable (env clock recover pair) in
theorem processPairs_pair (pairs : List DrivePair) {s : RunWorld} (running : s.world.db.stopFlag runId = some false)
    (there : (s.world.db.drivePairs.find? pair.id).isSome) :
    ∃ K t, (∀ j < K, env.cut (s.pages.length + j) = false ∧ perPage * j < (s.world.db.idsOfPair pair.id).length) ∧
      t.pages = s.pages ++ pagesFrom env clock pair.id s K ∧
      ((Recorded clock runId (pagedFrom env clock pair.id s K).log s t ∧
          (s.world.db.idsOfPair pair.id).length ≤ perPage * K ∧
          processPairs env clock runId recover (pair::pairs) s = processPairs env clock runId recover pairs t) ∨
        (processPairs env clock runId recover (pair::pairs) s = .ok true t ∧ env.cut (s.pages.length + K) = true ∧
          ∃ middle, Recorded clock runId (pagedFrom env clock pair.id s K).log s middle ∧
            Ended runId .stopped middle t)) := by
  let workers := max 1 (poolSizeForPair pair.primaryMediaType pair.secondaryMediaType env.cfg)
  let start := s.withDb (s.world.db.setIntegrityRunActiveWorkers runId workers)
  have before : Recorded clock runId [] s start := recorded_setActiveWorkers clock runId workers s
  have fuel : onWorld (Act.query (fun db => .ok (db.countTrackedFiles (some pair.id) + 1))) start =
      .ok ((s.world.db.idsOfPair pair.id).length + 1) start := by
    rw [Db.idsOfPair,List.length_map]
    rfl
  have enough : (s.world.db.idsOfPair pair.id).length < perPage * (0 + ((s.world.db.idsOfPair pair.id).length + 1)) := by
    rw [Nat.zero_add]
    exact Nat.lt_of_lt_of_le (Nat.lt_succ_self _) (Nat.le_mul_of_pos_left _ (by decide))
  have steps : processPairs env clock runId recover (pair::pairs) s =
      (pageLoop env clock runId recover pair ((s.world.db.idsOfPair pair.id).length + 1) 1 >>= fun stopped =>
        if stopped then pure true
        else do
          onWorld (Act.execute (fun db => db.setIntegrityRunActiveWorkers runId 0))
          processPairs env clock runId recover pairs) start := by
    rw [processPairs,bind_of_ok (onWorld_execute _ _),bind_of_ok fuel]
  obtain ⟨K,t,_,uncut,pages,ends⟩ := pageLoop_run env clock recover pair (before.stopFlag.trans running) there _ 0
    (.of_steady (.refl _ _) rfl rfl) (List.append_nil _).symm (.inl rfl) enough
  rcases ends with ⟨ran,recorded,done⟩ | ⟨ran,cut,middle,recorded,ended⟩
  · refine ⟨K,t.withDb (t.world.db.setIntegrityRunActiveWorkers runId 0),fun j less => uncut j (Nat.zero_le j) less,
      pages,.inl ⟨?_,done,?_⟩⟩
    · have whole := (before.trans recorded).trans (recorded_setActiveWorkers clock runId 0 t)
      rwa [List.nil_append,List.append_nil] at whole
    · rw [steps,bind_of_ok ran]
      rfl
  · refine ⟨K,t,fun j less => uncut j (Nat.zero_le j) less,pages,.inr ⟨?_,cut,middle,before.trans recorded,ended⟩⟩
    rw [steps,bind_of_ok ran]
    rfl

/-- The files of some pairs, pair by pair. -/
def groupsOf (db : Db) (pairs : List DrivePair) : List (Nat × List Nat) :=
  pairs.map (fun pair => (pair.id,db.idsOfPair pair.id))

/-- What an uncut run records, by the abstract paging. -/
def sweepFrom (env : RunEnv) (clock : Clock) (pairs : List DrivePair) (s : RunWorld) : List Nat :=
  Paging.sweep (fun pairId k => env.tieBreak pairId (k + 1)) perPage (groupsOf s.world.db pairs) (readingsFrom clock s)
    s.world.db.stamp

omit [Blake3] in
theorem Recorded.groupsOf {files : List Nat} {s t : RunWorld} (recorded : Recorded clock runId files s t)
    (pairs : List DrivePair) : groupsOf t.world.db pairs = groupsOf s.world.db pairs := by
  simp only [BitProtector.groupsOf,recorded.idsOfPair]

theorem processPairs_uncut (never : ∀ listed, env.cut listed = false) (pairs : List DrivePair) {s : RunWorld}
    (running : s.world.db.stopFlag runId = some false)
    (there : ∀ pair ∈ pairs, (s.world.db.drivePairs.find? pair.id).isSome) :
    ∃ t, processPairs env clock runId recover pairs s = .ok false t ∧
      Recorded clock runId (sweepFrom env clock pairs s) s t := by
  induction pairs generalizing s with
  | nil => exact ⟨s,rfl,.of_steady (.refl _ _) rfl rfl⟩
  | cons pair pairs ih =>
    obtain ⟨K,t,_,_,ends⟩ := processPairs_pair env clock recover pair pairs running (there pair (by simp))
    rcases ends with ⟨recorded,done,next⟩ | ⟨_,cut,_⟩
    · have whole : pagedFrom env clock pair.id s (s.world.db.idsOfPair pair.id).length = pagedFrom env clock pair.id s K :=
        Paging.run_of_past_end done (Nat.le_mul_of_pos_left _ (by decide))
      have count : (pagedFrom env clock pair.id s K).log.length = (s.world.db.idsOfPair pair.id).length := by
        rw [pagedFrom,Paging.run_log_length,Nat.min_eq_right done]
      obtain ⟨u,rest,more⟩ := ih (recorded.stopFlag.trans running) fun other member => by
        rw [recorded.pairs]
        exact there other (by simp [member])
      have keys : t.world.db.stamp = (pagedFrom env clock pair.id s K).key :=
        recorded.stamps.trans (congrArg Paging.Paged.key (Paging.run_eq_touchAll K).symm)
      have later : readingsFrom clock t = fun i => readingsFrom clock s ((s.world.db.idsOfPair pair.id).length + i) := by
        funext i
        rw [readingsFrom,recorded.readings,count,Nat.add_assoc,readingsFrom]
      refine ⟨u,next.trans rest,?_⟩
      have log : sweepFrom env clock (pair::pairs) s =
          (pagedFrom env clock pair.id s K).log ++ sweepFrom env clock pairs t := by
        rw [sweepFrom,BitProtector.groupsOf,List.map_cons,Paging.sweep]
        rw [sweepFrom,recorded.groupsOf,keys,later,← whole]
        rfl
      rw [log]
      exact recorded.trans more
    · rw [never] at cut
      cases cut

end

end BitProtector
