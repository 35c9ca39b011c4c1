import BitProtector.IntegrityCoverage
import BitProtector.Foundation.Machine

/-! An integrity run, statement by statement, while other processes stop tracking files. -/
namespace BitProtector.IntegrityUntracking

structure CheckOutcome where
  status : String
  recovered : Bool
  needsAttention : Bool
  deriving DecidableEq, Repr

/-- The statement that the run executes next. -/
inductive RunPhase
  | list
  | count (files : List TrackedFile)
  | stamp (total : Nat) (files : List TrackedFile)
  | insert (total : Nat) (file : TrackedFile) (files : List TrackedFile)
  | readBack (total : Nat) (file : TrackedFile) (files : List TrackedFile) (outcome : CheckOutcome) (resultId : Nat)
  | progress (total : Nat) (files : List TrackedFile) (outcome : CheckOutcome)
  | finished

structure UntrackState where
  db : Db
  runId : Nat
  /-- The pair at hand, and those after it. -/
  pairs : List DrivePair
  page : Nat
  phase : RunPhase

inductive UntrackStep
  /-- The run goes on; its statement uses what it needs of these. -/
  | next (tieBreak : Nat → Nat) (now : Nat) (outcome : CheckOutcome)
  /-- A recovery of the file whose row comes next. -/
  | recover
  | deleteSyncQueueOfFile (fileId : Nat)
  | deleteTrackedFile (fileId : Nat)
  | deleteFolderCascade (folderId : Nat) (fileIds : List Nat)

/-- `process_run` returns the error, and its caller marks the run. -/
def failRun (s : UntrackState) (message : String) : UntrackState :=
  { s with db := s.db.finishIntegrityRun s.runId .failed (some message),phase := .finished }

def nextPair (s : UntrackState) : UntrackState := { s with pairs := s.pairs.tail,page := 1,phase := .list }

def nextStatement (tieBreak : Nat → Nat) (now : Nat) (outcome : CheckOutcome) (s : UntrackState) : Option UntrackState :=
  match s.phase with
  | .list =>
    match s.pairs with
    | [] =>
      let status := if s.db.stopFlag s.runId = some true then .stopped else .completed
      some { s with db := s.db.finishIntegrityRun s.runId status none,phase := .finished }
    | pair::_ =>
      some { s with phase := .count (s.db.listTrackedFilesOldestIntegrityFirst tieBreak (some pair.id) s.page perPage) }
  | .count files =>
    match s.pairs with
    | [] => none
    | pair::_ =>
      if files.isEmpty then some (nextPair s)
      else some { s with phase := .stamp (s.db.countTrackedFiles (some pair.id)) files }
  | .stamp total [] =>
    if total ≤ s.page * perPage then some (nextPair s) else some { s with page := s.page + 1,phase := .list }
  | .stamp total (file::files) =>
    some { s with db := s.db.updateTrackedFileLastIntegrityCheckAt file.id now,phase := .insert total file files }
  | .insert total file files =>
    match s.db.insertIntegrityRunResult s.runId file.id file.drivePairId file.relativePath outcome.status
        outcome.recovered outcome.needsAttention with
    | (.ok resultId,db) => some { s with db,phase := .readBack total file files outcome resultId }
    | (.error message,_) => some (failRun s message)
  | .readBack total _ files checked resultId =>
    match s.db.getIntegrityRunResult resultId with
    | .ok _ => some { s with phase := .progress total files checked }
    | .error message => some (failRun s message)
  | .progress total files checked =>
    some { s with
      db := s.db.incrementIntegrityRunProgress s.runId checked.needsAttention.toNat checked.recovered.toNat
      phase := .stamp total files }
  | .finished => none

def step : UntrackStep → UntrackState → Option UntrackState
  | .next tieBreak now outcome, s => nextStatement tieBreak now outcome s
  | .recover, s =>
    match s.phase with
    | .stamp _ (file::_) => some { s with
        db := (s.db.updateTrackedFileMirrorStatus file.id true).completePendingMirrorQueueForFile file.id }
    | _ => none
  | .deleteSyncQueueOfFile fileId, s => some { s with db := s.db.deleteSyncQueueOfFile fileId }
  -- A queue row that came in between keeps the file, by its foreign key.
  | .deleteTrackedFile fileId, s =>
    if s.db.syncQueue.rows.any (fun item => item.trackedFileId == fileId) then some s
    else some { s with db := s.db.removeTrackedFile fileId }
  | .deleteFolderCascade folderId fileIds, s => some { s with db := s.db.deleteFolderCascadeTx folderId fileIds }

def machine : Machine UntrackState UntrackStep := ⟨step⟩

/-- A new run over its pairs. -/
def begun (db : Db) (scope : Option Nat) (recover : Bool) (trigger : String) (pairs : List DrivePair) : UntrackState :=
  ⟨(db.createIntegrityRun scope recover trigger (db.countTrackedFiles scope)).2,db.integrityRuns.lastId + 1,pairs,1,.list⟩

/-- The files of the page at hand whose results are not read back yet. -/
def inFlight : RunPhase → List TrackedFile
  | .list | .finished => []
  | .count files | .stamp _ files | .progress _ files _ => files
  | .insert _ file files | .readBack _ file files _ _ => file::files

/-- The rows that the offset of a page skips. -/
def rowsBefore (db : Db) (tieBreak : Nat → Nat) (pairId page : Nat) : List TrackedFile :=
  (Paging.ordered Db.checkedAt (fun file => tieBreak file.id) (db.trackedFilesInScope (some pairId))).take (perPage * (page - 1))

/-- Untracking the file now leaves the run's page and its count alone. -/
def MayGo (s : UntrackState) (fileId : Nat) : Prop :=
  fileId ∉ (inFlight s.phase).map TrackedFile.id ∧
    ∀ files, s.phase = .count files → fileId ∉ s.db.recordedFiles s.runId

/-- What a page skips has been recorded, and no file goes that would disturb the page. -/
def Careful : UntrackStep → UntrackState → Prop
  | .next tieBreak _ _, s => s.phase = .list → ∀ pair ∈ s.pairs.head?,
      ∀ file ∈ rowsBefore s.db tieBreak pair.id s.page, file.id ∈ s.db.recordedFiles s.runId
  | .deleteTrackedFile fileId, s => MayGo s fileId
  | .deleteFolderCascade _ fileIds, s => ∀ fileId ∈ fileIds, MayGo s fileId
  | .recover, _ | .deleteSyncQueueOfFile _, _ => True

/-! What a statement does to what the run goes by. -/

/-- These files and their results have gone, and no others. -/
structure Gone (fileIds : List Nat) (runId : Nat) (db next : Db) : Prop where
  pairs : next.drivePairs = db.drivePairs
  status : (next.integrityRuns.find? runId).map IntegrityRun.status = (db.integrityRuns.find? runId).map IntegrityRun.status
  members : ∀ id pairId, (id,pairId) ∈ next.members ↔ (id,pairId) ∈ db.members ∧ id ∉ fileIds
  recorded : ∀ id ∈ db.recordedFiles runId, id ∉ fileIds → id ∈ next.recordedFiles runId
  results : ∀ id row, db.integrityRunResults.find? id = some row → row.fileId ∉ fileIds →
    next.integrityRunResults.find? id = some row

namespace Gone

variable {runId : Nat}

theorem none_of_eq {db next : Db} (pairs : next.drivePairs = db.drivePairs)
    (status : (next.integrityRuns.find? runId).map IntegrityRun.status = (db.integrityRuns.find? runId).map IntegrityRun.status)
    (members : next.members = db.members) (results : next.integrityRunResults = db.integrityRunResults) :
    Gone [] runId db next where
  pairs := pairs
  status := status
  members id pairId := by simp [members]
  recorded id := by simp [Db.recordedFiles,results]
  results id row found _ := by rwa [results]

theorem trans {first second : List Nat} {a b c : Db} (ab : Gone first runId a b) (bc : Gone second runId b c) :
    Gone (first ++ second) runId a c where
  pairs := bc.pairs.trans ab.pairs
  status := bc.status.trans ab.status
  members id pairId := by rw [bc.members,ab.members,List.mem_append,not_or,and_assoc]
  recorded id member stays := by
    rw [List.mem_append,not_or] at stays
    exact bc.recorded id (ab.recorded id member stays.1) stays.2
  results id row found stays := by
    rw [List.mem_append,not_or] at stays
    exact bc.results id row (ab.results id row found stays.1) stays.2

theorem removeTrackedFile (runId : Nat) (db : Db) (fileId : Nat) : Gone [fileId] runId db (db.removeTrackedFile fileId) where
  pairs := rfl
  status := rfl
  members id pairId := by
    rw [Db.members_iff,Db.members_iff,Db.removeTrackedFile]
    simp only [Table.find?_deleteWhere,Option.filter_eq_some_iff,List.mem_singleton]
    constructor
    · rintro ⟨file,⟨found,kept⟩,same⟩
      exact ⟨⟨file,found,same⟩,fun hit => by simp [show file.id = id from Table.find?_key found,hit] at kept⟩
    · rintro ⟨⟨file,found,same⟩,other⟩
      exact ⟨file,⟨found,by simp [show file.id = id from Table.find?_key found,other]⟩,same⟩
  recorded id := by
    simp only [Db.recordedFiles,Db.removeTrackedFile,Table.deleteWhere_rows,List.mem_map,List.mem_filter,List.mem_singleton]
    rintro ⟨row,⟨present,mine⟩,rfl⟩ other
    exact ⟨row,⟨⟨present,by simpa using other⟩,mine⟩,rfl⟩
  results id row found stays := by
    rw [Db.removeTrackedFile,Table.find?_deleteWhere,found]
    simpa [Option.filter] using stays

theorem deleteTrackedFile (runId : Nat) (db : Db) (fileId : Nat) : Gone [fileId] runId db (db.deleteTrackedFile fileId) := by
  have gone := removeTrackedFile runId (db.deleteSyncQueueOfFile fileId) fileId
  exact ⟨gone.pairs,gone.status,gone.members,gone.recorded,gone.results⟩

theorem deleteFolderCascadeTx (runId : Nat) (db : Db) (folderId : Nat) (fileIds : List Nat) :
    Gone fileIds runId db (db.deleteFolderCascadeTx folderId fileIds) := by
  have files : Gone fileIds runId db (fileIds.foldl Db.deleteTrackedFile db) := by
    induction fileIds generalizing db with
    | nil => exact none_of_eq rfl rfl rfl rfl
    | cons fileId fileIds ih => exact (deleteTrackedFile runId db fileId).trans (ih _)
  exact ⟨files.pairs,files.status,files.members,files.recorded,files.results⟩

theorem updateTrackedFile (runId : Nat) (db : Db) (id : Nat) (change keepsId)
    (keepsPair : ∀ file : TrackedFile, (change file).drivePairId = file.drivePairId) :
    Gone [] runId db (db.updateTrackedFile id change keepsId) :=
  none_of_eq rfl rfl (Db.members_updateTrackedFile _ _ _ _ keepsPair) rfl

end Gone

/-! The page at hand. -/

/-- A page that was listed: before it stand recorded files only, and after it nothing
unless it is full. -/
structure Listed (db : Db) (runId page : Nat) (pair : DrivePair) (files : List TrackedFile) : Prop where
  ofPair : ∀ file ∈ files, (file.id,pair.id) ∈ db.members ∧ file.drivePairId = pair.id
  ahead : ∃ ahead, (ahead ++ files.map TrackedFile.id).Nodup ∧
    (∀ id ∈ ahead, id ∈ db.recordedFiles runId ∧ id ∈ db.idsOfPair pair.id) ∧
    ((∀ id ∈ db.idsOfPair pair.id, id ∈ ahead ∨ id ∈ files.map TrackedFile.id) ∨
      (ahead.length + files.length = perPage * page ∧ files ≠ []))

/-- A page that is being checked; if it is the last, nothing else of the pair is left. -/
structure Checking (db : Db) (runId page : Nat) (pair : DrivePair) (total : Nat) (files : List TrackedFile) : Prop where
  ofPair : ∀ file ∈ files, (file.id,pair.id) ∈ db.members ∧ file.drivePairId = pair.id
  rest : total ≤ page * perPage → ∀ id ∈ db.idsOfPair pair.id,
    id ∈ db.recordedFiles runId ∨ id ∈ files.map TrackedFile.id

def Covered (db : Db) (runId : Nat) (pair : DrivePair) : Prop :=
  ∀ id ∈ db.idsOfPair pair.id, id ∈ db.recordedFiles runId

section
variable {fileIds : List Nat} {runId page total : Nat} {db next : Db} {pair : DrivePair} {files : List TrackedFile}

theorem Covered.gone (covered : Covered db runId pair) (gone : Gone fileIds runId db next) : Covered next runId pair := by
  intro id member
  obtain ⟨tracked,stays⟩ := (gone.members id pair.id).mp (mem_idsOfPair.mp member)
  exact gone.recorded id (covered id (mem_idsOfPair.mpr tracked)) stays

theorem Checking.gone (checking : Checking db runId page pair total files) (gone : Gone fileIds runId db next)
    (apart : ∀ id ∈ fileIds, id ∉ files.map TrackedFile.id) : Checking next runId page pair total files where
  ofPair file member := by
    obtain ⟨tracked,same⟩ := checking.ofPair file member
    exact ⟨(gone.members _ _).mpr ⟨tracked,fun goes => apart _ goes (List.mem_map_of_mem member)⟩,same⟩
  rest last id member := by
    obtain ⟨tracked,stays⟩ := (gone.members id pair.id).mp (mem_idsOfPair.mp member)
    rcases checking.rest last id (mem_idsOfPair.mpr tracked) with recorded | waiting
    · exact .inl (gone.recorded id recorded stays)
    · exact .inr waiting

theorem Listed.gone (listed : Listed db runId page pair files) (gone : Gone fileIds runId db next)
    (apart : ∀ id ∈ fileIds, id ∉ files.map TrackedFile.id) (unrecorded : ∀ id ∈ fileIds, id ∉ db.recordedFiles runId) :
    Listed next runId page pair files where
  ofPair file member := by
    obtain ⟨tracked,same⟩ := listed.ofPair file member
    exact ⟨(gone.members _ _).mpr ⟨tracked,fun goes => apart _ goes (List.mem_map_of_mem member)⟩,same⟩
  ahead := by
    obtain ⟨ahead,distinct,recorded,rest⟩ := listed.ahead
    refine ⟨ahead,distinct,fun id member => ?_,rest.imp_left fun all id member => ?_⟩
    · obtain ⟨done,tracked⟩ := recorded id member
      have stays : id ∉ fileIds := fun goes => unrecorded id goes done
      exact ⟨gone.recorded id done stays,mem_idsOfPair.mpr ((gone.members _ _).mpr ⟨mem_idsOfPair.mp tracked,stays⟩)⟩
    · exact all id (mem_idsOfPair.mpr ((gone.members _ _).mp (mem_idsOfPair.mp member)).1)

theorem listed_of_query (tieBreak : Nat → Nat) (pos : 0 < page)
    (before : ∀ file ∈ rowsBefore db tieBreak pair.id page, file.id ∈ db.recordedFiles runId) :
    Listed db runId page pair (db.listTrackedFilesOldestIntegrityFirst tieBreak (some pair.id) page perPage) where
  ofPair file member := Db.listPage_subset _ _ _ _ _ member
  ahead := by
    let sorted := Paging.ordered Db.checkedAt (fun file => tieBreak file.id) (db.listTrackedFilesOfPair pair.id)
    have distinct : (sorted.map TrackedFile.id).Nodup :=
      (Paging.ordered_perm.map TrackedFile.id).nodup_iff.mpr (db.idsOfPair_nodup pair.id)
    have both : (rowsBefore db tieBreak pair.id page).map TrackedFile.id ++
        (db.listTrackedFilesOldestIntegrityFirst tieBreak (some pair.id) page perPage).map TrackedFile.id =
          (sorted.take (perPage * (page - 1) + perPage)).map TrackedFile.id := by
      rw [List.take_add,List.map_append]
      rfl
    refine ⟨(rowsBefore db tieBreak pair.id page).map TrackedFile.id,?_,?_,?_⟩
    · rw [both]
      exact distinct.sublist ((List.take_sublist _ _).map _)
    · intro id member
      obtain ⟨file,early,rfl⟩ := List.mem_map.mp member
      exact ⟨before file early,List.mem_map_of_mem (Paging.ordered_perm.subset ((List.take_sublist _ _).subset early))⟩
    · have count : perPage * (page - 1) + perPage = perPage * page := by
        rw [← Nat.mul_succ,Nat.succ_eq_add_one,Nat.sub_add_cancel pos]
      by_cases short : sorted.length ≤ perPage * (page - 1) + perPage
      · left
        intro id member
        have inside : id ∈ sorted.map TrackedFile.id := (Paging.ordered_perm.map TrackedFile.id).symm.subset member
        rw [← List.take_of_length_le short,← both] at inside
        exact List.mem_append.mp inside
      · right
        have length := congrArg List.length both
        rw [List.length_append,List.length_map,List.length_map,List.length_map,List.length_take,
          Nat.min_eq_left (Nat.le_of_lt (Nat.not_le.mp short)),count] at length
        refine ⟨by rwa [List.length_map],fun empty => ?_⟩
        rw [empty,List.length_nil,Nat.add_zero,rowsBefore,List.length_take] at length
        have room : 0 < perPage := by decide
        omega

theorem Listed.covered (listed : Listed db runId page pair []) : Covered db runId pair := by
  obtain ⟨ahead,_,recorded,all | ⟨_,some_file⟩⟩ := listed.ahead
  · intro id member
    exact (recorded id ((all id member).resolve_right (by simp))).1
  · exact absurd rfl some_file

theorem Listed.checking (listed : Listed db runId page pair files) :
    Checking db runId page pair (db.countTrackedFiles (some pair.id)) files where
  ofPair := listed.ofPair
  rest last id member := by
    have counted : db.countTrackedFiles (some pair.id) = (db.idsOfPair pair.id).length := by
      rw [Db.idsOfPair,List.length_map]
      rfl
    obtain ⟨ahead,distinct,recorded,all | ⟨full,_⟩⟩ := listed.ahead
    · exact (all id member).imp_left fun early => (recorded id early).1
    · -- A full page and all before it are as many files as there are.
      have inside : ahead ++ files.map TrackedFile.id ⊆ db.idsOfPair pair.id := by
        refine List.append_subset.mpr ⟨fun id early => (recorded id early).2,fun id here => ?_⟩
        obtain ⟨file,present,rfl⟩ := List.mem_map.mp here
        exact mem_idsOfPair.mpr (listed.ofPair file present).1
      have all := (List.Nodup.subperm distinct inside).perm_of_length_le (by
        rw [List.length_append,List.length_map,full,← counted,Nat.mul_comm]
        exact last)
      exact (List.mem_append.mp (all.symm.subset member)).imp_left fun early => (recorded id early).1

theorem Checking.covered (checking : Checking db runId page pair total []) (last : total ≤ page * perPage) :
    Covered db runId pair := fun id member => (checking.rest last id member).resolve_right (by simp)

theorem Checking.tail {file : TrackedFile} (checking : Checking db runId page pair total (file::files))
    (recorded : file.id ∈ db.recordedFiles runId) : Checking db runId page pair total files where
  ofPair other member := checking.ofPair other (List.mem_cons_of_mem _ member)
  rest last id member := by
    rcases checking.rest last id member with done | waiting
    · exact .inl done
    · rw [List.map_cons] at waiting
      rcases List.mem_cons.mp waiting with rfl | waiting
      · exact .inl recorded
      · exact .inr waiting

end

/-! The run. -/

/-- What holds of the statement that comes next. -/
def AtHand (s : UntrackState) : Prop :=
  match s.phase with
  | .list => True
  | .finished => s.pairs = []
  | .count files => ∃ pair ∈ s.pairs.head?, Listed s.db s.runId s.page pair files
  | .stamp total files | .progress total files _ => ∃ pair ∈ s.pairs.head?, Checking s.db s.runId s.page pair total files
  | .insert total file files => ∃ pair ∈ s.pairs.head?, Checking s.db s.runId s.page pair total (file::files)
  | .readBack total file files _ resultId => ∃ pair ∈ s.pairs.head?, Checking s.db s.runId s.page pair total (file::files) ∧
      ∃ row, s.db.integrityRunResults.find? resultId = some row ∧ row.fileId = file.id ∧ row.runId = s.runId

/-- The run so far: it has not failed, no file came in, and every pair before the one at
hand is covered. -/
structure Steady (origin : Db) (all : List DrivePair) (s : UntrackState) : Prop where
  run : ∃ status, (s.db.integrityRuns.find? s.runId).map IntegrityRun.status = some status ∧ status ≠ .failed
  done : ∃ done, all = done ++ s.pairs ∧ ∀ pair ∈ done, Covered s.db s.runId pair
  there : ∀ pair ∈ s.pairs, (s.db.drivePairs.find? pair.id).isSome
  tracked : ∀ member ∈ s.db.members, member ∈ origin.members
  page : 0 < s.page
  atHand : AtHand s

/-- A statement that deletes nothing that the run counts on, or adds to its results. -/
theorem Steady.advance {origin : Db} {all : List DrivePair} {s : UntrackState} {fileIds : List Nat} {next : Db}
    (steady : Steady origin all s) (gone : Gone fileIds s.runId s.db next) (phase : RunPhase)
    (atHand : AtHand { s with db := next,phase }) : Steady origin all { s with db := next,phase } where
  run := by
    rw [gone.status]
    exact steady.run
  done := by
    obtain ⟨done,split,covered⟩ := steady.done
    exact ⟨done,split,fun pair member => (covered pair member).gone gone⟩
  there pair member := by
    rw [gone.pairs]
    exact steady.there pair member
  tracked member inside := steady.tracked member ((gone.members _ _).mp inside).1
  page := steady.page
  atHand := atHand

theorem Steady.gone {origin : Db} {all : List DrivePair} {s : UntrackState} {fileIds : List Nat} {next : Db}
    (steady : Steady origin all s)
    (gone : Gone fileIds s.runId s.db next) (may : ∀ id ∈ fileIds, MayGo s id) : Steady origin all { s with db := next } := by
  apply steady.advance gone s.phase
  have atHand := steady.atHand
  cases phase : s.phase with
  | list => simp only [AtHand]
  | finished => simpa only [AtHand,phase] using atHand
  | count files =>
    simp only [AtHand,phase] at atHand ⊢
    obtain ⟨pair,head,listed⟩ := atHand
    refine ⟨pair,head,listed.gone gone (fun id goes => ?_) fun id goes => (may id goes).2 files phase⟩
    simpa only [phase,inFlight] using (may id goes).1
  | stamp total files =>
    simp only [AtHand,phase] at atHand ⊢
    obtain ⟨pair,head,checking⟩ := atHand
    refine ⟨pair,head,checking.gone gone fun id goes => ?_⟩
    simpa only [phase,inFlight] using (may id goes).1
  | insert total file files =>
    simp only [AtHand,phase] at atHand ⊢
    obtain ⟨pair,head,checking⟩ := atHand
    refine ⟨pair,head,checking.gone gone fun id goes => ?_⟩
    simpa only [phase,inFlight] using (may id goes).1
  | readBack total file files outcome resultId =>
    simp only [AtHand,phase] at atHand ⊢
    obtain ⟨pair,head,checking,row,found,same,mine⟩ := atHand
    have apart : ∀ id ∈ fileIds, id ∉ (file::files).map TrackedFile.id := fun id goes => by
      simpa only [phase,inFlight] using (may id goes).1
    refine ⟨pair,head,checking.gone gone apart,row,gone.results resultId row found fun goes => ?_,same,mine⟩
    exact apart row.fileId goes (by simp [same])
  | progress total files outcome =>
    simp only [AtHand,phase] at atHand ⊢
    obtain ⟨pair,head,checking⟩ := atHand
    refine ⟨pair,head,checking.gone gone fun id goes => ?_⟩
    simpa only [phase,inFlight] using (may id goes).1

theorem Steady.nextPair {origin : Db} {all : List DrivePair} {s : UntrackState} {pair : DrivePair} (steady : Steady origin all s)
    (head : pair ∈ s.pairs.head?) (covered : Covered s.db s.runId pair) : Steady origin all (nextPair s) := by
  obtain ⟨done,split,before⟩ := steady.done
  obtain ⟨rest,pairs⟩ : ∃ rest, s.pairs = pair::rest := by
    cases pairs : s.pairs with
    | nil => simp [pairs] at head
    | cons first rest =>
      rw [pairs,List.head?_cons,Option.mem_some_iff] at head
      exact ⟨rest,by rw [head]⟩
  refine ⟨steady.run,⟨done ++ [pair],?_,?_⟩,fun other member => ?_,steady.tracked,Nat.one_pos,trivial⟩
  · rw [split,pairs,IntegrityUntracking.nextPair,pairs,List.tail_cons,List.append_assoc,List.singleton_append]
  · intro other member
    rcases List.mem_append.mp member with early | now
    · exact before other early
    · rw [List.mem_singleton.mp now]
      exact covered
  · exact steady.there other (List.mem_of_mem_tail member)

theorem Gone.refl (runId : Nat) (db : Db) : Gone [] runId db db := .none_of_eq rfl rfl rfl rfl

section
variable {origin : Db} {all : List DrivePair} {s t : UntrackState} {tieBreak : Nat → Nat} {now : Nat} {outcome : CheckOutcome}

theorem steady_list (steady : Steady origin all s) (careful : Careful (.next tieBreak now outcome) s) (phase : s.phase = .list)
    (taken : nextStatement tieBreak now outcome s = some t) : Steady origin all t := by
  simp only [nextStatement,phase] at taken
  cases pairs : s.pairs with
  | nil =>
    simp only [pairs,Option.some.injEq] at taken
    obtain ⟨status,found,_⟩ := steady.run
    obtain ⟨run,row,_⟩ := Option.map_eq_some_iff.mp found
    obtain ⟨done,split,covered⟩ := steady.done
    rw [← taken]
    refine ⟨⟨if s.db.stopFlag s.runId = some true then .stopped else .completed,?_,?_⟩,⟨done,by rw [split,pairs],covered⟩,
      by simp,steady.tracked,steady.page,rfl⟩
    · simp only [Db.finishIntegrityRun,Db.find?_updateIntegrityRun,row,Option.map_some]
    · split <;> decide
  | cons pair rest =>
    simp only [pairs,Option.some.injEq] at taken
    rw [← taken,← pairs]
    have head : pair ∈ s.pairs.head? := by rw [pairs]; rfl
    exact steady.advance (.refl _ _) (.count _)
      ⟨pair,head,listed_of_query tieBreak steady.page (careful phase pair head)⟩

theorem steady_count {files : List TrackedFile} (steady : Steady origin all s) (phase : s.phase = .count files)
    (taken : nextStatement tieBreak now outcome s = some t) : Steady origin all t := by
  have atHand := steady.atHand
  simp only [AtHand,phase] at atHand
  obtain ⟨pair,head,listed⟩ := atHand
  simp only [nextStatement,phase] at taken
  cases pairs : s.pairs with
  | nil => simp [pairs] at head
  | cons first rest =>
    have same : first = pair := by simpa [pairs] using head
    subst same
    simp only [pairs] at taken
    cases files with
    | nil =>
      simp only [List.isEmpty_nil,if_true,Option.some.injEq] at taken
      rw [← taken]
      exact steady.nextPair head listed.covered
    | cons file files =>
      simp only [List.isEmpty_cons,Bool.false_eq_true,if_false,Option.some.injEq] at taken
      rw [← taken,← pairs]
      exact steady.advance (.refl _ _) (.stamp _ _) ⟨first,head,listed.checking⟩

theorem steady_stamp {total : Nat} {files : List TrackedFile} (steady : Steady origin all s)
    (phase : s.phase = .stamp total files)
    (taken : nextStatement tieBreak now outcome s = some t) : Steady origin all t := by
  have atHand := steady.atHand
  simp only [AtHand,phase] at atHand
  obtain ⟨pair,head,checking⟩ := atHand
  cases files with
  | nil =>
    simp only [nextStatement,phase] at taken
    split at taken
    · rename_i last
      cases taken
      exact steady.nextPair head (checking.covered last)
    · cases taken
      obtain ⟨done,split,covered⟩ := steady.done
      exact ⟨steady.run,⟨done,split,covered⟩,steady.there,steady.tracked,Nat.succ_pos _,trivial⟩
  | cons file files =>
    simp only [nextStatement,phase,Option.some.injEq] at taken
    rw [← taken]
    have gone : Gone [] s.runId s.db (s.db.updateTrackedFileLastIntegrityCheckAt file.id now) :=
      .updateTrackedFile _ _ _ _ _ fun _ => rfl
    exact steady.advance gone (.insert _ _ _) ⟨pair,head,checking.gone gone (by simp)⟩

theorem steady_insert {total : Nat} {file : TrackedFile} {files : List TrackedFile} (steady : Steady origin all s)
    (phase : s.phase = .insert total file files) (taken : nextStatement tieBreak now outcome s = some t) :
    Steady origin all t := by
  have atHand := steady.atHand
  simp only [AtHand,phase] at atHand
  obtain ⟨pair,head,checking⟩ := atHand
  obtain ⟨tracked,ofPair⟩ := checking.ofPair file (by simp)
  obtain ⟨row,found,_⟩ := Db.members_iff.mp tracked
  obtain ⟨status,running,_⟩ := steady.run
  obtain ⟨run,runRow,_⟩ := Option.map_eq_some_iff.mp running
  have there := steady.there pair (List.mem_of_mem_head? head)
  obtain ⟨table,resultId,result,stored,⟨readBack,mine,ofRun⟩,recorded,kept⟩ := insertIntegrityRunResult_of_rows
    file.relativePath outcome.status outcome.recovered outcome.needsAttention (by rw [runRow]; rfl)
    (by rw [found]; rfl) (show (s.db.drivePairs.find? file.drivePairId).isSome by rwa [ofPair])
  simp only [nextStatement,phase,stored,Option.some.injEq] at taken
  rw [← taken]
  have gone : Gone [] s.runId s.db { s.db with integrityRunResults := table } := by
    refine ⟨rfl,rfl,fun id pairId => by simp [Db.members],fun id member _ => ?_,fun id other before _ => kept id other before⟩
    rw [recorded]
    exact List.mem_append_left _ member
  exact steady.advance gone (.readBack _ _ _ _ _) ⟨pair,head,checking.gone gone (by simp),result,readBack,mine,ofRun⟩

theorem steady_readBack {total resultId : Nat} {file : TrackedFile} {files : List TrackedFile} {checked : CheckOutcome}
    (steady : Steady origin all s) (phase : s.phase = .readBack total file files checked resultId)
    (taken : nextStatement tieBreak now outcome s = some t) : Steady origin all t := by
  have atHand := steady.atHand
  simp only [AtHand,phase] at atHand
  obtain ⟨pair,head,checking,row,found,mine,ofRun⟩ := atHand
  simp only [nextStatement,phase,Db.getIntegrityRunResult,found,Option.some.injEq] at taken
  rw [← taken]
  have recorded : file.id ∈ s.db.recordedFiles s.runId :=
    List.mem_map.mpr ⟨row,List.mem_filter.mpr ⟨Table.mem_of_find? found,by simpa using ofRun⟩,mine⟩
  exact steady.advance (.refl _ _) (.progress _ _ _) ⟨pair,head,checking.tail recorded⟩

theorem steady_progress {total : Nat} {files : List TrackedFile} {checked : CheckOutcome} (steady : Steady origin all s)
    (phase : s.phase = .progress total files checked) (taken : nextStatement tieBreak now outcome s = some t) :
    Steady origin all t := by
  have atHand := steady.atHand
  simp only [AtHand,phase] at atHand
  obtain ⟨pair,head,checking⟩ := atHand
  simp only [nextStatement,phase,Option.some.injEq] at taken
  rw [← taken]
  have gone : Gone [] s.runId s.db (s.db.incrementIntegrityRunProgress s.runId checked.needsAttention.toNat
      checked.recovered.toNat) := by
    refine .none_of_eq rfl ?_ rfl rfl
    rw [Db.incrementIntegrityRunProgress,Db.find?_updateIntegrityRun,Option.map_map]
    rfl
  exact steady.advance gone (.stamp _ _) ⟨pair,head,checking.gone gone (by simp)⟩

theorem steady_next (steady : Steady origin all s) (careful : Careful (.next tieBreak now outcome) s)
    (taken : nextStatement tieBreak now outcome s = some t) : Steady origin all t := by
  cases phase : s.phase with
  | list => exact steady_list steady careful phase taken
  | count files => exact steady_count steady phase taken
  | stamp total files => exact steady_stamp steady phase taken
  | insert total file files => exact steady_insert steady phase taken
  | readBack total file files checked resultId => exact steady_readBack steady phase taken
  | progress total files checked => exact steady_progress steady phase taken
  | finished =>
    simp only [nextStatement,phase] at taken
    cases taken

theorem steady_step {l : UntrackStep} (steady : Steady origin all s) (careful : Careful l s) (taken : step l s = some t) :
    Steady origin all t := by
  cases l with
  | next tieBreak now outcome => exact steady_next steady careful taken
  | recover =>
    simp only [step] at taken
    split at taken
    · rename_i total file files phase
      cases taken
      have gone : Gone [] s.runId s.db ((s.db.updateTrackedFileMirrorStatus file.id true).completePendingMirrorQueueForFile
          file.id) := by
        have flagged := Gone.updateTrackedFile s.runId s.db file.id (fun file => { file with isMirrored := true })
          (fun _ => rfl) fun _ => rfl
        exact ⟨flagged.pairs,flagged.status,flagged.members,flagged.recorded,flagged.results⟩
      exact steady.gone gone (by simp)
    · cases taken
  | deleteSyncQueueOfFile fileId =>
    cases taken
    exact steady.gone (.none_of_eq rfl rfl rfl rfl) (by simp)
  | deleteTrackedFile fileId =>
    simp only [step] at taken
    split at taken
    · cases taken
      exact steady
    · cases taken
      refine steady.gone (.removeTrackedFile _ _ _) fun id goes => ?_
      rw [List.mem_singleton.mp goes]
      exact careful
  | deleteFolderCascade folderId fileIds =>
    cases taken
    exact steady.gone (.deleteFolderCascadeTx _ _ _ _) careful

end

theorem steady_begun {db : Db} {scope : Option Nat} {pairs : List DrivePair} (found : scopePairs db scope = .ok pairs)
    (recover : Bool) (trigger : String) : Steady db pairs (begun db scope recover trigger pairs) := by
  obtain ⟨_,steady,row⟩ := createIntegrityRun_of_scope found recover trigger
  refine ⟨⟨.running,?_,by decide⟩,⟨[],rfl,by simp⟩,fun pair member => ?_,fun member inside => ?_,
    Nat.one_pos,trivial⟩
  · rw [begun,row]
    rfl
  · rw [begun,steady.pairs]
    exact scopePairs_there found pair member
  · rwa [begun,steady.members] at inside

/-- A run on whose page nobody intrudes never fails, and when it is over every file of
its scope that is still tracked has a result. -/
theorem integrityRun_survives {db : Db} {scope : Option Nat} {pairs : List DrivePair} {s : UntrackState}
    (keys : db.ForeignKeys) (found : scopePairs db scope = .ok pairs) (recover : Bool) (trigger : String)
    (reached : machine.Reaches Careful (begun db scope recover trigger pairs) s) :
    (s.db.integrityRuns.find? s.runId).map IntegrityRun.status ≠ some .failed ∧
      (s.phase = .finished → ∀ file ∈ s.db.trackedFilesInScope scope, file.id ∈ s.db.recordedFiles s.runId) := by
  have steady : Steady db pairs s := reached.invariant (steady_begun found recover trigger)
    fun _ _ _ steady careful taken => steady_step steady careful taken
  constructor
  · obtain ⟨status,row,sound⟩ := steady.run
    rw [row]
    simpa using sound
  · intro finished file member
    have none_left : s.pairs = [] := by simpa only [AtHand,finished] using steady.atHand
    obtain ⟨done,split,covered⟩ := steady.done
    rw [none_left,List.append_nil] at split
    subst split
    have row : s.db.trackedFiles.find? file.id = some file := s.db.trackedFiles.find?_of_mem (by
      cases scope with
      | none => exact member
      | some _ => exact (List.mem_filter.mp member).1)
    obtain ⟨pair,inScope,same⟩ : ∃ pair ∈ pairs, pair.id = file.drivePairId := by
      cases scope with
      | none =>
        cases found
        obtain ⟨old,tracked,ofPair⟩ := Db.members_iff.mp (steady.tracked _ (Db.members_iff.mpr ⟨file,row,rfl⟩))
        obtain ⟨pair,there⟩ := Option.isSome_iff_exists.mp (keys.filePair old (Table.mem_of_find? tracked))
        exact ⟨pair,Table.mem_of_find? there,(Table.find?_key there).trans ofPair⟩
      | some pairId =>
        have ofPair : file.drivePairId = pairId := by simpa using (List.mem_filter.mp member).2
        simp only [scopePairs,Db.getDrivePair] at found
        cases there : db.drivePairs.find? pairId with
        | none => simp [there,Except.map] at found
        | some pair =>
          simp only [there,Except.map,Except.ok.injEq] at found
          subst found
          exact ⟨pair,by simp,(Table.find?_key there).trans ofPair.symm⟩
    exact covered pair inScope file.id (mem_idsOfPair.mpr (Db.members_iff.mpr ⟨file,row,same.symm⟩))

def checkedOk : UntrackStep := .next id 1000 ⟨"ok",false,false⟩

def begunRun : UntrackState := begun (uncheckedDb 1) (some 1) false "manual" [photoPair 1]

def threeFiles : UntrackState := begun (uncheckedDb 3) (some 1) false "manual" [photoPair 1]

/-- The first file goes before its page is listed, the second after its result has been read back. -/
def untrackedBeside : List UntrackStep :=
  [.deleteSyncQueueOfFile 1,.deleteTrackedFile 1,checkedOk,checkedOk,checkedOk,checkedOk,checkedOk,.deleteSyncQueueOfFile 2,
    .deleteTrackedFile 2,checkedOk,checkedOk,checkedOk,checkedOk,checkedOk,checkedOk,checkedOk]

theorem integrityRun_survives_threeFiles :
    ∃ s, machine.exec threeFiles untrackedBeside = some s ∧ s.phase = .finished ∧
      (s.db.trackedFilesInScope (some 1)).map TrackedFile.id = [3] ∧
      (s.db.integrityRuns.find? s.runId).map IntegrityRun.status ≠ some .failed ∧
      ∀ file ∈ s.db.trackedFilesInScope (some 1), file.id ∈ s.db.recordedFiles s.runId := by
  have first : machine.Reaches Careful threeFiles _ := .step (.deleteSyncQueueOfFile 1) .start trivial rfl
  have gone : machine.Reaches Careful threeFiles _ :=
    .step (.deleteTrackedFile 1) first ⟨List.not_mem_nil,fun _ counting => nomatch counting⟩ rfl
  have listed : machine.Reaches Careful threeFiles _ :=
    .step checkedOk gone (fun _ _ _ _ early => absurd early List.not_mem_nil) rfl
  have counted : machine.Reaches Careful threeFiles _ := .step checkedOk listed (fun list => nomatch list) rfl
  have stamped : machine.Reaches Careful threeFiles _ := .step checkedOk counted (fun list => nomatch list) rfl
  have inserted : machine.Reaches Careful threeFiles _ := .step checkedOk stamped (fun list => nomatch list) rfl
  have readBack : machine.Reaches Careful threeFiles _ := .step checkedOk inserted (fun list => nomatch list) rfl
  have second : machine.Reaches Careful threeFiles _ := .step (.deleteSyncQueueOfFile 2) readBack trivial rfl
  have goneToo : machine.Reaches Careful threeFiles _ :=
    .step (.deleteTrackedFile 2) second ⟨by decide +kernel,fun _ counting => nomatch counting⟩ rfl
  have last : machine.Reaches Careful threeFiles _ := .step checkedOk goneToo (fun list => nomatch list) rfl
  have stampedToo : machine.Reaches Careful threeFiles _ := .step checkedOk last (fun list => nomatch list) rfl
  have insertedToo : machine.Reaches Careful threeFiles _ := .step checkedOk stampedToo (fun list => nomatch list) rfl
  have readBackToo : machine.Reaches Careful threeFiles _ := .step checkedOk insertedToo (fun list => nomatch list) rfl
  have through : machine.Reaches Careful threeFiles _ := .step checkedOk readBackToo (fun list => nomatch list) rfl
  have paged : machine.Reaches Careful threeFiles _ := .step checkedOk through (fun list => nomatch list) rfl
  have ended : machine.Reaches Careful threeFiles _ := .step checkedOk paged (fun _ pair none_left => nomatch none_left) rfl
  have found : scopePairs (uncheckedDb 3) (some 1) = .ok [photoPair 1] := rfl
  have survives := integrityRun_survives (uncheckedDb_keys 3) found false "manual" ended
  exact ⟨_,rfl,rfl,rfl,survives.1,survives.2 rfl⟩

/-- The file goes between the listing of its page and the insert of its result. -/
def untrackedInPage : List UntrackStep :=
  [checkedOk,checkedOk,.deleteSyncQueueOfFile 1,.deleteTrackedFile 1,checkedOk,checkedOk]

theorem untracking_fails_run :
    ¬ ∀ (db : Db) (scope : Option Nat) (pairs : List DrivePair) (recover : Bool) (trigger : String) (s : UntrackState),
      db.ForeignKeys → scopePairs db scope = .ok pairs →
      machine.Reaches (fun _ _ => True) (begun db scope recover trigger pairs) s →
        (s.db.integrityRuns.find? s.runId).map IntegrityRun.status ≠ some .failed ∧
        (s.phase = .finished → ∀ file ∈ s.db.trackedFilesInScope scope, file.id ∈ s.db.recordedFiles s.runId) := by
  intro survives
  obtain ⟨s,ran,failed⟩ : ∃ s, machine.exec begunRun untrackedInPage = some s ∧
      (s.db.integrityRuns.find? s.runId).map IntegrityRun.status = some .failed := ⟨_,rfl,rfl⟩
  exact (survives _ (some 1) _ _ _ s (uncheckedDb_keys 1) rfl (Machine.reaches_of_exec ran)).1 failed

end BitProtector.IntegrityUntracking
