import BitProtector.FolderStatus

/-! What a walk does to the files of a pair, seen by path: the row and the queue items of the
file, without their ids. A step changes what is seen at one path only. -/
namespace BitProtector.ScanStates
open Effect

/-! Files by path. -/

def fileAt (db : Db) (pairId : Nat) (path : String) : Option TrackedFile :=
  db.trackedFiles.rows.find? (fun file => file.drivePairId == pairId && file.relativePath == path)

def anonymous (item : SyncQueueItem) : SyncQueueItem := { item with id := 0,trackedFileId := 0 }

/-- The queue items of a file, oldest first. -/
def queueOf (db : Db) (fileId : Nat) : List SyncQueueItem :=
  (db.syncQueue.rows.filter (fun item => item.trackedFileId == fileId)).map anonymous

@[ext] structure FileState where
  row : TrackedFile
  queue : List SyncQueueItem
  deriving DecidableEq, Repr

def stateOf (db : Db) (file : TrackedFile) : FileState := ⟨{ file with id := 0 },queueOf db file.id⟩

def stateAt (db : Db) (pairId : Nat) (path : String) : Option FileState := (fileAt db pairId path).map (stateOf db)

/-- What the schema promises: `UNIQUE(drive_pair_id, relative_path)`, and queue items of known files. -/
structure Sound (db : Db) : Prop where
  paths : ∀ a ∈ db.trackedFiles.rows, ∀ b ∈ db.trackedFiles.rows,
    a.drivePairId = b.drivePairId → a.relativePath = b.relativePath → a = b
  refs : ∀ item ∈ db.syncQueue.rows, item.trackedFileId ≤ db.trackedFiles.lastId

variable {db next : Db} {pairId : Nat} {path : String}

theorem fileAt_some {file : TrackedFile} (found : fileAt db pairId path = some file) :
    file ∈ db.trackedFiles.rows ∧ file.drivePairId = pairId ∧ file.relativePath = path := by
  have held := List.find?_some found
  rw [Bool.and_eq_true,beq_iff_eq,beq_iff_eq] at held
  exact ⟨List.mem_of_find?_eq_some found,held⟩

theorem fileAt_of_mem (sound : Sound db) {file : TrackedFile} (present : file ∈ db.trackedFiles.rows) :
    fileAt db file.drivePairId file.relativePath = some file := by
  cases found : fileAt db file.drivePairId file.relativePath with
  | none =>
    have other := List.find?_eq_none.mp found file present
    simp at other
  | some other =>
    obtain ⟨row,pair,same⟩ := fileAt_some found
    rw [sound.paths other row file present pair same]

theorem fileAt_none : fileAt db pairId path = none ↔
    ∀ file ∈ db.trackedFiles.rows, file.drivePairId = pairId → file.relativePath ≠ path := by
  rw [fileAt,List.find?_eq_none]
  simp only [Bool.and_eq_true,beq_iff_eq,not_and,ne_eq]

theorem getTrackedFileByPath_some {file : TrackedFile} (found : fileAt db pairId path = some file) :
    db.getTrackedFileByPath pairId path = .ok file := by
  unfold fileAt at found
  rw [Db.getTrackedFileByPath,found]

theorem getTrackedFileByPath_none (none : fileAt db pairId path = none) :
    db.getTrackedFileByPath pairId path = .error Db.queryReturnedNoRows := by
  unfold fileAt at none
  rw [Db.getTrackedFileByPath,none]

theorem stateAt_none : stateAt db pairId path = none ↔ fileAt db pairId path = none := Option.map_eq_none_iff

/-! A step at one path. -/

structure Acts (pairId : Nat) (path : String) (f : Option FileState → Option FileState) (db next : Db) : Prop where
  state : stateAt next pairId path = f (stateAt db pairId path)
  others : ∀ other, other ≠ path → stateAt next pairId other = stateAt db pairId other
  kept : ∀ other file, fileAt db pairId other = some file → ∃ now, fileAt next pairId other = some now ∧ now.id = file.id
  folders : ∀ file, next.inTrackedFolder file = db.inTrackedFolder file
  sound : Sound next

theorem Acts.still (sound : Sound db) : Acts pairId path id db db :=
  ⟨rfl,fun _ _ => rfl,fun _ file found => ⟨file,found,rfl⟩,fun _ => rfl,sound⟩

theorem Acts.trans {f g : Option FileState → Option FileState} {last : Db} (first : Acts pairId path f db next)
    (second : Acts pairId path g next last) : Acts pairId path (g ∘ f) db last := by
  constructor
  · rw [second.state,first.state]
    rfl
  · exact fun other apart => (second.others other apart).trans (first.others other apart)
  · intro other file found
    obtain ⟨now,there,same⟩ := first.kept other file found
    obtain ⟨later,still,again⟩ := second.kept other now there
    exact ⟨later,still,again.trans same⟩
  · exact fun file => (second.folders file).trans (first.folders file)
  · exact second.sound

theorem Acts.congr {f g : Option FileState → Option FileState} (acts : Acts pairId path f db next)
    (same : f (stateAt db pairId path) = g (stateAt db pairId path)) : Acts pairId path g db next :=
  { acts with state := acts.state.trans same }

/-! The statements as steps. -/

theorem fileAt_of_rows {change : TrackedFile → TrackedFile} (rows : next.trackedFiles.rows = db.trackedFiles.rows.map change)
    (keeps : ∀ file, (change file).drivePairId = file.drivePairId ∧ (change file).relativePath = file.relativePath)
    (pairId : Nat) (path : String) : fileAt next pairId path = (fileAt db pairId path).map change := by
  rw [fileAt,rows,List.find?_map,fileAt]
  congr 2
  funext file
  rw [Function.comp_apply,(keeps file).1,(keeps file).2]

theorem sound_of_rows {change : TrackedFile → TrackedFile} (sound : Sound db)
    (rows : next.trackedFiles.rows = db.trackedFiles.rows.map change)
    (keeps : ∀ file, (change file).drivePairId = file.drivePairId ∧ (change file).relativePath = file.relativePath)
    (refs : ∀ item ∈ next.syncQueue.rows, item.trackedFileId ≤ next.trackedFiles.lastId) : Sound next := by
  constructor
  · intro a first b second pair same
    rw [rows] at first second
    obtain ⟨x,rowX,rfl⟩ := List.mem_map.mp first
    obtain ⟨y,rowY,rfl⟩ := List.mem_map.mp second
    rw [(keeps x).1,(keeps y).1] at pair
    rw [(keeps x).2,(keeps y).2] at same
    rw [sound.paths x rowX y rowY pair same]
  · exact refs

theorem places_changed {change : TrackedFile → TrackedFile} (p : TrackedFile → Bool)
    (keeps : ∀ file, (change file).drivePairId = file.drivePairId ∧ (change file).relativePath = file.relativePath)
    (file : TrackedFile) : (if p file then change file else file).drivePairId = file.drivePairId ∧
      (if p file then change file else file).relativePath = file.relativePath := by
  split
  · exact keeps file
  · exact ⟨rfl,rfl⟩

theorem acts_update (sound : Sound db) {file : TrackedFile} (found : fileAt db pairId path = some file)
    (change : TrackedFile → TrackedFile) (keepsId)
    (keeps : ∀ file, (change file).drivePairId = file.drivePairId ∧ (change file).relativePath = file.relativePath)
    (blind : ∀ file : TrackedFile, { change file with id := 0 } = change { file with id := 0 }) :
    Acts pairId path (Option.map fun state => { state with row := change state.row }) db
      (db.updateTrackedFile file.id change keepsId) := by
  obtain ⟨row,_,own⟩ := fileAt_some found
  have rows : (db.updateTrackedFile file.id change keepsId).trackedFiles.rows =
      db.trackedFiles.rows.map (fun other => if other.id == file.id then change other else other) := rfl
  have places := places_changed (fun other : TrackedFile => other.id == file.id) keeps
  constructor
  · rw [stateAt,fileAt_of_rows rows places,found,stateAt,found]
    simp only [Option.map_some,beq_self_eq_true,if_true,stateOf,blind,keepsId]
    rfl
  · intro other apart
    rw [stateAt,fileAt_of_rows rows places,stateAt,Option.map_map]
    cases there : fileAt db pairId other with
    | none => rfl
    | some second =>
      obtain ⟨present,_,place⟩ := fileAt_some there
      have differs : second.id ≠ file.id := by
        intro same
        have equal : second = file := Table.key_injective _ present row same
        exact apart (place.symm.trans ((congrArg TrackedFile.relativePath equal).trans own))
      simp only [Option.map_some,Function.comp_apply,beq_eq_false_iff_ne.mpr differs]
      rfl
  · intro other second there
    rw [fileAt_of_rows rows places,there]
    refine ⟨_,rfl,?_⟩
    dsimp only
    split
    · exact keepsId second
    · rfl
  · exact fun _ => rfl
  · exact sound_of_rows sound rows places sound.refs

/-- A new item, without its ids. -/
def newItem (action : SyncAction) (reason errorMessage : Option String) : SyncQueueItem :=
  ⟨0,0,action,.pending,errorMessage,reason⟩

def isOpenFor (action : SyncAction) (reason : Option String) (item : SyncQueueItem) : Bool :=
  item.action == action && item.status.isOpen && item.reason == reason

def enqueue (action : SyncAction) (reason errorMessage : Option String) (state : FileState) : FileState :=
  if state.queue.any (isOpenFor action reason) then state
  else { state with queue := state.queue ++ [newItem action reason errorMessage] }

theorem enqueue_row (action : SyncAction) (reason errorMessage : Option String) (state : FileState) :
    (enqueue action reason errorMessage state).row = state.row := by
  unfold enqueue
  split
  · rfl
  · rfl

theorem enqueue_queue (action : SyncAction) (reason errorMessage : Option String) (state : FileState) :
    (enqueue action reason errorMessage state).queue =
      if state.queue.any (isOpenFor action reason) then state.queue
      else state.queue ++ [newItem action reason errorMessage] := by
  unfold enqueue
  split
  · rfl
  · rfl

theorem openSyncQueueItem_isSome (fileId : Nat) (action : SyncAction) (reason : Option String) :
    (db.openSyncQueueItem fileId action reason).isSome = (queueOf db fileId).any (isOpenFor action reason) := by
  rw [Db.openSyncQueueItem,List.isSome_find?,queueOf,List.any_map,List.any_filter]
  congr 1
  funext item
  simp only [Function.comp_apply,isOpenFor,anonymous,Bool.and_assoc]

theorem queueOf_create (fileId other : Nat) (action : SyncAction) (reason errorMessage : Option String) :
    queueOf (db.createSyncQueueItem fileId action reason errorMessage).2 other =
      queueOf db other ++ (if fileId = other then [newItem action reason errorMessage] else []) := by
  rw [queueOf,Db.createSyncQueueItem,Table.insert_rows,List.filter_append,List.map_append,queueOf]
  congr 1
  by_cases same : fileId = other
  · rw [if_pos same,List.filter_cons_of_pos (by simpa using same)]
    rfl
  · rw [if_neg same,List.filter_cons_of_neg (by simpa using same)]
    rfl

theorem acts_dedup (sound : Sound db) {file : TrackedFile} (found : fileAt db pairId path = some file)
    (action : SyncAction) (reason errorMessage : Option String) :
    Acts pairId path (Option.map (enqueue action reason errorMessage)) db
      (db.createSyncQueueItemDedupWithCreated file.id action reason errorMessage).2 := by
  obtain ⟨row,_,own⟩ := fileAt_some found
  have opened : (db.openSyncQueueItem file.id action reason).isSome =
      (queueOf db file.id).any (isOpenFor action reason) := openSyncQueueItem_isSome _ _ _
  unfold Db.createSyncQueueItemDedupWithCreated
  cases there : db.openSyncQueueItem file.id action reason with
  | some item =>
    rw [there] at opened
    apply (Acts.still sound).congr
    rw [stateAt,found,Option.map_some,Option.map_some,enqueue,stateOf,← opened]
    rfl
  | none =>
    rw [there] at opened
    have rows : (db.createSyncQueueItem file.id action reason errorMessage).2.trackedFiles = db.trackedFiles := rfl
    change Acts _ _ _ _ (db.createSyncQueueItem file.id action reason errorMessage).2
    have files (other : String) : fileAt (db.createSyncQueueItem file.id action reason errorMessage).2 pairId other =
        fileAt db pairId other := rfl
    constructor
    · rw [stateAt,files,found,stateAt,found,Option.map_some,Option.map_some,Option.map_some,enqueue,stateOf,stateOf,
        queueOf_create,if_pos rfl,← opened]
      rfl
    · intro other apart
      rw [stateAt,files,stateAt]
      cases second : fileAt db pairId other with
      | none => rfl
      | some held =>
        obtain ⟨present,_,place⟩ := fileAt_some second
        have differs : file.id ≠ held.id := by
          intro same
          have equal : file = held := Table.key_injective _ row present same
          exact apart (place.symm.trans ((congrArg TrackedFile.relativePath equal).symm.trans own))
        rw [Option.map_some,Option.map_some,stateOf,stateOf,queueOf_create,if_neg differs,List.append_nil]
    · exact fun other held second => ⟨held,second,rfl⟩
    · exact fun _ => rfl
    · constructor
      · exact sound.paths
      · intro item member
        rw [Db.createSyncQueueItem,Table.insert_rows] at member
        rcases List.mem_append.mp member with old | new
        · exact sound.refs item old
        · rw [List.mem_singleton.mp new]
          exact db.trackedFiles.bounded file row

/-- A row that a walk inserts. -/
def newRow (pairId : Nat) (path checksum : String) (fileSize : Nat) : TrackedFile :=
  ⟨0,pairId,path,checksum,fileSize,none,false,false,true,none⟩

theorem create_run (sound : Sound db) (none : fileAt db pairId path = none) (checksum : String) (fileSize : Nat)
    (direct viaFolder : Bool) :
    ∃ file, (db.createTrackedFileWithSource pairId path checksum fileSize Option.none direct viaFolder).1 = .ok file ∧
      fileAt (db.createTrackedFileWithSource pairId path checksum fileSize Option.none direct viaFolder).2 pairId path =
        some file ∧
      Acts pairId path (fun _ => some ⟨{ newRow pairId path checksum fileSize with
          trackedDirect := direct,trackedViaFolder := viaFolder },[]⟩) db
        (db.createTrackedFileWithSource pairId path checksum fileSize Option.none direct viaFolder).2 := by
  have free : db.trackedFiles.rows.any (fun file => file.drivePairId == pairId && file.relativePath == path) = false := by
    rw [List.any_eq_false]
    intro file present held
    rw [Bool.and_eq_true,beq_iff_eq,beq_iff_eq] at held
    exact fileAt_none.mp none file present held.1 held.2
  unfold Db.createTrackedFileWithSource
  rw [if_neg (by rw [free]; exact Bool.false_ne_true)]
  let row : TrackedFile := { newRow pairId path checksum fileSize with trackedDirect := direct,trackedViaFolder := viaFolder }
  let inserted := db.trackedFiles.insert (fun id => { row with id }) (fun _ => rfl)
  have search (other : String) : fileAt { db with trackedFiles := inserted } pairId other =
        (fileAt db pairId other).or (if path = other then
          some { row with id := db.trackedFiles.lastId + 1 } else Option.none) := by
    rw [fileAt,Table.insert_rows,List.find?_append,fileAt]
    congr 1
    by_cases same : path = other
    · rw [if_pos same,List.find?_cons_of_pos (by simp [row,newRow,same])]
    · rw [if_neg same,List.find?_cons_of_neg (by simp [row,newRow,same])]
      rfl
  have fresh : queueOf db (db.trackedFiles.lastId + 1) = [] := by
    rw [queueOf,List.map_eq_nil_iff,List.filter_eq_nil_iff]
    intro item member same
    have bound := sound.refs item member
    rw [beq_iff_eq] at same
    omega
  refine ⟨_,rfl,?_,?_⟩
  · refine (search path).trans ?_
    rw [none,if_pos rfl]
    rfl
  · constructor
    · rw [stateAt]
      refine (congrArg (Option.map _) (search path)).trans ?_
      rw [none,if_pos rfl,Option.none_or,Option.map_some,stateOf]
      congr 2
    · intro other apart
      rw [stateAt,stateAt]
      refine (congrArg (Option.map _) (search other)).trans ?_
      rw [if_neg (Ne.symm apart),Option.or_none]
      rfl
    · intro other file found
      refine ⟨file,(search other).trans ?_,rfl⟩
      rw [found,Option.some_or]
    · exact fun _ => rfl
    · constructor
      · intro a first b second pair same
        rw [Table.insert_rows] at first second
        have apart {file : TrackedFile} (old : file ∈ db.trackedFiles.rows) (pair : file.drivePairId = pairId) :
            file.relativePath ≠ path := fileAt_none.mp none file old pair
        rcases List.mem_append.mp first with oldA | newA <;> rcases List.mem_append.mp second with oldB | newB
        · exact sound.paths a oldA b oldB pair same
        · obtain rfl := List.mem_singleton.mp newB
          exact absurd same (apart oldA pair)
        · obtain rfl := List.mem_singleton.mp newA
          exact absurd same.symm (apart oldB pair.symm)
        · rw [List.mem_singleton.mp newA,List.mem_singleton.mp newB]
      · intro item member
        exact Nat.le_succ_of_le (sound.refs item member)

/-! Many steps. -/

/-- Every file of the pair goes through the change of its path. -/
structure Takes (pairId : Nat) (change : String → Option FileState → Option FileState) (db next : Db) : Prop where
  state : ∀ path, stateAt next pairId path = change path (stateAt db pairId path)
  kept : ∀ path file, fileAt db pairId path = some file → ∃ now, fileAt next pairId path = some now ∧ now.id = file.id
  folders : ∀ file, next.inTrackedFolder file = db.inTrackedFolder file
  sound : Sound next

theorem Takes.still (sound : Sound db) : Takes pairId (fun _ => id) db db :=
  ⟨fun _ => rfl,fun _ file found => ⟨file,found,rfl⟩,fun _ => rfl,sound⟩

theorem Takes.trans {f g : String → Option FileState → Option FileState} {last : Db} (first : Takes pairId f db next)
    (second : Takes pairId g next last) : Takes pairId (fun path => g path ∘ f path) db last := by
  constructor
  · intro path
    rw [second.state,first.state]
    rfl
  · intro path file found
    obtain ⟨now,there,same⟩ := first.kept path file found
    obtain ⟨later,still,again⟩ := second.kept path now there
    exact ⟨later,still,again.trans same⟩
  · exact fun file => (second.folders file).trans (first.folders file)
  · exact second.sound

theorem Takes.congr {f g : String → Option FileState → Option FileState} (takes : Takes pairId f db next)
    (same : ∀ path, f path (stateAt db pairId path) = g path (stateAt db pairId path)) : Takes pairId g db next :=
  { takes with state := fun path => (takes.state path).trans (same path) }

theorem Acts.takes {f : Option FileState → Option FileState} (acts : Acts pairId path f db next) :
    Takes pairId (fun other => if other = path then f else id) db next := by
  constructor
  · intro other
    by_cases same : other = path
    · rw [if_pos same,same,acts.state]
    · rw [if_neg same,acts.others other same]
      rfl
  · exact acts.kept
  · exact acts.folders
  · exact acts.sound

theorem Takes.quiet (takes : Takes pairId (fun _ => id) db next) (path : String) : Acts pairId path id db next :=
  ⟨takes.state path,fun other _ => takes.state other,takes.kept,takes.folders,takes.sound⟩

theorem Takes.cons {change : String → Option FileState → Option FileState} {paths : List String} {last : Db}
    (settles : ∀ state, change path (change path state) = change path state)
    (first : Acts pairId path (change path) db next)
    (rest : Takes pairId (fun other => if other ∈ paths then change other else id) next last) :
    Takes pairId (fun other => if other ∈ path::paths then change other else id) db last := by
  apply (first.takes.trans rest).congr
  intro other
  by_cases same : other = path
  · subst same
    rw [if_pos List.mem_cons_self,Function.comp_apply,if_pos rfl]
    split
    · exact settles _
    · rfl
  · by_cases later : other ∈ paths
    · rw [if_pos (List.mem_cons_of_mem path later),Function.comp_apply,if_neg same,if_pos later]
      rfl
    · rw [if_neg fun member => (List.mem_cons.mp member).elim same later,Function.comp_apply,if_neg same,if_neg later]
      rfl

theorem takes_folders (sound : Sound db) (p : TrackedFolder → Bool) (change : TrackedFolder → TrackedFolder) (keepsId)
    (keeps : ∀ folder, (change folder).drivePairId = folder.drivePairId ∧ (change folder).folderPath = folder.folderPath) :
    Takes pairId (fun _ => id) db (db.updateFolderWhere p change keepsId) := by
  constructor
  · exact fun _ => rfl
  · exact fun _ file found => ⟨file,found,rfl⟩
  · intro file
    rw [Db.inTrackedFolder,Db.updateFolderWhere,Table.updateWhere_rows,List.any_map,Db.inTrackedFolder]
    congr 1
    funext folder
    simp only [Function.comp_apply]
    split
    · rw [(keeps folder).1,(keeps folder).2]
    · rfl
  · exact ⟨sound.paths,sound.refs⟩

/-! The provenance of the files. -/

theorem provenanceOf_keeps (db : Db) (pairId : Nat) (file : TrackedFile) :
    (db.provenanceOf pairId file).id = file.id ∧ (db.provenanceOf pairId file).drivePairId = file.drivePairId ∧
      (db.provenanceOf pairId file).relativePath = file.relativePath := by
  unfold Db.provenanceOf
  split
  · exact ⟨rfl,rfl,rfl⟩
  · exact ⟨rfl,rfl,rfl⟩

theorem mem_recompute {file : TrackedFile} (pairId : Nat) (present : file ∈ db.trackedFiles.rows) :
    db.provenanceOf pairId file ∈ (db.recomputeFolderProvenanceForDrive pairId).trackedFiles.rows := by
  have found : db.trackedFiles.find? file.id = some file := Table.find?_of_mem _ present
  have now : (db.recomputeFolderProvenanceForDrive pairId).trackedFiles.find? file.id = some (db.provenanceOf pairId file) := by
    rw [Db.find?_recompute,found,Option.map_some]
  exact Table.mem_of_find? now

theorem of_mem_recompute {now : TrackedFile}
    (present : now ∈ (db.recomputeFolderProvenanceForDrive pairId).trackedFiles.rows) :
    ∃ file ∈ db.trackedFiles.rows, db.provenanceOf pairId file = now := by
  have found := Table.find?_of_mem _ present
  rw [Db.find?_recompute] at found
  obtain ⟨file,there,same⟩ := Option.map_eq_some_iff.mp found
  exact ⟨file,Table.mem_of_find? there,same⟩

theorem sound_recompute (sound : Sound db) : Sound (db.recomputeFolderProvenanceForDrive pairId) := by
  constructor
  · intro a first b second pair same
    obtain ⟨x,rowX,rfl⟩ := of_mem_recompute first
    obtain ⟨y,rowY,rfl⟩ := of_mem_recompute second
    rw [(provenanceOf_keeps db pairId x).2.1,(provenanceOf_keeps db pairId y).2.1] at pair
    rw [(provenanceOf_keeps db pairId x).2.2,(provenanceOf_keeps db pairId y).2.2] at same
    rw [sound.paths x rowX y rowY pair same]
  · exact sound.refs

theorem fileAt_recompute (sound : Sound db) (path : String) :
    fileAt (db.recomputeFolderProvenanceForDrive pairId) pairId path =
      (fileAt db pairId path).map (db.provenanceOf pairId) := by
  cases found : fileAt db pairId path with
  | some file =>
    obtain ⟨row,pair,own⟩ := fileAt_some found
    have kept := provenanceOf_keeps db pairId file
    have now := fileAt_of_mem (sound_recompute sound) (mem_recompute pairId row)
    rw [kept.2.1,kept.2.2,pair,own] at now
    rw [now,Option.map_some]
  | none =>
    rw [Option.map_none,fileAt_none]
    intro now present pair own
    obtain ⟨file,row,rfl⟩ := of_mem_recompute present
    rw [(provenanceOf_keeps db pairId file).2.1] at pair
    rw [(provenanceOf_keeps db pairId file).2.2] at own
    exact fileAt_none.mp found file row pair own

/-- A file with the flags that its folders give it. -/
def flagged (db : Db) (pairId : Nat) (state : FileState) : FileState :=
  { state with row := db.provenanceOf pairId state.row }

theorem takes_recompute (sound : Sound db) :
    Takes pairId (fun _ => Option.map (flagged db pairId)) db (db.recomputeFolderProvenanceForDrive pairId) := by
  constructor
  · intro path
    rw [stateAt,fileAt_recompute sound,stateAt,Option.map_map,Option.map_map]
    congr 1
    funext file
    rw [Function.comp_apply,Function.comp_apply,stateOf,stateOf,flagged,(provenanceOf_keeps db pairId file).1]
    congr 1
    unfold Db.provenanceOf
    split <;> rfl
  · intro path file found
    exact ⟨_,by rw [fileAt_recompute sound,found,Option.map_some],(provenanceOf_keeps db pairId file).1⟩
  · exact fun _ => rfl
  · exact sound_recompute sound

theorem flagged_congr (folders : ∀ file, next.inTrackedFolder file = db.inTrackedFolder file) (pairId : Nat) :
    flagged next pairId = flagged db pairId := by
  funext state
  rw [flagged,flagged,Db.provenanceOf,Db.provenanceOf,folders]

end BitProtector.ScanStates
