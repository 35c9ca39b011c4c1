import BitProtector.ScanStates

/-! The walks of the two scans over a folder whose files can be read, and the search for changes
over a pair, each as what it makes of the file of a path. -/
namespace BitProtector.ScanWalks
open Effect ScanStates

/-! Reads of the disk. -/

/-- What `x` answers depends on the disk only, and it changes nothing. -/
def Looks {α : Type} (x : Act α) : Prop := ∃ view : Disk → Except String α, ∀ w, x w = Act.query (fun _ => view w.disk) w

section
variable {α β : Type}

theorem looks_query (answer : Except String α) : Looks (Act.query fun _ => answer) := ⟨fun _ => answer,fun _ => rfl⟩

theorem looks_look (view : Disk → α) : Looks (Act.look view) := ⟨fun disk => .ok (view disk),fun _ => rfl⟩

theorem looks_pure (a : α) : Looks (pure a) := ⟨fun _ => .ok a,fun _ => rfl⟩

theorem looks_bail (message : String) : Looks (Act.bail message : Act α) := ⟨fun _ => .error message,fun _ => rfl⟩

theorem looks_ensure (condition : Bool) (message : String) : Looks (Act.ensure condition message) := by
  cases condition with
  | false => exact looks_bail message
  | true => exact looks_pure ()

theorem looks_mapErr {x : Act α} (looks : Looks x) (text : String → String) : Looks (Act.mapErr text x) := by
  obtain ⟨view,answers⟩ := looks
  refine ⟨fun disk => (view disk).mapError text,fun w => ?_⟩
  rw [Act.mapErr,answers]
  unfold Act.query
  dsimp only
  cases view w.disk <;> rfl

theorem looks_bind {x : Act α} {f : α → Act β} (first : Looks x) (rest : ∀ a, Looks (f a)) : Looks (x >>= f) := by
  obtain ⟨view,answers⟩ := first
  choose views others using rest
  refine ⟨fun disk => (view disk).bind fun a => views a disk,fun w => ?_⟩
  rw [bind_apply,answers]
  unfold Act.query
  dsimp only
  cases view w.disk with
  | error message => rfl
  | ok a => exact others a w

def resultOf (x : Act α) (w : World) : Except String α :=
  match x w with
  | .ok a _ => .ok a
  | .error message _ => .error message

theorem Looks.attempt {x : Act α} (looks : Looks x) (w : World) :
    Effect.attempt x w = .ok (resultOf x ⟨Db.empty,w.disk⟩) w := by
  obtain ⟨view,answers⟩ := looks
  rw [Effect.attempt,resultOf,answers,answers]
  unfold Act.query
  dsimp only
  cases view w.disk <;> rfl

theorem Looks.still {x : Act α} (looks : Looks x) (w : World) : after x w = w := by
  obtain ⟨view,answers⟩ := looks
  have same := Act.after_query (fun _ => view w.disk) w
  unfold after at same ⊢
  rw [answers]
  exact same

end

theorem looks_readToString (io : Io) (path : Location) : Looks (Sidecar.readToString io path) := by
  refine ⟨fun disk => resultOf (Sidecar.readToString io path) ⟨Db.empty,disk⟩,fun w => ?_⟩
  unfold resultOf Sidecar.readToString Act.query
  dsimp only
  cases w.disk.node path with
  | none => rfl
  | some node =>
    cases reads : io.openRead path && node.whole with
    | false => simp [reads]
    | true =>
      simp only [reads,if_true]
      cases String.fromUTF8? ⟨node.bytes.toArray⟩ <;> rfl

theorem looks_readB3Sidecar (io : Io) (path : Location) : Looks (Sidecar.readB3Sidecar io path) := by
  apply looks_bind (looks_query _)
  intro sidecarPath
  apply looks_bind (looks_look _)
  intro present
  split
  · exact looks_pure none
  · apply looks_bind (looks_look _)
    intro size
    apply looks_bind (looks_ensure _ _)
    intro _
    apply looks_bind (looks_mapErr (looks_readToString io sidecarPath) _)
    intro content
    split
    · exact looks_bail _
    · exact looks_bind (looks_query _) fun _ => looks_pure _

section
variable [Blake3]

/-- The checksum of a file that can be read to its end. -/
def hashAt (io : Io) (disk : Disk) (path : Location) : Option String :=
  (disk.node path).bind fun node =>
    if io.openRead path && node.whole then some (checksumBytes node.bytes) else none

variable {io : Io} {pair : DrivePair} {w : World} {path hash : String} {location : Location}

theorem checksumFile_hashAt (strategy : ChecksumStrategy) : checksumFile io location strategy w =
    Act.query (fun _ => (hashAt io w.disk location).elim (.error osError) .ok) w := by
  rw [checksumFile_run,hashAt]
  unfold Act.query
  cases w.disk.node location with
  | none => rfl
  | some node =>
    dsimp only [Option.bind_some]
    cases io.openRead location && node.whole <;> rfl

theorem checksumFile_of_hash (read : hashAt io w.disk location = some hash) (strategy : ChecksumStrategy) :
    checksumFile io location strategy w = .ok hash w := by
  rw [checksumFile_hashAt,read]
  rfl

theorem checksumFile_of_unread (unread : hashAt io w.disk location = none) (strategy : ChecksumStrategy) :
    checksumFile io location strategy w = .error osError w := by
  rw [checksumFile_hashAt,unread]
  rfl

theorem exists_of_hash {disk : Disk} (read : hashAt io disk location = some hash) : disk.exists? location = true := by
  obtain ⟨node,there,_⟩ := Option.bind_eq_some_iff.mp read
  rw [Disk.exists?,there]
  rfl

/-! What the steps make of a file. -/

def mismatchAt (io : Io) (disk : Disk) (location : Location) (hash : String) : Option SidecarMismatch :=
  sidecarMismatch hash (resultOf (Sidecar.readB3Sidecar io location) ⟨Db.empty,disk⟩)

def mismatchText (mismatch : SidecarMismatch) : String :=
  let expected := mismatch.expectedChecksum
  let computed := mismatch.computedChecksum
  s!"Expected {expected} from .b3 sidecar, computed {computed}"

/-- A file that a walk has just tracked. -/
def enrolled (io : Io) (disk : Disk) (pair : DrivePair) (path hash : String) : FileState :=
  let location := pair.copyOn pair.activeRole path
  let state : FileState := ⟨newRow pair.id path hash (fileSize location disk),[]⟩
  match mismatchAt io disk location hash with
  | some mismatch => enqueue .userActionRequired (some b3SidecarMismatchReason) (some (mismatchText mismatch)) state
  | none => if pair.standbyAcceptsSync disk then enqueue .adoptMirror none none state else state

/-- A tracked file with a new checksum. -/
def changedTo (disk : Disk) (pair : DrivePair) (path hash : String) (state : FileState) : FileState :=
  let size := fileSize (pair.copyOn pair.activeRole path) disk
  let next : FileState := { state with row := { state.row with checksum := hash,fileSize := size,isMirrored := false } }
  if pair.standbyAcceptsSync disk then enqueue .mirror none none next else next

/-- A tracked file whose contents have this checksum now. -/
def refreshed (disk : Disk) (pair : DrivePair) (path hash : String) (state : FileState) : FileState :=
  if hash = state.row.checksum then state else changedTo disk pair path hash state

/-- `auto_track_folder_files` at a path. -/
def autoTracked (io : Io) (disk : Disk) (pair : DrivePair) (path : String) : Option FileState → Option FileState
  | none => (hashAt io disk (pair.copyOn pair.activeRole path)).map (enrolled io disk pair path)
  | some state => some state

/-- `scan_and_record_changes` at a path. -/
def recorded (io : Io) (disk : Disk) (pair : DrivePair) (path : String) : Option FileState → Option FileState :=
  Option.map fun state =>
    (hashAt io disk (pair.copyOn pair.activeRole path)).elim state (fun hash => refreshed disk pair path hash state)

/-- `scan_tracked_folder` at a path. -/
def scanned (io : Io) (disk : Disk) (pair : DrivePair) (path : String) : Option FileState → Option FileState
  | none => autoTracked io disk pair path none
  | some state => recorded io disk pair path (some state)

/-! The runs of the steps. -/

omit [Blake3] in
theorem metadataLen_run (present : w.disk.exists? location = true) :
    metadataLen location w = .ok (fileSize location w.disk) w := by
  rw [metadataLen,bind_of_ok (Act.look_apply _ _),present]
  rfl

theorem createTrackedFileFromDisk_run (direct viaFolder : Bool) (sound : Sound w.db)
    (fresh : fileAt w.db pair.id path = none) (permits : io.ensureWorldReadable (pair.copyOn pair.activeRole path) = true)
    (read : hashAt io w.disk (pair.copyOn pair.activeRole path) = some hash) :
    ∃ file t, createTrackedFileFromDisk io pair path direct viaFolder w =
        .ok (file,mismatchAt io w.disk (pair.copyOn pair.activeRole path) hash) t ∧
      t.disk = w.disk ∧ fileAt t.db pair.id path = some file ∧
      Acts pair.id path (fun _ => some ⟨{ newRow pair.id path hash (fileSize (pair.copyOn pair.activeRole path) w.disk) with
        trackedDirect := direct,trackedViaFolder := viaFolder },[]⟩) w.db t.db := by
  have present := exists_of_hash read
  obtain ⟨file,created,found,acts⟩ :=
    create_run sound fresh hash (fileSize (pair.copyOn pair.activeRole path) w.disk) direct viaFolder
  refine ⟨file,⟨(w.db.createTrackedFileWithSource pair.id path hash
    (fileSize (pair.copyOn pair.activeRole path) w.disk) none direct viaFolder).2,w.disk⟩,?_,rfl,found,acts⟩
  unfold createTrackedFileFromDisk
  rw [bind_of_ok (Act.look_apply _ _),present,bind_of_ok (Act.ensure_true _ _)]
  have readable : ensureWorldReadable io (pair.copyOn pair.activeRole path) w = .ok () w := by
    rw [ensureWorldReadable,bind_of_ok (Act.look_apply _ _),present,bind_of_ok (Act.ensure_true _ _),permits]
    rfl
  rw [bind_of_ok readable,bind_of_ok (Act.mapErr_of_ok (checksumFile_of_hash read _) _),
    bind_of_ok ((looks_readB3Sidecar _ _).attempt w),bind_of_ok (metadataLen_run present)]
  have inserted : Act.insertOrFail (fun db => db.createTrackedFileWithSource pair.id path hash
      (fileSize (pair.copyOn pair.activeRole path) w.disk) none direct viaFolder) w = .ok file { w with db :=
        (w.db.createTrackedFileWithSource pair.id path hash
          (fileSize (pair.copyOn pair.activeRole path) w.disk) none direct viaFolder).2 } := by
    rw [Act.insertOrFail,created]
  rw [bind_of_ok inserted]
  rfl

omit [Blake3] in
theorem dedup_run {file : TrackedFile} {state : FileState}
    (found : fileAt w.db pair.id path = some file) (seen : stateAt w.db pair.id path = some state)
    (action : SyncAction) (reason errorMessage : Option String) :
    ∃ item, Act.insert (fun db => db.createSyncQueueItemDedupWithCreated file.id action reason errorMessage) w =
        .ok (item,!state.queue.any (isOpenFor action reason))
          { w with db := (w.db.createSyncQueueItemDedupWithCreated file.id action reason errorMessage).2 } := by
  rw [stateAt,found,Option.map_some] at seen
  have opened : (w.db.openSyncQueueItem file.id action reason).isSome = state.queue.any (isOpenFor action reason) := by
    rw [← Option.some.inj seen]
    exact openSyncQueueItem_isSome _ _ _
  rw [← opened,Act.insert_apply]
  unfold Db.createSyncQueueItemDedupWithCreated
  cases w.db.openSyncQueueItem file.id action reason with
  | some item => exact ⟨item,rfl⟩
  | none => exact ⟨_,rfl⟩

theorem autoTrackFile_run (sound : Sound w.db) (fresh : fileAt w.db pair.id path = none)
    (permits : io.ensureWorldReadable (pair.copyOn pair.activeRole path) = true)
    (read : hashAt io w.disk (pair.copyOn pair.activeRole path) = some hash) :
    ∃ file t, autoTrackFile io pair path w = .ok file t ∧ t.disk = w.disk ∧
      Acts pair.id path (autoTracked io w.disk pair path) w.db t.db := by
  obtain ⟨file,u,ran,same,found,acts⟩ := createTrackedFileFromDisk_run false true sound fresh permits read
  have start : stateAt w.db pair.id path = none := stateAt_none.mpr fresh
  have state := acts.state
  unfold autoTrackFile
  rw [bind_of_ok ran]
  dsimp only
  have ends (queue : Act Unit) (t : World) (queued : queue u = .ok () t) :
      (do queue; pure file : Act TrackedFile) u = .ok file t := by
    rw [bind_of_ok queued]
    rfl
  cases mismatched : mismatchAt io w.disk (pair.copyOn pair.activeRole path) hash with
  | some mismatch =>
    obtain ⟨item,queued⟩ := dedup_run found state .userActionRequired (some b3SidecarMismatchReason)
      (some (mismatchText mismatch))
    refine ⟨file,⟨(u.db.createSyncQueueItemDedupWithCreated file.id .userActionRequired
      (some b3SidecarMismatchReason) (some (mismatchText mismatch))).2,u.disk⟩,ends _ _ ?_,same,?_⟩
    · rw [queueAutoTracked,queueB3SidecarMismatch]
      exact (bind_of_ok queued _).trans rfl
    · apply (acts.trans (acts_dedup acts.sound found _ _ _)).congr
      rw [start,autoTracked,read,Option.map_some,enrolled,mismatched]
      rfl
  | none =>
    have there : pair.standbyAcceptsSync u.disk = pair.standbyAcceptsSync w.disk := by rw [same]
    cases accepts : pair.standbyAcceptsSync w.disk with
    | true =>
      rw [accepts] at there
      obtain ⟨item,queued⟩ := dedup_run found state .adoptMirror none none
      refine ⟨file,⟨(u.db.createSyncQueueItemDedupWithCreated file.id .adoptMirror none none).2,u.disk⟩,ends _ _ ?_,same,?_⟩
      · have created : createForNewTracking file.id u = .ok item _ := (bind_of_ok queued _).trans rfl
        rw [queueAutoTracked,bind_of_ok (Act.look_apply _ _),there,if_pos rfl,bind_of_ok created]
        rfl
      · apply (acts.trans (acts_dedup acts.sound found _ _ _)).congr
        rw [start,autoTracked,read,Option.map_some,enrolled,mismatched]
        dsimp only
        rw [accepts,if_pos rfl]
        rfl
    | false =>
      rw [accepts] at there
      refine ⟨file,⟨u.db.updateTrackedFileMirrorStatus file.id false,u.disk⟩,ends _ _ ?_,same,?_⟩
      · rw [queueAutoTracked,bind_of_ok (Act.look_apply _ _),there,if_neg Bool.false_ne_true]
        rfl
      · apply (acts.trans (acts_update acts.sound found (fun file => { file with isMirrored := false }) (fun _ => rfl)
          (fun _ => ⟨rfl,rfl⟩) (fun _ => rfl))).congr
        rw [start,autoTracked,read,Option.map_some,enrolled,mismatched]
        dsimp only
        rw [accepts,if_neg Bool.false_ne_true]
        rfl

omit [Blake3] in
theorem recordChange_run {file : TrackedFile} (sound : Sound w.db) (found : fileAt w.db pair.id path = some file)
    (present : w.disk.exists? (pair.copyOn pair.activeRole path) = true) (hash : String) :
    ∃ t, recordChange pair file.id (pair.copyOn pair.activeRole path) hash w = .ok () t ∧ t.disk = w.disk ∧
      Acts pair.id path (Option.map (changedTo w.disk pair path hash)) w.db t.db := by
  let size := fileSize (pair.copyOn pair.activeRole path) w.disk
  let first := w.db.updateTrackedFileChecksum file.id hash size
  let second := first.updateTrackedFileMirrorStatus file.id false
  have acts₁ : Acts pair.id path _ w.db first :=
    acts_update sound found (fun file => { file with checksum := hash,fileSize := size }) (fun _ => rfl)
      (fun _ => ⟨rfl,rfl⟩) (fun _ => rfl)
  obtain ⟨now,found₁,same₁⟩ := acts₁.kept path file found
  have acts₂ := acts_update acts₁.sound found₁ (fun file => { file with isMirrored := false }) (fun _ => rfl)
    (fun _ => ⟨rfl,rfl⟩) (fun _ => rfl)
  obtain ⟨later,found₂,same₂⟩ := acts₂.kept path now found₁
  rw [same₁] at acts₂ found₂ same₂
  have acts : Acts pair.id path _ w.db second := acts₁.trans acts₂
  have start : recordChange pair file.id (pair.copyOn pair.activeRole path) hash w =
      (do if ← Act.look (fun disk => pair.standbyAcceptsSync disk) then
            let _ ← createFromChange file.id) ⟨second,w.disk⟩ := by
    rw [recordChange,bind_of_ok (metadataLen_run present),bind_of_ok (Act.execute_apply _ _),
      bind_of_ok (Act.execute_apply _ _)]
  rw [start,bind_of_ok (Act.look_apply _ _)]
  dsimp only
  cases accepts : pair.standbyAcceptsSync w.disk with
  | true =>
    rw [if_pos rfl]
    refine ⟨⟨(second.createSyncQueueItemDedup file.id .mirror).2,w.disk⟩,rfl,rfl,?_⟩
    have queued := acts_dedup acts.sound found₂ .mirror none none
    rw [same₂] at queued
    apply (acts.trans queued).congr
    simp only [Function.comp_apply,Option.map_map]
    congr 1
    funext state
    rw [changedTo,accepts,if_pos rfl]
    rfl
  | false =>
    rw [if_neg Bool.false_ne_true]
    refine ⟨⟨second,w.disk⟩,rfl,rfl,acts.congr ?_⟩
    simp only [Function.comp_apply,Option.map_map]
    congr 1
    funext state
    rw [changedTo,accepts,if_neg Bool.false_ne_true]
    rfl

omit [Blake3] in
theorem lookup_some {file : TrackedFile} (found : fileAt w.db pair.id path = some file) :
    attempt (Act.query (fun db => db.getTrackedFileByPath pair.id path)) w = .ok (.ok file) w :=
  attempt_of_ok (by simp only [Act.query,getTrackedFileByPath_some found])

omit [Blake3] in
theorem lookup_none (none : fileAt w.db pair.id path = none) :
    attempt (Act.query (fun db => db.getTrackedFileByPath pair.id path)) w = .ok (.error Db.queryReturnedNoRows) w :=
  attempt_of_error (by simp only [Act.query,getTrackedFileByPath_none none])

/-- One file of the walk of `POST /folders/:id/scan`. -/
theorem scanFile_run (sound : Sound w.db)
    (permits : fileAt w.db pair.id path = none → io.ensureWorldReadable (pair.copyOn pair.activeRole path) = true)
    (read : hashAt io w.disk (pair.copyOn pair.activeRole path) = some hash) :
    ∃ t, scanFile io pair path w = .ok () t ∧ t.disk = w.disk ∧
      Acts pair.id path (scanned io w.disk pair path) w.db t.db := by
  unfold scanFile
  cases found : fileAt w.db pair.id path with
  | none =>
    obtain ⟨file,t,ran,same,acts⟩ := autoTrackFile_run sound found (permits found) read
    refine ⟨t,?_,same,acts.congr ?_⟩
    · rw [bind_of_ok (lookup_none found)]
      exact (bind_of_ok ran _).trans rfl
    · rw [stateAt_none.mpr found]
      rfl
  | some file =>
    have state : stateAt w.db pair.id path = some (stateOf w.db file) := by rw [stateAt,found,Option.map_some]
    rw [bind_of_ok (lookup_some found)]
    dsimp only
    rw [bind_of_ok (checksumFile_of_hash read _)]
    by_cases same : hash = file.checksum
    · rw [if_neg (not_not_intro same)]
      refine ⟨w,rfl,rfl,(Acts.still sound).congr ?_⟩
      rw [state,scanned,recorded,Option.map_some,read,Option.elim_some,refreshed]
      exact (congrArg some (if_pos same)).symm
    · rw [if_pos same]
      obtain ⟨t,ran,kept,acts⟩ := recordChange_run sound found (exists_of_hash read) hash
      refine ⟨t,ran,kept,acts.congr ?_⟩
      rw [state,scanned,recorded,Option.map_some,Option.map_some,read,Option.elim_some,refreshed]
      exact (congrArg some (if_neg same)).symm

/-- One file of the walk of `folders scan`. -/
theorem autoTrackPath_run (sound : Sound w.db)
    (permits : fileAt w.db pair.id path = none → io.ensureWorldReadable (pair.copyOn pair.activeRole path) = true)
    (read : hashAt io w.disk (pair.copyOn pair.activeRole path) = some hash) :
    ∃ t, autoTrackPath io pair path w = .ok () t ∧ t.disk = w.disk ∧
      Acts pair.id path (autoTracked io w.disk pair path) w.db t.db := by
  unfold autoTrackPath
  cases found : fileAt w.db pair.id path with
  | none =>
    obtain ⟨file,t,ran,same,acts⟩ := autoTrackFile_run sound found (permits found) read
    refine ⟨t,?_,same,acts⟩
    rw [bind_of_ok (lookup_none found)]
    exact (bind_of_ok ran _).trans rfl
  | some file =>
    refine ⟨w,?_,rfl,(Acts.still sound).congr ?_⟩
    · rw [bind_of_ok (lookup_some found)]
      rfl
    · rw [stateAt,found]
      rfl

/-! The walks. -/

/-- The paths that a walk over the folder looks at. -/
def visits (folder : TrackedFolder) (paths : List String) : List String :=
  paths.filter (fun path => !passedOver folder path)

/-- The file can be read, and made readable if it gets tracked. -/
structure Readable (io : Io) (w : World) (pair : DrivePair) (path : String) : Prop where
  read : (hashAt io w.disk (pair.copyOn pair.activeRole path)).isSome = true
  permits : fileAt w.db pair.id path = none → io.ensureWorldReadable (pair.copyOn pair.activeRole path) = true

theorem Readable.later {t : World} {other : String} {f : Option FileState → Option FileState}
    (readable : Readable io w pair path) (disk : t.disk = w.disk) (acts : Acts pair.id other f w.db t.db) :
    Readable io t pair path := by
  constructor
  · rw [disk]
    exact readable.read
  · intro fresh
    apply readable.permits
    cases found : fileAt w.db pair.id path with
    | none => rfl
    | some file =>
      obtain ⟨now,there,_⟩ := acts.kept path file found
      rw [fresh] at there
      cases there

omit [Blake3] in
theorem enrolled_checksum (disk : Disk) (path hash : String) : (enrolled io disk pair path hash).row.checksum = hash := by
  unfold enrolled
  dsimp only
  split
  · rw [enqueue_row]
    rfl
  · split
    · rw [enqueue_row]
      rfl
    · rfl

omit [Blake3] in
theorem changedTo_row (disk : Disk) (path hash : String) (state : FileState) :
    (changedTo disk pair path hash state).row = { state.row with
      checksum := hash
      fileSize := fileSize (pair.copyOn pair.activeRole path) disk
      isMirrored := false } := by
  unfold changedTo
  dsimp only
  split
  · rw [enqueue_row]
  · rfl

omit [Blake3] in
theorem changedTo_queue {first second : FileState} (same : first.queue = second.queue) (disk : Disk) (path hash : String) :
    (changedTo disk pair path hash first).queue = (changedTo disk pair path hash second).queue := by
  unfold changedTo
  dsimp only
  split
  · rw [enqueue_queue,enqueue_queue,same]
  · exact same

omit [Blake3] in
theorem refreshed_checksum (disk : Disk) (path hash : String) (state : FileState) :
    (refreshed disk pair path hash state).row.checksum = hash := by
  unfold refreshed
  split
  · rename_i same
    exact same.symm
  · rw [changedTo_row]

omit [Blake3] in
theorem refreshed_known {disk : Disk} {state : FileState} (known : state.row.checksum = hash) :
    refreshed disk pair path hash state = state := if_pos known.symm

theorem scanned_twice (disk : Disk) (path : String) (state : Option FileState) :
    scanned io disk pair path (scanned io disk pair path state) = scanned io disk pair path state := by
  cases read : hashAt io disk (pair.copyOn pair.activeRole path) with
  | none => cases state <;> simp [scanned,autoTracked,recorded,read]
  | some hash =>
    cases state with
    | none => simp [scanned,autoTracked,recorded,read,refreshed_known (enrolled_checksum disk path hash)]
    | some state => simp [scanned,recorded,read,refreshed_known (refreshed_checksum disk path hash state)]

theorem autoTracked_twice (disk : Disk) (path : String) (state : Option FileState) :
    autoTracked io disk pair path (autoTracked io disk pair path state) = autoTracked io disk pair path state := by
  cases read : hashAt io disk (pair.copyOn pair.activeRole path) with
  | none => cases state <;> simp [autoTracked,read]
  | some hash => cases state <;> simp [autoTracked,read]

theorem scanFiles_run (folder : TrackedFolder) (paths : List String) (count : Nat) {w : World} (sound : Sound w.db)
    (readable : ∀ path ∈ visits folder paths, Readable io w pair path) :
    ∃ t, scanFiles io pair folder count paths w = .ok () t ∧ t.disk = w.disk ∧
      Takes pair.id (fun path => if path ∈ visits folder paths then scanned io w.disk pair path else id) w.db t.db := by
  induction paths generalizing w count with
  | nil => exact ⟨w,rfl,rfl,Takes.still sound⟩
  | cons path paths ih =>
    unfold scanFiles
    cases skipped : passedOver folder path with
    | true =>
      have rest : visits folder (path::paths) = visits folder paths := List.filter_cons_of_neg (by simp [skipped])
      rw [if_pos rfl,rest]
      exact ih count sound (by rwa [← rest])
    | false =>
      have here : visits folder (path::paths) = path::visits folder paths := List.filter_cons_of_pos (by simp [skipped])
      rw [if_neg Bool.false_ne_true,here]
      rw [here,List.forall_mem_cons] at readable
      obtain ⟨hash,read⟩ := Option.isSome_iff_exists.mp readable.1.read
      obtain ⟨u,ran,same,acts⟩ := scanFile_run sound readable.1.permits read
      let counted : World := { u with db := u.db.updateScanProgress folder.id (count + 1) }
      have progress : Acts pair.id path id u.db counted.db :=
        (takes_folders acts.sound (fun other => other.id == folder.id)
          (fun other => { other with scanScannedFiles := count + 1 }) (fun _ => rfl) (fun _ => ⟨rfl,rfl⟩)).quiet path
      have acts' := acts.trans progress
      obtain ⟨t,rests,later,takes⟩ := ih (count + 1) (w := counted) acts'.sound
        (fun other member => (readable.2 other member).later same acts')
      refine ⟨t,?_,later.trans same,?_⟩
      · rw [bind_of_ok ran,bind_of_ok (Act.execute_apply _ _)]
        exact rests
      · rw [show counted.disk = w.disk from same] at takes
        exact Takes.cons (scanned_twice w.disk path) acts' takes

theorem autoTrackFiles_run (folder : TrackedFolder) (paths : List String) {w : World} (sound : Sound w.db)
    (readable : ∀ path ∈ visits folder paths, Readable io w pair path) :
    ∃ t, autoTrackFiles io pair folder paths w = .ok () t ∧ t.disk = w.disk ∧
      Takes pair.id (fun path => if path ∈ visits folder paths then autoTracked io w.disk pair path else id) w.db t.db := by
  induction paths generalizing w with
  | nil => exact ⟨w,rfl,rfl,Takes.still sound⟩
  | cons path paths ih =>
    unfold autoTrackFiles
    cases skipped : passedOver folder path with
    | true =>
      have rest : visits folder (path::paths) = visits folder paths := List.filter_cons_of_neg (by simp [skipped])
      rw [if_pos rfl,rest]
      exact ih sound (by rwa [← rest])
    | false =>
      have here : visits folder (path::paths) = path::visits folder paths := List.filter_cons_of_pos (by simp [skipped])
      rw [if_neg Bool.false_ne_true,here]
      rw [here,List.forall_mem_cons] at readable
      obtain ⟨hash,read⟩ := Option.isSome_iff_exists.mp readable.1.read
      obtain ⟨u,ran,same,acts⟩ := autoTrackPath_run sound readable.1.permits read
      obtain ⟨t,rests,later,takes⟩ := ih acts.sound fun other member => (readable.2 other member).later same acts
      refine ⟨t,(bind_of_ok ran _).trans rests,later.trans same,?_⟩
      rw [same] at takes
      exact Takes.cons (autoTracked_twice w.disk path) acts takes

/-! The changes of a pair. -/

/-- The change that `scan_all_changes` finds in a file. -/
def changeOf (io : Io) (disk : Disk) (pair : DrivePair) (file : TrackedFile) : Option (TrackedFile × String) :=
  ((hashAt io disk (pair.copyOn pair.activeRole file.relativePath)).filter (fun hash => decide (hash ≠ file.checksum))).map
    fun hash => (file,hash)

/-- A file that is there and cannot be read. -/
def unreadable (io : Io) (disk : Disk) (location : Location) : Bool :=
  disk.exists? location && (hashAt io disk location).isNone

theorem detectChange_run (stored : String) (reads : unreadable io w.disk location = false) :
    detectChange io location stored w =
      .ok ((hashAt io w.disk location).filter (fun hash => decide (hash ≠ stored))) w := by
  unfold detectChange
  rw [bind_of_ok (Act.look_apply _ _)]
  cases read : hashAt io w.disk location with
  | none =>
    rw [unreadable,read,Option.isNone_none,Bool.and_true] at reads
    rw [reads]
    rfl
  | some hash =>
    rw [exists_of_hash read,if_neg (by simp),bind_of_ok (checksumFile_of_hash read _)]
    by_cases same : hash = stored
    · rw [if_neg (not_not_intro same),Option.filter_some_neg (by simpa using same)]
      rfl
    · rw [if_pos same,Option.filter_some_pos (by simpa using same)]
      rfl

theorem detectChange_fails (stored : String) (fails : unreadable io w.disk location = true) :
    detectChange io location stored w = .error osError w := by
  rw [unreadable,Bool.and_eq_true,Option.isNone_iff_eq_none] at fails
  unfold detectChange
  rw [bind_of_ok (Act.look_apply _ _),fails.1,if_neg (by simp),bind_of_error (checksumFile_of_unread fails.2 _)]

/-- No tracked file of the list is there without being readable. -/
def readsAll (io : Io) (disk : Disk) (pair : DrivePair) (files : List TrackedFile) : Bool :=
  files.all (fun file => !unreadable io disk (pair.copyOn pair.activeRole file.relativePath))

theorem detectChanges_run {files : List TrackedFile} (reads : readsAll io w.disk pair files = true) :
    detectChanges io pair files w = .ok (files.filterMap (changeOf io w.disk pair)) w := by
  induction files with
  | nil => rfl
  | cons file files ih =>
    rw [readsAll,List.all_cons,Bool.and_eq_true,Bool.not_eq_true'] at reads
    unfold detectChanges
    rw [bind_of_ok (detectChange_run file.checksum reads.1),bind_of_ok (ih reads.2)]
    have split : (file::files).filterMap (changeOf io w.disk pair) =
        (changeOf io w.disk pair file).toList ++ files.filterMap (changeOf io w.disk pair) := by
      cases found : changeOf io w.disk pair file <;> simp [found]
    rw [split]
    rfl

theorem detectChanges_fails {files : List TrackedFile} (fails : readsAll io w.disk pair files = false) :
    detectChanges io pair files w = .error osError w := by
  induction files with
  | nil => cases fails
  | cons file files ih =>
    unfold detectChanges
    cases here : unreadable io w.disk (pair.copyOn pair.activeRole file.relativePath) with
    | true => rw [bind_of_error (detectChange_fails file.checksum here)]
    | false =>
      rw [readsAll,List.all_cons,here,Bool.not_false,Bool.true_and] at fails
      rw [bind_of_ok (detectChange_run file.checksum here),bind_of_error (ih fails)]

/-- The row that a listing showed is still there, with its checksum. -/
def Listed (db : Db) (pair : DrivePair) (file : TrackedFile) : Prop :=
  ∃ now, fileAt db pair.id file.relativePath = some now ∧ now.id = file.id ∧ now.checksum = file.checksum

omit [Blake3] in
theorem Listed.later {db next : Db} {file : TrackedFile} {f : Option FileState → Option FileState}
    (listed : Listed db pair file) (acts : Acts pair.id path f db next) (apart : file.relativePath ≠ path) :
    Listed next pair file := by
  obtain ⟨now,found,same,checksum⟩ := listed
  obtain ⟨later,there,again⟩ := acts.kept _ now found
  have state := acts.others _ apart
  rw [stateAt,there,stateAt,found,Option.map_some,Option.map_some,Option.some.injEq] at state
  exact ⟨later,there,again.trans same,(congrArg (fun state => state.row.checksum) state).trans checksum⟩

theorem recorded_twice (disk : Disk) (path : String) (state : Option FileState) :
    recorded io disk pair path (recorded io disk pair path state) = recorded io disk pair path state := by
  cases state with
  | none => rfl
  | some state =>
    cases read : hashAt io disk (pair.copyOn pair.activeRole path) with
    | none => simp [recorded,read]
    | some hash => simp [recorded,read,refreshed_known (refreshed_checksum disk path hash state)]

theorem recorded_of_change {disk : Disk} {file : TrackedFile} {state : FileState}
    (known : state.row.checksum = file.checksum) : recorded io disk pair file.relativePath (some state) =
      some ((changeOf io disk pair file).elim state
        (fun change => changedTo disk pair file.relativePath change.2 state)) := by
  cases read : hashAt io disk (pair.copyOn pair.activeRole file.relativePath) with
  | none => simp [recorded,changeOf,read]
  | some hash =>
    by_cases same : hash = file.checksum
    · simp [recorded,changeOf,read,same,refreshed,known,Option.filter]
    · simp [recorded,changeOf,read,same,refreshed,known,Option.filter]

theorem recordChanges_run (io : Io) {files : List TrackedFile} {w : World} (sound : Sound w.db)
    (apart : files.Pairwise (fun a b => a.relativePath ≠ b.relativePath))
    (listed : ∀ file ∈ files, Listed w.db pair file) :
    ∃ t, recordChanges pair (files.filterMap (changeOf io w.disk pair)) w = .ok () t ∧ t.disk = w.disk ∧
      Takes pair.id (fun path => if path ∈ files.map TrackedFile.relativePath then recorded io w.disk pair path else id)
        w.db t.db := by
  induction files generalizing w with
  | nil => exact ⟨w,rfl,rfl,Takes.still sound⟩
  | cons file files ih =>
    obtain ⟨first,apart⟩ := List.pairwise_cons.mp apart
    obtain ⟨⟨now,found,same,checksum⟩,listed⟩ := List.forall_mem_cons.mp listed
    have state : stateAt w.db pair.id file.relativePath = some (stateOf w.db now) := by rw [stateAt,found,Option.map_some]
    have known : recorded io w.disk pair file.relativePath (some (stateOf w.db now)) =
        some ((changeOf io w.disk pair file).elim (stateOf w.db now)
          (fun change => changedTo w.disk pair file.relativePath change.2 (stateOf w.db now))) :=
      recorded_of_change checksum
    cases change : changeOf io w.disk pair file with
    | none =>
      rw [change] at known
      have acts : Acts pair.id file.relativePath (recorded io w.disk pair file.relativePath) w.db w.db :=
        (Acts.still sound).congr (by rw [state,known]; rfl)
      obtain ⟨t,ran,kept,takes⟩ := ih sound apart listed
      rw [List.filterMap_cons_none change]
      exact ⟨t,ran,kept,Takes.cons (recorded_twice w.disk file.relativePath) acts takes⟩
    | some change' =>
      rw [change] at known
      obtain ⟨hash,read,rfl⟩ := Option.map_eq_some_iff.mp change
      have present := exists_of_hash (Option.eq_some_of_filter_eq_some read)
      obtain ⟨u,ran,kept,acts⟩ := recordChange_run sound found present hash
      rw [same] at ran
      have acts' : Acts pair.id file.relativePath (recorded io w.disk pair file.relativePath) w.db u.db :=
        acts.congr (by rw [state,known]; rfl)
      obtain ⟨t,rests,later,takes⟩ := ih acts'.sound apart fun other member =>
        (listed other member).later acts' (first other member).symm
      rw [List.filterMap_cons_some change]
      rw [kept] at rests takes
      exact ⟨t,(bind_of_ok ran _).trans rests,later.trans kept,
        Takes.cons (recorded_twice w.disk file.relativePath) acts' takes⟩

/-! The whole scans of a pair that takes changes. -/

omit [Blake3] in
theorem permitted_run (allowed : pair.isQuiescing = false) (w : World) :
    Act.query (fun _ => requirePairMutationAllowed pair) w = .ok () w := by
  rw [Act.query,requirePairMutationAllowed,allowed]
  rfl

omit [Blake3] in
theorem finish_whole {walk : Walk} (whole : walk.failure = none) (w : World) : walk.finish w = .ok () w := by
  rw [Walk.finish,whole]
  rfl

theorem scanTrackedFolder_run {walk : Walk} (folder : TrackedFolder) (allowed : pair.isQuiescing = false)
    (whole : walk.failure = none) (sound : Sound w.db)
    (readable : ∀ path ∈ visits folder walk.files, Readable io w pair path) :
    ∃ t, scanTrackedFolder io walk pair folder w = .ok () t ∧ t.disk = w.disk ∧
      Takes pair.id (fun path => Option.map (flagged w.db pair.id) ∘
        if path ∈ visits folder walk.files then scanned io w.disk pair path else id) w.db t.db := by
  obtain ⟨t,ran,kept,takes⟩ := scanFiles_run folder walk.files 0 sound readable
  refine ⟨⟨t.db.recomputeFolderProvenanceForDrive pair.id,t.disk⟩,?_,kept,?_⟩
  · rw [scanTrackedFolder,bind_of_ok (permitted_run allowed w),bind_of_ok ran,bind_of_ok (finish_whole whole t)]
    rfl
  · have flags : Takes pair.id _ t.db _ := takes_recompute takes.sound
    rw [flagged_congr takes.folders] at flags
    exact takes.trans flags

theorem autoTrackFolderFiles_run {walk : Walk} (folder : TrackedFolder) (allowed : pair.isQuiescing = false)
    (whole : walk.failure = none) (sound : Sound w.db)
    (readable : ∀ path ∈ visits folder walk.files, Readable io w pair path) :
    ∃ t, autoTrackFolderFiles io walk pair folder w = .ok () t ∧ t.disk = w.disk ∧
      Takes pair.id (fun path => Option.map (flagged w.db pair.id) ∘
        if path ∈ visits folder walk.files then autoTracked io w.disk pair path else id) w.db t.db := by
  obtain ⟨t,ran,kept,takes⟩ := autoTrackFiles_run folder walk.files sound readable
  refine ⟨⟨t.db.recomputeFolderProvenanceForDrive pair.id,t.disk⟩,?_,kept,?_⟩
  · rw [autoTrackFolderFiles,bind_of_ok (permitted_run allowed w),bind_of_ok ran,bind_of_ok (finish_whole whole t)]
    rfl
  · have flags : Takes pair.id _ t.db _ := takes_recompute takes.sound
    rw [flagged_congr takes.folders] at flags
    exact takes.trans flags

omit [Blake3] in
theorem listed_apart {db : Db} (sound : Sound db) (pairId : Nat) :
    (db.listTrackedFilesOfPair pairId).Pairwise (fun a b => a.relativePath ≠ b.relativePath) := by
  have ascending : (db.listTrackedFilesOfPair pairId).Pairwise (fun a b => a.id < b.id) :=
    db.trackedFiles.ascending.filter _
  apply List.Pairwise.imp_of_mem _ ascending
  intro a b first second before same
  obtain ⟨rowA,pairA⟩ := List.mem_filter.mp first
  obtain ⟨rowB,pairB⟩ := List.mem_filter.mp second
  rw [beq_iff_eq] at pairA pairB
  obtain rfl := sound.paths a rowA b rowB (pairA.trans pairB.symm) same
  exact Nat.lt_irrefl _ before

omit [Blake3] in
theorem mem_listed_paths {db : Db} {pairId : Nat} {path : String} :
    path ∈ (db.listTrackedFilesOfPair pairId).map TrackedFile.relativePath ↔ fileAt db pairId path ≠ none := by
  rw [ne_eq,fileAt_none,List.mem_map]
  simp only [Db.listTrackedFilesOfPair,List.mem_filter,beq_iff_eq,not_forall,not_not,exists_prop,and_assoc]

/-- A tracked file of the pair is there and cannot be read. -/
def Blocked (io : Io) (disk : Disk) (pair : DrivePair) (db : Db) : Prop :=
  ∃ path, fileAt db pair.id path ≠ none ∧ unreadable io disk (pair.copyOn pair.activeRole path) = true

theorem readsAll_iff {disk : Disk} {db : Db} :
    readsAll io disk pair (db.listTrackedFilesOfPair pair.id) = true ↔ ¬Blocked io disk pair db := by
  rw [readsAll,List.all_eq_true,Blocked,not_exists]
  constructor
  · intro reads path held
    obtain ⟨file,member,rfl⟩ := List.mem_map.mp (mem_listed_paths.mpr held.1)
    have read := reads file member
    rw [held.2] at read
    cases read
  · intro free file member
    rw [Bool.not_eq_true',Bool.eq_false_iff]
    exact fun stuck => free file.relativePath ⟨mem_listed_paths.mp (List.mem_map_of_mem member),stuck⟩

theorem scanAndRecordChanges_run (sound : Sound w.db) (free : ¬Blocked io w.disk pair w.db) :
    ∃ t, scanAndRecordChanges io pair w = .ok () t ∧ t.disk = w.disk ∧
      Takes pair.id (fun path => recorded io w.disk pair path) w.db t.db := by
  have listed : ∀ file ∈ w.db.listTrackedFilesOfPair pair.id, Listed w.db pair file := by
    intro file member
    obtain ⟨row,own⟩ := List.mem_filter.mp member
    have found := fileAt_of_mem sound row
    rw [beq_iff_eq.mp own] at found
    exact ⟨file,found,rfl,rfl⟩
  obtain ⟨t,ran,kept,takes⟩ := recordChanges_run io sound (listed_apart sound pair.id) listed
  have detected : scanAllChanges io pair w =
      .ok ((w.db.listTrackedFilesOfPair pair.id).filterMap (changeOf io w.disk pair)) w :=
    detectChanges_run (readsAll_iff.mpr free)
  refine ⟨t,(bind_of_ok detected _).trans ran,kept,takes.congr fun path => ?_⟩
  by_cases tracked : path ∈ (w.db.listTrackedFilesOfPair pair.id).map TrackedFile.relativePath
  · rw [if_pos tracked]
  · rw [mem_listed_paths,not_not] at tracked
    rw [stateAt_none.mpr tracked]
    split <;> rfl

theorem scanAndRecordChanges_fails (blocked : Blocked io w.disk pair w.db) :
    scanAndRecordChanges io pair w = .error osError w := by
  have stuck : readsAll io w.disk pair (w.db.listTrackedFilesOfPair pair.id) = false := by
    rw [Bool.eq_false_iff,ne_eq,readsAll_iff]
    exact not_not_intro blocked
  have detected : scanAllChanges io pair w = .error osError w := detectChanges_fails stuck
  exact bind_of_error detected _

end

end BitProtector.ScanWalks
