import BitProtector.AwayDrains
import BitProtector.AtomicRestores

/-! What the tracking of a file or a folder leaves on such a pair. A new file gets its item last, and only if the
standby is there then. -/
namespace BitProtector.AwayTracking
open Effect ScanStates ScanWalks StandbyAway AwayDrains
open AtomicRestores (marked ensureDriveRootMarker_run)

section
variable [Blake3] {pair : DrivePair}

/-! Root markers. -/

omit [Blake3] in
/-- Files are added only, and no root comes or goes. -/
structure Adds (w t : World) : Prop where
  untouched : Untouched w t
  available : t.disk.available = w.disk.available

omit [Blake3] in
instance : IsPreorder World Adds where
  refl w := ⟨refl_of Untouched w,rfl⟩
  trans _ _ _ first second := ⟨trans_of Untouched first.untouched second.untouched,second.available.trans first.available⟩

omit [Blake3] in
theorem adds_marker (io : Io) (root : String) : Keeps Adds (ensureDriveRootMarker io root) := by
  intro w
  refine ⟨untouched_ensureDriveRootMarker io root w,?_⟩
  have ran := ensureDriveRootMarker_run io root w
  split at ran
  · rw [after_of_ok ran]
    change (marked root w.disk).available = _
    unfold marked
    split <;> rfl
  · obtain ⟨message,failed⟩ := ran
    rw [after_of_error failed]

theorem holds_adds {hole : Option Nat} {α : Type} {x : Act α} (adds : Keeps Adds x) {s : Field} (holds : Holds pair hole s) :
    Holds pair hole (s.act x) := by
  have kept := adds s.world
  have leaves : Leaves pair (fun _ => False) s.world.disk (after x s.world).disk :=
    ⟨by rw [kept.available],fun path node _ => kept.untouched.2 path node⟩
  refine holds_handled holds ?_ leaves fun _ _ _ _ _ => id
  rw [kept.untouched.1]
  exact handled_refl _ _

omit [Blake3] in
def putStandbyMarker (io : Io) (pair : DrivePair) : Act Unit := do
  if ← Act.look (fun disk => disk.available pair.standbyPath) then
    let _ ← Effect.attempt (ensureDriveRootMarker io pair.standbyPath)

omit [Blake3] in
/-- The markers that `track_file` puts first. -/
def putMarkers (io : Io) (pair : DrivePair) : Act Unit := do
  ensureDriveRootMarker io pair.activePath
  putStandbyMarker io pair

omit [Blake3] in
theorem adds_putStandbyMarker (io : Io) : Keeps Adds (putStandbyMarker io pair) := by
  refine keeps_bind (fun w => refl_of Adds w) fun there => ?_
  cases there with
  | false => exact keeps_pure _
  | true => exact keeps_bind (keeps_attempt (adds_marker io pair.standbyPath)) fun _ => keeps_pure _

omit [Blake3] in
theorem adds_putMarkers (io : Io) : Keeps Adds (putMarkers io pair) :=
  keeps_bind (adds_marker io pair.activePath) fun _ => adds_putStandbyMarker io

omit [Blake3] in
theorem steady_marked {io : Io} {w t : World} (ran : ensureDriveRootMarker io pair.activePath w = .ok () t) :
    emergencyFailoverDue t.disk pair = false := by
  have mark : t.disk.exists? (driveRootMarkerPath pair.activePath) = true := RootMarkers.ensureDriveRootMarker_marks ran
  have there : t.disk.available pair.activePath = true := by
    have kept := adds_marker io pair.activePath w
    rw [after_of_ok ran] at kept
    rw [kept.available]
    by_contra away
    have refused := ensureDriveRootMarker_run io pair.activePath w
    rw [Bool.eq_false_of_not_eq_true away,Bool.false_and,if_neg Bool.false_ne_true] at refused
    obtain ⟨message,failed⟩ := refused
    cases failed.symm.trans ran
  have path : pair.pathForRole pair.activeRole = pair.activePath := rfl
  rw [emergencyFailoverDue,missingExpectedRootMarker,path,mark,there]
  rfl

omit [Blake3] in
theorem steady_adds {w t : World} (adds : Adds w t) (mark : w.disk.exists? (driveRootMarkerPath pair.activePath) = true)
    (steady : emergencyFailoverDue w.disk pair = false) : emergencyFailoverDue t.disk pair = false := by
  obtain ⟨node,found⟩ := Option.isSome_iff_exists.mp mark
  have still : t.disk.exists? (driveRootMarkerPath pair.activePath) = true := by
    rw [Disk.exists?,adds.untouched.2 _ node found]
    rfl
  have path : pair.pathForRole pair.activeRole = pair.activePath := rfl
  rw [emergencyFailoverDue,missingExpectedRootMarker,path,mark] at steady
  rw [emergencyFailoverDue,missingExpectedRootMarker,path,still,adds.available]
  simpa only [Bool.not_true,Bool.and_false,Bool.false_and] using steady

omit [Blake3] in
theorem steady_putMarkers {io : Io} {w t : World} (ran : putMarkers io pair w = .ok () t) :
    emergencyFailoverDue t.disk pair = false := by
  obtain ⟨_,u,first,rest⟩ := bind_success ran
  have adds : Adds u (after (putStandbyMarker io pair) u) := adds_putStandbyMarker io u
  rw [after_of_ok rest] at adds
  exact steady_adds adds (RootMarkers.ensureDriveRootMarker_marks first) (steady_marked first)

/-! Rows that come and go. -/

theorem holds_created {s : Field} {t : World} {path : String} {row file : TrackedFile} (holds : Holds pair none s)
    (rows : RowsOnly s.world t) (acts : Acts pair.id path (fun _ => some ⟨row,[]⟩) s.world.db t.db)
    (found : fileAt t.db pair.id path = some file) : Holds pair (some file.id) ⟨t,s.shelf⟩ := by
  obtain ⟨⟨stays,_,root⟩,fits⟩ := holds_iff.mp holds
  have seen {other : TrackedFile} (present : other ∈ t.db.trackedFiles.rows) (own : other.drivePairId = pair.id) :
      stateAt t.db pair.id other.relativePath = some (stateOf t.db other) := by
    rw [stateAt,← own,fileAt_of_mem acts.sound present,Option.map_some]
  have old {other : TrackedFile} (present : other ∈ t.db.trackedFiles.rows) (own : other.drivePairId = pair.id)
      (apart : other.relativePath ≠ path) : Fits pair ⟨t,s.shelf⟩ other.relativePath (stateOf t.db other) := by
    have before := seen present own
    rw [acts.others _ apart] at before
    exact (fits _ _ before).later rows.disk
  refine ⟨?_,acts.sound,?_,fun item listed other present same own => ?_,fun other present own differs => ?_⟩
  · rw [rows.pairs]
    exact stays
  · rw [rows.disk]
    exact root
  · have member : anonymous item ∈ (stateOf t.db other).queue :=
      List.mem_map_of_mem (List.mem_filter.mpr ⟨listed,beq_iff_eq.mpr same⟩)
    by_cases here : other.relativePath = path
    · have now := seen present own
      rw [here,acts.state,Option.some.injEq] at now
      rw [← now] at member
      cases member
    · have routine : Routine (anonymous item) := (old present own here).routine _ member
      exact routine
  · refine safe_iff.mpr (old present own fun here => differs ?_).safe
    rw [← here,← own,fileAt_of_mem acts.sound present,Option.some.injEq] at found
    rw [found]

theorem holds_deleted {s : Field} {fileId : Nat} (holds : Holds pair (some fileId) s) :
    Holds pair none (s.act (Act.execute fun db => db.deleteTrackedFile fileId)) := by
  have rows {file : TrackedFile} (present : file ∈ (s.world.db.deleteTrackedFile fileId).trackedFiles.rows) :
      file ∈ s.world.db.trackedFiles.rows ∧ file.id ≠ fileId := by
    obtain ⟨member,stays⟩ := List.mem_filter.mp present
    exact ⟨member,by simpa using stays⟩
  have items {item : SyncQueueItem} (listed : item ∈ (s.world.db.deleteTrackedFile fileId).syncQueue.rows) :
      item ∈ s.world.db.syncQueue.rows := (List.mem_filter.mp listed).1
  refine ⟨holds.row,⟨?_,?_⟩,holds.root,?_,?_⟩
  · exact fun a first b second => holds.sound.paths a (rows first).1 b (rows second).1
  · exact fun item listed => holds.sound.refs item (items listed)
  · exact fun item listed file present => holds.routine item (items listed) file (rows present).1
  · intro file present own _
    obtain ⟨member,differs⟩ := rows present
    refine (holds.safe file member own fun same => differs (Option.some.inj same).symm).imp (Or.imp id ?_) id
    rintro ⟨item,listed,same,opened⟩
    have apart : item.trackedFileId ≠ fileId := by
      rw [same]
      exact differs
    exact ⟨item,List.mem_filter.mpr ⟨listed,by simpa using apart⟩,same,opened⟩

omit [Blake3] in
theorem awaited_dedup (db : Db) (fileId : Nat) (action : SyncAction) (reason message : Option String) :
    Awaited (db.createSyncQueueItemDedupWithCreated fileId action reason message).2 fileId ∧
      ∀ other, Awaited db other → Awaited (db.createSyncQueueItemDedupWithCreated fileId action reason message).2 other := by
  unfold Db.createSyncQueueItemDedupWithCreated
  cases opened : db.openSyncQueueItem fileId action reason with
  | some item =>
    have asked := List.find?_some opened
    simp only [Bool.and_eq_true,beq_iff_eq] at asked
    refine ⟨⟨item,List.mem_of_find?_eq_some opened,asked.1.1.1,fun completed => ?_⟩,fun _ => id⟩
    rw [completed] at asked
    cases asked.1.2
  | none =>
    refine ⟨⟨_,List.mem_append_right _ List.mem_cons_self,rfl,fun completed => by cases completed⟩,?_⟩
    rintro other ⟨item,listed,rest⟩
    exact ⟨item,List.mem_append_left _ listed,rest⟩

theorem holds_dedup {hole : Option Nat} {s : Field} {file : TrackedFile} (holds : Holds pair hole s)
    (present : file ∈ s.world.db.trackedFiles.rows) (action : SyncAction) (reason message : Option String)
    (routine : Routine (newItem action reason message)) :
    Holds pair hole (s.act (Act.insert fun db => db.createSyncQueueItemDedupWithCreated file.id action reason message)) := by
  obtain ⟨_,monotone⟩ := awaited_dedup s.world.db file.id action reason message
  have frame := s.world.db.createSyncQueueItemDedupWithCreated_frame file.id action reason message
  have created : ∀ item ∈ (s.world.db.createSyncQueueItemDedupWithCreated file.id action reason message).2.syncQueue.rows,
      item ∈ s.world.db.syncQueue.rows ∨ (item.trackedFileId = file.id ∧ item.action = action) := by
    intro item listed
    unfold Db.createSyncQueueItemDedupWithCreated at listed
    cases opened : s.world.db.openSyncQueueItem file.id action reason with
    | some other =>
      rw [opened] at listed
      exact .inl listed
    | none =>
      rw [opened] at listed
      rcases List.mem_append.mp listed with old | new
      · exact .inl old
      · rw [List.mem_singleton.mp new]
        exact .inr ⟨rfl,rfl⟩
  rw [Field.act,after_of_ok (Act.insert_apply _ _)]
  generalize (s.world.db.createSyncQueueItemDedupWithCreated file.id action reason message).2 = next at monotone frame created ⊢
  obtain ⟨pairs,files⟩ := frame
  refine ⟨?_,⟨?_,fun item listed => ?_⟩,holds.root,fun item listed other member same own => ?_,fun other member own differs => ?_⟩
  · rw [pairs]
    exact holds.row
  · rw [files]
    exact holds.sound.paths
  · rw [files]
    rcases created item listed with old | ⟨same,_⟩
    · exact holds.sound.refs item old
    · rw [same]
      exact s.world.db.trackedFiles.bounded file present
  · rw [files] at member
    rcases created item listed with old | ⟨_,new⟩
    · exact holds.routine item old other member same own
    · rw [Routine,new]
      exact routine
  · rw [files] at member
    exact (holds.safe other member own differs).imp (Or.imp id (monotone _)) id

/-! Tracking. -/

theorem publish_rows {hole : Option Nat} {s : Field} (holds : Holds pair hole s)
    (steady : emergencyFailoverDue s.world.disk pair = false) {fileId : Nat}
    (own : ∀ file, s.world.db.trackedFiles.find? fileId = some file → file.drivePairId = pair.id) (links : LinkAnswers)
    (virtualPath : Option String) :
    Handled none s.world.db (after (publish links fileId virtualPath) s.world).db ∧
      (after (publish links fileId virtualPath) s.world).disk = s.world.disk := by
  have still : Handled none s.world.db s.world.db ∧ s.world.disk = s.world.disk := ⟨handled_refl _ _,rfl⟩
  cases virtualPath with
  | none => exact still
  | some virtualPath =>
    unfold publish setVirtualPath
    cases read : Act.query (fun db => db.getTrackedFile fileId) s.world with
    | error message t =>
      have same := Act.after_query (fun db => db.getTrackedFile fileId) s.world
      rw [after_of_error read] at same
      rw [after_bind_of_error read,same]
      exact still
    | ok file t =>
      obtain ⟨found,rfl⟩ := Act.query_success read
      have loaded := load_steady holds steady
      rw [← own file (Db.getTrackedFile_ok.mp found)] at loaded
      rw [after_bind_of_ok read,after_bind_of_ok loaded]
      cases given : Act.query (fun _ => links.published virtualPath) s.world with
      | error message t =>
        have same := Act.after_query (fun _ => links.published virtualPath) s.world
        rw [after_of_error given] at same
        rw [after_bind_of_error given,same]
        exact still
      | ok normalized t =>
        obtain ⟨_,rfl⟩ := Act.query_success given
        have written : Handled none s.world.db (s.world.db.updateTrackedFileVirtualPath fileId (some normalized)) :=
          handled_update _ _ fileId (fun other => { other with virtualPath := some normalized }) (fun _ => rfl)
            fun _ => ⟨rfl,rfl,rfl⟩
        rw [after_bind_of_ok given,after_bind_of_ok (Act.execute_apply _ _)]
        split
        · rw [Act.after_query]
          exact ⟨written,rfl⟩
        · exact ⟨written,rfl⟩

omit [Blake3] in
theorem ensureWorldReadable_still (io : Io) (path : Location) (w : World) : after (ensureWorldReadable io path) w = w := by
  unfold ensureWorldReadable
  rw [after_bind_of_ok (Act.look_apply _ _)]
  cases present : w.disk.exists? path with
  | false => rw [after_bind_of_error (Act.ensure_false _ _)]
  | true =>
    rw [after_bind_of_ok (Act.ensure_true _ _)]
    exact RootMarkers.ensure_still _ _ _

theorem trackExistingFile_holds (io : Io) (links : LinkAnswers) (path : String) (virtualPath : Option String) {s : Field}
    {existing : TrackedFile} (holds : Holds pair none s) (steady : emergencyFailoverDue s.world.disk pair = false)
    (present : existing ∈ s.world.db.trackedFiles.rows) (own : existing.drivePairId = pair.id) :
    Holds pair none (s.act (trackExistingFile io links pair existing path virtualPath)) := by
  refine holds_bind (holds_still (ensureWorldReadable_still io _) holds) fun _ t ran holds => ?_
  have same := ensureWorldReadable_still io (pair.copyOn pair.activeRole path) s.world
  rw [after_of_ok ran] at same
  obtain rfl : t = s.world := same
  let sourced : World := { s.world with db := s.world.db.updateTrackedFileSources existing.id true false }
  let direct (file : TrackedFile) : TrackedFile := { file with trackedDirect := true,trackedViaFolder := false }
  have written : Handled none s.world.db sourced.db :=
    handled_update _ _ existing.id direct (fun _ => rfl) fun _ => ⟨rfl,rfl,rfl⟩
  have held : Holds pair none ⟨sourced,s.shelf⟩ := holds_rows holds written rfl
  refine holds_bind held fun _ u executed _ => ?_
  cases executed
  have owned : ∀ file, sourced.db.trackedFiles.find? existing.id = some file → file.drivePairId = pair.id := by
    intro file found
    have row := Db.find?_updateTrackedFile s.world.db existing.id existing.id direct fun _ => rfl
    have here : s.world.db.trackedFiles.find? existing.id = some existing := Table.find?_of_mem _ present
    rw [here,Option.map_some,if_pos rfl] at row
    cases found.symm.trans row
    exact own
  obtain ⟨rows,disk⟩ := publish_rows held steady owned links virtualPath
  refine holds_bind (holds_rows held rows disk) fun _ v _ holds => ?_
  exact holds_still (fun w => Act.after_query _ w) holds

omit [Blake3] in
theorem orUndo_of_ok {undo : Db → Db} {x : Act Unit} {w t : World} (ran : x w = .ok () t) :
    orUndo undo x w = .ok () t := bind_of_ok (attempt_of_ok ran) _

omit [Blake3] in
theorem orUndo_of_error {undo : Db → Db} {x : Act Unit} {w t : World} {message : String} (failed : x w = .error message t) :
    orUndo undo x w = .error message { t with db := undo t.db } := bind_of_ok (attempt_of_error failed) _

/-- A file that was tracked just now: it may not be safe yet. -/
structure Tracked (io : Io) (pair : DrivePair) (path : String) (s : Field) (fileId : Nat) (t : World) : Prop where
  holds : Holds pair (some fileId) ⟨t,s.shelf⟩
  disk : t.disk = s.world.disk
  row : ∃ file ∈ t.db.trackedFiles.rows, file.id = fileId ∧ file.relativePath = path ∧
    hashAt io s.world.disk (pair.copyOn pair.activeRole path) = some file.checksum ∧
    ((mismatchAt io s.world.disk (pair.copyOn pair.activeRole path) file.checksum).isSome = true → Awaited t.db fileId)

theorem trackNewFile_cases (io : Io) (links : LinkAnswers) (path : String) (virtualPath : Option String) {s : Field}
    (holds : Holds pair none s) (steady : emergencyFailoverDue s.world.disk pair = false)
    (fresh : fileAt s.world.db pair.id path = none) :
    (∃ message t, trackNewFile io links pair path virtualPath s.world = .error message t ∧ Holds pair none ⟨t,s.shelf⟩) ∨
    ∃ tracked t, trackNewFile io links pair path virtualPath s.world = .ok tracked t ∧ Tracked io pair path s tracked.id t := by
  by_cases fails : io.ensureWorldReadable (pair.copyOn pair.activeRole path) = false ∨
      hashAt io s.world.disk (pair.copyOn pair.activeRole path) = none
  · obtain ⟨message,failed⟩ : ∃ message, createTrackedFileFromDisk io pair path true false s.world = .error message s.world :=
      createTrackedFileFromDisk_fails true false fails
    exact .inl ⟨message,s.world,bind_of_error failed _,holds⟩
  · obtain ⟨permits,read⟩ := not_or.mp fails
    obtain ⟨hash,read⟩ := Option.ne_none_iff_exists'.mp read
    obtain ⟨file,u,created,disk,found,acts⟩ := createTrackedFileFromDisk_run true false holds.sound fresh
      (Bool.eq_true_of_not_eq_false permits) read
    have rows : RowsOnly s.world (after (createTrackedFileFromDisk io pair path true false) s.world) :=
      rowsOnly_createTrackedFileFromDisk io path true false s.world
    rw [after_of_ok created] at rows
    have held := holds_created holds rows acts found
    obtain ⟨present,own,place⟩ := fileAt_some found
    have checksum : file.checksum = hash := by
      have state := acts.state
      rw [stateAt,found,Option.map_some,Option.some.injEq] at state
      exact congrArg (fun state => state.row.checksum) state
    have owned : ∀ other, u.db.trackedFiles.find? file.id = some other → other.drivePairId = pair.id := by
      intro other there
      have here : u.db.trackedFiles.find? file.id = some file := Table.find?_of_mem _ present
      cases there.symm.trans here
      exact own
    have still : emergencyFailoverDue u.disk pair = false := by
      rw [disk]
      exact steady
    obtain ⟨written,kept⟩ := publish_rows (s := ⟨u,s.shelf⟩) held still owned links virtualPath
    have begins : trackNewFile io links pair path virtualPath s.world = (do
        orUndo (fun db => db.deleteTrackedFile file.id) (publish links file.id virtualPath)
        orUndo (fun db => db.deleteTrackedFile file.id) (queueMismatch file (mismatchAt io s.world.disk
          (pair.copyOn pair.activeRole path) hash))
        Act.query (fun db => db.getTrackedFile file.id)) u := bind_of_ok created _
    cases ran : publish links file.id virtualPath u with
    | error message v =>
      rw [after_of_error ran] at written kept
      have later : Holds pair (some file.id) ⟨v,s.shelf⟩ := holds_rows (s := ⟨u,s.shelf⟩) held (written.closing _) kept
      refine .inl ⟨message,{ v with db := v.db.deleteTrackedFile file.id },?_,holds_deleted later⟩
      exact begins.trans (bind_of_error (orUndo_of_error ran) _)
    | ok _ v =>
      rw [after_of_ok ran] at written kept
      have later : Holds pair (some file.id) ⟨v,s.shelf⟩ := holds_rows (s := ⟨u,s.shelf⟩) held (written.closing _) kept
      obtain ⟨row,stands,key⟩ := written.stays present
      obtain ⟨path_,checksum_⟩ := written.row present stands key
      have queued : ∃ t, queueMismatch file (mismatchAt io s.world.disk (pair.copyOn pair.activeRole path) hash) v = .ok () t ∧
          Holds pair (some file.id) ⟨t,s.shelf⟩ ∧ t.disk = v.disk ∧ t.db.trackedFiles = v.db.trackedFiles ∧
          ((mismatchAt io s.world.disk (pair.copyOn pair.activeRole path) hash).isSome = true → Awaited t.db file.id) := by
        cases mismatchAt io s.world.disk (pair.copyOn pair.activeRole path) hash with
        | none => exact ⟨v,rfl,later,rfl,rfl,fun impossible => by cases impossible⟩
        | some mismatch =>
          have ends := holds_dedup later stands .userActionRequired (some b3SidecarMismatchReason)
            (some (mismatchText mismatch)) (.inr rfl)
          rw [key] at ends
          have frame := v.db.createSyncQueueItemDedupWithCreated_frame file.id .userActionRequired
            (some b3SidecarMismatchReason) (some (mismatchText mismatch))
          have waits := awaited_dedup v.db file.id .userActionRequired (some b3SidecarMismatchReason)
            (some (mismatchText mismatch))
          exact ⟨_,rfl,ends,rfl,frame.2,fun _ => waits.1⟩
      obtain ⟨t,queues,ends,same,files,waits⟩ := queued
      right
      have present' : row ∈ t.db.trackedFiles.rows := by
        rw [files]
        exact stands
      have lookup : Act.query (fun db => db.getTrackedFile file.id) t = .ok row t := by
        have there : t.db.trackedFiles.find? row.id = some row := Table.find?_of_mem _ present'
        rw [key] at there
        simp only [Act.query,Db.getTrackedFile_ok.mpr there]
      refine ⟨row,t,?_,?_⟩
      · rw [begins,bind_of_ok (orUndo_of_ok ran),bind_of_ok (orUndo_of_ok queues)]
        exact lookup
      · rw [key]
        refine ⟨ends,same.trans (kept.trans disk),row,present',key,path_.trans place,?_,?_⟩
        · rw [checksum_,checksum]
          exact read
        · rw [checksum_,checksum]
          exact waits

/-- What the end of the route leaves: an item, if the standby takes copies now. -/
theorem queueNewTracking_holds {io : Io} {path : String} {s : Field} {t : World} {tracked : TrackedFile}
    (settles : Settles pair io s path) (new : stateAt s.world.db pair.id path = none)
    (standing : Tracked io pair path s tracked.id t) :
    Holds pair none ((⟨t,s.shelf⟩ : Field).act (queueNewTracking pair tracked)) := by
  obtain ⟨holds,disk,file,present,key,place,read,mismatched⟩ := standing
  unfold queueNewTracking
  rw [Field.act,after_bind_of_ok (Act.look_apply _ _)]
  cases accepts : pair.standbyAcceptsSync t.disk with
  | false =>
    refine holds.close fun other member _ hole => .inl ?_
    obtain rfl : other = file := Table.key_injective _ member present ((Option.some.inj hole).symm.trans key.symm)
    have known := settles.resolve_left (by rw [← disk,accepts]; exact Bool.false_ne_true) other.checksum read
    rw [new] at known
    rcases known with mismatch | good
    · right
      change Awaited t.db other.id
      rw [key]
      exact mismatched mismatch
    · left
      rw [place,standbyNode_disk disk]
      exact good
  | true =>
    rw [if_pos rfl]
    have asked : Act.query (fun db => .ok (db.hasPendingSyncQueueItemWithReason tracked.id .userActionRequired
        b3SidecarMismatchReason)) t = .ok (t.db.hasPendingSyncQueueItemWithReason tracked.id .userActionRequired
        b3SidecarMismatchReason) t := rfl
    rw [after_bind_of_ok asked]
    cases pending : t.db.hasPendingSyncQueueItemWithReason tracked.id .userActionRequired b3SidecarMismatchReason with
    | true =>
      obtain ⟨item,listed,asked⟩ := List.any_eq_true.mp pending
      simp only [Bool.and_eq_true,beq_iff_eq] at asked
      refine holds.await ⟨item,listed,asked.1.1.1,fun completed => ?_⟩
      rw [completed] at asked
      cases asked.2
    | false =>
      have queued := holds_dedup holds present .adoptMirror none none (.inl rfl)
      rw [key] at queued
      exact queued.await (awaited_dedup t.db tracked.id .adoptMirror none none).1

theorem trackFile_steps (io : Io) (links : LinkAnswers) (path : String) (virtualPath : Option String) :
    trackFile io links pair path virtualPath = (do
      Act.query (fun _ => requirePairMutationAllowed pair)
      putMarkers io pair
      match ← Effect.attempt (Act.query (fun db => db.getTrackedFileByPath pair.id path)) with
      | .ok existing => trackExistingFile io links pair existing path virtualPath
      | .error _ => trackNewFile io links pair path virtualPath) := by
  unfold trackFile putMarkers putStandbyMarker
  simp only [bind_assoc]
  congr 1
  funext _
  congr 1
  funext _
  congr 1
  funext there
  cases there with
  | false => rfl
  | true =>
    rw [if_pos rfl,if_pos rfl,bind_assoc]
    rfl

/-- `track_file` of a file that is tracked already. -/
theorem trackFile_known (io : Io) (links : LinkAnswers) {path : String} (virtualPath : Option String) {s : Field}
    {existing : TrackedFile} (holds : Holds pair none s) (found : fileAt s.world.db pair.id path = some existing) :
    Holds pair none (s.act (trackFile io links pair path virtualPath)) := by
  have marked : Holds pair none (s.act (putMarkers io pair)) := holds_adds (adds_putMarkers io) holds
  have tables : (after (putMarkers io pair) s.world).db = s.world.db := (adds_putMarkers io s.world).untouched.1
  rw [trackFile_steps]
  refine holds_bind (holds_still (fun w => Act.after_query _ w) holds) fun _ t queried holds => ?_
  obtain ⟨_,rfl⟩ := Act.query_success queried
  refine holds_bind marked fun _ t ran later => ?_
  rw [after_of_ok ran] at tables
  have there : fileAt t.db pair.id path = some existing := by
    rw [tables]
    exact found
  obtain ⟨present,own,_⟩ := fileAt_some there
  rw [Field.act,after_bind_of_ok (lookup_some there)]
  exact trackExistingFile_holds io links path virtualPath later (steady_putMarkers ran) present own

theorem trackFile_fresh (io : Io) (links : LinkAnswers) {path : String} (virtualPath : Option String) {s : Field}
    (holds : Holds pair none s) (fresh : fileAt s.world.db pair.id path = none) :
    (∃ message t, trackFile io links pair path virtualPath s.world = .error message t ∧ Holds pair none ⟨t,s.shelf⟩) ∨
    ∃ tracked t, trackFile io links pair path virtualPath s.world = .ok tracked t ∧
      Tracked io pair path (s.act (putMarkers io pair)) tracked.id t := by
  have marked : Holds pair none (s.act (putMarkers io pair)) := holds_adds (adds_putMarkers io) holds
  have tables : (after (putMarkers io pair) s.world).db = s.world.db := (adds_putMarkers io s.world).untouched.1
  rw [trackFile_steps]
  cases allowed : Act.query (fun _ => requirePairMutationAllowed pair) s.world with
  | error message t =>
    have same := Act.after_query (fun _ => requirePairMutationAllowed pair) s.world
    rw [after_of_error allowed] at same
    rw [same] at allowed
    exact .inl ⟨message,s.world,bind_of_error allowed _,holds⟩
  | ok _ t =>
    obtain ⟨_,rfl⟩ := Act.query_success allowed
    rw [bind_of_ok allowed]
    unfold Field.act at marked ⊢
    cases ran : putMarkers io pair s.world with
    | error message u =>
      rw [after_of_error ran] at marked
      exact .inl ⟨message,u,bind_of_error ran _,marked⟩
    | ok _ u =>
      rw [after_of_ok ran] at marked tables ⊢
      have there : fileAt u.db pair.id path = none := by
        rw [tables]
        exact fresh
      rw [bind_of_ok ran,bind_of_ok (lookup_none there)]
      exact trackNewFile_cases io links path virtualPath marked (steady_putMarkers ran) there

/-- `POST /files`. -/
theorem trackFileRoute_holds (io : Io) (links : LinkAnswers) (resolve : String → Except String String)
    (virtualPath : Option String) {s : Field} (holds : Holds pair none s)
    (steady : emergencyFailoverDue s.world.disk pair = false)
    (settles : ∀ path, resolve pair.activePath = .ok path → stateAt s.world.db pair.id path = none →
      Settles pair io (s.act (putMarkers io pair)) path) :
    Holds pair none (s.act (trackFileRoute io links resolve pair.id virtualPath)) := by
  have loaded := load_steady holds steady
  refine holds_bind (by rw [Field.act,after_of_ok loaded]; exact holds) fun now t ran holds => ?_
  cases ran.symm.trans loaded
  refine holds_bind (holds_still (fun w => Act.after_query _ w) holds) fun path t queried holds => ?_
  obtain ⟨resolved,rfl⟩ := Act.query_success queried
  cases found : fileAt s.world.db pair.id path with
  | some existing =>
    rw [Field.act,after_bind_of_ok (lookup_some found)]
    exact holds_bind (trackFile_known io links virtualPath holds found) fun _ _ _ holds => holds
  | none =>
    rw [Field.act,after_bind_of_ok (lookup_none found)]
    have new : stateAt s.world.db pair.id path = none := stateAt_none.mpr found
    have tables : (after (putMarkers io pair) s.world).db = s.world.db := (adds_putMarkers io s.world).untouched.1
    rcases trackFile_fresh io links virtualPath holds found with ⟨message,t,failed,later⟩ | ⟨tracked,t,ran,standing⟩
    · rw [after_bind_of_error failed]
      exact later
    · rw [after_bind_of_ok ran]
      have unseen : stateAt (s.act (putMarkers io pair)).world.db pair.id path = none := by
        change stateAt (after (putMarkers io pair) s.world).db pair.id path = none
        rw [tables]
        exact new
      exact queueNewTracking_holds (s := s.act (putMarkers io pair)) (settles path resolved new) unseen standing

/-! Tracked folders. -/

theorem publishFolder_holds (links : LinkAnswers) {folderId : Nat} (virtualPath : Option String) {s : Field}
    (holds : Holds pair none s) (steady : emergencyFailoverDue s.world.disk pair = false)
    (own : FolderOf pair folderId s.world.db) : Holds pair none (s.act (publishFolder links folderId virtualPath)) := by
  cases virtualPath with
  | none => exact holds
  | some virtualPath =>
    unfold publishFolder setFolderVirtualPath
    refine holds_bind (holds_still (fun w => Act.after_query _ w) holds) fun folder t queried holds => ?_
    obtain ⟨rfl,found⟩ := getTrackedFolder_success queried
    have loaded := load_steady holds steady
    rw [← own folder found] at loaded
    refine holds_bind (by rw [Field.act,after_of_ok loaded]; exact holds) fun _ t ran holds => ?_
    cases ran.symm.trans loaded
    refine holds_bind (holds_still (fun w => Act.after_query _ w) holds) fun normalized t queried holds => ?_
    obtain ⟨_,rfl⟩ := Act.query_success queried
    have written : Elsewhere s.world
        { s.world with db := s.world.db.updateTrackedFolderVirtualPath folderId (some normalized) } := ⟨rfl,rfl,rfl,rfl⟩
    refine holds_bind (written.holds holds) fun _ t ran holds => ?_
    split
    · exact holds_still (fun w => Act.after_query _ w) holds
    · exact holds

omit [Blake3] in
theorem elsewhere_createFolder (w : World) (pairId : Nat) (folderPath : String) (virtualPath : Option String)
    (includeChecksumSidecars : Bool) : Elsewhere w { w with db :=
      (w.db.createTrackedFolderWithSidecars pairId folderPath virtualPath includeChecksumSidecars).2 } := by
  unfold Db.createTrackedFolderWithSidecars
  split
  · exact ⟨rfl,rfl,rfl,rfl⟩
  · split
    · exact ⟨rfl,rfl,rfl,rfl⟩
    · exact ⟨rfl,rfl,rfl,rfl⟩

omit [Blake3] in
theorem createTrackedFolder_own {db : Db} {folderPath : String} {virtualPath : Option String} {includeChecksumSidecars : Bool}
    {tracked : TrackedFolder}
    (created : (db.createTrackedFolderWithSidecars pair.id folderPath virtualPath includeChecksumSidecars).1 = .ok tracked) :
    FolderOf pair tracked.id (db.createTrackedFolderWithSidecars pair.id folderPath virtualPath includeChecksumSidecars).2 := by
  unfold Db.createTrackedFolderWithSidecars at created ⊢
  intro folder found
  split at created
  · cases created
  · rename_i fresh
    rw [if_neg fresh] at found
    split at created
    · rename_i paired
      cases created
      rw [if_pos paired] at found
      have row := (Table.find?_insert db.trackedFolders _ _ (db.trackedFolders.lastId + 1)).symm.trans found
      rw [if_pos rfl] at row
      cases row
      rfl
    · cases created

/-- `POST /folders`. -/
theorem addFolderRoute_holds (io : Io) (links : LinkAnswers) (resolve : String → Except String String) (isDir : Bool)
    (virtualPath : Option String) (includeChecksumSidecars : Bool) {s : Field} (holds : Holds pair none s)
    (steady : emergencyFailoverDue s.world.disk pair = false) :
    Holds pair none (s.act (addFolderRoute io links resolve isDir pair.id virtualPath includeChecksumSidecars)) := by
  have loaded := load_steady holds steady
  refine holds_bind (by rw [Field.act,after_of_ok loaded]; exact holds) fun now t ran holds => ?_
  cases ran.symm.trans loaded
  refine holds_bind (holds_still (fun w => Act.after_query _ w) holds) fun folderPath t queried holds => ?_
  obtain ⟨_,rfl⟩ := Act.query_success queried
  refine holds_bind ?_ fun _ _ _ holds => holds
  refine holds_bind (holds_still (fun w => Act.after_query _ w) holds) fun _ t queried holds => ?_
  obtain ⟨_,rfl⟩ := Act.query_success queried
  refine holds_bind (holds_adds (adds_marker io pair.activePath) holds) fun _ u marked holds => ?_
  have marks := steady_marked marked
  refine holds_bind (holds_still (RootMarkers.ensure_still _ _) holds) fun _ v ensured holds => ?_
  obtain ⟨_,rfl⟩ := Act.ensure_success ensured
  let created := v.db.createTrackedFolderWithSidecars pair.id folderPath none includeChecksumSidecars
  have inserted : Elsewhere v { v with db := created.2 } :=
    elsewhere_createFolder v pair.id folderPath none includeChecksumSidecars
  refine holds_bind ?_ fun tracked u ran holds => ?_
  · rw [Field.act,Act.after_insertOrFail]
    exact inserted.holds holds
  obtain rfl := Act.insertOrFail_success ran
  have own : FolderOf pair tracked.id created.2 := createTrackedFolder_own (congrArg Prod.fst (Act.insertOrFail_value ran))
  refine holds_bind ?_ fun _ t _ holds => ?_
  · unfold orUndo
    refine holds_bind ?_ fun result t _ holds => ?_
    · rw [Field.act,after_attempt]
      exact publishFolder_holds links virtualPath holds marks own
    cases result with
    | ok _ => exact holds
    | error message =>
      have undone : Elsewhere t { t with db := t.db.deleteTrackedFolder tracked.id } := ⟨rfl,rfl,rfl,rfl⟩
      exact holds_bind (s := ⟨t,s.shelf⟩) (undone.holds (s := ⟨t,s.shelf⟩) holds) fun _ _ ran holds => holds
  · refine holds_bind (visited_recompute io holds).holds fun _ t _ holds => ?_
    exact holds_still (fun w => Act.after_query _ w) holds

end

end BitProtector.AwayTracking
