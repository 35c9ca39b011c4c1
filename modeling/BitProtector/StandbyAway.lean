import BitProtector.MirrorFlag
import BitProtector.ItemStatus
import BitProtector.RootMarkers
import BitProtector.ScanAgreement

/-! What the scans leave on a pair whose standby root comes and goes. A scan that finds a change records it at once, and
queues the copy only if the standby is there. -/
namespace BitProtector.StandbyAway
open Effect ScanStates ScanWalks

/-- The files below the standby root are on the shelf while the root is away. -/
structure Field where
  world : World
  shelf : Option (String → Option FileNode)

/-! Standby roots that come and go. -/

def hidden (root : String) (disk : Disk) : Disk where
  node path := if path.root = root then none else disk.node path
  available other := other != root && disk.available other

def shown (root : String) (files : String → Option FileNode) (disk : Disk) : Disk where
  node path := if path.root = root then files path.relativePath else disk.node path
  available other := other == root || disk.available other

def edited (path : Location) (content : Option FileNode) (disk : Disk) : Disk :=
  { disk with node := fun other => if other = path then content else disk.node other }

namespace Field

def vanish (root : String) (s : Field) : Field :=
  match s.shelf with
  | none => ⟨{ s.world with disk := hidden root s.world.disk },some fun path => s.world.disk.node ⟨root,path⟩⟩
  | some _ => s

def appear (root : String) (s : Field) : Field :=
  match s.shelf with
  | none => s
  | some files => ⟨{ s.world with disk := shown root files s.world.disk },none⟩

/-- What an operation makes of the tables and the disks. -/
def act {α : Type} (x : Act α) (s : Field) : Field := { s with world := after x s.world }

end Field

/-! Operations that write files and their items only. -/

structure RowsOnly (w t : World) : Prop where
  pairs : t.db.drivePairs = w.db.drivePairs
  disk : t.disk = w.disk

instance : IsPreorder World RowsOnly where
  refl _ := ⟨rfl,rfl⟩
  trans _ _ _ first second := ⟨second.pairs.trans first.pairs,second.disk.trans first.disk⟩

theorem rowsOnly_still {α : Type} {x : Act α} (still : ∀ w, after x w = w) : Keeps RowsOnly x := by
  intro w
  rw [still]
  exact refl_of RowsOnly w

theorem rowsOnly_execute {update : Db → Db} (pairs : ∀ db, (update db).drivePairs = db.drivePairs) :
    Keeps RowsOnly (Act.execute update) := fun w => ⟨pairs w.db,rfl⟩

theorem rowsOnly_insert {α : Type} {update : Db → α × Db} (pairs : ∀ db, (update db).2.drivePairs = db.drivePairs) :
    Keeps RowsOnly (Act.insert update) := fun w => ⟨pairs w.db,rfl⟩

theorem rowsOnly_dedup (fileId : Nat) (action : SyncAction) (reason message : Option String) :
    Keeps RowsOnly (Act.insert (fun db => db.createSyncQueueItemDedupWithCreated fileId action reason message)) :=
  rowsOnly_insert fun db => (db.createSyncQueueItemDedupWithCreated_frame fileId action reason message).1

theorem rowsOnly_metadataLen (path : Location) : Keeps RowsOnly (metadataLen path) :=
  keeps_bind (rowsOnly_still fun _ => rfl) fun _ => keeps_bind (rowsOnly_still (RootMarkers.ensure_still _ _)) fun _ =>
    rowsOnly_still fun _ => rfl

theorem rowsOnly_recordChange (pair : DrivePair) (fileId : Nat) (path : Location) (newHash : String) :
    Keeps RowsOnly (recordChange pair fileId path newHash) := by
  refine keeps_bind (rowsOnly_metadataLen path) fun _ => ?_
  refine keeps_bind (rowsOnly_execute fun _ => rfl) fun _ => ?_
  refine keeps_bind (rowsOnly_execute fun _ => rfl) fun _ => ?_
  refine keeps_bind (rowsOnly_still fun _ => rfl) fun accepts => ?_
  cases accepts with
  | false => exact keeps_pure _
  | true => exact keeps_bind (rowsOnly_dedup fileId .mirror none none) fun _ => keeps_pure _

theorem rowsOnly_queueMismatch (file : TrackedFile) (mismatch : SidecarMismatch) :
    Keeps RowsOnly (queueB3SidecarMismatch file mismatch) :=
  keeps_bind (rowsOnly_dedup _ _ _ _) fun _ => keeps_pure _

theorem rowsOnly_queueAutoTracked (pair : DrivePair) (file : TrackedFile) (mismatch : Option SidecarMismatch) :
    Keeps RowsOnly (queueAutoTracked pair file mismatch) := by
  cases mismatch with
  | some mismatch => exact rowsOnly_queueMismatch file mismatch
  | none =>
    refine keeps_bind (rowsOnly_still fun _ => rfl) fun accepts => ?_
    cases accepts with
    | false =>
      rw [if_neg Bool.false_ne_true]
      exact rowsOnly_execute fun _ => rfl
    | true =>
      rw [if_pos rfl]
      refine keeps_bind (keeps_bind (rowsOnly_dedup _ _ _ _) fun created => ?_) fun _ => keeps_pure _
      exact keeps_bind (rowsOnly_still (RootMarkers.ensure_still _ _)) fun _ => keeps_pure _

section
variable [Blake3] (pair : DrivePair)

/-- The standby copy of a path, wherever it is. -/
def standbyNode (s : Field) (path : String) : Option FileNode :=
  match s.shelf with
  | none => s.world.disk.node (pair.copyOn pair.standbyRole path)
  | some files => files path

def Hashes (node : Option FileNode) (checksum : String) : Prop :=
  ∃ found, node = some found ∧ found.whole = true ∧ checksumBytes found.bytes = checksum

/-- Pending, in progress, failed or waiting for the user. -/
def Awaited (db : Db) (fileId : Nat) : Prop :=
  ∃ item ∈ db.syncQueue.rows, item.trackedFileId = fileId ∧ item.status ≠ .completed

/-- The active copy is there and is not the recorded one. -/
def Differs (disk : Disk) (path checksum : String) : Prop :=
  (∃ node, disk.node (pair.copyOn pair.activeRole path) = some node) ∧
    ¬GoodAt disk (pair.copyOn pair.activeRole path) checksum

/-- The standby has the recorded content of the file, or an item of the file is open. -/
def Remembered (s : Field) (file : TrackedFile) : Prop :=
  Hashes (standbyNode pair s file.relativePath) file.checksum ∨ Awaited s.world.db file.id

def Safe (s : Field) (file : TrackedFile) : Prop :=
  Remembered pair s file ∨ Differs pair s.world.disk file.relativePath file.checksum

/-- An item that brings the standby up to date, or that waits for the user. -/
def Routine (item : SyncQueueItem) : Prop := item.action.isMirroring = true ∨ item.action = .userActionRequired

/-- What holds in every state; the file `hole`, if any, is not safe yet. -/
structure Holds (hole : Option Nat) (s : Field) : Prop where
  row : s.world.db.drivePairs.find? pair.id = some pair
  sound : Sound s.world.db
  root : s.world.disk.available pair.standbyPath = s.shelf.isNone
  routine : ∀ item ∈ s.world.db.syncQueue.rows, ∀ file ∈ s.world.db.trackedFiles.rows,
    item.trackedFileId = file.id → file.drivePairId = pair.id → Routine item
  safe : ∀ file ∈ s.world.db.trackedFiles.rows, file.drivePairId = pair.id → hole ≠ some file.id → Safe pair s file

/-- The same of a file as it is seen by path. -/
def Waits (state : FileState) : Prop := ∃ item ∈ state.queue, item.status ≠ .completed

def SafeAt (s : Field) (path : String) (state : FileState) : Prop :=
  (Hashes (standbyNode pair s path) state.row.checksum ∨ Waits state) ∨ Differs pair s.world.disk path state.row.checksum

structure Fits (s : Field) (path : String) (state : FileState) : Prop where
  routine : ∀ item ∈ state.queue, Routine item
  safe : SafeAt pair s path state

/-- Whatever of the path's present content is recorded now is not forgotten: the standby takes copies, or there is
nothing new, or an item of the file is open, or the standby has this content already. -/
def Settles (io : Io) (s : Field) (path : String) : Prop :=
  pair.standbyAcceptsSync s.world.disk = true ∨
    ∀ hash, hashAt io s.world.disk (pair.copyOn pair.activeRole path) = some hash →
      match stateAt s.world.db pair.id path with
      | some state => state.row.checksum = hash ∨ Waits state ∨ Hashes (standbyNode pair s path) hash
      | none => (mismatchAt io s.world.disk (pair.copyOn pair.activeRole path) hash).isSome = true ∨
          Hashes (standbyNode pair s path) hash

variable {pair}

omit [Blake3] in
theorem awaited_iff {db : Db} {file : TrackedFile} : Awaited db file.id ↔ Waits (stateOf db file) := by
  constructor
  · rintro ⟨item,row,own,opened⟩
    exact ⟨anonymous item,List.mem_map_of_mem (List.mem_filter.mpr ⟨row,beq_iff_eq.mpr own⟩),opened⟩
  · rintro ⟨_,listed,opened⟩
    obtain ⟨item,member,rfl⟩ := List.mem_map.mp listed
    obtain ⟨row,own⟩ := List.mem_filter.mp member
    exact ⟨item,row,beq_iff_eq.mp own,opened⟩

theorem safe_iff {s : Field} {file : TrackedFile} :
    Safe pair s file ↔ SafeAt pair s file.relativePath (stateOf s.world.db file) := by
  unfold Safe Remembered SafeAt
  rw [awaited_iff]
  rfl

theorem holds_iff {s : Field} : Holds pair none s ↔
    (s.world.db.drivePairs.find? pair.id = some pair ∧ Sound s.world.db ∧
      s.world.disk.available pair.standbyPath = s.shelf.isNone) ∧
    ∀ path state, stateAt s.world.db pair.id path = some state → Fits pair s path state := by
  constructor
  · intro holds
    refine ⟨⟨holds.row,holds.sound,holds.root⟩,fun path state seen => ?_⟩
    obtain ⟨file,found,rfl⟩ := Option.map_eq_some_iff.mp seen
    obtain ⟨present,own,rfl⟩ := fileAt_some found
    refine ⟨fun _ listed => ?_,safe_iff.mp (holds.safe file present own (Option.some_ne_none _).symm)⟩
    obtain ⟨item,member,rfl⟩ := List.mem_map.mp listed
    obtain ⟨row,same⟩ := List.mem_filter.mp member
    exact holds.routine item row file present (beq_iff_eq.mp same) own
  · rintro ⟨⟨row,sound,root⟩,fits⟩
    have seen {file : TrackedFile} (present : file ∈ s.world.db.trackedFiles.rows) (own : file.drivePairId = pair.id) :
        Fits pair s file.relativePath (stateOf s.world.db file) := by
      apply fits
      rw [stateAt,← own,fileAt_of_mem sound present,Option.map_some]
    refine ⟨row,sound,root,fun item listed file present same own => ?_,fun file present own _ =>
      safe_iff.mpr (seen present own).safe⟩
    have member : anonymous item ∈ queueOf s.world.db file.id :=
      List.mem_map_of_mem (List.mem_filter.mpr ⟨listed,beq_iff_eq.mpr same⟩)
    have routine : Routine (anonymous item) := (seen present own).routine _ member
    exact routine

theorem Holds.except {s : Field} (holds : Holds pair none s) (hole : Option Nat) : Holds pair hole s :=
  { holds with safe := fun file present own _ => holds.safe file present own (Option.some_ne_none _).symm }

theorem Holds.close {s : Field} {hole : Option Nat} (holds : Holds pair hole s)
    (safe : ∀ file ∈ s.world.db.trackedFiles.rows, file.drivePairId = pair.id → hole = some file.id → Safe pair s file) :
    Holds pair none s := by
  refine { holds with safe := fun file present own _ => ?_ }
  by_cases same : hole = some file.id
  · exact safe file present own same
  · exact holds.safe file present own same

theorem Holds.await {s : Field} {fileId : Nat} (holds : Holds pair (some fileId) s) (waits : Awaited s.world.db fileId) :
    Holds pair none s := by
  refine holds.close fun file _ _ hole => .inl (.inr ?_)
  rw [← Option.some.inj hole]
  exact waits

/-! What the scans record. -/

omit [Blake3] in
theorem waits_enqueue (action : SyncAction) (reason message : Option String) (state : FileState) :
    Waits (enqueue action reason message state) := by
  unfold enqueue
  split
  · rename_i opened
    obtain ⟨item,member,asked⟩ := List.any_eq_true.mp opened
    refine ⟨item,member,fun completed => ?_⟩
    rw [isOpenFor,completed] at asked
    simp [SyncStatus.isOpen] at asked
  · exact ⟨_,List.mem_append_right _ List.mem_cons_self,fun completed => by cases completed⟩

theorem enrolled_safe {io : Io} {s : Field} {path hash : String} (settles : Settles pair io s path)
    (new : stateAt s.world.db pair.id path = none)
    (read : hashAt io s.world.disk (pair.copyOn pair.activeRole path) = some hash) :
    SafeAt pair s path (enrolled io s.world.disk pair path hash) := by
  left
  rw [enrolled_checksum]
  unfold enrolled
  dsimp only
  cases mismatched : mismatchAt io s.world.disk (pair.copyOn pair.activeRole path) hash with
  | some mismatch => exact .inr (waits_enqueue _ _ _ _)
  | none =>
    dsimp only
    cases accepts : pair.standbyAcceptsSync s.world.disk with
    | true =>
      rw [if_pos rfl]
      exact .inr (waits_enqueue _ _ _ _)
    | false =>
      have known := settles.resolve_left (by rw [accepts]; exact Bool.false_ne_true) hash read
      rw [new,mismatched] at known
      exact .inl (known.resolve_left Bool.false_ne_true)

theorem refreshed_safe {io : Io} {s : Field} {path hash : String} {state : FileState} (settles : Settles pair io s path)
    (seen : stateAt s.world.db pair.id path = some state) (safe : SafeAt pair s path state)
    (read : hashAt io s.world.disk (pair.copyOn pair.activeRole path) = some hash) :
    SafeAt pair s path (refreshed s.world.disk pair path hash state) := by
  unfold refreshed
  split
  · exact safe
  · rename_i differs
    left
    rw [changedTo_row]
    unfold changedTo
    cases accepts : pair.standbyAcceptsSync s.world.disk with
    | true => exact .inr (waits_enqueue _ _ _ _)
    | false =>
      have known := settles.resolve_left (by rw [accepts]; exact Bool.false_ne_true) hash read
      rw [seen] at known
      rcases known with same | waits | good
      · exact absurd same.symm differs
      · exact .inr waits
      · exact .inl good

omit [Blake3] in
theorem routine_enqueue {action : SyncAction} {reason message : Option String} {state : FileState}
    (plain : Routine (newItem action reason message)) (routine : ∀ item ∈ state.queue, Routine item) :
    ∀ item ∈ (enqueue action reason message state).queue, Routine item := by
  intro item member
  unfold enqueue at member
  split at member
  · exact routine item member
  · rcases List.mem_append.mp member with old | new
    · exact routine item old
    · rw [List.mem_singleton.mp new]
      exact plain

omit [Blake3] in
theorem enrolled_routine (io : Io) (disk : Disk) (path hash : String) :
    ∀ item ∈ (enrolled io disk pair path hash).queue, Routine item := by
  unfold enrolled
  dsimp only
  cases mismatchAt io disk (pair.copyOn pair.activeRole path) hash with
  | some mismatch => exact routine_enqueue (.inr rfl) fun _ listed => by cases listed
  | none =>
    dsimp only
    cases pair.standbyAcceptsSync disk with
    | true =>
      rw [if_pos rfl]
      exact routine_enqueue (.inl rfl) fun _ listed => by cases listed
    | false => exact fun _ listed => by cases listed

omit [Blake3] in
theorem refreshed_routine {disk : Disk} {path hash : String} {state : FileState}
    (routine : ∀ item ∈ state.queue, Routine item) : ∀ item ∈ (refreshed disk pair path hash state).queue, Routine item := by
  unfold refreshed
  split
  · exact routine
  · unfold changedTo
    cases pair.standbyAcceptsSync disk with
    | true => exact routine_enqueue (.inl rfl) routine
    | false => exact routine

theorem scanned_fits {io : Io} {s : Field} {path : String} (settles : Settles pair io s path)
    (fits : ∀ state, stateAt s.world.db pair.id path = some state → Fits pair s path state) (next : FileState)
    (left : scanned io s.world.disk pair path (stateAt s.world.db pair.id path) = some next) : Fits pair s path next := by
  cases seen : stateAt s.world.db pair.id path with
  | none =>
    rw [seen] at left
    obtain ⟨hash,read,rfl⟩ := Option.map_eq_some_iff.mp left
    exact ⟨enrolled_routine io _ path hash,enrolled_safe settles seen read⟩
  | some state =>
    rw [seen,scanned,recorded,Option.map_some,Option.some.injEq] at left
    rw [← left]
    cases read : hashAt io s.world.disk (pair.copyOn pair.activeRole path) with
    | none => exact fits state seen
    | some hash => exact ⟨refreshed_routine (fits state seen).routine,refreshed_safe settles seen (fits state seen).safe read⟩

theorem autoTracked_fits {io : Io} {s : Field} {path : String} (settles : Settles pair io s path)
    (fits : ∀ state, stateAt s.world.db pair.id path = some state → Fits pair s path state) (next : FileState)
    (left : autoTracked io s.world.disk pair path (stateAt s.world.db pair.id path) = some next) :
    Fits pair s path next := by
  cases seen : stateAt s.world.db pair.id path with
  | none =>
    apply scanned_fits settles fits
    rw [seen] at left ⊢
    exact left
  | some state =>
    rw [seen] at left
    cases left
    exact fits next seen

/-! One file of a scan. -/

variable {io : Io} {w : World} {path : String}

theorem createTrackedFileFromDisk_fails (direct viaFolder : Bool)
    (fails : io.ensureWorldReadable (pair.copyOn pair.activeRole path) = false ∨
      hashAt io w.disk (pair.copyOn pair.activeRole path) = none) :
    ∃ message, createTrackedFileFromDisk io pair path direct viaFolder w = .error message w := by
  unfold createTrackedFileFromDisk
  rw [bind_of_ok (Act.look_apply _ _)]
  cases present : w.disk.exists? (pair.copyOn pair.activeRole path) with
  | false => exact ⟨_,bind_of_error (Act.ensure_false _ _) _⟩
  | true =>
    have opened : ensureWorldReadable io (pair.copyOn pair.activeRole path) w =
        attemptCall (io.ensureWorldReadable (pair.copyOn pair.activeRole path)) w := by
      rw [ensureWorldReadable,bind_of_ok (Act.look_apply _ _),present,bind_of_ok (Act.ensure_true _ _)]
    rw [bind_of_ok (Act.ensure_true _ _)]
    cases permits : io.ensureWorldReadable (pair.copyOn pair.activeRole path) with
    | false =>
      rw [permits] at opened
      exact ⟨_,bind_of_error (opened.trans rfl) _⟩
    | true =>
      rw [permits] at opened
      have unread := fails.resolve_left (by simp [permits])
      rw [bind_of_ok (opened.trans rfl)]
      exact ⟨_,bind_of_error (Act.mapErr_of_error (checksumFile_of_unread unread _) _) _⟩

theorem scanFile_cases (io : Io) (pair : DrivePair) (path : String) (sound : Sound w.db) :
    (∃ t, scanFile io pair path w = .ok () t ∧ t.disk = w.disk ∧ Acts pair.id path (scanned io w.disk pair path) w.db t.db ∧
      (hashAt io w.disk (pair.copyOn pair.activeRole path)).isSome = true) ∨
    ∃ message, scanFile io pair path w = .error message w := by
  cases read : hashAt io w.disk (pair.copyOn pair.activeRole path) with
  | some hash =>
    by_cases permits : fileAt w.db pair.id path = none → io.ensureWorldReadable (pair.copyOn pair.activeRole path) = true
    · obtain ⟨t,ran,same,acts⟩ := scanFile_run sound permits read
      exact .inl ⟨t,ran,same,acts,rfl⟩
    · obtain ⟨fresh,refused⟩ := Classical.not_imp.mp permits
      obtain ⟨message,failed⟩ : ∃ message, createTrackedFileFromDisk io pair path false true w = .error message w :=
        createTrackedFileFromDisk_fails false true (.inl (Bool.eq_false_of_not_eq_true refused))
      refine .inr ⟨message,?_⟩
      rw [scanFile,bind_of_ok (lookup_none fresh)]
      exact bind_of_error (bind_of_error failed _) _
  | none =>
    right
    rw [scanFile]
    cases found : fileAt w.db pair.id path with
    | none =>
      obtain ⟨message,failed⟩ : ∃ message, createTrackedFileFromDisk io pair path false true w = .error message w :=
        createTrackedFileFromDisk_fails false true (.inr read)
      rw [bind_of_ok (lookup_none found)]
      exact ⟨message,bind_of_error (bind_of_error failed _) _⟩
    | some file =>
      rw [bind_of_ok (lookup_some found)]
      exact ⟨_,bind_of_error (checksumFile_of_unread read _) _⟩

theorem autoTrackPath_cases (io : Io) (pair : DrivePair) (path : String) (sound : Sound w.db) :
    (∃ t, autoTrackPath io pair path w = .ok () t ∧ t.disk = w.disk ∧
      Acts pair.id path (autoTracked io w.disk pair path) w.db t.db) ∨
    ∃ message, autoTrackPath io pair path w = .error message w := by
  cases found : fileAt w.db pair.id path with
  | some file =>
    refine .inl ⟨w,?_,rfl,(Acts.still sound).congr ?_⟩
    · rw [autoTrackPath,bind_of_ok (lookup_some found)]
      rfl
    · rw [stateAt,found]
      rfl
  | none =>
    by_cases fails : io.ensureWorldReadable (pair.copyOn pair.activeRole path) = false ∨
        hashAt io w.disk (pair.copyOn pair.activeRole path) = none
    · obtain ⟨message,failed⟩ : ∃ message, createTrackedFileFromDisk io pair path false true w = .error message w :=
        createTrackedFileFromDisk_fails false true fails
      refine .inr ⟨message,?_⟩
      rw [autoTrackPath,bind_of_ok (lookup_none found)]
      exact bind_of_error (bind_of_error failed _) _
    · obtain ⟨permits,read⟩ := not_or.mp fails
      obtain ⟨hash,read⟩ := Option.ne_none_iff_exists'.mp read
      obtain ⟨t,ran,same,acts⟩ := autoTrackPath_run sound (fun _ => Bool.eq_true_of_not_eq_false permits) read
      exact .inl ⟨t,ran,same,acts⟩

/-! Whole scans. -/

theorem rowsOnly_createTrackedFileFromDisk (io : Io) (path : String) (direct viaFolder : Bool) :
    Keeps RowsOnly (createTrackedFileFromDisk io pair path direct viaFolder) := by
  refine keeps_bind (rowsOnly_still fun _ => rfl) fun _ => ?_
  refine keeps_bind (rowsOnly_still (RootMarkers.ensure_still _ _)) fun _ => ?_
  refine keeps_bind (keeps_bind (rowsOnly_still fun _ => rfl) fun _ =>
    keeps_bind (rowsOnly_still (RootMarkers.ensure_still _ _)) fun _ =>
      rowsOnly_still (RootMarkers.ensure_still _ _)) fun _ => ?_
  refine keeps_bind (rowsOnly_still fun w => ?_) fun checksum => ?_
  · rw [Act.after_mapErr]
    exact checksumFile_after io w _ _
  refine keeps_bind (keeps_attempt (rowsOnly_still (looks_readB3Sidecar io _).still)) fun _ => ?_
  refine keeps_bind (rowsOnly_metadataLen _) fun size => keeps_bind (fun w => ?_) fun _ => keeps_pure _
  rw [Act.after_insertOrFail]
  refine ⟨?_,rfl⟩
  change (w.db.createTrackedFileWithSource pair.id path checksum size none direct viaFolder).2.drivePairs = _
  unfold Db.createTrackedFileWithSource
  split <;> rfl

theorem rowsOnly_autoTrackFile (io : Io) (path : String) : Keeps RowsOnly (autoTrackFile io pair path) :=
  keeps_bind (rowsOnly_createTrackedFileFromDisk io path false true) fun _ =>
    keeps_bind (rowsOnly_queueAutoTracked pair _ _) fun _ => keeps_pure _

theorem rowsOnly_scanFile (io : Io) (path : String) : Keeps RowsOnly (scanFile io pair path) := by
  refine keeps_bind (keeps_attempt (rowsOnly_still fun w => Act.after_query _ w)) fun existing => ?_
  cases existing with
  | ok existing =>
    refine keeps_bind (rowsOnly_still fun w => checksumFile_after io w _ _) fun _ => ?_
    split
    · exact rowsOnly_recordChange pair _ _ _
    · exact keeps_pure _
  | error _ => exact keeps_bind (rowsOnly_autoTrackFile io path) fun _ => keeps_pure _

theorem rowsOnly_autoTrackPath (io : Io) (path : String) : Keeps RowsOnly (autoTrackPath io pair path) := by
  refine keeps_bind (keeps_attempt (rowsOnly_still fun w => Act.after_query _ w)) fun existing => ?_
  cases existing with
  | ok existing => exact keeps_pure _
  | error _ => exact keeps_bind (rowsOnly_autoTrackFile io path) fun _ => keeps_pure _

omit [Blake3] in
theorem rowsOnly_recordChanges (changes : List (TrackedFile × String)) : Keeps RowsOnly (recordChanges pair changes) := by
  induction changes with
  | nil => exact keeps_pure _
  | cons change changes ih => exact keeps_bind (rowsOnly_recordChange pair _ _ _) fun _ => ih

omit [Blake3] in
theorem standbyNode_disk {s : Field} {t : World} (disk : t.disk = s.world.disk) :
    standbyNode pair ⟨t,s.shelf⟩ = standbyNode pair s := by
  unfold standbyNode
  rw [disk]

theorem Fits.later {s : Field} {t : World} {state : FileState} (fits : Fits pair s path state)
    (disk : t.disk = s.world.disk) : Fits pair ⟨t,s.shelf⟩ path state := by
  refine ⟨fits.routine,?_⟩
  unfold SafeAt
  rw [standbyNode_disk disk,disk]
  exact fits.safe

theorem holds_of_takes {s : Field} {t : World} {change : String → Option FileState → Option FileState}
    (holds : Holds pair none s) (rows : RowsOnly s.world t) (takes : Takes pair.id change s.world.db t.db)
    (fits : ∀ path state, change path (stateAt s.world.db pair.id path) = some state → Fits pair s path state) :
    Holds pair none ⟨t,s.shelf⟩ := by
  refine holds_iff.mpr ⟨⟨?_,takes.sound,?_⟩,fun path state seen => ?_⟩
  · rw [rows.pairs]
    exact holds.row
  · rw [rows.disk]
    exact holds.root
  · rw [takes.state] at seen
    exact (fits path state seen).later rows.disk

theorem settles_later {s : Field} {t : World} (disk : t.disk = s.world.disk) (settles : Settles pair io s path)
    (known : stateAt t.db pair.id path = stateAt s.world.db pair.id path ∨
      ∀ hash, hashAt io s.world.disk (pair.copyOn pair.activeRole path) = some hash →
        ∃ state, stateAt t.db pair.id path = some state ∧ state.row.checksum = hash) :
    Settles pair io ⟨t,s.shelf⟩ path := by
  unfold Settles
  rw [standbyNode_disk disk,disk]
  refine settles.imp id fun fine hash read => ?_
  rcases known with same | recorded
  · rw [same]
    exact fine hash read
  · obtain ⟨state,seen,checksum⟩ := recorded hash read
    rw [seen]
    exact .inl checksum

theorem scanned_checksum (before : Option FileState) {disk : Disk} {hash : String}
    (read : hashAt io disk (pair.copyOn pair.activeRole path) = some hash) :
    ∃ state, scanned io disk pair path before = some state ∧ state.row.checksum = hash := by
  cases before with
  | none =>
    refine ⟨enrolled io disk pair path hash,?_,enrolled_checksum disk path hash⟩
    rw [scanned,autoTracked,read,Option.map_some]
  | some state =>
    refine ⟨refreshed disk pair path hash state,?_,refreshed_checksum disk path hash state⟩
    rw [scanned,recorded,Option.map_some,read,Option.elim_some]

/-- The path is tracked with its present content. -/
def Known (io : Io) (pair : DrivePair) (w : World) (path : String) : Prop :=
  ∃ state, stateAt w.db pair.id path = some state ∧
    hashAt io w.disk (pair.copyOn pair.activeRole path) = some state.row.checksum

/-- After some paths of a walk, with what was settled before. -/
structure Visited (io : Io) (pair : DrivePair) (s : Field) (t : World) : Prop where
  holds : Holds pair none ⟨t,s.shelf⟩
  disk : t.disk = s.world.disk
  settles : ∀ other, Settles pair io s other → Settles pair io ⟨t,s.shelf⟩ other
  known : ∀ other, Known io pair s.world other → Known io pair t other

theorem Visited.trans {s : Field} {t u : World} (first : Visited io pair s t) (second : Visited io pair ⟨t,s.shelf⟩ u) :
    Visited io pair s u :=
  ⟨second.holds,second.disk.trans first.disk,fun other before => second.settles other (first.settles other before),
    fun other before => second.known other (first.known other before)⟩

theorem visited_elsewhere {s : Field} {t : World} (holds : Holds pair none s) (rows : RowsOnly s.world t)
    (takes : Takes pair.id (fun _ => id) s.world.db t.db) : Visited io pair s t := by
  refine ⟨holds_of_takes holds rows takes fun path state seen => (holds_iff.mp holds).2 path state seen,rows.disk,?_,?_⟩
  · exact fun other before => settles_later rows.disk before (.inl (takes.state other))
  · rintro other ⟨state,seen,read⟩
    exact ⟨state,(takes.state other).trans seen,by rw [rows.disk]; exact read⟩

theorem visited_scanFile {s : Field} {t : World} (holds : Holds pair none s) (settles : Settles pair io s path)
    (ran : scanFile io pair path s.world = .ok () t) : Visited io pair s t ∧ Known io pair t path := by
  have rows : RowsOnly s.world (after (scanFile io pair path) s.world) := rowsOnly_scanFile io path s.world
  rw [after_of_ok ran] at rows
  rcases scanFile_cases io pair path holds.sound with
    ⟨u,ran',disk,acts,read⟩ | ⟨message,failed⟩
  · cases ran.symm.trans ran'
    obtain ⟨hash,read⟩ := Option.isSome_iff_exists.mp read
    have known : Known io pair t path := by
      obtain ⟨state,left,checksum⟩ := scanned_checksum (stateAt s.world.db pair.id path) read
      exact ⟨state,acts.state.trans left,by rw [disk,checksum]; exact read⟩
    refine ⟨⟨holds_of_takes holds rows acts.takes fun other state left => ?_,disk,fun other before => ?_,
      fun other before => ?_⟩,known⟩
    · by_cases same : other = path
      · rw [if_pos same,same] at left
        rw [same]
        exact scanned_fits settles (fun state seen => (holds_iff.mp holds).2 path state seen) state left
      · rw [if_neg same] at left
        exact (holds_iff.mp holds).2 other state left
    · apply settles_later disk before
      by_cases same : other = path
      · subst same
        refine .inr fun hash read => ?_
        rw [acts.state]
        exact scanned_checksum _ read
      · exact .inl (acts.others other same)
    · by_cases same : other = path
      · rw [same]
        exact known
      · obtain ⟨state,seen,read⟩ := before
        exact ⟨state,(acts.others other same).trans seen,by rw [disk]; exact read⟩
  · cases ran.symm.trans failed

theorem visited_autoTrackPath {s : Field} {t : World} (holds : Holds pair none s) (settles : Settles pair io s path)
    (ran : autoTrackPath io pair path s.world = .ok () t) : Visited io pair s t := by
  have rows : RowsOnly s.world (after (autoTrackPath io pair path) s.world) := rowsOnly_autoTrackPath io path s.world
  rw [after_of_ok ran] at rows
  rcases autoTrackPath_cases io pair path holds.sound with
    ⟨u,ran',disk,acts⟩ | ⟨message,failed⟩
  · cases ran.symm.trans ran'
    refine ⟨holds_of_takes holds rows acts.takes fun other state left => ?_,disk,fun other before => ?_,
      fun other before => ?_⟩
    · by_cases same : other = path
      · rw [if_pos same,same] at left
        rw [same]
        exact autoTracked_fits settles (fun state seen => (holds_iff.mp holds).2 path state seen) state left
      · rw [if_neg same] at left
        exact (holds_iff.mp holds).2 other state left
    · apply settles_later disk before
      by_cases same : other = path
      · subst same
        cases seen : stateAt s.world.db pair.id other with
        | some state =>
          left
          rw [acts.state,seen]
          rfl
        | none =>
          refine .inr fun hash read => ?_
          rw [acts.state,seen,autoTracked,read,Option.map_some]
          exact ⟨_,rfl,enrolled_checksum _ _ _⟩
      · exact .inl (acts.others other same)
    · obtain ⟨state,seen,read⟩ := before
      refine ⟨state,?_,by rw [disk]; exact read⟩
      by_cases same : other = path
      · rw [same] at seen ⊢
        rw [acts.state,seen]
        rfl
      · exact (acts.others other same).trans seen
  · cases ran.symm.trans failed

theorem scanFiles_visited (folder : TrackedFolder) (paths : List String) (count : Nat) {s : Field}
    (holds : Holds pair none s) (settles : ∀ path ∈ visits folder paths, Settles pair io s path) :
    Holds pair none (s.act (scanFiles io pair folder count paths)) ∧
      ∀ t, scanFiles io pair folder count paths s.world = .ok () t →
        Visited io pair s t ∧ ∀ path ∈ visits folder paths, Known io pair t path := by
  induction paths generalizing s count with
  | nil =>
    refine ⟨holds,fun t ran => ?_⟩
    cases ran
    exact ⟨⟨holds,rfl,fun _ => id,fun _ => id⟩,fun path listed => by cases listed⟩
  | cons path paths ih =>
    unfold scanFiles
    cases skipped : passedOver folder path with
    | true =>
      have rest : visits folder (path::paths) = visits folder paths := List.filter_cons_of_neg (by simp [skipped])
      rw [rest] at settles ⊢
      exact ih count holds settles
    | false =>
      have here : visits folder (path::paths) = path::visits folder paths := List.filter_cons_of_pos (by simp [skipped])
      rw [here] at settles ⊢
      obtain ⟨first,later⟩ := List.forall_mem_cons.mp settles
      rw [if_neg Bool.false_ne_true]
      rcases scanFile_cases io pair path holds.sound with ⟨u,ran,_⟩ | ⟨message,failed⟩
      · obtain ⟨visited,known⟩ := visited_scanFile holds first ran
        let counted : World := { u with db := u.db.updateScanProgress folder.id (count + 1) }
        have progress : Visited io pair ⟨u,s.shelf⟩ counted :=
          visited_elsewhere visited.holds ⟨rfl,rfl⟩ (takes_folders visited.holds.sound (fun other => other.id == folder.id)
            (fun other => { other with scanScannedFiles := count + 1 }) (fun _ => rfl) fun _ => ⟨rfl,rfl⟩)
        have both := visited.trans progress
        obtain ⟨ends,rests⟩ := ih (count + 1) both.holds fun other member => both.settles other (later other member)
        have run : (do scanFile io pair path
                       Act.execute (fun db => db.updateScanProgress folder.id (count + 1))
                       scanFiles io pair folder (count + 1) paths) s.world =
            scanFiles io pair folder (count + 1) paths counted :=
          (bind_of_ok ran _).trans (bind_of_ok (Act.execute_apply _ _) _)
        rw [Field.act,after,run]
        refine ⟨ends,fun t ran' => ?_⟩
        obtain ⟨visits,knows⟩ := rests t ran'
        refine ⟨both.trans visits,List.forall_mem_cons.mpr ⟨visits.known path (progress.known path known),knows⟩⟩
      · rw [Field.act,after_bind_of_error failed]
        refine ⟨holds,fun t ran => ?_⟩
        cases (bind_of_error failed _).symm.trans ran

theorem autoTrackFiles_visited (folder : TrackedFolder) (paths : List String) {s : Field}
    (holds : Holds pair none s) (settles : ∀ path ∈ visits folder paths, Settles pair io s path) :
    Holds pair none (s.act (autoTrackFiles io pair folder paths)) ∧
      ∀ t, autoTrackFiles io pair folder paths s.world = .ok () t → Visited io pair s t ∧
        ∀ other, other ∉ visits folder paths → stateAt t.db pair.id other = stateAt s.world.db pair.id other := by
  induction paths generalizing s with
  | nil =>
    refine ⟨holds,fun t ran => ?_⟩
    cases ran
    exact ⟨⟨holds,rfl,fun _ => id,fun _ => id⟩,fun _ _ => rfl⟩
  | cons path paths ih =>
    unfold autoTrackFiles
    cases skipped : passedOver folder path with
    | true =>
      have rest : visits folder (path::paths) = visits folder paths := List.filter_cons_of_neg (by simp [skipped])
      rw [rest] at settles ⊢
      exact ih holds settles
    | false =>
      have here : visits folder (path::paths) = path::visits folder paths := List.filter_cons_of_pos (by simp [skipped])
      rw [here] at settles ⊢
      obtain ⟨first,later⟩ := List.forall_mem_cons.mp settles
      rw [if_neg Bool.false_ne_true]
      rcases autoTrackPath_cases io pair path holds.sound with ⟨u,ran,_,acts⟩ | ⟨message,failed⟩
      · have visited := visited_autoTrackPath holds first ran
        obtain ⟨ends,rests⟩ := ih visited.holds fun other member => visited.settles other (later other member)
        have run : (do autoTrackPath io pair path
                       autoTrackFiles io pair folder paths) s.world = autoTrackFiles io pair folder paths u :=
          bind_of_ok ran _
        rw [Field.act,after,run]
        refine ⟨ends,fun t ran' => ?_⟩
        obtain ⟨visits,elsewhere⟩ := rests t ran'
        refine ⟨visited.trans visits,fun other unlisted => ?_⟩
        rw [List.mem_cons,not_or] at unlisted
        exact (elsewhere other unlisted.2).trans (acts.others other unlisted.1)
      · rw [Field.act,after_bind_of_error failed]
        refine ⟨holds,fun t ran => ?_⟩
        cases (bind_of_error failed _).symm.trans ran

theorem holds_bind {α β : Type} {hole : Option Nat} {x : Act α} {f : α → Act β} {s : Field}
    (first : Holds pair hole (s.act x))
    (rest : ∀ a t, x s.world = .ok a t → Holds pair hole ⟨t,s.shelf⟩ → Holds pair hole ((⟨t,s.shelf⟩ : Field).act (f a))) :
    Holds pair hole (s.act (x >>= f)) := by
  unfold Field.act at first ⊢
  cases ran : x s.world with
  | error message t =>
    rw [after_of_error ran] at first
    rw [after_bind_of_error ran]
    exact first
  | ok a t =>
    rw [after_of_ok ran] at first
    rw [after_bind_of_ok ran]
    exact rest a t ran first

theorem holds_still {α : Type} {hole : Option Nat} {x : Act α} {s : Field} (still : ∀ w, after x w = w)
    (holds : Holds pair hole s) : Holds pair hole (s.act x) := by
  rw [Field.act,still]
  exact holds

theorem not_differs_of_known (io : Io) {s : Field} {file : TrackedFile} (sound : Sound s.world.db)
    (present : file ∈ s.world.db.trackedFiles.rows) (own : file.drivePairId = pair.id)
    (known : Known io pair s.world file.relativePath) : ¬Differs pair s.world.disk file.relativePath file.checksum := by
  rintro ⟨_,differs⟩
  obtain ⟨state,seen,read⟩ := known
  rw [stateAt,← own,fileAt_of_mem sound present,Option.map_some,Option.some.injEq] at seen
  rw [← seen] at read
  obtain ⟨node,found,hashed⟩ := Option.bind_eq_some_iff.mp read
  split at hashed
  · rename_i reads
    exact differs ⟨node,found,(Bool.and_eq_true_iff.mp reads).2,Option.some.inj hashed⟩
  · cases hashed

omit [Blake3] in
theorem finish_still (walk : Walk) (w : World) : after walk.finish w = w := by
  unfold Walk.finish
  split <;> rfl

omit [Blake3] in
theorem finish_success {walk : Walk} {t : World} (ran : walk.finish w = .ok () t) : t = w := by
  have still := finish_still walk w
  rwa [after_of_ok ran] at still

theorem visited_recompute (io : Io) {s : Field} (holds : Holds pair none s) :
    Visited io pair s { s.world with db := s.world.db.recomputeFolderProvenanceForDrive pair.id } := by
  have takes : Takes pair.id (fun _ => Option.map (flagged s.world.db pair.id)) s.world.db
      (s.world.db.recomputeFolderProvenanceForDrive pair.id) := takes_recompute holds.sound
  have flags (path : String) (state : FileState) :
      (flagged s.world.db pair.id state).row.checksum = state.row.checksum := by
    unfold flagged Db.provenanceOf
    dsimp only
    split <;> rfl
  refine ⟨holds_of_takes holds ⟨rfl,rfl⟩ takes fun path state seen => ?_,rfl,fun path before => ?_,?_⟩
  · obtain ⟨old,found,rfl⟩ := Option.map_eq_some_iff.mp seen
    have fits := (holds_iff.mp holds).2 path old found
    refine ⟨fits.routine,?_⟩
    unfold SafeAt
    rw [flags path]
    exact fits.safe
  · refine before.imp id fun fine hash read => ?_
    have state := takes.state path
    have settled := fine hash read
    rw [state]
    cases found : stateAt s.world.db pair.id path with
    | none =>
      rw [found] at settled
      exact settled
    | some old =>
      rw [found] at settled
      change (flagged s.world.db pair.id old).row.checksum = hash ∨ _
      rw [flags path]
      exact settled
  · rintro path ⟨old,found,read⟩
    refine ⟨flagged s.world.db pair.id old,?_,by rw [flags path]; exact read⟩
    rw [takes.state,found,Option.map_some]

theorem scanTrackedFolder_visited (walk : Walk) (folder : TrackedFolder) {s : Field} (holds : Holds pair none s)
    (settles : ∀ path ∈ visits folder walk.files, Settles pair io s path) :
    Holds pair none (s.act (scanTrackedFolder io walk pair folder)) ∧
      ∀ t, scanTrackedFolder io walk pair folder s.world = .ok () t →
        Visited io pair s t ∧ ∀ path ∈ visits folder walk.files, Known io pair t path := by
  obtain ⟨ends,visits⟩ := scanFiles_visited folder walk.files 0 holds settles
  constructor
  · refine holds_bind (holds_still (fun w => Act.after_query _ w) holds) fun _ t queried holds => ?_
    obtain ⟨_,rfl⟩ := Act.query_success queried
    refine holds_bind ends fun _ t ran holds => holds_bind (holds_still (finish_still walk) holds) fun _ u finished holds => ?_
    exact (visited_recompute io holds).holds
  · intro t ran
    obtain ⟨_,u,queried,ran'⟩ := bind_success ran
    obtain ⟨_,rfl⟩ := Act.query_success queried
    obtain ⟨_,v,scanned,ran''⟩ := bind_success ran'
    obtain ⟨_,x,finished,recomputed⟩ := bind_success ran''
    obtain ⟨visited,known⟩ := visits v scanned
    obtain rfl := finish_success finished
    cases recomputed
    have flags := visited_recompute io visited.holds
    exact ⟨visited.trans flags,fun path listed => flags.known path (known path listed)⟩

theorem autoTrackFolderFiles_visited (walk : Walk) (folder : TrackedFolder) {s : Field} (holds : Holds pair none s)
    (settles : ∀ path ∈ visits folder walk.files, Settles pair io s path) :
    Holds pair none (s.act (autoTrackFolderFiles io walk pair folder)) ∧
      ∀ t, autoTrackFolderFiles io walk pair folder s.world = .ok () t → Visited io pair s t ∧
        ∀ other, stateAt t.db pair.id other ≠ none → other ∈ visits folder walk.files ∨
          stateAt s.world.db pair.id other ≠ none := by
  obtain ⟨ends,visits⟩ := autoTrackFiles_visited folder walk.files holds settles
  constructor
  · refine holds_bind (holds_still (fun w => Act.after_query _ w) holds) fun _ t queried holds => ?_
    obtain ⟨_,rfl⟩ := Act.query_success queried
    refine holds_bind ends fun _ t ran holds => holds_bind (holds_still (finish_still walk) holds) fun _ u finished holds => ?_
    exact (visited_recompute io holds).holds
  · intro t ran
    obtain ⟨_,u,queried,ran'⟩ := bind_success ran
    obtain ⟨_,rfl⟩ := Act.query_success queried
    obtain ⟨_,v,tracked,ran''⟩ := bind_success ran'
    obtain ⟨_,x,finished,recomputed⟩ := bind_success ran''
    obtain ⟨visited,elsewhere⟩ := visits v tracked
    obtain rfl := finish_success finished
    cases recomputed
    refine ⟨visited.trans (visited_recompute io visited.holds),fun other seen => or_iff_not_imp_left.mpr fun unlisted => ?_⟩
    have takes : Takes pair.id (fun _ => Option.map (flagged x.db pair.id)) x.db
        (x.db.recomputeFolderProvenanceForDrive pair.id) := takes_recompute visited.holds.sound
    rw [takes.state other,elsewhere other unlisted] at seen
    exact fun none => seen (by rw [none]; rfl)

theorem scanAndRecordChanges_visited {s : Field} (holds : Holds pair none s)
    (settles : ∀ path, stateAt s.world.db pair.id path ≠ none → Settles pair io s path) :
    Holds pair none (s.act (scanAndRecordChanges io pair)) ∧
      ∀ t, scanAndRecordChanges io pair s.world = .ok () t → ∀ file ∈ t.db.trackedFiles.rows, file.drivePairId = pair.id →
        ¬Differs pair t.disk file.relativePath file.checksum := by
  by_cases blocked : Blocked io s.world.disk pair s.world.db
  · have failed := scanAndRecordChanges_fails blocked
    constructor
    · rw [Field.act,after_of_error failed]
      exact holds
    · intro t ran
      cases failed.symm.trans ran
  · obtain ⟨t,ran,disk,takes⟩ := scanAndRecordChanges_run holds.sound blocked
    have rows : RowsOnly s.world t := by
      have detected : scanAllChanges io pair s.world = .ok _ s.world := detectChanges_run (readsAll_iff.mpr blocked)
      let changes := (s.world.db.listTrackedFilesOfPair pair.id).filterMap (changeOf io s.world.disk pair)
      have recorded : RowsOnly s.world (after (recordChanges pair changes) s.world) := rowsOnly_recordChanges changes s.world
      rw [after_of_ok ((bind_of_ok detected _).symm.trans ran)] at recorded
      exact recorded
    have after_ := holds_of_takes holds rows takes fun path state left => by
      cases seen : stateAt s.world.db pair.id path with
      | none =>
        rw [seen] at left
        cases left
      | some old =>
        have settled := settles path (by rw [seen]; exact Option.some_ne_none _)
        apply scanned_fits settled fun state seen => (holds_iff.mp holds).2 path state seen
        rw [seen] at left ⊢
        exact left
    refine ⟨by rw [Field.act,after_of_ok ran]; exact after_,fun u ran' file present own => ?_⟩
    cases ran.symm.trans ran'
    have seen := takes.state file.relativePath
    rw [stateAt,← own,fileAt_of_mem takes.sound present,Option.map_some,own] at seen
    cases read : hashAt io s.world.disk (pair.copyOn pair.activeRole file.relativePath) with
    | some hash =>
      refine not_differs_of_known io (s := ⟨t,s.shelf⟩) takes.sound present own ⟨stateOf t.db file,?_,?_⟩
      · rw [stateAt,← own,fileAt_of_mem takes.sound present,Option.map_some]
      · obtain ⟨old,_,left⟩ := Option.map_eq_some_iff.mp seen.symm
        rw [read,Option.elim_some] at left
        rw [disk,read,← left,refreshed_checksum]
    | none =>
      rintro ⟨⟨node,there⟩,_⟩
      refine blocked ⟨file.relativePath,fun untracked => ?_,?_⟩
      · rw [stateAt_none.mpr untracked] at seen
        cases seen
      · rw [disk] at there
        rw [unreadable,read,Disk.exists?,there]
        rfl

/-! The routes and the command. -/

omit [Blake3] in
/-- Nothing is written that counts here. -/
structure Elsewhere (w t : World) : Prop where
  pairs : t.db.drivePairs = w.db.drivePairs
  files : t.db.trackedFiles = w.db.trackedFiles
  queue : t.db.syncQueue = w.db.syncQueue
  disk : t.disk = w.disk

omit [Blake3] in
theorem Elsewhere.stateAt {w t : World} (elsewhere : Elsewhere w t) (pairId : Nat) (path : String) :
    stateAt t.db pairId path = ScanStates.stateAt w.db pairId path := by
  unfold ScanStates.stateAt fileAt stateOf queueOf
  rw [elsewhere.files,elsewhere.queue]

theorem Elsewhere.visited {s : Field} {t : World} (elsewhere : Elsewhere s.world t) (io : Io) (holds : Holds pair none s) :
    Visited io pair s t := by
  have sound : Sound t.db := by
    constructor
    · rw [elsewhere.files]
      exact holds.sound.paths
    · rw [elsewhere.queue,elsewhere.files]
      exact holds.sound.refs
  refine ⟨holds_iff.mpr ⟨⟨?_,sound,?_⟩,fun path state seen => ?_⟩,elsewhere.disk,fun path before => ?_,?_⟩
  · rw [elsewhere.pairs]
    exact holds.row
  · rw [elsewhere.disk]
    exact holds.root
  · rw [elsewhere.stateAt] at seen
    exact ((holds_iff.mp holds).2 path state seen).later elsewhere.disk
  · exact settles_later elsewhere.disk before (.inl (elsewhere.stateAt _ _))
  · rintro path ⟨state,seen,read⟩
    exact ⟨state,(elsewhere.stateAt _ _).trans seen,by rw [elsewhere.disk]; exact read⟩

theorem Elsewhere.holds {s : Field} {t : World} (elsewhere : Elsewhere s.world t) (holds : Holds pair none s) :
    Holds pair none ⟨t,s.shelf⟩ := (elsewhere.visited Io.healthy holds).holds

theorem load_steady {s : Field} {hole : Option Nat} (holds : Holds pair hole s)
    (steady : emergencyFailoverDue s.world.disk pair = false) : loadOperationalPair pair.id s.world = .ok pair s.world := by
  have found := Db.getDrivePair_ok.mpr holds.row
  rw [loadOperationalPair_run found,DrivePair.operational,Db.operational,steady]
  rfl

/-- The folder, if there is one, is a folder of the pair. -/
def FolderOf (pair : DrivePair) (folderId : Nat) (db : Db) : Prop :=
  ∀ folder, db.trackedFolders.find? folderId = some folder → folder.drivePairId = pair.id

omit [Blake3] in
theorem getTrackedFolder_success {folderId : Nat} {folder : TrackedFolder} {t : World}
    (ran : Act.query (fun db => db.getTrackedFolder folderId) w = .ok folder t) :
    t = w ∧ w.db.trackedFolders.find? folderId = some folder := by
  obtain ⟨read,rfl⟩ := Act.query_success ran
  refine ⟨rfl,?_⟩
  unfold Db.getTrackedFolder at read
  split at read
  · cases read
    assumption
  · cases read

theorem scanFolderCommand_holds (walk : Walk) (folderId : Nat) {s : Field} (holds : Holds pair none s)
    (steady : emergencyFailoverDue s.world.disk pair = false) (own : FolderOf pair folderId s.world.db)
    (settles : ∀ folder, s.world.db.trackedFolders.find? folderId = some folder → ∀ path,
      path ∈ visits folder walk.files ∨ stateAt s.world.db pair.id path ≠ none → Settles pair io s path) :
    Holds pair none (s.act (scanFolderCommand io walk folderId)) ∧
      ∀ t, scanFolderCommand io walk folderId s.world = .ok () t → ∀ file ∈ t.db.trackedFiles.rows,
        file.drivePairId = pair.id → ¬Differs pair t.disk file.relativePath file.checksum := by
  have recordable {folder : TrackedFolder} (found : s.world.db.trackedFolders.find? folderId = some folder) {t : World}
      (visited : Visited io pair s t) (tracked : ∀ other, stateAt t.db pair.id other ≠ none →
        other ∈ visits folder walk.files ∨ stateAt s.world.db pair.id other ≠ none) (path : String)
      (seen : stateAt t.db pair.id path ≠ none) : Settles pair io ⟨t,s.shelf⟩ path :=
    visited.settles path (settles folder found path (tracked path seen))
  constructor
  · refine holds_bind (holds_still (fun w => Act.after_query _ w) holds) fun folder t queried holds => ?_
    obtain ⟨rfl,found⟩ := getTrackedFolder_success queried
    have loaded := load_steady holds steady
    rw [← own folder found] at loaded
    refine holds_bind (by rw [Field.act,after_of_ok loaded]; exact holds) fun now t ran holds => ?_
    cases ran.symm.trans loaded
    obtain ⟨ends,visits⟩ := autoTrackFolderFiles_visited walk folder holds fun path visited =>
      settles folder found path (.inl visited)
    refine holds_bind ends fun _ t tracked holds => ?_
    obtain ⟨visited,tracks⟩ := visits t tracked
    exact (scanAndRecordChanges_visited holds (recordable found visited tracks)).1
  · intro t ran
    obtain ⟨folder,u,queried,ran'⟩ := bind_success ran
    obtain ⟨rfl,found⟩ := getTrackedFolder_success queried
    have loaded := load_steady holds steady
    rw [← own folder found] at loaded
    obtain ⟨now,v,ran'',rest⟩ := bind_success ran'
    cases ran''.symm.trans loaded
    obtain ⟨_,x,tracked,recorded⟩ := bind_success rest
    obtain ⟨visited,tracks⟩ := (autoTrackFolderFiles_visited walk folder holds fun path visited =>
      settles folder found path (.inl visited)).2 x tracked
    exact (scanAndRecordChanges_visited visited.holds (recordable found visited tracks)).2 t recorded

omit [Blake3] in
theorem startFolderScan_folder {db : Db} {id total folderId : Nat} {now : TrackedFolder}
    (found : (db.startFolderScan id total).2.trackedFolders.find? folderId = some now) :
    ∃ folder, db.trackedFolders.find? folderId = some folder ∧ now.drivePairId = folder.drivePairId ∧
      ∀ paths, visits now paths = visits folder paths := by
  unfold Db.startFolderScan at found
  split at found
  · rw [Db.updateFolderWhere,Table.find?_updateWhere] at found
    obtain ⟨folder,there,rfl⟩ := Option.map_eq_some_iff.mp found
    refine ⟨folder,there,?_⟩
    split
    · exact ⟨rfl,fun _ => rfl⟩
    · exact ⟨rfl,fun _ => rfl⟩
  · exact ⟨now,found,rfl,fun _ => rfl⟩

omit [Blake3] in
theorem elsewhere_startFolderScan (w : World) (id total : Nat) :
    Elsewhere w { w with db := (w.db.startFolderScan id total).2 } := by
  unfold Db.startFolderScan
  split
  · exact ⟨rfl,rfl,rfl,rfl⟩
  · exact ⟨rfl,rfl,rfl,rfl⟩

theorem scanFolderRoute_holds (counted walk : Walk) (folderId : Nat) {s : Field} (holds : Holds pair none s)
    (steady : emergencyFailoverDue s.world.disk pair = false) (own : FolderOf pair folderId s.world.db)
    (settles : ∀ folder, s.world.db.trackedFolders.find? folderId = some folder →
      ∀ path ∈ visits folder walk.files, Settles pair io s path) :
    Holds pair none (s.act (scanFolderRoute io counted walk folderId)) := by
  refine holds_bind (holds_still (fun w => Act.after_query _ w) holds) fun folder t queried holds => ?_
  obtain ⟨rfl,found⟩ := getTrackedFolder_success queried
  have loaded := load_steady holds steady
  rw [← own folder found] at loaded
  refine holds_bind (by rw [Field.act,after_of_ok loaded]; exact holds) fun now t ran holds => ?_
  cases ran.symm.trans loaded
  have counts (w : World) : after (counted.countFolderFiles folder) w = w := by
    unfold Walk.countFolderFiles
    rw [after_bind_of_still fun _ _ => rfl]
    exact finish_still counted w
  refine holds_bind (holds_still counts holds) fun total t ran holds => ?_
  have same := counts s.world
  rw [after_of_ok ran] at same
  obtain rfl : t = s.world := same
  have started : Visited io pair s { s.world with db := (s.world.db.startFolderScan folder.id total).2 } :=
    (elsewhere_startFolderScan s.world folder.id total).visited io holds
  refine holds_bind ?_ fun _ t ran holds => ?_
  · rw [Field.act,Act.after_insertOrFail]
    exact started.holds
  obtain rfl := Act.insertOrFail_success ran
  refine holds_bind ?_ fun _ t _ holds => ?_
  · rw [Field.act,after_attempt]
    refine holds_bind (holds_still (fun w => Act.after_query _ w) holds) fun now t queried holds => ?_
    obtain ⟨rfl,there⟩ := getTrackedFolder_success queried
    obtain ⟨before,foundBefore,kept,same⟩ := startFolderScan_folder there
    have again := load_steady holds (by rw [started.disk]; exact steady)
    rw [← own before foundBefore,← kept] at again
    refine holds_bind (by rw [Field.act,after_of_ok again]; exact holds) fun other t ran holds => ?_
    cases ran.symm.trans again
    refine (scanTrackedFolder_visited walk now holds fun path listed => ?_).1
    rw [same] at listed
    exact started.settles path (settles before foundBefore path listed)
  · have finished : Elsewhere t { t with db := t.db.finishFolderScan folderId } := ⟨rfl,rfl,rfl,rfl⟩
    exact (finished.visited (s := ⟨t,s.shelf⟩) io holds).holds

end

end BitProtector.StandbyAway
