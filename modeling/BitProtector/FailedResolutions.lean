import BitProtector.AtomicRestores
import BitProtector.Resolutions

/-! What a failed resolution has changed, when any system call may fail and the database
may refuse any statement. A copy is written before the rows are, and nothing is undone. -/
namespace BitProtector.FailedResolutions
open Effect Resolutions AtomicRestores

/-- The statements of a resolution. -/
inductive Statement
  | getSyncQueueItem
  | getTrackedFile
  | getDrivePair
  | updateRoleState
  | updateActiveRole
  | getUpdatedPair
  | markDrivePairUnmirrored
  | failPendingSyncQueue
  | getFailedOverPair
  | updateSyncQueueStatus
  | createSyncQueueItemDedup
  | updateTrackedFileMirrorStatus
  | getResolvedItem
  | deleteSyncQueueOfFile
  | removeTrackedFile
  deriving DecidableEq, Repr

/-- The statements that the database does not refuse. -/
abbrev Lets := Statement → Bool

def statement {α : Type} (lets : Lets) (which : Statement) (x : Act α) : Act α := do
  Act.ensure (lets which) "database error"
  x

/-- `maybe_emergency_failover`: a refusal to fail the open items is ignored. -/
def maybeEmergencyFailover [Naming] (lets : Lets) (pair : DrivePair) : Act DrivePair := do
  if !(← Act.look (fun disk => emergencyFailoverDue disk pair)) then pure pair
  else
    statement lets .updateRoleState (Act.execute (fun db => db.updateDrivePairRuntime pair.id none none
      (forRole pair.activeRole .primary .failed) (forRole pair.activeRole .secondary .failed) none))
    statement lets .updateActiveRole (Act.execute (fun db => db.updateDrivePairRuntime pair.id none none none none
      (some pair.standbyRole)))
    let _ ← statement lets .getUpdatedPair (Act.query (fun db => db.getDrivePair pair.id))
    statement lets .markDrivePairUnmirrored (Act.execute (fun db => db.markDrivePairUnmirrored pair.id))
    let _ ← attempt (statement lets .failPendingSyncQueue (Act.execute (fun db =>
      db.failPendingSyncQueueForDrivePair pair.id "drive failover required after fatal root error")))
    statement lets .getFailedOverPair (Act.query (fun db => db.getDrivePair pair.id))

def acceptCurrent [Naming] (lets : Lets) (io : Io) (item : SyncQueueItem) (file : TrackedFile) (pair : DrivePair) :
    Act SyncQueueItem := do
  match fileName file.relativePath with
  | none => Act.bail "Unable to determine filename for sidecar write"
  | some name =>
    let sidecar := acceptedSidecar pair file.relativePath name
    let shown := String.ofList name
    attemptCall (io.writeFile sidecar)
    Act.store (fun disk => disk.write sidecar (s!"{file.checksum}  {shown}\n".toUTF8.toList))
    statement lets .updateSyncQueueStatus (Act.execute (fun db => db.updateSyncQueueStatus item.id .completed none))
    let _ ← statement lets .createSyncQueueItemDedup
      (Act.insert (fun db => db.createSyncQueueItemDedup file.id .adoptMirror))
    statement lets .getResolvedItem (Act.query (fun db => db.getSyncQueueItem item.id))

def untrack (lets : Lets) (item : SyncQueueItem) (file : TrackedFile) : Act SyncQueueItem := do
  statement lets .updateSyncQueueStatus (Act.execute (fun db => db.updateSyncQueueStatus item.id .completed none))
  let resolved ← statement lets .getResolvedItem (Act.query (fun db => db.getSyncQueueItem item.id))
  statement lets .deleteSyncQueueOfFile (Act.execute (fun db => db.deleteSyncQueueOfFile file.id))
  statement lets .removeTrackedFile (Act.execute (fun db => db.removeTrackedFile file.id))
  pure resolved

/-- The last statements of a resolution that has copied. -/
def settle (lets : Lets) (item : SyncQueueItem) (file : TrackedFile) : Act SyncQueueItem := do
  statement lets .updateSyncQueueStatus (Act.execute (fun db => db.updateSyncQueueStatus item.id .completed none))
  statement lets .updateTrackedFileMirrorStatus (Act.execute (fun db => db.updateTrackedFileMirrorStatus file.id true))
  statement lets .getResolvedItem (Act.query (fun db => db.getSyncQueueItem item.id))

section
variable [Naming] [Blake3]

/-- From the `match` on the resolution on, after the checks of the reason. -/
def resolveLoaded (lets : Lets) (io : Io) (item : SyncQueueItem) (file : TrackedFile) (pair : DrivePair)
    (resolution : String) (newFilePath : Option Location) : Act SyncQueueItem := do
  let sidecarMismatch := item.reason == some b3SidecarMismatchReason
  Act.ensure (!(sidecarMismatch && !sidecarResolution resolution))
    s!"Reason '{b3SidecarMismatchReason}' requires 'accept_current' or 'untrack'"
  Act.ensure (!(!sidecarMismatch && sidecarResolution resolution))
    s!"Resolution '{resolution}' is only valid when reason is '{b3SidecarMismatchReason}'"
  if resolution = "accept_current" then acceptCurrent lets io item file pair
  else if resolution = "untrack" then untrack lets item file
  else
    resolutionCopy io file pair resolution newFilePath
    settle lets item file

def resolveQueueItem (lets : Lets) (io : Io) (itemId : Nat) (resolution : String) (newFilePath : Option Location) :
    Act SyncQueueItem := do
  let item ← statement lets .getSyncQueueItem (Act.query (fun db => db.getSyncQueueItem itemId))
  let action := item.action.asStr
  let status := item.status.asStr
  Act.ensure (item.action == .userActionRequired)
    s!"Queue item #{itemId} has action '{action}'; only 'user_action_required' items can be resolved"
  Act.ensure (item.status == .pending)
    s!"Queue item #{itemId} has status '{status}'; only 'pending' items can be resolved"
  let file ← statement lets .getTrackedFile (Act.query (fun db => db.getTrackedFile item.trackedFileId))
  let found ← statement lets .getDrivePair (Act.query (fun db => db.getDrivePair file.drivePairId))
  let pair ← maybeEmergencyFailover lets found
  resolveLoaded lets io item file pair resolution newFilePath

end

/-! Where no statement is refused, this is the resolution as the other modules have it. -/

theorem statement_let {lets : Lets} {which : Statement} (goes : lets which = true) {α : Type} (x : Act α) :
    statement lets which x = x := by
  unfold statement
  rw [goes]
  rfl

theorem statement_all (which : Statement) {α : Type} (x : Act α) : statement (fun _ => true) which x = x :=
  statement_let rfl x

theorem maybeEmergencyFailover_let (pair : DrivePair) :
    maybeEmergencyFailover (fun _ => true) pair = BitProtector.maybeEmergencyFailover pair := by
  unfold maybeEmergencyFailover BitProtector.maybeEmergencyFailover updateRuntime
  simp only [statement_all]
  funext w
  rw [bind_of_ok (Act.look_apply _ _),bind_of_ok (Act.look_apply _ _)]
  cases emergencyFailoverDue w.disk pair with
  | false => rfl
  | true =>
    simp only [Bool.not_true,Bool.false_eq_true,if_false,bind_apply,Act.execute_apply,Db.updateDrivePairRuntime_split,attempt]

theorem acceptCurrent_let (io : Io) (item : SyncQueueItem) (file : TrackedFile) (pair : DrivePair) :
    acceptCurrent (fun _ => true) io item file pair = BitProtector.acceptCurrent io item file pair := by
  unfold acceptCurrent
  simp only [statement_all]
  rfl

theorem untrack_let (item : SyncQueueItem) (file : TrackedFile) :
    untrack (fun _ => true) item file = BitProtector.untrack item file := by
  unfold untrack
  simp only [statement_all]
  rfl

theorem resolveLoaded_let [Blake3] (io : Io) (item : SyncQueueItem) (file : TrackedFile) (pair : DrivePair)
    (resolution : String) (newFilePath : Option Location) :
    resolveLoaded (fun _ => true) io item file pair resolution newFilePath =
      SymlinkSync.resolveLoaded io item file pair resolution newFilePath := by
  unfold resolveLoaded settle
  simp only [acceptCurrent_let,untrack_let,statement_all]
  rfl

theorem resolveQueueItem_let [Blake3] (io : Io) (itemId : Nat) (resolution : String) (newFilePath : Option Location) :
    resolveQueueItem (fun _ => true) io itemId resolution newFilePath =
      BitProtector.resolveQueueItem io itemId resolution newFilePath := by
  funext w
  unfold resolveQueueItem
  simp only [statement_all,maybeEmergencyFailover_let,resolveLoaded_let]
  cases read : Act.query (fun db => db.getSyncQueueItem itemId) w with
  | error message t => rw [bind_of_error read,BitProtector.resolveQueueItem,bind_of_error read]
  | ok item t =>
    have key : item.id = itemId := Table.find?_key (Db.getSyncQueueItem_ok.mp (Act.query_success read).1)
    subst key
    rw [bind_of_ok read,BitProtector.resolveQueueItem,bind_of_ok read]
    simp only [loadOperationalPair,bind_assoc]
    rfl

/-! What a failure has to leave. -/

def CopiesHeld [Naming] (pair : DrivePair) (relativePath : String) (before after : Disk) : Prop :=
  ∀ role, after.node (pair.copyOn role relativePath) = before.node (pair.copyOn role relativePath)

def RowsHeld (item : SyncQueueItem) (file : TrackedFile) (db : Db) : Prop :=
  db.syncQueue.find? item.id = some item ∧ db.trackedFiles.find? file.id = some file

/-- The queue row, the row of its file and both copies are as they were. -/
structure Unchanged [Naming] (itemId : Nat) (w t : World) : Prop where
  item : t.db.syncQueue.find? itemId = w.db.syncQueue.find? itemId
  file : ∀ item, w.db.syncQueue.find? itemId = some item →
    t.db.trackedFiles.find? item.trackedFileId = w.db.trackedFiles.find? item.trackedFileId
  copies : ∀ item file pair, w.db.syncQueue.find? itemId = some item →
    w.db.trackedFiles.find? item.trackedFileId = some file → w.db.drivePairs.find? file.drivePairId = some pair →
    CopiesHeld pair file.relativePath w.disk t.disk

/-- The same of an item whose rows are known. -/
def Spared [Naming] (item : SyncQueueItem) (file : TrackedFile) (pair : DrivePair) (before : Disk) (t : World) : Prop :=
  RowsHeld item file t.db ∧ CopiesHeld pair file.relativePath before t.disk

theorem unchanged_refl [Naming] (itemId : Nat) (w : World) : Unchanged itemId w w where
  item := rfl
  file _ _ := rfl
  copies _ _ _ _ _ _ _ := rfl

theorem unchanged_iff [Naming] {itemId : Nat} {item : SyncQueueItem} {file : TrackedFile} {pair : DrivePair} {w : World}
    (admitted : Admitted w.db itemId item file pair) (t : World) : Unchanged itemId w t ↔ Spared item file pair w.disk t := by
  have listed := admitted.listed
  have tracked := admitted.tracked
  obtain rfl := admitted.id
  rw [← admitted.fileId] at tracked
  constructor
  · intro unchanged
    refine ⟨⟨unchanged.item.trans listed,?_⟩,unchanged.copies item file pair listed admitted.tracked admitted.paired⟩
    rw [admitted.fileId,unchanged.file item listed,admitted.tracked]
  · rintro ⟨⟨row,owner⟩,copies⟩
    refine ⟨row.trans listed.symm,?_,?_⟩
    · intro other found
      cases listed.symm.trans found
      rw [← admitted.fileId,owner,tracked]
    · intro other theirs last found foundFile foundPair
      cases listed.symm.trans found
      cases admitted.tracked.symm.trans foundFile
      cases admitted.paired.symm.trans foundPair
      exact copies

theorem copiesHeld_refl [Naming] (pair : DrivePair) (relativePath : String) (disk : Disk) :
    CopiesHeld pair relativePath disk disk :=
  fun _ => rfl

theorem copiesHeld_iff [Naming] {pair : DrivePair} {relativePath : String} {before after : Disk} (target : DriveRole)
    (source : pair.copyOn target.opposite relativePath ≠ pair.copyOn target relativePath →
      after.node (pair.copyOn target.opposite relativePath) = before.node (pair.copyOn target.opposite relativePath)) :
    CopiesHeld pair relativePath before after ↔
      after.node (pair.copyOn target relativePath) = before.node (pair.copyOn target relativePath) := by
  constructor
  · intro held
    exact held target
  · intro same role
    by_cases other : role = target.opposite
    · rw [other]
      by_cases apart : pair.copyOn target.opposite relativePath = pair.copyOn target relativePath
      · rw [apart,same]
      · exact source apart
    · have own : role = target := by
        cases role <;> cases target <;> first | rfl | exact absurd rfl other
      rw [own,same]

/-! The statements. -/

section
variable {R : World → Prop} {lets : Lets} {which : Statement} {w : World}

theorem failsInto_statement_bind {α β : Type} (x : Act α) (f : α → Act β) :
    FailsInto R (statement lets which x >>= f) w ↔ if lets which = true then FailsInto R (x >>= f) w else R w := by
  unfold statement
  cases goes : lets which with
  | false =>
    rw [if_neg Bool.false_ne_true]
    exact failsInto_bind_error (bind_of_error (Act.ensure_false _ _) _) _
  | true =>
    rw [if_pos rfl,bind_assoc]
    exact failsInto_bind_ok (Act.ensure_true _ _) _

theorem failsInto_statement {α : Type} (x : Act α) :
    FailsInto R (statement lets which x) w ↔ if lets which then FailsInto R x w else R w := by
  have bound : FailsInto R (statement lets which x >>= pure) w ↔ _ := failsInto_statement_bind x pure
  simpa only [bind_pure] using bound

end

/-! When a failure leaves it. Where the rows are those from before exactly if `rows`, a branch
of the resolution that stops early leaves everything exactly if `rows`. -/

section
variable (lets : Lets) (io : Io) (item : SyncQueueItem) (file : TrackedFile) (pair : DrivePair) (disk : Disk) (rows : Prop)

/-- The file holds just the bytes that a copy puts there. -/
def Holds (path : Location) (bytes : List UInt8) : Prop := disk.node path = some ⟨bytes,none⟩

def sidecarBytes (name : List Char) : List UInt8 := s!"{file.checksum}  {String.ofList name}\n".toUTF8.toList

/-- The sidecar is no copy, or held what is written. Once the item is completed, the rest has to go through. -/
def AcceptSpares [Naming] : Prop :=
  match fileName file.relativePath with
  | none => rows
  | some name =>
    let sidecar := acceptedSidecar pair file.relativePath name
    if io.writeFile sidecar then
      if lets .updateSyncQueueStatus then (lets .createSyncQueueItemDedup && lets .getResolvedItem) = true
      else rows ∧ ∀ role, pair.copyOn role file.relativePath = sidecar → Holds disk sidecar (sidecarBytes file name)
    else rows

def UntrackSpares : Prop :=
  if lets .updateSyncQueueStatus then
    (lets .getResolvedItem && lets .deleteSyncQueueOfFile && lets .removeTrackedFile) = true
  else rows

/-- After a copy that changed nothing exactly if `copies`. -/
def SettleSpares (copies : Prop) : Prop :=
  if lets .updateSyncQueueStatus then (lets .updateTrackedFileMirrorStatus && lets .getResolvedItem) = true
  else rows ∧ copies

/-- What `fs::copy` leaves at its destination: it sets the permissions before it copies. -/
def got (src dst : Location) : List UInt8 := if io.copyPermissions dst then delivered io disk src dst else []

def fsCompletes (src dst : Location) : Bool := io.copyPermissions dst && arrives io disk src dst

section
variable [Naming] [Blake3]

def RestoreSpares (target : DriveRole) : Prop :=
  if restores io pair target file.relativePath file.checksum disk then
    SettleSpares lets rows (Holds disk (pair.copyOn target file.relativePath)
      (delivered io (ground io pair target file.relativePath disk) (pair.copyOn target.opposite file.relativePath)
        (pair.copyOn target file.relativePath)))
  else rows ∧ RestoreHarmless io pair target file.relativePath file.checksum disk

omit [Blake3] in
def ProvideSpares : Option Location → Prop
  | none => rows
  | some src =>
    let master := pair.copyOn .primary file.relativePath
    let mirror := pair.copyOn .secondary file.relativePath
    let ready := made io mirror.root (made io master.root disk)
    let first := ready.write master (got io ready src master)
    let both := (mirror = master ∨ Holds disk master (got io ready src master)) ∧ Holds disk mirror (got io first src mirror)
    if disk.exists? src && io.isFile src && io.createDirAll master && io.createDirAll mirror &&
        entersCopy io ready src master then
      if fsCompletes io ready src master && entersCopy io first src mirror then
        if fsCompletes io first src mirror then SettleSpares lets rows both else rows ∧ both
      else rows ∧ Holds disk master (got io ready src master)
    else rows

def CopySpares (resolution : String) (newFilePath : Option Location) : Prop :=
  match resolution with
  | "keep_master" => RestoreSpares lets io file pair disk rows .secondary
  | "keep_mirror" => RestoreSpares lets io file pair disk rows .primary
  | "provide_new" => ProvideSpares lets io file pair disk rows newFilePath
  | _ => rows

def LoadedSpares (resolution : String) (newFilePath : Option Location) : Prop :=
  if fits item resolution then
    if resolution = "accept_current" then AcceptSpares lets io file pair disk rows
    else if resolution = "untrack" then UntrackSpares lets rows
    else CopySpares lets io file pair disk rows resolution newFilePath
  else rows

/-- A failover that comes through takes the item, and the mirror flag of its file. -/
def Spares (resolution : String) (newFilePath : Option Location) : Prop :=
  if emergencyFailoverDue disk pair then
    if lets .updateRoleState && lets .updateActiveRole && lets .getUpdatedPair && lets .markDrivePairUnmirrored then
      let taken := file.isMirrored || lets .failPendingSyncQueue
      if lets .getFailedOverPair then
        LoadedSpares lets io item file pair.failedOver disk (taken = false) resolution newFilePath
      else taken = false
    else True
  else LoadedSpares lets io item file pair disk True resolution newFilePath

end

end

/-! The branches. -/

section
variable [Naming] {lets : Lets} {io : Io} {item : SyncQueueItem} {file : TrackedFile} {pair : DrivePair} {u : World} {rows : Prop}

/-- A world in which the pair of the item has been loaded. -/
structure Loaded (item : SyncQueueItem) (file : TrackedFile) (u : World) (rows : Prop) : Prop where
  pending : item.status = .pending
  fileId : item.trackedFileId = file.id
  listed : ∃ row, u.db.syncQueue.find? item.id = some row
  held : RowsHeld item file u.db ↔ rows

omit [Naming] in
theorem Loaded.stored (now : Loaded item file u rows) (disk : Disk) : Loaded item file { u with disk } rows :=
  ⟨now.pending,now.fileId,now.listed,now.held⟩

theorem Loaded.spared (now : Loaded item file u rows) {before : Disk} {copies : Prop}
    (held : CopiesHeld pair file.relativePath before u.disk ↔ copies) :
    Spared item file pair before u ↔ rows ∧ copies := and_congr now.held held

/-- The row of the item is the completed one. -/
def Completed (item : SyncQueueItem) (db : Db) : Prop :=
  ∃ row, db.syncQueue.find? item.id = some row ∧ row.status = .completed

omit [Naming] in
theorem Loaded.completed (now : Loaded item file u rows) :
    Completed item (u.db.updateSyncQueueStatus item.id .completed none) := by
  obtain ⟨row,found⟩ := now.listed
  refine ⟨_,(Db.find?_updateSyncQueueStatus _ _ _ _ _).trans (by rw [found,Option.map_some]),?_⟩
  rw [if_pos rfl]

theorem not_spared_of_completed (pending : item.status = .pending) {before : Disk} {t : World}
    (completed : Completed item t.db) : ¬Spared item file pair before t := by
  rintro ⟨⟨row,_⟩,_⟩
  obtain ⟨other,found,status⟩ := completed
  cases row.symm.trans found
  exact absurd (pending.symm.trans status) (by decide)

omit [Naming] in
theorem query_completed {w : World} (completed : Completed item w.db) :
    ∃ row, Act.query (fun db => db.getSyncQueueItem item.id) w = .ok row w := by
  obtain ⟨row,found,_⟩ := completed
  exact ⟨row,by simp only [Act.query,Db.getSyncQueueItem_ok.mpr found]⟩

theorem readBack_failsInto (pending : item.status = .pending) {before : Disk} {w : World}
    (completed : Completed item w.db) :
    FailsInto (Spared item file pair before)
      (statement lets .getResolvedItem (Act.query (fun db => db.getSyncQueueItem item.id))) w ↔
      lets .getResolvedItem = true := by
  obtain ⟨row,ran⟩ := query_completed completed
  rw [failsInto_statement]
  cases lets .getResolvedItem with
  | false => exact iff_of_false (not_spared_of_completed pending completed) Bool.false_ne_true
  | true => exact iff_of_true (failsInto_of_ok ran) rfl

theorem settle_failsInto (now : Loaded item file u rows) {before : Disk} {copies : Prop}
    (held : CopiesHeld pair file.relativePath before u.disk ↔ copies) :
    FailsInto (Spared item file pair before) (settle lets item file) u ↔ SettleSpares lets rows copies := by
  unfold settle SettleSpares
  rw [failsInto_statement_bind]
  cases lets .updateSyncQueueStatus with
  | false => exact now.spared held
  | true =>
    rw [if_pos rfl,if_pos rfl,failsInto_bind_ok (Act.execute_apply _ _),failsInto_statement_bind]
    cases lets .updateTrackedFileMirrorStatus with
    | false => exact iff_of_false (not_spared_of_completed now.pending now.completed) Bool.false_ne_true
    | true =>
      rw [if_pos rfl,failsInto_bind_ok (Act.execute_apply _ _),Bool.true_and]
      exact readBack_failsInto now.pending now.completed

theorem untrack_failsInto (now : Loaded item file u rows) :
    FailsInto (Spared item file pair u.disk) (untrack lets item file) u ↔ UntrackSpares lets rows := by
  unfold untrack UntrackSpares
  rw [failsInto_statement_bind]
  cases lets .updateSyncQueueStatus with
  | false => simpa using now.spared (iff_true_intro (copiesHeld_refl pair file.relativePath u.disk))
  | true =>
    rw [if_pos rfl,if_pos rfl,failsInto_bind_ok (Act.execute_apply _ _),failsInto_statement_bind]
    have completed := now.completed
    cases lets .getResolvedItem with
    | false => exact iff_of_false (not_spared_of_completed now.pending completed) Bool.false_ne_true
    | true =>
      obtain ⟨row,ran⟩ := query_completed (w := { u with db := u.db.updateSyncQueueStatus item.id .completed none }) completed
      rw [if_pos rfl,Bool.true_and,failsInto_bind_ok ran,failsInto_statement_bind]
      cases lets .deleteSyncQueueOfFile with
      | false => exact iff_of_false (not_spared_of_completed now.pending completed) Bool.false_ne_true
      | true =>
        rw [if_pos rfl,Bool.true_and,failsInto_bind_ok (Act.execute_apply _ _),failsInto_statement_bind]
        cases lets .removeTrackedFile with
        | false =>
          refine iff_of_false ?_ Bool.false_ne_true
          -- The row of the item went with those of its file.
          rintro ⟨⟨found,_⟩,_⟩
          rw [Db.deleteSyncQueueOfFile,Table.find?_deleteWhere,Option.filter_eq_some_iff] at found
          exact absurd now.fileId (by simpa using found.2)
        | true => exact iff_of_true (failsInto_of_ok rfl) rfl

omit [Naming] in
theorem write_kept_iff (disk : Disk) (path other : Location) (bytes : List UInt8) :
    (disk.write path bytes).node other = disk.node other ↔ (other = path → Holds disk path bytes) := by
  by_cases same : other = path
  · rw [same,Disk.write_same,imp_iff_right rfl,Holds,eq_comm]
  · exact iff_of_true (Disk.write_other _ _ same) fun equal => absurd equal same

omit [Naming] in
theorem completed_dedup {db : Db} (completed : Completed item db) (fileId : Nat) (action : SyncAction) :
    Completed item (db.createSyncQueueItemDedup fileId action).2 := by
  obtain ⟨row,found,status⟩ := completed
  unfold Db.createSyncQueueItemDedup Db.createSyncQueueItemDedupWithCreated
  cases db.openSyncQueueItem fileId action none with
  | some old => exact ⟨row,found,status⟩
  | none =>
    refine ⟨row,?_,status⟩
    dsimp only [Db.createSyncQueueItem]
    rw [Table.find?_insert,if_neg,found]
    intro next
    rw [next,Table.find?_next] at found
    cases found

theorem acceptCurrent_failsInto (now : Loaded item file u rows) :
    FailsInto (Spared item file pair u.disk) (acceptCurrent lets io item file pair) u ↔
      AcceptSpares lets io file pair u.disk rows := by
  have early : Spared item file pair u.disk u ↔ rows := by
    simpa using now.spared (iff_true_intro (copiesHeld_refl pair file.relativePath u.disk))
  unfold acceptCurrent AcceptSpares
  cases named : fileName file.relativePath with
  | none => exact (failsInto_error rfl).trans early
  | some name =>
    dsimp only
    let sidecar := acceptedSidecar pair file.relativePath name
    change FailsInto _ (attemptCall (io.writeFile sidecar) >>= _) u ↔ if io.writeFile sidecar then _ else _
    cases io.writeFile sidecar with
    | false => exact (failsInto_bind_error rfl _).trans early
    | true =>
      rw [if_pos rfl,failsInto_bind_ok (show attemptCall true u = .ok () u from rfl),
        failsInto_bind_ok (Act.store_apply _ _),failsInto_statement_bind]
      have held : CopiesHeld pair file.relativePath u.disk (u.disk.write sidecar (sidecarBytes file name)) ↔
          ∀ role, pair.copyOn role file.relativePath = sidecar → Holds u.disk sidecar (sidecarBytes file name) :=
        forall_congr' fun role => write_kept_iff _ _ _ _
      cases lets .updateSyncQueueStatus with
      | false =>
        rw [if_neg Bool.false_ne_true,if_neg Bool.false_ne_true]
        exact and_congr now.held held
      | true =>
        rw [if_pos rfl,if_pos rfl,failsInto_bind_ok (Act.execute_apply _ _),failsInto_statement_bind]
        cases lets .createSyncQueueItemDedup with
        | false => exact iff_of_false (not_spared_of_completed now.pending now.completed) Bool.false_ne_true
        | true =>
          rw [if_pos rfl,failsInto_bind_ok (Act.insert_apply _ _),Bool.true_and]
          exact readBack_failsInto now.pending (completed_dedup now.completed _ _)

/-! The copies. -/

omit [Naming] in
theorem fsCopy_run (io : Io) (src dst : Location) (w : World) :
    if entersCopy io w.disk src dst then
      if fsCompletes io w.disk src dst then
        fsCopy io src dst w = .ok () { w with disk := w.disk.write dst (got io w.disk src dst) }
      else ∃ message, fsCopy io src dst w = .error message { w with disk := w.disk.write dst (got io w.disk src dst) }
    else ∃ message, fsCopy io src dst w = .error message w := by
  cases enters : entersCopy io w.disk src dst with
  | false => exact ⟨_,not_enters_error enters _⟩
  | true =>
    obtain ⟨opened,created,present⟩ := openFile_create_of_enters enters
    have copied := @copyLoop_created io src dst w present
    unfold fsCopy fsCompletes got
    rw [if_pos rfl,bind_of_ok opened,bind_of_ok created]
    cases io.copyPermissions dst with
    | false => exact ⟨_,rfl⟩
    | true =>
      rw [Bool.true_and,if_pos rfl,bind_of_ok (show attemptCall true _ = .ok () _ from rfl),bind_of_ok (Act.look_apply _ _)]
      cases arrived : arrives io w.disk src dst with
      | false =>
        rw [arrived,if_neg Bool.false_ne_true] at copied
        exact ⟨_,bind_of_error copied _⟩
      | true =>
        rw [arrived,if_pos rfl] at copied
        exact bind_of_ok copied _

section
variable [Blake3]

theorem restore_failsInto (now : Loaded item file u rows) (target : DriveRole) :
    FailsInto (Spared item file pair u.disk) (do
      restoreSide io pair target file.relativePath file.checksum
      settle lets item file) u ↔ RestoreSpares lets io file pair u.disk rows target := by
  have run := restoreSide_run io pair target file.relativePath file.checksum u
  have left := restoreSide_left io pair target file.relativePath file.checksum u
  unfold RestoreSpares
  cases succeeds : restores io pair target file.relativePath file.checksum u.disk with
  | true =>
    rw [succeeds,if_pos rfl] at run
    have present : (ground io pair target file.relativePath u.disk).node
        (pair.copyOn target.opposite file.relativePath) = _ := marked_kept io _ _ (admits_source (restores_admits succeeds))
    rw [if_pos rfl,failsInto_bind_ok run]
    refine settle_failsInto (now.stored _) ((copiesHeld_iff target fun apart => ?_).trans ?_)
    · exact (Disk.write_other _ _ apart).trans present
    · rw [Holds,eq_comm]
      exact Eq.congr_right (Disk.write_same _ _ _)
  | false =>
    rw [succeeds,if_neg Bool.false_ne_true] at run
    obtain ⟨message,t,failed,db,source⟩ := run
    rw [if_neg Bool.false_ne_true,failsInto_bind_error failed,← left]
    refine and_congr (by rw [db]; exact now.held) ((copiesHeld_iff target source).trans ?_)
    exact (failsInto_error (R := fun t => t.disk.node (pair.copyOn target file.relativePath) = _) failed).symm

omit [Naming] [Blake3] in
theorem holds_iff {disk : Disk} {path : Location} {bytes : List UInt8} :
    some ⟨bytes,none⟩ = disk.node path ↔ Holds disk path bytes :=
  eq_comm

omit [Blake3] in
theorem copiesHeld_write {before ready : Disk} (same : ready.node = before.node) (target : DriveRole) (bytes : List UInt8) :
    CopiesHeld pair file.relativePath before (ready.write (pair.copyOn target file.relativePath) bytes) ↔
      Holds before (pair.copyOn target file.relativePath) bytes := by
  rw [copiesHeld_iff target,Disk.write_same,holds_iff]
  intro apart
  rw [Disk.write_other _ _ apart,same]

omit [Blake3] in
theorem copiesHeld_both {before ready : Disk} (same : ready.node = before.node) (first second : List UInt8) :
    CopiesHeld pair file.relativePath before ((ready.write (pair.copyOn .primary file.relativePath) first).write
      (pair.copyOn .secondary file.relativePath) second) ↔
      (pair.copyOn .secondary file.relativePath = pair.copyOn .primary file.relativePath ∨
        Holds before (pair.copyOn .primary file.relativePath) first) ∧
      Holds before (pair.copyOn .secondary file.relativePath) second := by
  by_cases one : pair.copyOn .secondary file.relativePath = pair.copyOn .primary file.relativePath
  · rw [← one,Disk.write_write,copiesHeld_write same .secondary second,or_iff_left_of_imp fun _ => rfl,iff_true_intro rfl,
      true_and]
  · rw [or_iff_right one,← holds_iff,← holds_iff]
    constructor
    · intro held
      have master := held .primary
      have mirror := held .secondary
      rw [Disk.write_other _ _ (Ne.symm one),Disk.write_same] at master
      rw [Disk.write_same] at mirror
      exact ⟨master,mirror⟩
    · rintro ⟨master,mirror⟩ role
      cases role with
      | primary => rw [Disk.write_other _ _ (Ne.symm one),Disk.write_same,master]
      | secondary => rw [Disk.write_same,mirror]

omit [Blake3] in
theorem copies_failsInto (now : Loaded item file u rows) {ready : Disk} (same : ready.node = u.disk.node) (src : Location) :
    let master := pair.copyOn .primary file.relativePath
    let mirror := pair.copyOn .secondary file.relativePath
    let first := ready.write master (got io ready src master)
    let both := (mirror = master ∨ Holds u.disk master (got io ready src master)) ∧
      Holds u.disk mirror (got io first src mirror)
    FailsInto (Spared item file pair u.disk) (do
      fsCopy io src master
      fsCopy io src mirror
      settle lets item file) { u with disk := ready } ↔
        if entersCopy io ready src master then
          if fsCompletes io ready src master && entersCopy io first src mirror then
            if fsCompletes io first src mirror then SettleSpares lets rows both else rows ∧ both
          else rows ∧ Holds u.disk master (got io ready src master)
        else rows := by
  intro master mirror first both
  have stopped : Spared item file pair u.disk { u with disk := first } ↔
      rows ∧ Holds u.disk master (got io ready src master) := and_congr now.held (copiesHeld_write same .primary _)
  have copied : CopiesHeld pair file.relativePath u.disk (first.write mirror (got io first src mirror)) ↔ both :=
    copiesHeld_both same _ _
  have head := fsCopy_run io src master { u with disk := ready }
  dsimp only at head
  split at head
  · rename_i enters
    rw [if_pos enters]
    cases completes : fsCompletes io ready src master with
    | false =>
      rw [completes,if_neg Bool.false_ne_true] at head
      obtain ⟨message,failed⟩ := head
      rw [Bool.false_and,if_neg Bool.false_ne_true,failsInto_bind_error failed]
      exact stopped
    | true =>
      rw [completes,if_pos rfl] at head
      rw [failsInto_bind_ok head,Bool.true_and]
      have tail := fsCopy_run io src mirror { u with disk := first }
      dsimp only at tail
      split at tail
      · rename_i again
        rw [if_pos again]
        split at tail
        · rename_i done
          rw [if_pos done,failsInto_bind_ok tail]
          exact settle_failsInto (now.stored _) copied
        · rename_i short
          obtain ⟨message,failed⟩ := tail
          rw [if_neg short,failsInto_bind_error failed]
          exact and_congr now.held copied
      · rename_i refused
        obtain ⟨message,failed⟩ := tail
        rw [if_neg refused,failsInto_bind_error failed]
        exact stopped
  · rename_i refused
    obtain ⟨message,failed⟩ := head
    rw [if_neg refused,failsInto_bind_error failed]
    refine (and_congr now.held (iff_true_intro fun role => ?_)).trans (Iff.of_eq (and_true rows))
    exact congrFun same _

omit [Blake3] in
theorem provide_failsInto (now : Loaded item file u rows) (newFilePath : Option Location) :
    FailsInto (Spared item file pair u.disk) (do
      provideNew io file pair newFilePath
      settle lets item file) u ↔ ProvideSpares lets io file pair u.disk rows newFilePath := by
  have early (disk : Disk) (same : disk.node = u.disk.node) : Spared item file pair u.disk { u with disk } ↔ rows := by
    refine (and_congr now.held (iff_true_intro fun role => ?_)).trans (Iff.of_eq (and_true rows))
    exact congrFun same _
  cases newFilePath with
  | none => exact (failsInto_bind_error rfl _).trans (early _ rfl)
  | some src =>
    unfold provideNew ProvideSpares
    dsimp only
    simp only [bind_assoc]
    rw [failsInto_bind_ok (Act.look_apply _ _)]
    cases u.disk.exists? src with
    | false => exact (failsInto_bind_error (Act.ensure_false _ _) _).trans (early _ rfl)
    | true =>
      rw [failsInto_bind_ok (Act.ensure_true _ _),Bool.true_and]
      cases io.isFile src with
      | false => exact (failsInto_bind_error (Act.ensure_false _ _) _).trans (early _ rfl)
      | true =>
        rw [failsInto_bind_ok (Act.ensure_true _ _),Bool.true_and]
        cases first : io.createDirAll (pair.copyOn .primary file.relativePath) with
        | false =>
          have refused : createParentDirs io (pair.copyOn .primary file.relativePath) u = .error osError u := by
            rw [createParentDirs,first]
            rfl
          exact (failsInto_bind_error refused _).trans (early _ rfl)
        | true =>
          rw [failsInto_bind_ok (createParentDirs_run first u),Bool.true_and]
          cases second : io.createDirAll (pair.copyOn .secondary file.relativePath) with
          | false =>
            have refused (w : World) : createParentDirs io (pair.copyOn .secondary file.relativePath) w = .error osError w := by
              rw [createParentDirs,second]
              rfl
            exact (failsInto_bind_error (refused _) _).trans (early _ (made_node _ _ _))
          | true =>
            rw [failsInto_bind_ok (createParentDirs_run second _),Bool.true_and]
            exact copies_failsInto now ((made_node _ _ _).trans (made_node _ _ _)) src

theorem copy_failsInto (now : Loaded item file u rows) (resolution : String) (newFilePath : Option Location) :
    FailsInto (Spared item file pair u.disk) (do
      resolutionCopy io file pair resolution newFilePath
      settle lets item file) u ↔ CopySpares lets io file pair u.disk rows resolution newFilePath := by
  unfold resolutionCopy CopySpares
  split
  · exact restore_failsInto now .secondary
  · exact restore_failsInto now .primary
  · exact provide_failsInto now newFilePath
  · refine (failsInto_bind_error rfl _).trans ?_
    simpa using now.spared (iff_true_intro (copiesHeld_refl pair file.relativePath u.disk))

theorem resolveLoaded_failsInto (now : Loaded item file u rows) (resolution : String) (newFilePath : Option Location) :
    FailsInto (Spared item file pair u.disk) (resolveLoaded lets io item file pair resolution newFilePath) u ↔
      LoadedSpares lets io item file pair u.disk rows resolution newFilePath := by
  have early : Spared item file pair u.disk u ↔ rows := by
    simpa using now.spared (iff_true_intro (copiesHeld_refl pair file.relativePath u.disk))
  unfold resolveLoaded LoadedSpares fits
  cases item.reason == some b3SidecarMismatchReason <;> cases sidecarResolution resolution
  case true.false => exact (failsInto_bind_error (Act.ensure_false _ _) _).trans early
  all_goals refine (failsInto_bind_ok (Act.ensure_true _ _) _).trans ?_
  case false.true => exact (failsInto_bind_error (Act.ensure_false _ _) _).trans early
  all_goals
    refine (failsInto_bind_ok (Act.ensure_true _ _) _).trans ?_
    rw [beq_self_eq_true,if_pos (rfl : true = true)]
    split
    · exact acceptCurrent_failsInto now
    · split
      · exact untrack_failsInto now
      · exact copy_failsInto now resolution newFilePath

end

/-! The loading of the pair. -/

/-- The tables after the statements of a failover that come through. -/
def failoverDb (lets : Lets) (db : Db) (pair : DrivePair) : Db :=
  let marked := (db.updateDrivePairRuntime pair.id none none (forRole pair.activeRole .primary .failed)
    (forRole pair.activeRole .secondary .failed) (some pair.standbyRole)).markDrivePairUnmirrored pair.id
  if lets .failPendingSyncQueue then
    marked.failPendingSyncQueueForDrivePair pair.id "drive failover required after fatal root error"
  else marked

omit [Naming] in
theorem failoverDb_drivePairs (lets : Lets) (db : Db) (pair : DrivePair) :
    (failoverDb lets db pair).drivePairs = (db.updateDrivePairRuntime pair.id none none
      (forRole pair.activeRole .primary .failed) (forRole pair.activeRole .secondary .failed)
      (some pair.standbyRole)).drivePairs := by
  unfold failoverDb
  split <;> rfl

omit [Naming] in
/-- A statement whose refusal is ignored. -/
theorem attempt_statement (lets : Lets) (which : Statement) (update : Db → Db) (w : World) :
    ∃ result, attempt (statement lets which (Act.execute update)) w =
      .ok result { w with db := if lets which then update w.db else w.db } := by
  unfold attempt statement
  cases lets which with
  | false => exact ⟨_,rfl⟩
  | true => exact ⟨_,rfl⟩

omit [Naming] in
theorem query_pair {w : World} {id : Nat} {now : DrivePair} (row : w.db.drivePairs.find? id = some now) :
    Act.query (fun db => db.getDrivePair id) w = .ok now w := by
  simp only [Act.query,Db.getDrivePair_ok.mpr row]

theorem failover_failsInto {R : World → Prop} {β : Type} (row : u.db.drivePairs.find? pair.id = some pair)
    (f : DrivePair → Act β) (due : emergencyFailoverDue u.disk pair = true)
    (still : ∀ db, db.syncQueue = u.db.syncQueue → db.trackedFiles = u.db.trackedFiles → R { u with db }) :
    FailsInto R (maybeEmergencyFailover lets pair >>= f) u ↔
      if lets .updateRoleState && lets .updateActiveRole && lets .getUpdatedPair && lets .markDrivePairUnmirrored then
        if lets .getFailedOverPair then FailsInto R (f pair.failedOver) { u with db := failoverDb lets u.db pair }
        else R { u with db := failoverDb lets u.db pair }
      else True := by
  have after := find?_updateDrivePairRuntime row none none (forRole pair.activeRole .primary .failed)
    (forRole pair.activeRole .secondary .failed) (some pair.standbyRole)
  unfold maybeEmergencyFailover
  rw [bind_assoc,failsInto_bind_ok (Act.look_apply _ _),due]
  simp only [Bool.not_true,Bool.false_eq_true,if_false,bind_assoc]
  rw [failsInto_statement_bind]
  cases lets .updateRoleState with
  | false => exact iff_true_intro (still _ rfl rfl)
  | true =>
    rw [if_pos rfl,failsInto_bind_ok (Act.execute_apply _ _),failsInto_statement_bind]
    cases lets .updateActiveRole with
    | false => exact iff_true_intro (still _ rfl rfl)
    | true =>
      rw [if_pos rfl,failsInto_bind_ok (Act.execute_apply _ _),failsInto_statement_bind]
      dsimp only
      rw [Db.updateDrivePairRuntime_split]
      cases lets .getUpdatedPair with
      | false => exact iff_true_intro (still _ rfl rfl)
      | true =>
        rw [if_pos rfl,failsInto_bind_ok (query_pair after),failsInto_statement_bind]
        cases lets .markDrivePairUnmirrored with
        | false => exact iff_true_intro (still _ rfl rfl)
        | true =>
          obtain ⟨result,attempted⟩ := attempt_statement lets .failPendingSyncQueue (fun db =>
            db.failPendingSyncQueueForDrivePair pair.id "drive failover required after fatal root error")
            ⟨(u.db.updateDrivePairRuntime pair.id none none (forRole pair.activeRole .primary .failed)
              (forRole pair.activeRole .secondary .failed) (some pair.standbyRole)).markDrivePairUnmirrored pair.id,u.disk⟩
          have again : (failoverDb lets u.db pair).drivePairs.find? pair.id = some pair.failedOver := by
            rw [failoverDb_drivePairs]
            exact after
          rw [if_pos rfl,failsInto_bind_ok (Act.execute_apply _ _),failsInto_bind_ok attempted,failsInto_statement_bind]
          simp only [Bool.and_true,if_true]
          change (if lets .getFailedOverPair then FailsInto R (Act.query (fun db => db.getDrivePair pair.id) >>= f)
            { u with db := failoverDb lets u.db pair } else R { u with db := failoverDb lets u.db pair }) ↔ _
          rw [failsInto_bind_ok (query_pair again)]

omit [Naming] in
theorem loaded_still {itemId : Nat} (admitted : Admitted u.db itemId item file pair) : Loaded item file u True := by
  have listed := admitted.listed
  have tracked := admitted.tracked
  rw [← admitted.id] at listed
  rw [← admitted.fileId] at tracked
  exact ⟨admitted.pending,admitted.fileId.symm,⟨item,listed⟩,iff_true_intro ⟨listed,tracked⟩⟩

omit [Naming] in
theorem loaded_failover (lets : Lets) {itemId : Nat} (admitted : Admitted u.db itemId item file pair) :
    Loaded item file { u with db := failoverDb lets u.db pair } ((file.isMirrored || lets .failPendingSyncQueue) = false) := by
  obtain ⟨pending,fileId,⟨_,listed⟩,held⟩ := loaded_still admitted
  obtain ⟨row,tracked⟩ := held.mpr trivial
  cases row.symm.trans listed
  have owner : pair.id = file.drivePairId := Table.find?_key admitted.paired
  let marked := (u.db.updateDrivePairRuntime pair.id none none (forRole pair.activeRole .primary .failed)
    (forRole pair.activeRole .secondary .failed) (some pair.standbyRole)).markDrivePairUnmirrored pair.id
  have unmirrored : marked.trackedFiles.find? file.id = some { file with isMirrored := false } := by
    refine (Db.find?_markDrivePairUnmirrored _ _ _).trans ?_
    rw [Db.updateDrivePairRuntime_trackedFiles,tracked,Option.map_some,if_pos owner.symm]
  have mine : marked.ofDrivePair pair.id item.trackedFileId = true :=
    Db.ofDrivePair_iff.mpr ⟨{ file with isMirrored := false },fileId ▸ unmirrored,owner.symm⟩
  cases fails : lets .failPendingSyncQueue with
  | false =>
    have same : failoverDb lets u.db pair = marked := by
      rw [failoverDb,fails,if_neg Bool.false_ne_true]
    rw [Bool.or_false,same]
    refine ⟨pending,fileId,⟨item,row⟩,?_⟩
    rw [RowsHeld,unmirrored,and_iff_right (show marked.syncQueue.find? item.id = some item from row),Option.some.injEq]
    constructor
    · intro kept
      exact (congrArg TrackedFile.isMirrored kept).symm
    · intro flag
      rw [← flag]
  | true =>
    have same : failoverDb lets u.db pair = marked.failPendingSyncQueueForDrivePair pair.id
        "drive failover required after fatal root error" := by
      rw [failoverDb,fails,if_pos rfl]
    have taken := Db.find?_updateQueueWhere marked
      (fun other => other.status.isOpen && marked.ofDrivePair pair.id other.trackedFileId) .failed
      (some "drive failover required after fatal root error") item.id
    rw [show marked.syncQueue.find? item.id = some item from row,Option.map_some,pending,mine,
      if_pos (show (SyncStatus.pending.isOpen && true) = true from rfl)] at taken
    rw [Bool.or_true,same]
    refine ⟨pending,fileId,⟨_,taken⟩,iff_of_false ?_ Bool.noConfusion⟩
    rintro ⟨kept,_⟩
    have status := congrArg SyncQueueItem.status (Option.some.inj (taken.symm.trans kept))
    exact absurd (status.trans pending) SyncStatus.noConfusion

end

theorem spared_failedOver [Naming] (item : SyncQueueItem) (file : TrackedFile) (pair : DrivePair) (before : Disk) :
    Spared item file pair.failedOver before = Spared item file pair before := by
  funext t
  simp only [Spared,CopiesHeld,DrivePair.failedOver,DrivePair.copyOn_withRuntime]

/-- The reads let through. -/
def Reads (lets : Lets) : Prop :=
  lets .getSyncQueueItem = true ∧ lets .getTrackedFile = true ∧ lets .getDrivePair = true

theorem statement_query (lets : Lets) (which : Statement) {α β : Type} (read : Db → Except String α) (f : α → Act β)
    (w : World) :
    ((lets which = true → ∀ a, read w.db ≠ .ok a) ∧
      ∃ message, (statement lets which (Act.query read) >>= f) w = .error message w) ∨
    ∃ a, lets which = true ∧ read w.db = .ok a ∧ (statement lets which (Act.query read) >>= f) w = f a w := by
  cases goes : lets which with
  | false =>
    have refused : statement lets which (Act.query read) w = .error "database error" w := by
      unfold statement
      rw [goes]
      rfl
    refine .inl ⟨fun impossible => ?_,_,bind_of_error refused f⟩
    cases impossible
  | true =>
    rw [statement_let goes]
    cases value : read w.db with
    | error message =>
      have failed : Act.query read w = .error message w := by simp only [Act.query,value]
      refine .inl ⟨fun _ a found => ?_,message,bind_of_error failed f⟩
      cases found
    | ok a =>
      have ran : Act.query read w = .ok a w := by simp only [Act.query,value]
      exact .inr ⟨a,rfl,rfl,bind_of_ok ran f⟩

theorem resolveQueueItem_begins [Naming] [Blake3] (lets : Lets) (io : Io) (itemId : Nat) (resolution : String)
    (newFilePath : Option Location) (w : World) :
    ((∀ item file pair, Admitted w.db itemId item file pair → ¬Reads lets) ∧
      ∃ message, resolveQueueItem lets io itemId resolution newFilePath w = .error message w) ∨
    ∃ item file pair, Admitted w.db itemId item file pair ∧ Reads lets ∧
      resolveQueueItem lets io itemId resolution newFilePath w = (do
        let now ← maybeEmergencyFailover lets pair
        resolveLoaded lets io item file now resolution newFilePath) w := by
  unfold resolveQueueItem
  rcases statement_query lets .getSyncQueueItem (fun db => db.getSyncQueueItem itemId) _ w with
    ⟨none,message,failed⟩ | ⟨item,first,readItem,begins⟩
  · refine .inl ⟨fun item _ _ admitted reads => ?_,message,failed⟩
    exact none reads.1 item (Db.getSyncQueueItem_ok.mpr admitted.listed)
  have listed := Db.getSyncQueueItem_ok.mp readItem
  have own {other : SyncQueueItem} (found : w.db.syncQueue.find? itemId = some other) : other = item :=
    Option.some.inj (found.symm.trans listed)
  rw [begins]
  cases waits : item.action == .userActionRequired with
  | false =>
    refine .inl ⟨fun other _ _ admitted _ => ?_,_,bind_of_error (Act.ensure_false _ _) _⟩
    rw [← own admitted.listed,admitted.waits] at waits
    cases waits
  | true =>
    rw [bind_of_ok (Act.ensure_true _ _)]
    cases pending : item.status == .pending with
    | false =>
      refine .inl ⟨fun other _ _ admitted _ => ?_,_,bind_of_error (Act.ensure_false _ _) _⟩
      rw [← own admitted.listed,admitted.pending] at pending
      cases pending
    | true =>
      rw [bind_of_ok (Act.ensure_true _ _)]
      rcases statement_query lets .getTrackedFile (fun db => db.getTrackedFile item.trackedFileId) _ w with
        ⟨none,message,failed⟩ | ⟨file,second,readFile,goesOn⟩
      · refine .inl ⟨fun other file _ admitted reads => none reads.2.1 file ?_,message,failed⟩
        rw [← own admitted.listed]
        exact Db.getTrackedFile_ok.mpr admitted.tracked
      have tracked := Db.getTrackedFile_ok.mp readFile
      rw [goesOn]
      rcases statement_query lets .getDrivePair (fun db => db.getDrivePair file.drivePairId) _ w with
        ⟨none,message,failed⟩ | ⟨pair,third,readPair,ends⟩
      · refine .inl ⟨fun other theirs pair admitted reads => none reads.2.2 pair ?_,message,failed⟩
        have found := admitted.tracked
        rw [own admitted.listed,tracked] at found
        cases found
        exact Db.getDrivePair_ok.mpr admitted.paired
      rw [ends]
      exact .inr ⟨item,file,pair,⟨listed,eq_of_beq waits,eq_of_beq pending,tracked,Db.getDrivePair_ok.mp readPair⟩,
        ⟨first,second,third⟩,rfl⟩

/-- A resolution that fails leaves the queue row, the row of the file and both copies as they were, exactly where its
branch spares them. -/
theorem failed_resolutions_spare_iff [Naming] [Blake3] (lets : Lets) (io : Io) (itemId : Nat) (resolution : String)
    (newFilePath : Option Location) (w : World) :
    (∀ message t, resolveQueueItem lets io itemId resolution newFilePath w = .error message t → Unchanged itemId w t) ↔
      ∀ item file pair, Admitted w.db itemId item file pair →
        Reads lets → Spares lets io item file pair w.disk resolution newFilePath := by
  change FailsInto (Unchanged itemId w) _ w ↔ _
  rcases resolveQueueItem_begins lets io itemId resolution newFilePath w with
    ⟨none,message,failed⟩ | ⟨item,file,pair,admitted,reads,begins⟩
  · refine iff_of_true ((failsInto_error failed).mpr (unchanged_refl itemId w)) ?_
    intro item file pair admitted reads
    exact absurd reads (none item file pair admitted)
  have one : (∀ item file pair, Admitted w.db itemId item file pair → Reads lets →
      Spares lets io item file pair w.disk resolution newFilePath) ↔
      Spares lets io item file pair w.disk resolution newFilePath := by
    constructor
    · intro all
      exact all item file pair admitted reads
    · intro spares other theirs last known _
      cases known.listed.symm.trans admitted.listed
      cases known.tracked.symm.trans admitted.tracked
      cases known.paired.symm.trans admitted.paired
      exact spares
  have same : FailsInto (Unchanged itemId w) (resolveQueueItem lets io itemId resolution newFilePath) w ↔
      FailsInto (Spared item file pair w.disk) (do
        let now ← maybeEmergencyFailover lets pair
        resolveLoaded lets io item file now resolution newFilePath) w := by
    unfold FailsInto
    simp only [begins,unchanged_iff admitted]
  have row : w.db.drivePairs.find? pair.id = some pair := by
    have key : pair.id = file.drivePairId := Table.find?_key admitted.paired
    rw [key]
    exact admitted.paired
  rw [one,same,Spares]
  cases due : emergencyFailoverDue w.disk pair with
  | false =>
    have idle : maybeEmergencyFailover lets pair w = .ok pair w := by
      rw [maybeEmergencyFailover,bind_of_ok (Act.look_apply _ _),due]
      rfl
    rw [failsInto_bind_ok idle]
    exact resolveLoaded_failsInto (loaded_still admitted) resolution newFilePath
  | true =>
    have taken := loaded_failover lets admitted
    refine (failover_failsInto row _ due ?_).trans ?_
    · intro db queue files
      obtain ⟨listed,tracked⟩ := (loaded_still admitted).held.mpr trivial
      refine ⟨⟨?_,?_⟩,copiesHeld_refl _ _ _⟩
      · rw [queue]
        exact listed
      · rw [files]
        exact tracked
    · rw [if_pos rfl]
      refine Iff.of_eq (if_congr Iff.rfl (if_congr Iff.rfl (propext ?_) (propext ?_)) rfl)
      · rw [← spared_failedOver]
        exact resolveLoaded_failsInto taken resolution newFilePath
      · have held := copiesHeld_refl pair file.relativePath w.disk
        rw [← taken.held,Spared,and_iff_left held]

/-! An item of which both copies are corrupt. -/

def undecided (id : Nat) : SyncQueueItem := ⟨id,1,.userActionRequired,.pending,none,none⟩

def undecidedWorld : World where
  db := { corruptedWorld.db with syncQueue := Table.empty.insert undecided (fun _ => rfl) }
  disk := corruptedWorld.disk.write ⟨"/secondary","notes.txt"⟩ [1,1]

/-- The mirror is truncated, the corrupt master goes over it, and after the mismatch it is removed. -/
theorem failed_keep_master_removes :
    ¬∀ (_ : Blake3) (io : Io) (itemId : Nat) (resolution : String) (newFilePath : Option Location) (w t : World)
      (message : String), BitProtector.resolveQueueItem io itemId resolution newFilePath w = .error message t →
      Unchanged itemId w t := by
  intro unchanged
  let _ := sampleBlake3
  have fails : ∃ message, BitProtector.resolveQueueItem .healthy 1 "keep_master" none undecidedWorld =
      .error message (after (BitProtector.resolveQueueItem .healthy 1 "keep_master" none) undecidedWorld) := ⟨_,by rfl⟩
  obtain ⟨message,failed⟩ := fails
  have held := (unchanged sampleBlake3 .healthy 1 "keep_master" none undecidedWorld _ message failed).copies
    (undecided 1) corruptedFile corruptedPair rfl rfl rfl .secondary
  exact absurd held (by decide +kernel)

end BitProtector.FailedResolutions
