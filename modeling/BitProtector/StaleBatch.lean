import BitProtector.FailedSide
import BitProtector.QueueDrain

/-! Drains of the queue, statement by statement, beside the statements by which other
operations change queue rows. A drain works off the rows as they were when it fetched
them, and `process_item` does not look at the row again. -/
namespace BitProtector.StaleBatch
open QueueDrain

/-- Where a thread stands with its item; `found` is the status its row had when it was started. -/
inductive ItemPhase
  | readFile (item : SyncQueueItem)
  | loadPair (item : SyncQueueItem) (file : TrackedFile)
  | checkRoots (item : SyncQueueItem) (file : TrackedFile) (pair : DrivePair)
  | failover (item : SyncQueueItem) (file : TrackedFile) (pair : DrivePair)
  | unmirror (item : SyncQueueItem) (file : TrackedFile) (pairId : Nat)
  | failPending (item : SyncQueueItem) (file : TrackedFile) (pairId : Nat)
  | reload (item : SyncQueueItem) (file : TrackedFile) (pairId : Nat)
  | start (item : SyncQueueItem) (file : TrackedFile) (pair : DrivePair)
  | copy (item : SyncQueueItem) (file : TrackedFile) (pair : DrivePair) (found : Option SyncStatus)
  | finish (item : SyncQueueItem) (file : TrackedFile) (pair : DrivePair) (result : Except String Unit)
      (found : Option SyncStatus)
  | flag (item : SyncQueueItem) (file : TrackedFile) (pair : DrivePair)
  | finalize (item : SyncQueueItem) (pairId : Nat)

namespace ItemPhase

def item : ItemPhase → SyncQueueItem
  | .readFile item | .loadPair item _ | .checkRoots item _ _ | .failover item _ _ | .unmirror item _ _
  | .failPending item _ _ | .reload item _ _ | .start item _ _ | .copy item _ _ _ | .finish item _ _ _ _
  | .flag item _ _ | .finalize item _ => item

/-- The item is not started yet. -/
def waits : ItemPhase → Bool
  | .readFile _ | .loadPair _ _ | .checkRoots _ _ _ | .failover _ _ _ | .unmirror _ _ _ | .failPending _ _ _
  | .reload _ _ _ | .start _ _ _ => true
  | _ => false

/-- The worker's own failover is under way. -/
def failsOver : ItemPhase → Bool
  | .failover _ _ _ | .unmirror _ _ _ | .failPending _ _ _ | .reload _ _ _ => true
  | _ => false

/-- The step to come writes the status of the item. -/
def writesStatus : ItemPhase → Bool
  | .start _ _ _ | .finish _ _ _ _ _ => true
  | _ => false

/-- The status that the row of an item had when the item was started. -/
def foundStatus : ItemPhase → Option (Option SyncStatus)
  | .copy _ _ _ found | .finish _ _ _ _ found => some found
  | _ => none

end ItemPhase

def statusOf (db : Db) (itemId : Nat) : Option SyncStatus := (db.syncQueue.find? itemId).map SyncQueueItem.status

/-- A row that was read, or the end of the item. -/
def withRow {α : Type} (read : Except String α) (next : α → ItemPhase) : Option ItemPhase :=
  match read with
  | .ok row => some (next row)
  | .error _ => none

section
variable [Blake3]

/-- The next statement of `process_item`. -/
def advance (io : Io) (w : World) : ItemPhase → World × Option ItemPhase
  | .readFile item => (w,withRow (w.db.getTrackedFile item.trackedFileId) (.loadPair item))
  | .loadPair item file => (w,withRow (w.db.getDrivePair file.drivePairId) (.checkRoots item file))
  | .checkRoots item file pair =>
    (w,some (if emergencyFailoverDue w.disk pair then .failover item file pair else .start item file pair))
  | .failover item file pair =>
    ({ w with db := FailedSide.setRole w.db pair.id pair.activeRole .failed (some pair.standbyRole) },
      some (.unmirror item file pair.id))
  | .unmirror item file pairId =>
    ({ w with db := w.db.markDrivePairUnmirrored pairId },some (.failPending item file pairId))
  | .failPending item file pairId =>
    ({ w with db := w.db.failPendingSyncQueueForDrivePair pairId "drive failover required after fatal root error" },
      some (.reload item file pairId))
  | .reload item file pairId => (w,withRow (w.db.getDrivePair pairId) (.start item file))
  | .start item file pair =>
    if pair.isQuiescing ∨ item.action = .userActionRequired then (w,none)
    else ({ w with db := w.db.updateSyncQueueStatus item.id .inProgress none },
      some (.copy item file pair (statusOf w.db item.id)))
  | .copy item file pair found =>
    match runAction io item.action pair file w with
    | .ok result t => (t,some (.finish item file pair result found))
    | .error _ t => (t,none)
  | .finish item file pair (.ok ()) _ =>
    ({ w with db := w.db.updateSyncQueueStatus item.id .completed none },
      if item.action.setsMirrored then some (.flag item file pair) else none)
  | .finish item _ _ (.error message) _ =>
    ({ w with db := w.db.updateSyncQueueStatus item.id .failed (some message) },none)
  | .flag item file pair =>
    ({ w with db := w.db.updateTrackedFileMirrorStatus file.id true },some (.finalize item pair.id))
  | .finalize item pairId => (Effect.after (maybeFinalizeRebuildForAction pairId item.action) w,none)

/-- The thread of one pair. -/
structure Thread where
  current : Option ItemPhase
  rest : List SyncQueueItem

/-- Where a drain stands. -/
inductive DrainPhase
  | idle
  | requeue
  | heartbeat
  | checkPause
  | fetch
  | running (allSkipped : Bool) (threads : List Thread)
  | release

structure Answers where
  io : Io
  now : Nat
  pid : Nat
  processIsAlive : Nat → Bool
  expired : Bool
  /-- The thread that goes on. -/
  thread : Nat

/-- One thread a pair, with the items of the pair in the order of the page. -/
def spawn (items : List (Nat × SyncQueueItem)) : List Thread :=
  (items.map Prod.fst).dedup.map (fun pairId => ⟨none,(items.filter (·.1 == pairId)).map Prod.snd⟩)

def Thread.advance (answers : Answers) (w : World) : Thread → Option (World × Thread)
  | ⟨some phase,rest⟩ =>
    let (next,phase) := StaleBatch.advance answers.io w phase
    some (next,⟨phase,rest⟩)
  | ⟨none,[]⟩ => none
  | ⟨none,item::rest⟩ =>
    if item.action = .userActionRequired then some (w,⟨none,rest⟩)
    else if w.db.syncSettings.queuePaused || answers.expired then some (w,⟨none,[]⟩)
    else some (w,⟨some (.readFile item),rest⟩)

def Thread.ended : Thread → Bool
  | ⟨none,[]⟩ => true
  | _ => false

/-- The next statement of a drain; a thread goes on, or all of them have ended. -/
def turn (answers : Answers) (w : World) : DrainPhase → Option (World × DrainPhase)
  | .idle =>
    let (taken,db) := w.db.tryAcquireSyncProcessingLock answers.now answers.pid answers.processIsAlive
      ProcessingLock.processingLockStaleAfterSecs
    some ({ w with db },if taken then .requeue else .idle)
  | .requeue => some ({ w with db := w.db.requeueInProgressSyncQueue },.heartbeat)
  | .heartbeat => some ({ w with db := w.db.heartbeatSyncProcessingLock answers.now },.checkPause)
  | .checkPause => some (w,if w.db.syncSettings.queuePaused || answers.expired then .release else .fetch)
  | .fetch =>
    let items := w.db.listPendingSyncQueueWithDrivePair drainPageSize
    some (w,if items.isEmpty then .release
      else .running (items.all (fun entry => entry.2.action == .userActionRequired)) (spawn items))
  | .running allSkipped threads =>
    if threads.all Thread.ended then some (w,if allSkipped then .release else .heartbeat)
    else
      match threads[answers.thread]? with
      | none => none
      | some thread => (thread.advance answers w).map (fun next =>
          (next.1,.running allSkipped (threads.set answers.thread next.2)))
  | .release => some ({ w with db := w.db.releaseSyncProcessingLock },.idle)

/-- Statements of other operations, with what the disks do. -/
inductive Event
  | disk (disk : Disk)
  /-- A failover by another operation, or a confirmed failure. -/
  | failPendingSyncQueueForDrivePair (pairId : Nat) (errorMessage : String)
  | completePendingMirrorQueueForFile (fileId : Nat)
  | startPendingMirrorQueueForFile (fileId : Nat)
  | failPendingMirrorQueueForFile (fileId : Nat) (errorMessage : String)
  | deleteTrackedFile (fileId : Nat)
  /-- The end of a resolution. -/
  | updateSyncQueueStatus (itemId : Nat) (status : SyncStatus) (errorMessage : Option String)
  | clearCompletedSyncQueue
  | requeueInProgressSyncQueue
  | createSyncQueueItem (fileId : Nat) (action : SyncAction) (reason errorMessage : Option String)
  | createSyncQueueItemDedup (fileId : Nat) (action : SyncAction) (reason errorMessage : Option String)
  /-- Any change of the other tables. -/
  | elsewhere (change : Db → Db)

def Event.run : Event → World → World
  | .disk drives, w => { w with disk := drives }
  | .failPendingSyncQueueForDrivePair pairId errorMessage, w =>
    { w with db := w.db.failPendingSyncQueueForDrivePair pairId errorMessage }
  | .completePendingMirrorQueueForFile fileId, w => { w with db := w.db.completePendingMirrorQueueForFile fileId }
  | .startPendingMirrorQueueForFile fileId, w => { w with db := w.db.startPendingMirrorQueueForFile fileId }
  | .failPendingMirrorQueueForFile fileId errorMessage, w =>
    { w with db := w.db.failPendingMirrorQueueForFile fileId errorMessage }
  | .deleteTrackedFile fileId, w => { w with db := w.db.deleteTrackedFile fileId }
  | .updateSyncQueueStatus itemId status errorMessage, w =>
    { w with db := w.db.updateSyncQueueStatus itemId status errorMessage }
  | .clearCompletedSyncQueue, w =>
    { w with db := { w.db with syncQueue := w.db.syncQueue.deleteWhere (fun item => item.status == .completed) } }
  | .requeueInProgressSyncQueue, w => { w with db := w.db.requeueInProgressSyncQueue }
  | .createSyncQueueItem fileId action reason errorMessage, w =>
    { w with db := (w.db.createSyncQueueItem fileId action reason errorMessage).2 }
  | .createSyncQueueItemDedup fileId action reason errorMessage, w =>
    { w with db := (w.db.createSyncQueueItemDedupWithCreated fileId action reason errorMessage).2 }
  | .elsewhere change, w => { w with db := { change w.db with syncQueue := w.db.syncQueue } }

abbrev State := Interleaved World DrainPhase

def machine : Machine State (Move Answers Event) := Interleaved.machine turn Event.run

/-- No drain is under way. -/
def begin (w : World) : State := ⟨w,fun _ => .idle⟩

end

/-! What a drain holds. -/

def DrainPhase.threads : DrainPhase → List Thread
  | .running _ threads => threads
  | _ => []

/-- The item a thread is at and those it has left. -/
def Thread.items (thread : Thread) : List SyncQueueItem := (thread.current.map ItemPhase.item).toList ++ thread.rest

/-- Those of them that are still to be started. -/
def Thread.awaited (thread : Thread) : List SyncQueueItem :=
  ((thread.current.filter ItemPhase.waits).map ItemPhase.item).toList ++
    thread.rest.filter (fun item => item.action ≠ .userActionRequired)

def DrainPhase.awaited (phase : DrainPhase) : List SyncQueueItem := phase.threads.flatMap Thread.awaited

/-- The rows that a statement takes: its `WHERE` clause. -/
def Event.takes (db : Db) (row : SyncQueueItem) : Event → Bool
  | .failPendingSyncQueueForDrivePair pairId _ => row.status.isOpen && db.ofDrivePair pairId row.trackedFileId
  | .completePendingMirrorQueueForFile fileId | .failPendingMirrorQueueForFile fileId _ =>
    row.trackedFileId == fileId && row.action.isMirroring && row.status.isOpen
  | .startPendingMirrorQueueForFile fileId =>
    row.trackedFileId == fileId && row.action.isMirroring && row.status == .pending
  | .deleteTrackedFile fileId => row.trackedFileId == fileId
  | .updateSyncQueueStatus itemId _ _ => row.id == itemId
  | .clearCompletedSyncQueue => row.status == .completed
  | .requeueInProgressSyncQueue => row.status == .inProgress
  | .disk _ | .createSyncQueueItem _ _ _ _ | .createSyncQueueItemDedup _ _ _ _ | .elsewhere _ => false

/-- The item that the next turn of a drain works at. -/
def DrainPhase.working (phase : DrainPhase) (thread : Nat) : Option ItemPhase :=
  (phase.threads[thread]?).bind Thread.current

/-- Nothing takes the row of an item away from the drain that has fetched it and not started it: no
statement of another operation takes the row, no other drain writes its status, and the worker
finds no failover due. -/
def Undisturbed : Move Answers Event → State → Prop
  | .outside event, s => ∀ i, ∀ item ∈ (s.op i).awaited, ∀ row, s.shared.db.syncQueue.find? item.id = some row →
      event.takes s.shared.db row = false
  | .turn i answers, s => ∀ phase, (s.op i).working answers.thread = some phase →
      (∀ item file pair, phase = .checkRoots item file pair → emergencyFailoverDue s.shared.disk pair = false) ∧
      (phase.writesStatus = true → ∀ j, j ≠ i → ∀ item ∈ (s.op j).awaited, item.id ≠ phase.item.id)

/-- Whatever a thread copies or is about to complete had a pending row when it was started. -/
def OnlyPending (s : State) : Prop :=
  ∀ i, ∀ thread ∈ (s.op i).threads, ∀ phase, thread.current = some phase → ∀ found, phase.foundStatus = some found →
    found = some .pending

/-! What one statement does to the status of a row. -/

/-- A row that a statement does not take stays as it is. -/
theorem Event.keeps_row {event : Event} {w : World} {id : Nat} {row : SyncQueueItem}
    (found : w.db.syncQueue.find? id = some row) (untaken : event.takes w.db row = false) :
    (event.run w).db.syncQueue.find? id = some row := by
  have updated (p : SyncQueueItem → Bool) (status : SyncStatus) (message : Option String) (free : p row = false) :
      (w.db.updateQueueWhere p status message).syncQueue.find? id = some row := by
    rw [Db.find?_updateQueueWhere,found,Option.map_some,free]
    rfl
  have deleted (p : SyncQueueItem → Bool) (free : p row = false) :
      (w.db.syncQueue.deleteWhere p).find? id = some row := by
    rw [Table.find?_deleteWhere,found]
    simp [Option.filter,free]
  have inserted (make : Nat → SyncQueueItem) (keyed) : (w.db.syncQueue.insert make keyed).find? id = some row := by
    have bound := w.db.syncQueue.bounded row (Table.mem_of_find? found)
    rw [Table.find?_key found] at bound
    rw [Table.find?_insert,if_neg (by omega),found]
  cases event with
  | disk drives => exact found
  | failPendingSyncQueueForDrivePair pairId message => exact updated _ _ _ untaken
  | completePendingMirrorQueueForFile fileId => exact updated _ _ _ untaken
  | startPendingMirrorQueueForFile fileId => exact updated _ _ _ untaken
  | failPendingMirrorQueueForFile fileId message => exact updated _ _ _ untaken
  | deleteTrackedFile fileId => exact deleted _ untaken
  | updateSyncQueueStatus itemId status message => exact updated _ _ _ untaken
  | clearCompletedSyncQueue => exact deleted _ untaken
  | requeueInProgressSyncQueue => exact updated _ _ _ untaken
  | createSyncQueueItem fileId action reason message => exact inserted _ _
  | createSyncQueueItemDedup fileId action reason message =>
    change (w.db.createSyncQueueItemDedupWithCreated fileId action reason message).2.syncQueue.find? id = some row
    unfold Db.createSyncQueueItemDedupWithCreated
    cases w.db.openSyncQueueItem fileId action reason with
    | some item => exact found
    | none => exact inserted _ _
  | elsewhere change => exact found

theorem Event.keeps_pending {event : Event} {w : World} {id : Nat} (pending : statusOf w.db id = some .pending)
    (untaken : ∀ row, w.db.syncQueue.find? id = some row → event.takes w.db row = false) :
    statusOf (event.run w).db id = some .pending := by
  obtain ⟨row,found,status⟩ := Option.map_eq_some_iff.mp pending
  rw [statusOf,Event.keeps_row found (untaken row found),Option.map_some,status]

theorem statusOf_updateSyncQueueStatus (db : Db) {id itemId : Nat} (other : id ≠ itemId) (status : SyncStatus)
    (message : Option String) : statusOf (db.updateSyncQueueStatus itemId status message) id = statusOf db id := by
  simp only [statusOf,Db.find?_updateSyncQueueStatus,if_neg other,Option.map_id']

theorem statusOf_requeue {db : Db} {id : Nat} (pending : statusOf db id = some .pending) :
    statusOf db.requeueInProgressSyncQueue id = some .pending := by
  obtain ⟨row,found,status⟩ := Option.map_eq_some_iff.mp pending
  rw [statusOf,Db.requeueInProgressSyncQueue,Db.find?_updateQueueWhere,found]
  simp [status]

theorem finalize_syncQueue (pairId : Nat) (action : SyncAction) (w : World) :
    (Effect.after (maybeFinalizeRebuildForAction pairId action) w).db.syncQueue = w.db.syncQueue := by
  cases found : w.db.drivePairs.find? pairId with
  | none =>
    have failed : Act.query (fun db => db.getDrivePair pairId) w = .error Db.queryReturnedNoRows w := by
      simp only [Act.query,Db.getDrivePair,found]
    rw [maybeFinalizeRebuildForAction,Effect.after_bind_of_error failed]
  | some pair =>
    have key : pair.id = pairId := Table.find?_key found
    subst key
    rw [maybeFinalizeRebuildForAction_after action found]
    exact finalized_syncQueue _ _ _

section
variable [Blake3]

/-- What an undisturbed thread finds at an item: its own failover is not under way, and what is
past the start had a pending row there. -/
structure Sound (phase : ItemPhase) : Prop where
  steady : phase.failsOver = false
  pending : ∀ found, phase.foundStatus = some found → found = some .pending

/-- One statement of `process_item` that meets no failover. -/
structure Advanced (w : World) (phase : ItemPhase) (after : World) (next : Option ItemPhase) : Prop where
  queue : ∀ id, (phase.writesStatus = true → id ≠ phase.item.id) → statusOf after.db id = statusOf w.db id
  item : ∀ p, next = some p → p.item = phase.item
  sound : ∀ p, next = some p → Sound p
  waits : ∀ p, next = some p → p.waits = true → phase.waits = true ∧ phase.writesStatus = false

omit [Blake3] in
theorem advanced_ends {w after : World} {phase : ItemPhase} (same : after.db.syncQueue = w.db.syncQueue) :
    Advanced w phase after none := by
  refine ⟨fun id _ => by rw [statusOf,statusOf,same],?_,?_,?_⟩ <;> intro p ends <;> cases ends

omit [Blake3] in
theorem advanced_withRow {α : Type} {w : World} {phase : ItemPhase} (read : Except String α) (next : α → ItemPhase)
    (item : ∀ row, (next row).item = phase.item) (sound : ∀ row, Sound (next row))
    (waits : phase.waits = true ∧ phase.writesStatus = false) : Advanced w phase w (withRow read next) := by
  refine ⟨fun _ _ => rfl,?_,?_,?_⟩ <;> intro p ran <;> cases read <;> cases ran
  · exact item _
  · exact sound _
  · exact fun _ => waits

theorem advance_advanced (io : Io) (w : World) {phase : ItemPhase} (sound : Sound phase)
    (steady : ∀ item file pair, phase = .checkRoots item file pair → emergencyFailoverDue w.disk pair = false)
    (pending : phase.waits = true → statusOf w.db phase.item.id = some .pending) :
    Advanced w phase (advance io w phase).1 (advance io w phase).2 := by
  have fresh {p : ItemPhase} (early : p.failsOver = false) (before : p.foundStatus = none) : Sound p :=
    ⟨early,fun found some => by rw [before] at some; cases some⟩
  cases phase with
  | readFile item => exact advanced_withRow _ _ (fun _ => rfl) (fun _ => fresh rfl rfl) ⟨rfl,rfl⟩
  | loadPair item file => exact advanced_withRow _ _ (fun _ => rfl) (fun _ => fresh rfl rfl) ⟨rfl,rfl⟩
  | checkRoots item file pair =>
    rw [advance,steady item file pair rfl,if_neg Bool.false_ne_true]
    refine ⟨fun _ _ => rfl,?_,?_,?_⟩ <;> intro p ran <;> cases ran
    · rfl
    · exact fresh rfl rfl
    · exact fun _ => ⟨rfl,rfl⟩
  | failover item file pair => cases sound.steady
  | unmirror item file pairId => cases sound.steady
  | failPending item file pairId => cases sound.steady
  | reload item file pairId => cases sound.steady
  | start item file pair =>
    simp only [advance]
    split
    · exact advanced_ends rfl
    · refine ⟨fun id other => statusOf_updateSyncQueueStatus _ (other rfl) _ _,?_,?_,?_⟩ <;> intro p ran <;> cases ran
      · rfl
      · refine ⟨rfl,fun found some => ?_⟩
        cases some
        exact pending rfl
      · exact fun waits => by cases waits
  | copy item file pair found =>
    have kept := dbKept_runAction io item.action pair file w
    simp only [advance]
    cases ran : runAction io item.action pair file w with
    | error message t =>
      rw [Effect.after_of_error ran] at kept
      exact advanced_ends (by rw [show t.db = w.db from kept])
    | ok result t =>
      rw [Effect.after_of_ok ran] at kept
      refine ⟨fun id _ => by rw [show t.db = w.db from kept],?_,?_,?_⟩ <;> intro p next <;> cases next
      · rfl
      · exact ⟨rfl,sound.pending⟩
      · exact fun waits => by cases waits
  | finish item file pair result found =>
    cases result with
    | error message =>
      refine ⟨fun id other => statusOf_updateSyncQueueStatus _ (other rfl) _ _,?_,?_,?_⟩ <;> intro p ran <;> cases ran
    | ok _ =>
      refine ⟨fun id other => statusOf_updateSyncQueueStatus _ (other rfl) _ _,?_,?_,?_⟩ <;> intro p ran <;>
        simp only [advance] at ran <;> split at ran <;> cases ran
      · rfl
      · exact fresh rfl rfl
      · exact fun waits => by cases waits
  | flag item file pair =>
    refine ⟨fun _ _ => rfl,?_,?_,?_⟩ <;> intro p ran <;> cases ran
    · rfl
    · exact fresh rfl rfl
    · exact fun waits => by cases waits
  | finalize item pairId => exact advanced_ends (finalize_syncQueue pairId item.action w)

/-! One thread, one drain, any number of drains. -/

omit [Blake3] in
theorem Thread.awaited_subset (thread : Thread) : thread.awaited ⊆ thread.items := by
  intro item member
  rcases List.mem_append.mp member with current | rest
  · apply List.mem_append_left
    rw [Option.mem_toList,Option.map_eq_some_iff] at current ⊢
    obtain ⟨phase,held,same⟩ := current
    exact ⟨phase,(Option.filter_eq_some_iff.mp held).1,same⟩
  · exact List.mem_append_right _ (List.mem_filter.mp rest).1

/-- What a step of a thread writes, and what it still holds. -/
structure ThreadStep (w : World) (thread : Thread) (after : World) (next : Thread) : Prop where
  queue : ∀ id, (∀ phase, thread.current = some phase → phase.writesStatus = true → id ≠ phase.item.id) →
    statusOf after.db id = statusOf w.db id
  items : next.items.Sublist thread.items
  sound : ∀ phase, next.current = some phase → Sound phase
  awaited : ∀ item ∈ next.awaited, item ∈ thread.awaited ∧
    ∀ phase, thread.current = some phase → phase.writesStatus = true → item.id ≠ phase.item.id

theorem thread_step {answers : Answers} {w after : World} {thread next : Thread}
    (ran : thread.advance answers w = some (after,next)) (distinct : (thread.items.map SyncQueueItem.id).Nodup)
    (sound : ∀ phase, thread.current = some phase → Sound phase)
    (steady : ∀ item file pair, thread.current = some (.checkRoots item file pair) →
      emergencyFailoverDue w.disk pair = false)
    (pending : ∀ item ∈ thread.awaited, statusOf w.db item.id = some .pending) : ThreadStep w thread after next := by
  obtain ⟨current,rest⟩ := thread
  cases current with
  | some phase =>
    have stays : phase.waits = true → phase.item ∈ Thread.awaited ⟨some phase,rest⟩ := by
      intro waits
      apply List.mem_append_left
      simp [Option.filter,waits]
    have step := advance_advanced answers.io w (sound phase rfl)
      (fun item file pair at_roots => steady item file pair (congrArg some at_roots)) (fun waits => pending _ (stays waits))
    simp only [Thread.advance,Option.some.injEq,Prod.mk.injEq] at ran
    obtain ⟨world,thread⟩ := ran
    subst world thread
    have apart : ∀ item ∈ rest, item.id ≠ phase.item.id := by
      intro item member same
      have held : (phase.item.id::rest.map SyncQueueItem.id).Nodup := distinct
      exact (List.nodup_cons.mp held).1 (List.mem_map.mpr ⟨item,member,same⟩)
    refine ⟨fun id other => step.queue id (other phase rfl),?_,fun p held => step.sound p held,?_⟩
    · unfold Thread.items
      cases ended : (advance answers.io w phase).2 with
      | none => exact List.sublist_append_right _ _
      | some p =>
        rw [Option.map_some,step.item p ended]
        exact List.Sublist.refl _
    · intro item member
      rcases List.mem_append.mp member with held | later
      · rw [Option.mem_toList,Option.map_eq_some_iff] at held
        obtain ⟨p,kept,rfl⟩ := held
        obtain ⟨ended,waits⟩ := Option.filter_eq_some_iff.mp kept
        obtain ⟨before,quiet⟩ := step.waits p ended waits
        rw [step.item p ended]
        refine ⟨stays before,fun other same writes => ?_⟩
        cases same
        rw [quiet] at writes
        cases writes
      · refine ⟨List.mem_append_right _ later,fun other same _ => ?_⟩
        cases same
        exact apart item (List.mem_filter.mp later).1
  | none =>
    have idle : ∀ phase : ItemPhase, (none : Option ItemPhase) = some phase → ¬phase.writesStatus = true := by
      intro phase none
      cases none
    cases rest with
    | nil => cases ran
    | cons item rest =>
      simp only [Thread.advance] at ran
      split at ran
      · cases ran
        refine ⟨fun _ _ => rfl,List.sublist_cons_self _ _,fun _ none => (by cases none),fun other member => ⟨?_,?_⟩⟩
        · have later := (List.mem_filter.mp member)
          exact List.mem_filter.mpr ⟨List.mem_cons_of_mem _ later.1,later.2⟩
        · exact fun phase same writes => absurd writes (idle phase same)
      · rename_i automatic
        split at ran
        · cases ran
          refine ⟨fun _ _ => rfl,List.nil_sublist _,fun _ none => (by cases none),fun other member => ?_⟩
          cases member
        · cases ran
          refine ⟨fun _ _ => rfl,List.Sublist.refl _,fun phase reads => ?_,fun other member => ⟨?_,?_⟩⟩
          · cases reads
            exact ⟨rfl,fun found some => by cases some⟩
          · have chosen : item ∈ (item::rest).filter (fun item => item.action ≠ .userActionRequired) :=
              List.mem_filter.mpr ⟨List.mem_cons_self,by simpa using automatic⟩
            rcases List.mem_append.mp member with own | later
            · rw [Option.mem_toList,Option.map_eq_some_iff] at own
              obtain ⟨phase,kept,rfl⟩ := own
              cases (Option.filter_eq_some_iff.mp kept).1
              exact chosen
            · have held := List.mem_filter.mp later
              exact List.mem_filter.mpr ⟨List.mem_cons_of_mem _ held.1,held.2⟩
          · exact fun phase same writes => absurd writes (idle phase same)

/-- Every item that a drain has fetched and not started is pending, each is held once, and its threads are sound. -/
structure Steady (w : World) (phase : DrainPhase) : Prop where
  pending : ∀ item ∈ phase.awaited, statusOf w.db item.id = some .pending
  distinct : ((phase.threads.flatMap Thread.items).map SyncQueueItem.id).Nodup
  sound : ∀ thread ∈ phase.threads, ∀ at_item, thread.current = some at_item → Sound at_item

omit [Blake3] in
theorem steady_of_no_threads {w : World} {phase : DrainPhase} (none : phase.threads = []) : Steady w phase := by
  refine ⟨?_,?_,?_⟩
  · simp [DrainPhase.awaited,none]
  · simp [none]
  · simp [none]

omit [Blake3] in
theorem Steady.of_pending {w after : World} {phase : DrainPhase} (steady : Steady w phase)
    (kept : ∀ item ∈ phase.awaited, statusOf after.db item.id = some .pending) : Steady after phase :=
  ⟨kept,steady.distinct,steady.sound⟩

omit [Blake3] in
theorem spawn_items (items : List (Nat × SyncQueueItem)) :
    (spawn items).flatMap Thread.items =
      ((items.map Prod.fst).dedup).flatMap (fun pairId => (items.filter (·.1 == pairId)).map Prod.snd) := by
  rw [spawn,List.flatMap_map]
  rfl

omit [Blake3] in
theorem steady_spawn {w : World} {allSkipped : Bool} {items : List (Nat × SyncQueueItem)}
    (fetched : ∀ entry ∈ items, statusOf w.db entry.2.id = some .pending)
    (distinct : (items.map (fun entry => entry.2.id)).Nodup) : Steady w (.running allSkipped (spawn items)) := by
  have fresh : ∀ thread ∈ spawn items, thread.current = none := by
    intro thread member
    obtain ⟨pairId,_,rfl⟩ := List.mem_map.mp member
    rfl
  refine ⟨?_,?_,?_⟩
  · intro item member
    obtain ⟨thread,listed,held⟩ := List.mem_flatMap.mp member
    have inside := Thread.awaited_subset thread held
    have whole : item ∈ (spawn items).flatMap Thread.items := List.mem_flatMap.mpr ⟨thread,listed,inside⟩
    rw [spawn_items,List.mem_flatMap] at whole
    obtain ⟨pairId,_,entry⟩ := whole
    obtain ⟨found,kept,rfl⟩ := List.mem_map.mp entry
    exact fetched found (List.mem_filter.mp kept).1
  · change (((spawn items).flatMap Thread.items).map SyncQueueItem.id).Nodup
    rw [spawn_items,List.map_flatMap,List.nodup_flatMap]
    refine ⟨fun pairId _ => ?_,?_⟩
    · rw [List.map_map]
      exact distinct.sublist (List.filter_sublist.map _)
    · refine (List.nodup_dedup _).imp fun {first second} apart => ?_
      intro id left right
      simp only [List.mem_map,List.mem_filter,beq_iff_eq] at left right
      obtain ⟨_,⟨a,⟨isA,ofA⟩,rfl⟩,idA⟩ := left
      obtain ⟨_,⟨b,⟨isB,ofB⟩,rfl⟩,idB⟩ := right
      have same := List.inj_on_of_nodup_map distinct isA isB (idA.trans idB.symm)
      exact apart (by rw [← ofA,← ofB,same])
  · intro thread member phase some
    rw [fresh thread member] at some
    cases some

omit [Blake3] in
theorem fetched_pending (db : Db) (limit : Nat) :
    (∀ entry ∈ db.listPendingSyncQueueWithDrivePair limit, statusOf db entry.2.id = some .pending) ∧
      ((db.listPendingSyncQueueWithDrivePair limit).map (fun entry => entry.2.id)).Nodup := by
  constructor
  · intro entry member
    obtain ⟨item,listed,rfl⟩ := List.mem_map.mp member
    obtain ⟨found,pending⟩ := Db.mem_pendingSyncQueue.mp (FairPaging.page_subset listed)
    rw [statusOf,found,Option.map_some,pending]
  · rw [Db.listPendingSyncQueueWithDrivePair,List.map_map]
    have whole : db.pendingSyncQueue.Nodup := .of_map _ db.pendingSyncQueue_distinct
    refine (List.nodup_map_iff_inj_on (FairPaging.page_nodup whole)).mpr fun a isA b isB same => ?_
    exact List.inj_on_of_nodup_map db.pendingSyncQueue_distinct (FairPaging.page_subset isA)
      (FairPaging.page_subset isB) same

omit [Blake3] in
theorem threads_split {threads : List Thread} {k : Nat} {thread : Thread} (chosen : threads[k]? = some thread) :
    ∃ earlier later, threads = earlier ++ thread::later ∧ ∀ next, threads.set k next = earlier ++ next::later := by
  obtain ⟨inside,rfl⟩ := List.getElem?_eq_some_iff.mp chosen
  refine ⟨threads.take k,threads.drop (k + 1),?_,fun next => ?_⟩
  · rw [List.getElem_cons_drop,List.take_append_drop]
  · rw [List.set_eq_take_append_cons_drop,if_pos inside]

/-- A statement of a drain keeps the drain steady, and the rows that wait elsewhere pending. -/
structure TurnStep (answers : Answers) (w : World) (phase : DrainPhase) (after : World) (next : DrainPhase) : Prop where
  steady : Steady after next
  pending : ∀ id, (∀ p, phase.working answers.thread = some p → p.writesStatus = true → id ≠ p.item.id) →
    statusOf w.db id = some .pending → statusOf after.db id = some .pending

omit [Blake3] in
/-- A statement of the loop itself. -/
theorem turnStep_of_kept {answers : Answers} {w after : World} {phase next : DrainPhase}
    (kept : ∀ id, statusOf w.db id = some .pending → statusOf after.db id = some .pending)
    (steady : Steady after next) : TurnStep answers w phase after next :=
  ⟨steady,fun id _ pending => kept id pending⟩

omit [Blake3] in
theorem running_step {answers : Answers} {w after : World} {allSkipped : Bool} {threads : List Thread}
    {thread next : Thread} (chosen : threads[answers.thread]? = some thread)
    (step : ThreadStep w thread after next) (steady : Steady w (.running allSkipped threads)) :
    TurnStep answers w (.running allSkipped threads) after (.running allSkipped (threads.set answers.thread next)) := by
  obtain ⟨earlier,later,whole,replaced⟩ := threads_split chosen
  have working : (DrainPhase.running allSkipped threads).working answers.thread = thread.current := by
    simp only [DrainPhase.working,DrainPhase.threads,chosen,Option.bind_some]
  have distinct : ((threads.flatMap Thread.items).map SyncQueueItem.id).Nodup := steady.distinct
  rw [whole,List.flatMap_append,List.flatMap_cons,List.map_append,List.map_append] at distinct
  obtain ⟨_,mine,left⟩ := List.nodup_append.mp distinct
  obtain ⟨_,_,right⟩ := List.nodup_append.mp mine
  -- an item of another thread is not the one that this thread is at
  have apart : ∀ other ∈ earlier ++ later, ∀ item ∈ other.items, ∀ own ∈ thread.items, item.id ≠ own.id := by
    intro other member item held own owned
    have here := List.mem_map_of_mem (f := SyncQueueItem.id) owned
    rcases List.mem_append.mp member with before | beyond
    · exact left _ (List.mem_map_of_mem (List.mem_flatMap.mpr ⟨other,before,held⟩)) _ (List.mem_append_left _ here)
    · exact (right _ here _ (List.mem_map_of_mem (List.mem_flatMap.mpr ⟨other,beyond,held⟩))).symm
  have at_hand : ∀ phase, thread.current = some phase → phase.item ∈ thread.items := by
    intro phase held
    apply List.mem_append_left
    simp [held]
  refine ⟨⟨?_,?_,?_⟩,?_⟩
  · intro item member
    obtain ⟨other,listed,held⟩ := List.mem_flatMap.mp member
    have rest : other ∈ earlier ++ later ∨ other = next := by
      change other ∈ threads.set answers.thread next at listed
      rw [replaced,List.mem_append,List.mem_cons] at listed
      rw [List.mem_append]
      tauto
    rcases rest with beside | rfl
    · have known : other ∈ threads := by
        rw [whole]
        simp only [List.mem_append,List.mem_cons] at beside ⊢
        tauto
      rw [step.queue item.id fun phase current _ =>
        apart other beside item (Thread.awaited_subset other held) phase.item (at_hand phase current)]
      exact steady.pending item (List.mem_flatMap.mpr ⟨other,known,held⟩)
    · obtain ⟨waiting,free⟩ := step.awaited item held
      rw [step.queue item.id free]
      have known : thread ∈ threads := List.mem_of_getElem? chosen
      exact steady.pending item (List.mem_flatMap.mpr ⟨thread,known,waiting⟩)
  · change (((threads.set answers.thread next).flatMap Thread.items).map SyncQueueItem.id).Nodup
    refine List.Nodup.sublist ?_ steady.distinct
    change (((threads.set answers.thread next).flatMap Thread.items).map SyncQueueItem.id).Sublist
      ((threads.flatMap Thread.items).map SyncQueueItem.id)
    rw [replaced]
    conv_rhs => rw [whole]
    simp only [List.flatMap_append,List.flatMap_cons]
    exact ((List.Sublist.refl _).append (step.items.append (List.Sublist.refl _))).map _
  · intro other listed phase current
    rcases List.mem_or_eq_of_mem_set listed with before | rfl
    · exact steady.sound other before phase current
    · exact step.sound phase current
  · intro id free pending
    rw [step.queue id (fun phase current => free phase (working.trans current)),pending]

theorem turn_step {answers : Answers} {w after : World} {phase next : DrainPhase}
    (ran : turn answers w phase = some (after,next)) (steady : Steady w phase)
    (quiet : ∀ item file pair, phase.working answers.thread = some (.checkRoots item file pair) →
      emergencyFailoverDue w.disk pair = false) : TurnStep answers w phase after next := by
  cases phase with
  | idle =>
    simp only [turn,Option.some.injEq,Prod.mk.injEq] at ran
    obtain ⟨rfl,rfl⟩ := ran
    refine turnStep_of_kept (fun id pending => ?_) (steady_of_no_threads ?_)
    · rw [statusOf,Db.tryAcquire_syncQueue]
      exact pending
    · split <;> rfl
  | requeue =>
    cases ran
    exact turnStep_of_kept (fun id pending => statusOf_requeue pending) (steady_of_no_threads rfl)
  | heartbeat =>
    cases ran
    exact turnStep_of_kept (fun id pending => pending) (steady_of_no_threads rfl)
  | checkPause =>
    cases ran
    refine turnStep_of_kept (fun id pending => pending) (steady_of_no_threads ?_)
    split <;> rfl
  | fetch =>
    simp only [turn,Option.some.injEq,Prod.mk.injEq] at ran
    obtain ⟨rfl,rfl⟩ := ran
    refine turnStep_of_kept (fun id pending => pending) ?_
    split
    · exact steady_of_no_threads rfl
    · exact steady_spawn (fetched_pending _ _).1 (fetched_pending _ _).2
  | running allSkipped threads =>
    simp only [turn] at ran
    split at ran
    · cases ran
      refine turnStep_of_kept (fun id pending => pending) (steady_of_no_threads ?_)
      split <;> rfl
    · cases chosen : threads[answers.thread]? with
      | none => simp only [chosen,reduceCtorEq] at ran
      | some thread =>
        simp only [chosen] at ran
        obtain ⟨⟨world,moved⟩,advanced,same⟩ := Option.map_eq_some_iff.mp ran
        cases same
        have listed : thread ∈ threads := List.mem_of_getElem? chosen
        refine running_step chosen (thread_step advanced ?_ (steady.sound thread listed) ?_ ?_) steady
        · obtain ⟨earlier,later,whole,_⟩ := threads_split chosen
          have inner : thread.items.Sublist (threads.flatMap Thread.items) := by
            rw [whole,List.flatMap_append,List.flatMap_cons]
            exact (List.sublist_append_left _ _).trans (List.sublist_append_right _ _)
          exact steady.distinct.sublist (inner.map _)
        · intro item file pair current
          apply quiet item file pair
          simp only [DrainPhase.working,DrainPhase.threads,chosen,Option.bind_some,current]
        · exact fun item held => steady.pending item (List.mem_flatMap.mpr ⟨thread,listed,held⟩)
  | release =>
    cases ran
    exact turnStep_of_kept (fun id pending => pending) (steady_of_no_threads rfl)

theorem run_steady {w : World} {s : State} (reached : machine.Reaches Undisturbed (begin w) s) :
    ∀ i, Steady s.shared (s.op i) := by
  have initial : ∀ i, Steady w ((begin w).op i) := fun _ => steady_of_no_threads rfl
  refine Interleaved.invariant_of_turns (I := fun s => ∀ i, Steady s.shared (s.op i)) reached initial ?_ ?_
  · intro i answers s next steady undisturbed ran
    have step := turn_step ran (steady i) fun item file pair working =>
      (undisturbed _ working).1 item file pair rfl
    refine Interleaved.forall_moved step.steady fun j other => (steady j).of_pending fun item waiting => ?_
    refine step.pending item.id (fun phase working writes => ?_) ((steady j).pending item waiting)
    exact (undisturbed phase working).2 writes j other item waiting
  · intro event s steady undisturbed i
    refine (steady i).of_pending fun item waiting => ?_
    exact Event.keeps_pending ((steady i).pending item waiting) (undisturbed i item waiting)

/-- In a run that nothing disturbs, a drain copies bytes for an item, and completes it, only when
its row was pending at the start. -/
theorem only_pending_started {w : World} {s : State} (reached : machine.Reaches Undisturbed (begin w) s) :
    OnlyPending s :=
  fun i thread listed phase current => ((run_steady reached i).sound thread listed phase current).pending

/-! One drain alone, on drives that answer. -/

def answers : Answers := ⟨Io.healthy,0,1,fun _ => true,false,0⟩

/-- The statements of the first drain, one after the other. -/
def firstDrain (steps : Nat) : List (Move Answers Event) := List.replicate steps (.turn 0 answers)

/-- The first drain runs alone, and no root is missing. -/
structure Alone (s : State) : Prop where
  idle : ∀ j, j ≠ 0 → s.op j = .idle
  calm : ∀ pair, emergencyFailoverDue s.shared.disk pair = false

omit [Blake3] in
theorem alone_undisturbed {s : State} (alone : Alone s) : Undisturbed (.turn 0 answers) s := by
  intro phase _
  refine ⟨fun _ _ pair _ => alone.calm pair,fun _ j other item waiting => ?_⟩
  rw [alone.idle j other] at waiting
  cases waiting

/-- A statement that leaves the disks alone. -/
theorem alone_reaches {start s t : State} (before : machine.Reaches Undisturbed start s ∧ Alone s)
    (taken : machine.step (.turn 0 answers) s = some t) (kept : t.shared.disk = s.shared.disk) :
    machine.Reaches Undisturbed start t ∧ Alone t := by
  obtain ⟨reached,alone⟩ := before
  refine ⟨.step _ reached (alone_undisturbed alone) taken,?_,fun pair => kept ▸ alone.calm pair⟩
  obtain ⟨next,_,rfl⟩ := Option.map_eq_some_iff.mp taken
  exact fun j other => (s.moved_other next.1 next.2 other).trans (alone.idle j other)

/-- A statement of another operation that takes no pending row. -/
theorem alone_beside {w : World} {s : State} (before : machine.Reaches Undisturbed (begin w) s ∧ Alone s) (event : Event)
    (spares : ∀ row : SyncQueueItem, row.status = .pending → event.takes s.shared.db row = false)
    (kept : (event.run s.shared).disk = s.shared.disk) :
    machine.Reaches Undisturbed (begin w) { s with shared := event.run s.shared } ∧
      Alone { s with shared := event.run s.shared } := by
  obtain ⟨reached,alone⟩ := before
  refine ⟨.step (.outside event) reached (fun i item waiting row found => spares row ?_) rfl,alone.idle,
    fun pair => kept ▸ alone.calm pair⟩
  have pending := (run_steady reached i).pending item waiting
  rw [statusOf,found,Option.map_some] at pending
  exact Option.some.inj pending

end

def pendingWorld : World := { corruptedWorld with disk := ⟨fun _ => none,fun _ => true⟩ }

/-- Between the fetch and the start an item is queued for the same file, and stranded items are taken up again. -/
def besideFetch : List (Move Answers Event) :=
  firstDrain 7 ++ [.outside (.createSyncQueueItem 1 .verify none none),.outside .requeueInProgressSyncQueue] ++ firstDrain 3

theorem only_pending_started_beside :
    letI := sampleBlake3
    ∃ s, machine.exec (begin pendingWorld) besideFetch = some s ∧
      (s.op 0).working 0 = some (.copy corruptedItem corruptedFile corruptedPair (some .pending)) ∧
      s.shared.db.syncQueue.rows.length = 2 ∧ OnlyPending s := by
  let _ := sampleBlake3
  have first : machine.Reaches Undisturbed (begin pendingWorld) (begin pendingWorld) ∧ Alone (begin pendingWorld) :=
    ⟨.start,fun _ _ => rfl,fun _ => by simp [begin,pendingWorld,emergencyFailoverDue,missingExpectedRootMarker,Disk.exists?]⟩
  have acquired := alone_reaches first rfl rfl
  have requeued := alone_reaches acquired rfl rfl
  have beaten := alone_reaches requeued rfl rfl
  have unpaused := alone_reaches beaten rfl rfl
  have fetched := alone_reaches unpaused rfl rfl
  have begun := alone_reaches fetched rfl rfl
  have read := alone_reaches begun rfl rfl
  have queued := alone_beside read (.createSyncQueueItem 1 .verify none none) (fun _ _ => rfl) rfl
  have taken := alone_beside queued .requeueInProgressSyncQueue (fun row pending => by simp [Event.takes,pending]) rfl
  have loaded := alone_reaches taken rfl rfl
  have checked := alone_reaches loaded rfl rfl
  have started := alone_reaches checked rfl rfl
  exact ⟨_,rfl,rfl,rfl,only_pending_started started.1⟩

/-- The active root is gone: the worker fails the item over and runs it. -/
def failedOverWorld : World :=
  { corruptedWorld with disk := { corruptedWorld.disk with available := fun root => root == "/secondary" } }

theorem failed_item_started :
    ¬ ∀ (_ : Blake3) (w : World) (s : State), machine.Reaches (fun _ _ => True) (begin w) s → OnlyPending s := by
  intro only
  let _ := sampleBlake3
  obtain ⟨s,ran,thread,listed,phase,current,found⟩ : ∃ s, machine.exec (begin failedOverWorld) (firstDrain 14) = some s ∧
      ∃ thread ∈ (s.op 0).threads, ∃ phase, thread.current = some phase ∧ phase.foundStatus = some (some .failed) :=
    ⟨_,rfl,_,List.mem_singleton.mpr rfl,_,rfl,rfl⟩
  cases only sampleBlake3 failedOverWorld s (Machine.reaches_of_exec ran) 0 thread listed phase current _ found

end BitProtector.StaleBatch
