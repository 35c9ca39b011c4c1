import BitProtector.ItemStatus
import BitProtector.DriveLifecycle

/-! From the assignment of a replacement drive to the last of its restore items. The
side becomes active with the call that completes that item, if one was queued at all
and no row of an earlier cycle is left. -/
namespace BitProtector.RebuildCompletion
open Effect

/-- The rows that stand for the rebuild of `files`, and the tables once they are there. -/
def rebuildQueued (action : SyncAction) : List TrackedFile → Db → List Nat × Db
  | [], db => ([],db)
  | file::files, db =>
    let ((item,_),next) := db.createSyncQueueItemDedupWithCreated file.id action none none
    let (ids,last) := rebuildQueued action files next
    (item.id::ids,last)

/-- The tables in which the replacement of a side is written down, before its items are queued. -/
def assigned (pairId : Nat) (role : DriveRole) (newPath : String) (db : Db) : Db :=
  db.updateDrivePairRuntime pairId (forRole role .primary newPath) (forRole role .secondary newPath)
    (forRole role .primary .rebuilding) (forRole role .secondary .rebuilding) none

/-- The restore items that the assignment of a replacement queues. -/
def restoreItems (pairId : Nat) (role : DriveRole) (newPath : String) (db : Db) : List Nat :=
  (rebuildQueued (rebuildActionForRole role) ((assigned pairId role newPath db).listTrackedFilesOfPair pairId)
    (assigned pairId role newPath db)).1

def sideState (db : Db) (pairId : Nat) (role : DriveRole) : Option DriveState :=
  (db.drivePairs.find? pairId).map (fun pair => pair.roleState role)

theorem queueRebuild_ok {action : SyncAction} {files : List TrackedFile} {queued : Nat} {w t : World}
    (ok : queueRebuild action files w = .ok queued t) : t = { w with db := (rebuildQueued action files w.db).2 } := by
  induction files generalizing queued w with
  | nil =>
    cases ok
    rfl
  | cons file files ih =>
    obtain ⟨⟨_,created⟩,u,inserted,rest⟩ := bind_success ok
    obtain ⟨_,v,ran,ends⟩ := bind_success rest
    rw [Act.insert_apply,EStateM.Result.ok.injEq] at inserted
    obtain ⟨_,rfl⟩ := inserted
    cases ends
    exact ih ran

theorem assignReplacementDrive_db {io : Io} {pairId : Nat} {role : DriveRole} {newPath : String}
    {result : DrivePair × Nat} {w t : World} (ok : assignReplacementDrive io pairId role newPath w = .ok result t) :
    (∃ pair, w.db.drivePairs.find? pairId = some pair) ∧
    t.db = (rebuildQueued (rebuildActionForRole role) ((assigned pairId role newPath w.db).listTrackedFilesOfPair pairId)
      (assigned pairId role newPath w.db)).2 := by
  obtain ⟨pair,u,read,guarded⟩ := bind_success ok
  obtain ⟨found,same⟩ := query_getDrivePair read
  obtain ⟨_,v,ensured,marks⟩ := bind_success guarded
  obtain ⟨_,still⟩ := Act.ensure_success ensured
  obtain ⟨_,x,marked,writes⟩ := bind_success marks
  obtain ⟨row,y,written,lists⟩ := bind_success writes
  obtain ⟨files,z,listed,queues⟩ := bind_success lists
  obtain ⟨queued,q,ran,ends⟩ := bind_success queues
  subst still same
  have untouched : x.db = v.db := by
    have kept := dbKept_ensureDriveRootMarker io newPath v
    rwa [after_of_ok marked] at kept
  obtain ⟨_,_,changed⟩ := updateRuntime_ok written
  obtain ⟨all,listing⟩ := Act.query_success listed
  cases ends
  cases all
  subst listing changed
  rw [queueRebuild_ok ran,untouched]
  exact ⟨⟨pair,found⟩,rfl⟩

/-! What a row stands for does not change. -/

/-- The row of `id` asks for `action` on a file of the pair. -/
def AsksFor (db : Db) (pairId : Nat) (action : SyncAction) (id : Nat) : Prop :=
  ∃ row, db.syncQueue.find? id = some row ∧ row.action = action ∧ db.ofDrivePair pairId row.trackedFileId = true

structure ColumnsKept (db next : Db) : Prop where
  rows : ∀ id row, db.syncQueue.find? id = some row → ∃ later, next.syncQueue.find? id = some later ∧
    later.trackedFileId = row.trackedFileId ∧ later.action = row.action
  files : ∀ pairId fileId, next.ofDrivePair pairId fileId = db.ofDrivePair pairId fileId

instance : IsPreorder Db ColumnsKept where
  refl db := ⟨fun id row found => ⟨row,found,rfl,rfl⟩,fun _ _ => rfl⟩
  trans db next last first second := by
    refine ⟨fun id row found => ?_,fun pairId fileId => (second.files pairId fileId).trans (first.files pairId fileId)⟩
    obtain ⟨later,after,file,action⟩ := first.rows id row found
    obtain ⟨latest,last,sameFile,sameAction⟩ := second.rows id later after
    exact ⟨latest,last,sameFile.trans file,sameAction.trans action⟩

theorem AsksFor.kept {db next : Db} {pairId id : Nat} {action : SyncAction} (asks : AsksFor db pairId action id)
    (kept : ColumnsKept db next) : AsksFor next pairId action id := by
  obtain ⟨row,found,same,inside⟩ := asks
  obtain ⟨later,after,file,still⟩ := kept.rows id row found
  exact ⟨later,after,still.trans same,by rw [kept.files,file]; exact inside⟩

theorem columnsKept_setsFlags {flag : TrackedFile → Bool} {db next : Db} (flags : Db.SetsFlags flag db next)
    (queue : next.syncQueue = db.syncQueue) : ColumnsKept db next where
  rows id row found := ⟨row,by rw [queue]; exact found,rfl,rfl⟩
  files pairId fileId := flags.ofDrivePair pairId fileId

theorem columnsKept_updateQueueWhere (db : Db) (p : SyncQueueItem → Bool) (status : SyncStatus) (message : Option String) :
    ColumnsKept db (db.updateQueueWhere p status message) where
  rows id row found := by
    rw [Db.find?_updateQueueWhere,found,Option.map_some]
    refine ⟨_,rfl,?_⟩
    split <;> exact ⟨rfl,rfl⟩
  files _ _ := rfl

theorem columnsKept_insert (db : Db) (fileId : Nat) (action : SyncAction) (reason message : Option String) :
    ColumnsKept db (db.createSyncQueueItemDedupWithCreated fileId action reason message).2 := by
  unfold Db.createSyncQueueItemDedupWithCreated
  cases db.openSyncQueueItem fileId action reason with
  | some item => exact refl_of ColumnsKept db
  | none =>
    refine ⟨fun id row found => ⟨row,?_,rfl,rfl⟩,fun _ _ => rfl⟩
    have old : id ≠ db.syncQueue.lastId + 1 := by
      have bound := db.syncQueue.bounded row (Table.mem_of_find? found)
      have key : row.id = id := Table.find?_key found
      change row.id ≤ _ at bound
      omega
    exact (Table.find?_insert _ _ _ _).trans (by rw [if_neg old]; exact found)

theorem columnsKept_operational (db : Db) (disk : Disk) (pair : DrivePair) : ColumnsKept db (db.operational disk pair) := by
  unfold Db.operational
  split
  · refine trans_of ColumnsKept ?_ (columnsKept_updateQueueWhere _ _ _ _)
    exact columnsKept_setsFlags (Db.setsFlags_markDrivePairUnmirrored _ pair.id) rfl
  · exact refl_of ColumnsKept db

theorem columnsKept_finalized (db : Db) (pair : DrivePair) (action : SyncAction) : ColumnsKept db (db.finalized pair action) := by
  unfold Db.finalized
  cases rebuildFinishes db pair action with
  | none => exact refl_of ColumnsKept db
  | some role =>
    have cleared : ColumnsKept db (db.rebuilt pair role) := columnsKept_setsFlags (setsFlags_rebuilt db pair role) rfl
    dsimp only
    split
    · exact cleared
    · refine trans_of ColumnsKept cleared ?_
      exact columnsKept_setsFlags (setsFlags_markAllMirrored _ _).1 (markAllMirrored_syncQueue _ _)

theorem rebuildQueued_asks {pairId : Nat} {action : SyncAction} {files : List TrackedFile} {db : Db}
    (inside : ∀ file ∈ files, db.ofDrivePair pairId file.id = true) :
    ColumnsKept db (rebuildQueued action files db).2 ∧
      ∀ id ∈ (rebuildQueued action files db).1, AsksFor (rebuildQueued action files db).2 pairId action id := by
  induction files generalizing db with
  | nil => exact ⟨refl_of ColumnsKept db,fun _ member => nomatch member⟩
  | cons file files ih =>
    have kept := columnsKept_insert db file.id action none none
    have others : ∀ other ∈ files,
        (db.createSyncQueueItemDedupWithCreated file.id action none none).2.ofDrivePair pairId other.id = true := by
      intro other member
      rw [kept.files]
      exact inside other (List.mem_cons_of_mem _ member)
    obtain ⟨rest,later⟩ := ih others
    refine ⟨trans_of ColumnsKept kept rest,fun id member => ?_⟩
    rcases List.mem_cons.mp member with rfl | member
    · refine AsksFor.kept ?_ rest
      unfold Db.createSyncQueueItemDedupWithCreated
      cases opened : db.openSyncQueueItem file.id action none with
      | some item =>
        have agrees := List.find?_some opened
        simp only [Bool.and_eq_true,beq_iff_eq] at agrees
        obtain ⟨⟨⟨same,asked⟩,_⟩,_⟩ := agrees
        exact ⟨item,Table.find?_of_mem _ (List.mem_of_find?_eq_some opened),asked,by
          rw [same]; exact inside file List.mem_cons_self⟩
      | none =>
        refine ⟨_,(Table.find?_insert _ _ _ _).trans (if_pos rfl),rfl,?_⟩
        exact inside file List.mem_cons_self
    · exact later id member

/-! Runs of the worker after the assignment. -/

def AllCompleted (db : Db) (ids : List Nat) : Prop :=
  ∀ id ∈ ids, ∃ row, db.syncQueue.find? id = some row ∧ row.status = .completed

/-- A row that a finished rebuild must not find. -/
def Blocks (db : Db) (pairId : Nat) (action : SyncAction) (row : SyncQueueItem) : Prop :=
  row.action = action ∧ db.ofDrivePair pairId row.trackedFileId = true ∧ row.status ≠ .completed

theorem rebuildComplete_iff {db : Db} {pairId : Nat} {action : SyncAction} :
    rebuildComplete db pairId action = true ↔ ∀ row ∈ db.syncQueue.rows, ¬Blocks db pairId action row := by
  have statuses (status : SyncStatus) :
      ([SyncStatus.pending,.inProgress,.failed].contains status) = true ↔ status ≠ .completed := by
    cases status <;> decide
  simp only [rebuildComplete,Db.countSyncQueueItemsForDrivePairAction,beq_iff_eq,List.length_eq_zero_iff,
    List.filter_eq_nil_iff,List.isEmpty_cons,Bool.false_or,Bool.and_eq_true,statuses,Blocks,and_assoc]

section
variable [Blake3]

/-- The item stands for a row of the queue, as it was when the batch was fetched. -/
def fetched (db : Db) (item : SyncQueueItem) : Bool :=
  (db.syncQueue.find? item.id).any (fun row => row.trackedFileId == item.trackedFileId && row.action == item.action)

/-- One call of `process_item`, with the drives and the device as they are then. -/
def step : Disk × Io × SyncQueueItem → World → Option World
  | (disk,io,item), w => if fetched w.db item then some (after (processItem io item) { w with disk }) else none

def machine : Machine World (Disk × Io × SyncQueueItem) := ⟨step⟩

theorem columnsKept_processItem (io : Io) (item : SyncQueueItem) (w : World) :
    ColumnsKept w.db (after (processItem io item) w).db := by
  apply processItem_related
  · intro pair _
    exact columnsKept_operational w.db w.disk pair
  · intro db status message
    exact columnsKept_updateQueueWhere db _ status message
  · intro db fileId
    exact columnsKept_setsFlags (Db.setsFlags_updateTrackedFileMirrorStatus db fileId true) rfl
  · intro db pair _
    exact columnsKept_finalized db pair item.action

omit [Blake3] in
theorem operational_of_rebuilding {pair : DrivePair} {role : DriveRole} (rebuilding : pair.roleState role = .rebuilding)
    (disk : Disk) : pair.operational disk = pair ∧ ∀ db : Db, db.operational disk pair = db := by
  have never : emergencyFailoverDue disk pair = false := by
    by_contra due
    simp only [emergencyFailoverDue,Bool.not_eq_false,Bool.and_eq_true,beq_iff_eq] at due
    obtain ⟨⟨⟨_,active⟩,standby⟩,_⟩ := due
    rcases pair.activeRole.eq_or_opposite role with same | other
    · rw [same,active] at rebuilding
      cases rebuilding
    · rw [other,show pair.activeRole.opposite = pair.standbyRole from rfl,standby] at rebuilding
      cases rebuilding
  unfold DrivePair.operational Db.operational
  rw [never]
  exact ⟨rfl,fun _ => rfl⟩

omit [Blake3] in
theorem roleState_rebuilt (pair : DrivePair) (role : DriveRole) : (pair.rebuilt role).roleState role = .active ∧
    ∀ other, other ≠ role → (pair.rebuilt role).roleState other = pair.roleState other := by
  cases role with
  | primary =>
    refine ⟨rfl,fun other differs => ?_⟩
    cases other with
    | primary => exact absurd rfl differs
    | secondary => rfl
  | secondary =>
    refine ⟨rfl,fun other differs => ?_⟩
    cases other with
    | primary => rfl
    | secondary => exact absurd rfl differs

omit [Blake3] in
theorem rebuiltRole_iff {action : SyncAction} {role : DriveRole} :
    rebuiltRole action = some role ↔ action = rebuildActionForRole role := by
  cases role <;> cases action <;> simp [rebuiltRole,rebuildActionForRole]

omit [Blake3] in
theorem sideState_finalized {db : Db} {pair : DrivePair} {role : DriveRole} (action : SyncAction)
    (found : db.drivePairs.find? pair.id = some pair) (rebuilding : pair.roleState role = .rebuilding) :
    sideState (db.finalized pair action) pair.id role =
      some (if action = rebuildActionForRole role ∧ rebuildComplete db pair.id action = true then .active else .rebuilding) := by
  rw [sideState,find?_finalized action found,Option.map_some]
  cases finishes : rebuildFinishes db pair action with
  | none =>
    rw [if_neg]
    · exact congrArg some rebuilding
    · rintro ⟨restores,complete⟩
      rw [rebuildFinishes,rebuiltRole_iff.mpr restores] at finishes
      simp [Option.filter,rebuilding,complete] at finishes
  | some finished =>
    rw [rebuildFinishes,Option.filter_eq_some_iff,Bool.and_eq_true] at finishes
    obtain ⟨restores,_,complete⟩ := finishes
    rw [Option.map_some,Option.getD_some]
    by_cases same : role = finished
    · subst same
      rw [if_pos ⟨rebuiltRole_iff.mp restores,complete⟩,(roleState_rebuilt pair role).1]
    · rw [if_neg,(roleState_rebuilt pair finished).2 role same,rebuilding]
      rintro ⟨other,_⟩
      rw [other,rebuiltRole_iff.mpr rfl,Option.some.injEq] at restores
      exact same restores

omit [Blake3] in
theorem sideState_operational {db : Db} {id pairId : Nat} {pair : DrivePair} {role : DriveRole}
    (hasPair : db.getDrivePair id = .ok pair) (rebuilding : sideState db pairId role = some .rebuilding) (disk : Disk) :
    sideState (db.operational disk pair) pairId role = some .rebuilding := by
  by_cases same : pairId = pair.id
  · have row := Db.getDrivePair_ok.mp hasPair
    have key : pair.id = id := Table.find?_key row
    have state : pair.roleState role = .rebuilding := by
      rw [sideState,same,key,row,Option.map_some,Option.some.injEq] at rebuilding
      exact rebuilding
    rw [(operational_of_rebuilding state disk).2 db]
    exact rebuilding
  · rw [sideState,find?_operational_other db disk pair same]
    exact rebuilding

omit [Blake3] in
theorem rebuildComplete_finalized (db : Db) (pair : DrivePair) (action other : SyncAction) (pairId : Nat) :
    rebuildComplete (db.finalized pair action) pairId other = rebuildComplete db pairId other := by
  rw [rebuildComplete,rebuildComplete,Db.countSyncQueueItemsForDrivePairAction,Db.countSyncQueueItemsForDrivePairAction,
    finalized_syncQueue]
  simp only [(columnsKept_finalized db pair action).files]

omit [Blake3] in
theorem sideState_leaves {item : SyncQueueItem} {w : World} {next : Db} {pairId : Nat} {role : DriveRole}
    (rebuilding : sideState w.db pairId role = some .rebuilding) (leaves : CallLeaves item w next) :
    sideState next pairId role = some .rebuilding ∨
      (sideState next pairId role = some .active ∧ rebuildComplete next pairId (rebuildActionForRole role) = true) := by
  cases leaves with
  | untouched => exact .inl rebuilding
  | skipped hasFile hasPair skips => exact .inl (sideState_operational hasPair rebuilding w.disk)
  | stranded hasFile hasPair runs => exact .inl (sideState_operational hasPair rebuilding w.disk)
  | failed hasFile hasPair runs message => exact .inl (sideState_operational hasPair rebuilding w.disk)
  | verified hasFile hasPair runs plain => exact .inl (sideState_operational hasPair rebuilding w.disk)
  | @finished file pair hasFile hasPair runs sets =>
    have started : sideState (itemFinished item file (itemStarted item pair w).db) pairId role = some .rebuilding :=
      sideState_operational hasPair rebuilding w.disk
    by_cases same : pairId = pair.id
    · have found := find?_itemStarted item hasPair
      have state : (pair.operational w.disk).roleState role = .rebuilding := by
        rw [sideState,same,← DrivePair.operational_id pair w.disk] at started
        exact Option.some.inj ((congrArg _ found).symm.trans started)
      have kept : (itemFinished item file (itemStarted item pair w).db).drivePairs.find? (pair.operational w.disk).id =
          some (pair.operational w.disk) := found
      have finished := sideState_finalized item.action kept state
      rw [DrivePair.operational_id,← same] at finished
      rw [finished,rebuildComplete_finalized]
      split
      · rename_i ends
        exact .inr ⟨rfl,ends.1 ▸ ends.2⟩
      · exact .inl rfl
    · refine .inl ?_
      rw [sideState,find?_finalized_other _ _ _ (by rw [DrivePair.operational_id]; exact same)]
      exact started

omit [Blake3] in
theorem find?_itemStarted_queue (item : SyncQueueItem) (pair : DrivePair) (w : World) (id : Nat) :
    (itemStarted item pair w).db.syncQueue.find? id = (w.db.syncQueue.find? id).map (fun row =>
      if id = item.id then { w.db.operationalRow w.disk pair row with status := .inProgress,errorMessage := none }
      else w.db.operationalRow w.disk pair row) := by
  rw [itemStarted,Db.find?_updateSyncQueueStatus,find?_operational_queue,Option.map_map]
  rfl

omit [Blake3] in
theorem completed_of_operationalRow {db : Db} {disk : Disk} {pair : DrivePair} {row : SyncQueueItem}
    (completed : (db.operationalRow disk pair row).status = .completed) : row.status = .completed := by
  unfold Db.operationalRow at completed
  split at completed
  · cases completed
  · exact completed

omit [Blake3] in
theorem completed_by_call {item : SyncQueueItem} {w : World} {next : Db} (leaves : CallLeaves item w next) {id : Nat}
    {row later : SyncQueueItem} (was : w.db.syncQueue.find? id = some row) (now : next.syncQueue.find? id = some later)
    (completed : later.status = .completed) : row.status = .completed ∨
      (id = item.id ∧ (item.action.setsMirrored = false ∨ ∃ file pair,
        w.db.getTrackedFile item.trackedFileId = .ok file ∧ w.db.getDrivePair file.drivePairId = .ok pair ∧
        next = (itemFinished item file (itemStarted item pair w).db).finalized (pair.operational w.disk) item.action)) := by
  by_cases own : id = item.id
  · cases leaves with
    | untouched =>
      rw [was] at now
      cases now
      exact .inl completed
    | skipped hasFile hasPair skips =>
      rw [find?_operational_queue,was] at now
      cases now
      exact .inl (completed_of_operationalRow completed)
    | @stranded file pair hasFile hasPair runs =>
      rw [find?_itemStarted_queue,was,Option.map_some,if_pos own] at now
      cases now
      cases completed
    | failed hasFile hasPair runs message =>
      rw [Db.find?_updateSyncQueueStatus,find?_itemStarted_queue,was,Option.map_some,Option.map_some,if_pos own] at now
      cases now
      cases completed
    | verified hasFile hasPair runs plain => exact .inr ⟨own,.inl plain⟩
    | @finished file pair hasFile hasPair runs sets => exact .inr ⟨own,.inr ⟨file,pair,hasFile,hasPair,rfl⟩⟩
  · -- The row of another item changes by a failover at most.
    have others (pair : DrivePair) (status : SyncStatus) (message : Option String) :
        ((itemStarted item pair w).db.updateSyncQueueStatus item.id status message).syncQueue.find? id =
          some (w.db.operationalRow w.disk pair row) := by
      rw [Db.find?_updateSyncQueueStatus,find?_itemStarted_queue,was,Option.map_some,Option.map_some,if_neg own,if_neg own]
    left
    cases leaves with
    | untouched =>
      rw [was] at now
      cases now
      exact completed
    | skipped hasFile hasPair skips =>
      rw [find?_operational_queue,was] at now
      cases now
      exact completed_of_operationalRow completed
    | @stranded file pair hasFile hasPair runs =>
      rw [find?_itemStarted_queue,was,Option.map_some,if_neg own] at now
      cases now
      exact completed_of_operationalRow completed
    | @failed file pair hasFile hasPair runs message =>
      rw [others pair] at now
      cases now
      exact completed_of_operationalRow completed
    | @verified file pair hasFile hasPair runs plain =>
      rw [others pair] at now
      cases now
      exact completed_of_operationalRow completed
    | @finished file pair hasFile hasPair runs sets =>
      rw [finalized_syncQueue] at now
      have same := (others pair .completed none).symm.trans now
      cases same
      exact completed_of_operationalRow completed

/-- The rebuild of a side is under way: it is rebuilding, and the rows of `ids` ask for its items. -/
structure UnderWay (db : Db) (pairId : Nat) (role : DriveRole) (ids : List Nat) : Prop where
  side : sideState db pairId role = some .rebuilding
  asks : ∀ id ∈ ids, AsksFor db pairId (rebuildActionForRole role) id

omit [Blake3] in
theorem allCompleted_of_rebuildComplete {db : Db} {pairId : Nat} {action : SyncAction} {ids : List Nat}
    (asks : ∀ id ∈ ids, AsksFor db pairId action id) (complete : rebuildComplete db pairId action = true) :
    AllCompleted db ids := by
  intro id member
  obtain ⟨row,found,same,inside⟩ := asks id member
  refine ⟨row,found,?_⟩
  by_contra opened
  exact rebuildComplete_iff.mp complete row (Table.mem_of_find? found) ⟨same,inside,opened⟩

theorem UnderWay.step {call : Disk × Io × SyncQueueItem} {w t : World} {pairId : Nat} {role : DriveRole} {ids : List Nat}
    (under_way : UnderWay w.db pairId role ids) (taken : step call w = some t) :
    (∀ id ∈ ids, AsksFor t.db pairId (rebuildActionForRole role) id) ∧
      (UnderWay t.db pairId role ids ∨ AllCompleted t.db ids) := by
  obtain ⟨disk,io,item⟩ := call
  rw [RebuildCompletion.step] at taken
  split at taken
  · cases taken
    have asks : ∀ id ∈ ids, AsksFor (after (processItem io item) { w with disk }).db pairId
        (rebuildActionForRole role) id :=
      fun id member => (under_way.asks id member).kept (columnsKept_processItem io item { w with disk })
    refine ⟨asks,?_⟩
    have before : sideState ({ w with disk } : World).db pairId role = some .rebuilding := under_way.side
    rcases sideState_leaves before (processItem_leaves io item { w with disk }) with side | ⟨_,complete⟩
    · exact .inl ⟨side,asks⟩
    · exact .inr (allCompleted_of_rebuildComplete asks complete)
  · cases taken

theorem underWay_of_reaches {start w : World} {pairId : Nat} {role : DriveRole} {ids : List Nat}
    (under_way : UnderWay start.db pairId role ids)
    (reached : machine.Reaches (fun _ s => ¬AllCompleted s.db ids) start w) (opened : ¬AllCompleted w.db ids) :
    UnderWay w.db pairId role ids := by
  have either : AllCompleted w.db ids ∨ UnderWay w.db pairId role ids := by
    apply reached.invariant (.inr under_way)
    intro call s t holds met taken
    exact ((holds.resolve_left met).step taken).2.symm
  exact either.resolve_left opened

omit [Blake3] in
theorem assigned_underWay {io : Io} {pairId : Nat} {role : DriveRole} {newPath : String} {result : DrivePair × Nat}
    {w start : World} (ok : assignReplacementDrive io pairId role newPath w = .ok result start) :
    UnderWay start.db pairId role (restoreItems pairId role newPath w.db) := by
  obtain ⟨_,tables⟩ := assignReplacementDrive_db ok
  obtain ⟨pair,_,_,row⟩ := assignReplacementDrive_ok ok
  have inside : ∀ file ∈ (assigned pairId role newPath w.db).listTrackedFilesOfPair pairId,
      (assigned pairId role newPath w.db).ofDrivePair pairId file.id = true := by
    intro file listed
    obtain ⟨found,same⟩ := Db.mem_listTrackedFilesOfPair.mp listed
    exact Db.ofDrivePair_iff.mpr ⟨file,found,same⟩
  refine ⟨?_,fun id member => by rw [tables]; exact (rebuildQueued_asks inside).2 id member⟩
  rw [sideState,row,Option.map_some]
  cases role <;> rfl

omit [Blake3] in
theorem sets_of_restores (role : DriveRole) : (rebuildActionForRole role).setsMirrored = true := by
  cases role <;> rfl

omit [Blake3] in
theorem lastItem_finished {item : SyncQueueItem} {w : World} {next : Db} {pairId : Nat} {role : DriveRole} {ids : List Nat}
    (under_way : UnderWay w.db pairId role ids) (opened : ¬AllCompleted w.db ids) (isFetched : fetched w.db item = true)
    (leaves : CallLeaves item w next) (completed : AllCompleted next ids) :
    item.id ∈ ids ∧ (∀ id, id ≠ item.id → next.syncQueue.find? id = w.db.syncQueue.find? id) ∧
      sideState next pairId role =
        some (if rebuildComplete next pairId (rebuildActionForRole role) = true then .active else .rebuilding) := by
  unfold AllCompleted at opened
  push Not at opened
  obtain ⟨id,member,still⟩ := opened
  obtain ⟨row,was,asked,inside⟩ := under_way.asks id member
  obtain ⟨later,now,done⟩ := completed id member
  rcases completed_by_call leaves was now done with before | ⟨rfl,plain | ⟨file,pair,hasFile,hasPair,rfl⟩⟩
  · exact absurd before (still row was)
  · simp only [fetched,was,Option.any_some,Bool.and_eq_true,beq_iff_eq] at isFetched
    rw [← isFetched.2,asked,sets_of_restores] at plain
    cases plain
  · simp only [fetched,was,Option.any_some,Bool.and_eq_true,beq_iff_eq] at isFetched
    obtain ⟨other,found,same⟩ := Db.ofDrivePair_iff.mp inside
    rw [isFetched.1,Db.getTrackedFile_ok.mp hasFile,Option.some.injEq] at found
    subst found
    have row_of_pair := Db.getDrivePair_ok.mp hasPair
    have key : pair.id = pairId := (Table.find?_key row_of_pair).trans same
    have state : pair.roleState role = .rebuilding := by
      have side := under_way.side
      rw [sideState,← same,row_of_pair,Option.map_some,Option.some.injEq] at side
      exact side
    obtain ⟨steady,untouched⟩ := operational_of_rebuilding state w.disk
    refine ⟨member,fun other differs => ?_,?_⟩
    · rw [finalized_syncQueue]
      have started : (itemFinished item file (itemStarted item pair w).db).syncQueue.find? other =
          ((w.db.updateSyncQueueStatus item.id .inProgress none).updateSyncQueueStatus item.id .completed
            none).syncQueue.find? other := by
        rw [itemStarted,untouched w.db]
        rfl
      rw [started,Db.find?_updateSyncQueueStatus,Db.find?_updateSyncQueueStatus,Option.map_map]
      cases w.db.syncQueue.find? other <;> simp [differs]
    · have kept : (itemFinished item file (itemStarted item pair w).db).drivePairs.find? pair.id = some pair := by
        have found := find?_itemStarted item hasPair
        rw [steady] at found
        exact found
      have finished := sideState_finalized item.action kept state
      rw [steady,← key,finished,rebuildComplete_finalized]
      simp only [← isFetched.2,asked,true_and]

/-- A side whose replacement was assigned is active when the last of its restore items is completed,
exactly if there was one and no other row of that action is open or failed for a file of the pair. -/
theorem rebuild_finalised_iff {io : Io} {pairId : Nat} {role : DriveRole} {newPath : String} {result : DrivePair × Nat}
    {w start : World} (replaced : assignReplacementDrive io pairId role newPath w = .ok result start) :
    let ids := restoreItems pairId role newPath w.db
    (ids = [] → sideState start.db pairId role = some .rebuilding) ∧
    ∀ before t call, machine.Reaches (fun _ s => ¬AllCompleted s.db ids) start before → ¬AllCompleted before.db ids →
      step call before = some t → AllCompleted t.db ids →
      (sideState t.db pairId role = some .active ↔
        ∀ row ∈ before.db.syncQueue.rows, row.id ∉ ids → ¬Blocks before.db pairId (rebuildActionForRole role) row) := by
  intro ids
  have under_way := assigned_underWay replaced
  refine ⟨fun _ => under_way.side,?_⟩
  rintro before t ⟨disk,io,item⟩ reached opened taken completed
  have still := underWay_of_reaches under_way reached opened
  have now : UnderWay ({ before with disk } : World).db pairId role ids := still
  rw [step] at taken
  split at taken
  · rename_i isFetched
    cases taken
    have leaves := processItem_leaves io item { before with disk }
    have kept := columnsKept_processItem io item { before with disk }
    obtain ⟨member,others,side⟩ := lastItem_finished now opened isFetched leaves completed
    have ends : sideState (after (processItem io item) { before with disk }).db pairId role = some .active ↔
        rebuildComplete (after (processItem io item) { before with disk }).db pairId (rebuildActionForRole role) =
          true := by
      rw [side]
      split
      · rename_i complete
        exact iff_of_true rfl complete
      · rename_i blocked
        exact iff_of_false (by simp) blocked
    rw [ends,rebuildComplete_iff]
    constructor
    · intro none_blocks row listed outside blocks
      have differs : row.id ≠ item.id := fun same => outside (same ▸ member)
      have found := (others row.id differs).trans (Table.find?_of_mem _ listed)
      exact none_blocks row (Table.mem_of_find? found) ⟨blocks.1,by rw [kept.files]; exact blocks.2.1,blocks.2.2⟩
    · intro none_blocks row listed blocks
      have found := Table.find?_of_mem _ listed
      by_cases inside : row.id ∈ ids
      · obtain ⟨same,there,done⟩ := completed row.id inside
        obtain rfl : same = row := Option.some.inj (there.symm.trans found)
        exact blocks.2.2 done
      · have differs : row.id ≠ item.id := fun same => inside (same ▸ member)
        have present := (others row.id differs).symm.trans found
        exact none_blocks row (Table.mem_of_find? present) inside
          ⟨blocks.1,by rw [← kept.files]; exact blocks.2.1,blocks.2.2⟩
  · cases taken

end

/-! A pair whose primary side has failed, without a file and with one. -/

def failedPair : DrivePair := { corruptedPair with primaryState := .failed,activeRole := .secondary }

def failedWorld (files : Table TrackedFile) : World where
  db := { Db.empty with
    drivePairs := Table.empty.insert (fun id => { failedPair with id }) (fun _ => rfl)
    trackedFiles := files }
  disk := ⟨fun _ => none,fun _ => true⟩

def oneFile : Table TrackedFile := Table.empty.insert (fun id => { corruptedFile with id }) key_corruptedFile

theorem rebuild_finalised_iff_failedWorld :
    letI := sampleBlake3
    ∃ result start, assignReplacementDrive Io.healthy 1 .primary "/replacement" (failedWorld oneFile) = .ok result start ∧
      let ids := restoreItems 1 .primary "/replacement" (failedWorld oneFile).db
      (ids = [] → sideState start.db 1 .primary = some .rebuilding) ∧
      ∀ before t call, machine.Reaches (fun _ s => ¬AllCompleted s.db ids) start before → ¬AllCompleted before.db ids →
        step call before = some t → AllCompleted t.db ids →
        (sideState t.db 1 .primary = some .active ↔
          ∀ row ∈ before.db.syncQueue.rows, row.id ∉ ids → ¬Blocks before.db 1 .restoreMaster row) := by
  let _ := sampleBlake3
  obtain ⟨result,start,ran⟩ : ∃ result start,
      assignReplacementDrive Io.healthy 1 .primary "/replacement" (failedWorld oneFile) = .ok result start := ⟨_,_,rfl⟩
  exact ⟨result,start,ran,rebuild_finalised_iff ran⟩

/-- The replaced side of a pair without files stays rebuilding. -/
theorem rebuild_without_files_stays :
    ¬ ∀ (_ : Blake3) (io : Io) (pairId : Nat) (role : DriveRole) (newPath : String) (result : DrivePair × Nat)
      (w start t : World), assignReplacementDrive io pairId role newPath w = .ok result start →
      machine.Reaches (fun _ s => ¬AllCompleted s.db (restoreItems pairId role newPath w.db)) start t →
      AllCompleted t.db (restoreItems pairId role newPath w.db) → sideState t.db pairId role = some .active := by
  intro active
  let _ := sampleBlake3
  obtain ⟨result,start,ran⟩ : ∃ result start,
      assignReplacementDrive Io.healthy 1 .primary "/replacement" (failedWorld Table.empty) = .ok result start := ⟨_,_,rfl⟩
  have done : AllCompleted start.db (restoreItems 1 .primary "/replacement" (failedWorld Table.empty).db) :=
    fun id member => nomatch member
  have now := active sampleBlake3 Io.healthy 1 .primary "/replacement" result
    (failedWorld Table.empty) start start ran .start done
  rw [(assigned_underWay ran).side] at now
  cases now

end BitProtector.RebuildCompletion
