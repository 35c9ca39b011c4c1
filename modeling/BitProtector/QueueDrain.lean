import BitProtector.ItemStatus
import BitProtector.DriveLifecycle
import BitProtector.ProcessingLock

/-! One drain of the queue: pass after pass over the first pending items, until none is
left or all of a pass wait for the user. What the device answers, what becomes of the
disks between two calls and how the threads of a pass interleave are an environment's. -/
namespace BitProtector

namespace Db

/-- The pair whose drives an item is about. -/
def pairOf? (db : Db) (item : SyncQueueItem) : Option DrivePair :=
  (db.trackedFiles.find? item.trackedFileId).bind (fun file => db.drivePairs.find? file.drivePairId)

/-- A worker runs the action of the item. -/
def movable (db : Db) (item : SyncQueueItem) : Bool :=
  item.action != .userActionRequired && (db.pairOf? item).any (fun pair => !pair.isQuiescing)

/-- A worker takes the item up and leaves it as it was. -/
def stuck (db : Db) (item : SyncQueueItem) : Bool :=
  item.action != .userActionRequired && !(db.pairOf? item).any (fun pair => !pair.isQuiescing)

end Db

/-- A side is failed or quiescing, so that no failover of the pair is due. -/
def DrivePair.grounded (pair : DrivePair) : Bool :=
  [DriveRole.primary,.secondary].any (fun role => pair.roleState role == .failed || pair.roleState role == .quiescing)

namespace QueueDrain
open ProcessingLock

def drainPageSize : Nat := 1000

/-- A way to run the calls of a page: each pair has a thread that takes its items in order. -/
structure GroupOrder (items : List (Nat × SyncQueueItem)) where
  calls : List (Nat × SyncQueueItem)
  keepsOrder : ∀ pairId, calls.filter (·.1 == pairId) = items.filter (·.1 == pairId)

/-- By pass, and within a pass by call. -/
structure Environment where
  pid : Nat
  processIsAlive : Nat → Bool
  startedAt : Nat
  now : Nat → Nat → Nat
  io : Nat → Nat → Io
  drives : Nat → Nat → Disk → Disk
  order : Nat → (items : List (Nat × SyncQueueItem)) → GroupOrder items

/-- `Instant::now() >= dl`. -/
def expired (stopBy : Option Nat) (now : Nat) : Bool := stopBy.any (fun deadline => deadline ≤ now)

section
variable [Blake3] (env : Environment) (stopBy : Option Nat)

/-- The calls of one pass from call `n` on, with the pairs whose threads have stopped; the
count is of the calls made. An error of `process_item` is logged and no more. -/
def drainCalls (pass : Nat) : Nat → List Nat → List (Nat × SyncQueueItem) → World → Nat × World
  | _, _, [], w => (0,w)
  | n, stopped, (pairId,item)::rest, w =>
    if stopped.contains pairId || item.action == .userActionRequired then drainCalls pass (n + 1) stopped rest w
    else if w.db.syncSettings.queuePaused || expired stopBy (env.now pass n) then
      drainCalls pass (n + 1) (pairId::stopped) rest w
    else
      let called := Effect.after (processItem (env.io pass n) item) { w with disk := env.drives pass n w.disk }
      let (count,ended) := drainCalls pass (n + 1) stopped rest called
      (count + 1,ended)

/-- The `loop`, for as many passes as there is fuel; `none` when there is none left. -/
def drainLoop : Nat → Nat → Nat → World → Option (Nat × World)
  | 0, _, _, _ => none
  | fuel + 1, pass, processed, w =>
    let now := env.now pass 0
    let w := { w with db := w.db.heartbeatSyncProcessingLock now }
    if w.db.syncSettings.queuePaused || expired stopBy now then some (processed,w)
    else
      let items := w.db.listPendingSyncQueueWithDrivePair drainPageSize
      if items.isEmpty then some (processed,w)
      else
        let allSkipped := items.all (fun entry => entry.2.action == .userActionRequired)
        let (count,ended) := drainCalls env stopBy pass 0 [] (env.order pass items).calls w
        if allSkipped then some (processed + count,ended) else drainLoop fuel (pass + 1) (processed + count) ended

/-- Whether this invocation gets the lock. -/
def acquires (w : World) : Bool :=
  (w.db.tryAcquireSyncProcessingLock env.startedAt env.pid env.processIsAlive processingLockStaleAfterSecs).1

/-- The world with the lock held and the stranded items pending again. -/
def requeued (w : World) : World :=
  { w with db := (w.db.tryAcquireSyncProcessingLock env.startedAt env.pid env.processIsAlive
      processingLockStaleAfterSecs).2.requeueInProgressSyncQueue }

def processAllPending (fuel : Nat) (w : World) : Option (Nat × World) :=
  if acquires env w then
    (drainLoop env stopBy fuel 0 0 (requeued env w)).map fun ended =>
      (ended.1,{ ended.2 with db := ended.2.db.releaseSyncProcessingLock })
  else some (0,w)

end

/-! What a drain leaves alone: which pair a file is of, and which pairs are quiescing. -/

structure DrainKept (db next : Db) : Prop where
  files : ∀ id, (next.trackedFiles.find? id).map TrackedFile.drivePairId =
    (db.trackedFiles.find? id).map TrackedFile.drivePairId
  pairs : ∀ id, (next.drivePairs.find? id).map DrivePair.isQuiescing =
    (db.drivePairs.find? id).map DrivePair.isQuiescing
  grounded : ∀ id pair later, db.drivePairs.find? id = some pair → next.drivePairs.find? id = some later →
    pair.grounded = true → later.grounded = true
  paused : next.syncSettings.queuePaused = db.syncSettings.queuePaused

theorem drainKept_of_tables {db next : Db} (files : next.trackedFiles = db.trackedFiles)
    (pairs : next.drivePairs = db.drivePairs)
    (paused : next.syncSettings.queuePaused = db.syncSettings.queuePaused) : DrainKept db next where
  files id := by rw [files]
  pairs id := by rw [pairs]
  grounded id pair later found after ground := by
    rw [pairs,found] at after
    cases after
    exact ground
  paused := paused

instance : IsPreorder Db DrainKept where
  refl db := drainKept_of_tables rfl rfl rfl
  trans db next last first second := by
    refine ⟨fun id => (second.files id).trans (first.files id),fun id => (second.pairs id).trans (first.pairs id),?_,
      second.paused.trans first.paused⟩
    intro id pair later found after ground
    have same := first.pairs id
    cases middle : next.drivePairs.find? id with
    | none => simp [found,middle] at same
    | some between => exact second.grounded id between later middle after (first.grounded id pair between found middle ground)

theorem drainKept_setsFlags {flag : TrackedFile → Bool} {db next : Db} (flags : Db.SetsFlags flag db next)
    (pairs : next.drivePairs = db.drivePairs)
    (paused : next.syncSettings.queuePaused = db.syncSettings.queuePaused) : DrainKept db next where
  files id := by
    rw [flags id,Option.map_map]
    rfl
  pairs id := by rw [pairs]
  grounded id pair later found after ground := by
    rw [pairs,found] at after
    cases after
    exact ground
  paused := paused

theorem drainKept_updateDrivePairRuntime {db : Db} {pair : DrivePair} {pp sp ps ss role}
    (found : db.drivePairs.find? pair.id = some pair)
    (quiet : (pair.withRuntime pp sp ps ss role).isQuiescing = pair.isQuiescing)
    (ground : pair.grounded = true → (pair.withRuntime pp sp ps ss role).grounded = true) :
    DrainKept db (db.updateDrivePairRuntime pair.id pp sp ps ss role) := by
  have row (id : Nat) : (db.updateDrivePairRuntime pair.id pp sp ps ss role).drivePairs.find? id =
      (db.drivePairs.find? id).map (fun other => if other = pair then pair.withRuntime pp sp ps ss role else other) := by
    rw [Db.updateDrivePairRuntime,Table.find?_updateWhere]
    cases there : db.drivePairs.find? id with
    | none => rfl
    | some other =>
      have key : other.id = id := Table.find?_key there
      by_cases same : other = pair
      · simp [same]
      · have apart : other.id ≠ pair.id := by
          intro equal
          rw [← key,equal,found] at there
          exact same (Option.some.inj there).symm
        simp [same,apart]
  refine ⟨fun _ => rfl,fun id => ?_,fun id other later there after stays => ?_,rfl⟩
  · rw [row,Option.map_map]
    congr 1
    ext other : 1
    by_cases same : other = pair
    · simp only [Function.comp_apply,same,if_true,quiet]
    · simp only [Function.comp_apply,same,if_false]
  · rw [row,there,Option.map_some,Option.some.injEq] at after
    subst after
    split
    · rename_i same
      exact ground (same ▸ stays)
    · exact stays

theorem not_grounded_of_due {disk : Disk} {pair : DrivePair} (due : emergencyFailoverDue disk pair = true) :
    pair.roleState .primary = .active ∧ pair.roleState .secondary = .active := by
  simp only [emergencyFailoverDue,Bool.and_eq_true,beq_iff_eq] at due
  obtain ⟨⟨⟨_,active⟩,standby⟩,_⟩ := due
  unfold DrivePair.standbyRole at standby
  cases role : pair.activeRole with
  | primary =>
    rw [role] at active standby
    exact ⟨active,standby⟩
  | secondary =>
    rw [role] at active standby
    exact ⟨standby,active⟩

theorem drainKept_operational {db : Db} {pair : DrivePair} (found : db.drivePairs.find? pair.id = some pair) (disk : Disk) :
    DrainKept db (db.operational disk pair) := by
  unfold Db.operational
  split
  · rename_i due
    obtain ⟨primary,secondary⟩ := not_grounded_of_due due
    have updated : DrainKept db (db.updateDrivePairRuntime pair.id none none (forRole pair.activeRole .primary .failed)
        (forRole pair.activeRole .secondary .failed) (some pair.standbyRole)) := by
      apply drainKept_updateDrivePairRuntime found
      · unfold DrivePair.roleState at primary secondary
        cases role : pair.activeRole <;>
          simp [DrivePair.isQuiescing,DrivePair.roleState,DrivePair.withRuntime,forRole,primary,secondary]
      · intro ground
        simp [DrivePair.grounded,primary,secondary] at ground
    refine trans_of DrainKept updated ?_
    exact drainKept_setsFlags (Db.setsFlags_markDrivePairUnmirrored _ pair.id) rfl rfl
  · exact refl_of DrainKept db

theorem drainKept_markAllMirrored (db : Db) (files : List TrackedFile) : DrainKept db (markAllMirrored db files) := by
  induction files generalizing db with
  | nil => exact refl_of DrainKept db
  | cons file files ih =>
    refine trans_of DrainKept ?_ (ih (db.updateTrackedFileMirrorStatus file.id true))
    exact drainKept_setsFlags (Db.setsFlags_updateTrackedFileMirrorStatus db file.id true) rfl rfl

theorem drainKept_rebuilt {db : Db} {pair : DrivePair} {role : DriveRole}
    (found : db.drivePairs.find? pair.id = some pair) (rebuilding : pair.roleState role = .rebuilding) :
    DrainKept db (db.rebuilt pair role) := by
  have updated : DrainKept db (db.updateDrivePairRuntime pair.id none none (forRole role .primary .active)
      (forRole role .secondary .active) (forRole role .primary .primary)) := by
    apply drainKept_updateDrivePairRuntime found
    · unfold DrivePair.roleState at rebuilding
      cases role <;> simp [DrivePair.isQuiescing,DrivePair.roleState,DrivePair.withRuntime,forRole,rebuilding] <;> rfl
    · unfold DrivePair.roleState at rebuilding
      cases role <;> simp [DrivePair.grounded,DrivePair.roleState,DrivePair.withRuntime,forRole,rebuilding]
  refine trans_of DrainKept updated ?_
  exact drainKept_setsFlags (Db.setsFlags_markDrivePairUnmirrored _ pair.id) rfl rfl

theorem rebuildFinishes_some {db : Db} {pair : DrivePair} {action : SyncAction} {role : DriveRole}
    (finishes : rebuildFinishes db pair action = some role) :
    rebuiltRole action = some role ∧ pair.roleState role = .rebuilding ∧ rebuildComplete db pair.id action = true := by
  obtain ⟨restores,conditions⟩ := Option.filter_eq_some_iff.mp finishes
  rw [Bool.and_eq_true,beq_iff_eq] at conditions
  exact ⟨restores,conditions⟩

theorem drainKept_finalized {db : Db} {pair : DrivePair} (found : db.drivePairs.find? pair.id = some pair)
    (action : SyncAction) : DrainKept db (db.finalized pair action) := by
  unfold Db.finalized
  cases finishes : rebuildFinishes db pair action with
  | none => exact refl_of DrainKept db
  | some role =>
    obtain ⟨_,rebuilding,_⟩ := rebuildFinishes_some finishes
    dsimp only
    split
    · exact drainKept_rebuilt found rebuilding
    · exact trans_of DrainKept (drainKept_rebuilt found rebuilding) (drainKept_markAllMirrored _ _)

theorem pairOf?_quiescing {db next : Db} (kept : DrainKept db next) (item : SyncQueueItem) :
    (next.pairOf? item).map DrivePair.isQuiescing = (db.pairOf? item).map DrivePair.isQuiescing := by
  have file := kept.files item.trackedFileId
  unfold Db.pairOf?
  cases before : db.trackedFiles.find? item.trackedFileId with
  | none =>
    rw [before,Option.map_none,Option.map_eq_none_iff] at file
    rw [file]
    rfl
  | some old =>
    rw [before,Option.map_some,Option.map_eq_some_iff] at file
    obtain ⟨new,now,same⟩ := file
    rw [now,Option.bind_some,Option.bind_some,same]
    exact kept.pairs old.drivePairId

theorem movable_eq {db next : Db} (kept : DrainKept db next) (item : SyncQueueItem) : next.movable item = db.movable item := by
  have same := pairOf?_quiescing kept item
  unfold Db.movable
  congr 1
  cases before : db.pairOf? item <;> cases after : next.pairOf? item <;> simp_all

theorem stuck_eq {db next : Db} (kept : DrainKept db next) (item : SyncQueueItem) : next.stuck item = db.stuck item := by
  have same := pairOf?_quiescing kept item
  unfold Db.stuck
  congr 2
  cases before : db.pairOf? item <;> cases after : next.pairOf? item <;> simp_all

theorem queueDrivePairId_eq {db next : Db} (kept : DrainKept db next) : next.queueDrivePairId = db.queueDrivePairId := by
  ext item
  rw [Db.queueDrivePairId,Db.queueDrivePairId,kept.files]

/-! One call. -/

section
variable [Blake3]

theorem processItem_drainKept (io : Io) (item : SyncQueueItem) (w : World) :
    DrainKept w.db (Effect.after (processItem io item) w).db := by
  apply processItem_related
  · intro pair found
    exact drainKept_operational found w.disk
  · intro db status message
    exact drainKept_of_tables rfl rfl rfl
  · intro db fileId
    exact drainKept_setsFlags (Db.setsFlags_updateTrackedFileMirrorStatus db fileId true) rfl rfl
  · intro db pair found
    exact drainKept_finalized found item.action

omit [Blake3] in
theorem pairOf?_eq {db : Db} {item : SyncQueueItem} {file : TrackedFile} {pair : DrivePair}
    (hasFile : db.getTrackedFile item.trackedFileId = .ok file) (hasPair : db.getDrivePair file.drivePairId = .ok pair) :
    db.pairOf? item = some pair := by
  rw [Db.pairOf?,Db.getTrackedFile_ok.mp hasFile,Option.bind_some,Db.getDrivePair_ok.mp hasPair]

omit [Blake3] in
theorem pairOf?_noFile {db : Db} {item : SyncQueueItem} {message : String}
    (noFile : db.getTrackedFile item.trackedFileId = .error message) : db.pairOf? item = none := by
  unfold Db.pairOf?
  cases found : db.trackedFiles.find? item.trackedFileId with
  | none => rfl
  | some file =>
    rw [Db.getTrackedFile_ok.mpr found] at noFile
    cases noFile

omit [Blake3] in
theorem pairOf?_noPair {db : Db} {item : SyncQueueItem} {file : TrackedFile} {message : String}
    (hasFile : db.getTrackedFile item.trackedFileId = .ok file)
    (noPair : db.getDrivePair file.drivePairId = .error message) : db.pairOf? item = none := by
  rw [Db.pairOf?,Db.getTrackedFile_ok.mp hasFile,Option.bind_some]
  cases found : db.drivePairs.find? file.drivePairId with
  | none => rfl
  | some pair =>
    rw [Db.getDrivePair_ok.mpr found] at noPair
    cases noPair

/-- What a call for `item` makes of the row of `id`: it takes its own item out of the pending
ones if it runs the action, and the rows of a pair that it fails over. -/
structure RowFate (w : World) (item : SyncQueueItem) (id : Nat) (change : SyncQueueItem → SyncQueueItem) : Prop where
  shrinks : ∀ row, change row = row ∨ (change row).status ≠ .pending
  takes : w.db.movable item = true → id = item.id → ∀ row, (change row).status ≠ .pending
  spares : (w.db.movable item = true → id ≠ item.id) → ∀ row,
    (∀ pair, w.db.pairOf? row = some pair → emergencyFailoverDue w.disk pair = false) → change row = row

omit [Blake3] in
theorem operationalRow_cases (db : Db) (disk : Disk) (pair : DrivePair) (row : SyncQueueItem) :
    db.operationalRow disk pair row = row ∨ (db.operationalRow disk pair row).status ≠ .pending := by
  unfold Db.operationalRow
  split
  · exact .inr (by simp)
  · exact .inl rfl

omit [Blake3] in
theorem operationalRow_spared {db : Db} {disk : Disk} {pair : DrivePair} {row : SyncQueueItem}
    (found : db.drivePairs.find? pair.id = some pair)
    (spared : ∀ other, db.pairOf? row = some other → emergencyFailoverDue disk other = false) :
    db.operationalRow disk pair row = row := by
  unfold Db.operationalRow
  cases inside : db.ofDrivePair pair.id row.trackedFileId with
  | false => simp
  | true =>
    obtain ⟨file,there,same⟩ := Db.ofDrivePair_iff.mp inside
    have belongs : db.pairOf? row = some pair := by rw [Db.pairOf?,there,Option.bind_some,same,found]
    rw [spared pair belongs]
    simp

omit [Blake3] in
theorem movable_eq_not_skipped {item : SyncQueueItem} {file : TrackedFile} {pair : DrivePair} {w : World}
    (hasFile : w.db.getTrackedFile item.trackedFileId = .ok file) (hasPair : w.db.getDrivePair file.drivePairId = .ok pair) :
    w.db.movable item = !itemSkipped item pair w.disk := by
  have row := Db.getDrivePair_ok.mp hasPair
  have key : pair.id = file.drivePairId := Table.find?_key row
  have kept := (drainKept_operational (by rw [key]; exact row) w.disk).pairs pair.id
  rw [key,find?_operational hasPair w.disk,row,Option.map_some,Option.map_some,Option.some.injEq] at kept
  rw [itemSkipped,kept,Db.movable,pairOf?_eq hasFile hasPair,Option.any_some,Bool.not_or,Bool.and_comm]
  rfl

theorem endStatus_ne_pending (io : Io) (item : SyncQueueItem) (pair : DrivePair) (file : TrackedFile) (w : World) :
    (endStatus io item pair file w).1 ≠ .pending := by
  unfold endStatus
  split <;> simp

theorem processItem_row (io : Io) (item : SyncQueueItem) (w : World) (id : Nat) :
    ∃ change, (Effect.after (processItem io item) w).db.syncQueue.find? id = (w.db.syncQueue.find? id).map change ∧
      RowFate w item id change := by
  have untouched (same : Effect.after (processItem io item) w = w) (still : w.db.movable item = false) :
      ∃ change, (Effect.after (processItem io item) w).db.syncQueue.find? id = (w.db.syncQueue.find? id).map change ∧
        RowFate w item id change := by
    refine ⟨fun row => row,by rw [same]; exact Option.map_id'.symm,fun _ => .inl rfl,fun moves => ?_,fun _ _ _ => rfl⟩
    rw [still] at moves
    cases moves
  cases hasFile : w.db.getTrackedFile item.trackedFileId with
  | error message =>
    apply untouched (Effect.after_of_error (processItem_noFile hasFile io))
    rw [Db.movable,pairOf?_noFile hasFile]
    simp
  | ok file =>
    cases hasPair : w.db.getDrivePair file.drivePairId with
    | error message =>
      apply untouched (Effect.after_of_error (processItem_noPair hasFile hasPair io))
      rw [Db.movable,pairOf?_noPair hasFile hasPair]
      simp
    | ok pair =>
      have found : w.db.drivePairs.find? pair.id = some pair := by
        have row := Db.getDrivePair_ok.mp hasPair
        have key : pair.id = file.drivePairId := Table.find?_key row
        rw [key]
        exact row
      cases skipped : itemSkipped item pair w.disk with
      | true =>
        rw [Effect.after_of_ok (processItem_skipped hasFile hasPair skipped)]
        refine ⟨_,find?_operational_queue _ _ _ _,operationalRow_cases _ _ _,fun moves => ?_,
          fun _ row spared => operationalRow_spared found spared⟩
        rw [movable_eq_not_skipped hasFile hasPair,skipped] at moves
        cases moves
      | false =>
        have after := processItem_find? hasFile hasPair skipped io id
        dsimp only at after
        rw [find?_operational_queue,Option.map_map] at after
        have ended := endStatus_ne_pending io item (pair.operational w.disk) file (itemStarted item pair w)
        refine ⟨_,after,fun row => ?_,fun _ same row => ?_,fun differs row spared => ?_⟩
        · dsimp only [Function.comp_apply]
          split
          · exact .inr ended
          · exact operationalRow_cases _ _ _ row
        · simpa only [Function.comp_apply,same,if_true] using ended
        · have moves : w.db.movable item = true := by rw [movable_eq_not_skipped hasFile hasPair,skipped]; rfl
          rw [Function.comp_apply,if_neg (differs moves)]
          exact operationalRow_spared found spared

/-! Passes. -/

/-- No drive is gone when a call looks at it. -/
def Environment.Steady (env : Environment) : Prop :=
  ∀ pass n disk pair, emergencyFailoverDue (env.drives pass n disk) pair = false

/-- No failover takes the row. -/
def Spared (env : Environment) (db : Db) (row : SyncQueueItem) : Prop :=
  env.Steady ∨ ∀ pair, db.pairOf? row = some pair → pair.grounded = true

omit [Blake3] in
theorem spared_kept {env : Environment} {db next : Db} {row : SyncQueueItem} (kept : DrainKept db next)
    (spared : Spared env db row) : Spared env next row := by
  rcases spared with steady | ground
  · exact .inl steady
  · refine .inr fun later found => ?_
    obtain ⟨file,now,there⟩ := Option.bind_eq_some_iff.mp found
    have same := kept.files row.trackedFileId
    rw [now,Option.map_some,eq_comm,Option.map_eq_some_iff] at same
    obtain ⟨old,before,same⟩ := same
    have quiet := kept.pairs file.drivePairId
    rw [there,Option.map_some,eq_comm,Option.map_eq_some_iff] at quiet
    obtain ⟨pair,stood,_⟩ := quiet
    refine kept.grounded _ pair later stood there (ground pair ?_)
    rw [Db.pairOf?,before,Option.bind_some,same]
    exact stood

omit [Blake3] in
theorem not_due_of_spared {env : Environment} {db : Db} {row : SyncQueueItem} (spared : Spared env db row)
    (pass n : Nat) (disk : Disk) (pair : DrivePair) (found : db.pairOf? row = some pair) :
    emergencyFailoverDue (env.drives pass n disk) pair = false := by
  rcases spared with steady | ground
  · exact steady pass n disk pair
  · by_contra due
    obtain ⟨primary,secondary⟩ := not_grounded_of_due (Bool.eq_true_of_not_eq_false due)
    have stays := ground pair found
    simp [DrivePair.grounded,primary,secondary] at stays

/-- What a call, or a pass, does to the pending rows. -/
structure PassEffect (env : Environment) (w t : World) (calls : List SyncQueueItem) : Prop where
  kept : DrainKept w.db t.db
  shrinks : t.db.pendingSyncQueue ⊆ w.db.pendingSyncQueue
  takes : ∀ item ∈ calls, w.db.movable item = true → ∀ row ∈ t.db.pendingSyncQueue, row.id ≠ item.id
  spares : ∀ row ∈ w.db.pendingSyncQueue, Spared env w.db row →
    (∀ item ∈ calls, w.db.movable item = true → row.id ≠ item.id) → row ∈ t.db.pendingSyncQueue

theorem passEffect_call (env : Environment) (pass n : Nat) (item : SyncQueueItem) (w : World) :
    PassEffect env w (Effect.after (processItem (env.io pass n) item) { w with disk := env.drives pass n w.disk }) [item] := by
  have fate := processItem_row (env.io pass n) item { w with disk := env.drives pass n w.disk }
  refine ⟨processItem_drainKept _ item { w with disk := env.drives pass n w.disk },?_,?_,?_⟩
  · intro row listed
    obtain ⟨found,pending⟩ := Db.mem_pendingSyncQueue.mp listed
    obtain ⟨change,after,fate⟩ := fate row.id
    rw [found,eq_comm,Option.map_eq_some_iff] at after
    obtain ⟨old,there,changed⟩ := after
    rcases fate.shrinks old with same | left
    · obtain rfl : old = row := same.symm.trans changed
      exact Db.mem_pendingSyncQueue.mpr ⟨there,pending⟩
    · rw [changed] at left
      exact absurd pending left
  · intro called member moves row listed same
    obtain rfl := List.mem_singleton.mp member
    obtain ⟨found,pending⟩ := Db.mem_pendingSyncQueue.mp listed
    obtain ⟨change,after,fate⟩ := fate row.id
    rw [found,eq_comm,Option.map_eq_some_iff] at after
    obtain ⟨old,_,changed⟩ := after
    have left := fate.takes moves same old
    rw [changed] at left
    exact left pending
  · intro row listed spared differs
    obtain ⟨found,pending⟩ := Db.mem_pendingSyncQueue.mp listed
    obtain ⟨change,after,fate⟩ := fate row.id
    have stays := fate.spares (fun moves => differs item (List.mem_singleton_self _) moves) row
      (not_due_of_spared spared pass n w.disk)
    rw [found,Option.map_some,stays] at after
    exact Db.mem_pendingSyncQueue.mpr ⟨after,pending⟩

omit [Blake3] in
theorem passEffect_nil (env : Environment) (w : World) : PassEffect env w w [] where
  kept := refl_of DrainKept _
  shrinks := List.Subset.refl _
  takes _ member := nomatch member
  spares _ listed _ _ := listed

omit [Blake3] in
theorem PassEffect.append {env : Environment} {w t u : World} {first second : List SyncQueueItem}
    (head : PassEffect env w t first) (tail : PassEffect env t u second) : PassEffect env w u (first ++ second) := by
  refine ⟨trans_of DrainKept head.kept tail.kept,fun row listed => head.shrinks (tail.shrinks listed),?_,?_⟩
  · intro item member moves row listed
    rcases List.mem_append.mp member with early | late
    · exact head.takes item early moves row (tail.shrinks listed)
    · exact tail.takes item late (by rw [movable_eq head.kept]; exact moves) row listed
  · intro row listed spared differs
    have stays := head.spares row listed spared fun item early => differs item (List.mem_append_left _ early)
    refine tail.spares row stays (spared_kept head.kept spared) fun item late moves => ?_
    rw [movable_eq head.kept] at moves
    exact differs item (List.mem_append_right _ late) moves

omit [Blake3] in
theorem PassEffect.skip {env : Environment} {w t : World} {calls : List SyncQueueItem} {item : SyncQueueItem}
    (effect : PassEffect env w t calls) (waits : item.action = .userActionRequired) : PassEffect env w t (item::calls) := by
  have still : w.db.movable item = false := by simp [Db.movable,waits]
  refine ⟨effect.kept,effect.shrinks,?_,?_⟩
  · intro called member moves
    rcases List.mem_cons.mp member with rfl | later
    · rw [still] at moves
      cases moves
    · exact effect.takes called later moves
  · intro row listed spared differs
    exact effect.spares row listed spared fun called later => differs called (List.mem_cons_of_mem _ later)

theorem passEffect_drainCalls (env : Environment) (pass n : Nat) (calls : List (Nat × SyncQueueItem)) (w : World)
    (unpaused : w.db.syncSettings.queuePaused = false) :
    PassEffect env w (drainCalls env none pass n [] calls w).2 (calls.map Prod.snd) := by
  induction calls generalizing n w with
  | nil => exact passEffect_nil env w
  | cons entry rest ih =>
    obtain ⟨pairId,item⟩ := entry
    rw [drainCalls,List.map_cons]
    by_cases waits : item.action = .userActionRequired
    · simp only [waits,List.contains_nil,beq_self_eq_true,Bool.or_true,if_true]
      exact (ih (n + 1) w unpaused).skip waits
    · have goes : (item.action == SyncAction.userActionRequired) = false := by simpa using waits
      simp only [goes,List.contains_nil,Bool.or_false,Bool.false_eq_true,if_false,unpaused,expired,Option.any_none]
      have call := passEffect_call env pass n item w
      exact call.append (ih (n + 1) _ (call.kept.paused.trans unpaused))

end

end QueueDrain

end BitProtector
