import BitProtector.ChangeDetection
import BitProtector.RebuildLedger
import BitProtector.ScannedDrains

/-! The loss of a drive. The pair fails over to the side that is left. Once a replacement is assigned, one drain brings
every file of the pair to it and makes both sides active again. -/
namespace BitProtector.DriveLoss
open Effect QueueDrain RootMarkers RebuildCompletion QuietDrains ScannedDrains

section
variable [Blake3] {pair : DrivePair} {side : DriveRole} {files : List TrackedFile} {start : Db}

/-! A pair whose files are all flagged. -/

omit [Blake3] in
/-- The row of the pair, and the flags of its files. -/
structure Flagged (pair : DrivePair) (db : Db) : Prop where
  row : db.drivePairs.find? pair.id = some pair
  flags : ∀ id file, db.trackedFiles.find? id = some file → file.drivePairId = pair.id → file.isMirrored = true

omit [Blake3] in
theorem flagged_of_sets {flag : TrackedFile → Bool} {db next : Db} (sets : Db.SetsFlags flag db next)
    (row : next.drivePairs.find? pair.id = some pair)
    (raises : ∀ old, db.trackedFiles.find? old.id = some old → old.drivePairId = pair.id → flag old = true) :
    Flagged pair next := by
  refine ⟨row,fun id file found own => ?_⟩
  rw [sets id,Option.map_eq_some_iff] at found
  obtain ⟨old,there,rfl⟩ := found
  have key : old.id = id := Table.find?_key there
  exact raises old (key ▸ there) own

omit [Blake3] in
theorem not_finishes (active : ∀ role, pair.roleState role = .active) (db : Db) (action : SyncAction) :
    rebuildFinishes db pair action = none := by
  cases finishes : rebuildFinishes db pair action with
  | none => rfl
  | some role =>
    have rebuilding := (rebuildFinishes_some finishes).2.1
    rw [active] at rebuilding
    cases rebuilding

omit [Blake3] in
def FlagsKept (pair : DrivePair) (db next : Db) : Prop := Flagged pair db → Flagged pair next

instance : IsPreorder Db (FlagsKept pair) where
  refl _ := id
  trans _ _ _ first second := fun flagged => second (first flagged)

omit [Blake3] in
theorem flagsKept_operational (disk : Disk) (steady : emergencyFailoverDue disk pair = false) {db : Db} {other : DrivePair}
    (found : db.drivePairs.find? other.id = some other) : FlagsKept pair db (db.operational disk other) := by
  intro flagged
  by_cases same : other.id = pair.id
  · obtain rfl : other = pair := Option.some.inj ((same ▸ found).symm.trans flagged.row)
    rw [Db.operational,steady]
    exact flagged
  · have row := find?_operational_other db disk other (Ne.symm same)
    unfold Db.operational at row ⊢
    split
    · rename_i due
      rw [due,if_pos rfl] at row
      refine flagged_of_sets (Db.setsFlags_markDrivePairUnmirrored db other.id) (row.trans flagged.row) fun old there own => ?_
      rw [if_neg fun belongs => same (belongs.symm.trans own)]
      exact flagged.flags old.id old there own
    · exact flagged

omit [Blake3] in
theorem flagsKept_finalized (active : ∀ role, pair.roleState role = .active) {db : Db} {other : DrivePair} (action : SyncAction)
    (found : db.drivePairs.find? other.id = some other) : FlagsKept pair db (db.finalized other action) := by
  intro flagged
  by_cases same : other.id = pair.id
  · obtain rfl : other = pair := Option.some.inj ((same ▸ found).symm.trans flagged.row)
    rw [setsFlags_finalized_none (not_finishes active db action)]
    exact flagged
  · have row := (find?_finalized_other db other action (Ne.symm same)).trans flagged.row
    cases finishes : rebuildFinishes db other action with
    | none =>
      rw [setsFlags_finalized_none finishes]
      exact flagged
    | some role =>
      obtain ⟨⟨flag,sets,raised⟩,_⟩ := finalized_some finishes found
      refine flagged_of_sets sets row fun old there own => ?_
      rw [raised old there,if_neg fun belongs => same (belongs.symm.trans own)]
      exact flagged.flags old.id old there own

theorem Flagged.call (active : ∀ role, pair.roleState role = .active) (io : Io) (item : SyncQueueItem) {w : World}
    (flagged : Flagged pair w.db) (steady : emergencyFailoverDue w.disk pair = false) :
    Flagged pair (after (processItem io item) w).db := by
  have kept : FlagsKept pair w.db (after (processItem io item) w).db := by
    apply processItem_related
    · exact fun other found => flagsKept_operational w.disk steady found
    · exact fun db status message before => ⟨before.row,before.flags⟩
    · intro db fileId before
      refine flagged_of_sets (Db.setsFlags_updateTrackedFileMirrorStatus db fileId true) before.row fun old there own => ?_
      split
      · rfl
      · exact before.flags old.id old there own
    · exact fun db other found => flagsKept_finalized active item.action found
  exact kept flagged

/-! The calls of a drain while the side is rebuilding. -/

omit [Blake3] in
/-- No restore of the pair has failed, and one waits for as long as the side is rebuilding. -/
structure Rebuilding (pair : DrivePair) (side : DriveRole) (start : Db) (w : World) : Prop where
  columns : ColumnsKept start w.db
  waits : ∀ row ∈ w.db.syncQueue.rows, Blocks w.db pair.id (rebuildActionForRole side) row → row.status = .pending
  stage : (w.db.drivePairs.find? pair.id = some pair ∧ rebuildComplete w.db pair.id (rebuildActionForRole side) = false) ∨
    Flagged (pair.rebuilt side) w.db

omit [Blake3] in
theorem not_complete_iff {db : Db} {pairId : Nat} {action : SyncAction} :
    rebuildComplete db pairId action = false ↔ ∃ row ∈ db.syncQueue.rows, Blocks db pairId action row := by
  rw [← Bool.not_eq_true,rebuildComplete_iff]
  push Not
  rfl

theorem row_stays (io : Io) {item : SyncQueueItem} {w : World} {action : SyncAction}
    (due : ∀ now, w.db.drivePairs.find? pair.id = some now → emergencyFailoverDue w.disk now = false)
    {row : SyncQueueItem} (differs : row.id ≠ item.id) :
    (row ∈ (after (processItem io item) w).db.syncQueue.rows ∧ Blocks (after (processItem io item) w).db pair.id action row) ↔
      row ∈ w.db.syncQueue.rows ∧ Blocks w.db pair.id action row := by
  have kept := columnsKept_processItem io item w
  obtain ⟨change,later,fate⟩ := processItem_row io item w row.id
  have spared (old : SyncQueueItem) (own : w.db.ofDrivePair pair.id old.trackedFileId = true) : change old = old := by
    refine fate.spares (fun _ => differs) old fun now belongs => due now ?_
    obtain ⟨file,there,same⟩ := Db.ofDrivePair_iff.mp own
    rw [Db.pairOf?,there,Option.bind_some,same] at belongs
    exact belongs
  constructor
  · rintro ⟨member,asks,own,opened⟩
    have found := Table.find?_of_mem _ member
    have found : (after (processItem io item) w).db.syncQueue.find? row.id = some row := found
    rw [later,Option.map_eq_some_iff] at found
    obtain ⟨old,there,became⟩ := found
    obtain ⟨next,after_,file,same⟩ := kept.rows _ old there
    rw [later,there,Option.map_some,Option.some.injEq,became] at after_
    subst after_
    rw [kept.files,file] at own
    rw [spared old own] at became
    subst became
    exact ⟨Table.mem_of_find? there,asks,own,opened⟩
  · rintro ⟨member,asks,own,opened⟩
    have found : w.db.syncQueue.find? row.id = some row := Table.find?_of_mem _ member
    rw [found,Option.map_some,spared row own] at later
    exact ⟨Table.mem_of_find? later,asks,by rw [kept.files]; exact own,opened⟩

omit [Blake3] in
theorem asked_of_columns {db : Db} (columns : ColumnsKept start db) {item row : SyncQueueItem}
    (listed : item ∈ start.pendingSyncQueue) (member : row ∈ db.syncQueue.rows) (same : row.id = item.id) :
    row.trackedFileId = item.trackedFileId ∧ row.action = item.action := by
  obtain ⟨later,found,asks⟩ := columns.rows item.id item (Db.mem_pendingSyncQueue.mp listed).1
  have there : db.syncQueue.find? row.id = some row := Table.find?_of_mem _ member
  rw [same,found,Option.some.injEq] at there
  exact there ▸ asks

omit [Blake3] in
theorem active_rebuilt (mendable : Mendable pair side files start) (role : DriveRole) :
    (pair.rebuilt side).roleState role = .active := by
  obtain ⟨own,others⟩ := roleState_rebuilt pair side
  rcases side.eq_or_opposite role with rfl | rfl
  · exact own
  · rw [others _ (DriveRole.opposite_ne side)]
    exact mendable.serving.source

theorem Rebuilding.aside {io : Io} {item : SyncQueueItem} {w : World} (rebuilding : Rebuilding pair side start w)
    (mendable : Mendable pair side files start) (mending : Mending pair side files start w)
    (listed : item ∈ start.pendingSyncQueue)
    (aside : item.action = rebuildActionForRole side → start.ofDrivePair pair.id item.trackedFileId = false)
    (row : (after (processItem io item) w).db.drivePairs.find? pair.id = w.db.drivePairs.find? pair.id) :
    Rebuilding pair side start (after (processItem io item) w) := by
  have columns : ColumnsKept start (after (processItem io item) w).db :=
    trans_of ColumnsKept rebuilding.columns (columnsKept_processItem io item w)
  have differs {db : Db} (columns : ColumnsKept start db) {asked : SyncQueueItem} (member : asked ∈ db.syncQueue.rows)
      (blocks : Blocks db pair.id (rebuildActionForRole side) asked) : asked.id ≠ item.id := by
    intro same
    obtain ⟨file,action⟩ := asked_of_columns columns listed member same
    have outside := aside (action.symm.trans blocks.1)
    rw [← file,← columns.files,blocks.2.1] at outside
    cases outside
  refine ⟨columns,fun asked member blocks => ?_,?_⟩
  · obtain ⟨before,blocked⟩ := (row_stays io mending.due (differs columns member blocks)).mp ⟨member,blocks⟩
    exact rebuilding.waits asked before blocked
  · rcases rebuilding.stage with ⟨found,waits⟩ | flagged
    · left
      obtain ⟨asked,member,blocks⟩ := not_complete_iff.mp waits
      exact ⟨row.trans found,not_complete_iff.mpr ⟨asked,(row_stays io mending.due
        (differs rebuilding.columns member blocks)).mpr ⟨member,blocks⟩⟩⟩
    · exact .inr (flagged.call (active_rebuilt mendable) io item (mending.due _ flagged.row))

theorem Rebuilding.restores {io : Io} {item : SyncQueueItem} {w : World} (rebuilding : Rebuilding pair side start w)
    (mendable : Mendable pair side files start) (target : pair.roleState side = .rebuilding)
    (mending : Mending pair side files start w) (serves : Serves pair io) {file : TrackedFile}
    (hasFile : w.db.getTrackedFile item.trackedFileId = .ok file) (own : file.drivePairId = pair.id)
    (restores : item.action = rebuildActionForRole side) : Rebuilding pair side start (after (processItem io item) w) := by
  obtain ⟨now,row,serving⟩ := mending.row
  have hasPair : w.db.getDrivePair file.drivePairId = .ok now := by
    rw [own]
    exact Db.getDrivePair_ok.mpr row
  have due := mending.due now row
  have goes : now.operational w.disk = now := by
    rw [DrivePair.operational,due]
    rfl
  have heads : QuietDrains.heading now item.action = some side := by
    rw [restores]
    cases side <;> rfl
  have sets : item.action.setsMirrored = true := restores ▸ sets_of_restores side
  have runs : itemSkipped item now w.disk = false := by
    rw [itemSkipped,goes,serving.steady,restores]
    cases side <;> rfl
  obtain ⟨old,present,_,flag,rfl⟩ := mending.unmoved.file (Db.getTrackedFile_ok.mp hasFile)
  obtain ⟨t,ran,_⟩ := mending.delivers mendable serves serving (mendable.whole target old present own) flag heads
    (u := itemStarted item now w) rfl
  have kept : t.db = (itemStarted item now w).db := by
    have still := dbKept_runAction io item.action now { old with isMirrored := flag } (itemStarted item now w)
    rwa [after_of_ok ran] at still
  have id : now.id = pair.id := serving.id
  let finished := itemFinished item { old with isMirrored := flag } (itemStarted item now w).db
  have tables : (after (processItem io item) w).db = finished.finalized now item.action := by
    rw [processItem_after hasFile hasPair runs sets kept (by rw [goes]; exact ran),goes,kept]
  have stands : finished.drivePairs.find? pair.id = some now := by
    have found := find?_itemStarted item hasPair
    rw [goes,id] at found
    exact found
  have columns := trans_of ColumnsKept rebuilding.columns (columnsKept_processItem io item w)
  have waits : ∀ row ∈ (after (processItem io item) w).db.syncQueue.rows,
      Blocks (after (processItem io item) w).db pair.id (rebuildActionForRole side) row → row.status = .pending := by
    intro asked member blocks
    by_cases same : asked.id = item.id
    · have found : (after (processItem io item) w).db.syncQueue.find? asked.id = some asked := Table.find?_of_mem _ member
      have done : finished.syncQueue.find? asked.id = _ := Db.find?_updateSyncQueueStatus _ _ _ _ _
      rw [tables,finalized_syncQueue,done,Option.map_eq_some_iff] at found
      obtain ⟨before,_,became⟩ := found
      rw [if_pos same] at became
      rw [← became] at blocks
      exact absurd rfl blocks.2.2
    · obtain ⟨before,blocked⟩ := (row_stays io mending.due same).mp ⟨member,blocks⟩
      exact rebuilding.waits asked before blocked
  refine ⟨columns,waits,?_⟩
  rcases rebuilding.stage with ⟨found,_⟩ | flagged
  · obtain rfl : now = pair := Option.some.inj (row.symm.trans found)
    rw [tables]
    cases finishes : rebuildFinishes finished now item.action with
    | none =>
      left
      rw [setsFlags_finalized_none finishes]
      refine ⟨stands,?_⟩
      rw [rebuildFinishes,restores,rebuiltRole_iff.mpr rfl] at finishes
      simpa [Option.filter,target] using finishes
    | some role =>
      obtain rfl : role = side := by
        have same := (rebuildFinishes_some finishes).1
        rw [restores,rebuiltRole_iff.mpr rfl,Option.some.injEq] at same
        exact same.symm
      obtain ⟨⟨raised,sets,flags⟩,rebuilt⟩ := finalized_some finishes stands
      have whole : (now.rebuilt role).isDegraded = false :=
        (DrivePair.isDegraded_iff _).mpr ⟨active_rebuilt mendable .primary,active_rebuilt mendable .secondary⟩
      refine .inr (flagged_of_sets sets rebuilt fun old there own => ?_)
      have own : old.drivePairId = now.id := own
      rw [flags old there,if_pos own,whole]
      rfl
  · exact .inr (flagged.call (active_rebuilt mendable) io item (mending.due _ flagged.row))

omit [Blake3] in
theorem row_of_plain {item : SyncQueueItem} {w : World} {next : Db} (leaves : CallLeaves item w next)
    (plain : item.action.setsMirrored = false)
    (due : ∀ now, w.db.drivePairs.find? pair.id = some now → emergencyFailoverDue w.disk now = false)
    (own : ∀ file, w.db.getTrackedFile item.trackedFileId = .ok file → file.drivePairId = pair.id) :
    next.drivePairs.find? pair.id = w.db.drivePairs.find? pair.id := by
  have tables {file : TrackedFile} {other : DrivePair} (hasFile : w.db.getTrackedFile item.trackedFileId = .ok file)
      (hasPair : w.db.getDrivePair file.drivePairId = .ok other) : w.db.operational w.disk other = w.db := by
    have found := Db.getDrivePair_ok.mp hasPair
    rw [own file hasFile] at found
    rw [Db.operational,due other found]
    rfl
  cases leaves with
  | untouched => rfl
  | skipped hasFile hasPair skips => rw [tables hasFile hasPair]
  | stranded hasFile hasPair runs => rw [itemStarted,tables hasFile hasPair]; rfl
  | failed hasFile hasPair runs message => rw [itemStarted,tables hasFile hasPair]; rfl
  | verified hasFile hasPair runs verifies => rw [itemStarted,tables hasFile hasPair]; rfl
  | finished hasFile hasPair runs sets =>
    rw [plain] at sets
    cases sets

theorem Rebuilding.call {env : Environment} {item : SyncQueueItem} {w : World} (rebuilding : Rebuilding pair side start w)
    (mendable : Mendable pair side files start) (target : pair.roleState side = .rebuilding)
    (mending : Mending pair side files start w) (quiet : Quiet env pair) (listed : item ∈ start.pendingSyncQueue)
    (pass n : Nat) : Rebuilding pair side start
      (after (processItem (env.io pass n) item) { w with disk := env.drives pass n w.disk }) := by
  have moved := mending.drives quiet pass n
  have moves : Rebuilding pair side start { w with disk := env.drives pass n w.disk } :=
    ⟨rebuilding.columns,rebuilding.waits,rebuilding.stage⟩
  have leaves := processItem_leaves (env.io pass n) item { w with disk := env.drives pass n w.disk }
  by_cases own : ∃ file, w.db.getTrackedFile item.trackedFileId = .ok file ∧ file.drivePairId = pair.id
  · obtain ⟨file,hasFile,own⟩ := own
    have belongs : start.ofDrivePair pair.id item.trackedFileId = true := by
      rw [← rebuilding.columns.files]
      exact Db.ofDrivePair_iff.mpr ⟨file,Db.getTrackedFile_ok.mp hasFile,own⟩
    by_cases restores : item.action = rebuildActionForRole side
    · exact moves.restores mendable target moved (quiet.serves pass n) hasFile own restores
    · -- Neither a copy to the side that is left nor a mirror of it: a check, or nothing.
      obtain ⟨away,plain⟩ := mendable.towards item listed belongs
      have verifies : item.action.setsMirrored = false := by
        have mirrors := plain target
        revert away restores mirrors
        cases item.action <;> cases side <;> simp [QuietDrains.heading,rebuiltRole,rebuildActionForRole,
          SyncAction.isMirroring,SyncAction.setsMirrored,DriveRole.opposite]
      refine moves.aside mendable moved listed (fun same => absurd same restores) ?_
      refine row_of_plain leaves verifies moved.due fun other found => ?_
      cases hasFile.symm.trans found
      exact own
  · push Not at own
    refine moves.aside mendable moved listed (fun _ => ?_) (row_of_foreign leaves own)
    rw [← rebuilding.columns.files,Bool.eq_false_iff]
    intro belongs
    obtain ⟨file,found,mine⟩ := Db.ofDrivePair_iff.mp belongs
    exact own file (Db.getTrackedFile_ok.mpr found) mine

/-! The tables at the assignment. -/

omit [Blake3] in
/-- The rows of a queue after the restores of `files` are asked for. -/
theorem mem_rebuildQueued {action : SyncAction} {files : List TrackedFile} {db : Db} {row : SyncQueueItem}
    (member : row ∈ (rebuildQueued action files db).2.syncQueue.rows) :
    row ∈ db.syncQueue.rows ∨ (row.status = .pending ∧ row.action = action) := by
  induction files generalizing db with
  | nil => exact .inl member
  | cons file files ih =>
    rcases ih member with before | asked
    · have inserted : row ∈ (db.createSyncQueueItemDedupWithCreated file.id action none none).2.syncQueue.rows := before
      unfold Db.createSyncQueueItemDedupWithCreated at inserted
      split at inserted
      · exact .inl inserted
      · rcases List.mem_append.mp inserted with old | new
        · exact .inl old
        · obtain rfl := List.mem_singleton.mp new
          exact .inr ⟨rfl,rfl⟩
    · exact .inr asked

omit [Blake3] in
/-- Nothing of the pair is open, and no restore of the side has failed. -/
def Closed (pairId : Nat) (side : DriveRole) (db : Db) : Prop :=
  ∀ row ∈ db.syncQueue.rows, db.ofDrivePair pairId row.trackedFileId = true →
    row.status.isOpen = false ∧ (row.action = rebuildActionForRole side → row.status = .completed)

omit [Blake3] in
theorem closed_failedOver {db : Db} (complete : rebuildComplete db pair.id (rebuildActionForRole side) = true) :
    Closed pair.id side (db.failedOver pair) := by
  intro row member own
  have flags : Db.SetsFlags (fun file => if file.drivePairId = pair.id then false else file.isMirrored) db (db.failedOver pair) :=
    Db.setsFlags_markDrivePairUnmirrored db pair.id
  rw [flags.ofDrivePair] at own
  obtain ⟨old,before,became⟩ := List.mem_map.mp member
  have none_blocks := rebuildComplete_iff.mp complete old before
  have cleared := Db.setsFlags_markDrivePairUnmirrored (db.updateDrivePairRuntime pair.id none none
    (forRole pair.activeRole .primary .failed) (forRole pair.activeRole .secondary .failed) (some pair.standbyRole)) pair.id
  simp only [cleared.ofDrivePair] at became
  change (if (old.status.isOpen && db.ofDrivePair pair.id old.trackedFileId) = true then _ else old) = row at became
  have same : row.trackedFileId = old.trackedFileId ∧ row.action = old.action := by
    rw [← became]
    split <;> exact ⟨rfl,rfl⟩
  have inside : db.ofDrivePair pair.id old.trackedFileId = true := same.1 ▸ own
  have closed (asks : old.action = rebuildActionForRole side) : old.status = .completed := by
    by_contra opened
    exact none_blocks ⟨asks,inside,opened⟩
  cases opened : old.status.isOpen with
  | true =>
    rw [if_pos (Bool.and_eq_true_iff.mpr ⟨opened,inside⟩)] at became
    rw [← became]
    refine ⟨rfl,fun asks => ?_⟩
    rw [closed asks] at opened
    cases opened
  | false =>
    rw [if_neg (by simp [opened])] at became
    rw [← became]
    exact ⟨opened,closed⟩

omit [Blake3] in
theorem rows_assigned {io : Io} {pairId : Nat} {newPath : String} {result : DrivePair × Nat} {v t : World}
    (closed : Closed pairId side v.db) (replaced : assignReplacementDrive io pairId side newPath v = .ok result t)
    {row : SyncQueueItem} (member : row ∈ t.db.requeueInProgressSyncQueue.syncQueue.rows)
    (own : v.db.ofDrivePair pairId row.trackedFileId = true) :
    (row.status = .pending ∧ row.action = rebuildActionForRole side) ∨
      (row.status.isOpen = false ∧ (row.action = rebuildActionForRole side → row.status = .completed)) := by
  obtain ⟨old,before,became⟩ := List.mem_map.mp member
  obtain ⟨_,tables⟩ := assignReplacementDrive_db replaced
  rw [tables] at before
  rcases mem_rebuildQueued before with there | ⟨pending,asks⟩
  · have mine : v.db.ofDrivePair pairId old.trackedFileId = true := by
      rw [← became] at own
      split at own <;> exact own
    have still := closed old there mine
    have finished : old.status ≠ .inProgress := fun running => by
      rw [running] at still
      cases still.1
    rw [if_neg (by simpa using finished)] at became
    exact .inr (became ▸ still)
  · rw [if_neg (by simp [pending])] at became
    exact .inl (became ▸ ⟨pending,asks⟩)

omit [Blake3] in
theorem assignReplacementDrive_disk {io : Io} {pairId : Nat} {newPath : String} {result : DrivePair × Nat} {v t : World}
    (replaced : assignReplacementDrive io pairId side newPath v = .ok result t) :
    v.disk.available newPath = true ∧ t.disk = AtomicRestores.marked newPath v.disk := by
  obtain ⟨pair,u,read,guarded⟩ := bind_success replaced
  obtain ⟨_,same⟩ := query_getDrivePair read
  obtain ⟨_,x,ensured,marks⟩ := bind_success guarded
  obtain ⟨_,still⟩ := Act.ensure_success ensured
  obtain ⟨_,y,mark,writes⟩ := bind_success marks
  obtain ⟨row,z,written,lists⟩ := bind_success writes
  obtain ⟨files,q,listed,queues⟩ := bind_success lists
  obtain ⟨queued,last,ran,ends⟩ := bind_success queues
  subst still same
  obtain ⟨_,_,changed⟩ := updateRuntime_ok written
  obtain ⟨_,listing⟩ := Act.query_success listed
  cases ends
  rw [queueRebuild_ok ran,listing,changed]
  have marking := AtomicRestores.ensureDriveRootMarker_run io newPath x
  split at marking
  · rename_i there
    cases marking.symm.trans mark
    exact ⟨(Bool.and_eq_true_iff.mp there).1,rfl⟩
  · obtain ⟨message,failed⟩ := marking
    cases failed.symm.trans mark

omit [Blake3] in
theorem marked_disk (root : String) (disk : Disk) :
    (AtomicRestores.marked root disk).available = disk.available ∧ Marked (AtomicRestores.marked root disk) root ∧
      (∀ path node, disk.node path = some node → (AtomicRestores.marked root disk).node path = some node) ∧
      ∀ path node, (AtomicRestores.marked root disk).node path = some node → disk.node path = some node ∨ node.whole = true := by
  unfold AtomicRestores.marked
  split
  · rename_i there
    exact ⟨rfl,there,fun _ _ found => found,fun _ _ found => .inl found⟩
  · rename_i missing
    refine ⟨rfl,by simp [Marked,Disk.exists?],fun path node found => ?_,fun path node found => ?_⟩
    · rw [Disk.write_other _ _ fun same => missing (by rw [← same,Disk.exists?,found]; rfl)]
      exact found
    · by_cases same : path = driveRootMarkerPath root
      · rw [same,Disk.write_same,Option.some.injEq] at found
        rw [← found]
        exact .inr rfl
      · rw [Disk.write_other _ _ same] at found
        exact .inl found

/-! The pair with its replacement. -/

omit [Blake3] in
/-- The row of a pair that lost its active side and got a new drive for it. -/
def refitted (pair : DrivePair) (newPath : String) : DrivePair := pair.failedOver.replaced pair.activeRole newPath

omit [Blake3] in
theorem refitted_sides (pair : DrivePair) (newPath : String) : (refitted pair newPath).activeRole = pair.standbyRole ∧
    (refitted pair newPath).roleState pair.activeRole = .rebuilding ∧
    (refitted pair newPath).roleState pair.standbyRole = pair.roleState pair.standbyRole ∧
    (refitted pair newPath).pathForRole pair.activeRole = newPath ∧
    (refitted pair newPath).pathForRole pair.standbyRole = pair.standbyPath := by
  unfold refitted DrivePair.replaced DrivePair.failedOver DrivePair.standbyPath DrivePair.standbyRole
  cases pair.activeRole <;> exact ⟨rfl,rfl,rfl,rfl,rfl⟩

omit [Blake3] in
theorem refitted_rebuilt (pair : DrivePair) (newPath : String) :
    ((refitted pair newPath).rebuilt pair.activeRole).activeRole = .primary ∧
    ∀ role, ((refitted pair newPath).rebuilt pair.activeRole).pathForRole role = (refitted pair newPath).pathForRole role := by
  unfold refitted DrivePair.replaced DrivePair.failedOver DrivePair.rebuilt DrivePair.standbyRole
  refine ⟨?_,fun role => ?_⟩
  · cases pair.activeRole <;> rfl
  · cases pair.activeRole <;> cases role <;> rfl

/-- What is left when a drive is lost: its files are whole on the other one, and no other pair is at the roots. -/
structure Survives (pair : DrivePair) (newPath : String) (db : Db) (disk : Disk) : Prop where
  there : disk.available pair.standbyPath = true
  marked : Marked disk pair.standbyPath
  apart : pair.standbyPath ≠ newPath
  readable : ∀ path node, disk.node ⟨newPath,path⟩ = some node → node.whole = true
  good : ∀ file ∈ db.trackedFiles.rows, file.drivePairId = pair.id →
    GoodAt disk (pair.copyOn pair.standbyRole file.relativePath) file.checksum
  others : ∀ other ∈ db.drivePairs.rows, other.id ≠ pair.id → ∀ root ∈ PairFrame.roots other,
    root ≠ pair.standbyPath ∧ root ≠ newPath
  paths : ∀ file ∈ db.trackedFiles.rows, ∀ other ∈ db.trackedFiles.rows, file.drivePairId = pair.id →
    other.drivePairId = pair.id → file.relativePath = other.relativePath → file = other

omit [Blake3] in
theorem rebuildQueued_drivePairs (action : SyncAction) (files : List TrackedFile) (db : Db) :
    (rebuildQueued action files db).2.drivePairs = db.drivePairs := by
  induction files generalizing db with
  | nil => rfl
  | cons file files ih => exact (ih _).trans (db.createSyncQueueItemDedupWithCreated_frame file.id action none none).1

variable {w v t : World} {newPath : String} {io : Io} {result : DrivePair × Nat}

omit [Blake3] in
theorem tables_assigned (lost : v.db = w.db.failedOver pair)
    (replaced : assignReplacementDrive io pair.id pair.activeRole newPath v = .ok result t) :
    (∀ id, id ≠ pair.id → t.db.drivePairs.find? id = w.db.drivePairs.find? id) ∧
      Db.SetsFlags (fun file => if file.drivePairId = pair.id then false else file.isMirrored) w.db t.db := by
  obtain ⟨_,tables⟩ := assignReplacementDrive_db replaced
  rw [tables,lost]
  constructor
  · intro id other
    rw [rebuildQueued_drivePairs]
    exact (find?_updateDrivePairRuntime_other _ other _ _ _ _ _).trans (find?_updateDrivePairRuntime_other _ other _ _ _ _ _)
  · intro id
    rw [(RebuildLedger.rebuildQueued_owes _ _ _).1]
    exact Db.setsFlags_markDrivePairUnmirrored w.db pair.id id

omit [Blake3] in
theorem file_assigned (sets : Db.SetsFlags (fun file => if file.drivePairId = pair.id then false else file.isMirrored) w.db t.db)
    {file : TrackedFile} (member : file ∈ t.db.trackedFiles.rows) :
    ∃ old ∈ w.db.trackedFiles.rows, ∃ flag, file = { old with isMirrored := flag } := by
  have found : t.db.trackedFiles.find? file.id = some file := Table.find?_of_mem _ member
  rw [sets file.id,Option.map_eq_some_iff] at found
  obtain ⟨old,there,rfl⟩ := found
  exact ⟨old,Table.mem_of_find? there,_,rfl⟩

omit [Blake3] in
theorem refitted_serving (active : ∀ role, pair.roleState role = .active) (newPath : String) :
    Serving (refitted pair newPath) pair.activeRole (refitted pair newPath) := by
  obtain ⟨lead,rebuilding,others,_⟩ := refitted_sides pair newPath
  exact ⟨rfl,fun _ => rfl,others.trans (active _),.inr rebuilding,id,fun _ => rebuilding⟩

omit [Blake3] in
theorem heading_rebuild (pair : DrivePair) (side : DriveRole) :
    QuietDrains.heading pair (rebuildActionForRole side) = some side ∧ (rebuildActionForRole side).isMirroring = false := by
  cases side <;> exact ⟨rfl,rfl⟩

theorem mendable_refitted (active : ∀ role, pair.roleState role = .active) (lost : v.db = w.db.failedOver pair)
    (complete : rebuildComplete w.db pair.id (rebuildActionForRole pair.activeRole) = true)
    (survives : Survives pair newPath w.db v.disk)
    (replaced : assignReplacementDrive io pair.id pair.activeRole newPath v = .ok result t) :
    Mendable (refitted pair newPath) pair.activeRole (t.db.listTrackedFilesOfPair pair.id) t.db.requeueInProgressSyncQueue := by
  obtain ⟨_,_,_,new,left⟩ := refitted_sides pair newPath
  obtain ⟨pairs,sets⟩ := tables_assigned lost replaced
  have roots {root : String} (member : root ∈ PairFrame.roots (refitted pair newPath)) :
    root = pair.standbyPath ∨ root = newPath := by
    obtain ⟨role,rfl⟩ : ∃ role, root = (refitted pair newPath).pathForRole role := by
      rcases List.mem_cons.mp member with primary | rest
      · exact ⟨.primary,primary⟩
      · exact ⟨.secondary,List.mem_singleton.mp rest⟩
    rcases pair.activeRole.eq_or_opposite role with rfl | rfl
    · exact .inr new
    · exact .inl left
  refine ⟨refitted_serving active newPath,?_,?_,?_,?_,fun item pending belongs => ?_,fun _ file member mine => ?_⟩
  · rw [new]
    exact fun same => survives.apart (left.symm.trans same)
  · intro other member differs root outer inner
    have found : t.db.drivePairs.find? other.id = some other := Table.find?_of_mem _ member
    rw [pairs other.id differs] at found
    obtain ⟨apart,free⟩ := survives.others other (Table.mem_of_find? found) differs root outer
    exact (roots inner).elim apart free
  · intro file member
    exact ChangeDetection.mem_listTrackedFilesOfPair.mp member
  · intro file member other there mine others same
    obtain ⟨old,before,flag,rfl⟩ := file_assigned sets member
    obtain ⟨older,listed,flags,rfl⟩ := file_assigned sets there
    obtain rfl : old = older := survives.paths old before older listed mine others same
    exact Table.key_injective _ member there rfl
  · have own : v.db.ofDrivePair pair.id item.trackedFileId = true := by
      have before : Db.SetsFlags _ w.db (w.db.failedOver pair) := Db.setsFlags_markDrivePairUnmirrored w.db pair.id
      rw [lost,before.ofDrivePair,← sets.ofDrivePair]
      exact belongs
    obtain ⟨member,pending⟩ := List.mem_filter.mp pending
    rcases rows_assigned (lost ▸ closed_failedOver complete) replaced member own with ⟨_,asks⟩ | ⟨finished,_⟩
    · rw [asks]
      obtain ⟨heads,plain⟩ := heading_rebuild (refitted pair newPath) pair.activeRole
      exact ⟨by rw [heads]; simpa using (DriveRole.opposite_ne pair.activeRole).symm,fun _ => plain⟩
    · rw [beq_iff_eq.mp pending] at finished
      cases finished
  · exact ChangeDetection.mem_listTrackedFilesOfPair.mpr ⟨member,mine⟩

omit [Blake3] in
theorem restore_pending (lost : v.db = w.db.failedOver pair)
    (complete : rebuildComplete w.db pair.id (rebuildActionForRole pair.activeRole) = true)
    (replaced : assignReplacementDrive io pair.id pair.activeRole newPath v = .ok result t) {file : TrackedFile}
    (member : file ∈ t.db.trackedFiles.rows) (mine : file.drivePairId = pair.id) :
    ∃ item ∈ t.db.requeueInProgressSyncQueue.pendingSyncQueue, item.trackedFileId = file.id ∧
      item.action = rebuildActionForRole pair.activeRole := by
  have found : t.db.trackedFiles.find? file.id = some file := Table.find?_of_mem _ member
  obtain ⟨asked,listed,same,restores,opened⟩ := (RebuildLedger.assigned_owes replaced).2 file.id file found mine
  let item : SyncQueueItem :=
    if asked.status == .inProgress then { asked with status := .pending,errorMessage := none } else asked
  have there : item ∈ t.db.requeueInProgressSyncQueue.syncQueue.rows := List.mem_map_of_mem listed
  have kept : item.trackedFileId = asked.trackedFileId ∧ item.action = asked.action := by
    unfold item
    split <;> exact ⟨rfl,rfl⟩
  have waits : item.status ≠ .completed := by
    unfold item
    split
    · exact fun same => by cases same
    · exact opened
  have own : v.db.ofDrivePair pair.id item.trackedFileId = true := by
    have before : Db.SetsFlags _ w.db (w.db.failedOver pair) := Db.setsFlags_markDrivePairUnmirrored w.db pair.id
    rw [lost,before.ofDrivePair,← (tables_assigned lost replaced).2.ofDrivePair,kept.1,same]
    exact Db.ofDrivePair_iff.mpr ⟨file,found,mine⟩
  refine ⟨item,List.mem_filter.mpr ⟨there,?_⟩,kept.1.trans same,kept.2.trans restores⟩
  rcases rows_assigned (lost ▸ closed_failedOver complete) replaced there own with ⟨pending,_⟩ | ⟨_,finished⟩
  · exact beq_iff_eq.mpr pending
  · exact absurd (finished (kept.2.trans restores)) waits

theorem mending_refitted (active : ∀ role, pair.roleState role = .active) (lost : v.db = w.db.failedOver pair)
    (row : w.db.drivePairs.find? pair.id = some pair)
    (complete : rebuildComplete w.db pair.id (rebuildActionForRole pair.activeRole) = true)
    (survives : Survives pair newPath w.db v.disk)
    (replaced : assignReplacementDrive io pair.id pair.activeRole newPath v = .ok result t) :
    t.db.drivePairs.find? pair.id = some (refitted pair newPath) ∧
    Mending (refitted pair newPath) pair.activeRole (t.db.listTrackedFilesOfPair pair.id) t.db.requeueInProgressSyncQueue
      { t with db := t.db.requeueInProgressSyncQueue } := by
  obtain ⟨_,_,_,new,left⟩ := refitted_sides pair newPath
  obtain ⟨pairs,sets⟩ := tables_assigned lost replaced
  obtain ⟨there,drives⟩ := assignReplacementDrive_disk replaced
  have present : t.db.drivePairs.find? pair.id = some (refitted pair newPath) := by
    obtain ⟨before,_,was,now⟩ := assignReplacementDrive_ok replaced
    have failed : (w.db.failedOver pair).drivePairs.find? pair.id = some pair.failedOver :=
      find?_updateDrivePairRuntime row _ _ _ _ _
    rw [lost,failed,Option.some.injEq] at was
    rw [now,← was]
    rfl
  obtain ⟨roots,marker,still,fresh⟩ := marked_disk newPath v.disk
  rw [← drives] at roots marker still fresh
  have heads := heading_rebuild (refitted pair newPath) pair.activeRole
  refine ⟨present,List.Subset.refl _,refl_of Unmoved _,⟨_,present,refitted_serving active newPath⟩,fun role => ?_,
    fun role _ => ?_,fun file member => ?_⟩
  · change t.disk.available _ = true
    rw [roots]
    rcases pair.activeRole.eq_or_opposite role with rfl | rfl
    · rw [new]
      exact there
    · exact (congrArg v.disk.available left).trans survives.there
  · rcases pair.activeRole.eq_or_opposite role with rfl | rfl
    · rw [new]
      exact marker
    · obtain ⟨node,found⟩ := Option.isSome_iff_exists.mp survives.marked
      have kept := still _ node found
      rw [← left] at kept
      exact (congrArg Option.isSome kept).trans rfl
  · obtain ⟨listed,mine⟩ := ChangeDetection.mem_listTrackedFilesOfPair.mp member
    obtain ⟨old,before,flag,same⟩ := file_assigned sets listed
    refine ⟨?_,.inr ⟨fun node found => ?_,?_⟩⟩
    · obtain ⟨node,found,rest⟩ := survives.good old before (by rw [same] at mine; exact mine)
      have place : (refitted pair newPath).copyOn pair.activeRole.opposite old.relativePath =
          pair.copyOn pair.standbyRole old.relativePath := congrArg (fun root => (⟨root,old.relativePath⟩ : Location)) left
      refine ⟨node,?_,by rw [same]; exact rest⟩
      rw [same]
      exact (congrArg t.disk.node place).trans (still _ node found)
    · rcases fresh _ node found with was | whole
      · rw [DrivePair.copyOn,new] at was
        exact survives.readable _ node was
      · exact whole
    · obtain ⟨item,pending,asks,restores⟩ := restore_pending lost complete replaced listed mine
      exact ⟨item,pending,asks,by rw [restores]; exact heads.1⟩

omit [Blake3] in
theorem rebuilding_refitted (tracked : ∃ file ∈ w.db.trackedFiles.rows, file.drivePairId = pair.id)
    (lost : v.db = w.db.failedOver pair) (complete : rebuildComplete w.db pair.id (rebuildActionForRole pair.activeRole) = true)
    (replaced : assignReplacementDrive io pair.id pair.activeRole newPath v = .ok result t)
    (present : t.db.drivePairs.find? pair.id = some (refitted pair newPath)) :
    Rebuilding (refitted pair newPath) pair.activeRole t.db.requeueInProgressSyncQueue
      { t with db := t.db.requeueInProgressSyncQueue } := by
  have sets := (tables_assigned lost replaced).2
  refine ⟨refl_of ColumnsKept _,fun asked member blocks => ?_,.inl ⟨present,not_complete_iff.mpr ?_⟩⟩
  · have own : v.db.ofDrivePair pair.id asked.trackedFileId = true := by
      have before : Db.SetsFlags _ w.db (w.db.failedOver pair) := Db.setsFlags_markDrivePairUnmirrored w.db pair.id
      rw [lost,before.ofDrivePair,← sets.ofDrivePair]
      exact blocks.2.1
    rcases rows_assigned (lost ▸ closed_failedOver complete) replaced member own with ⟨pending,_⟩ | ⟨_,finished⟩
    · exact pending
    · exact absurd (finished blocks.1) blocks.2.2
  · obtain ⟨old,before,mine⟩ := tracked
    have found := sets old.id
    have row : w.db.trackedFiles.find? old.id = some old := Table.find?_of_mem _ before
    rw [row,Option.map_some] at found
    have member := Table.mem_of_find? found
    obtain ⟨item,pending,asks,restores⟩ := restore_pending lost complete replaced member mine
    obtain ⟨listed,waits⟩ := List.mem_filter.mp pending
    have belongs : t.db.ofDrivePair pair.id old.id = true := by
      rw [sets.ofDrivePair]
      exact Db.ofDrivePair_iff.mpr ⟨old,row,mine⟩
    refine ⟨item,listed,restores,by rw [asks]; exact belongs,?_⟩
    rw [beq_iff_eq.mp waits]
    exact fun same => by cases same

end

/-! A primary drive that is gone, with its one file on the secondary, and the drive that replaces it. -/

def lostWorld : World where
  db := { Db.empty with
    drivePairs := Table.empty.insert (fun id => { corruptedPair with id }) key_corruptedPair
    trackedFiles := oneFile }
  disk := {
    node := fun path =>
      if path = driveRootMarkerPath "/secondary" then some ⟨[],none⟩
      else if path = ⟨"/secondary","notes.txt"⟩ then some ⟨[2],none⟩
      else none
    available := fun root => root == "/secondary" || root == "/replacement" }

section
local instance : Blake3 := sampleBlake3

theorem survives_lostWorld : Survives corruptedPair "/replacement" lostWorld.db lostWorld.disk := by
  refine ⟨rfl,rfl,by decide,fun path node found => ?_,fun file member _ => ?_,fun other member differs => ?_,
    fun file member other there _ _ _ => ?_⟩
  · simp [lostWorld,driveRootMarkerPath] at found
  · rw [List.mem_singleton.mp member]
    exact ⟨⟨[2],none⟩,rfl,rfl,rfl⟩
  · rw [List.mem_singleton.mp member] at differs
    exact absurd rfl differs
  · exact (List.mem_singleton.mp member).trans (List.mem_singleton.mp there).symm

def failedOverWorld : World := after (loadOperationalPair 1) lostWorld

def refittedWorld : World := after (assignReplacementDrive Io.healthy 1 .primary "/replacement") failedOverWorld

end

end BitProtector.DriveLoss
