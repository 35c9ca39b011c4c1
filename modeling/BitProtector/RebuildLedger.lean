import BitProtector.TableWrites
import BitProtector.RebuildCompletion
import BitProtector.IntegrityRepairs

/-! The queue as the ledger of a rebuild. The assignment of a replacement owes every tracked file a restore; whatever is
asked of the program after it, a restore is closed by a verified copy on the new drive and by nothing else, and the side
becomes active only when none is owed. -/
namespace BitProtector.RebuildLedger
open Effect TableWrites RebuildCompletion

/-- A restore of the file to the side is asked for and is not completed. -/
def Owed (role : DriveRole) (fileId : Nat) (db : Db) : Prop :=
  ∃ item ∈ db.syncQueue.rows,
    item.trackedFileId = fileId ∧ item.action = rebuildActionForRole role ∧ item.status ≠ .completed

/-- The side is rebuilding, below the root. -/
def RebuildsAt (pairId : Nat) (role : DriveRole) (root : String) (db : Db) : Prop :=
  ∃ pair, db.drivePairs.find? pairId = some pair ∧ pair.roleState role = .rebuilding ∧ pair.pathForRole role = root

/-- The recorded content of the file is below the root. -/
def Verified [Blake3] (pairId : Nat) (root : String) (fileId : Nat) (w : World) : Prop :=
  ∃ file, w.db.trackedFiles.find? fileId = some file ∧ file.drivePairId = pairId ∧
    GoodAt w.disk ⟨root,file.relativePath⟩ file.checksum

/-! What the statements of an operation leave. -/

/-- Files keep their pair and path as long as they are tracked. -/
structure FilesKept (db next : Db) : Prop where
  lastId : db.trackedFiles.lastId ≤ next.trackedFiles.lastId
  rows : ∀ id file, id ≤ db.trackedFiles.lastId → next.trackedFiles.find? id = some file →
    ∃ old, db.trackedFiles.find? id = some old ∧ old.drivePairId = file.drivePairId ∧ old.relativePath = file.relativePath

structure Ledger (db next : Db) : Prop where
  files : FilesKept db next
  owed : ∀ role id file, id ≤ db.trackedFiles.lastId → next.trackedFiles.find? id = some file →
    Owed role id db → Owed role id next
  sides : ∀ pairId role root, RebuildsAt pairId role root db → RebuildsAt pairId role root next

theorem filesKept_refl (db : Db) : FilesKept db db :=
  ⟨Nat.le_refl _,fun _ file _ found => ⟨file,found,rfl,rfl⟩⟩

theorem FilesKept.trans {db next third : Db} (first : FilesKept db next) (second : FilesKept next third) :
    FilesKept db third := by
  refine ⟨first.lastId.trans second.lastId,fun id file old found => ?_⟩
  obtain ⟨middle,there,pair,path⟩ := second.rows id file (old.trans first.lastId) found
  obtain ⟨row,before,samePair,samePath⟩ := first.rows id middle old there
  exact ⟨row,before,samePair.trans pair,samePath.trans path⟩

instance : IsPreorder Db Ledger where
  refl db := ⟨filesKept_refl db,fun _ _ _ _ _ owed => owed,fun _ _ _ sides => sides⟩
  trans _ _ _ first second := by
    refine ⟨first.files.trans second.files,fun role id file old found owed => ?_,fun pairId role root rebuilds =>
      second.sides pairId role root (first.sides pairId role root rebuilds)⟩
    have later := old.trans first.files.lastId
    obtain ⟨middle,there,_⟩ := second.files.rows id file later found
    exact second.owed role id file later found (first.owed role id middle old there owed)

theorem filesKept_eq {db next : Db} (same : next.trackedFiles = db.trackedFiles) : FilesKept db next := by
  constructor
  · rw [same]
  · intro id file _ found
    rw [same] at found
    exact ⟨file,found,rfl,rfl⟩

theorem filesKept_updateWhere {db next : Db} {p : TrackedFile → Bool} (change : TrackedFile → TrackedFile)
    (keepsKey : ∀ file, Keyed.key (change file) = Keyed.key file)
    (written : next.trackedFiles = db.trackedFiles.updateWhere p change keepsKey)
    (stays : ∀ file, (change file).drivePairId = file.drivePairId ∧ (change file).relativePath = file.relativePath) :
    FilesKept db next := by
  refine ⟨by rw [written]; exact Nat.le_refl _,fun id file _ found => ?_⟩
  rw [written,Table.find?_updateWhere] at found
  obtain ⟨old,there,rfl⟩ := Option.map_eq_some_iff.mp found
  refine ⟨old,there,?_⟩
  split
  · exact ⟨(stays old).1.symm,(stays old).2.symm⟩
  · exact ⟨rfl,rfl⟩

theorem filesKept_provenance (db : Db) (pairId : Nat) : FilesKept db (db.recomputeFolderProvenanceForDrive pairId) := by
  have cleared : FilesKept db (db.clearFolderProvenance pairId) :=
    filesKept_updateWhere (fun file => { file with trackedViaFolder := false }) (fun _ => rfl) rfl fun _ => ⟨rfl,rfl⟩
  have taken : FilesKept (db.clearFolderProvenance pairId) ((db.clearFolderProvenance pairId).setFolderProvenance pairId) :=
    filesKept_updateWhere (fun file => { file with trackedViaFolder := true }) (fun _ => rfl) rfl fun _ => ⟨rfl,rfl⟩
  refine (cleared.trans taken).trans ?_
  exact filesKept_updateWhere (fun file => { file with trackedDirect := true }) (fun _ => rfl) rfl fun _ => ⟨rfl,rfl⟩

theorem filesKept_created (db : Db) (pairId : Nat) (relativePath checksum : String) (fileSize : Nat)
    (virtualPath : Option String) (direct viaFolder : Bool) : FilesKept db
      (db.createTrackedFileWithSource pairId relativePath checksum fileSize virtualPath direct viaFolder).2 := by
  unfold Db.createTrackedFileWithSource
  split
  · exact filesKept_refl db
  · refine ⟨Nat.le_succ _,fun id file old found => ⟨file,?_,rfl,rfl⟩⟩
    rwa [Table.find?_insert,if_neg (Nat.ne_of_lt (Nat.lt_succ_of_le old))] at found

theorem filesKept_untracked (db : Db) (id : Nat) : FilesKept db (db.deleteTrackedFile id) := by
  refine ⟨Nat.le_refl _,fun other file _ found => ⟨file,?_,rfl,rfl⟩⟩
  rw [Db.deleteTrackedFile,Db.removeTrackedFile,Table.find?_deleteWhere] at found
  exact (Option.filter_eq_some_iff.mp found).1

theorem ledger_files {db next : Db} (files : FilesKept db next) (pairs : next.drivePairs = db.drivePairs)
    (queue : next.syncQueue = db.syncQueue) : Ledger db next := by
  refine ⟨files,fun role id file _ _ owed => ?_,fun pairId role root rebuilds => ?_⟩
  · unfold Owed
    rw [queue]
    exact owed
  · unfold RebuildsAt
    rw [pairs]
    exact rebuilds

theorem owed_status {db : Db} {role : DriveRole} {fileId : Nat} {p : SyncQueueItem → Bool} {status : SyncStatus}
    (message : Option String)
    (plain : status = .completed → ∀ row ∈ db.syncQueue.rows, p row = true → rebuiltRole row.action = none)
    (owed : Owed role fileId db) : Owed role fileId (db.updateQueueWhere p status message) := by
  obtain ⟨item,member,own,asked,opened⟩ := owed
  refine ⟨if p item = true then { item with status,errorMessage := message } else item,List.mem_map_of_mem member,?_⟩
  split
  · rename_i taken
    refine ⟨own,asked,fun completed => ?_⟩
    have none_rebuilt := plain completed item member taken
    rw [asked,rebuiltRole_iff.mpr rfl] at none_rebuilt
    cases none_rebuilt
  · exact ⟨own,asked,opened⟩

theorem ledger_wrote {db next : Db} (wrote : Wrote db next) : Ledger db next := by
  cases wrote with
  | file id change keepsId stays => exact ledger_files (filesKept_updateWhere change keepsId rfl stays) rfl rfl
  | unmirrored pairId =>
    have cleared : FilesKept db (db.markDrivePairUnmirrored pairId) :=
      filesKept_updateWhere (fun file => { file with isMirrored := false }) (fun _ => rfl) rfl fun _ => ⟨rfl,rfl⟩
    exact ledger_files cleared rfl rfl
  | provenance pairId => exact ledger_files (filesKept_provenance db pairId) rfl rfl
  | created pairId relativePath checksum fileSize virtualPath direct viaFolder =>
    apply ledger_files (filesKept_created db _ _ _ _ _ _ _)
    · exact MarkerOrder.createTrackedFileWithSource_pairs db _ _ _ _ _ _ _
    · unfold Db.createTrackedFileWithSource
      split <;> rfl
  | untracked id =>
    refine ⟨filesKept_untracked db id,fun role other file _ found owed => ?_,fun _ _ _ rebuilds => rebuilds⟩
    obtain ⟨item,member,own,asked⟩ := owed
    refine ⟨item,List.mem_filter.mpr ⟨member,?_⟩,own,asked⟩
    have key : file.id = other := Table.find?_key found
    rw [Db.deleteTrackedFile,Db.removeTrackedFile,Table.find?_deleteWhere] at found
    have kept := (Option.filter_eq_some_iff.mp found).2
    change (!(item.trackedFileId == id)) = true
    rw [own,← key]
    exact kept
  | queued fileId action reason message =>
    refine ⟨filesKept_eq rfl,fun role id file _ _ owed => ?_,fun _ _ _ rebuilds => rebuilds⟩
    obtain ⟨item,member,rest⟩ := owed
    exact ⟨item,List.mem_append_left _ member,rest⟩
  | cleared =>
    refine ⟨filesKept_eq rfl,fun role id file _ _ owed => ?_,fun _ _ _ rebuilds => rebuilds⟩
    obtain ⟨item,member,own,asked,opened⟩ := owed
    exact ⟨item,List.mem_filter.mpr ⟨member,by simpa using opened⟩,own,asked,opened⟩
  | status p status message plain =>
    exact ⟨filesKept_eq rfl,fun _ _ _ _ _ owed => owed_status message plain owed,fun _ _ _ rebuilds => rebuilds⟩
  | runtime id pp sp ps ss active spares =>
    refine ⟨filesKept_eq rfl,fun _ _ _ _ _ owed => owed,fun pairId role root rebuilds => ?_⟩
    obtain ⟨pair,found,rebuilding,rooted⟩ := rebuilds
    by_cases own : pairId = id
    · subst own
      obtain ⟨still,path⟩ := spares pair found role rebuilding
      exact ⟨_,find?_updateDrivePairRuntime found _ _ _ _ _,still,path.trans rooted⟩
    · exact ⟨pair,(find?_updateDrivePairRuntime_other db own _ _ _ _ _).trans found,rebuilding,rooted⟩
  | elsewhere next pairs files queue => exact ledger_files (filesKept_eq files) pairs queue

theorem ledger_of_writes {w t : World} (writes : Writes w t) : Ledger w.db t.db := writes.keeps fun _ _ => ledger_wrote

/-! One call of the worker. -/

section
variable [Blake3]

omit [Blake3] in
theorem writes_itemStarted (item : SyncQueueItem) {file : TrackedFile} {pair : DrivePair} {w : World}
    (hasPair : w.db.getDrivePair file.drivePairId = .ok pair) : Writes w (itemStarted item pair w) := by
  have row := Db.getDrivePair_ok.mp hasPair
  have key : pair.id = file.drivePairId := Table.find?_key row
  exact (writes_operational (key.symm ▸ row)).tail (.status _ _ _ _ fun completed => by cases completed)

omit [Blake3] in
theorem given_finishItem {item : SyncQueueItem} (plain : rebuiltRole item.action = none) (file : TrackedFile)
    (pair : DrivePair) (result : Except String Unit) : Keeps (WritesGiven item.id) (finishItem item file pair result) := by
  cases result with
  | error message =>
    intro w before
    refine ⟨fun row found => ?_,writes_one (.status _ _ _ _ fun completed => by cases completed)⟩
    change ((w.db.updateSyncQueueStatus item.id .failed (some message)).syncQueue.find? item.id) = _ at found
    rw [Db.find?_updateSyncQueueStatus] at found
    obtain ⟨old,there,rfl⟩ := Option.map_eq_some_iff.mp found
    rw [if_pos rfl]
    exact before old there
  | ok _ =>
    refine keeps_bind (given_complete item.id) fun _ => ?_
    split
    · refine keeps_bind (given_execute fun db before => ⟨before,.file db file.id (fun file => { file with isMirrored := true })
        (fun _ => rfl) fun _ => ⟨rfl,rfl⟩⟩) fun _ => ?_
      refine keeps_bind (keeps_attempt (keeps_bind (given_still (Act.after_query _)) fun _ => ?_)) fun _ => keeps_pure _
      rw [plain]
      exact keeps_pure _
    · exact keeps_pure _

omit [Blake3] in
theorem fetched_row {db : Db} {item : SyncQueueItem} (isFetched : fetched db item = true) :
    ∃ row, db.syncQueue.find? item.id = some row ∧ row.trackedFileId = item.trackedFileId ∧ row.action = item.action := by
  unfold fetched at isFetched
  cases found : db.syncQueue.find? item.id with
  | none =>
    rw [found] at isFetched
    cases isFetched
  | some row =>
    rw [found,Option.any_some,Bool.and_eq_true,beq_iff_eq,beq_iff_eq] at isFetched
    exact ⟨row,rfl,isFetched⟩

theorem processItem_restores (io : Io) {item : SyncQueueItem} {w : World} (isFetched : fetched w.db item = true) :
    Writes w (after (processItem io item) w) ∨
    ∃ file pair role, ∃ t : World, w.db.getTrackedFile item.trackedFileId = .ok file ∧
      w.db.getDrivePair file.drivePairId = .ok pair ∧
      item.action = rebuildActionForRole role ∧ GoodAt t.disk (pair.copyOn role file.relativePath) file.checksum ∧
      t.db = (itemStarted item pair w).db ∧ after (processItem io item) w =
        { t with db := (itemFinished item file t.db).finalized (pair.operational w.disk) item.action } := by
  cases hasFile : w.db.getTrackedFile item.trackedFileId with
  | error message =>
    rw [after_of_error (processItem_noFile hasFile io)]
    exact .inl (refl_of Writes w)
  | ok file =>
    cases hasPair : w.db.getDrivePair file.drivePairId with
    | error message =>
      rw [after_of_error (processItem_noPair hasFile hasPair io)]
      exact .inl (refl_of Writes w)
    | ok pair =>
      have row := Db.getDrivePair_ok.mp hasPair
      have key : pair.id = file.drivePairId := Table.find?_key row
      cases runs : itemSkipped item pair w.disk with
      | true =>
        rw [after_of_ok (processItem_skipped hasFile hasPair runs)]
        exact .inl (writes_operational (key.symm ▸ row))
      | false =>
        have started := writes_itemStarted item hasPair
        have steps : processItem io item w = _ := processItem_started hasFile hasPair runs
        cases restores : rebuiltRole item.action with
        | none =>
          left
          have plain : PlainRow item.id (itemStarted item pair w).db := by
            intro other found
            obtain ⟨asked,there,_,same⟩ := fetched_row isFetched
            rw [find?_itemStarted_queue,there,Option.map_some,if_pos rfl,Option.some.injEq] at found
            rw [← found]
            change rebuiltRole (w.db.operationalRow w.disk pair asked).action = none
            unfold Db.operationalRow
            split <;> (rw [← same] at restores; exact restores)
          have kept : Keeps (WritesGiven item.id) (do
              let result ← runAction io item.action (pair.operational w.disk) file
              finishItem item file (pair.operational w.disk) result) :=
            keeps_bind (given_dbKept (dbKept_runAction io _ _ _)) fun result => given_finishItem restores file _ result
          rw [after,steps,← after]
          exact trans_of Writes started (kept _ plain).2
        | some role =>
          rcases restoringAction_cases io restores (pair.operational w.disk) file (itemStarted item pair w) with
            ⟨copy,_,_,_,good,kept,ran⟩ | ⟨_,t,kept,message,ran⟩
          · right
            have sets : item.action.setsMirrored = true := by
              rw [SyncAction.setsMirrored_eq,restores]
              exact Bool.or_true _
            refine ⟨file,pair,role,copy.left io (pair.operational w.disk) file,rfl,hasPair,rebuiltRole_iff.mp restores,?_,kept,
              processItem_after hasFile hasPair runs sets kept ran⟩
            have there := good role
            rwa [DrivePair.copyOn_operational] at there
          · left
            rw [after,steps,bind_of_ok ran,← after]
            have failed : Wrote t.db (after (finishItem item file (pair.operational w.disk) (.error message)) t).db :=
              .status _ _ _ _ fun completed => by cases completed
            rw [kept] at failed
            exact started.tail failed

omit [Blake3] in
theorem filesKept_markAllMirrored (db : Db) (files : List TrackedFile) : FilesKept db (markAllMirrored db files) := by
  induction files generalizing db with
  | nil => exact filesKept_refl db
  | cons file files ih =>
    have flagged : FilesKept db (db.updateTrackedFileMirrorStatus file.id true) :=
      filesKept_updateWhere (fun file => { file with isMirrored := true }) (fun _ => rfl) rfl fun _ => ⟨rfl,rfl⟩
    exact flagged.trans (ih _)

omit [Blake3] in
theorem filesKept_finalized (db : Db) (pair : DrivePair) (action : SyncAction) : FilesKept db (db.finalized pair action) := by
  unfold Db.finalized
  cases rebuildFinishes db pair action with
  | none => exact filesKept_refl db
  | some role =>
    have rebuilt : FilesKept db (db.rebuilt pair role) :=
      filesKept_updateWhere (fun file => { file with isMirrored := false }) (fun _ => rfl) rfl fun _ => ⟨rfl,rfl⟩
    dsimp only
    split
    · exact rebuilt
    · exact rebuilt.trans (filesKept_markAllMirrored _ _)

omit [Blake3] in
theorem filesKept_itemFinished (item : SyncQueueItem) (file : TrackedFile) (db : Db) :
    FilesKept db (itemFinished item file db) :=
  filesKept_updateWhere (fun file => { file with isMirrored := true }) (fun _ => rfl) rfl fun _ => ⟨rfl,rfl⟩

omit [Blake3] in
theorem setsFlags_finalized (db : Db) (pair : DrivePair) (action : SyncAction) :
    ∃ flag, Db.SetsFlags flag db (db.finalized pair action) := by
  unfold Db.finalized
  cases rebuildFinishes db pair action with
  | none => exact ⟨_,Db.setsFlags_of_eq rfl⟩
  | some role =>
    dsimp only
    split
    · exact ⟨_,setsFlags_rebuilt db pair role⟩
    · exact ⟨_,(setsFlags_rebuilt db pair role).trans (setsFlags_markAllMirrored _ _).1⟩

omit [Blake3] in
theorem rebuildsAt_finalized {db : Db} {pair : DrivePair} (action : SyncAction) {pairId : Nat} {role : DriveRole}
    {root : String} (found : db.drivePairs.find? pair.id = some pair) (rebuilds : RebuildsAt pairId role root db) :
    RebuildsAt pairId role root (db.finalized pair action) ∨
      (sideState (db.finalized pair action) pairId role = some .active ∧
        rebuildComplete (db.finalized pair action) pairId (rebuildActionForRole role) = true) := by
  obtain ⟨row,there,rebuilding,rooted⟩ := rebuilds
  by_cases own : pairId = pair.id
  · subst own
    obtain rfl : row = pair := Option.some.inj (there.symm.trans found)
    have state := sideState_finalized action found rebuilding
    have last := find?_finalized action found
    have root_kept : ((((rebuildFinishes db row action).map row.rebuilt).getD row)).pathForRole role = root := by
      cases rebuildFinishes db row action with
      | none => exact rooted
      | some finished =>
        rw [← rooted]
        cases role <;> rfl
    by_cases ends : action = rebuildActionForRole role ∧ rebuildComplete db row.id action = true
    · rw [if_pos ends] at state
      right
      refine ⟨state,?_⟩
      rw [rebuildComplete_finalized,← ends.1]
      exact ends.2
    · rw [if_neg ends,sideState,last,Option.map_some,Option.some.injEq] at state
      exact .inl ⟨_,last,state,root_kept⟩
  · exact .inl ⟨row,(find?_finalized_other db pair action own).trans there,rebuilding,rooted⟩

theorem processItem_ledger (io : Io) {item : SyncQueueItem} {w : World} (isFetched : fetched w.db item = true) :
    FilesKept w.db (after (processItem io item) w).db ∧ ∀ pairId role root, RebuildsAt pairId role root w.db →
      (∀ id file, id ≤ w.db.trackedFiles.lastId → (after (processItem io item) w).db.trackedFiles.find? id = some file →
        file.drivePairId = pairId → Owed role id w.db →
        Owed role id (after (processItem io item) w).db ∨ Verified pairId root id (after (processItem io item) w)) ∧
      (RebuildsAt pairId role root (after (processItem io item) w).db ∨
        (sideState (after (processItem io item) w).db pairId role = some .active ∧
          rebuildComplete (after (processItem io item) w).db pairId (rebuildActionForRole role) = true)) := by
  rcases processItem_restores io isFetched with writes | ⟨file,pair,restored,t,hasFile,hasPair,asked,good,kept,ends⟩
  · have ledger := ledger_of_writes writes
    exact ⟨ledger.files,fun pairId role root rebuilds => ⟨fun id file old found _ owed =>
      .inl (ledger.owed role id file old found owed),.inl (ledger.sides pairId role root rebuilds)⟩⟩
  · have started := ledger_of_writes (writes_itemStarted item hasPair)
    rw [← kept] at started
    have finished := filesKept_itemFinished item file t.db
    have finalized := filesKept_finalized (itemFinished item file t.db) (pair.operational w.disk) item.action
    have row : (itemFinished item file t.db).drivePairs.find? (pair.operational w.disk).id =
        some (pair.operational w.disk) := by
      rw [kept] at *
      exact find?_itemStarted item hasPair
    rw [ends]
    refine ⟨started.files.trans (finished.trans finalized),fun pairId role root rebuilds => ⟨?_,?_⟩⟩
    · intro id last old found own owed
      -- The row of the item is the only one that the end of the call closes.
      have middle : ∃ now, t.db.trackedFiles.find? id = some now := by
        obtain ⟨now,there,_⟩ := (finished.trans finalized).rows id last (old.trans started.files.lastId) found
        exact ⟨now,there⟩
      obtain ⟨now,there⟩ := middle
      obtain ⟨waiting,member,mine,action,opened⟩ := started.owed role id now old there owed
      by_cases same : waiting.id = item.id
      · right
        obtain ⟨stored,present,sameFile,sameAction⟩ := fetched_row isFetched
        have columns : waiting.trackedFileId = item.trackedFileId ∧ waiting.action = item.action := by
          have at_start := find?_itemStarted_queue item pair w item.id
          have there : t.db.syncQueue.find? waiting.id = some waiting := Table.find?_of_mem _ member
          rw [present,Option.map_some,if_pos rfl,← kept,← same,there,Option.some.injEq] at at_start
          rw [at_start]
          unfold Db.operationalRow
          split <;> exact ⟨sameFile,sameAction⟩
        have role_same : role = restored := by
          have restores := columns.2.symm.trans action
          rw [asked] at restores
          have both := rebuiltRole_iff.mpr restores
          rw [rebuiltRole_iff.mpr rfl,Option.some.injEq] at both
          exact both.symm
        subst role_same
        have id_same : item.trackedFileId = id := columns.1.symm.trans mine
        subst id_same
        have before := Db.getTrackedFile_ok.mp hasFile
        have fileKey : file.id = item.trackedFileId := Table.find?_key before
        obtain ⟨first,firstFlags,_⟩ := setsFlags_itemFinished item file pair w
        rw [← kept] at firstFlags
        obtain ⟨second,secondFlags⟩ := setsFlags_finalized (itemFinished item file t.db) (pair.operational w.disk) item.action
        have left := (firstFlags.trans secondFlags) item.trackedFileId
        rw [before,Option.map_some] at left
        cases left.symm.trans found
        refine ⟨_,found,own,?_⟩
        obtain ⟨pairRow,pairFound,_,rooted⟩ := rebuilds
        have here : w.db.drivePairs.find? pairId = some pair := own ▸ Db.getDrivePair_ok.mp hasPair
        obtain rfl : pairRow = pair := Option.some.inj (pairFound.symm.trans here)
        rw [← rooted]
        exact good
      · left
        refine ⟨waiting,?_,mine,action,opened⟩
        change waiting ∈ ((itemFinished item file t.db).finalized (pair.operational w.disk) item.action).syncQueue.rows
        rw [finalized_syncQueue]
        refine List.mem_map.mpr ⟨waiting,member,if_neg ?_⟩
        rw [beq_iff_eq]
        exact same
    · exact rebuildsAt_finalized item.action row (started.sides pairId role root rebuilds)

/-! Runs. -/

omit [Blake3] in
/-- What is asked of the program. The threads of a folder mirror and of an integrity run go file by file, with a pair that
they loaded earlier, and a batch holds items as they were when it was fetched. -/
inductive Call
  | trackFile (io : Io) (links : LinkAnswers) (resolve : String → Except String String) (pairId : Nat)
      (virtualPath : Option String)
  | addFolder (io : Io) (links : LinkAnswers) (resolve : String → Except String String) (isDir : Bool) (pairId : Nat)
      (virtualPath : Option String) (includeChecksumSidecars : Bool)
  | scanFolder (io : Io) (counted walk : Walk) (folderId : Nat)
  | scanFolderCommand (io : Io) (walk : Walk) (folderId : Nat)
  | detectChanges (io : Io) (pair : DrivePair)
  | mirrorFile (io : Io) (fileId : Nat)
  | startMirrorFolder (folderId : Nat)
  | mirrorFolderFile (io : Io) (pair : DrivePair) (file : TrackedFile)
  | recover (io : Io) (pair : DrivePair) (file : TrackedFile) (result : IntegrityCheckResult)
  | resolveQueueItem (io : Io) (itemId : Nat) (resolution : String) (newFilePath : Option Location)
  | deleteFile (calls : VirtualPath.LinkCalls) (fileId : Nat)
  | untrackCommand (calls : VirtualPath.LinkCalls) (fileId : Nat)
  | untrackFolder (calls : VirtualPath.LinkCalls) (folderId : Nat)
  | markDriveQuiescing (pairId : Nat) (role : DriveRole)
  | cancelDriveQuiescing (pairId : Nat) (role : DriveRole)
  | confirmDriveFailure (pairId : Nat) (role : DriveRole)
  | assignReplacementDrive (io : Io) (pairId : Nat) (role : DriveRole) (newPath : String)
  | loadOperationalPair (pairId : Nat)
  | requeueInProgress
  | createSyncQueueItem (fileId : Nat) (action : SyncAction)
  | createFromIntegrityFailure (file : TrackedFile) (result : IntegrityCheckResult)
  | clearCompletedSyncQueue
  | processItem (io : Io) (item : SyncQueueItem)

namespace Call
open VirtualRetarget

def run : Call → LinkedAct Unit
  | .trackFile io links resolve pairId virtualPath => inWorld (trackFileRoute io links resolve pairId virtualPath)
  | .addFolder io links resolve isDir pairId virtualPath includeChecksumSidecars =>
    inWorld (addFolderRoute io links resolve isDir pairId virtualPath includeChecksumSidecars)
  | .scanFolder io counted walk folderId => inWorld (scanFolderRoute io counted walk folderId)
  | .scanFolderCommand io walk folderId => inWorld (BitProtector.scanFolderCommand io walk folderId)
  | .detectChanges io pair => inWorld (scanAndRecordChanges io pair)
  | .mirrorFile io fileId => inWorld (mirrorFileRoute io fileId)
  | .startMirrorFolder folderId => do let _ ← inWorld (BitProtector.startMirrorFolder folderId)
  | .mirrorFolderFile io pair file => inWorld (BitProtector.mirrorFolderFile io pair file)
  | .recover io pair file result => do let _ ← inWorld (attemptRecoveryWithReconciliation io pair file result)
  | .resolveQueueItem io itemId resolution newFilePath => do
    let _ ← inWorld (BitProtector.resolveQueueItem io itemId resolution newFilePath)
  | .deleteFile calls fileId => VirtualAssignment.deleteFile calls fileId
  | .untrackCommand calls fileId => VirtualAssignment.untrackCommand calls fileId
  | .untrackFolder calls folderId => do let _ ← FolderProvenance.untrackFolderCascade calls folderId
  | .markDriveQuiescing pairId role => do let _ ← inWorld (BitProtector.markDriveQuiescing pairId role)
  | .cancelDriveQuiescing pairId role => do let _ ← inWorld (BitProtector.cancelDriveQuiescing pairId role)
  | .confirmDriveFailure pairId role => do let _ ← inWorld (BitProtector.confirmDriveFailure pairId role)
  | .assignReplacementDrive io pairId role newPath => do
    let _ ← inWorld (BitProtector.assignReplacementDrive io pairId role newPath)
  | .loadOperationalPair pairId => do let _ ← inWorld (BitProtector.loadOperationalPair pairId)
  | .requeueInProgress => inWorld (Act.execute Db.requeueInProgressSyncQueue)
  | .createSyncQueueItem fileId action => do
    let _ ← inWorld (Act.insert (fun db => db.createSyncQueueItem fileId action none none))
  | .createFromIntegrityFailure file result => do
    let _ ← inWorld (IntegrityRepairs.createFromIntegrityFailure file result)
  | .clearCompletedSyncQueue => inWorld (Act.execute TableWrites.clearCompletedSyncQueue)
  | .processItem io item => inWorld (BitProtector.processItem io item)

omit [Blake3] in
/-- The item of a call of the worker. -/
def item : Call → Option SyncQueueItem
  | .processItem _ item => some item
  | _ => none

omit [Blake3] in
theorem writes_drop {α : Type} {x : Act α} (inner : Keeps Writes x) :
    Keeps LinkedWrites (do let _ ← inWorld x; pure PUnit.unit) :=
  keeps_bind (writes_inWorld inner) fun _ => keeps_pure _

theorem writes {call : Call} (other : call.item = none) : Keeps LinkedWrites call.run := by
  cases call with
  | trackFile io links resolve pairId virtualPath => exact writes_inWorld (writes_trackFileRoute io links resolve pairId _)
  | addFolder io links resolve isDir pairId virtualPath sidecars =>
    exact writes_inWorld (writes_addFolderRoute io links resolve isDir pairId _ _)
  | scanFolder io counted walk folderId => exact writes_inWorld (writes_scanFolderRoute io counted walk folderId)
  | scanFolderCommand io walk folderId => exact writes_inWorld (writes_scanFolderCommand io walk folderId)
  | detectChanges io pair => exact writes_inWorld (writes_scanAndRecordChanges io pair)
  | mirrorFile io fileId => exact writes_inWorld (writes_mirrorFileRoute io fileId)
  | startMirrorFolder folderId => exact writes_drop (writes_startMirrorFolder folderId)
  | mirrorFolderFile io pair file => exact writes_inWorld (writes_mirrorFolderFile io pair file)
  | recover io pair file result => exact writes_drop (writes_recovery io pair file result)
  | resolveQueueItem io itemId resolution newFilePath =>
    exact writes_drop (writes_resolveQueueItem io itemId resolution newFilePath)
  | deleteFile calls fileId => exact writes_deleteFile calls fileId
  | untrackCommand calls fileId => exact writes_untrackCommand calls fileId
  | untrackFolder calls folderId => exact keeps_bind (writes_untrackFolderCascade calls folderId) fun _ => keeps_pure _
  | markDriveQuiescing pairId role => exact writes_drop (writes_markDriveQuiescing pairId role)
  | cancelDriveQuiescing pairId role => exact writes_drop (writes_cancelDriveQuiescing pairId role)
  | confirmDriveFailure pairId role => exact writes_drop (writes_confirmDriveFailure pairId role)
  | assignReplacementDrive io pairId role newPath => exact writes_drop (writes_assignReplacementDrive io pairId role newPath)
  | loadOperationalPair pairId => exact writes_drop (writes_load pairId)
  | requeueInProgress =>
    exact writes_inWorld (writes_reopened (fun _ item => item.status == .inProgress) .pending none
      (fun completed => by cases completed) fun _ => rfl)
  | createSyncQueueItem fileId action => exact writes_drop (writes_insert fun db => .queued db fileId action none none)
  | createFromIntegrityFailure file result =>
    refine writes_drop ?_
    unfold IntegrityRepairs.createFromIntegrityFailure
    split
    · exact keeps_pure _
    · exact keeps_bind (writes_enqueue file.id _ none none fun _ => rfl) fun _ => keeps_pure _
  | clearCompletedSyncQueue => exact writes_inWorld (writes_execute fun db => .cleared db)
  | processItem io item => cases other

end Call

omit [Blake3] in
/-- A state of the program, and those it came through. -/
structure Timeline where
  now : VirtualRetarget.Linked
  past : List VirtualRetarget.Linked

namespace Timeline

omit [Blake3] in
def seen (s : Timeline) : List VirtualRetarget.Linked := s.now::s.past

omit [Blake3] in
/-- The disks may be anything when a call is made. -/
def onDisk (disk : Disk) (s : Timeline) : VirtualRetarget.Linked := { s.now with world := { s.now.world with disk } }

end Timeline

/-- A call on the disks as they are then; one that is refused keeps what it has written. -/
def step : Disk × Call → Timeline → Option Timeline
  | (disk,call), s =>
    if call.item.all (fetched s.now.world.db) then some ⟨after call.run (s.onDisk disk),s.seen⟩ else none

def machine : Machine Timeline (Disk × Call) := ⟨step⟩

/-- The side is rebuilding below the root, and each file up to the bound is owed a restore or has been verified. -/
structure UnderWay (pairId : Nat) (role : DriveRole) (root : String) (bound : Nat) (s : Timeline) : Prop where
  rebuilds : RebuildsAt pairId role root s.now.world.db
  bounded : bound ≤ s.now.world.db.trackedFiles.lastId
  accounted : ∀ id file, id ≤ bound → s.now.world.db.trackedFiles.find? id = some file → file.drivePairId = pairId →
    Owed role id s.now.world.db ∨ ∃ u ∈ s.seen, Verified pairId root id u.world

theorem step_ledger {disk : Disk} {call : Call} {s t : Timeline} (taken : step (disk,call) s = some t) :
    t.past = s.seen ∧ FilesKept s.now.world.db t.now.world.db ∧ ∀ pairId role root, RebuildsAt pairId role root s.now.world.db →
      (∀ id file, id ≤ s.now.world.db.trackedFiles.lastId → t.now.world.db.trackedFiles.find? id = some file →
        file.drivePairId = pairId → Owed role id s.now.world.db →
        Owed role id t.now.world.db ∨ Verified pairId root id t.now.world) ∧
      (RebuildsAt pairId role root t.now.world.db ∨ (sideState t.now.world.db pairId role = some .active ∧
        rebuildComplete t.now.world.db pairId (rebuildActionForRole role) = true)) := by
  rw [RebuildLedger.step] at taken
  split at taken
  · rename_i isFetched
    cases taken
    refine ⟨rfl,?_⟩
    by_cases other : call.item = none
    · have ledger := ledger_of_writes (Call.writes other (s.onDisk disk))
      exact ⟨ledger.files,fun pairId role root rebuilds => ⟨fun id file old found _ owed =>
        .inl (ledger.owed role id file old found owed),.inl (ledger.sides pairId role root rebuilds)⟩⟩
    · obtain ⟨io,item,rfl⟩ : ∃ io item, call = .processItem io item := by
        cases call <;> first | exact absurd rfl other | exact ⟨_,_,rfl⟩
      have ledger := processItem_ledger io (w := (s.onDisk disk).world) isFetched
      rw [Call.run,(VirtualRetarget.erases_inWorld (processItem io item)).after]
      exact ledger
  · cases taken

theorem UnderWay.step {pairId : Nat} {role : DriveRole} {root : String} {bound : Nat} {label : Disk × Call} {s t : Timeline}
    (under_way : UnderWay pairId role root bound s) (taken : machine.step label s = some t) :
    (∀ id file, id ≤ bound → t.now.world.db.trackedFiles.find? id = some file → file.drivePairId = pairId →
      Owed role id t.now.world.db ∨ ∃ u ∈ t.seen, Verified pairId root id u.world) ∧
    bound ≤ t.now.world.db.trackedFiles.lastId ∧
    (RebuildsAt pairId role root t.now.world.db ∨ (sideState t.now.world.db pairId role = some .active ∧
        rebuildComplete t.now.world.db pairId (rebuildActionForRole role) = true)) := by
  obtain ⟨disk,call⟩ := label
  obtain ⟨past,files,each⟩ := step_ledger taken
  obtain ⟨owed,side⟩ := each pairId role root under_way.rebuilds
  refine ⟨fun id file small found own => ?_,under_way.bounded.trans files.lastId,side⟩
  have old := small.trans under_way.bounded
  obtain ⟨before,there,pair,_⟩ := files.rows id file old found
  rcases under_way.accounted id before small there (pair.trans own) with waits | ⟨u,seen,verified⟩
  · exact (owed id file old found own waits).imp_right fun verified => ⟨t.now,List.mem_cons_self,verified⟩
  · refine .inr ⟨u,?_,verified⟩
    rw [Timeline.seen,past]
    exact List.mem_cons_of_mem _ seen

omit [Blake3] in
theorem not_rebuilds_of_active {pairId : Nat} {role : DriveRole} {root : String} {db : Db}
    (active : sideState db pairId role = some .active) : ¬RebuildsAt pairId role root db := by
  rintro ⟨pair,found,rebuilding,_⟩
  rw [sideState,found,Option.map_some,rebuilding] at active
  cases active

theorem underWay_of_reaches {pairId : Nat} {role : DriveRole} {root : String} {bound : Nat} {start s : Timeline}
    (initial : UnderWay pairId role root bound start)
    (reached : machine.Reaches (fun _ s => sideState s.now.world.db pairId role = some .rebuilding) start s)
    (rebuilding : sideState s.now.world.db pairId role = some .rebuilding) : UnderWay pairId role root bound s := by
  have either : UnderWay pairId role root bound s ∨ sideState s.now.world.db pairId role = some .active := by
    apply reached.invariant (.inl initial)
    intro label s t holds met taken
    rcases holds with under_way | active
    · obtain ⟨accounted,bounded,rebuilds | ⟨active,_⟩⟩ := under_way.step taken
      · exact .inl ⟨rebuilds,bounded,accounted⟩
      · exact .inr active
    · rw [met] at active
      cases active
  refine either.resolve_right fun active => ?_
  rw [rebuilding] at active
  cases active

omit [Blake3] in
theorem owed_insert (role : DriveRole) (fileId : Nat) (db : Db) :
    Owed role fileId (db.createSyncQueueItemDedupWithCreated fileId (rebuildActionForRole role) none none).2 := by
  unfold Db.createSyncQueueItemDedupWithCreated
  cases opened : db.openSyncQueueItem fileId (rebuildActionForRole role) none with
  | some item =>
    have agrees := List.find?_some opened
    simp only [Bool.and_eq_true,beq_iff_eq] at agrees
    obtain ⟨⟨⟨own,asked⟩,isOpen⟩,_⟩ := agrees
    refine ⟨item,List.mem_of_find?_eq_some opened,own,asked,fun completed => ?_⟩
    rw [completed] at isOpen
    cases isOpen
  | none => exact ⟨_,List.mem_append_right _ (List.mem_singleton.mpr rfl),rfl,rfl,fun completed => by cases completed⟩

omit [Blake3] in
theorem rebuildQueued_owes (role : DriveRole) (files : List TrackedFile) (db : Db) :
    (rebuildQueued (rebuildActionForRole role) files db).2.trackedFiles = db.trackedFiles ∧
      (∀ id, Owed role id db → Owed role id (rebuildQueued (rebuildActionForRole role) files db).2) ∧
      ∀ file ∈ files, Owed role file.id (rebuildQueued (rebuildActionForRole role) files db).2 := by
  induction files generalizing db with
  | nil => exact ⟨rfl,fun _ owed => owed,fun _ member => absurd member List.not_mem_nil⟩
  | cons file files ih =>
    let next := (db.createSyncQueueItemDedupWithCreated file.id (rebuildActionForRole role) none none).2
    have frame := (db.createSyncQueueItemDedupWithCreated_frame file.id (rebuildActionForRole role) none none).2
    obtain ⟨same,kept,listed⟩ := ih next
    refine ⟨same.trans frame,fun id owed => kept id ?_,fun other member => ?_⟩
    · obtain ⟨item,there,rest⟩ := owed
      refine ⟨item,?_,rest⟩
      change item ∈ (db.createSyncQueueItemDedupWithCreated file.id (rebuildActionForRole role) none none).2.syncQueue.rows
      unfold Db.createSyncQueueItemDedupWithCreated
      split
      · exact there
      · exact List.mem_append_left _ there
    · rcases List.mem_cons.mp member with rfl | member
      · exact kept _ (owed_insert role other.id db)
      · exact listed other member

omit [Blake3] in
theorem assigned_owes {io : Io} {pairId : Nat} {role : DriveRole} {newPath : String} {result : DrivePair × Nat} {w t : World}
    (replaced : assignReplacementDrive io pairId role newPath w = .ok result t) :
    RebuildsAt pairId role newPath t.db ∧ ∀ id file, t.db.trackedFiles.find? id = some file →
      file.drivePairId = pairId → Owed role id t.db := by
  obtain ⟨_,tables⟩ := assignReplacementDrive_db replaced
  obtain ⟨pair,_,_,row⟩ := assignReplacementDrive_ok replaced
  obtain ⟨same,_,listed⟩ := rebuildQueued_owes role ((assigned pairId role newPath w.db).listTrackedFilesOfPair pairId)
    (assigned pairId role newPath w.db)
  refine ⟨⟨pair.replaced role newPath,row,?_,?_⟩,fun id file found own => ?_⟩
  · cases role <;> rfl
  · cases role <;> rfl
  · rw [tables,same] at found
    rw [tables]
    have key : file.id = id := Table.find?_key found
    rw [← key]
    exact listed file (Db.mem_listTrackedFilesOfPair.mpr ⟨key ▸ found,own⟩)

/-- Whatever is asked of the program between the assignment of a replacement and the call that makes the side active,
each file that was tracked at the assignment and still is has had its recorded content on the new drive. -/
theorem rebuild_skips_no_file {io : Io} {pairId : Nat} {role : DriveRole} {newPath : String} {result : DrivePair × Nat}
    {w start : World} {links : VirtualPath.VirtualTree} {label : Disk × Call} {s t : Timeline}
    (replaced : assignReplacementDrive io pairId role newPath w = .ok result start)
    (reached : machine.Reaches (fun _ s => sideState s.now.world.db pairId role = some .rebuilding) ⟨⟨start,links⟩,[]⟩ s)
    (rebuilding : sideState s.now.world.db pairId role = some .rebuilding) (taken : machine.step label s = some t)
    (active : sideState t.now.world.db pairId role = some .active) :
    ∀ file ∈ t.now.world.db.listTrackedFilesOfPair pairId, file.id ≤ start.db.trackedFiles.lastId →
      ∃ u ∈ t.seen, Verified pairId newPath file.id u.world := by
  obtain ⟨rebuilds,owes⟩ := assigned_owes replaced
  have initial : UnderWay pairId role newPath start.db.trackedFiles.lastId ⟨⟨start,links⟩,[]⟩ :=
    ⟨rebuilds,Nat.le_refl _,fun id file _ found own => .inl (owes id file found own)⟩
  obtain ⟨accounted,_,side⟩ := (underWay_of_reaches initial reached rebuilding).step taken
  have complete := (side.resolve_left (not_rebuilds_of_active active)).2
  intro file listed old
  obtain ⟨found,own⟩ := Db.mem_listTrackedFilesOfPair.mp listed
  refine (accounted file.id file old found own).resolve_left ?_
  rintro ⟨item,member,same,asked,opened⟩
  refine rebuildComplete_iff.mp complete item member ⟨asked,?_,opened⟩
  rw [same]
  exact Db.ofDrivePair_iff.mpr ⟨file,found,own⟩

end

/-! The failed primary side of a pair with one file is replaced. -/

def brokenWorld : World where
  db := (failedWorld oneFile).db
  disk := { corruptedWorld.disk with available := fun _ => true }

def restoreItem : SyncQueueItem := ⟨1,1,.restoreMaster,.pending,none,none⟩

theorem rebuild_skips_no_file_replaced :
    letI := sampleBlake3
    ∃ result start t, assignReplacementDrive Io.healthy 1 .primary "/replacement" brokenWorld = .ok result start ∧
      machine.step (start.disk,.processItem Io.healthy restoreItem) ⟨⟨start,fun _ => none⟩,[]⟩ = some t ∧
      sideState t.now.world.db 1 .primary = some .active ∧ ∀ file ∈ t.now.world.db.listTrackedFilesOfPair 1,
        file.id ≤ start.db.trackedFiles.lastId → ∃ u ∈ t.seen, Verified 1 "/replacement" file.id u.world := by
  let _ := sampleBlake3
  obtain ⟨result,start,replaced,isFetched,before,ends⟩ : ∃ result start,
      assignReplacementDrive Io.healthy 1 .primary "/replacement" brokenWorld = .ok result start ∧
      fetched start.db restoreItem = true ∧ sideState start.db 1 .primary = some .rebuilding ∧
      sideState (after (processItem Io.healthy restoreItem) start).db 1 .primary = some .active :=
    ⟨_,_,rfl,rfl,rfl,by decide⟩
  have taken : machine.step (start.disk,.processItem Io.healthy restoreItem) ⟨⟨start,fun _ => none⟩,[]⟩ = some _ :=
    if_pos isFetched
  have active := ends
  rw [← (VirtualRetarget.erases_inWorld (processItem Io.healthy restoreItem)).after ⟨start,fun _ => none⟩] at active
  exact ⟨result,start,_,replaced,taken,active,rebuild_skips_no_file replaced .start before taken active⟩

end BitProtector.RebuildLedger
