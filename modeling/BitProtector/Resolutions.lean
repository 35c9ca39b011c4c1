import BitProtector.SymlinkSync

/-! The resolution of an item, after what it reads and checks first. -/
namespace BitProtector.Resolutions
open Effect SymlinkSync

/-- A call that gets as far as loading the pair. -/
structure Admitted (db : Db) (itemId : Nat) (item : SyncQueueItem) (file : TrackedFile) (pair : DrivePair) : Prop where
  listed : db.syncQueue.find? itemId = some item
  waits : item.action = .userActionRequired
  pending : item.status = .pending
  tracked : db.trackedFiles.find? item.trackedFileId = some file
  paired : db.drivePairs.find? file.drivePairId = some pair

/-- The world after the pair was loaded. -/
def loaded (pair : DrivePair) (w : World) : World := { w with db := w.db.operational w.disk pair }

section
variable [Blake3] {io : Io} {itemId : Nat} {resolution : String} {newFilePath : Option Location} {item : SyncQueueItem}
  {file : TrackedFile} {pair : DrivePair} {w t : World}

omit [Blake3] in
theorem Admitted.id (admitted : Admitted w.db itemId item file pair) : item.id = itemId := Table.find?_key admitted.listed

omit [Blake3] in
theorem Admitted.fileId (admitted : Admitted w.db itemId item file pair) : file.id = item.trackedFileId :=
  Table.find?_key admitted.tracked

theorem resolveQueueItem_admitted (admitted : Admitted w.db itemId item file pair) :
    resolveQueueItem io itemId resolution newFilePath w =
      resolveLoaded io item file (pair.operational w.disk) resolution newFilePath (loaded pair w) := by
  obtain rfl := admitted.id
  have readItem : Act.query (fun db => db.getSyncQueueItem item.id) w = .ok item w := by
    simp only [Act.query,Db.getSyncQueueItem_ok.mpr admitted.listed]
  have readFile : Act.query (fun db => db.getTrackedFile item.trackedFileId) w = .ok file w := by
    simp only [Act.query,Db.getTrackedFile_ok.mpr admitted.tracked]
  unfold resolveQueueItem
  rw [bind_of_ok readItem]
  dsimp only
  rw [admitted.waits,admitted.pending,beq_self_eq_true,bind_of_ok (Act.ensure_true _ _),beq_self_eq_true,
    bind_of_ok (Act.ensure_true _ _),bind_of_ok readFile,
    bind_of_ok (loadOperationalPair_run (Db.getDrivePair_ok.mpr admitted.paired))]
  rfl

theorem resolveQueueItem_success {value : SyncQueueItem}
    (ok : resolveQueueItem io itemId resolution newFilePath w = .ok value t) :
    ∃ item file pair, Admitted w.db itemId item file pair ∧
      resolveLoaded io item file (pair.operational w.disk) resolution newFilePath (loaded pair w) = .ok value t := by
  have whole := ok
  unfold resolveQueueItem at ok
  obtain ⟨item,_,readItem,afterItem⟩ := bind_success ok
  obtain ⟨listed,rfl⟩ := Act.query_success readItem
  dsimp only at afterItem
  obtain ⟨_,_,isWaiting,afterAction⟩ := bind_success afterItem
  obtain ⟨waits,rfl⟩ := Act.ensure_success isWaiting
  obtain ⟨_,_,isPending,afterStatus⟩ := bind_success afterAction
  obtain ⟨pending,rfl⟩ := Act.ensure_success isPending
  obtain ⟨file,_,readFile,afterFile⟩ := bind_success afterStatus
  obtain ⟨tracked,rfl⟩ := Act.query_success readFile
  obtain ⟨_,_,load,_⟩ := bind_success afterFile
  obtain ⟨pair,paired,_,_⟩ := loadOperationalPair_success load
  have admitted : Admitted _ itemId item file pair :=
    ⟨Db.getSyncQueueItem_ok.mp listed,eq_of_beq waits,eq_of_beq pending,Db.getTrackedFile_ok.mp tracked,
      Db.getDrivePair_ok.mp paired⟩
  exact ⟨item,file,pair,admitted,(resolveQueueItem_admitted admitted).symm.trans whole⟩

/-- The reason of an item and the resolution fit each other. -/
def fits (item : SyncQueueItem) (resolution : String) : Bool :=
  (item.reason == some b3SidecarMismatchReason) == sidecarResolution resolution

theorem resolveLoaded_success {value : SyncQueueItem}
    (ok : resolveLoaded io item file pair resolution newFilePath w = .ok value t) : fits item resolution = true := by
  unfold resolveLoaded at ok
  obtain ⟨_,_,checkReason,afterReason⟩ := bind_success ok
  obtain ⟨first,rfl⟩ := Act.ensure_success checkReason
  obtain ⟨_,_,checkKind,_⟩ := bind_success afterReason
  obtain ⟨second,_⟩ := Act.ensure_success checkKind
  unfold fits
  revert first second
  cases item.reason == some b3SidecarMismatchReason <;> cases sidecarResolution resolution <;> decide

theorem resolveLoaded_fits (suits : fits item resolution = true) :
    resolveLoaded io item file pair resolution newFilePath w =
      (if resolution = "accept_current" then acceptCurrent io item file pair
        else if resolution = "untrack" then untrack item file
        else do
          resolutionCopy io file pair resolution newFilePath
          Act.execute (fun db => db.updateSyncQueueStatus item.id .completed none)
          Act.execute (fun db => db.updateTrackedFileMirrorStatus file.id true)
          Act.query (fun db => db.getSyncQueueItem item.id)) w := by
  unfold resolveLoaded
  unfold fits at suits
  cases reason : item.reason == some b3SidecarMismatchReason <;>
    cases kind : sidecarResolution resolution <;> rw [reason,kind] at suits
  · rfl
  · cases suits
  · cases suits
  · rfl

end

end BitProtector.Resolutions
