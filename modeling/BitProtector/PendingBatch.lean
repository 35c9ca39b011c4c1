import BitProtector.Repository

/-! The batch of pending items that a drain works off: the pairs take turns, and each pair
is served in the order of its queue. -/
namespace BitProtector.PendingBatch

/-- `list_pending_sync_queue_with_drive_pair` at any limit; to `LIMIT` a number below zero is none. -/
def listPendingSyncQueueWithDrivePair (db : Db) (limit : Int) : List (Nat × SyncQueueItem) :=
  if limit < 0 then db.listPendingSyncQueueWithDrivePair db.pendingSyncQueue.length
  else db.listPendingSyncQueueWithDrivePair limit.toNat

/-- The pending items of a pair, as they were queued. -/
def pendingOf (db : Db) (drivePairId : Nat) : List SyncQueueItem :=
  FairPaging.share db.queueDrivePairId db.pendingSyncQueue drivePairId

/-- The items of a batch that are reported for a pair. -/
def taken (batch : List (Nat × SyncQueueItem)) (drivePairId : Nat) : List SyncQueueItem :=
  (batch.filter (fun entry => entry.1 = drivePairId)).map Prod.snd

def pendingPairs (db : Db) : List Nat := (db.pendingSyncQueue.map db.queueDrivePairId).dedup

structure Fair (db : Db) (limit : Int) (batch : List (Nat × SyncQueueItem)) : Prop where
  pending : ∀ entry ∈ batch, entry.2 ∈ db.pendingSyncQueue ∧ entry.1 = db.queueDrivePairId entry.2
  distinct : (batch.map (fun entry => entry.2.id)).Nodup
  number : (batch.length : Int) =
    if limit < 0 then (db.pendingSyncQueue.length : Int) else min limit db.pendingSyncQueue.length
  ascending : ∀ pair, (pendingOf db pair).Pairwise (fun a b => a.id < b.id)
  in_order : ∀ pair, taken batch pair <+: pendingOf db pair
  balanced : ∀ pair other, (taken batch other).length ≤ (taken batch pair).length + 1 ∨ taken batch pair = pendingOf db pair
  represented : limit < 0 ∨ (pendingPairs db).length ≤ limit →
    ∀ item ∈ db.pendingSyncQueue, ∃ entry ∈ batch, entry.1 = db.queueDrivePairId item

theorem pendingSyncQueue_ascending (db : Db) : db.pendingSyncQueue.Pairwise (fun a b => a.id < b.id) :=
  db.syncQueue.ascending.filter _

theorem taken_page (db : Db) (size drivePairId : Nat) :
    taken (db.listPendingSyncQueueWithDrivePair size) drivePairId =
      FairPaging.share db.queueDrivePairId
        (FairPaging.page db.queueDrivePairId SyncQueueItem.id size db.pendingSyncQueue) drivePairId := by
  unfold taken Db.listPendingSyncQueueWithDrivePair FairPaging.share
  rw [List.filter_map,List.map_map]
  exact List.map_id _

theorem in_order_of_size (db : Db) (size drivePairId : Nat) :
    taken (db.listPendingSyncQueueWithDrivePair size) drivePairId <+: pendingOf db drivePairId := by
  rw [taken_page]
  exact FairPaging.share_page_isPrefix (pendingSyncQueue_ascending db) drivePairId

theorem balanced_of_size (db : Db) (size drivePairId other : Nat) :
    (taken (db.listPendingSyncQueueWithDrivePair size) other).length ≤
        (taken (db.listPendingSyncQueueWithDrivePair size) drivePairId).length + 1 ∨
      taken (db.listPendingSyncQueueWithDrivePair size) drivePairId = pendingOf db drivePairId := by
  by_cases left : ∃ item ∈ db.pendingSyncQueue, db.queueDrivePairId item = drivePairId ∧
      item ∉ FairPaging.page db.queueDrivePairId SyncQueueItem.id size db.pendingSyncQueue
  · left
    obtain ⟨item,member,own,outside⟩ := left
    rw [taken_page,taken_page]
    exact FairPaging.share_page_balanced db.pendingSyncQueue_distinct other member own outside
  · right
    apply (in_order_of_size db size drivePairId).eq_of_length_le
    apply List.Nodup.length_le_of_subset (FairPaging.share_nodup (.of_map _ db.pendingSyncQueue_distinct) drivePairId)
    intro item listed
    obtain ⟨member,own⟩ := FairPaging.mem_share.mp listed
    rw [taken_page]
    refine FairPaging.mem_share.mpr ⟨?_,own⟩
    by_contra outside
    exact left ⟨item,member,own,outside⟩

theorem represented_of_size {db : Db} {size : Nat} (room : (pendingPairs db).length ≤ size) {item : SyncQueueItem}
    (member : item ∈ db.pendingSyncQueue) :
    ∃ entry ∈ db.listPendingSyncQueueWithDrivePair size, entry.1 = db.queueDrivePairId item := by
  obtain ⟨other,early,together⟩ := FairPaging.page_represents db.pendingSyncQueue_distinct room member
  exact ⟨_,List.mem_map_of_mem early,together⟩

theorem length_of_size (db : Db) (size : Nat) :
    (db.listPendingSyncQueueWithDrivePair size).length = min size db.pendingSyncQueue.length := by
  rw [Db.listPendingSyncQueueWithDrivePair,List.length_map,FairPaging.page_length]

theorem fair_of_size {db : Db} {limit : Int} {size : Nat}
    (fits : if limit < 0 then size = db.pendingSyncQueue.length else (size : Int) = limit) :
    Fair db limit (db.listPendingSyncQueueWithDrivePair size) := by
  constructor
  · intro entry listed
    obtain ⟨item,early,rfl⟩ := List.mem_map.mp listed
    exact ⟨FairPaging.page_subset early,rfl⟩
  · rw [Db.listPendingSyncQueueWithDrivePair,List.map_map]
    have nodup := @FairPaging.page_nodup _ _ _ db.queueDrivePairId SyncQueueItem.id db.pendingSyncQueue size
      (.of_map _ db.pendingSyncQueue_distinct)
    refine (List.nodup_map_iff_inj_on nodup).mpr fun a first b second same => ?_
    exact FairPaging.key_injective db.pendingSyncQueue_distinct (FairPaging.page_subset first)
      (FairPaging.page_subset second) same
  · rw [length_of_size]
    split at fits <;> omega
  · exact fun pair => (pendingSyncQueue_ascending db).filter _
  · exact in_order_of_size db size
  · exact balanced_of_size db size
  · intro room item member
    refine represented_of_size ?_ member
    have few : (pendingPairs db).length ≤ db.pendingSyncQueue.length := by
      rw [pendingPairs,← List.length_map db.queueDrivePairId]
      exact (List.dedup_sublist _).length_le
    split at fits <;> omega

/-- At every limit the pairs share the batch fairly. -/
theorem pending_batch_fair (db : Db) (limit : Int) : Fair db limit (listPendingSyncQueueWithDrivePair db limit) := by
  unfold listPendingSyncQueueWithDrivePair
  split
  · rename_i below
    exact fair_of_size (by rw [if_pos below])
  · rename_i above
    exact fair_of_size (by rw [if_neg above]; omega)

end BitProtector.PendingBatch
