import BitProtector.QueueDrain

/-! When a drain ends and what it leaves. The items that no worker moves (those for the
user, and those whose drives are quiescing or gone) gather at the head of the queue:
a stuck one on the first page keeps the loop going, a page of the others ends it. -/
namespace BitProtector.QueueDrain
open ProcessingLock

section
variable [Blake3]

omit [Blake3] in
theorem GroupOrder.mem_iff {items : List (Nat × SyncQueueItem)} (order : GroupOrder items) (entry : Nat × SyncQueueItem) :
    entry ∈ order.calls ↔ entry ∈ items := by
  have own (entries : List (Nat × SyncQueueItem)) : entry ∈ entries ↔ entry ∈ entries.filter (·.1 == entry.1) := by
    simp [List.mem_filter]
  rw [own order.calls,order.keepsOrder,← own items]

/-- The items of a page. -/
def frontPage (db : Db) : List SyncQueueItem :=
  FairPaging.page db.queueDrivePairId SyncQueueItem.id drainPageSize db.pendingSyncQueue

/-- How many of `items` come before one of them in the order of the pages. -/
def before (db : Db) (items : List SyncQueueItem) (item : SyncQueueItem) : Nat :=
  (FairPaging.ahead db.queueDrivePairId SyncQueueItem.id items item).length

omit [Blake3] in
theorem mem_calls (env : Environment) (pass : Nat) (db : Db) (item : SyncQueueItem) :
    item ∈ (env.order pass (db.listPendingSyncQueueWithDrivePair drainPageSize)).calls.map Prod.snd ↔
      item ∈ frontPage db := by
  simp only [List.mem_map,GroupOrder.mem_iff,Db.listPendingSyncQueueWithDrivePair,frontPage]
  constructor
  · rintro ⟨_,⟨other,listed,rfl⟩,rfl⟩
    exact listed
  · intro listed
    exact ⟨_,⟨item,listed,rfl⟩,rfl⟩

omit [Blake3] in
theorem frontPage_subset (db : Db) : frontPage db ⊆ db.pendingSyncQueue := FairPaging.page_subset

omit [Blake3] in
theorem pendingSyncQueue_nodup (db : Db) : db.pendingSyncQueue.Nodup := .of_map _ db.pendingSyncQueue_distinct

/-- A drain that started in `start` is at the top of a pass in `w`, and has not moved the items `left`. -/
structure AtTop (start w : World) (left : List SyncQueueItem) : Prop where
  kept : DrainKept start.db w.db
  shrinks : w.db.pendingSyncQueue ⊆ start.db.pendingSyncQueue
  stays : left ⊆ w.db.pendingSyncQueue

omit [Blake3] in
theorem AtTop.far_from_page {start w : World} {left : List SyncQueueItem} (top : AtTop start w left) (nodup : left.Nodup)
    {item : SyncQueueItem} (member : item ∈ left) (far : drainPageSize ≤ before start.db left item) :
    item ∉ frontPage w.db := by
  rw [frontPage,FairPaging.mem_page_iff w.db.pendingSyncQueue_distinct (top.stays member),Nat.not_lt]
  refine far.trans ?_
  rw [before,← queueDrivePairId_eq top.kept]
  exact FairPaging.ahead_mono w.db.pendingSyncQueue_distinct nodup top.stays item

omit [Blake3] in
theorem far_of_skipped {start w : World} (kept : DrainKept start.db w.db)
    (shrinks : w.db.pendingSyncQueue ⊆ start.db.pendingSyncQueue)
    (skipped : ∀ item ∈ frontPage w.db, item.action = .userActionRequired) {item : SyncQueueItem}
    (listed : item ∈ w.db.pendingSyncQueue) (automatic : item.action ≠ .userActionRequired)
    {keep : SyncQueueItem → Bool} (users : ∀ other, other.action = .userActionRequired → keep other = true)
    (own : keep item = true) : drainPageSize ≤ before start.db (start.db.pendingSyncQueue.filter keep) item := by
  have outside : item ∉ frontPage w.db := fun early => automatic (skipped item early)
  have front : frontPage w.db ⊆ w.db.pendingSyncQueue.filter keep := by
    intro other early
    exact List.mem_filter.mpr ⟨frontPage_subset _ early,users other (skipped other early)⟩
  have now := FairPaging.size_le_ahead w.db.pendingSyncQueue_distinct ((pendingSyncQueue_nodup w.db).filter keep)
    (List.filter_subset_self _) front (List.mem_filter.mpr ⟨listed,own⟩) outside
  rw [queueDrivePairId_eq kept] at now
  refine now.trans ?_
  have distinct : ((start.db.pendingSyncQueue.filter keep).map SyncQueueItem.id).Nodup :=
    start.db.pendingSyncQueue_distinct.sublist (List.filter_sublist.map _)
  refine FairPaging.ahead_mono distinct ((pendingSyncQueue_nodup w.db).filter keep) ?_ item
  exact List.filter_subset keep shrinks

/-- One pass of the loop. -/
def passEnd (env : Environment) (pass : Nat) (w : World) : Nat × World :=
  let w := { w with db := w.db.heartbeatSyncProcessingLock (env.now pass 0) }
  drainCalls env none pass 0 [] (env.order pass (w.db.listPendingSyncQueueWithDrivePair drainPageSize)).calls w

theorem passEffect_passEnd (env : Environment) (pass : Nat) {w : World}
    (unpaused : w.db.syncSettings.queuePaused = false) : PassEffect env w (passEnd env pass w).2 (frontPage w.db) := by
  have ran := passEffect_drainCalls env pass 0
    (env.order pass (w.db.listPendingSyncQueueWithDrivePair drainPageSize)).calls
    { w with db := w.db.heartbeatSyncProcessingLock (env.now pass 0) } unpaused
  have beat : DrainKept w.db (w.db.heartbeatSyncProcessingLock (env.now pass 0)) := drainKept_of_tables rfl rfl rfl
  refine ⟨trans_of DrainKept beat ran.kept,ran.shrinks,fun item member => ?_,fun row listed spared differs => ?_⟩
  · exact ran.takes item ((mem_calls env pass w.db item).mpr member)
  · exact ran.spares row listed spared fun item called => differs item ((mem_calls env pass w.db item).mp called)

theorem AtTop.pass {env : Environment} {start w : World} {left : List SyncQueueItem} (top : AtTop start w left)
    (unpaused : start.db.syncSettings.queuePaused = false) (spared : ∀ item ∈ left, Spared env start.db item)
    (still : ∀ item ∈ left, item ∈ frontPage w.db → start.db.movable item = false) (pass : Nat) :
    AtTop start (passEnd env pass w).2 left := by
  have effect := passEffect_passEnd env pass (top.kept.paused.trans unpaused)
  refine ⟨trans_of DrainKept top.kept effect.kept,fun row listed => top.shrinks (effect.shrinks listed),?_⟩
  intro row member
  refine effect.spares row (top.stays member) (spared_kept top.kept (spared row member)) ?_
  intro item listed moves same
  obtain rfl : row = item := FairPaging.key_injective w.db.pendingSyncQueue_distinct (top.stays member)
    (frontPage_subset _ listed) same
  rw [movable_eq top.kept,still row member listed] at moves
  cases moves

theorem drainLoop_succ {env : Environment} {w : World} (unpaused : w.db.syncSettings.queuePaused = false)
    (fuel pass processed : Nat) : drainLoop env none (fuel + 1) pass processed w =
      if frontPage w.db = [] then
        some (processed,{ w with db := w.db.heartbeatSyncProcessingLock (env.now pass 0) })
      else if ∀ item ∈ frontPage w.db, item.action = .userActionRequired then
        some (processed + (passEnd env pass w).1,(passEnd env pass w).2)
      else drainLoop env none fuel (pass + 1) (processed + (passEnd env pass w).1) (passEnd env pass w).2 := by
  have page : (w.db.heartbeatSyncProcessingLock (env.now pass 0)).listPendingSyncQueueWithDrivePair drainPageSize =
      (frontPage w.db).map (fun item => (w.db.queueDrivePairId item,item)) := rfl
  have running : ((w.db.heartbeatSyncProcessingLock (env.now pass 0)).syncSettings.queuePaused ||
      expired none (env.now pass 0)) = false := by
    simpa [expired,Db.heartbeatSyncProcessingLock] using unpaused
  rw [drainLoop]
  simp only [running,Bool.false_eq_true,if_false]
  rw [page,List.isEmpty_map]
  by_cases empty : frontPage w.db = []
  · simp [empty]
  · have present : (frontPage w.db).isEmpty = false := by simpa using empty
    simp only [empty,present,if_false,Bool.false_eq_true]
    by_cases skipped : ∀ item ∈ frontPage w.db, item.action = .userActionRequired
    · have all : ((frontPage w.db).map (fun item => (w.db.queueDrivePairId item,item))).all
          (fun entry => entry.2.action == .userActionRequired) = true := by
        simpa [List.all_map] using skipped
      rw [if_pos all,if_pos skipped]
      rfl
    · have some_called : ¬((frontPage w.db).map (fun item => (w.db.queueDrivePairId item,item))).all
          (fun entry => entry.2.action == .userActionRequired) = true := by
        simpa [List.all_map] using skipped
      rw [if_neg some_called,if_neg skipped]
      rfl

omit [Blake3] in
theorem stuck_eq_not_movable {db : Db} {item : SyncQueueItem} (automatic : item.action ≠ .userActionRequired) :
    db.stuck item = !db.movable item := by
  have worker : (item.action != SyncAction.userActionRequired) = true := by simpa using automatic
  rw [Db.stuck,Db.movable,worker,Bool.true_and,Bool.true_and]

omit [Blake3] in
theorem spared_of_stuck {db : Db} {item : SyncQueueItem} (stuck : db.stuck item = true) (env : Environment) :
    Spared env db item := by
  refine .inr fun pair found => ?_
  rw [Db.stuck,found,Option.any_some,Bool.not_not,Bool.and_eq_true,DrivePair.isQuiescing,Bool.or_eq_true] at stuck
  rcases stuck.2 with quiet | quiet <;> simp [DrivePair.grounded,quiet]

omit [Blake3] in
theorem frontPage_eq_nil {db : Db} : frontPage db = [] ↔ db.pendingSyncQueue = [] := by
  rw [← List.length_eq_zero_iff,frontPage,FairPaging.page_length,← List.length_eq_zero_iff,drainPageSize]
  omega

/-- Items that no pass moves: no failover takes them, and those that a worker takes up never come to a page. -/
structure Left (env : Environment) (start : World) (left : List SyncQueueItem) : Prop where
  nodup : left.Nodup
  spared : ∀ item ∈ left, Spared env start.db item
  far : ∀ item ∈ left, item.action ≠ .userActionRequired → drainPageSize ≤ before start.db left item

omit [Blake3] in
theorem Left.still {env : Environment} {start w : World} {left : List SyncQueueItem} (remain : Left env start left)
    (top : AtTop start w left) : ∀ item ∈ left, item ∈ frontPage w.db → start.db.movable item = false := by
  intro item member listed
  by_contra moves
  rw [Bool.not_eq_false,Db.movable,Bool.and_eq_true,bne_iff_ne] at moves
  exact top.far_from_page remain.nodup member (remain.far item member moves.1) listed

theorem drainLoop_returns {env : Environment} {start : World} {left : List SyncQueueItem} (remain : Left env start left)
    (unpaused : start.db.syncSettings.queuePaused = false)
    (stuck_left : ∀ item ∈ start.db.pendingSyncQueue, start.db.stuck item = true → item ∈ left) {fuel : Nat}
    (pass processed : Nat) {w : World} (top : AtTop start w left) (enough : w.db.pendingSyncQueue.length < fuel) :
    ∃ count ended, drainLoop env none fuel pass processed w = some (count,ended) ∧ AtTop start ended left := by
  induction fuel generalizing pass processed w with
  | zero => omega
  | succ fuel ih =>
    have next := top.pass unpaused remain.spared (remain.still top) pass
    rw [drainLoop_succ (top.kept.paused.trans unpaused)]
    by_cases empty : frontPage w.db = []
    · rw [if_pos empty]
      have beat : DrainKept w.db (w.db.heartbeatSyncProcessingLock (env.now pass 0)) := drainKept_of_tables rfl rfl rfl
      exact ⟨_,_,rfl,trans_of DrainKept top.kept beat,top.shrinks,top.stays⟩
    · rw [if_neg empty]
      by_cases skipped : ∀ item ∈ frontPage w.db, item.action = .userActionRequired
      · rw [if_pos skipped]
        exact ⟨_,_,rfl,next⟩
      · rw [if_neg skipped]
        apply ih _ _ next
        push Not at skipped
        obtain ⟨item,listed,automatic⟩ := skipped
        have present := frontPage_subset _ listed
        have effect := passEffect_passEnd env pass (top.kept.paused.trans unpaused)
        have moves : w.db.movable item = true := by
          by_contra stays
          have stuck : start.db.stuck item = true := by
            rw [← stuck_eq top.kept,stuck_eq_not_movable automatic,Bool.eq_false_of_not_eq_true stays]
            rfl
          have member := stuck_left item (top.shrinks present) stuck
          exact top.far_from_page remain.nodup member (remain.far item member automatic) listed
        have fewer : (item::(passEnd env pass w).2.db.pendingSyncQueue).length ≤ w.db.pendingSyncQueue.length := by
          apply List.Nodup.length_le_of_subset
          · refine List.nodup_cons.mpr ⟨fun again => ?_,pendingSyncQueue_nodup _⟩
            exact effect.takes item listed moves item again rfl
          · exact List.cons_subset.mpr ⟨present,effect.shrinks⟩
        rw [List.length_cons] at fewer
        omega

/-- Before a stuck item that is not far back the loop never ends. -/
theorem drainLoop_diverges {env : Environment} {start : World} (unpaused : start.db.syncSettings.queuePaused = false)
    {item : SyncQueueItem} (stuck : start.db.stuck item = true) {keep : SyncQueueItem → Bool}
    (users : ∀ other, other.action = .userActionRequired → keep other = true) (own : keep item = true)
    (near : before start.db (start.db.pendingSyncQueue.filter keep) item < drainPageSize) {fuel pass processed : Nat}
    {w : World} (top : AtTop start w [item]) : drainLoop env none fuel pass processed w = none := by
  have automatic : item.action ≠ .userActionRequired := by
    rw [Db.stuck,Bool.and_eq_true,bne_iff_ne] at stuck
    exact stuck.1
  have still : start.db.movable item = false := by
    rw [stuck_eq_not_movable automatic,Bool.not_eq_true'] at stuck
    exact stuck
  induction fuel generalizing pass processed w with
  | zero => rfl
  | succ fuel ih =>
    have present : item ∈ w.db.pendingSyncQueue := top.stays List.mem_cons_self
    have filled : frontPage w.db ≠ [] := by
      rw [Ne,frontPage_eq_nil]
      exact List.ne_nil_of_mem present
    have called : ¬∀ other ∈ frontPage w.db, other.action = .userActionRequired := by
      intro skipped
      have far := far_of_skipped top.kept top.shrinks skipped present automatic users own
      omega
    rw [drainLoop_succ (top.kept.paused.trans unpaused),if_neg filled,if_neg called]
    apply ih
    apply top.pass unpaused
    · intro other member
      rw [List.mem_singleton.mp member]
      exact spared_of_stuck stuck env
    · intro other member _
      rw [List.mem_singleton.mp member]
      exact still

/-- An item that a worker takes up is not pending when the loop ends, unless it was far back. -/
theorem drainLoop_drains {env : Environment} {start : World} (unpaused : start.db.syncSettings.queuePaused = false)
    {item : SyncQueueItem} (member : item ∈ start.db.pendingSyncQueue) (moves : start.db.movable item = true)
    (keep : SyncQueueItem → Bool) (users : ∀ other, other.action = .userActionRequired → keep other = true)
    (own : keep item = true) (near : before start.db (start.db.pendingSyncQueue.filter keep) item < drainPageSize)
    {fuel pass processed count : Nat} {w ended : World} (top : AtTop start w [])
    (ran : drainLoop env none fuel pass processed w = some (count,ended)) :
    ∀ row ∈ ended.db.pendingSyncQueue, row.id ≠ item.id := by
  have automatic : item.action ≠ .userActionRequired := by
    rw [Db.movable,Bool.and_eq_true,bne_iff_ne] at moves
    exact moves.1
  induction fuel generalizing pass processed w with
  | zero => cases ran
  | succ fuel ih =>
    rw [drainLoop_succ (top.kept.paused.trans unpaused)] at ran
    have effect := passEffect_passEnd env pass (top.kept.paused.trans unpaused)
    split at ran
    · rename_i empty
      cases ran
      intro row listed
      exact absurd (frontPage_eq_nil.mp empty) (List.ne_nil_of_mem listed)
    · split at ran
      · rename_i skipped
        cases ran
        intro row listed same
        have present := effect.shrinks listed
        obtain rfl : row = item :=
          FairPaging.key_injective start.db.pendingSyncQueue_distinct (top.shrinks present) member same
        have far := far_of_skipped top.kept top.shrinks skipped present automatic users own
        omega
      · exact ih (top.pass unpaused (fun _ member => absurd member List.not_mem_nil)
          (fun _ member => absurd member List.not_mem_nil) pass) ran

/-! Whole drains. -/

/-- The pending items that no worker moves. -/
def leftOver (db : Db) : List SyncQueueItem := db.pendingSyncQueue.filter (fun item => !db.movable item)

/-- Those of them that no failover moves either. -/
def firmlyLeft (db : Db) : List SyncQueueItem :=
  db.pendingSyncQueue.filter (fun item => !db.movable item && (db.pairOf? item).all DrivePair.grounded)

/-- Every stuck item has a page of `items` before it. -/
def StuckBehind (db : Db) (items : List SyncQueueItem) : Prop :=
  ∀ item ∈ db.pendingSyncQueue, db.stuck item = true → drainPageSize ≤ before db items item

def Terminates (env : Environment) (w : World) : Prop := ∃ fuel ended, processAllPending env none fuel w = some ended

omit [Blake3] in
theorem requeued_db (env : Environment) (w : World) : ∃ settings : SyncSettings,
    settings.queuePaused = w.db.syncSettings.queuePaused ∧
      requeued env w = { w with db := { w.db.requeueInProgressSyncQueue with syncSettings := settings } } := by
  unfold requeued Db.tryAcquireSyncProcessingLock
  dsimp only
  split
  · exact ⟨⟨w.db.syncSettings.queuePaused,some env.startedAt,some env.pid⟩,rfl,rfl⟩
  · exact ⟨w.db.syncSettings,rfl,rfl⟩

omit [Blake3] in
theorem atTop_start (start : World) {left : List SyncQueueItem} (inside : left ⊆ start.db.pendingSyncQueue) :
    AtTop start start left := ⟨refl_of DrainKept _,List.Subset.refl _,inside⟩

omit [Blake3] in
theorem stuck_not_movable {db : Db} {item : SyncQueueItem} (stuck : db.stuck item = true) :
    item.action ≠ .userActionRequired ∧ db.movable item = false := by
  have automatic : item.action ≠ .userActionRequired := by
    rw [Db.stuck,Bool.and_eq_true,bne_iff_ne] at stuck
    exact stuck.1
  rw [stuck_eq_not_movable automatic,Bool.not_eq_true'] at stuck
  exact ⟨automatic,stuck⟩

omit [Blake3] in
theorem mem_firmlyLeft_of_stuck {db : Db} {item : SyncQueueItem} (member : item ∈ db.pendingSyncQueue)
    (stuck : db.stuck item = true) : item ∈ firmlyLeft db := by
  obtain ⟨_,still⟩ := stuck_not_movable stuck
  rw [Db.stuck,Bool.and_eq_true] at stuck
  refine List.mem_filter.mpr ⟨member,?_⟩
  rw [still]
  cases found : db.pairOf? item with
  | none => rfl
  | some pair =>
    rw [found,Option.any_some,Bool.not_not,DrivePair.isQuiescing,Bool.or_eq_true] at stuck
    rcases stuck.2 with quiet | quiet <;> simp [DrivePair.grounded,quiet]

theorem loop_returns_of_firmlyLeft (env : Environment) {start : World} (unpaused : start.db.syncSettings.queuePaused = false)
    (behind : StuckBehind start.db (firmlyLeft start.db)) :
    ∃ fuel count ended, drainLoop env none fuel 0 0 start = some (count,ended) := by
  have remain : Left env start (firmlyLeft start.db) := by
    refine ⟨(pendingSyncQueue_nodup _).filter _,fun item member => .inr fun pair found => ?_,fun item member automatic => ?_⟩
    · have kept := (List.mem_filter.mp member).2
      rw [Bool.and_eq_true,found,Option.all_some] at kept
      exact kept.2
    · obtain ⟨present,kept⟩ := List.mem_filter.mp member
      apply behind item present
      rw [stuck_eq_not_movable automatic]
      exact (Bool.and_eq_true _ _ ▸ kept).1
  obtain ⟨count,ended,ran,_⟩ := drainLoop_returns remain unpaused (fun item member => mem_firmlyLeft_of_stuck member)
    0 0 (atTop_start start (List.filter_subset_self _)) (Nat.lt_succ_self _)
  exact ⟨_,count,ended,ran⟩

theorem loop_returns_of_steady {env : Environment} (steady : env.Steady) {start : World}
    (unpaused : start.db.syncSettings.queuePaused = false) (behind : StuckBehind start.db (leftOver start.db))
    (keep : SyncQueueItem → Bool) (wider : ∀ item, start.db.movable item = false → keep item = true)
    (far : ∀ item ∈ start.db.pendingSyncQueue, keep item = true → start.db.movable item = true →
      drainPageSize ≤ before start.db (start.db.pendingSyncQueue.filter keep) item) :
    ∃ fuel count ended, drainLoop env none fuel 0 0 start = some (count,ended) ∧
      start.db.pendingSyncQueue.filter keep ⊆ ended.db.pendingSyncQueue := by
  have more : leftOver start.db ⊆ start.db.pendingSyncQueue.filter keep := by
    intro item member
    obtain ⟨present,still⟩ := List.mem_filter.mp member
    exact List.mem_filter.mpr ⟨present,wider item (by simpa using still)⟩
  have distinct : ((start.db.pendingSyncQueue.filter keep).map SyncQueueItem.id).Nodup :=
    start.db.pendingSyncQueue_distinct.sublist (List.filter_sublist.map _)
  have remain : Left env start (start.db.pendingSyncQueue.filter keep) := by
    refine ⟨(pendingSyncQueue_nodup _).filter _,fun _ _ => .inl steady,fun item member automatic => ?_⟩
    obtain ⟨present,kept⟩ := List.mem_filter.mp member
    cases moves : start.db.movable item with
    | true => exact far item present kept moves
    | false =>
      have stuck : start.db.stuck item = true := by rw [stuck_eq_not_movable automatic,moves]; rfl
      refine (behind item present stuck).trans ?_
      exact FairPaging.ahead_mono distinct ((pendingSyncQueue_nodup _).filter _) more item
  obtain ⟨count,ended,ran,top⟩ := drainLoop_returns remain unpaused
    (fun item member stuck => List.mem_filter.mpr ⟨member,wider item (stuck_not_movable stuck).2⟩)
    0 0 (atTop_start start (List.filter_subset_self _)) (Nat.lt_succ_self _)
  exact ⟨_,count,ended,ran,top.stays⟩

theorem loop_diverges {env : Environment} {start : World} (unpaused : start.db.syncSettings.queuePaused = false)
    (near : ¬StuckBehind start.db (leftOver start.db)) (fuel : Nat) : drainLoop env none fuel 0 0 start = none := by
  unfold StuckBehind at near
  push Not at near
  obtain ⟨item,member,stuck,near⟩ := near
  refine drainLoop_diverges unpaused stuck (fun other waits => ?_) ?_ near
    (atTop_start start (List.cons_subset.mpr ⟨member,List.nil_subset _⟩))
  · simp [Db.movable,waits]
  · rw [(stuck_not_movable stuck).2]
    rfl

theorem terminates_iff {env : Environment} {w : World} (acquired : acquires env w = true) :
    Terminates env w ↔ ∃ fuel count ended, drainLoop env none fuel 0 0 (requeued env w) = some (count,ended) := by
  unfold Terminates processAllPending
  simp only [acquired,if_true,Option.map_eq_some_iff]
  constructor
  · rintro ⟨fuel,_,⟨count,ended⟩,ran,_⟩
    exact ⟨fuel,count,ended,ran⟩
  · rintro ⟨fuel,count,ended,ran⟩
    exact ⟨fuel,_,(count,ended),ran,rfl⟩

/-- A drain ends, whatever comes of its calls, if each stuck item has a page of items before it that
neither a worker nor a failover moves; and it ends only if each has a page of items before it that
no worker moves. In a drain without failovers the second is enough. -/
theorem processAllPending_terminates (w : World) (unpaused : w.db.syncSettings.queuePaused = false) :
    let db := w.db.requeueInProgressSyncQueue
    (∀ env, StuckBehind db (firmlyLeft db) → Terminates env w) ∧
    (∀ env, acquires env w = true → Terminates env w → StuckBehind db (leftOver db)) ∧
    ∀ env, acquires env w = true → env.Steady → (Terminates env w ↔ StuckBehind db (leftOver db)) := by
  intro db
  have start (env : Environment) : (requeued env w).db.syncSettings.queuePaused = false ∧
      (StuckBehind (requeued env w).db (firmlyLeft (requeued env w).db) ↔ StuckBehind db (firmlyLeft db)) ∧
      (StuckBehind (requeued env w).db (leftOver (requeued env w).db) ↔ StuckBehind db (leftOver db)) := by
    obtain ⟨settings,paused,same⟩ := requeued_db env w
    rw [same]
    exact ⟨paused.trans unpaused,Iff.rfl,Iff.rfl⟩
  have only (env : Environment) (acquired : acquires env w = true) (ends : Terminates env w) :
      StuckBehind db (leftOver db) := by
    obtain ⟨running,_,condition⟩ := start env
    by_contra near
    obtain ⟨fuel,count,ended,ran⟩ := (terminates_iff acquired).mp ends
    rw [loop_diverges running (mt condition.mp near) fuel] at ran
    cases ran
  refine ⟨fun env behind => ?_,only,fun env acquired steady => ⟨only env acquired,fun behind => ?_⟩⟩
  · obtain ⟨running,condition,_⟩ := start env
    cases acquired : acquires env w with
    | false => exact ⟨0,_,by rw [processAllPending,acquired]; rfl⟩
    | true => exact (terminates_iff acquired).mpr (loop_returns_of_firmlyLeft env running (condition.mpr behind))
  · obtain ⟨running,_,condition⟩ := start env
    obtain ⟨fuel,count,ended,ran,_⟩ := loop_returns_of_steady steady running (condition.mpr behind)
      (fun item => !(requeued env w).db.movable item) (fun item still => by rw [still]; rfl)
      (fun item _ kept moves => by rw [moves] at kept; cases kept)
    exact (terminates_iff acquired).mpr ⟨fuel,count,ended,ran⟩

/-- When the drain returns, nothing that a worker could take up at its start is pending. -/
def Complete (env : Environment) (w : World) : Prop :=
  ∀ fuel count ended, processAllPending env none fuel w = some (count,ended) →
    ∀ item ∈ w.db.pendingSyncQueue, w.db.movable item = true → ∀ row ∈ ended.db.pendingSyncQueue, row.id ≠ item.id

/-- What no worker moves, and one item besides. -/
def leftOverWith (db : Db) (item : SyncQueueItem) : List SyncQueueItem :=
  db.pendingSyncQueue.filter (fun other => !db.movable other || other == item)

/-- Drives that answer, and threads that run one after the other. -/
def calmEnvironment (startedAt : Nat) : Environment where
  pid := 1
  processIsAlive _ := true
  startedAt := startedAt
  now _ _ := startedAt
  io _ _ := Io.healthy
  drives _ _ _ := ⟨fun _ => none,fun _ => true⟩
  order _ items := ⟨items,fun _ => rfl⟩

omit [Blake3] in
theorem calmEnvironment_steady (startedAt : Nat) : (calmEnvironment startedAt).Steady := by
  intro pass n disk pair
  simp [emergencyFailoverDue,missingExpectedRootMarker,calmEnvironment,Disk.exists?]

omit [Blake3] in
theorem exists_acquires (w : World) : ∃ startedAt, acquires (calmEnvironment startedAt) w = true := by
  refine ⟨w.db.syncSettings.processingLockedAt.getD 0 + processingLockStaleAfterSecs,?_⟩
  unfold acquires Db.tryAcquireSyncProcessingLock
  cases w.db.syncSettings.processingLockedAt <;> simp [calmEnvironment]

omit [Blake3] in
theorem mem_requeued {db : Db} {item : SyncQueueItem} (member : item ∈ db.pendingSyncQueue) :
    item ∈ db.requeueInProgressSyncQueue.pendingSyncQueue := by
  obtain ⟨found,pending⟩ := Db.mem_pendingSyncQueue.mp member
  refine Db.mem_pendingSyncQueue.mpr ⟨?_,pending⟩
  rw [Db.requeueInProgressSyncQueue,Db.find?_updateQueueWhere,found,Option.map_some,pending]
  rfl

theorem exists_incomplete {w : World} (unpaused : w.db.syncSettings.queuePaused = false)
    (behind : StuckBehind w.db.requeueInProgressSyncQueue (leftOver w.db.requeueInProgressSyncQueue))
    {item : SyncQueueItem} (member : item ∈ w.db.pendingSyncQueue) (moves : w.db.movable item = true)
    (far : drainPageSize ≤ before w.db.requeueInProgressSyncQueue (leftOverWith w.db.requeueInProgressSyncQueue item) item) :
    ∃ env, acquires env w = true ∧ ¬Complete env w := by
  obtain ⟨startedAt,acquired⟩ := exists_acquires w
  obtain ⟨settings,paused,same⟩ := requeued_db (calmEnvironment startedAt) w
  have running : (requeued (calmEnvironment startedAt) w).db.syncSettings.queuePaused = false := by
    rw [same]
    exact paused.trans unpaused
  have present : item ∈ (requeued (calmEnvironment startedAt) w).db.pendingSyncQueue := by
    rw [same]
    exact mem_requeued member
  obtain ⟨fuel,count,ended,ran,left⟩ := loop_returns_of_steady (calmEnvironment_steady startedAt) running
    (by rw [same]; exact behind)
    (fun other => !(requeued (calmEnvironment startedAt) w).db.movable other || other == item)
    (fun other still => by rw [still]; rfl)
    (fun other _ kept moving => by
      obtain rfl : other = item := by simpa [moving] using kept
      rw [same]
      exact far)
  refine ⟨calmEnvironment startedAt,acquired,fun complete => ?_⟩
  have returned : processAllPending (calmEnvironment startedAt) none fuel w =
      some (count,{ ended with db := ended.db.releaseSyncProcessingLock }) := by
    rw [processAllPending,acquired,if_pos rfl,ran]
    rfl
  exact complete fuel _ _ returned item member moves item
    (left (List.mem_filter.mpr ⟨present,by simp⟩)) rfl

/-- Every drain that returns is complete exactly when it never returns, a stuck item being near
the head of what is left over, or every movable item is near that head itself. -/
theorem processAllPending_complete_iff (w : World) (unpaused : w.db.syncSettings.queuePaused = false) :
    let db := w.db.requeueInProgressSyncQueue
    (∀ env, acquires env w = true → Complete env w) ↔
      ¬StuckBehind db (leftOver db) ∨
        ∀ item ∈ w.db.pendingSyncQueue, w.db.movable item = true → before db (leftOverWith db item) item < drainPageSize := by
  intro db
  constructor
  · intro complete
    by_contra neither
    push Not at neither
    obtain ⟨behind,item,member,moves,far⟩ := neither
    obtain ⟨env,acquired,incomplete⟩ := exists_incomplete unpaused behind member moves far
    exact incomplete (complete env acquired)
  · intro condition env acquired fuel count ended returned item member moves
    obtain ⟨settings,paused,same⟩ := requeued_db env w
    have running : (requeued env w).db.syncSettings.queuePaused = false := by
      rw [same]
      exact paused.trans unpaused
    rw [processAllPending,acquired,if_pos rfl,Option.map_eq_some_iff] at returned
    obtain ⟨⟨count,last⟩,ran,ends⟩ := returned
    cases ends
    rcases condition with near | near
    · rw [loop_diverges running (by rw [same]; exact near) fuel] at ran
      cases ran
    · have drained : ∀ row ∈ last.db.pendingSyncQueue, row.id ≠ item.id := by
        refine drainLoop_drains running ?_ ?_ (fun other => !(requeued env w).db.movable other || other == item)
          (fun other waits => ?_) ?_ ?_ (atTop_start _ (List.nil_subset _)) ran
        · rw [same]
          exact mem_requeued member
        · rw [same]
          exact moves
        · simp [Db.movable,waits]
        · simp
        · rw [same]
          exact near item member moves
      exact drained

end

/-! A pair that is quiescing, with one item; and a file whose mirror item stands behind a
page of items for the user. -/

def oneItemWorld (state : DriveState) : World where
  db := { Db.empty with
    drivePairs := Table.empty.insert (fun id => { corruptedPair with id,primaryState := state }) (fun _ => rfl)
    trackedFiles := Table.empty.insert (fun id => { corruptedFile with id }) key_corruptedFile
    syncQueue := Table.empty.insert (fun id => ⟨id,1,.mirror,.pending,none,none⟩) (fun _ => rfl) }
  disk := ⟨fun _ => none,fun _ => true⟩

theorem processAllPending_terminates_active :
    letI := sampleBlake3
    let db := (oneItemWorld .active).db.requeueInProgressSyncQueue
    (∀ env, StuckBehind db (firmlyLeft db) → Terminates env (oneItemWorld .active)) ∧
    (∀ env, acquires env (oneItemWorld .active) = true → Terminates env (oneItemWorld .active) →
      StuckBehind db (leftOver db)) ∧
    ∀ env, acquires env (oneItemWorld .active) = true → env.Steady →
      (Terminates env (oneItemWorld .active) ↔ StuckBehind db (leftOver db)) :=
  letI := sampleBlake3
  processAllPending_terminates (oneItemWorld .active) rfl

/-- A mirror item of a quiescing pair keeps the loop going forever. -/
theorem quiescing_item_never_ends :
    ¬ ∀ (_ : Blake3) (env : Environment) (w : World), w.db.syncSettings.queuePaused = false →
      acquires env w = true → Terminates env w := by
  intro terminates
  let _ := sampleBlake3
  have acquired : acquires (calmEnvironment 0) (oneItemWorld .quiescing) = true := rfl
  obtain ⟨fuel,count,ended,ran⟩ :=
    (terminates_iff acquired).mp (terminates _ (calmEnvironment 0) (oneItemWorld .quiescing) rfl acquired)
  have near : ¬StuckBehind (requeued (calmEnvironment 0) (oneItemWorld .quiescing)).db
      (leftOver (requeued (calmEnvironment 0) (oneItemWorld .quiescing)).db) := by
    intro behind
    have far := behind ⟨1,1,.mirror,.pending,none,none⟩ (by decide) (by decide)
    exact absurd far (by decide)
  rw [loop_diverges rfl near fuel] at ran
  cases ran

theorem processAllPending_complete_iff_active :
    letI := sampleBlake3
    let db := (oneItemWorld .active).db.requeueInProgressSyncQueue
    (∀ env, acquires env (oneItemWorld .active) = true → Complete env (oneItemWorld .active)) ↔
      ¬StuckBehind db (leftOver db) ∨ ∀ item ∈ (oneItemWorld .active).db.pendingSyncQueue,
        (oneItemWorld .active).db.movable item = true → before db (leftOverWith db item) item < drainPageSize :=
  letI := sampleBlake3
  processAllPending_complete_iff (oneItemWorld .active) rfl

def crowd (n : Nat) : List SyncQueueItem := (List.range n).map (fun i => ⟨i + 1,1,.userActionRequired,.pending,none,none⟩)

def lastInLine (n : Nat) : SyncQueueItem := ⟨n + 1,1,.mirror,.pending,none,none⟩

theorem mem_crowd {n : Nat} {item : SyncQueueItem} (member : item ∈ crowd n) :
    item.id ≤ n ∧ item.trackedFileId = 1 ∧ item.action = .userActionRequired ∧ item.status = .pending := by
  obtain ⟨i,inside,rfl⟩ := List.mem_map.mp member
  exact ⟨List.mem_range.mp inside,rfl,rfl,rfl⟩

theorem crowd_ascending (n : Nat) : (crowd n).Pairwise (fun a b => a.id < b.id) := by
  rw [crowd,List.pairwise_map]
  exact List.pairwise_lt_range.imp Nat.succ_lt_succ

def crowdedQueue (n : Nat) : Table SyncQueueItem where
  rows := crowd n ++ [lastInLine n]
  lastId := n + 1
  ascending := by
    rw [List.pairwise_append]
    refine ⟨crowd_ascending n,List.pairwise_singleton _ _,fun item member other last => ?_⟩
    rw [List.mem_singleton.mp last]
    exact Nat.lt_succ_of_le (mem_crowd member).1
  bounded item member := by
    rcases List.mem_append.mp member with early | last
    · exact Nat.le_succ_of_le (mem_crowd early).1
    · rw [List.mem_singleton.mp last]
      exact Nat.le_refl _

def crowdedWorld (n : Nat) : World :=
  { oneItemWorld .active with db := { (oneItemWorld .active).db with syncQueue := crowdedQueue n } }

theorem mem_crowdedWorld {n : Nat} {item : SyncQueueItem} (member : item ∈ crowd n ++ [lastInLine n]) :
    item ∈ (crowdedWorld n).db.pendingSyncQueue := by
  refine List.mem_filter.mpr ⟨member,?_⟩
  rcases List.mem_append.mp member with early | last
  · simp [(mem_crowd early).2.2.2]
  · rw [List.mem_singleton.mp last]
    rfl

theorem mem_requeuedCrowd {n : Nat} {item : SyncQueueItem}
    (member : item ∈ (crowdedWorld n).db.requeueInProgressSyncQueue.pendingSyncQueue) : item ∈ crowd n ∨ item = lastInLine n := by
  obtain ⟨found,_⟩ := Db.mem_pendingSyncQueue.mp member
  rw [Db.requeueInProgressSyncQueue,Db.find?_updateQueueWhere,Option.map_eq_some_iff] at found
  obtain ⟨old,there,same⟩ := found
  have listed : old ∈ crowd n ++ [lastInLine n] := Table.mem_of_find? there
  rcases List.mem_append.mp listed with early | last
  · have pending := (mem_crowd early).2.2.2
    rw [pending] at same
    exact .inl (same ▸ early)
  · rw [List.mem_singleton.mp last] at same
    exact .inr same.symm

theorem crowd_before_last (n : Nat) : n ≤ before (crowdedWorld n).db.requeueInProgressSyncQueue
    (leftOverWith (crowdedWorld n).db.requeueInProgressSyncQueue (lastInLine n)) (lastInLine n) := by
  let db := (crowdedWorld n).db.requeueInProgressSyncQueue
  have nodup : (leftOverWith db (lastInLine n)).Nodup := (pendingSyncQueue_nodup _).filter _
  have apart : (crowd n).Nodup := (crowd_ascending n).imp fun less same => by
    rw [same] at less
    exact lt_irrefl _ less
  have leads : crowd n ⊆
      FairPaging.leaders db.queueDrivePairId SyncQueueItem.id (leftOverWith db (lastInLine n)) (lastInLine n) := by
    intro item member
    obtain ⟨early,file,waits,_⟩ := mem_crowd member
    have listed := mem_requeued (mem_crowdedWorld (List.mem_append_left _ member))
    refine FairPaging.mem_leaders.mpr ⟨List.mem_filter.mpr ⟨listed,?_⟩,?_,Nat.lt_succ_of_le early⟩
    · simp [Db.movable,waits]
    · rw [Db.queueDrivePairId,file]
      rfl
  have length := List.Nodup.length_le_of_subset apart leads
  rw [crowd,List.length_map,List.length_range] at length
  exact length.trans (FairPaging.rank_le_ahead nodup (lastInLine n))

theorem lastInLine_moves (n : Nat) : (crowdedWorld n).db.movable (lastInLine n) = true := rfl

theorem crowd_not_stuck (n : Nat) : StuckBehind (crowdedWorld n).db.requeueInProgressSyncQueue
    (leftOver (crowdedWorld n).db.requeueInProgressSyncQueue) := by
  intro item member stuck
  obtain ⟨automatic,still⟩ := stuck_not_movable stuck
  rcases mem_requeuedCrowd member with early | rfl
  · exact absurd (mem_crowd early).2.2.1 automatic
  · have moving : (crowdedWorld n).db.requeueInProgressSyncQueue.movable (lastInLine n) = true := lastInLine_moves n
    rw [still] at moving
    cases moving

/-- A page of items for the user hides the mirror item behind them. -/
theorem crowd_hides_item :
    ¬ ∀ (_ : Blake3) (env : Environment) (w : World), w.db.syncSettings.queuePaused = false →
      acquires env w = true → Complete env w := by
  intro complete
  let _ := sampleBlake3
  have last := mem_crowdedWorld (List.mem_append_right (crowd drainPageSize) (List.mem_singleton_self _))
  obtain ⟨env,acquired,incomplete⟩ := exists_incomplete rfl (crowd_not_stuck drainPageSize) last
    (lastInLine_moves drainPageSize) (crowd_before_last drainPageSize)
  exact incomplete (complete _ env (crowdedWorld drainPageSize) rfl acquired)

end BitProtector.QueueDrain
