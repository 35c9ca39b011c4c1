import BitProtector.RecoveryRaces
import BitProtector.ResolvedFiles

/-! What follows an integrity check: the recovery at once and the one that is queued, both picked
by the status alone. A status names the first side that is wrong, so a missing master hides whether
the mirror is good, and a missing mirror whether the master is. -/
namespace BitProtector.IntegrityRepairs
open Effect AtomicRestores ResolvedFiles RecoveryRaces

def followUpAction : IntegrityStatus → Option SyncAction
  | .ok => none
  | .primaryDriveUnavailable | .secondaryDriveUnavailable => none
  | .bothCorrupted => some .userActionRequired
  | .mirrorCorrupted | .mirrorMissing => some .restoreMirror
  | .masterCorrupted | .masterMissing => some .restoreMaster

def createFromIntegrityFailure (file : TrackedFile) (result : IntegrityCheckResult) : Act (Option SyncQueueItem) := do
  match followUpAction result.status with
  | none => pure none
  | some action =>
    let item ← Act.insert (fun db => db.createSyncQueueItemDedup file.id action)
    pure (some item)

/-- The item is open in the queue of `t`, and no other row is new. -/
def Queued (file : TrackedFile) (action : SyncAction) (w t : World) (item : SyncQueueItem) : Prop :=
  t.disk = w.disk ∧ item ∈ t.db.syncQueue.rows ∧ item.trackedFileId = file.id ∧ item.action = action ∧
    item.status.isOpen = true ∧ ∀ row ∈ t.db.syncQueue.rows, row ∈ w.db.syncQueue.rows ∨ row = item

theorem createSyncQueueItemDedup_queued (w : World) (file : TrackedFile) (action : SyncAction) :
    Queued file action w { w with db := (w.db.createSyncQueueItemDedup file.id action).2 }
      (w.db.createSyncQueueItemDedup file.id action).1 := by
  unfold Db.createSyncQueueItemDedup Db.createSyncQueueItemDedupWithCreated
  cases found : w.db.openSyncQueueItem file.id action none with
  | some item =>
    obtain ⟨listed,own,acts,waits⟩ := openSyncQueueItem_some found
    exact ⟨rfl,Table.mem_of_find? listed,own,acts,waits,fun _ member => .inl member⟩
  | none =>
    refine ⟨rfl,?_,rfl,rfl,rfl,?_⟩
    · simp [Db.createSyncQueueItem]
    · intro row member
      simpa [Db.createSyncQueueItem] using member

theorem createFromIntegrityFailure_asks_iff (file : TrackedFile) (result : IntegrityCheckResult) (w : World) :
    (∃ item t, createFromIntegrityFailure file result w = .ok (some item) t ∧
        Queued file .userActionRequired w t item) ↔ result.status = .bothCorrupted := by
  unfold createFromIntegrityFailure
  constructor
  · rintro ⟨item,t,ran,_,_,_,asks,_⟩
    cases follow : followUpAction result.status with
    | none =>
      rw [follow] at ran
      cases ran
    | some action =>
      have queued := createSyncQueueItemDedup_queued w file action
      rw [follow] at ran
      cases ran
      have same : action = .userActionRequired := queued.2.2.2.1.symm.trans asks
      rw [same] at follow
      cases status : result.status <;> rw [status] at follow <;> first | rfl | cases follow
  · intro both
    rw [both]
    exact ⟨_,_,rfl,createSyncQueueItemDedup_queued w file .userActionRequired⟩

section
variable [Blake3] {io recovery : Io} {pair : DrivePair} {file : TrackedFile} {result : IntegrityCheckResult} {w t : World}

/-- The root of the side is there, and its copy has the recorded checksum. -/
def Healthy (disk : Disk) (pair : DrivePair) (file : TrackedFile) (role : DriveRole) : Prop :=
  disk.available (pair.pathForRole role) = true ∧ GoodAt disk (pair.copyOn role file.relativePath) file.checksum

/-- The copy of the other side is as it was, and this one has its bytes. -/
def Restored (pair : DrivePair) (file : TrackedFile) (target : DriveRole) (w t : World) : Prop :=
  ∃ node, w.disk.node (pair.copyOn target.opposite file.relativePath) = some node ∧
    t.disk.node (pair.copyOn target.opposite file.relativePath) = some node ∧
    t.disk.node (pair.copyOn target file.relativePath) = some ⟨node.bytes,none⟩

/-- What the recovery and the queue do about a check: one healthy copy repairs the other, without one the user is asked,
and a recovery that says it was performed left two good copies. -/
structure Repairs (recovery : Io) (pair : DrivePair) (file : TrackedFile) (result : IntegrityCheckResult) (w : World) : Prop where
  restored : ∀ target, Healthy w.disk pair file target.opposite → ¬Healthy w.disk pair file target →
    ∃ t, attemptRecovery recovery pair file result w = .ok true t ∧ Restored pair file target w t
  kept : (∀ role, ¬Healthy w.disk pair file role) → attemptRecovery recovery pair file result w = .ok false w
  queued : (∀ role, ¬Healthy w.disk pair file role) →
    ∃ item t, createFromIntegrityFailure file result w = .ok (some item) t ∧ Queued file .userActionRequired w t item
  recovered : ∀ t, attemptRecovery recovery pair file result w = .ok true t →
    ∀ role, GoodAt t.disk (pair.copyOn role file.relativePath) file.checksum
  reconciled : ∀ t, attemptRecoveryWithReconciliation recovery pair file result w = .ok true t →
    ∀ role, GoodAt t.disk (pair.copyOn role file.relativePath) file.checksum

/-- Every file operation of a restore succeeds: the directory can be made, the marker is there or can be written, the
source opens, the destination takes all its bytes, and the flush and the permissions go through. -/
structure Permitted (recovery : Io) (pair : DrivePair) (target : DriveRole) (relativePath : String) (disk : Disk) : Prop where
  directory : recovery.createDirAll (pair.copyOn target relativePath) = true
  marker : disk.exists? (driveRootMarkerPath (pair.pathForRole target)) = true ∨
    recovery.writeMarker (pair.pathForRole target) = true
  opens : recovery.openRead (pair.copyOn target.opposite relativePath) = true
  creates : recovery.create (pair.copyOn target relativePath) = true
  room : ∀ node, disk.node (pair.copyOn target.opposite relativePath) = some node →
    ∀ most, recovery.writeLimit (pair.copyOn target relativePath) = some most → node.bytes.length ≤ most
  flushes : recovery.flush (pair.copyOn target relativePath) = true
  permissions : recovery.copyPermissions (pair.copyOn target relativePath) = true

/-- Both roots are there and the master is, so is the mirror unless the master is good, and the restore of a
side that only the other can repair is permitted. -/
structure Repairable (recovery : Io) (pair : DrivePair) (file : TrackedFile) (disk : Disk) : Prop where
  mounted : ∀ role, disk.available (pair.pathForRole role) = true
  master : disk.exists? (pair.copyOn .primary file.relativePath) = true
  mirror : disk.exists? (pair.copyOn .secondary file.relativePath) = true ∨
    GoodAt disk (pair.copyOn .primary file.relativePath) file.checksum
  permitted : ∀ target, GoodAt disk (pair.copyOn target.opposite file.relativePath) file.checksum →
    ¬GoodAt disk (pair.copyOn target file.relativePath) file.checksum →
    Permitted recovery pair target file.relativePath disk

omit [Blake3] in
theorem fitting_all_iff {limit : Option Nat} {bytes : List UInt8} :
    fitting limit 0 bytes = bytes ↔ ∀ most, limit = some most → bytes.length ≤ most := by
  constructor
  · intro whole
    simpa using fitting_held whole (fun _ _ => Nat.zero_le _)
  · exact fitting_all

theorem restores_iff_permitted {target : DriveRole} (active : pair.roleState target = .active)
    (mounted : w.disk.available (pair.pathForRole target) = true)
    (good : GoodAt w.disk (pair.copyOn target.opposite file.relativePath) file.checksum)
    (bad : ¬GoodAt w.disk (pair.copyOn target file.relativePath) file.checksum) :
    restores recovery pair target file.relativePath file.checksum w.disk = true ↔
      Permitted recovery pair target file.relativePath w.disk := by
  have apart : pair.copyOn target.opposite file.relativePath ≠ pair.copyOn target file.relativePath := by
    intro same
    rw [same] at good
    exact bad good
  obtain ⟨node,found,whole,checksum⟩ := good
  have there : w.disk.exists? (pair.copyOn target.opposite file.relativePath) = true := by
    rw [Disk.exists?,found]
    rfl
  have ready : (prepared recovery (pair.pathForRole target) w.disk).node (pair.copyOn target.opposite file.relativePath) =
      some node := (marked_kept recovery _ _ there).trans found
  have source : copySource (prepared recovery (pair.pathForRole target) w.disk)
      (pair.copyOn target.opposite file.relativePath) (pair.copyOn target file.relativePath) = node := by
    rw [copySource,Disk.write_other _ _ apart,ready]
    rfl
  have enters : (prepared recovery (pair.pathForRole target) w.disk).exists?
      (pair.copyOn target.opposite file.relativePath) = true := by
    rw [Disk.exists?,ready]
    rfl
  have room : fitting (recovery.writeLimit (pair.copyOn target file.relativePath)) 0 node.bytes = node.bytes ↔
      ∀ most, recovery.writeLimit (pair.copyOn target file.relativePath) = some most → node.bytes.length ≤ most :=
    fitting_all_iff
  have calls : restores recovery pair target file.relativePath file.checksum w.disk = true ↔
      (recovery.createDirAll (pair.copyOn target file.relativePath) = true ∧
        (w.disk.exists? (driveRootMarkerPath (pair.pathForRole target)) = true ∨
          recovery.writeMarker (pair.pathForRole target) = true)) ∧
      (recovery.openRead (pair.copyOn target.opposite file.relativePath) = true ∧
        recovery.create (pair.copyOn target file.relativePath) = true) ∧
      (fitting (recovery.writeLimit (pair.copyOn target file.relativePath)) 0 node.bytes = node.bytes ∧
        recovery.flush (pair.copyOn target file.relativePath) = true ∧
        recovery.copyPermissions (pair.copyOn target file.relativePath) = true) ∧
      checksumBytes (fitting (recovery.writeLimit (pair.copyOn target file.relativePath)) 0 node.bytes) = file.checksum := by
    simp [restores,admits,ground_plain,copyOn_root,entersCopy,completesCopy,arrives,delivered,source,enters,there,active,
      mounted,whole,FileNode.readable_of_whole whole,and_assoc]
  rw [calls]
  constructor
  · rintro ⟨⟨directory,marker⟩,⟨opens,creates⟩,⟨fits,flushes,permissions⟩,_⟩
    refine ⟨directory,marker,opens,creates,?_,flushes,permissions⟩
    intro other same
    cases found.symm.trans same
    exact room.mp fits
  · intro permitted
    have fits := room.mpr (permitted.room node found)
    refine ⟨⟨permitted.directory,permitted.marker⟩,⟨permitted.opens,permitted.creates⟩,
      ⟨fits,permitted.flushes,permitted.permissions⟩,?_⟩
    rw [fits]
    exact checksum

theorem restoreSide_restored {target : DriveRole}
    (good : GoodAt w.disk (pair.copyOn target.opposite file.relativePath) file.checksum)
    (bad : ¬GoodAt w.disk (pair.copyOn target file.relativePath) file.checksum)
    (ran : restoreSide recovery pair target file.relativePath file.checksum w = .ok () t) : Restored pair file target w t := by
  have apart : pair.copyOn target.opposite file.relativePath ≠ pair.copyOn target file.relativePath := by
    intro same
    rw [same] at good
    exact bad good
  obtain ⟨node,found,whole,_⟩ := good
  have there : w.disk.exists? (pair.copyOn target.opposite file.relativePath) = true := by
    rw [Disk.exists?,found]
    rfl
  have ready : (prepared recovery (pair.pathForRole target) w.disk).node (pair.copyOn target.opposite file.relativePath) =
      some node := (marked_kept recovery _ _ there).trans found
  have run := restoreSide_run recovery pair target file.relativePath file.checksum w
  rw [ground_plain] at run
  split at run
  · rename_i succeeds
    cases ran.symm.trans run
    have source : copySource (prepared recovery (pair.pathForRole target) w.disk)
        (pair.copyOn target.opposite file.relativePath) (pair.copyOn target file.relativePath) = node := by
      rw [copySource,Disk.write_other _ _ apart,ready]
      rfl
    simp only [restores,ground_plain,completesCopy,Bool.and_eq_true] at succeeds
    have bytes := delivered_of_arrives succeeds.1.2.1.1
    rw [source] at bytes
    refine ⟨node,found,?_,?_⟩
    · exact (Disk.write_other _ _ apart).trans ready
    · rw [World.withDelivered,Disk.write_same,bytes]
  · obtain ⟨message,u,failed,_⟩ := run
    cases ran.symm.trans failed

theorem attemptRecovery_good (recovered : attemptRecovery recovery pair file result w = .ok true t) (role : DriveRole) :
    GoodAt t.disk (pair.copyOn role file.relativePath) file.checksum := by
  rw [attemptRecovery_eq] at recovered
  cases rebuilds : recoveredRole pair result.status with
  | none =>
    rw [rebuilds] at recovered
    cases recovered
  | some target =>
    rw [rebuilds] at recovered
    obtain ⟨_,u,ran,done⟩ := bind_success recovered
    cases done
    rcases restoreSide_cases recovery pair file target w with
      ⟨copy,start,_,completes,same,_,succeeds⟩ | ⟨_,message,x,failed,_⟩
    · cases ran.symm.trans succeeds
      exact goodAt_left (restoreStart_present start) completes same role
    · cases ran.symm.trans failed

theorem attemptRecoveryWithReconciliation_good
    (recovered : attemptRecoveryWithReconciliation recovery pair file result w = .ok true t) (role : DriveRole) :
    GoodAt t.disk (pair.copyOn role file.relativePath) file.checksum := by
  obtain ⟨performed,u,ran,rest⟩ := bind_success recovered
  cases performed with
  | false => cases rest
  | true =>
    cases rest
    exact attemptRecovery_good ran role

/-! What a check says of the two copies. -/

omit [Blake3] in
theorem statusOfChecksums_read (sound : pair.isDegraded = false) (master mirror stored : String) :
    statusOfChecksums pair (some master) (some mirror) stored =
      if master = stored then if mirror = stored then .ok else .mirrorCorrupted
      else if mirror = stored then .masterCorrupted else .bothCorrupted := by
  by_cases first : master = stored <;> by_cases second : mirror = stored <;>
    simp [statusOfChecksums,sound,first,second,beq_eq_decide]

theorem checkedStatus_of_ok {masterStrategy mirrorStrategy : ChecksumStrategy}
    (checked : checkFileIntegrity io pair file masterStrategy mirrorStrategy w = .ok result t) :
    checkedStatus io pair file w.disk = some result.status ∧ t = w := by
  have run := checkFileIntegrity_run io pair file masterStrategy mirrorStrategy w
  cases status : checkedStatus io pair file w.disk with
  | none =>
    rw [status] at run
    cases checked.symm.trans run
  | some found =>
    rw [status] at run
    obtain ⟨other,same,ran⟩ := run
    cases checked.symm.trans ran
    exact ⟨congrArg some same.symm,rfl⟩

theorem checkFileIntegrity_of_status {status : IntegrityStatus} (masterStrategy mirrorStrategy : ChecksumStrategy)
    (found : checkedStatus io pair file w.disk = some status) :
    ∃ result, result.status = status ∧
      checkFileIntegrity io pair file masterStrategy mirrorStrategy w = .ok result w := by
  have run := checkFileIntegrity_run io pair file masterStrategy mirrorStrategy w
  rw [found] at run
  exact run

theorem status_unmounted (sound : pair.isDegraded = false) {status : IntegrityStatus}
    (checked : checkedStatus io pair file w.disk = some status)
    (gone : ¬∀ role, w.disk.available (pair.pathForRole role) = true) :
    status = .primaryDriveUnavailable ∨ status = .secondaryDriveUnavailable := by
  have active := DrivePair.isDegraded_eq_false sound
  unfold checkedStatus at checked
  split at checked
  · cases checked
    exact .inl rfl
  · rename_i primary
    split at checked
    · cases checked
      exact .inr rfl
    · rename_i secondary
      refine absurd (fun role => ?_) gone
      cases role with
      | primary => exact Bool.eq_true_of_not_eq_false fun away => primary ⟨active .primary,away⟩
      | secondary => exact Bool.eq_true_of_not_eq_false fun away => secondary ⟨active .secondary,away⟩

theorem sideDigest_absent_iff {path : Location} {disk : Disk} {digest : Option String}
    (mounted : disk.available path.root = true) (read : sideDigest io path disk = some digest) :
    digest = none ↔ disk.exists? path = false := by
  unfold sideDigest at read
  cases there : disk.exists? path with
  | false =>
    rw [mounted,there] at read
    cases read
    simp
  | true =>
    rw [mounted,there] at read
    simp only [Bool.and_self,if_true] at read
    split at read
    · split at read
      · cases read
        simp
      · cases read
    · cases read

theorem sideDigest_good_iff {path : Location} {disk : Disk} {digest : Option String} {checksum : String}
    (mounted : disk.available path.root = true) (read : sideDigest io path disk = some digest) :
    digest = some checksum ↔ GoodAt disk path checksum := by
  constructor
  · intro same
    rw [same] at read
    exact (sideDigest_verified.mp read).2.2
  · exact sideDigest_good read mounted

theorem status_mounted {status : IntegrityStatus}
    (checked : checkedStatus io pair file w.disk = some status)
    (mounted : ∀ role, w.disk.available (pair.pathForRole role) = true) :
    ∃ master mirror, status = statusOfChecksums pair master mirror file.checksum ∧ ∀ role,
      (digestOn master mirror role = none ↔ w.disk.exists? (pair.copyOn role file.relativePath) = false) ∧
      (digestOn master mirror role = some file.checksum ↔
        GoodAt w.disk (pair.copyOn role file.relativePath) file.checksum) := by
  unfold checkedStatus at checked
  have primary : ¬(pair.roleState .primary = .active ∧ w.disk.available pair.primaryPath = false) := fun gone =>
    absurd (gone.2.symm.trans (mounted .primary)) Bool.false_ne_true
  have secondary : ¬(pair.roleState .secondary = .active ∧ w.disk.available pair.secondaryPath = false) := fun gone =>
    absurd (gone.2.symm.trans (mounted .secondary)) Bool.false_ne_true
  rw [if_neg primary,if_neg secondary] at checked
  obtain ⟨master,first,rest⟩ := Option.bind_eq_some_iff.mp checked
  obtain ⟨mirror,second,status⟩ := Option.map_eq_some_iff.mp rest
  refine ⟨master,mirror,status.symm,fun role => ?_⟩
  cases role with
  | primary => exact ⟨sideDigest_absent_iff (mounted .primary) first,sideDigest_good_iff (mounted .primary) first⟩
  | secondary => exact ⟨sideDigest_absent_iff (mounted .secondary) second,sideDigest_good_iff (mounted .secondary) second⟩

/-! Which recoveries are the right ones. -/

theorem Repairs.of_fields
    (restored : ∀ target, Healthy w.disk pair file target.opposite → ¬Healthy w.disk pair file target →
      ∃ t, attemptRecovery recovery pair file result w = .ok true t ∧ Restored pair file target w t)
    (unhealthy : (∀ role, ¬Healthy w.disk pair file role) →
      attemptRecovery recovery pair file result w = .ok false w ∧ result.status = .bothCorrupted) :
    Repairs recovery pair file result w where
  restored := restored
  kept none := (unhealthy none).1
  queued none := (createFromIntegrityFailure_asks_iff file result w).mpr (unhealthy none).2
  recovered _ := attemptRecovery_good
  reconciled _ := attemptRecoveryWithReconciliation_good

theorem Repairs.bothCorrupted (repairs : Repairs recovery pair file result w)
    (unhealthy : ∀ role, ¬Healthy w.disk pair file role) : result.status = .bothCorrupted :=
  (createFromIntegrityFailure_asks_iff file result w).mp (repairs.queued unhealthy)

/-- Where one copy is healthy, the recovery has to take its side for the source. -/
theorem Repairs.recovers (repairs : Repairs recovery pair file result w) (target : DriveRole)
    (healthy : Healthy w.disk pair file target.opposite) (bad : ¬Healthy w.disk pair file target) :
    recoveredRole pair result.status ≠ none := by
  intro stays
  obtain ⟨t,recovered,_⟩ := repairs.restored target healthy bad
  rw [attemptRecovery_eq,stays] at recovered
  cases recovered

theorem attemptRecovery_stays (stays : recoveredRole pair result.status = none) :
    attemptRecovery recovery pair file result w = .ok false w := by
  rw [attemptRecovery_eq,stays]
  rfl

theorem attemptRecovery_restores_iff {target : DriveRole} (recovers : recoveredRole pair result.status = some target)
    (good : GoodAt w.disk (pair.copyOn target.opposite file.relativePath) file.checksum)
    (bad : ¬GoodAt w.disk (pair.copyOn target file.relativePath) file.checksum) :
    (∃ t, attemptRecovery recovery pair file result w = .ok true t ∧ Restored pair file target w t) ↔
      restores recovery pair target file.relativePath file.checksum w.disk = true := by
  have run := restoreSide_run recovery pair target file.relativePath file.checksum w
  rw [attemptRecovery_eq,recovers]
  constructor
  · rintro ⟨t,recovered,_⟩
    obtain ⟨_,u,ran,_⟩ := bind_success recovered
    by_contra fails
    rw [if_neg fails] at run
    obtain ⟨message,x,failed,_⟩ := run
    cases ran.symm.trans failed
  · intro succeeds
    rw [if_pos succeeds] at run
    exact ⟨_,bind_of_ok run _,restoreSide_restored good bad run⟩

theorem repairs_iff_of_recovers (target : DriveRole) (sound : pair.isDegraded = false)
    (mounted : ∀ role, w.disk.available (pair.pathForRole role) = true)
    (recovers : recoveredRole pair result.status = some target)
    (good : GoodAt w.disk (pair.copyOn target.opposite file.relativePath) file.checksum)
    (bad : ¬GoodAt w.disk (pair.copyOn target file.relativePath) file.checksum) :
    Repairs recovery pair file result w ↔ Permitted recovery pair target file.relativePath w.disk := by
  have active := DrivePair.isDegraded_eq_false sound target
  rw [← restores_iff_permitted active (mounted target) good bad,← attemptRecovery_restores_iff recovers good bad]
  constructor
  · intro repairs
    exact repairs.restored target ⟨mounted _,good⟩ fun healthy => bad healthy.2
  · intro restored
    apply Repairs.of_fields
    · intro other healthy unhealthy
      rcases other.eq_or_opposite target with rfl | rfl
      · exact restored
      · rw [DriveRole.opposite_opposite] at good
        exact absurd ⟨mounted _,good⟩ unhealthy
    · intro none
      exact absurd ⟨mounted _,good⟩ (none target.opposite)

theorem not_repairs_unmounted (sound : pair.isDegraded = false)
    (status : result.status = .primaryDriveUnavailable ∨ result.status = .secondaryDriveUnavailable)
    (gone : ¬∀ role, w.disk.available (pair.pathForRole role) = true) : ¬Repairs recovery pair file result w := by
  intro repairs
  have stays : recoveredRole pair result.status = none := by
    rcases status with same | same <;> simp [recoveredRole,sound,same]
  have other : result.status ≠ .bothCorrupted := by
    rcases status with same | same <;> rw [same] <;> decide
  obtain ⟨role,away⟩ := not_forall.mp gone
  have unhealthy : ¬Healthy w.disk pair file role := fun healthy => away healthy.1
  by_cases healthy : Healthy w.disk pair file role.opposite
  · exact repairs.recovers role healthy unhealthy stays
  · refine other (repairs.bothCorrupted fun side => ?_)
    rcases role.eq_or_opposite side with rfl | same
    · exact unhealthy
    · rw [same]
      exact healthy

theorem repairs_iff_of_stays (stays : recoveredRole pair result.status = none) :
    Repairs recovery pair file result w ↔ (∀ role, Healthy w.disk pair file role) ∨
      (result.status = .bothCorrupted ∧ ∀ role, ¬Healthy w.disk pair file role) := by
  constructor
  · intro repairs
    by_cases some : ∃ role, Healthy w.disk pair file role
    · obtain ⟨role,healthy⟩ := some
      refine .inl fun side => ?_
      by_contra unhealthy
      rcases side.eq_or_opposite role with rfl | rfl
      · exact unhealthy healthy
      · exact repairs.recovers side healthy unhealthy stays
    · have unhealthy := not_exists.mp some
      exact .inr ⟨repairs.bothCorrupted unhealthy,unhealthy⟩
  · intro right
    apply Repairs.of_fields
    · intro target healthy unhealthy
      rcases right with both | ⟨_,none⟩
      · exact absurd (both target) unhealthy
      · exact absurd healthy (none _)
    · intro unhealthy
      rcases right with both | ⟨status,_⟩
      · exact absurd (both .primary) (unhealthy .primary)
      · exact ⟨attemptRecovery_stays stays,status⟩

theorem repairable_iff_permitted (target : DriveRole) (mounted : ∀ role, w.disk.available (pair.pathForRole role) = true)
    (master : w.disk.exists? (pair.copyOn .primary file.relativePath) = true)
    (mirror : w.disk.exists? (pair.copyOn .secondary file.relativePath) = true ∨
      GoodAt w.disk (pair.copyOn .primary file.relativePath) file.checksum)
    (good : GoodAt w.disk (pair.copyOn target.opposite file.relativePath) file.checksum)
    (bad : ¬GoodAt w.disk (pair.copyOn target file.relativePath) file.checksum) :
    Repairable recovery pair file w.disk ↔ Permitted recovery pair target file.relativePath w.disk := by
  constructor
  · intro repairable
    exact repairable.permitted target good bad
  · intro permitted
    refine ⟨mounted,master,mirror,fun other source broken => ?_⟩
    rcases target.eq_or_opposite other with rfl | same
    · exact permitted
    · rw [same] at broken
      exact absurd good broken

/-- After a check of a pair that is not degraded, recovery and queue do what the contents of the copies ask for exactly
when both roots and the master are there, the mirror is there or the master good, and the restore goes through. -/
theorem integrity_repairs_iff (recovery : Io) {masterStrategy mirrorStrategy : ChecksumStrategy}
    (sound : pair.isDegraded = false)
    (checked : checkFileIntegrity io pair file masterStrategy mirrorStrategy w = .ok result t) :
    Repairs recovery pair file result t ↔ Repairable recovery pair file w.disk := by
  obtain ⟨status,same⟩ := checkedStatus_of_ok checked
  subst same
  by_cases mounted : ∀ role, t.disk.available (pair.pathForRole role) = true
  · obtain ⟨master,mirror,classified,copies⟩ := status_mounted status mounted
    have healthy (role : DriveRole) : Healthy t.disk pair file role ↔ digestOn master mirror role = some file.checksum :=
      (and_iff_right (mounted role)).trans (copies role).2.symm
    have primary := copies .primary
    have secondary := copies .secondary
    simp only [digestOn] at primary secondary
    cases master with
    | none =>
      -- The status says nothing about the mirror.
      have missing : result.status = .masterMissing := by simp [classified,statusOfChecksums,sound]
      have stays : recoveredRole pair result.status = none := by simp [recoveredRole,sound,missing]
      refine iff_of_false (fun repairs => ?_) fun repairable => ?_
      · rcases (repairs_iff_of_stays stays).mp repairs with both | ⟨corrupted,_⟩
        · cases (healthy .primary).mp (both .primary)
        · cases missing.symm.trans corrupted
      · exact absurd ((primary.1.mp rfl).symm.trans repairable.master) Bool.false_ne_true
    | some digest =>
      have master : t.disk.exists? (pair.copyOn .primary file.relativePath) = true := by
        simpa using primary.1
      cases mirror with
      | none =>
        have missing : result.status = .mirrorMissing := by simp [classified,statusOfChecksums,sound]
        have recovers : recoveredRole pair result.status = some .secondary := by simp [recoveredRole,sound,missing]
        have bad : ¬GoodAt t.disk (pair.copyOn .secondary file.relativePath) file.checksum := fun good => by
          cases secondary.2.mpr good
        by_cases good : GoodAt t.disk (pair.copyOn .primary file.relativePath) file.checksum
        · exact (repairs_iff_of_recovers .secondary sound mounted recovers good bad).trans
            (repairable_iff_permitted .secondary mounted master (.inr good) good bad).symm
        · refine iff_of_false (fun repairs => ?_) fun repairable => ?_
          · have corrupted := repairs.bothCorrupted fun role healthy => by
              cases role with
              | primary => exact good healthy.2
              | secondary => exact bad healthy.2
            cases missing.symm.trans corrupted
          · rcases repairable.mirror with there | whole
            · exact absurd ((secondary.1.mp rfl).symm.trans there) Bool.false_ne_true
            · exact good whole
      | some copy =>
        have mirror : t.disk.exists? (pair.copyOn .secondary file.relativePath) = true := by
          simpa using secondary.1
        simp only [Option.some.injEq] at primary secondary
        by_cases first : digest = file.checksum <;> by_cases second : copy = file.checksum
        · have status : result.status = .ok := by simp [classified,statusOfChecksums_read sound,first,second]
          have stays : recoveredRole pair result.status = none := by simp [recoveredRole,sound,status]
          refine iff_of_true ((repairs_iff_of_stays stays).mpr (.inl fun role => ?_)) ?_
          · cases role with
            | primary => exact ⟨mounted _,primary.2.mp first⟩
            | secondary => exact ⟨mounted _,secondary.2.mp second⟩
          · refine ⟨mounted,master,.inl mirror,fun target _ bad => absurd ?_ bad⟩
            cases target with
            | primary => exact primary.2.mp first
            | secondary => exact secondary.2.mp second
        · have status : result.status = .mirrorCorrupted := by simp [classified,statusOfChecksums_read sound,first,second]
          have recovers : recoveredRole pair result.status = some .secondary := by simp [recoveredRole,sound,status]
          have good := primary.2.mp first
          have bad := mt secondary.2.mpr second
          exact (repairs_iff_of_recovers .secondary sound mounted recovers good bad).trans
            (repairable_iff_permitted .secondary mounted master (.inl mirror) good bad).symm
        · have status : result.status = .masterCorrupted := by simp [classified,statusOfChecksums_read sound,first,second]
          have recovers : recoveredRole pair result.status = some .primary := by simp [recoveredRole,sound,status]
          have good := secondary.2.mp second
          have bad := mt primary.2.mpr first
          exact (repairs_iff_of_recovers .primary sound mounted recovers good bad).trans
            (repairable_iff_permitted .primary mounted master (.inl mirror) good bad).symm
        · have status : result.status = .bothCorrupted := by simp [classified,statusOfChecksums_read sound,first,second]
          have stays : recoveredRole pair result.status = none := by simp [recoveredRole,sound,status]
          have bad (role : DriveRole) : ¬GoodAt t.disk (pair.copyOn role file.relativePath) file.checksum := by
            cases role with
            | primary => exact mt primary.2.mpr first
            | secondary => exact mt secondary.2.mpr second
          refine iff_of_true ((repairs_iff_of_stays stays).mpr (.inr ⟨status,fun role healthy => bad role healthy.2⟩)) ?_
          exact ⟨mounted,master,.inl mirror,fun target good _ => absurd good (bad _)⟩
  · refine iff_of_false (not_repairs_unmounted sound (status_unmounted sound status mounted) mounted) ?_
    intro repairable
    exact mounted repairable.mounted

end

/-! A corrupt master over a good mirror, and a good mirror alone. -/

def masterless : World := { corruptedWorld with disk := corruptedWorld.disk.remove ⟨"/primary","notes.txt"⟩ }

theorem integrity_repairs_corrupted :
    letI := sampleBlake3
    ∃ result, result.status = .masterCorrupted ∧ Repairs .healthy corruptedPair corruptedFile result corruptedWorld := by
  let _ := sampleBlake3
  have status : checkedStatus .healthy corruptedPair corruptedFile corruptedWorld.disk = some .masterCorrupted := by
    decide +kernel
  obtain ⟨result,found,checked⟩ := checkFileIntegrity_of_status .streaming .streaming status
  have bad : ¬GoodAt corruptedWorld.disk (corruptedPair.copyOn .primary corruptedFile.relativePath) corruptedFile.checksum := by
    rintro ⟨node,listed,_,same⟩
    cases listed
    exact absurd same (by decide)
  refine ⟨result,found,(integrity_repairs_iff .healthy (by rfl) checked).mpr ⟨?_,by decide,.inl (by decide),?_⟩⟩
  · intro role
    cases role <;> decide
  · intro target good _
    cases target with
    | primary => exact ⟨by decide,.inl (by decide),by decide,by decide,fun _ _ _ limit => (by cases limit),by decide,by decide⟩
    | secondary => exact absurd good bad

/-- The mirror could restore the master; the recovery leaves it at that. -/
theorem missing_master_unrepaired :
    ¬∀ (_ : Blake3) (pair : DrivePair) (file : TrackedFile) (result : IntegrityCheckResult) (w : World),
      pair.isDegraded = false → checkFileIntegrity .healthy pair file .streaming .streaming w = .ok result w →
      Repairs .healthy pair file result w := by
  intro repairs
  let _ := sampleBlake3
  have status : checkedStatus .healthy corruptedPair corruptedFile masterless.disk = some .masterMissing := by
    decide +kernel
  obtain ⟨result,found,checked⟩ := checkFileIntegrity_of_status .streaming .streaming status
  have healthy : Healthy masterless.disk corruptedPair corruptedFile .secondary :=
    ⟨by decide,⟨[2],none⟩,by decide,rfl,rfl⟩
  have absent : ¬Healthy masterless.disk corruptedPair corruptedFile .primary := by
    rintro ⟨_,node,listed,_⟩
    cases listed
  refine (repairs sampleBlake3 corruptedPair corruptedFile result masterless (by rfl) checked).recovers .primary healthy absent ?_
  rw [found]
  rfl

end BitProtector.IntegrityRepairs
