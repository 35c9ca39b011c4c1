import BitProtector.ForgottenChanges
import BitProtector.QuietDrains

/-! A scan and the drain after it: every tracked file that the active side has is then on both sides as it is recorded,
unless one of its items had failed or waits for the user. -/
namespace BitProtector.ScannedDrains
open Effect QueueDrain RootMarkers ScanStates StandbyAway ForgottenChanges QuietDrains

section
variable [Blake3] {pair : DrivePair}

/-- A scan of the pair, by the command or as the search for changes. -/
inductive Scanned (pair : DrivePair) (w t : World) : Prop
  | command (io walk folderId) (steady : emergencyFailoverDue w.disk pair = false) (own : FolderOf pair folderId w.db)
      (ran : scanFolderCommand io walk folderId w = .ok () t)
  | changes (io) (ran : scanAndRecordChanges io pair w = .ok () t)

omit [Blake3] in
/-- The drives as the drain finds them. -/
structure Calm (pair : DrivePair) (w : World) : Prop where
  active : w.disk.available pair.activePath = true
  marked : Marked w.disk pair.activePath
  readable : ∀ path node, w.disk.node (pair.copyOn pair.standbyRole path) = some node → node.whole = true
  others : ∀ other ∈ w.db.drivePairs.rows, other.id ≠ pair.id → ∀ root ∈ PairFrame.roots other, root ∉ PairFrame.roots pair

omit [Blake3] in
/-- An item of the file has failed, or waits for the user. -/
def HeldUp (db : Db) (fileId : Nat) : Prop :=
  ∃ item ∈ db.syncQueue.rows, item.trackedFileId = fileId ∧
    (item.status = .failed ∨ (item.action = .userActionRequired ∧ item.status ≠ .completed))

omit [Blake3] in
theorem mem_requeued_iff {db : Db} {item : SyncQueueItem} : item ∈ db.requeueInProgressSyncQueue.pendingSyncQueue ↔
    ∃ old ∈ db.syncQueue.rows, (old.status = .pending ∧ item = old) ∨
      (old.status = .inProgress ∧ item = { old with status := .pending,errorMessage := none }) := by
  have rows : db.requeueInProgressSyncQueue.syncQueue.rows = db.syncQueue.rows.map (fun old =>
      if old.status == .inProgress then { old with status := .pending,errorMessage := none } else old) := rfl
  rw [Db.pendingSyncQueue,List.mem_filter,rows,List.mem_map]
  constructor
  · rintro ⟨⟨old,member,rfl⟩,pending⟩
    refine ⟨old,member,?_⟩
    cases status : old.status <;> simp_all
  · rintro ⟨old,member,⟨status,rfl⟩ | ⟨status,rfl⟩⟩
    · exact ⟨⟨item,member,by simp [status]⟩,by simp [status]⟩
    · exact ⟨⟨old,member,by simp [status]⟩,by simp⟩

omit [Blake3] in
theorem serving_self (active : ∀ role, pair.roleState role = .active) : Serving pair pair.standbyRole pair := by
  refine ⟨rfl,fun _ => rfl,active _,.inl (active _),id,fun lead => ?_⟩
  exact absurd lead (DriveRole.opposite_ne _).symm

omit [Blake3] in
theorem serving_stays (active : ∀ role, pair.roleState role = .active) {now : DrivePair}
    (serving : Serving pair pair.standbyRole now) : now.activeRole = pair.activeRole ∧
      ∀ role, now.roleState role = .active ∧ now.pathForRole role = pair.pathForRole role := by
  have never : pair.roleState pair.standbyRole ≠ .rebuilding := by
    rw [active]
    exact fun same => by cases same
  constructor
  · rcases pair.activeRole.eq_or_opposite now.activeRole with same | other
    · exact same
    · exact absurd (serving.leads other) never
  · refine fun role => ⟨?_,serving.paths role⟩
    rcases pair.standbyRole.eq_or_opposite role with rfl | rfl
    · exact serving.target.resolve_right fun rebuilding => never (serving.rebuilds rebuilding)
    · exact serving.source

omit [Blake3] in
theorem opposite_standby (pair : DrivePair) : pair.standbyRole.opposite = pair.activeRole := DriveRole.opposite_opposite _

theorem mendable_of_holds {w : World} {files : List TrackedFile} (apart : pair.activePath ≠ pair.standbyPath)
    (active : ∀ role, pair.roleState role = .active) (holds : Holds pair none ⟨w,none⟩) (calm : Calm pair w)
    (listed : ∀ file ∈ files, file ∈ w.db.trackedFiles.rows ∧ file.drivePairId = pair.id) :
    Mendable pair pair.standbyRole files w.db.requeueInProgressSyncQueue := by
  refine ⟨serving_self active,?_,calm.others,listed,?_,fun item pending belongs => ⟨?_,fun rebuilding => ?_⟩,fun rebuilding => ?_⟩
  · rw [opposite_standby]
    exact apart
  · exact fun file present other there own pairs same => holds.sound.paths file present other there (own.trans pairs.symm) same
  · obtain ⟨file,found,own⟩ := Db.ofDrivePair_iff.mp belongs
    obtain ⟨present,key⟩ := Table.find?_eq_some.mp found
    obtain ⟨old,member,asked⟩ := mem_requeued_iff.mp pending
    have same : item.trackedFileId = old.trackedFileId ∧ item.action = old.action := by
      rcases asked with ⟨_,rfl⟩ | ⟨_,rfl⟩ <;> exact ⟨rfl,rfl⟩
    have routine := holds.routine old member file present (same.1.symm.trans key.symm) own
    rw [same.2,opposite_standby]
    unfold QuietDrains.heading
    rcases routine with mirrors | waits
    · rw [if_pos mirrors,Ne,Option.some.injEq]
      exact DriveRole.opposite_ne _
    · rw [waits]
      exact (Option.some_ne_none _).symm
  · rw [active] at rebuilding
    cases rebuilding
  · rw [active] at rebuilding
    cases rebuilding

theorem mending_of_holds {w : World} {files : List TrackedFile} (active : ∀ role, pair.roleState role = .active)
    (holds : Holds pair none ⟨w,none⟩) (calm : Calm pair w)
    (listed : ∀ file ∈ files, file ∈ w.db.trackedFiles.rows ∧ file.drivePairId = pair.id)
    (recorded : ∀ file ∈ files, GoodAt w.disk (pair.copyOn pair.activeRole file.relativePath) file.checksum)
    (free : ∀ file ∈ files, ¬HeldUp w.db file.id) :
    Mending pair pair.standbyRole files w.db.requeueInProgressSyncQueue
      { w with db := w.db.requeueInProgressSyncQueue } := by
  have standby : w.disk.available pair.standbyPath = true := holds.root
  refine ⟨List.Subset.refl _,refl_of Unmoved _,⟨pair,holds.row,serving_self active⟩,fun role => ?_,fun role rebuilds => ?_,
    fun file member => ⟨?_,?_⟩⟩
  · rcases pair.activeRole.eq_or_opposite role with rfl | rfl
    · exact calm.active
    · exact standby
  · rcases pair.activeRole.eq_or_opposite role with rfl | rfl
    · exact calm.marked
    · have rebuilding := rebuilds rfl
      rw [active] at rebuilding
      cases rebuilding
  · rw [opposite_standby]
    exact recorded file member
  · obtain ⟨present,own⟩ := listed file member
    rcases holds.safe file present own (Option.some_ne_none _).symm with (good | waits) | differs
    · exact .inl good
    · refine .inr ⟨calm.readable _,?_⟩
      obtain ⟨item,row,mine,opened⟩ := waits
      have routine := holds.routine item row file present mine own
      have mirrors : item.action.isMirroring = true := by
        refine routine.resolve_right fun waits => free file member ⟨item,row,mine,.inr ⟨waits,opened⟩⟩
      have heads : QuietDrains.heading pair item.action = some pair.standbyRole := if_pos mirrors
      cases status : item.status with
      | pending => exact ⟨item,mem_requeued_iff.mpr ⟨item,row,.inl ⟨status,rfl⟩⟩,mine,heads⟩
      | inProgress => exact ⟨_,mem_requeued_iff.mpr ⟨item,row,.inr ⟨status,rfl⟩⟩,mine,heads⟩
      | completed => exact absurd status opened
      | failed => exact absurd ⟨item,row,mine,.inl status⟩ (free file member)
    · exact absurd (recorded file member) differs.2

end

/-! A file below a tracked folder, scanned and copied. -/

/-- Drives that stay as they are, and threads that run one after the other. -/
def quietEnvironment : Environment := { calmEnvironment 0 with drives := fun _ _ disk => disk }

theorem serves_healthy (pair : DrivePair) : Serves pair Io.healthy := by
  constructor <;> intros <;> rfl

theorem quiet_quietEnvironment (pair : DrivePair) : Quiet quietEnvironment pair :=
  ⟨fun _ _ => serves_healthy pair,fun _ _ _ _ _ => rfl,fun _ _ _ _ there => there⟩

section
local instance : Blake3 := sampleBlake3

def scannedWorld : World := after notesScan freshField.world

theorem calm_scannedWorld : Calm corruptedPair scannedWorld := by
  refine ⟨rfl,rfl,fun path node found => ?_,fun other member differs => ?_⟩
  · change (if path = driveRootMarker then some ⟨[],none⟩
      else if (⟨"/secondary",path⟩ : Location) = ⟨"/primary","notes.txt"⟩ then some ⟨[1],none⟩ else none) = some node at found
    split at found
    · cases found
      rfl
    · split at found
      · cases found
        rfl
      · cases found
  · rw [List.mem_singleton.mp member] at differs
    exact absurd rfl differs

end

end BitProtector.ScannedDrains
