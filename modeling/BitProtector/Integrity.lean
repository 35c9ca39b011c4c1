import BitProtector.Mirror

/-! Checking both copies of a file against its recorded checksum, and the
automatic recovery of a bad copy from a good one. -/
namespace BitProtector
open Effect

inductive IntegrityStatus
  | ok
  | masterCorrupted
  | mirrorCorrupted
  | bothCorrupted
  | mirrorMissing
  | masterMissing
  | primaryDriveUnavailable
  | secondaryDriveUnavailable
  deriving DecidableEq, Repr

structure IntegrityCheckResult where
  fileId : Nat
  storedChecksum : String
  masterChecksum : Option String
  mirrorChecksum : Option String
  masterValid : Bool
  mirrorValid : Bool
  status : IntegrityStatus
  deriving DecidableEq, Repr

/-- A check that found no checksum to compare. -/
def uncheckedResult (file : TrackedFile) (status : IntegrityStatus) : IntegrityCheckResult :=
  ⟨file.id,file.checksum,none,none,false,false,status⟩

def statusOfChecksums (pair : DrivePair) (master mirror : Option String) (stored : String) : IntegrityStatus :=
  let masterValid := master == some stored
  let mirrorValid := mirror == some stored
  if pair.isDegraded then
    match pair.activeRole with
    | .primary => if masterValid then .ok else .bothCorrupted
    | .secondary => if mirrorValid then .ok else .bothCorrupted
  else
    match master.isSome,mirror.isSome,masterValid,mirrorValid with
    | false,_,_,_ => .masterMissing
    | _,false,_,_ => .mirrorMissing
    | true,true,true,true => .ok
    | true,true,false,true => .masterCorrupted
    | true,true,true,false => .mirrorCorrupted
    | true,true,false,false => .bothCorrupted

section
variable [Naming] [Blake3]

/-- The checksum of a copy that is there, on a root that is. -/
def sideChecksum (io : Io) (root : String) (path : Location) (strategy : ChecksumStrategy) : Act (Option String) := do
  if ← Act.look (fun disk => disk.available root && disk.exists? path) then
    let digest ← checksumFile io path strategy
    pure (some digest)
  else pure none

def checkFileIntegrity (io : Io) (pair : DrivePair) (file : TrackedFile)
    (masterStrategy mirrorStrategy : ChecksumStrategy) : Act IntegrityCheckResult := do
  let primaryAvailable ← Act.look (fun disk => disk.available pair.primaryPath)
  let secondaryAvailable ← Act.look (fun disk => disk.available pair.secondaryPath)
  if pair.roleState .primary = .active ∧ primaryAvailable = false then
    pure (uncheckedResult file .primaryDriveUnavailable)
  else if pair.roleState .secondary = .active ∧ secondaryAvailable = false then
    pure (uncheckedResult file .secondaryDriveUnavailable)
  else
    -- Both sides are read before the first error is returned.
    let masterResult ← attempt
      (sideChecksum io pair.primaryPath (pair.copyOn .primary file.relativePath) masterStrategy)
    let mirrorResult ← attempt
      (sideChecksum io pair.secondaryPath (pair.copyOn .secondary file.relativePath) mirrorStrategy)
    match masterResult,mirrorResult with
    | .error message,_ => Act.bail message
    | .ok _,.error message => Act.bail message
    | .ok master,.ok mirror =>
      pure ⟨file.id,file.checksum,master,mirror,master == some file.checksum,mirror == some file.checksum,
        statusOfChecksums pair master mirror file.checksum⟩

def attemptRecovery (io : Io) (pair : DrivePair) (file : TrackedFile) (result : IntegrityCheckResult) : Act Bool := do
  if pair.isDegraded then pure false
  else
    match result.status with
    | .masterCorrupted =>
      restoreFromMirror io pair file.relativePath file.checksum
      pure true
    | .mirrorCorrupted | .mirrorMissing =>
      restoreMirrorFromMaster io pair file.relativePath file.checksum
      pure true
    | .ok => pure false
    | .bothCorrupted | .masterMissing | .primaryDriveUnavailable | .secondaryDriveUnavailable => pure false

def attemptRecoveryWithReconciliation (io : Io) (pair : DrivePair) (file : TrackedFile)
    (result : IntegrityCheckResult) : Act Bool := do
  let recovered ← attemptRecovery io pair file result
  if recovered then
    Act.execute (fun db => db.updateTrackedFileMirrorStatus file.id true)
    Act.execute (fun db => db.completePendingMirrorQueueForFile file.id)
    pure true
  else pure false

/-- The side that recovery rebuilds after a check. -/
def recoveredRole (pair : DrivePair) (status : IntegrityStatus) : Option DriveRole :=
  if pair.isDegraded then none
  else
    match status with
    | .masterCorrupted => some .primary
    | .mirrorCorrupted | .mirrorMissing => some .secondary
    | _ => none

theorem attemptRecovery_eq (io : Io) (pair : DrivePair) (file : TrackedFile) (result : IntegrityCheckResult) :
    attemptRecovery io pair file result =
      match recoveredRole pair result.status with
      | some target => (do restoreSide io pair target file.relativePath file.checksum; pure true)
      | none => pure false := by
  unfold attemptRecovery recoveredRole restoreFromMirror restoreMirrorFromMaster
  cases pair.isDegraded with
  | true => rfl
  | false => cases result.status <;> rfl

theorem attemptRecovery_db (io : Io) (pair : DrivePair) (file : TrackedFile) (result : IntegrityCheckResult) (w : World) :
    (after (attemptRecovery io pair file result) w).db = w.db := by
  rw [attemptRecovery_eq]
  cases recoveredRole pair result.status with
  | none => rfl
  | some target =>
    exact (congrArg World.db (after_bind_of_still (fun _ _ => rfl) w)).trans
      (restoreSide_db io pair target file.relativePath file.checksum w)

omit [Naming] in
theorem checksumFile_after (io : Io) (w : World) (path : Location) (strategy : ChecksumStrategy) :
    after (checksumFile io path strategy) w = w := by
  rw [after,checksumFile_run]
  cases w.disk.node path with
  | none => rfl
  | some node =>
    by_cases reads : (io.openRead path && node.whole) = true
    · simp only [reads,if_true]
    · simp only [reads]
      rfl

omit [Naming] in
theorem sideChecksum_after (io : Io) (w : World) (root : String) (path : Location) (strategy : ChecksumStrategy) :
    after (sideChecksum io root path strategy) w = w := by
  have hashed := checksumFile_after io w path strategy
  unfold sideChecksum
  unfold after at *
  rw [bind_of_ok (Act.look_apply _ _)]
  cases w.disk.available root && w.disk.exists? path with
  | false => rfl
  | true =>
    simp only [if_true]
    rw [bind_apply]
    cases ran : checksumFile io path strategy w with
    | ok digest t =>
      rw [ran] at hashed
      exact hashed
    | error e t =>
      rw [ran] at hashed
      exact hashed

theorem checkFileIntegrity_after (io : Io) (w : World) (pair : DrivePair) (file : TrackedFile)
    (masterStrategy mirrorStrategy : ChecksumStrategy) :
    after (checkFileIntegrity io pair file masterStrategy mirrorStrategy) w = w := by
  have keeps (root : String) (path : Location) (strategy : ChecksumStrategy) :
      Keeps Eq (attempt (sideChecksum io root path strategy)) :=
    keeps_attempt fun w => (sideChecksum_after io w root path strategy).symm
  have looks {α : Type} (view : Disk → α) : Keeps Eq (Act.look view) := fun _ => rfl
  suffices Keeps Eq (checkFileIntegrity io pair file masterStrategy mirrorStrategy) from (this w).symm
  unfold checkFileIntegrity
  refine keeps_bind (looks _) fun primary => keeps_bind (looks _) fun secondary => ?_
  split
  · exact keeps_pure _
  · split
    · exact keeps_pure _
    · refine keeps_bind (keeps _ _ _) fun master => keeps_bind (keeps _ _ _) fun mirror => ?_
      cases master with
      | error _ => exact fun _ => rfl
      | ok _ => cases mirror <;> exact fun _ => rfl

end

end BitProtector
