import BitProtector.FailedResolutions
import BitProtector.ScanAgreement
import BitProtector.ScanRoundTrip

/-! Whether a resolved file passes the next integrity check. The restores compare what they copy
with the recorded checksum; an accepted mismatch takes the active copy as it is, and a new file
is copied over both sides while the recorded checksum stays. -/
namespace BitProtector.ResolvedFiles
open Effect Resolutions AtomicRestores FailedResolutions SymlinkSync

/-! What a check asks of the two sides. -/

/-- Each side is in use, or is the standby and failed. -/
def InUse (pair : DrivePair) : Prop :=
  ∀ role, pair.roleState role = .active ∨ (pair.roleState role = .failed ∧ role = pair.standbyRole)

theorem inUse_operational {pair : DrivePair} (active : ∀ role, pair.roleState role = .active) (disk : Disk) :
    InUse (pair.operational disk) := by
  unfold DrivePair.operational
  split
  · intro role
    have primary := active .primary
    have secondary := active .secondary
    unfold DrivePair.roleState at primary secondary
    unfold DrivePair.failedOver DrivePair.standbyRole
    cases held : pair.activeRole <;> cases role <;>
      simp [DrivePair.roleState,DrivePair.withRuntime,forRole,DriveRole.opposite,primary,secondary]
  · intro role
    exact .inl (active role)

theorem InUse.active {pair : DrivePair} (used : InUse pair) : pair.roleState pair.activeRole = .active := by
  rcases used pair.activeRole with active | ⟨_,standby⟩
  · exact active
  · unfold DrivePair.standbyRole at standby
    cases role : pair.activeRole <;> rw [role] at standby <;> cases standby

section
variable [Blake3]

/-- The side is mounted, and its copy can be read to the recorded checksum. -/
def Verified (io : Io) (disk : Disk) (path : Location) (checksum : String) : Prop :=
  disk.available path.root = true ∧ io.openRead path = true ∧ GoodAt disk path checksum

theorem sideDigest_verified {io : Io} {disk : Disk} {path : Location} {checksum : String} :
    sideDigest io path disk = some (some checksum) ↔ Verified io disk path checksum := by
  unfold sideDigest Verified GoodAt Disk.exists?
  cases disk.available path.root with
  | false => simp
  | true =>
    cases disk.node path with
    | none => simp
    | some node =>
      cases io.openRead path with
      | false => simp
      | true =>
        cases whole : node.whole <;> simp [whole]

omit [Blake3] in
theorem statusOfChecksums_ok_iff {pair : DrivePair} (used : InUse pair) {stored : String} {master mirror : Option String} :
    statusOfChecksums pair master mirror stored = .ok ↔
      (pair.primaryState ≠ .failed → master = some stored) ∧ (pair.secondaryState ≠ .failed → mirror = some stored) := by
  have primary := used .primary
  have secondary := used .secondary
  unfold DrivePair.roleState DrivePair.standbyRole at primary secondary
  unfold statusOfChecksums DrivePair.isDegraded DrivePair.roleState
  rcases primary with first | ⟨first,standby⟩ <;> rcases secondary with second | ⟨second,other⟩
  · cases master with
    | none => simp [first,second]
    | some digest =>
      cases mirror with
      | none => simp [first,second]
      | some copy =>
        by_cases valid : digest = stored <;> by_cases same : copy = stored <;> simp [first,second,valid,same,beq_eq_decide]
  · have role : pair.activeRole = .primary := by
      cases held : pair.activeRole with
      | primary => rfl
      | secondary =>
        rw [held] at other
        cases other
    by_cases valid : master = some stored <;> simp [first,second,role,valid]
  · have role : pair.activeRole = .secondary := by
      cases held : pair.activeRole with
      | secondary => rfl
      | primary =>
        rw [held] at standby
        cases standby
    by_cases valid : mirror = some stored <;> simp [first,second,role,valid]
  · rw [← other] at standby
    cases standby

theorem not_unavailable {io : Io} {pair : DrivePair} {file : TrackedFile} {disk : Disk} {role : DriveRole}
    (verified : pair.roleState role ≠ .failed → Verified io disk (pair.copyOn role file.relativePath) file.checksum) :
    ¬(pair.roleState role = .active ∧ disk.available (pair.pathForRole role) = false) := by
  rintro ⟨active,gone⟩
  have there := (verified (by rw [active]; decide)).1
  exact absurd (gone.symm.trans there) Bool.false_ne_true

theorem checkedStatus_ok_iff {io : Io} {pair : DrivePair} (used : InUse pair) {file : TrackedFile} {disk : Disk} :
    checkedStatus io pair file disk = some .ok ↔ ∀ role,
      (sideDigest io (pair.copyOn role file.relativePath) disk).isSome = true ∧
        (pair.roleState role ≠ .failed → Verified io disk (pair.copyOn role file.relativePath) file.checksum) := by
  unfold checkedStatus
  constructor
  · intro checked
    split at checked
    · cases checked
    · split at checked
      · cases checked
      · obtain ⟨master,first,rest⟩ := Option.bind_eq_some_iff.mp checked
        obtain ⟨mirror,second,status⟩ := Option.map_eq_some_iff.mp rest
        obtain ⟨primary,secondary⟩ := (statusOfChecksums_ok_iff used).mp status
        intro role
        cases role with
        | primary =>
          rw [first]
          refine ⟨rfl,fun kept => sideDigest_verified.mp ?_⟩
          rw [first,primary kept]
        | secondary =>
          rw [second]
          refine ⟨rfl,fun kept => sideDigest_verified.mp ?_⟩
          rw [second,secondary kept]
  · intro sides
    refine (if_neg (not_unavailable (sides .primary).2)).trans ((if_neg (not_unavailable (sides .secondary).2)).trans ?_)
    obtain ⟨master,first⟩ := Option.isSome_iff_exists.mp (sides .primary).1
    obtain ⟨mirror,second⟩ := Option.isSome_iff_exists.mp (sides .secondary).1
    rw [first,second]
    refine congrArg some ((statusOfChecksums_ok_iff used).mpr ⟨fun kept => ?_,fun kept => ?_⟩)
    · have same := sideDigest_verified.mpr ((sides .primary).2 kept)
      exact Option.some.inj (first.symm.trans same)
    · have same := sideDigest_verified.mpr ((sides .secondary).2 kept)
      exact Option.some.inj (second.symm.trans same)

/-- The check finds the sides in use, and can open what it finds. -/
def Reads (later : Io) (pair : DrivePair) (relativePath : String) (available : String → Bool) : Prop :=
  ∀ role, (pair.roleState role ≠ .failed → available (pair.pathForRole role) = true) ∧
    (available (pair.pathForRole role) = true → later.openRead (pair.copyOn role relativePath) = true)

theorem checkedStatus_ok_iff_good {later : Io} {pair : DrivePair} (used : InUse pair) {file : TrackedFile} {disk : Disk}
    (whole : ∀ role, pair.roleState role = .failed →
      ∃ node, disk.node (pair.copyOn role file.relativePath) = some node ∧ node.whole = true) :
    checkedStatus later pair file disk = some .ok ↔ Reads later pair file.relativePath disk.available ∧
      ∀ role, pair.roleState role ≠ .failed → GoodAt disk (pair.copyOn role file.relativePath) file.checksum := by
  rw [checkedStatus_ok_iff used]
  constructor
  · intro sides
    refine ⟨fun role => ⟨fun kept => ((sides role).2 kept).1,fun there => ?_⟩,fun role kept => ((sides role).2 kept).2.2⟩
    by_cases lost : pair.roleState role = .failed
    · obtain ⟨node,found,_⟩ := whole role lost
      have read := (sides role).1
      unfold sideDigest Disk.exists? at read
      rw [show disk.available (pair.copyOn role file.relativePath).root = true from there,found] at read
      by_contra closed
      simp [Bool.eq_false_iff.mpr closed] at read
    · exact ((sides role).2 lost).2.1
  · rintro ⟨reads,good⟩ role
    have verified (kept : pair.roleState role ≠ .failed) :
        Verified later disk (pair.copyOn role file.relativePath) file.checksum :=
      ⟨(reads role).1 kept,(reads role).2 ((reads role).1 kept),good role kept⟩
    refine ⟨?_,verified⟩
    by_cases lost : pair.roleState role = .failed
    · obtain ⟨node,found,all⟩ := whole role lost
      unfold sideDigest Disk.exists?
      rw [found]
      cases there : disk.available (pair.copyOn role file.relativePath).root with
      | false => rfl
      | true =>
        have opens := (reads role).2 there
        simp [opens,all]
    · rw [sideDigest_verified.mpr (verified lost)]
      rfl

/-- The file as the tables have it now passes a check. -/
def Healthy (later : Io) (u : World) (fileId : Nat) : Prop :=
  ∃ file pair, u.db.trackedFiles.find? fileId = some file ∧ u.db.drivePairs.find? file.drivePairId = some pair ∧
    ∀ masterStrategy mirrorStrategy, ∃ result,
      checkFileIntegrity later pair file masterStrategy mirrorStrategy u = .ok result u ∧ result.status = .ok

theorem healthy_iff {later : Io} {u : World} {file : TrackedFile} {now : DrivePair}
    (tracked : ∃ flag, u.db.trackedFiles.find? file.id = some { file with isMirrored := flag })
    (paired : u.db.drivePairs.find? file.drivePairId = some now) :
    Healthy later u file.id ↔ checkedStatus later now file u.disk = some .ok := by
  obtain ⟨flag,tracked⟩ := tracked
  have run := checkFileIntegrity_run later now { file with isMirrored := flag } .streaming .streaming u
  constructor
  · rintro ⟨other,pair,found,known,passes⟩
    cases tracked.symm.trans found
    cases paired.symm.trans known
    obtain ⟨result,ran,ok⟩ := passes .streaming .streaming
    split at run
    · rename_i status checked
      obtain ⟨other,same,again⟩ := run
      cases ran.symm.trans again
      rw [← ok,same]
      exact checked
    · cases ran.symm.trans run
  · intro checked
    refine ⟨_,now,tracked,paired,fun masterStrategy mirrorStrategy => ?_⟩
    have passes := checkFileIntegrity_run later now { file with isMirrored := flag } masterStrategy mirrorStrategy u
    rw [show checkedStatus later now { file with isMirrored := flag } u.disk = some .ok from checked] at passes
    obtain ⟨result,ok,ran⟩ := passes
    exact ⟨result,ran,ok⟩

/-! What a resolution leaves to check. -/

omit [Blake3] in
/-- The roots that are mounted after the call. -/
def mounted (io : Io) (pair : DrivePair) (resolution : String) (disk : Disk) : String → Bool :=
  match resolution with
  | "keep_master" => (made io pair.secondaryPath disk).available
  | "keep_mirror" => (made io pair.primaryPath disk).available
  | "provide_new" => (made io pair.secondaryPath (made io pair.primaryPath disk)).available
  | _ => disk.available

/-- What the copies of a new file end with: a copy of a file onto itself leaves it empty. -/
def provided (disk : Disk) (master mirror src : Location) (role : DriveRole) : List UInt8 :=
  if src = master ∨ (role = .secondary ∧ src = mirror) then []
  else ((disk.node src).map FileNode.bytes).getD []

def ProvidedRecorded (pair : DrivePair) (file : TrackedFile) (disk : Disk) : Option Location → Prop
  | none => True
  | some src => ∀ role, pair.roleState role ≠ .failed → checksumBytes (provided disk (pair.copyOn .primary file.relativePath)
      (pair.copyOn .secondary file.relativePath) src role) = file.checksum

/-- The active copy is the recorded one, with the root marker that mirroring writes. -/
def AcceptedRecorded (pair : DrivePair) (file : TrackedFile) (disk : Disk) : Prop :=
  let active := pair.copyOn pair.activeRole file.relativePath
  if pair.copyOn pair.standbyRole file.relativePath = active then
    GoodAt disk active file.checksum ∨ checksumBytes [] = file.checksum
  else GoodAt (marked pair.activePath disk) active file.checksum

/-- The recorded checksum is that of what the resolution leaves. -/
def Recorded (pair : DrivePair) (file : TrackedFile) (disk : Disk) (resolution : String) (newFilePath : Option Location) :
    Prop :=
  match resolution with
  | "accept_current" => AcceptedRecorded pair file disk
  | "provide_new" => ProvidedRecorded pair file disk newFilePath
  | _ => True

/-- The item that a resolution has queued is processed. -/
def Processed (worker : Io) (resolution : String) (fileId : Nat) (t u : World) : Prop :=
  if resolution = "accept_current" then
    ∃ item, t.db.openSyncQueueItem fileId .adoptMirror none = some item ∧ processItem worker item t = .ok () u
  else u = t

/-! The copies. -/

section
variable {io worker later : Io} {item value : SyncQueueItem} {file : TrackedFile} {pair : DrivePair} {w t u : World}

omit [Blake3] in
theorem prepared_available (io : Io) (root : String) (disk : Disk) :
    (prepared io root disk).available = (made io root disk).available := by
  unfold prepared marked
  split <;> rfl

theorem restoreSide_left_good {target : DriveRole}
    (ran : restoreSide io pair target file.relativePath file.checksum w = .ok () t) :
    t.db = w.db ∧ t.disk.available = (made io (pair.pathForRole target) w.disk).available ∧
      ∀ role, GoodAt t.disk (pair.copyOn role file.relativePath) file.checksum := by
  have ended := restoreSide_run io pair target file.relativePath file.checksum w
  rcases restoreSide_cases io pair file target w with ⟨copy,start,_,completes,same,_,left⟩ | ⟨_,message,_,failed,_⟩
  · have good := goodAt_left (restoreStart_present start) completes same
    rw [(EStateM.Result.ok.inj (left.symm.trans ran)).2] at good
    split at ended
    · cases ran.symm.trans ended
      exact ⟨rfl,prepared_available io _ _,good⟩
    · obtain ⟨message,_,failed,_⟩ := ended
      cases ran.symm.trans failed
  · cases failed.symm.trans ran

omit [Blake3] in
theorem fsCopy_left {src dst : Location} (ran : fsCopy io src dst w = .ok () t) :
    w.disk.exists? src = true ∧ t = { w with disk := w.disk.write dst (copySource w.disk src dst).bytes } := by
  have ended := fsCopy_run io src dst w
  split at ended
  · rename_i enters
    split at ended
    · rename_i completes
      cases ended.symm.trans ran
      obtain ⟨permitted,arrived⟩ := Bool.and_eq_true_iff.mp completes
      simp only [entersCopy,Bool.and_eq_true] at enters
      rw [got,if_pos permitted,delivered_of_arrives arrived]
      exact ⟨enters.1.1,rfl⟩
    · obtain ⟨message,failed⟩ := ended
      cases failed.symm.trans ran
  · obtain ⟨message,failed⟩ := ended
    cases failed.symm.trans ran

omit [Blake3] in
theorem copySource_bytes (disk : Disk) (src dst : Location) :
    (copySource disk src dst).bytes = if src = dst then [] else ((disk.node src).map FileNode.bytes).getD [] := by
  unfold copySource
  split
  · rename_i same
    rw [same,Disk.write_same]
    rfl
  · rename_i apart
    rw [Disk.write_other _ _ apart]
    cases disk.node src <;> rfl

omit [Blake3] in
theorem createParentDirs_left {path : Location} (ran : createParentDirs io path w = .ok () t) :
    t = { w with disk := made io path.root w.disk } := by
  cases permits : io.createDirAll path with
  | false =>
    have failed : createParentDirs io path w = .error osError w := by
      rw [createParentDirs,permits]
      rfl
    cases failed.symm.trans ran
  | true =>
    cases (createParentDirs_run permits w).symm.trans ran
    rfl

omit [Blake3] in
theorem provided_node {disk ready : Disk} (same : ready.node = disk.node) (master mirror src : Location) :
    let first := ready.write master (copySource ready src master).bytes
    let last := first.write mirror (copySource first src mirror).bytes
    last.node master = some ⟨provided disk master mirror src .primary,none⟩ ∧
      last.node mirror = some ⟨provided disk master mirror src .secondary,none⟩ := by
  intro first last
  have written : (copySource ready src master).bytes = provided disk master mirror src .primary := by
    rw [copySource_bytes,same]
    simp [provided]
  have again : (copySource first src mirror).bytes = provided disk master mirror src .secondary := by
    rw [copySource_bytes]
    by_cases own : src = master
    · have empty : first.node src = some ⟨[],none⟩ := by
        rw [own,Disk.write_same,copySource_bytes,if_pos own]
      rw [empty]
      simp [provided,own]
    · rw [Disk.write_other _ _ own,same]
      simp [provided,own]
  constructor
  · by_cases one : mirror = master
    · rw [← one,Disk.write_same,again]
      simp [provided,one]
    · rw [Disk.write_other _ _ (Ne.symm one),Disk.write_same,written]
  · rw [Disk.write_same,again]

omit [Blake3] in
theorem provideNew_left {newFilePath : Option Location} (ran : provideNew io file pair newFilePath w = .ok () t) :
    ∃ src, newFilePath = some src ∧ t.db = w.db ∧
      t.disk.available = (made io pair.secondaryPath (made io pair.primaryPath w.disk)).available ∧
      ∀ role, t.disk.node (pair.copyOn role file.relativePath) = some ⟨provided w.disk
        (pair.copyOn .primary file.relativePath) (pair.copyOn .secondary file.relativePath) src role,none⟩ := by
  cases newFilePath with
  | none => cases ran
  | some src =>
    unfold provideNew at ran
    dsimp only at ran
    rw [bind_of_ok (Act.look_apply _ _)] at ran
    obtain ⟨_,_,there,afterThere⟩ := bind_success ran
    obtain ⟨_,rfl⟩ := Act.ensure_success there
    obtain ⟨_,_,regular,afterRegular⟩ := bind_success afterThere
    obtain ⟨_,rfl⟩ := Act.ensure_success regular
    obtain ⟨_,_,master,afterMaster⟩ := bind_success afterRegular
    cases createParentDirs_left master
    obtain ⟨_,_,mirror,afterMirror⟩ := bind_success afterMaster
    cases createParentDirs_left mirror
    obtain ⟨_,_,first,second⟩ := bind_success afterMirror
    obtain ⟨_,rfl⟩ := fsCopy_left first
    obtain ⟨_,rfl⟩ := fsCopy_left second
    obtain ⟨master,mirror⟩ := provided_node ((made_node io pair.secondaryPath _).trans (made_node io pair.primaryPath _))
      (pair.copyOn .primary file.relativePath) (pair.copyOn .secondary file.relativePath) src
    refine ⟨src,rfl,rfl,rfl,fun role => ?_⟩
    cases role with
    | primary => exact master
    | secondary => exact mirror

omit [Blake3] in
theorem ensureDriveRootMarker_left {root : String} (ran : ensureDriveRootMarker io root w = .ok () t) :
    t = { w with disk := marked root w.disk } := by
  have ended := ensureDriveRootMarker_run io root w
  split at ended
  · cases ended.symm.trans ran
    rfl
  · obtain ⟨message,failed⟩ := ended
    cases failed.symm.trans ran

/-- The ground that a mirror prepares. -/
def mirrorGround (io : Io) (pair : DrivePair) (disk : Disk) : Disk :=
  made io pair.standbyPath (marked pair.standbyPath (marked pair.activePath disk))

omit [Blake3] in
theorem prepareMirror_left {relativePath : String} (ran : prepareMirror io pair relativePath w = .ok () t) :
    pair.standbyAcceptsSync w.disk = true ∧ t = { w with disk := mirrorGround io pair w.disk } := by
  unfold prepareMirror at ran
  dsimp only at ran
  rw [bind_of_ok (Act.look_apply _ _)] at ran
  obtain ⟨_,_,accepts,afterAccepts⟩ := bind_success ran
  obtain ⟨ready,rfl⟩ := Act.ensure_success accepts
  obtain ⟨_,_,active,afterActive⟩ := bind_success afterAccepts
  cases ensureDriveRootMarker_left active
  obtain ⟨_,_,standby,afterStandby⟩ := bind_success afterActive
  cases ensureDriveRootMarker_left standby
  rw [bind_of_ok (Act.look_apply _ _)] at afterStandby
  obtain ⟨_,_,there,afterThere⟩ := bind_success afterStandby
  obtain ⟨_,rfl⟩ := Act.ensure_success there
  cases createParentDirs_left (Act.mapErr_success afterThere)
  exact ⟨ready,rfl⟩

omit [Blake3] in
theorem marked_available (root : String) (disk : Disk) : (marked root disk).available = disk.available := by
  unfold marked
  split <;> rfl

omit [Blake3] in
theorem made_mounted {root : String} {disk : Disk} (mounted : disk.available root = true) :
    (made io root disk).available = disk.available := by
  unfold made
  split
  · funext other
    by_cases same : other = root
    · simp [Disk.mount,same,mounted]
    · simp [Disk.mount,same]
  · rfl

omit [Blake3] in
theorem mirrorGround_active {disk : Disk} (apart : pair.copyOn pair.standbyRole file.relativePath ≠
    pair.copyOn pair.activeRole file.relativePath) :
    (mirrorGround io pair disk).node (pair.copyOn pair.activeRole file.relativePath) =
      (marked pair.activePath disk).node (pair.copyOn pair.activeRole file.relativePath) := by
  unfold mirrorGround
  rw [made_node,marked]
  split
  · rfl
  · apply Disk.write_other
    intro same
    have roots : pair.activePath = pair.standbyPath := congrArg Location.root same
    apply apart
    change (⟨pair.standbyPath,file.relativePath⟩ : Location) = ⟨pair.activePath,file.relativePath⟩
    rw [roots]

theorem mirrorFile_left {digest : String} (ran : mirrorFile io pair file.relativePath w = .ok digest t) :
    let active := pair.copyOn pair.activeRole file.relativePath
    let standby := pair.copyOn pair.standbyRole file.relativePath
    let ready := mirrorGround io pair w.disk
    pair.standbyAcceptsSync w.disk = true ∧ ∃ node, ready.node active = some node ∧ t.db = w.db ∧
      (active ≠ standby → node.whole = true) ∧ t.disk = ready.write standby (copySource ready active standby).bytes := by
  intro active standby ready
  cases entered : mirrorEntry io pair file.relativePath w with
  | none =>
    obtain ⟨message,_,failed,_⟩ := mirrorFile_none entered
    cases failed.symm.trans ran
  | some entry =>
    obtain ⟨prepares,enters⟩ := copyEntry_some entered
    obtain ⟨accepts,rfl⟩ := prepareMirror_left prepares
    rcases mirrorFile_some entered with ⟨completes,copied⟩ | ⟨_,message,failed⟩
    · cases copied.symm.trans ran
      have arrived := arrives_of_completes completes
      simp only [entersCopy,Bool.and_eq_true] at enters
      obtain ⟨node,found⟩ := Option.isSome_iff_exists.mp enters.1.1
      refine ⟨accepts,node,found,rfl,fun apart => ?_,?_⟩
      · have source : copySource ready active standby = node := by
          rw [copySource,Disk.write_other _ _ apart,found]
          rfl
        rw [← source]
        exact (Bool.and_eq_true_iff.mp arrived).1
      · rw [← delivered_of_arrives arrived]
        rfl
    · cases failed.symm.trans ran

theorem adoption_there {disk : Disk} (taken : adoption io pair file disk = .taken) :
    disk.available pair.standbyPath = true ∧ disk.exists? (pair.copyOn pair.standbyRole file.relativePath) = true := by
  unfold adoption at taken
  dsimp only at taken
  split at taken
  · rename_i there
    exact Bool.and_eq_true_iff.mp there
  · cases taken

theorem adoption_copied {disk : Disk} (copied : adoption io pair file disk = .copied)
    (mounted : disk.available pair.standbyPath = true) :
    ¬GoodAt disk (pair.copyOn pair.standbyRole file.relativePath) file.checksum := by
  rintro ⟨node,found,whole,same⟩
  unfold adoption Disk.exists? at copied
  dsimp only at copied
  rw [mounted,found] at copied
  cases reads : io.openRead (pair.copyOn pair.standbyRole file.relativePath) <;> simp [reads,whole,same] at copied

omit [Blake3] in
theorem failedOver_sides (pair : DrivePair) :
    pair.failedOver.activePath = pair.standbyPath ∧ pair.failedOver.standbyPath = pair.activePath := by
  unfold DrivePair.failedOver DrivePair.activePath DrivePair.standbyPath DrivePair.standbyRole
  cases pair.activeRole <;> exact ⟨rfl,rfl⟩

omit [Blake3] in
theorem marker_settled (active : ∀ role, pair.roleState role = .active) {disk : Disk}
    (mounted : disk.available (pair.operational disk).standbyPath = true) :
    disk.exists? (driveRootMarkerPath (pair.operational disk).activePath) = true ∨
      disk.exists? (driveRootMarkerPath (pair.operational disk).standbyPath) = false := by
  unfold DrivePair.operational at mounted ⊢
  cases due : emergencyFailoverDue disk pair with
  | true =>
    -- The old active root is mounted, so it was its marker that was missing.
    rw [due,if_pos rfl,(failedOver_sides pair).2] at mounted
    rw [if_pos rfl,(failedOver_sides pair).1]
    simp only [emergencyFailoverDue,mounted,missingExpectedRootMarker,Bool.true_and,Bool.and_eq_true,Bool.not_not] at due
    exact .inl due.1.1.1.2
  | false =>
    rw [due,if_neg Bool.false_ne_true] at mounted
    rw [if_neg Bool.false_ne_true]
    simp only [emergencyFailoverDue,active,mounted,beq_self_eq_true,Bool.and_true,Bool.not_eq_false',
      Bool.and_eq_true,missingExpectedRootMarker,Bool.not_eq_true'] at due
    obtain ⟨there,found⟩ := due
    cases first : disk.exists? (driveRootMarkerPath pair.activePath) with
    | true => exact .inl rfl
    | false =>
      rw [← DrivePair.activePath,there,first] at found
      exact .inr (show disk.exists? (driveRootMarkerPath (pair.pathForRole pair.activeRole.opposite)) = false by
        simpa using found)

theorem goodAt_marked {disk : Disk} {checksum : String}
    (marker : disk.exists? (driveRootMarkerPath pair.activePath) = true ∨
      disk.exists? (driveRootMarkerPath pair.standbyPath) = false)
    (there : disk.exists? (pair.copyOn pair.standbyRole file.relativePath) = true) :
    GoodAt (marked pair.activePath disk) (pair.copyOn pair.activeRole file.relativePath) checksum ↔
      GoodAt disk (pair.copyOn pair.activeRole file.relativePath) checksum := by
  unfold marked
  split
  · rfl
  · rename_i unmarked
    apply goodAt_write_other
    intro same
    -- The file would be the marker itself, and the standby would have one.
    have named : file.relativePath = driveRootMarker := congrArg Location.relativePath same
    rw [DrivePair.copyOn,named] at there
    rcases marker with present | absent
    · exact unmarked present
    · exact absurd (absent.symm.trans there) Bool.false_ne_true

theorem adopted_iff (later : Io) (used : InUse pair)
    (marker : w.disk.available pair.standbyPath = true → w.disk.exists? (driveRootMarkerPath pair.activePath) = true ∨
      w.disk.exists? (driveRootMarkerPath pair.standbyPath) = false)
    (ran : adoptMirror io pair file w = .ok () u) :
    u.db = w.db ∧ (checkedStatus later pair file u.disk = some .ok ↔
      Reads later pair file.relativePath w.disk.available ∧ AcceptedRecorded pair file w.disk) := by
  have adopted := adoptMirror_run io pair file w
  unfold AcceptedRecorded
  dsimp only
  cases choice : adoption io pair file w.disk with
  | unreadable =>
    rw [choice] at adopted
    cases adopted.symm.trans ran
  | taken =>
    rw [choice] at adopted
    cases adopted.symm.trans ran
    obtain ⟨mounted,there⟩ := adoption_there choice
    have good := adoption_taken choice
    have whole (role : DriveRole) (lost : pair.roleState role = .failed) :
        ∃ node, w.disk.node (pair.copyOn role file.relativePath) = some node ∧ node.whole = true := by
      obtain ⟨node,found,all,_⟩ := good
      rcases used role with active | ⟨_,standby⟩
      · cases active.symm.trans lost
      · rw [standby]
        exact ⟨node,found,all⟩
    refine ⟨rfl,?_⟩
    rw [checkedStatus_ok_iff_good used whole]
    apply and_congr_right
    intro _
    have sides : (∀ role, pair.roleState role ≠ .failed → GoodAt w.disk (pair.copyOn role file.relativePath) file.checksum) ↔
        GoodAt w.disk (pair.copyOn pair.activeRole file.relativePath) file.checksum := by
      constructor
      · intro all
        exact all pair.activeRole (by rw [used.active]; decide)
      · intro active role _
        rcases pair.activeRole.eq_or_opposite role with rfl | rfl
        · exact active
        · exact good
    rw [sides]
    split
    · rename_i one
      rw [← one]
      exact iff_of_true good (.inl good)
    · exact (goodAt_marked (marker mounted) there).symm
  | copied =>
    rw [choice] at adopted
    obtain ⟨digest,_,mirrored,rest⟩ := bind_success (adopted.symm.trans ran)
    cases rest
    obtain ⟨accepts,node,found,db,all,disk⟩ := mirrorFile_left mirrored
    obtain ⟨_,mounted⟩ := Bool.and_eq_true_iff.mp accepts
    have working (role : DriveRole) : pair.roleState role = .active := by
      rcases used role with active | ⟨lost,standby⟩
      · exact active
      · rcases DrivePair.standbyAcceptsSync_state accepts with state | state <;> rw [← standby,lost] at state <;> cases state
    have kept (role : DriveRole) : pair.roleState role ≠ .failed := by
      rw [working role]
      decide
    have available : u.disk.available = w.disk.available := by
      rw [disk,Disk.write_available,mirrorGround,made_mounted,marked_available,marked_available]
      rw [marked_available,marked_available]
      exact mounted
    refine ⟨db,?_⟩
    rw [checkedStatus_ok_iff_good used fun role lost => absurd lost (kept role),available]
    apply and_congr_right
    intro _
    split
    · rename_i one
      have left : GoodAt u.disk (pair.copyOn pair.standbyRole file.relativePath) file.checksum ↔
          checksumBytes [] = file.checksum := by
        rw [disk,goodAt_write,copySource_bytes,if_pos one.symm]
      rw [← one,or_iff_right (adoption_copied choice mounted),← left]
      constructor
      · intro good
        exact good _ (kept _)
      · intro good role _
        rcases pair.activeRole.eq_or_opposite role with rfl | rfl
        · rw [← one]
          exact good
        · exact good
    · rename_i apart
      have source : GoodAt u.disk (pair.copyOn pair.activeRole file.relativePath) file.checksum ↔
          GoodAt (marked pair.activePath w.disk) (pair.copyOn pair.activeRole file.relativePath) file.checksum := by
        rw [disk,goodAt_write_other _ _ _ (Ne.symm apart),GoodAt,GoodAt,mirrorGround_active apart]
      rw [← source]
      constructor
      · intro good
        exact good _ (kept _)
      · intro good role _
        rcases pair.activeRole.eq_or_opposite role with rfl | rfl
        · exact good
        · change GoodAt u.disk (pair.copyOn pair.standbyRole file.relativePath) file.checksum
          obtain ⟨other,there,_,same⟩ := good
          rw [disk,Disk.write_other _ _ (Ne.symm apart),found] at there
          cases there
          rw [disk,goodAt_write,copySource_bytes,if_neg (Ne.symm apart),found]
          exact same

/-! The rows. -/

omit [Blake3] in
/-- The rows that a resolution and its check go by. -/
structure Rows (itemId : Nat) (file : TrackedFile) (now : DrivePair) (db : Db) : Prop where
  tracked : ∃ flag, db.trackedFiles.find? file.id = some { file with isMirrored := flag }
  paired : db.drivePairs.find? file.drivePairId = some now
  listed : ∃ row, db.syncQueue.find? itemId = some row

omit [Blake3] in
theorem rows_loaded {itemId : Nat} (admitted : Admitted w.db itemId item file pair) :
    Rows itemId file (pair.operational w.disk) (w.db.operational w.disk pair) := by
  obtain ⟨flag,flags,_⟩ := setsFlags_operational w.db w.disk pair
  constructor
  · have found := flags item.trackedFileId
    rw [admitted.tracked,Option.map_some,← admitted.fileId] at found
    exact ⟨flag file,found⟩
  · exact find?_operational (Db.getDrivePair_ok.mpr admitted.paired) w.disk
  · exact ⟨_,(find?_operational_queue w.db w.disk pair itemId).trans (by rw [admitted.listed,Option.map_some])⟩

omit [Blake3] in
theorem settled_rows {itemId : Nat} {now : DrivePair} (rows : Rows itemId file now w.db) (own : item.id = itemId)
    (ran : (do
      Act.execute (fun db => db.updateSyncQueueStatus item.id .completed none)
      Act.execute (fun db => db.updateTrackedFileMirrorStatus file.id true)
      Act.query (fun db => db.getSyncQueueItem item.id) : Act SyncQueueItem) w = .ok value t) :
    Rows itemId file now t.db ∧ t.disk = w.disk ∧ ∃ row, t.db.syncQueue.find? itemId = some row ∧ row.status = .completed := by
  rw [bind_of_ok (Act.execute_apply _ _),bind_of_ok (Act.execute_apply _ _)] at ran
  obtain ⟨_,rfl⟩ := Act.query_success ran
  obtain ⟨⟨flag,tracked⟩,paired,row,listed⟩ := rows
  have completed := Db.find?_updateSyncQueueStatus w.db item.id itemId .completed none
  rw [listed,Option.map_some,if_pos own.symm] at completed
  refine ⟨⟨⟨true,?_⟩,paired,_,completed⟩,rfl,_,completed,rfl⟩
  refine (Db.find?_updateTrackedFile _ _ _ _ _).trans ?_
  change (w.db.trackedFiles.find? file.id).map _ = _
  rw [tracked,Option.map_some,if_pos rfl]

omit [Blake3] in
theorem openSyncQueueItem_some {db : Db} {fileId : Nat} {action : SyncAction}
    (found : db.openSyncQueueItem fileId action none = some item) :
    db.syncQueue.find? item.id = some item ∧ item.trackedFileId = fileId ∧ item.action = action ∧
      item.status.isOpen = true := by
  have meets := List.find?_some found
  simp only [Bool.and_eq_true,beq_iff_eq] at meets
  exact ⟨Table.find?_of_mem _ (List.mem_of_find?_eq_some found),meets.1.1.1,meets.1.1.2,meets.1.2⟩

omit [Blake3] in
theorem InUse.steady {now : DrivePair} (used : InUse now) : now.isQuiescing = false := by
  unfold DrivePair.isQuiescing
  rcases used .primary with first | ⟨first,_⟩ <;> rcases used .secondary with second | ⟨second,_⟩ <;> rw [first,second] <;>
    rfl

theorem adopted_item {itemId : Nat} {now : DrivePair} (settled : emergencyFailoverDue t.disk now = false)
    (used : InUse now) (rows : Rows itemId file now t.db)
    (completed : ∃ row, t.db.syncQueue.find? itemId = some row ∧ row.status = .completed)
    (found : t.db.openSyncQueueItem file.id .adoptMirror none = some item) (ran : processItem worker item t = .ok () u) :
    (∃ v x, v.disk = t.disk ∧ adoptMirror worker now file v = .ok () x ∧ u.disk = x.disk) ∧ Rows itemId file now u.db ∧
      ∃ row, u.db.syncQueue.find? itemId = some row ∧ row.status = .completed := by
  obtain ⟨listed,own,adopts,isOpen⟩ := openSyncQueueItem_some found
  obtain ⟨⟨flag,tracked⟩,paired,_⟩ := rows
  have hasFile : t.db.getTrackedFile item.trackedFileId = .ok { file with isMirrored := flag } := by
    rw [own]
    exact Db.getTrackedFile_ok.mpr tracked
  have hasPair : t.db.getDrivePair file.drivePairId = .ok now := Db.getDrivePair_ok.mpr paired
  have same : now.operational t.disk = now := by rw [DrivePair.operational,settled,if_neg Bool.false_ne_true]
  have runs : itemSkipped item now t.disk = false := by
    rw [itemSkipped,same,used.steady,adopts]
    rfl
  have sets : item.action.setsMirrored = true := by
    rw [adopts]
    rfl
  have started : processItem worker item t = _ := processItem_started hasFile hasPair runs
  rw [ran,same,adopts,runAction_adoptMirror] at started
  obtain ⟨result,v,action,finish⟩ := bind_success started.symm
  obtain ⟨_,x,adopted,rest⟩ := bind_success action
  cases rest
  have disk := diskKept_finishItem item { file with isMirrored := flag } now (.ok ()) v
  have kept := dbKept_adoptMirror worker now { file with isMirrored := flag } (itemStarted item now t)
  rw [after_of_ok finish] at disk
  rw [after_of_ok adopted] at kept
  have db : v.db = t.db.updateSyncQueueStatus item.id .inProgress none := by
    refine kept.trans ?_
    rw [itemStarted,Db.operational,settled,if_neg Bool.false_ne_true]
  have row : v.db.drivePairs.find? now.id = some now := by
    rw [db,show now.id = file.drivePairId from Table.find?_key paired]
    exact paired
  have ends := (after_of_ok finish).symm.trans (finishItem_after sets row)
  rw [adopts,setsFlags_finalized_none (not_rebuildFinishes rfl),db] at ends
  have finished : u.db = itemFinished item { file with isMirrored := flag }
      (t.db.updateSyncQueueStatus item.id .inProgress none) := congrArg World.db ends
  refine ⟨⟨itemStarted item now t,v,rfl,adopted,disk⟩,?_⟩
  obtain ⟨row,there,status⟩ := completed
  have apart : itemId ≠ item.id := by
    rintro rfl
    cases there.symm.trans listed
    rw [status] at isOpen
    cases isOpen
  have left : u.db.syncQueue.find? itemId = some row := by
    rw [finished,itemFinished,Db.updateTrackedFileMirrorStatus,Db.updateTrackedFile_syncQueue,
      Db.find?_updateSyncQueueStatus,Db.find?_updateSyncQueueStatus,there]
    simp [apart]
  refine ⟨⟨⟨true,?_⟩,?_,row,left⟩,row,left,status⟩
  · rw [finished]
    refine (Db.find?_updateTrackedFile _ _ _ _ _).trans ?_
    change (t.db.trackedFiles.find? file.id).map _ = _
    rw [tracked,Option.map_some,if_pos rfl]
  · rw [finished]
    exact paired

/-! The sidecar of an accepted mismatch is neither a copy nor a marker. -/

omit [Blake3] in
theorem exists_marker_write {disk : Disk} {sidecar : Location} (ordinary : sidecar.relativePath ≠ driveRootMarker)
    (bytes : List UInt8) (root : String) :
    (disk.write sidecar bytes).exists? (driveRootMarkerPath root) = disk.exists? (driveRootMarkerPath root) := by
  have apart : driveRootMarkerPath root ≠ sidecar := by
    intro same
    exact ordinary (by rw [← same]; rfl)
  rw [Disk.exists?,Disk.write_other _ _ apart]
  rfl

omit [Blake3] in
theorem emergencyFailoverDue_write {disk : Disk} {sidecar : Location} (ordinary : sidecar.relativePath ≠ driveRootMarker)
    (bytes : List UInt8) (now : DrivePair) :
    emergencyFailoverDue (disk.write sidecar bytes) now = emergencyFailoverDue disk now := by
  unfold emergencyFailoverDue missingExpectedRootMarker
  simp only [exists_marker_write ordinary,Disk.write_available]

theorem acceptedRecorded_write {disk : Disk} {sidecar : Location} (ordinary : sidecar.relativePath ≠ driveRootMarker)
    (apart : ∀ role, pair.copyOn role file.relativePath ≠ sidecar) (bytes : List UInt8) :
    AcceptedRecorded pair file (disk.write sidecar bytes) ↔ AcceptedRecorded pair file disk := by
  have ground : GoodAt (marked pair.activePath (disk.write sidecar bytes)) (pair.copyOn pair.activeRole file.relativePath)
      file.checksum ↔ GoodAt (marked pair.activePath disk) (pair.copyOn pair.activeRole file.relativePath) file.checksum := by
    unfold marked
    rw [exists_marker_write ordinary]
    split
    · exact goodAt_write_other _ _ _ (apart _)
    · by_cases own : pair.copyOn pair.activeRole file.relativePath = driveRootMarkerPath pair.activePath
      · rw [own,goodAt_write,goodAt_write]
      · rw [goodAt_write_other _ _ _ own,goodAt_write_other _ _ _ own]
        exact goodAt_write_other _ _ _ (apart _)
  unfold AcceptedRecorded
  dsimp only
  rw [ground,goodAt_write_other _ _ _ (apart _)]

theorem resolutionCopy_checked (later : Io) {resolution : String} {newFilePath : Option Location} (used : InUse pair)
    (other : resolution ≠ "accept_current") (ran : resolutionCopy io file pair resolution newFilePath w = .ok () t) :
    t.db = w.db ∧ (checkedStatus later pair file t.disk = some .ok ↔
      Reads later pair file.relativePath (mounted io pair resolution w.disk) ∧
        Recorded pair file w.disk resolution newFilePath) := by
  have whole (good : ∀ role, GoodAt t.disk (pair.copyOn role file.relativePath) file.checksum) (role : DriveRole)
      (_ : pair.roleState role = .failed) :
      ∃ node, t.disk.node (pair.copyOn role file.relativePath) = some node ∧ node.whole = true := by
    obtain ⟨node,found,all,_⟩ := good role
    exact ⟨node,found,all⟩
  unfold resolutionCopy at ran
  split at ran
  · obtain ⟨db,available,good⟩ := restoreSide_left_good ran
    rw [checkedStatus_ok_iff_good used (whole good),available]
    exact ⟨db,and_congr_right fun _ => iff_of_true (fun role _ => good role) trivial⟩
  · obtain ⟨db,available,good⟩ := restoreSide_left_good ran
    rw [checkedStatus_ok_iff_good used (whole good),available]
    exact ⟨db,and_congr_right fun _ => iff_of_true (fun role _ => good role) trivial⟩
  · obtain ⟨src,rfl,db,available,nodes⟩ := provideNew_left ran
    rw [checkedStatus_ok_iff_good used fun role _ => ⟨_,nodes role,rfl⟩,available]
    refine ⟨db,and_congr_right fun _ => forall_congr' fun role => imp_congr_right fun _ => ?_⟩
    constructor
    · rintro ⟨node,found,_,same⟩
      cases found.symm.trans (nodes role)
      exact same
    · intro same
      exact ⟨_,nodes role,rfl,same⟩
  · cases ran

omit [Blake3] in
theorem sidecar_apart {name : List Char} (named : fileName file.relativePath = some name) (role : DriveRole) :
    pair.copyOn role file.relativePath ≠ withFileName (pair.copyOn .primary file.relativePath) (name ++ ".b3".toList) := by
  intro same
  have text : file.relativePath.toList = (file.relativePath.toList.reverse.dropWhile (· ≠ '/')).reverse ++
      (name ++ ".b3".toList) := by
    have paths := congrArg (fun path => path.relativePath.toList) same
    dsimp only [withFileName,renamedTo] at paths
    rwa [String.toList_ofList] at paths
  have split : file.relativePath.toList = (file.relativePath.toList.reverse.dropWhile (· ≠ '/')).reverse ++
      (file.relativePath.toList.reverse.takeWhile (· ≠ '/')).reverse := by
    rw [← List.reverse_append,List.takeWhile_append_dropWhile,List.reverse_reverse]
  have last := List.append_cancel_left (split.symm.trans text)
  unfold fileName fileName.stripFolder at named
  -- The last segment is not empty, so the path does not end in a slash.
  have ends : file.relativePath.toList.reverse.dropWhile (· == '/') = file.relativePath.toList.reverse := by
    cases reversed : file.relativePath.toList.reverse with
    | nil => rfl
    | cons c rest =>
      rw [reversed] at last
      rw [List.dropWhile_cons]
      split
      · rename_i slash
        rw [List.takeWhile_cons,if_neg (by simpa using slash)] at last
        have length := congrArg List.length last
        simp at length
      · rfl
  rw [ends,List.reverse_reverse,last] at named
  dsimp only at named
  split at named
  · cases named
  · have length := congrArg List.length (Option.some.inj named)
    simp at length

omit [Blake3] in
theorem acceptCurrent_left (ok : BitProtector.acceptCurrent io item file pair w = .ok value t) :
    ∃ name, fileName file.relativePath = some name ∧
      t.disk = w.disk.write (withFileName (pair.copyOn .primary file.relativePath) (name ++ ".b3".toList))
        (s!"{file.checksum}  {String.ofList name}\n".toUTF8.toList) ∧
      t.db = ((w.db.updateSyncQueueStatus item.id .completed none).createSyncQueueItemDedup file.id .adoptMirror).2 := by
  unfold BitProtector.acceptCurrent at ok
  cases named : fileName file.relativePath with
  | none =>
    rw [named] at ok
    cases ok
  | some name =>
    rw [named] at ok
    dsimp only at ok
    obtain ⟨_,_,called,afterCall⟩ := bind_success ok
    obtain ⟨_,rfl⟩ := Act.ensure_success called
    rw [bind_of_ok (Act.store_apply _ _),bind_of_ok (Act.execute_apply _ _),bind_of_ok (Act.insert_apply _ _)] at afterCall
    obtain ⟨_,rfl⟩ := Act.query_success afterCall
    exact ⟨name,rfl,rfl,rfl⟩

omit [Blake3] in
theorem accepted_rows {itemId : Nat} {now : DrivePair} {db next : Db} (rows : Rows itemId file now db) (own : item.id = itemId)
    (ends : next = ((db.updateSyncQueueStatus item.id .completed none).createSyncQueueItemDedup file.id .adoptMirror).2) :
    Rows itemId file now next ∧ ∃ row, next.syncQueue.find? itemId = some row ∧ row.status = .completed := by
  subst own ends
  obtain ⟨pairs,files⟩ := Db.createSyncQueueItemDedupWithCreated_frame
    (db.updateSyncQueueStatus item.id .completed none) file.id .adoptMirror none none
  obtain ⟨tracked,paired,row,listed⟩ := rows
  have updated := Db.find?_updateSyncQueueStatus db item.id item.id .completed none
  rw [listed,Option.map_some,if_pos rfl] at updated
  obtain ⟨left,found,status⟩ := completed_dedup ⟨_,updated,rfl⟩ file.id .adoptMirror
  refine ⟨⟨?_,?_,left,found⟩,left,found,status⟩
  · exact files ▸ tracked
  · exact pairs ▸ paired

/-- A resolved item is completed, and its file passes the next check, exactly where the check can read both sides and
the recorded checksum is that of what the resolution leaves. -/
theorem resolutions_resolve_iff (later : Io) {itemId : Nat} {resolution : String} {newFilePath : Option Location}
    (resolves : resolution ≠ "untrack") (admitted : Admitted w.db itemId item file pair)
    (active : ∀ role, pair.roleState role = .active)
    (resolved : BitProtector.resolveQueueItem io itemId resolution newFilePath w = .ok value t)
    (processed : Processed worker resolution file.id t u) :
    Healthy later u file.id ∧ (∃ row, u.db.syncQueue.find? itemId = some row ∧ row.status = .completed) ↔
      Reads later (pair.operational w.disk) file.relativePath (mounted io (pair.operational w.disk) resolution w.disk) ∧
        Recorded (pair.operational w.disk) file w.disk resolution newFilePath := by
  obtain ⟨_,_,_,other,ok⟩ := resolveQueueItem_success resolved
  cases admitted.listed.symm.trans other.listed
  cases admitted.tracked.symm.trans other.tracked
  cases admitted.paired.symm.trans other.paired
  have used := inUse_operational active w.disk
  have rows : Rows itemId file (pair.operational w.disk) (loaded pair w).db := rows_loaded admitted
  rw [resolveLoaded_fits (resolveLoaded_success ok)] at ok
  by_cases accepts : resolution = "accept_current"
  · rw [if_pos accepts] at ok
    rw [Processed,if_pos accepts] at processed
    obtain ⟨adopt,found,ran⟩ := processed
    obtain ⟨name,named,disk,db⟩ := acceptCurrent_left ok
    have ordinary := SpuriousFailover.sidecar_ordinary ((pair.operational w.disk).copyOn .primary file.relativePath) name
    have apart (role : DriveRole) : (pair.operational w.disk).copyOn role file.relativePath ≠ _ := sidecar_apart named role
    obtain ⟨rows,completed⟩ := accepted_rows rows admitted.id db
    have settled : emergencyFailoverDue t.disk (pair.operational w.disk) = false := by
      rw [disk,emergencyFailoverDue_write ordinary]
      exact ScanAgreement.failedOver_settled w.disk pair
    obtain ⟨⟨v,x,same,adopts,left⟩,rows,completed⟩ := adopted_item settled used rows completed found ran
    rw [disk] at same
    have marker (there : v.disk.available (pair.operational w.disk).standbyPath = true) :
        v.disk.exists? (driveRootMarkerPath (pair.operational w.disk).activePath) = true ∨
          v.disk.exists? (driveRootMarkerPath (pair.operational w.disk).standbyPath) = false := by
      rw [same] at there ⊢
      rw [exists_marker_write ordinary,exists_marker_write ordinary]
      exact marker_settled active there
    have checked := (adopted_iff later used marker adopts).2
    rw [same,acceptedRecorded_write ordinary apart,Disk.write_available] at checked
    rw [and_iff_left completed,healthy_iff rows.tracked rows.paired,left,checked,accepts]
    rfl
  · rw [if_neg accepts,if_neg resolves] at ok
    rw [Processed,if_neg accepts] at processed
    obtain ⟨_,v,copied,settles⟩ := bind_success ok
    obtain ⟨db,checked⟩ := resolutionCopy_checked later used accepts copied
    rw [← db] at rows
    obtain ⟨rows,disk,completed⟩ := settled_rows rows admitted.id settles
    rw [processed,and_iff_left completed,healthy_iff rows.tracked rows.paired,disk]
    exact checked

end

end

/-! A file with a good mirror, and a new version of it. -/

def newVersion : Location := ⟨"/incoming","notes.txt"⟩

def mirroredWorld : World where
  db := undecidedWorld.db
  disk := corruptedWorld.disk.write newVersion [1]

theorem resolutions_resolve_mirrored :
    letI := sampleBlake3
    ∃ value t, BitProtector.resolveQueueItem .healthy 1 "keep_mirror" none mirroredWorld = .ok value t ∧
      Healthy .healthy t 1 := by
  let _ := sampleBlake3
  obtain ⟨value,ran,_⟩ := ScanRoundTrip.ok_of_returns (x := BitProtector.resolveQueueItem .healthy 1 "keep_mirror" none)
    (s := mirroredWorld) (p := fun _ => true) (by decide +kernel)
  have admitted : Admitted mirroredWorld.db 1 (undecided 1) corruptedFile corruptedPair := ⟨rfl,rfl,rfl,rfl,rfl⟩
  have active (role : DriveRole) : corruptedPair.roleState role = .active := by
    cases role <;> rfl
  have processed : Processed .healthy "keep_mirror" corruptedFile.id
      (after (BitProtector.resolveQueueItem .healthy 1 "keep_mirror" none) mirroredWorld) _ := rfl
  have reads : Reads .healthy (corruptedPair.operational mirroredWorld.disk) "notes.txt"
      (mounted .healthy (corruptedPair.operational mirroredWorld.disk) "keep_mirror" mirroredWorld.disk) := by
    intro role
    cases role <;> decide +kernel
  have checked := (resolutions_resolve_iff .healthy (by decide) admitted active ran processed).mpr ⟨reads,trivial⟩
  exact ⟨value,_,ran,checked.1⟩

/-- The new version is on both sides, and the recorded checksum is the old one. -/
theorem provided_version_unhealthy :
    ¬∀ (_ : Blake3) (itemId : Nat) (resolution : String) (newFilePath : Option Location) (item value : SyncQueueItem)
      (file : TrackedFile) (pair : DrivePair) (w t u : World), resolution ≠ "untrack" →
      Admitted w.db itemId item file pair → (∀ role, pair.roleState role = .active) →
      BitProtector.resolveQueueItem .healthy itemId resolution newFilePath w = .ok value t →
      Processed .healthy resolution file.id t u → Healthy .healthy u file.id := by
  intro healthy
  let _ := sampleBlake3
  obtain ⟨value,ran,_⟩ := ScanRoundTrip.ok_of_returns
    (x := BitProtector.resolveQueueItem .healthy 1 "provide_new" (some newVersion))
    (s := mirroredWorld) (p := fun _ => true) (by decide +kernel)
  have passes := healthy sampleBlake3 1 "provide_new" (some newVersion) (undecided 1) value corruptedFile corruptedPair
    mirroredWorld _ _ (by decide) ⟨rfl,rfl,rfl,rfl,rfl⟩ (fun role => by cases role <;> rfl) ran rfl
  have status : checkedStatus .healthy corruptedPair corruptedFile _ = some .ok :=
    (healthy_iff ⟨true,by decide +kernel⟩ (by decide +kernel)).mp passes
  exact absurd status (by decide +kernel)

end BitProtector.ResolvedFiles
