import BitProtector.LastGoodCopy

/-! What a failing restore leaves at its destination. The copy goes straight into the
destination, which is truncated first and removed after a mismatch; so a failure leaves
the file as it was only where that is what the copy leaves there anyway. -/
namespace BitProtector.AtomicRestores
open Effect

section
variable [Naming]

/-! The ground that a restore prepares. -/

/-- The root that `create_dir_all` may have to make. -/
def made (io : Io) (root : String) (disk : Disk) : Disk := if io.createsRoot root then disk.mount root else disk

def marked (root : String) (disk : Disk) : Disk :=
  if disk.exists? (driveRootMarkerPath root) then disk else disk.write (driveRootMarkerPath root) driveRootMarkerBytes

/-- The disk on which a restore copies, where its destination is below its root. -/
def prepared (io : Io) (root : String) (disk : Disk) : Disk := marked root (made io root disk)

/-- The disk on which a restore copies. -/
def ground (io : Io) (pair : DrivePair) (target : DriveRole) (relativePath : String) (disk : Disk) : Disk :=
  marked (pair.pathForRole target) (made io (pair.copyOn target relativePath).root disk)

omit [Naming] in
@[simp] theorem made_node (io : Io) (root : String) (disk : Disk) : (made io root disk).node = disk.node := by
  unfold made
  split <;> rfl

omit [Naming] in
@[simp] theorem made_exists (io : Io) (root : String) (disk : Disk) : (made io root disk).exists? = disk.exists? := by
  unfold Disk.exists?
  rw [made_node]

omit [Naming] in
@[simp] theorem made_available (io : Io) (root : String) (disk : Disk) :
    (made io root disk).available root = (io.createsRoot root || disk.available root) := by
  unfold made
  cases io.createsRoot root <;> simp [Disk.mount]

/-- The guards of a restore let it go on to its copy. -/
def admits (io : Io) (pair : DrivePair) (target : DriveRole) (relativePath : String) (disk : Disk) : Bool :=
  let root := pair.pathForRole target
  pair.roleState target != .failed && disk.exists? (pair.copyOn target.opposite relativePath) &&
    io.createDirAll (pair.copyOn target relativePath) &&
    (made io (pair.copyOn target relativePath).root disk).available root &&
    (disk.exists? (driveRootMarkerPath root) || io.writeMarker root)

theorem ensureDriveRootMarker_run (io : Io) (root : String) (w : World) :
    if w.disk.available root && (w.disk.exists? (driveRootMarkerPath root) || io.writeMarker root) then
      ensureDriveRootMarker io root w = .ok () { w with disk := marked root w.disk }
    else ∃ message, ensureDriveRootMarker io root w = .error message w := by
  unfold ensureDriveRootMarker marked
  rw [bind_of_ok (Act.look_apply _ _)]
  cases w.disk.available root with
  | false => exact ⟨_,rfl⟩
  | true =>
    rw [bind_of_ok (Act.ensure_true _ _),bind_of_ok (Act.look_apply _ _)]
    cases w.disk.exists? (driveRootMarkerPath root) with
    | true => exact rfl
    | false =>
      cases io.writeMarker root with
      | false => exact ⟨_,rfl⟩
      | true => exact rfl

omit [Naming] in
theorem createParentDirs_run {io : Io} {path : Location} (permits : io.createDirAll path = true) (w : World) :
    createParentDirs io path w = .ok () { w with disk := made io path.root w.disk } := by
  rw [createParentDirs,permits,attemptCall,bind_of_ok (Act.ensure_true _ _),made]
  cases io.createsRoot path.root <;> rfl

theorem prepareRestore_run (io : Io) (pair : DrivePair) (target : DriveRole) (relativePath : String) (w : World) :
    if admits io pair target relativePath w.disk then
      prepareRestore io pair target relativePath w =
        .ok () { w with disk := ground io pair target relativePath w.disk }
    else ∃ message t, prepareRestore io pair target relativePath w = .error message t ∧ t.disk.node = w.disk.node := by
  unfold admits prepareRestore
  cases pair.roleState target != .failed with
  | false => exact ⟨_,w,rfl,rfl⟩
  | true =>
    rw [bind_of_ok (Act.ensure_true _ _),bind_of_ok (Act.look_apply _ _)]
    cases w.disk.exists? (pair.copyOn target.opposite relativePath) with
    | false => exact ⟨_,w,rfl,rfl⟩
    | true =>
      rw [bind_of_ok (Act.ensure_true _ _)]
      cases permits : io.createDirAll (pair.copyOn target relativePath) with
      | false =>
        have refused : createParentDirs io (pair.copyOn target relativePath) w = .error osError w := by
          rw [createParentDirs,permits]
          rfl
        exact ⟨osError,w,bind_of_error refused _,rfl⟩
      | true =>
        rw [bind_of_ok (createParentDirs_run permits w)]
        have ends := ensureDriveRootMarker_run io (pair.pathForRole target)
          { w with disk := made io (pair.copyOn target relativePath).root w.disk }
        simp only [made_exists] at ends
        simp only [Bool.true_and]
        split at ends
        · rename_i markable
          rw [if_pos markable]
          exact ends
        · rename_i refused
          rw [if_neg refused]
          obtain ⟨message,failed⟩ := ends
          exact ⟨message,_,failed,made_node _ _ _⟩

variable [Blake3]

/-- The copy gets through, and its checksum is not the expected one. -/
def rejects (io : Io) (disk : Disk) (src dst : Location) (expected : String) : Bool :=
  arrives io disk src dst && io.flush dst && checksumBytes (delivered io disk src dst) != expected

/-- The disk after a copy that created its destination and failed. -/
def leftBehind (io : Io) (disk : Disk) (src dst : Location) (expected : String) : Disk :=
  if rejects io disk src dst expected && io.removeFile dst then disk.remove dst
  else disk.write dst (delivered io disk src dst)

/-- A failure leaves the destination as `before`: the destination is not created, or the copy does not fail, or
it fails and there was no file that the removal after a mismatch could take, or the file that was there held just
the bytes that get through. -/
def Harmless (io : Io) (disk : Disk) (src dst : Location) (expected : String) (before : Option FileNode) : Prop :=
  if entersCopy io disk src dst then
    (completesCopy io disk src dst = true ∧ checksumBytes (delivered io disk src dst) = expected) ∨
      if rejects io disk src dst expected && io.removeFile dst then before = none
      else before = some ⟨delivered io disk src dst,none⟩
  else disk.node dst = before

omit [Naming] in
theorem copyAndVerifyChecksum_run {io : Io} {w : World} {src dst : Location} (expected : String)
    (enters : entersCopy io w.disk src dst = true) :
    (completesCopy io w.disk src dst = true ∧ checksumBytes (delivered io w.disk src dst) = expected ∧
      copyAndVerifyChecksum io src dst expected w =
        .ok () { w with disk := w.disk.write dst (delivered io w.disk src dst) }) ∨
    (¬(completesCopy io w.disk src dst = true ∧ checksumBytes (delivered io w.disk src dst) = expected) ∧
      ∃ message, copyAndVerifyChecksum io src dst expected w =
        .error message { w with disk := leftBehind io w.disk src dst expected }) := by
  obtain ⟨opened,created,present⟩ := openFile_create_of_enters enters
  unfold copyAndVerifyChecksum completesCopy leftBehind rejects
  rw [bind_of_ok opened,bind_of_ok created,bind_of_ok (Act.look_apply _ _),
    bind_apply,copyLoop_created io present]
  cases arrives io w.disk src dst with
  | false => exact .inr ⟨by simp,_,rfl⟩
  | true =>
    simp only [if_true,bind_apply,attemptCall]
    cases io.flush dst with
    | false => exact .inr ⟨by simp,osError,rfl⟩
    | true =>
      by_cases same : checksumBytes (delivered io w.disk src dst) = expected
      · cases io.copyPermissions dst with
        | false => exact .inr ⟨by simp,osError,by simp [same]⟩
        | true => exact .inl ⟨rfl,same,by simp [same]⟩
      · cases io.removeFile dst with
        | false => exact .inr ⟨by simp [same],_,by simp [same]; rfl⟩
        | true => exact .inr ⟨by simp [same],_,by simp [same,bind_apply]; rfl⟩

omit [Naming] in
theorem copyAndVerifyChecksum_left (io : Io) (w : World) (src dst : Location) (expected : String)
    (before : Option FileNode) :
    (∀ message t, copyAndVerifyChecksum io src dst expected w = .error message t → t.disk.node dst = before) ↔
      Harmless io w.disk src dst expected before := by
  unfold Harmless
  cases enters : entersCopy io w.disk src dst with
  | false =>
    rw [if_neg Bool.false_ne_true]
    constructor
    · intro left
      exact left _ _ (copyAndVerifyChecksum_stays enters)
    · intro same message t failed
      rw [copyAndVerifyChecksum_stays enters] at failed
      cases failed
      exact same
  | true =>
    rw [if_pos rfl]
    rcases copyAndVerifyChecksum_run expected enters with ⟨completes,same,ran⟩ | ⟨stopped,message,failed⟩
    · refine iff_of_true ?_ (.inl ⟨completes,same⟩)
      intro message t fails
      rw [ran] at fails
      cases fails
    · rw [or_iff_right stopped]
      have left : (∀ message t, copyAndVerifyChecksum io src dst expected w = .error message t → t.disk.node dst = before) ↔
          (leftBehind io w.disk src dst expected).node dst = before := by
        constructor
        · intro left
          exact left _ _ failed
        · intro same other t fails
          rw [failed] at fails
          cases fails
          exact same
      rw [left,leftBehind]
      split
      · rw [Disk.remove_same,eq_comm]
      · rw [Disk.write_same,eq_comm]

/-- A restore is harmless when its guards stop it, or when its copy is on the prepared disk. -/
def RestoreHarmless (io : Io) (pair : DrivePair) (target : DriveRole) (relativePath expected : String) (disk : Disk) :
    Prop :=
  admits io pair target relativePath disk = true →
    Harmless io (ground io pair target relativePath disk) (pair.copyOn target.opposite relativePath)
      (pair.copyOn target relativePath) expected (disk.node (pair.copyOn target relativePath))

theorem restoreSide_left (io : Io) (pair : DrivePair) (target : DriveRole) (relativePath expected : String) (w : World) :
    (∀ message t, restoreSide io pair target relativePath expected w = .error message t →
        t.disk.node (pair.copyOn target relativePath) = w.disk.node (pair.copyOn target relativePath)) ↔
      RestoreHarmless io pair target relativePath expected w.disk := by
  have run := prepareRestore_run io pair target relativePath w
  unfold RestoreHarmless restoreSide
  cases admitted : admits io pair target relativePath w.disk with
  | false =>
    rw [admitted,if_neg Bool.false_ne_true] at run
    obtain ⟨message,t,failed,same⟩ := run
    refine iff_of_true ?_ nofun
    intro other u fails
    rw [bind_of_error failed] at fails
    cases fails
    rw [same]
  | true =>
    rw [admitted,if_pos rfl] at run
    have copied := copyAndVerifyChecksum_left io { w with disk := ground io pair target relativePath w.disk }
      (pair.copyOn target.opposite relativePath) (pair.copyOn target relativePath) expected
      (w.disk.node (pair.copyOn target relativePath))
    rw [bind_of_ok run,imp_iff_right rfl,← copied]
    constructor
    · intro left message t failed
      apply left
      · simp only [Act.mapErr,failed]
        rfl
    · intro left message t failed
      unfold Act.mapErr at failed
      split at failed
      · cases failed
      · rename_i inner
        cases failed
        exact left _ _ inner

/-- The restore succeeds. -/
def restores (io : Io) (pair : DrivePair) (target : DriveRole) (relativePath expected : String) (disk : Disk) : Bool :=
  let ready := ground io pair target relativePath disk
  let src := pair.copyOn target.opposite relativePath
  let dst := pair.copyOn target relativePath
  admits io pair target relativePath disk && entersCopy io ready src dst && completesCopy io ready src dst &&
    checksumBytes (delivered io ready src dst) == expected

omit [Blake3] in
theorem marked_kept (io : Io) (root other : String) {disk : Disk} {path : Location} (present : disk.exists? path = true) :
    (marked root (made io other disk)).node path = disk.node path := by
  unfold marked
  split
  · rw [made_node]
  · rename_i unmarked
    rw [Disk.write_other,made_node]
    intro same
    rw [made_exists,← same] at unmarked
    exact unmarked present

omit [Blake3] in
theorem admits_source {io : Io} {pair : DrivePair} {target : DriveRole} {relativePath : String} {disk : Disk}
    (admitted : admits io pair target relativePath disk = true) :
    disk.exists? (pair.copyOn target.opposite relativePath) = true := by
  simp only [admits,Bool.and_eq_true] at admitted
  exact admitted.1.1.1.2

theorem restores_admits {io : Io} {pair : DrivePair} {target : DriveRole} {relativePath expected : String} {disk : Disk}
    (succeeds : restores io pair target relativePath expected disk = true) :
    admits io pair target relativePath disk = true := by
  simp only [restores,Bool.and_eq_true] at succeeds
  exact succeeds.1.1.1

/-- How a restore ends, and what it leaves of its source. -/
theorem restoreSide_run (io : Io) (pair : DrivePair) (target : DriveRole) (relativePath expected : String) (w : World) :
    if restores io pair target relativePath expected w.disk then
      restoreSide io pair target relativePath expected w =
        .ok () (({ w with disk := ground io pair target relativePath w.disk } : World).withDelivered io
          (pair.copyOn target.opposite relativePath) (pair.copyOn target relativePath))
    else ∃ message t, restoreSide io pair target relativePath expected w = .error message t ∧ t.db = w.db ∧
      (pair.copyOn target.opposite relativePath ≠ pair.copyOn target relativePath →
        t.disk.node (pair.copyOn target.opposite relativePath) = w.disk.node (pair.copyOn target.opposite relativePath)) := by
  have run := prepareRestore_run io pair target relativePath w
  have db := restoreSide_db io pair target relativePath expected w
  cases admitted : admits io pair target relativePath w.disk with
  | false =>
    rw [admitted,if_neg Bool.false_ne_true] at run
    obtain ⟨message,t,failed,same⟩ := run
    have ended : restoreSide io pair target relativePath expected w = .error message t := bind_of_error failed _
    rw [after_of_error ended] at db
    rw [restores,admitted,if_neg (by simp)]
    exact ⟨message,t,ended,db,fun _ => congrFun same _⟩
  | true =>
    rw [admitted,if_pos rfl] at run
    have source : (ground io pair target relativePath w.disk).node (pair.copyOn target.opposite relativePath) = _ :=
      marked_kept io _ _ (admits_source admitted)
    unfold restoreSide at db ⊢
    rw [after_bind_of_ok run,Act.after_mapErr] at db
    simp only [restores,admitted,Bool.true_and,bind_of_ok run]
    cases enters : entersCopy io (ground io pair target relativePath w.disk)
        (pair.copyOn target.opposite relativePath) (pair.copyOn target relativePath) with
    | false =>
      rw [Bool.false_and,Bool.false_and,if_neg Bool.false_ne_true]
      have stays : copyAndVerifyChecksum io (pair.copyOn target.opposite relativePath) (pair.copyOn target relativePath)
          expected ⟨w.db,ground io pair target relativePath w.disk⟩ = .error osError _ := copyAndVerifyChecksum_stays enters
      rw [Act.mapErr,stays]
      exact ⟨_,_,rfl,rfl,fun _ => source⟩
    | true =>
      rw [Bool.true_and]
      rcases copyAndVerifyChecksum_run expected
        (w := { w with disk := ground io pair target relativePath w.disk }) enters with
        ⟨completes,same,ran⟩ | ⟨stopped,message,failed⟩
      · rw [if_pos (Bool.and_eq_true_iff.mpr ⟨completes,beq_iff_eq.mpr same⟩)]
        exact Act.mapErr_of_ok ran _
      · rw [if_neg (fun both => stopped (by simpa using both)),Act.mapErr,failed]
        refine ⟨_,_,rfl,rfl,fun apart => ?_⟩
        rw [← source,leftBehind]
        split
        · exact Disk.remove_other _ apart
        · exact Disk.write_other _ _ apart

/-- The three restores leave their destination as it was when they fail, exactly for harmless inputs. -/
theorem restores_atomic_iff (io : Io) (w : World) :
    (∀ src dst expected,
      (∀ message t, copyAndVerifyChecksum io src dst expected w = .error message t →
        t.disk.node dst = w.disk.node dst) ↔ Harmless io w.disk src dst expected (w.disk.node dst)) ∧
    ∀ (pair : DrivePair) (relativePath expected : String),
      ((∀ message t, restoreFromMirror io pair relativePath expected w = .error message t →
        t.disk.node (pair.copyOn .primary relativePath) = w.disk.node (pair.copyOn .primary relativePath)) ↔
          RestoreHarmless io pair .primary relativePath expected w.disk) ∧
      ((∀ message t, restoreMirrorFromMaster io pair relativePath expected w = .error message t →
        t.disk.node (pair.copyOn .secondary relativePath) = w.disk.node (pair.copyOn .secondary relativePath)) ↔
          RestoreHarmless io pair .secondary relativePath expected w.disk) := by
  constructor
  · intro src dst expected
    exact copyAndVerifyChecksum_left io w src dst expected (w.disk.node dst)
  · intro pair relativePath expected
    exact ⟨restoreSide_left io pair .primary relativePath expected w,
      restoreSide_left io pair .secondary relativePath expected w⟩

end

theorem copyOn_root (pair : DrivePair) (role : DriveRole) (relativePath : String) :
    (pair.copyOn role relativePath).root = pair.pathForRole role := rfl

theorem ground_plain (io : Io) (pair : DrivePair) (target : DriveRole) (relativePath : String) (disk : Disk) :
    ground io pair target relativePath disk = prepared io (pair.pathForRole target) disk := rfl

/-! A restore whose source cannot be opened, one onto a full device, and one from a corrupt source. -/

def unopened : Io := { Io.healthy with openRead := fun _ => false }

def full : Io := { Io.healthy with writeLimit := fun _ => some 0 }

theorem restores_atomic_unopened :
    letI := sampleBlake3
    ∀ message t, restoreFromMirror unopened corruptedPair "notes.txt" (checksumBytes [2]) corruptedWorld = .error message t →
      t.disk.node ⟨"/primary","notes.txt"⟩ = some ⟨[1],none⟩ := by
  let _ := sampleBlake3
  refine ((restores_atomic_iff unopened corruptedWorld).2 corruptedPair "notes.txt" (checksumBytes [2])).1.mpr ?_
  intro _
  exact rfl

/-- The full device is left with nothing of the file, and the mismatch with no file at all. -/
theorem failed_restores_destroy :
    ¬(∀ (_ : Blake3) (io : Io) (w t : World) (pair : DrivePair) (relativePath expected message : String),
        restoreFromMirror io pair relativePath expected w = .error message t →
        t.disk.node (pair.copyOn .primary relativePath) = w.disk.node (pair.copyOn .primary relativePath)) ∧
      ¬∀ (_ : Blake3) (io : Io) (w t : World) (pair : DrivePair) (relativePath expected message : String),
        restoreMirrorFromMaster io pair relativePath expected w = .error message t →
        t.disk.node (pair.copyOn .secondary relativePath) = w.disk.node (pair.copyOn .secondary relativePath) := by
  let _ := sampleBlake3
  have left {x : Act Unit} (path : Location) (node : Option FileNode) (fails : ∃ message, x corruptedWorld =
      .error message (after x corruptedWorld)) (changed : (after x corruptedWorld).disk.node path = node)
      (kept : ∀ message t, x corruptedWorld = .error message t → t.disk.node path = corruptedWorld.disk.node path) :
      corruptedWorld.disk.node path = node := by
    obtain ⟨message,failed⟩ := fails
    rw [← kept message _ failed,changed]
  constructor
  · intro kept
    have same := left ⟨"/primary","notes.txt"⟩ (some ⟨[],none⟩) ⟨_,by rfl⟩ (by decide)
      fun message t => kept sampleBlake3 full corruptedWorld t corruptedPair "notes.txt" (checksumBytes [2]) message
    exact absurd same (by decide)
  · intro kept
    have same := left ⟨"/secondary","notes.txt"⟩ none ⟨_,by rfl⟩ (by decide)
      fun message t => kept sampleBlake3 Io.healthy corruptedWorld t corruptedPair "notes.txt" (checksumBytes [2]) message
    exact absurd same (by decide)

end BitProtector.AtomicRestores
