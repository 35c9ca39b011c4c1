import BitProtector.Checksum
import BitProtector.Drive

/-! Copying one file between the two sides of a pair. A copy first prepares the
ground (guards, root markers, the parent directory) and then opens both files;
what it does from there is described by the disk on which it does so. -/
namespace BitProtector
open Effect

/-- `create_dir_all` of the parent of a path. -/
def createParentDirs (io : Io) (path : Location) : Act Unit := do
  attemptCall (io.createDirAll path)
  if io.createsRoot path.root then Act.store (fun disk => disk.mount path.root)

def prepareMirror [Naming] (io : Io) (pair : DrivePair) (relativePath : String) : Act Unit := do
  let side := pair.standbyRole.asStr
  let id := pair.id
  Act.ensure (← Act.look (fun disk => pair.standbyAcceptsSync disk))
    s!"Standby {side} path is not ready to receive sync data for drive pair #{id}"
  ensureDriveRootMarker io pair.activePath
  ensureDriveRootMarker io pair.standbyPath
  let src := pair.copyOn pair.activeRole relativePath
  let shown := src.display
  Act.ensure (← Act.look (fun disk => disk.exists? src)) s!"Source file does not exist: {shown}"
  Act.mapErr (fun _ => "Failed to create mirror directory")
    (createParentDirs io (pair.copyOn pair.standbyRole relativePath))

/-- The words by which the two restores name their sides. -/
structure RestoreTexts where
  failed : String
  absent : String
  mismatch : String

def restoreTexts : DriveRole → RestoreTexts
  | .primary => ⟨"Primary","Mirror","Mirror"⟩
  | .secondary => ⟨"Secondary","Primary","Master"⟩

def prepareRestore [Naming] (io : Io) (pair : DrivePair) (target : DriveRole) (relativePath : String) : Act Unit := do
  let id := pair.id
  let texts := restoreTexts target
  Act.ensure (pair.roleState target != .failed) s!"{texts.failed} drive is marked failed for drive pair #{id}"
  let src := pair.copyOn target.opposite relativePath
  let shown := src.display
  Act.ensure (← Act.look (fun disk => disk.exists? src)) s!"{texts.absent} file does not exist: {shown}"
  createParentDirs io (pair.copyOn target relativePath)
  ensureDriveRootMarker io (pair.pathForRole target)

section
variable [Naming] [Blake3]

def mirrorFile (io : Io) (pair : DrivePair) (relativePath : String) : Act String := do
  prepareMirror io pair relativePath
  let (srcChecksum,dstChecksum) ← Act.mapErr (fun _ => "Failed to copy file to mirror")
    (copyWithChecksum io (pair.copyOn pair.activeRole relativePath) (pair.copyOn pair.standbyRole relativePath))
  Act.ensure (srcChecksum == dstChecksum) s!"Mirror verification failed: src={srcChecksum} dst={dstChecksum}"
  pure srcChecksum

def restoreSide (io : Io) (pair : DrivePair) (target : DriveRole) (relativePath expectedChecksum : String) :
    Act Unit := do
  prepareRestore io pair target relativePath
  let texts := restoreTexts target
  Act.mapErr (fun e => s!"{texts.mismatch} file checksum mismatch: stored={expectedChecksum} ({e})")
    (copyAndVerifyChecksum io (pair.copyOn target.opposite relativePath) (pair.copyOn target relativePath)
      expectedChecksum)

def restoreFromMirror (io : Io) (pair : DrivePair) (relativePath expectedChecksum : String) : Act Unit :=
  restoreSide io pair .primary relativePath expectedChecksum

def restoreMirrorFromMaster (io : Io) (pair : DrivePair) (relativePath expectedChecksum : String) : Act Unit :=
  restoreSide io pair .secondary relativePath expectedChecksum

end

/-- The world on which a prepared copy creates its destination, if it gets there. -/
def copyEntry (io : Io) (prepare : Act Unit) (src dst : Location) (w : World) : Option World :=
  match prepare w with
  | .ok _ t => if entersCopy io t.disk src dst then some t else none
  | .error _ _ => none

def mirrorEntry [Naming] (io : Io) (pair : DrivePair) (relativePath : String) (w : World) : Option World :=
  copyEntry io (prepareMirror io pair relativePath) (pair.copyOn pair.activeRole relativePath)
    (pair.copyOn pair.standbyRole relativePath) w

def restoreEntry [Naming] (io : Io) (pair : DrivePair) (target : DriveRole) (relativePath : String) (w : World) :
    Option World :=
  copyEntry io (prepareRestore io pair target relativePath) (pair.copyOn target.opposite relativePath)
    (pair.copyOn target relativePath) w

/-- The world after the destination was created and what could be delivered was. -/
def World.withDelivered (t : World) (io : Io) (src dst : Location) : World :=
  { t with disk := t.disk.write dst (delivered io t.disk src dst) }

/-! What a copy leaves, by where it enters. -/

/-- No file is changed or removed, and no row. -/
def Untouched (w t : World) : Prop :=
  t.db = w.db ∧ ∀ path node, w.disk.node path = some node → t.disk.node path = some node

instance : IsPreorder World Untouched where
  refl _ := ⟨rfl,fun _ _ found => found⟩
  trans _ _ _ first second := ⟨second.1.trans first.1,fun path node found =>
    second.2 path node (first.2 path node found)⟩

theorem untouched_look {α : Type} (view : Disk → α) : Keeps Untouched (Act.look view) :=
  fun w => refl_of Untouched w

theorem untouched_ensure (condition : Bool) (message : String) :
    Keeps Untouched (Act.ensure condition message) := by
  intro w
  cases condition <;> exact refl_of Untouched w

theorem untouched_mapErr {α : Type} {x : Act α} (text : String → String) (inner : Keeps Untouched x) :
    Keeps Untouched (Act.mapErr text x) := by
  intro w
  rw [Act.after_mapErr]
  exact inner w

theorem untouched_createParentDirs (io : Io) (path : Location) :
    Keeps Untouched (createParentDirs io path) := by
  refine keeps_bind (untouched_ensure _ _) fun _ => ?_
  cases io.createsRoot path.root with
  | false => exact keeps_pure _
  | true => exact fun w => ⟨rfl,fun _ _ found => found⟩

theorem dbKept_createParentDirs (io : Io) (path : Location) : Keeps DbKept (createParentDirs io path) :=
  fun w => (untouched_createParentDirs io path w).1

theorem untouched_ensureDriveRootMarker [Naming] (io : Io) (path : String) :
    Keeps Untouched (ensureDriveRootMarker io path) := by
  refine keeps_bind (untouched_look _) fun _ => keeps_bind (untouched_ensure _ _) fun _ => ?_
  intro w
  rw [after,bind_apply,Act.look_apply]
  cases marked : w.disk.exists? (driveRootMarkerPath path) with
  | true => exact refl_of Untouched w
  | false =>
    cases io.writeMarker path with
    | false => exact refl_of Untouched w
    | true =>
      refine ⟨rfl,fun other node found => ?_⟩
      have apart : other ≠ driveRootMarkerPath path := by
        rintro rfl
        simp [Disk.exists?,found] at marked
      exact (Disk.write_other _ _ apart).trans found

theorem untouched_prepareMirror [Naming] (io : Io) (pair : DrivePair) (relativePath : String) :
    Keeps Untouched (prepareMirror io pair relativePath) := by
  refine keeps_bind (untouched_look _) fun _ => keeps_bind (untouched_ensure _ _) fun _ => ?_
  refine keeps_bind (untouched_ensureDriveRootMarker _ _) fun _ => ?_
  refine keeps_bind (untouched_ensureDriveRootMarker _ _) fun _ => ?_
  refine keeps_bind (untouched_look _) fun _ => keeps_bind (untouched_ensure _ _) fun _ => ?_
  exact untouched_mapErr _ (untouched_createParentDirs _ _)

theorem untouched_prepareRestore [Naming] (io : Io) (pair : DrivePair) (target relativePath) :
    Keeps Untouched (prepareRestore io pair target relativePath) := by
  refine keeps_bind (untouched_ensure _ _) fun _ => keeps_bind (untouched_look _) fun _ => ?_
  refine keeps_bind (untouched_ensure _ _) fun _ => ?_
  exact keeps_bind (untouched_createParentDirs _ _) fun _ => untouched_ensureDriveRootMarker _ _

theorem copyEntry_untouched {io : Io} {prepare : Act Unit} (inner : Keeps Untouched prepare)
    {src dst : Location} {w t : World} (entered : copyEntry io prepare src dst w = some t) : Untouched w t := by
  have kept := inner w
  unfold copyEntry at entered
  unfold after at kept
  cases ran : prepare w with
  | error e u => simp [ran] at entered
  | ok a u =>
    simp only [ran] at entered kept
    split at entered
    · cases entered
      exact kept
    · cases entered

theorem copyEntry_none {α : Type} {io : Io} {prepare : Act Unit} (inner : Keeps Untouched prepare)
    {src dst : Location} {w : World} (stays : copyEntry io prepare src dst w = none) {copy : Act α}
    (refuses : ∀ t : World, entersCopy io t.disk src dst = false → ∃ m, copy t = .error m t) :
    ∃ message t, (do prepare; copy) w = .error message t ∧ Untouched w t := by
  have kept := inner w
  unfold copyEntry at stays
  unfold after at kept
  cases ran : prepare w with
  | error e u =>
    simp only [ran] at kept
    exact ⟨e,u,bind_of_error ran _,kept⟩
  | ok a u =>
    simp only [ran] at stays kept
    cases enters : entersCopy io u.disk src dst with
    | true => simp [enters] at stays
    | false =>
      obtain ⟨m,failed⟩ := refuses u enters
      exact ⟨m,u,by rw [bind_of_ok ran,failed],kept⟩

theorem copyEntry_some {io : Io} {prepare : Act Unit} {src dst : Location} {w t : World}
    (entered : copyEntry io prepare src dst w = some t) :
    prepare w = .ok () t ∧ entersCopy io t.disk src dst = true := by
  unfold copyEntry at entered
  cases ran : prepare w with
  | error e u => simp [ran] at entered
  | ok a u =>
    simp only [ran] at entered
    split at entered
    · rename_i enters
      cases entered
      exact ⟨rfl,enters⟩
    · cases entered

section
variable [Naming] [Blake3]

theorem mirrorFile_none {io : Io} {pair : DrivePair} {relativePath : String} {w : World}
    (stays : mirrorEntry io pair relativePath w = none) :
    ∃ message t, mirrorFile io pair relativePath w = .error message t ∧ Untouched w t := by
  refine copyEntry_none (untouched_prepareMirror io pair relativePath) stays fun t refused => ?_
  refine ⟨"Failed to copy file to mirror",?_⟩
  simp only [bind_apply,Act.mapErr,copyWithChecksum_stays refused]

theorem mirrorFile_some {io : Io} {pair : DrivePair} {relativePath : String} {w t : World}
    (entered : mirrorEntry io pair relativePath w = some t) :
    let src := pair.copyOn pair.activeRole relativePath
    let dst := pair.copyOn pair.standbyRole relativePath
    (completesCopy io t.disk src dst = true ∧ mirrorFile io pair relativePath w =
      .ok (checksumBytes (delivered io t.disk src dst)) (t.withDelivered io src dst)) ∨
    (completesCopy io t.disk src dst = false ∧
      ∃ message, mirrorFile io pair relativePath w = .error message (t.withDelivered io src dst)) := by
  obtain ⟨ran,enters⟩ := copyEntry_some entered
  unfold mirrorFile
  rw [bind_of_ok ran]
  rcases copyWithChecksum_enters enters with ⟨completes,copied⟩ | ⟨stopped,message,failed⟩
  · refine .inl ⟨completes,?_⟩
    simp only [bind_apply,Act.mapErr,copied,beq_self_eq_true,Act.ensure_true]
    rfl
  · refine .inr ⟨stopped,"Failed to copy file to mirror",?_⟩
    simp only [bind_apply,Act.mapErr,failed]
    rfl

theorem restoreSide_none {io : Io} {pair : DrivePair} {target : DriveRole} {relativePath : String}
    {w : World} (expected : String) (stays : restoreEntry io pair target relativePath w = none) :
    ∃ message t, restoreSide io pair target relativePath expected w = .error message t ∧ Untouched w t := by
  refine copyEntry_none (untouched_prepareRestore io pair target relativePath) stays fun t refused => ?_
  simp only [Act.mapErr,copyAndVerifyChecksum_stays refused]
  exact ⟨_,rfl⟩

theorem restoreSide_some {io : Io} {pair : DrivePair} {target : DriveRole} {relativePath : String}
    {w t : World} (expected : String) (entered : restoreEntry io pair target relativePath w = some t) :
    let src := pair.copyOn target.opposite relativePath
    let dst := pair.copyOn target relativePath
    (completesCopy io t.disk src dst = true ∧ checksumBytes (delivered io t.disk src dst) = expected ∧
      restoreSide io pair target relativePath expected w = .ok () (t.withDelivered io src dst)) ∨
    (¬(completesCopy io t.disk src dst = true ∧ checksumBytes (delivered io t.disk src dst) = expected) ∧
      ∃ message, restoreSide io pair target relativePath expected w =
      .error message (t.withDelivered io src dst)) ∨
    (checksumBytes (delivered io t.disk src dst) ≠ expected ∧
      ∃ message, restoreSide io pair target relativePath expected w =
        .error message { t with disk := t.disk.remove dst }) := by
  obtain ⟨ran,enters⟩ := copyEntry_some entered
  unfold restoreSide
  rw [bind_of_ok ran]
  rcases copyAndVerifyChecksum_enters expected enters with
    ⟨completes,same,copied⟩ | ⟨stopped,message,failed⟩ | ⟨differ,message,failed⟩
  · exact .inl ⟨completes,same,by simp only [Act.mapErr,copied]; rfl⟩
  · exact .inr (.inl ⟨stopped,_,by simp only [Act.mapErr,failed]; rfl⟩)
  · exact .inr (.inr ⟨differ,_,by simp only [Act.mapErr,failed]; rfl⟩)

theorem dbKept_mirrorFile (io : Io) (pair : DrivePair) (relativePath : String) :
    Keeps DbKept (mirrorFile io pair relativePath) := by
  refine keeps_bind (fun w => (untouched_prepareMirror io pair relativePath w).1) fun _ => ?_
  refine keeps_bind (dbKept_mapErr _ (dbKept_copyWithChecksum _ _ _)) fun _ => ?_
  exact keeps_bind (dbKept_ensure _ _) fun _ => keeps_pure _

/-- A restore writes files, never rows. -/
theorem restoreSide_db (io : Io) (pair : DrivePair) (target : DriveRole) (relativePath expected : String) (w : World) :
    (after (restoreSide io pair target relativePath expected) w).db = w.db := by
  cases entry : restoreEntry io pair target relativePath w with
  | none =>
    obtain ⟨message,t,failed,untouched⟩ := restoreSide_none expected entry
    rw [after_of_error failed]
    exact untouched.1
  | some t =>
    have same : t.db = w.db := (copyEntry_untouched (untouched_prepareRestore io pair target relativePath) entry).1
    rcases restoreSide_some expected entry with ⟨_,_,ran⟩ | ⟨_,message,failed⟩ | ⟨_,message,failed⟩
    · rw [after_of_ok ran]
      exact same
    · rw [after_of_error failed]
      exact same
    · rw [after_of_error failed]
      exact same

end

end BitProtector
