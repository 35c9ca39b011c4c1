import BitProtector.FailedResolutions
import BitProtector.StagedRestore

/-! A staged restore and what the next start makes of it. The copy is written under the name the start looks for, and is
checked afterwards only. -/
namespace BitProtector.PendingRestores
open Effect RootMarkers BackupRepair StagedRestore FailedResolutions

/-! When the steps succeed, and what they have done then. -/

theorem keeps_eq_of_still {α : Type} {x : Act α} (still : ∀ w, after x w = w) : Keeps Eq x := fun w => (still w).symm

theorem validate_still (facts : DrivePaths.PathFacts) (io : Io) (db : Location) :
    Keeps Eq (validateDbRestoreTargetPath facts io db) := by
  refine keeps_bind (keeps_eq_of_still (ensure_still _ _)) fun _ => ?_
  refine keeps_bind (keeps_eq_of_still (ensure_still _ _)) fun _ => ?_
  refine keeps_bind (keeps_eq_of_still (ensure_still _ _)) fun _ => ?_
  refine keeps_bind (keeps_eq_of_still (ensure_still _ _)) fun _ => ?_
  refine keeps_bind (keeps_eq_of_still fun _ => ?_) fun canonicalPath => ?_
  · unfold DrivePaths.canonicalized
    split <;> rfl
  · refine keeps_bind (keeps_eq_of_still (ensure_still _ _)) fun _ => ?_
    exact keeps_bind (keeps_eq_of_still fun _ => rfl) fun _ => keeps_eq_of_still (ensure_still _ _)

/-- The path names the database as the file system does, and the database is there. -/
def Accepts (facts : DrivePaths.PathFacts) (io : Io) (db : Location) (w : World) : Prop :=
  validateDbRestoreTargetPath facts io db w = .ok () w

theorem validate_iff {facts : DrivePaths.PathFacts} {io : Io} {db : Location} {w t : World} :
    validateDbRestoreTargetPath facts io db w = .ok () t ↔ Accepts facts io db w ∧ t = w := by
  constructor
  · intro ok
    have same : w = t := by
      have still := validate_still facts io db w
      rwa [after_of_ok ok] at still
    subst same
    exact ⟨ok,rfl⟩
  · rintro ⟨accepts,rfl⟩
    exact accepts

theorem fsCopy_iff {io : Io} {src dst : Location} {text : String → String} {w t : World} :
    Act.mapErr text (fsCopy io src dst) w = .ok () t ↔
      (entersCopy io w.disk src dst = true ∧ fsCompletes io w.disk src dst = true) ∧
        t = { w with disk := w.disk.write dst (got io w.disk src dst) } := by
  have run := fsCopy_run io src dst w
  split at run
  · rename_i enters
    split at run
    · rename_i completes
      rw [Act.mapErr_of_ok run text]
      simp only [EStateM.Result.ok.injEq,true_and,enters,completes,and_self,eq_comm]
    · rename_i fails
      refine iff_of_false (fun ok => ?_) fun all => fails all.1.2
      obtain ⟨message,failed⟩ := run
      cases failed.symm.trans (Act.mapErr_success ok)
  · rename_i stays
    refine iff_of_false (fun ok => ?_) fun all => stays all.1.1
    obtain ⟨message,failed⟩ := run
    cases failed.symm.trans (Act.mapErr_success ok)

/-- A sidecar that is there has to go. -/
def Removes (io : Io) (disk : Disk) (sidecar : Location) : Prop :=
  disk.exists? sidecar = true → io.removeFile sidecar = true

theorem removes_of_node {io : Io} {disk other : Disk} {sidecar : Location} (same : other.node sidecar = disk.node sidecar) :
    Removes io other sidecar ↔ Removes io disk sidecar := by
  unfold Removes Disk.exists?
  rw [same]

theorem removeSidecar_returns {io : Io} {sidecar : Location} {w : World} :
    (∃ t, removeSidecar io sidecar w = .ok () t) ↔ Removes io w.disk sidecar := by
  unfold removeSidecar Removes
  rw [bind_of_ok (Act.look_apply _ _)]
  cases w.disk.exists? sidecar with
  | false => exact iff_of_true ⟨w,rfl⟩ fun there => absurd there Bool.false_ne_true
  | true =>
    constructor
    · rintro ⟨t,ok⟩ _
      obtain ⟨_,u,removed,_⟩ := bind_success ok
      exact (Act.ensure_success removed).1
    · intro removes
      rw [removes rfl]
      exact ⟨_,rfl⟩

theorem installStaged_returns {calls : RepairCalls} {db : Location} {w : World} :
    (∃ t, installStaged calls db w = .ok () t) ↔
      Removes calls.io w.disk (walPath db) ∧ Removes calls.io w.disk (shmPath db) ∧ calls.rename = true := by
  have apart : shmPath db ≠ walPath db := beside_ne db (by decide)
  constructor
  · rintro ⟨t,ok⟩
    obtain ⟨_,u,first,rest⟩ := bind_success ok
    obtain ⟨_,v,second,last⟩ := bind_success rest
    obtain ⟨_,x,renames,_⟩ := bind_success last
    have kept := node_of_kept (fileKept_removeSidecar calls.io apart) first
    exact ⟨removeSidecar_returns.mp ⟨u,first⟩,(removes_of_node kept).mp (removeSidecar_returns.mp ⟨v,second⟩),
      (Act.ensure_success renames).1⟩
  · rintro ⟨wal,shm,renames⟩
    obtain ⟨u,first⟩ := removeSidecar_returns.mpr wal
    have kept := node_of_kept (fileKept_removeSidecar calls.io apart) first
    obtain ⟨v,second⟩ := removeSidecar_returns.mpr ((removes_of_node kept).mpr shm)
    unfold installStaged
    rw [bind_of_ok first,bind_of_ok second,renames]
    exact ⟨_,rfl⟩

/-- A database that is there can be copied beside itself. -/
def Replaces (calls : RepairCalls) (disk : Disk) (db : Location) : Prop :=
  disk.exists? db = true → entersCopy calls.io disk db (safetyBackupPath db calls.stamp) = true ∧
    fsCompletes calls.io disk db (safetyBackupPath db calls.stamp) = true

theorem copyReplaced_returns {calls : RepairCalls} {db : Location} {w : World} :
    (∃ t, copyReplaced calls db w = .ok () t) ↔ Replaces calls w.disk db := by
  unfold copyReplaced Replaces
  rw [bind_of_ok (Act.look_apply _ _)]
  cases w.disk.exists? db with
  | false => exact iff_of_true ⟨w,rfl⟩ fun there => absurd there Bool.false_ne_true
  | true =>
    constructor
    · rintro ⟨t,ok⟩ _
      exact (fsCopy_iff.mp ok).1
    · intro copies
      exact ⟨_,fsCopy_iff.mpr ⟨copies rfl,rfl⟩⟩

/-! What a call of `stage_restore` has written when the staged copy begins, and after it. -/

section
variable (calls : RepairCalls) (db source : Location) (w : World)

/-- With the safety copy, before anything is staged. -/
def saved : World :=
  { w with disk := w.disk.write (safetyBackupPath db calls.stamp) (got calls.io w.disk db (safetyBackupPath db calls.stamp)) }

/-- What the staged copy leaves under the pending name. -/
def stagedBytes : List UInt8 := got calls.io (saved calls db w).disk source (pendingRestorePath db)

def written : World :=
  { saved calls db w with disk := (saved calls db w).disk.write (pendingRestorePath db) (stagedBytes calls db source w) }

variable {calls db source w}

theorem saved_pending : (saved calls db w).disk.node (pendingRestorePath db) = w.disk.node (pendingRestorePath db) :=
  Disk.write_other _ _ (safety_apart_pending db calls.stamp).symm

theorem written_pending : (written calls db source w).disk.node (pendingRestorePath db) =
    some ⟨stagedBytes calls db source w,none⟩ :=
  Disk.write_same _ _ _

end

section
variable [Sqlite]

theorem verify_iff {io : Io} {path : Location} {w t : World} :
    verifySqliteDatabase io path w = .ok () t ↔ (io.openRead path = true ∧ Healthy w.disk path) ∧ t = w := by
  rcases verifySqliteDatabase_cases io path w with ⟨verified,healthy⟩ | ⟨message,failed,bad⟩
  · rw [verified]
    have opens : io.openRead path = true := by
      by_contra closed
      obtain ⟨node,found,_⟩ := id healthy
      have there : w.disk.exists? path = true := by
        rw [Disk.exists?,found]
        rfl
      unfold verifySqliteDatabase at verified
      rw [bind_of_ok (Act.look_apply _ _),there,bind_of_ok (Act.ensure_true _ _),Bool.eq_false_of_not_eq_true closed] at verified
      cases verified
    simp only [EStateM.Result.ok.injEq,true_and,opens,healthy,and_self,eq_comm]
  · refine iff_of_false (fun ok => ?_) fun all => bad all.1
    cases failed.symm.trans ok

/-- Everything a start does with a pending file that is sound. -/
structure Applies (later : RepairCalls) (db : Location) (disk : Disk) : Prop where
  opens : later.io.openRead (pendingRestorePath db) = true
  replaces : Replaces later disk db
  wal : Removes later.io disk (walPath db)
  shm : Removes later.io disk (shmPath db)
  rename : later.rename = true

/-- The start goes through, with a sound database in place or everything as it was. -/
def StartsWell (later : RepairCalls) (db : Location) (u : World) : Prop :=
  ∃ result t, applyPendingRestore later db u = .ok result t ∧ (Healthy t.disk db ∨ t = u)

theorem startsWell_of_absent (later : RepairCalls) {db : Location} {u : World}
    (absent : u.disk.node (pendingRestorePath db) = none) : StartsWell later db u := by
  have missing : u.disk.exists? (pendingRestorePath db) = false := by
    rw [Disk.exists?,absent]
    rfl
  refine ⟨none,u,?_,.inr rfl⟩
  unfold applyPendingRestore
  rw [bind_of_ok (Act.look_apply _ _),missing]
  rfl

theorem startsWell_iff {later : RepairCalls} {db : Location} {u : World}
    (present : u.disk.exists? (pendingRestorePath db) = true) :
    StartsWell later db u ↔ Healthy u.disk (pendingRestorePath db) ∧ Applies later db u.disk := by
  have safetyWal : walPath db ≠ safetyBackupPath db later.stamp := (safety_apart_wal db later.stamp).symm
  have safetyShm : shmPath db ≠ safetyBackupPath db later.stamp := (safety_apart_shm db later.stamp).symm
  constructor
  · rintro ⟨result,t,ok,_⟩
    unfold applyPendingRestore at ok
    rw [bind_of_ok (Act.look_apply _ _),present] at ok
    obtain ⟨_,v,verified,rest⟩ := bind_success ok
    obtain ⟨⟨opens,healthy⟩,rfl⟩ := verify_iff.mp verified
    obtain ⟨_,x,saved,rest⟩ := bind_success rest
    obtain ⟨_,y,installed,_⟩ := bind_success rest
    obtain ⟨wal,shm,renames⟩ := installStaged_returns.mp ⟨y,installed⟩
    exact ⟨healthy,opens,copyReplaced_returns.mp ⟨x,saved⟩,
      (removes_of_node (node_of_kept (fileKept_copyReplaced later safetyWal) saved)).mp wal,
      (removes_of_node (node_of_kept (fileKept_copyReplaced later safetyShm) saved)).mp shm,renames⟩
  · rintro ⟨healthy,applies⟩
    have verified := verify_iff.mpr ⟨⟨applies.opens,healthy⟩,rfl⟩
    obtain ⟨x,saved⟩ := copyReplaced_returns.mpr applies.replaces
    have wal := (removes_of_node (node_of_kept (fileKept_copyReplaced later safetyWal) saved)).mpr applies.wal
    have shm := (removes_of_node (node_of_kept (fileKept_copyReplaced later safetyShm) saved)).mpr applies.shm
    obtain ⟨y,installed⟩ := installStaged_returns.mpr ⟨wal,shm,applies.rename⟩
    have ok : applyPendingRestore later db u = .ok (some (safetyBackupPath db later.stamp)) y := by
      unfold applyPendingRestore
      rw [bind_of_ok (Act.look_apply _ _),present]
      exact (bind_of_ok verified _).trans ((bind_of_ok saved _).trans (bind_of_ok installed _))
    refine ⟨_,y,ok,.inl ?_⟩
    rcases applyPendingRestore_cases ok with ⟨absent,_⟩ | ⟨_,replaced,_⟩
    · rw [Disk.exists?,absent] at present
      cases present
    · obtain ⟨node,found,sound⟩ := healthy
      exact ⟨node,replaced.trans found,sound⟩

/-! A call of `stage_restore` up to the staged copy, and from there. -/

variable (facts : DrivePaths.PathFacts) (calls : RepairCalls) (db source : Location)

def prepareStage : Act Unit := do
  validateDbRestoreTargetPath facts calls.io db
  verifySqliteDatabase calls.io source
  let safetyPath := safetyBackupPath db calls.stamp
  Act.mapErr (fun _ => "Failed to create current database safety backup") (fsCopy calls.io db safetyPath)
  verifySqliteDatabase calls.io safetyPath

def putPending : Act RestoreResult := do
  let stagedPath := pendingRestorePath db
  Act.mapErr (fun _ => "Failed to stage database restore") (fsCopy calls.io source stagedPath)
  verifySqliteDatabase calls.io stagedPath
  pure ⟨"staged",true,(safetyBackupPath db calls.stamp).display,stagedPath.display⟩

theorem stageRestore_eq : stageRestore facts calls db source = prepareStage facts calls db source >>= fun _ =>
    putPending calls db source := by
  simp only [stageRestore,prepareStage,putPending,bind_assoc]

theorem pending_prepareStage : Keeps (FileKept (pendingRestorePath db)) (prepareStage facts calls db source) := by
  refine keeps_bind (fileKept_validate _ facts calls.io db) fun _ => ?_
  refine keeps_bind (fileKept_verify _ calls.io source) fun _ => ?_
  refine keeps_bind (fileKept_fsCopy (safety_apart_pending db calls.stamp).symm _) fun _ => ?_
  exact fileKept_verify _ calls.io (safetyBackupPath db calls.stamp)

variable (w : World)

/-- Everything that comes before the staged copy succeeds. -/
structure Prepares : Prop where
  accepts : Accepts facts calls.io db w
  source : calls.io.openRead source = true ∧ Healthy w.disk source
  copies : entersCopy calls.io w.disk db (safetyBackupPath db calls.stamp) = true ∧
    fsCompletes calls.io w.disk db (safetyBackupPath db calls.stamp) = true
  safety : calls.io.openRead (safetyBackupPath db calls.stamp) = true ∧
    Healthy (saved calls db w).disk (safetyBackupPath db calls.stamp)

variable {facts calls db source w} in
theorem prepareStage_iff {t : World} :
    prepareStage facts calls db source w = .ok () t ↔ Prepares facts calls db source w ∧ t = saved calls db w := by
  constructor
  · intro ok
    obtain ⟨_,u,validated,checks⟩ := bind_success ok
    obtain ⟨accepts,rfl⟩ := validate_iff.mp validated
    obtain ⟨_,v,verified,saves⟩ := bind_success checks
    obtain ⟨sound,rfl⟩ := verify_iff.mp verified
    obtain ⟨_,x,copied,rechecked⟩ := bind_success saves
    obtain ⟨copies,rfl⟩ := fsCopy_iff.mp copied
    obtain ⟨safety,rfl⟩ := verify_iff.mp rechecked
    exact ⟨⟨accepts,sound,copies,safety⟩,rfl⟩
  · rintro ⟨prepares,rfl⟩
    have validated := validate_iff.mpr ⟨prepares.accepts,rfl⟩
    have verified := verify_iff.mpr ⟨prepares.source,rfl⟩
    have copied : Act.mapErr (fun _ => "Failed to create current database safety backup")
        (fsCopy calls.io db (safetyBackupPath db calls.stamp)) w = .ok () (saved calls db w) :=
      fsCopy_iff.mpr ⟨prepares.copies,rfl⟩
    have rechecked := verify_iff.mpr ⟨prepares.safety,rfl⟩
    exact (bind_of_ok validated _).trans ((bind_of_ok verified _).trans ((bind_of_ok copied _).trans rechecked))

/-- The call gets as far as creating the pending file. -/
def WritesPending : Prop :=
  Prepares facts calls db source w ∧ entersCopy calls.io (saved calls db w).disk source (pendingRestorePath db) = true

/-- No pending file where there was none, and a sound one as it was. -/
def PendingKept (w t : World) : Prop :=
  (w.disk.node (pendingRestorePath db) = none → t.disk.node (pendingRestorePath db) = none) ∧
    (Healthy w.disk (pendingRestorePath db) → t.disk.node (pendingRestorePath db) = w.disk.node (pendingRestorePath db))

/-- A failure leaves nothing new to be applied. -/
def AllOrNothing : Prop := FailsInto (PendingKept db w) (stageRestore facts calls db source) w

/-- The pending file is completed and found sound. -/
def StagesWhole : Prop :=
  fsCompletes calls.io (saved calls db w).disk source (pendingRestorePath db) = true ∧
    calls.io.openRead (pendingRestorePath db) = true ∧ passes (stagedBytes calls db source w) = true

/-- A pending file that is created is completed too, or it takes the place of one that was no better. -/
def StagesSafely : Prop :=
  WritesPending facts calls db source w → StagesWhole calls db source w ∨
    (∃ node, w.disk.node (pendingRestorePath db) = some node) ∧ (Healthy w.disk (pendingRestorePath db) →
      w.disk.node (pendingRestorePath db) = some ⟨stagedBytes calls db source w,none⟩)

/-- The pending file of the next start is sound and can be put in place, or there is none. -/
def StartsSafely (later : RepairCalls) (disk : Disk) : Prop :=
  (WritesPending facts calls db source w → passes (stagedBytes calls db source w) = true ∧ Applies later db disk) ∧
    (¬WritesPending facts calls db source w → (∃ node, w.disk.node (pendingRestorePath db) = some node) →
      Healthy w.disk (pendingRestorePath db) ∧ Applies later db disk)

variable {facts calls db source w}

theorem stageRestore_refused (refused : ¬Prepares facts calls db source w) :
    ∃ message t, stageRestore facts calls db source w = .error message t ∧
      t.disk.node (pendingRestorePath db) = w.disk.node (pendingRestorePath db) := by
  cases ran : prepareStage facts calls db source w with
  | ok _ t => exact absurd (prepareStage_iff.mp ran).1 refused
  | error message t =>
    have kept := pending_prepareStage facts calls db source w
    rw [after_of_error ran] at kept
    rw [stageRestore_eq]
    exact ⟨message,t,bind_of_error ran _,kept⟩

theorem stageRestore_prepared (prepares : Prepares facts calls db source w) :
    stageRestore facts calls db source w = putPending calls db source (saved calls db w) := by
  rw [stageRestore_eq]
  exact bind_of_ok (prepareStage_iff.mpr ⟨prepares,rfl⟩) _

theorem healthy_of_bytes {disk : Disk} {path : Location} {bytes : List UInt8} (found : disk.node path = some ⟨bytes,none⟩) :
    Healthy disk path ↔ passes bytes = true := by
  constructor
  · rintro ⟨node,there,_,good⟩
    cases found.symm.trans there
    exact good
  · intro good
    exact ⟨_,found,rfl,good⟩

theorem putPending_run (enters : entersCopy calls.io (saved calls db w).disk source (pendingRestorePath db) = true) :
    (StagesWhole calls db source w → ∃ result,
      putPending calls db source (saved calls db w) = .ok result (written calls db source w)) ∧
    (¬StagesWhole calls db source w → ∃ message,
      putPending calls db source (saved calls db w) = .error message (written calls db source w)) := by
  have run := fsCopy_run calls.io source (pendingRestorePath db) (saved calls db w)
  rw [if_pos enters] at run
  split at run
  · rename_i completes
    have copied := Act.mapErr_of_ok run (fun _ => "Failed to stage database restore")
    have sound := healthy_of_bytes (@written_pending calls db source w)
    constructor
    · intro whole
      have verified := verify_iff.mpr ⟨⟨whole.2.1,sound.mpr whole.2.2⟩,rfl⟩
      exact ⟨_,(bind_of_ok copied _).trans (bind_of_ok verified _)⟩
    · intro bad
      rcases verifySqliteDatabase_cases calls.io (pendingRestorePath db) (written calls db source w) with
        ⟨verified,_⟩ | ⟨message,failed,_⟩
      · obtain ⟨⟨opens,healthy⟩,_⟩ := verify_iff.mp verified
        exact absurd ⟨completes,opens,sound.mp healthy⟩ bad
      · exact ⟨message,(bind_of_ok copied _).trans (bind_of_error failed _)⟩
  · rename_i fails
    obtain ⟨message,failed⟩ := run
    refine ⟨fun whole => absurd whole.1 fails,fun _ => ?_⟩
    exact ⟨_,bind_of_error (Act.mapErr_of_error failed _) _⟩

theorem putPending_stays (stays : ¬entersCopy calls.io (saved calls db w).disk source (pendingRestorePath db) = true) :
    ∃ message, putPending calls db source (saved calls db w) = .error message (saved calls db w) := by
  have run := fsCopy_run calls.io source (pendingRestorePath db) (saved calls db w)
  rw [if_neg stays] at run
  obtain ⟨message,failed⟩ := run
  exact ⟨_,bind_of_error (Act.mapErr_of_error failed _) _⟩

theorem allOrNothing_iff : AllOrNothing facts calls db source w ↔ StagesSafely facts calls db source w := by
  by_cases prepares : Prepares facts calls db source w
  · unfold AllOrNothing FailsInto
    rw [stageRestore_prepared prepares]
    by_cases enters : entersCopy calls.io (saved calls db w).disk source (pendingRestorePath db) = true
    · obtain ⟨completed,broken⟩ := putPending_run enters
      by_cases whole : StagesWhole calls db source w
      · obtain ⟨result,ran⟩ := completed whole
        exact iff_of_true (failsInto_of_ok ran) fun _ => .inl whole
      · obtain ⟨message,ran⟩ := broken whole
        refine (failsInto_error ran).trans ?_
        unfold PendingKept
        rw [written_pending]
        constructor
        · rintro ⟨absent,kept⟩ _
          refine .inr ⟨Option.ne_none_iff_exists'.mp fun missing => ?_,fun sound => (kept sound).symm⟩
          cases absent missing
        · intro safe
          obtain ⟨⟨node,there⟩,same⟩ := (safe ⟨prepares,enters⟩).resolve_left whole
          refine ⟨fun absent => ?_,fun sound => (same sound).symm⟩
          cases there.symm.trans absent
    · obtain ⟨message,ran⟩ := putPending_stays enters
      refine iff_of_true ((failsInto_error ran).mpr ?_) fun writes => absurd writes.2 enters
      exact ⟨fun absent => saved_pending.trans absent,fun _ => saved_pending⟩
  · obtain ⟨message,t,failed,kept⟩ := stageRestore_refused prepares
    refine iff_of_true ((failsInto_error failed).mpr ?_) fun writes => absurd writes.1 prepares
    exact ⟨kept.trans,fun _ => kept⟩

theorem pending_of_writes (writes : WritesPending facts calls db source w) :
    (after (stageRestore facts calls db source) w).disk.node (pendingRestorePath db) =
      some ⟨stagedBytes calls db source w,none⟩ := by
  have ended : after (stageRestore facts calls db source) w = written calls db source w := by
    obtain ⟨completed,broken⟩ := putPending_run writes.2
    rw [after,stageRestore_prepared writes.1]
    by_cases whole : StagesWhole calls db source w
    · obtain ⟨result,ran⟩ := completed whole
      rw [ran]
    · obtain ⟨message,ran⟩ := broken whole
      rw [ran]
  rw [ended]
  exact written_pending

theorem pending_of_not_writes (spares : ¬WritesPending facts calls db source w) :
    (after (stageRestore facts calls db source) w).disk.node (pendingRestorePath db) =
      w.disk.node (pendingRestorePath db) := by
  by_cases prepares : Prepares facts calls db source w
  · obtain ⟨message,ran⟩ := putPending_stays fun enters => spares ⟨prepares,enters⟩
    rw [after_of_error ((stageRestore_prepared prepares).trans ran)]
    exact saved_pending
  · obtain ⟨message,t,failed,kept⟩ := stageRestore_refused prepares
    rw [after_of_error failed]
    exact kept

theorem startsWell_pending {later : RepairCalls} {u : World} {node : FileNode}
    (found : u.disk.node (pendingRestorePath db) = some node) :
    StartsWell later db u ↔ Healthy u.disk (pendingRestorePath db) ∧ Applies later db u.disk :=
  startsWell_iff (by rw [Disk.exists?,found]; rfl)

/-- Staging is all or nothing and the next start goes through if and only if the pending file, once it is created, is
completed and sound, and can be put in place: it is created under the name that the start looks for. -/
theorem staging_all_or_nothing_iff (facts : DrivePaths.PathFacts) (calls later : RepairCalls) (db source : Location)
    (w u : World) (waiting : u.disk.node (pendingRestorePath db) =
      (after (stageRestore facts calls db source) w).disk.node (pendingRestorePath db)) :
    AllOrNothing facts calls db source w ∧ StartsWell later db u ↔
      StagesSafely facts calls db source w ∧ StartsSafely facts calls db source w later u.disk := by
  refine and_congr allOrNothing_iff ?_
  by_cases writes : WritesPending facts calls db source w
  · rw [pending_of_writes writes] at waiting
    rw [startsWell_pending waiting,healthy_of_bytes waiting]
    exact ⟨fun safe => ⟨fun _ => safe,fun spares => absurd writes spares⟩,fun safe => safe.1 writes⟩
  · rw [pending_of_not_writes writes] at waiting
    cases before : w.disk.node (pendingRestorePath db) with
    | none =>
      rw [before] at waiting
      refine iff_of_true (startsWell_of_absent later waiting) ⟨fun done => absurd done writes,fun _ there => ?_⟩
      obtain ⟨node,found⟩ := there
      cases before.symm.trans found
    | some node =>
      have same : Healthy u.disk (pendingRestorePath db) ↔ Healthy w.disk (pendingRestorePath db) :=
        ⟨healthy_of_node waiting.symm,healthy_of_node waiting⟩
      rw [startsWell_pending (waiting.trans before),same]
      exact ⟨fun safe => ⟨fun done => absurd done writes,fun _ _ => safe⟩,fun safe => safe.2 writes ⟨node,before⟩⟩

end

theorem restore_staged_and_applied :
    letI := soundSqlite
    AllOrNothing liveFacts restoreCalls liveDb backupCopy (liveFiles 7 8) ∧
      StartsWell restoreCalls liveDb (after (stageRestore liveFacts restoreCalls liveDb backupCopy) (liveFiles 7 8)) := by
  let _ := soundSqlite
  apply (staging_all_or_nothing_iff liveFacts restoreCalls restoreCalls liveDb backupCopy (liveFiles 7 8) _ rfl).mpr
  have applies : Applies restoreCalls liveDb
      (after (stageRestore liveFacts restoreCalls liveDb backupCopy) (liveFiles 7 8)).disk :=
    ⟨rfl,fun _ => ⟨rfl,rfl⟩,fun _ => rfl,fun _ => rfl,rfl⟩
  refine ⟨fun _ => .inl ⟨rfl,rfl,rfl⟩,fun _ => ⟨rfl,applies⟩,fun _ waiting => ?_⟩
  obtain ⟨node,found⟩ := waiting
  cases found

/-! A device with room for one byte of the staged copy. -/

@[reducible] def strictSqlite : Sqlite where
  integrityCheck bytes := if bytes.length < 2 then .error "database disk image is malformed" else .ok ["ok"]

def crampedCalls : RepairCalls :=
  { restoreCalls with io.writeLimit := fun path => if path = pendingRestorePath liveDb then some 1 else none }

def twoBytes : World where
  db := Db.empty
  disk :=
    { node := fun path => if path = liveDb then some ⟨[7,7],none⟩ else if path = backupCopy then some ⟨[9,9],none⟩ else none
      available := fun _ => true }

/-- The call fails, the half of the copy stays under the pending name, and the next start fails on it. -/
theorem half_a_database_pending :
    letI := strictSqlite
    ∃ message t, stageRestore liveFacts crampedCalls liveDb backupCopy twoBytes =
        .error "Failed to stage database restore" t ∧
      twoBytes.disk.node (pendingRestorePath liveDb) = none ∧ t.disk.node (pendingRestorePath liveDb) = some ⟨[9],none⟩ ∧
      applyPendingRestore restoreCalls liveDb t = .error message t ∧
      ¬AllOrNothing liveFacts crampedCalls liveDb backupCopy twoBytes ∧ ¬StartsWell restoreCalls liveDb t := by
  let _ := strictSqlite
  refine ⟨_,_,rfl,rfl,rfl,rfl,?_,?_⟩
  · intro nothing
    cases (nothing _ _ rfl).1 rfl
  · rintro ⟨result,t,applied,_⟩
    cases applied

end BitProtector.PendingRestores
