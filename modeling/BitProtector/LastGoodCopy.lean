import BitProtector.SyncQueue

/-! When the last good copy of a file survives a queue item or a recovery. Every
copy truncates its destination before it has seen the source, so a call loses
the good copy exactly when it enters a copy over it without a good source. -/
namespace BitProtector
open Effect

section
variable [Naming] [Blake3]

def GoodAt (disk : Disk) (path : Location) (checksum : String) : Prop :=
  ∃ node, disk.node path = some node ∧ node.whole = true ∧ checksumBytes node.bytes = checksum

/-- One of the two copies exists and hashes to the recorded checksum. -/
def HasGood (disk : Disk) (pair : DrivePair) (file : TrackedFile) : Prop :=
  ∃ role, GoodAt disk (pair.copyOn role file.relativePath) file.checksum

theorem hasGood_iff (disk : Disk) (pair : DrivePair) (file : TrackedFile) (target : DriveRole) :
    HasGood disk pair file ↔ GoodAt disk (pair.copyOn target file.relativePath) file.checksum ∨
      GoodAt disk (pair.copyOn target.opposite file.relativePath) file.checksum := by
  constructor
  · rintro ⟨role,good⟩
    rcases target.eq_or_opposite role with rfl | rfl
    · exact .inl good
    · exact .inr good
  · rintro (good | good)
    · exact ⟨target,good⟩
    · exact ⟨target.opposite,good⟩

omit [Naming] in
theorem goodAt_write (disk : Disk) (path : Location) (bytes : List UInt8) (checksum : String) :
    GoodAt (disk.write path bytes) path checksum ↔ checksumBytes bytes = checksum := by
  constructor
  · rintro ⟨node,found,_,same⟩
    rw [Disk.write_same] at found
    cases found
    exact same
  · intro same
    exact ⟨⟨bytes,none⟩,Disk.write_same _ _ _,rfl,same⟩

omit [Naming] in
theorem goodAt_write_other (disk : Disk) {path other : Location} (bytes : List UInt8) (checksum : String)
    (apart : other ≠ path) : GoodAt (disk.write path bytes) other checksum ↔ GoodAt disk other checksum := by
  simp only [GoodAt,Disk.write_other disk bytes apart]

omit [Naming] in
theorem not_goodAt_remove (disk : Disk) (path : Location) (checksum : String) :
    ¬GoodAt (disk.remove path) path checksum := by
  rintro ⟨node,found,_⟩
  simp at found

omit [Naming] in
theorem goodAt_remove_other (disk : Disk) {path other : Location} (checksum : String)
    (apart : other ≠ path) : GoodAt (disk.remove path) other checksum ↔ GoodAt disk other checksum := by
  simp only [GoodAt,Disk.remove_other disk apart]

theorem hasGood_of_untouched {w t : World} (kept : Untouched w t) {pair : DrivePair} {file : TrackedFile}
    (good : HasGood w.disk pair file) : HasGood t.disk pair file := by
  obtain ⟨role,node,found,rest⟩ := good
  exact ⟨role,node,kept.2 _ _ found,rest⟩

/-- Where a call starts to overwrite a copy: the world then, and the side. -/
structure CopyStart where
  entry : World
  target : DriveRole

def CopyStart.src (start : CopyStart) (pair : DrivePair) (file : TrackedFile) : Location :=
  pair.copyOn start.target.opposite file.relativePath

def CopyStart.dst (start : CopyStart) (pair : DrivePair) (file : TrackedFile) : Location :=
  pair.copyOn start.target file.relativePath

/-- The source is another file and good, or what arrives hashes to the checksum. -/
def CopyStart.Safe (start : CopyStart) (io : Io) (pair : DrivePair) (file : TrackedFile) : Prop :=
  (start.src pair file ≠ start.dst pair file ∧ GoodAt start.entry.disk (start.src pair file) file.checksum) ∨
    checksumBytes (delivered io start.entry.disk (start.src pair file) (start.dst pair file)) = file.checksum

/-- Whether `adopt_mirror` takes the standby copy, copies anew, or cannot tell. -/
inductive Adoption
  | taken
  | copied
  | unreadable

def adoption (io : Io) (pair : DrivePair) (file : TrackedFile) (disk : Disk) : Adoption :=
  let standby := pair.copyOn pair.standbyRole file.relativePath
  if disk.available pair.standbyPath && disk.exists? standby then
    match disk.node standby with
    | none => .unreadable
    | some node =>
      if io.openRead standby && node.whole then
        if checksumBytes node.bytes = file.checksum then .taken else .copied
      else .unreadable
  else .copied

def mirrorStart (io : Io) (pair : DrivePair) (file : TrackedFile) (w : World) : Option CopyStart :=
  (mirrorEntry io pair file.relativePath w).map (fun entry => ⟨entry,pair.standbyRole⟩)

def restoreStart (io : Io) (pair : DrivePair) (file : TrackedFile) (target : DriveRole) (w : World) :
    Option CopyStart :=
  (restoreEntry io pair target file.relativePath w).map (fun entry => ⟨entry,target⟩)

def actionStart (io : Io) (action : SyncAction) (pair : DrivePair) (file : TrackedFile) (w : World) :
    Option CopyStart :=
  match action with
  | .mirror => mirrorStart io pair file w
  | .adoptMirror =>
    match adoption io pair file w.disk with
    | .copied => mirrorStart io pair file w
    | .taken | .unreadable => none
  | .restoreMaster => restoreStart io pair file .primary w
  | .restoreMirror => restoreStart io pair file .secondary w
  | _ => none

theorem actionStart_plain {action : SyncAction} (plain : action.setsMirrored = false) (io : Io) (pair : DrivePair)
    (file : TrackedFile) (w : World) : actionStart io action pair file w = none := by
  cases action with
  | mirror => cases plain
  | adoptMirror => cases plain
  | restoreMaster => cases plain
  | restoreMirror => cases plain
  | verify => rfl
  | userActionRequired => rfl
  | other text => rfl

/-- How a disk may look after a call with this start, or without one. -/
def Outcome (io : Io) (pair : DrivePair) (file : TrackedFile) (start : Option CopyStart) (w t : World) : Prop :=
  match start with
  | none => Untouched w t
  | some start => Untouched w start.entry ∧
      (t = start.entry.withDelivered io (start.src pair file) (start.dst pair file) ∨
        (t = { start.entry with disk := start.entry.disk.remove (start.dst pair file) } ∧
          checksumBytes (delivered io start.entry.disk (start.src pair file) (start.dst pair file)) ≠
            file.checksum))

theorem mirrorFile_outcome (io : Io) (pair : DrivePair) (file : TrackedFile) (w : World) :
    Outcome io pair file (mirrorStart io pair file w) w (after (mirrorFile io pair file.relativePath) w) := by
  unfold mirrorStart
  cases entered : mirrorEntry io pair file.relativePath w with
  | none =>
    obtain ⟨m,t,ran,kept⟩ := mirrorFile_none entered
    rw [after_of_error ran]
    exact kept
  | some t =>
    refine ⟨copyEntry_untouched (untouched_prepareMirror _ _ _) entered,.inl ?_⟩
    have source : CopyStart.src ⟨t,pair.standbyRole⟩ pair file = pair.copyOn pair.activeRole file.relativePath := by
      simp [CopyStart.src,DrivePair.standbyRole]
    rw [source]
    rcases mirrorFile_some entered with ⟨_,ran⟩ | ⟨_,m,ran⟩
    · exact after_of_ok ran
    · exact after_of_error ran

theorem restoreSide_outcome (io : Io) (pair : DrivePair) (file : TrackedFile) (target : DriveRole) (w : World) :
    Outcome io pair file (restoreStart io pair file target w) w
      (after (restoreSide io pair target file.relativePath file.checksum) w) := by
  unfold restoreStart
  cases entered : restoreEntry io pair target file.relativePath w with
  | none =>
    obtain ⟨m,t,ran,kept⟩ := restoreSide_none file.checksum entered
    rw [after_of_error ran]
    exact kept
  | some t =>
    refine ⟨copyEntry_untouched (untouched_prepareRestore _ _ _ _) entered,?_⟩
    rcases restoreSide_some file.checksum entered with ⟨_,_,ran⟩ | ⟨_,m,ran⟩ | ⟨differ,m,ran⟩
    · exact .inl (after_of_ok ran)
    · exact .inl (after_of_error ran)
    · exact .inr ⟨after_of_error ran,differ⟩

theorem adoptMirror_run (io : Io) (pair : DrivePair) (file : TrackedFile) (w : World) :
    adoptMirror io pair file w =
      match adoption io pair file w.disk with
      | .copied => (do let _ ← mirrorFile io pair file.relativePath) w
      | .taken => .ok () w
      | .unreadable => .error "Failed to checksum standby file" w := by
  unfold adoptMirror adoption
  rw [bind_of_ok (Act.look_apply _ _)]
  dsimp only
  cases there : w.disk.available pair.standbyPath && w.disk.exists? (pair.copyOn pair.standbyRole file.relativePath) with
  | false => rfl
  | true =>
    obtain ⟨_,present⟩ := Bool.and_eq_true_iff.mp there
    obtain ⟨node,found⟩ := Option.isSome_iff_exists.mp present
    have hashed := checksumFile_run io w (pair.copyOn pair.standbyRole file.relativePath) .streaming
    simp only [found] at hashed ⊢
    cases reads : io.openRead (pair.copyOn pair.standbyRole file.relativePath) && node.whole with
    | false =>
      rw [reads] at hashed
      exact bind_of_error (by simp only [Act.mapErr,hashed]; rfl) _
    | true =>
      rw [reads] at hashed
      refine (bind_of_ok (by simp only [Act.mapErr,hashed]; rfl) _).trans ?_
      by_cases same : checksumBytes node.bytes = file.checksum
      · simp only [same,ne_eq,not_true_eq_false,if_false,if_true]
        rfl
      · simp only [same,ne_eq,not_false_eq_true,if_true,if_false]

theorem adoptMirror_after (io : Io) (pair : DrivePair) (file : TrackedFile) (w : World) :
    after (adoptMirror io pair file) w =
      match adoption io pair file w.disk with
      | .copied => after (mirrorFile io pair file.relativePath) w
      | .taken | .unreadable => w := by
  rw [after,adoptMirror_run]
  cases adoption io pair file w.disk with
  | copied => exact after_discard _ w
  | taken => rfl
  | unreadable => rfl

theorem adoption_taken {io : Io} {pair : DrivePair} {file : TrackedFile} {disk : Disk}
    (taken : adoption io pair file disk = .taken) :
    GoodAt disk (pair.copyOn pair.standbyRole file.relativePath) file.checksum := by
  unfold adoption at taken
  dsimp only at taken
  split at taken
  · split at taken
    · cases taken
    · rename_i node found
      split at taken
      · rename_i reads
        obtain ⟨_,whole⟩ := Bool.and_eq_true_iff.mp reads
        split at taken
        · rename_i same
          exact ⟨node,found,whole,same⟩
        · cases taken
      · cases taken
  · cases taken

theorem runAction_outcome (io : Io) (action : SyncAction) (pair : DrivePair) (file : TrackedFile) (w : World) :
    Outcome io pair file (actionStart io action pair file w) w (after (runAction io action pair file) w) := by
  have still : Outcome io pair file none w w := refl_of Untouched w
  cases action with
  | mirror =>
    unfold runAction
    rw [after_attempt,after_discard]
    exact mirrorFile_outcome io pair file w
  | adoptMirror =>
    unfold runAction actionStart
    rw [after_bind_of_still (fun _ _ => rfl),adoptMirror_after]
    cases adoption io pair file w.disk with
    | copied => exact mirrorFile_outcome io pair file w
    | taken => exact still
    | unreadable => exact still
  | restoreMaster =>
    unfold runAction restoreFromMirror
    rw [after_attempt]
    exact restoreSide_outcome io pair file .primary w
  | restoreMirror =>
    unfold runAction restoreMirrorFromMaster
    rw [after_attempt]
    exact restoreSide_outcome io pair file .secondary w
  | verify =>
    unfold runAction
    rw [after_bind_of_still,checkFileIntegrity_after]
    · exact still
    · intro result s
      split <;> rfl
  | userActionRequired => exact still
  | other text => exact still

theorem outcome_keeps_iff {io : Io} {pair : DrivePair} {file : TrackedFile} {start : Option CopyStart} {w t : World}
    (outcome : Outcome io pair file start w t) :
    (HasGood w.disk pair file → HasGood t.disk pair file) ↔
      (HasGood w.disk pair file → ∀ copy, start = some copy → copy.Safe io pair file) := by
  cases start with
  | none =>
    constructor
    · intro _ _ copy entered
      cases entered
    · intro _ good
      exact hasGood_of_untouched outcome good
  | some copy =>
    obtain ⟨_,left⟩ := outcome
    have kept : HasGood t.disk pair file ↔ copy.Safe io pair file := by
      rw [hasGood_iff _ _ _ copy.target]
      change GoodAt t.disk (copy.dst pair file) _ ∨ GoodAt t.disk (copy.src pair file) _ ↔ _
      unfold CopyStart.Safe
      rcases left with rfl | ⟨rfl,differ⟩
      · by_cases apart : copy.src pair file = copy.dst pair file
        · simp only [World.withDelivered,apart,goodAt_write,ne_eq,not_true_eq_false,false_and,false_or,or_self]
        · simp only [World.withDelivered,goodAt_write,goodAt_write_other _ _ _ apart,ne_eq,apart,
            not_false_eq_true,true_and]
          exact or_comm
      · by_cases apart : copy.src pair file = copy.dst pair file
        · simp only [apart,not_goodAt_remove,ne_eq,not_true_eq_false,false_and,false_or] at differ ⊢
          exact ⟨False.elim,differ⟩
        · simp only [not_goodAt_remove,goodAt_remove_other _ _ apart,ne_eq,apart,not_false_eq_true,true_and,
            false_or,differ,or_false]
    simp only [kept,Option.some.injEq,forall_eq']

def itemStart (io : Io) (item : SyncQueueItem) (pair : DrivePair) (file : TrackedFile) (w : World) :
    Option CopyStart :=
  if itemSkipped item pair w.disk then none
  else actionStart io item.action (pair.operational w.disk) file (itemStarted item pair w)

def recoveryStart (io : Io) (pair : DrivePair) (file : TrackedFile) (result : IntegrityCheckResult) (w : World) :
    Option CopyStart :=
  (recoveredRole pair result.status).bind (fun target => restoreStart io pair file target w)

theorem hasGood_operational (disk now : Disk) (pair : DrivePair) (file : TrackedFile) :
    HasGood disk (pair.operational now) file ↔ HasGood disk pair file := by
  simp only [HasGood,DrivePair.copyOn_operational]

theorem safe_operational (copy : CopyStart) (io : Io) (now : Disk) (pair : DrivePair) (file : TrackedFile) :
    copy.Safe io (pair.operational now) file ↔ copy.Safe io pair file := by
  simp only [CopyStart.Safe,CopyStart.src,CopyStart.dst,DrivePair.copyOn_operational]

theorem processItem_keeps_iff {io : Io} {item : SyncQueueItem} {file : TrackedFile} {pair : DrivePair} {w : World}
    (hasFile : w.db.getTrackedFile item.trackedFileId = .ok file)
    (hasPair : w.db.getDrivePair file.drivePairId = .ok pair) :
    (HasGood w.disk pair file → HasGood (after (processItem io item) w).disk pair file) ↔
      (HasGood w.disk pair file → ∀ copy, itemStart io item pair file w = some copy → copy.Safe io pair file) := by
  rw [processItem_disk hasFile hasPair]
  unfold itemStart
  cases itemSkipped item pair w.disk with
  | true => simp
  | false =>
    have kept := outcome_keeps_iff (runAction_outcome io item.action (pair.operational w.disk) file
      (itemStarted item pair w))
    simp only [hasGood_operational,safe_operational] at kept
    exact kept

theorem attemptRecovery_keeps_iff (io : Io) (pair : DrivePair) (file : TrackedFile)
    (result : IntegrityCheckResult) (w : World) :
    (HasGood w.disk pair file → HasGood (after (attemptRecovery io pair file result) w).disk pair file) ↔
      (HasGood w.disk pair file →
        ∀ copy, recoveryStart io pair file result w = some copy → copy.Safe io pair file) := by
  apply outcome_keeps_iff
  rw [attemptRecovery_eq]
  unfold recoveryStart
  cases recoveredRole pair result.status with
  | none => exact refl_of Untouched w
  | some target =>
    rw [Option.bind_some,after_bind_of_still (fun _ _ => rfl)]
    exact restoreSide_outcome io pair file target w

/-- A queue item and a recovery keep the last good copy exactly when the copy they
enter, if any, reads a good source elsewhere or delivers the recorded content. -/
theorem lastGoodCopy_kept_iff (io : Io) (w : World) (item : SyncQueueItem) (file : TrackedFile) (pair : DrivePair)
    (hasFile : w.db.getTrackedFile item.trackedFileId = .ok file)
    (hasPair : w.db.getDrivePair file.drivePairId = .ok pair) :
    ((HasGood w.disk pair file → HasGood (after (processItem io item) w).disk pair file) ↔
      (HasGood w.disk pair file → ∀ copy, itemStart io item pair file w = some copy → copy.Safe io pair file)) ∧
    ∀ (other : DrivePair) (checked : TrackedFile) (result : IntegrityCheckResult),
      (HasGood w.disk other checked →
        HasGood (after (attemptRecovery io other checked result) w).disk other checked) ↔
      (HasGood w.disk other checked →
        ∀ copy, recoveryStart io other checked result w = some copy → copy.Safe io other checked) :=
  ⟨processItem_keeps_iff hasFile hasPair,fun other checked result =>
    attemptRecovery_keeps_iff io other checked result w⟩

end

/-! A corrupt active copy over a good standby copy. -/

def corruptedPair : DrivePair := ⟨1,"/primary","/secondary",.active,.active,.primary,.hdd,.hdd⟩

def corruptedFile : TrackedFile :=
  ⟨1,1,"notes.txt",sampleBlake3.toHex [2],1,none,false,true,false,none⟩

def corruptedItem : SyncQueueItem := ⟨1,1,.mirror,.pending,none,none⟩

theorem key_corruptedPair (id : Nat) : Keyed.key { corruptedPair with id } = id := rfl

theorem key_corruptedFile (id : Nat) : Keyed.key { corruptedFile with id } = id := rfl

def corruptedWorld : World where
  db := { Db.empty with
    drivePairs := Table.empty.insert (fun id => { corruptedPair with id }) key_corruptedPair
    trackedFiles := Table.empty.insert (fun id => { corruptedFile with id }) key_corruptedFile
    syncQueue := Table.empty.insert (fun id => { corruptedItem with id }) (fun _ => rfl) }
  disk :=
    { node := fun path =>
        if path.relativePath = driveRootMarker then some ⟨[],none⟩
        else if path = ⟨"/primary","notes.txt"⟩ then some ⟨[1],none⟩
        else if path = ⟨"/secondary","notes.txt"⟩ then some ⟨[2],none⟩
        else none
      available := fun root => root == "/primary" || root == "/secondary" }

theorem lastGoodCopy_kept_iff_corrupted :
    letI := sampleBlake3
    ((HasGood corruptedWorld.disk corruptedPair corruptedFile →
        HasGood (after (processItem Io.healthy corruptedItem) corruptedWorld).disk corruptedPair corruptedFile) ↔
      (HasGood corruptedWorld.disk corruptedPair corruptedFile → ∀ copy,
        itemStart Io.healthy corruptedItem corruptedPair corruptedFile corruptedWorld = some copy →
          copy.Safe Io.healthy corruptedPair corruptedFile)) :=
  letI := sampleBlake3
  (lastGoodCopy_kept_iff Io.healthy corruptedWorld corruptedItem corruptedFile corruptedPair (by rfl) (by rfl)).1

/-- The good standby copy is truncated and the corrupt content goes over it. -/
theorem mirror_overwrites_lastGoodCopy :
    ¬ ∀ (_ : Blake3) (io : Io) (w : World) (item : SyncQueueItem) (file : TrackedFile) (pair : DrivePair),
      w.db.getTrackedFile item.trackedFileId = .ok file → w.db.getDrivePair file.drivePairId = .ok pair →
      HasGood w.disk pair file → HasGood (after (processItem io item) w).disk pair file := by
  intro kept
  let _ := sampleBlake3
  have good : HasGood corruptedWorld.disk corruptedPair corruptedFile :=
    ⟨.secondary,⟨[2],none⟩,by decide,rfl,rfl⟩
  obtain ⟨role,node,found,_,same⟩ := kept sampleBlake3 Io.healthy corruptedWorld corruptedItem corruptedFile
    corruptedPair (by rfl) (by rfl) good
  have left : ∀ role, (after (processItem Io.healthy corruptedItem) corruptedWorld).disk.node
      (corruptedPair.copyOn role corruptedFile.relativePath) = some ⟨[1],none⟩ := by
    intro role
    cases role <;> decide
  rw [left role] at found
  cases found
  exact absurd same (by decide)

end BitProtector
