import BitProtector.LastGoodCopy

/-! When a row that comes out of an operation as mirrored has a good copy on the
standby. A restore verifies what it copies; a mirror records that it copied
something, so its flag is right only if the active copy still was the recorded one. -/
namespace BitProtector
open Effect

section
variable [Naming] [Blake3]

/-- The standby of the pair holds the recorded content of a row. -/
def StandbyGood (t : World) (row : TrackedFile) : Prop :=
  ∃ pair, t.db.drivePairs.find? row.drivePairId = some pair ∧
    GoodAt t.disk (pair.copyOn pair.standbyRole row.relativePath) row.checksum

/-- Every row whose mirror flag went up from `w` to `t` has a good standby copy in `t`. -/
def MirrorSound (w t : World) : Prop :=
  ∀ id old row, w.db.trackedFiles.find? id = some old → old.isMirrored = false →
    t.db.trackedFiles.find? id = some row → row.isMirrored = true → StandbyGood t row

theorem mirrorSound_iff {flag : TrackedFile → Bool} {w t : World} (flags : Db.SetsFlags flag w.db t.db) :
    MirrorSound w t ↔ ∀ old, w.db.trackedFiles.find? old.id = some old → old.isMirrored = false →
      flag old = true → StandbyGood t old := by
  constructor
  · intro sound old found down up
    have row : t.db.trackedFiles.find? old.id = some { old with isMirrored := flag old } := by
      rw [flags,found]
      rfl
    exact sound old.id old { old with isMirrored := flag old } found down row up
  · intro each id old row found down after up
    have same : old.id = id := Table.find?_key found
    subst same
    rw [flags,found,Option.map_some,Option.some.injEq] at after
    subst after
    exact each old found down up

theorem mirrorSound_of_no_flip {flag : TrackedFile → Bool} {w t : World} (flags : Db.SetsFlags flag w.db t.db)
    (none_up : ∀ old, flag old = true → old.isMirrored = true) : MirrorSound w t := by
  rw [mirrorSound_iff flags]
  intro old _ down up
  rw [none_up old up] at down
  cases down

omit [Blake3] in
theorem setsFlags_operational (db : Db) (disk : Disk) (pair : DrivePair) :
    ∃ flag, Db.SetsFlags flag db (db.operational disk pair) ∧ ∀ old, flag old = true → old.isMirrored = true := by
  unfold Db.operational
  split
  · refine ⟨_,Db.setsFlags_markDrivePairUnmirrored db pair.id,?_⟩
    intro old up
    by_cases member : old.drivePairId = pair.id
    · simp [member] at up
    · simpa [member] using up
  · exact ⟨_,Db.setsFlags_of_eq rfl,fun _ up => up⟩

def CopyStart.content (copy : CopyStart) (io : Io) (pair : DrivePair) (file : TrackedFile) : List UInt8 :=
  delivered io copy.entry.disk (copy.src pair file) (copy.dst pair file)

def CopyStart.completes (copy : CopyStart) (io : Io) (pair : DrivePair) (file : TrackedFile) : Bool :=
  completesCopy io copy.entry.disk (copy.src pair file) (copy.dst pair file)

/-- The world that the copy leaves when all of it is delivered. -/
def CopyStart.left (copy : CopyStart) (io : Io) (pair : DrivePair) (file : TrackedFile) : World :=
  copy.entry.withDelivered io (copy.src pair file) (copy.dst pair file)

theorem mirrorFile_cases (io : Io) (pair : DrivePair) (file : TrackedFile) (w : World) :
    (∃ copy, mirrorStart io pair file w = some copy ∧ copy.target = pair.standbyRole ∧
      copy.completes io pair file = true ∧ (copy.left io pair file).db = w.db ∧
      ∃ digest, mirrorFile io pair file.relativePath w = .ok digest (copy.left io pair file)) ∨
    ((∀ copy, mirrorStart io pair file w = some copy → copy.completes io pair file = false) ∧
      ∃ message t, mirrorFile io pair file.relativePath w = .error message t ∧ t.db = w.db) := by
  unfold mirrorStart
  cases entered : mirrorEntry io pair file.relativePath w with
  | none =>
    obtain ⟨message,t,ran,kept⟩ := mirrorFile_none entered
    exact .inr ⟨fun _ start => (by cases start),message,t,ran,kept.1⟩
  | some t =>
    have kept := copyEntry_untouched (untouched_prepareMirror _ _ _) entered
    have source : CopyStart.src ⟨t,pair.standbyRole⟩ pair file = pair.copyOn pair.activeRole file.relativePath := by
      simp [CopyStart.src,DrivePair.standbyRole]
    rcases mirrorFile_some entered with ⟨completes,ran⟩ | ⟨stopped,message,ran⟩
    · refine .inl ⟨⟨t,pair.standbyRole⟩,rfl,rfl,?_,kept.1,?_⟩
      · rw [CopyStart.completes,source]
        exact completes
      · rw [CopyStart.left,source]
        exact ⟨_,ran⟩
    · refine .inr ⟨?_,message,_,ran,kept.1⟩
      intro copy start
      cases start
      rw [CopyStart.completes,source]
      exact stopped

theorem restoreSide_cases (io : Io) (pair : DrivePair) (file : TrackedFile) (target : DriveRole) (w : World) :
    (∃ copy, restoreStart io pair file target w = some copy ∧ copy.target = target ∧
      copy.completes io pair file = true ∧ checksumBytes (copy.content io pair file) = file.checksum ∧
      (copy.left io pair file).db = w.db ∧
      restoreSide io pair target file.relativePath file.checksum w = .ok () (copy.left io pair file)) ∨
    ((∀ copy, restoreStart io pair file target w = some copy →
        ¬(copy.completes io pair file = true ∧ checksumBytes (copy.content io pair file) = file.checksum)) ∧
      ∃ message t, restoreSide io pair target file.relativePath file.checksum w = .error message t ∧
        t.db = w.db) := by
  unfold restoreStart
  cases entered : restoreEntry io pair target file.relativePath w with
  | none =>
    obtain ⟨message,t,ran,kept⟩ := restoreSide_none file.checksum entered
    exact .inr ⟨fun _ start => (by cases start),message,t,ran,kept.1⟩
  | some t =>
    have kept := copyEntry_untouched (untouched_prepareRestore _ _ _ _) entered
    rcases restoreSide_some file.checksum entered with ⟨completes,same,ran⟩ | ⟨stopped,message,ran⟩ | ⟨differ,message,ran⟩
    · exact .inl ⟨⟨t,target⟩,rfl,rfl,completes,same,kept.1,ran⟩
    · refine .inr ⟨fun copy start => ?_,message,_,ran,kept.1⟩
      cases start
      exact stopped
    · refine .inr ⟨fun copy start both => ?_,message,_,ran,kept.1⟩
      cases start
      exact differ both.2

omit [Blake3] in
theorem restoreStart_present {io : Io} {pair : DrivePair} {file : TrackedFile} {target : DriveRole} {w : World}
    {copy : CopyStart} (start : restoreStart io pair file target w = some copy) :
    copy.entry.disk.exists? (copy.src pair file) = true := by
  unfold restoreStart at start
  obtain ⟨t,entered,rfl⟩ := Option.map_eq_some_iff.mp start
  have enters := (copyEntry_some entered).2
  simp only [entersCopy,Bool.and_eq_true] at enters
  exact enters.1.1

theorem goodAt_left {io : Io} {copy : CopyStart} {pair : DrivePair} {file : TrackedFile}
    (present : copy.entry.disk.exists? (copy.src pair file) = true)
    (completes : copy.completes io pair file = true)
    (same : checksumBytes (copy.content io pair file) = file.checksum) (role : DriveRole) :
    GoodAt (copy.left io pair file).disk (pair.copyOn role file.relativePath) file.checksum := by
  have target : GoodAt (copy.left io pair file).disk (copy.dst pair file) file.checksum :=
    (goodAt_write _ _ _ _).mpr same
  rcases copy.target.eq_or_opposite role with rfl | rfl
  · exact target
  · change GoodAt _ (copy.src pair file) _
    by_cases apart : copy.src pair file = copy.dst pair file
    · rw [apart]
      exact target
    · refine (goodAt_write_other _ _ _ apart).mpr ?_
      obtain ⟨node,found⟩ := Option.isSome_iff_exists.mp present
      have source : copySource copy.entry.disk (copy.src pair file) (copy.dst pair file) = node := by
        rw [copySource,Disk.write_other _ _ apart,found]
        rfl
      have arrived := arrives_of_completes completes
      have bytes := delivered_of_arrives arrived
      obtain ⟨whole,_⟩ := Bool.and_eq_true_iff.mp arrived
      rw [source] at bytes whole
      exact ⟨node,found,whole,by rw [← same,CopyStart.content,bytes]⟩

theorem mirroringAction_cases (io : Io) {action : SyncAction} (mirroring : action.isMirroring = true)
    (pair : DrivePair) (file : TrackedFile) (w : World) :
    (∃ copy, actionStart io action pair file w = some copy ∧ copy.target = pair.standbyRole ∧
      copy.completes io pair file = true ∧ (copy.left io pair file).db = w.db ∧
      runAction io action pair file w = .ok (.ok ()) (copy.left io pair file)) ∨
    (actionStart io action pair file w = none ∧ runAction io action pair file w = .ok (.ok ()) w ∧
      GoodAt w.disk (pair.copyOn pair.standbyRole file.relativePath) file.checksum) ∨
    ((∀ copy, actionStart io action pair file w = some copy → copy.completes io pair file = false) ∧
      ∃ t, t.db = w.db ∧ ((∃ message, runAction io action pair file w = .error message t) ∨
        ∃ message, runAction io action pair file w = .ok (.error message) t)) := by
  cases action with
  | mirror =>
    rw [runAction_mirror]
    rcases mirrorFile_cases io pair file w with ⟨copy,start,side,completes,kept,_,ran⟩ | ⟨stopped,message,t,ran,kept⟩
    · refine .inl ⟨copy,start,side,completes,kept,?_⟩
      exact attempt_of_ok (by rw [bind_of_ok ran]; rfl)
    · refine .inr (.inr ⟨stopped,t,kept,.inr ⟨message,?_⟩⟩)
      exact attempt_of_error (by rw [bind_of_error ran])
  | adoptMirror =>
    have adopted := adoptMirror_run io pair file w
    rw [runAction_adoptMirror]
    unfold actionStart
    cases choice : adoption io pair file w.disk with
    | copied =>
      rw [choice] at adopted
      rcases mirrorFile_cases io pair file w with ⟨copy,start,side,completes,kept,_,ran⟩ | ⟨stopped,message,t,ran,kept⟩
      · refine .inl ⟨copy,start,side,completes,kept,?_⟩
        exact bind_of_ok (adopted.trans (bind_of_ok ran _)) _
      · refine .inr (.inr ⟨stopped,t,kept,.inl ⟨message,?_⟩⟩)
        exact bind_of_error (adopted.trans (bind_of_error ran _)) _
    | taken =>
      rw [choice] at adopted
      exact .inr (.inl ⟨rfl,bind_of_ok adopted _,adoption_taken choice⟩)
    | unreadable =>
      rw [choice] at adopted
      refine .inr (.inr ⟨fun _ start => (by cases start),w,rfl,.inl ⟨"Failed to checksum standby file",?_⟩⟩)
      exact bind_of_error adopted _
  | restoreMaster => cases mirroring
  | restoreMirror => cases mirroring
  | verify => cases mirroring
  | userActionRequired => cases mirroring
  | other text => cases mirroring

theorem restoringAction_cases (io : Io) {action : SyncAction} {target : DriveRole}
    (restores : rebuiltRole action = some target) (pair : DrivePair) (file : TrackedFile) (w : World) :
    (∃ copy, actionStart io action pair file w = some copy ∧
      copy.completes io pair file = true ∧ checksumBytes (copy.content io pair file) = file.checksum ∧
      (∀ role, GoodAt (copy.left io pair file).disk (pair.copyOn role file.relativePath) file.checksum) ∧
      (copy.left io pair file).db = w.db ∧
      runAction io action pair file w = .ok (.ok ()) (copy.left io pair file)) ∨
    ((∀ copy, actionStart io action pair file w = some copy →
        ¬(copy.completes io pair file = true ∧ checksumBytes (copy.content io pair file) = file.checksum)) ∧
      ∃ t, t.db = w.db ∧ ∃ message, runAction io action pair file w = .ok (.error message) t) := by
  have shape : actionStart io action pair file w = restoreStart io pair file target w ∧
      runAction io action pair file = attempt (restoreSide io pair target file.relativePath file.checksum) := by
    cases action <;> cases restores <;> exact ⟨rfl,rfl⟩
  rw [shape.1,shape.2]
  rcases restoreSide_cases io pair file target w with ⟨copy,start,_,completes,same,kept,ran⟩ | ⟨stopped,message,t,ran,kept⟩
  · exact .inl ⟨copy,start,completes,same,goodAt_left (restoreStart_present start) completes same,kept,
      attempt_of_ok ran⟩
  · exact .inr ⟨stopped,t,kept,message,attempt_of_error ran⟩

end

/-- The tables once an item is completed and its file flagged. -/
def itemFinished (item : SyncQueueItem) (file : TrackedFile) (db : Db) : Db :=
  (db.updateSyncQueueStatus item.id .completed none).updateTrackedFileMirrorStatus file.id true

theorem finishItem_after {item : SyncQueueItem} {file : TrackedFile} {pair : DrivePair} {t : World}
    (sets : item.action.setsMirrored = true) (found : t.db.drivePairs.find? pair.id = some pair) :
    after (finishItem item file pair (.ok ())) t =
      { t with db := (itemFinished item file t.db).finalized pair item.action } := by
  have row : (itemFinished item file t.db).drivePairs.find? pair.id = some pair := found
  unfold finishItem
  rw [after_bind_of_ok (Act.execute_apply _ _)]
  simp only [sets,if_true]
  rw [after_bind_of_ok (Act.execute_apply _ _)]
  refine (after_discard _ _).trans ?_
  rw [after_attempt]
  exact maybeFinalizeRebuildForAction_after (w := { t with db := itemFinished item file t.db }) item.action row

theorem setsFlags_finalized_none {db : Db} {pair : DrivePair} {action : SyncAction}
    (goes_on : rebuildFinishes db pair action = none) : db.finalized pair action = db := by
  rw [Db.finalized,goes_on]

theorem finalized_some {db : Db} {pair : DrivePair} {action : SyncAction} {role : DriveRole}
    (finishes : rebuildFinishes db pair action = some role) (found : db.drivePairs.find? pair.id = some pair) :
    (∃ flag, Db.SetsFlags flag db (db.finalized pair action) ∧ ∀ old, db.trackedFiles.find? old.id = some old →
      flag old = if old.drivePairId = pair.id then !(pair.rebuilt role).isDegraded else old.isMirrored) ∧
    (db.finalized pair action).drivePairs.find? pair.id = some (pair.rebuilt role) := by
  have cleared := setsFlags_rebuilt db pair role
  rw [Db.finalized,finishes]
  dsimp only
  cases degraded : (pair.rebuilt role).isDegraded with
  | true => exact ⟨⟨_,cleared,fun _ _ => rfl⟩,find?_rebuilt found role⟩
  | false =>
    simp only [Bool.false_eq_true,if_false]
    obtain ⟨flags,kept⟩ := setsFlags_markAllMirrored (db.rebuilt pair role)
      ((db.rebuilt pair role).listTrackedFilesOfPair pair.id)
    refine ⟨⟨_,cleared.trans flags,?_⟩,by rw [kept]; exact find?_rebuilt found role⟩
    intro old present
    have row := cleared old.id
    rw [present,Option.map_some] at row
    by_cases member : old.drivePairId = pair.id
    · have listed : { old with isMirrored := false } ∈ (db.rebuilt pair role).listTrackedFilesOfPair pair.id :=
        Db.mem_listTrackedFilesOfPair.mpr ⟨by simpa only [member,if_true] using row,member⟩
      simp only [member,if_true,Bool.not_false,Bool.false_or,List.any_eq_true,beq_iff_eq]
      exact ⟨_,listed,rfl⟩
    · simp only [member,if_false,Bool.or_eq_left_iff_imp,List.any_eq_true,beq_iff_eq]
      rintro ⟨other,listed,same⟩
      obtain ⟨first,pairId⟩ := Db.mem_listTrackedFilesOfPair.mp listed
      rw [same,row,Option.some.injEq] at first
      rw [← first] at pairId
      exact absurd pairId member

section
variable [Naming] [Blake3]

theorem processItem_after {io : Io} {item : SyncQueueItem} {file : TrackedFile} {pair : DrivePair} {w t : World}
    (hasFile : w.db.getTrackedFile item.trackedFileId = .ok file)
    (hasPair : w.db.getDrivePair file.drivePairId = .ok pair) (runs : itemSkipped item pair w.disk = false)
    (sets : item.action.setsMirrored = true) (kept : t.db = (itemStarted item pair w).db)
    (ran : runAction io item.action (pair.operational w.disk) file (itemStarted item pair w) = .ok (.ok ()) t) :
    after (processItem io item) w =
      { t with db := (itemFinished item file t.db).finalized (pair.operational w.disk) item.action } := by
  have found : t.db.drivePairs.find? (pair.operational w.disk).id = some (pair.operational w.disk) := by
    have same : pair.id = file.drivePairId := Table.find?_key (Db.getDrivePair_ok.mp hasPair)
    rw [kept,DrivePair.operational_id,same]
    exact find?_operational hasPair w.disk
  rw [after,processItem_started hasFile hasPair runs,bind_of_ok ran]
  exact finishItem_after sets found

theorem mirrorSound_of_failed {io : Io} {item : SyncQueueItem} {file : TrackedFile} {pair : DrivePair} {w t : World}
    (hasFile : w.db.getTrackedFile item.trackedFileId = .ok file)
    (hasPair : w.db.getDrivePair file.drivePairId = .ok pair) (runs : itemSkipped item pair w.disk = false)
    (kept : t.db = (itemStarted item pair w).db)
    (ran : (∃ message, runAction io item.action (pair.operational w.disk) file (itemStarted item pair w) =
        .error message t) ∨
      ∃ message, runAction io item.action (pair.operational w.disk) file (itemStarted item pair w) =
        .ok (.error message) t) :
    MirrorSound w (after (processItem io item) w) := by
  obtain ⟨flag,flags,down⟩ := setsFlags_operational w.db w.disk pair
  have same : (after (processItem io item) w).db.trackedFiles = (w.db.operational w.disk pair).trackedFiles := by
    rw [after,processItem_started hasFile hasPair runs]
    rcases ran with ⟨message,ran⟩ | ⟨message,ran⟩
    · rw [bind_of_error ran]
      change t.db.trackedFiles = _
      rw [kept]
      rfl
    · rw [bind_of_ok ran]
      change t.db.trackedFiles = _
      rw [kept]
      rfl
  have ended : Db.SetsFlags flag w.db (after (processItem io item) w).db := by
    intro id
    rw [same]
    exact flags id
  exact mirrorSound_of_no_flip ended down

/-- The flag of a queue item is right: a mirror of a file that was not flagged delivers
the recorded content, and a rebuild that is over finds every other copy good. -/
def ItemFlagSafe (io : Io) (item : SyncQueueItem) (pair : DrivePair) (file : TrackedFile) (w : World) : Prop :=
  let now := pair.operational w.disk
  ∀ copy, itemStart io item pair file w = some copy → copy.completes io now file = true →
    if item.action.isMirroring then
      file.isMirrored = false → checksumBytes (copy.content io now file) = file.checksum
    else checksumBytes (copy.content io now file) = file.checksum →
      ∀ role, rebuildFinishes (itemFinished item file (itemStarted item pair w).db) now item.action = some role →
        (now.rebuilt role).isDegraded = false →
        ∀ other ∈ w.db.listTrackedFilesOfPair pair.id, other.isMirrored = false →
          GoodAt (copy.left io now file).disk
            ((now.rebuilt role).copyOn (now.rebuilt role).standbyRole other.relativePath) other.checksum

omit [Blake3] in
theorem setsFlags_itemFinished (item : SyncQueueItem) (file : TrackedFile) (pair : DrivePair) (w : World) :
    ∃ flag, Db.SetsFlags flag w.db (itemFinished item file (itemStarted item pair w).db) ∧
      (∀ old, old.id = file.id → flag old = true) ∧
      ∀ old, old.id ≠ file.id → flag old = true → old.isMirrored = true := by
  obtain ⟨flag,flags,down⟩ := setsFlags_operational w.db w.disk pair
  have raised := Db.setsFlags_updateTrackedFileMirrorStatus
    ((itemStarted item pair w).db.updateSyncQueueStatus item.id .completed none) file.id true
  refine ⟨_,Db.SetsFlags.trans (b := (itemStarted item pair w).db.updateSyncQueueStatus item.id .completed none)
    flags raised,?_,?_⟩
  · intro old same
    simp [same]
  · intro old other up
    simp only [other,if_false] at up
    exact down old up

theorem mirrorSound_flagged_iff {flag : TrackedFile → Bool} {w u : World} {file : TrackedFile} {now : DrivePair}
    (flags : Db.SetsFlags flag w.db u.db) (own : ∀ old, old.id = file.id → flag old = true)
    (others : ∀ old, old.id ≠ file.id → flag old = true → old.isMirrored = true)
    (row : w.db.trackedFiles.find? file.id = some file)
    (pairRow : u.db.drivePairs.find? file.drivePairId = some now) :
    MirrorSound w u ↔ (file.isMirrored = false →
      GoodAt u.disk (now.copyOn now.standbyRole file.relativePath) file.checksum) := by
  rw [mirrorSound_iff flags]
  constructor
  · intro sound down
    obtain ⟨other,found,good⟩ := sound file row down (own file rfl)
    rw [pairRow,Option.some.injEq] at found
    rw [found]
    exact good
  · intro good old found down up
    by_cases same : old.id = file.id
    · rw [same,row,Option.some.injEq] at found
      subst found
      exact ⟨_,pairRow,good down⟩
    · rw [others old same up] at down
      cases down

theorem mirrorSound_itemFinished_iff {item : SyncQueueItem} {file : TrackedFile} {pair : DrivePair} {w u : World}
    (hasFile : w.db.getTrackedFile item.trackedFileId = .ok file)
    (hasPair : w.db.getDrivePair file.drivePairId = .ok pair)
    (ends : u.db = itemFinished item file (itemStarted item pair w).db) :
    MirrorSound w u ↔ (file.isMirrored = false →
      GoodAt u.disk ((pair.operational w.disk).copyOn (pair.operational w.disk).standbyRole file.relativePath)
        file.checksum) := by
  obtain ⟨flag,flags,own,others⟩ := setsFlags_itemFinished item file pair w
  rw [← ends] at flags
  refine mirrorSound_flagged_iff flags own others (Db.find?_of_getTrackedFile hasFile) ?_
  rw [ends]
  exact find?_operational hasPair w.disk

omit [Naming] [Blake3] in
theorem not_rebuildFinishes {db : Db} {pair : DrivePair} {action : SyncAction} (none_rebuilt : rebuiltRole action = none) :
    rebuildFinishes db pair action = none := by
  rw [rebuildFinishes,none_rebuilt]
  rfl

theorem processItem_mirrorSound_mirroring {io : Io} {item : SyncQueueItem} {file : TrackedFile} {pair : DrivePair}
    {w : World} (hasFile : w.db.getTrackedFile item.trackedFileId = .ok file)
    (hasPair : w.db.getDrivePair file.drivePairId = .ok pair) (runs : itemSkipped item pair w.disk = false)
    (mirroring : item.action.isMirroring = true) :
    MirrorSound w (after (processItem io item) w) ↔ ItemFlagSafe io item pair file w := by
  have sets : item.action.setsMirrored = true := by rw [SyncAction.setsMirrored_eq,mirroring,Bool.true_or]
  have start : itemStart io item pair file w =
      actionStart io item.action (pair.operational w.disk) file (itemStarted item pair w) := by
    simp [itemStart,runs]
  have ended (t : World) (kept : t.db = (itemStarted item pair w).db)
      (ran : runAction io item.action (pair.operational w.disk) file (itemStarted item pair w) = .ok (.ok ()) t) :
      MirrorSound w (after (processItem io item) w) ↔ (file.isMirrored = false →
        GoodAt t.disk ((pair.operational w.disk).copyOn (pair.operational w.disk).standbyRole file.relativePath)
          file.checksum) := by
    rw [processItem_after hasFile hasPair runs sets kept ran]
    refine mirrorSound_itemFinished_iff hasFile hasPair ?_
    rw [setsFlags_finalized_none (not_rebuildFinishes (rebuiltRole_of_isMirroring mirroring)),kept]
  unfold ItemFlagSafe
  simp only [start,mirroring,if_true]
  rcases mirroringAction_cases io mirroring (pair.operational w.disk) file (itemStarted item pair w) with
    ⟨copy,entered,side,completes,kept,ran⟩ | ⟨none_entered,ran,good⟩ | ⟨stopped,t,kept,ran⟩
  · rw [ended _ kept ran,entered]
    have written : GoodAt (copy.left io (pair.operational w.disk) file).disk
        ((pair.operational w.disk).copyOn (pair.operational w.disk).standbyRole file.relativePath) file.checksum ↔
          checksumBytes (copy.content io (pair.operational w.disk) file) = file.checksum := by
      rw [← side]
      exact goodAt_write _ _ _ _
    simp only [written,Option.some.injEq,forall_eq',completes,forall_const]
  · rw [ended _ rfl ran,none_entered]
    exact ⟨fun _ _ start => (by cases start),fun _ _ => good⟩
  · refine ⟨fun _ copy entered completes => ?_,fun _ => mirrorSound_of_failed hasFile hasPair runs kept ran⟩
    rw [stopped copy entered] at completes
    cases completes

theorem mirrorSound_finalized_iff {item : SyncQueueItem} {file : TrackedFile} {pair : DrivePair} {w u : World}
    {role : DriveRole} (hasFile : w.db.getTrackedFile item.trackedFileId = .ok file)
    (hasPair : w.db.getDrivePair file.drivePairId = .ok pair)
    (finishes : rebuildFinishes (itemFinished item file (itemStarted item pair w).db) (pair.operational w.disk)
      item.action = some role)
    (ends : u.db = (itemFinished item file (itemStarted item pair w).db).finalized (pair.operational w.disk)
      item.action) :
    MirrorSound w u ↔ (((pair.operational w.disk).rebuilt role).isDegraded = false →
      ∀ other ∈ w.db.listTrackedFilesOfPair pair.id, other.isMirrored = false →
        GoodAt u.disk (((pair.operational w.disk).rebuilt role).copyOn
          ((pair.operational w.disk).rebuilt role).standbyRole other.relativePath) other.checksum) := by
  have same : pair.id = file.drivePairId := Table.find?_key (Db.getDrivePair_ok.mp hasPair)
  have row : (itemFinished item file (itemStarted item pair w).db).drivePairs.find? (pair.operational w.disk).id =
      some (pair.operational w.disk) := by
    rw [DrivePair.operational_id,same]
    exact find?_operational hasPair w.disk
  obtain ⟨flag,flags,own,others⟩ := setsFlags_itemFinished item file pair w
  obtain ⟨⟨last,lasts,shape⟩,rebuilt⟩ := finalized_some finishes row
  rw [DrivePair.operational_id,same] at rebuilt
  rw [← ends] at lasts rebuilt
  rw [mirrorSound_iff (flags.trans lasts)]
  have ended (old : TrackedFile) (found : w.db.trackedFiles.find? old.id = some old) :
      last { old with isMirrored := flag old } =
        if old.drivePairId = pair.id then !((pair.operational w.disk).rebuilt role).isDegraded else flag old := by
    have present := flags old.id
    rw [found,Option.map_some] at present
    rw [shape _ present,DrivePair.operational_id]
  constructor
  · intro sound whole other listed down
    obtain ⟨found,member⟩ := Db.mem_listTrackedFilesOfPair.mp listed
    obtain ⟨now,foundPair,good⟩ := sound other found down (by rw [ended other found,if_pos member,whole]; rfl)
    rw [member,same,rebuilt,Option.some.injEq] at foundPair
    rw [foundPair]
    exact good
  · intro good old found down up
    rw [ended old found] at up
    by_cases member : old.drivePairId = pair.id
    · rw [if_pos member,Bool.not_eq_true'] at up
      refine ⟨_,?_,good up old (Db.mem_listTrackedFilesOfPair.mpr ⟨found,member⟩) down⟩
      rw [member,same]
      exact rebuilt
    · rw [if_neg member] at up
      by_cases own_row : old.id = file.id
      · rw [own_row,Db.find?_of_getTrackedFile hasFile,Option.some.injEq] at found
        rw [← found,same] at member
        exact absurd rfl member
      · rw [others old own_row up] at down
        cases down

theorem processItem_mirrorSound_restoring {io : Io} {item : SyncQueueItem} {file : TrackedFile} {pair : DrivePair}
    {w : World} {target : DriveRole} (hasFile : w.db.getTrackedFile item.trackedFileId = .ok file)
    (hasPair : w.db.getDrivePair file.drivePairId = .ok pair) (runs : itemSkipped item pair w.disk = false)
    (restores : rebuiltRole item.action = some target) :
    MirrorSound w (after (processItem io item) w) ↔ ItemFlagSafe io item pair file w := by
  have mirroring := isMirroring_of_rebuiltRole restores
  have sets : item.action.setsMirrored = true := by
    rw [SyncAction.setsMirrored_eq,restores,Option.isSome_some,Bool.or_true]
  have start : itemStart io item pair file w =
      actionStart io item.action (pair.operational w.disk) file (itemStarted item pair w) := by
    simp [itemStart,runs]
  unfold ItemFlagSafe
  simp only [start,mirroring,Bool.false_eq_true,if_false]
  rcases restoringAction_cases io restores (pair.operational w.disk) file (itemStarted item pair w) with
    ⟨copy,entered,completes,same,good,kept,ran⟩ | ⟨stopped,t,kept,message,ran⟩
  · have ends := processItem_after hasFile hasPair runs sets kept ran
    simp only [entered,Option.some.injEq,forall_eq',completes,same,forall_const]
    cases finishes : rebuildFinishes (itemFinished item file (itemStarted item pair w).db)
        (pair.operational w.disk) item.action with
    | none =>
      have settled : MirrorSound w (after (processItem io item) w) := by
        rw [ends,kept,setsFlags_finalized_none finishes]
        exact (mirrorSound_itemFinished_iff hasFile hasPair rfl).mpr fun _ => good _
      exact ⟨fun _ role impossible => (by cases impossible),fun _ => settled⟩
    | some role =>
      rw [mirrorSound_finalized_iff hasFile hasPair finishes (by rw [ends,kept]),ends]
      simp only [Option.some.injEq,forall_eq']
  · refine ⟨fun _ copy entered completes same => (stopped copy entered ⟨completes,same⟩).elim,fun _ => ?_⟩
    exact mirrorSound_of_failed hasFile hasPair runs kept (.inr ⟨message,ran⟩)

theorem processItem_mirrorSound_other {io : Io} {item : SyncQueueItem} {file : TrackedFile} {pair : DrivePair}
    {w : World} (hasFile : w.db.getTrackedFile item.trackedFileId = .ok file)
    (hasPair : w.db.getDrivePair file.drivePairId = .ok pair) (runs : itemSkipped item pair w.disk = false)
    (plain : item.action.setsMirrored = false) : MirrorSound w (after (processItem io item) w) := by
  have kept := runAction_outcome io item.action (pair.operational w.disk) file (itemStarted item pair w)
  rw [actionStart_plain plain] at kept
  obtain ⟨flag,flags,down⟩ := setsFlags_operational w.db w.disk pair
  have same : (after (processItem io item) w).db.trackedFiles = (w.db.operational w.disk pair).trackedFiles := by
    have tables := congrArg Db.trackedFiles kept.1
    refine Eq.trans ?_ tables
    rw [after,processItem_started hasFile hasPair runs,bind_apply,after]
    cases ran : runAction io item.action (pair.operational w.disk) file (itemStarted item pair w) with
    | error message t => rfl
    | ok result t =>
      cases result with
      | error message => rfl
      | ok _ =>
        unfold finishItem
        simp only [plain,Bool.false_eq_true,if_false]
        rfl
  have ended : Db.SetsFlags flag w.db (after (processItem io item) w).db := by
    intro id
    rw [same]
    exact flags id
  exact mirrorSound_of_no_flip ended down

theorem processItem_mirrorSound_iff {io : Io} {item : SyncQueueItem} {file : TrackedFile} {pair : DrivePair}
    {w : World} (hasFile : w.db.getTrackedFile item.trackedFileId = .ok file)
    (hasPair : w.db.getDrivePair file.drivePairId = .ok pair) :
    MirrorSound w (after (processItem io item) w) ↔ ItemFlagSafe io item pair file w := by
  cases runs : itemSkipped item pair w.disk with
  | true =>
    have safe : ItemFlagSafe io item pair file w := by
      intro copy start
      simp [itemStart,runs] at start
    obtain ⟨flag,flags,down⟩ := setsFlags_operational w.db w.disk pair
    rw [after_of_ok (processItem_skipped hasFile hasPair runs)]
    exact ⟨fun _ => safe,fun _ => mirrorSound_of_no_flip flags down⟩
  | false =>
    cases mirroring : item.action.isMirroring with
    | true => exact processItem_mirrorSound_mirroring hasFile hasPair runs mirroring
    | false =>
      cases restores : rebuiltRole item.action with
      | some target => exact processItem_mirrorSound_restoring hasFile hasPair runs restores
      | none =>
        have plain : item.action.setsMirrored = false := by
          rw [SyncAction.setsMirrored_eq,mirroring,restores,Option.isSome_none,Bool.or_false]
        have none_starts : itemStart io item pair file w = none := by
          rw [itemStart,actionStart_plain plain,ite_self]
        refine ⟨fun _ copy start => ?_,fun _ => processItem_mirrorSound_other hasFile hasPair runs plain⟩
        rw [none_starts] at start
        cases start

/-- A copy of a file to the standby, entered in `w`, delivers the recorded content if
the file was not flagged yet. -/
def MirrorFlagSafe (io : Io) (pair : DrivePair) (file : TrackedFile) (w : World) : Prop :=
  ∀ copy, mirrorStart io pair file w = some copy → copy.completes io pair file = true →
    file.isMirrored = false → checksumBytes (copy.content io pair file) = file.checksum

theorem goodAt_left_standby {io : Io} {copy : CopyStart} {pair : DrivePair} {file : TrackedFile}
    (side : copy.target = pair.standbyRole) :
    GoodAt (copy.left io pair file).disk (pair.copyOn pair.standbyRole file.relativePath) file.checksum ↔
      checksumBytes (copy.content io pair file) = file.checksum := by
  rw [← side]
  exact goodAt_write _ _ _ _

/-- A direct mirror of one file: what `start` leaves of the flags only went down, and the
end of the operation flags the file after a completed copy and no file after a failure. -/
theorem mirrorSound_mirrored_iff {io : Io} {pair : DrivePair} {file : TrackedFile} {w started u : World}
    {flag : TrackedFile → Bool} (row : w.db.trackedFiles.find? file.id = some file)
    (flags : Db.SetsFlags flag w.db started.db) (down : ∀ old, flag old = true → old.isMirrored = true)
    (pairRow : started.db.drivePairs.find? file.drivePairId = some pair)
    (copied : ∀ digest t, mirrorFile io pair file.relativePath started = .ok digest t → t.db = started.db →
      u.disk = t.disk ∧ u.db.trackedFiles = (t.db.updateTrackedFileMirrorStatus file.id true).trackedFiles ∧
        u.db.drivePairs = t.db.drivePairs)
    (failed : ∀ message t, mirrorFile io pair file.relativePath started = .error message t → t.db = started.db →
      u.db.trackedFiles = t.db.trackedFiles) :
    MirrorSound w u ↔ MirrorFlagSafe io pair file started := by
  unfold MirrorFlagSafe
  rcases mirrorFile_cases io pair file started with ⟨copy,start,side,completes,kept,digest,ran⟩ | ⟨stopped,message,t,ran,kept⟩
  · obtain ⟨disk,tables,pairs⟩ := copied _ _ ran kept
    have raised := flags.trans (Db.setsFlags_updateTrackedFileMirrorStatus started.db file.id true)
    have ended : Db.SetsFlags _ w.db u.db := fun id => by rw [tables,kept]; exact raised id
    rw [mirrorSound_flagged_iff ended (fun old same => by simp [same])
      (fun old other up => down old (by simpa [other] using up)) row (by rw [pairs,kept]; exact pairRow),
      disk,goodAt_left_standby side,start]
    simp only [Option.some.injEq,forall_eq',completes,forall_const]
  · have ended : Db.SetsFlags flag w.db u.db := fun id => by rw [failed _ _ ran kept,kept]; exact flags id
    refine ⟨fun _ copy start completes => ?_,fun _ => mirrorSound_of_no_flip ended down⟩
    rw [stopped copy start] at completes
    cases completes

theorem mirrorFileRoute_mirrorSound_iff {io : Io} {id : Nat} {file : TrackedFile} {pair : DrivePair} {w : World}
    (hasFile : w.db.getTrackedFile id = .ok file) (hasPair : w.db.getDrivePair file.drivePairId = .ok pair) :
    MirrorSound w (after (mirrorFileRoute io id) w) ↔
      MirrorFlagSafe io (pair.operational w.disk) file { w with db := w.db.operational w.disk pair } := by
  have same : file.id = id := Table.find?_key (Db.getTrackedFile_ok.mp hasFile)
  have read : Act.query (fun db => db.getTrackedFile id) w = .ok file w := by simp only [Act.query,hasFile]
  obtain ⟨flag,flags,down⟩ := setsFlags_operational w.db w.disk pair
  have opened : after (mirrorFileRoute io id) w = after (do
      let _ ← mirrorFile io (pair.operational w.disk) file.relativePath
      Act.execute (fun db => db.updateTrackedFileMirrorStatus id true)
      Act.execute (fun db => db.completePendingMirrorQueueForFile id))
      { w with db := w.db.operational w.disk pair } := by
    unfold mirrorFileRoute
    rw [after_bind_of_ok read,after_bind_of_ok (loadOperationalPair_run hasPair)]
  rw [opened]
  refine mirrorSound_mirrored_iff (Db.find?_of_getTrackedFile hasFile) flags down (find?_operational hasPair w.disk) ?_ ?_
  · intro digest t ran kept
    rw [after_bind_of_ok ran,same]
    exact ⟨rfl,rfl,rfl⟩
  · intro message t ran kept
    rw [after_bind_of_error ran]

theorem mirrorFolderFile_mirrorSound_iff {io : Io} {file : TrackedFile} {pair : DrivePair} {w : World}
    (row : w.db.trackedFiles.find? file.id = some file)
    (pairRow : w.db.drivePairs.find? file.drivePairId = some pair) :
    MirrorSound w (after (mirrorFolderFile io pair file) w) ↔
      MirrorFlagSafe io pair file { w with db := w.db.startPendingMirrorQueueForFile file.id } := by
  have flags : Db.SetsFlags (fun old => old.isMirrored) w.db (w.db.startPendingMirrorQueueForFile file.id) :=
    Db.setsFlags_of_eq rfl
  refine mirrorSound_mirrored_iff row flags (fun _ up => up) pairRow ?_ ?_
  · intro digest t ran kept
    unfold mirrorFolderFile
    rw [after_bind_of_ok (Act.execute_apply _ _),after_bind_of_ok (attempt_of_ok ran)]
    exact ⟨rfl,rfl,rfl⟩
  · intro message t ran kept
    unfold mirrorFolderFile
    rw [after_bind_of_ok (Act.execute_apply _ _),after_bind_of_ok (attempt_of_error ran)]
    rfl

theorem recovery_mirrorSound {io : Io} {file : TrackedFile} {pair : DrivePair} {w : World}
    (row : w.db.trackedFiles.find? file.id = some file)
    (pairRow : w.db.drivePairs.find? file.drivePairId = some pair) (result : IntegrityCheckResult) :
    MirrorSound w (after (attemptRecoveryWithReconciliation io pair file result) w) := by
  unfold attemptRecoveryWithReconciliation
  rw [attemptRecovery_eq]
  cases recoveredRole pair result.status with
  | none => exact mirrorSound_of_no_flip (Db.setsFlags_of_eq rfl) (fun _ up => up)
  | some target =>
    rcases restoreSide_cases io pair file target w with ⟨copy,start,_,completes,same,kept,ran⟩ | ⟨_,message,t,ran,kept⟩
    · have ran : (do restoreSide io pair target file.relativePath file.checksum; pure true) w =
          .ok true (copy.left io pair file) := bind_of_ok ran _
      rw [after_bind_of_ok ran]
      change MirrorSound w { copy.left io pair file with
        db := ((copy.left io pair file).db.updateTrackedFileMirrorStatus file.id true
          ).completePendingMirrorQueueForFile file.id }
      rw [kept]
      have raised := Db.setsFlags_updateTrackedFileMirrorStatus w.db file.id true
      have ended : Db.SetsFlags (fun old => if old.id = file.id then true else old.isMirrored) w.db
          ((w.db.updateTrackedFileMirrorStatus file.id true).completePendingMirrorQueueForFile file.id) := raised
      refine (mirrorSound_flagged_iff (u := { copy.left io pair file with
        db := (w.db.updateTrackedFileMirrorStatus file.id true).completePendingMirrorQueueForFile file.id })
        ended ?_ ?_ row pairRow).mpr fun _ => goodAt_left (restoreStart_present start) completes same _
      · intro old same
        simp [same]
      · intro old other up
        simpa [other] using up
    · rw [after_bind_of_error (bind_of_error ran _)]
      have ended : Db.SetsFlags (fun old => old.isMirrored) w.db t.db := by
        rw [kept]
        exact Db.setsFlags_of_eq rfl
      exact mirrorSound_of_no_flip ended (fun _ up => up)

/-! Rows that were read earlier: a run goes through a page, and the thread of a folder through
its list, while other operations write the tables. -/

/-- The row as it is now was flagged already, or has a good standby copy in what the copy leaves. -/
def CopyStart.FlagsRightly (copy : CopyStart) (io : Io) (pair : DrivePair) (file : TrackedFile) (w : World) : Prop :=
  ∀ row, w.db.trackedFiles.find? file.id = some row → row.isMirrored = false →
    ∃ now, w.db.drivePairs.find? row.drivePairId = some now ∧
      let standby := now.copyOn now.standbyRole row.relativePath
      if standby = copy.dst pair file then checksumBytes (copy.content io pair file) = row.checksum
      else GoodAt copy.entry.disk standby row.checksum

def RecoveryFlagSafe (io : Io) (pair : DrivePair) (file : TrackedFile) (result : IntegrityCheckResult) (w : World) :
    Prop :=
  ∀ copy, recoveryStart io pair file result w = some copy → copy.completes io pair file = true →
    checksumBytes (copy.content io pair file) = file.checksum → copy.FlagsRightly io pair file w

def TurnFlagSafe (io : Io) (pair : DrivePair) (file : TrackedFile) (w : World) : Prop :=
  ∀ copy, mirrorStart io pair file { w with db := w.db.startPendingMirrorQueueForFile file.id } = some copy →
    copy.completes io pair file = true → copy.FlagsRightly io pair file w

theorem mirrorSound_left_iff {flag : TrackedFile → Bool} {io : Io} {copy : CopyStart} {pair : DrivePair}
    {file : TrackedFile} {w u : World} (flags : Db.SetsFlags flag w.db u.db)
    (own : ∀ old, old.id = file.id → flag old = true)
    (others : ∀ old, old.id ≠ file.id → flag old = true → old.isMirrored = true)
    (disk : u.disk = (copy.left io pair file).disk) (pairs : u.db.drivePairs = w.db.drivePairs) :
    MirrorSound w u ↔ copy.FlagsRightly io pair file w := by
  have left (now : DrivePair) (row : TrackedFile) : GoodAt u.disk (now.copyOn now.standbyRole row.relativePath) row.checksum ↔
      if now.copyOn now.standbyRole row.relativePath = copy.dst pair file then
        checksumBytes (copy.content io pair file) = row.checksum
      else GoodAt copy.entry.disk (now.copyOn now.standbyRole row.relativePath) row.checksum := by
    rw [disk,CopyStart.left,World.withDelivered]
    split
    · rename_i same
      rw [same]
      exact goodAt_write _ _ _ _
    · rename_i apart
      exact goodAt_write_other _ _ _ apart
  rw [mirrorSound_iff flags]
  constructor
  · intro sound row found down
    have same : row.id = file.id := Table.find?_key found
    rw [← same] at found
    obtain ⟨now,paired,good⟩ := sound row found down (own row same)
    exact ⟨now,pairs ▸ paired,(left now row).mp good⟩
  · intro right old found down up
    by_cases same : old.id = file.id
    · rw [same] at found
      obtain ⟨now,paired,good⟩ := right old found down
      exact ⟨now,pairs ▸ paired,(left now old).mpr good⟩
    · rw [others old same up] at down
      cases down

theorem recovery_mirrorSound_iff (io : Io) (pair : DrivePair) (file : TrackedFile) (result : IntegrityCheckResult)
    (w : World) :
    MirrorSound w (after (attemptRecoveryWithReconciliation io pair file result) w) ↔
      RecoveryFlagSafe io pair file result w := by
  unfold attemptRecoveryWithReconciliation RecoveryFlagSafe recoveryStart
  rw [attemptRecovery_eq]
  cases recoveredRole pair result.status with
  | none =>
    refine iff_of_true (mirrorSound_of_no_flip (Db.setsFlags_of_eq rfl) fun _ up => up) ?_
    intro copy start
    cases start
  | some target =>
    rw [Option.bind_some]
    rcases restoreSide_cases io pair file target w with
      ⟨copy,start,_,completes,same,kept,ran⟩ | ⟨stopped,message,t,ran,kept⟩
    · have ran : (do restoreSide io pair target file.relativePath file.checksum; pure true) w =
          .ok true (copy.left io pair file) := bind_of_ok ran _
      have raised : Db.SetsFlags (fun old => if old.id = file.id then true else old.isMirrored) w.db
          (((copy.left io pair file).db.updateTrackedFileMirrorStatus file.id true).completePendingMirrorQueueForFile
            file.id) := by
        rw [kept]
        exact Db.setsFlags_updateTrackedFileMirrorStatus w.db file.id true
      rw [after_bind_of_ok ran,start]
      simp only [Option.some.injEq,forall_eq',completes,same,forall_const]
      have pairs : (copy.left io pair file).db.drivePairs = w.db.drivePairs := by rw [kept]
      refine mirrorSound_left_iff raised ?_ ?_ rfl pairs
      · intro old own
        simp [own]
      · intro old other up
        simpa [other] using up
    · have ended : Db.SetsFlags (fun old => old.isMirrored) w.db t.db := by
        rw [kept]
        exact Db.setsFlags_of_eq rfl
      rw [after_bind_of_error (bind_of_error ran _)]
      refine iff_of_true (mirrorSound_of_no_flip ended fun _ up => up) ?_
      intro copy start completes same
      exact (stopped copy start ⟨completes,same⟩).elim

theorem folderTurn_mirrorSound_iff (io : Io) (pair : DrivePair) (file : TrackedFile) (w : World) :
    MirrorSound w (after (mirrorFolderFile io pair file) w) ↔ TurnFlagSafe io pair file w := by
  unfold mirrorFolderFile TurnFlagSafe
  rw [after_bind_of_ok (Act.execute_apply _ _)]
  rcases mirrorFile_cases io pair file { w with db := w.db.startPendingMirrorQueueForFile file.id } with
    ⟨copy,start,_,completes,kept,digest,ran⟩ | ⟨stopped,message,t,ran,kept⟩
  · have raised : Db.SetsFlags (fun old => if old.id = file.id then true else old.isMirrored) w.db
        (((copy.left io pair file).db.updateTrackedFileMirrorStatus file.id true).completePendingMirrorQueueForFile
          file.id) := by
      rw [kept]
      exact Db.setsFlags_updateTrackedFileMirrorStatus w.db file.id true
    rw [after_bind_of_ok (attempt_of_ok ran),start]
    simp only [Option.some.injEq,forall_eq',completes,forall_const]
    have pairs : (copy.left io pair file).db.drivePairs = w.db.drivePairs := by rw [kept]; rfl
    refine mirrorSound_left_iff raised ?_ ?_ rfl pairs
    · intro old own
      simp [own]
    · intro old other up
      simpa [other] using up
  · have ended : Db.SetsFlags (fun old => old.isMirrored) w.db (t.db.failPendingMirrorQueueForFile file.id message) := by
      rw [kept]
      exact Db.setsFlags_of_eq rfl
    rw [after_bind_of_ok (attempt_of_error ran)]
    refine iff_of_true (mirrorSound_of_no_flip ended fun _ up => up) ?_
    intro copy start completes
    rw [stopped copy start] at completes
    cases completes

/-! The thread of a folder mirror, one file's turn after the other. -/

/-- The turns of the thread: the world before each, and its file. -/
def folderTurns (io : Io) (pair : DrivePair) (folderId : Nat) : Nat → List TrackedFile → World → List (World × TrackedFile)
  | _, [], _ => []
  | processed, file::files, w => (w,file)::folderTurns io pair folderId (processed + 1) files
      (after (do
        mirrorFolderFile io pair file
        Act.execute (fun db => db.updateMirrorProgress folderId (processed + 1))) w)

theorem mirrorFolderFile_frame (io : Io) (pair : DrivePair) (file : TrackedFile) (w : World) :
    (after (mirrorFolderFile io pair file) w).db.drivePairs = w.db.drivePairs ∧
      ∀ id, id ≠ file.id → (after (mirrorFolderFile io pair file) w).db.trackedFiles.find? id =
        w.db.trackedFiles.find? id := by
  unfold mirrorFolderFile
  rw [after_bind_of_ok (Act.execute_apply _ _)]
  rcases mirrorFile_cases io pair file { w with db := w.db.startPendingMirrorQueueForFile file.id } with
    ⟨copy,_,_,_,kept,digest,ran⟩ | ⟨_,message,t,ran,kept⟩
  · rw [after_bind_of_ok (attempt_of_ok ran)]
    change ((copy.left io pair file).db.updateTrackedFileMirrorStatus file.id true).drivePairs = _ ∧
      ∀ id, id ≠ file.id →
        ((copy.left io pair file).db.updateTrackedFileMirrorStatus file.id true).trackedFiles.find? id = _
    rw [kept]
    refine ⟨rfl,fun id other => ?_⟩
    rw [Db.updateTrackedFileMirrorStatus,Db.find?_updateTrackedFile]
    simp only [other,if_false,Option.map_id']
    rfl
  · rw [after_bind_of_ok (attempt_of_error ran)]
    change t.db.drivePairs = _ ∧ ∀ id, id ≠ file.id → t.db.trackedFiles.find? id = _
    rw [kept]
    exact ⟨rfl,fun _ _ => rfl⟩

theorem mirrorFolderFile_progress (io : Io) (pair : DrivePair) (file : TrackedFile) (update : Db → Db) (w : World) :
    after (do mirrorFolderFile io pair file; Act.execute update) w =
      { after (mirrorFolderFile io pair file) w with
        db := update (after (mirrorFolderFile io pair file) w).db } := by
  cases ran : mirrorFolderFile io pair file w with
  | ok _ t => rw [after_bind_of_ok ran,after_of_ok ran]; rfl
  | error message t =>
    -- The turn attempts its copy and then only executes updates.
    unfold mirrorFolderFile at ran
    rw [bind_of_ok (Act.execute_apply _ _)] at ran
    cases copied : mirrorFile io pair file.relativePath
        { w with db := w.db.startPendingMirrorQueueForFile file.id } with
    | ok digest u =>
      rw [bind_of_ok (attempt_of_ok copied)] at ran
      cases ran
    | error other u =>
      rw [bind_of_ok (attempt_of_error copied)] at ran
      cases ran

theorem folderTurns_rows (io : Io) (pair : DrivePair) (folderId processed : Nat) (files : List TrackedFile) (w : World)
    (rows : ∀ file ∈ files, w.db.trackedFiles.find? file.id = some file ∧
      w.db.drivePairs.find? file.drivePairId = some pair)
    (distinct : files.Pairwise (fun a b => a.id < b.id)) :
    ∀ turn ∈ folderTurns io pair folderId processed files w,
      turn.1.db.trackedFiles.find? turn.2.id = some turn.2 ∧
        turn.1.db.drivePairs.find? turn.2.drivePairId = some pair := by
  induction files generalizing processed w with
  | nil => simp [folderTurns]
  | cons file files ih =>
    obtain ⟨first,distinct⟩ := List.pairwise_cons.mp distinct
    intro turn member
    rcases List.mem_cons.mp member with rfl | later
    · exact rows file (by simp)
    · refine ih (processed + 1) _ ?_ distinct turn later
      intro other queued
      obtain ⟨row,pairRow⟩ := rows other (by simp [queued])
      obtain ⟨pairs,others⟩ := mirrorFolderFile_frame io pair file w
      rw [mirrorFolderFile_progress]
      have apart : other.id ≠ file.id := Nat.ne_of_gt (first other queued)
      exact ⟨(others _ apart).trans row,(congrArg (fun table => table.find? other.drivePairId) pairs).trans pairRow⟩

omit [Blake3] in
theorem startMirrorFolder_rows {folderId : Nat} {w t : World} {pair : DrivePair} {files : List TrackedFile}
    (started : startMirrorFolder folderId w = .ok (pair,files) t) :
    (∀ file ∈ files, t.db.trackedFiles.find? file.id = some file ∧
      t.db.drivePairs.find? file.drivePairId = some pair) ∧
    files.Pairwise (fun a b => a.id < b.id) := by
  unfold startMirrorFolder at started
  obtain ⟨folder,a,readFolder,rest⟩ := bind_success started
  obtain ⟨now,b,loaded,rest'⟩ := bind_success rest
  obtain ⟨_,c,looked,rest⟩ := bind_success rest'
  obtain ⟨_,d,ensured,rest'⟩ := bind_success rest
  obtain ⟨listed,e,readFiles,rest⟩ := bind_success rest'
  obtain ⟨_,f,inserted,ended⟩ := bind_success rest
  obtain ⟨before,hasPair,operational,loadedWorld⟩ := loadOperationalPair_success loaded
  have sameLooked := (Act.look_success looked).2
  have sameEnsured := (Act.ensure_success ensured).2
  obtain ⟨listing,sameListed⟩ := Act.query_success readFiles
  have insertedWorld := Act.insertOrFail_success inserted
  have worlds : d = b := sameEnsured.trans sameLooked
  cases ended
  cases listing
  rw [worlds] at sameListed
  subst sameListed
  have pairRow := find?_operational hasPair a.disk
  have same : before.id = folder.drivePairId := Table.find?_key (Db.getDrivePair_ok.mp hasPair)
  constructor
  · intro file queued
    obtain ⟨under,_⟩ := List.mem_filter.mp queued
    obtain ⟨row,member⟩ := Db.mem_listTrackedFilesOfPair.mp (List.mem_filter.mp under).1
    obtain ⟨pairs,files⟩ := Db.startFolderMirror_frame e.db folder.id
      ((d.db.listTrackedFilesUnderFolder pair.id folder.folderPath).filter (fun file => !file.isMirrored)).length
    rw [worlds] at row
    rw [insertedWorld]
    refine ⟨(congrArg (fun table => table.find? file.id) files).trans row,?_⟩
    refine (congrArg (fun table => table.find? file.drivePairId) pairs).trans ?_
    rw [member,operational,DrivePair.operational_id,same,loadedWorld]
    exact pairRow
  · exact ((Table.ascending _).filter _).filter _ |>.filter _

/-- Exactly when the operations that raise mirror flags raise them rightly. A folder mirror is
judged at each of its turns, and a recovery of the row as it is now is right; both are judged
again where pair and row are an earlier read's and the tables may have changed since. -/
theorem mirrorFlag_sound_iff (io : Io) (w : World) (file : TrackedFile) (pair : DrivePair)
    (hasFile : w.db.getTrackedFile file.id = .ok file) (hasPair : w.db.getDrivePair file.drivePairId = .ok pair) :
    (∀ item : SyncQueueItem, item.trackedFileId = file.id →
      (MirrorSound w (after (processItem io item) w) ↔ ItemFlagSafe io item pair file w)) ∧
    (MirrorSound w (after (mirrorFileRoute io file.id) w) ↔
      MirrorFlagSafe io (pair.operational w.disk) file { w with db := w.db.operational w.disk pair }) ∧
    (∀ folderId now files t, startMirrorFolder folderId w = .ok (now,files) t →
      ∀ turn ∈ folderTurns io now folderId 0 files t,
        (MirrorSound turn.1 (after (mirrorFolderFile io now turn.2) turn.1) ↔
          MirrorFlagSafe io now turn.2
            { turn.1 with db := turn.1.db.startPendingMirrorQueueForFile turn.2.id })) ∧
    (∀ result, MirrorSound w (after (attemptRecoveryWithReconciliation io pair file result) w)) ∧
    ∀ (earlier : DrivePair) (stale : TrackedFile) (t : World),
      (∀ result, MirrorSound t (after (attemptRecoveryWithReconciliation io earlier stale result) t) ↔
        RecoveryFlagSafe io earlier stale result t) ∧
      (MirrorSound t (after (mirrorFolderFile io earlier stale) t) ↔ TurnFlagSafe io earlier stale t) := by
  refine ⟨?_,mirrorFileRoute_mirrorSound_iff hasFile hasPair,?_,?_,fun earlier stale t =>
    ⟨fun result => recovery_mirrorSound_iff io earlier stale result t,folderTurn_mirrorSound_iff io earlier stale t⟩⟩
  · intro item own
    rw [← own] at hasFile
    exact processItem_mirrorSound_iff hasFile hasPair
  · intro folderId now files t started turn member
    obtain ⟨rows,distinct⟩ := startMirrorFolder_rows started
    obtain ⟨row,pairRow⟩ := folderTurns_rows io now folderId 0 files t rows distinct turn member
    exact mirrorFolderFile_mirrorSound_iff row pairRow
  · intro result
    exact recovery_mirrorSound (Db.find?_of_getTrackedFile hasFile) (Db.getDrivePair_ok.mp hasPair) result

end

theorem mirrorFlag_sound_iff_corrupted :
    letI := sampleBlake3
    (MirrorSound corruptedWorld (after (processItem Io.healthy corruptedItem) corruptedWorld) ↔
      ItemFlagSafe Io.healthy corruptedItem corruptedPair corruptedFile corruptedWorld) ∧
    ∀ result, MirrorSound corruptedWorld
      (after (attemptRecoveryWithReconciliation Io.healthy corruptedPair corruptedFile result) corruptedWorld) :=
  letI := sampleBlake3
  have at_corrupted := mirrorFlag_sound_iff Io.healthy corruptedWorld corruptedFile corruptedPair (by rfl) (by rfl)
  ⟨at_corrupted.1 corruptedItem rfl,at_corrupted.2.2.2.1⟩

/-- The worker mirrors an active copy that no longer is the recorded one, and the row
ends as mirrored over a standby copy that does not hash to its checksum. -/
theorem mirror_flags_unrecorded_content :
    ¬ ∀ (_ : Blake3) (io : Io) (w : World) (item : SyncQueueItem) (file : TrackedFile) (pair : DrivePair),
      w.db.getTrackedFile item.trackedFileId = .ok file → w.db.getDrivePair file.drivePairId = .ok pair →
      MirrorSound w (after (processItem io item) w) := by
  intro sound
  let _ := sampleBlake3
  obtain ⟨pair,found,node,present,_,same⟩ := sound sampleBlake3 Io.healthy corruptedWorld corruptedItem
    corruptedFile corruptedPair (by rfl) (by rfl) 1 corruptedFile { corruptedFile with isMirrored := true }
    (by decide) rfl (by decide) rfl
  have row : (after (processItem Io.healthy corruptedItem) corruptedWorld).db.drivePairs.find?
      corruptedFile.drivePairId = some corruptedPair := by decide
  have left : (after (processItem Io.healthy corruptedItem) corruptedWorld).disk.node
      (corruptedPair.copyOn corruptedPair.standbyRole corruptedFile.relativePath) = some ⟨[1],none⟩ := by decide
  have pairs := found.symm.trans row
  cases pairs
  have nodes := present.symm.trans left
  cases nodes
  exact absurd same (by decide)

end BitProtector
