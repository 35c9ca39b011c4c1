import BitProtector.StandbyAway

/-! What a call of a drain leaves on such a pair: the item fails or stays in progress while the standby is away, and
closes with a copy of whatever the active side has. -/
namespace BitProtector.AwayDrains
open Effect ScanStates StandbyAway

section
variable [Blake3] {pair : DrivePair}

/-! What a step may touch. -/

omit [Blake3] in
/-- The files that were there stay as they are, but for the touched ones. -/
structure Leaves (pair : DrivePair) (touched : Location → Prop) (before later : Disk) : Prop where
  root : later.available pair.standbyPath = before.available pair.standbyPath
  nodes : ∀ path node, ¬touched path → before.node path = some node → later.node path = some node

omit [Blake3] in
theorem leaves_same {touched : Location → Prop} {before later : Disk} (same : later = before) :
    Leaves pair touched before later := by
  subst same
  exact ⟨rfl,fun _ _ _ found => found⟩

theorem hashes_later {touched : Location → Prop} {s : Field} {t : World} {path checksum : String}
    (leaves : Leaves pair touched s.world.disk t.disk) (spared : ¬touched (pair.copyOn pair.standbyRole path))
    (hashes : Hashes (standbyNode pair s path) checksum) : Hashes (standbyNode pair ⟨t,s.shelf⟩ path) checksum := by
  obtain ⟨node,found,rest⟩ := hashes
  refine ⟨node,?_,rest⟩
  unfold standbyNode at found ⊢
  cases shelf : s.shelf with
  | none =>
    rw [shelf] at found
    exact leaves.nodes _ _ spared found
  | some files =>
    rw [shelf] at found
    exact found

theorem differs_later {touched : Location → Prop} {before later : Disk} {path checksum : String}
    (leaves : Leaves pair touched before later) (spared : ¬touched (pair.copyOn pair.activeRole path))
    (differs : Differs pair before path checksum) : Differs pair later path checksum := by
  obtain ⟨⟨node,found⟩,bad⟩ := differs
  have stays := leaves.nodes _ _ spared found
  refine ⟨⟨node,stays⟩,fun good => bad ?_⟩
  obtain ⟨other,there,rest⟩ := good
  cases stays.symm.trans there
  exact ⟨node,found,rest⟩

omit [Blake3] in
/-- Files keep what they are recorded as, and items stay open but for those of the file `closing`. -/
structure Handled (closing : Option Nat) (db next : Db) : Prop where
  pairs : next.drivePairs = db.drivePairs
  lastId : next.trackedFiles.lastId = db.trackedFiles.lastId
  files : ∃ change : TrackedFile → TrackedFile, next.trackedFiles.rows = db.trackedFiles.rows.map change ∧
    ∀ file, (change file).id = file.id ∧ (change file).drivePairId = file.drivePairId ∧
      (change file).relativePath = file.relativePath ∧ (change file).checksum = file.checksum
  queue : ∃ tick : SyncQueueItem → SyncQueueItem, next.syncQueue.rows = db.syncQueue.rows.map tick ∧
    ∀ item ∈ db.syncQueue.rows, (tick item).trackedFileId = item.trackedFileId ∧ (tick item).action = item.action ∧
      (closing ≠ some item.trackedFileId → item.status ≠ .completed → (tick item).status ≠ .completed)

omit [Blake3] in
theorem handled_refl (closing : Option Nat) (db : Db) : Handled closing db db :=
  ⟨rfl,rfl,⟨id,(List.map_id _).symm,fun _ => ⟨rfl,rfl,rfl,rfl⟩⟩,⟨id,(List.map_id _).symm,fun _ _ => ⟨rfl,rfl,fun _ => id⟩⟩⟩

omit [Blake3] in
theorem Handled.trans {closing : Option Nat} {db next last : Db} (first : Handled closing db next)
    (second : Handled closing next last) : Handled closing db last := by
  obtain ⟨change,rows,keeps⟩ := first.files
  obtain ⟨again,rows',keeps'⟩ := second.files
  obtain ⟨tick,items,ticks⟩ := first.queue
  obtain ⟨tock,items',tocks⟩ := second.queue
  refine ⟨second.pairs.trans first.pairs,second.lastId.trans first.lastId,⟨again ∘ change,?_,fun file => ?_⟩,
    ⟨tock ∘ tick,?_,fun item member => ?_⟩⟩
  · rw [rows',rows,List.map_map]
  · obtain ⟨id,own,path,checksum⟩ := keeps file
    obtain ⟨id',own',path',checksum'⟩ := keeps' (change file)
    exact ⟨id'.trans id,own'.trans own,path'.trans path,checksum'.trans checksum⟩
  · rw [items',items,List.map_map]
  · obtain ⟨file,action,opened⟩ := ticks item member
    obtain ⟨file',action',opened'⟩ := tocks (tick item) (items ▸ List.mem_map_of_mem member)
    refine ⟨file'.trans file,action'.trans action,fun apart awaits => opened' ?_ (opened apart awaits)⟩
    rw [file]
    exact apart

omit [Blake3] in
theorem handled_update (closing : Option Nat) (db : Db) (id : Nat) (change : TrackedFile → TrackedFile) (keepsId)
    (keeps : ∀ file, (change file).drivePairId = file.drivePairId ∧ (change file).relativePath = file.relativePath ∧
      (change file).checksum = file.checksum) : Handled closing db (db.updateTrackedFile id change keepsId) := by
  refine ⟨rfl,rfl,⟨fun file => if file.id == id then change file else file,rfl,fun file => ?_⟩,(handled_refl closing db).queue⟩
  dsimp only
  split
  · exact ⟨keepsId file,keeps file⟩
  · exact ⟨rfl,rfl,rfl,rfl⟩

omit [Blake3] in
theorem handled_queue {closing : Option Nat} {db : Db} {p : SyncQueueItem → Bool} {status : SyncStatus} (message : Option String)
    (closes : status = .completed → ∀ item ∈ db.syncQueue.rows, p item = true → closing = some item.trackedFileId) :
    Handled closing db (db.updateQueueWhere p status message) := by
  refine ⟨rfl,rfl,(handled_refl closing db).files,
    ⟨fun item => if p item then { item with status,errorMessage := message } else item,rfl,fun item member => ?_⟩⟩
  dsimp only
  split
  · rename_i taken
    refine ⟨rfl,rfl,fun apart _ completed => apart (closes completed item member taken)⟩
  · exact ⟨rfl,rfl,fun _ => id⟩

omit [Blake3] in
theorem awaited_handled {closing : Option Nat} {db next : Db} {fileId : Nat} (handled : Handled closing db next)
    (apart : closing ≠ some fileId) (awaited : Awaited db fileId) : Awaited next fileId := by
  obtain ⟨item,member,own,opened⟩ := awaited
  obtain ⟨tick,items,ticks⟩ := handled.queue
  obtain ⟨file,_,stays⟩ := ticks item member
  refine ⟨tick item,items ▸ List.mem_map_of_mem member,file.trans own,stays ?_ opened⟩
  rw [own]
  exact apart

theorem holds_handled {hole : Option Nat} {touched : Location → Prop} {s : Field} {t : World} (holds : Holds pair hole s)
    (handled : Handled hole s.world.db t.db) (leaves : Leaves pair touched s.world.disk t.disk)
    (spared : ∀ file ∈ s.world.db.trackedFiles.rows, file.drivePairId = pair.id → hole ≠ some file.id →
      ∀ role, ¬touched (pair.copyOn role file.relativePath)) : Holds pair hole ⟨t,s.shelf⟩ := by
  obtain ⟨change,rows,keeps⟩ := handled.files
  obtain ⟨tick,items,ticks⟩ := handled.queue
  have back {file : TrackedFile} (present : file ∈ t.db.trackedFiles.rows) :
      ∃ old ∈ s.world.db.trackedFiles.rows, change old = file := by
    rw [rows] at present
    exact List.mem_map.mp present
  refine ⟨?_,?_,leaves.root.trans holds.root,fun item listed file present own pairs => ?_,fun file present own apart => ?_⟩
  · rw [handled.pairs]
    exact holds.row
  · refine sound_of_rows holds.sound rows (fun file => ⟨(keeps file).2.1,(keeps file).2.2.1⟩) fun item listed => ?_
    rw [items] at listed
    obtain ⟨old,member,rfl⟩ := List.mem_map.mp listed
    rw [(ticks old member).1,handled.lastId]
    exact holds.sound.refs old member
  · obtain ⟨old,member,rfl⟩ := back present
    change item ∈ t.db.syncQueue.rows at listed
    rw [items] at listed
    obtain ⟨asked,row,rfl⟩ := List.mem_map.mp listed
    obtain ⟨same,action,_⟩ := ticks asked row
    obtain ⟨id,pairId,_⟩ := keeps old
    have routine := holds.routine asked row old member (same.symm.trans (own.trans id)) (pairId.symm.trans pairs)
    unfold Routine at routine ⊢
    rwa [action]
  · obtain ⟨old,member,rfl⟩ := back present
    obtain ⟨id,pairId,path,checksum⟩ := keeps old
    have outside : hole ≠ some old.id := by rw [← id]; exact apart
    have apart_ := spared old member (pairId.symm.trans own) outside
    unfold Safe Remembered
    rw [path,checksum,id]
    refine (holds.safe old member (pairId.symm.trans own) outside).imp (Or.imp (hashes_later leaves (apart_ _))
      (awaited_handled handled outside)) (differs_later leaves (apart_ _))

theorem holds_rows {hole : Option Nat} {s : Field} {t : World} (holds : Holds pair hole s)
    (handled : Handled hole s.world.db t.db) (disk : t.disk = s.world.disk) : Holds pair hole ⟨t,s.shelf⟩ := by
  have leaves : Leaves pair (fun _ => False) s.world.disk t.disk := leaves_same disk
  exact holds_handled holds handled leaves fun _ _ _ _ _ => id

/-! One call of a drain. -/

omit [Blake3] in
theorem accepts_eq (active : ∀ role, pair.roleState role = .active) (disk : Disk) :
    pair.standbyAcceptsSync disk = disk.available pair.standbyPath := by
  rw [DrivePair.standbyAcceptsSync,active]
  rfl

theorem mirrorFile_refused (io : Io) (path : String) {w : World} (refuses : pair.standbyAcceptsSync w.disk = false) :
    ∃ message, mirrorFile io pair path w = .error message w := by
  unfold mirrorFile prepareMirror
  rw [bind_of_error]
  · exact ⟨_,rfl⟩
  · rw [bind_of_ok (Act.look_apply _ _),refuses]
    exact bind_of_error (Act.ensure_false _ _) _

theorem runAction_refused (io : Io) {action : SyncAction} (mirroring : action.isMirroring = true) (file : TrackedFile) {w : World}
    (away : w.disk.available pair.standbyPath = false) : (∃ message, runAction io action pair file w = .error message w) ∨
      ∃ message, runAction io action pair file w = .ok (.error message) w := by
  have refuses : pair.standbyAcceptsSync w.disk = false := by rw [DrivePair.standbyAcceptsSync,away,Bool.and_false]
  obtain ⟨message,failed⟩ := mirrorFile_refused io file.relativePath refuses
  cases action with
  | mirror =>
    rw [runAction_mirror]
    exact .inr ⟨message,attempt_of_error (bind_of_error failed _)⟩
  | adoptMirror =>
    have copies : adoption io pair file w.disk = .copied := by
      rw [adoption,away,Bool.false_and]
      rfl
    have adopted := adoptMirror_run io pair file w
    rw [copies] at adopted
    rw [runAction_adoptMirror]
    exact .inl ⟨message,bind_of_error (adopted.trans (bind_of_error failed _)) _⟩
  | restoreMaster => cases mirroring
  | restoreMirror => cases mirroring
  | verify => cases mirroring
  | userActionRequired => cases mirroring
  | other text => cases mirroring

theorem mirrorFile_leaves (io : Io) (file : TrackedFile) {w : World} (there : w.disk.available pair.standbyPath = true) :
    Leaves pair (fun path => path = pair.copyOn pair.standbyRole file.relativePath) w.disk
      (after (mirrorFile io pair file.relativePath) w).disk := by
  have outcome := mirrorFile_outcome io pair file w
  constructor
  · rw [there]
    exact (RootMarkers.marking_mirrorFile io pair file.relativePath w).available _ there
  · intro path node apart found
    cases start : mirrorStart io pair file w with
    | none =>
      rw [start] at outcome
      exact outcome.2 path node found
    | some copy =>
      have side : copy.target = pair.standbyRole := by
        obtain ⟨_,_,rfl⟩ := Option.map_eq_some_iff.mp start
        rfl
      have place : copy.dst pair file = pair.copyOn pair.standbyRole file.relativePath := by rw [CopyStart.dst,side]
      rw [start] at outcome
      obtain ⟨kept,left | ⟨left,_⟩⟩ := outcome
      · rw [left,World.withDelivered,place]
        exact (Disk.write_other _ _ apart).trans (kept.2 path node found)
      · rw [left,place]
        exact (Disk.remove_other _ apart).trans (kept.2 path node found)

theorem runAction_leaves (io : Io) {action : SyncAction} (mirroring : action.isMirroring = true) (file : TrackedFile) {w : World}
    (there : w.disk.available pair.standbyPath = true) :
    Leaves pair (fun path => path = pair.copyOn pair.standbyRole file.relativePath) w.disk
      (after (runAction io action pair file) w).disk := by
  have copies := mirrorFile_leaves io file there
  cases action with
  | mirror =>
    rw [runAction_mirror,after_attempt,after_discard]
    exact copies
  | adoptMirror =>
    rw [runAction_adoptMirror,after_bind_of_still (fun _ _ => rfl),adoptMirror_after]
    cases adoption io pair file w.disk with
    | copied => exact copies
    | taken => exact leaves_same rfl
    | unreadable => exact leaves_same rfl
  | restoreMaster => cases mirroring
  | restoreMirror => cases mirroring
  | verify => cases mirroring
  | userActionRequired => cases mirroring
  | other text => cases mirroring

/-- The source of a mirroring is there, and it is what arrives. -/
theorem mirrorStart_source {io : Io} {action : SyncAction} (mirroring : action.isMirroring = true) {file : TrackedFile}
    {w : World}
    {copy : CopyStart} (start : actionStart io action pair file w = some copy) :
    copy.entry.disk.exists? (copy.src pair file) = true := by
  have entered : mirrorStart io pair file w = some copy := by
    cases action with
    | mirror => exact start
    | adoptMirror =>
      unfold actionStart at start
      cases adopts : adoption io pair file w.disk with
      | copied =>
        rw [adopts] at start
        exact start
      | taken =>
        rw [adopts] at start
        cases start
      | unreadable =>
        rw [adopts] at start
        cases start
    | restoreMaster => cases mirroring
    | restoreMirror => cases mirroring
    | verify => cases mirroring
    | userActionRequired => cases mirroring
    | other text => cases mirroring
  obtain ⟨t,entry,rfl⟩ := Option.map_eq_some_iff.mp entered
  have enters := (copyEntry_some entry).2
  simp only [entersCopy,Bool.and_eq_true] at enters
  have source : CopyStart.src ⟨t,pair.standbyRole⟩ pair file = pair.copyOn pair.activeRole file.relativePath := by
    simp [CopyStart.src,DrivePair.standbyRole]
  rw [source]
  exact enters.1.1

theorem runAction_settles (apart : pair.activePath ≠ pair.standbyPath) {io : Io} {action : SyncAction}
    (mirroring : action.isMirroring = true) {file : TrackedFile} {w t : World}
    (ran : runAction io action pair file w = .ok (.ok ()) t) :
    GoodAt t.disk (pair.copyOn pair.standbyRole file.relativePath) file.checksum ∨
      Differs pair t.disk file.relativePath file.checksum := by
  rcases mirroringAction_cases io mirroring pair file w with
    ⟨copy,start,side,completes,_,copied⟩ | ⟨_,taken,good⟩ | ⟨_,u,_,⟨message,failed⟩ | ⟨message,failed⟩⟩
  · cases ran.symm.trans copied
    have present := mirrorStart_source mirroring start
    by_cases same : checksumBytes (copy.content io pair file) = file.checksum
    · exact .inl (goodAt_left present completes same pair.standbyRole)
    · right
      obtain ⟨node,found⟩ := Option.isSome_iff_exists.mp present
      have source : copy.src pair file = pair.copyOn pair.activeRole file.relativePath := by
        rw [CopyStart.src,side]
        simp [DrivePair.standbyRole]
      have differs : copy.src pair file ≠ copy.dst pair file := by
        rw [source,CopyStart.dst,side]
        exact fun equal => apart (congrArg Location.root equal)
      have stays : (copy.left io pair file).disk.node (pair.copyOn pair.activeRole file.relativePath) = some node := by
        rw [← source]
        exact (Disk.write_other _ _ differs).trans found
      refine ⟨⟨node,stays⟩,?_⟩
      rintro ⟨other,there,_,good⟩
      cases stays.symm.trans there
      have arrived := arrives_of_completes completes
      have bytes := delivered_of_arrives arrived
      have read : copySource copy.entry.disk (copy.src pair file) (copy.dst pair file) = node := by
        rw [copySource,Disk.write_other _ _ differs,found]
        rfl
      rw [read] at bytes
      exact same (by rw [CopyStart.content,bytes,good])
  · cases ran.symm.trans taken
    exact .inl good
  · cases ran.symm.trans failed
  · cases ran.symm.trans failed

omit [Blake3] in
theorem Handled.row {closing : Option Nat} {db next : Db} (handled : Handled closing db next) {file now : TrackedFile}
    (present : file ∈ db.trackedFiles.rows) (there : now ∈ next.trackedFiles.rows) (same : now.id = file.id) :
    now.relativePath = file.relativePath ∧ now.checksum = file.checksum := by
  obtain ⟨change,rows,keeps⟩ := handled.files
  rw [rows] at there
  obtain ⟨old,member,rfl⟩ := List.mem_map.mp there
  obtain ⟨id,_,path,checksum⟩ := keeps old
  obtain rfl : old = file := Table.key_injective _ member present (id.symm.trans same)
  exact ⟨path,checksum⟩

omit [Blake3] in
theorem apart_of_sound {s : Field} (sound : Sound s.world.db) {file other : TrackedFile}
    (present : file ∈ s.world.db.trackedFiles.rows) (own : file.drivePairId = pair.id)
    (member : other ∈ s.world.db.trackedFiles.rows) (pairs : other.drivePairId = pair.id)
    (differs : some file.id ≠ some other.id) (role side : DriveRole) :
    pair.copyOn role other.relativePath ≠ pair.copyOn side file.relativePath := by
  intro equal
  have path : other.relativePath = file.relativePath := congrArg Location.relativePath equal
  rw [sound.paths other member file present (pairs.trans own.symm) path] at differs
  exact differs rfl

theorem runAction_holds (io : Io) {action : SyncAction} (mirroring : action.isMirroring = true) {s : Field} {file : TrackedFile}
    (holds : Holds pair (some file.id) s) (present : file ∈ s.world.db.trackedFiles.rows) (own : file.drivePairId = pair.id) :
    Holds pair (some file.id) (s.act (runAction io action pair file)) := by
  have kept : (after (runAction io action pair file) s.world).db = s.world.db := dbKept_runAction io action pair file s.world
  have leaves : Leaves pair (fun path => path = pair.copyOn pair.standbyRole file.relativePath) s.world.disk
      (after (runAction io action pair file) s.world).disk := by
    cases there : s.world.disk.available pair.standbyPath with
    | true => exact runAction_leaves io mirroring file there
    | false =>
      apply leaves_same
      rcases runAction_refused io mirroring file there with ⟨message,failed⟩ | ⟨message,failed⟩
      · rw [after_of_error failed]
      · rw [after_of_ok failed]
  refine holds_handled holds ?_ leaves fun other member pairs differs role => ?_
  · rw [kept]
    exact handled_refl _ _
  · exact apart_of_sound holds.sound present own member pairs differs role pair.standbyRole

/-- The row with the id goes through `process_item`. -/
def processRow (io : Io) (itemId : Nat) : Act Unit := do
  let item ← Act.query (fun db => db.getSyncQueueItem itemId)
  processItem io item

omit [Blake3] in
/-- The item, if there is one, is for a file of the pair. -/
def ItemOf (pair : DrivePair) (itemId : Nat) (db : Db) : Prop :=
  ∀ item, db.syncQueue.find? itemId = some item → ∀ file, db.trackedFiles.find? item.trackedFileId = some file →
    file.drivePairId = pair.id

omit [Blake3] in
theorem Handled.closing {db next : Db} (handled : Handled none db next) (closing : Option Nat) : Handled closing db next := by
  obtain ⟨tick,items,ticks⟩ := handled.queue
  refine { handled with queue := ⟨tick,items,fun item member => ?_⟩ }
  obtain ⟨file,action,opened⟩ := ticks item member
  exact ⟨file,action,fun _ => opened (Option.some_ne_none _).symm⟩

omit [Blake3] in
theorem Handled.stays {closing : Option Nat} {db next : Db} (handled : Handled closing db next) {file : TrackedFile}
    (present : file ∈ db.trackedFiles.rows) : ∃ now ∈ next.trackedFiles.rows, now.id = file.id := by
  obtain ⟨change,rows,keeps⟩ := handled.files
  exact ⟨change file,rows ▸ List.mem_map_of_mem present,(keeps file).1⟩

omit [Blake3] in
theorem handled_status {closing : Option Nat} (db : Db) (itemId : Nat) {status : SyncStatus} (message : Option String)
    (opened : status ≠ .completed) : Handled closing db (db.updateSyncQueueStatus itemId status message) :=
  handled_queue message fun completed => absurd completed opened

omit [Blake3] in
theorem handled_finished {db : Db} {item : SyncQueueItem} {file : TrackedFile} (row : item ∈ db.syncQueue.rows)
    (own : item.trackedFileId = file.id) : Handled (some file.id) db (itemFinished item file db) := by
  have completes : Handled (some file.id) db (db.updateSyncQueueStatus item.id .completed none) := by
    refine handled_queue none fun _ other member taken => ?_
    rw [Table.key_injective _ member row (beq_iff_eq.mp taken),own]
  let flagged (other : TrackedFile) : TrackedFile := { other with isMirrored := true }
  have flags : Handled (some file.id) (db.updateSyncQueueStatus item.id .completed none) (itemFinished item file db) :=
    handled_update _ _ file.id flagged (fun _ => rfl) fun _ => ⟨rfl,rfl,rfl⟩
  exact completes.trans flags

omit [Blake3] in
theorem awaited_status (db : Db) {item : SyncQueueItem} (row : item ∈ db.syncQueue.rows) {status : SyncStatus}
    (message : Option String) (opened : status ≠ .completed) :
    Awaited (db.updateSyncQueueStatus item.id status message) item.trackedFileId := by
  refine ⟨{ item with status,errorMessage := message },List.mem_map.mpr ⟨item,row,?_⟩,rfl,opened⟩
  exact if_pos (beq_self_eq_true _)

theorem finished_holds {s : Field} {item : SyncQueueItem} {file : TrackedFile} (holds : Holds pair (some file.id) s)
    (present : file ∈ s.world.db.trackedFiles.rows) (row : item ∈ s.world.db.syncQueue.rows)
    (own : item.trackedFileId = file.id)
    (safe : Hashes (standbyNode pair s file.relativePath) file.checksum ∨
      Differs pair s.world.disk file.relativePath file.checksum) :
    Holds pair none ⟨{ s.world with db := itemFinished item file s.world.db },s.shelf⟩ := by
  have finished : Handled (some file.id) s.world.db (itemFinished item file s.world.db) := handled_finished row own
  have held := holds_rows (t := { s.world with db := itemFinished item file s.world.db }) holds finished rfl
  refine held.close fun other member _ hole => ?_
  obtain ⟨path,checksum⟩ := finished.row present member (Option.some.inj hole).symm
  unfold Safe Remembered
  rw [path,checksum]
  exact safe.imp .inl id

theorem processItem_holds (apart : pair.activePath ≠ pair.standbyPath) (io : Io) {item : SyncQueueItem} {s : Field}
    (holds : Holds pair none s) (steady : emergencyFailoverDue s.world.disk pair = false) (row : item ∈ s.world.db.syncQueue.rows)
    (own : ∀ file, s.world.db.trackedFiles.find? item.trackedFileId = some file → file.drivePairId = pair.id) :
    Holds pair none (s.act (processItem io item)) := by
  cases hasFile : s.world.db.getTrackedFile item.trackedFileId with
  | error message =>
    rw [Field.act,after_of_error (processItem_noFile hasFile io)]
    exact holds
  | ok file =>
    have found := Db.getTrackedFile_ok.mp hasFile
    have pairs := own file found
    obtain ⟨present,key⟩ := Table.find?_eq_some.mp found
    have same : item.trackedFileId = file.id := key.symm
    have hasPair : s.world.db.getDrivePair file.drivePairId = .ok pair := by
      rw [pairs]
      exact Db.getDrivePair_ok.mpr holds.row
    have goes : pair.operational s.world.disk = pair := by
      rw [DrivePair.operational,steady]
      rfl
    have tables : s.world.db.operational s.world.disk pair = s.world.db := by
      rw [Db.operational,steady]
      rfl
    cases skipped : itemSkipped item pair s.world.disk with
    | true =>
      rw [Field.act,after_of_ok (processItem_skipped hasFile hasPair skipped),tables]
      exact holds
    | false =>
      have mirroring : item.action.isMirroring = true := by
        rcases holds.routine item row file present same pairs with mirrors | waits
        · exact mirrors
        · rw [itemSkipped,waits,beq_self_eq_true,Bool.or_true] at skipped
          cases skipped
      have begins : itemStarted item pair s.world =
          { s.world with db := s.world.db.updateSyncQueueStatus item.id .inProgress none } := by rw [itemStarted,tables]
      have steps : processItem io item s.world = _ := processItem_started hasFile hasPair skipped
      rw [begins,goes] at steps
      let started : World := { s.world with db := s.world.db.updateSyncQueueStatus item.id .inProgress none }
      have under_way : Holds pair (some file.id) ⟨started,s.shelf⟩ :=
        holds_rows (holds.except _) (handled_status _ _ none (by decide)) rfl
      have waits : Awaited started.db file.id := by
        rw [← same]
        exact awaited_status _ row none (by decide)
      have acted := runAction_holds io mirroring under_way present pairs
      have kept : (after (runAction io item.action pair file) started).db = started.db :=
        dbKept_runAction io item.action pair file started
      rw [Field.act,after,steps,← after]
      -- The item is in progress; only a copy that completes closes it.
      cases ran : runAction io item.action pair file started with
      | error message t =>
        rw [Field.act,after_of_error ran] at acted
        rw [after_of_error ran] at kept
        rw [after_bind_of_error ran]
        refine Holds.await (s := ⟨t,s.shelf⟩) acted ?_
        change Awaited t.db file.id
        rw [kept]
        exact waits
      | ok result t =>
        rw [Field.act,after_of_ok ran] at acted
        rw [after_of_ok ran] at kept
        rw [after_bind_of_ok ran]
        cases result with
        | error message =>
          let failed : World := { t with db := t.db.updateSyncQueueStatus item.id .failed (some message) }
          have fails (closing : Option Nat) : Handled closing t.db failed.db := handled_status _ _ _ (by decide)
          have held : Holds pair (some file.id) ⟨failed,s.shelf⟩ := holds_rows (s := ⟨t,s.shelf⟩) acted (fails _) rfl
          refine held.await (awaited_handled (fails none) (Option.some_ne_none _).symm ?_)
          rw [kept]
          exact waits
        | ok _ =>
          have there : s.world.disk.available pair.standbyPath = true := by
            by_contra away
            have gone : started.disk.available pair.standbyPath = false := Bool.eq_false_of_not_eq_true away
            rcases runAction_refused io mirroring file gone with ⟨_,failed⟩ | ⟨_,failed⟩
            · cases ran.symm.trans failed
            · cases ran.symm.trans failed
          have shelf : s.shelf = none := by
            rw [holds.root] at there
            exact Option.isNone_iff_eq_none.mp there
          have sets : item.action.setsMirrored = true := by rw [SyncAction.setsMirrored_eq,mirroring,Bool.true_or]
          have stays : t.db.drivePairs.find? pair.id = some pair := acted.row
          have goes_on : rebuildFinishes (itemFinished item file t.db) pair item.action = none := by
            rw [rebuildFinishes,rebuiltRole_of_isMirroring mirroring]
            rfl
          rw [finishItem_after sets stays,setsFlags_finalized_none goes_on]
          let asked : SyncQueueItem := { item with status := .inProgress,errorMessage := none }
          have inProgress : asked ∈ t.db.syncQueue.rows := by
            rw [kept]
            exact List.mem_map.mpr ⟨item,row,if_pos (beq_self_eq_true _)⟩
          have rows : file ∈ t.db.trackedFiles.rows := by
            rw [kept]
            exact present
          have safe : Hashes (standbyNode pair ⟨t,s.shelf⟩ file.relativePath) file.checksum ∨
              Differs pair t.disk file.relativePath file.checksum := by
            refine (runAction_settles apart mirroring ran).imp (fun good => ?_) id
            rw [standbyNode,shelf]
            exact good
          have ends : Holds pair none ⟨{ t with db := itemFinished asked file t.db },s.shelf⟩ :=
            finished_holds (s := ⟨t,s.shelf⟩) acted rows inProgress same safe
          exact ends

theorem processRow_holds (apart : pair.activePath ≠ pair.standbyPath) (io : Io) (itemId : Nat) {s : Field}
    (holds : Holds pair none s) (steady : emergencyFailoverDue s.world.disk pair = false)
    (own : ItemOf pair itemId s.world.db) : Holds pair none (s.act (processRow io itemId)) := by
  refine holds_bind (holds_still (fun w => Act.after_query _ w) holds) fun item t queried holds => ?_
  obtain ⟨read,rfl⟩ := Act.query_success queried
  have found := Db.getSyncQueueItem_ok.mp read
  exact processItem_holds apart io holds steady (Table.mem_of_find? found) (own item found)

end

end BitProtector.AwayDrains
