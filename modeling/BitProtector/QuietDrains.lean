import BitProtector.DrainEnd
import BitProtector.RebuildLedger

/-! A drain while both drives of a pair are there and answer. What its items copy towards one side of the pair
arrives there, and the good copies on the other side stay. -/
namespace BitProtector.QuietDrains
open Effect QueueDrain RootMarkers

/-! Disks on which a copy succeeds. -/

/-- The device answers every call below the roots of the pair. -/
structure Serves (pair : DrivePair) (io : Io) : Prop where
  openRead : ∀ role path, io.openRead (pair.copyOn role path) = true
  create : ∀ role path, io.create (pair.copyOn role path) = true
  createDirAll : ∀ role path, io.createDirAll (pair.copyOn role path) = true
  writeLimit : ∀ role path, io.writeLimit (pair.copyOn role path) = none
  flush : ∀ role path, io.flush (pair.copyOn role path) = true
  copyPermissions : ∀ role path, io.copyPermissions (pair.copyOn role path) = true
  writeMarker : ∀ role, io.writeMarker (pair.pathForRole role) = true

/-- No root goes away, and what is new can be read. -/
structure Grown (w t : World) : Prop where
  available : ∀ root, w.disk.available root = true → t.disk.available root = true
  whole : ∀ path node, t.disk.node path = some node → w.disk.node path = some node ∨ node.whole = true

instance : IsPreorder World Grown where
  refl _ := ⟨fun _ there => there,fun _ _ found => .inl found⟩
  trans _ _ _ first second := ⟨fun root there => second.available root (first.available root there),
    fun path node found => (second.whole path node found).elim (first.whole path node) .inr⟩

theorem grown_still {α : Type} {x : Act α} (still : ∀ w, after x w = w) : Keeps Grown x := by
  intro w
  rw [still]
  exact refl_of Grown w

theorem grown_mapErr {α : Type} {x : Act α} (text : String → String) (inner : Keeps Grown x) :
    Keeps Grown (Act.mapErr text x) := by
  intro w
  rw [Act.after_mapErr]
  exact inner w

theorem grown_write (path : Location) (bytes : List UInt8) (w : World) :
    Grown w { w with disk := w.disk.write path bytes } := by
  refine ⟨fun _ there => there,fun other node found => ?_⟩
  by_cases same : other = path
  · rw [same] at found
    change (w.disk.write path bytes).node path = some node at found
    rw [Disk.write_same] at found
    cases found
    exact .inr rfl
  · exact .inl ((Disk.write_other _ _ same).symm.trans found)

theorem grown_remove (path : Location) (w : World) : Grown w { w with disk := w.disk.remove path } := by
  refine ⟨fun _ there => there,fun other node found => ?_⟩
  by_cases same : other = path
  · rw [same] at found
    change (w.disk.remove path).node path = some node at found
    rw [Disk.remove_same] at found
    cases found
  · exact .inl ((Disk.remove_other _ same).symm.trans found)

theorem grown_ensureDriveRootMarker (io : Io) (root : String) : Keeps Grown (ensureDriveRootMarker io root) := by
  refine keeps_bind (grown_still fun _ => rfl) fun _ => keeps_bind (grown_still (ensure_still _ _)) fun _ => ?_
  refine keeps_bind (grown_still fun _ => rfl) fun marked => ?_
  cases marked with
  | true => exact keeps_pure _
  | false => exact keeps_bind (grown_still (ensure_still _ _)) fun _ => grown_write _ _

theorem grown_createParentDirs (io : Io) (path : Location) : Keeps Grown (createParentDirs io path) := by
  refine keeps_bind (grown_still (ensure_still _ _)) fun _ => ?_
  cases io.createsRoot path.root with
  | false => exact keeps_pure _
  | true => exact fun w => ⟨fun root there => Bool.or_eq_true_iff.mpr (.inr there),fun _ _ found => .inl found⟩

theorem grown_prepareMirror (io : Io) (pair : DrivePair) (relativePath : String) :
    Keeps Grown (prepareMirror io pair relativePath) := by
  refine keeps_bind (grown_still fun _ => rfl) fun _ => keeps_bind (grown_still (ensure_still _ _)) fun _ => ?_
  refine keeps_bind (grown_ensureDriveRootMarker _ _) fun _ => keeps_bind (grown_ensureDriveRootMarker _ _) fun _ => ?_
  refine keeps_bind (grown_still fun _ => rfl) fun _ => keeps_bind (grown_still (ensure_still _ _)) fun _ => ?_
  exact grown_mapErr _ (grown_createParentDirs _ _)

theorem grown_prepareRestore (io : Io) (pair : DrivePair) (target : DriveRole) (relativePath : String) :
    Keeps Grown (prepareRestore io pair target relativePath) := by
  refine keeps_bind (grown_still (ensure_still _ _)) fun _ => keeps_bind (grown_still fun _ => rfl) fun _ => ?_
  refine keeps_bind (grown_still (ensure_still _ _)) fun _ => ?_
  exact keeps_bind (grown_createParentDirs _ _) fun _ => grown_ensureDriveRootMarker _ _

section
variable [Blake3]

theorem grown_mirrorFile (io : Io) (pair : DrivePair) (relativePath : String) :
    Keeps Grown (mirrorFile io pair relativePath) := by
  intro w
  have prepared := grown_prepareMirror io pair relativePath w
  cases entered : mirrorEntry io pair relativePath w with
  | some t =>
    obtain ⟨ran,_⟩ := copyEntry_some entered
    rw [after_of_ok ran] at prepared
    refine trans_of Grown prepared ?_
    rcases mirrorFile_some entered with ⟨_,copied⟩ | ⟨_,message,failed⟩
    · rw [after_of_ok copied]
      exact grown_write _ _ t
    · rw [after_of_error failed]
      exact grown_write _ _ t
  | none =>
    unfold mirrorFile
    cases ran : prepareMirror io pair relativePath w with
    | error message t =>
      rw [after_of_error ran] at prepared
      rw [after_bind_of_error ran]
      exact prepared
    | ok a t =>
      rw [after_of_ok ran] at prepared
      have stays : entersCopy io t.disk (pair.copyOn pair.activeRole relativePath)
          (pair.copyOn pair.standbyRole relativePath) = false := by
        rw [mirrorEntry,copyEntry,ran] at entered
        by_contra enters
        rw [Bool.not_eq_false] at enters
        simp [enters] at entered
      have failed := copyWithChecksum_stays stays
      rw [after_bind_of_ok ran,after_bind_of_error (Act.mapErr_of_error failed _)]
      exact prepared

theorem grown_restoreSide (io : Io) (pair : DrivePair) (target : DriveRole) (relativePath expected : String) :
    Keeps Grown (restoreSide io pair target relativePath expected) := by
  intro w
  have prepared := grown_prepareRestore io pair target relativePath w
  cases entered : restoreEntry io pair target relativePath w with
  | some t =>
    obtain ⟨ran,_⟩ := copyEntry_some entered
    rw [after_of_ok ran] at prepared
    refine trans_of Grown prepared ?_
    rcases restoreSide_some expected entered with ⟨_,_,copied⟩ | ⟨_,message,failed⟩ | ⟨_,message,failed⟩
    · rw [after_of_ok copied]
      exact grown_write _ _ t
    · rw [after_of_error failed]
      exact grown_write _ _ t
    · rw [after_of_error failed]
      exact grown_remove _ t
  | none =>
    unfold restoreSide
    cases ran : prepareRestore io pair target relativePath w with
    | error message t =>
      rw [after_of_error ran] at prepared
      rw [after_bind_of_error ran]
      exact prepared
    | ok a t =>
      rw [after_of_ok ran] at prepared
      have stays : entersCopy io t.disk (pair.copyOn target.opposite relativePath)
          (pair.copyOn target relativePath) = false := by
        rw [restoreEntry,copyEntry,ran] at entered
        by_contra enters
        rw [Bool.not_eq_false] at enters
        simp [enters] at entered
      have failed : copyAndVerifyChecksum io _ _ expected t = _ := copyAndVerifyChecksum_stays stays
      rw [after_bind_of_ok ran,after_of_error (Act.mapErr_of_error failed _)]
      exact prepared

theorem grown_runAction (io : Io) (action : SyncAction) (pair : DrivePair) (file : TrackedFile) :
    Keeps Grown (runAction io action pair file) := by
  intro w
  have same : Grown w w := refl_of Grown w
  cases action with
  | mirror =>
    rw [runAction_mirror,after_attempt,after_discard]
    exact grown_mirrorFile io pair file.relativePath w
  | adoptMirror =>
    rw [runAction_adoptMirror,after_bind_of_still (fun _ _ => rfl),adoptMirror_after]
    cases adoption io pair file w.disk with
    | copied => exact grown_mirrorFile io pair file.relativePath w
    | taken => exact same
    | unreadable => exact same
  | restoreMaster =>
    unfold runAction restoreFromMirror
    rw [after_attempt]
    exact grown_restoreSide io pair .primary file.relativePath file.checksum w
  | restoreMirror =>
    unfold runAction restoreMirrorFromMaster
    rw [after_attempt]
    exact grown_restoreSide io pair .secondary file.relativePath file.checksum w
  | verify =>
    unfold runAction
    rw [after_bind_of_still,checkFileIntegrity_after]
    · exact same
    · intro result s
      split <;> rfl
  | userActionRequired => exact same
  | other text => exact same

/-! Copies that arrive. -/

/-- The side that the action writes to. -/
def heading (pair : DrivePair) (action : SyncAction) : Option DriveRole :=
  if action.isMirroring then some pair.standbyRole else rebuiltRole action

omit [Blake3] in
theorem ensureDriveRootMarker_ok {io : Io} {root : String} {w : World} (there : w.disk.available root = true)
    (writes : io.writeMarker root = true) : ∃ t, ensureDriveRootMarker io root w = .ok () t := by
  unfold ensureDriveRootMarker
  rw [bind_of_ok (Act.look_apply _ _),there,bind_of_ok (Act.ensure_true _ _),bind_of_ok (Act.look_apply _ _)]
  cases w.disk.exists? (driveRootMarkerPath root) with
  | true => exact ⟨w,rfl⟩
  | false =>
    rw [writes]
    exact ⟨_,rfl⟩

omit [Blake3] in
theorem createParentDirs_ok {io : Io} {path : Location} (creates : io.createDirAll path = true) (w : World) :
    ∃ t, createParentDirs io path w = .ok () t := by
  unfold createParentDirs attemptCall
  rw [creates,bind_of_ok (Act.ensure_true _ _)]
  cases io.createsRoot path.root <;> exact ⟨_,rfl⟩

omit [Blake3] in
theorem exists_of_untouched {w t : World} (kept : Untouched w t) {path : Location} (present : w.disk.exists? path = true) :
    t.disk.exists? path = true := by
  obtain ⟨node,found⟩ := Option.isSome_iff_exists.mp present
  rw [Disk.exists?,kept.2 path node found]
  rfl

theorem exists_of_good {disk : Disk} {path : Location} {checksum : String} (good : GoodAt disk path checksum) :
    disk.exists? path = true := by
  obtain ⟨node,found,_⟩ := good
  rw [Disk.exists?,found]
  rfl

theorem good_of_untouched {w t : World} (kept : Untouched w t) {path : Location} {checksum : String}
    (good : GoodAt w.disk path checksum) : GoodAt t.disk path checksum := by
  obtain ⟨node,found,rest⟩ := good
  exact ⟨node,kept.2 path node found,rest⟩

omit [Blake3] in
theorem prepareMirror_ok {io : Io} {pair : DrivePair} {relativePath : String} {w : World} (serves : Serves pair io)
    (accepts : pair.standbyAcceptsSync w.disk = true) (there : w.disk.available pair.activePath = true)
    (present : w.disk.exists? (pair.copyOn pair.activeRole relativePath) = true) :
    ∃ t, prepareMirror io pair relativePath w = .ok () t := by
  obtain ⟨_,standby⟩ := Bool.and_eq_true_iff.mp accepts
  obtain ⟨t,marked⟩ := ensureDriveRootMarker_ok there (serves.writeMarker pair.activeRole)
  have first := untouched_ensureDriveRootMarker io pair.activePath w
  have grown : Grown w (after (ensureDriveRootMarker io pair.activePath) w) := grown_ensureDriveRootMarker _ _ w
  rw [after_of_ok marked] at first grown
  obtain ⟨u,markedToo⟩ := ensureDriveRootMarker_ok (grown.available _ standby) (serves.writeMarker pair.standbyRole)
  have second := untouched_ensureDriveRootMarker io pair.standbyPath t
  rw [after_of_ok markedToo] at second
  have still := exists_of_untouched (trans_of Untouched first second) present
  obtain ⟨v,created⟩ := createParentDirs_ok (serves.createDirAll pair.standbyRole relativePath) u
  refine ⟨v,?_⟩
  unfold prepareMirror
  rw [bind_of_ok (Act.look_apply _ _),accepts,bind_of_ok (Act.ensure_true _ _),bind_of_ok marked]
  rw [bind_of_ok markedToo]
  rw [bind_of_ok (Act.look_apply _ _),still,bind_of_ok (Act.ensure_true _ _),Act.mapErr_of_ok created]

omit [Blake3] in
theorem prepareRestore_ok {io : Io} {pair : DrivePair} {target : DriveRole} {relativePath : String} {w : World}
    (serves : Serves pair io) (works : pair.roleState target ≠ .failed)
    (there : w.disk.available (pair.pathForRole target) = true)
    (present : w.disk.exists? (pair.copyOn target.opposite relativePath) = true) :
    ∃ t, prepareRestore io pair target relativePath w = .ok () t := by
  obtain ⟨t,created⟩ := createParentDirs_ok (serves.createDirAll target relativePath) w
  have grown : Grown w (after (createParentDirs io (pair.copyOn target relativePath)) w) := grown_createParentDirs _ _ w
  rw [after_of_ok created] at grown
  obtain ⟨u,marked⟩ := ensureDriveRootMarker_ok (grown.available _ there) (serves.writeMarker target)
  refine ⟨u,?_⟩
  unfold prepareRestore
  rw [show (pair.roleState target != .failed) = true from bne_iff_ne.mpr works,bind_of_ok (Act.ensure_true _ _)]
  rw [bind_of_ok (Act.look_apply _ _),present,bind_of_ok (Act.ensure_true _ _),bind_of_ok created,marked]

/-- A good source arrives on a device that takes everything. -/
theorem completes_of_good {io : Io} {disk : Disk} {src dst : Location} {checksum : String} (apart : src ≠ dst)
    (good : GoodAt disk src checksum) (limit : io.writeLimit dst = none) (flush : io.flush dst = true)
    (permits : io.copyPermissions dst = true) :
    completesCopy io disk src dst = true ∧ checksumBytes (delivered io disk src dst) = checksum := by
  obtain ⟨node,found,whole,same⟩ := good
  have read : copySource disk src dst = node := by
    rw [copySource,Disk.write_other _ _ apart,found]
    rfl
  have all : delivered io disk src dst = node.readable := by rw [delivered,limit,read,fitting]
  have arrived : arrives io disk src dst = true := by rw [arrives,all,read,whole,Bool.true_and,beq_self_eq_true]
  refine ⟨by rw [completesCopy,arrived,flush,permits]; rfl,?_⟩
  rw [all,FileNode.readable_of_whole whole]
  exact same

omit [Blake3] in
theorem entry_of_ok {io : Io} {prepare : Act Unit} {src dst : Location} {w t : World} (ran : prepare w = .ok () t)
    (enters : entersCopy io t.disk src dst = true) : copyEntry io prepare src dst w = some t := by
  rw [copyEntry,ran]
  exact if_pos enters

theorem mirrorFile_delivers {io : Io} {pair : DrivePair} {relativePath checksum : String} {w : World}
    (serves : Serves pair io) (apart : pair.activePath ≠ pair.standbyPath)
    (accepts : pair.standbyAcceptsSync w.disk = true) (there : w.disk.available pair.activePath = true)
    (good : GoodAt w.disk (pair.copyOn pair.activeRole relativePath) checksum) :
    ∃ digest t, mirrorFile io pair relativePath w = .ok digest t ∧
      GoodAt t.disk (pair.copyOn pair.standbyRole relativePath) checksum := by
  have differs : pair.copyOn pair.activeRole relativePath ≠ pair.copyOn pair.standbyRole relativePath :=
    fun same => apart (congrArg Location.root same)
  obtain ⟨t,prepared⟩ := prepareMirror_ok serves accepts there (exists_of_good good)
  have kept : Untouched w (after (prepareMirror io pair relativePath) w) := untouched_prepareMirror io pair relativePath w
  rw [after_of_ok prepared] at kept
  have still := good_of_untouched kept good
  have enters : entersCopy io t.disk (pair.copyOn pair.activeRole relativePath)
      (pair.copyOn pair.standbyRole relativePath) = true := by
    rw [entersCopy,exists_of_good still,serves.openRead,serves.create]
    rfl
  obtain ⟨completes,same⟩ := completes_of_good differs still (serves.writeLimit _ _) (serves.flush _ _)
    (serves.copyPermissions _ _)
  rcases mirrorFile_some (entry_of_ok prepared enters) with ⟨_,copied⟩ | ⟨stopped,_⟩
  · exact ⟨_,_,copied,(goodAt_write _ _ _ _).mpr same⟩
  · rw [completes] at stopped
    cases stopped

theorem restoreSide_delivers {io : Io} {pair : DrivePair} {target : DriveRole} {relativePath checksum : String} {w : World}
    (serves : Serves pair io) (apart : pair.pathForRole target.opposite ≠ pair.pathForRole target)
    (works : pair.roleState target ≠ .failed) (there : w.disk.available (pair.pathForRole target) = true)
    (good : GoodAt w.disk (pair.copyOn target.opposite relativePath) checksum) :
    ∃ t, restoreSide io pair target relativePath checksum w = .ok () t ∧
      GoodAt t.disk (pair.copyOn target relativePath) checksum := by
  have differs : pair.copyOn target.opposite relativePath ≠ pair.copyOn target relativePath :=
    fun same => apart (congrArg Location.root same)
  obtain ⟨t,prepared⟩ := prepareRestore_ok serves works there (exists_of_good good)
  have kept : Untouched w (after (prepareRestore io pair target relativePath) w) :=
    untouched_prepareRestore io pair target relativePath w
  rw [after_of_ok prepared] at kept
  have still := good_of_untouched kept good
  have enters : entersCopy io t.disk (pair.copyOn target.opposite relativePath)
      (pair.copyOn target relativePath) = true := by
    rw [entersCopy,exists_of_good still,serves.openRead,serves.create]
    rfl
  obtain ⟨completes,same⟩ := completes_of_good differs still (serves.writeLimit _ _) (serves.flush _ _)
    (serves.copyPermissions _ _)
  rcases restoreSide_some checksum (entry_of_ok prepared enters) with ⟨_,_,copied⟩ | ⟨stopped,_⟩ | ⟨differ,_⟩
  · exact ⟨_,copied,(goodAt_write _ _ _ _).mpr same⟩
  · exact absurd ⟨completes,same⟩ stopped
  · exact absurd same differ

omit [Blake3] in
theorem heading_cases {pair : DrivePair} {action : SyncAction} {side : DriveRole} (heads : heading pair action = some side) :
    (action.isMirroring = true ∧ side = pair.standbyRole) ∨ rebuiltRole action = some side := by
  unfold heading at heads
  split at heads
  · rename_i mirroring
    exact .inl ⟨mirroring,(Option.some.inj heads).symm⟩
  · exact .inr heads

/-- Both roots are there, the side takes copies, and the other side has the recorded content. -/
structure Ready (pair : DrivePair) (side : DriveRole) (file : TrackedFile) (disk : Disk) : Prop where
  there : ∀ role, disk.available (pair.pathForRole role) = true
  works : pair.roleState side = .active ∨ pair.roleState side = .rebuilding
  good : GoodAt disk (pair.copyOn side.opposite file.relativePath) file.checksum
  readable : ∀ node, disk.node (pair.copyOn side file.relativePath) = some node → node.whole = true

theorem runAction_delivers {io : Io} {action : SyncAction} {pair : DrivePair} {side : DriveRole} {file : TrackedFile}
    {w : World} (heads : heading pair action = some side) (serves : Serves pair io)
    (apart : pair.pathForRole side.opposite ≠ pair.pathForRole side) (ready : Ready pair side file w.disk) :
    ∃ t, runAction io action pair file w = .ok (.ok ()) t ∧
      GoodAt t.disk (pair.copyOn side file.relativePath) file.checksum := by
  rcases heading_cases heads with ⟨mirroring,rfl⟩ | restores
  · have active : pair.standbyRole.opposite = pair.activeRole := DriveRole.opposite_opposite _
    have good := ready.good
    rw [active] at apart good
    have accepts : pair.standbyAcceptsSync w.disk = true := by
      rw [DrivePair.standbyAcceptsSync,Bool.and_eq_true]
      exact ⟨by rcases ready.works with state | state <;> rw [state] <;> rfl,ready.there _⟩
    obtain ⟨digest,t,copied,arrived⟩ := mirrorFile_delivers serves apart accepts (ready.there _) good
    cases action with
    | mirror =>
      refine ⟨t,?_,arrived⟩
      rw [runAction_mirror]
      exact attempt_of_ok (by rw [bind_of_ok copied]; rfl)
    | adoptMirror =>
      have adopted := adoptMirror_run io pair file w
      rw [runAction_adoptMirror]
      cases choice : adoption io pair file w.disk with
      | copied =>
        rw [choice] at adopted
        have ran : adoptMirror io pair file w = .ok () t := adopted.trans (by rw [bind_of_ok copied]; rfl)
        exact ⟨t,bind_of_ok ran _,arrived⟩
      | taken =>
        rw [choice] at adopted
        exact ⟨w,bind_of_ok adopted _,adoption_taken choice⟩
      | unreadable =>
        unfold adoption at choice
        dsimp only at choice
        split at choice
        · rename_i present
          obtain ⟨node,found⟩ := Option.isSome_iff_exists.mp (Bool.and_eq_true_iff.mp present).2
          rw [found] at choice
          simp only [serves.openRead,ready.readable node found,Bool.and_self,if_true] at choice
          split at choice <;> cases choice
        · cases choice
    | restoreMaster => cases mirroring
    | restoreMirror => cases mirroring
    | verify => cases mirroring
    | userActionRequired => cases mirroring
    | other text => cases mirroring
  · have works : pair.roleState side ≠ .failed := by
      intro failed
      rcases ready.works with state | state <;> rw [state] at failed <;> cases failed
    obtain ⟨t,copied,arrived⟩ := restoreSide_delivers serves apart works (ready.there side) ready.good
    have shape : runAction io action pair file =
        Effect.attempt (restoreSide io pair side file.relativePath file.checksum) := by
      cases action <;> cases restores <;> rfl
    rw [shape]
    exact ⟨t,attempt_of_ok copied,arrived⟩

theorem heading_of_start {io : Io} {action : SyncAction} {pair : DrivePair} {file : TrackedFile} {w : World} {copy : CopyStart}
    (start : actionStart io action pair file w = some copy) : heading pair action = some copy.target := by
  have mirrors (entered : mirrorStart io pair file w = some copy) : copy.target = pair.standbyRole := by
    obtain ⟨_,_,rfl⟩ := Option.map_eq_some_iff.mp entered
    rfl
  have restores {side : DriveRole} (entered : restoreStart io pair file side w = some copy) : copy.target = side := by
    obtain ⟨_,_,rfl⟩ := Option.map_eq_some_iff.mp entered
    rfl
  cases action with
  | mirror => exact congrArg some (mirrors start).symm
  | adoptMirror =>
    refine congrArg some (mirrors ?_).symm
    unfold actionStart at start
    cases choice : adoption io pair file w.disk with
    | copied =>
      rw [choice] at start
      exact start
    | taken =>
      rw [choice] at start
      cases start
    | unreadable =>
      rw [choice] at start
      cases start
  | restoreMaster => exact congrArg some (restores start).symm
  | restoreMirror => exact congrArg some (restores start).symm
  | verify => cases start
  | userActionRequired => cases start
  | other text => cases start

theorem runAction_spares (io : Io) {action : SyncAction} {pair : DrivePair} {file : TrackedFile} {place : Location}
    (apart : ∀ side, heading pair action = some side → place ≠ pair.copyOn side file.relativePath) {w : World}
    {node : FileNode} (found : w.disk.node place = some node) :
    (after (runAction io action pair file) w).disk.node place = some node := by
  have outcome := runAction_outcome io action pair file w
  cases start : actionStart io action pair file w with
  | none =>
    rw [start] at outcome
    exact outcome.2 place node found
  | some copy =>
    rw [start] at outcome
    have differs : place ≠ copy.dst pair file := apart _ (heading_of_start start)
    obtain ⟨kept,left | ⟨left,_⟩⟩ := outcome
    · rw [left]
      exact (Disk.write_other _ _ differs).trans (kept.2 place node found)
    · rw [left]
      exact (Disk.remove_other _ differs).trans (kept.2 place node found)

/-! One call of a drain. -/

omit [Blake3] in
/-- Only flags of files change, and no root of a pair. -/
structure Unmoved (db next : Db) : Prop where
  files : ∃ flag, Db.SetsFlags flag db next
  roots : ∀ id, (next.drivePairs.find? id).map PairFrame.roots = (db.drivePairs.find? id).map PairFrame.roots

omit [Blake3] in
theorem unmoved_of_tables {db next : Db} (files : next.trackedFiles = db.trackedFiles)
    (pairs : next.drivePairs = db.drivePairs) : Unmoved db next :=
  ⟨⟨_,Db.setsFlags_of_eq files⟩,fun id => by rw [pairs]⟩

omit [Blake3] in
instance : IsPreorder Db Unmoved where
  refl db := unmoved_of_tables rfl rfl
  trans db next last first second := by
    obtain ⟨_,flags⟩ := first.files
    obtain ⟨_,more⟩ := second.files
    exact ⟨⟨_,flags.trans more⟩,fun id => (second.roots id).trans (first.roots id)⟩

omit [Blake3] in
theorem roots_operational (pair : DrivePair) (disk : Disk) : PairFrame.roots (pair.operational disk) = PairFrame.roots pair := by
  unfold DrivePair.operational
  split <;> rfl

omit [Blake3] in
theorem unmoved_operational {db : Db} {pair : DrivePair} (found : db.drivePairs.find? pair.id = some pair) (disk : Disk) :
    Unmoved db (db.operational disk pair) := by
  obtain ⟨flag,flags,_⟩ := setsFlags_operational db disk pair
  refine ⟨⟨flag,flags⟩,fun id => ?_⟩
  by_cases same : id = pair.id
  · subst same
    rw [find?_operational (Db.getDrivePair_ok.mpr found) disk,found,Option.map_some,Option.map_some,roots_operational]
  · rw [find?_operational_other db disk pair same]

omit [Blake3] in
theorem unmoved_finalized {db : Db} {pair : DrivePair} (found : db.drivePairs.find? pair.id = some pair)
    (action : SyncAction) : Unmoved db (db.finalized pair action) := by
  refine ⟨RebuildLedger.setsFlags_finalized db pair action,fun id => ?_⟩
  by_cases same : id = pair.id
  · subst same
    rw [find?_finalized action found,found,Option.map_some,Option.map_some]
    cases rebuildFinishes db pair action <;> rfl
  · rw [find?_finalized_other db pair action same]

theorem unmoved_processItem (io : Io) (item : SyncQueueItem) (w : World) :
    Unmoved w.db (after (processItem io item) w).db := by
  apply processItem_related
  · intro pair found
    exact unmoved_operational found w.disk
  · exact fun db status message => unmoved_of_tables rfl rfl
  · exact fun db fileId => ⟨⟨_,Db.setsFlags_updateTrackedFileMirrorStatus db fileId true⟩,fun _ => rfl⟩
  · exact fun db pair found => unmoved_finalized found item.action

theorem processItem_files {R : Disk → Disk → Prop} (io : Io) (item : SyncQueueItem) (w : World) (still : R w.disk w.disk)
    (acts : ∀ file pair, w.db.getTrackedFile item.trackedFileId = .ok file → w.db.getDrivePair file.drivePairId = .ok pair →
      ∀ u : World, u.disk = w.disk → R w.disk (after (runAction io item.action (pair.operational w.disk) file) u).disk) :
    R w.disk (after (processItem io item) w).disk := by
  cases hasFile : w.db.getTrackedFile item.trackedFileId with
  | error message =>
    rw [after_of_error (processItem_noFile hasFile io)]
    exact still
  | ok file =>
    cases hasPair : w.db.getDrivePair file.drivePairId with
    | error message =>
      rw [after_of_error (processItem_noPair hasFile hasPair io)]
      exact still
    | ok pair =>
      rw [processItem_disk hasFile hasPair]
      split
      · exact still
      · exact acts file pair hasFile hasPair _ rfl

theorem grown_processItem (io : Io) (item : SyncQueueItem) : Keeps Grown (processItem io item) := by
  intro w
  have disks : Grown ⟨w.db,w.disk⟩ ⟨w.db,(after (processItem io item) w).disk⟩ := by
    refine processItem_files (R := fun before later => Grown ⟨w.db,before⟩ ⟨w.db,later⟩) io item w (refl_of Grown _)
      fun file pair _ _ u same => ?_
    have acted : Grown u _ := grown_runAction io item.action (pair.operational w.disk) file u
    exact ⟨fun root there => acted.available root (by rw [same]; exact there),
      fun path node found => (acted.whole path node found).imp (fun before => by rw [← same]; exact before) id⟩
  exact ⟨disks.available,disks.whole⟩

theorem processItem_elsewhere (io : Io) {item : SyncQueueItem} {w : World} {pair : DrivePair}
    (others : ∀ other ∈ w.db.drivePairs.rows, other.id ≠ pair.id → ∀ root ∈ PairFrame.roots other, root ∉ PairFrame.roots pair)
    (foreign : ∀ file, w.db.getTrackedFile item.trackedFileId = .ok file → file.drivePairId ≠ pair.id) :
    ∀ path, path.root ∈ PairFrame.roots pair → (after (processItem io item) w).disk.node path = w.disk.node path := by
  intro path inside
  refine processItem_files (R := fun before later => later.node path = before.node path) io item w rfl
    fun file other hasFile hasPair u same => ?_
  have row := Db.getDrivePair_ok.mp hasPair
  have key : other.id = file.drivePairId := Table.find?_key row
  have below : PairFrame.Below _ u _ := PairFrame.below_runAction io item.action (other.operational w.disk) file u
  rw [below.nodes path fun touches => ?_,same]
  have member := touches.root_mem
  rw [roots_operational] at member
  exact others other (Table.mem_of_find? row) (key ▸ foreign file hasFile) path.root member inside

omit [Blake3] in
theorem row_of_foreign {item : SyncQueueItem} {w : World} {next : Db} {pairId : Nat} (leaves : CallLeaves item w next)
    (foreign : ∀ file, w.db.getTrackedFile item.trackedFileId = .ok file → file.drivePairId ≠ pairId) :
    next.drivePairs.find? pairId = w.db.drivePairs.find? pairId := by
  have differs {file : TrackedFile} {pair : DrivePair} (hasFile : w.db.getTrackedFile item.trackedFileId = .ok file)
      (hasPair : w.db.getDrivePair file.drivePairId = .ok pair) : pairId ≠ pair.id := by
    have key : pair.id = file.drivePairId := Table.find?_key (Db.getDrivePair_ok.mp hasPair)
    rw [key]
    exact (foreign file hasFile).symm
  cases leaves with
  | untouched => rfl
  | skipped hasFile hasPair skips => exact find?_operational_other _ _ _ (differs hasFile hasPair)
  | stranded hasFile hasPair runs => exact find?_operational_other w.db w.disk _ (differs hasFile hasPair)
  | failed hasFile hasPair runs message => exact find?_operational_other w.db w.disk _ (differs hasFile hasPair)
  | verified hasFile hasPair runs plain => exact find?_operational_other w.db w.disk _ (differs hasFile hasPair)
  | @finished file pair hasFile hasPair runs sets =>
    rw [find?_finalized_other _ _ _ (by rw [DrivePair.operational_id]; exact differs hasFile hasPair)]
    exact find?_operational_other w.db w.disk _ (differs hasFile hasPair)

/-! What a drain brings to one side of a pair. -/

omit [Blake3] in
/-- The row of the pair, whose side is taking copies from the other one: as it was, or rebuilt. -/
structure Serving (pair : DrivePair) (side : DriveRole) (now : DrivePair) : Prop where
  id : now.id = pair.id
  paths : ∀ role, now.pathForRole role = pair.pathForRole role
  source : now.roleState side.opposite = .active
  target : now.roleState side = .active ∨ now.roleState side = .rebuilding
  rebuilds : now.roleState side = .rebuilding → pair.roleState side = .rebuilding
  leads : now.activeRole = side → pair.roleState side = .rebuilding

/-- The file is good at the source, and good at the other side or on its way there. -/
structure Brought (pair : DrivePair) (side : DriveRole) (file : TrackedFile) (w : World) : Prop where
  good : GoodAt w.disk (pair.copyOn side.opposite file.relativePath) file.checksum
  arrives : GoodAt w.disk (pair.copyOn side file.relativePath) file.checksum ∨
    (∀ node, w.disk.node (pair.copyOn side file.relativePath) = some node → node.whole = true) ∧
      ∃ item ∈ w.db.pendingSyncQueue, item.trackedFileId = file.id ∧ heading pair item.action = some side

omit [Blake3] in
/-- What the drain finds in the tables: `files` are files of the pair, and no item of the pair writes to the source. -/
structure Mendable (pair : DrivePair) (side : DriveRole) (files : List TrackedFile) (start : Db) : Prop where
  serving : Serving pair side pair
  apart : pair.pathForRole side.opposite ≠ pair.pathForRole side
  others : ∀ other ∈ start.drivePairs.rows, other.id ≠ pair.id → ∀ root ∈ PairFrame.roots other, root ∉ PairFrame.roots pair
  listed : ∀ file ∈ files, file ∈ start.trackedFiles.rows ∧ file.drivePairId = pair.id
  paths : ∀ file ∈ start.trackedFiles.rows, ∀ other ∈ start.trackedFiles.rows, file.drivePairId = pair.id →
    other.drivePairId = pair.id → file.relativePath = other.relativePath → file = other
  towards : ∀ item ∈ start.pendingSyncQueue, start.ofDrivePair pair.id item.trackedFileId = true →
    heading pair item.action ≠ some side.opposite ∧ (pair.roleState side = .rebuilding → item.action.isMirroring = false)
  whole : pair.roleState side = .rebuilding → ∀ file ∈ start.trackedFiles.rows, file.drivePairId = pair.id → file ∈ files

/-- What holds between two calls of the drain. -/
structure Mending (pair : DrivePair) (side : DriveRole) (files : List TrackedFile) (start : Db) (w : World) : Prop where
  shrinks : w.db.pendingSyncQueue ⊆ start.pendingSyncQueue
  unmoved : Unmoved start w.db
  row : ∃ now, w.db.drivePairs.find? pair.id = some now ∧ Serving pair side now
  there : ∀ role, w.disk.available (pair.pathForRole role) = true
  marked : ∀ role, (role = side → pair.roleState side = .rebuilding) → Marked w.disk (pair.pathForRole role)
  brought : ∀ file ∈ files, Brought pair side file w

omit [Blake3] in
/-- The device answers for the pair, and nothing happens below its roots between two calls. -/
structure Quiet (env : Environment) (pair : DrivePair) : Prop where
  serves : ∀ pass n, Serves pair (env.io pass n)
  nodes : ∀ pass n disk path, path.root ∈ PairFrame.roots pair → (env.drives pass n disk).node path = disk.node path
  there : ∀ pass n disk role, disk.available (pair.pathForRole role) = true →
    (env.drives pass n disk).available (pair.pathForRole role) = true

variable {pair : DrivePair} {side : DriveRole} {files : List TrackedFile} {start : Db}

omit [Blake3] in
theorem Serving.copyOn {now : DrivePair} (serving : Serving pair side now) (role : DriveRole) (path : String) :
    now.copyOn role path = pair.copyOn role path := congrArg (fun root => (⟨root,path⟩ : Location)) (serving.paths role)

omit [Blake3] in
theorem Serving.serves {now : DrivePair} (serving : Serving pair side now) {io : Io} (serves : Serves pair io) :
    Serves now io := by
  constructor
  · exact fun role path => by rw [serving.copyOn]; exact serves.openRead role path
  · exact fun role path => by rw [serving.copyOn]; exact serves.create role path
  · exact fun role path => by rw [serving.copyOn]; exact serves.createDirAll role path
  · exact fun role path => by rw [serving.copyOn]; exact serves.writeLimit role path
  · exact fun role path => by rw [serving.copyOn]; exact serves.flush role path
  · exact fun role path => by rw [serving.copyOn]; exact serves.copyPermissions role path
  · exact fun role => by rw [serving.paths]; exact serves.writeMarker role

omit [Blake3] in
theorem Serving.steady {now : DrivePair} (serving : Serving pair side now) : now.isQuiescing = false := by
  have either (role : DriveRole) : now.roleState role = .active ∨ now.roleState role = .rebuilding := by
    rcases side.eq_or_opposite role with rfl | rfl
    · exact serving.target
    · exact .inl serving.source
  rw [DrivePair.isQuiescing]
  rcases either .primary with primary | primary <;> rcases either .secondary with secondary | secondary <;>
    rw [primary,secondary] <;> rfl

omit [Blake3] in
theorem Serving.heading {now : DrivePair} (serving : Serving pair side now) (first : Serving pair side pair)
    {action : SyncAction} (plain : pair.roleState side = .rebuilding → action.isMirroring = false) :
    heading now action = heading pair action := by
  unfold QuietDrains.heading
  cases mirroring : action.isMirroring with
  | false => rfl
  | true =>
    have stays : pair.roleState side ≠ .rebuilding := fun rebuilding => by
      rw [plain rebuilding] at mirroring
      cases mirroring
    have leads {other : DrivePair} (serves : Serving pair side other) : other.standbyRole = side := by
      unfold DrivePair.standbyRole
      rcases side.eq_or_opposite other.activeRole with lead | lead
      · exact absurd (serves.leads lead) stays
      · rw [lead,DriveRole.opposite_opposite]
    simp only [if_true,leads serving,leads first]

omit [Blake3] in
theorem not_due {w : World} (there : ∀ role, w.disk.available (pair.pathForRole role) = true)
    (marked : ∀ role, (role = side → pair.roleState side = .rebuilding) → Marked w.disk (pair.pathForRole role))
    {now : DrivePair} (serving : Serving pair side now) : emergencyFailoverDue w.disk now = false := by
  have mark : Marked w.disk (now.pathForRole now.activeRole) := by
    rw [serving.paths]
    exact marked _ fun lead => serving.leads lead
  have present : missingExpectedRootMarker w.disk now now.activeRole = false := by
    unfold missingExpectedRootMarker
    rw [show w.disk.exists? (driveRootMarkerPath (now.pathForRole now.activeRole)) = true from mark]
    simp
  unfold emergencyFailoverDue
  rw [present,DrivePair.activePath,serving.paths,there]
  rfl

omit [Blake3] in
theorem Unmoved.file {next : Db} (unmoved : Unmoved start next) {id : Nat} {file : TrackedFile}
    (found : next.trackedFiles.find? id = some file) :
    ∃ old ∈ start.trackedFiles.rows, old.id = id ∧ ∃ flag, file = { old with isMirrored := flag } := by
  obtain ⟨flag,flags⟩ := unmoved.files
  rw [flags id] at found
  obtain ⟨old,there,rfl⟩ := Option.map_eq_some_iff.mp found
  obtain ⟨present,key⟩ := Table.find?_eq_some.mp there
  exact ⟨old,present,key,_,rfl⟩

omit [Blake3] in
theorem Unmoved.stays {next : Db} (unmoved : Unmoved start next) {file : TrackedFile} (present : file ∈ start.trackedFiles.rows) :
    ∃ flag, next.trackedFiles.find? file.id = some { file with isMirrored := flag } := by
  obtain ⟨flag,flags⟩ := unmoved.files
  have there : start.trackedFiles.find? file.id = some file := Table.find?_of_mem _ present
  rw [flags file.id,there]
  exact ⟨_,rfl⟩

omit [Blake3] in
theorem Unmoved.others {next : Db} (unmoved : Unmoved start next) (mendable : Mendable pair side files start) :
    ∀ other ∈ next.drivePairs.rows, other.id ≠ pair.id → ∀ root ∈ PairFrame.roots other, root ∉ PairFrame.roots pair := by
  intro other member differs
  have found : next.drivePairs.find? other.id = some other := Table.find?_of_mem _ member
  have same := unmoved.roots other.id
  rw [found,Option.map_some,eq_comm,Option.map_eq_some_iff] at same
  obtain ⟨old,before,roots⟩ := same
  obtain ⟨present,key⟩ := Table.find?_eq_some.mp before
  have key : old.id = other.id := key
  rw [← roots]
  exact mendable.others old present (key ▸ differs)

theorem pending_stays (io : Io) {item row : SyncQueueItem} {w : World} {file : TrackedFile}
    (unmoved : Unmoved start w.db) (listed : file ∈ start.trackedFiles.rows) (own : file.drivePairId = pair.id)
    (due : ∀ now, w.db.drivePairs.find? pair.id = some now → emergencyFailoverDue w.disk now = false)
    (pending : row ∈ w.db.pendingSyncQueue) (asks : row.trackedFileId = file.id) (differs : row.id ≠ item.id) :
    row ∈ (after (processItem io item) w).db.pendingSyncQueue := by
  obtain ⟨found,status⟩ := Db.mem_pendingSyncQueue.mp pending
  obtain ⟨change,later,fate⟩ := processItem_row io item w row.id
  have kept : change row = row := by
    refine fate.spares (fun _ => differs) row fun now belongs => due now ?_
    obtain ⟨flag,there⟩ := unmoved.stays listed
    rw [Db.pairOf?,asks,there,Option.bind_some,own] at belongs
    exact belongs
  rw [found,Option.map_some,kept] at later
  exact Db.mem_pendingSyncQueue.mpr ⟨later,status⟩

omit [Blake3] in
theorem root_mem (pair : DrivePair) (role : DriveRole) (path : String) : (pair.copyOn role path).root ∈ PairFrame.roots pair :=
  PairFrame.pathForRole_mem pair role

theorem Mending.drives {env : Environment} {w : World} (mending : Mending pair side files start w) (quiet : Quiet env pair)
    (pass n : Nat) : Mending pair side files start { w with disk := env.drives pass n w.disk } := by
  have same (role : DriveRole) (path : String) : (env.drives pass n w.disk).node (pair.copyOn role path) =
      w.disk.node (pair.copyOn role path) := quiet.nodes pass n w.disk _ (root_mem pair role path)
  refine { mending with
    there := fun role => quiet.there pass n w.disk role (mending.there role)
    marked := fun role rebuilds => ?_
    brought := fun file listed => ?_ }
  · have marked := mending.marked role rebuilds
    unfold Marked Disk.exists? at marked ⊢
    exact (congrArg Option.isSome (same role driveRootMarker)).trans marked
  · have before := mending.brought file listed
    refine ⟨?_,before.arrives.imp (fun good => ?_) fun waits => ⟨fun node found => waits.1 node ?_,waits.2⟩⟩
    · unfold GoodAt
      rw [same]
      exact before.good
    · unfold GoodAt
      rw [same]
      exact good
    · rw [← same]
      exact found

/-- The call of an item of the pair whose action writes to the side and whose file is good at the source. -/
theorem Mending.delivers {io : Io} {item : SyncQueueItem} {w : World} (mending : Mending pair side files start w)
    (mendable : Mendable pair side files start) (serves : Serves pair io) {now : DrivePair} (serving : Serving pair side now)
    {file : TrackedFile} (listed : file ∈ files) (flag : Bool) (heads : QuietDrains.heading now item.action = some side)
    {u : World} (same : u.disk = w.disk) :
    ∃ t, runAction io item.action now { file with isMirrored := flag } u = .ok (.ok ()) t ∧
      GoodAt t.disk (pair.copyOn side file.relativePath) file.checksum := by
  have before := mending.brought file listed
  have ready : Ready now side { file with isMirrored := flag } u.disk := by
    rw [same]
    refine ⟨fun role => by rw [serving.paths]; exact mending.there role,serving.target,?_,fun node found => ?_⟩
    · rw [serving.copyOn]
      exact before.good
    · rw [serving.copyOn] at found
      rcases before.arrives with ⟨other,there,whole,_⟩ | waits
      · cases found.symm.trans there
        exact whole
      · exact waits.1 node found
  have apart : now.pathForRole side.opposite ≠ now.pathForRole side := by
    rw [serving.paths,serving.paths]
    exact mendable.apart
  obtain ⟨t,ran,arrived⟩ := runAction_delivers heads (serving.serves serves) apart ready
  rw [serving.copyOn] at arrived
  exact ⟨t,ran,arrived⟩

theorem Mending.due {w : World} (mending : Mending pair side files start w) :
    ∀ now, w.db.drivePairs.find? pair.id = some now → emergencyFailoverDue w.disk now = false := by
  intro now found
  obtain ⟨other,row,serving⟩ := mending.row
  cases found.symm.trans row
  exact not_due mending.there mending.marked serving

theorem Mending.foreign {io : Io} {item : SyncQueueItem} {w : World} (mending : Mending pair side files start w)
    (mendable : Mendable pair side files start)
    (shrinks : (after (processItem io item) w).db.pendingSyncQueue ⊆ w.db.pendingSyncQueue)
    (foreign : ∀ file, w.db.getTrackedFile item.trackedFileId = .ok file → file.drivePairId ≠ pair.id)
    (listed : item ∈ start.pendingSyncQueue) : Mending pair side files start (after (processItem io item) w) := by
  obtain ⟨now,row,serving⟩ := mending.row
  have same (role : DriveRole) (path : String) :=
    processItem_elsewhere io (mending.unmoved.others mendable) foreign _ (root_mem pair role path)
  have grown : Grown w (after (processItem io item) w) := grown_processItem io item w
  refine ⟨fun entry member => mending.shrinks (shrinks member),
    trans_of Unmoved mending.unmoved (unmoved_processItem io item w),⟨now,?_,serving⟩,
    fun role => grown.available _ (mending.there role),fun role rebuilds => ?_,fun file member => ?_⟩
  · rw [row_of_foreign (processItem_leaves io item w) foreign]
    exact row
  · have marked := mending.marked role rebuilds
    unfold Marked Disk.exists? at marked ⊢
    exact (congrArg Option.isSome (same role driveRootMarker)).trans marked
  · have before := mending.brought file member
    obtain ⟨present,own⟩ := mendable.listed file member
    refine ⟨?_,before.arrives.imp (fun good => ?_) fun waits => ⟨fun node found => waits.1 node ?_,?_⟩⟩
    · unfold GoodAt
      rw [same]
      exact before.good
    · unfold GoodAt
      rw [same]
      exact good
    · obtain ⟨entry,pending,asks,heads⟩ := waits.2
      refine ⟨entry,pending_stays io mending.unmoved present own mending.due pending asks fun equal => ?_,asks,heads⟩
      obtain rfl : entry = item :=
        FairPaging.key_injective start.pendingSyncQueue_distinct (mending.shrinks pending) listed equal
      obtain ⟨flag,there⟩ := mending.unmoved.stays present
      rw [← asks] at there
      exact foreign _ (Db.getTrackedFile_ok.mpr there) own
    · rw [← same]
      exact found

omit [Blake3] in
theorem Serving.rebuilt {now : DrivePair} (serving : Serving pair side now) {db : Db} {action : SyncAction} :
    Serving pair side (((rebuildFinishes db now action).map now.rebuilt).getD now) := by
  cases finishes : rebuildFinishes db now action with
  | none => exact serving
  | some role =>
    obtain ⟨_,rebuilding,_⟩ := rebuildFinishes_some finishes
    obtain rfl : role = side := by
      rcases side.eq_or_opposite role with same | other
      · exact same
      · rw [other,serving.source] at rebuilding
        cases rebuilding
    obtain ⟨own,other⟩ := RebuildCompletion.roleState_rebuilt now role
    rw [Option.map_some,Option.getD_some]
    refine ⟨serving.id,fun other => ?_,?_,.inl own,fun still => ?_,fun _ => serving.rebuilds rebuilding⟩
    · rw [← serving.paths other]
      cases other <;> rfl
    · rw [other _ (DriveRole.opposite_ne role)]
      exact serving.source
    · rw [own] at still
      cases still

omit [Blake3] in
theorem row_of_own {item : SyncQueueItem} {w : World} {next : Db} {now : DrivePair} (leaves : CallLeaves item w next)
    (row : w.db.drivePairs.find? pair.id = some now) (serving : Serving pair side now)
    (due : emergencyFailoverDue w.disk now = false)
    (own : ∀ file, w.db.getTrackedFile item.trackedFileId = .ok file → file.drivePairId = pair.id) :
    ∃ later, next.drivePairs.find? pair.id = some later ∧ Serving pair side later := by
  have goes : now.operational w.disk = now := by
    rw [DrivePair.operational,due]
    rfl
  have tables : w.db.operational w.disk now = w.db := by
    rw [Db.operational,due]
    rfl
  have loaded {file : TrackedFile} {other : DrivePair} (hasFile : w.db.getTrackedFile item.trackedFileId = .ok file)
      (hasPair : w.db.getDrivePair file.drivePairId = .ok other) : other = now := by
    have found := Db.getDrivePair_ok.mp hasPair
    rw [own file hasFile,row] at found
    exact (Option.some.inj found).symm
  cases leaves with
  | untouched => exact ⟨now,row,serving⟩
  | skipped hasFile hasPair skips =>
    obtain rfl := loaded hasFile hasPair
    rw [tables]
    exact ⟨_,row,serving⟩
  | stranded hasFile hasPair runs =>
    obtain rfl := loaded hasFile hasPair
    rw [itemStarted,tables]
    exact ⟨_,row,serving⟩
  | failed hasFile hasPair runs message =>
    obtain rfl := loaded hasFile hasPair
    rw [itemStarted,tables]
    exact ⟨_,row,serving⟩
  | verified hasFile hasPair runs plain =>
    obtain rfl := loaded hasFile hasPair
    rw [itemStarted,tables]
    exact ⟨_,row,serving⟩
  | @finished file other hasFile hasPair runs sets =>
    obtain rfl := loaded hasFile hasPair
    rw [goes,itemStarted,tables,← serving.id]
    refine ⟨_,find?_finalized item.action ?_,serving.rebuilt⟩
    rw [serving.id]
    exact row

theorem Mending.own {io : Io} {item : SyncQueueItem} {w : World} (mending : Mending pair side files start w)
    (mendable : Mendable pair side files start) (serves : Serves pair io)
    (shrinks : (after (processItem io item) w).db.pendingSyncQueue ⊆ w.db.pendingSyncQueue)
    (listed : item ∈ start.pendingSyncQueue) {file : TrackedFile} (hasFile : w.db.getTrackedFile item.trackedFileId = .ok file)
    (own : file.drivePairId = pair.id) : Mending pair side files start (after (processItem io item) w) := by
  obtain ⟨now,row,serving⟩ := mending.row
  have due := mending.due now row
  have goes : now.operational w.disk = now := by
    rw [DrivePair.operational,due]
    rfl
  have hasPair : w.db.getDrivePair file.drivePairId = .ok now := by
    rw [own]
    exact Db.getDrivePair_ok.mpr row
  obtain ⟨old,present,key,flag,rfl⟩ := mending.unmoved.file (Db.getTrackedFile_ok.mp hasFile)
  have belongs : start.ofDrivePair pair.id item.trackedFileId = true :=
    Db.ofDrivePair_iff.mpr ⟨old,by rw [← key]; exact Table.find?_of_mem _ present,own⟩
  obtain ⟨away,plain⟩ := mendable.towards item listed belongs
  have headed := serving.heading mendable.serving plain
  cases skipped : itemSkipped item now w.disk with
  | true =>
    have tables : w.db.operational w.disk now = w.db := by
      rw [Db.operational,due]
      rfl
    rw [after_of_ok (processItem_skipped hasFile hasPair skipped),tables]
    exact mending
  | false =>
    have disk : (after (processItem io item) w).disk = _ := processItem_disk hasFile hasPair
    rw [skipped,if_neg Bool.false_ne_true,goes] at disk
    have grown : Grown w (after (processItem io item) w) := grown_processItem io item w
    -- Whatever the action does, it writes to the copy of this file on the side at most.
    have spares {place : Location} {node : FileNode}
        (apart : QuietDrains.heading pair item.action = some side → place ≠ pair.copyOn side old.relativePath)
        (found : w.disk.node place = some node) : (after (processItem io item) w).disk.node place = some node := by
      rw [disk]
      refine runAction_spares io (fun other heads => ?_) (w := itemStarted item now w) found
      rw [headed] at heads
      rcases side.eq_or_opposite other with rfl | rfl
      · rw [serving.copyOn]
        exact apart heads
      · exact absurd heads away
    have arrives (heads : QuietDrains.heading pair item.action = some side) (member : old ∈ files) :
        GoodAt (after (processItem io item) w).disk (pair.copyOn side old.relativePath) old.checksum := by
      obtain ⟨t,ran,arrived⟩ := mending.delivers mendable serves serving member flag (headed.trans heads)
        (u := itemStarted item now w) rfl
      rw [disk,after_of_ok ran]
      exact arrived
    have unmoved : Unmoved start (after (processItem io item) w).db :=
      trans_of Unmoved mending.unmoved (unmoved_processItem io item w)
    have roots (path other : String) : pair.copyOn side.opposite path ≠ pair.copyOn side other :=
      fun same => mendable.apart (congrArg Location.root same)
    have later := row_of_own (processItem_leaves io item w) row serving due fun other found => by
      cases hasFile.symm.trans found
      exact own
    refine ⟨fun entry member => mending.shrinks (shrinks member),unmoved,later,
      fun role => grown.available _ (mending.there role),fun role rebuilds => ?_,fun entry member => ?_⟩
    · have marked := mending.marked role rebuilds
      obtain ⟨node,found⟩ := Option.isSome_iff_exists.mp marked
      by_cases written : QuietDrains.heading pair item.action = some side ∧
          driveRootMarkerPath (pair.pathForRole role) = pair.copyOn side old.relativePath
      · -- The file is tracked at the place of the marker, and good there.
        obtain ⟨heads,place⟩ := written
        have target : role = side := by
          rcases side.eq_or_opposite role with same | rfl
          · exact same
          · exact absurd place (roots _ _)
        have good := arrives heads (mendable.whole (rebuilds target) old present own)
        rw [← place] at good
        exact exists_of_good good
      · have still := spares (fun heads place => written ⟨heads,place⟩) found
        exact (congrArg Option.isSome still).trans rfl
    · have before := mending.brought entry member
      obtain ⟨there,mine⟩ := mendable.listed entry member
      have stays {role : DriveRole} (apart : role = side → QuietDrains.heading pair item.action = some side → entry ≠ old)
          (good : GoodAt w.disk (pair.copyOn role entry.relativePath) entry.checksum) :
          GoodAt (after (processItem io item) w).disk (pair.copyOn role entry.relativePath) entry.checksum := by
        obtain ⟨node,found,rest⟩ := good
        refine ⟨node,spares (fun heads place => ?_) found,rest⟩
        have root : pair.pathForRole role = pair.pathForRole side := congrArg Location.root place
        have target : role = side := by
          rcases side.eq_or_opposite role with same | rfl
          · exact same
          · exact absurd root mendable.apart
        exact apart target heads (mendable.paths entry there old present mine own (congrArg Location.relativePath place))
      refine ⟨stays (fun same _ => absurd same (DriveRole.opposite_ne side)) before.good,?_⟩
      by_cases delivered : entry = old ∧ QuietDrains.heading pair item.action = some side
      · obtain ⟨rfl,heads⟩ := delivered
        exact .inl (arrives heads member)
      · refine before.arrives.imp (stays fun _ heads same => delivered ⟨same,heads⟩) fun waits => ⟨fun node found => ?_,?_⟩
        · exact (grown.whole _ node found).elim (waits.1 node) id
        · obtain ⟨asked,pending,asks,heads⟩ := waits.2
          refine ⟨asked,pending_stays io mending.unmoved there mine mending.due pending asks fun equal => ?_,asks,heads⟩
          · obtain rfl : asked = item :=
              FairPaging.key_injective start.pendingSyncQueue_distinct (mending.shrinks pending) listed equal
            refine delivered ⟨Table.key_injective _ there present ?_,heads⟩
            exact asks.symm.trans key.symm

theorem Mending.call {env : Environment} {item : SyncQueueItem} {w : World} (mending : Mending pair side files start w)
    (mendable : Mendable pair side files start) (quiet : Quiet env pair) (listed : item ∈ start.pendingSyncQueue)
    (pass n : Nat) : Mending pair side files start
      (after (processItem (env.io pass n) item) { w with disk := env.drives pass n w.disk }) := by
  have moved := mending.drives quiet pass n
  have shrinks := (passEffect_call env pass n item w).shrinks
  by_cases own : ∃ file, w.db.getTrackedFile item.trackedFileId = .ok file ∧ file.drivePairId = pair.id
  · obtain ⟨file,hasFile,own⟩ := own
    exact moved.own mendable (quiet.serves pass n) shrinks listed hasFile own
  · push Not at own
    exact moved.foreign mendable shrinks own listed

/-! What every call keeps, every drain keeps. -/

variable {P : World → Prop} {env : Environment} {stopBy : Option Nat} {listed : List SyncQueueItem}

theorem drainCalls_keeps (call : ∀ pass n item w, item ∈ listed → P w →
      P (after (processItem (env.io pass n) item) { w with disk := env.drives pass n w.disk }))
    {calls : List (Nat × SyncQueueItem)} (members : ∀ entry ∈ calls, entry.2 ∈ listed) (pass n : Nat) (stopped : List Nat)
    {w : World} (holds : P w) : P (drainCalls env stopBy pass n stopped calls w).2 := by
  induction calls generalizing n stopped w with
  | nil => exact holds
  | cons entry rest ih =>
    obtain ⟨pairId,item⟩ := entry
    obtain ⟨here,later⟩ := List.forall_mem_cons.mp members
    rw [drainCalls]
    split
    · exact ih later (n + 1) stopped holds
    · split
      · exact ih later (n + 1) (pairId::stopped) holds
      · exact ih later (n + 1) stopped (call pass n item w here holds)

theorem drainLoop_keeps (settings : ∀ (w : World) settings, P w → P { w with db := { w.db with syncSettings := settings } })
    (pending : ∀ w, P w → w.db.pendingSyncQueue ⊆ listed)
    (call : ∀ pass n item w, item ∈ listed → P w →
      P (after (processItem (env.io pass n) item) { w with disk := env.drives pass n w.disk }))
    {fuel pass processed count : Nat} {w ended : World} (holds : P w)
    (ran : drainLoop env stopBy fuel pass processed w = some (count,ended)) : P ended := by
  induction fuel generalizing pass processed w with
  | zero => cases ran
  | succ fuel ih =>
    have beat : P { w with db := w.db.heartbeatSyncProcessingLock (env.now pass 0) } := settings w _ holds
    have members : ∀ entry ∈ (env.order pass ((w.db.heartbeatSyncProcessingLock
        (env.now pass 0)).listPendingSyncQueueWithDrivePair drainPageSize)).calls, entry.2 ∈ listed := by
      intro entry member
      refine pending w holds (frontPage_subset w.db ?_)
      exact (mem_calls env pass w.db entry.2).mp (List.mem_map_of_mem member)
    have passed : P (drainCalls env stopBy pass 0 [] _ _).2 := drainCalls_keeps call members pass 0 [] beat
    rw [drainLoop] at ran
    dsimp only at ran
    split at ran
    · cases ran
      exact beat
    · split at ran
      · cases ran
        exact beat
      · split at ran
        · cases ran
          exact passed
        · exact ih passed ran

omit [Blake3] in
/-- No item of the queue is for a pair that is quiescing or gone, and fewer than a page wait for the user. -/
structure Flowing (db : Db) : Prop where
  none_stuck : ∀ item ∈ db.pendingSyncQueue, db.stuck item = false
  few : (db.pendingSyncQueue.filter (fun item => item.action == .userActionRequired)).length < drainPageSize

theorem drainLoop_shrinks {start w ended : World} {fuel pass processed count : Nat}
    (shrinks : w.db.pendingSyncQueue ⊆ start.db.pendingSyncQueue)
    (ran : drainLoop env stopBy fuel pass processed w = some (count,ended)) :
    ended.db.pendingSyncQueue ⊆ start.db.pendingSyncQueue := by
  refine drainLoop_keeps (P := fun w => w.db.pendingSyncQueue ⊆ start.db.pendingSyncQueue) (fun _ _ holds => holds)
    (fun _ holds => holds) (fun pass n item w _ holds row member => ?_) shrinks ran
  exact holds ((passEffect_call env pass n item w).shrinks member)

theorem drainLoop_flows (env : Environment) {start : World} (unpaused : start.db.syncSettings.queuePaused = false)
    (flowing : Flowing start.db) : ∃ fuel count ended, drainLoop env none fuel 0 0 start = some (count,ended) ∧
      ∀ item ∈ ended.db.pendingSyncQueue, item.action = .userActionRequired := by
  have behind : StuckBehind start.db (firmlyLeft start.db) := by
    intro item member stuck
    rw [flowing.none_stuck item member] at stuck
    cases stuck
  obtain ⟨fuel,count,ended,ran⟩ := loop_returns_of_firmlyLeft env unpaused behind
  refine ⟨fuel,count,ended,ran,fun item left => ?_⟩
  by_contra automatic
  have member := drainLoop_shrinks (List.Subset.refl _) ran left
  have moves : start.db.movable item = true := by
    have free := flowing.none_stuck item member
    rw [stuck_eq_not_movable automatic,Bool.not_eq_false'] at free
    exact free
  have near : before start.db (start.db.pendingSyncQueue.filter
      (fun other => other.action == .userActionRequired || other == item)) item < drainPageSize := by
    refine lt_of_le_of_lt ?_ flowing.few
    apply List.Nodup.length_le_of_subset
    · exact ((pendingSyncQueue_nodup start.db).filter _).filter _
    · intro other early
      obtain ⟨inside,ahead⟩ := FairPaging.mem_ahead.mp early
      obtain ⟨present,kept⟩ := List.mem_filter.mp inside
      refine List.mem_filter.mpr ⟨present,?_⟩
      rcases Bool.or_eq_true_iff.mp kept with waits | same
      · exact waits
      · rw [beq_iff_eq.mp same] at ahead
        rcases ahead with less | ⟨_,less⟩ <;> exact absurd less (Nat.lt_irrefl _)
  refine drainLoop_drains unpaused member moves (fun other => other.action == .userActionRequired || other == item)
    (fun other waits => ?_) ?_ near (atTop_start _ (List.nil_subset _)) ran item left rfl
  · simp [waits]
  · simp

theorem Mending.settings {w : World} (mending : Mending pair side files start w) (settings : SyncSettings) :
    Mending pair side files start { w with db := { w.db with syncSettings := settings } } :=
  ⟨mending.shrinks,⟨mending.unmoved.files,mending.unmoved.roots⟩,mending.row,mending.there,mending.marked,
    fun file member => ⟨(mending.brought file member).good,(mending.brought file member).arrives⟩⟩

theorem drain_ends {w : World} (acquired : acquires env w = true) (unpaused : w.db.syncSettings.queuePaused = false)
    (flowing : Flowing w.db.requeueInProgressSyncQueue)
    (settings : ∀ (w : World) settings, P w → P { w with db := { w.db with syncSettings := settings } })
    (pending : ∀ w, P w → w.db.pendingSyncQueue ⊆ listed)
    (call : ∀ pass n item w, item ∈ listed → P w →
      P (after (processItem (env.io pass n) item) { w with disk := env.drives pass n w.disk }))
    (holds : P { w with db := w.db.requeueInProgressSyncQueue }) :
    ∃ fuel count ended, processAllPending env none fuel w = some (count,ended) ∧ P ended ∧
      ∀ item ∈ ended.db.pendingSyncQueue, item.action = .userActionRequired := by
  obtain ⟨kept,paused,same⟩ := requeued_db env w
  have begins : P (requeued env w) := by
    rw [same]
    exact settings _ kept holds
  have running : (requeued env w).db.syncSettings.queuePaused = false := by
    rw [same]
    exact paused.trans unpaused
  have flows : Flowing (requeued env w).db := by
    rw [same]
    exact ⟨flowing.none_stuck,flowing.few⟩
  obtain ⟨fuel,count,ended,ran,drained⟩ := drainLoop_flows env running flows
  have ends : P ended := drainLoop_keeps settings pending call begins ran
  refine ⟨fuel,count,{ ended with db := ended.db.releaseSyncProcessingLock },?_,settings ended _ ends,drained⟩
  rw [processAllPending,acquired,if_pos rfl,ran]
  rfl

omit [Blake3] in
theorem drained_heading {w : World} (drained : ∀ item ∈ w.db.pendingSyncQueue, item.action = .userActionRequired)
    {item : SyncQueueItem} (pending : item ∈ w.db.pendingSyncQueue) : heading pair item.action = none := by
  rw [drained item pending]
  rfl

theorem Mending.arrived {w : World} (mending : Mending pair side files start w)
    (drained : ∀ item ∈ w.db.pendingSyncQueue, item.action = .userActionRequired) {file : TrackedFile} (listed : file ∈ files)
    (role : DriveRole) : GoodAt w.disk (pair.copyOn role file.relativePath) file.checksum := by
  have brought := mending.brought file listed
  rcases side.eq_or_opposite role with rfl | rfl
  · rcases brought.arrives with good | ⟨_,item,pending,_,heads⟩
    · exact good
    · rw [drained_heading drained pending] at heads
      cases heads
  · exact brought.good

theorem drain_delivers {w : World} (acquired : acquires env w = true) (unpaused : w.db.syncSettings.queuePaused = false)
    (flowing : Flowing w.db.requeueInProgressSyncQueue) (quiet : Quiet env pair)
    (mendable : Mendable pair side files w.db.requeueInProgressSyncQueue)
    (mending : Mending pair side files w.db.requeueInProgressSyncQueue
      { w with db := w.db.requeueInProgressSyncQueue }) :
    ∃ fuel count ended, processAllPending env none fuel w = some (count,ended) ∧
      Mending pair side files w.db.requeueInProgressSyncQueue ended ∧
      ∀ file ∈ files, ∀ role, GoodAt ended.disk (pair.copyOn role file.relativePath) file.checksum := by
  obtain ⟨fuel,count,ended,ran,ends,drained⟩ := drain_ends acquired unpaused flowing
    (fun _ settings before => before.settings settings) (fun _ before => before.shrinks)
    (fun pass n _ _ listed before => before.call mendable quiet listed pass n) mending
  exact ⟨fuel,count,ended,ran,ends,fun file listed role => ends.arrived drained listed role⟩

end

end BitProtector.QuietDrains
