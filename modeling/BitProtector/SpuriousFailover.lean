import BitProtector.MarkerOrder
import BitProtector.ItemStatus

/-! Runs of the program over the root markers: whatever is asked of it, a failover marks the
active side of a pair failed only if somebody had put the marker of the standby root first. -/
namespace BitProtector.SpuriousFailover
open Effect Growth RootMarkers MarkerOrder DrivePaths

/-- No side of the pair is failed that was not. -/
def Spared (pairId : Nat) (w t : World) : Prop :=
  ∀ next, t.db.drivePairs.find? pairId = some next → ∀ role, next.roleState role = .failed →
    ∃ pair, w.db.drivePairs.find? pairId = some pair ∧ pair.roleState role = .failed

structure Outcome (pairId : Nat) (w t : World) : Prop where
  ordered : AllInOrder pairId t
  spared : Spared pairId w t

/-- How an operation ends that found the pair safe. -/
def Ends {α : Type} (pairId : Nat) (touches : Touches) (x : Act α) : Prop :=
  ∀ w, Safe pairId touches w → Outcome pairId w (after x w)

theorem spared_of_row {pairId : Nat} {w t : World} (row : t.db.drivePairs.find? pairId = w.db.drivePairs.find? pairId) :
    Spared pairId w t := fun next found _ failed => ⟨next,row ▸ found,failed⟩

theorem outcome_of_held {pairId : Nat} {w t : World} (held : Held pairId w t) : Outcome pairId w t :=
  ⟨held.ordered,spared_of_row held.row⟩

theorem Outcome.after_held {pairId : Nat} {w u t : World} (held : Held pairId w u) (outcome : Outcome pairId u t) :
    Outcome pairId w t := by
  refine ⟨outcome.ordered,fun next found role failed => ?_⟩
  obtain ⟨pair,row,same⟩ := outcome.spared next found role failed
  exact ⟨pair,held.row ▸ row,same⟩

theorem ends_of_guarded {α : Type} {pairId : Nat} {touches : Touches} {x : Act α}
    (guarded : Keeps (Guarded pairId touches) x) : Ends pairId touches x :=
  fun w safe => outcome_of_held (guarded w safe)

theorem ends_bind {α β : Type} {pairId : Nat} {touches : Touches} {x : Act α} {f : α → Act β}
    (first : Keeps (Guarded pairId touches) x) (second : ∀ a, Ends pairId touches (f a)) :
    Ends pairId touches (x >>= f) := by
  intro w safe
  have held := first w safe
  cases ran : x w with
  | error message t =>
    rw [after_of_error ran] at held
    rw [after_bind_of_error ran]
    exact outcome_of_held held
  | ok a t =>
    rw [after_of_ok ran] at held
    rw [after_bind_of_ok ran]
    exact (second a t (safe.after held)).after_held held

/-! Changes of a row. -/

/-- A statement that leaves the disks alone, and which row it writes anew. -/
structure Changes (pairId id : Nat) (change : DrivePair → DrivePair) (w t : World) : Prop where
  disk : t.disk = w.disk
  row : ∀ next, t.db.drivePairs.find? pairId = some next →
    ∃ pair, w.db.drivePairs.find? pairId = some pair ∧ (next = pair ∨ id = pairId ∧ next = change pair)

theorem Changes.outcome {pairId id : Nat} {change : DrivePair → DrivePair} {w t : World}
    (changes : Changes pairId id change w t) (ordered : AllInOrder pairId w)
    (changed : id = pairId → ∀ pair, w.db.drivePairs.find? pairId = some pair → InOrder w.disk (change pair))
    (states : id = pairId → ∀ pair, w.db.drivePairs.find? pairId = some pair →
      ∀ role, (change pair).roleState role = .failed → pair.roleState role = .failed) : Outcome pairId w t := by
  constructor
  · intro next found
    rw [changes.disk]
    obtain ⟨pair,row,rfl | ⟨own,rfl⟩⟩ := changes.row next found
    · exact ordered next row
    · exact changed own pair row
  · intro next found role failed
    obtain ⟨pair,row,rfl | ⟨own,rfl⟩⟩ := changes.row next found
    · exact ⟨next,row,failed⟩
    · exact ⟨pair,row,states own pair row role failed⟩

theorem changes_updateWhere (pairId : Nat) {id : Nat} {change : DrivePair → DrivePair} {w t : World}
    (keepsKey : ∀ row, Keyed.key (change row) = Keyed.key row) (disk : t.disk = w.disk)
    (written : t.db.drivePairs = w.db.drivePairs.updateWhere (fun pair => pair.id == id) change keepsKey) :
    Changes pairId id change w t := by
  refine ⟨disk,fun next found => ?_⟩
  rw [written,Table.find?_updateWhere] at found
  obtain ⟨pair,row,rfl⟩ := Option.map_eq_some_iff.mp found
  have key : pair.id = pairId := Table.find?_key row
  refine ⟨pair,row,?_⟩
  split
  · rename_i own
    exact .inr ⟨(beq_iff_eq.mp own).symm.trans key,rfl⟩
  · exact .inl rfl

theorem updateRuntime_after (id : Nat) (pp sp ps ss active) (w : World) :
    after (updateRuntime id pp sp ps ss active) w =
      { w with db := w.db.updateDrivePairRuntime id pp sp ps ss active } := by
  rw [updateRuntime,after_bind_of_ok (Act.execute_apply _ _)]
  exact Act.after_query _ _

theorem changes_updateRuntime (pairId id : Nat) (pp sp ps ss active) (w : World) :
    Changes pairId id (fun pair => pair.withRuntime pp sp ps ss active) w
      (after (updateRuntime id pp sp ps ss active) w) := by
  rw [updateRuntime_after]
  exact changes_updateWhere pairId (fun pair => pair.key_withRuntime pp sp ps ss active) rfl rfl

theorem outcome_bind {α β : Type} {pairId : Nat} {w : World} {x : Act α} {f : α → Act β}
    (first : Outcome pairId w (after x w)) (rest : ∀ a, Keeps (Marking []) (f a)) :
    Outcome pairId w (after (x >>= f) w) := by
  cases ran : x w with
  | error message t =>
    rw [after_of_error ran] at first
    rw [after_bind_of_error ran]
    exact first
  | ok a t =>
    rw [after_of_ok ran] at first
    rw [after_bind_of_ok ran]
    have still := rest a t
    refine ⟨fun next found whole => ?_,fun next found => ?_⟩
    · rw [still.pairs] at found
      exact still.grows.keeps_order (first.ordered next found whole) (.inl (precedes_nil _ _))
    · rw [still.pairs] at found
      exact first.spared next found

theorem ends_then {α β : Type} {pairId : Nat} {touches : Touches} {x : Act α} {f : α → Act β}
    (first : Ends pairId touches x) (rest : ∀ a, Keeps (Marking []) (f a)) : Ends pairId touches (x >>= f) :=
  fun w safe => outcome_bind (first w safe) rest

theorem not_whole_of_state {pair : DrivePair} (role : DriveRole) {state : DriveState}
    (held : pair.roleState role = state) (gone : state = .failed ∨ state = .rebuilding) : ¬Whole pair := by
  intro whole
  rcases whole role with active | quiescing
  · rw [held] at active
    rcases gone with rfl | rfl <;> cases active
  · rw [held] at quiescing
    rcases gone with rfl | rfl <;> cases quiescing

theorem whole_withState {pair : DrivePair} {role : DriveRole} {state : DriveState}
    (before : pair.roleState role = .active ∨ pair.roleState role = .quiescing)
    (whole : Whole (pair.withState role state none)) : Whole pair := by
  intro other
  rcases role.eq_or_opposite other with rfl | rfl
  · exact before
  · have opposite := whole role.opposite
    rwa [DrivePair.withState_opposite] at opposite

theorem ends_changeState {pairId id : Nat} {touches : Touches} {role : DriveRole} {current target : DriveState}
    {message : DrivePair → String} (before : current = .active ∨ current = .quiescing) (sound : target ≠ .failed) :
    Ends pairId touches (do
      let pair ← Act.query (fun db => db.getDrivePair id)
      Act.ensure (pair.roleState role == current) (message pair)
      updateRuntime id none none (forRole role .primary target) (forRole role .secondary target) none) := by
  intro w safe
  cases read : w.db.getDrivePair id with
  | error text =>
    rw [after_bind_of_error (show Act.query (fun db => db.getDrivePair id) w = .error text w by
      simp only [Act.query,read])]
    exact outcome_of_held (refl_of (Guarded pairId touches) w safe)
  | ok pair =>
    rw [after_bind_of_ok (show Act.query (fun db => db.getDrivePair id) w = .ok pair w by
      simp only [Act.query,read])]
    cases state : pair.roleState role == current with
    | false =>
      rw [after_bind_of_error (Act.ensure_false _ _)]
      exact outcome_of_held (refl_of (Guarded pairId touches) w safe)
    | true =>
      rw [after_bind_of_ok (Act.ensure_true _ _)]
      have row := Db.getDrivePair_ok.mp read
      have held : pair.roleState role = .active ∨ pair.roleState role = .quiescing := by
        rw [beq_iff_eq.mp state]
        exact before
      refine (changes_updateRuntime pairId id _ _ _ _ _ w).outcome safe.ordered ?_ ?_
      · rintro rfl other there
        obtain rfl : other = pair := Option.some.inj (there.symm.trans row)
        intro whole marked
        exact safe.ordered other there (whole_withState held whole) marked
      · rintro rfl other there side failed
        have written : (other.withState role target none).roleState side = .failed := failed
        rcases role.eq_or_opposite side with rfl | rfl
        · rw [DrivePair.withState_same] at written
          exact absurd written sound
        · rwa [DrivePair.withState_opposite] at written

theorem ends_markDriveQuiescing (pairId : Nat) (touches : Touches) (id : Nat) (role : DriveRole) :
    Ends pairId touches (markDriveQuiescing id role) :=
  ends_changeState (.inl rfl) (by decide)

theorem ends_cancelDriveQuiescing (pairId : Nat) (touches : Touches) (id : Nat) (role : DriveRole) :
    Ends pairId touches (cancelDriveQuiescing id role) :=
  ends_changeState (.inr rfl) (by decide)

theorem inOrder_of_state (disk : Disk) {pair : DrivePair} (role : DriveRole) {state : DriveState}
    (held : pair.roleState role = state) (gone : state = .failed ∨ state = .rebuilding) : InOrder disk pair :=
  fun whole => absurd whole (not_whole_of_state role held gone)

def OrderKept (pairId : Nat) (w t : World) : Prop := AllInOrder pairId w → AllInOrder pairId t

instance (pairId : Nat) : IsPreorder World (OrderKept pairId) where
  refl _ := id
  trans _ _ _ first second := second ∘ first

theorem orderKept_of_marking {α : Type} (pairId : Nat) {x : Act α} (marking : Keeps (Marking []) x) :
    Keeps (OrderKept pairId) x := by
  intro w ordered pair found whole
  have still := marking w
  rw [still.pairs] at found
  exact still.grows.keeps_order (ordered pair found whole) (.inl (precedes_nil _ _))

theorem orderKept_confirmDriveFailure (pairId id : Nat) (role : DriveRole) :
    Keeps (OrderKept pairId) (confirmDriveFailure id role) := by
  refine keeps_bind (orderKept_of_marking _ (marking_query _ _)) fun pair => ?_
  refine keeps_bind (orderKept_of_marking _ (marking_ensure _ _ _)) fun _ => ?_
  refine keeps_bind (orderKept_of_marking _ (marking_look _ _)) fun _ => ?_
  refine keeps_bind (orderKept_of_marking _ (marking_ensure _ _ _)) fun _ => ?_
  refine keeps_bind (fun w ordered next found => ?_) fun _ => ?_
  · have changes := changes_updateRuntime pairId id none none (forRole role .primary .failed)
      (forRole role .secondary .failed) (some (pair.nextActive role)) w
    rw [changes.disk]
    obtain ⟨other,row,rfl | ⟨_,rfl⟩⟩ := changes.row next found
    · exact ordered next row
    · refine inOrder_of_state _ role ?_ (.inl rfl)
      exact DrivePair.withState_same other role .failed _
  · refine keeps_bind (orderKept_of_marking _ (marking_execute _ fun _ => rfl)) fun _ => ?_
    exact keeps_bind (orderKept_of_marking _ (marking_execute _ fun _ => rfl)) fun _ => keeps_pure _

/-! Requests for pairs. -/

theorem marking_wipe {path : Location} (ordinary : path.relativePath ≠ driveRootMarker) (w : World) :
    Marking [] w { w with disk := w.disk.remove path } := by
  refine ⟨rfl,fun _ there => there,growsBy_of_iff [] fun root => ?_⟩
  have apart : driveRootMarkerPath root ≠ path := fun same => ordinary (by rw [← same]; rfl)
  rw [Marked,Marked,Disk.exists?,Disk.exists?,Disk.remove_other _ apart]

theorem marking_probeWritable (io : Io) (root message : String) :
    Keeps (Marking []) (probeWritable io root message) := by
  have ordinary : (writeTest root).relativePath ≠ driveRootMarker :=
    show ".bitprotector_write_test" ≠ driveRootMarker from by decide
  refine keeps_bind (marking_ensure _ _ _) fun _ => keeps_bind (fun w => ?_) fun _ => ?_
  · have wrote := (writesOnly_write (writeTest root) [] w).marking
    rwa [show markedBy (writeTest root) = [] from if_neg ordinary] at wrote
  · split
    · exact fun w => marking_wipe ordinary w
    · exact keeps_pure _

theorem marking_canonicalized (facts : PathFacts) (path message : String) :
    Keeps (Marking []) (canonicalized facts path message) := by
  unfold canonicalized
  split
  · exact keeps_pure _
  · exact marking_bail _ _

theorem marking_validateDrivePair (facts : PathFacts) (io : Io) (primary secondary : String) :
    Keeps (Marking []) (validateDrivePair facts io primary secondary) := by
  refine keeps_bind (marking_ensure _ _ _) fun _ => keeps_bind (marking_ensure _ _ _) fun _ => ?_
  refine keeps_bind (marking_ensure _ _ _) fun _ => keeps_bind (marking_ensure _ _ _) fun _ => ?_
  refine keeps_bind (marking_canonicalized _ _ _) fun _ => keeps_bind (marking_canonicalized _ _ _) fun _ => ?_
  refine keeps_bind (marking_ensure _ _ _) fun _ => ?_
  exact keeps_bind (marking_probeWritable _ _ _) fun _ => marking_probeWritable _ _ _

theorem marking_unlessSkipped (skipValidation : Bool) {validation : Act Unit}
    (inner : Keeps (Marking []) validation) : Keeps (Marking []) (unlessSkipped skipValidation validation) := by
  unfold unlessSkipped
  split
  · exact keeps_pure _
  · exact inner

theorem marking_getPairFor (front : Front) (id : Nat) : Keeps (Marking []) (getPairFor front id) := by
  cases front with
  | cli => exact marking_query [] fun db => db.getDrivePair id
  | api => exact marking_mapErr _ (marking_query [] fun db => db.getDrivePair id)

theorem guarded_of_unmarking {α : Type} {pairId : Nat} {touches : Touches} {x : Act α}
    (still : Keeps (Marking []) x) : Keeps (Guarded pairId touches) x :=
  fun w => guarded_of_marking ⟨(still w).pairs,(still w).available,(still w).grows.append_right touches.roots⟩

theorem marking_queueRebuild (action : SyncAction) (files : List TrackedFile) :
    Keeps (Marking []) (queueRebuild action files) := by
  induction files with
  | nil => exact keeps_pure _
  | cons file files ih =>
    refine keeps_bind (marking_insert _ fun db => ?_) fun created => keeps_bind ih fun _ => keeps_pure _
    exact (db.createSyncQueueItemDedupWithCreated_frame file.id action none none).1

theorem ends_assignReplacement (pairId : Nat) (front : Front) (facts : PathFacts) (io : Io) (id : Nat) (role : DriveRole)
    (newPath : String) (skipValidation : Bool) :
    Ends pairId ⟨[newPath],[]⟩ (assignReplacement front facts io id role newPath skipValidation) := by
  refine ends_bind (guarded_of_unmarking (marking_getPairFor _ _)) fun pair => ?_
  refine ends_bind (guarded_of_unmarking (marking_unlessSkipped _ ?_)) fun _ => ?_
  · cases role <;> exact marking_validateDrivePair _ _ _ _
  · refine ends_bind (guarded_query _ _ _) fun row => ends_bind (guarded_ensure _ _ _ _) fun _ => ?_
    refine ends_bind (guarded_marking _ _ (marking_ensureDriveRootMarker _ _)) fun _ => ?_
    refine ends_then (fun w safe => (changes_updateRuntime pairId id _ _ _ _ _ w).outcome safe.ordered
      (fun _ other _ => ?_) fun _ other _ side failed => ?_) fun updated => ?_
    · have held : (other.replaced role newPath).roleState role = .rebuilding := by
        cases role <;> rfl
      exact inOrder_of_state w.disk role held (.inr rfl)
    · cases role <;> cases side
      · cases failed
      · exact failed
      · exact failed
      · cases failed
    · refine keeps_bind (marking_query _ _) fun files => ?_
      exact keeps_bind (marking_queueRebuild _ _) fun _ => keeps_pure _

/-! Operations on the pair that they load. -/

def loadedTouches (id : Nat) (touches : DrivePair → Touches) (w : World) : Touches :=
  match w.db.drivePairs.find? id with
  | some pair => touches (pair.operational w.disk)
  | none => .nothing

def fileTouches (fileId : Nat) (touches : DrivePair → TrackedFile → Touches) (w : World) : Touches :=
  match w.db.trackedFiles.find? fileId with
  | some file => loadedTouches file.drivePairId (fun pair => touches pair file) w
  | none => .nothing

def itemTouches (itemId : Nat) (touches : DrivePair → TrackedFile → Touches) (w : World) : Touches :=
  match w.db.syncQueue.find? itemId with
  | some item => fileTouches item.trackedFileId touches w
  | none => .nothing

theorem outcome_refl {pairId : Nat} {touches : Touches} {w : World} (safe : Safe pairId touches w) : Outcome pairId w w :=
  outcome_of_held (refl_of (Guarded pairId touches) w safe)

theorem outcome_query {α β : Type} {pairId : Nat} {touches : Touches} {read : Db → Except String α} {f : α → Act β}
    {w : World} (safe : Safe pairId touches w) (rest : ∀ a, read w.db = .ok a → Outcome pairId w (after (f a) w)) :
    Outcome pairId w (after (Act.query read >>= f) w) := by
  cases found : read w.db with
  | error message =>
    rw [after_bind_of_error (show Act.query read w = .error message w by simp only [Act.query,found])]
    exact outcome_refl safe
  | ok a =>
    rw [after_bind_of_ok (show Act.query read w = .ok a w by simp only [Act.query,found])]
    exact rest a found

theorem outcome_ensure {α : Type} {pairId : Nat} {touches : Touches} {condition : Bool} {message : String}
    {f : Unit → Act α} {w : World} (safe : Safe pairId touches w) (rest : Outcome pairId w (after (f ()) w)) :
    Outcome pairId w (after (Act.ensure condition message >>= f) w) := by
  cases condition with
  | false =>
    rw [after_bind_of_error (Act.ensure_false _ _)]
    exact outcome_refl safe
  | true =>
    rw [after_bind_of_ok (Act.ensure_true _ _)]
    exact rest

theorem outcome_loaded {α : Type} {pairId id : Nat} {touches : DrivePair → Touches} {f : DrivePair → Act α} {w : World}
    (safe : Safe pairId (loadedTouches id touches w) w) (each : ∀ pair, Ends pairId (touches pair) (f pair)) :
    Outcome pairId w (after (do let pair ← loadOperationalPair id; f pair) w) := by
  cases found : w.db.drivePairs.find? id with
  | none =>
    rw [after_load_none found]
    exact outcome_refl safe
  | some pair =>
    rw [loadedTouches,found] at safe
    have read := Db.getDrivePair_ok.mpr found
    have held := guarded_operational pairId _ read safe
    rw [after_load read]
    exact (each _ _ (safe.after held)).after_held held

theorem outcome_file {α : Type} {pairId id : Nat} {touches : DrivePair → TrackedFile → Touches}
    {f : TrackedFile → DrivePair → Act α} {w : World} (safe : Safe pairId (fileTouches id touches w) w)
    (each : ∀ file pair, Ends pairId (touches pair file) (f file pair)) :
    Outcome pairId w (after (do
      let file ← Act.query (fun db => db.getTrackedFile id)
      let pair ← loadOperationalPair file.drivePairId
      f file pair) w) := by
  refine outcome_query safe fun file read => ?_
  rw [fileTouches,Db.getTrackedFile_ok.mp read] at safe
  exact outcome_loaded safe fun pair => each file pair

/-! Routes. -/

section
variable [Blake3]

theorem outcome_trackFileRoute {pairId : Nat} {w : World} (io : Io) (links : LinkAnswers)
    (resolve : String → Except String String) (id : Nat) (virtualPath : Option String)
    (safe : Safe pairId (loadedTouches id mirrorTouches w) w) :
    Outcome pairId w (after (trackFileRoute io links resolve id virtualPath) w) := by
  refine outcome_loaded safe fun pair => ends_of_guarded ?_
  refine keeps_bind (guarded_query _ _ _) fun relativePath => ?_
  refine keeps_bind (keeps_attempt (guarded_query _ _ _)) fun existing => ?_
  refine keeps_bind (guarded_trackFile _ _ _ _ _ _) fun tracked => ?_
  cases existing with
  | ok _ => exact keeps_pure _
  | error _ => exact guarded_queueNewTracking _ _ _ _

omit [Blake3] in
theorem outcome_addFolderRoute {pairId : Nat} {w : World} (io : Io) (links : LinkAnswers)
    (resolve : String → Except String String) (isDir : Bool) (id : Nat) (virtualPath : Option String) (sidecars : Bool)
    (safe : Safe pairId (loadedTouches id (fun pair => ⟨[pair.activePath],[]⟩) w) w) :
    Outcome pairId w (after (addFolderRoute io links resolve isDir id virtualPath sidecars) w) := by
  refine outcome_loaded safe fun pair => ends_of_guarded ?_
  refine keeps_bind (guarded_query _ _ _) fun folderPath => ?_
  exact keeps_bind (guarded_trackFolderWithOptions _ _ _ _ _ _ _ _) fun _ => keeps_pure _

theorem outcome_mirrorFileRoute {pairId : Nat} {w : World} (io : Io) (id : Nat)
    (safe : Safe pairId (fileTouches id (fun pair _ => mirrorTouches pair) w) w) :
    Outcome pairId w (after (mirrorFileRoute io id) w) := by
  refine outcome_file safe fun file pair => ends_of_guarded ?_
  refine keeps_bind (guarded_mirrorFile _ _ _ _) fun _ => ?_
  exact keeps_bind (guarded_execute _ _ fun _ => rfl) fun _ => guarded_execute _ _ fun _ => rfl

theorem guarded_mirrorFolderFile (pairId : Nat) (io : Io) (pair : DrivePair) (file : TrackedFile) :
    Keeps (Guarded pairId (mirrorTouches pair)) (mirrorFolderFile io pair file) := by
  refine keeps_bind (guarded_execute _ _ fun _ => rfl) fun _ => ?_
  refine keeps_bind (keeps_attempt (guarded_mirrorFile _ _ _ _)) fun copied => ?_
  cases copied with
  | error message => exact guarded_execute _ _ fun _ => rfl
  | ok _ => exact keeps_bind (guarded_execute _ _ fun _ => rfl) fun _ => guarded_execute _ _ fun _ => rfl

omit [Blake3] in
theorem guarded_startMirrorFolder (pairId : Nat) (touches : Touches) (folderId : Nat) :
    Keeps (Guarded pairId touches) (startMirrorFolder folderId) := by
  refine keeps_bind (guarded_query _ _ _) fun folder => ?_
  refine keeps_bind (guarded_loadOperationalPair _ _ _) fun pair => ?_
  refine keeps_bind (guarded_look _ _ _) fun _ => keeps_bind (guarded_ensure _ _ _ _) fun _ => ?_
  refine keeps_bind (guarded_query _ _ _) fun files => ?_
  refine keeps_bind (guarded_insertOrFail _ _ fun db => ?_) fun _ => keeps_pure _
  exact (db.startFolderMirror_frame _ _).1

def recoveryTouches (pair : DrivePair) (file : TrackedFile) (result : IntegrityCheckResult) : Touches :=
  match recoveredRole pair result.status with
  | some target => restoreTouches pair target file.relativePath
  | none => .nothing

theorem guarded_recovery (pairId : Nat) (io : Io) (pair : DrivePair) (file : TrackedFile) (result : IntegrityCheckResult) :
    Keeps (Guarded pairId (recoveryTouches pair file result))
      (attemptRecoveryWithReconciliation io pair file result) := by
  refine keeps_bind ?_ fun recovered => ?_
  · rw [attemptRecovery_eq,recoveryTouches]
    cases recoveredRole pair result.status with
    | none => exact keeps_pure _
    | some target => exact keeps_bind (guarded_restoreSide _ _ _ _ _ _) fun _ => keeps_pure _
  · split
    · refine keeps_bind (guarded_execute _ _ fun _ => rfl) fun _ => ?_
      exact keeps_bind (guarded_execute _ _ fun _ => rfl) fun _ => keeps_pure _
    · exact keeps_pure _

omit [Blake3] in
theorem sidecar_ordinary (path : Location) (name : List Char) :
    (withFileName path (name ++ ".b3".toList)).relativePath ≠ driveRootMarker := by
  intro same
  have ends := congrArg (fun text => text.toList.getLast?) same
  have own : (withFileName path (name ++ ".b3".toList)).relativePath.toList.getLast? = some '3' := by
    change (renamedTo path.relativePath (name ++ ".b3".toList)).toList.getLast? = some '3'
    rw [renamedTo,String.toList_ofList,← List.append_assoc,List.getLast?_append]
    rfl
  rw [own] at ends
  exact absurd ends (by decide)

omit [Blake3] in
theorem marking_acceptCurrent (io : Io) (item : SyncQueueItem) (file : TrackedFile) (pair : DrivePair) :
    Keeps (Marking []) (acceptCurrent io item file pair) := by
  unfold acceptCurrent
  split
  · exact marking_bail _ _
  · rename_i name _
    refine keeps_bind (marking_ensure _ _ _) fun _ => keeps_bind (fun w => ?_) fun _ => ?_
    · have wrote := (writesOnly_write (withFileName (pair.copyOn .primary file.relativePath) (name ++ ".b3".toList))
        (s!"{file.checksum}  {String.ofList name}\n".toUTF8.toList) w).marking
      rwa [markedBy,if_neg (sidecar_ordinary _ _)] at wrote
    · refine keeps_bind (marking_execute _ fun _ => rfl) fun _ => ?_
      refine keeps_bind (marking_insert _ fun db => ?_) fun _ => marking_query _ _
      exact (db.createSyncQueueItemDedupWithCreated_frame _ _ _ _).1

theorem outcome_resolveQueueItem {pairId : Nat} {w : World} (io : Io) (itemId : Nat) (resolution : String)
    (newFilePath : Option Location)
    (safe : Safe pairId (itemTouches itemId (fun pair file => resolutionTouches resolution pair file.relativePath) w) w) :
    Outcome pairId w (after (resolveQueueItem io itemId resolution newFilePath) w) := by
  refine outcome_query safe fun item read => ?_
  rw [itemTouches,Db.getSyncQueueItem_ok.mp read] at safe
  refine outcome_ensure safe (outcome_ensure safe (outcome_file safe fun file pair => ends_of_guarded ?_))
  refine keeps_bind (guarded_ensure _ _ _ _) fun _ => keeps_bind (guarded_ensure _ _ _ _) fun _ => ?_
  split
  · exact guarded_of_unmarking (marking_acceptCurrent _ _ _ _)
  · split
    · refine keeps_bind (guarded_execute _ _ fun _ => rfl) fun _ => ?_
      refine keeps_bind (guarded_query _ _ _) fun _ => ?_
      exact keeps_bind (guarded_execute _ _ fun _ => rfl) fun _ => keeps_pure _
    · refine keeps_bind (guarded_resolutionCopy _ _ _ _ _ _) fun _ => ?_
      refine keeps_bind (guarded_execute _ _ fun _ => rfl) fun _ => ?_
      exact keeps_bind (guarded_execute _ _ fun _ => rfl) fun _ => guarded_query _ _ _

omit [Blake3] in
theorem roleState_rebuilt {pair : DrivePair} {role side : DriveRole} (failed : (pair.rebuilt role).roleState side = .failed) :
    pair.roleState side = .failed := by
  cases role <;> cases side
  · cases failed
  · exact failed
  · exact failed
  · cases failed

omit [Blake3] in
theorem outcome_finalized {pairId : Nat} {w : World} {pair : DrivePair} {action : SyncAction} (ordered : AllInOrder pairId w)
    (row : w.db.drivePairs.find? pair.id = some pair)
    (finishes : pair.id = pairId → ∀ role, rebuildFinishes w.db pair action = some role →
      InOrder w.disk (pair.rebuilt role)) : Outcome pairId w { w with db := w.db.finalized pair action } := by
  by_cases own : pair.id = pairId
  · subst own
    have found := find?_finalized action row
    constructor
    · intro next there
      obtain rfl : _ = next := Option.some.inj (found.symm.trans there)
      cases ends : rebuildFinishes w.db pair action with
      | none => exact ordered pair row
      | some role => exact finishes rfl role ends
    · intro next there side failed
      obtain rfl : _ = next := Option.some.inj (found.symm.trans there)
      refine ⟨pair,row,?_⟩
      cases ends : rebuildFinishes w.db pair action with
      | none => rwa [ends] at failed
      | some role =>
        rw [ends] at failed
        exact roleState_rebuilt failed
  · have same := find?_finalized_other w.db pair action (Ne.symm own)
    refine ⟨fun next there => ?_,spared_of_row same⟩
    rw [same] at there
    exact ordered next there

/-- If the item ends a rebuild, the active root is the rebuilt one or is marked. -/
def FinishesInOrder (pairId : Nat) (item : SyncQueueItem) (w : World) : Prop :=
  ∀ file pair role, w.db.trackedFiles.find? item.trackedFileId = some file → file.drivePairId = pairId →
    w.db.drivePairs.find? pairId = some pair →
    rebuildFinishes (itemFinished item file (itemStarted item pair w).db) pair item.action = some role →
    (pair.rebuilt role).isDegraded = false →
      (pair.rebuilt role).activeRole = role ∨ Marked w.disk (pair.rebuilt role).activePath

omit [Blake3] in
theorem rebuilt_sound {pair : DrivePair} {role : DriveRole} (steady : pair.isQuiescing = false)
    (whole : Whole (pair.rebuilt role)) : (pair.rebuilt role).isDegraded = false := by
  have other := (whole role.opposite).resolve_right fun quiescing => ?_
  · rw [DrivePair.isDegraded_iff]
    cases role
    · exact ⟨rfl,other⟩
    · exact ⟨other,rfl⟩
  · have held : pair.roleState role.opposite = .quiescing := by
      cases role <;> exact quiescing
    have stopped : pair.isQuiescing = true := by
      cases role <;> simp_all [DrivePair.isQuiescing,DrivePair.roleState,DriveRole.opposite]
    rw [stopped] at steady
    cases steady

omit [Blake3] in
theorem activePath_rebuilt (pair : DrivePair) (role : DriveRole) :
    (pair.rebuilt role).activePath = pair.pathForRole (pair.rebuilt role).activeRole := by
  cases role <;> rfl

theorem runAction_marks {io : Io} {action : SyncAction} {pair : DrivePair} {file : TrackedFile} {role : DriveRole}
    {w t : World} (restores : rebuiltRole action = some role) (ok : runAction io action pair file w = .ok (.ok ()) t) :
    Marked t.disk (pair.pathForRole role) ∧ ∀ root, Marked w.disk root → Marked t.disk root := by
  cases action with
  | restoreMaster =>
    cases restores
    exact restoreSide_marks (attempt_success ok)
  | restoreMirror =>
    cases restores
    exact restoreSide_marks (attempt_success ok)
  | mirror => cases restores
  | adoptMirror => cases restores
  | verify => cases restores
  | userActionRequired => cases restores
  | other text => cases restores

omit [Blake3] in
theorem guarded_finishItem (pairId : Nat) (touches : Touches) (item : SyncQueueItem) (file : TrackedFile) (pair : DrivePair)
    (result : Except String Unit) (plain : result = .ok () → item.action.setsMirrored = false) :
    Keeps (Guarded pairId touches) (finishItem item file pair result) := by
  unfold finishItem
  cases result with
  | error message => exact guarded_execute _ _ fun _ => rfl
  | ok _ =>
    dsimp only
    rw [plain rfl]
    exact keeps_bind (guarded_execute _ _ fun _ => rfl) fun _ => keeps_pure _

theorem outcome_processItem {pairId : Nat} {w : World} (io : Io) (item : SyncQueueItem)
    (safe : Safe pairId (fileTouches item.trackedFileId (actionTouches item.action) w) w)
    (finishes : FinishesInOrder pairId item w) : Outcome pairId w (after (processItem io item) w) := by
  refine outcome_query safe fun file hasFile => ?_
  have isFile := Db.getTrackedFile_ok.mp hasFile
  simp only [fileTouches,isFile] at safe
  cases row : w.db.drivePairs.find? file.drivePairId with
  | none =>
    rw [after_load_none row]
    exact outcome_refl safe
  | some pair =>
    have hasPair := Db.getDrivePair_ok.mpr row
    have key : pair.id = file.drivePairId := Table.find?_key row
    simp only [loadedTouches,row] at safe
    have loaded := guarded_operational pairId _ hasPair safe
    rw [after_load hasPair]
    cases steady : (pair.operational w.disk).isQuiescing with
    | true => exact outcome_of_held loaded
    | false =>
      simp only [Bool.false_eq_true,if_false]
      by_cases waits : item.action = .userActionRequired
      · rw [if_pos waits]
        exact outcome_of_held loaded
      · rw [if_neg waits,after_bind_of_ok (Act.execute_apply _ _)]
        have started : Held pairId w (itemStarted item pair w) :=
          loaded.trans (guarded_of_marking (marking_of_disk _ rfl rfl) (safe.after loaded))
        have acted := started.trans (guarded_runAction pairId io item.action (pair.operational w.disk) file
          (itemStarted item pair w) (safe.after started))
        have kept := dbKept_runAction io item.action (pair.operational w.disk) file (itemStarted item pair w)
        change Outcome pairId w (after (do
          let result ← runAction io item.action (pair.operational w.disk) file
          finishItem item file (pair.operational w.disk) result) (itemStarted item pair w))
        cases ran : runAction io item.action (pair.operational w.disk) file (itemStarted item pair w) with
        | error message t =>
          rw [after_of_error ran] at acted
          rw [after_bind_of_error ran]
          exact outcome_of_held acted
        | ok result t =>
          rw [after_of_ok ran] at acted kept
          rw [after_bind_of_ok ran]
          have ready := safe.after acted
          cases result with
          | error message =>
            have ended := guarded_finishItem pairId (actionTouches item.action (pair.operational w.disk) file) item file
              (pair.operational w.disk) (.error message) nofun
            exact outcome_of_held (acted.trans (ended t ready))
          | ok _ =>
            cases sets : item.action.setsMirrored with
            | false =>
              have ended := guarded_finishItem pairId (actionTouches item.action (pair.operational w.disk) file) item file
                (pair.operational w.disk) (.ok ()) fun _ => sets
              exact outcome_of_held (acted.trans (ended t ready))
            | true =>
              have found : t.db.drivePairs.find? (pair.operational w.disk).id = some (pair.operational w.disk) := by
                rw [show t.db = (itemStarted item pair w).db from kept]
                exact find?_itemStarted item hasPair
              rw [finishItem_after sets found]
              have flagged : Held pairId w { t with db := itemFinished item file t.db } :=
                acted.trans (guarded_of_marking (marking_of_disk _ rfl rfl) ready)
              refine (outcome_finalized flagged.ordered found fun own role ends whole standby => ?_).after_held flagged
              have restores := (Option.filter_eq_some_iff.mp ends).1
              obtain ⟨restored,markers⟩ := runAction_marks restores ran
              have sound := rebuilt_sound steady whole
              rw [show t.db = (itemStarted item pair w).db from kept] at ends
              rw [DrivePair.operational_id,key] at own
              rw [own] at row
              have same : pair.operational w.disk = pair := by
                rw [DrivePair.operational,failover_not_due (safe.ordered pair row) (safe.available pair row)]
                rfl
              rw [same] at ends sound restored ⊢
              rw [activePath_rebuilt]
              rcases finishes file pair role isFile own row ends sound with rebuilt | marked
              · rwa [rebuilt]
              · rw [activePath_rebuilt] at marked
                exact markers _ marked

end

/-! Requests for pairs. -/

theorem after_inWorld {α : Type} (x : Act α) (s : Registry) :
    after (inWorld x) s = { s with world := after x s.world } := by
  unfold after inWorld
  cases x s.world <;> rfl

theorem world_discard {α : Type} (x : Act α) (s : Registry) :
    (after (do let _ ← inWorld x; pure PUnit.unit) s).world = after x s.world := by
  rw [after_discard,after_inWorld]

theorem outcome_silent {α β : Type} {pairId : Nat} {touches : Touches} {x : RegistryAct α} {f : α → RegistryAct β}
    {s : Registry} (silent : (after x s).world = s.world) (safe : Safe pairId touches s.world)
    (rest : ∀ a t, t.world = s.world → Outcome pairId s.world (after (f a) t).world) :
    Outcome pairId s.world (after (x >>= f) s).world := by
  cases ran : x s with
  | error message t =>
    rw [after_of_error ran] at silent
    rw [after_bind_of_error ran,silent]
    exact outcome_refl safe
  | ok a t =>
    rw [after_of_ok ran] at silent
    rw [after_bind_of_ok ran]
    exact rest a t silent

theorem mediaType_silent (front : Front) (role : DriveRole) (text : String) (s : Registry) :
    (after (mediaType front role text) s).world = s.world := by
  unfold mediaType
  split
  · rfl
  · split <;> rfl

theorem mediaType?_silent (front : Front) (role : DriveRole) (text : Option String) (s : Registry) :
    (after (mediaType? front role text) s).world = s.world := by
  cases text with
  | none => rfl
  | some text =>
    rw [mediaType?,after_bind_of_still fun _ _ => rfl]
    exact mediaType_silent front role text s

theorem renameDrivePair_silent (id : Nat) (name : Option String) (s : Registry) :
    (after (renameDrivePair id name) s).world = s.world := by
  cases name with
  | none => rfl
  | some name =>
    unfold after renameDrivePair
    dsimp only
    cases s.world.db.drivePairs.find? id with
    | none => rfl
    | some pair =>
      dsimp only
      cases nameTaken s id name <;> rfl

theorem outcome_createDrivePairWithMedia {pairId : Nat} (front : Front) (name : String) {primary secondary : String}
    (primaryMedia secondaryMedia : DriveMediaType) {s : Registry} (ordered : AllInOrder pairId s.world)
    (ready : s.world.db.drivePairs.lastId + 1 = pairId → Marked s.world.disk secondary → Marked s.world.disk primary) :
    Outcome pairId s.world
      (after (createDrivePairWithMedia front name primary secondary primaryMedia secondaryMedia) s).world := by
  have still : Outcome pairId s.world s.world := ⟨ordered,spared_of_row rfl⟩
  unfold after createDrivePairWithMedia
  dsimp only
  split <;> rename_i ran <;> split at ran
  · cases ran
  · split at ran
    · cases ran
    · cases ran
      constructor
      · intro next found
        dsimp only at found ⊢
        rw [Table.find?_insert] at found
        split at found
        · cases found
          exact fun _ => ready (Eq.symm ‹_›)
        · exact ordered next found
      · intro next found role failed
        dsimp only at found
        rw [Table.find?_insert] at found
        split at found
        · cases found
          cases role <;> cases failed
        · exact ⟨next,found,failed⟩
  · cases ran
    exact still
  · split at ran
    · cases ran
      exact still
    · cases ran

theorem outcome_createDrivePair {pairId : Nat} (front : Front) (facts : PathFacts) (io : Io) (name : String)
    {primary secondary : String} (primaryMediaType secondaryMediaType : String) (skipValidation : Bool) {s : Registry}
    (safe : Safe pairId .nothing s.world)
    (ready : s.world.db.drivePairs.lastId + 1 = pairId → Marked s.world.disk secondary → Marked s.world.disk primary) :
    Outcome pairId s.world (after (createDrivePair front facts io name primary secondary primaryMediaType
      secondaryMediaType skipValidation) s).world := by
  refine outcome_silent (mediaType_silent _ _ _ _) safe fun primaryMedia t first => ?_
  rw [← first] at safe ready ⊢
  refine outcome_silent (mediaType_silent _ _ _ _) safe fun secondaryMedia u second => ?_
  rw [← second] at safe ready ⊢
  have marking := marking_unlessSkipped skipValidation (marking_validateDrivePair facts io primary secondary) u.world
  have held : Held pairId u.world _ := guarded_of_marking marking safe
  have after := after_inWorld (unlessSkipped skipValidation (validateDrivePair facts io primary secondary)) u
  cases ran : inWorld (unlessSkipped skipValidation (validateDrivePair facts io primary secondary)) u with
  | error message v =>
    rw [after_of_error ran] at after
    rw [after_bind_of_error ran,after]
    exact outcome_of_held held
  | ok _ v =>
    rw [after_of_ok ran] at after
    rw [after_bind_of_ok ran]
    have world : v.world = Effect.after (unlessSkipped skipValidation (validateDrivePair facts io primary secondary)) u.world :=
      congrArg Registry.world after
    rw [← world] at held marking
    refine (outcome_createDrivePairWithMedia _ _ _ _ held.ordered fun new => ?_).after_held held
    rw [marking.pairs] at new
    exact marking.grows.keeps_order (ready new) (.inl (precedes_nil _ _))

theorem outcome_updateDrivePair {pairId : Nat} (front : Front) (id : Nat) (name primary secondary primaryMediaType
    secondaryMediaType : Option String) {s : Registry} (safe : Safe pairId .nothing s.world)
    (ready : id = pairId → ∀ pair, s.world.db.drivePairs.find? pairId = some pair →
      InOrder s.world.disk (updatedPair primary secondary none none pair)) :
    Outcome pairId s.world
      (after (updateDrivePair front id name primary secondary primaryMediaType secondaryMediaType) s).world := by
  refine outcome_silent (mediaType?_silent _ _ _ _) safe fun primaryMedia t first => ?_
  rw [← first] at safe ready ⊢
  refine outcome_silent (mediaType?_silent _ _ _ _) safe fun secondaryMedia u second => ?_
  rw [← second] at safe ready ⊢
  refine outcome_silent (renameDrivePair_silent _ _ _) safe fun _ v renamed => ?_
  rw [← renamed] at safe ready ⊢
  rw [after_bind_of_ok (show inWorld (Act.execute (fun db =>
      writeDrivePair db id primary secondary primaryMedia secondaryMedia)) v = .ok () { v with
        world := { v.world with db := writeDrivePair v.world.db id primary secondary primaryMedia secondaryMedia } } from rfl),
    after_inWorld,Act.after_query]
  have changes : Changes pairId id (updatedPair primary secondary primaryMedia secondaryMedia) v.world { v.world with
      db := writeDrivePair v.world.db id primary secondary primaryMedia secondaryMedia } :=
    changes_updateWhere pairId (key_updatedPair _ _ _ _) rfl rfl
  exact changes.outcome safe.ordered ready fun _ _ _ _ failed => failed

theorem outcome_deleteDrivePair {pairId : Nat} {touches : Touches} {w : World} (id : Nat) (safe : Safe pairId touches w) :
    Outcome pairId w (after (deleteDrivePair id) w) := by
  refine outcome_query safe fun count _ => outcome_ensure safe (outcome_query safe fun refers _ => outcome_ensure safe ?_)
  have fewer : ∀ next, (w.db.drivePairs.deleteWhere (fun pair => pair.id == id)).find? pairId = some next →
      w.db.drivePairs.find? pairId = some next := by
    intro next found
    rw [Table.find?_deleteWhere] at found
    exact (Option.filter_eq_some_iff.mp found).1
  exact ⟨fun next found => safe.ordered next (fewer next found),fun next found role failed => ⟨next,fewer next found,failed⟩⟩

theorem guarded_updateRuntime_other {pairId id : Nat} (touches : Touches) (differs : pairId ≠ id) (pp sp ps ss active) :
    Keeps (Guarded pairId touches) (updateRuntime id pp sp ps ss active) := by
  intro w safe
  rw [updateRuntime_after]
  refine held_of_row safe (find?_updateDrivePairRuntime_other _ differs _ _ _ _ _) (fun _ there => there) ?_
  exact fun pair found whole => ⟨fun held => held,safe.ordered pair found whole⟩

theorem guarded_confirm_other {pairId id : Nat} (touches : Touches) (differs : pairId ≠ id) (role : DriveRole) :
    Keeps (Guarded pairId touches) (confirmDriveFailure id role) := by
  refine keeps_bind (guarded_query _ _ _) fun pair => keeps_bind (guarded_ensure _ _ _ _) fun _ => ?_
  refine keeps_bind (guarded_look _ _ _) fun reachable => keeps_bind (guarded_ensure _ _ _ _) fun _ => ?_
  refine keeps_bind (guarded_updateRuntime_other touches differs _ _ _ _ _) fun updated => ?_
  refine keeps_bind (guarded_execute _ _ fun _ => rfl) fun _ => ?_
  exact keeps_bind (guarded_execute _ _ fun _ => rfl) fun _ => keeps_pure _

theorem emergencyFailover_after (id : Nat) (w : World) :
    after (emergencyFailover id) w = after (BitProtector.loadOperationalPair id) w := by
  unfold emergencyFailover BitProtector.loadOperationalPair getPairFor
  cases read : w.db.getDrivePair id with
  | error message =>
    have failed : Act.query (fun db => db.getDrivePair id) w = .error message w := by simp only [Act.query,read]
    have renamed : Act.mapErr (fun _ => s!"Drive pair {id} not found") (Act.query (fun db => db.getDrivePair id)) w =
        .error s!"Drive pair {id} not found" w := by
      simp only [Act.mapErr,failed]
    rw [after_bind_of_error failed,after_bind_of_error renamed]
  | ok pair =>
    have found : Act.query (fun db => db.getDrivePair id) w = .ok pair w := by simp only [Act.query,read]
    have same : Act.mapErr (fun _ => s!"Drive pair {id} not found") (Act.query (fun db => db.getDrivePair id)) w =
        .ok pair w := by
      simp only [Act.mapErr,found]
    rw [after_bind_of_ok found,after_bind_of_ok same]

def requestTouches : Request → Touches
  | .assignReplacement _ _ _ _ _ newPath _ => ⟨[newPath],[]⟩
  | _ => .nothing

/-- What a request makes of the row of the pair has its roots in order. -/
def RequestInOrder (pairId : Nat) : Request → World → Prop
  | .createDrivePair _ _ _ _ primary secondary _ _ _, w =>
    w.db.drivePairs.lastId + 1 = pairId → Marked w.disk secondary → Marked w.disk primary
  | .updateDrivePair _ id _ primary secondary _ _, w =>
    id = pairId → ∀ pair, w.db.drivePairs.find? pairId = some pair →
      InOrder w.disk (updatedPair primary secondary none none pair)
  | .maybeFinalizeRebuild id action, w =>
    id = pairId → ∀ pair role, w.db.drivePairs.find? pairId = some pair → rebuildFinishes w.db pair action = some role →
      InOrder w.disk (pair.rebuilt role)
  | _, _ => True

def Confirms (pairId : Nat) : Request → Prop
  | .confirmReplacement id _ => id = pairId
  | _ => False

theorem outcome_maybeFinalizeRebuild {pairId id : Nat} {action : SyncAction} {touches : Touches} {w : World}
    (safe : Safe pairId touches w) (ready : id = pairId → ∀ pair role, w.db.drivePairs.find? pairId = some pair →
      rebuildFinishes w.db pair action = some role → InOrder w.disk (pair.rebuilt role)) :
    Outcome pairId w (after (maybeFinalizeRebuildForAction id action) w) := by
  cases row : w.db.drivePairs.find? id with
  | none =>
    have failed : Act.query (fun db => db.getDrivePair id) w = .error Db.queryReturnedNoRows w := by
      simp only [Act.query,Db.getDrivePair,row]
    rw [maybeFinalizeRebuildForAction,after_bind_of_error failed]
    exact outcome_refl safe
  | some pair =>
    obtain rfl : pair.id = id := Table.find?_key row
    rw [maybeFinalizeRebuildForAction_after action row]
    refine outcome_finalized safe.ordered row fun own role ends => ?_
    rw [own] at row
    exact ready own pair role row ends

theorem request_outcome {pairId : Nat} {request : Request} {s : Registry}
    (safe : Safe pairId (requestTouches request) s.world) (ready : RequestInOrder pairId request s.world) :
    AllInOrder pairId (after request.run s).world ∧
      (¬Confirms pairId request → Spared pairId s.world (after request.run s).world) := by
  suffices ends : ¬Confirms pairId request → Outcome pairId s.world (after request.run s).world by
    by_cases confirms : Confirms pairId request
    · refine ⟨?_,fun other => absurd confirms other⟩
      cases request with
      | confirmReplacement id role =>
        simp only [Request.run]
        rw [world_discard]
        exact orderKept_confirmDriveFailure pairId id role s.world safe.ordered
      | _ => cases confirms
    · exact ⟨(ends confirms).ordered,fun _ => (ends confirms).spared⟩
  intro other
  cases request with
  | createDrivePair front facts io name primary secondary primaryMediaType secondaryMediaType skipValidation =>
    simp only [Request.run,after_discard]
    exact outcome_createDrivePair front facts io name primaryMediaType secondaryMediaType skipValidation safe ready
  | updateDrivePair front id name primary secondary primaryMediaType secondaryMediaType =>
    simp only [Request.run,after_discard]
    exact outcome_updateDrivePair front id name primary secondary primaryMediaType secondaryMediaType safe ready
  | deleteDrivePair id =>
    simp only [Request.run,after_inWorld]
    exact outcome_deleteDrivePair id safe
  | assignReplacement front facts io id role newPath skipValidation =>
    simp only [Request.run,world_discard]
    exact ends_assignReplacement pairId front facts io id role newPath skipValidation _ safe
  | markReplacement id role =>
    simp only [Request.run,world_discard]
    exact ends_markDriveQuiescing pairId _ id role _ safe
  | confirmReplacement id role =>
    simp only [Request.run,world_discard]
    exact ends_of_guarded (guarded_confirm_other _ (fun same => other same.symm) role) _ safe
  | cancelReplacement id role =>
    simp only [Request.run,world_discard]
    exact ends_cancelDriveQuiescing pairId _ id role _ safe
  | emergencyFailover id =>
    simp only [Request.run,world_discard,emergencyFailover_after]
    exact ends_of_guarded (guarded_loadOperationalPair _ _ _) _ safe
  | loadOperationalPair id =>
    simp only [Request.run,world_discard]
    exact ends_of_guarded (guarded_loadOperationalPair _ _ _) _ safe
  | maybeFinalizeRebuild id action =>
    simp only [Request.run,world_discard]
    exact outcome_maybeFinalizeRebuild safe ready
  | elsewhere change =>
    simp only [Request.run,after_inWorld]
    have tables : Keeps (Guarded pairId .nothing)
        (Act.execute fun db => { change db with drivePairs := db.drivePairs }) := guarded_execute _ _ fun _ => rfl
    exact ends_of_guarded tables _ safe

/-! Runs. -/

/-- What is asked of the program. The threads of a folder mirror and of an integrity run go file by
file, with a pair that they loaded earlier. -/
inductive Call
  | request (request : Request)
  | trackFile (io : Io) (links : LinkAnswers) (resolve : String → Except String String) (pairId : Nat)
      (virtualPath : Option String)
  | addFolder (io : Io) (links : LinkAnswers) (resolve : String → Except String String) (isDir : Bool) (pairId : Nat)
      (virtualPath : Option String) (includeChecksumSidecars : Bool)
  | scanFolder (io : Io) (counted walk : Walk) (folderId : Nat)
  | scanFolderCommand (io : Io) (walk : Walk) (folderId : Nat)
  | mirrorFile (io : Io) (fileId : Nat)
  | startMirrorFolder (folderId : Nat)
  | mirrorFolderFile (io : Io) (pair : DrivePair) (file : TrackedFile)
  | processItem (io : Io) (item : SyncQueueItem)
  | resolveQueueItem (io : Io) (itemId : Nat) (resolution : String) (newFilePath : Option Location)
  | recover (io : Io) (pair : DrivePair) (file : TrackedFile) (result : IntegrityCheckResult)

namespace Call

def InOrder (pairId : Nat) : Call → World → Prop
  | .request asked, w => RequestInOrder pairId asked w
  | .processItem _ item, w => FinishesInOrder pairId item w
  | _, _ => True

def Confirms (pairId : Nat) : Call → Prop
  | .request asked => SpuriousFailover.Confirms pairId asked
  | _ => False

def touches : Call → World → Touches
  | .request asked, _ => requestTouches asked
  | .trackFile _ _ _ pairId _, w => loadedTouches pairId mirrorTouches w
  | .addFolder _ _ _ _ pairId _ _, w => loadedTouches pairId (fun pair => ⟨[pair.activePath],[]⟩) w
  | .mirrorFile _ fileId, w => fileTouches fileId (fun pair _ => mirrorTouches pair) w
  | .mirrorFolderFile _ pair _, _ => mirrorTouches pair
  | .processItem _ item, w => fileTouches item.trackedFileId (actionTouches item.action) w
  | .resolveQueueItem _ itemId resolution _, w =>
    itemTouches itemId (fun pair file => resolutionTouches resolution pair file.relativePath) w
  | .recover _ pair file result, _ => recoveryTouches pair file result
  | .scanFolder .., _ | .scanFolderCommand .., _ | .startMirrorFolder .., _ => .nothing

variable [Blake3]

def run : Call → RegistryAct Unit
  | .request asked => asked.run
  | .trackFile io links resolve pairId virtualPath => inWorld (trackFileRoute io links resolve pairId virtualPath)
  | .addFolder io links resolve isDir pairId virtualPath includeChecksumSidecars =>
    inWorld (addFolderRoute io links resolve isDir pairId virtualPath includeChecksumSidecars)
  | .scanFolder io counted walk folderId => inWorld (scanFolderRoute io counted walk folderId)
  | .scanFolderCommand io walk folderId => inWorld (BitProtector.scanFolderCommand io walk folderId)
  | .mirrorFile io fileId => inWorld (mirrorFileRoute io fileId)
  | .startMirrorFolder folderId => do let _ ← inWorld (BitProtector.startMirrorFolder folderId)
  | .mirrorFolderFile io pair file => inWorld (BitProtector.mirrorFolderFile io pair file)
  | .processItem io item => inWorld (BitProtector.processItem io item)
  | .resolveQueueItem io itemId resolution newFilePath => do
    let _ ← inWorld (BitProtector.resolveQueueItem io itemId resolution newFilePath)
  | .recover io pair file result => do let _ ← inWorld (attemptRecoveryWithReconciliation io pair file result)

theorem outcome {pairId : Nat} {call : Call} {s : Registry} (safe : Safe pairId (call.touches s.world) s.world)
    (ready : call.InOrder pairId s.world) : AllInOrder pairId (after call.run s).world ∧
      (¬call.Confirms pairId → Spared pairId s.world (after call.run s).world) := by
  suffices ends : (∃ asked, call = .request asked) ∨ Outcome pairId s.world (after call.run s).world by
    rcases ends with ⟨asked,rfl⟩ | outcome
    · exact request_outcome safe ready
    · exact ⟨outcome.ordered,fun _ => outcome.spared⟩
  cases call with
  | request asked => exact .inl ⟨asked,rfl⟩
  | trackFile io links resolve id virtualPath =>
    right
    simp only [run,after_inWorld]
    exact outcome_trackFileRoute io links resolve id virtualPath safe
  | addFolder io links resolve isDir id virtualPath includeChecksumSidecars =>
    right
    simp only [run,after_inWorld]
    exact outcome_addFolderRoute io links resolve isDir id virtualPath includeChecksumSidecars safe
  | scanFolder io counted walk folderId =>
    right
    simp only [run,after_inWorld]
    exact ends_of_guarded (guarded_scanFolderRoute _ _ _ _ _ _) _ safe
  | scanFolderCommand io walk folderId =>
    right
    simp only [run,after_inWorld]
    exact ends_of_guarded (guarded_scanFolderCommand _ _ _ _ _) _ safe
  | mirrorFile io fileId =>
    right
    simp only [run,after_inWorld]
    exact outcome_mirrorFileRoute io fileId safe
  | startMirrorFolder folderId =>
    right
    simp only [run,world_discard]
    exact ends_of_guarded (guarded_startMirrorFolder _ _ _) _ safe
  | mirrorFolderFile io pair file =>
    right
    simp only [run,after_inWorld]
    exact ends_of_guarded (guarded_mirrorFolderFile _ _ _ _) _ safe
  | processItem io item =>
    right
    simp only [run,after_inWorld]
    exact outcome_processItem io item safe ready
  | resolveQueueItem io itemId resolution newFilePath =>
    right
    simp only [run,world_discard]
    exact outcome_resolveQueueItem io itemId resolution newFilePath safe
  | recover io pair file result =>
    right
    simp only [run,world_discard]
    exact ends_of_guarded (guarded_recovery _ _ _ _ _) _ safe

end Call

/-- Nobody else takes a marker away, and the active root is there. -/
def Promised (pairId : Nat) : Disk × Call → Registry → Prop
  | (disk,_), s => (∀ root, Marked s.world.disk root → Marked disk root) ∧ ActiveAvailable pairId (s.onDisk disk).world

/-- Beside what is promised, the active root is marked before the standby root. -/
structure Undisturbed (pairId : Nat) (label : Disk × Call) (s : Registry) : Prop where
  promised : Promised pairId label s
  unmarked : ∀ pair, s.world.db.drivePairs.find? pairId = some pair → Whole pair → Marked label.1 pair.standbyPath →
    Marked s.world.disk pair.standbyPath ∨ Marked label.1 pair.activePath
  clear : Clear pairId (label.2.touches (s.onDisk label.1).world) (s.onDisk label.1).world
  ready : label.2.InOrder pairId (s.onDisk label.1).world

section
variable [Blake3]

/-- A call on the disks as they are then; one that is refused keeps what it has written. -/
def step : Disk × Call → Registry → Option Registry
  | (disk,call), s => some (after call.run (s.onDisk disk))

def machine : Machine Registry (Disk × Call) := ⟨step⟩

theorem step_outcome {pairId : Nat} {label : Disk × Call} {s t : Registry} (ordered : AllInOrder pairId s.world)
    (undisturbed : Undisturbed pairId label s) (taken : step label s = some t) :
    AllInOrder pairId t.world ∧ (¬label.2.Confirms pairId → Spared pairId s.world t.world) := by
  obtain ⟨disk,call⟩ := label
  cases taken
  obtain ⟨stays,available⟩ := undisturbed.promised
  refine Call.outcome ⟨fun pair found whole standby => ?_,available,undisturbed.clear⟩ undisturbed.ready
  rcases undisturbed.unmarked pair found whole standby with marked | marked
  · exact stays _ (ordered pair found whole marked)
  · exact marked

/-- As long as the active root of a pair is marked before its standby root, no failover is due while the
active root is there, and no call fails a side of the pair but the confirmed failure of a side. -/
theorem no_spurious_failover {pairId : Nat} {disk : Disk} {s : Registry}
    (reached : machine.Reaches (Undisturbed pairId) (freshRegistry disk) s) :
    (∀ pair, s.world.db.drivePairs.find? pairId = some pair → s.world.disk.available pair.activePath = true →
      maybeEmergencyFailover pair s.world = .ok pair s.world) ∧
    ∀ label t, Undisturbed pairId label s → step label s = some t → ¬label.2.Confirms pairId →
      Spared pairId s.world t.world := by
  have ordered : AllInOrder pairId s.world := by
    apply reached.invariant
    · intro pair found
      cases found
    · exact fun label s t ordered undisturbed taken => (step_outcome ordered undisturbed taken).1
  constructor
  · intro pair found available
    have quiet := failover_not_due (ordered pair found) available
    rw [maybeEmergencyFailover]
    exact bind_of_ok (show Act.look _ s.world = .ok false s.world by rw [Act.look,quiet]) _
  · exact fun label t undisturbed taken => (step_outcome ordered undisturbed taken).2

/-- Calls one after the other, with nothing else on the disks. -/
def session (calls : List Call) (s : Registry) : Registry := calls.foldl (fun s call => after call.run s) s

theorem step_session (calls : List Call) (call : Call) (s : Registry) :
    step ((session calls s).world.disk,call) (session calls s) = some (session (calls ++ [call]) s) := by
  rw [session,session,List.foldl_append]
  rfl

end

/-! A pair, a tracked file, and an update of the primary path to a fresh directory. -/

def oneFile : Disk := ⟨fun path => if path = ⟨"/a","f"⟩ then some ⟨[1],none⟩ else none,fun _ => true⟩

def createPair : Call :=
  .request (.createDrivePair .api noFacts .healthy "first" "/a" "/b" "hdd" "hdd" true)

def track : Call := .trackFile .healthy ⟨.ok,.ok ()⟩ (fun _ => .ok "f") 1 none

def movePrimary : Call := .request (.updateDrivePair .api 1 none (some "/fresh") none none none)

def load : Call := .request (.loadOperationalPair 1)

def firstPair : DrivePair := createdPair "/a" "/b" .hdd .hdd 1

theorem promised_still {pairId : Nat} {call : Call} {s : Registry} (available : ∀ root, s.world.disk.available root = true) :
    Promised pairId (s.world.disk,call) s := ⟨fun _ held => held,fun pair _ => available pair.activePath⟩

theorem undisturbed_still {pairId : Nat} {call : Call} {s : Registry}
    (available : ∀ root, s.world.disk.available root = true) (clear : Clear pairId (call.touches s.world) s.world)
    (ready : call.InOrder pairId s.world) : Undisturbed pairId (s.world.disk,call) s :=
  ⟨promised_still available,fun _ _ _ held => .inl held,clear,ready⟩

theorem no_spurious_failover_tracked :
    letI := sampleBlake3
    (session [createPair,track] (freshRegistry oneFile)).world.db.drivePairs.find? 1 = some firstPair ∧
      maybeEmergencyFailover firstPair (session [createPair,track] (freshRegistry oneFile)).world =
        .ok firstPair (session [createPair,track] (freshRegistry oneFile)).world := by
  let _ := sampleBlake3
  have empty : Undisturbed 1 ((session [] (freshRegistry oneFile)).world.disk,createPair)
    (session [] (freshRegistry oneFile)) := by
    apply undisturbed_still
    · exact fun _ => rfl
    · intro pair found
      cases found
    · intro _ standby
      cases standby
  have created : Undisturbed 1 ((session [createPair] (freshRegistry oneFile)).world.disk,track)
      (session [createPair] (freshRegistry oneFile)) := by
    apply undisturbed_still
    · exact fun _ => rfl
    · intro pair found _
      cases found
      exact ⟨.inl (precedes_cons "/a" "/b" ["/b"]),nofun⟩
    · trivial
  have reached : machine.Reaches (Undisturbed 1) (freshRegistry oneFile)
      (session [createPair,track] (freshRegistry oneFile)) :=
    .step _ (.step _ .start empty (step_session [] createPair _)) created (step_session [createPair] track _)
  exact ⟨rfl,(no_spurious_failover reached).1 firstPair rfl rfl⟩

def movedPair : DrivePair := createdPair "/fresh" "/b" .hdd .hdd 1

theorem update_spurious_failover :
    ¬ ∀ (_ : Blake3) (pairId : Nat) (disk : Disk) (s t : Registry) (label : Disk × Call),
      machine.Reaches (Promised pairId) (freshRegistry disk) s → Promised pairId label s → step label s = some t →
      ¬label.2.Confirms pairId → Spared pairId s.world t.world := by
  intro spared
  let _ := sampleBlake3
  have promised (calls : List Call) (call : Call) (available : (session calls (freshRegistry oneFile)).world.disk.available =
      fun _ => true) : Promised 1 ((session calls (freshRegistry oneFile)).world.disk,call)
        (session calls (freshRegistry oneFile)) :=
    promised_still fun root => congrFun available root
  have created : machine.Reaches (Promised 1) (freshRegistry oneFile) (session [createPair] (freshRegistry oneFile)) :=
    .step _ .start (promised [] createPair rfl) (step_session [] createPair _)
  have tracked : machine.Reaches (Promised 1) (freshRegistry oneFile) (session [createPair,track] (freshRegistry oneFile)) :=
    .step _ created (promised [createPair] track rfl) (step_session [createPair] track _)
  have moved : machine.Reaches (Promised 1) (freshRegistry oneFile)
      (session [createPair,track,movePrimary] (freshRegistry oneFile)) :=
    .step _ tracked (promised [createPair,track] movePrimary rfl) (step_session [createPair,track] movePrimary _)
  have before : (session [createPair,track,movePrimary] (freshRegistry oneFile)).world.db.drivePairs.find? 1 =
      some movedPair := by decide +kernel
  have after : (session [createPair,track,movePrimary,load] (freshRegistry oneFile)).world.db.drivePairs.find? 1 =
      some movedPair.failedOver := by decide +kernel
  obtain ⟨pair,row,failed⟩ := spared sampleBlake3 1 oneFile _ (session [createPair,track,movePrimary,load]
    (freshRegistry oneFile)) _ moved (promised [createPair,track,movePrimary] load rfl)
    (step_session [createPair,track,movePrimary] load _) (fun confirms => confirms) movedPair.failedOver after .primary rfl
  rw [before] at row
  cases row
  cases failed

end BitProtector.SpuriousFailover
