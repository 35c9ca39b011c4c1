import BitProtector.RootMarkers

/-! The order in which operations mark the two roots of a pair. A root without its marker
counts as gone as soon as the other root has one, so what matters is that no operation gives
the standby root a marker before the active root has its own. -/
namespace BitProtector.MarkerOrder
open Effect Growth RootMarkers

def Whole (pair : DrivePair) : Prop := ∀ role, pair.roleState role = .active ∨ pair.roleState role = .quiescing

/-- The standby root has no marker that the active root lacks. -/
def InOrder (disk : Disk) (pair : DrivePair) : Prop :=
  Whole pair → Marked disk pair.standbyPath → Marked disk pair.activePath

def AllInOrder (pairId : Nat) (w : World) : Prop := ∀ pair, w.db.drivePairs.find? pairId = some pair → InOrder w.disk pair

def ActiveAvailable (pairId : Nat) (w : World) : Prop :=
  ∀ pair, w.db.drivePairs.find? pairId = some pair → w.disk.available pair.activePath = true

theorem failover_not_due {disk : Disk} {pair : DrivePair} (ordered : InOrder disk pair)
    (available : disk.available pair.activePath = true) : emergencyFailoverDue disk pair = false := by
  by_contra due
  simp only [Bool.not_eq_false,emergencyFailoverDue,Bool.and_eq_true,beq_iff_eq,available,Bool.true_and,Bool.not_not,
    missingExpectedRootMarker,Bool.not_eq_true'] at due
  obtain ⟨⟨⟨⟨⟨_,bare⟩,marked⟩,active⟩,standby⟩,_⟩ := due
  have whole : Whole pair := by
    intro role
    rcases pair.activeRole.eq_or_opposite role with rfl | rfl
    · exact .inl active
    · exact .inl standby
  have held : Marked disk pair.activePath := ordered whole marked
  rw [Marked,DrivePair.activePath,bare] at held
  cases held

/-! What an operation has to find, and what it keeps. -/

structure Touches where
  roots : List String
  wiped : List Location

def Touches.nothing : Touches := ⟨[],[]⟩

/-- The roots that are marked get to the active root of the pair before its standby root, unless it
is marked already, and the marker of the active root is not among the files that may be removed. -/
def Clear (pairId : Nat) (touches : Touches) (w : World) : Prop :=
  ∀ pair, w.db.drivePairs.find? pairId = some pair → Whole pair →
    (Precedes pair.activePath pair.standbyPath touches.roots ∨ Marked w.disk pair.activePath) ∧
      driveRootMarkerPath pair.activePath ∉ touches.wiped

structure Safe (pairId : Nat) (touches : Touches) (w : World) : Prop where
  ordered : AllInOrder pairId w
  available : ActiveAvailable pairId w
  clear : Clear pairId touches w

/-- The row of the pair stays as it is, its roots in order, and its active root marked if it was. -/
structure Held (pairId : Nat) (w t : World) : Prop where
  row : t.db.drivePairs.find? pairId = w.db.drivePairs.find? pairId
  ordered : AllInOrder pairId t
  available : ActiveAvailable pairId t
  marked : ∀ pair, w.db.drivePairs.find? pairId = some pair → Whole pair → Marked w.disk pair.activePath →
    Marked t.disk pair.activePath

theorem Held.trans {pairId : Nat} {w u t : World} (first : Held pairId w u) (second : Held pairId u t) :
    Held pairId w t :=
  ⟨second.row.trans first.row,second.ordered,second.available,fun pair found whole held =>
    second.marked pair (first.row.trans found) whole (first.marked pair found whole held)⟩

theorem Safe.after {pairId : Nat} {touches : Touches} {w t : World} (safe : Safe pairId touches w)
    (held : Held pairId w t) : Safe pairId touches t := by
  refine ⟨held.ordered,held.available,fun pair found whole => ?_⟩
  rw [held.row] at found
  obtain ⟨early,untouched⟩ := safe.clear pair found whole
  exact ⟨early.imp_right (held.marked pair found whole),untouched⟩

def Guarded (pairId : Nat) (touches : Touches) (w t : World) : Prop := Safe pairId touches w → Held pairId w t

instance (pairId : Nat) (touches : Touches) : IsPreorder World (Guarded pairId touches) where
  refl _ safe := ⟨rfl,safe.ordered,safe.available,fun _ _ _ held => held⟩
  trans _ _ _ first second safe := (first safe).trans (second (safe.after (first safe)))

theorem held_of_row {pairId : Nat} {touches : Touches} {w t : World} (safe : Safe pairId touches w)
    (row : t.db.drivePairs.find? pairId = w.db.drivePairs.find? pairId)
    (available : ∀ root, w.disk.available root = true → t.disk.available root = true)
    (kept : ∀ pair, w.db.drivePairs.find? pairId = some pair → Whole pair →
      (Marked w.disk pair.activePath → Marked t.disk pair.activePath) ∧
        (Marked t.disk pair.standbyPath → Marked t.disk pair.activePath)) : Held pairId w t := by
  refine ⟨row,fun pair found whole => ?_,fun pair found => ?_,fun pair found whole => (kept pair found whole).1⟩
  · rw [row] at found
    exact (kept pair found whole).2
  · rw [row] at found
    exact available _ (safe.available pair found)

theorem guarded_of_marking {pairId : Nat} {touches : Touches} {w t : World} (marking : Marking touches.roots w t) :
    Guarded pairId touches w t := by
  intro safe
  refine held_of_row safe (by rw [marking.pairs]) marking.available fun pair found whole => ⟨marking.grows.subset,?_⟩
  exact marking.grows.keeps_order (safe.ordered pair found whole) (safe.clear pair found whole).1

theorem guarded_marking {α : Type} (pairId : Nat) {roots : List String} {x : Act α} (wiped : List Location)
    (marking : Keeps (Marking roots) x) : Keeps (Guarded pairId ⟨roots,wiped⟩) x :=
  fun w => guarded_of_marking (marking w)

theorem Safe.tail {pairId : Nat} {root : String} {roots : List String} {wiped : List Location} {w : World}
    (safe : Safe pairId ⟨root::roots,wiped⟩ w) (marked : Marked w.disk root) : Safe pairId ⟨roots,wiped⟩ w := by
  refine ⟨safe.ordered,safe.available,fun pair found whole => ?_⟩
  obtain ⟨early,untouched⟩ := safe.clear pair found whole
  refine ⟨?_,untouched⟩
  by_cases own : pair.activePath = root
  · exact .inr (own ▸ marked)
  · refine early.imp_left fun precedes k late => ?_
    have among : pair.activePath ∈ (root::roots).take (k + 1) := precedes (k + 1) (List.mem_cons_of_mem _ late)
    exact (List.mem_cons.mp among).resolve_left own

theorem guarded_seq {α β : Type} {pairId : Nat} {root : String} {roots : List String} {wiped : List Location}
    {x : Act α} {f : α → Act β} (first : Keeps (Marking [root]) x)
    (marks : ∀ w a t, x w = .ok a t → Marked t.disk root)
    (second : ∀ a, Keeps (Guarded pairId ⟨roots,wiped⟩) (f a)) :
    Keeps (Guarded pairId ⟨root::roots,wiped⟩) (x >>= f) := by
  intro w safe
  have head := first w
  have wide : Held pairId w (after x w) :=
    guarded_of_marking ⟨head.pairs,head.available,head.grows.append_right roots⟩ safe
  cases ran : x w with
  | error message t =>
    rw [after_of_error ran] at wide
    rw [after_bind_of_error ran]
    exact wide
  | ok a t =>
    rw [after_of_ok ran] at wide
    rw [after_bind_of_ok ran]
    exact wide.trans (second a t ((safe.after wide).tail (marks w a t ran)))

theorem after_load {α : Type} {id : Nat} {pair : DrivePair} {w : World} (found : w.db.getDrivePair id = .ok pair)
    (f : DrivePair → Act α) : after (do let pair ← loadOperationalPair id; f pair) w =
      after (f (pair.operational w.disk)) { w with db := w.db.operational w.disk pair } :=
  after_bind_of_ok (loadOperationalPair_run found) f

theorem after_load_none {α : Type} {id : Nat} {w : World} (none : w.db.drivePairs.find? id = none)
    (f : DrivePair → Act α) : after (do let pair ← loadOperationalPair id; f pair) w = w := by
  have failed : Act.query (fun db => db.getDrivePair id) w = .error Db.queryReturnedNoRows w := by
    simp only [Act.query,Db.getDrivePair,none]
  rw [after_bind_of_error (x := loadOperationalPair id) (bind_of_error failed _)]

theorem guarded_operational (pairId : Nat) (touches : Touches) {id : Nat} {pair : DrivePair} {w : World}
    (found : w.db.getDrivePair id = .ok pair) :
    Guarded pairId touches w { w with db := w.db.operational w.disk pair } := by
  intro safe
  have row := Db.getDrivePair_ok.mp found
  have key : pair.id = id := Table.find?_key row
  have same : (w.db.operational w.disk pair).drivePairs.find? pairId = w.db.drivePairs.find? pairId := by
    by_cases own : pairId = pair.id
    · subst own
      rw [key] at safe ⊢
      have quiet := failover_not_due (safe.ordered pair row) (safe.available pair row)
      rw [Db.operational,quiet]
      rfl
    · exact find?_operational_other _ _ _ own
  exact held_of_row safe same (fun _ there => there) fun pair found whole =>
    ⟨fun held => held,safe.ordered pair found whole⟩

theorem guarded_loadOperationalPair (pairId : Nat) (touches : Touches) (id : Nat) :
    Keeps (Guarded pairId touches) (loadOperationalPair id) := by
  intro w
  cases found : w.db.drivePairs.find? id with
  | none =>
    have still := after_load_none (α := DrivePair) found pure
    rw [bind_pure] at still
    rw [still]
    exact refl_of (Guarded pairId touches) w
  | some pair =>
    have read := Db.getDrivePair_ok.mpr found
    rw [after_of_ok (loadOperationalPair_run read)]
    exact guarded_operational pairId touches read

theorem guarded_execute (pairId : Nat) (touches : Touches) {update : Db → Db}
    (pairs : ∀ db, (update db).drivePairs = db.drivePairs) : Keeps (Guarded pairId touches) (Act.execute update) :=
  fun w => guarded_of_marking (marking_execute _ pairs w)

theorem guarded_still {α : Type} (pairId : Nat) (touches : Touches) {x : Act α} (still : ∀ w, after x w = w) :
    Keeps (Guarded pairId touches) x := fun w => guarded_of_marking (marking_pure_like still w)

theorem guarded_mapErr {α : Type} {pairId : Nat} {touches : Touches} {x : Act α} (text : String → String)
    (inner : Keeps (Guarded pairId touches) x) : Keeps (Guarded pairId touches) (Act.mapErr text x) := by
  intro w
  rw [Act.after_mapErr]
  exact inner w

theorem guarded_query {α : Type} (pairId : Nat) (touches : Touches) (read : Db → Except String α) :
    Keeps (Guarded pairId touches) (Act.query read) := fun w => guarded_of_marking (marking_query _ read w)

theorem guarded_look {α : Type} (pairId : Nat) (touches : Touches) (view : Disk → α) :
    Keeps (Guarded pairId touches) (Act.look view) := fun w => guarded_of_marking (marking_look _ view w)

theorem guarded_ensure (pairId : Nat) (touches : Touches) (condition : Bool) (message : String) :
    Keeps (Guarded pairId touches) (Act.ensure condition message) :=
  fun w => guarded_of_marking (marking_ensure _ condition message w)

theorem guarded_bail {α : Type} (pairId : Nat) (touches : Touches) (message : String) :
    Keeps (Guarded pairId touches) (Act.bail message : Act α) :=
  fun w => guarded_of_marking (marking_bail _ message w)

theorem guarded_insert {α : Type} (pairId : Nat) (touches : Touches) {update : Db → α × Db}
    (pairs : ∀ db, (update db).2.drivePairs = db.drivePairs) : Keeps (Guarded pairId touches) (Act.insert update) :=
  fun w => guarded_of_marking (marking_insert _ pairs w)

theorem guarded_insertOrFail {α : Type} (pairId : Nat) (touches : Touches) {update : Db → Except String α × Db}
    (pairs : ∀ db, (update db).2.drivePairs = db.drivePairs) :
    Keeps (Guarded pairId touches) (Act.insertOrFail update) :=
  fun w => guarded_of_marking (marking_insertOrFail _ pairs w)

section
variable [Blake3]

/-! Copies. -/

def restoreTouches (pair : DrivePair) (target : DriveRole) (relativePath : String) : Touches :=
  ⟨[pair.pathForRole target],[pair.copyOn target relativePath]⟩

theorem guarded_restoreSide (pairId : Nat) (io : Io) (pair : DrivePair) (target : DriveRole)
    (relativePath expected : String) : Keeps (Guarded pairId (restoreTouches pair target relativePath))
      (restoreSide io pair target relativePath expected) := by
  intro w safe
  have prepared := guarded_marking pairId [pair.copyOn target relativePath]
    (marking_prepareRestore io pair target relativePath) w safe
  unfold restoreSide
  cases ran : prepareRestore io pair target relativePath w with
  | error message t =>
    rw [after_of_error ran] at prepared
    rw [after_bind_of_error ran]
    exact prepared
  | ok _ t =>
    rw [after_of_ok ran] at prepared
    rw [after_bind_of_ok ran,Act.after_mapErr]
    have ready := safe.after prepared
    have own : Marked t.disk (pair.pathForRole target) := prepareRestore_marks ran
    -- only the destination changes, which is no marker but that of the root just marked
    have changed (u : World) (db : u.db = t.db) (available : u.disk.available = t.disk.available)
        (others : ∀ path, path ≠ pair.copyOn target relativePath → u.disk.node path = t.disk.node path) :
        Held pairId w u := by
      refine prepared.trans (held_of_row ready (by rw [db]) (fun root there => by rwa [available]) fun other found whole => ?_)
      have apart : driveRootMarkerPath other.activePath ≠ pair.copyOn target relativePath := by
        intro same
        exact (ready.clear other found whole).2 (List.mem_singleton.mpr same)
      have active : Marked u.disk other.activePath ↔ Marked t.disk other.activePath := by
        rw [Marked,Marked,Disk.exists?,Disk.exists?,others _ apart]
      refine ⟨active.mpr,fun standby => active.mpr (ready.ordered other found whole ?_)⟩
      by_cases same : driveRootMarkerPath other.standbyPath = pair.copyOn target relativePath
      · rwa [show other.standbyPath = pair.pathForRole target from congrArg Location.root same]
      · rwa [Marked,Disk.exists?,others _ same] at standby
    cases enters : entersCopy io t.disk (pair.copyOn target.opposite relativePath) (pair.copyOn target relativePath) with
    | false =>
      rw [after_of_error (copyAndVerifyChecksum_stays enters)]
      exact changed t rfl rfl fun _ _ => rfl
    | true =>
      rcases copyAndVerifyChecksum_enters expected enters with ⟨_,_,copied⟩ | ⟨_,_,failed⟩ | ⟨_,_,removed⟩
      · rw [after_of_ok copied]
        exact changed _ rfl rfl fun path apart => Disk.write_other _ _ apart
      · rw [after_of_error failed]
        exact changed _ rfl rfl fun path apart => Disk.write_other _ _ apart
      · rw [after_of_error removed]
        exact changed _ rfl rfl fun path apart => Disk.remove_other _ apart

omit [Blake3] in
theorem marked_write {disk : Disk} {root : String} (path : Location) (bytes : List UInt8) (marked : Marked disk root) :
    Marked (disk.write path bytes) root := by
  rw [Marked]
  by_cases same : driveRootMarkerPath root = path
  · rw [same]
    simp [Disk.exists?]
  · rw [Disk.exists?,Disk.write_other _ _ same]
    exact marked

theorem restoreSide_written {io : Io} {pair : DrivePair} {target : DriveRole} {relativePath expected : String} {w t : World}
    (ok : restoreSide io pair target relativePath expected w = .ok () t) : ∃ u bytes,
      prepareRestore io pair target relativePath w = .ok () u ∧
        t.disk = u.disk.write (pair.copyOn target relativePath) bytes := by
  obtain ⟨_,u,prepared,copies⟩ := bind_success ok
  simp only [Act.mapErr] at copies
  cases enters : entersCopy io u.disk (pair.copyOn target.opposite relativePath) (pair.copyOn target relativePath) with
  | false =>
    rw [copyAndVerifyChecksum_stays enters] at copies
    cases copies
  | true =>
    rcases copyAndVerifyChecksum_enters expected enters with ⟨_,_,copied⟩ | ⟨_,_,failed⟩ | ⟨_,_,removed⟩
    · rw [copied] at copies
      cases copies
      exact ⟨u,_,prepared,rfl⟩
    · rw [failed] at copies
      cases copies
    · rw [removed] at copies
      cases copies

theorem restoreSide_marks {io : Io} {pair : DrivePair} {target : DriveRole} {relativePath expected : String} {w t : World}
    (ok : restoreSide io pair target relativePath expected w = .ok () t) :
    Marked t.disk (pair.pathForRole target) ∧ ∀ root, Marked w.disk root → Marked t.disk root := by
  obtain ⟨u,bytes,prepared,written⟩ := restoreSide_written ok
  have grows := (marking_prepareRestore io pair target relativePath w).grows
  rw [after_of_ok prepared] at grows
  rw [written]
  exact ⟨marked_write _ _ (prepareRestore_marks prepared),fun root held => marked_write _ _ (grows.subset held)⟩

def mirrorTouches (pair : DrivePair) : Touches := ⟨[pair.activePath,pair.standbyPath],[]⟩

theorem guarded_mirrorFile (pairId : Nat) (io : Io) (pair : DrivePair) (relativePath : String) :
    Keeps (Guarded pairId (mirrorTouches pair)) (mirrorFile io pair relativePath) :=
  guarded_marking pairId [] (marking_mirrorFile io pair relativePath)

theorem guarded_adoptMirror (pairId : Nat) (io : Io) (pair : DrivePair) (file : TrackedFile) :
    Keeps (Guarded pairId (mirrorTouches pair)) (adoptMirror io pair file) := by
  have copies : Keeps (Guarded pairId (mirrorTouches pair))
      (do let _ ← mirrorFile io pair file.relativePath; pure PUnit.unit) :=
    keeps_bind (guarded_mirrorFile _ _ _ _) fun _ => keeps_pure _
  refine keeps_bind (guarded_look _ _ _) fun present => ?_
  split
  · refine keeps_bind (guarded_mapErr _ ?_) fun standbyChecksum => ?_
    · exact guarded_still _ _ fun w => checksumFile_after io w _ _
    · split
      · exact copies
      · exact keeps_pure _
  · exact copies

def actionTouches (action : SyncAction) (pair : DrivePair) (file : TrackedFile) : Touches :=
  match action with
  | .mirror | .adoptMirror => mirrorTouches pair
  | .restoreMaster => restoreTouches pair .primary file.relativePath
  | .restoreMirror => restoreTouches pair .secondary file.relativePath
  | .verify | .userActionRequired | .other _ => .nothing

theorem guarded_runAction (pairId : Nat) (io : Io) (action : SyncAction) (pair : DrivePair) (file : TrackedFile) :
    Keeps (Guarded pairId (actionTouches action pair file)) (runAction io action pair file) := by
  cases action with
  | mirror =>
    apply keeps_attempt
    exact keeps_bind (guarded_mirrorFile _ _ _ _) fun _ => keeps_pure _
  | adoptMirror => exact keeps_bind (guarded_adoptMirror _ _ _ _) fun _ => keeps_pure _
  | restoreMaster => exact keeps_attempt (guarded_restoreSide _ _ _ _ _ _)
  | restoreMirror => exact keeps_attempt (guarded_restoreSide _ _ _ _ _ _)
  | verify =>
    refine keeps_bind (guarded_still _ _ fun w => checkFileIntegrity_after io w _ _ _ _) fun result => ?_
    split
    · exact keeps_pure _
    · exact guarded_bail _ _ _
  | userActionRequired => exact guarded_bail _ _ _
  | other text => exact guarded_bail _ _ _

omit [Blake3] in
theorem fsCopy_creates {io : Io} {src dst : Location} {w t : World} (ok : fsCopy io src dst w = .ok () t) :
    t.disk.exists? dst = true := by
  obtain ⟨_,u,_,creates⟩ := bind_success ok
  obtain ⟨_,v,created,rest⟩ := bind_success creates
  have there : v.disk.exists? dst = true := by
    unfold createFile at created
    split at created
    · cases created
      simp [Disk.exists?]
    · cases created
  have kept : Keeps (WritesOnly dst) (do
      attemptCall (io.copyPermissions dst)
      let size ← Act.look (fileSize src)
      let _ ← copyLoop io src dst (size + 1) 0 [] []) := by
    refine keeps_bind (writesOnly_still (ensure_still _ _)) fun _ => ?_
    refine keeps_bind (writesOnly_still fun _ => rfl) fun _ => ?_
    exact keeps_bind (writesOnly_copyLoop _ _ _ _ _ _ _) fun _ => keeps_pure _
  have after := kept v
  rw [after_of_ok rest] at after
  exact after.stays there

/-- A new version that is provided for the marker itself marks both roots, the primary one first. -/
def provideTouches (pair : DrivePair) (relativePath : String) : Touches :=
  if relativePath = driveRootMarker then ⟨[pair.primaryPath,pair.secondaryPath],[]⟩ else .nothing

omit [Blake3] in
theorem guarded_provideNew (pairId : Nat) (io : Io) (file : TrackedFile) (pair : DrivePair)
    (newFilePath : Option Location) :
    Keeps (Guarded pairId (provideTouches pair file.relativePath)) (provideNew io file pair newFilePath) := by
  cases newFilePath with
  | none => exact guarded_bail _ _ _
  | some src =>
    have copies (role : DriveRole) :
        Keeps (Marking (markedBy (pair.copyOn role file.relativePath)))
          (fsCopy io src (pair.copyOn role file.relativePath)) :=
      fun w => (writesOnly_fsCopy io src _ w).marking
    refine keeps_bind (guarded_look _ _ _) fun _ => keeps_bind (guarded_ensure _ _ _ _) fun _ => ?_
    refine keeps_bind (guarded_ensure _ _ _ _) fun _ => ?_
    refine keeps_bind (fun w => guarded_of_marking (marking_createParentDirs _ _ _ w)) fun _ => ?_
    refine keeps_bind (fun w => guarded_of_marking (marking_createParentDirs _ _ _ w)) fun _ => ?_
    by_cases marker : file.relativePath = driveRootMarker
    · have own (role : DriveRole) : markedBy (pair.copyOn role file.relativePath) = [pair.pathForRole role] := if_pos marker
      have first := copies .primary
      have second := copies .secondary
      rw [own] at first second
      rw [provideTouches,if_pos marker]
      refine guarded_seq first (fun w _ t ok => ?_) fun _ => guarded_marking _ _ second
      have there := fsCopy_creates ok
      rwa [show pair.copyOn .primary file.relativePath = driveRootMarkerPath pair.primaryPath by rw [marker]; rfl] at there
    · have own (role : DriveRole) : markedBy (pair.copyOn role file.relativePath) = [] := if_neg marker
      have first := copies .primary
      have second := copies .secondary
      rw [own] at first second
      rw [provideTouches,if_neg marker]
      exact keeps_bind (guarded_marking _ _ first) fun _ => guarded_marking _ _ second

def resolutionTouches (resolution : String) (pair : DrivePair) (relativePath : String) : Touches :=
  match resolution with
  | "keep_master" => restoreTouches pair .secondary relativePath
  | "keep_mirror" => restoreTouches pair .primary relativePath
  | "provide_new" => provideTouches pair relativePath
  | _ => .nothing

theorem guarded_resolutionCopy (pairId : Nat) (io : Io) (file : TrackedFile) (pair : DrivePair) (resolution : String)
    (newFilePath : Option Location) : Keeps (Guarded pairId (resolutionTouches resolution pair file.relativePath))
      (resolutionCopy io file pair resolution newFilePath) := by
  unfold resolutionCopy
  split
  · exact guarded_restoreSide _ _ _ _ _ _
  · exact guarded_restoreSide _ _ _ _ _ _
  · exact guarded_provideNew _ _ _ _ _
  · exact guarded_bail _ _ _

/-! Tracking and scanning. -/

omit [Blake3] in
theorem guarded_readB3Sidecar (pairId : Nat) (touches : Touches) (io : Io) (filePath : Location) :
    Keeps (Guarded pairId touches) (Sidecar.readB3Sidecar io filePath) := by
  refine keeps_bind (guarded_query _ _ _) fun sidecarPath => keeps_bind (guarded_look _ _ _) fun there => ?_
  split
  · exact keeps_pure _
  · refine keeps_bind (guarded_look _ _ _) fun size => keeps_bind (guarded_ensure _ _ _ _) fun _ => ?_
    refine keeps_bind (guarded_mapErr _ (guarded_still _ _ fun w => ?_)) fun content => ?_
    · exact Sidecar.readToString_after io _ w
    · split
      · exact guarded_bail _ _ _
      · exact keeps_bind (guarded_query _ _ _) fun _ => keeps_pure _

omit [Blake3] in
theorem guarded_setVirtualPath (pairId : Nat) (touches : Touches) (links : LinkAnswers) (fileId : Nat)
    (virtualPath : String) : Keeps (Guarded pairId touches) (setVirtualPath links fileId virtualPath) := by
  refine keeps_bind (guarded_query _ _ _) fun file => ?_
  refine keeps_bind (guarded_loadOperationalPair _ _ _) fun _ => keeps_bind (guarded_query _ _ _) fun _ => ?_
  refine keeps_bind (guarded_execute _ _ fun _ => rfl) fun _ => ?_
  split
  · exact guarded_query _ _ _
  · exact keeps_pure _

omit [Blake3] in
theorem guarded_setFolderVirtualPath (pairId : Nat) (touches : Touches) (links : LinkAnswers) (folderId : Nat)
    (virtualPath : String) : Keeps (Guarded pairId touches) (setFolderVirtualPath links folderId virtualPath) := by
  refine keeps_bind (guarded_query _ _ _) fun folder => ?_
  refine keeps_bind (guarded_loadOperationalPair _ _ _) fun _ => keeps_bind (guarded_query _ _ _) fun _ => ?_
  refine keeps_bind (guarded_execute _ _ fun _ => rfl) fun _ => ?_
  split
  · exact guarded_query _ _ _
  · exact keeps_pure _

omit [Blake3] in
theorem guarded_orUndo {pairId : Nat} {touches : Touches} {undo : Db → Db} {x : Act Unit}
    (pairs : ∀ db, (undo db).drivePairs = db.drivePairs) (inner : Keeps (Guarded pairId touches) x) :
    Keeps (Guarded pairId touches) (orUndo undo x) := by
  refine keeps_bind (keeps_attempt inner) fun result => ?_
  cases result with
  | ok _ => exact keeps_pure _
  | error message => exact keeps_bind (guarded_execute _ _ pairs) fun _ => guarded_bail _ _ _

omit [Blake3] in
theorem guarded_queueB3SidecarMismatch (pairId : Nat) (touches : Touches) (file : TrackedFile)
    (mismatch : SidecarMismatch) : Keeps (Guarded pairId touches) (queueB3SidecarMismatch file mismatch) :=
  keeps_bind (guarded_insert _ _ fun db => (db.createSyncQueueItemDedupWithCreated_frame _ _ _ _).1)
    fun _ => keeps_pure _

omit [Blake3] in
theorem guarded_ensureWorldReadable (pairId : Nat) (touches : Touches) (io : Io) (path : Location) :
    Keeps (Guarded pairId touches) (ensureWorldReadable io path) :=
  keeps_bind (guarded_look _ _ _) fun _ => keeps_bind (guarded_ensure _ _ _ _) fun _ =>
    guarded_ensure _ _ _ _

omit [Blake3] in
theorem guarded_metadataLen (pairId : Nat) (touches : Touches) (path : Location) :
    Keeps (Guarded pairId touches) (metadataLen path) :=
  keeps_bind (guarded_look _ _ _) fun _ => keeps_bind (guarded_ensure _ _ _ _) fun _ => guarded_look _ _ _

omit [Blake3] in
theorem createTrackedFileWithSource_pairs (db : Db) (drivePairId : Nat) (relativePath checksum : String) (fileSize : Nat)
    (virtualPath : Option String) (direct viaFolder : Bool) :
    (db.createTrackedFileWithSource drivePairId relativePath checksum fileSize virtualPath direct viaFolder).2.drivePairs =
      db.drivePairs := by
  unfold Db.createTrackedFileWithSource
  split <;> rfl

theorem guarded_createTrackedFileFromDisk (pairId : Nat) (touches : Touches) (io : Io) (pair : DrivePair)
    (relativePath : String) (direct viaFolder : Bool) :
    Keeps (Guarded pairId touches) (createTrackedFileFromDisk io pair relativePath direct viaFolder) := by
  refine keeps_bind (guarded_look _ _ _) fun _ => keeps_bind (guarded_ensure _ _ _ _) fun _ => ?_
  refine keeps_bind (guarded_ensureWorldReadable _ _ _ _) fun _ => ?_
  refine keeps_bind (guarded_mapErr _ (guarded_still _ _ fun w => checksumFile_after io w _ _)) fun _ => ?_
  refine keeps_bind (keeps_attempt (guarded_readB3Sidecar _ _ _ _)) fun _ => ?_
  refine keeps_bind (guarded_metadataLen _ _ _) fun _ => ?_
  refine keeps_bind (guarded_insertOrFail _ _ fun db => ?_) fun _ => keeps_pure _
  exact createTrackedFileWithSource_pairs db _ _ _ _ _ _ _

omit [Blake3] in
theorem guarded_publish (pairId : Nat) (touches : Touches) (links : LinkAnswers) (fileId : Nat)
    (virtualPath : Option String) : Keeps (Guarded pairId touches) (publish links fileId virtualPath) := by
  cases virtualPath with
  | none => exact keeps_pure _
  | some path => exact guarded_setVirtualPath _ _ _ _ _

theorem guarded_trackNewFile (pairId : Nat) (touches : Touches) (io : Io) (links : LinkAnswers) (pair : DrivePair)
    (relativePath : String) (virtualPath : Option String) :
    Keeps (Guarded pairId touches) (trackNewFile io links pair relativePath virtualPath) := by
  refine keeps_bind (guarded_createTrackedFileFromDisk _ _ _ _ _ _ _) fun tracked => ?_
  refine keeps_bind (guarded_orUndo (fun _ => rfl) (guarded_publish _ _ _ _ _)) fun _ => ?_
  refine keeps_bind (guarded_orUndo (fun _ => rfl) ?_) fun _ => guarded_query _ _ _
  cases tracked.2 with
  | none => exact keeps_pure _
  | some mismatch => exact guarded_queueB3SidecarMismatch _ _ _ _

omit [Blake3] in
theorem guarded_trackExistingFile (pairId : Nat) (touches : Touches) (io : Io) (links : LinkAnswers) (pair : DrivePair)
    (existing : TrackedFile) (relativePath : String) (virtualPath : Option String) :
    Keeps (Guarded pairId touches) (trackExistingFile io links pair existing relativePath virtualPath) := by
  refine keeps_bind (guarded_ensureWorldReadable _ _ _ _) fun _ => ?_
  refine keeps_bind (guarded_execute _ _ fun _ => rfl) fun _ => ?_
  exact keeps_bind (guarded_publish _ _ _ _ _) fun _ => guarded_query _ _ _

omit [Blake3] in
theorem guarded_optionally {α β : Type} {pairId : Nat} {touches : Touches} {condition : Bool} {x : Act α} {rest : Act β}
    (first : Keeps (Guarded pairId touches) x) (second : Keeps (Guarded pairId touches) rest) :
    Keeps (Guarded pairId touches) (if condition then (do let _ ← x; rest) else rest) := by
  split
  · exact keeps_bind first fun _ => second
  · exact second

theorem guarded_trackFile (pairId : Nat) (io : Io) (links : LinkAnswers) (pair : DrivePair) (relativePath : String)
    (virtualPath : Option String) : Keeps (Guarded pairId (mirrorTouches pair))
      (trackFile io links pair relativePath virtualPath) := by
  refine keeps_bind (guarded_query _ _ _) fun _ => ?_
  refine guarded_seq (marking_ensureDriveRootMarker _ _) (fun w _ t ok => ensureDriveRootMarker_marks ok) fun _ => ?_
  refine keeps_bind (guarded_look _ _ _) fun available => guarded_optionally ?_ ?_
  · exact keeps_attempt (guarded_marking _ _ (marking_ensureDriveRootMarker _ _))
  · refine keeps_bind (keeps_attempt (guarded_query _ _ _)) fun existing => ?_
    cases existing with
    | ok existing => exact guarded_trackExistingFile _ _ _ _ _ _ _ _
    | error _ => exact guarded_trackNewFile _ _ _ _ _ _ _

omit [Blake3] in
theorem guarded_queueNewTracking (pairId : Nat) (touches : Touches) (pair : DrivePair) (tracked : TrackedFile) :
    Keeps (Guarded pairId touches) (queueNewTracking pair tracked) := by
  refine keeps_bind (guarded_look _ _ _) fun accepts => ?_
  split
  · refine keeps_bind (guarded_query _ _ _) fun pending => ?_
    split
    · refine keeps_bind (guarded_insert _ _ fun db => ?_) fun _ => keeps_pure _
      exact (db.createSyncQueueItemDedupWithCreated_frame _ _ _ _).1
    · exact keeps_pure _
  · exact keeps_pure _

omit [Blake3] in
theorem createTrackedFolderWithSidecars_pairs (db : Db) (drivePairId : Nat) (folderPath : String)
    (virtualPath : Option String) (sidecars : Bool) :
    (db.createTrackedFolderWithSidecars drivePairId folderPath virtualPath sidecars).2.drivePairs = db.drivePairs := by
  unfold Db.createTrackedFolderWithSidecars
  split
  · rfl
  · split <;> rfl

omit [Blake3] in
theorem guarded_trackFolderWithOptions (pairId : Nat) (io : Io) (links : LinkAnswers) (isDir : Bool) (pair : DrivePair)
    (folderPath : String) (virtualPath : Option String) (sidecars : Bool) :
    Keeps (Guarded pairId ⟨[pair.activePath],[]⟩)
      (trackFolderWithOptions io links isDir pair folderPath virtualPath sidecars) := by
  refine keeps_bind (guarded_query _ _ _) fun _ => ?_
  refine keeps_bind (guarded_marking _ _ (marking_ensureDriveRootMarker _ _)) fun _ => ?_
  refine keeps_bind (guarded_ensure _ _ _ _) fun _ => ?_
  refine keeps_bind (guarded_insertOrFail _ _ fun db => ?_) fun tracked => ?_
  · exact createTrackedFolderWithSidecars_pairs db _ _ _ _
  · refine keeps_bind (guarded_orUndo (fun _ => rfl) ?_) fun _ => ?_
    · cases virtualPath with
      | none => exact keeps_pure _
      | some path => exact guarded_setFolderVirtualPath _ _ _ _ _
    · exact keeps_bind (guarded_execute _ _ fun _ => rfl) fun _ => guarded_query _ _ _

theorem guarded_autoTrackFile (pairId : Nat) (touches : Touches) (io : Io) (pair : DrivePair) (relativePath : String) :
    Keeps (Guarded pairId touches) (autoTrackFile io pair relativePath) := by
  refine keeps_bind (guarded_createTrackedFileFromDisk _ _ _ _ _ _ _) fun tracked => ?_
  refine keeps_bind ?_ fun _ => keeps_pure _
  cases tracked.2 with
  | some mismatch => exact guarded_queueB3SidecarMismatch _ _ _ _
  | none =>
    refine keeps_bind (guarded_look _ _ _) fun accepts => ?_
    split
    · refine keeps_bind ?_ fun _ => keeps_pure _
      refine keeps_bind (guarded_insert _ _ fun db => ?_) fun _ =>
        keeps_bind (guarded_ensure _ _ _ _) fun _ => keeps_pure _
      exact (db.createSyncQueueItemDedupWithCreated_frame _ _ _ _).1
    · exact guarded_execute _ _ fun _ => rfl

omit [Blake3] in
theorem guarded_recordChange (pairId : Nat) (touches : Touches) (pair : DrivePair) (fileId : Nat) (path : Location)
    (newHash : String) : Keeps (Guarded pairId touches) (recordChange pair fileId path newHash) := by
  refine keeps_bind (guarded_metadataLen _ _ _) fun _ => ?_
  refine keeps_bind (guarded_execute _ _ fun _ => rfl) fun _ => ?_
  refine keeps_bind (guarded_execute _ _ fun _ => rfl) fun _ => ?_
  refine keeps_bind (guarded_look _ _ _) fun accepts => ?_
  split
  · refine keeps_bind (guarded_insert _ _ fun db => ?_) fun _ => keeps_pure _
    exact (db.createSyncQueueItemDedupWithCreated_frame _ _ _ _).1
  · exact keeps_pure _

theorem guarded_scanFile (pairId : Nat) (touches : Touches) (io : Io) (pair : DrivePair) (relativePath : String) :
    Keeps (Guarded pairId touches) (scanFile io pair relativePath) := by
  refine keeps_bind (keeps_attempt (guarded_query _ _ _)) fun existing => ?_
  cases existing with
  | error _ => exact keeps_bind (guarded_autoTrackFile _ _ _ _ _) fun _ => keeps_pure _
  | ok existing =>
    refine keeps_bind (guarded_still _ _ fun w => checksumFile_after io w _ _) fun currentHash => ?_
    split
    · exact guarded_recordChange _ _ _ _ _ _
    · exact keeps_pure _

theorem guarded_scanFiles (pairId : Nat) (touches : Touches) (io : Io) (pair : DrivePair) (folder : TrackedFolder)
    (scanned : Nat) (paths : List String) :
    Keeps (Guarded pairId touches) (scanFiles io pair folder scanned paths) := by
  induction paths generalizing scanned with
  | nil => exact keeps_pure _
  | cons path paths ih =>
    unfold scanFiles
    split
    · exact ih scanned
    · refine keeps_bind (guarded_scanFile _ _ _ _ _) fun _ => ?_
      exact keeps_bind (guarded_execute _ _ fun _ => rfl) fun _ => ih (scanned + 1)

omit [Blake3] in
theorem guarded_finish (pairId : Nat) (touches : Touches) (walk : Walk) :
    Keeps (Guarded pairId touches) walk.finish := by
  unfold Walk.finish
  cases walk.failure with
  | none => exact keeps_pure _
  | some message => exact guarded_bail _ _ _

theorem guarded_scanTrackedFolder (pairId : Nat) (touches : Touches) (io : Io) (walk : Walk) (pair : DrivePair)
    (folder : TrackedFolder) : Keeps (Guarded pairId touches) (scanTrackedFolder io walk pair folder) := by
  refine keeps_bind (guarded_query _ _ _) fun _ => keeps_bind (guarded_scanFiles _ _ _ _ _ _ _) fun _ => ?_
  exact keeps_bind (guarded_finish _ _ _) fun _ => guarded_execute _ _ fun _ => rfl

omit [Blake3] in
theorem startFolderScan_pairs (db : Db) (id totalFiles : Nat) :
    (db.startFolderScan id totalFiles).2.drivePairs = db.drivePairs := by
  unfold Db.startFolderScan
  split <;> rfl

theorem guarded_scanFolderRoute (pairId : Nat) (touches : Touches) (io : Io) (counted walk : Walk) (folderId : Nat) :
    Keeps (Guarded pairId touches) (scanFolderRoute io counted walk folderId) := by
  refine keeps_bind (guarded_query _ _ _) fun folder => ?_
  refine keeps_bind (guarded_loadOperationalPair _ _ _) fun _ => ?_
  refine keeps_bind (keeps_bind (guarded_finish _ _ _) fun _ => keeps_pure _) fun total => ?_
  refine keeps_bind (guarded_insertOrFail _ _ fun db => startFolderScan_pairs db _ _) fun _ => ?_
  refine keeps_bind (keeps_attempt ?_) fun _ => guarded_execute _ _ fun _ => rfl
  refine keeps_bind (guarded_query _ _ _) fun folder => ?_
  exact keeps_bind (guarded_loadOperationalPair _ _ _) fun pair => guarded_scanTrackedFolder _ _ _ _ _ _

theorem guarded_autoTrackFiles (pairId : Nat) (touches : Touches) (io : Io) (pair : DrivePair) (folder : TrackedFolder)
    (paths : List String) : Keeps (Guarded pairId touches) (autoTrackFiles io pair folder paths) := by
  induction paths with
  | nil => exact keeps_pure _
  | cons path paths ih =>
    unfold autoTrackFiles
    split
    · exact ih
    · refine keeps_bind (keeps_bind (keeps_attempt (guarded_query _ _ _)) fun existing => ?_) fun _ => ih
      cases existing with
      | ok _ => exact keeps_pure _
      | error _ => exact keeps_bind (guarded_autoTrackFile _ _ _ _ _) fun _ => keeps_pure _

theorem guarded_detectChanges (pairId : Nat) (touches : Touches) (io : Io) (pair : DrivePair) (files : List TrackedFile) :
    Keeps (Guarded pairId touches) (detectChanges io pair files) := by
  induction files with
  | nil => exact keeps_pure _
  | cons file files ih =>
    refine keeps_bind ?_ fun change => keeps_bind ih fun _ => keeps_pure _
    refine keeps_bind (guarded_look _ _ _) fun there => ?_
    split
    · exact keeps_pure _
    · refine keeps_bind (guarded_still _ _ fun w => checksumFile_after io w _ _) fun current => ?_
      split <;> exact keeps_pure _

omit [Blake3] in
theorem guarded_recordChanges (pairId : Nat) (touches : Touches) (pair : DrivePair)
    (changes : List (TrackedFile × String)) : Keeps (Guarded pairId touches) (recordChanges pair changes) := by
  induction changes with
  | nil => exact keeps_pure _
  | cons change changes ih => exact keeps_bind (guarded_recordChange _ _ _ _ _ _) fun _ => ih

theorem guarded_scanFolderCommand (pairId : Nat) (touches : Touches) (io : Io) (walk : Walk) (folderId : Nat) :
    Keeps (Guarded pairId touches) (scanFolderCommand io walk folderId) := by
  refine keeps_bind (guarded_query _ _ _) fun folder => ?_
  refine keeps_bind (guarded_loadOperationalPair _ _ _) fun pair => keeps_bind ?_ fun _ => ?_
  · refine keeps_bind (guarded_query _ _ _) fun _ => ?_
    refine keeps_bind (guarded_autoTrackFiles _ _ _ _ _ _) fun _ => ?_
    exact keeps_bind (guarded_finish _ _ _) fun _ => guarded_execute _ _ fun _ => rfl
  · refine keeps_bind ?_ fun changes => guarded_recordChanges _ _ _ _
    exact keeps_bind (guarded_query _ _ _) fun files => guarded_detectChanges _ _ _ _ _

end

end BitProtector.MarkerOrder
