import BitProtector.DrivePaths
import BitProtector.ScanRoundTrip
import BitProtector.TreeWalk
import BitProtector.Foundation.Paths
import BitProtector.Foundation.Requests

/-! Where a mirroring writes when a tracked path may be any text. The two sides of a pair
are directories of one tree, and joining an absolute path to a root, or one that climbs,
leaves the root. -/
namespace BitProtector.MirrorFrames
open Effect Requests Paths VirtualTree VirtualPath
open DrivePaths (createdPair freshRegistry noDisk createSecond)

/-- What a root and a path below it mean to the operating system. -/
structure Layout where
  place : String → String → Location
  shown : String → String → String
  Under : String → Location → Prop

/-- Every path stays below its root. -/
def Layout.flat : Layout :=
  ⟨Location.mk,fun root relativePath => (Location.mk root relativePath).display,fun root path => path.root = root⟩

/-- A call that notes each file which it asks to be written, with the directories above it. -/
abbrev Call := EStateM String (Noted World Location)

def markerOf (layout : Layout) (root : String) : Location := layout.place root driveRootMarker

def ensureDriveRootMarkerAt (layout : Layout) (io : Io) (path : String) : Call Unit := do
  lift (Act.ensure (← lift (Act.look (fun disk => disk.available path))) s!"Drive root unavailable: {path}")
  if !(← lift (Act.look (fun disk => disk.exists? (markerOf layout path)))) then
    note (markerOf layout path)
    lift (Act.ensure (io.writeMarker path) osError)
    lift (Act.store (fun disk => disk.write (markerOf layout path) driveRootMarkerBytes))

def createParentDirsAt (layout : Layout) (io : Io) (root relativePath : String) : Act Unit := do
  attemptCall (io.createDirAll (layout.place root relativePath))
  if io.createsRoot root then Act.store (fun disk => disk.mount root)

def sourceOf (layout : Layout) (pair : DrivePair) (relativePath : String) : Location :=
  layout.place pair.activePath relativePath

def destinationOf (layout : Layout) (pair : DrivePair) (relativePath : String) : Location :=
  layout.place pair.standbyPath relativePath

def prepareMirrorAt (layout : Layout) (io : Io) (pair : DrivePair) (relativePath : String) : Call Unit := do
  let side := pair.standbyRole.asStr
  let id := pair.id
  lift (Act.ensure (← lift (Act.look (fun disk => pair.standbyAcceptsSync disk)))
    s!"Standby {side} path is not ready to receive sync data for drive pair #{id}")
  ensureDriveRootMarkerAt layout io pair.activePath
  ensureDriveRootMarkerAt layout io pair.standbyPath
  let shown := layout.shown pair.activePath relativePath
  lift (Act.ensure (← lift (Act.look (fun disk => disk.exists? (sourceOf layout pair relativePath))))
    s!"Source file does not exist: {shown}")
  note (destinationOf layout pair relativePath)
  lift (Act.mapErr (fun _ => "Failed to create mirror directory")
    (createParentDirsAt layout io pair.standbyPath relativePath))

section
variable [Blake3]

def mirrorFileAt (layout : Layout) (io : Io) (pair : DrivePair) (relativePath : String) : Call String := do
  prepareMirrorAt layout io pair relativePath
  let (srcChecksum,dstChecksum) ← lift (Act.mapErr (fun _ => "Failed to copy file to mirror")
    (copyWithChecksum io (sourceOf layout pair relativePath) (destinationOf layout pair relativePath)))
  lift (Act.ensure (srcChecksum == dstChecksum) s!"Mirror verification failed: src={srcChecksum} dst={dstChecksum}")
  pure srcChecksum

end

/-! Where no path leaves its root, this is the mirroring of the other modules. -/

theorem erases_ensureDriveRootMarkerAt (io : Io) (path : String) :
    Erases Noted.state (ensureDriveRootMarkerAt .flat io path) (ensureDriveRootMarker io path) := by
  apply erases_bind (erases_lift _)
  intro available
  apply erases_bind (erases_lift _)
  intro _
  apply erases_bind (erases_lift _)
  intro marked
  cases marked with
  | true => exact erases_pure _
  | false =>
    apply erases_note
    apply erases_bind (erases_lift _)
    exact fun _ => erases_lift _

theorem erases_prepareMirrorAt (io : Io) (pair : DrivePair) (relativePath : String) :
    Erases Noted.state (prepareMirrorAt .flat io pair relativePath) (prepareMirror io pair relativePath) := by
  apply erases_bind (erases_lift _)
  intro accepts
  apply erases_bind (erases_lift _)
  intro _
  apply erases_bind (erases_ensureDriveRootMarkerAt _ _)
  intro _
  apply erases_bind (erases_ensureDriveRootMarkerAt _ _)
  intro _
  apply erases_bind (erases_lift _)
  intro found
  apply erases_bind (erases_lift _)
  intro _
  apply erases_note
  exact erases_lift _

theorem erases_mirrorFileAt [Blake3] (io : Io) (pair : DrivePair) (relativePath : String) :
    Erases Noted.state (mirrorFileAt .flat io pair relativePath) (mirrorFile io pair relativePath) := by
  apply erases_bind (erases_prepareMirrorAt _ _ _)
  intro _
  apply erases_bind (erases_lift _)
  intro checksums
  apply erases_bind (erases_lift _)
  exact fun _ => erases_pure _

/-! What a mirroring asks for. -/

/-- The root has its marker in the end. -/
def marks (layout : Layout) (io : Io) (disk : Disk) (root : String) : Bool :=
  disk.exists? (markerOf layout root) || io.writeMarker root

def marked (layout : Layout) (disk : Disk) (root : String) : Disk :=
  if disk.exists? (markerOf layout root) then disk else disk.write (markerOf layout root) driveRootMarkerBytes

/-- The disk on which the source is looked for. -/
def ready (layout : Layout) (pair : DrivePair) (disk : Disk) : Disk :=
  marked layout (marked layout disk pair.activePath) pair.standbyPath

/-- The marker of the active root is seen to. -/
def begins (pair : DrivePair) (disk : Disk) : Bool :=
  pair.standbyAcceptsSync disk && disk.available pair.activePath

/-- The marker of the standby root is seen to. -/
def proceeds (layout : Layout) (io : Io) (pair : DrivePair) (disk : Disk) : Bool :=
  begins pair disk && marks layout io disk pair.activePath

/-- The destination is asked for. -/
def arrivesAtCopy (layout : Layout) (io : Io) (pair : DrivePair) (relativePath : String) (disk : Disk) : Bool :=
  proceeds layout io pair disk && marks layout io (marked layout disk pair.activePath) pair.standbyPath &&
    (ready layout pair disk).exists? (sourceOf layout pair relativePath)

/-- The destination is created. -/
def copies (layout : Layout) (io : Io) (pair : DrivePair) (relativePath : String) (disk : Disk) : Bool :=
  arrivesAtCopy layout io pair relativePath disk && io.createDirAll (destinationOf layout pair relativePath) &&
    entersCopy io (ready layout pair disk) (sourceOf layout pair relativePath) (destinationOf layout pair relativePath)

/-- The marker, where it is missing. -/
def missing (layout : Layout) (disk : Disk) (root : String) : List Location :=
  if disk.exists? (markerOf layout root) then [] else [markerOf layout root]

theorem markers_run (layout : Layout) (io : Io) (root : String) (w : World) (notes : List Location) :
    (w.disk.available root = true → marks layout io w.disk root = true →
      ensureDriveRootMarkerAt layout io root ⟨w,notes⟩ =
        .ok () ⟨{ w with disk := marked layout w.disk root },notes ++ missing layout w.disk root⟩) ∧
    (w.disk.available root = true → marks layout io w.disk root = false →
      ensureDriveRootMarkerAt layout io root ⟨w,notes⟩ = .error osError ⟨w,notes ++ missing layout w.disk root⟩) ∧
    (w.disk.available root = false → ensureDriveRootMarkerAt layout io root ⟨w,notes⟩ =
      .error s!"Drive root unavailable: {root}" ⟨w,notes⟩) := by
  have looked := lift_of_ok (Act.look_apply (fun disk => disk.available root) w) notes
  unfold ensureDriveRootMarkerAt marks marked missing
  rw [bind_of_ok looked]
  cases present : w.disk.exists? (markerOf layout root) with
  | true =>
    refine ⟨fun available _ => ?_,fun _ failed => ?_,fun absent => ?_⟩
    · rw [available,bind_of_ok (lift_of_ok (Act.ensure_true _ w) notes),
        bind_of_ok (lift_of_ok (Act.look_apply _ w) notes),present]
      simp only [if_true,List.append_nil]
      rfl
    · rw [Bool.true_or] at failed
      cases failed
    · rw [absent]
      exact bind_of_error (lift_of_error (Act.ensure_false _ w) notes) _
  | false =>
    rw [Bool.false_or]
    have asked : note (markerOf layout root) (Noted.mk w notes) =
        EStateM.Result.ok (ε := String) () ⟨w,notes ++ [markerOf layout root]⟩ := rfl
    refine ⟨fun available done => ?_,fun available failed => ?_,fun absent => ?_⟩
    · rw [available,bind_of_ok (lift_of_ok (Act.ensure_true _ w) notes),
        bind_of_ok (lift_of_ok (Act.look_apply _ w) notes),present]
      simp only [Bool.not_false,if_true,Bool.false_eq_true,if_false]
      rw [bind_of_ok asked,done,bind_of_ok (lift_of_ok (Act.ensure_true _ w) _)]
      exact lift_of_ok (Act.store_apply _ w) _
    · rw [available,bind_of_ok (lift_of_ok (Act.ensure_true _ w) notes),
        bind_of_ok (lift_of_ok (Act.look_apply _ w) notes),present]
      simp only [Bool.not_false,if_true,Bool.false_eq_true,if_false]
      rw [bind_of_ok asked,failed]
      exact bind_of_error (lift_of_error (Act.ensure_false _ w) _) _
    · rw [absent]
      exact bind_of_error (lift_of_error (Act.ensure_false _ w) notes) _

/-- All that a mirroring asks to be written. -/
def requests (layout : Layout) (io : Io) (pair : DrivePair) (relativePath : String) (disk : Disk) : List Location :=
  (if begins pair disk then missing layout disk pair.activePath else []) ++
    (if proceeds layout io pair disk then missing layout (marked layout disk pair.activePath) pair.standbyPath else []) ++
    if arrivesAtCopy layout io pair relativePath disk then [destinationOf layout pair relativePath] else []

theorem marked_available (layout : Layout) (disk : Disk) (root : String) :
    (marked layout disk root).available = disk.available := by
  unfold marked
  split <;> rfl

theorem marked_node (layout : Layout) (disk : Disk) (root : String) {path : Location} {node : FileNode}
    (found : disk.node path = some node) : (marked layout disk root).node path = some node := by
  unfold marked
  split
  · exact found
  · rename_i absent
    have apart : path ≠ markerOf layout root := by
      rintro rfl
      simp [Disk.exists?,found] at absent
    exact (Disk.write_other _ _ apart).trans found

theorem ready_node (layout : Layout) (pair : DrivePair) {disk : Disk} {path : Location} {node : FileNode}
    (found : disk.node path = some node) : (ready layout pair disk).node path = some node :=
  marked_node _ _ _ (marked_node _ _ _ found)

theorem ends_with {α β : Type} {x : Call α} {s : Noted World Location} {w t : World} {notes asked : List Location}
    {message : String} (failed : x s = .error message ⟨t,notes⟩) (same : notes = asked) (untouched : Untouched w t)
    (rest : α → Call β) : ∃ message t, (x >>= rest) s = .error message ⟨t,asked⟩ ∧ Untouched w t := by
  subst same
  exact ⟨message,t,bind_of_error failed rest,untouched⟩

theorem prepare_cases (layout : Layout) (io : Io) (pair : DrivePair) (relativePath : String) (w : World) :
    (arrivesAtCopy layout io pair relativePath w.disk = true ∧
      prepareMirrorAt layout io pair relativePath ⟨w,[]⟩ =
        lift (Act.mapErr (fun _ => "Failed to create mirror directory")
          (createParentDirsAt layout io pair.standbyPath relativePath))
          ⟨{ w with disk := ready layout pair w.disk },requests layout io pair relativePath w.disk⟩) ∨
    (arrivesAtCopy layout io pair relativePath w.disk = false ∧ ∃ message t,
      prepareMirrorAt layout io pair relativePath ⟨w,[]⟩ =
        .error message ⟨t,requests layout io pair relativePath w.disk⟩ ∧ Untouched w t) := by
  unfold prepareMirrorAt requests arrivesAtCopy proceeds begins
  rw [bind_of_ok (lift_of_ok (Act.look_apply _ w) [])]
  cases accepts : pair.standbyAcceptsSync w.disk with
  | false =>
    exact .inr ⟨rfl,ends_with (lift_of_error (Act.ensure_false _ w) []) rfl (refl_of Untouched w) _⟩
  | true =>
    rw [bind_of_ok (lift_of_ok (Act.ensure_true _ w) [])]
    obtain ⟨activeDone,activeFailed,activeGone⟩ := markers_run layout io pair.activePath w []
    cases active : w.disk.available pair.activePath with
    | false =>
      exact .inr ⟨rfl,ends_with (activeGone active) rfl (refl_of Untouched w) _⟩
    | true =>
      cases firstDone : marks layout io w.disk pair.activePath with
      | false =>
        exact .inr ⟨rfl,ends_with (activeFailed active firstDone) (by simp) (refl_of Untouched w) _⟩
      | true =>
        rw [bind_of_ok (activeDone active firstDone)]
        have standby : (marked layout w.disk pair.activePath).available pair.standbyPath = true := by
          rw [marked_available]
          unfold DrivePair.standbyAcceptsSync at accepts
          exact (Bool.and_eq_true_iff.mp accepts).2
        have untouched : Untouched w { w with disk := marked layout w.disk pair.activePath } :=
          ⟨rfl,fun _ _ found => marked_node _ _ _ found⟩
        have settled : Untouched w { w with disk := ready layout pair w.disk } :=
          ⟨rfl,fun _ _ found => ready_node _ _ found⟩
        obtain ⟨standbyDone,standbyFailed,-⟩ := markers_run layout io pair.standbyPath
          { w with disk := marked layout w.disk pair.activePath } ([] ++ missing layout w.disk pair.activePath)
        cases secondDone : marks layout io (marked layout w.disk pair.activePath) pair.standbyPath with
        | false =>
          exact .inr ⟨rfl,ends_with (standbyFailed standby secondDone) (by simp) untouched _⟩
        | true =>
          rw [bind_of_ok (standbyDone standby secondDone)]
          dsimp only
          rw [bind_of_ok (lift_of_ok (Act.look_apply _ _) _)]
          cases present : (ready layout pair w.disk).exists? (sourceOf layout pair relativePath) with
          | false =>
            have absent : ((marked layout (marked layout w.disk pair.activePath) pair.standbyPath).exists?
              (sourceOf layout pair relativePath)) = false := present
            rw [absent]
            exact .inr ⟨rfl,ends_with (lift_of_error (Act.ensure_false _ _) _) (by simp) settled _⟩
          | true =>
            have found : ((marked layout (marked layout w.disk pair.activePath) pair.standbyPath).exists?
              (sourceOf layout pair relativePath)) = true := present
            rw [found,bind_of_ok (lift_of_ok (Act.ensure_true _ _) _)]
            refine .inl ⟨rfl,?_⟩
            simp only [Bool.and_true,if_true,List.nil_append]
            rfl

/-- The disk on which the copy starts; a root may have been created. -/
def opened (layout : Layout) (io : Io) (pair : DrivePair) (disk : Disk) : Disk :=
  if io.createsRoot pair.standbyPath then (ready layout pair disk).mount pair.standbyPath else ready layout pair disk

theorem entersCopy_opened (layout : Layout) (io : Io) (pair : DrivePair) (disk : Disk) (src dst : Location) :
    entersCopy io (opened layout io pair disk) src dst = entersCopy io (ready layout pair disk) src dst := by
  unfold opened
  split <;> rfl

theorem delivered_opened (layout : Layout) (io : Io) (pair : DrivePair) (disk : Disk) (src dst : Location) :
    delivered io (opened layout io pair disk) src dst = delivered io (ready layout pair disk) src dst := by
  unfold opened
  split <;> rfl

theorem opened_node (layout : Layout) (io : Io) (pair : DrivePair) (disk : Disk) :
    (opened layout io pair disk).node = (ready layout pair disk).node := by
  unfold opened
  split <;> rfl

theorem createParentDirs_run (layout : Layout) (io : Io) (pair : DrivePair) (relativePath : String) (w : World) :
    createParentDirsAt layout io pair.standbyPath relativePath { w with disk := ready layout pair w.disk } =
      if io.createDirAll (destinationOf layout pair relativePath) then .ok () { w with disk := opened layout io pair w.disk }
      else .error osError { w with disk := ready layout pair w.disk } := by
  unfold createParentDirsAt opened attemptCall destinationOf
  cases io.createDirAll (layout.place pair.standbyPath relativePath) with
  | false => rfl
  | true => cases io.createsRoot pair.standbyPath <;> rfl

section
variable [Blake3]

theorem mirror_after (layout : Layout) (io : Io) (pair : DrivePair) (relativePath : String) (w : World) :
    ∃ t, after (mirrorFileAt layout io pair relativePath) ⟨w,[]⟩ =
        ⟨t,requests layout io pair relativePath w.disk⟩ ∧
      ((copies layout io pair relativePath w.disk = false ∧ Untouched w t) ∨
        (copies layout io pair relativePath w.disk = true ∧
          t.disk.node = ((ready layout pair w.disk).write (destinationOf layout pair relativePath)
            (delivered io (ready layout pair w.disk) (sourceOf layout pair relativePath)
              (destinationOf layout pair relativePath))).node)) := by
  have settled : Untouched w { w with disk := ready layout pair w.disk } := ⟨rfl,fun _ _ found => ready_node _ _ found⟩
  unfold mirrorFileAt copies
  rcases prepare_cases layout io pair relativePath w with ⟨arrives,prepared⟩ | ⟨stays,message,t,ended,untouched⟩
  · rw [arrives]
    have made := createParentDirs_run layout io pair relativePath w
    cases granted : io.createDirAll (destinationOf layout pair relativePath) with
    | false =>
      rw [granted,if_neg Bool.false_ne_true] at made
      rw [lift_of_error (Act.mapErr_of_error made _)] at prepared
      exact ⟨_,after_bind_of_error prepared _,.inl ⟨by simp,settled⟩⟩
    | true =>
      rw [granted,if_pos rfl] at made
      rw [lift_of_ok (Act.mapErr_of_ok made _)] at prepared
      rw [after_bind_of_ok prepared]
      cases enters : entersCopy io (ready layout pair w.disk) (sourceOf layout pair relativePath)
          (destinationOf layout pair relativePath) with
      | false =>
        rw [← entersCopy_opened] at enters
        have stays := copyWithChecksum_stays (w := { w with disk := opened layout io pair w.disk }) enters
        refine ⟨_,after_bind_of_error (lift_of_error (Act.mapErr_of_error stays _) _) _,.inl ⟨rfl,rfl,?_⟩⟩
        intro path node found
        rw [opened_node]
        exact ready_node layout pair found
      | true =>
        rw [← entersCopy_opened] at enters
        have written : ∀ bytes, ((opened layout io pair w.disk).write (destinationOf layout pair relativePath) bytes).node =
            ((ready layout pair w.disk).write (destinationOf layout pair relativePath) bytes).node := by
          intro bytes
          simp only [Disk.write,opened_node]
        rcases copyWithChecksum_enters (w := { w with disk := opened layout io pair w.disk }) enters with
          ⟨_,copied⟩ | ⟨_,text,broken⟩
        · rw [after_bind_of_ok (lift_of_ok (Act.mapErr_of_ok copied _) _)]
          dsimp only
          rw [beq_self_eq_true]
          refine ⟨_,after_bind_of_ok (lift_of_ok (Act.ensure_true _ _) _) _,.inr ⟨rfl,?_⟩⟩
          rw [written,delivered_opened]
        · refine ⟨_,after_bind_of_error (lift_of_error (Act.mapErr_of_error broken _) _) _,.inr ⟨rfl,?_⟩⟩
          rw [written,delivered_opened]
  · rw [stays]
    exact ⟨t,after_bind_of_error ended _,.inl ⟨rfl,untouched⟩⟩

end

/-! The active copy, and the place of the writes. -/

/-- The active copy is as it was, and all that was asked to be written lies under the standby root. -/
structure Frames (layout : Layout) (pair : DrivePair) (relativePath : String) (w : World) (s : Noted World Location) :
    Prop where
  kept : ∀ node, w.disk.node (sourceOf layout pair relativePath) = some node →
    s.state.disk.node (sourceOf layout pair relativePath) = some node
  within : ∀ path ∈ s.notes, layout.Under pair.standbyPath path

/-- The roots have their markers or have them under the standby root; a destination that is
reached is there too, and is the source itself only if there is nothing to lose. -/
structure Contained (layout : Layout) (io : Io) (pair : DrivePair) (relativePath : String) (disk : Disk) : Prop where
  activeMarker : begins pair disk = true →
    disk.exists? (markerOf layout pair.activePath) = true ∨ layout.Under pair.standbyPath (markerOf layout pair.activePath)
  standbyMarker : proceeds layout io pair disk = true →
    (marked layout disk pair.activePath).exists? (markerOf layout pair.standbyPath) = true ∨
      layout.Under pair.standbyPath (markerOf layout pair.standbyPath)
  destination : arrivesAtCopy layout io pair relativePath disk = true →
    layout.Under pair.standbyPath (destinationOf layout pair relativePath)
  apart : copies layout io pair relativePath disk = true →
    sourceOf layout pair relativePath = destinationOf layout pair relativePath →
    ∀ node, disk.node (sourceOf layout pair relativePath) = some node → node = ⟨[],none⟩

theorem missing_under {layout : Layout} {disk : Disk} {root under : String} :
    (∀ path ∈ missing layout disk root, layout.Under under path) ↔
      (disk.exists? (markerOf layout root) = true ∨ layout.Under under (markerOf layout root)) := by
  unfold missing
  split
  · rename_i present
    exact iff_of_true (by simp) (.inl present)
  · rename_i absent
    rw [List.forall_mem_singleton,or_iff_right absent]

theorem asked_if {condition : Bool} {paths : List Location} {P : Location → Prop} :
    (∀ path ∈ (if condition then paths else []), P path) ↔ (condition = true → ∀ path ∈ paths, P path) := by
  cases condition <;> simp

theorem requests_under (layout : Layout) (io : Io) (pair : DrivePair) (relativePath : String) (disk : Disk) :
    (∀ path ∈ requests layout io pair relativePath disk, layout.Under pair.standbyPath path) ↔
      (begins pair disk = true → disk.exists? (markerOf layout pair.activePath) = true ∨
        layout.Under pair.standbyPath (markerOf layout pair.activePath)) ∧
      (proceeds layout io pair disk = true →
        (marked layout disk pair.activePath).exists? (markerOf layout pair.standbyPath) = true ∨
          layout.Under pair.standbyPath (markerOf layout pair.standbyPath)) ∧
      (arrivesAtCopy layout io pair relativePath disk = true →
        layout.Under pair.standbyPath (destinationOf layout pair relativePath)) := by
  unfold requests
  rw [List.forall_mem_append,List.forall_mem_append,asked_if,asked_if,asked_if,missing_under,missing_under,
    List.forall_mem_singleton,and_assoc]

theorem delivered_self (io : Io) (disk : Disk) (path : Location) : delivered io disk path path = [] := by
  unfold delivered copySource
  rw [Disk.write_same]
  cases io.writeLimit path with
  | none => rfl
  | some most => exact List.take_nil

theorem kept_iff {layout : Layout} {io : Io} {pair : DrivePair} {relativePath : String} {w t : World}
    (left : (copies layout io pair relativePath w.disk = false ∧ Untouched w t) ∨
      (copies layout io pair relativePath w.disk = true ∧
        t.disk.node = ((ready layout pair w.disk).write (destinationOf layout pair relativePath)
          (delivered io (ready layout pair w.disk) (sourceOf layout pair relativePath)
            (destinationOf layout pair relativePath))).node)) :
    (∀ node, w.disk.node (sourceOf layout pair relativePath) = some node →
      t.disk.node (sourceOf layout pair relativePath) = some node) ↔
      (copies layout io pair relativePath w.disk = true →
        sourceOf layout pair relativePath = destinationOf layout pair relativePath →
        ∀ node, w.disk.node (sourceOf layout pair relativePath) = some node → node = ⟨[],none⟩) := by
  rcases left with ⟨stays,untouched⟩ | ⟨copied,after⟩
  · rw [stays]
    exact iff_of_true (fun node found => untouched.2 _ _ found) (fun impossible => by cases impossible)
  · rw [copied,after]
    by_cases same : sourceOf layout pair relativePath = destinationOf layout pair relativePath
    · rw [← same,Disk.write_same,delivered_self]
      constructor
      · exact fun kept _ _ node found => (Option.some.inj (kept node found)).symm
      · exact fun empty node found => by rw [empty rfl rfl node found]
    · rw [Disk.write_other _ _ same]
      exact iff_of_true (fun node found => ready_node _ _ found) (fun _ equal => absurd equal same)

theorem frames_iff_contained [Blake3] (layout : Layout) (io : Io) (pair : DrivePair) (relativePath : String) (w : World) :
    Frames layout pair relativePath w (after (mirrorFileAt layout io pair relativePath) ⟨w,[]⟩) ↔
      Contained layout io pair relativePath w.disk := by
  obtain ⟨t,after,left⟩ := mirror_after layout io pair relativePath w
  have unchanged := kept_iff left
  have asked := requests_under layout io pair relativePath w.disk
  rw [after]
  constructor
  · rintro ⟨kept,within⟩
    obtain ⟨activeMarker,standbyMarker,destination⟩ := asked.mp within
    exact ⟨activeMarker,standbyMarker,destination,unchanged.mp kept⟩
  · rintro ⟨activeMarker,standbyMarker,destination,apart⟩
    exact ⟨unchanged.mpr apart,asked.mpr ⟨activeMarker,standbyMarker,destination⟩⟩

/-! The paths of one tree. -/

/-- `Path::is_absolute`. -/
def isAbsolute (path : String) : Bool := path.toList.head? == some '/'

/-- `Path::join`: an absolute path replaces what it is joined to. -/
def join (root relativePath : String) : String :=
  if isAbsolute relativePath then relativePath
  else if root.toList.getLast?.all (· == '/') then root ++ relativePath
  else root ++ "/" ++ relativePath

/-- The file at the end of these names. -/
def located (names : List (List Char)) : Location := ⟨"",String.ofList (['/'].intercalate names)⟩

/-- Texts that the operating system takes to the names where they end, through whatever links. -/
def paths (resolve : String → List (List Char)) : Layout where
  place root relativePath := located (resolve (join root relativePath))
  shown := join
  Under root path := ∃ below, path = located (resolve root ++ below)

def part (name : List Char) : Paths.Part (List Char) :=
  if name = ['.'] then .current else if name = ['.','.'] then .parent else .name name

def partsOf (path : String) : List (Paths.Part (List Char)) := (components path.toList).map part

structure Directory where
  names : List (List Char)
  named : Named names

/-- Where a path ends if no link is on its way, from the working directory of the process. -/
def resolveFrom (here : Directory) (path : String) : List (List Char) :=
  walk (if isAbsolute path then [] else here.names) (partsOf path)

theorem part_name {name text : List Char} (same : part name = .name text) : name = text := by
  unfold part at same
  split at same
  · cases same
  · split at same
    · cases same
    · exact Paths.Part.name.inj same

theorem named_resolveFrom (here : Directory) (path : String) : Named (resolveFrom here path) := by
  apply walk_forall
  · split
    · exact fun name member => by cases member
    · exact here.named
  · intro text member
    obtain ⟨name,component,same⟩ := List.mem_map.mp member
    rw [← part_name same]
    exact mem_components component

theorem located_injective {names others : List (List Char)} (named : Named names) (also : Named others)
    (same : located names = located others) : names = others := by
  have texts := String.ofList_injective (Location.mk.inj same).2
  rw [← components_joinSegments named,← components_joinSegments also,joinSegments,joinSegments,texts]

theorem join_cases (root : String) {relativePath : String} (relative : isAbsolute relativePath = false) :
    (root.toList = [] ∧ (join root relativePath).toList = relativePath.toList) ∨
      ∃ front, components front = components root.toList ∧ (front ++ ['/']).head? = root.toList.head? ∧
        (join root relativePath).toList = front ++ '/'::relativePath.toList := by
  unfold join
  rw [if_neg (by simp [relative])]
  cases text : root.toList using List.reverseRecOn with
  | nil =>
    rw [List.getLast?_nil,Option.all_none,if_pos rfl,String.toList_append,text]
    exact .inl ⟨rfl,rfl⟩
  | append_singleton front last =>
    rw [List.getLast?_concat,Option.all_some]
    by_cases slash : last = '/'
    · subst slash
      refine .inr ⟨front,?_,rfl,?_⟩
      · rw [components_append_slash]
        exact (List.append_nil _).symm
      · rw [beq_self_eq_true,if_pos rfl,String.toList_append,text,List.append_assoc]
        rfl
    · refine .inr ⟨front ++ [last],rfl,?_,?_⟩
      · cases front <;> rfl
      · rw [if_neg (by simpa using slash),String.toList_append,String.toList_append,text,List.append_assoc]
        rfl

theorem components_join {root relativePath : String} (relative : isAbsolute relativePath = false) :
    components (join root relativePath).toList = components root.toList ++ components relativePath.toList := by
  rcases join_cases root relative with ⟨empty,joined⟩ | ⟨front,same,_,joined⟩
  · rw [joined,empty]
    rfl
  · rw [joined,components_append_slash,same]

theorem isAbsolute_join {root relativePath : String} (relative : isAbsolute relativePath = false) :
    isAbsolute (join root relativePath) = isAbsolute root := by
  rcases join_cases root relative with ⟨empty,joined⟩ | ⟨front,_,head,joined⟩
  · unfold isAbsolute at *
    rw [joined,empty,relative]
    rfl
  · have begins : (front ++ '/'::relativePath.toList).head? = (front ++ ['/']).head? := by
      cases front <;> rfl
    rw [isAbsolute,isAbsolute,joined,begins,head]

theorem resolveFrom_join (here : Directory) {root relativePath : String} (relative : isAbsolute relativePath = false) :
    resolveFrom here (join root relativePath) = walk (resolveFrom here root) (partsOf relativePath) := by
  unfold resolveFrom
  rw [isAbsolute_join relative,partsOf,components_join relative,List.map_append,walk_append]
  rfl

/-- A relative path that never climbs above its root. -/
def Inside (relativePath : String) : Prop := isAbsolute relativePath = false ∧ inside 0 (partsOf relativePath) = true

theorem resolveFrom_inside (here : Directory) {relativePath : String} (stays : Inside relativePath) (root : String) :
    resolveFrom here (join root relativePath) = resolveFrom here root ++ walk [] (partsOf relativePath) := by
  rw [resolveFrom_join here stays.1,walk_inside_nil _ stays.2]

theorem under_inside (here : Directory) {relativePath : String} (stays : Inside relativePath) (root : String) :
    (paths (resolveFrom here)).Under root ((paths (resolveFrom here)).place root relativePath) :=
  ⟨walk [] (partsOf relativePath),congrArg located (resolveFrom_inside here stays root)⟩

theorem inside_marker : Inside driveRootMarker := by
  constructor <;> decide

theorem contained_of_inside {here : Directory} {io : Io} {pair : DrivePair} {relativePath : String} {disk : Disk}
    (stays : Inside relativePath) (distinct : resolveFrom here pair.activePath ≠ resolveFrom here pair.standbyPath)
    (marker : disk.exists? (markerOf (paths (resolveFrom here)) pair.activePath) = true) :
    Contained (paths (resolveFrom here)) io pair relativePath disk where
  activeMarker _ := .inl marker
  standbyMarker _ := .inr (under_inside here inside_marker pair.standbyPath)
  destination _ := under_inside here stays pair.standbyPath
  apart _ same := by
    have names := located_injective (named_resolveFrom here _) (named_resolveFrom here _) same
    rw [resolveFrom_inside here stays,resolveFrom_inside here stays] at names
    exact absurd (List.append_cancel_right names) distinct

/-! What the API lets through. -/

inductive PathTargetKind
  | file
  | directory
  deriving DecidableEq, Repr

/-- Not one of the names with a meaning of their own. -/
def Ordinary (name : List Char) : Prop := name ≠ [] ∧ '/' ∉ name ∧ name ≠ ['.'] ∧ name ≠ ['.','.']

instance : DecidablePred Ordinary := fun _ => inferInstanceAs (Decidable (_ ∧ _ ∧ _ ∧ _))

/-- `std::fs` on whole paths: a canonical one has no links and no dots left. -/
structure PathTree where
  canonicalize : String → Option (List (List Char))
  isFile : List (List Char) → Bool
  isDir : List (List Char) → Bool
  ordinary : ∀ path names, canonicalize path = some names → ∀ name ∈ names, Ordinary name

def rendered (names : List (List Char)) : String := String.ofList (joinSegments names)

def containsParentDir (path : String) : Bool := (components path.toList).any (· == ['.','.'])

/-- The last of the checks. -/
def checkTargetKind (tree : PathTree) (canonical : List (List Char)) : PathTargetKind → Except String Unit
  | .file => if tree.isFile canonical then .ok () else .error s!"Selected path is not a file: {rendered canonical}"
  | .directory =>
    if tree.isDir canonical then .ok () else .error s!"Selected path is not a directory: {rendered canonical}"

def orElseError {α : Type} (message : String) : Option α → Except String α
  | some value => .ok value
  | none => .error message

/-- `Path::strip_prefix`. -/
def stripRoot (root path : List (List Char)) : Option (List (List Char)) :=
  if root <+: path then some (path.drop root.length) else none

def resolvePathWithinDriveRoot (tree : PathTree) (driveRoot inputPath : String) (targetKind : PathTargetKind) :
    Except String String := do
  let trimmed := String.ofList (trim inputPath.toList)
  if trimmed = "" then throw "Path is required"
  if containsParentDir trimmed then throw "Parent-directory traversal is not allowed"
  let root ← orElseError s!"Failed to access drive root: {driveRoot}" (tree.canonicalize driveRoot)
  let candidate := if isAbsolute trimmed then trimmed else join (rendered root) trimmed
  let canonical ← orElseError s!"Path does not exist: {candidate}" (tree.canonicalize candidate)
  let shown := rendered canonical
  let relative ← orElseError s!"Selected path is outside the active drive root: {shown}" (stripRoot root canonical)
  if relative = [] then throw "Selecting the drive root itself is not supported"
  checkTargetKind tree canonical targetKind
  pure (String.ofList (['/'].intercalate relative))

theorem components_intercalate {names : List (List Char)} (named : Named names) :
    components (['/'].intercalate names) = names := by
  have whole := components_joinSegments named
  have split := components_append_slash [] (['/'].intercalate names)
  rw [joinSegments] at whole
  exact split.symm.trans whole

theorem inside_names {depth : Nat} {parts : List (Paths.Part (List Char))} (named : ∀ step ∈ parts, ∃ text, step = .name text) :
    inside depth parts = true := by
  induction parts generalizing depth with
  | nil => rfl
  | cons step parts ih =>
    obtain ⟨text,rfl⟩ := named step List.mem_cons_self
    exact ih fun other member => named other (List.mem_cons_of_mem _ member)

theorem part_ordinary {name : List Char} (ordinary : Ordinary name) : part name = .name name := by
  rw [part,if_neg ordinary.2.2.1,if_neg ordinary.2.2.2]

theorem inside_of_ordinary {names : List (List Char)} (nonempty : names ≠ []) (ordinary : ∀ name ∈ names, Ordinary name) :
    Inside (String.ofList (['/'].intercalate names)) := by
  have named : Named names := fun name member => ⟨(ordinary name member).1,(ordinary name member).2.1⟩
  constructor
  · obtain ⟨first,rest,rfl⟩ := List.exists_cons_of_ne_nil nonempty
    obtain ⟨filled,noSlash⟩ := named first List.mem_cons_self
    obtain ⟨c,text,rfl⟩ := List.exists_cons_of_ne_nil filled
    have other : c ≠ '/' := fun slash => noSlash (slash ▸ List.mem_cons_self)
    have head : (['/'].intercalate ((c::text)::rest)).head? = some c := by
      cases rest <;> rfl
    rw [isAbsolute,String.toList_ofList,head]
    simpa using other
  · rw [partsOf,String.toList_ofList,components_intercalate named]
    apply inside_names
    intro step member
    obtain ⟨name,component,rfl⟩ := List.mem_map.mp member
    exact ⟨name,part_ordinary (ordinary name component)⟩

theorem orElseError_ok {α : Type} {message : String} {found : Option α} {value : α}
    (ok : orElseError message found = .ok value) : found = some value := by
  cases found with
  | none => cases ok
  | some other =>
    cases ok
    rfl

theorem except_bind_success {α β : Type} {first : Except String α} {next : α → Except String β} {result : β}
    (ok : (first >>= next) = .ok result) : ∃ value, first = .ok value ∧ next value = .ok result := by
  cases first with
  | error message => cases ok
  | ok value => exact ⟨value,rfl,ok⟩

theorem inside_of_resolved {tree : PathTree} {driveRoot inputPath relativePath : String} {targetKind : PathTargetKind}
    (ok : resolvePathWithinDriveRoot tree driveRoot inputPath targetKind = .ok relativePath) : Inside relativePath := by
  unfold resolvePathWithinDriveRoot at ok
  dsimp only at ok
  split at ok
  · cases ok
  · split at ok
    · cases ok
    · obtain ⟨root,_,looks⟩ := except_bind_success ok
      obtain ⟨canonical,resolved,strips⟩ := except_bind_success looks
      obtain ⟨relative,stripped,checks⟩ := except_bind_success strips
      split at checks
      · cases checks
      · rename_i nonempty
        obtain ⟨_,_,ends⟩ := except_bind_success checks
        cases ends
        have whole := tree.ordinary _ _ (orElseError_ok resolved)
        have below := orElseError_ok stripped
        unfold stripRoot at below
        split at below
        · cases below
          exact inside_of_ordinary nonempty fun name member => whole name (List.mem_of_mem_drop member)
        · cases below

section
variable [Blake3]

/-- Through whatever links: the active copy stays, and all the writes lie under the standby
root, exactly if the destination that is reached lies there and is not the source itself. A path
that the API resolved is of that kind, between two directories with the active one marked. -/
theorem mirror_frames_iff (resolve : String → List (List Char)) (io : Io) (pair : DrivePair) (relativePath : String)
    (w : World) :
    Frames (paths resolve) pair relativePath w
        (after (mirrorFileAt (paths resolve) io pair relativePath) ⟨w,[]⟩) ↔
      Contained (paths resolve) io pair relativePath w.disk :=
  frames_iff_contained (paths resolve) io pair relativePath w

theorem resolved_path_frames {tree : PathTree} {here : Directory} {driveRoot inputPath relativePath : String}
    {targetKind : PathTargetKind} {pair : DrivePair}
    (ok : resolvePathWithinDriveRoot tree driveRoot inputPath targetKind = .ok relativePath)
    (distinct : resolveFrom here pair.activePath ≠ resolveFrom here pair.standbyPath) (io : Io) {w : World}
    (marker : w.disk.exists? (markerOf (paths (resolveFrom here)) pair.activePath) = true) :
    Frames (paths (resolveFrom here)) pair relativePath w
      (after (mirrorFileAt (paths (resolveFrom here)) io pair relativePath) ⟨w,[]⟩) :=
  (frames_iff_contained _ io pair relativePath w).mpr (contained_of_inside (inside_of_resolved ok) distinct marker)

/-! The core and the command line track a path as it is given. -/

/-- The disk as the tracking of this layout sees it. -/
def seen (layout : Layout) (disk : Disk) : Disk :=
  { disk with node := fun path => disk.node (layout.place path.root path.relativePath) }

def rootDirectory : Directory := ⟨[],fun _ member => by cases member⟩

def onePaths : Layout := paths (resolveFrom rootDirectory)

/-- One file on the active side of the pair, and the markers of both. -/
def notesDisk : Disk where
  available _ := true
  node path :=
    if path = onePaths.place "/c" "notes.txt" then some ⟨[1],none⟩
    else if path = markerOf onePaths "/c" ∨ path = markerOf onePaths "/d" then some ⟨driveRootMarkerBytes,none⟩
    else none

def noLinks : LinkAnswers := ⟨fun _ => .error osError,.ok ()⟩

end

def notesPair : DrivePair := createdPair "/c" "/d" .hdd .hdd 1

example :
    letI := sampleBlake3
    Frames onePaths notesPair "notes.txt" ⟨Db.empty,notesDisk⟩
      (after (mirrorFileAt onePaths .healthy notesPair "notes.txt") ⟨⟨Db.empty,notesDisk⟩,[]⟩) := by
  let _ := sampleBlake3
  have apart : resolveFrom rootDirectory notesPair.activePath ≠ resolveFrom rootDirectory notesPair.standbyPath := by
    decide +kernel
  have marker : notesDisk.exists? (markerOf onePaths notesPair.activePath) = true := by decide +kernel
  have stays : Inside "notes.txt" := by constructor <;> decide +kernel
  exact (frames_iff_contained _ _ _ _ _).mpr (contained_of_inside stays apart marker)

/-- `files track` takes the file's absolute path, and the mirroring empties the file. -/
theorem absolute_path_truncated :
    letI := sampleBlake3
    ¬ ∀ (here : Directory) (disk : Disk) (s : DrivePaths.Registry) (id : Nat) (pair : DrivePair) (io : Io) (links : LinkAnswers)
      (relativePath : String) (virtualPath : Option String) (file : TrackedFile) (t : World),
      DrivePaths.machine.Reaches (fun _ _ => True) (freshRegistry noDisk) s →
      s.world.db.drivePairs.find? id = some pair →
      trackFile io links pair relativePath virtualPath ⟨s.world.db,seen (paths (resolveFrom here)) disk⟩ = .ok file t →
      Frames (paths (resolveFrom here)) pair relativePath ⟨t.db,disk⟩
        (after (mirrorFileAt (paths (resolveFrom here)) io pair relativePath) ⟨⟨t.db,disk⟩,[]⟩) := by
  intro frames
  let _ := sampleBlake3
  obtain ⟨s,ran,found⟩ : ∃ s, DrivePaths.machine.exec (freshRegistry noDisk) [createSecond] = some s ∧
      s.world.db.drivePairs.find? 1 = some notesPair := ⟨_,rfl,rfl⟩
  obtain ⟨file,tracked,_⟩ : ∃ file, trackFile .healthy noLinks notesPair "/c/notes.txt" none
      ⟨s.world.db,seen onePaths notesDisk⟩ = .ok file (after (trackFile .healthy noLinks notesPair
        "/c/notes.txt" none) ⟨s.world.db,seen onePaths notesDisk⟩) ∧ true = true := by
    cases ran
    exact ScanRoundTrip.ok_of_returns (p := fun _ => true) (by decide +kernel)
  have framed := frames rootDirectory notesDisk s 1 notesPair .healthy noLinks "/c/notes.txt" none file _
    (Machine.reaches_of_exec ran) found tracked
  have contained : Contained onePaths .healthy notesPair "/c/notes.txt" notesDisk :=
    (frames_iff_contained _ _ _ _ _).mp framed
  have emptied := contained.apart (by decide +kernel) rfl ⟨[1],none⟩ (by decide +kernel)
  cases emptied

end BitProtector.MirrorFrames
