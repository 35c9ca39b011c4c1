import BitProtector.Tracker
import BitProtector.DrivePaths
import BitProtector.Foundation.Growth

/-! Root markers: which roots an operation marks, in which order, and what it leaves of
the markers there were. -/
namespace BitProtector.RootMarkers
open Effect Growth

def Marked (disk : Disk) (root : String) : Prop := disk.exists? (driveRootMarkerPath root) = true

/-- The root that a file at the path marks. -/
def markedBy (path : Location) : List String := if path.relativePath = driveRootMarker then [path.root] else []

/-- The pairs stay, no root goes away, and the roots of a list are marked, up to some point of it. -/
structure Marking (roots : List String) (w t : World) : Prop where
  pairs : t.db.drivePairs = w.db.drivePairs
  available : ∀ root, w.disk.available root = true → t.disk.available root = true
  grows : GrowsBy roots (Marked w.disk) (Marked t.disk)

instance (roots : List String) : IsPreorder World (Marking roots) where
  refl _ := ⟨rfl,fun _ there => there,refl_of (GrowsBy roots) _⟩
  trans _ _ _ first second := ⟨second.pairs.trans first.pairs,fun root there =>
    second.available root (first.available root there),
    trans_of (GrowsBy roots) first.grows second.grows⟩

theorem marking_of_disk (roots : List String) {w t : World} (pairs : t.db.drivePairs = w.db.drivePairs)
    (disk : t.disk = w.disk) : Marking roots w t := by
  refine ⟨pairs,fun root there => by rwa [disk],growsBy_of_iff roots fun root => ?_⟩
  rw [disk]

theorem marking_pure_like {α : Type} {roots : List String} {x : Act α} (still : ∀ w, after x w = w) :
    Keeps (Marking roots) x := by
  intro w
  rw [still]
  exact refl_of (Marking roots) w

theorem marking_query {α : Type} (roots : List String) (read : Db → Except String α) :
    Keeps (Marking roots) (Act.query read) := by
  apply marking_pure_like
  intro w
  unfold after Act.query
  cases read w.db <;> rfl

theorem marking_look {α : Type} (roots : List String) (view : Disk → α) : Keeps (Marking roots) (Act.look view) :=
  marking_pure_like fun _ => rfl

theorem marking_ensure (roots : List String) (condition : Bool) (message : String) :
    Keeps (Marking roots) (Act.ensure condition message) := by
  apply marking_pure_like
  intro w
  cases condition <;> rfl

theorem marking_bail {α : Type} (roots : List String) (message : String) :
    Keeps (Marking roots) (Act.bail message : Act α) := marking_pure_like fun _ => rfl

theorem marking_execute (roots : List String) {update : Db → Db} (pairs : ∀ db, (update db).drivePairs = db.drivePairs) :
    Keeps (Marking roots) (Act.execute update) := fun w => marking_of_disk roots (pairs w.db) rfl

theorem marking_insert {α : Type} (roots : List String) {update : Db → α × Db}
    (pairs : ∀ db, (update db).2.drivePairs = db.drivePairs) : Keeps (Marking roots) (Act.insert update) :=
  fun w => marking_of_disk roots (pairs w.db) rfl

theorem marking_insertOrFail {α : Type} (roots : List String) {update : Db → Except String α × Db}
    (pairs : ∀ db, (update db).2.drivePairs = db.drivePairs) : Keeps (Marking roots) (Act.insertOrFail update) := by
  intro w
  have same := marking_of_disk roots (w := w) (t := { w with db := (update w.db).2 }) (pairs w.db) rfl
  unfold after Act.insertOrFail
  cases (update w.db).1 <;> exact same

theorem marking_mapErr {α : Type} {roots : List String} {x : Act α} (text : String → String)
    (inner : Keeps (Marking roots) x) : Keeps (Marking roots) (Act.mapErr text x) := by
  intro w
  rw [Act.after_mapErr]
  exact inner w

theorem marking_seq {α β : Type} {xs ys : List String} {x : Act α} {f : α → Act β} (first : Keeps (Marking xs) x)
    (whole : ∀ w a t, x w = .ok a t → ∀ root ∈ xs, Marked t.disk root) (second : ∀ a, Keeps (Marking ys) (f a)) :
    Keeps (Marking (xs ++ ys)) (x >>= f) := by
  intro w
  have head := first w
  cases ran : x w with
  | error message t =>
    rw [after_of_error ran] at head
    rw [after_bind_of_error ran]
    exact ⟨head.pairs,head.available,head.grows.append_right ys⟩
  | ok a t =>
    rw [after_of_ok ran] at head
    rw [after_bind_of_ok ran]
    have tail := second a t
    exact ⟨tail.pairs.trans head.pairs,fun root there => tail.available root (head.available root there),
      head.grows.append (whole w a t ran) tail.grows⟩

/-! Files. -/

/-- Only the file at one path is written; it does not go away. -/
structure WritesOnly (path : Location) (w t : World) : Prop where
  db : t.db = w.db
  available : t.disk.available = w.disk.available
  others : ∀ other, other ≠ path → t.disk.node other = w.disk.node other
  stays : w.disk.exists? path = true → t.disk.exists? path = true

instance (path : Location) : IsPreorder World (WritesOnly path) where
  refl _ := ⟨rfl,rfl,fun _ _ => rfl,id⟩
  trans _ _ _ first second := ⟨second.db.trans first.db,second.available.trans first.available,
    fun other apart => (second.others other apart).trans (first.others other apart),fun there => second.stays (first.stays there)⟩

theorem writesOnly_write (path : Location) (bytes : List UInt8) (w : World) :
    WritesOnly path w { w with disk := w.disk.write path bytes } := by
  refine ⟨rfl,rfl,fun other apart => Disk.write_other _ _ apart,fun _ => ?_⟩
  simp [Disk.exists?]

theorem writesOnly_createFile (io : Io) (path : Location) : Keeps (WritesOnly path) (createFile io path) := by
  intro w
  unfold after createFile
  cases io.create path with
  | false => exact refl_of (WritesOnly path) w
  | true => exact writesOnly_write path [] w

theorem writesOnly_writeAll (io : Io) (path : Location) (chunk : List UInt8) :
    Keeps (WritesOnly path) (writeAll io path chunk) := by
  intro w
  unfold after writeAll
  cases w.disk.node path with
  | none => exact refl_of (WritesOnly path) w
  | some node =>
    dsimp only
    split <;> rename_i wrote <;> split at wrote <;> cases wrote <;> exact writesOnly_write path _ w

theorem writesOnly_still {α : Type} {path : Location} {x : Act α} (still : ∀ w, after x w = w) :
    Keeps (WritesOnly path) x := by
  intro w
  rw [still]
  exact refl_of (WritesOnly path) w

theorem openFile_still (io : Io) (path : Location) (w : World) : after (openFile io path) w = w := by
  unfold after openFile
  cases w.disk.exists? path && io.openRead path <;> rfl

theorem readChunk_still (io : Io) (path : Location) (offset : Nat) (w : World) :
    after (readChunk io path offset) w = w := by
  unfold after readChunk
  cases (w.disk.node path).bind (fun node => node.read offset (io.bufLen path offset)) <;> rfl

theorem ensure_still (condition : Bool) (message : String) (w : World) :
    after (Act.ensure condition message) w = w := by
  cases condition <;> rfl

theorem writesOnly_copyLoop (io : Io) (src dst : Location) (fuel offset : Nat) (srcHashed dstHashed : List UInt8) :
    Keeps (WritesOnly dst) (copyLoop io src dst fuel offset srcHashed dstHashed) := by
  induction fuel generalizing offset srcHashed dstHashed with
  | zero => exact writesOnly_still fun _ => rfl
  | succ fuel ih =>
    refine keeps_bind (writesOnly_still (readChunk_still io src offset)) fun chunk => ?_
    split
    · exact keeps_pure _
    · exact keeps_bind (writesOnly_writeAll io dst chunk) fun _ => ih _ _ _

theorem writesOnly_fsCopy (io : Io) (src dst : Location) : Keeps (WritesOnly dst) (fsCopy io src dst) := by
  refine keeps_bind (writesOnly_still (openFile_still io src)) fun _ => ?_
  refine keeps_bind (writesOnly_createFile io dst) fun _ => ?_
  refine keeps_bind (writesOnly_still (ensure_still _ _)) fun _ => ?_
  refine keeps_bind (writesOnly_still fun _ => rfl) fun _ => ?_
  exact keeps_bind (writesOnly_copyLoop _ _ _ _ _ _ _) fun _ => keeps_pure _

theorem writesOnly_copyWithChecksum [Blake3] (io : Io) (src dst : Location) :
    Keeps (WritesOnly dst) (copyWithChecksum io src dst) := by
  refine keeps_bind (writesOnly_still (openFile_still io src)) fun _ => ?_
  refine keeps_bind (writesOnly_createFile io dst) fun _ => ?_
  refine keeps_bind (writesOnly_still fun _ => rfl) fun _ => ?_
  refine keeps_bind (writesOnly_copyLoop _ _ _ _ _ _ _) fun _ => ?_
  refine keeps_bind (writesOnly_still (ensure_still _ _)) fun _ => ?_
  exact keeps_bind (writesOnly_still (ensure_still _ _)) fun _ => keeps_pure _

theorem WritesOnly.marking {path : Location} {w t : World} (writes : WritesOnly path w t) :
    Marking (markedBy path) w t := by
  refine ⟨by rw [writes.db],fun root there => by rwa [writes.available],?_⟩
  have others : ∀ root, driveRootMarkerPath root ≠ path → (Marked t.disk root ↔ Marked w.disk root) := by
    intro root apart
    rw [Marked,Marked,Disk.exists?,Disk.exists?,writes.others _ apart]
  unfold markedBy
  split
  · rename_i marker
    have own : path = driveRootMarkerPath path.root := by
      rw [driveRootMarkerPath,← marker]
      rfl
    refine growsBy_single (fun root apart => others root fun same => ?_) fun held => ?_
    · exact apart (by rw [← same]; rfl)
    · rw [Marked,← own] at held ⊢
      exact writes.stays held
  · rename_i ordinary
    refine growsBy_of_iff [] fun root => others root fun same => ordinary ?_
    rw [← same]
    rfl

theorem WritesOnly.marking_of_marked {path : Location} {w t : World} (writes : WritesOnly path w t)
    (there : path.relativePath = driveRootMarker → Marked w.disk path.root) (roots : List String) : Marking roots w t := by
  refine ⟨by rw [writes.db],fun root there => by rwa [writes.available],growsBy_of_iff roots fun root => ?_⟩
  by_cases same : driveRootMarkerPath root = path
  · subst same
    have held : Marked w.disk root := there rfl
    exact ⟨fun _ => held,fun _ => writes.stays held⟩
  · rw [Marked,Marked,Disk.exists?,Disk.exists?,writes.others _ same]

/-! Marking a root. -/

theorem marking_ensureDriveRootMarker (io : Io) (root : String) :
    Keeps (Marking [root]) (ensureDriveRootMarker io root) := by
  refine keeps_bind (marking_look _ _) fun _ => keeps_bind (marking_ensure _ _ _) fun _ => ?_
  refine keeps_bind (marking_look _ _) fun _ => ?_
  split
  · refine keeps_bind (marking_ensure _ _ _) fun _ w => ?_
    exact (writesOnly_write (driveRootMarkerPath root) driveRootMarkerBytes w).marking
  · exact keeps_pure _

theorem ensureDriveRootMarker_marks {io : Io} {root : String} {w t : World}
    (ok : ensureDriveRootMarker io root w = .ok () t) : Marked t.disk root := by
  obtain ⟨_,u,looked,ok⟩ := bind_success ok
  obtain ⟨_,v,ensured,ok⟩ := bind_success ok
  obtain ⟨there,x,found,ok⟩ := bind_success ok
  obtain ⟨seen,same⟩ := Act.look_success found
  cases there with
  | true =>
    cases ok
    rw [Marked,same]
    exact seen.symm
  | false =>
    obtain ⟨_,y,wrote,ok⟩ := bind_success ok
    cases ok
    simp [Marked,Disk.exists?]

theorem marking_createParentDirs (roots : List String) (io : Io) (path : Location) :
    Keeps (Marking roots) (createParentDirs io path) := by
  refine keeps_bind (marking_ensure _ _ _) fun _ => ?_
  cases io.createsRoot path.root with
  | false => exact keeps_pure _
  | true =>
    refine fun w => ⟨rfl,fun root there => ?_,growsBy_of_iff roots fun _ => Iff.rfl⟩
    exact Bool.or_eq_true_iff.mpr (.inr there)

theorem marking_prepareMirror (io : Io) (pair : DrivePair) (relativePath : String) :
    Keeps (Marking [pair.activePath,pair.standbyPath]) (prepareMirror io pair relativePath) := by
  refine keeps_bind (marking_look _ _) fun _ => keeps_bind (marking_ensure _ _ _) fun _ => ?_
  have whole : ∀ w (a : Unit) t, ensureDriveRootMarker io pair.activePath w = .ok a t →
      ∀ root ∈ [pair.activePath], Marked t.disk root := by
    rintro w ⟨⟩ t ok root member
    rw [List.mem_singleton.mp member]
    exact ensureDriveRootMarker_marks ok
  refine marking_seq (marking_ensureDriveRootMarker _ _) whole fun _ => ?_
  · refine keeps_bind (marking_ensureDriveRootMarker _ _) fun _ => ?_
    refine keeps_bind (marking_look _ _) fun _ => keeps_bind (marking_ensure _ _ _) fun _ => ?_
    exact marking_mapErr _ (marking_createParentDirs _ _ _)

theorem prepareMirror_marks {io : Io} {pair : DrivePair} {relativePath : String} {w t : World}
    (ok : prepareMirror io pair relativePath w = .ok () t) : Marked t.disk pair.standbyPath := by
  obtain ⟨_,_,_,ok⟩ := bind_success ok
  obtain ⟨_,_,_,ok⟩ := bind_success ok
  obtain ⟨_,_,_,ok⟩ := bind_success ok
  obtain ⟨_,u,marked,ok⟩ := bind_success ok
  have rest : Keeps (Marking []) (do
      Act.ensure (← Act.look (fun disk => disk.exists? (pair.copyOn pair.activeRole relativePath)))
        s!"Source file does not exist: {(pair.copyOn pair.activeRole relativePath).display}"
      Act.mapErr (fun _ => "Failed to create mirror directory")
        (createParentDirs io (pair.copyOn pair.standbyRole relativePath))) := by
    refine keeps_bind (marking_look _ _) fun _ => keeps_bind (marking_ensure _ _ _) fun _ => ?_
    exact marking_mapErr _ (marking_createParentDirs _ _ _)
  have kept := rest u
  rw [after_of_ok ok] at kept
  exact kept.grows.subset (ensureDriveRootMarker_marks marked)

theorem marking_mirrorFile [Blake3] (io : Io) (pair : DrivePair) (relativePath : String) :
    Keeps (Marking [pair.activePath,pair.standbyPath]) (mirrorFile io pair relativePath) := by
  intro w
  have prepared := marking_prepareMirror io pair relativePath w
  unfold mirrorFile
  cases ran : prepareMirror io pair relativePath w with
  | error message t =>
    rw [after_of_error ran] at prepared
    rw [after_bind_of_error ran]
    exact prepared
  | ok _ t =>
    rw [after_of_ok ran] at prepared
    rw [after_bind_of_ok ran]
    refine trans_of (Marking _) prepared ?_
    -- the destination may be the marker of the standby root, which is there by now
    refine (show WritesOnly (pair.copyOn pair.standbyRole relativePath) t _ from ?_).marking_of_marked
      (fun _ => prepareMirror_marks ran) _
    refine keeps_bind (fun u => ?_) (fun _ => ?_) t
    · rw [Act.after_mapErr]
      exact writesOnly_copyWithChecksum io _ _ u
    · exact keeps_bind (writesOnly_still (ensure_still _ _)) fun _ => keeps_pure _

theorem marking_prepareRestore (io : Io) (pair : DrivePair) (target : DriveRole) (relativePath : String) :
    Keeps (Marking [pair.pathForRole target]) (prepareRestore io pair target relativePath) := by
  refine keeps_bind (marking_ensure _ _ _) fun _ => keeps_bind (marking_look _ _) fun _ => ?_
  refine keeps_bind (marking_ensure _ _ _) fun _ => ?_
  exact keeps_bind (marking_createParentDirs _ _ _) fun _ => marking_ensureDriveRootMarker _ _

theorem prepareRestore_marks {io : Io} {pair : DrivePair} {target : DriveRole} {relativePath : String} {w t : World}
    (ok : prepareRestore io pair target relativePath w = .ok () t) : Marked t.disk (pair.pathForRole target) := by
  obtain ⟨_,_,_,ok⟩ := bind_success ok
  obtain ⟨_,_,_,ok⟩ := bind_success ok
  obtain ⟨_,_,_,ok⟩ := bind_success ok
  obtain ⟨_,_,_,ok⟩ := bind_success ok
  exact ensureDriveRootMarker_marks ok

end BitProtector.RootMarkers
