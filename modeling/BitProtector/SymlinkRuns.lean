import BitProtector.SymlinkSync

/-! Runs of the calls that change virtual paths, links or the rows they belong to. -/
namespace BitProtector.SymlinkRuns
open Effect VirtualPath VirtualRetarget VirtualAssignment SymlinkSync RootMarkers

/-! Steps that the links do not notice. -/

/-- Nothing that links depend on changes, and no root and no marker goes away. -/
structure Steady (w t : World) : Prop where
  unseen : Unseen w t
  owners : ∀ id file, w.db.trackedFiles.find? id = some file →
    ∃ row, t.db.trackedFiles.find? id = some row ∧ row.drivePairId = file.drivePairId
  available : ∀ root, w.disk.available root = true → t.disk.available root = true
  marked : ∀ root, Marked w.disk root → Marked t.disk root

instance : IsPreorder World Steady where
  refl w := ⟨refl_of Unseen w,fun _ file found => ⟨file,found,rfl⟩,fun _ there => there,fun _ there => there⟩
  trans _ _ _ first second := by
    refine ⟨trans_of Unseen first.unseen second.unseen,fun id file found => ?_,
      fun root there => second.available root (first.available root there),
      fun root there => second.marked root (first.marked root there)⟩
    obtain ⟨row,between,same⟩ := first.owners id file found
    obtain ⟨last,later,again⟩ := second.owners id row between
    exact ⟨last,later,again.trans same⟩

theorem steady_still {α : Type} {x : Act α} (still : ∀ w, after x w = w) : Keeps Steady x := by
  intro w
  rw [still]
  exact refl_of Steady w

theorem steady_query {α : Type} (read : Db → Except String α) : Keeps Steady (Act.query read) :=
  steady_still (Act.after_query read)

theorem steady_look {α : Type} (view : Disk → α) : Keeps Steady (Act.look view) := steady_still fun _ => rfl

theorem steady_ensure (condition : Bool) (message : String) : Keeps Steady (Act.ensure condition message) :=
  steady_still (ensure_still condition message)

theorem steady_mapErr {α : Type} {x : Act α} (text : String → String) (inner : Keeps Steady x) :
    Keeps Steady (Act.mapErr text x) := by
  intro w
  rw [Act.after_mapErr]
  exact inner w

theorem steady_of_tables {w t : World} (disk : t.disk = w.disk) (pairs : t.db.drivePairs = w.db.drivePairs)
    (files : t.db.trackedFiles = w.db.trackedFiles) (folders : t.db.trackedFolders = w.db.trackedFolders) : Steady w t := by
  refine ⟨unseen_of_assignees pairs fun owner => ?_,fun id file found => ⟨file,files ▸ found,rfl⟩,fun root there => ?_,
    fun root there => ?_⟩
  · cases owner with
    | file id => rw [assigneeOf,assigneeOf,files]
    | folder id => rw [assigneeOf,assigneeOf,folders]
  · rwa [disk]
  · rwa [Marked,disk]

theorem steady_insertDedup {α : Type} {update : Db → α × Db} (fileId : Nat) (action : SyncAction) (reason error : Option String)
    (queues : ∀ db, (update db).2 = (db.createSyncQueueItemDedupWithCreated fileId action reason error).2) :
    Keeps Steady (Act.insert update) := by
  intro w
  have frame := w.db.createSyncQueueItemDedupWithCreated_frame fileId action reason error
  have folders : (w.db.createSyncQueueItemDedupWithCreated fileId action reason error).2.trackedFolders =
      w.db.trackedFolders := by
    unfold Db.createSyncQueueItemDedupWithCreated
    cases w.db.openSyncQueueItem fileId action reason <;> rfl
  rw [← queues] at frame folders
  exact steady_of_tables rfl frame.1 frame.2 folders

theorem steady_ensureDriveRootMarker (io : Io) (root : String) : Keeps Steady (ensureDriveRootMarker io root) := by
  intro w
  have marking := marking_ensureDriveRootMarker io root w
  have db := dbKept_ensureDriveRootMarker io root w
  refine ⟨unseen_of_db db,fun id file found => ⟨file,?_,rfl⟩,marking.available,fun root there => marking.grows.subset there⟩
  rw [show (after (ensureDriveRootMarker io root) w).db = w.db from db]
  exact found

theorem steady_ensureWorldReadable (io : Io) (path : Location) : Keeps Steady (ensureWorldReadable io path) :=
  keeps_bind (steady_look _) fun _ => keeps_bind (steady_ensure _ _) fun _ => steady_ensure _ _

theorem steady_readB3Sidecar (io : Io) (path : Location) : Keeps Steady (Sidecar.readB3Sidecar io path) := by
  refine keeps_bind (steady_query _) fun sidecarPath => keeps_bind (steady_look _) fun there => ?_
  split
  · exact keeps_pure _
  · refine keeps_bind (steady_look _) fun size => keeps_bind (steady_ensure _ _) fun _ => ?_
    refine keeps_bind (steady_mapErr _ (steady_still (Sidecar.readToString_after io _))) fun content => ?_
    split
    · exact steady_still fun _ => rfl
    · exact keeps_bind (steady_query _) fun _ => keeps_pure _

theorem steady_createTrackedFileWithSource (drivePairId : Nat) (relativePath checksum : String) (fileSize : Nat)
    (direct viaFolder : Bool) : Keeps Steady (Act.insertOrFail (fun db =>
      db.createTrackedFileWithSource drivePairId relativePath checksum fileSize none direct viaFolder)) := by
  intro w
  rw [Act.after_insertOrFail]
  unfold Db.createTrackedFileWithSource
  split
  · exact refl_of Steady w
  · refine ⟨⟨fun entry => ?_,rfl⟩,fun id file found => ⟨file,?_,rfl⟩,fun _ there => there,fun _ there => there⟩
    · rw [mem_virtualEntries,mem_virtualEntries]
      cases owner : entry.owner with
      | folder id => rfl
      | file id =>
        simp only [assigneeOf,Table.find?_insert]
        split
        · rename_i new
          rw [new,Table.find?_next]
          simp
        · rfl
    · simp only [Table.find?_insert]
      rw [if_neg]
      · exact found
      · intro new
        rw [new,Table.find?_next] at found
        cases found

section
variable [Blake3]

theorem steady_createTrackedFileFromDisk (io : Io) (pair : DrivePair) (relativePath : String) (direct viaFolder : Bool) :
    Keeps Steady (createTrackedFileFromDisk io pair relativePath direct viaFolder) := by
  refine keeps_bind (steady_look _) fun _ => keeps_bind (steady_ensure _ _) fun _ => ?_
  refine keeps_bind (steady_ensureWorldReadable _ _) fun _ => ?_
  refine keeps_bind (steady_mapErr _ (steady_still fun w => checksumFile_after io w _ _)) fun _ => ?_
  refine keeps_bind (keeps_attempt (steady_readB3Sidecar _ _)) fun _ => ?_
  refine keeps_bind ?_ fun size => keeps_bind ?_ fun _ => keeps_pure _
  · exact keeps_bind (steady_look _) fun _ => keeps_bind (steady_ensure _ _) fun _ => steady_look _
  · exact steady_createTrackedFileWithSource _ _ _ _ _ _

omit [Blake3] in
theorem steady_queueNewTracking (pair : DrivePair) (tracked : TrackedFile) :
    Keeps Steady (queueNewTracking pair tracked) := by
  refine keeps_bind (steady_look _) fun accepts => ?_
  split
  · refine keeps_bind (steady_query _) fun pending => ?_
    split
    · exact keeps_bind (steady_insertDedup _ _ _ _ fun _ => rfl) fun _ => keeps_pure _
    · exact keeps_pure _
  · exact keeps_pure _

end

theorem steady_markStandby (io : Io) (pair : DrivePair) : Keeps Steady (markStandby io pair) := by
  refine keeps_bind (steady_look _) fun available => ?_
  split
  · exact keeps_bind (keeps_attempt (steady_ensureDriveRootMarker _ _)) fun _ => keeps_pure _
  · exact keeps_pure _

theorem assigneeOf_updateTrackedFile (db : Db) (id : Nat) {change : TrackedFile → TrackedFile}
    {keepsId : ∀ file, (change file).id = file.id}
    (keeps : ∀ file, (change file).drivePairId = file.drivePairId ∧ (change file).virtualPath = file.virtualPath ∧
      (change file).relativePath = file.relativePath) (owner : VirtualOwner) :
    assigneeOf owner (db.updateTrackedFile id change keepsId) = assigneeOf owner db := by
  cases owner with
  | folder other => rfl
  | file other =>
    rw [assigneeOf,assigneeOf,Db.find?_updateTrackedFile,Option.map_map]
    congr 1
    funext file
    rw [Function.comp_apply]
    split
    · obtain ⟨pair,path,relative⟩ := keeps file
      rw [pair,path,relative]
    · rfl

theorem steady_updateTrackedFileSources (id : Nat) (direct viaFolder : Bool) :
    Keeps Steady (Act.execute (fun db => db.updateTrackedFileSources id direct viaFolder)) := by
  intro w
  refine ⟨unseen_of_assignees rfl fun owner => ?_,fun other file found => ?_,fun _ there => there,fun _ there => there⟩
  · apply assigneeOf_updateTrackedFile
    exact fun _ => ⟨rfl,rfl,rfl⟩
  · have row : (w.db.updateTrackedFileSources id direct viaFolder).trackedFiles.find? other = _ :=
      Db.find?_updateTrackedFile w.db id other _ _
    rw [found,Option.map_some] at row
    refine ⟨_,row,?_⟩
    split <;> rfl

/-! Tracking. -/

theorem agreed_bind {α β : Type} {foreign : Key → Prop} {x : LinkedAct α} {f : α → LinkedAct β} {s : Linked}
    (first : Agreed foreign (after x s))
    (rest : ∀ a t, x s = .ok a t → Agreed foreign t → Agreed foreign (after (f a) t)) :
    Agreed foreign (after (x >>= f) s) := by
  rcases after_bind_cases x f s with ⟨message,failed⟩ | ⟨a,t,ran,ends⟩
  · rw [after_of_error failed] at first
    exact first
  · rw [after_of_ok ran] at first
    rw [ends]
    exact rest a t ran first

theorem after_inWorld {α : Type} (x : Act α) (s : Linked) :
    after (inWorld x) s = { s with world := after x s.world } := by
  unfold after inWorld
  cases x s.world <;> rfl

theorem agreed_inWorld {α : Type} {foreign : Key → Prop} {s : Linked} (agreed : Agreed foreign s) {x : Act α}
    (unseen : Unseen s.world (after x s.world)) : Agreed foreign (after (inWorld x) s) := by
  rw [after_inWorld]
  exact agreed.unseen unseen rfl

/-- The pair is in its row as it was loaded, and its active root is there and marked. -/
structure Ready (pair : DrivePair) (w : World) : Prop where
  row : w.db.drivePairs.find? pair.id = some pair
  available : w.disk.available pair.activePath = true
  marked : Marked w.disk pair.activePath

theorem Ready.steady {pair : DrivePair} {w t : World} (ready : Ready pair w) (steady : Steady w t) : Ready pair t := by
  refine ⟨?_,steady.available _ ready.available,steady.marked _ ready.marked⟩
  rw [steady.unseen.pairs]
  exact ready.row

theorem Ready.loadsSafely {pair : DrivePair} {w : World} (ready : Ready pair w) : LoadsSafely w pair.id := by
  intro other found due
  obtain rfl : pair = other := Option.some.inj (ready.row.symm.trans found)
  have present : w.disk.exists? (driveRootMarkerPath pair.activePath) = true := ready.marked
  have expected : missingExpectedRootMarker w.disk pair pair.activeRole = false := by
    rw [missingExpectedRootMarker,show pair.pathForRole pair.activeRole = pair.activePath from rfl,present,Bool.not_true,
      Bool.and_false,Bool.false_and]
  rw [emergencyFailoverDue,ready.available,expected] at due
  cases due

theorem ready_of_marked {io : Io} {pair : DrivePair} {w t : World} (row : w.db.drivePairs.find? pair.id = some pair)
    (ok : ensureDriveRootMarker io pair.activePath w = .ok () t) : Ready pair t := by
  have steady := steady_ensureDriveRootMarker io pair.activePath w
  rw [after_of_ok ok] at steady
  refine ⟨?_,?_,ensureDriveRootMarker_marks ok⟩
  · rw [steady.unseen.pairs]
    exact row
  · obtain ⟨there,u,looked,checks⟩ := bind_success ok
    obtain ⟨_,v,ensured,_⟩ := bind_success checks
    obtain ⟨seen,_⟩ := Act.look_success looked
    have held := (Act.ensure_success ensured).1
    exact steady.available _ (seen ▸ held)

theorem steady_of_ok {α : Type} {x : Act α} {s t : Linked} {value : α} (steady : Keeps Steady x)
    (ok : inWorld x s = .ok value t) : Steady s.world t.world := by
  have kept := steady s.world
  rw [after_of_ok (inWorld_success ok).1] at kept
  exact kept

theorem agreed_publish {foreign : Key → Prop} {s : Linked} (agreed : Agreed foreign s) {pair : DrivePair}
    (ready : Ready pair s.world) {fileId : Nat} (own : ∀ file, s.world.db.trackedFiles.find? fileId = some file →
      file.drivePairId = pair.id) {virtualPath : Option String} (undotted : ∀ given, virtualPath = some given → Undotted given) :
    (∃ message t, SymlinkSync.publish .healthy fileId virtualPath s = .error message t ∧ Agreed foreign t ∧ AssigneesKept s t) ∨
      ∃ t, SymlinkSync.publish .healthy fileId virtualPath s = .ok () t ∧ Agreed foreign t := by
  cases virtualPath with
  | none => exact .inr ⟨s,rfl,agreed⟩
  | some given =>
    refine agreed.assign (undotted given rfl) fun assignee found => ?_
    obtain ⟨file,there,rfl⟩ := Option.map_eq_some_iff.mp found
    rw [show (Assignee.mk file.drivePairId file.virtualPath file.relativePath).drivePairId = pair.id from own file there]
    exact ready.loadsSafely

theorem agreed_published {foreign : Key → Prop} {s : Linked} (agreed : Agreed foreign s) {pair : DrivePair}
    (ready : Ready pair s.world) {fileId : Nat} (own : ∀ file, s.world.db.trackedFiles.find? fileId = some file →
      file.drivePairId = pair.id) {virtualPath : Option String} (undotted : ∀ given, virtualPath = some given → Undotted given) :
    Agreed foreign (after (SymlinkSync.publish .healthy fileId virtualPath) s) := by
  rcases agreed_publish agreed ready own undotted with ⟨message,t,failed,later,_⟩ | ⟨t,ran,later⟩
  · rw [after_of_error failed]
    exact later
  · rw [after_of_ok ran]
    exact later

theorem agreed_steady {α : Type} {foreign : Key → Prop} {s : Linked} (agreed : Agreed foreign s) {x : Act α}
    (steady : Keeps Steady x) : Agreed foreign (after (inWorld x) s) :=
  agreed_inWorld agreed (steady s.world).unseen

theorem agreed_trackExistingFile {foreign : Key → Prop} {s : Linked} (agreed : Agreed foreign s) {pair : DrivePair}
    (ready : Ready pair s.world) {existing : TrackedFile}
    (found : s.world.db.trackedFiles.find? existing.id = some existing) (own : existing.drivePairId = pair.id) (io : Io)
    (relativePath : String) {virtualPath : Option String} (undotted : ∀ given, virtualPath = some given → Undotted given) :
    Agreed foreign (after (SymlinkSync.trackExistingFile .healthy io pair existing relativePath virtualPath) s) := by
  refine agreed_bind (agreed_steady agreed (steady_ensureWorldReadable _ _)) fun _ t ran agreed => ?_
  refine agreed_bind (agreed_steady agreed (steady_updateTrackedFileSources _ _ _)) fun _ u wrote agreed => ?_
  have steady : Steady s.world u.world := trans_of Steady (steady_of_ok (steady_ensureWorldReadable _ _) ran)
    (steady_of_ok (steady_updateTrackedFileSources _ _ _) wrote)
  obtain ⟨row,here,same⟩ := steady.owners existing.id existing found
  refine agreed_bind (agreed_published agreed (ready.steady steady) (fun file there => ?_) undotted) fun _ _ _ agreed => ?_
  · obtain rfl := Option.some.inj (here.symm.trans there)
    exact same.trans own
  · exact agreed_steady agreed (steady_query _)

theorem createTrackedFileFromDisk_row [Blake3] {io : Io} {pair : DrivePair} {relativePath : String} {direct viaFolder : Bool}
    {w t : World} {tracked : TrackedFile × Option SidecarMismatch}
    (ok : createTrackedFileFromDisk io pair relativePath direct viaFolder w = .ok tracked t) :
    t.db.trackedFiles.find? tracked.1.id = some tracked.1 ∧ tracked.1.drivePairId = pair.id ∧ tracked.1.virtualPath = none := by
  obtain ⟨_,_,_,ok⟩ := bind_success ok
  obtain ⟨_,_,_,ok⟩ := bind_success ok
  obtain ⟨_,_,_,ok⟩ := bind_success ok
  obtain ⟨_,_,_,ok⟩ := bind_success ok
  obtain ⟨_,_,_,ok⟩ := bind_success ok
  obtain ⟨_,_,_,ok⟩ := bind_success ok
  obtain ⟨file,stored,created,ok⟩ := bind_success ok
  cases ok
  have row := Act.insertOrFail_value created
  unfold Db.createTrackedFileWithSource at row
  split at row
  · cases row
  · rw [Prod.mk.injEq,Except.ok.injEq] at row
    obtain ⟨same,tables⟩ := row
    rw [← tables,← same]
    refine ⟨?_,rfl,rfl⟩
    rw [Table.find?_insert,if_pos rfl]

theorem orUndo_ok {undo : Db → Db} {x : LinkedAct Unit} {s t : Linked} (ran : x s = .ok () t) :
    SymlinkSync.orUndo undo x s = .ok () t := bind_of_ok (attempt_of_ok ran) _

theorem orUndo_error {undo : Db → Db} {x : LinkedAct Unit} {message : String} {s t : Linked} (failed : x s = .error message t) :
    SymlinkSync.orUndo undo x s = .error message { t with world := { t.world with db := undo t.world.db } } :=
  bind_of_ok (attempt_of_error failed) _

theorem queueMismatch_run (file : TrackedFile) (mismatch : Option SidecarMismatch) (s : Linked) :
    ∃ t, inWorld (queueMismatch file mismatch) s = .ok () t ∧ Steady s.world t.world ∧ t.links = s.links := by
  cases mismatch with
  | none => exact ⟨s,rfl,refl_of Steady s.world,rfl⟩
  | some mismatch => exact ⟨_,rfl,steady_insertDedup file.id _ _ _ (fun _ => rfl) s.world,rfl⟩

theorem agreed_trackNewFile [Blake3] {foreign : Key → Prop} {s : Linked} (agreed : Agreed foreign s) {pair : DrivePair}
    (ready : Ready pair s.world) (io : Io) (relativePath : String) {virtualPath : Option String}
    (undotted : ∀ given, virtualPath = some given → Undotted given) :
    Agreed foreign (after (SymlinkSync.trackNewFile .healthy io pair relativePath virtualPath) s) := by
  refine agreed_bind (agreed_steady agreed (steady_createTrackedFileFromDisk _ _ _ _ _)) fun tracked t created agreed => ?_
  have steady := steady_of_ok (steady_createTrackedFileFromDisk _ _ _ _ _) created
  obtain ⟨row,own,pathless⟩ := createTrackedFileFromDisk_row (inWorld_success created).1
  have owns (file : TrackedFile) (there : t.world.db.trackedFiles.find? tracked.1.id = some file) :
      file.drivePairId = pair.id := by
    obtain rfl := Option.some.inj (row.symm.trans there)
    exact own
  rcases agreed_publish agreed (ready.steady steady) owns undotted with ⟨message,u,failed,later,kept⟩ | ⟨u,ran,later⟩
  · rw [after_bind_of_error (orUndo_error failed)]
    refine later.unseen (unseen_deleteTrackedFile rfl fun file there => ?_) rfl
    have same := kept (.file tracked.1.id)
    rw [assigneeOf,assigneeOf,row,there,Option.map_some,Option.map_some,Option.some.injEq,Assignee.mk.injEq] at same
    exact same.2.1.trans pathless
  · rw [after_bind_of_ok (orUndo_ok ran)]
    obtain ⟨v,queued,quiet,links⟩ := queueMismatch_run tracked.1 tracked.2 u
    rw [after_bind_of_ok (orUndo_ok queued)]
    exact agreed_steady (later.unseen quiet.unseen links) (steady_query _)

theorem getTrackedFileByPath_row {db : Db} {pairId : Nat} {relativePath : String} {file : TrackedFile}
    (read : db.getTrackedFileByPath pairId relativePath = .ok file) :
    db.trackedFiles.find? file.id = some file ∧ file.drivePairId = pairId := by
  unfold Db.getTrackedFileByPath at read
  split at read
  · rename_i found
    cases read
    have held := List.find?_some found
    rw [Bool.and_eq_true,beq_iff_eq] at held
    exact ⟨Table.find?_of_mem db.trackedFiles (List.mem_of_find?_eq_some found),held.1⟩
  · cases read

theorem agreed_trackFile [Blake3] {foreign : Key → Prop} {s : Linked} (agreed : Agreed foreign s) {pair : DrivePair}
    (row : s.world.db.drivePairs.find? pair.id = some pair) (io : Io) (relativePath : String) {virtualPath : Option String}
    (undotted : ∀ given, virtualPath = some given → Undotted given) :
    Agreed foreign (after (SymlinkSync.trackFile .healthy io pair relativePath virtualPath) s) := by
  refine agreed_bind (agreed_steady agreed (steady_query _)) fun _ t allowed agreed => ?_
  obtain rfl := query_still allowed
  refine agreed_bind (agreed_steady agreed (steady_ensureDriveRootMarker _ _)) fun _ u ensured agreed => ?_
  have ready := ready_of_marked row (inWorld_success ensured).1
  refine agreed_bind (agreed_steady agreed (steady_markStandby _ _)) fun _ v marked agreed => ?_
  have still := ready.steady (steady_of_ok (steady_markStandby _ _) marked)
  cases answer : v.world.db.getTrackedFileByPath pair.id relativePath with
  | ok existing =>
    have looked : inWorld (Act.query (fun db => db.getTrackedFileByPath pair.id relativePath)) v = .ok existing v := by
      simp only [inWorld,Act.query,answer]
    rw [after_bind_of_ok (attempt_of_ok looked)]
    obtain ⟨found,own⟩ := getTrackedFileByPath_row answer
    exact agreed_trackExistingFile agreed still found own io relativePath undotted
  | error message =>
    have looked : inWorld (Act.query (fun db => db.getTrackedFileByPath pair.id relativePath)) v = .error message v := by
      simp only [inWorld,Act.query,answer]
    rw [after_bind_of_ok (attempt_of_error looked)]
    exact agreed_trackNewFile agreed still io relativePath undotted

theorem agreed_load {foreign : Key → Prop} {s : Linked} (agreed : Agreed foreign s) {pairId : Nat}
    (safe : LoadsSafely s.world pairId) {β : Type} {f : DrivePair → LinkedAct β}
    (rest : ∀ pair t, Agreed foreign t → AssigneesKept s t → t.world.db.drivePairs.find? pair.id = some pair →
      Agreed foreign (after (f pair) t)) :
    Agreed foreign (after (VirtualRetarget.loadOperationalPair .healthy pairId >>= f) s) := by
  rcases agreed.load safe with ⟨message,failed⟩ | ⟨pair,t,loaded,later,kept,row⟩
  · rw [after_bind_of_error failed]
    exact agreed
  · rw [after_bind_of_ok loaded]
    have key : pair.id = pairId := Table.find?_key row
    exact rest pair t later kept (key ▸ row)

theorem agreed_trackFileRoute [Blake3] {foreign : Key → Prop} {s : Linked} (agreed : Agreed foreign s) {pairId : Nat}
    (safe : LoadsSafely s.world pairId) (io : Io) (resolve : String → Except String String) {virtualPath : Option String}
    (undotted : ∀ given, virtualPath = some given → Undotted given) :
    Agreed foreign (after (SymlinkSync.trackFileRoute .healthy io resolve pairId virtualPath) s) := by
  refine agreed_load agreed safe fun pair t agreed _ row => ?_
  refine agreed_bind (agreed_steady agreed (steady_query _)) fun relativePath u resolved agreed => ?_
  obtain rfl := query_still resolved
  have looks : after (attempt
      (inWorld (Act.query (fun db => db.getTrackedFileByPath pair.id relativePath)))) u = u := by
    rw [after_attempt,after_inWorld,Act.after_query]
  refine agreed_bind (by rw [looks]; exact agreed) fun existing v looked agreed => ?_
  rw [after_of_ok looked] at looks
  subst looks
  refine agreed_bind (agreed_trackFile agreed row io relativePath undotted) fun tracked x _ agreed => ?_
  cases existing with
  | ok _ => exact agreed
  | error _ => exact agreed_steady agreed (steady_queueNewTracking _ _)

/-! Resolution. -/

theorem unseen_of_dbKept {α : Type} {x : Act α} (kept : Keeps DbKept x) : Keeps Unseen x :=
  fun w => unseen_of_db (kept w)

theorem unseen_steady {α : Type} {x : Act α} (steady : Keeps Steady x) : Keeps Unseen x :=
  fun w => (steady w).unseen

theorem unseen_queue {update : Db → Db} (pairs : ∀ db, (update db).drivePairs = db.drivePairs)
    (files : ∀ db, (update db).trackedFiles = db.trackedFiles) (folders : ∀ db, (update db).trackedFolders = db.trackedFolders) :
    Keeps Unseen (Act.execute update) := by
  intro w
  have steady : Steady w { w with db := update w.db } := steady_of_tables rfl (pairs w.db) (files w.db) (folders w.db)
  exact steady.unseen

theorem unseen_ensure (condition : Bool) (message : String) : Keeps Unseen (Act.ensure condition message) :=
  unseen_steady (steady_ensure condition message)

theorem unseen_query {α : Type} (read : Db → Except String α) : Keeps Unseen (Act.query read) :=
  unseen_steady (steady_query read)

theorem unseen_acceptCurrent (io : Io) (item : SyncQueueItem) (file : TrackedFile) (pair : DrivePair) :
    Keeps Unseen (acceptCurrent io item file pair) := by
  unfold acceptCurrent
  split
  · exact unseen_of_dbKept (dbKept_bail _)
  · refine keeps_bind (unseen_ensure _ _) fun _ => keeps_bind (unseen_of_dbKept (dbKept_store _)) fun _ => ?_
    refine keeps_bind (unseen_queue (fun _ => rfl) (fun _ => rfl) fun _ => rfl) fun _ => ?_
    exact keeps_bind (unseen_steady (steady_insertDedup _ _ _ _ fun _ => rfl)) fun _ => unseen_query _

theorem unseen_untrack (item : SyncQueueItem) (file : TrackedFile) {w : World}
    (pathless : ∀ row, w.db.trackedFiles.find? file.id = some row → row.virtualPath = none) :
    Unseen w (after (untrack item file) w) := by
  have completes : Keeps Unseen (Act.execute (fun db => db.updateSyncQueueStatus item.id .completed none)) :=
    unseen_queue (fun _ => rfl) (fun _ => rfl) fun _ => rfl
  have updated := completes w
  unfold untrack
  rw [after_bind_of_ok (Act.execute_apply _ w)]
  rcases after_bind_cases (Act.query (fun db => db.getSyncQueueItem item.id)) _
      { w with db := w.db.updateSyncQueueStatus item.id .completed none } with ⟨message,failed⟩ | ⟨resolved,t,read,ends⟩
  · have still := Act.after_query (fun db => db.getSyncQueueItem item.id)
      { w with db := w.db.updateSyncQueueStatus item.id .completed none }
    rw [after_of_error failed] at still
    rw [still]
    exact updated
  · obtain ⟨_,rfl⟩ := Act.query_success read
    rw [ends]
    exact trans_of Unseen updated (unseen_deleteTrackedFile rfl pathless)

theorem unseen_resolveLoaded [Blake3] (io : Io) (item : SyncQueueItem) (file : TrackedFile) (pair : DrivePair)
    (resolution : String) (newFilePath : Option Location) {w : World} (pathless : resolution = "untrack" →
      item.reason = some b3SidecarMismatchReason →
      ∀ row, w.db.trackedFiles.find? file.id = some row → row.virtualPath = none) :
    Unseen w (after (resolveLoaded io item file pair resolution newFilePath) w) := by
  by_cases removes : resolution = "untrack"
  · subst removes
    unfold resolveLoaded
    by_cases mismatch : item.reason = some b3SidecarMismatchReason
    · rw [mismatch]
      exact unseen_untrack item file (pathless rfl mismatch)
    · have other : (item.reason == some b3SidecarMismatchReason) = false := beq_eq_false_iff_ne.mpr mismatch
      rw [other]
      exact refl_of Unseen w
  · refine keeps_bind (unseen_ensure _ _) (fun _ => keeps_bind (unseen_ensure _ _) fun _ => ?_) w
    by_cases accepts : resolution = "accept_current"
    · rw [if_pos accepts]
      exact unseen_acceptCurrent _ _ _ _
    · rw [if_neg accepts,if_neg removes]
      refine keeps_bind (unseen_of_dbKept (dbKept_resolutionCopy _ _ _ _ _)) fun _ => ?_
      refine keeps_bind (unseen_queue (fun _ => rfl) (fun _ => rfl) fun _ => rfl) fun _ => ?_
      refine keeps_bind (fun w => unseen_of_assignees rfl fun owner => ?_) fun _ => unseen_query _
      apply assigneeOf_updateTrackedFile
      exact fun _ => ⟨rfl,rfl,rfl⟩

theorem agreed_ensure {β : Type} {foreign : Key → Prop} {s : Linked} (agreed : Agreed foreign s) {condition : Bool}
    {message : String} {f : Unit → LinkedAct β} (rest : condition = true → Agreed foreign (after (f ()) s)) :
    Agreed foreign (after (inWorld (Act.ensure condition message) >>= f) s) := by
  rw [after_ensure_bind]
  split
  · rename_i held
    exact rest held
  · exact agreed

theorem agreed_resolveQueueItem [Blake3] {foreign : Key → Prop} {s : Linked} (agreed : Agreed foreign s) (io : Io)
    (itemId : Nat) (resolution : String) (newFilePath : Option Location)
    (safe : ∀ item file, s.world.db.syncQueue.find? itemId = some item →
      s.world.db.trackedFiles.find? item.trackedFileId = some file → LoadsSafely s.world file.drivePairId)
    (pathless : ∀ item file, s.world.db.syncQueue.find? itemId = some item →
      s.world.db.trackedFiles.find? item.trackedFileId = some file → resolution = "untrack" →
      item.action = .userActionRequired → item.status = .pending → item.reason = some b3SidecarMismatchReason →
      file.virtualPath = none) :
    Agreed foreign (after (SymlinkSync.resolveQueueItem .healthy io itemId resolution newFilePath) s) := by
  unfold SymlinkSync.resolveQueueItem
  rcases after_query_bind (fun db => db.getSyncQueueItem itemId) _ s with ends | ⟨item,read,ends⟩
  · rw [ends]
    exact agreed
  rw [ends]
  have queued := Db.getSyncQueueItem_ok.mp read
  refine agreed_ensure agreed fun asks => agreed_ensure agreed fun waits => ?_
  rcases after_query_bind (fun db => db.getTrackedFile item.trackedFileId) _ s with ends | ⟨file,named,ends⟩
  · rw [ends]
    exact agreed
  rw [ends]
  have found := Db.getTrackedFile_ok.mp named
  refine agreed_load agreed (safe item file queued found) fun pair t agreed kept _ => ?_
  refine agreed_inWorld agreed (unseen_resolveLoaded io item file pair resolution newFilePath ?_)
  intro removes mismatch row there
  have same := kept (.file file.id)
  rw [assigneeOf,assigneeOf,getTrackedFile_row named,there,Option.map_some,Option.map_some,Option.some.injEq,
    Assignee.mk.injEq] at same
  exact same.2.1.trans (pathless item file queued found removes (beq_iff_eq.mp asks) (beq_iff_eq.mp waits) mismatch)

/-! Whole runs. -/

inductive Operation
  | trackFile (io : Io) (resolve : String → Except String String) (pairId : Nat) (virtualPath : Option String)
  | assignment (call : Call)
  | deleteFile (id : Nat)
  | untrackCommand (id : Nat)
  | untrackFolder (folderId : Nat)
  | resolveQueueItem (io : Io) (itemId : Nat) (resolution : String) (newFilePath : Option Location)

namespace Operation

def run [Blake3] : Operation → LinkedAct Unit
  | .trackFile io resolve pairId virtualPath => SymlinkSync.trackFileRoute .healthy io resolve pairId virtualPath
  | .assignment call => call.run .healthy
  | .deleteFile id => VirtualAssignment.deleteFile .healthy id
  | .untrackCommand id => VirtualAssignment.untrackCommand .healthy id
  | .untrackFolder folderId => do let _ ← FolderProvenance.untrackFolderCascade .healthy folderId
  | .resolveQueueItem io itemId resolution newFilePath => do
    let _ ← SymlinkSync.resolveQueueItem .healthy io itemId resolution newFilePath

/-- The path that the operation is given. -/
def given : Operation → Option String
  | .trackFile _ _ _ virtualPath => virtualPath
  | .assignment call => call.given
  | _ => none

/-- The pairs that the operation loads. -/
def Loads (db : Db) (pairId : Nat) : Operation → Prop
  | .trackFile _ _ id _ => id = pairId
  | .assignment call => ∃ owner given assignee, assigns call = some (owner,given) ∧ assigneeOf owner db = some assignee ∧
    assignee.drivePairId = pairId
  | .resolveQueueItem _ itemId _ _ => ∃ item file, db.syncQueue.find? itemId = some item ∧
    db.trackedFiles.find? item.trackedFileId = some file ∧ file.drivePairId = pairId
  | _ => False

/-- A folder whose new path lies below the one it has. -/
def Descends (db : Db) : Operation → Prop
  | .assignment (.setFolderVirtualPath folderId given) => ∃ assignee previous path,
    assigneeOf (.folder folderId) db = some assignee ∧ assignee.virtualPath = some previous ∧
      normalizeVirtualPath given = .ok path ∧ linkKey previous <+: linkKey path ∧ path ≠ previous
  | _ => False

/-- The resolution of a sidecar mismatch that deletes the row of a file with a virtual path. -/
def Forgets (db : Db) : Operation → Prop
  | .resolveQueueItem _ itemId resolution _ => resolution = "untrack" ∧ ∃ item file,
    db.syncQueue.find? itemId = some item ∧ item.action = .userActionRequired ∧ item.status = .pending ∧
      item.reason = some b3SidecarMismatchReason ∧ db.trackedFiles.find? item.trackedFileId = some file ∧
      file.virtualPath ≠ none
  | _ => False

end Operation

/-- An operation, and what the drives and the virtual tree hold by then. -/
structure Moment where
  disk : Disk
  links : VirtualTree
  operation : Operation

def Moment.seen (moment : Moment) (s : Linked) : Linked := ⟨{ s.world with disk := moment.disk },moment.links⟩

/-- What has happened meanwhile concerns no symlink. -/
def SameSymlinks (tree other : VirtualTree) : Prop :=
  ∀ key target, other key = some (.symlink target) ↔ tree key = some (.symlink target)

structure Careful (moment : Moment) (s : Linked) : Prop where
  symlinks : SameSymlinks s.links moment.links
  undotted : ∀ given, moment.operation.given = some given → Undotted given
  loads : ∀ pairId, moment.operation.Loads s.world.db pairId → LoadsSafely (moment.seen s).world pairId
  /-- The link would be made in the folder itself, which the tree of links does not show. -/
  outside : ¬moment.operation.Descends s.world.db
  remembers : ¬moment.operation.Forgets s.world.db

theorem Agreed.seen {foreign : Key → Prop} {s : Linked} (agreed : Agreed foreign s) {moment : Moment}
    (same : SameSymlinks s.links moment.links) : Agreed foreign (moment.seen s) := by
  refine ⟨⟨?_,?_,agreed.sync.apart,?_⟩,agreed.assigned⟩
  · exact fun key target link => agreed.sync.owned key target ((same key target).mp link)
  · intro entry member
    obtain ⟨pair,found,link⟩ := agreed.sync.shown entry member
    exact ⟨pair,found,(same _ _).mpr link⟩
  · intro key apart
    obtain ⟨target,link⟩ := agreed.sync.stands key apart
    exact ⟨target,(same key target).mpr link⟩

section
variable [Blake3]

def step (moment : Moment) (s : Linked) : Option Linked := some (after moment.operation.run (moment.seen s))

def machine : Machine Linked Moment := ⟨step⟩

theorem agreed_operation {foreign : Key → Prop} {s : Linked} (agreed : Agreed foreign s) {operation : Operation}
    (undotted : ∀ given, operation.given = some given → Undotted given)
    (loads : ∀ pairId, operation.Loads s.world.db pairId → LoadsSafely s.world pairId)
    (remembers : ¬operation.Forgets s.world.db) : Agreed foreign (after operation.run s) := by
  cases operation with
  | trackFile io resolve pairId virtualPath => exact agreed_trackFileRoute agreed (loads pairId rfl) io resolve undotted
  | assignment call =>
    refine agreed.call (fun owner given assigned => undotted given ?_) fun owner given assignee assigned found =>
      loads _ ⟨owner,given,assignee,assigned,found,rfl⟩
    cases call <;> cases assigned <;> rfl
  | deleteFile id => exact agreed.deleteFile id
  | untrackCommand id => exact agreed.untrackCommand id
  | untrackFolder folderId =>
    rw [Operation.run,after_discard]
    exact agreed.untrackFolder folderId
  | resolveQueueItem io itemId resolution newFilePath =>
    rw [Operation.run,after_discard]
    refine agreed_resolveQueueItem agreed io itemId resolution newFilePath
      (fun item file queued found => loads _ ⟨item,file,queued,found,rfl⟩) ?_
    intro item file queued found removes asks waits mismatch
    by_contra has
    exact remembers ⟨removes,item,file,queued,asks,waits,mismatch,found,has⟩

/-- Links and rows agree after each operation, as long as none of them descends below its own link or forgets one, and
every failover can refresh the links. -/
theorem symlinks_match_rows {foreign : Key → Prop} {s t : Linked} (sync : InSync foreign s) (assigned : Assigned s.world.db)
    (reached : machine.Reaches Careful s t) : InSync foreign t := by
  have agreed : Agreed foreign t := by
    apply reached.invariant
    · exact ⟨sync,assigned⟩
    · intro moment before after held careful taken
      cases taken
      exact agreed_operation (Agreed.seen held careful.symlinks) careful.undotted careful.loads careful.remembers
  exact agreed.sync

end

/-! A file with a link, whose sidecar does not match it. -/

def linkedFile (id : Nat) : TrackedFile := ⟨id,1,"a","",0,some "/v/a",true,true,false,none⟩

theorem key_linkedFile (id : Nat) : Keyed.key (linkedFile id) = id := rfl

def mismatchItem (id : Nat) : SyncQueueItem := ⟨id,1,.userActionRequired,.pending,none,some b3SidecarMismatchReason⟩

theorem key_mismatchItem (id : Nat) : Keyed.key (mismatchItem id) = id := rfl

def mismatched : Linked where
  world := ⟨{ Db.empty with
      drivePairs := Table.empty.insert firstPair key_firstPair
      trackedFiles := Table.empty.insert linkedFile key_linkedFile
      syncQueue := Table.empty.insert mismatchItem key_mismatchItem },⟨fun _ => none,fun _ => true⟩⟩
  links := fun key => if key = linkKey "/v/a" then some (.symlink ⟨"/p1","a"⟩) else none

theorem entries_mismatched : virtualEntries mismatched.world.db = [firstEntry] := rfl

theorem mismatched_inSync : InSync (fun _ => False) mismatched := by
  constructor
  · intro key target link
    right
    refine ⟨firstEntry,List.mem_cons_self,?_⟩
    by_contra apart
    rw [show mismatched.links key = none from if_neg (Ne.symm apart)] at link
    cases link
  · intro entry member
    rw [entries_mismatched,List.mem_singleton] at member
    subst member
    have link : mismatched.links (linkKey "/v/a") = some (.symlink ⟨"/p1","a"⟩) := by
      simp only [mismatched,if_true]
    exact ⟨firstPair 1,rfl,link⟩
  · exact fun _ _ => id
  · exact fun _ => False.elim

theorem mismatched_assigned : Assigned mismatched.world.db := by
  have undotted : Undotted "/v/a" := fun segment member dot => by
    have parts : ∀ segment ∈ (trim "/v/a".toList).splitOn '/', trim segment ≠ ['.'] := by decide
    exact absurd dot (parts segment member)
  constructor
  · intro entry member
    rw [entries_mismatched,List.mem_singleton] at member
    subst member
    exact dotless_of_normalize undotted rfl
  · intro entry member other present differ
    rw [entries_mismatched,List.mem_singleton] at member present
    rw [member,present] at differ
    exact absurd rfl differ

/-- An operation when nobody else touches the drives or the virtual tree. -/
def Moment.next (operation : Operation) (s : Linked) : Moment := ⟨s.world.disk,s.links,operation⟩

theorem symlinks_match_rows_moved :
    letI := sampleBlake3
    ∃ s t, machine.step (.next (.assignment (.setVirtualPath 1 "/v/b")) mismatched) mismatched = some s ∧
      machine.step (.next (.deleteFile 1) s) s = some t ∧ InSync (fun _ => False) t := by
  let _ := sampleBlake3
  have first : Careful (.next (.assignment (.setVirtualPath 1 "/v/b")) mismatched) mismatched := by
    refine ⟨fun _ _ => Iff.rfl,fun given same segment member dot => ?_,fun pairId loads pair found due => ?_,id,id⟩
    · cases same
      have parts : ∀ segment ∈ (trim "/v/b".toList).splitOn '/', trim segment ≠ ['.'] := by decide
      exact absurd dot (parts segment member)
    · obtain ⟨owner,given,assignee,assigned,held,rfl⟩ := loads
      cases assigned
      cases held
      cases found
      exact absurd due (by decide)
  have second (s : Linked) : Careful (.next (.deleteFile 1) s) s :=
    ⟨fun _ _ => Iff.rfl,fun _ same => (by cases same),fun _ => False.elim,id,id⟩
  exact ⟨_,_,rfl,rfl,symlinks_match_rows mismatched_inSync mismatched_assigned
    (.step _ (.step _ .start first (show machine.step _ mismatched = some _ from rfl)) (second _) rfl)⟩

/-- The row is deleted with its virtual path, and the link is left. -/
theorem untrack_leaves_link : ¬ ∀ (_ : Blake3) (foreign : Key → Prop) (s t : Linked), InSync foreign s →
    Assigned s.world.db → machine.Reaches (fun moment s => moment.disk = s.world.disk ∧ moment.links = s.links) s t →
      InSync foreign t := by
  intro matches_rows
  let _ := sampleBlake3
  obtain ⟨t,taken,entries,link⟩ : ∃ t,
      machine.step (.next (.resolveQueueItem .healthy 1 "untrack" none) mismatched) mismatched = some t ∧
        virtualEntries t.world.db = [] ∧ t.links (linkKey "/v/a") = some (.symlink ⟨"/p1","a"⟩) :=
    ⟨_,rfl,by decide +kernel,by decide +kernel⟩
  have sync := matches_rows sampleBlake3 (fun _ => False) mismatched t mismatched_inSync mismatched_assigned
    (.step _ .start ⟨rfl,rfl⟩ taken)
  rcases sync.owned _ _ link with impossible | ⟨entry,member,_⟩
  · exact impossible
  · rw [entries] at member
    cases member

end BitProtector.SymlinkRuns
