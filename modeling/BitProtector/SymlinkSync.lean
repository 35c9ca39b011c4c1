import BitProtector.PairFrame

/-! The managed symlinks and the virtual paths in the tables, over runs of the calls that change
either of them. -/
namespace BitProtector.SymlinkSync
open Effect VirtualPath VirtualRetarget VirtualAssignment

/-! Tracking and resolution, with the links they make and leave. -/

def orUndo (undo : Db → Db) (x : LinkedAct Unit) : LinkedAct Unit := do
  match ← attempt x with
  | .ok _ => pure ()
  | .error message => do
    inWorld (Act.execute undo)
    inWorld (Act.bail message)

def publish (calls : LinkCalls) (fileId : Nat) : Option String → LinkedAct Unit
  | none => pure ()
  | some virtualPath => VirtualAssignment.setVirtualPath calls fileId virtualPath

section
variable [Blake3]

def trackNewFile (calls : LinkCalls) (io : Io) (pair : DrivePair) (relativePath : String)
    (virtualPath : Option String) : LinkedAct TrackedFile := do
  let tracked ← inWorld (createTrackedFileFromDisk io pair relativePath true false)
  orUndo (fun db => db.deleteTrackedFile tracked.1.id) (publish calls tracked.1.id virtualPath)
  orUndo (fun db => db.deleteTrackedFile tracked.1.id) (inWorld (queueMismatch tracked.1 tracked.2))
  inWorld (Act.query (fun db => db.getTrackedFile tracked.1.id))

def trackExistingFile (calls : LinkCalls) (io : Io) (pair : DrivePair) (existing : TrackedFile)
    (relativePath : String) (virtualPath : Option String) : LinkedAct TrackedFile := do
  inWorld (ensureWorldReadable io (pair.copyOn pair.activeRole relativePath))
  inWorld (Act.execute (fun db => db.updateTrackedFileSources existing.id true false))
  publish calls existing.id virtualPath
  inWorld (Act.query (fun db => db.getTrackedFile existing.id))

def markStandby (io : Io) (pair : DrivePair) : Act Unit := do
  if ← Act.look (fun disk => disk.available pair.standbyPath) then
    let _ ← attempt (ensureDriveRootMarker io pair.standbyPath)

def trackFile (calls : LinkCalls) (io : Io) (pair : DrivePair) (relativePath : String) (virtualPath : Option String) :
    LinkedAct TrackedFile := do
  inWorld (Act.query (fun _ => requirePairMutationAllowed pair))
  inWorld (ensureDriveRootMarker io pair.activePath)
  inWorld (markStandby io pair)
  match ← attempt (inWorld (Act.query (fun db => db.getTrackedFileByPath pair.id relativePath))) with
  | .ok existing => trackExistingFile calls io pair existing relativePath virtualPath
  | .error _ => trackNewFile calls io pair relativePath virtualPath

/-- `POST /files`. -/
def trackFileRoute (calls : LinkCalls) (io : Io) (resolve : String → Except String String) (pairId : Nat)
    (virtualPath : Option String) : LinkedAct Unit := do
  let pair ← VirtualRetarget.loadOperationalPair calls pairId
  let relativePath ← inWorld (Act.query (fun _ => resolve pair.activePath))
  let existing ← attempt (inWorld (Act.query (fun db => db.getTrackedFileByPath pair.id relativePath)))
  let tracked ← trackFile calls io pair relativePath virtualPath
  match existing with
  | .ok _ => pure ()
  | .error _ => inWorld (queueNewTracking pair tracked)

/-- What `resolve_queue_item` does once it has loaded the pair. -/
def resolveLoaded (io : Io) (item : SyncQueueItem) (file : TrackedFile) (pair : DrivePair) (resolution : String)
    (newFilePath : Option Location) : Act SyncQueueItem := do
  let sidecarMismatch := item.reason == some b3SidecarMismatchReason
  Act.ensure (!(sidecarMismatch && !sidecarResolution resolution))
    s!"Reason '{b3SidecarMismatchReason}' requires 'accept_current' or 'untrack'"
  Act.ensure (!(!sidecarMismatch && sidecarResolution resolution))
    s!"Resolution '{resolution}' is only valid when reason is '{b3SidecarMismatchReason}'"
  if resolution = "accept_current" then acceptCurrent io item file pair
  else if resolution = "untrack" then untrack item file
  else
    resolutionCopy io file pair resolution newFilePath
    Act.execute (fun db => db.updateSyncQueueStatus item.id .completed none)
    Act.execute (fun db => db.updateTrackedFileMirrorStatus file.id true)
    Act.query (fun db => db.getSyncQueueItem item.id)

def resolveQueueItem (calls : LinkCalls) (io : Io) (itemId : Nat) (resolution : String)
    (newFilePath : Option Location) : LinkedAct SyncQueueItem := do
  let item ← inWorld (Act.query (fun db => db.getSyncQueueItem itemId))
  let action := item.action.asStr
  let status := item.status.asStr
  inWorld (Act.ensure (item.action == .userActionRequired)
    s!"Queue item #{itemId} has action '{action}'; only 'user_action_required' items can be resolved")
  inWorld (Act.ensure (item.status == .pending)
    s!"Queue item #{itemId} has status '{status}'; only 'pending' items can be resolved")
  let file ← inWorld (Act.query (fun db => db.getTrackedFile item.trackedFileId))
  let pair ← VirtualRetarget.loadOperationalPair calls file.drivePairId
  inWorld (resolveLoaded io item file pair resolution newFilePath)

theorem erases_resolveQueueItem (calls : LinkCalls) (io : Io) (itemId : Nat) (resolution : String)
    (newFilePath : Option Location) : Erases Linked.world (resolveQueueItem calls io itemId resolution newFilePath)
      (BitProtector.resolveQueueItem io itemId resolution newFilePath) := by
  intro s
  cases read : Act.query (fun db => db.getSyncQueueItem itemId) s.world with
  | error message t =>
    have failed : inWorld (Act.query (fun db => db.getSyncQueueItem itemId)) s = .error message { s with world := t } := by
      rw [inWorld,read]
    rw [resolveQueueItem,bind_of_error failed,BitProtector.resolveQueueItem,bind_of_error read]
    rfl
  | ok item t =>
    obtain ⟨found,rfl⟩ := Act.query_success read
    obtain rfl : item.id = itemId := Table.find?_key (Db.getSyncQueueItem_ok.mp found)
    have returned : inWorld (Act.query (fun db => db.getSyncQueueItem item.id)) s = .ok item s := by
      rw [inWorld,read]
    rw [resolveQueueItem,bind_of_ok returned,BitProtector.resolveQueueItem,bind_of_ok read]
    dsimp only
    refine erases_bind (erases_inWorld _) (fun _ => erases_bind (erases_inWorld _) fun _ => ?_) s
    refine erases_bind (erases_inWorld _) fun file => ?_
    exact erases_bind (erases_loadOperationalPair calls file.drivePairId) fun pair => erases_inWorld _

end

/-! Links and rows in agreement. -/

abbrev Key := List (List Char)

/-- Apart from the links that others have made, a symlink stands exactly at the virtual path of each row, and points at
the row's active side. -/
structure InSync (foreign : Key → Prop) (s : Linked) : Prop where
  owned : ∀ key target, s.links key = some (.symlink target) →
    foreign key ∨ ∃ entry ∈ virtualEntries s.world.db, linkKey entry.virtualPath = key
  shown : ∀ entry ∈ virtualEntries s.world.db, ∃ pair, s.world.db.drivePairs.find? entry.drivePairId = some pair ∧
    s.links (linkKey entry.virtualPath) = some (.symlink (realPath pair entry))
  apart : ∀ entry ∈ virtualEntries s.world.db, ¬foreign (linkKey entry.virtualPath)
  stands : ∀ key, foreign key → ∃ target, s.links key = some (.symlink target)

/-- What links and validation depend on. -/
structure Unseen (w t : World) : Prop where
  entries : ∀ entry, entry ∈ virtualEntries t.db ↔ entry ∈ virtualEntries w.db
  pairs : t.db.drivePairs = w.db.drivePairs

instance : IsPreorder World Unseen where
  refl _ := ⟨fun _ => Iff.rfl,rfl⟩
  trans _ _ _ first second := ⟨fun entry => (second.entries entry).trans (first.entries entry),second.pairs.trans first.pairs⟩

theorem unseen_of_db {w t : World} (same : t.db = w.db) : Unseen w t := by
  constructor
  · intro entry
    rw [same]
  · rw [same]

theorem unseen_of_assignees {w t : World} (pairs : t.db.drivePairs = w.db.drivePairs)
    (kept : ∀ owner, assigneeOf owner t.db = assigneeOf owner w.db) : Unseen w t :=
  ⟨virtualEntries_of_kept kept,pairs⟩

theorem InSync.unseen {foreign : Key → Prop} {s t : Linked} (sync : InSync foreign s) (unseen : Unseen s.world t.world)
    (links : t.links = s.links) : InSync foreign t := by
  constructor
  · intro key target link
    rw [links] at link
    rcases sync.owned key target link with others | ⟨entry,member,at_key⟩
    · exact .inl others
    · exact .inr ⟨entry,(unseen.entries entry).mpr member,at_key⟩
  · intro entry member
    rw [links,unseen.pairs]
    exact sync.shown entry ((unseen.entries entry).mp member)
  · exact fun entry member => sync.apart entry ((unseen.entries entry).mp member)
  · rw [links]
    exact sync.stands

theorem Assigned.unseen {w t : World} (assigned : Assigned w.db) (unseen : Unseen w t) : Assigned t.db := by
  constructor
  · exact fun entry member => assigned.dotless entry ((unseen.entries entry).mp member)
  · exact fun entry member other present => assigned.apart entry ((unseen.entries entry).mp member) other
      ((unseen.entries other).mp present)

theorem dotless_key {path : String} (dotless : Dotless path) : path = String.ofList (joinSegments (linkKey path)) := by
  obtain ⟨segments,nonempty,rfl,clean⟩ := dotless
  rw [linkKey_joinSegments nonempty clean]

theorem dotless_inj {path other : String} (dotless : Dotless path) (otherDotless : Dotless other)
    (same : linkKey path = linkKey other) : path = other := by
  rw [dotless_key dotless,dotless_key otherDotless,same]

theorem owner_of_key {db : Db} (assigned : Assigned db) {entry other : VirtualEntry} (member : entry ∈ virtualEntries db)
    (present : other ∈ virtualEntries db) (same : linkKey entry.virtualPath = linkKey other.virtualPath) :
    entry.owner = other.owner := by
  by_contra differ
  exact assigned.apart entry member other present differ (.inl (same ▸ List.prefix_rfl))

theorem InSync.released {foreign : Key → Prop} {s t : Linked} (sync : InSync foreign s) (assigned : Assigned s.world.db)
    (gone : VirtualOwner → Prop)
    (entries : ∀ entry, entry ∈ virtualEntries t.world.db ↔ entry ∈ virtualEntries s.world.db ∧ ¬gone entry.owner)
    (pairs : t.world.db.drivePairs = s.world.db.drivePairs)
    (cleared : ∀ entry ∈ virtualEntries s.world.db, gone entry.owner → t.links (linkKey entry.virtualPath) = none)
    (kept : ∀ key, (∀ entry ∈ virtualEntries s.world.db, gone entry.owner → linkKey entry.virtualPath ≠ key) →
      t.links key = s.links key) : InSync foreign t := by
  have stays {entry : VirtualEntry} (member : entry ∈ virtualEntries s.world.db) (here : ¬gone entry.owner) :
      t.links (linkKey entry.virtualPath) = s.links (linkKey entry.virtualPath) := by
    refine kept _ fun other present leaves same => here ?_
    rw [← owner_of_key assigned present member same]
    exact leaves
  constructor
  · intro key target link
    by_cases leaves : ∃ entry ∈ virtualEntries s.world.db, gone entry.owner ∧ linkKey entry.virtualPath = key
    · obtain ⟨entry,member,leaves,rfl⟩ := leaves
      rw [cleared entry member leaves] at link
      cases link
    · have same : t.links key = s.links key := kept key fun entry member goes at_key => leaves ⟨entry,member,goes,at_key⟩
      rcases sync.owned key target (same ▸ link) with others | ⟨entry,member,at_key⟩
      · exact .inl others
      · exact .inr ⟨entry,(entries entry).mpr ⟨member,fun goes => leaves ⟨entry,member,goes,at_key⟩⟩,at_key⟩
  · intro entry member
    obtain ⟨before,here⟩ := (entries entry).mp member
    rw [stays before here,pairs]
    exact sync.shown entry before
  · exact fun entry member => sync.apart entry ((entries entry).mp member).1
  · intro key others
    rw [kept key fun entry member _ at_key => sync.apart entry member (at_key ▸ others)]
    exact sync.stands key others

theorem InSync.assigned {foreign : Key → Prop} {s t : Linked} (sync : InSync foreign s) {owner : VirtualOwner}
    {assignee : Assignee} {path : String} {pair : DrivePair} (assigned : Assigned s.world.db)
    (found : assigneeOf owner s.world.db = some assignee)
    (paired : s.world.db.drivePairs.find? assignee.drivePairId = some pair)
    (later : Assigned (updateVirtualPath owner (some path) s.world.db)) (free : ¬foreign (linkKey path))
    (rows : t.world.db = updateVirtualPath owner (some path) s.world.db)
    (link : t.links (linkKey path) = some (.symlink (pair.copyOn pair.activeRole assignee.relativePath)))
    (old : ∀ previous, assignee.virtualPath = some previous → previous ≠ path → t.links (linkKey previous) = none)
    (others : ∀ key, key ≠ linkKey path → (∀ previous, assignee.virtualPath = some previous → key ≠ linkKey previous) →
      t.links key = s.links key) : InSync foreign t := by
  obtain ⟨pairId,before,relative⟩ := assignee
  let entry : VirtualEntry := ⟨owner,pairId,path,relative⟩
  have mine : entry ∈ virtualEntries (updateVirtualPath owner (some path) s.world.db) :=
    mem_virtualEntries_update.mpr (.inr ⟨rfl,rfl,before,found⟩)
  have was {previous : String} (has : before = some previous) :
      (⟨owner,pairId,previous,relative⟩ : VirtualEntry) ∈ virtualEntries s.world.db :=
    mem_virtualEntries.mpr (has ▸ found)
  have pairs : t.world.db.drivePairs = s.world.db.drivePairs := by
    rw [rows]
    cases owner <;> rfl
  have stays {other : VirtualEntry} (member : other ∈ virtualEntries s.world.db) (differs : other.owner ≠ owner) :
      t.links (linkKey other.virtualPath) = s.links (linkKey other.virtualPath) := by
    refine others _ (fun same => ?_) fun previous has same => ?_
    · exact differs (owner_of_key later (mem_virtualEntries_update.mpr (.inl ⟨differs,member⟩)) mine same)
    · exact differs (owner_of_key assigned member (was has) same)
  constructor
  · intro key target standing
    by_cases new : key = linkKey path
    · exact .inr ⟨entry,rows ▸ mine,new.symm⟩
    · by_cases former : ∃ previous, before = some previous ∧ key = linkKey previous
      · obtain ⟨previous,has,rfl⟩ := former
        rw [old previous has fun same => new (same ▸ rfl)] at standing
        cases standing
      · rw [others key new fun previous has same => former ⟨previous,has,same⟩] at standing
        rcases sync.owned key target standing with apart | ⟨other,member,at_key⟩
        · exact .inl apart
        · refine .inr ⟨other,?_,at_key⟩
          rw [rows]
          refine mem_virtualEntries_update.mpr (.inl ⟨fun same => former ?_,member⟩)
          have row := mem_virtualEntries.mp member
          rw [same,found,Option.some.injEq,Assignee.mk.injEq] at row
          exact ⟨other.virtualPath,row.2.1,at_key.symm⟩
  · intro other member
    rw [rows] at member
    rw [pairs]
    rcases mem_virtualEntries_update.mp member with ⟨differs,present⟩ | ⟨own,same,_,row⟩
    · rw [stays present differs]
      exact sync.shown other present
    · rw [found,Option.some.injEq,Assignee.mk.injEq] at row
      obtain ⟨ofPair,_,ofPath⟩ := row
      refine ⟨pair,ofPair ▸ paired,?_⟩
      rw [← Option.some.inj same,link,realPath,← ofPath]
  · intro other member
    rw [rows] at member
    rcases mem_virtualEntries_update.mp member with ⟨_,present⟩ | ⟨_,same,_⟩
    · exact sync.apart other present
    · rw [← Option.some.inj same]
      exact free
  · intro key apart
    rw [others key (fun same => free (same ▸ apart)) fun previous has same => sync.apart _ (was has) (same ▸ apart)]
    exact sync.stands key apart

/-! Calls on the links that do not fail. -/

theorem createSymlink_run {path : String} {target : Location} {replace : Bool} {tree : VirtualTree}
    (free : tree (linkKey path) = none ∨ replace = true ∧ ∃ old, tree (linkKey path) = some (.symlink old)) :
    createSymlink .healthy path target replace tree = .ok () (Function.update tree (linkKey path) (some (.symlink target))) := by
  have looked : inspect .healthy path tree = .ok (tree (linkKey path)) tree := rfl
  have begun : (ensured (LinkCalls.healthy.createDirAll path) "Failed to create virtual path directories" : LinkAct Unit) tree =
      .ok () tree := rfl
  unfold createSymlink
  rw [bind_of_ok begun,bind_of_ok looked]
  rcases free with empty | ⟨rfl,old,standing⟩
  · rw [empty]
    rfl
  · rw [standing]
    change EStateM.Result.ok () (Function.update (Function.update tree (linkKey path) none) (linkKey path) _) = _
    rw [Function.update_idem]

theorem removeSymlink_run {path : String} {tree : VirtualTree} (managed : tree (linkKey path) ≠ some .other) :
    removeSymlink .healthy path tree = .ok () (Function.update tree (linkKey path) none) := by
  have looked : inspect .healthy path tree = .ok (tree (linkKey path)) tree := rfl
  unfold removeSymlink
  rw [bind_of_ok looked]
  cases node : tree (linkKey path) with
  | none =>
    have same : Function.update tree (linkKey path) none = tree := by rw [← node,Function.update_eq_self]
    rw [same]
    rfl
  | some standing =>
    cases standing with
    | other => exact absurd node managed
    | symlink target => rfl

theorem validated_free {calls : LinkCalls} {db : Db} {owner : VirtualOwner} {given normalized : String} {tree : VirtualTree}
    (ok : validateVirtualPath calls db owner given tree = .ok normalized) :
    tree (linkKey normalized) = none ∨ (∃ old, tree (linkKey normalized) = some (.symlink old)) ∧
      ∃ entry ∈ virtualEntries db, entry.owner = owner ∧ normalizeVirtualPath entry.virtualPath = .ok normalized := by
  have normal := (validated_apart ok).1
  unfold validateVirtualPath at ok
  rw [normal] at ok
  cases collected : collectVirtualReservations db with
  | error message =>
    rw [collected] at ok
    cases ok
  | ok reservations =>
    cases checked : checkReservations owner normalized reservations with
    | error message =>
      simp only [bind,Except.bind,collected,checked] at ok
      cases ok
    | ok _ =>
      simp only [bind,Except.bind,collected,checked] at ok
      split at ok
      · cases node : tree (linkKey normalized) with
        | none => exact .inl rfl
        | some standing =>
          cases standing with
          | other =>
            rw [node] at ok
            cases ok
          | symlink old =>
            refine .inr ⟨⟨old,rfl⟩,?_⟩
            rw [node,checkExisting] at ok
            split at ok
            · rename_i own
              obtain ⟨reservation,listed,held⟩ := List.any_eq_true.mp own
              rw [Bool.and_eq_true,beq_iff_eq,beq_iff_eq] at held
              obtain ⟨entry,member,made⟩ := Passes.mapM_mem collected listed
              cases normal : normalizeVirtualPath entry.virtualPath with
              | error message =>
                simp only [bind,Except.bind,normal] at made
                cases made
              | ok path =>
                simp only [bind,Except.bind,normal,pure,Except.pure,Except.ok.injEq] at made
                subst made
                exact ⟨entry,member,held.1,normal.trans (congrArg Except.ok held.2)⟩
            · cases ok
      · cases ok

/-! A refresh over links that agree with the rows. -/

theorem prefix_of_joinSegments {segments others : List (List Char)} (nonempty : segments ≠ [])
    (plain : ∀ segment ∈ segments, Plain segment) (othersNonempty : others ≠ [])
    (othersPlain : ∀ segment ∈ others, Plain segment)
    (continued : joinSegments segments ++ ['/'] <+: joinSegments others) : segments <+: others := by
  obtain ⟨rest,whole⟩ := continued
  have split : (joinSegments segments ++ '/'::rest).splitOn '/' = (joinSegments segments).splitOn '/' ++ rest.splitOn '/' :=
    List.splitOn_append_cons_self _ _
  rw [List.append_assoc,List.singleton_append] at whole
  rw [whole,splitOn_joinSegments nonempty plain,splitOn_joinSegments othersNonempty othersPlain,List.cons_append,
    List.cons.injEq] at split
  exact ⟨_,split.2.symm⟩

theorem overlaps_of_pathsOverlap {left right : String} (leftDotless : Dotless left) (rightDotless : Dotless right)
    (overlap : pathsOverlap left right = true) : Overlaps left right := by
  obtain ⟨segments,nonempty,rfl,clean⟩ := leftDotless
  obtain ⟨others,othersNonempty,rfl,othersClean⟩ := rightDotless
  have plain : ∀ segment ∈ segments, Plain segment := fun segment member => (clean segment member).1
  have othersPlain : ∀ segment ∈ others, Plain segment := fun segment member => (othersClean segment member).1
  rw [Overlaps,linkKey_joinSegments nonempty clean,linkKey_joinSegments othersNonempty othersClean]
  simp only [pathsOverlap,String.toList_ofList,Bool.or_eq_true,beq_iff_eq,List.isPrefixOf_iff_prefix] at overlap
  rcases overlap with (same | inside) | inside
  · left
    have keys := congrArg linkKey same
    rw [linkKey_joinSegments nonempty clean,linkKey_joinSegments othersNonempty othersClean] at keys
    rw [keys]
  · exact .inr (prefix_of_joinSegments othersNonempty othersPlain nonempty plain inside)
  · exact .inl (prefix_of_joinSegments nonempty plain othersNonempty othersPlain inside)

theorem checkReservations_free {owner : VirtualOwner} {normalized : String} {reservations : List VirtualReservation}
    (free : ∀ reservation ∈ reservations, reservation.owner ≠ owner → pathsOverlap reservation.virtualPath normalized = false) :
    checkReservations owner normalized reservations = .ok () := by
  induction reservations with
  | nil => rfl
  | cons first rest ih =>
    obtain ⟨here,later⟩ := List.forall_mem_cons.mp free
    unfold checkReservations
    by_cases own : first.owner = owner
    · rw [if_pos own]
      exact ih later
    · have apart := here own
      rw [if_neg own,if_neg,if_neg]
      · exact ih later
      · rw [apart]
        exact Bool.false_ne_true
      · intro same
        rw [same,pathsOverlap_self] at apart
        cases apart

theorem valid_of_own {db : Db} {tree : VirtualTree} (assigned : Assigned db)
    (normal : ∀ entry ∈ virtualEntries db, ∃ path, normalizeVirtualPath entry.virtualPath = .ok path) {entry : VirtualEntry}
    (member : entry ∈ virtualEntries db) {target : Location}
    (link : tree (linkKey entry.virtualPath) = some (.symlink target)) :
    validateVirtualPath .healthy db entry.owner entry.virtualPath tree = .ok entry.virtualPath := by
  have itself {other : VirtualEntry} (present : other ∈ virtualEntries db) :
      normalizeVirtualPath other.virtualPath = .ok other.virtualPath := by
    obtain ⟨path,ok⟩ := normal other present
    rw [ok,(assigned.dotless other present).normalize ok]
  have reserves {other : VirtualEntry} (present : other ∈ virtualEntries db) :
      (do let virtualPath ← normalizeVirtualPath other.virtualPath
          pure ⟨other.owner,virtualPath⟩ : Except String VirtualReservation) = .ok ⟨other.owner,other.virtualPath⟩ := by
    rw [itself present]
    rfl
  obtain ⟨reservations,collected⟩ : ∃ reservations, collectVirtualReservations db = .ok reservations :=
    Passes.mapM_exists.mpr fun other present => ⟨_,reserves present⟩
  have checked : checkReservations entry.owner entry.virtualPath reservations = .ok () := by
    refine checkReservations_free fun reservation listed differs => ?_
    obtain ⟨other,present,made⟩ := Passes.mapM_mem collected listed
    rw [reserves present] at made
    cases made
    rw [Bool.eq_false_iff]
    intro overlap
    exact assigned.apart other present entry member differs
      (overlaps_of_pathsOverlap (assigned.dotless other present) (assigned.dotless entry member) overlap)
  obtain ⟨own,listed,made⟩ := Passes.mem_mapM collected member
  rw [reserves member] at made
  cases made
  have mine : reservations.any (fun reservation =>
      reservation.owner == entry.owner && reservation.virtualPath == entry.virtualPath) = true := by
    refine List.any_eq_true.mpr ⟨_,listed,?_⟩
    rw [beq_self_eq_true,beq_self_eq_true]
    rfl
  unfold validateVirtualPath
  simp only [itself member,collected,checked,link,bind,Except.bind,checkExisting,mine,LinkCalls.healthy,if_true]

theorem refreshAll_elsewhere {db : Db} {drivePairs : Nat → Option DrivePair} {key : Key} (assigned : Assigned db)
    (free : ∀ entry ∈ virtualEntries db, linkKey entry.virtualPath ≠ key) (calls : LinkCalls) (tree : VirtualTree) :
    after (refreshAllVirtualPaths calls db drivePairs) tree key = tree key := by
  by_cases collects : Collects db drivePairs
  · obtain ⟨mappings,collected⟩ := collects_iff.mp collects
    obtain ⟨result,ran⟩ := refreshMappings_run calls db mappings tree
    unfold refreshAllVirtualPaths
    rw [collected,after_of_ok ran]
    refine Passes.foldl_kept (fun mapping listed store => ?_) tree
    unfold refreshed
    cases validateVirtualPath calls db mapping.owner mapping.virtualPath store with
    | error message => rfl
    | ok normalized =>
      obtain ⟨entry,member,mapped⟩ := Passes.mapM_mem collected listed
      obtain ⟨pair,path,_,normal,rfl⟩ := mappingOf_ok.mp mapped
      apply keptAt_createSymlink
      obtain rfl := (assigned.dotless entry member).normalize normal
      exact fun same => free entry member same.symm
  · rw [refreshAll_fails collects]

theorem stored_of_alone {db : Db} {pairId : Nat} (assigned : Assigned db) (alone : Alone db pairId) : Stored db := by
  intro entry member
  obtain ⟨_,path,normal⟩ := alone entry member
  refine ⟨entry.virtualPath,?_⟩
  rw [normal,(assigned.dotless entry member).normalize normal]

theorem InSync.refreshed {foreign : Key → Prop} {s t : Linked} (sync : InSync foreign s) (assigned : Assigned s.world.db)
    {pairId : Nat} {updated : DrivePair} (own : updated.id = pairId)
    (entries : ∀ entry, entry ∈ virtualEntries t.world.db ↔ entry ∈ virtualEntries s.world.db)
    (row : t.world.db.drivePairs.find? pairId = some updated)
    (others : ∀ other, other ≠ pairId → t.world.db.drivePairs.find? other = s.world.db.drivePairs.find? other)
    (links : t.links = after (refreshAllVirtualPaths .healthy s.world.db (onlyPair updated)) s.links)
    (safe : Alone s.world.db pairId ∨ ∀ entry ∈ virtualEntries s.world.db, entry.drivePairId ≠ pairId) :
    InSync foreign t := by
  subst own
  have elsewhere {key : Key} (free : ∀ entry ∈ virtualEntries s.world.db, linkKey entry.virtualPath ≠ key) :
      t.links key = s.links key := by
    rw [links,refreshAll_elsewhere assigned free]
  constructor
  · intro key target link
    by_cases row : ∃ entry ∈ virtualEntries s.world.db, linkKey entry.virtualPath = key
    · obtain ⟨entry,member,at_key⟩ := row
      exact .inr ⟨entry,(entries entry).mpr member,at_key⟩
    · have free : ∀ entry ∈ virtualEntries s.world.db, linkKey entry.virtualPath ≠ key :=
        fun entry member at_key => row ⟨entry,member,at_key⟩
      rw [elsewhere free] at link
      exact .inl ((sync.owned key target link).resolve_right row)
  · intro entry present
    have member := (entries entry).mp present
    obtain ⟨pair,found,link⟩ := sync.shown entry member
    by_cases mine : entry.drivePairId = updated.id
    · have alone := safe.resolve_right fun none => none entry member mine
      obtain ⟨_,path,normal⟩ := alone entry member
      have same := (assigned.dotless entry member).normalize normal
      subst same
      have valid := valid_of_own assigned (fun other present => (alone other present).2) member link
      refine ⟨updated,mine ▸ row,?_⟩
      exact (link_refreshed (stored_of_alone assigned alone) links ⟨member,normal,link⟩ mine).1
        ⟨alone,⟨_,valid⟩,rfl,rfl,rfl⟩
    · refine ⟨pair,(others _ mine).trans found,?_⟩
      have fails : ¬Collects s.world.db (onlyPair updated) :=
        fun collects => mine (collects_onlyPair.mp collects entry member).1
      rw [links,refreshAll_fails fails,link]
  · exact fun entry member => sync.apart entry ((entries entry).mp member)
  · intro key apart
    rw [elsewhere fun entry member at_key => sync.apart entry member (at_key ▸ apart)]
    exact sync.stands key apart

/-! Loading a pair. -/

/-- What stays agreed upon: the links, and the paths of the rows. -/
structure Agreed (foreign : Key → Prop) (s : Linked) : Prop where
  sync : InSync foreign s
  assigned : Assigned s.world.db

theorem Agreed.unseen {foreign : Key → Prop} {s t : Linked} (agreed : Agreed foreign s) (unseen : Unseen s.world t.world)
    (links : t.links = s.links) : Agreed foreign t :=
  ⟨agreed.sync.unseen unseen links,Assigned.unseen agreed.assigned unseen⟩

/-- If the load of the pair fails it over, the refresh can map the rows, or there is no link of the pair. -/
def LoadsSafely (w : World) (pairId : Nat) : Prop :=
  ∀ pair, w.db.drivePairs.find? pairId = some pair → emergencyFailoverDue w.disk pair = true →
    Alone w.db pairId ∨ ∀ entry ∈ virtualEntries w.db, entry.drivePairId ≠ pairId

theorem load_missing {calls : LinkCalls} {pairId : Nat} {s : Linked} (missing : s.world.db.drivePairs.find? pairId = none) :
    ∃ message, VirtualRetarget.loadOperationalPair calls pairId s = .error message s := by
  have failed : inWorld (Act.query (fun db => db.getDrivePair pairId)) s = .error Db.queryReturnedNoRows s := by
    simp only [inWorld,Act.query,Db.getDrivePair,missing]
  exact ⟨_,bind_of_error failed _⟩

theorem load_idle {calls : LinkCalls} {pairId : Nat} {pair : DrivePair} {s : Linked}
    (found : s.world.db.drivePairs.find? pairId = some pair) (idle : emergencyFailoverDue s.world.disk pair = false) :
    VirtualRetarget.loadOperationalPair calls pairId s = .ok pair s := by
  have read : inWorld (Act.query (fun db => db.getDrivePair pairId)) s = .ok pair s := by
    simp only [inWorld,Act.query,Db.getDrivePair,found]
  have looked : inWorld (Act.look (fun disk => emergencyFailoverDue disk pair)) s = .ok false s := by
    rw [inWorld,Act.look_apply,idle]
  unfold VirtualRetarget.loadOperationalPair VirtualRetarget.maybeEmergencyFailover
  rw [bind_of_ok read,bind_of_ok looked]
  rfl

theorem load_due (calls : LinkCalls) {pairId : Nat} {pair : DrivePair} {s : Linked}
    (found : s.world.db.drivePairs.find? pairId = some pair) :
    ∃ t, VirtualRetarget.loadOperationalPair calls pairId s = .ok (pair.operational s.world.disk) t ∧
      t.world = { s.world with db := s.world.db.operational s.world.disk pair } ∧ (t = s ∨ Refreshed calls pairId s t) := by
  have erased := erases_loadOperationalPair calls pairId s
  rw [loadOperationalPair_run (Db.getDrivePair_ok.mpr found)] at erased
  cases ran : VirtualRetarget.loadOperationalPair calls pairId s with
  | error message t =>
    rw [ran] at erased
    cases erased
  | ok now t =>
    rw [ran] at erased
    injection erased with same world
    subst same
    exact ⟨t,rfl,world,loadOperationalPair_links ran⟩

theorem Agreed.load {foreign : Key → Prop} {s : Linked} (agreed : Agreed foreign s) {pairId : Nat}
    (safe : LoadsSafely s.world pairId) :
    (∃ message, VirtualRetarget.loadOperationalPair .healthy pairId s = .error message s) ∨
      ∃ pair t, VirtualRetarget.loadOperationalPair .healthy pairId s = .ok pair t ∧ Agreed foreign t ∧
        AssigneesKept s t ∧ t.world.db.drivePairs.find? pairId = some pair := by
  cases found : s.world.db.drivePairs.find? pairId with
  | none => exact .inl (load_missing found)
  | some pair =>
    right
    cases due : emergencyFailoverDue s.world.disk pair with
    | false => exact ⟨pair,s,load_idle found due,agreed,refl_of AssigneesKept s,found⟩
    | true =>
      obtain ⟨t,ran,world,either⟩ := load_due .healthy found
      have kept : AssigneesKept s t := by
        intro owner
        rw [world]
        exact assigneeOf_operational s.world.db s.world.disk pair owner
      have row : t.world.db.drivePairs.find? pairId = some (pair.operational s.world.disk) := by
        rw [world]
        exact find?_operational (Db.getDrivePair_ok.mpr found) s.world.disk
      refine ⟨_,t,ran,?_,kept,row⟩
      rcases either with same | ⟨updated,written,links⟩
      · rw [same]
        exact agreed
      · have key : pair.id = pairId := Table.find?_key found
        refine ⟨agreed.sync.refreshed agreed.assigned (Table.find?_key written) (virtualEntries_of_kept kept) written
          (fun other differs => ?_) links (safe pair found due),agreed.assigned.kept kept⟩
        rw [world]
        exact find?_operational_other s.world.db s.world.disk pair (key ▸ differs)

/-! Setting and removing a path. -/

theorem validated_normal {calls : LinkCalls} {db : Db} {owner : VirtualOwner} {given normalized : String} {tree : VirtualTree}
    (ok : validateVirtualPath calls db owner given tree = .ok normalized) {entry : VirtualEntry}
    (member : entry ∈ virtualEntries db) : ∃ path, normalizeVirtualPath entry.virtualPath = .ok path := by
  unfold validateVirtualPath at ok
  rw [(validated_apart ok).1] at ok
  cases collected : collectVirtualReservations db with
  | error message =>
    rw [collected] at ok
    cases ok
  | ok reservations =>
    obtain ⟨_,_,made⟩ := Passes.mem_mapM collected member
    cases normal : normalizeVirtualPath entry.virtualPath with
    | error message =>
      simp only [bind,Except.bind,normal] at made
      cases made
    | ok path => exact ⟨path,rfl⟩

theorem entry_of_assignee {db : Db} {owner : VirtualOwner} {pairId : Nat} {path relative : String}
    (found : assigneeOf owner db = some ⟨pairId,some path,relative⟩) :
    (⟨owner,pairId,path,relative⟩ : VirtualEntry) ∈ virtualEntries db := mem_virtualEntries.mpr found

theorem InSync.managed {foreign : Key → Prop} {s : Linked} (sync : InSync foreign s) {entry : VirtualEntry}
    (member : entry ∈ virtualEntries s.world.db) : s.links (linkKey entry.virtualPath) ≠ some .other := by
  obtain ⟨_,_,link⟩ := sync.shown entry member
  rw [link]
  exact fun same => LinkNode.noConfusion (Option.some.inj same)

theorem onLinks_run {α : Type} {x : LinkAct α} {value : α} {links : VirtualTree} {s : Linked}
    (ran : x s.links = .ok value links) : onLinks x s = .ok value { s with links } := by
  rw [onLinks,ran]

/-- The old path's link goes, unless the path stays the same. -/
theorem removePrevious_run {path : String} {previous : Option String} {s : Linked}
    (managed : ∀ old, previous = some old → old ≠ path → s.links (linkKey old) ≠ some .other) :
    ∃ t, removePrevious .healthy path previous s = .ok () t ∧ t.world = s.world ∧
      (∀ old, previous = some old → old ≠ path → t.links (linkKey old) = none) ∧
      ∀ key, (∀ old, previous = some old → old ≠ path → key ≠ linkKey old) → t.links key = s.links key := by
  cases previous with
  | none => exact ⟨s,rfl,rfl,fun _ has => (by cases has),fun _ _ => rfl⟩
  | some old =>
    by_cases same : old = path
    · refine ⟨s,?_,rfl,?_,fun _ _ => rfl⟩
      · rw [removePrevious,if_pos same]
        rfl
      · intro _ has differs
        cases has
        exact absurd same differs
    · refine ⟨{ s with links := Function.update s.links (linkKey old) none },?_,rfl,?_,?_⟩
      · rw [removePrevious,if_neg same]
        exact onLinks_run (removeSymlink_run (managed old rfl same))
      · intro _ has _
        cases has
        exact Function.update_self _ _ _
      · exact fun key others => Function.update_of_ne (others old rfl same) _ _

theorem Agreed.free {foreign : Key → Prop} {s : Linked} (agreed : Agreed foreign s) {owner : VirtualOwner}
    {assignee : Assignee} (found : assigneeOf owner s.world.db = some assignee) {given path : String}
    (valid : validateVirtualPath .healthy s.world.db owner given s.links = .ok path) :
    (s.links (linkKey path) = none ∨
      (assignee.virtualPath == some path) = true ∧ ∃ old, s.links (linkKey path) = some (.symlink old)) ∧
      ¬foreign (linkKey path) := by
  rcases validated_free valid with empty | ⟨standing,entry,member,own,normal⟩
  · refine ⟨.inl empty,fun apart => ?_⟩
    obtain ⟨target,link⟩ := agreed.sync.stands _ apart
    rw [empty] at link
    cases link
  · obtain rfl := (agreed.assigned.dotless entry member).normalize normal
    have same := mem_virtualEntries.mp member
    rw [own,found,Option.some.injEq] at same
    exact ⟨.inr ⟨beq_iff_eq.mpr (same ▸ rfl),standing⟩,agreed.sync.apart entry member⟩

theorem Agreed.publish {foreign : Key → Prop} {s : Linked} (agreed : Agreed foreign s) {owner : VirtualOwner}
    {assignee : Assignee} {pair : DrivePair} {given path : String} (undotted : Undotted given)
    (found : assigneeOf owner s.world.db = some assignee)
    (row : s.world.db.drivePairs.find? assignee.drivePairId = some pair)
    (valid : validateVirtualPath .healthy s.world.db owner given s.links = .ok path) :
    ∃ t, (do
      let previous ← inWorld (Act.query (fun _ => previousPath assignee.virtualPath))
      onLinks (createSymlink .healthy path (pair.copyOn pair.activeRole assignee.relativePath) (previous == some path))
      inWorld (Act.execute (updateVirtualPath owner (some path)))
      removePrevious .healthy path previous : LinkedAct Unit) s = .ok () t ∧ Agreed foreign t := by
  obtain ⟨pairId,before,relative⟩ := assignee
  have mine {old : String} (has : before = some old) :
      (⟨owner,pairId,old,relative⟩ : VirtualEntry) ∈ virtualEntries s.world.db := entry_of_assignee (has ▸ found)
  have fresh := dotless_of_normalize undotted (validated_apart valid).1
  have apart {old : String} (has : before = some old) (differs : old ≠ path) : linkKey old ≠ linkKey path :=
    fun same => differs (dotless_inj (agreed.assigned.dotless _ (mine has)) fresh same)
  have previous : previousPath before = .ok before := by
    cases before with
    | none => rfl
    | some old =>
      obtain ⟨normal,ok⟩ := validated_normal valid (mine rfl)
      obtain rfl := (agreed.assigned.dotless _ (mine rfl)).normalize ok
      simp only [previousPath,ok,bind,Except.bind]
      rfl
  have looked : inWorld (Act.query fun _ => previousPath before) s = .ok before s := by
    simp only [inWorld,Act.query,previous]
  obtain ⟨free,others⟩ := agreed.free found valid
  let target := pair.copyOn pair.activeRole relative
  let written : Linked :=
    ⟨{ s.world with db := updateVirtualPath owner (some path) s.world.db },
      Function.update s.links (linkKey path) (some (.symlink target))⟩
  have created : onLinks (createSymlink .healthy path target (before == some path)) s =
      .ok () { s with links := written.links } := onLinks_run (createSymlink_run free)
  have linked : written.links (linkKey path) = some (.symlink target) := Function.update_self _ _ _
  have elsewhere {key : Key} (differs : key ≠ linkKey path) : written.links key = s.links key :=
    Function.update_of_ne differs _ _
  have managed (old : String) (has : before = some old) (differs : old ≠ path) :
      written.links (linkKey old) ≠ some .other := by
    rw [elsewhere (apart has differs)]
    exact agreed.sync.managed (mine has)
  obtain ⟨t,removed,world,gone,kept⟩ := removePrevious_run managed
  refine ⟨t,?_,?_,?_⟩
  · rw [bind_of_ok looked,bind_of_ok created]
    exact removed
  · refine agreed.sync.assigned agreed.assigned found row (agreed.assigned.updated undotted valid) others
      (congrArg World.db world) ?_ gone fun key differs former => ?_
    · rw [kept _ fun old has differs => (apart has differs).symm]
      exact linked
    · rw [kept key fun old has _ => former old has,elsewhere differs]
  · rw [world]
    exact agreed.assigned.updated undotted valid

theorem Agreed.assign {foreign : Key → Prop} {s : Linked} (agreed : Agreed foreign s) {owner : VirtualOwner} {given : String}
    (undotted : Undotted given)
    (safe : ∀ assignee, assigneeOf owner s.world.db = some assignee → LoadsSafely s.world assignee.drivePairId) :
    (∃ message t, assignVirtualPath .healthy owner given s = .error message t ∧ Agreed foreign t ∧ AssigneesKept s t) ∨
      ∃ t, assignVirtualPath .healthy owner given s = .ok () t ∧ Agreed foreign t := by
  unfold assignVirtualPath
  cases found : assigneeOf owner s.world.db with
  | none =>
    have failed : inWorld (Act.query (getAssignee owner)) s = .error Db.queryReturnedNoRows s := by
      simp only [inWorld,Act.query,getAssignee,found]
    exact .inl ⟨_,s,bind_of_error failed _,agreed,refl_of AssigneesKept s⟩
  | some assignee =>
    have read : inWorld (Act.query (getAssignee owner)) s = .ok assignee s := by
      simp only [inWorld,Act.query,getAssignee,found]
    rw [bind_of_ok read]
    rcases agreed.load (safe assignee found) with ⟨message,failed⟩ | ⟨pair,u,loaded,still,kept,row⟩
    · exact .inl ⟨_,s,bind_of_error failed _,agreed,refl_of AssigneesKept s⟩
    · rw [bind_of_ok loaded]
      cases valid : validateVirtualPath .healthy u.world.db owner given u.links with
      | error message =>
        have refused : validated .healthy owner given u = .error message u := by rw [validated,valid]
        exact .inl ⟨_,u,bind_of_error refused _,still,kept⟩
      | ok path =>
        have passed : validated .healthy owner given u = .ok path u := by rw [validated,valid]
        rw [bind_of_ok passed]
        exact .inr (still.publish undotted ((kept owner).trans found) row valid)

theorem Agreed.release {foreign : Key → Prop} {s : Linked} (agreed : Agreed foreign s) {owner : VirtualOwner} {pairId : Nat}
    {path relative : String} (found : assigneeOf owner s.world.db = some ⟨pairId,some path,relative⟩) :
    (∃ message, releaseVirtualPath .healthy owner path s = .error message s) ∨
      ∃ t, releaseVirtualPath .healthy owner path s = .ok () t ∧ Agreed foreign t ∧
        t.world.db = updateVirtualPath owner none s.world.db := by
  have member := entry_of_assignee found
  unfold releaseVirtualPath
  cases normal : normalizeVirtualPath path with
  | error message =>
    have failed : inWorld (Act.query fun _ => normalizeVirtualPath path) s = .error message s := by
      simp only [inWorld,Act.query,normal]
    simp only [← normal]
    exact .inl ⟨_,bind_of_error failed _⟩
  | ok again =>
    have looked : inWorld (Act.query fun _ => normalizeVirtualPath path) s = .ok path s := by
      simp only [inWorld,Act.query,normal,(agreed.assigned.dotless _ member).normalize normal]
    have removed := onLinks_run (s := ⟨{ s.world with db := updateVirtualPath owner none s.world.db },s.links⟩)
      (removeSymlink_run (agreed.sync.managed member))
    refine .inr ⟨⟨{ s.world with db := updateVirtualPath owner none s.world.db },Function.update s.links (linkKey path) none⟩,
      ?_,⟨?_,agreed.assigned.released owner⟩,rfl⟩
    · simp only [← normal]
      rw [bind_of_ok looked]
      exact removed
    · refine agreed.sync.released agreed.assigned (· = owner) (fun entry => ?_) (by cases owner <;> rfl)
        (fun entry present own => ?_) fun key others => ?_
      · rw [mem_virtualEntries_update,and_comm]
        constructor
        · rintro (kept | ⟨_,impossible,_⟩)
          · exact kept
          · cases impossible
        · exact .inl
      · obtain rfl := entry_of_owner present member own
        exact Function.update_self _ _ _
      · exact Function.update_of_ne (others _ member rfl).symm _ _

theorem Agreed.remove {foreign : Key → Prop} {s : Linked} (agreed : Agreed foreign s) (owner : VirtualOwner)
    (absent : LinkedAct Unit) (still : ∀ s, after absent s = s) :
    Agreed foreign (after (do
      let assignee ← inWorld (Act.query (getAssignee owner))
      match assignee.virtualPath with
      | none => absent
      | some virtualPath => releaseVirtualPath .healthy owner virtualPath) s) := by
  cases found : assigneeOf owner s.world.db with
  | none =>
    have failed : inWorld (Act.query (getAssignee owner)) s = .error Db.queryReturnedNoRows s := by
      simp only [inWorld,Act.query,getAssignee,found]
    rw [after_bind_of_error failed]
    exact agreed
  | some assignee =>
    have read : inWorld (Act.query (getAssignee owner)) s = .ok assignee s := by
      simp only [inWorld,Act.query,getAssignee,found]
    rw [after_bind_of_ok read]
    obtain ⟨pairId,before,relative⟩ := assignee
    cases before with
    | none =>
      rw [still]
      exact agreed
    | some path =>
      rcases agreed.release found with ⟨message,failed⟩ | ⟨t,released,later,_⟩
      · rw [after_of_error failed]
        exact agreed
      · rw [after_of_ok released]
        exact later

/-- The path that a call assigns, with its owner. -/
def assigns : Call → Option (VirtualOwner × String)
  | .setVirtualPath fileId virtualPath => some (.file fileId,virtualPath)
  | .setFolderVirtualPath folderId virtualPath => some (.folder folderId,virtualPath)
  | .removeVirtualPath _ | .removeFolderVirtualPath _ => none

theorem Agreed.call {foreign : Key → Prop} {s : Linked} (agreed : Agreed foreign s) {call : Call}
    (undotted : ∀ owner given, assigns call = some (owner,given) → Undotted given)
    (safe : ∀ owner given assignee, assigns call = some (owner,given) → assigneeOf owner s.world.db = some assignee →
      LoadsSafely s.world assignee.drivePairId) : Agreed foreign (after (call.run .healthy) s) := by
  have assigned {owner : VirtualOwner} {given : String} (own : assigns call = some (owner,given)) :
      Agreed foreign (after (assignVirtualPath .healthy owner given) s) := by
    rcases agreed.assign (undotted owner given own) fun assignee => safe owner given assignee own with
      ⟨message,t,failed,later,_⟩ | ⟨t,ran,later⟩
    · rw [after_of_error failed]
      exact later
    · rw [after_of_ok ran]
      exact later
  cases call with
  | setVirtualPath fileId virtualPath => exact assigned rfl
  | setFolderVirtualPath folderId virtualPath => exact assigned rfl
  | removeVirtualPath fileId => exact agreed.remove (.file fileId) _ fun _ => rfl
  | removeFolderVirtualPath folderId => exact agreed.remove (.folder folderId) _ fun _ => rfl

/-! Untracking. -/

theorem assigneeOf_deleteTrackedFiles (db : Db) (fileIds : List Nat) (owner : VirtualOwner) :
    assigneeOf owner (fileIds.foldl Db.deleteTrackedFile db) =
      if owner ∈ fileIds.map VirtualOwner.file then none else assigneeOf owner db := by
  cases owner with
  | file id =>
    have listed : VirtualOwner.file id ∈ fileIds.map VirtualOwner.file ↔ id ∈ fileIds :=
      List.mem_map_of_injective fun _ _ same => VirtualOwner.file.inj same
    rw [assigneeOf,Db.find?_deleteTrackedFiles]
    simp only [listed]
    split <;> rfl
  | folder id =>
    have absent : VirtualOwner.folder id ∉ fileIds.map VirtualOwner.file := by simp
    rw [if_neg absent,assigneeOf,Db.deleteTrackedFiles_trackedFolders,assigneeOf]

theorem unseen_deleteTrackedFile {w t : World} {id : Nat} (rows : t.db = w.db.deleteTrackedFile id)
    (pathless : ∀ file, w.db.trackedFiles.find? id = some file → file.virtualPath = none) : Unseen w t := by
  refine ⟨fun entry => ?_,by rw [rows]; rfl⟩
  have same : assigneeOf entry.owner t.db =
    if entry.owner ∈ [VirtualOwner.file id] then none else assigneeOf entry.owner w.db := by
    rw [rows]
    exact assigneeOf_deleteTrackedFiles w.db [id] entry.owner
  rw [mem_virtualEntries,mem_virtualEntries,same]
  split
  · rename_i own
    rw [List.mem_singleton.mp own,assigneeOf]
    constructor
    · intro impossible
      cases impossible
    · intro found
      obtain ⟨file,there,assignee⟩ := Option.map_eq_some_iff.mp found
      rw [pathless file there,Assignee.mk.injEq] at assignee
      cases assignee.2.1
  · exact Iff.rfl

theorem Agreed.untrackFile {foreign : Key → Prop} {s : Linked} (agreed : Agreed foreign s) {file : TrackedFile}
    (found : s.world.db.trackedFiles.find? file.id = some file) :
    Agreed foreign (after (VirtualAssignment.untrackFile .healthy file) s) := by
  have deletes {t : Linked} (agreed : Agreed foreign t)
      (pathless : ∀ row, t.world.db.trackedFiles.find? file.id = some row → row.virtualPath = none) :
      Agreed foreign (after (inWorld (Act.execute (fun db => db.deleteTrackedFile file.id))) t) :=
    agreed.unseen (unseen_deleteTrackedFile rfl pathless) rfl
  unfold VirtualAssignment.untrackFile
  cases has : file.virtualPath with
  | none =>
    refine deletes agreed fun row there => ?_
    rw [found] at there
    cases there
    exact has
  | some path =>
    have assignee : assigneeOf (.file file.id) s.world.db = some ⟨file.drivePairId,some path,file.relativePath⟩ := by
      rw [assigneeOf,found,Option.map_some,has]
    have read : inWorld (Act.query (getAssignee (.file file.id))) s = .ok ⟨file.drivePairId,some path,file.relativePath⟩ s := by
      simp only [inWorld,Act.query,getAssignee,assignee]
    have removes : VirtualAssignment.removeVirtualPath .healthy file.id s =
        releaseVirtualPath .healthy (.file file.id) path s := bind_of_ok read _
    simp only [Option.isSome_some,if_true]
    rcases agreed.release assignee with ⟨message,failed⟩ | ⟨t,released,later,rows⟩
    · rw [after_bind_of_error (removes.trans failed)]
      exact agreed
    · rw [after_bind_of_ok (removes.trans released)]
      refine deletes later fun row there => ?_
      have none : assigneeOf (.file file.id) t.world.db = some ⟨file.drivePairId,none,file.relativePath⟩ := by
        rw [rows,assigneeOf_updateVirtualPath,if_pos rfl,assignee,Option.map_some]
      rw [assigneeOf,there,Option.map_some,Option.some.injEq,Assignee.mk.injEq] at none
      exact none.2.1

theorem after_query_bind {α β : Type} (read : Db → Except String α) (f : α → LinkedAct β) (s : Linked) :
    after (inWorld (Act.query read) >>= f) s = s ∨
      ∃ a, read s.world.db = .ok a ∧ after (inWorld (Act.query read) >>= f) s = after (f a) s := by
  cases answer : read s.world.db with
  | error message =>
    have failed : inWorld (Act.query read) s = .error message s := by simp only [inWorld,Act.query,answer]
    exact .inl (after_bind_of_error failed _)
  | ok a =>
    have looked : inWorld (Act.query read) s = .ok a s := by simp only [inWorld,Act.query,answer]
    exact .inr ⟨a,rfl,after_bind_of_ok looked _⟩

theorem getTrackedFile_row {db : Db} {id : Nat} {file : TrackedFile} (read : db.getTrackedFile id = .ok file) :
    db.trackedFiles.find? file.id = some file := by
  have found := Db.getTrackedFile_ok.mp read
  have key : file.id = id := Table.find?_key found
  rw [key]
  exact found

theorem Agreed.untrackCommand {foreign : Key → Prop} {s : Linked} (agreed : Agreed foreign s) (id : Nat) :
    Agreed foreign (after (VirtualAssignment.untrackCommand .healthy id) s) := by
  unfold VirtualAssignment.untrackCommand
  rcases after_query_bind (fun db => db.getTrackedFile id) (VirtualAssignment.untrackFile .healthy) s with
    ends | ⟨file,read,ends⟩
  · rw [ends]
    exact agreed
  · rw [ends]
    exact agreed.untrackFile (getTrackedFile_row read)

theorem after_ensure_bind {β : Type} (condition : Bool) (message : String) (f : Unit → LinkedAct β) (s : Linked) :
    after (inWorld (Act.ensure condition message) >>= f) s =
      if condition then after (f ()) s else s := by
  cases condition <;> rfl

theorem Agreed.deleteFile {foreign : Key → Prop} {s : Linked} (agreed : Agreed foreign s) (id : Nat) :
    Agreed foreign (after (VirtualAssignment.deleteFile .healthy id) s) := by
  unfold VirtualAssignment.deleteFile
  rcases after_query_bind (fun db => db.getTrackedFile id) _ s with ends | ⟨file,read,ends⟩
  · rw [ends]
    exact agreed
  · rw [ends]
    rcases after_query_bind (fun db => .ok (hasActiveSyncForFile db id)) _ s with ends | ⟨active,_,ends⟩
    · rw [ends]
      exact agreed
    · rw [ends,after_ensure_bind]
      split
      · exact agreed.untrackFile (getTrackedFile_row read)
      · exact agreed

open FolderProvenance

theorem removeSymlinks_at {paths : List String} {s : Linked} (managed : ∀ path ∈ paths, s.links (linkKey path) ≠ some .other) :
    ∃ t, removeSymlinks .healthy paths s = .ok () t ∧ t.world = s.world ∧
      (∀ path ∈ paths, t.links (linkKey path) = none) ∧
      ∀ key, (∀ path ∈ paths, linkKey path ≠ key) → t.links key = s.links key := by
  induction paths generalizing s with
  | nil => exact ⟨s,rfl,rfl,fun _ member => absurd member List.not_mem_nil,fun _ _ => rfl⟩
  | cons path paths ih =>
    obtain ⟨first,later⟩ := List.forall_mem_cons.mp managed
    have removed := onLinks_run (s := s) (removeSymlink_run first)
    obtain ⟨t,ran,world,gone,others⟩ := ih (s := { s with links := Function.update s.links (linkKey path) none }) (by
      intro other member
      by_cases same : linkKey other = linkKey path
      · rw [same]
        simp
      · exact (Function.update_of_ne same _ _).trans_ne (later other member))
    refine ⟨t,?_,world,List.forall_mem_cons.mpr ⟨?_,gone⟩,fun key apart => ?_⟩
    · unfold removeSymlinks
      rw [bind_of_ok (attempt_of_ok removed)]
      exact ran
    · by_cases again : ∃ other ∈ paths, linkKey other = linkKey path
      · obtain ⟨other,member,same⟩ := again
        rw [← same]
        exact gone other member
      · rw [others _ fun other member same => again ⟨other,member,same⟩]
        exact Function.update_self _ _ _
    · obtain ⟨here,there⟩ := List.forall_mem_cons.mp apart
      rw [others key there]
      exact Function.update_of_ne here.symm _ _

/-- The owners whose rows the cascade deletes. -/
def Untracked (db : Db) (folder : TrackedFolder) (owner : VirtualOwner) : Prop :=
  owner = .folder folder.id ∨
    ∃ file ∈ db.listFolderOriginDescendantFiles folder.drivePairId folder.folderPath folder.id, owner = .file file.id

theorem assigneeOf_cascaded (db : Db) (folder : TrackedFolder) (owner : VirtualOwner) :
    (Untracked db folder owner → assigneeOf owner (cascaded db folder) = none) ∧
      (¬Untracked db folder owner → assigneeOf owner (cascaded db folder) = assigneeOf owner db) := by
  cases owner with
  | folder id =>
    have own : Untracked db folder (.folder id) ↔ id = folder.id := by simp [Untracked]
    rw [own,assigneeOf,assigneeOf,cascaded_trackedFolders]
    constructor
    · intro same
      rw [if_pos same]
      rfl
    · intro differs
      rw [if_neg differs]
  | file id =>
    obtain ⟨gone,kept⟩ := find?_cascaded db folder id
    have own : Untracked db folder (.file id) ↔
        ∃ file ∈ db.listFolderOriginDescendantFiles folder.drivePairId folder.folderPath folder.id, id = file.id := by
      simp [Untracked]
    rw [own,assigneeOf,assigneeOf]
    constructor
    · rintro ⟨file,listed,rfl⟩
      rw [gone.mpr fun other found => ?_]
      · rfl
      · obtain rfl := Option.some.inj ((mem_descendants.mp listed).1.symm.trans found)
        exact listed
    · intro stays
      cases found : db.trackedFiles.find? id with
      | none =>
        rw [gone.mpr fun other there => ?_]
        rw [found] at there
        cases there
      | some file =>
        have key : file.id = id := Table.find?_key found
        obtain ⟨direct,viaFolder,row⟩ := kept file found fun listed => stays ⟨file,listed,key.symm⟩
        rw [row]
        rfl

theorem entries_cascaded {db : Db} {folder : TrackedFolder} {entry : VirtualEntry} :
    entry ∈ virtualEntries (cascaded db folder) ↔ entry ∈ virtualEntries db ∧ ¬Untracked db folder entry.owner := by
  obtain ⟨gone,kept⟩ := assigneeOf_cascaded db folder entry.owner
  rw [mem_virtualEntries,mem_virtualEntries]
  by_cases untracked : Untracked db folder entry.owner
  · rw [gone untracked]
    exact iff_of_false (fun impossible => by cases impossible) fun held => held.2 untracked
  · rw [kept untracked,and_iff_left untracked]

theorem mem_symlinksToRemove {db : Db} {folder : TrackedFolder} (found : db.trackedFolders.find? folder.id = some folder)
    (path : String) :
    path ∈ (db.listFolderOriginDescendantFiles folder.drivePairId folder.folderPath folder.id).filterMap
        TrackedFile.virtualPath ++ folder.virtualPath.toList ↔
      ∃ entry ∈ virtualEntries db, Untracked db folder entry.owner ∧ entry.virtualPath = path := by
  rw [List.mem_append,List.mem_filterMap,Option.mem_toList]
  constructor
  · rintro (⟨file,listed,has⟩ | has)
    · refine ⟨⟨.file file.id,file.drivePairId,path,file.relativePath⟩,mem_virtualEntries.mpr ?_,.inr ⟨file,listed,rfl⟩,rfl⟩
      rw [assigneeOf,(mem_descendants.mp listed).1,Option.map_some,has]
    · refine ⟨⟨.folder folder.id,folder.drivePairId,path,folder.folderPath⟩,mem_virtualEntries.mpr ?_,.inl rfl,rfl⟩
      rw [assigneeOf,found,Option.map_some,has]
  · rintro ⟨entry,member,own | ⟨file,listed,own⟩,rfl⟩
    · have row := mem_virtualEntries.mp member
      rw [own,assigneeOf,found,Option.map_some,Option.some.injEq,Assignee.mk.injEq] at row
      exact .inr row.2.1
    · have row := mem_virtualEntries.mp member
      rw [own,assigneeOf,(mem_descendants.mp listed).1,Option.map_some,Option.some.injEq,Assignee.mk.injEq] at row
      exact .inl ⟨file,listed,row.2.1⟩

theorem getTrackedFolder_row {db : Db} {id : Nat} {folder : TrackedFolder} (read : db.getTrackedFolder id = .ok folder) :
    db.trackedFolders.find? id = some folder := by
  unfold Db.getTrackedFolder at read
  split at read
  · rename_i row found
    cases read
    exact found
  · cases read

/-- The cascade without its result, once it has read its folder and the files that go with it. -/
def cascade (calls : LinkCalls) (folder : TrackedFolder) (descendants : List TrackedFile) : LinkedAct Unit := do
  inWorld (Act.execute (fun db => db.deleteFolderCascadeTx folder.id (descendants.map TrackedFile.id)))
  removeSymlinks calls (descendants.filterMap TrackedFile.virtualPath ++ folder.virtualPath.toList)
  inWorld (Act.execute (fun db => db.recomputeFolderProvenanceForDrive folder.drivePairId))

def rowsDeleted (folder : TrackedFolder) (descendants : List TrackedFile) (s : Linked) : Linked :=
  { s with world := { s.world with db := (s.world.db.deleteFolderCascadeTx folder.id (descendants.map TrackedFile.id)) } }

theorem rowsDeleted_run (folder : TrackedFolder) (descendants : List TrackedFile) (s : Linked) :
    inWorld (Act.execute (fun db => db.deleteFolderCascadeTx folder.id (descendants.map TrackedFile.id))) s =
      .ok () (rowsDeleted folder descendants s) := rfl

theorem cascade_runs (calls : LinkCalls) (folderId : Nat) (s : Linked) :
    after (untrackFolderCascade calls folderId) s = s ∨
      ∃ folder, s.world.db.trackedFolders.find? folderId = some folder ∧
        after (untrackFolderCascade calls folderId) s = after (cascade calls folder
          (s.world.db.listFolderOriginDescendantFiles folder.drivePairId folder.folderPath folder.id)) s := by
  unfold untrackFolderCascade
  rcases after_query_bind (fun db => db.getTrackedFolder folderId) _ s with ends | ⟨folder,read,ends⟩
  · exact .inl ends
  rw [ends]
  rcases after_query_bind (fun db => db.getDrivePair folder.drivePairId) _ s with ends | ⟨pair,_,ends⟩
  · exact .inl ends
  rw [ends]
  rcases after_query_bind (fun _ => requirePairMutationAllowed pair) _ s with ends | ⟨_,_,ends⟩
  · exact .inl ends
  rw [ends]
  rcases after_query_bind
    (fun db => .ok (db.listFolderOriginDescendantFiles folder.drivePairId folder.folderPath folder.id)) _ s with
    ends | ⟨descendants,listed,ends⟩
  · exact .inl ends
  rw [ends]
  cases listed
  refine .inr ⟨folder,getTrackedFolder_row read,?_⟩
  let descendants := s.world.db.listFolderOriginDescendantFiles folder.drivePairId folder.folderPath folder.id
  obtain ⟨links,removed⟩ := removeSymlinks_run calls
    (descendants.filterMap TrackedFile.virtualPath ++ folder.virtualPath.toList) (rowsDeleted folder descendants s)
  refine (after_bind_of_ok (rowsDeleted_run folder descendants s) _).trans ?_
  refine Eq.trans ?_ (after_bind_of_ok (rowsDeleted_run folder descendants s) _).symm
  refine (after_bind_of_ok removed _).trans ?_
  exact (after_bind_of_ok removed
    (fun _ => inWorld (Act.execute (fun db => db.recomputeFolderProvenanceForDrive folder.drivePairId)))).symm

theorem Agreed.untrackFolder {foreign : Key → Prop} {s : Linked} (agreed : Agreed foreign s) (folderId : Nat) :
    Agreed foreign (after (untrackFolderCascade .healthy folderId) s) := by
  rcases cascade_runs .healthy folderId s with ends | ⟨folder,found,ends⟩
  · rw [ends]
    exact agreed
  have key : folder.id = folderId := Table.find?_key found
  subst key
  have listed := mem_symlinksToRemove found
  let descendants := s.world.db.listFolderOriginDescendantFiles folder.drivePairId folder.folderPath folder.id
  have managed (path : String) (member : path ∈ descendants.filterMap TrackedFile.virtualPath ++ folder.virtualPath.toList) :
      (rowsDeleted folder descendants s).links (linkKey path) ≠ some .other := by
    obtain ⟨entry,present,_,same⟩ := (listed path).mp member
    exact same ▸ agreed.sync.managed present
  obtain ⟨t,removed,world,gone,others⟩ := removeSymlinks_at managed
  have last : after (cascade .healthy folder descendants) s =
      ⟨{ s.world with db := cascaded s.world.db folder },t.links⟩ := by
    unfold cascade
    rw [after_bind_of_ok (rowsDeleted_run folder descendants s),after_bind_of_ok removed]
    change Linked.mk { t.world with db := t.world.db.recomputeFolderProvenanceForDrive folder.drivePairId } t.links = _
    rw [world]
    rfl
  rw [ends,last]
  have pairs : (cascaded s.world.db folder).drivePairs = s.world.db.drivePairs :=
    PairFrame.deleteTrackedFiles_drivePairs s.world.db (descendants.map TrackedFile.id)
  refine ⟨agreed.sync.released agreed.assigned _ (fun entry => entries_cascaded) pairs ?_ ?_,?_,?_⟩
  · exact fun entry member untracked => gone _ ((listed _).mpr ⟨entry,member,untracked,rfl⟩)
  · intro key apart
    refine others key fun path member => ?_
    obtain ⟨entry,present,untracked,same⟩ := (listed path).mp member
    exact same ▸ apart entry present untracked
  · exact fun entry member => agreed.assigned.dotless entry (entries_cascaded.mp member).1
  · exact fun entry member other present => agreed.assigned.apart entry (entries_cascaded.mp member).1 other
      (entries_cascaded.mp present).1

end BitProtector.SymlinkSync
