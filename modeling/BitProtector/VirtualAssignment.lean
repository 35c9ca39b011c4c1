import BitProtector.VirtualRetarget
import BitProtector.Tracker
import BitProtector.MirrorFlag

/-! The assignment of virtual paths to files and folders. Each call reads the reservations
of all owners in their normal form and stores its own path as it comes out of one pass. -/
namespace BitProtector.VirtualAssignment
open Effect VirtualPath VirtualRetarget

/-! The calls. -/

/-- The columns of a file or folder that its link depends on. -/
structure Assignee where
  drivePairId : Nat
  virtualPath : Option String
  relativePath : String
  deriving DecidableEq, Repr

def assigneeOf : VirtualOwner → Db → Option Assignee
  | .file id, db => (db.trackedFiles.find? id).map (fun file => ⟨file.drivePairId,file.virtualPath,file.relativePath⟩)
  | .folder id, db =>
    (db.trackedFolders.find? id).map (fun folder => ⟨folder.drivePairId,folder.virtualPath,folder.folderPath⟩)

/-- `get_tracked_file` and `get_tracked_folder`. -/
def getAssignee (owner : VirtualOwner) (db : Db) : Except String Assignee :=
  match assigneeOf owner db with
  | some assignee => .ok assignee
  | none => .error Db.queryReturnedNoRows

def updateVirtualPath : VirtualOwner → Option String → Db → Db
  | .file id, virtualPath, db => db.updateTrackedFileVirtualPath id virtualPath
  | .folder id, virtualPath, db => db.updateTrackedFolderVirtualPath id virtualPath

def onLinks {α : Type} (x : LinkAct α) : LinkedAct α := fun s =>
  match x s.links with
  | .ok value links => .ok value { s with links }
  | .error message links => .error message { s with links }

def validated (calls : LinkCalls) (owner : VirtualOwner) (virtualPath : String) : LinkedAct String := fun s =>
  match validateVirtualPath calls s.world.db owner virtualPath s.links with
  | .ok normalized => .ok normalized s
  | .error message => .error message s

def removeSymlink (calls : LinkCalls) (virtualPath : String) : LinkAct Unit := do
  match ← inspect calls virtualPath with
  | none => pure ()
  | some .other => throw s!"Virtual path is not a BitProtector-managed symlink: {virtualPath}"
  | some (.symlink _) => do
    ensured (calls.removeFile virtualPath) osError
    place virtualPath none

/-- The path before, in its normal form. -/
def previousPath : Option String → Except String (Option String)
  | none => .ok none
  | some virtualPath => do
    let normalized ← normalizeVirtualPath virtualPath
    pure (some normalized)

def removePrevious (calls : LinkCalls) (normalized : String) : Option String → LinkedAct Unit
  | none => pure ()
  | some previous => if previous = normalized then pure () else onLinks (removeSymlink calls previous)

def assignVirtualPath (calls : LinkCalls) (owner : VirtualOwner) (virtualPath : String) : LinkedAct Unit := do
  let assignee ← inWorld (Act.query (getAssignee owner))
  let pair ← VirtualRetarget.loadOperationalPair calls assignee.drivePairId
  let normalized ← validated calls owner virtualPath
  let previous ← inWorld (Act.query (fun _ => previousPath assignee.virtualPath))
  onLinks (createSymlink calls normalized (pair.copyOn pair.activeRole assignee.relativePath)
    (previous == some normalized))
  inWorld (Act.execute (updateVirtualPath owner (some normalized)))
  removePrevious calls normalized previous

def setVirtualPath (calls : LinkCalls) (fileId : Nat) (virtualPath : String) : LinkedAct Unit :=
  assignVirtualPath calls (.file fileId) virtualPath

def setFolderVirtualPath (calls : LinkCalls) (folderId : Nat) (virtualPath : String) : LinkedAct Unit :=
  assignVirtualPath calls (.folder folderId) virtualPath

def releaseVirtualPath (calls : LinkCalls) (owner : VirtualOwner) (virtualPath : String) : LinkedAct Unit := do
  let normalized ← inWorld (Act.query (fun _ => normalizeVirtualPath virtualPath))
  inWorld (Act.execute (updateVirtualPath owner none))
  onLinks (removeSymlink calls normalized)

def removeVirtualPath (calls : LinkCalls) (fileId : Nat) : LinkedAct Unit := do
  let file ← inWorld (Act.query (getAssignee (.file fileId)))
  match file.virtualPath with
  | none => inWorld (Act.bail s!"File #{fileId} has no virtual path assigned")
  | some virtualPath => releaseVirtualPath calls (.file fileId) virtualPath

def removeFolderVirtualPath (calls : LinkCalls) (folderId : Nat) : LinkedAct Unit := do
  let folder ← inWorld (Act.query (getAssignee (.folder folderId)))
  match folder.virtualPath with
  | none => pure ()
  | some virtualPath => releaseVirtualPath calls (.folder folderId) virtualPath

/-! Untracking one file. -/

def hasActiveSyncForFile (db : Db) (trackedFileId : Nat) : Bool :=
  db.syncQueue.rows.any (fun item => item.trackedFileId == trackedFileId && item.status == .inProgress)

/-- The end of `DELETE /files/:id`, and `files untrack` after it has read the file. -/
def untrackFile (calls : LinkCalls) (file : TrackedFile) : LinkedAct Unit := do
  if file.virtualPath.isSome then removeVirtualPath calls file.id
  inWorld (Act.execute (fun db => db.deleteTrackedFile file.id))

/-- `DELETE /files/:id`. -/
def deleteFile (calls : LinkCalls) (id : Nat) : LinkedAct Unit := do
  let file ← inWorld (Act.query (fun db => db.getTrackedFile id))
  let active ← inWorld (Act.query (fun db => .ok (hasActiveSyncForFile db id)))
  inWorld (Act.ensure (!active) "Cannot delete file while another operation is active")
  untrackFile calls file

/-- `files untrack`. -/
def untrackCommand (calls : LinkCalls) (id : Nat) : LinkedAct Unit := do
  let file ← inWorld (Act.query (fun db => db.getTrackedFile id))
  untrackFile calls file

/-! The rows with a virtual path. -/

theorem mem_virtualEntries {db : Db} {entry : VirtualEntry} :
    entry ∈ virtualEntries db ↔
      assigneeOf entry.owner db = some ⟨entry.drivePairId,some entry.virtualPath,entry.relativePath⟩ := by
  obtain ⟨owner,pairId,path,relative⟩ := entry
  rw [virtualEntries,List.mem_append,List.mem_filterMap,List.mem_filterMap]
  cases owner with
  | file id =>
    simp only [assigneeOf,Option.map_eq_some_iff,Assignee.mk.injEq]
    constructor
    · rintro (⟨file,listed,entry⟩ | ⟨folder,_,entry⟩)
      · obtain ⟨_,has,same⟩ := Option.map_eq_some_iff.mp entry
        cases same
        exact ⟨file,Table.find?_of_mem _ listed,rfl,has,rfl⟩
      · obtain ⟨_,_,same⟩ := Option.map_eq_some_iff.mp entry
        cases same
    · rintro ⟨file,found,rfl,has,rfl⟩
      have key : file.id = id := Table.find?_key found
      exact .inl ⟨file,Table.mem_of_find? found,by rw [fileEntry,has,Option.map_some,key]⟩
  | folder id =>
    simp only [assigneeOf,Option.map_eq_some_iff,Assignee.mk.injEq]
    constructor
    · rintro (⟨file,_,entry⟩ | ⟨folder,listed,entry⟩)
      · obtain ⟨_,_,same⟩ := Option.map_eq_some_iff.mp entry
        cases same
      · obtain ⟨_,has,same⟩ := Option.map_eq_some_iff.mp entry
        cases same
        exact ⟨folder,Table.find?_of_mem _ listed,rfl,has,rfl⟩
    · rintro ⟨folder,found,rfl,has,rfl⟩
      have key : folder.id = id := Table.find?_key found
      exact .inr ⟨folder,Table.mem_of_find? found,by rw [folderEntry,has,Option.map_some,key]⟩

theorem assigneeOf_updateVirtualPath (owner other : VirtualOwner) (virtualPath : Option String) (db : Db) :
    assigneeOf other (updateVirtualPath owner virtualPath db) =
      if other = owner then (assigneeOf owner db).map (fun assignee => { assignee with virtualPath })
      else assigneeOf other db := by
  cases owner with
  | file id =>
    cases other with
    | file otherId =>
      simp only [assigneeOf,updateVirtualPath,Db.updateTrackedFileVirtualPath,Db.find?_updateTrackedFile,
        VirtualOwner.file.injEq]
      split
      · rename_i same
        subst same
        cases db.trackedFiles.find? otherId <;> rfl
      · cases db.trackedFiles.find? otherId <;> rfl
    | folder otherId => rfl
  | folder id =>
    cases other with
    | file otherId => rfl
    | folder otherId =>
      simp only [assigneeOf,updateVirtualPath,Db.updateTrackedFolderVirtualPath,Db.updateFolderWhere,
        Table.find?_updateWhere,VirtualOwner.folder.injEq]
      cases found : db.trackedFolders.find? otherId with
      | none =>
        split
        · rename_i same
          rw [← same,found]
          rfl
        · rfl
      | some folder =>
        have key : folder.id = otherId := Table.find?_key found
        split
        · rename_i same
          subst same
          rw [found]
          simp [key]
        · rename_i apart
          simp [key,apart]

theorem mem_virtualEntries_update {owner : VirtualOwner} {virtualPath : Option String} {db : Db} {entry : VirtualEntry} :
    entry ∈ virtualEntries (updateVirtualPath owner virtualPath db) ↔
      (entry.owner ≠ owner ∧ entry ∈ virtualEntries db) ∨ (entry.owner = owner ∧ virtualPath = some entry.virtualPath ∧
        ∃ before, assigneeOf owner db = some ⟨entry.drivePairId,before,entry.relativePath⟩) := by
  rw [mem_virtualEntries,mem_virtualEntries,assigneeOf_updateVirtualPath]
  by_cases own : entry.owner = owner
  · rw [if_pos own,Option.map_eq_some_iff]
    constructor
    · rintro ⟨⟨pairId,before,relative⟩,found,same⟩
      cases same
      exact .inr ⟨own,rfl,before,found⟩
    · rintro (⟨apart,_⟩ | ⟨_,rfl,before,found⟩)
      · exact absurd own apart
      · exact ⟨_,found,rfl⟩
  · rw [if_neg own]
    constructor
    · exact fun found => .inl ⟨own,found⟩
    · rintro (⟨_,found⟩ | ⟨same,_⟩)
      · exact found
      · exact absurd same own

/-! Paths that one pass leaves as they are. -/

/-- What one pass makes of a path none of whose components becomes a dot by it. -/
def Dotless (path : String) : Prop :=
  ∃ segments, segments ≠ [] ∧ path = String.ofList (joinSegments segments) ∧
    ∀ segment ∈ segments, Plain segment ∧ segment ≠ ['.']

/-- No component of the given path is a dot between blanks. -/
def Undotted (given : String) : Prop :=
  ∀ segment ∈ (trim given.toList).splitOn '/', trim segment = ['.'] → segment = ['.']

theorem normalizeSegments_undotted {given : String} {parts segments : List (List Char)}
    (ok : normalizeSegments given parts = .ok segments) (undotted : ∀ part ∈ parts, trim part = ['.'] → part = ['.']) :
    ['.'] ∉ segments := by
  induction parts generalizing segments with
  | nil =>
    cases ok
    exact List.not_mem_nil
  | cons part parts ih =>
    obtain ⟨first,later⟩ := List.forall_mem_cons.mp undotted
    unfold normalizeSegments at ok
    split at ok
    · exact ih ok later
    · rename_i kept
      split at ok
      · cases ok
      · split at ok
        · cases ok
        · cases rest : normalizeSegments given parts with
          | error message =>
            rw [rest] at ok
            cases ok
          | ok others =>
            rw [rest] at ok
            cases ok
            rw [List.mem_cons]
            rintro (dot | member)
            · exact kept (.inr (first dot.symm))
            · exact ih rest later member

theorem dotless_of_normalize {given path : String} (undotted : Undotted given)
    (ok : normalizeVirtualPath given = .ok path) : Dotless path := by
  obtain ⟨segments,parsed,nonempty,rfl⟩ := normalizeVirtualPath_ok ok
  have plain := plain_of_normalizeSegments parsed fun part member => no_slash_of_mem_splitOn member
  have dotless := normalizeSegments_undotted parsed undotted
  exact ⟨segments,nonempty,rfl,fun segment member => ⟨plain segment member,fun dot => dotless (dot ▸ member)⟩⟩

theorem Dotless.normalize {path again : String} (dotless : Dotless path)
    (ok : normalizeVirtualPath path = .ok again) : again = path := by
  obtain ⟨segments,nonempty,rfl,clean⟩ := dotless
  have plain : ∀ segment ∈ segments, Plain segment := fun segment member => (clean segment member).1
  obtain ⟨kept,parsed,_,rfl⟩ := normalizeVirtualPath_ok ok
  rw [String.toList_ofList,trim_joinSegments nonempty plain,splitOn_joinSegments nonempty plain,normalizeSegments,
    if_pos (.inl rfl)] at parsed
  obtain ⟨_,rfl⟩ := normalizeSegments_of_plain plain parsed
  rw [List.filter_eq_self.mpr]
  exact fun segment member => decide_eq_true (clean segment member).2

/-! Overlap. -/

/-- Equal, or one an ancestor of the other, component by component. -/
def Overlaps (left right : String) : Prop := linkKey left <+: linkKey right ∨ linkKey right <+: linkKey left

theorem Overlaps.symm {left right : String} (overlaps : Overlaps left right) : Overlaps right left := Or.symm overlaps

theorem joinSegments_prefix {segments others : List (List Char)} (nonempty : segments ≠ [])
    (inside : segments <+: others) :
    joinSegments segments = joinSegments others ∨ joinSegments segments ++ ['/'] <+: joinSegments others := by
  obtain ⟨rest,rfl⟩ := inside
  cases rest with
  | nil =>
    left
    rw [List.append_nil]
  | cons segment rest =>
    right
    rw [joinSegments_eq nonempty,joinSegments_eq (List.append_ne_nil_of_left_ne_nil nonempty _),List.flatMap_append,
      List.flatMap_cons]
    refine ⟨segment ++ rest.flatMap (List.cons '/'),?_⟩
    simp only [List.append_assoc,List.cons_append,List.nil_append]

theorem pathsOverlap_of_overlaps {left right : String} (leftDotless : Dotless left) (rightDotless : Dotless right)
    (overlaps : Overlaps left right) : pathsOverlap left right = true := by
  obtain ⟨segments,nonempty,rfl,clean⟩ := leftDotless
  obtain ⟨others,othersNonempty,rfl,othersClean⟩ := rightDotless
  rw [Overlaps,linkKey_joinSegments nonempty clean,linkKey_joinSegments othersNonempty othersClean] at overlaps
  simp only [pathsOverlap,String.toList_ofList,Bool.or_eq_true,beq_iff_eq,List.isPrefixOf_iff_prefix]
  rcases overlaps with inside | inside
  · rcases joinSegments_prefix nonempty inside with same | continued
    · exact .inl (.inl (congrArg String.ofList same))
    · exact .inr continued
  · rcases joinSegments_prefix othersNonempty inside with same | continued
    · exact .inl (.inl (congrArg String.ofList same.symm))
    · exact .inl (.inr continued)

theorem validated_apart {calls : LinkCalls} {db : Db} {owner : VirtualOwner} {given normalized : String}
    {tree : VirtualTree} (ok : validateVirtualPath calls db owner given tree = .ok normalized) :
    normalizeVirtualPath given = .ok normalized ∧ ∀ entry ∈ virtualEntries db, entry.owner ≠ owner →
      ∃ path, normalizeVirtualPath entry.virtualPath = .ok path ∧ pathsOverlap path normalized = false := by
  unfold validateVirtualPath at ok
  cases first : normalizeVirtualPath given with
  | error message =>
    rw [first] at ok
    cases ok
  | ok path =>
    cases collected : collectVirtualReservations db with
    | error message =>
      rw [first,collected] at ok
      cases ok
    | ok reservations =>
      cases checked : checkReservations owner path reservations with
      | error message =>
        simp only [bind,Except.bind,first,collected,checked] at ok
        cases ok
      | ok _ =>
        simp only [bind,Except.bind,first,collected,checked] at ok
        have same : path = normalized := by
          split at ok
          · unfold checkExisting at ok
            split at ok
            · exact Except.ok.inj ok
            · cases ok
            · split at ok
              · exact Except.ok.inj ok
              · cases ok
          · cases ok
        subst same
        refine ⟨rfl,fun entry member other => ?_⟩
        obtain ⟨reservation,present,reserved⟩ := Passes.mem_mapM collected member
        cases normal : normalizeVirtualPath entry.virtualPath with
        | error message =>
          simp only [bind,Except.bind,normal] at reserved
          cases reserved
        | ok reservedPath =>
          simp only [bind,Except.bind,normal,pure,Except.pure,Except.ok.injEq] at reserved
          subst reserved
          exact ⟨reservedPath,rfl,checkReservations_ok checked _ present other⟩

/-! What a call does to the rows. -/

/-- The rows keep the columns that links depend on. -/
def AssigneesKept (s t : Linked) : Prop := ∀ owner, assigneeOf owner t.world.db = assigneeOf owner s.world.db

instance : IsPreorder Linked AssigneesKept where
  refl _ _ := rfl
  trans _ _ _ first second owner := (second owner).trans (first owner)

theorem assigneeOf_setsFlags {flag : TrackedFile → Bool} {db next : Db} (flags : Db.SetsFlags flag db next)
    (folders : next.trackedFolders = db.trackedFolders) (owner : VirtualOwner) :
    assigneeOf owner next = assigneeOf owner db := by
  cases owner with
  | file id =>
    rw [assigneeOf,assigneeOf,flags id,Option.map_map]
    rfl
  | folder id => rw [assigneeOf,assigneeOf,folders]

theorem assigneeOf_operational (db : Db) (disk : Disk) (pair : DrivePair) (owner : VirtualOwner) :
    assigneeOf owner (db.operational disk pair) = assigneeOf owner db := by
  obtain ⟨_,flags,_⟩ := setsFlags_operational db disk pair
  apply assigneeOf_setsFlags flags
  unfold Db.operational
  split <;> rfl

theorem after_loadOperationalPair (pairId : Nat) (w : World) :
    after (BitProtector.loadOperationalPair pairId) w = w ∨ ∃ pair, w.db.getDrivePair pairId = .ok pair ∧
      after (BitProtector.loadOperationalPair pairId) w = { w with db := w.db.operational w.disk pair } := by
  cases read : w.db.getDrivePair pairId with
  | error message =>
    left
    exact after_bind_of_error (show Act.query (fun db => db.getDrivePair pairId) w = .error message w by
      simp only [Act.query,read]) _
  | ok pair => exact .inr ⟨pair,rfl,after_of_ok (loadOperationalPair_run read)⟩

theorem assigneesKept_load (calls : LinkCalls) (pairId : Nat) :
    Keeps AssigneesKept (VirtualRetarget.loadOperationalPair calls pairId) := by
  intro s owner
  rw [(erases_loadOperationalPair calls pairId).after s]
  rcases after_loadOperationalPair pairId s.world with still | ⟨pair,_,loaded⟩
  · rw [still]
  · rw [loaded]
    exact assigneeOf_operational s.world.db s.world.disk pair owner

theorem assigneesKept_query {α : Type} (read : Db → Except String α) :
    Keeps AssigneesKept (inWorld (Act.query read)) := by
  intro s owner
  rw [(erases_inWorld (Act.query read)).after s,Act.after_query]

theorem after_onLinks {α : Type} (x : LinkAct α) (s : Linked) :
    after (onLinks x) s = { s with links := after x s.links } := by
  unfold after onLinks
  cases x s.links <;> rfl

theorem assigneesKept_onLinks {α : Type} (x : LinkAct α) : Keeps AssigneesKept (onLinks x) := by
  intro s owner
  rw [after_onLinks]

theorem assigneesKept_removePrevious (calls : LinkCalls) (normalized : String) (previous : Option String) :
    Keeps AssigneesKept (removePrevious calls normalized previous) := by
  cases previous with
  | none => exact keeps_pure _
  | some path =>
    by_cases same : path = normalized
    · rw [removePrevious,if_pos same]
      exact keeps_pure _
    · rw [removePrevious,if_neg same]
      exact assigneesKept_onLinks _

/-- A written row: at most the path of its owner is another one. -/
structure Written (owner : VirtualOwner) (virtualPath : Option String) (s t : Linked) : Prop where
  rows : ∀ other, assigneeOf other t.world.db = assigneeOf other (updateVirtualPath owner virtualPath s.world.db)

theorem Written.after {owner : VirtualOwner} {virtualPath : Option String} {s u v t : Linked} (before : AssigneesKept s u)
    (written : Written owner virtualPath u v) (later : AssigneesKept v t) : Written owner virtualPath s t := by
  constructor
  intro other
  rw [later other,written.rows other,assigneeOf_updateVirtualPath,assigneeOf_updateVirtualPath,before owner,before other]

theorem assign_rows (calls : LinkCalls) (owner : VirtualOwner) (given : String) (s : Linked) :
    AssigneesKept s (after (assignVirtualPath calls owner given) s) ∨
      ∃ db tree normalized, (∀ other, assigneeOf other db = assigneeOf other s.world.db) ∧
        validateVirtualPath calls db owner given tree = .ok normalized ∧
        Written owner (some normalized) s (after (assignVirtualPath calls owner given) s) := by
  unfold assignVirtualPath
  rcases after_bind_cases (inWorld (Act.query (getAssignee owner))) _ s with
    ⟨message,read⟩ | ⟨assignee,t,read,ends⟩
  · have kept := assigneesKept_query (getAssignee owner) s
    rw [after_of_error read] at kept
    exact .inl kept
  · rw [ends]
    obtain rfl := query_still read
    rcases after_bind_cases (VirtualRetarget.loadOperationalPair calls assignee.drivePairId) _ t with
      ⟨message,loaded⟩ | ⟨pair,u,loaded,ends⟩
    · have kept := assigneesKept_load calls assignee.drivePairId t
      rw [after_of_error loaded] at kept
      exact .inl kept
    · have kept := assigneesKept_load calls assignee.drivePairId t
      rw [after_of_ok loaded] at kept
      rw [ends]
      cases valid : validateVirtualPath calls u.world.db owner given u.links with
      | error message =>
        have refused : validated calls owner given u = .error message u := by rw [validated,valid]
        rw [after_bind_of_error refused]
        exact .inl kept
      | ok normalized =>
        have passed : validated calls owner given u = .ok normalized u := by rw [validated,valid]
        rw [after_bind_of_ok passed]
        rcases after_bind_cases (inWorld (Act.query fun _ => previousPath assignee.virtualPath)) _ u with
          ⟨message,normal⟩ | ⟨previous,v,normal,ends⟩
        · have still := assigneesKept_query (fun _ => previousPath assignee.virtualPath) u
          rw [after_of_error normal] at still
          exact .inl (trans_of AssigneesKept kept still)
        · rw [ends]
          obtain rfl := query_still normal
          have linked := assigneesKept_onLinks (createSymlink calls normalized
            (pair.copyOn pair.activeRole assignee.relativePath) (previous == some normalized)) v
          rcases after_bind_cases (onLinks (createSymlink calls normalized
              (pair.copyOn pair.activeRole assignee.relativePath) (previous == some normalized))) _ v with
            ⟨message,created⟩ | ⟨_,x,created,ends⟩
          · rw [after_of_error created] at linked
            exact .inl (trans_of AssigneesKept kept linked)
          · rw [after_of_ok created] at linked
            refine .inr ⟨v.world.db,v.links,normalized,kept,valid,?_⟩
            rw [ends]
            exact Written.after (trans_of AssigneesKept kept linked) ⟨fun _ => rfl⟩
              (assigneesKept_removePrevious calls normalized previous _)

theorem release_rows (calls : LinkCalls) (owner : VirtualOwner) (virtualPath : String) (s : Linked) :
    AssigneesKept s (after (releaseVirtualPath calls owner virtualPath) s) ∨
      Written owner none s (after (releaseVirtualPath calls owner virtualPath) s) := by
  unfold releaseVirtualPath
  rcases after_bind_cases (inWorld (Act.query fun _ => normalizeVirtualPath virtualPath)) _ s with
    ⟨message,normal⟩ | ⟨normalized,t,normal,ends⟩
  · have kept := assigneesKept_query (fun _ => normalizeVirtualPath virtualPath) s
    rw [after_of_error normal] at kept
    exact .inl kept
  · rw [ends]
    obtain rfl := query_still normal
    exact .inr (Written.after (refl_of AssigneesKept t) ⟨fun _ => rfl⟩ (assigneesKept_onLinks _ _))

theorem remove_rows (calls : LinkCalls) (owner : VirtualOwner) (absent : LinkedAct Unit)
    (still : ∀ s, after absent s = s) (s : Linked) :
    let x : LinkedAct Unit := do
      let assignee ← inWorld (Act.query (getAssignee owner))
      match assignee.virtualPath with
      | none => absent
      | some virtualPath => releaseVirtualPath calls owner virtualPath
    AssigneesKept s (after x s) ∨ Written owner none s (after x s) := by
  intro x
  rcases after_bind_cases (inWorld (Act.query (getAssignee owner))) _ s with
    ⟨message,read⟩ | ⟨assignee,t,read,ends⟩
  · have kept := assigneesKept_query (getAssignee owner) s
    rw [after_of_error read] at kept
    exact .inl kept
  · obtain rfl := query_still read
    rw [show after x t = _ from ends]
    cases assignee.virtualPath with
    | none =>
      left
      rw [still]
      exact refl_of AssigneesKept t
    | some virtualPath => exact release_rows calls owner virtualPath t

/-! Runs of the four calls. -/

inductive Call
  | setVirtualPath (fileId : Nat) (virtualPath : String)
  | removeVirtualPath (fileId : Nat)
  | setFolderVirtualPath (folderId : Nat) (virtualPath : String)
  | removeFolderVirtualPath (folderId : Nat)

namespace Call

def run (calls : LinkCalls) : Call → LinkedAct Unit
  | .setVirtualPath fileId virtualPath => VirtualAssignment.setVirtualPath calls fileId virtualPath
  | .removeVirtualPath fileId => VirtualAssignment.removeVirtualPath calls fileId
  | .setFolderVirtualPath folderId virtualPath => VirtualAssignment.setFolderVirtualPath calls folderId virtualPath
  | .removeFolderVirtualPath folderId => VirtualAssignment.removeFolderVirtualPath calls folderId

/-- The path that a call asks for. -/
def given : Call → Option String
  | .setVirtualPath _ virtualPath | .setFolderVirtualPath _ virtualPath => some virtualPath
  | .removeVirtualPath _ | .removeFolderVirtualPath _ => none

end Call

/-- A call, and what the drives and the virtual tree hold by then. -/
structure Moment where
  disk : Disk
  links : VirtualTree
  calls : LinkCalls
  call : Call

def Moment.seen (moment : Moment) (s : Linked) : Linked := ⟨{ s.world with disk := moment.disk },moment.links⟩

def step (moment : Moment) (s : Linked) : Option Linked :=
  some (after (moment.call.run moment.calls) (moment.seen s))

def machine : Machine Linked Moment := ⟨step⟩

/-- No two owners have paths that overlap. -/
def Apart (db : Db) : Prop :=
  ∀ entry ∈ virtualEntries db, ∀ other ∈ virtualEntries db, entry.owner ≠ other.owner →
    ¬Overlaps entry.virtualPath other.virtualPath

structure Assigned (db : Db) : Prop where
  dotless : ∀ entry ∈ virtualEntries db, Dotless entry.virtualPath
  apart : Apart db

theorem virtualEntries_of_kept {db next : Db} (kept : ∀ owner, assigneeOf owner next = assigneeOf owner db)
    (entry : VirtualEntry) : entry ∈ virtualEntries next ↔ entry ∈ virtualEntries db := by
  rw [mem_virtualEntries,mem_virtualEntries,kept]

theorem Assigned.kept {db next : Db} (assigned : Assigned db)
    (kept : ∀ owner, assigneeOf owner next = assigneeOf owner db) : Assigned next := by
  constructor
  · intro entry member
    exact assigned.dotless entry ((virtualEntries_of_kept kept entry).mp member)
  · intro entry member other present
    exact assigned.apart entry ((virtualEntries_of_kept kept entry).mp member) other
      ((virtualEntries_of_kept kept other).mp present)

theorem Assigned.released {db : Db} (assigned : Assigned db) (owner : VirtualOwner) :
    Assigned (updateVirtualPath owner none db) := by
  have before {entry : VirtualEntry} (member : entry ∈ virtualEntries (updateVirtualPath owner none db)) :
      entry ∈ virtualEntries db := by
    rcases mem_virtualEntries_update.mp member with ⟨_,old⟩ | ⟨_,impossible,_⟩
    · exact old
    · cases impossible
  exact ⟨fun entry member => assigned.dotless entry (before member),
    fun entry member other present => assigned.apart entry (before member) other (before present)⟩

theorem Assigned.updated {db : Db} (assigned : Assigned db) {calls : LinkCalls} {owner : VirtualOwner}
    {given normalized : String} {tree : VirtualTree} (undotted : Undotted given)
    (valid : validateVirtualPath calls db owner given tree = .ok normalized) :
    Assigned (updateVirtualPath owner (some normalized) db) := by
  obtain ⟨normal,compared⟩ := validated_apart valid
  have fresh := dotless_of_normalize undotted normal
  have apart (entry : VirtualEntry) (old : entry ∈ virtualEntries db) (other : entry.owner ≠ owner) :
      ¬Overlaps entry.virtualPath normalized := by
    intro overlaps
    obtain ⟨path,again,clear⟩ := compared entry old other
    obtain rfl := (assigned.dotless entry old).normalize again
    rw [pathsOverlap_of_overlaps (assigned.dotless entry old) fresh overlaps] at clear
    cases clear
  constructor
  · intro entry member
    rcases mem_virtualEntries_update.mp member with ⟨_,old⟩ | ⟨_,path,_⟩
    · exact assigned.dotless entry old
    · rw [← Option.some.inj path]
      exact fresh
  · intro entry member other present owners
    rcases mem_virtualEntries_update.mp member with ⟨foreign,old⟩ | ⟨own,path,_⟩
    · rcases mem_virtualEntries_update.mp present with ⟨_,otherOld⟩ | ⟨_,path,_⟩
      · exact assigned.apart entry old other otherOld owners
      · rw [← Option.some.inj path]
        exact apart entry old foreign
    · rcases mem_virtualEntries_update.mp present with ⟨foreign,otherOld⟩ | ⟨otherOwn,_,_⟩
      · rw [← Option.some.inj path]
        exact fun overlaps => apart other otherOld foreign overlaps.symm
      · exact absurd (own.trans otherOwn.symm) owners

theorem Assigned.assign {s : Linked} (assigned : Assigned s.world.db) (calls : LinkCalls) (owner : VirtualOwner)
    {given : String} (undotted : Undotted given) :
    Assigned (after (assignVirtualPath calls owner given) s).world.db := by
  rcases assign_rows calls owner given s with kept | ⟨db,tree,normalized,same,valid,written⟩
  · exact assigned.kept kept
  · refine ((assigned.kept same).updated undotted valid).kept fun other => ?_
    rw [written.rows,assigneeOf_updateVirtualPath,assigneeOf_updateVirtualPath,same,same]

theorem Assigned.call {s : Linked} (assigned : Assigned s.world.db) (calls : LinkCalls) {call : Call}
    (undotted : ∀ given, call.given = some given → Undotted given) :
    Assigned (after (call.run calls) s).world.db := by
  have released {owner : VirtualOwner} {t : Linked} (rows : AssigneesKept s t ∨ Written owner none s t) :
      Assigned t.world.db := by
    rcases rows with kept | written
    · exact assigned.kept kept
    · exact (assigned.released owner).kept written.rows
  cases call with
  | setVirtualPath fileId virtualPath => exact assigned.assign calls (.file fileId) (undotted virtualPath rfl)
  | removeVirtualPath fileId => exact released (remove_rows calls (.file fileId) _ (fun _ => rfl) s)
  | setFolderVirtualPath folderId virtualPath =>
    exact assigned.assign calls (.folder folderId) (undotted virtualPath rfl)
  | removeFolderVirtualPath folderId => exact released (remove_rows calls (.folder folderId) _ (fun _ => rfl) s)

/-- As long as no component of a given path is a dot between blanks, no two owners ever have paths that
overlap, whatever becomes of the drives and the virtual tree meanwhile. -/
theorem virtual_paths_apart {s t : Linked} (fresh : virtualEntries s.world.db = [])
    (reached : machine.Reaches (fun moment _ => ∀ given, moment.call.given = some given → Undotted given) s t) :
    Apart t.world.db := by
  have assigned : Assigned t.world.db := by
    apply reached.invariant
    · constructor
      · intro entry member
        rw [fresh] at member
        cases member
      · intro entry member
        rw [fresh] at member
        cases member
    · intro moment before after held undotted taken
      cases taken
      exact Assigned.call (s := moment.seen before) held moment.calls undotted
  exact assigned.apart

/-! A folder and a file of one pair. -/

theorem key_firstPair (id : Nat) : Keyed.key (firstPair id) = id := rfl

def freeFolder (id : Nat) : TrackedFolder :=
  ⟨id,1,"photos",none,false,false,0,0,false,false,0,0⟩

theorem key_freeFolder (id : Nat) : Keyed.key (freeFolder id) = id := rfl

def freeFile (id : Nat) : TrackedFile := ⟨id,1,"notes","",0,none,true,true,false,none⟩

theorem key_freeFile (id : Nat) : Keyed.key (freeFile id) = id := rfl

def freeRows : Linked where
  world := ⟨{ Db.empty with
      drivePairs := Table.empty.insert firstPair key_firstPair
      trackedFiles := Table.empty.insert freeFile key_freeFile
      trackedFolders := Table.empty.insert freeFolder key_freeFolder },⟨fun _ => none,fun _ => true⟩⟩
  links := fun _ => none

/-- A call when nobody else touches the drives or the virtual tree. -/
def Moment.next (call : Call) (s : Linked) : Moment := ⟨s.world.disk,s.links,.healthy,call⟩

def afterCalls (calls : List Call) (s : Linked) : Linked :=
  calls.foldl (fun s call => after (call.run .healthy) s) s

theorem step_afterCalls (calls : List Call) (call : Call) (s : Linked) :
    step (.next call (afterCalls calls s)) (afterCalls calls s) = some (afterCalls (calls ++ [call]) s) := by
  rw [afterCalls,afterCalls,List.foldl_append]
  rfl

theorem virtual_paths_apart_freeRows :
    Apart (afterCalls [.setFolderVirtualPath 1 "/a/b",.setVirtualPath 1 "/a/b/c"] freeRows).world.db := by
  have clean {given : String} (parts : ∀ segment ∈ (trim given.toList).splitOn '/', trim segment ≠ ['.']) :
      Undotted given := fun segment member dot => absurd dot (parts segment member)
  have first : Undotted "/a/b" := clean (by decide)
  have second : Undotted "/a/b/c" := clean (by decide)
  refine virtual_paths_apart (s := freeRows) rfl (.step _ (.step _ .start ?_ (step_afterCalls [] _ _)) ?_
    (step_afterCalls [.setFolderVirtualPath 1 "/a/b"] _ _))
  · intro given same
    cases same
    exact first
  · intro given same
    cases same
    exact second

/-- A dot between blanks is stored as a dot, read back without it, and so compared with the wrong path. -/
theorem blank_dot_overlaps :
    ¬ ∀ s t : Linked, virtualEntries s.world.db = [] →
      machine.Reaches (fun moment s => moment.disk = s.world.disk ∧ moment.links = s.links) s t → Apart t.world.db := by
  intro apart
  have reached : machine.Reaches (fun moment s => moment.disk = s.world.disk ∧ moment.links = s.links) freeRows
      (afterCalls [.setFolderVirtualPath 1 "/a/ . /b",.setVirtualPath 1 "/a/ . /b/c"] freeRows) :=
    .step _ (.step _ .start ⟨rfl,rfl⟩ (step_afterCalls [] _ _)) ⟨rfl,rfl⟩
      (step_afterCalls [.setFolderVirtualPath 1 "/a/ . /b"] _ _)
  have rows : virtualEntries
      (afterCalls [.setFolderVirtualPath 1 "/a/ . /b",.setVirtualPath 1 "/a/ . /b/c"] freeRows).world.db =
        [⟨.file 1,1,"/a/./b/c","notes"⟩,⟨.folder 1,1,"/a/./b","photos"⟩] := by decide +kernel
  have overlap := apart freeRows _ rfl reached ⟨.file 1,1,"/a/./b/c","notes"⟩ (by rw [rows]; exact List.mem_cons_self)
    ⟨.folder 1,1,"/a/./b","photos"⟩ (by rw [rows]; exact List.mem_cons_of_mem _ List.mem_cons_self) (by decide)
  exact overlap (.inr (by decide +kernel))

end BitProtector.VirtualAssignment
