import BitProtector.VirtualAssignment

/-! What a failed change of a virtual path leaves, when any system call may fail at any stage
and the database may refuse any statement. A new link that the database does not take is
removed again; nothing else is undone. -/
namespace BitProtector.AssignmentErrors
open Effect VirtualPath VirtualRetarget VirtualAssignment

/-- The statements of a call, those of a failover among them. -/
inductive Statement
  | getAssignee
  | getDrivePair
  | updateRoleState
  | updateActiveRole
  | getUpdatedPair
  | markDrivePairUnmirrored
  | failPendingSyncQueue
  | collectMappings
  | getFailedOverPair
  | collectReservations
  | updateVirtualPath
  | getUpdatedFolder
  deriving DecidableEq, Repr

/-- What one call is answered. The same path may be answered differently at each stage. -/
structure Answers where
  lets : Statement → Bool
  refresh : LinkCalls
  validation : LinkCalls
  creation : LinkCalls
  undo : LinkCalls
  removal : LinkCalls

def statement {α : Type} (answers : Answers) (which : Statement) (x : Act α) : LinkedAct α := do
  inWorld (Act.ensure (answers.lets which) "database error")
  inWorld x

def refreshed (answers : Answers) (pair : DrivePair) : LinkedAct Unit := do
  inWorld (Act.ensure (answers.lets .collectMappings) "database error")
  refreshPairVirtualPaths answers.refresh pair

def maybeEmergencyFailover (answers : Answers) (pair : DrivePair) : LinkedAct DrivePair := do
  if !(← inWorld (Act.look (fun disk => emergencyFailoverDue disk pair))) then pure pair
  else
    statement answers .updateRoleState (Act.execute (fun db => db.updateDrivePairRuntime pair.id none none
      (forRole pair.activeRole .primary .failed) (forRole pair.activeRole .secondary .failed) none))
    statement answers .updateActiveRole (Act.execute (fun db => db.updateDrivePairRuntime pair.id none none none none
      (some pair.standbyRole)))
    let updated ← statement answers .getUpdatedPair (Act.query (fun db => db.getDrivePair pair.id))
    statement answers .markDrivePairUnmirrored (Act.execute (fun db => db.markDrivePairUnmirrored pair.id))
    let _ ← attempt (statement answers .failPendingSyncQueue (Act.execute (fun db =>
      db.failPendingSyncQueueForDrivePair pair.id "drive failover required after fatal root error")))
    let _ ← attempt (refreshed answers updated)
    statement answers .getFailedOverPair (Act.query (fun db => db.getDrivePair pair.id))

def loadOperationalPair (answers : Answers) (pairId : Nat) : LinkedAct DrivePair := do
  let pair ← statement answers .getDrivePair (Act.query (fun db => db.getDrivePair pairId))
  maybeEmergencyFailover answers pair

/-- The normal form is taken before the reservations are read. -/
def validated (answers : Answers) (owner : VirtualOwner) (virtualPath : String) : LinkedAct String := do
  let _ ← inWorld (Act.query (fun _ => normalizeVirtualPath virtualPath))
  inWorld (Act.ensure (answers.lets .collectReservations) "database error")
  VirtualAssignment.validated answers.validation owner virtualPath

/-- What is checked before the disk is touched: the new path and the one before, both in their normal form. -/
def prepared (answers : Answers) (owner : VirtualOwner) (virtualPath : String) (assignee : Assignee) :
    LinkedAct (String × Option String) := do
  let normalized ← validated answers owner virtualPath
  let previous ← inWorld (Act.query (fun _ => previousPath assignee.virtualPath))
  pure (normalized,previous)

/-- The row of a folder is read back after it is written. -/
def storeVirtualPath (answers : Answers) : VirtualOwner → Option String → LinkedAct Unit
  | .file id, virtualPath =>
    statement answers .updateVirtualPath (Act.execute (fun db => db.updateTrackedFileVirtualPath id virtualPath))
  | .folder id, virtualPath => do
    statement answers .updateVirtualPath (Act.execute (fun db => db.updateTrackedFolderVirtualPath id virtualPath))
    let _ ← statement answers .getUpdatedFolder (Act.query (fun db => db.getTrackedFolder id))

/-- The row is written after the link; a new link goes again when the row was not taken. -/
def storeOrUndo (answers : Answers) (owner : VirtualOwner) (normalized : String) (replacingSamePath : Bool) :
    LinkedAct Unit := do
  match ← attempt (storeVirtualPath answers owner (some normalized)) with
  | .ok () => pure ()
  | .error message => do
    if !replacingSamePath then
      let _ ← attempt (onLinks (removeSymlink answers.undo normalized))
    throw message

def assignPrepared (answers : Answers) (owner : VirtualOwner) (real : Location) (normalized : String)
    (previous : Option String) : LinkedAct Unit := do
  onLinks (createSymlink answers.creation normalized real (previous == some normalized))
  storeOrUndo answers owner normalized (previous == some normalized)
  removePrevious answers.removal normalized previous

def assignVirtualPath (answers : Answers) (owner : VirtualOwner) (virtualPath : String) : LinkedAct Unit := do
  let assignee ← statement answers .getAssignee (Act.query (getAssignee owner))
  let pair ← loadOperationalPair answers assignee.drivePairId
  let paths ← prepared answers owner virtualPath assignee
  assignPrepared answers owner (pair.copyOn pair.activeRole assignee.relativePath) paths.1 paths.2

def setVirtualPath (answers : Answers) (fileId : Nat) (virtualPath : String) : LinkedAct Unit :=
  assignVirtualPath answers (.file fileId) virtualPath

def setFolderVirtualPath (answers : Answers) (folderId : Nat) (virtualPath : String) : LinkedAct Unit :=
  assignVirtualPath answers (.folder folderId) virtualPath

def releaseVirtualPath (answers : Answers) (owner : VirtualOwner) (virtualPath : String) : LinkedAct Unit := do
  let normalized ← inWorld (Act.query (fun _ => normalizeVirtualPath virtualPath))
  storeVirtualPath answers owner none
  onLinks (removeSymlink answers.removal normalized)

def removeVirtualPath (answers : Answers) (fileId : Nat) : LinkedAct Unit := do
  let file ← statement answers .getAssignee (Act.query (getAssignee (.file fileId)))
  match file.virtualPath with
  | none => inWorld (Act.bail s!"File #{fileId} has no virtual path assigned")
  | some virtualPath => releaseVirtualPath answers (.file fileId) virtualPath

def removeFolderVirtualPath (answers : Answers) (folderId : Nat) : LinkedAct Unit := do
  let folder ← statement answers .getAssignee (Act.query (getAssignee (.folder folderId)))
  match folder.virtualPath with
  | none => pure ()
  | some virtualPath => releaseVirtualPath answers (.folder folderId) virtualPath

inductive Operation
  | setVirtualPath (fileId : Nat) (virtualPath : String)
  | removeVirtualPath (fileId : Nat)
  | setFolderVirtualPath (folderId : Nat) (virtualPath : String)
  | removeFolderVirtualPath (folderId : Nat)
  deriving DecidableEq, Repr

def Operation.run (answers : Answers) : Operation → LinkedAct Unit
  | .setVirtualPath id virtualPath => AssignmentErrors.setVirtualPath answers id virtualPath
  | .removeVirtualPath id => AssignmentErrors.removeVirtualPath answers id
  | .setFolderVirtualPath id virtualPath => AssignmentErrors.setFolderVirtualPath answers id virtualPath
  | .removeFolderVirtualPath id => AssignmentErrors.removeFolderVirtualPath answers id

/-! Where no statement is refused, these are the calls of the other modules. -/

/-- Every statement is taken, and the system answers alike at every stage. -/
def Answers.steady (calls : LinkCalls) : Answers := ⟨fun _ => true,calls,calls,calls,calls,calls⟩

section
variable (calls : LinkCalls)

theorem inWorld_bind {α β : Type} (x : Act α) (f : α → Act β) : inWorld (x >>= f) = (inWorld x >>= fun a => inWorld (f a)) := by
  funext s
  rw [bind_apply,inWorld,inWorld,bind_apply]
  cases ran : x s.world with
  | error message w => rfl
  | ok a w =>
    dsimp only
    rw [inWorld]

theorem statement_steady {α : Type} (which : Statement) (x : Act α) :
    statement (.steady calls) which x = inWorld x := by
  funext s
  rfl

theorem maybeEmergencyFailover_steady (pair : DrivePair) :
    maybeEmergencyFailover (.steady calls) pair = VirtualRetarget.maybeEmergencyFailover calls pair := by
  have runtime {β : Type} (f : DrivePair → LinkedAct β) :
      (do inWorld (Act.execute (fun db => db.updateDrivePairRuntime pair.id none none
            (forRole pair.activeRole .primary .failed) (forRole pair.activeRole .secondary .failed) none))
          inWorld (Act.execute (fun db => db.updateDrivePairRuntime pair.id none none none none (some pair.standbyRole)))
          let updated ← inWorld (Act.query (fun db => db.getDrivePair pair.id))
          f updated) =
        (do let updated ← inWorld (updateRuntime pair.id none none (forRole pair.activeRole .primary .failed)
              (forRole pair.activeRole .secondary .failed) (some pair.standbyRole))
            f updated) := by
    rw [updateRuntime,inWorld_bind,bind_assoc]
    funext s
    simp only [bind_apply,inWorld,Act.execute_apply,Db.updateDrivePairRuntime_split]
  have taken {β : Type} (update : Db → Db) (f : LinkedAct β) :
      (do let _ ← attempt (inWorld (Act.execute update))
          f) = (do inWorld (Act.execute update)
                   f) := rfl
  have refreshing {β : Type} (updated : DrivePair) (f : LinkedAct β) :
      (do let _ ← attempt (refreshed (.steady calls) updated)
          f) = (do refreshIgnored calls updated
                   f) := by
    funext s
    have whole : refreshed (.steady calls) updated s = refreshPairVirtualPaths calls updated s := rfl
    rw [bind_apply,attempt,whole,bind_apply,refreshIgnored,bind_apply,attempt]
    cases refreshPairVirtualPaths calls updated s <;> rfl
  unfold maybeEmergencyFailover VirtualRetarget.maybeEmergencyFailover
  simp only [statement_steady,runtime,taken,refreshing]

theorem loadOperationalPair_steady (pairId : Nat) :
    loadOperationalPair (.steady calls) pairId = VirtualRetarget.loadOperationalPair calls pairId := by
  simp only [loadOperationalPair,VirtualRetarget.loadOperationalPair,statement_steady,maybeEmergencyFailover_steady]

theorem validated_steady (owner : VirtualOwner) (virtualPath : String) :
    validated (.steady calls) owner virtualPath = VirtualAssignment.validated calls owner virtualPath := by
  funext s
  unfold validated VirtualAssignment.validated validateVirtualPath
  cases ok : normalizeVirtualPath virtualPath with
  | error message => rfl
  | ok normalized => rfl

theorem removeVirtualPath_steady (fileId : Nat) :
    removeVirtualPath (.steady calls) fileId = VirtualAssignment.removeVirtualPath calls fileId := rfl

end

/-! What a failure must leave alone. -/

/-- Every file and folder has the path it had, and every link stands where it stood. -/
structure Kept (s t : Linked) : Prop where
  rows : ∀ owner, assigneeOf owner t.world.db = assigneeOf owner s.world.db
  links : t.links = s.links

/-! The two steps on the disk. -/

/-- The path is free for a link, or is made so. -/
def clears (calls : LinkCalls) (path : String) (replace : Bool) : Option LinkNode → Bool
  | none => true
  | some .other => false
  | some (.symlink _) => replace && calls.removeFile path

/-- `create_symlink` gets as far as the `symlink` call. -/
def ready (calls : LinkCalls) (path : String) (replace : Bool) (tree : VirtualTree) : Bool :=
  calls.createDirAll path && calls.symlinkMetadata path && clears calls path replace (tree (linkKey path))

/-- `remove_symlink` finds nothing at the path, or a link that goes. -/
def removable (calls : LinkCalls) (path : String) (tree : VirtualTree) : Bool :=
  calls.symlinkMetadata path && clears calls path true (tree (linkKey path))

section
variable {calls : LinkCalls} {path : String} {replace : Bool} {tree : VirtualTree} {target : Location}

theorem inspect_run (looks : calls.symlinkMetadata path = true) : inspect calls path tree = .ok (tree (linkKey path)) tree := by
  rw [inspect,if_pos looks]

theorem ensured_ok {condition : Bool} (holds : condition = true) (message : String) :
    (ensured condition message : LinkAct Unit) tree = .ok () tree := by
  rw [ensured,if_pos holds]
  rfl

theorem ensured_error {condition : Bool} (fails : condition = false) (message : String) :
    (ensured condition message : LinkAct Unit) tree = .error message tree := by
  rw [ensured,if_neg (by simp [fails])]
  rfl

theorem inspect_unseen (looks : calls.symlinkMetadata path = false) :
    inspect calls path tree = .error "Failed to inspect virtual path" tree := by
  rw [inspect,if_neg (by simp [looks])]

theorem createSymlink_refused (refused : ready calls path replace tree = false) :
    ∃ message, createSymlink calls path target replace tree = .error message tree := by
  unfold createSymlink
  cases directory : calls.createDirAll path with
  | false => exact ⟨_,bind_of_error (ensured_error rfl _) _⟩
  | true =>
    rw [bind_of_ok (ensured_ok rfl _)]
    cases looks : calls.symlinkMetadata path with
    | false =>
      exact ⟨_,bind_of_error (inspect_unseen looks) _⟩
    | true =>
      rw [bind_of_ok (inspect_run looks)]
      rw [ready,directory,looks,Bool.true_and,Bool.true_and] at refused
      cases standing : tree (linkKey path) with
      | none =>
        rw [standing] at refused
        cases refused
      | some node =>
        cases node with
        | other => exact ⟨_,rfl⟩
        | symlink old =>
          rw [standing,clears,Bool.and_eq_false_iff] at refused
          dsimp only
          cases allowed : replace with
          | false => exact ⟨_,bind_of_error (ensured_error rfl _) _⟩
          | true =>
            rw [bind_of_ok (ensured_ok rfl _)]
            rcases refused with not | stuck
            · rw [allowed] at not
              cases not
            · exact ⟨_,bind_of_error (ensured_error stuck _) _⟩

theorem createSymlink_ready (goes : ready calls path replace tree = true) :
    createSymlink calls path target replace tree =
      (do ensured (calls.symlink path) "Failed to create symlink"
          place path (some (.symlink target)) : LinkAct Unit) (Function.update tree (linkKey path) none) := by
  rw [ready,Bool.and_eq_true,Bool.and_eq_true] at goes
  obtain ⟨⟨directory,looks⟩,clear⟩ := goes
  unfold createSymlink
  rw [bind_of_ok (ensured_ok directory _),bind_of_ok (inspect_run looks)]
  cases standing : tree (linkKey path) with
  | none =>
    rw [Function.update_eq_self_iff.mpr standing.symm]
  | some node =>
    cases node with
    | other =>
      rw [standing] at clear
      cases clear
    | symlink old =>
      rw [standing,clears,Bool.and_eq_true] at clear
      dsimp only
      rw [bind_of_ok (ensured_ok clear.1 _),bind_of_ok (ensured_ok clear.2 _)]
      rfl

theorem createSymlink_lost (goes : ready calls path replace tree = true) (fails : calls.symlink path = false) :
    createSymlink calls path target replace tree =
      .error "Failed to create symlink" (Function.update tree (linkKey path) none) := by
  rw [createSymlink_ready goes,bind_of_error (ensured_error fails _)]

theorem createSymlink_created (goes : ready calls path replace tree = true) (links : calls.symlink path = true) :
    createSymlink calls path target replace tree =
      .ok () (Function.update tree (linkKey path) (some (.symlink target))) := by
  rw [createSymlink_ready goes,bind_of_ok (ensured_ok links _),place,Function.update_idem]

theorem removeSymlink_removed (goes : removable calls path tree = true) :
    removeSymlink calls path tree = .ok () (Function.update tree (linkKey path) none) := by
  rw [removable,Bool.and_eq_true] at goes
  unfold removeSymlink
  rw [bind_of_ok (inspect_run goes.1)]
  cases standing : tree (linkKey path) with
  | none =>
    rw [Function.update_eq_self_iff.mpr standing.symm]
    rfl
  | some node =>
    cases node with
    | other =>
      rw [standing] at goes
      cases goes.2
    | symlink old =>
      rw [standing,clears,Bool.true_and] at goes
      dsimp only
      rw [bind_of_ok (ensured_ok goes.2 _)]
      rfl

theorem removeSymlink_refused (refused : removable calls path tree = false) :
    ∃ message, removeSymlink calls path tree = .error message tree := by
  unfold removeSymlink
  cases looks : calls.symlinkMetadata path with
  | false =>
    exact ⟨_,bind_of_error (inspect_unseen looks) _⟩
  | true =>
    rw [bind_of_ok (inspect_run looks)]
    rw [removable,looks,Bool.true_and] at refused
    cases standing : tree (linkKey path) with
    | none =>
      rw [standing] at refused
      cases refused
    | some node =>
      cases node with
      | other => exact ⟨_,rfl⟩
      | symlink old =>
        rw [standing,clears,Bool.true_and] at refused
        exact ⟨_,bind_of_error (ensured_error refused _) _⟩

end

/-! The rows that a load leaves. -/

def SameRows (s t : Linked) : Prop := ∀ owner, assigneeOf owner t.world.db = assigneeOf owner s.world.db

instance : IsPreorder Linked SameRows where
  refl _ _ := rfl
  trans _ _ _ first second owner := (second owner).trans (first owner)

section
variable {α : Type} (answers : Answers)

theorem sameRows_inWorld {x : Act α} (same : ∀ w owner, assigneeOf owner (after x w).db = assigneeOf owner w.db) :
    Keeps SameRows (inWorld x) := by
  intro s owner
  rw [(erases_inWorld x).after s]
  exact same s.world owner

theorem sameRows_query (read : Db → Except String α) : Keeps SameRows (inWorld (Act.query read)) := by
  apply sameRows_inWorld
  intro w owner
  rw [after,Act.query]
  cases read w.db <;> rfl

theorem sameRows_ensure (condition : Bool) (message : String) : Keeps SameRows (inWorld (Act.ensure condition message)) := by
  apply sameRows_inWorld
  intro w owner
  cases condition <;> rfl

theorem sameRows_statement (which : Statement) {x : Act α}
    (same : ∀ w owner, assigneeOf owner (after x w).db = assigneeOf owner w.db) :
    Keeps SameRows (statement answers which x) := keeps_bind (sameRows_ensure _ _) fun _ => sameRows_inWorld same

theorem sameRows_read (which : Statement) (read : Db → Except String α) :
    Keeps SameRows (statement answers which (Act.query read)) :=
  keeps_bind (sameRows_ensure _ _) fun _ => sameRows_query read

theorem sameRows_execute (which : Statement) {update : Db → Db} (files : ∀ db, (update db).trackedFiles = db.trackedFiles)
    (folders : ∀ db, (update db).trackedFolders = db.trackedFolders) :
    Keeps SameRows (statement answers which (Act.execute update)) := by
  apply sameRows_statement answers
  intro w owner
  change assigneeOf owner (update w.db) = _
  cases owner with
  | file id => rw [assigneeOf,files,assigneeOf]
  | folder id => rw [assigneeOf,folders,assigneeOf]

theorem sameRows_refreshed (pair : DrivePair) : Keeps SameRows (refreshed answers pair) := by
  apply keeps_bind (sameRows_ensure _ _)
  intro _ s owner
  rw [after,refreshPairVirtualPaths]
  cases refreshAllVirtualPaths answers.refresh s.world.db (onlyPair pair) s.links <;> rfl

theorem sameRows_maybeEmergencyFailover (pair : DrivePair) : Keeps SameRows (maybeEmergencyFailover answers pair) := by
  unfold maybeEmergencyFailover
  apply keeps_bind (sameRows_inWorld fun _ _ => rfl)
  intro due
  split
  · exact keeps_pure _
  · apply keeps_bind
    · exact sameRows_execute answers _ (fun _ => rfl) fun _ => rfl
    intro _
    apply keeps_bind
    · exact sameRows_execute answers _ (fun _ => rfl) fun _ => rfl
    intro _
    apply keeps_bind (sameRows_read answers _ _)
    intro updated
    apply keeps_bind
    · apply sameRows_statement answers
      exact fun w owner => assigneeOf_setsFlags (Db.setsFlags_markDrivePairUnmirrored w.db pair.id) rfl owner
    intro _
    apply keeps_bind
    · exact keeps_attempt (sameRows_execute answers _ (fun _ => rfl) fun _ => rfl)
    intro _
    apply keeps_bind (keeps_attempt (sameRows_refreshed answers updated))
    intro _
    exact sameRows_read answers _ _

theorem sameRows_loadOperationalPair (pairId : Nat) : Keeps SameRows (loadOperationalPair answers pairId) :=
  keeps_bind (sameRows_read answers _ _) fun pair => sameRows_maybeEmergencyFailover answers pair

end

/-! The row of the call. -/

def readsBack (answers : Answers) : VirtualOwner → Bool
  | .file _ => true
  | .folder _ => answers.lets .getUpdatedFolder

def withPath (owner : VirtualOwner) (virtualPath : Option String) (s : Linked) : Linked :=
  { s with world := { s.world with db := updateVirtualPath owner virtualPath s.world.db } }

section
variable {answers : Answers} {owner : VirtualOwner} {virtualPath : Option String} {s t : Linked} {assignee : Assignee}
  {tree : VirtualTree}

theorem statement_let {α : Type} {which : Statement} (goes : answers.lets which = true) (x : Act α) :
    statement answers which x s = inWorld x s := by
  have allowed : inWorld (Act.ensure (answers.lets which) "database error") s = .ok () s := by
    rw [goes]
    rfl
  rw [statement,bind_of_ok allowed]

theorem statement_refused {α : Type} {which : Statement} (refused : answers.lets which = false) (x : Act α) :
    statement answers which x s = .error "database error" s := by
  have denied : inWorld (Act.ensure (answers.lets which) "database error") s = .error "database error" s := by
    rw [refused]
    rfl
  rw [statement,bind_of_error denied]

theorem storeVirtualPath_refused (refused : answers.lets .updateVirtualPath = false) :
    storeVirtualPath answers owner virtualPath s = .error "database error" s := by
  cases owner with
  | file id => exact statement_refused refused _
  | folder id => exact bind_of_error (statement_refused refused _) _

theorem storeVirtualPath_unread (goes : answers.lets .updateVirtualPath = true) (unread : readsBack answers owner = false) :
    storeVirtualPath answers owner virtualPath s = .error "database error" (withPath owner virtualPath s) := by
  cases owner with
  | file id => cases unread
  | folder id =>
    have written : statement answers .updateVirtualPath
        (Act.execute (fun db => db.updateTrackedFolderVirtualPath id virtualPath)) s =
        .ok () (withPath (.folder id) virtualPath s) := statement_let goes _
    rw [storeVirtualPath,bind_of_ok written,bind_of_error (statement_refused unread _)]

theorem storeVirtualPath_stored (held : assigneeOf owner s.world.db = some assignee)
    (goes : answers.lets .updateVirtualPath = true) (reads : readsBack answers owner = true) :
    storeVirtualPath answers owner virtualPath s = .ok () (withPath owner virtualPath s) := by
  cases owner with
  | file id => exact statement_let goes _
  | folder id =>
    have written : statement answers .updateVirtualPath
        (Act.execute (fun db => db.updateTrackedFolderVirtualPath id virtualPath)) s =
        .ok () (withPath (.folder id) virtualPath s) := statement_let goes _
    have there := assigneeOf_updateVirtualPath (.folder id) (.folder id) virtualPath s.world.db
    rw [if_pos rfl,held,Option.map_some] at there
    obtain ⟨folder,found,_⟩ := Option.map_eq_some_iff.mp there
    have again : statement answers .getUpdatedFolder (Act.query (fun db => db.getTrackedFolder id))
        (withPath (.folder id) virtualPath s) = .ok folder (withPath (.folder id) virtualPath s) := by
      have read : (withPath (.folder id) virtualPath s).world.db.getTrackedFolder id = .ok folder := by
        unfold Db.getTrackedFolder
        split
        · rename_i row there
          exact congrArg Except.ok (Option.some.inj (there.symm.trans found))
        · rename_i absent
          cases absent.symm.trans found
      rw [statement_let reads]
      simp only [inWorld,Act.query,read]
    rw [storeVirtualPath,bind_of_ok written,bind_of_ok again]
    rfl

theorem kept_links (rows : SameRows s t) : Kept s { t with links := tree } ↔ tree = s.links := by
  constructor
  · exact Kept.links
  · exact fun same => ⟨rows,same⟩

theorem kept_withPath (rows : SameRows s t) (held : assigneeOf owner s.world.db = some assignee) :
    Kept s { withPath owner virtualPath t with links := tree } ↔ assignee.virtualPath = virtualPath ∧ tree = s.links := by
  have written (other : VirtualOwner) : assigneeOf other (withPath owner virtualPath t).world.db =
      if other = owner then some { assignee with virtualPath } else assigneeOf other s.world.db := by
    refine (assigneeOf_updateVirtualPath owner other virtualPath t.world.db).trans ?_
    rw [rows owner,held,rows other]
    rfl
  constructor
  · rintro ⟨same,links⟩
    have own := same owner
    change assigneeOf owner (withPath owner virtualPath t).world.db = _ at own
    rw [written,if_pos rfl,held,Option.some.injEq] at own
    exact ⟨(congrArg Assignee.virtualPath own).symm,links⟩
  · rintro ⟨rfl,links⟩
    refine ⟨fun other => ?_,links⟩
    change assigneeOf other (withPath owner assignee.virtualPath t).world.db = _
    rw [written]
    split
    · rename_i same
      rw [same,held]
    · rfl

end

/-! When a failure leaves everything alone. -/

/-- What stands at the path once the row was not taken. -/
def remaining (answers : Answers) (normalized : String) (real : Location) (replacingSamePath : Bool) : Option LinkNode :=
  if !replacingSamePath && (answers.undo.symlinkMetadata normalized && answers.undo.removeFile normalized) then none
  else some (.symlink real)

/-- The tree of `t` with `node` at the path is the one of `s`. Where loading the pair has
changed no link, `node` is what stood at the path before. -/
def Stands (s t : Linked) (path : String) (node : Option LinkNode) : Prop :=
  Function.update t.links (linkKey path) node = s.links

def created (answers : Answers) (normalized : String) (previous : Option String) (tree : VirtualTree) : Bool :=
  ready answers.creation normalized (previous == some normalized) tree && answers.creation.symlink normalized

/-- The link of the path before goes, or there is none to go. -/
def removesPrevious (answers : Answers) (normalized : String) (real : Location) (tree : VirtualTree) :
    Option String → Bool
  | none => true
  | some previous => previous == normalized ||
    removable answers.removal previous (Function.update tree (linkKey normalized) (some (.symlink real)))

/-- Each step at which an assignment from `t` may fail leaves what was there in `s`. -/
structure AssignedSafely (answers : Answers) (owner : VirtualOwner) (assignee : Assignee) (real : Location)
    (normalized : String) (previous : Option String) (s t : Linked) : Prop where
  refused : ready answers.creation normalized (previous == some normalized) t.links = false → t.links = s.links
  lost : ready answers.creation normalized (previous == some normalized) t.links = true →
    answers.creation.symlink normalized = false → Stands s t normalized none
  unstored : created answers normalized previous t.links = true → answers.lets .updateVirtualPath = false →
    Stands s t normalized (remaining answers normalized real (previous == some normalized))
  unread : created answers normalized previous t.links = true → answers.lets .updateVirtualPath = true →
    readsBack answers owner = false → assignee.virtualPath = some normalized ∧
      Stands s t normalized (remaining answers normalized real (previous == some normalized))
  left : created answers normalized previous t.links = true → answers.lets .updateVirtualPath = true →
    readsBack answers owner = true → removesPrevious answers normalized real t.links previous = false →
      assignee.virtualPath = some normalized ∧ Stands s t normalized (some (.symlink real))

structure AssignSafe (answers : Answers) (owner : VirtualOwner) (virtualPath : String) (assignee : Assignee) (s : Linked) :
    Prop where
  loading : ∀ message t, loadOperationalPair answers assignee.drivePairId s = .error message t → t.links = s.links
  checking : ∀ pair t message u, loadOperationalPair answers assignee.drivePairId s = .ok pair t →
    prepared answers owner virtualPath assignee t = .error message u → t.links = s.links
  assigning : ∀ pair t paths u, loadOperationalPair answers assignee.drivePairId s = .ok pair t →
    prepared answers owner virtualPath assignee t = .ok paths u →
      AssignedSafely answers owner assignee (pair.copyOn pair.activeRole assignee.relativePath) paths.1 paths.2 s t

/-- The row is not written, or everything after it goes through. -/
def ReleaseSafe (answers : Answers) (owner : VirtualOwner) (assignee : Assignee) (s : Linked) : Prop :=
  ∀ virtualPath normalized, assignee.virtualPath = some virtualPath → normalizeVirtualPath virtualPath = .ok normalized →
    answers.lets .updateVirtualPath = true →
      readsBack answers owner = true ∧ removable answers.removal normalized s.links = true

/-- The condition on a call whose row is there and can be read. -/
def Safe (answers : Answers) (s : Linked) (operation : Operation) : Prop :=
  ∀ assignee, answers.lets .getAssignee = true →
    match operation with
    | .setVirtualPath id virtualPath =>
      assigneeOf (.file id) s.world.db = some assignee → AssignSafe answers (.file id) virtualPath assignee s
    | .setFolderVirtualPath id virtualPath =>
      assigneeOf (.folder id) s.world.db = some assignee → AssignSafe answers (.folder id) virtualPath assignee s
    | .removeVirtualPath id => assigneeOf (.file id) s.world.db = some assignee → ReleaseSafe answers (.file id) assignee s
    | .removeFolderVirtualPath id =>
      assigneeOf (.folder id) s.world.db = some assignee → ReleaseSafe answers (.folder id) assignee s

section
variable {answers : Answers} {owner : VirtualOwner} {s t : Linked} {assignee : Assignee} {normalized path : String}
  {real : Location} {previous : Option String} {tree : VirtualTree}

theorem onLinks_ok {α : Type} {x : LinkAct α} {a : α} (ok : x s.links = .ok a tree) :
    onLinks x s = .ok a { s with links := tree } := by
  rw [onLinks,ok]

theorem onLinks_error {α : Type} {x : LinkAct α} {message : String} (failed : x s.links = .error message tree) :
    onLinks x s = .error message { s with links := tree } := by
  rw [onLinks,failed]

theorem release_failsInto (virtualPath : String) (held : assigneeOf owner s.world.db = some assignee)
    (has : assignee.virtualPath = some virtualPath) :
    FailsInto (Kept s) (releaseVirtualPath answers owner virtualPath) s ↔ ReleaseSafe answers owner assignee s := by
  have same : SameRows s s := fun _ => rfl
  have cleared : ¬Kept s (withPath owner none s) := by
    change ¬Kept s { withPath owner none s with links := s.links }
    rw [kept_withPath same held,has]
    rintro ⟨impossible,_⟩
    cases impossible
  unfold releaseVirtualPath
  cases ok : normalizeVirtualPath virtualPath with
  | error message =>
    have failed : inWorld (Act.query (fun _ => (Except.error message : Except String String))) s = .error message s := rfl
    rw [failsInto_bind_error failed]
    refine iff_of_true ⟨same,rfl⟩ ?_
    intro other normalized has' ok'
    cases has.symm.trans has'
    cases ok.symm.trans ok'
  | ok normalized =>
    have read : inWorld (Act.query (fun _ => (Except.ok normalized : Except String String))) s = .ok normalized s := rfl
    have spelled : ReleaseSafe answers owner assignee s ↔ (answers.lets .updateVirtualPath = true →
        readsBack answers owner = true ∧ removable answers.removal normalized s.links = true) := by
      constructor
      · exact fun safe => safe virtualPath normalized has ok
      · intro safe other again has' ok'
        cases has.symm.trans has'
        cases ok.symm.trans ok'
        exact safe
    rw [failsInto_bind_ok read,spelled]
    cases goes : answers.lets .updateVirtualPath with
    | false =>
      rw [failsInto_bind_error (storeVirtualPath_refused goes)]
      refine iff_of_true ⟨same,rfl⟩ ?_
      intro impossible
      cases impossible
    | true =>
      cases reads : readsBack answers owner with
      | false =>
        rw [failsInto_bind_error (storeVirtualPath_unread goes reads)]
        refine iff_of_false cleared ?_
        intro safe
        cases (safe rfl).1
      | true =>
        rw [failsInto_bind_ok (storeVirtualPath_stored held goes reads)]
        cases removes : removable answers.removal normalized s.links with
        | true =>
          refine iff_of_true (failsInto_of_ok (onLinks_ok (removeSymlink_removed removes))) ?_
          exact fun _ => ⟨rfl,rfl⟩
        | false =>
          obtain ⟨message,refused⟩ := removeSymlink_refused removes
          have failed : onLinks (removeSymlink answers.removal normalized) (withPath owner none s) =
              .error message (withPath owner none s) := onLinks_error refused
          rw [failsInto_error failed]
          refine iff_of_false cleared ?_
          intro safe
          cases (safe rfl).2

theorem storeOrUndo_stored (held : assigneeOf owner s.world.db = some assignee)
    (goes : answers.lets .updateVirtualPath = true) (reads : readsBack answers owner = true) (replace : Bool) :
    storeOrUndo answers owner normalized replace s = .ok () (withPath owner (some normalized) s) := by
  rw [storeOrUndo,bind_of_ok (attempt_of_ok (storeVirtualPath_stored held goes reads))]
  rfl

theorem query_after {α : Type} (read : Db → Except String α) (s : Linked) : after (inWorld (Act.query read)) s = s := by
  rw [after,inWorld,Act.query]
  cases read s.world.db <;> rfl

theorem validated_still (answers : Answers) (owner : VirtualOwner) (virtualPath : String) (s : Linked) :
    after (validated answers owner virtualPath) s = s := by
  have looks (t : Linked) : after (VirtualAssignment.validated answers.validation owner virtualPath) t = t := by
    rw [after,VirtualAssignment.validated]
    cases validateVirtualPath answers.validation t.world.db owner virtualPath t.links <;> rfl
  unfold validated
  rw [after_bind_of_still]
  · exact query_after _ s
  · intro _ t
    rw [after_bind_of_still fun _ => looks]
    cases answers.lets .collectReservations <;> rfl

theorem onLinks_world {α : Type} (x : LinkAct α) (s : Linked) : (after (onLinks x) s).world = s.world := by
  rw [after,onLinks]
  cases x s.links <;> rfl

theorem readsBack_steady (calls : LinkCalls) (owner : VirtualOwner) : readsBack (.steady calls) owner = true := by
  cases owner <;> rfl

theorem assignVirtualPath_steady (calls : LinkCalls) (owner : VirtualOwner) (virtualPath : String) :
    assignVirtualPath (.steady calls) owner virtualPath = VirtualAssignment.assignVirtualPath calls owner virtualPath := by
  funext s
  unfold assignVirtualPath VirtualAssignment.assignVirtualPath
  simp only [prepared,validated_steady,statement_steady,loadOperationalPair_steady,bind_assoc,pure_bind]
  cases held : assigneeOf owner s.world.db with
  | none =>
    have failed : inWorld (Act.query (getAssignee owner)) s = .error Db.queryReturnedNoRows s := by
      simp only [inWorld,Act.query,getAssignee,held]
    rw [bind_of_error failed,bind_of_error failed]
  | some assignee =>
    have found : inWorld (Act.query (getAssignee owner)) s = .ok assignee s := by
      simp only [inWorld,Act.query,getAssignee,held]
    have kept := sameRows_loadOperationalPair (.steady calls) assignee.drivePairId s
    rw [loadOperationalPair_steady] at kept
    rw [bind_of_ok found,bind_of_ok found]
    cases load : VirtualRetarget.loadOperationalPair calls assignee.drivePairId s with
    | error message t => rw [bind_of_error load,bind_of_error load]
    | ok pair t =>
      rw [after_of_ok load] at kept
      rw [bind_of_ok load,bind_of_ok load]
      cases checked : VirtualAssignment.validated calls owner virtualPath t with
      | error message u => rw [bind_of_error checked,bind_of_error checked]
      | ok normalized u =>
        have still := validated_still (.steady calls) owner virtualPath t
        rw [validated_steady,after_of_ok checked] at still
        subst still
        rw [bind_of_ok checked,bind_of_ok checked]
        cases before : inWorld (Act.query (fun _ => previousPath assignee.virtualPath)) u with
        | error message v => rw [bind_of_error before,bind_of_error before]
        | ok previous v =>
          obtain rfl := query_still before
          rw [bind_of_ok before,bind_of_ok before,assignPrepared]
          cases placed : onLinks (createSymlink calls normalized (pair.copyOn pair.activeRole assignee.relativePath)
              (previous == some normalized)) v with
          | error message x =>
            have placed' : onLinks (createSymlink (Answers.steady calls).creation normalized
              (pair.copyOn pair.activeRole assignee.relativePath) (previous == some normalized)) v = .error message x := placed
            rw [bind_of_error placed,bind_of_error placed']
          | ok _ x =>
            have placed' : onLinks (createSymlink (Answers.steady calls).creation normalized
              (pair.copyOn pair.activeRole assignee.relativePath) (previous == some normalized)) v = .ok () x := placed
            have world : x.world = v.world := by
              rw [← after_of_ok placed]
              exact onLinks_world _ v
            have there : assigneeOf owner x.world.db = some assignee := by rw [world,kept owner,held]
            have written : inWorld (Act.execute (updateVirtualPath owner (some normalized))) x =
              .ok () (withPath owner (some normalized) x) := rfl
            rw [bind_of_ok placed,bind_of_ok placed',bind_of_ok (storeOrUndo_stored there rfl (readsBack_steady calls owner) _),
              bind_of_ok written]
            rfl

theorem removeFolderVirtualPath_steady (calls : LinkCalls) (folderId : Nat) :
    removeFolderVirtualPath (.steady calls) folderId = VirtualAssignment.removeFolderVirtualPath calls folderId := by
  funext s
  unfold removeFolderVirtualPath VirtualAssignment.removeFolderVirtualPath
  rw [statement_steady]
  cases held : assigneeOf (.folder folderId) s.world.db with
  | none =>
    have failed : inWorld (Act.query (getAssignee (.folder folderId))) s = .error Db.queryReturnedNoRows s := by
      simp only [inWorld,Act.query,getAssignee,held]
    rw [bind_of_error failed,bind_of_error failed]
  | some folder =>
    have found : inWorld (Act.query (getAssignee (.folder folderId))) s = .ok folder s := by
      simp only [inWorld,Act.query,getAssignee,held]
    rw [bind_of_ok found,bind_of_ok found]
    cases folder.virtualPath with
    | none => rfl
    | some virtualPath =>
      dsimp only
      unfold releaseVirtualPath VirtualAssignment.releaseVirtualPath
      cases ok : inWorld (Act.query (fun _ => normalizeVirtualPath virtualPath)) s with
      | error message t => rw [bind_of_error ok,bind_of_error ok]
      | ok normalized t =>
        obtain rfl := query_still ok
        have written : inWorld (Act.execute (updateVirtualPath (.folder folderId) none)) t =
          .ok () (withPath (.folder folderId) none t) := rfl
        rw [bind_of_ok ok,bind_of_ok ok,bind_of_ok (storeVirtualPath_stored held rfl rfl),bind_of_ok written]
        rfl

theorem storeOrUndo_failed {message : String} (failed : storeVirtualPath answers owner (some normalized) s = .error message t)
    (standing : t.links = Function.update tree (linkKey normalized) (some (.symlink real))) (replace : Bool) :
    storeOrUndo answers owner normalized replace s = .error message
      { t with links := Function.update tree (linkKey normalized) (remaining answers normalized real replace) } := by
  rw [storeOrUndo,bind_of_ok (attempt_of_error failed)]
  cases replace with
  | true =>
    rw [remaining,Bool.not_true,Bool.false_and,if_neg Bool.false_ne_true,← standing]
    rfl
  | false =>
    have there : t.links (linkKey normalized) = some (.symlink real) := by rw [standing,Function.update_self]
    have removes : removable answers.undo normalized t.links =
        (answers.undo.symlinkMetadata normalized && answers.undo.removeFile normalized) := by
      rw [removable,there,clears,Bool.true_and]
    rw [remaining,Bool.not_false,Bool.true_and,← removes]
    cases gone : removable answers.undo normalized t.links with
    | true =>
      have undone : onLinks (removeSymlink answers.undo normalized) t =
          .ok () { t with links := Function.update tree (linkKey normalized) none } := by
        rw [onLinks_ok (removeSymlink_removed gone),standing,Function.update_idem]
      change (do let _ ← attempt (onLinks (removeSymlink answers.undo normalized))
                 throw message : LinkedAct Unit) t = _
      rw [bind_of_ok (attempt_of_ok undone)]
      rfl
    | false =>
      obtain ⟨other,refused⟩ := removeSymlink_refused gone
      have kept : onLinks (removeSymlink answers.undo normalized) t = .error other t := onLinks_error refused
      change (do let _ ← attempt (onLinks (removeSymlink answers.undo normalized))
                 throw message : LinkedAct Unit) t = _
      rw [bind_of_ok (attempt_of_error kept),if_neg Bool.false_ne_true,← standing]
      rfl

theorem removePrevious_returns (removes : removesPrevious answers normalized real tree previous = true)
    (standing : t.links = Function.update tree (linkKey normalized) (some (.symlink real))) :
    ∃ u, removePrevious answers.removal normalized previous t = .ok () u := by
  cases previous with
  | none => exact ⟨t,rfl⟩
  | some previous =>
    rw [removesPrevious,Bool.or_eq_true,beq_iff_eq,← standing] at removes
    rw [removePrevious]
    by_cases same : previous = normalized
    · exact ⟨t,by rw [if_pos same]; rfl⟩
    · rw [if_neg same]
      exact ⟨_,onLinks_ok (removeSymlink_removed (removes.resolve_left same))⟩

theorem removePrevious_fails (stays : removesPrevious answers normalized real tree previous = false)
    (standing : t.links = Function.update tree (linkKey normalized) (some (.symlink real))) :
    ∃ message, removePrevious answers.removal normalized previous t = .error message t := by
  cases previous with
  | none => cases stays
  | some previous =>
    rw [removesPrevious,Bool.or_eq_false_iff,beq_eq_false_iff_ne,← standing] at stays
    obtain ⟨message,refused⟩ := removeSymlink_refused stays.2
    rw [removePrevious,if_neg stays.1]
    exact ⟨message,onLinks_error refused⟩

theorem assignPrepared_failsInto (rows : SameRows s t) (held : assigneeOf owner s.world.db = some assignee) :
    FailsInto (Kept s) (assignPrepared answers owner real normalized previous) t ↔
      AssignedSafely answers owner assignee real normalized previous s t := by
  have held' : assigneeOf owner t.world.db = some assignee := (rows owner).trans held
  let linked : Linked := { t with links := Function.update t.links (linkKey normalized) (some (.symlink real)) }
  unfold assignPrepared
  cases goes : ready answers.creation normalized (previous == some normalized) t.links with
  | false =>
    obtain ⟨message,refused⟩ := createSymlink_refused goes
    rw [failsInto_bind_error (onLinks_error refused),kept_links rows]
    constructor
    · intro same
      exact ⟨fun _ => same,by simp [goes],by simp [created,goes],by simp [created,goes],by simp [created,goes]⟩
    · exact fun safe => safe.refused goes
  | true =>
    cases links : answers.creation.symlink normalized with
    | false =>
      rw [failsInto_bind_error (onLinks_error (createSymlink_lost goes links)),kept_links rows]
      constructor
      · intro same
        exact ⟨by simp [goes],fun _ _ => same,by simp [created,links],by simp [created,links],by simp [created,links]⟩
      · exact fun safe => safe.lost goes links
    | true =>
      have made : created answers normalized previous t.links = true := by rw [created,goes,links,Bool.and_true]
      have placed : onLinks (createSymlink answers.creation normalized real (previous == some normalized)) t = .ok () linked :=
        onLinks_ok (createSymlink_created goes links)
      have standing : linked.links = Function.update t.links (linkKey normalized) (some (.symlink real)) := rfl
      rw [failsInto_bind_ok placed]
      cases writes : answers.lets .updateVirtualPath with
      | false =>
        rw [failsInto_bind_error (storeOrUndo_failed (storeVirtualPath_refused writes) standing _)]
        change Kept s { t with links := _ } ↔ _
        rw [kept_links rows]
        constructor
        · intro same
          exact ⟨by simp [goes],by simp [links],fun _ _ => same,by simp [writes],by simp [writes]⟩
        · exact fun safe => safe.unstored made writes
      | true =>
        have standing' : (withPath owner (some normalized) linked).links =
          Function.update t.links (linkKey normalized) (some (.symlink real)) := rfl
        cases reads : readsBack answers owner with
        | false =>
          rw [failsInto_bind_error (storeOrUndo_failed (storeVirtualPath_unread writes reads) standing' _)]
          change Kept s { withPath owner (some normalized) t with links := _ } ↔ _
          rw [kept_withPath rows held]
          constructor
          · intro same
            exact ⟨by simp [goes],by simp [links],by simp [writes],fun _ _ _ => same,by simp [reads]⟩
          · exact fun safe => safe.unread made writes reads
        | true =>
          have held'' : assigneeOf owner linked.world.db = some assignee := held'
          rw [failsInto_bind_ok (storeOrUndo_stored held'' writes reads _)]
          cases removes : removesPrevious answers normalized real t.links previous with
          | true =>
            obtain ⟨u,returns⟩ := removePrevious_returns removes standing'
            refine iff_of_true (failsInto_of_ok returns) ?_
            exact ⟨by simp [goes],by simp [links],by simp [writes],by simp [reads],by simp [removes]⟩
          | false =>
            obtain ⟨message,fails⟩ := removePrevious_fails removes standing'
            rw [failsInto_error fails]
            change Kept s { withPath owner (some normalized) t with links := _ } ↔ _
            rw [kept_withPath rows held]
            constructor
            · intro same
              exact ⟨by simp [goes],by simp [links],by simp [writes],by simp [reads],fun _ _ _ _ => same⟩
            · exact fun safe => safe.left made writes reads removes

theorem prepared_still (answers : Answers) (owner : VirtualOwner) (virtualPath : String) (assignee : Assignee) (s : Linked) :
    after (prepared answers owner virtualPath assignee) s = s := by
  unfold prepared
  rw [after_bind_of_still]
  · exact validated_still answers owner virtualPath s
  · intro normalized t
    rw [after_bind_of_still]
    · exact query_after _ t
    · exact fun _ _ => rfl

theorem assign_failsInto {virtualPath : String} (held : assigneeOf owner s.world.db = some assignee)
    (reads : answers.lets .getAssignee = true) :
    FailsInto (Kept s) (assignVirtualPath answers owner virtualPath) s ↔ AssignSafe answers owner virtualPath assignee s := by
  have found : statement answers .getAssignee (Act.query (getAssignee owner)) s = .ok assignee s := by
    rw [statement_let reads]
    simp only [inWorld,Act.query,getAssignee,held]
  have kept := sameRows_loadOperationalPair answers assignee.drivePairId s
  unfold assignVirtualPath
  rw [failsInto_bind_ok found]
  cases load : loadOperationalPair answers assignee.drivePairId s with
  | error message t =>
    have rows : SameRows s t := by rwa [after_of_error load] at kept
    rw [failsInto_bind_error load]
    constructor
    · intro holds
      refine ⟨?_,?_,?_⟩
      · intro other u failed
        cases load.symm.trans failed
        exact holds.links
      · intro pair u other v loaded
        cases load.symm.trans loaded
      · intro pair u paths v loaded
        cases load.symm.trans loaded
    · intro safe
      exact ⟨rows,safe.loading message t load⟩
  | ok pair t =>
    have rows : SameRows s t := by rwa [after_of_ok load] at kept
    rw [failsInto_bind_ok load]
    have still := prepared_still answers owner virtualPath assignee t
    cases checked : prepared answers owner virtualPath assignee t with
    | error message u =>
      obtain rfl : u = t := by rwa [after_of_error checked] at still
      rw [failsInto_bind_error checked]
      constructor
      · intro holds
        refine ⟨?_,?_,?_⟩
        · intro other v failed
          cases load.symm.trans failed
        · intro other v message' v' loaded _
          cases load.symm.trans loaded
          exact holds.links
        · intro other v paths v' loaded ok
          cases load.symm.trans loaded
          cases checked.symm.trans ok
      · intro safe
        exact ⟨rows,safe.checking pair u message u load checked⟩
    | ok paths u =>
      obtain rfl : u = t := by rwa [after_of_ok checked] at still
      rw [failsInto_bind_ok checked,assignPrepared_failsInto rows held]
      constructor
      · intro safely
        refine ⟨?_,?_,?_⟩
        · intro other v failed
          cases load.symm.trans failed
        · intro other v message v' loaded failed
          cases load.symm.trans loaded
          cases checked.symm.trans failed
        · intro other v paths' v' loaded ok
          cases load.symm.trans loaded
          cases checked.symm.trans ok
          exact safely
      · exact fun safe => safe.assigning pair u paths u load checked

theorem getAssignee_refused (answers : Answers) {β : Type} (f : Assignee → LinkedAct β)
    (refused : answers.lets .getAssignee = false) :
    FailsInto (Kept s) (statement answers .getAssignee (Act.query (getAssignee owner)) >>= f) s := by
  rw [failsInto_bind_error (statement_refused refused _)]
  exact ⟨fun _ => rfl,rfl⟩

theorem getAssignee_absent (answers : Answers) {β : Type} (f : Assignee → LinkedAct β)
    (absent : assigneeOf owner s.world.db = none)
    (reads : answers.lets .getAssignee = true) :
    FailsInto (Kept s) (statement answers .getAssignee (Act.query (getAssignee owner)) >>= f) s := by
  have failed : statement answers .getAssignee (Act.query (getAssignee owner)) s = .error Db.queryReturnedNoRows s := by
    rw [statement_let reads]
    simp only [inWorld,Act.query,getAssignee,absent]
  rw [failsInto_bind_error failed]
  exact ⟨fun _ => rfl,rfl⟩

/-- A call for a row that cannot be read leaves everything alone; for the others it is as `safe` says. -/
theorem failsInto_of_row (answers : Answers) (owner : VirtualOwner) (s : Linked) {β : Type} (f : Assignee → LinkedAct β)
    {P : Assignee → Prop} (found : ∀ assignee, assigneeOf owner s.world.db = some assignee → answers.lets .getAssignee = true →
      (FailsInto (Kept s) (statement answers .getAssignee (Act.query (getAssignee owner)) >>= f) s ↔ P assignee)) :
    FailsInto (Kept s) (statement answers .getAssignee (Act.query (getAssignee owner)) >>= f) s ↔
      ∀ assignee, answers.lets .getAssignee = true → assigneeOf owner s.world.db = some assignee → P assignee := by
  cases reads : answers.lets .getAssignee with
  | false =>
    refine iff_of_true (getAssignee_refused answers f reads) ?_
    intro assignee impossible
    cases impossible
  | true =>
    cases held : assigneeOf owner s.world.db with
    | none =>
      refine iff_of_true (getAssignee_absent answers f held reads) ?_
      intro assignee _ impossible
      cases impossible
    | some assignee =>
      rw [found assignee held reads]
      constructor
      · rintro safe other _ same
        cases same
        exact safe
      · exact fun safe => safe assignee rfl rfl

/-- A failed call has changed no stored path and no link if and only if each step at which it
can fail leaves what was there. -/
theorem failure_keeps_iff (answers : Answers) (operation : Operation) (s : Linked) :
    FailsInto (Kept s) (operation.run answers) s ↔ Safe answers s operation := by
  have read {owner : VirtualOwner} {assignee : Assignee} (held : assigneeOf owner s.world.db = some assignee)
      (reads : answers.lets .getAssignee = true) :
      statement answers .getAssignee (Act.query (getAssignee owner)) s = .ok assignee s := by
    rw [statement_let reads]
    simp only [inWorld,Act.query,getAssignee,held]
  cases operation with
  | setVirtualPath id virtualPath =>
    exact failsInto_of_row answers (.file id) s _ fun assignee held reads => assign_failsInto held reads
  | setFolderVirtualPath id virtualPath =>
    exact failsInto_of_row answers (.folder id) s _ fun assignee held reads => assign_failsInto held reads
  | removeVirtualPath id =>
    apply failsInto_of_row answers (.file id) s
    intro assignee held reads
    rw [failsInto_bind_ok (read held reads)]
    cases has : assignee.virtualPath with
    | none =>
      have failed : (inWorld (Act.bail s!"File #{id} has no virtual path assigned") : LinkedAct Unit) s = .error _ s := rfl
      dsimp only
      rw [failsInto_error failed]
      refine iff_of_true ⟨fun _ => rfl,rfl⟩ ?_
      intro virtualPath normalized impossible
      cases has.symm.trans impossible
    | some virtualPath => exact release_failsInto virtualPath held has
  | removeFolderVirtualPath id =>
    apply failsInto_of_row answers (.folder id) s
    intro assignee held reads
    rw [failsInto_bind_ok (read held reads)]
    cases has : assignee.virtualPath with
    | none =>
      refine iff_of_true (failsInto_of_ok rfl) ?_
      intro virtualPath normalized impossible
      cases has.symm.trans impossible
    | some virtualPath => exact release_failsInto virtualPath held has

end

/-! A path is moved, and the link of the path before cannot be removed. -/

def linkedFirst : Linked where
  world := ⟨{ Db.empty with
      drivePairs := Table.empty.insert firstPair key_firstPair
      trackedFiles := onePairFiles },⟨fun _ => none,fun _ => true⟩⟩
  links := linkTree

def lockedParent : Answers := { Answers.steady .healthy with removal := { LinkCalls.healthy with removeFile := fun _ => false } }

theorem moved_path_kept : ¬ ∀ (answers : Answers) (operation : Operation) (s : Linked),
    FailsInto (Kept s) (operation.run answers) s := by
  intro keeps
  obtain ⟨message,t,failed,link⟩ : ∃ message t,
      (Operation.setVirtualPath 1 "/w/a").run lockedParent linkedFirst = .error message t ∧
        t.links (linkKey "/w/a") = some (.symlink ⟨"/p1","a"⟩) := ⟨_,_,rfl,rfl⟩
  have same := (keeps lockedParent (.setVirtualPath 1 "/w/a") linkedFirst message t failed).links
  rw [same] at link
  exact absurd link (by decide +kernel)

end BitProtector.AssignmentErrors
