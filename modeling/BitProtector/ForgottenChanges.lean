import BitProtector.AwayTracking
import BitProtector.Foundation.Machine

/-! Changes that are forgotten while the standby is away: runs of edits, trackings, scans and drains on a pair whose
standby root comes and goes. -/
namespace BitProtector.ForgottenChanges
open Effect ScanStates ScanWalks StandbyAway AwayDrains AwayTracking

section
variable [Blake3] {pair : DrivePair}

/-! What the user and the drives do. -/

/-- The edit does not take a file that is not remembered back to its recorded content, nor away. -/
def Lasting (pair : DrivePair) (s : Field) (path : String) (content : Option FileNode) : Prop :=
  ∀ file ∈ s.world.db.trackedFiles.rows, file.drivePairId = pair.id → file.relativePath = path →
    Remembered pair s file ∨ ∃ node, content = some node ∧ ¬(node.whole = true ∧ checksumBytes node.bytes = file.checksum)

omit [Blake3] in
def Field.edit (pair : DrivePair) (path : String) (content : Option FileNode) (s : Field) : Field :=
  { s with world := { s.world with disk := edited (pair.copyOn pair.activeRole path) content s.world.disk } }

theorem edit_holds (apart : pair.activePath ≠ pair.standbyPath) {path : String} {content : Option FileNode} {s : Field}
    (holds : Holds pair none s) (lasting : Lasting pair s path content) : Holds pair none (Field.edit pair path content s) := by
  have leaves : Leaves pair (fun other => other = pair.copyOn pair.activeRole path) s.world.disk
      (edited (pair.copyOn pair.activeRole path) content s.world.disk) :=
    ⟨rfl,fun other node differs found => (if_neg differs).trans found⟩
  have standby (other : String) : pair.copyOn pair.standbyRole other ≠ pair.copyOn pair.activeRole path :=
    fun equal => apart (congrArg Location.root equal).symm
  have spared {other : String} (differs : other ≠ path) (role : DriveRole) :
      pair.copyOn role other ≠ pair.copyOn pair.activeRole path :=
    fun equal => differs (congrArg Location.relativePath equal)
  let edits : World := { s.world with disk := edited (pair.copyOn pair.activeRole path) content s.world.disk }
  have later (hole : Option Nat) (outside : ∀ file ∈ s.world.db.trackedFiles.rows, file.drivePairId = pair.id →
      hole ≠ some file.id → file.relativePath ≠ path) : Holds pair hole ⟨edits,s.shelf⟩ :=
    holds_handled (holds.except hole) (handled_refl _ _) leaves fun file present own differs =>
      spared (outside file present own differs)
  cases found : fileAt s.world.db pair.id path with
  | none => exact later none fun file present own _ => fileAt_none.mp found file present own
  | some file =>
    obtain ⟨present,own,place⟩ := fileAt_some found
    have held : Holds pair (some file.id) ⟨edits,s.shelf⟩ := by
      refine later (some file.id) fun other member pairs differs same => differs ?_
      rw [holds.sound.paths other member file present (pairs.trans own.symm) (same.trans place.symm)]
    refine held.close fun other member _ hole => ?_
    obtain rfl : file = other := Table.key_injective _ present member (Option.some.inj hole)
    rcases lasting file present own place with remembered | ⟨node,written,differs⟩
    · exact .inl (remembered.imp (hashes_later (t := edits) leaves (standby _)) id)
    · have now : edits.disk.node (pair.copyOn pair.activeRole file.relativePath) = some node := by
        rw [place]
        exact (if_pos rfl).trans written
      refine .inr ⟨⟨node,now⟩,?_⟩
      rintro ⟨other,there,good⟩
      cases now.symm.trans there
      exact differs good

theorem holds_moved {s t : Field} (holds : Holds pair none s) (tables : t.world.db = s.world.db)
    (root : t.world.disk.available pair.standbyPath = t.shelf.isNone)
    (standby : ∀ path, standbyNode pair t path = standbyNode pair s path)
    (active : ∀ path, t.world.disk.node (pair.copyOn pair.activeRole path) =
      s.world.disk.node (pair.copyOn pair.activeRole path)) :
    Holds pair none t := by
  obtain ⟨row,sound,_,routine,safe⟩ := holds
  rw [← tables] at row sound routine safe
  refine ⟨row,sound,root,routine,fun file present own apart => ?_⟩
  have before := safe file present own apart
  unfold Safe Remembered Differs GoodAt at before ⊢
  rw [standby,active,tables]
  exact before

theorem vanish_holds (apart : pair.activePath ≠ pair.standbyPath) {s : Field} (holds : Holds pair none s) :
    Holds pair none (s.vanish pair.standbyPath) := by
  unfold Field.vanish
  cases shelf : s.shelf with
  | some files => exact holds
  | none =>
    refine holds_moved holds rfl ?_ (fun path => ?_) fun path => if_neg apart
    · simp [StandbyAway.hidden]
    · unfold standbyNode
      rw [shelf]
      rfl

theorem appear_holds (apart : pair.activePath ≠ pair.standbyPath) {s : Field} (holds : Holds pair none s) :
    Holds pair none (s.appear pair.standbyPath) := by
  unfold Field.appear
  cases shelf : s.shelf with
  | none => exact holds
  | some files =>
    refine holds_moved holds rfl ?_ (fun path => ?_) fun path => if_neg apart
    · simp [StandbyAway.shown]
    · unfold standbyNode
      rw [shelf]
      exact if_pos rfl

theorem requeue_holds {s : Field} (holds : Holds pair none s) :
    Holds pair none (s.act (Act.execute Db.requeueInProgressSyncQueue)) := by
  have requeued : Handled none s.world.db s.world.db.requeueInProgressSyncQueue :=
    handled_queue none fun completed => by cases completed
  exact holds_rows (t := { s.world with db := s.world.db.requeueInProgressSyncQueue }) holds requeued rfl

/-! Runs. -/

omit [Blake3] in
inductive Step
  | edit (path : String) (content : Option FileNode)
  | addFolder (io : Io) (links : LinkAnswers) (resolve : String → Except String String) (isDir : Bool)
      (virtualPath : Option String) (includeChecksumSidecars : Bool)
  | track (io : Io) (links : LinkAnswers) (resolve : String → Except String String) (virtualPath : Option String)
  | scan (io : Io) (counted walk : Walk) (folderId : Nat)
  | scanCommand (io : Io) (walk : Walk) (folderId : Nat)
  | detect (io : Io)
  | requeue
  | process (io : Io) (itemId : Nat)
  | vanish
  | appear

/-- A drain is taken call by call, so that anything may happen between two of its items. -/
def machine (pair : DrivePair) : Machine Field Step where
  step
    | .edit path content, s => some (Field.edit pair path content s)
    | .addFolder io links resolve isDir virtualPath includeChecksumSidecars, s =>
      some (s.act (addFolderRoute io links resolve isDir pair.id virtualPath includeChecksumSidecars))
    | .track io links resolve virtualPath, s => some (s.act (trackFileRoute io links resolve pair.id virtualPath))
    | .scan io counted walk folderId, s => some (s.act (scanFolderRoute io counted walk folderId))
    | .scanCommand io walk folderId, s => some (s.act (scanFolderCommand io walk folderId))
    | .detect io, s => some (s.act (scanAndRecordChanges io pair))
    | .requeue, s => some (s.act (Act.execute Db.requeueInProgressSyncQueue))
    | .process io itemId, s => some (s.act (processRow io itemId))
    | .vanish, s => some (s.vanish pair.standbyPath)
    | .appear, s => some (s.appear pair.standbyPath)

omit [Blake3] in
/-- The pair is not failed over, and the step is about this pair. -/
def Stays (pair : DrivePair) (l : Step) (s : Field) : Prop :=
  emergencyFailoverDue s.world.disk pair = false ∧
    match l with
    | .scan _ _ _ folderId | .scanCommand _ _ folderId => FolderOf pair folderId s.world.db
    | .process _ itemId => ItemOf pair itemId s.world.db
    | _ => True

omit [Blake3] in
theorem folderOf_iff {folderId : Nat} {db : Db} :
    FolderOf pair folderId db ↔ (db.trackedFolders.find? folderId).all (fun folder => folder.drivePairId = pair.id) = true := by
  simp only [FolderOf,Option.all_eq_true,decide_eq_true_eq]

omit [Blake3] in
theorem itemOf_iff {itemId : Nat} {db : Db} :
    ItemOf pair itemId db ↔ (db.syncQueue.find? itemId).all (fun item =>
      (db.trackedFiles.find? item.trackedFileId).all fun file => file.drivePairId = pair.id) = true := by
  simp only [ItemOf,Option.all_eq_true,decide_eq_true_eq]

instance (l : Step) (s : Field) : Decidable (Stays pair l s) :=
  match l with
  | .edit _ _ | .addFolder _ _ _ _ _ _ | .track _ _ _ _ | .detect _ | .requeue | .vanish | .appear =>
    inferInstanceAs (Decidable (emergencyFailoverDue s.world.disk pair = false ∧ True))
  | .scan _ _ _ folderId | .scanCommand _ _ folderId =>
    let _ : Decidable (FolderOf pair folderId s.world.db) := decidable_of_iff _ folderOf_iff.symm
    inferInstanceAs (Decidable (emergencyFailoverDue s.world.disk pair = false ∧ FolderOf pair folderId s.world.db))
  | .process _ itemId =>
    let _ : Decidable (ItemOf pair itemId s.world.db) := decidable_of_iff _ itemOf_iff.symm
    inferInstanceAs (Decidable (emergencyFailoverDue s.world.disk pair = false ∧ ItemOf pair itemId s.world.db))

/-- Whatever the step records is settled, and an edit is lasting. -/
def Settled (pair : DrivePair) (l : Step) (s : Field) : Prop :=
  match l with
  | .edit path content => Lasting pair s path content
  | .track io _ resolve _ => ∀ path, resolve pair.activePath = .ok path → stateAt s.world.db pair.id path = none →
      Settles pair io (s.act (putMarkers io pair)) path
  | .scan io _ walk folderId => ∀ folder, s.world.db.trackedFolders.find? folderId = some folder →
      ∀ path ∈ visits folder walk.files, Settles pair io s path
  | .scanCommand io walk folderId => ∀ folder, s.world.db.trackedFolders.find? folderId = some folder → ∀ path,
      path ∈ visits folder walk.files ∨ stateAt s.world.db pair.id path ≠ none → Settles pair io s path
  | .detect io => ∀ path, stateAt s.world.db pair.id path ≠ none → Settles pair io s path
  | _ => True

theorem step_holds (apart : pair.activePath ≠ pair.standbyPath) {l : Step} {s t : Field} (holds : Holds pair none s)
    (stays : Stays pair l s) (settled : Settled pair l s) (taken : (machine pair).step l s = some t) : Holds pair none t := by
  obtain ⟨steady,own⟩ := stays
  cases l with
  | edit path content =>
    cases taken
    exact edit_holds apart holds settled
  | addFolder io links resolve isDir virtualPath includeChecksumSidecars =>
    cases taken
    exact addFolderRoute_holds io links resolve isDir virtualPath includeChecksumSidecars holds steady
  | track io links resolve virtualPath =>
    cases taken
    exact trackFileRoute_holds io links resolve virtualPath holds steady settled
  | scan io counted walk folderId =>
    cases taken
    exact scanFolderRoute_holds counted walk folderId holds steady own settled
  | scanCommand io walk folderId =>
    cases taken
    exact (scanFolderCommand_holds walk folderId holds steady own settled).1
  | detect io =>
    cases taken
    exact (scanAndRecordChanges_visited holds settled).1
  | requeue =>
    cases taken
    exact requeue_holds holds
  | process io itemId =>
    cases taken
    exact processRow_holds apart io itemId holds steady own
  | vanish =>
    cases taken
    exact vanish_holds apart holds
  | appear =>
    cases taken
    exact appear_holds apart holds

/-- Nothing of the pair is tracked yet, and its standby is there. -/
structure Fresh (pair : DrivePair) (s : Field) : Prop where
  row : s.world.db.drivePairs.find? pair.id = some pair
  active : ∀ role, pair.roleState role = .active
  sound : Sound s.world.db
  untracked : ∀ file ∈ s.world.db.trackedFiles.rows, file.drivePairId ≠ pair.id
  there : s.world.disk.available pair.standbyPath = true
  shelf : s.shelf = none

theorem holds_fresh {s : Field} (fresh : Fresh pair s) : Holds pair none s := by
  refine ⟨fresh.row,fresh.sound,?_,fun _ _ file present _ own => absurd own (fresh.untracked file present),
    fun file present own => absurd own (fresh.untracked file present)⟩
  rw [fresh.there,fresh.shelf]
  rfl

theorem holds_of_reaches (apart : pair.activePath ≠ pair.standbyPath) {start s : Field} (fresh : Fresh pair start)
    (reached : (machine pair).Reaches (fun l s => Stays pair l s ∧ Settled pair l s) start s) : Holds pair none s :=
  reached.invariant (holds_fresh fresh) fun _ _ _ holds met taken => step_holds apart holds met.1 met.2 taken

/-- Every such file whose standby copy is not the recorded one has an item that is pending, in progress, failed or
waiting for the user. -/
def Queued (pair : DrivePair) (w : World) (scanned : String → Prop) : Prop :=
  ∀ file ∈ w.db.trackedFiles.rows, file.drivePairId = pair.id → scanned file.relativePath →
    ¬GoodAt w.disk (pair.copyOn pair.standbyRole file.relativePath) file.checksum → Awaited w.db file.id

theorem queued_of_holds {w : World} {scanned : String → Prop} (holds : Holds pair none ⟨w,none⟩)
    (recorded : ∀ file ∈ w.db.trackedFiles.rows, file.drivePairId = pair.id → scanned file.relativePath →
      ¬Differs pair w.disk file.relativePath file.checksum) : Queued pair w scanned := by
  intro file present own visited stale
  rcases holds.safe file present own (Option.some_ne_none _).symm with (good | waits) | differs
  · exact absurd good stale
  · exact waits
  · exact absurd differs (recorded file present own visited)

/-- In a run that records nothing unsettled, a scan while the standby is there leaves no stale copy without an item:
neither the command, nor change detection, nor, of the files it meets, the scan of a folder. -/
theorem changes_remembered (apart : pair.activePath ≠ pair.standbyPath) {start s : Field} (fresh : Fresh pair start)
    (reached : (machine pair).Reaches (fun l s => Stays pair l s ∧ Settled pair l s) start s) (there : s.shelf = none) :
    (∀ io walk folderId t, emergencyFailoverDue s.world.disk pair = false → FolderOf pair folderId s.world.db →
      scanFolderCommand io walk folderId s.world = .ok () t → Queued pair t fun _ => True) ∧
    (∀ io t, scanAndRecordChanges io pair s.world = .ok () t → Queued pair t fun _ => True) ∧
    ∀ io walk folder t, scanTrackedFolder io walk pair folder s.world = .ok () t →
      Queued pair t fun path => path ∈ visits folder walk.files := by
  have holds := holds_of_reaches apart fresh reached
  have settles (io : Io) (path : String) : Settles pair io s path := by
    left
    rw [accepts_eq fresh.active,holds.root,there]
    rfl
  have final {α : Type} {x : Act α} {a : α} {t : World} (ran : x s.world = .ok a t) (ends : Holds pair none (s.act x)) :
      Holds pair none ⟨t,none⟩ := by
    rw [Field.act,after_of_ok ran,there] at ends
    exact ends
  refine ⟨fun io walk folderId t steady own ran => ?_,fun io t ran => ?_,fun io walk folder t ran => ?_⟩
  · obtain ⟨ends,recorded⟩ := scanFolderCommand_holds walk folderId holds steady own fun _ _ path _ => settles io path
    exact queued_of_holds (final ran ends) fun file present own _ => recorded t ran file present own
  · obtain ⟨ends,recorded⟩ := scanAndRecordChanges_visited holds fun path _ => settles io path
    exact queued_of_holds (final ran ends) fun file present own _ => recorded t ran file present own
  · obtain ⟨ends,visited⟩ := scanTrackedFolder_visited walk folder holds fun path _ => settles io path
    refine queued_of_holds (final ran ends) fun file present own listed => ?_
    obtain ⟨visits,known⟩ := visited t ran
    exact not_differs_of_known io (s := ⟨t,s.shelf⟩) visits.holds.sound present own (known _ listed)

end

/-! One file that changes while the standby is away. -/

def sharedFolder : TrackedFolder := ⟨1,1,"",none,false,false,0,0,false,false,0,0⟩

/-- A folder is tracked, and there is a file in it that is not. -/
def freshField : Field where
  world :=
    { db := { Db.empty with
        drivePairs := Table.empty.insert (fun id => { corruptedPair with id }) key_corruptedPair
        trackedFolders := Table.empty.insert (fun id => { sharedFolder with id }) (fun _ => rfl) }
      disk :=
        { node := fun path =>
            if path.relativePath = driveRootMarker then some ⟨[],none⟩
            else if path = ⟨"/primary","notes.txt"⟩ then some ⟨[1],none⟩
            else none
          available := fun root => root == "/primary" || root == "/secondary" } }
  shelf := none

def notesWalk : Walk := ⟨["notes.txt"],none⟩

theorem fresh_freshField : Fresh corruptedPair freshField := by
  refine ⟨rfl,fun role => ?_,⟨?_,?_⟩,?_,rfl,rfl⟩
  · cases role <;> rfl
  · exact fun _ present => by cases present
  · exact fun _ listed => by cases listed
  · exact fun _ present => by cases present

section
local instance : Blake3 := sampleBlake3

def notesScan : Act Unit := scanFolderCommand Io.healthy notesWalk 1

/-- The file is tracked and copied; then the standby goes away, the file changes, and the change is scanned. -/
def forgottenField : Field :=
  (((Field.edit corruptedPair "notes.txt" (some ⟨[2],none⟩)
    (((freshField.act notesScan).act (processRow Io.healthy 1)).vanish corruptedPair.standbyPath)).act notesScan).appear
      corruptedPair.standbyPath)

theorem reached_forgottenField : (machine corruptedPair).Reaches (Stays corruptedPair) freshField forgottenField := by
  let scan : Step := .scanCommand Io.healthy notesWalk 1
  exact .step .appear (.step scan (.step (.edit "notes.txt" (some ⟨[2],none⟩)) (.step .vanish (.step (.process Io.healthy 1)
    (.step scan .start (by decide) rfl) (by decide) rfl) (by decide) rfl) (by decide) rfl) (by decide) rfl) (by decide) rfl

end

/-- With the standby there again, another scan finds nothing new: the copy stays as it was, and nothing is queued. -/
theorem change_is_forgotten :
    ¬ ∀ (_ : Blake3) (pair : DrivePair) (start s : Field), pair.activePath ≠ pair.standbyPath → Fresh pair start →
      (machine pair).Reaches (Stays pair) start s → s.shelf = none → emergencyFailoverDue s.world.disk pair = false →
      ∀ io walk folderId t, FolderOf pair folderId s.world.db → scanFolderCommand io walk folderId s.world = .ok () t →
        Queued pair t fun _ => True := by
  intro claimed
  let _ := sampleBlake3
  let left : World := after notesScan forgottenField.world
  have ran : scanFolderCommand Io.healthy notesWalk 1 forgottenField.world = .ok () left := rfl
  have queued := claimed sampleBlake3 corruptedPair freshField forgottenField (by decide) fresh_freshField
    reached_forgottenField rfl (by decide) Io.healthy notesWalk 1 left (folderOf_iff.mpr (by decide)) ran
  let changed : TrackedFile := { corruptedFile with trackedDirect := true }
  have present : changed ∈ left.db.trackedFiles.rows := by decide
  have stale : ¬GoodAt left.disk (corruptedPair.copyOn corruptedPair.standbyRole "notes.txt") changed.checksum := by
    have copy : left.disk.node ⟨"/secondary","notes.txt"⟩ = some ⟨[1],none⟩ := by decide
    rintro ⟨node,found,_,same⟩
    cases found.symm.trans copy
    exact absurd same (by decide)
  obtain ⟨item,listed,_,opened⟩ := queued changed present rfl trivial stale
  have rows : left.db.syncQueue.rows = [⟨1,1,.adoptMirror,.completed,none,none⟩] := by decide
  rw [rows] at listed
  rw [List.mem_singleton.mp listed] at opened
  exact opened rfl

section
local instance : Blake3 := sampleBlake3

/-- The same change, seen only when the standby is there again. -/
def returnedField : Field :=
  (Field.edit corruptedPair "notes.txt" (some ⟨[2],none⟩)
    (((freshField.act notesScan).act (processRow Io.healthy 1)).vanish corruptedPair.standbyPath)).appear
      corruptedPair.standbyPath

theorem reached_returnedField : (machine corruptedPair).Reaches
    (fun l s => Stays corruptedPair l s ∧ Settled corruptedPair l s) freshField returnedField := by
  have lasting : Lasting corruptedPair
      (((freshField.act notesScan).act (processRow Io.healthy 1)).vanish corruptedPair.standbyPath) "notes.txt"
      (some ⟨[2],none⟩) := by
    let held : Field := ((freshField.act notesScan).act (processRow Io.healthy 1)).vanish corruptedPair.standbyPath
    have rows : ∀ file ∈ held.world.db.trackedFiles.rows, checksumBytes [2] ≠ file.checksum := by decide
    exact fun file present _ _ => .inr ⟨⟨[2],none⟩,rfl,fun both => rows file present both.2⟩
  have scans : Settled corruptedPair (.scanCommand Io.healthy notesWalk 1) freshField := fun _ _ _ _ => .inl (by decide)
  exact .step .appear (.step (.edit "notes.txt" (some ⟨[2],none⟩)) (.step .vanish (.step (.process Io.healthy 1)
    (.step (.scanCommand Io.healthy notesWalk 1) .start ⟨by decide,scans⟩ rfl) ⟨by decide,trivial⟩ rfl)
      ⟨by decide,trivial⟩ rfl) ⟨by decide,lasting⟩ rfl) ⟨by decide,trivial⟩ rfl

theorem changes_remembered_returned : Queued corruptedPair (after notesScan returnedField.world) fun _ => True :=
  (changes_remembered (by decide) fresh_freshField reached_returnedField rfl).1 Io.healthy notesWalk 1
    (after notesScan returnedField.world) (by decide) (folderOf_iff.mpr (by decide)) rfl

end

end BitProtector.ForgottenChanges
