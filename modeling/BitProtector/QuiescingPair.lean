import BitProtector.PairFrame
import BitProtector.IntegrityPaging
import BitProtector.Foundation.Interleaving

/-! Pairs with a quiescing side. An operation loads its pair in one turn and works with what it
has loaded in the next ones; the pair may become quiescing in between. -/
namespace BitProtector.QuiescingPair
open Effect PairFrame VirtualPath VirtualRetarget VirtualAssignment

/-! The operations. -/

/-- What an operation does once it has loaded its pair. -/
inductive Task
  | trackFile (links : LinkAnswers) (resolve : String → Except String String) (virtualPath : Option String)
  | addFolder (links : LinkAnswers) (resolve : String → Except String String) (isDir : Bool)
      (virtualPath : Option String) (includeChecksumSidecars : Bool)
  | scanFolder (walk : Walk) (folder : TrackedFolder)
  | scanFolderCommand (walk : Walk) (folder : TrackedFolder)
  | mirrorFile (file : TrackedFile)
  | processItem (item : SyncQueueItem) (file : TrackedFile)
  | resolveQueueItem (item : SyncQueueItem) (resolution : String) (newFilePath : Option Location) (file : TrackedFile)
  | checkFile (recover : Bool) (file : TrackedFile)

inductive Phase
  | finished
  | loaded (task : Task) (pair : DrivePair)
  /-- The thread of a folder scan, before it loads its pair. -/
  | scanning (folderId : Nat) (walk : Walk)
  | startMirror (folder : TrackedFolder) (pair : DrivePair)
  | listMirror (folder : TrackedFolder) (pair : DrivePair)
  | mirroringCommand (pair : DrivePair) (files : List TrackedFile)
  | mirroring (folderId processed : Nat) (pair : DrivePair) (files : List TrackedFile)
  | runPairs (recover : Bool) (pairs : List DrivePair)
  | listPage (recover : Bool) (pair : DrivePair) (later : List DrivePair) (page : Nat)
  | recoverFiles (recover : Bool) (pair : DrivePair) (later : List DrivePair) (page : Nat)
      (results : List (TrackedFile × Except String IntegrityCheckResult))

inductive Request
  | trackFile (links : LinkAnswers) (resolve : String → Except String String) (pairId : Nat) (virtualPath : Option String)
  | addFolder (links : LinkAnswers) (resolve : String → Except String String) (isDir : Bool) (pairId : Nat)
      (virtualPath : Option String) (includeChecksumSidecars : Bool)
  | scanFolder (counted walk : Walk) (folderId : Nat)
  | scanFolderCommand (walk : Walk) (folderId : Nat)
  | mirrorFile (fileId : Nat)
  | mirrorFolder (folderId : Nat)
  | mirrorFolderCommand (folderId : Nat)
  | processItem (item : SyncQueueItem)
  | resolveQueueItem (itemId : Nat) (resolution : String) (newFilePath : Option Location)
  | checkFile (recover : Bool) (fileId : Nat)
  | integrityRun (recover : Bool) (scope : Option Nat)
  | setVirtualPath (links : LinkAnswers) (fileId : Nat) (virtualPath : String)
  | setFolderVirtualPath (links : LinkAnswers) (folderId : Nat) (virtualPath : String)
  | deleteFile (fileId : Nat)
  | untrackCommand (fileId : Nat)
  | untrackFolder (folderId : Nat)

/-- What a turn may ask the system, the query planner, the configuration and the virtual tree. -/
structure Answers where
  io : Io
  tieBreak : Nat → Nat
  mmapThresholdBytes : Nat
  stopRequested : Bool
  calls : LinkCalls
  tree : VirtualTree

/-- A call on the links as they are then. -/
def linked {α : Type} (answers : Answers) (x : LinkedAct α) : Act α := fun w =>
  match x ⟨w,answers.tree⟩ with
  | .ok value s => .ok value s.world
  | .error message s => .error message s.world

def opening (answers : Answers) : Request → Act Phase
  | .trackFile links resolve pairId virtualPath => do
    let pair ← BitProtector.loadOperationalPair pairId
    pure (.loaded (.trackFile links resolve virtualPath) pair)
  | .addFolder links resolve isDir pairId virtualPath sidecars => do
    let pair ← BitProtector.loadOperationalPair pairId
    pure (.loaded (.addFolder links resolve isDir virtualPath sidecars) pair)
  | .scanFolder counted walk folderId => do
    let folder ← Act.query (fun db => db.getTrackedFolder folderId)
    let _ ← BitProtector.loadOperationalPair folder.drivePairId
    let totalFiles ← counted.countFolderFiles folder
    let _ ← Act.insertOrFail (fun db => db.startFolderScan folder.id totalFiles)
    pure (.scanning folderId walk)
  | .scanFolderCommand walk folderId => do
    let folder ← Act.query (fun db => db.getTrackedFolder folderId)
    let pair ← BitProtector.loadOperationalPair folder.drivePairId
    pure (.loaded (.scanFolderCommand walk folder) pair)
  | .mirrorFile fileId => do
    let file ← Act.query (fun db => db.getTrackedFile fileId)
    let pair ← BitProtector.loadOperationalPair file.drivePairId
    pure (.loaded (.mirrorFile file) pair)
  | .mirrorFolder folderId => do
    let folder ← Act.query (fun db => db.getTrackedFolder folderId)
    let pair ← BitProtector.loadOperationalPair folder.drivePairId
    pure (.startMirror folder pair)
  | .mirrorFolderCommand folderId => do
    let folder ← Act.query (fun db => db.getTrackedFolder folderId)
    let pair ← BitProtector.loadOperationalPair folder.drivePairId
    pure (.listMirror folder pair)
  | .processItem item => do
    let file ← Act.query (fun db => db.getTrackedFile item.trackedFileId)
    let pair ← BitProtector.loadOperationalPair file.drivePairId
    pure (.loaded (.processItem item file) pair)
  | .resolveQueueItem itemId resolution newFilePath => do
    let item ← Act.query (fun db => db.getSyncQueueItem itemId)
    let action := item.action.asStr
    let status := item.status.asStr
    Act.ensure (item.action == .userActionRequired)
      s!"Queue item #{itemId} has action '{action}'; only 'user_action_required' items can be resolved"
    Act.ensure (item.status == .pending)
      s!"Queue item #{itemId} has status '{status}'; only 'pending' items can be resolved"
    let file ← Act.query (fun db => db.getTrackedFile item.trackedFileId)
    let pair ← BitProtector.loadOperationalPair file.drivePairId
    pure (.loaded (.resolveQueueItem item resolution newFilePath file) pair)
  | .checkFile recover fileId => do
    let file ← Act.query (fun db => db.getTrackedFile fileId)
    let pair ← BitProtector.loadOperationalPair file.drivePairId
    pure (.loaded (.checkFile recover file) pair)
  | .integrityRun recover scope => do
    let pairs ← Act.query (fun db => scopePairs db scope)
    pure (.runPairs recover pairs)
  | .setVirtualPath links fileId virtualPath => do
    BitProtector.setVirtualPath links fileId virtualPath
    pure .finished
  | .setFolderVirtualPath links folderId virtualPath => do
    BitProtector.setFolderVirtualPath links folderId virtualPath
    pure .finished
  | .deleteFile fileId => do
    linked answers (VirtualAssignment.deleteFile answers.calls fileId)
    pure .finished
  | .untrackCommand fileId => do
    linked answers (VirtualAssignment.untrackCommand answers.calls fileId)
    pure .finished
  | .untrackFolder folderId => do
    let _ ← linked answers (FolderProvenance.untrackFolderCascade answers.calls folderId)
    pure .finished

section
variable [Blake3]

def Task.run (answers : Answers) (pair : DrivePair) : Task → Act Unit
  | .trackFile links resolve virtualPath => do
    let relativePath ← Act.query (fun _ => resolve pair.activePath)
    let existing ← attempt (Act.query (fun db => db.getTrackedFileByPath pair.id relativePath))
    let tracked ← BitProtector.trackFile answers.io links pair relativePath virtualPath
    match existing with
    | .ok _ => pure ()
    | .error _ => queueNewTracking pair tracked
  | .addFolder links resolve isDir virtualPath sidecars => do
    let folderPath ← Act.query (fun _ => resolve pair.activePath)
    let _ ← trackFolderWithOptions answers.io links isDir pair folderPath virtualPath sidecars
  | .scanFolder walk folder => do
    let _ ← attempt (scanTrackedFolder answers.io walk pair folder)
    Act.execute (fun db => db.finishFolderScan folder.id)
  | .scanFolderCommand walk folder => do
    autoTrackFolderFiles answers.io walk pair folder
    scanAndRecordChanges answers.io pair
  | .mirrorFile file => mirrorCommandFile answers.io pair file
  | .processItem item file =>
    if pair.isQuiescing then pure ()
    else if item.action = .userActionRequired then pure ()
    else do
      Act.execute (fun db => db.updateSyncQueueStatus item.id .inProgress none)
      let result ← runAction answers.io item.action pair file
      finishItem item file pair result
  | .resolveQueueItem item resolution newFilePath file => do
    let sidecarMismatch := item.reason == some b3SidecarMismatchReason
    Act.ensure (!(sidecarMismatch && !sidecarResolution resolution))
      s!"Reason '{b3SidecarMismatchReason}' requires 'accept_current' or 'untrack'"
    Act.ensure (!(!sidecarMismatch && sidecarResolution resolution))
      s!"Resolution '{resolution}' is only valid when reason is '{b3SidecarMismatchReason}'"
    if resolution = "accept_current" then do
      let _ ← acceptCurrent answers.io item file pair
    else if resolution = "untrack" then do
      let _ ← untrack item file
    else do
      resolutionCopy answers.io file pair resolution newFilePath
      Act.execute (fun db => db.updateSyncQueueStatus item.id .completed none)
      Act.execute (fun db => db.updateTrackedFileMirrorStatus file.id true)
      let _ ← Act.query (fun db => db.getSyncQueueItem item.id)
  | .checkFile recover file => do
    let result ← checkFileIntegrity answers.io pair file .streaming .streaming
    if recover && result.status != .ok then
      let _ ← attemptRecoveryWithReconciliation answers.io pair file result

def Phase.act (answers : Answers) : Phase → Act Phase
  | .finished => pure .finished
  | .loaded task pair => do
    task.run answers pair
    pure .finished
  | .scanning folderId walk => do
    match ← attempt (do
      let folder ← Act.query (fun db => db.getTrackedFolder folderId)
      let pair ← BitProtector.loadOperationalPair folder.drivePairId
      pure (folder,pair)) with
    | .ok found => pure (.loaded (.scanFolder walk found.1) found.2)
    | .error _ => do
      Act.execute (fun db => db.finishFolderScan folderId)
      pure .finished
  | .startMirror folder pair => do
    Act.ensure (← Act.look (fun disk => pair.standbyAcceptsSync disk))
      "Standby drive is not currently available for mirroring"
    let files ← Act.query (fun db => .ok (db.listTrackedFilesUnderFolder pair.id folder.folderPath))
    let queuedFiles := files.filter (fun file => !file.isMirrored)
    let _ ← Act.insertOrFail (fun db => db.startFolderMirror folder.id queuedFiles.length)
    pure (.mirroring folder.id 0 pair queuedFiles)
  | .mirroring folderId _ _ [] => do
    Act.execute (fun db => db.finishFolderMirror folderId)
    pure .finished
  | .mirroring folderId processed pair (file::files) => do
    mirrorFolderFile answers.io pair file
    Act.execute (fun db => db.updateMirrorProgress folderId (processed + 1))
    pure (.mirroring folderId (processed + 1) pair files)
  | .listMirror folder pair => do
    let files ← listMirrorFolder folder pair
    pure (.mirroringCommand pair files)
  | .mirroringCommand _ [] => pure .finished
  | .mirroringCommand pair (file::files) => do
    mirrorCommandFile answers.io pair file
    pure (.mirroringCommand pair files)
  | .runPairs _ [] => pure .finished
  | .runPairs recover (pair::later) => pure (.listPage recover pair later 1)
  | .listPage recover pair later page => do
    let files ← Act.query (fun db =>
      .ok (db.listTrackedFilesOldestIntegrityFirst answers.tieBreak (some pair.id) page perPage))
    if answers.stopRequested then pure .finished
    else if files.isEmpty then pure (.runPairs recover later)
    else do
      let results ← checkFiles answers.io answers.mmapThresholdBytes pair files
      pure (.recoverFiles recover pair later page results)
  | .recoverFiles recover pair later page [] => pure (.listPage recover pair later (page + 1))
  | .recoverFiles recover pair later page ((file,.ok result)::results) => do
    let _ ← (if recover && result.status != .ok then recoverOrNot answers.io pair file result else pure false : Act Bool)
    pure (.recoverFiles recover pair later page results)
  | .recoverFiles recover pair later page ((_,.error _)::results) => pure (.recoverFiles recover pair later page results)

end

/-- An error ends the operation. -/
def settle (x : Act Phase) (w : World) : World × Phase :=
  match x w with
  | .ok phase t => (t,phase)
  | .error _ t => (t,.finished)

theorem settle_world (x : Act Phase) (w : World) : (settle x w).1 = after x w := by
  unfold settle after
  cases x w <;> rfl

inductive Input
  | request (request : Request) (answers : Answers)
  | answers (answers : Answers)

/-- What happens outside of these operations: the drives change, the calls and requests that manage pairs
write their rows and take the flags of a pair down, and other tables change. -/
inductive Event
  | disk (disk : Disk)
  | lifecycle (pairId : Nat) (call : DriveLifecycle.Call)
  | pairs (drivePairs : Table DrivePair)
  | tables (db : Db)

def outside : Event → World → World
  | .disk disk, w => { w with disk }
  | .lifecycle pairId call, w => after (call.run pairId) w
  | .pairs drivePairs, w => { w with db := { w.db with drivePairs } }
  | .tables db, w => { w with db := { db with drivePairs := w.db.drivePairs, trackedFiles := w.db.trackedFiles } }

section
variable [Blake3]

def turn : Input → World → Phase → Option (World × Phase)
  | .request request answers, w, .finished => some (settle (opening answers request) w)
  | .request _ _, _, _ => none
  | .answers _, _, .finished => none
  | .answers answers, w, phase => some (settle (phase.act answers) w)

abbrev State := Interleaved World Phase

def machine : Machine State (Move Input Event) := Interleaved.machine turn outside

def begin (w : World) : State := ⟨w,fun _ => .finished⟩

end

/-! The turns of an operation are those of its route when nothing runs in between. -/

section
variable [Blake3]

/-- The turns that are left, one after the other. -/
def Phase.rest (answers : Answers) : Phase → Act Unit
  | .loaded task pair => task.run answers pair
  | .scanning folderId walk => do
    let next ← (Phase.scanning folderId walk).act answers
    match next with
    | .loaded task pair => task.run answers pair
    | _ => pure ()
  | .startMirror folder pair => do
    let next ← (Phase.startMirror folder pair).act answers
    match next with
    | .mirroring folderId processed pair files => do
      mirrorFolderFiles answers.io pair folderId processed files
      Act.execute (fun db => db.finishFolderMirror folderId)
    | _ => pure ()
  | .listMirror folder pair => do
    let next ← (Phase.listMirror folder pair).act answers
    match next with
    | .mirroringCommand pair files => mirrorCommandFiles answers.io pair files
    | _ => pure ()
  | _ => pure ()

theorem trackFileRoute_turns (answers : Answers) (links : LinkAnswers) (resolve : String → Except String String)
    (pairId : Nat) (virtualPath : Option String) : trackFileRoute answers.io links resolve pairId virtualPath =
      opening answers (.trackFile links resolve pairId virtualPath) >>= Phase.rest answers := by
  simp only [opening,bind_assoc,pure_bind]
  rfl

theorem addFolderRoute_turns (answers : Answers) (links : LinkAnswers) (resolve : String → Except String String)
    (isDir : Bool) (pairId : Nat) (virtualPath : Option String) (sidecars : Bool) :
    addFolderRoute answers.io links resolve isDir pairId virtualPath sidecars =
      opening answers (.addFolder links resolve isDir pairId virtualPath sidecars) >>= Phase.rest answers := by
  simp only [opening,bind_assoc,pure_bind]
  rfl

theorem scanFolderCommand_turns (answers : Answers) (walk : Walk) (folderId : Nat) :
    scanFolderCommand answers.io walk folderId =
      opening answers (.scanFolderCommand walk folderId) >>= Phase.rest answers := by
  simp only [opening,bind_assoc,pure_bind]
  rfl

theorem processItem_turns (answers : Answers) (item : SyncQueueItem) :
    processItem answers.io item = opening answers (.processItem item) >>= Phase.rest answers := by
  simp only [opening,bind_assoc,pure_bind]
  rfl

theorem mirrorFileRoute_turns (answers : Answers) (fileId : Nat) :
    mirrorFileRoute answers.io fileId = opening answers (.mirrorFile fileId) >>= Phase.rest answers := by
  simp only [opening,bind_assoc,pure_bind]
  funext w
  cases read : Act.query (fun db => db.getTrackedFile fileId) w with
  | error message t => rw [mirrorFileRoute,bind_of_error read,bind_of_error read]
  | ok file t =>
    obtain ⟨found,_⟩ := Act.query_success read
    obtain rfl : file.id = fileId := Table.find?_key (Db.getTrackedFile_ok.mp found)
    rw [mirrorFileRoute,bind_of_ok read,bind_of_ok read]
    rfl

theorem mirrorFolderFiles_turn (answers : Answers) (pair : DrivePair) (folderId processed : Nat) (file : TrackedFile)
    (files : List TrackedFile) : mirrorFolderFiles answers.io pair folderId processed (file::files) = (do
      let _ ← (Phase.mirroring folderId processed pair (file::files)).act answers
      mirrorFolderFiles answers.io pair folderId (processed + 1) files) := by
  simp only [Phase.act,bind_assoc,pure_bind]
  rfl

theorem mirrorFolderCommand_turns (answers : Answers) (folderId : Nat) :
    mirrorFolderCommand answers.io folderId = opening answers (.mirrorFolderCommand folderId) >>= Phase.rest answers := by
  simp only [opening,mirrorFolderCommand,Phase.rest,Phase.act,bind_assoc,pure_bind]

theorem mirrorCommandFiles_turn (answers : Answers) (pair : DrivePair) (file : TrackedFile) (files : List TrackedFile) :
    mirrorCommandFiles answers.io pair (file::files) = (do
      let _ ← (Phase.mirroringCommand pair (file::files)).act answers
      mirrorCommandFiles answers.io pair files) := by
  simp only [Phase.act,bind_assoc,pure_bind]
  rfl

theorem mirrorFolder_turns (answers : Answers) (folderId : Nat) :
    mirrorFolder answers.io folderId = opening answers (.mirrorFolder folderId) >>= Phase.rest answers := by
  simp only [opening,bind_assoc,pure_bind,mirrorFolder,startMirrorFolder,Phase.rest,Phase.act]
  funext w
  cases read : Act.query (fun db => db.getTrackedFolder folderId) w with
  | error message t => rw [bind_of_error read,bind_of_error read]
  | ok folder t =>
    obtain ⟨found,_⟩ := Act.query_success read
    obtain rfl : folder.id = folderId := by
      unfold Db.getTrackedFolder at found
      split at found
      · rename_i row there
        cases found
        exact Table.find?_key there
      · cases found
    rw [bind_of_ok read,bind_of_ok read]

end

/-! What the operations in flight have read. -/

def Task.files : Task → List TrackedFile
  | .mirrorFile file | .processItem _ file | .resolveQueueItem _ _ _ file | .checkFile _ file => [file]
  | .trackFile .. | .addFolder .. | .scanFolder .. | .scanFolderCommand .. => []

def Phase.pairs : Phase → List DrivePair
  | .finished | .scanning _ _ => []
  | .loaded _ pair | .startMirror _ pair | .mirroring _ _ pair _ | .listMirror _ pair | .mirroringCommand pair _ => [pair]
  | .runPairs _ pairs => pairs
  | .listPage _ pair later _ | .recoverFiles _ pair later _ _ => pair::later

/-- The pair that the next turn works with. -/
def Phase.acting : Phase → Option DrivePair
  | .finished | .scanning _ _ | .runPairs _ _ => none
  | .loaded _ pair | .startMirror _ pair | .mirroring _ _ pair _ | .listMirror _ pair | .mirroringCommand pair _ |
    .listPage _ pair _ _ | .recoverFiles _ pair _ _ _ => some pair

theorem Phase.acting_mem {phase : Phase} {pair : DrivePair} (acts : phase.acting = some pair) : pair ∈ phase.pairs := by
  cases phase <;> cases acts <;> exact List.mem_cons_self

def Phase.files : Phase → List TrackedFile
  | .loaded task _ => task.files
  | .mirroring _ _ _ files | .mirroringCommand _ files => files
  | .recoverFiles _ _ _ _ results => results.map Prod.fst
  | .finished | .scanning _ _ | .startMirror _ _ | .listMirror _ _ | .runPairs _ _ | .listPage _ _ _ _ => []

/-! What the next turn may write. -/

def Task.Writes (pair : DrivePair) : Task → Location → Prop
  | .trackFile .., path | .addFolder .., path => IsMarker pair path
  | .scanFolder .., _ | .scanFolderCommand .., _ => False
  | .mirrorFile file, path | .processItem _ file, path | .checkFile _ file, path => Touches pair file.relativePath path
  | .resolveQueueItem _ _ _ file, path => Touches pair file.relativePath path ∨ IsSidecar pair file path

def Phase.Writes : Phase → Location → Prop
  | .loaded task pair, path => task.Writes pair path
  | .mirroring _ _ pair (file::_), path | .mirroringCommand pair (file::_), path |
    .recoverFiles _ pair _ _ ((file,_)::_), path => Touches pair file.relativePath path
  | _, _ => False

/-- A file of the pair, and one that still is of it if it is there. -/
def Owned (db : Db) (pairId : Nat) (file : TrackedFile) : Prop :=
  file.id ≤ db.trackedFiles.lastId ∧ ∀ row, db.trackedFiles.find? file.id = some row → row.drivePairId = pairId

theorem Owned.kept {db next : Db} {pairId : Nat} {file : TrackedFile} (owned : Owned db pairId file)
    (kept : PairsOfFilesKept db next) : Owned next pairId file := by
  refine ⟨owned.1.trans kept.lastId,fun row found => ?_⟩
  obtain ⟨old,there,same⟩ := kept.rows file.id row found owned.1
  exact same.symm.trans (owned.2 old there)

theorem owned_of_found {db : Db} {id : Nat} {file : TrackedFile} (found : db.trackedFiles.find? id = some file) :
    Owned db file.drivePairId file := by
  have key : file.id = id := Table.find?_key found
  refine ⟨db.trackedFiles.bounded file (Table.mem_of_find? found),fun row there => ?_⟩
  rw [key,found] at there
  cases there
  rfl

def Held (db : Db) (phase : Phase) : Prop := ∀ pair, phase.acting = some pair → ∀ file ∈ phase.files, Owned db pair.id file

theorem Held.kept {db next : Db} {phase : Phase} (held : Held db phase) (kept : PairsOfFilesKept db next) :
    Held next phase := fun pair acts file member => (held pair acts file member).kept kept

theorem Held.foreign {db : Db} {phase : Phase} {pair : DrivePair} {pairId : Nat} (held : Held db phase)
    (acts : phase.acting = some pair) (other : pair.id ≠ pairId) :
    Foreign pairId (phase.files.map TrackedFile.id) db := by
  intro id member row found own
  obtain ⟨file,there,rfl⟩ := List.mem_map.mp member
  exact other (((held pair acts file there).2 row found).symm.trans own)

/-- While the pair is quiescing, what has been read of it says so. -/
def Agrees (pairId : Nat) (db : Db) (phase : Phase) : Prop :=
  Quiescing pairId db → ∀ pair ∈ phase.pairs, pair.id = pairId → pair.isQuiescing = true

theorem agrees_of_row {pairId : Nat} {db : Db} {pair : DrivePair} (row : db.drivePairs.find? pair.id = some pair)
    (quiescing : Quiescing pairId db) (own : pair.id = pairId) : pair.isQuiescing = true := by
  obtain ⟨there,found,state⟩ := quiescing
  rw [← own,row,Option.some.injEq] at found
  rwa [found]

/-! The opening of an operation. -/

theorem load_row {id : Nat} {pair : DrivePair} {w t : World} (ok : BitProtector.loadOperationalPair id w = .ok pair t) :
    pair.id = id ∧ t.db.drivePairs.find? pair.id = some pair := by
  obtain ⟨old,read,rfl,rfl⟩ := loadOperationalPair_success ok
  have row := find?_operational read w.disk
  have key : (old.operational w.disk).id = id := Table.find?_key row
  exact ⟨key,key.symm ▸ row⟩

/-- What an opening returns agrees with the tables. -/
structure Opens (w t : World) (phase : Phase) : Prop where
  held : Held w.db phase
  rows : ∀ pair ∈ phase.pairs, t.db.drivePairs.find? pair.id = some pair

theorem opens_bare {w t : World} {phase : Phase} (pairs : phase.pairs = []) : Opens w t phase := by
  refine ⟨fun pair acts => ?_,fun pair member => ?_⟩
  · have member := Phase.acting_mem acts
    rw [pairs] at member
    exact absurd member List.not_mem_nil
  · rw [pairs] at member
    exact absurd member List.not_mem_nil

theorem opens_pair {id : Nat} {next : DrivePair → Phase} {phase : Phase} {w t : World}
    (pairs : ∀ pair, (next pair).pairs = [pair]) (files : ∀ pair, (next pair).files = [])
    (ok : (do let pair ← BitProtector.loadOperationalPair id; pure (next pair) : Act Phase) w = .ok phase t) :
    Opens w t phase := by
  obtain ⟨pair,u,loaded,ended⟩ := bind_success ok
  cases ended
  refine ⟨fun _ _ file member => ?_,fun one member => ?_⟩
  · rw [files] at member
    exact absurd member List.not_mem_nil
  · rw [pairs,List.mem_singleton] at member
    rw [member]
    exact (load_row loaded).2

theorem opens_folder {folderId : Nat} {next : TrackedFolder → DrivePair → Phase} {phase : Phase} {w t : World}
    (pairs : ∀ folder pair, (next folder pair).pairs = [pair]) (files : ∀ folder pair, (next folder pair).files = [])
    (ok : (do
      let folder ← Act.query (fun db => db.getTrackedFolder folderId)
      let pair ← BitProtector.loadOperationalPair folder.drivePairId
      pure (next folder pair) : Act Phase) w = .ok phase t) : Opens w t phase := by
  obtain ⟨folder,u,read,rest⟩ := bind_success ok
  obtain ⟨_,rfl⟩ := Act.query_success read
  exact opens_pair (pairs folder) (files folder) rest

theorem opens_file {fileId : Nat} {task : TrackedFile → Task} {phase : Phase} {w t : World}
    (files : ∀ file, (task file).files = [file])
    (ok : (do
      let file ← Act.query (fun db => db.getTrackedFile fileId)
      let pair ← BitProtector.loadOperationalPair file.drivePairId
      pure (.loaded (task file) pair) : Act Phase) w = .ok phase t) : Opens w t phase := by
  obtain ⟨file,u,read,rest⟩ := bind_success ok
  obtain ⟨found,rfl⟩ := Act.query_success read
  obtain ⟨pair,v,loaded,ended⟩ := bind_success rest
  cases ended
  obtain ⟨same,row⟩ := load_row loaded
  refine ⟨fun one acts other member => ?_,fun one member => ?_⟩
  · cases acts
    rw [Phase.files,files,List.mem_singleton] at member
    rw [member,same]
    exact owned_of_found (Db.getTrackedFile_ok.mp found)
  · rw [List.mem_singleton.mp member]
    exact row

theorem opening_opens {answers : Answers} {request : Request} {phase : Phase} {w t : World}
    (ok : opening answers request w = .ok phase t) : Opens w t phase := by
  have ends {x : Act PUnit} (ran : (do x; pure .finished : Act Phase) w = .ok phase t) : Opens w t phase := by
    obtain ⟨_,_,_,ended⟩ := bind_success ran
    cases ended
    exact opens_bare rfl
  cases request with
  | trackFile links resolve pairId virtualPath => exact opens_pair (fun _ => rfl) (fun _ => rfl) ok
  | addFolder links resolve isDir pairId virtualPath sidecars => exact opens_pair (fun _ => rfl) (fun _ => rfl) ok
  | scanFolder counted walk folderId =>
    obtain ⟨_,_,_,ok⟩ := bind_success ok
    obtain ⟨_,_,_,ok⟩ := bind_success ok
    obtain ⟨_,_,_,ok⟩ := bind_success ok
    obtain ⟨_,_,_,ok⟩ := bind_success ok
    cases ok
    exact opens_bare rfl
  | scanFolderCommand walk folderId => exact opens_folder (fun _ _ => rfl) (fun _ _ => rfl) ok
  | mirrorFile fileId => exact opens_file (fun _ => rfl) ok
  | mirrorFolder folderId => exact opens_folder (fun _ _ => rfl) (fun _ _ => rfl) ok
  | mirrorFolderCommand folderId => exact opens_folder (fun _ _ => rfl) (fun _ _ => rfl) ok
  | processItem item => exact opens_file (fun _ => rfl) ok
  | resolveQueueItem itemId resolution newFilePath =>
    obtain ⟨item,_,read,asks⟩ := bind_success ok
    obtain ⟨_,rfl⟩ := Act.query_success read
    dsimp only at asks
    obtain ⟨_,_,action,waits⟩ := bind_success asks
    obtain ⟨_,rfl⟩ := Act.ensure_success action
    obtain ⟨_,_,status,loads⟩ := bind_success waits
    obtain ⟨_,rfl⟩ := Act.ensure_success status
    exact opens_file (fun _ => rfl) loads
  | checkFile recover fileId => exact opens_file (fun _ => rfl) ok
  | integrityRun recover scope =>
    obtain ⟨pairs,_,read,ended⟩ := bind_success ok
    obtain ⟨found,rfl⟩ := Act.query_success read
    cases ended
    exact ⟨nofun,fun pair member => scopePairs_rows found pair member⟩
  | setVirtualPath links fileId virtualPath => exact ends ok
  | setFolderVirtualPath links folderId virtualPath => exact ends ok
  | deleteFile fileId => exact ends ok
  | untrackCommand fileId => exact ends ok
  | untrackFolder folderId =>
    obtain ⟨_,_,_,ended⟩ := bind_success ok
    cases ended
    exact opens_bare rfl

section
variable {pairId : Nat} {inside : Location → Prop} {ids : List Nat}

theorem spares_linked {α : Type} (answers : Answers) {x : LinkedAct α}
    (inner : Keeps (LinkedSpares pairId inside ids) x) :
    Keeps (Spares pairId inside ids) (linked answers x) := by
  intro w
  have spared := inner ⟨w,answers.tree⟩
  unfold LinkedSpares after at spared
  unfold after linked
  cases ran : x ⟨w,answers.tree⟩ <;> simpa only [ran] using spared

theorem opening_spares (answers : Answers) (request : Request) :
    Keeps (Spares pairId inside ids) (opening answers request) := by
  have loads {id : Nat} {next : DrivePair → Phase} : Keeps (Spares pairId inside ids)
      (do let pair ← BitProtector.loadOperationalPair id; pure (next pair)) :=
    keeps_bind (spares_load id) fun _ => keeps_pure _
  have ends {x : Act PUnit} (first : Keeps (Spares pairId inside ids) x) :
      Keeps (Spares pairId inside ids) (do x; pure Phase.finished) :=
    keeps_bind first fun _ => keeps_pure _
  cases request with
  | trackFile links resolve pairId virtualPath => exact loads
  | addFolder links resolve isDir pairId virtualPath sidecars => exact loads
  | scanFolder counted walk folderId =>
    refine keeps_bind (spares_query _) fun folder => keeps_bind (spares_load _) fun _ => ?_
    refine keeps_bind (keeps_bind (spares_finish counted) fun _ => keeps_pure _) fun total => ?_
    refine keeps_bind ?_ fun _ => keeps_pure _
    apply spares_insertOrFail
    · exact fun db => MarkerOrder.startFolderScan_pairs db _ _
    · intro db
      apply filesSpared_of_eq
      unfold Db.startFolderScan
      split <;> rfl
  | scanFolderCommand walk folderId => exact keeps_bind (spares_query _) fun _ => loads
  | mirrorFile fileId => exact keeps_bind (spares_query _) fun _ => loads
  | mirrorFolder folderId => exact keeps_bind (spares_query _) fun _ => loads
  | mirrorFolderCommand folderId => exact keeps_bind (spares_query _) fun _ => loads
  | processItem item => exact keeps_bind (spares_query _) fun _ => loads
  | resolveQueueItem itemId resolution newFilePath =>
    refine keeps_bind (spares_query _) fun item => keeps_bind (spares_ensure _ _) fun _ => ?_
    exact keeps_bind (spares_ensure _ _) fun _ => keeps_bind (spares_query _) fun _ => loads
  | checkFile recover fileId => exact keeps_bind (spares_query _) fun _ => loads
  | integrityRun recover scope => exact keeps_bind (spares_query _) fun _ => keeps_pure _
  | setVirtualPath links fileId virtualPath => exact ends (spares_setVirtualPath links fileId virtualPath)
  | setFolderVirtualPath links folderId virtualPath => exact ends (spares_setFolderVirtualPath links folderId virtualPath)
  | deleteFile fileId => exact ends (spares_linked answers (spares_deleteFile answers.calls fileId))
  | untrackCommand fileId => exact ends (spares_linked answers (spares_untrackCommand answers.calls fileId))
  | untrackFolder folderId =>
    refine keeps_bind ?_ fun _ => keeps_pure _
    exact spares_linked answers (spares_untrackFolderCascade answers.calls folderId)

end

/-! A turn of an operation with another pair. -/

section
variable [Blake3] {pairId : Nat} {inside : Location → Prop} {ids : List Nat} {pair : DrivePair}

theorem spares_checkFileIntegrity (io : Io) (pair : DrivePair) (file : TrackedFile)
    (masterStrategy mirrorStrategy : ChecksumStrategy) :
    Keeps (Spares pairId inside ids) (checkFileIntegrity io pair file masterStrategy mirrorStrategy) :=
  spares_still fun w => checkFileIntegrity_after io w pair file masterStrategy mirrorStrategy

theorem spares_mirrorCommandFile (io : Io) {file : TrackedFile}
    (clear : ∀ path, Touches pair file.relativePath path → ¬inside path) (listed : file.id ∈ ids) :
    Keeps (Spares pairId inside ids) (mirrorCommandFile io pair file) := by
  refine keeps_bind (spares_below clear (below_mirrorFile io pair file.relativePath)) fun _ => ?_
  refine keeps_bind (spares_flag listed true) fun _ => ?_
  exact spares_quiet (fun _ => rfl) fun _ => rfl

theorem task_spares (answers : Answers) {task : Task} (other : pair.id ≠ pairId)
    (clear : ∀ path, task.Writes pair path → ¬inside path) (listed : ∀ file ∈ task.files, file.id ∈ ids) :
    Keeps (Spares pairId inside ids) (task.run answers pair) := by
  cases task with
  | trackFile links resolve virtualPath =>
    refine keeps_bind (spares_query _) fun relativePath => ?_
    refine keeps_bind (keeps_attempt (spares_query _)) fun existing => ?_
    refine keeps_bind (spares_trackFile other clear answers.io links relativePath virtualPath) fun tracked => ?_
    cases existing with
    | ok _ => exact keeps_pure _
    | error _ => exact spares_queueNewTracking pair tracked
  | addFolder links resolve isDir virtualPath sidecars =>
    refine keeps_bind (spares_query _) fun folderPath => ?_
    exact spares_discard (spares_trackFolderWithOptions clear answers.io links isDir folderPath virtualPath sidecars)
  | scanFolder walk folder =>
    refine keeps_bind (keeps_attempt (spares_scanTrackedFolder other answers.io walk folder)) fun _ => ?_
    exact spares_quiet (fun _ => rfl) fun _ => rfl
  | scanFolderCommand walk folder =>
    refine keeps_bind (spares_autoTrackFolderFiles other answers.io walk folder) fun _ => ?_
    exact spares_scanAndRecordChanges other answers.io
  | mirrorFile file => exact spares_mirrorCommandFile answers.io clear (listed file List.mem_cons_self)
  | processItem item file =>
    rw [Task.run]
    split
    · exact keeps_pure _
    · split
      · exact keeps_pure _
      · refine keeps_bind (spares_quiet (fun _ => rfl) fun _ => rfl) fun _ => ?_
        refine keeps_bind (spares_below clear (below_runAction answers.io item.action pair file)) fun result => ?_
        exact spares_finishItem other item (listed file List.mem_cons_self) result
  | resolveQueueItem item resolution newFilePath file =>
    refine keeps_bind (spares_ensure _ _) fun _ => keeps_bind (spares_ensure _ _) fun _ => ?_
    split
    · exact spares_discard (spares_acceptCurrent answers.io item fun path sidecar => clear path (.inr sidecar))
    · split
      · exact spares_discard (spares_untrack item file)
      · refine keeps_bind ?_ fun _ => ?_
        · refine spares_below (fun path touches => clear path (.inl touches)) ?_
          exact below_resolutionCopy answers.io file pair resolution newFilePath
        · refine keeps_bind (spares_quiet (fun _ => rfl) fun _ => rfl) fun _ => ?_
          exact keeps_bind (spares_flag (listed file List.mem_cons_self) true) fun _ => spares_discard (spares_query _)
  | checkFile recover file =>
    refine keeps_bind (spares_checkFileIntegrity _ _ _ _ _) fun result => ?_
    split
    · exact spares_discard (spares_recovery answers.io clear (listed file List.mem_cons_self) result)
    · exact keeps_pure _

theorem spares_recoverOrNot (io : Io) {file : TrackedFile}
    (clear : ∀ path, Touches pair file.relativePath path → ¬inside path) (listed : file.id ∈ ids)
    (result : IntegrityCheckResult) : Keeps (Spares pairId inside ids) (recoverOrNot io pair file result) := by
  refine keeps_bind (keeps_attempt (spares_recovery io clear listed result)) fun recovered => ?_
  cases recovered with
  | ok _ => exact keeps_pure _
  | error _ => exact keeps_pure _

theorem spares_startMirror (answers : Answers) (folder : TrackedFolder) (pair : DrivePair) :
    Keeps (Spares pairId inside ids) ((Phase.startMirror folder pair).act answers) := by
  refine keeps_bind (spares_look _) fun _ => keeps_bind (spares_ensure _ _) fun _ => ?_
  refine keeps_bind (spares_query _) fun files => ?_
  exact keeps_bind (spares_startFolderMirror _ _) fun _ => keeps_pure _

theorem spares_scanning (answers : Answers) (folderId : Nat) (walk : Walk) :
    Keeps (Spares pairId inside ids) ((Phase.scanning folderId walk).act answers) := by
  refine keeps_bind (keeps_attempt ?_) fun found => ?_
  · refine keeps_bind (spares_query _) fun folder => keeps_bind (spares_load _) fun pair => ?_
    exact keeps_pure _
  · cases found with
    | ok found => exact keeps_pure _
    | error _ => exact keeps_bind (spares_quiet (fun _ => rfl) fun _ => rfl) fun _ => keeps_pure _

theorem spares_listPage (answers : Answers) (recover : Bool) (pair : DrivePair) (later : List DrivePair) (page : Nat) :
    Keeps (Spares pairId inside ids) ((Phase.listPage recover pair later page).act answers) := by
  refine keeps_bind (spares_query _) fun files => ?_
  split
  · exact keeps_pure _
  · split
    · exact keeps_pure _
    · refine keeps_bind (spares_still fun w => ?_) fun _ => keeps_pure _
      obtain ⟨results,checked,_⟩ := checkFiles_of answers.io answers.mmapThresholdBytes pair files w
      exact after_of_ok checked

theorem spares_listMirror (answers : Answers) (folder : TrackedFolder) (pair : DrivePair) :
    Keeps (Spares pairId inside ids) ((Phase.listMirror folder pair).act answers) := by
  refine keeps_bind ?_ fun _ => keeps_pure _
  refine keeps_bind (spares_look _) fun _ => keeps_bind (spares_ensure _ _) fun _ => ?_
  exact keeps_bind (spares_query _) fun _ => keeps_pure _

theorem act_spares (answers : Answers) {phase : Phase} (other : ∀ pair, phase.acting = some pair → pair.id ≠ pairId)
    (clear : ∀ path, phase.Writes path → ¬inside path) (listed : ∀ file ∈ phase.files, file.id ∈ ids) :
    Keeps (Spares pairId inside ids) (phase.act answers) := by
  cases phase with
  | finished => exact keeps_pure _
  | loaded task pair =>
    exact keeps_bind (task_spares answers (other pair rfl) clear listed) fun _ => keeps_pure _
  | scanning folderId walk => exact spares_scanning answers folderId walk
  | startMirror folder pair => exact spares_startMirror answers folder pair
  | listMirror folder pair => exact spares_listMirror answers folder pair
  | mirroringCommand pair files =>
    cases files with
    | nil => exact keeps_pure _
    | cons file files =>
      refine keeps_bind ?_ fun _ => keeps_pure _
      exact spares_mirrorCommandFile answers.io clear (listed file List.mem_cons_self)
  | mirroring folderId processed pair files =>
    cases files with
    | nil => exact keeps_bind (spares_quiet (fun _ => rfl) fun _ => rfl) fun _ => keeps_pure _
    | cons file files =>
      refine keeps_bind ?_ fun _ => ?_
      · exact spares_mirrorFolderFile answers.io clear (listed file List.mem_cons_self)
      · exact keeps_bind (spares_quiet (fun _ => rfl) fun _ => rfl) fun _ => keeps_pure _
  | runPairs recover pairs => cases pairs <;> exact keeps_pure _
  | listPage recover pair later page => exact spares_listPage answers recover pair later page
  | recoverFiles recover pair later page results =>
    cases results with
    | nil => exact keeps_pure _
    | cons first results =>
      obtain ⟨file,checked⟩ := first
      cases checked with
      | error _ => exact keeps_pure _
      | ok result =>
        refine keeps_bind ?_ fun _ => keeps_pure _
        split
        · exact spares_recoverOrNot answers.io clear (listed file List.mem_cons_self) result
        · exact keeps_pure _

/-! What a turn hands on. -/

/-- The pairs of the next turn are those of this one, or read from the tables. -/
structure HandsOn (w t : World) (phase next : Phase) : Prop where
  held : Held w.db phase → Held w.db next
  rows : ∀ pair ∈ next.pairs, pair ∈ phase.pairs ∨ t.db.drivePairs.find? pair.id = some pair

omit [Blake3] in
theorem handsOn_finished {w t : World} {phase : Phase} : HandsOn w t phase .finished := ⟨fun _ => nofun,nofun⟩

theorem act_handsOn {answers : Answers} {phase next : Phase} {w t : World} (ok : phase.act answers w = .ok next t) :
    HandsOn w t phase next := by
  have ends {x : Act PUnit} (ran : (do x; pure .finished : Act Phase) w = .ok next t) : HandsOn w t phase next := by
    obtain ⟨_,_,_,ended⟩ := bind_success ran
    cases ended
    exact handsOn_finished
  cases phase with
  | finished =>
    cases ok
    exact handsOn_finished
  | loaded task pair => exact ends ok
  | scanning folderId walk =>
    obtain ⟨found,u,ran,rest⟩ := bind_success ok
    cases found with
    | error _ =>
      obtain ⟨_,_,_,ended⟩ := bind_success rest
      cases ended
      exact handsOn_finished
    | ok found =>
      obtain ⟨folder,_,_,loads⟩ := bind_success (attempt_success ran)
      obtain ⟨pair,_,loaded,ended⟩ := bind_success loads
      cases ended
      cases rest
      refine ⟨fun _ _ _ file member => absurd member List.not_mem_nil,fun one member => .inr ?_⟩
      rw [List.mem_singleton.mp member]
      exact (load_row loaded).2
  | startMirror folder pair =>
    obtain ⟨_,_,looked,rest⟩ := bind_success ok
    cases looked
    obtain ⟨_,_,accepts,lists⟩ := bind_success rest
    obtain ⟨_,rfl⟩ := Act.ensure_success accepts
    obtain ⟨files,_,listed,starts⟩ := bind_success lists
    obtain ⟨all,rfl⟩ := Act.query_success listed
    cases all
    obtain ⟨_,_,_,ended⟩ := bind_success starts
    cases ended
    refine ⟨fun _ one acts file member => ?_,fun one member => .inl member⟩
    cases acts
    obtain ⟨row,mine⟩ := Db.mem_listTrackedFilesOfPair.mp (List.mem_filter.mp (List.mem_filter.mp member).1).1
    exact mine ▸ owned_of_found row
  | listMirror folder pair =>
    obtain ⟨files,_,listed,ended⟩ := bind_success ok
    cases ended
    obtain ⟨_,_,looked,rest⟩ := bind_success listed
    cases looked
    obtain ⟨_,_,accepts,lists⟩ := bind_success rest
    obtain ⟨_,rfl⟩ := Act.ensure_success accepts
    obtain ⟨_,_,found,filters⟩ := bind_success lists
    obtain ⟨all,rfl⟩ := Act.query_success found
    cases all
    cases filters
    refine ⟨fun _ one acts file member => ?_,fun one member => .inl member⟩
    cases acts
    obtain ⟨row,mine⟩ := Db.mem_listTrackedFilesOfPair.mp (List.mem_filter.mp (List.mem_filter.mp member).1).1
    exact mine ▸ owned_of_found row
  | mirroringCommand pair files =>
    cases files with
    | nil =>
      cases ok
      exact handsOn_finished
    | cons file files =>
      obtain ⟨_,_,_,ended⟩ := bind_success ok
      cases ended
      refine ⟨fun held one acts other member => ?_,fun one member => .inl member⟩
      cases acts
      exact held pair rfl other (List.mem_cons_of_mem _ member)
  | mirroring folderId processed pair files =>
    cases files with
    | nil => exact ends ok
    | cons file files =>
      obtain ⟨_,_,_,rest⟩ := bind_success ok
      obtain ⟨_,_,_,ended⟩ := bind_success rest
      cases ended
      refine ⟨fun held one acts file member => ?_,fun one member => .inl member⟩
      cases acts
      exact held pair rfl file (List.mem_cons_of_mem _ member)
  | runPairs recover pairs =>
    cases pairs with
    | nil =>
      cases ok
      exact handsOn_finished
    | cons pair later =>
      cases ok
      exact ⟨fun _ _ _ file member => absurd member List.not_mem_nil,fun one member => .inl member⟩
  | listPage recover pair later page =>
    obtain ⟨files,u,read,rest⟩ := bind_success ok
    obtain ⟨listed,same⟩ := Act.query_success read
    subst u
    split at rest
    · cases rest
      exact handsOn_finished
    · split at rest
      · cases rest
        exact ⟨fun _ => nofun,fun one member => .inl (List.mem_cons_of_mem _ member)⟩
      · obtain ⟨results,_,checked,ended⟩ := bind_success rest
        cases ended
        obtain ⟨_,again,kept⟩ := checkFiles_of answers.io answers.mmapThresholdBytes pair files w
        rw [again] at checked
        cases checked
        refine ⟨fun _ one acts file member => ?_,fun one member => .inl member⟩
        cases acts
        rw [Phase.files,kept,← Except.ok.inj listed] at member
        obtain ⟨row,there,mine⟩ := Db.members_iff.mp (w.db.listPage_subset _ _ _ _ member).1
        have owned := owned_of_found there
        have key : row.id = file.id := Table.find?_key there
        rw [mine,Owned,key] at owned
        exact owned
  | recoverFiles recover pair later page results =>
    cases results with
    | nil =>
      cases ok
      exact ⟨fun _ _ _ file member => absurd member List.not_mem_nil,fun one member => .inl member⟩
    | cons first results =>
      obtain ⟨file,checked⟩ := first
      have passed (ended : next = .recoverFiles recover pair later page results) :
          HandsOn w t (.recoverFiles recover pair later page ((file,checked)::results)) next := by
        subst ended
        refine ⟨fun held one acts other member => ?_,fun one member => .inl member⟩
        cases acts
        exact held pair rfl other (List.mem_cons_of_mem _ member)
      cases checked with
      | error _ =>
        cases ok
        exact passed rfl
      | ok result =>
        obtain ⟨_,_,_,ended⟩ := bind_success ok
        cases ended
        exact passed rfl

end

/-! A turn of an operation with the quiescing pair itself. -/

/-- A task that is refused for a quiescing pair, or harmless. -/
def Task.Mild (pair : DrivePair) (disk : Disk) : Task → Prop
  | .mirrorFile _ => pair.standbyAcceptsSync disk = false
  | .resolveQueueItem item resolution _ _ =>
    resolution = "untrack" ∨ (item.reason == some b3SidecarMismatchReason) ≠ sidecarResolution resolution
  | _ => True

def Phase.Mild (disk : Disk) : Phase → Prop
  | .loaded task pair => task.Mild pair disk
  | .mirroring _ _ pair (_::_) | .mirroringCommand pair (_::_) => pair.standbyAcceptsSync disk = false
  | _ => True

theorem isDegraded_of_quiescing {pair : DrivePair} (quiescing : pair.isQuiescing = true) : pair.isDegraded = true := by
  by_contra whole
  obtain ⟨primary,secondary⟩ := pair.isDegraded_iff.mp (Bool.not_eq_true _ ▸ whole)
  rw [DrivePair.isQuiescing,primary,secondary] at quiescing
  cases quiescing

section
variable {pairId : Nat} {inside : Location → Prop} {ids : List Nat} {pair : DrivePair}

theorem guard_refuses (quiescing : pair.isQuiescing = true) (w : World) :
    ∃ message, Act.query (fun _ => requirePairMutationAllowed pair) w = .error message w := by
  have refused : ∃ message, requirePairMutationAllowed pair = .error message := ⟨_,if_pos quiescing⟩
  obtain ⟨message,refused⟩ := refused
  exact ⟨message,by rw [Act.query,refused]⟩

theorem spares_refused {α : Type} {f : Unit → Act α} (quiescing : pair.isQuiescing = true) :
    Keeps (Spares pairId inside ids) (Act.query (fun _ => requirePairMutationAllowed pair) >>= f) := by
  intro w
  obtain ⟨message,failed⟩ := guard_refuses quiescing w
  rw [after_bind_of_error failed]
  exact refl_of (Spares pairId inside ids) w

variable [Blake3]

theorem mirrorFile_refused {w : World} (refuses : pair.standbyAcceptsSync w.disk = false) (io : Io)
    (relativePath : String) : ∃ message, mirrorFile io pair relativePath w = .error message w := by
  have stops : ∃ message, prepareMirror io pair relativePath w = .error message w := by
    unfold prepareMirror
    dsimp only
    rw [bind_of_ok (Act.look_apply _ w),refuses]
    exact ⟨_,bind_of_error rfl _⟩
  obtain ⟨message,failed⟩ := stops
  exact ⟨message,bind_of_error failed _⟩

theorem spares_mirrorFolderFile_refused {w : World} (refuses : pair.standbyAcceptsSync w.disk = false) (io : Io)
    (file : TrackedFile) : Spares pairId inside ids w (after (mirrorFolderFile io pair file) w) := by
  let begun : World := { w with db := w.db.startPendingMirrorQueueForFile file.id }
  have started : Spares pairId inside ids w begun := spares_of_tables rfl (filesSpared_of_eq rfl)
  have refuses : pair.standbyAcceptsSync begun.disk = false := refuses
  obtain ⟨message,refused⟩ := mirrorFile_refused refuses io file.relativePath
  unfold mirrorFolderFile
  rw [after_bind_of_ok (Act.execute_apply _ w),after_bind_of_ok (attempt_of_error refused)]
  have failed : Spares pairId inside ids begun { begun with db := begun.db.failPendingMirrorQueueForFile file.id message } :=
    spares_of_tables rfl (filesSpared_of_eq rfl)
  exact trans_of (Spares pairId inside ids) started failed

theorem spares_mirrorCommandFile_refused {w : World} (refuses : pair.standbyAcceptsSync w.disk = false) (io : Io)
    (file : TrackedFile) : Spares pairId inside ids w (after (mirrorCommandFile io pair file) w) := by
  obtain ⟨message,refused⟩ := mirrorFile_refused refuses io file.relativePath
  unfold mirrorCommandFile
  rw [after_bind_of_error refused]
  exact refl_of (Spares pairId inside ids) w

theorem spares_unrecovered (quiescing : pair.isQuiescing = true) (io : Io) (file : TrackedFile)
    (result : IntegrityCheckResult) :
    Keeps (Spares pairId inside ids) (attemptRecoveryWithReconciliation io pair file result) := by
  have passes : attemptRecovery io pair file result = pure false := by
    rw [attemptRecovery,if_pos (isDegraded_of_quiescing quiescing)]
  unfold attemptRecoveryWithReconciliation
  rw [passes]
  exact keeps_pure false

theorem task_spares_own (quiescing : pair.isQuiescing = true) (answers : Answers) {task : Task} {w : World}
    (mild : task.Mild pair w.disk) : Spares pairId inside ids w (after (task.run answers pair) w) := by
  cases task with
  | trackFile links resolve virtualPath =>
    refine keeps_bind (spares_query _) (fun relativePath => ?_) w
    refine keeps_bind (keeps_attempt (spares_query _)) fun existing => ?_
    refine keeps_bind (spares_refused quiescing) fun tracked => ?_
    cases existing with
    | ok _ => exact keeps_pure _
    | error _ => exact spares_queueNewTracking pair tracked
  | addFolder links resolve isDir virtualPath sidecars =>
    exact keeps_bind (spares_query _) (fun folderPath => spares_discard (spares_refused quiescing)) w
  | scanFolder walk folder =>
    refine keeps_bind (keeps_attempt (spares_refused quiescing)) (fun _ => ?_) w
    exact spares_quiet (fun _ => rfl) fun _ => rfl
  | scanFolderCommand walk folder =>
    obtain ⟨message,failed⟩ := guard_refuses quiescing w
    have refused : autoTrackFolderFiles answers.io walk pair folder w = .error message w := bind_of_error failed _
    rw [Task.run,after_bind_of_error refused]
    exact refl_of (Spares pairId inside ids) w
  | mirrorFile file => exact spares_mirrorCommandFile_refused mild answers.io file
  | processItem item file =>
    rw [Task.run,if_pos quiescing]
    exact refl_of (Spares pairId inside ids) w
  | resolveQueueItem item resolution newFilePath file =>
    rcases mild with rfl | refused
    · refine keeps_bind (spares_ensure _ _) (fun _ => keeps_bind (spares_ensure _ _) fun _ => ?_) w
      rw [if_neg (by decide),if_pos rfl]
      exact spares_discard (spares_untrack item file)
    · have stops : ∃ message, Task.run answers pair (.resolveQueueItem item resolution newFilePath file) w =
          .error message w := by
        simp only [Task.run]
        cases reason : item.reason == some b3SidecarMismatchReason <;> cases sidecar : sidecarResolution resolution
        · exact absurd (reason.trans sidecar.symm) refused
        · exact ⟨_,(bind_of_ok (Act.ensure_true _ w) _).trans (bind_of_error rfl _)⟩
        · exact ⟨_,bind_of_error rfl _⟩
        · exact absurd (reason.trans sidecar.symm) refused
      obtain ⟨message,failed⟩ := stops
      rw [after_of_error failed]
      exact refl_of (Spares pairId inside ids) w
  | checkFile recover file =>
    refine keeps_bind (spares_checkFileIntegrity _ _ _ _ _) (fun result => ?_) w
    split
    · exact spares_discard (spares_unrecovered quiescing answers.io file result)
    · exact keeps_pure _

theorem act_spares_own (answers : Answers) {phase : Phase} (acts : phase.acting = some pair)
    (quiescing : pair.isQuiescing = true) {w : World} (mild : phase.Mild w.disk) :
    Spares pairId inside ids w (after (phase.act answers) w) := by
  cases phase with
  | finished => cases acts
  | scanning folderId walk => cases acts
  | runPairs recover pairs => cases acts
  | loaded task own =>
    cases acts
    rw [Phase.act,after_bind_of_still fun _ _ => rfl]
    exact task_spares_own quiescing answers mild
  | startMirror folder own => exact spares_startMirror answers folder own w
  | listMirror folder own => exact spares_listMirror answers folder own w
  | mirroringCommand own files =>
    cases acts
    cases files with
    | nil => exact refl_of (Spares pairId inside ids) w
    | cons file files =>
      rw [Phase.act,after_bind_of_still fun _ _ => rfl]
      exact spares_mirrorCommandFile_refused mild answers.io file
  | mirroring folderId processed own files =>
    cases acts
    cases files with
    | nil =>
      have closed : Keeps (Spares pairId inside ids) ((Phase.mirroring folderId processed pair []).act answers) :=
        keeps_bind (spares_quiet (fun _ => rfl) fun _ => rfl) fun _ => keeps_pure _
      exact closed w
    | cons file files =>
      have copied : Spares pairId inside ids w (after (mirrorFolderFile answers.io pair file) w) :=
        spares_mirrorFolderFile_refused mild answers.io file
      rcases after_bind_cases (mirrorFolderFile answers.io pair file) _ w with ⟨message,failed⟩ | ⟨_,t,ran,ends⟩
      · exact (after_of_error failed) ▸ copied
      · rw [after_of_ok ran] at copied
        rw [Phase.act,ends]
        refine trans_of (Spares pairId inside ids) copied (keeps_bind ?_ (fun _ => keeps_pure _) t)
        exact spares_quiet (fun _ => rfl) fun _ => rfl
  | listPage recover own later page => exact spares_listPage answers recover own later page w
  | recoverFiles recover own later page results =>
    cases acts
    cases results with
    | nil => exact refl_of (Spares pairId inside ids) w
    | cons first results =>
      obtain ⟨file,checked⟩ := first
      cases checked with
      | error _ => exact refl_of (Spares pairId inside ids) w
      | ok result =>
        refine keeps_bind ?_ (fun _ => keeps_pure _) w
        split
        · refine keeps_bind (keeps_attempt ?_) fun recovered => ?_
          · exact spares_unrecovered quiescing answers.io file result
          · cases recovered with
            | ok _ => exact keeps_pure _
            | error _ => exact keeps_pure _
        · exact keeps_pure _

end

/-! Events. -/

def FilesKept (w t : World) : Prop := PairsOfFilesKept w.db t.db

theorem filesKept_of_eq {w t : World} (same : t.db.trackedFiles = w.db.trackedFiles) : FilesKept w t :=
  (filesSpared_of_eq same : FilesSpared 0 [] w.db t.db).kept

instance : IsPreorder World FilesKept where
  refl _ := filesKept_of_eq rfl
  trans _ _ _ first second := pairsOfFilesKept_trans first second

theorem filesKept_still {α : Type} {x : Act α} (still : ∀ w, after x w = w) : Keeps FilesKept x := by
  intro w
  rw [still]
  exact refl_of FilesKept w

theorem filesKept_query {α : Type} (read : Db → Except String α) : Keeps FilesKept (Act.query read) :=
  filesKept_still (Act.after_query read)

theorem filesKept_ensure (condition : Bool) (message : String) : Keeps FilesKept (Act.ensure condition message) :=
  filesKept_still (RootMarkers.ensure_still condition message)

theorem filesKept_updateRuntime (id : Nat) (primaryPath secondaryPath : Option String)
    (primaryState secondaryState : Option DriveState) (activeRole : Option DriveRole) :
    Keeps FilesKept (updateRuntime id primaryPath secondaryPath primaryState secondaryState activeRole) :=
  keeps_bind (fun _ => filesKept_of_eq rfl) fun _ => filesKept_query _

theorem filesKept_queueRebuild (action : SyncAction) (files : List TrackedFile) :
    Keeps FilesKept (queueRebuild action files) := by
  induction files with
  | nil => exact keeps_pure _
  | cons file files ih =>
    refine keeps_bind (fun w => ?_) fun _ => keeps_bind ih fun _ => keeps_pure _
    exact filesKept_of_eq (w.db.createSyncQueueItemDedupWithCreated_frame file.id action none none).2

theorem filesKept_lifecycle (pairId : Nat) (call : DriveLifecycle.Call) : Keeps FilesKept (call.run pairId) := by
  cases call with
  | markDriveQuiescing role =>
    refine keeps_bind ?_ fun _ => keeps_pure _
    refine keeps_bind (filesKept_query _) fun pair => keeps_bind (filesKept_ensure _ _) fun _ => ?_
    exact filesKept_updateRuntime _ _ _ _ _ _
  | cancelDriveQuiescing role =>
    refine keeps_bind ?_ fun _ => keeps_pure _
    refine keeps_bind (filesKept_query _) fun pair => keeps_bind (filesKept_ensure _ _) fun _ => ?_
    exact filesKept_updateRuntime _ _ _ _ _ _
  | confirmDriveFailure role =>
    refine keeps_bind ?_ fun _ => keeps_pure _
    refine keeps_bind (filesKept_query _) fun pair => keeps_bind (filesKept_ensure _ _) fun _ => ?_
    refine keeps_bind (filesKept_still fun _ => rfl) fun _ => keeps_bind (filesKept_ensure _ _) fun _ => ?_
    refine keeps_bind (filesKept_updateRuntime _ _ _ _ _ _) fun updated => keeps_bind (fun w => ?_) fun _ => ?_
    · have down : FilesSpared (pairId + 1) [] w.db (w.db.markDrivePairUnmirrored pairId) :=
        filesSpared_markDrivePairUnmirrored (Nat.ne_of_lt (Nat.lt_succ_self pairId))
      exact down.kept
    · exact keeps_bind (fun _ => filesKept_of_eq rfl) fun _ => keeps_pure _
  | assignReplacementDrive io role newPath =>
    refine keeps_bind ?_ fun _ => keeps_pure _
    refine keeps_bind (filesKept_query _) fun pair => keeps_bind (filesKept_ensure _ _) fun _ => ?_
    refine keeps_bind (fun w => ?_) fun _ => keeps_bind (filesKept_updateRuntime _ _ _ _ _ _) fun _ => ?_
    · have below : Below (fun _ => True) w (after (ensureDriveRootMarker io newPath) w) :=
        below_ensureDriveRootMarker trivial io w
      exact filesKept_of_eq (by rw [below.db])
    · refine keeps_bind (filesKept_query _) fun files => ?_
      exact keeps_bind (filesKept_queueRebuild _ files) fun _ => keeps_pure _
  | maybeFinalizeRebuild action =>
    refine keeps_bind (fun w => ?_) fun _ => keeps_pure _
    have apart : pairId ≠ pairId + 1 := Nat.ne_of_lt (Nat.lt_succ_self pairId)
    have spared : Spares (pairId + 1) (fun _ => True) [] w (after (maybeFinalizeRebuildForAction pairId action) w) :=
      spares_maybeFinalize apart action w
    exact spared.kept
  | maybeEmergencyFailover =>
    refine keeps_bind (fun w => ?_) fun _ => keeps_pure _
    have spared : Spares 0 (fun _ => True) [] w (after (BitProtector.loadOperationalPair pairId) w) := spares_load pairId w
    exact spared.kept
  | updateSyncQueueStatus itemId status errorMessage => exact fun _ => filesKept_of_eq rfl

theorem filesKept_outside (event : Event) (w : World) : FilesKept w (outside event w) := by
  cases event with
  | disk disk => exact filesKept_of_eq rfl
  | lifecycle pairId call => exact filesKept_lifecycle pairId call w
  | pairs drivePairs => exact filesKept_of_eq rfl
  | tables db => exact filesKept_of_eq rfl

/-! Turns. -/

theorem files_of_acting_none {phase : Phase} (still : phase.acting = none) : phase.files = [] := by
  cases phase <;> first | rfl | cases still

section
variable [Blake3] {pairId : Nat} {inside : Location → Prop} {input : Input} {w : World} {phase : Phase} {next : World × Phase}

theorem turn_spares (other : ∀ pair, phase.acting = some pair → pair.id ≠ pairId)
    (clear : ∀ path, phase.Writes path → ¬inside path) (turned : turn input w phase = some next) :
    Spares pairId inside (phase.files.map TrackedFile.id) w next.1 := by
  cases input with
  | request request answers =>
    cases phase with
    | finished =>
      obtain rfl : settle (opening answers request) w = next := Option.some.inj turned
      rw [settle_world]
      exact opening_spares answers request w
    | _ => cases turned
  | answers answers =>
    have acts : Spares pairId inside (phase.files.map TrackedFile.id) w (settle (phase.act answers) w).1 := by
      rw [settle_world]
      exact act_spares answers other clear (fun file member => List.mem_map.mpr ⟨file,member,rfl⟩) w
    cases phase with
    | finished => cases turned
    | _ =>
      cases turned
      exact acts

theorem turn_kept (turned : turn input w phase = some next) :
    PairsOfFilesKept w.db next.1.db ∧ ∀ id, Quiescing id next.1.db → Quiescing id w.db := by
  obtain ⟨other,apart⟩ : ∃ other, ∀ pair, phase.acting = some pair → pair.id ≠ other := by
    cases acting : phase.acting with
    | none => exact ⟨0,nofun⟩
    | some own =>
      refine ⟨own.id + 1,fun pair mine => ?_⟩
      cases mine
      exact Nat.ne_of_lt (Nat.lt_succ_self own.id)
  have spared : Spares other (fun _ => False) (phase.files.map TrackedFile.id) w next.1 :=
    turn_spares apart (fun _ _ => not_false) turned
  exact ⟨spared.kept,spared.calm⟩

omit [Blake3] in
theorem settle_handsOn {x : Act Phase} {phase : Phase} (hands : ∀ next t, x w = .ok next t → HandsOn w t phase next) :
    HandsOn w (settle x w).1 phase (settle x w).2 := by
  unfold settle
  cases ran : x w with
  | ok next t => exact hands next t ran
  | error message t => exact handsOn_finished

theorem turn_handsOn (turned : turn input w phase = some next) : HandsOn w next.1 phase next.2 := by
  cases input with
  | request request answers =>
    cases phase with
    | finished =>
      obtain rfl : settle (opening answers request) w = next := Option.some.inj turned
      apply settle_handsOn
      intro next t ok
      have opens := opening_opens ok
      exact ⟨fun _ => opens.held,fun pair member => .inr (opens.rows pair member)⟩
    | _ => cases turned
  | answers answers =>
    have acts : HandsOn w (settle (phase.act answers) w).1 phase (settle (phase.act answers) w).2 :=
      settle_handsOn fun _ _ ok => act_handsOn ok
    cases phase with
    | finished => cases turned
    | _ =>
      cases turned
      exact acts

/-- An acting operation that writes neither to the quiescing pair nor to one of the files. -/
def Respects (pairId : Nat) (inside : Location → Prop) (disk : Disk) (phase : Phase) : Prop :=
  ∀ pair, phase.acting = some pair →
    if pair.id = pairId then phase.Mild disk else ∀ path, phase.Writes path → ¬inside path

theorem turn_frozen {row : DrivePair} (held : Held w.db phase) (agrees : Agrees pairId w.db phase)
    (found : w.db.drivePairs.find? pairId = some row) (quiescing : row.isQuiescing = true)
    (respects : Respects pairId inside w.disk phase) (turned : turn input w phase = some next) :
    Frozen pairId inside w next.1 := by
  have state : Quiescing pairId w.db := ⟨row,found,quiescing⟩
  cases acting : phase.acting with
  | none =>
    have still (path : Location) : ¬phase.Writes path := by
      cases phase <;> first | exact not_false | cases acting
    have spared : Spares pairId inside (phase.files.map TrackedFile.id) w next.1 :=
      turn_spares (fun pair mine => by rw [acting] at mine; cases mine) (fun path writes => absurd writes (still path)) turned
    refine spared.frozen state fun id member => ?_
    rw [files_of_acting_none acting] at member
    cases member
  | some own =>
    have kind := respects own acting
    by_cases same : own.id = pairId
    · rw [if_pos same] at kind
      have closed := agrees state own (Phase.acting_mem acting) same
      cases input with
      | request request answers =>
        cases phase with
        | finished => cases acting
        | _ => cases turned
      | answers answers =>
        have spared : Spares pairId inside [] w (settle (phase.act answers) w).1 := by
          rw [settle_world]
          exact act_spares_own answers acting closed kind
        have frozen := spared.frozen state fun _ member => absurd member List.not_mem_nil
        cases phase with
        | finished => cases turned
        | _ =>
          cases turned
          exact frozen
    · rw [if_neg same] at kind
      have spared : Spares pairId inside (phase.files.map TrackedFile.id) w next.1 := by
        refine turn_spares (fun pair mine => ?_) kind turned
        rw [acting,Option.some.injEq] at mine
        exact mine ▸ same
      exact spared.frozen state (held.foreign acting same)

/-! Runs. -/

/-- A pair becomes quiescing when no operation works with an older reading of it, and the operations that go on
meanwhile respect it. The files that are to stay may be any, whatever texts lead to them. -/
def Careful (pairId : Nat) (inside : DrivePair → Location → Prop) : Move Input Event → State → Prop
  | .turn i _, s => ∀ row, s.shared.db.drivePairs.find? pairId = some row → row.isQuiescing = true →
      Respects pairId (inside row) s.shared.disk (s.op i)
  | .outside event, s => Quiescing pairId (outside event s.shared).db → Quiescing pairId s.shared.db ∨
      ∀ i, ∀ pair ∈ (s.op i).pairs, pair.id = pairId → pair.isQuiescing = true

structure Inv (pairId : Nat) (s : State) : Prop where
  held : ∀ i, Held s.shared.db (s.op i)
  agrees : ∀ i, Agrees pairId s.shared.db (s.op i)

omit [Blake3] in
theorem inv_begin (pairId : Nat) (w : World) : Inv pairId (begin w) := ⟨fun _ => nofun,fun _ _ => nofun⟩

theorem inv_turn {i : Nat} {s : State} (inv : Inv pairId s) (turned : turn input s.shared (s.op i) = some next) :
    Inv pairId (s.moved i next.1 next.2) := by
  obtain ⟨kept,calm⟩ := turn_kept turned
  have hands := turn_handsOn turned
  constructor
  · apply Interleaved.forall_moved
    · exact (hands.held (inv.held i)).kept kept
    · exact fun j _ => (inv.held j).kept kept
  · apply Interleaved.forall_moved
    · intro state pair member own
      rcases hands.rows pair member with before | row
      · exact inv.agrees i (calm pairId state) pair before own
      · exact agrees_of_row row state own
    · exact fun j _ state => inv.agrees j (calm pairId state)

omit [Blake3] in
theorem inv_outside {event : Event} {s : State} (inv : Inv pairId s) {below : DrivePair → Location → Prop}
    (careful : Careful pairId below (.outside event) s) :
    Inv pairId { s with shared := outside event s.shared } := by
  constructor
  · exact fun i => (inv.held i).kept (filesKept_outside event s.shared)
  · intro i state
    rcases careful state with before | agree
    · exact inv.agrees i before
    · exact agree i

theorem inv_of_reaches {s : State} {below : DrivePair → Location → Prop}
    (reached : machine.Reaches (Careful pairId below) (begin w) s) : Inv pairId s :=
  Interleaved.invariant_of_turns reached (inv_begin pairId w) (fun _ _ _ _ inv _ turned => inv_turn inv turned)
    fun _ _ inv careful => inv_outside inv careful

/-- While a pair is quiescing, no turn of any operation changes a file of a set, as that of the files below its roots
is, or the flag and checksum of one of its files. -/
theorem quiescing_pair_frozen {s t : State} (below : DrivePair → Location → Prop)
    (reached : machine.Reaches (Careful pairId below) (begin w) s) {i : Nat}
    (careful : Careful pairId below (.turn i input) s) (taken : machine.step (.turn i input) s = some t) {row : DrivePair}
    (found : s.shared.db.drivePairs.find? pairId = some row) (quiescing : row.isQuiescing = true) :
    Frozen pairId (below row) s.shared t.shared := by
  have inv := inv_of_reaches reached
  obtain ⟨next,turned,rfl⟩ := Option.map_eq_some_iff.mp taken
  exact turn_frozen (inv.held i) (inv.agrees i) found quiescing (careful row found quiescing) turned

end

/-! A mirror of one file, for a standby that is quiescing and for an active side that is. -/

def noteRow (id : Nat) : TrackedFile := ⟨id,1,"note","",1,none,false,true,false,none⟩

theorem key_noteRow (id : Nat) : Keyed.key (noteRow id) = id := rfl

def noteWorld : World where
  db := { Db.empty with
    drivePairs := Table.empty.insert firstPair key_firstPair
    trackedFiles := Table.empty.insert noteRow key_noteRow }
  disk := ⟨fun path => if path = ⟨"/p1","note"⟩ then some ⟨[1],none⟩ else none,fun _ => true⟩

def healthyAnswers : Answers := ⟨.healthy,id,0,false,.healthy,fun _ => none⟩

def quiesce (role : DriveRole) : Move Input Event := .outside (.lifecycle 1 (.markDriveQuiescing role))

def askMirror : Move Input Event := .turn 0 (.request (.mirrorFile 1) healthyAnswers)

/-- The places that are named below a root of the pair. -/
def belowRoots (row : DrivePair) (path : Location) : Prop := path.root ∈ roots row

theorem quiescing_pair_frozen_standby :
    letI := sampleBlake3
    ∃ s t row, machine.exec (begin noteWorld) [quiesce .secondary,askMirror] = some s ∧
      machine.step (.turn 0 (.answers healthyAnswers)) s = some t ∧ s.shared.db.drivePairs.find? 1 = some row ∧
      Frozen 1 (belowRoots row) s.shared t.shared := by
  let _ := sampleBlake3
  have run : machine.Reaches (Careful 1 belowRoots) (begin noteWorld) _ :=
    .step askMirror (.step (quiesce .secondary) .start (fun _ => .inr fun _ _ => nofun) rfl) (fun _ _ _ _ => nofun) rfl
  refine ⟨_,_,_,rfl,rfl,rfl,quiescing_pair_frozen belowRoots run ?_
    (show machine.step (.turn 0 (.answers healthyAnswers)) _ = _ from rfl) rfl rfl⟩
  intro row found _ pair acts
  cases acts
  exact rfl

theorem quiescing_active_mirrors : ¬ ∀ (_ : Blake3) (pairId : Nat) (w : World) (s t : State) (i : Nat) (input : Input)
    (row : DrivePair), machine.Reaches (fun _ _ => True) (begin w) s → machine.step (.turn i input) s = some t →
      s.shared.db.drivePairs.find? pairId = some row → row.isQuiescing = true →
      Frozen pairId (belowRoots row) s.shared t.shared := by
  intro frozen
  let _ := sampleBlake3
  obtain ⟨s,ran,t,row,turned,found,quiescing,wrote,before⟩ : ∃ s,
      machine.exec (begin noteWorld) [quiesce .primary,askMirror] = some s ∧ ∃ t row,
        machine.step (.turn 0 (.answers healthyAnswers)) s = some t ∧ s.shared.db.drivePairs.find? 1 = some row ∧
        row.isQuiescing = true ∧ t.shared.disk.node ⟨"/p2","note"⟩ = some ⟨[1],none⟩ ∧
        belowRoots row ⟨"/p2","note"⟩ ∧ s.shared.disk.node ⟨"/p2","note"⟩ = none :=
    ⟨_,rfl,_,_,rfl,rfl,rfl,rfl,List.mem_cons_of_mem _ List.mem_cons_self,rfl⟩
  have same := (frozen sampleBlake3 1 noteWorld s t 0 _ row (Machine.reaches_of_exec ran) turned found quiescing).nodes
    ⟨"/p2","note"⟩ before.1
  rw [wrote,before.2] at same
  cases same

end BitProtector.QuiescingPair
