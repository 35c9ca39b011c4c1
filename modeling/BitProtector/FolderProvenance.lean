import BitProtector.FolderPatterns
import BitProtector.VirtualAssignment

/-! How a file is tracked: directly, or because a tracked folder holds it. The statements
compare paths with `LIKE`, where the case of ASCII letters does not count and, without an
escape, `_` and `%` stand for other characters. -/
namespace BitProtector

namespace Db

/-! The escaped pattern. -/

/-- `replace(.., special, '\' || special)`. -/
def escapeEach (special : Char) (text : List Char) : List Char :=
  text.flatMap (fun c => if c = special then ['\\',c] else [c])

def escapeLike (text : List Char) : List Char := escapeEach '_' (escapeEach '%' (escapeEach '\\' text))

/-- A `LIKE` pattern with `ESCAPE '\'`. -/
def escapedPattern : List Char → List (Like.Symbol Char)
  | [] => []
  | ['\\'] => [.literal '\\']
  | '\\'::c::pattern => .literal c::escapedPattern pattern
  | c::pattern => wildcard c::escapedPattern pattern

theorem escapeEach_append (special : Char) (text other : List Char) :
    escapeEach special (text ++ other) = escapeEach special text ++ escapeEach special other :=
  List.flatMap_append

theorem escapeLike_append (text other : List Char) : escapeLike (text ++ other) = escapeLike text ++ escapeLike other := by
  rw [escapeLike,escapeEach_append,escapeEach_append,escapeEach_append]
  rfl

theorem escapedPattern_plain {c : Char} (plain : c ≠ '\\') (pattern : List Char) :
    escapedPattern (c::pattern) = wildcard c::escapedPattern pattern := by
  rw [escapedPattern]
  · intro same _
    exact absurd same plain
  · intro _ _ same
    exact absurd same plain

theorem escapedPattern_escaped (c : Char) (pattern : List Char) :
    escapedPattern (escapeLike [c] ++ pattern) = .literal c::escapedPattern pattern := by
  by_cases backslash : c = '\\'
  · subst backslash
    rfl
  · by_cases percent : c = '%'
    · subst percent
      rfl
    · by_cases underscore : c = '_'
      · subst underscore
        rfl
      · have alone : escapeLike [c] = [c] := by
          simp [escapeLike,escapeEach,backslash,percent,underscore]
        rw [alone,List.singleton_append,escapedPattern_plain backslash,wildcard,if_neg underscore,if_neg percent]

theorem escapedPattern_escapeLike (text pattern : List Char) :
    escapedPattern (escapeLike text ++ pattern) = text.map .literal ++ escapedPattern pattern := by
  induction text with
  | nil => rfl
  | cons c text ih =>
    rw [← List.singleton_append,escapeLike_append,List.append_assoc,escapedPattern_escaped,ih]
    rfl

theorem underFolder_eq (folderPath relativePath : String) :
    underFolder folderPath relativePath = (relativePath.toList == stripFolderPath folderPath ||
      Like.fits (Like.sameUnder Char.toLower) (escapedPattern (escapeLike (stripFolderPath folderPath) ++ ['/','%']))
        relativePath.toList) := by
  have whole : escapedPattern (escapeLike (stripFolderPath folderPath) ++ ['/','%']) =
      (stripFolderPath folderPath ++ ['/']).map .literal ++ [.anyRun] := by
    rw [escapedPattern_escapeLike,List.map_append,List.append_assoc]
    rfl
  rw [underFolder,whole,Bool.eq_iff_iff,Bool.or_eq_true,Bool.or_eq_true,Like.fits_prefix,List.isPrefixOf_iff_prefix]

theorem likeFolder_of_underFolder {folderPath relativePath : String} (under : underFolder folderPath relativePath = true) :
    likeFolder folderPath relativePath = true := by
  unfold likeFolder
  unfold underFolder at under
  rw [Bool.or_eq_true] at under ⊢
  refine under.imp id fun below => ?_
  have wider (c : Char) : wildcard c = .literal c ∨ wildcard c = .anyOne ∨ wildcard c = .anyRun := by
    unfold wildcard
    split
    · exact .inr (.inl rfl)
    · split
      · exact .inr (.inr rfl)
      · exact .inl rfl
  have exact : Like.fits (Like.sameUnder Char.toLower) ((stripFolderPath folderPath ++ ['/']).map .literal ++ [.anyRun])
      relativePath.toList = true := Like.fits_prefix.mpr (List.isPrefixOf_iff_prefix.mp below)
  have whole : (stripFolderPath folderPath ++ ['/','%']).map wildcard =
      (stripFolderPath folderPath ++ ['/']).map wildcard ++ [.anyRun] := by
    rw [List.map_append,List.map_append,List.append_assoc]
    rfl
  rw [whole]
  exact Like.fits_widened wider exact

/-! The files that go with a folder. -/

/-- Another tracked folder of the pair takes the path. -/
def takenByOther (db : Db) (drivePairId excludingFolderId : Nat) (relativePath : String) : Bool :=
  db.trackedFolders.rows.any (fun other =>
    other.drivePairId == drivePairId && other.id != excludingFolderId && underFolder other.folderPath relativePath)

def listFolderOriginDescendantFiles (db : Db) (drivePairId : Nat) (folderPath : String) (excludingFolderId : Nat) :
    List TrackedFile :=
  (db.listTrackedFilesOfPair drivePairId).filter (fun file =>
    !file.trackedDirect && file.trackedViaFolder && underFolder folderPath file.relativePath &&
      !db.takenByOther drivePairId excludingFolderId file.relativePath)

theorem inTrackedFolder_congr {db next : Db} (folders : next.trackedFolders = db.trackedFolders) {file other : TrackedFile}
    (pair : other.drivePairId = file.drivePairId) (path : other.relativePath = file.relativePath) :
    next.inTrackedFolder other = db.inTrackedFolder file := by
  rw [inTrackedFolder,inTrackedFolder,folders,pair,path]

theorem find?_clearFolderProvenance (db : Db) (drivePairId id : Nat) :
    (db.clearFolderProvenance drivePairId).trackedFiles.find? id = (db.trackedFiles.find? id).map (fun file =>
      if file.drivePairId = drivePairId then { file with trackedViaFolder := false } else file) := by
  rw [clearFolderProvenance,Table.find?_updateWhere]
  simp only [beq_iff_eq]

theorem find?_setFolderProvenance (db : Db) (drivePairId id : Nat) :
    (db.setFolderProvenance drivePairId).trackedFiles.find? id = (db.trackedFiles.find? id).map (fun file =>
      if file.drivePairId = drivePairId ∧ file.trackedDirect = false ∧ db.inTrackedFolder file = true then
        { file with trackedViaFolder := true }
      else file) := by
  rw [setFolderProvenance,Table.find?_updateWhere]
  simp only [Bool.and_eq_true,beq_iff_eq,Bool.not_eq_true',and_assoc]

theorem find?_setDirectProvenance (db : Db) (drivePairId id : Nat) :
    (db.setDirectProvenance drivePairId).trackedFiles.find? id = (db.trackedFiles.find? id).map (fun file =>
      if file.drivePairId = drivePairId ∧ file.trackedDirect = false ∧ file.trackedViaFolder = false then
        { file with trackedDirect := true }
      else file) := by
  rw [setDirectProvenance,Table.find?_updateWhere]
  simp only [Bool.and_eq_true,beq_iff_eq,Bool.not_eq_true',and_assoc]

/-- A row after the three updates. -/
def provenanceOf (db : Db) (drivePairId : Nat) (file : TrackedFile) : TrackedFile :=
  if file.drivePairId = drivePairId then
    { file with
      trackedViaFolder := !file.trackedDirect && db.inTrackedFolder file
      trackedDirect := file.trackedDirect || !db.inTrackedFolder file }
  else file

theorem find?_recompute (db : Db) (drivePairId id : Nat) :
    (db.recomputeFolderProvenanceForDrive drivePairId).trackedFiles.find? id =
      (db.trackedFiles.find? id).map (db.provenanceOf drivePairId) := by
  rw [recomputeFolderProvenanceForDrive,find?_setDirectProvenance,find?_setFolderProvenance,find?_clearFolderProvenance,
    Option.map_map,Option.map_map]
  congr 1
  funext file
  have inside : ∀ other : TrackedFile, other.drivePairId = file.drivePairId → other.relativePath = file.relativePath →
      (db.clearFolderProvenance drivePairId).inTrackedFolder other = db.inTrackedFolder file :=
    fun other pair path => inTrackedFolder_congr rfl pair path
  by_cases own : file.drivePairId = drivePairId
  · subst own
    cases direct : file.trackedDirect with
    | true => simp [provenanceOf,direct]
    | false =>
      cases taken : db.inTrackedFolder file with
      | true => simp [provenanceOf,direct,taken,inside]
      | false => simp [provenanceOf,direct,taken,inside]
  · simp [provenanceOf,own]

theorem find?_deleteTrackedFiles (db : Db) (fileIds : List Nat) (id : Nat) :
    (fileIds.foldl deleteTrackedFile db).trackedFiles.find? id = if id ∈ fileIds then none else db.trackedFiles.find? id := by
  induction fileIds generalizing db with
  | nil => rw [if_neg List.not_mem_nil,List.foldl_nil]
  | cons fileId fileIds ih =>
    have first : (db.deleteTrackedFile fileId).trackedFiles.find? id =
        if id = fileId then none else db.trackedFiles.find? id := by
      rw [deleteTrackedFile,removeTrackedFile,deleteSyncQueueOfFile,Table.find?_deleteWhere]
      cases found : db.trackedFiles.find? id with
      | none => rw [Option.filter_none,ite_self]
      | some file =>
        have key : file.id = id := Table.find?_key found
        by_cases same : id = fileId
        · simp [Option.filter,key,same]
        · simp [Option.filter,key,same]
    rw [List.foldl_cons,ih,first]
    by_cases later : id ∈ fileIds
    · rw [if_pos later,if_pos (List.mem_cons_of_mem _ later)]
    · by_cases same : id = fileId
      · rw [if_neg later,if_pos same,if_pos (List.mem_cons.mpr (.inl same))]
      · rw [if_neg later,if_neg same,if_neg fun member => (List.mem_cons.mp member).elim same later]

theorem queue_deleteTrackedFiles {db : Db} {fileIds : List Nat} {id : Nat} {item : SyncQueueItem}
    (found : db.syncQueue.find? id = some item) (other : item.trackedFileId ∉ fileIds) :
    (fileIds.foldl deleteTrackedFile db).syncQueue.find? id = some item := by
  induction fileIds generalizing db with
  | nil => exact found
  | cons fileId fileIds ih =>
    rw [List.mem_cons,not_or] at other
    apply ih
    · rw [deleteTrackedFile,removeTrackedFile,deleteSyncQueueOfFile,Table.find?_deleteWhere,found]
      simp [Option.filter,other.1]
    · exact other.2

theorem deleteTrackedFiles_trackedFolders (db : Db) (fileIds : List Nat) :
    (fileIds.foldl deleteTrackedFile db).trackedFolders = db.trackedFolders := by
  induction fileIds generalizing db with
  | nil => rfl
  | cons fileId fileIds ih => exact ih (db.deleteTrackedFile fileId)

end Db

namespace FolderProvenance
open VirtualPath VirtualRetarget VirtualAssignment FolderPatterns

/-! The recomputation. -/

/-- The path lies under the folder, component by component. -/
def Beneath (folderPath relativePath : String) : Prop := linkKey folderPath <+: linkKey relativePath

instance (folderPath relativePath : String) : Decidable (Beneath folderPath relativePath) :=
  inferInstanceAs (Decidable (_ <+: _))

/-- A tracked folder of its pair holds the file. -/
def InFolder (db : Db) (file : TrackedFile) : Prop :=
  ∃ folder ∈ db.trackedFolders.rows, folder.drivePairId = file.drivePairId ∧ Beneath folder.folderPath file.relativePath

/-- The flags say how the files of the pair are tracked: the ones that were direct still are, and of
the others those that lie in a folder are tracked by it. -/
structure Correct (pairId : Nat) (db next : Db) : Prop where
  rows : ∀ id, (next.trackedFiles.find? id).isSome = (db.trackedFiles.find? id).isSome
  direct : ∀ id file now, db.trackedFiles.find? id = some file → next.trackedFiles.find? id = some now →
    file.drivePairId = pairId → file.trackedDirect = true → now.trackedDirect = true
  viaFolder : ∀ id file now, db.trackedFiles.find? id = some file → next.trackedFiles.find? id = some now →
    file.drivePairId = pairId → (now.trackedViaFolder = true ↔ file.trackedDirect = false ∧ InFolder db file)
  one : ∀ id now, next.trackedFiles.find? id = some now → now.drivePairId = pairId →
    now.trackedDirect = !now.trackedViaFolder
  others : ∀ id file, db.trackedFiles.find? id = some file → file.drivePairId ≠ pairId →
    next.trackedFiles.find? id = some file
  again : ∀ id, (next.recomputeFolderProvenanceForDrive pairId).trackedFiles.find? id = next.trackedFiles.find? id

theorem inFolder_congr {db : Db} {file other : TrackedFile} (pair : other.drivePairId = file.drivePairId)
    (path : other.relativePath = file.relativePath) : InFolder db other ↔ InFolder db file := by
  rw [InFolder,InFolder,pair,path]

theorem provenanceOf_twice (db next : Db) (folders : next.trackedFolders = db.trackedFolders) (pairId : Nat)
    (file : TrackedFile) : next.provenanceOf pairId (db.provenanceOf pairId file) = db.provenanceOf pairId file := by
  have taken : ∀ other : TrackedFile, other.drivePairId = file.drivePairId → other.relativePath = file.relativePath →
      next.inTrackedFolder other = db.inTrackedFolder file :=
    fun other pair path => Db.inTrackedFolder_congr folders pair path
  by_cases own : file.drivePairId = pairId
  · subst own
    cases direct : file.trackedDirect with
    | true => simp [Db.provenanceOf,direct]
    | false =>
      cases inside : db.inTrackedFolder file with
      | true => simp [Db.provenanceOf,direct,inside,taken]
      | false => simp [Db.provenanceOf,direct,inside]
  · simp [Db.provenanceOf,own]

/-! The ways in which the second update misjudges a file. -/

inductive Misread (db : Db) (file : TrackedFile) : Prop
  /-- No folder of the pair holds the file, and one takes it in another letter case or as a pattern. -/
  | taken (folder : TrackedFolder) (row : folder ∈ db.trackedFolders.rows) (pair : folder.drivePairId = file.drivePairId)
    (reads : Reads folder.folderPath file.relativePath)
    (apart : ∀ other ∈ db.trackedFolders.rows, other.drivePairId = file.drivePairId →
      ¬Beneath other.folderPath file.relativePath)
  /-- A folder of the pair holds the file, but the path of none stands at the beginning of the file's, not even
  in another letter case or as a pattern: it is spelled otherwise. -/
  | missed (folder : TrackedFolder) (row : folder ∈ db.trackedFolders.rows)
    (pair : folder.drivePairId = file.drivePairId) (beneath : Beneath folder.folderPath file.relativePath)
    (otherwise : ∀ other ∈ db.trackedFolders.rows, other.drivePairId = file.drivePairId →
      ¬Reads other.folderPath file.relativePath)

theorem inTrackedFolder_iff {db : Db} {file : TrackedFile} : db.inTrackedFolder file = true ↔
    ∃ folder ∈ db.trackedFolders.rows, folder.drivePairId = file.drivePairId ∧ Reads folder.folderPath file.relativePath := by
  rw [Db.inTrackedFolder,List.any_eq_true]
  simp only [Bool.and_eq_true,beq_iff_eq,likeFolder_iff]

theorem misread_iff {db : Db} {file : TrackedFile} : Misread db file ↔ ¬(db.inTrackedFolder file = true ↔ InFolder db file) := by
  rw [inTrackedFolder_iff]
  constructor
  · rintro (⟨folder,row,pair,reads,apart⟩ | ⟨folder,row,pair,beneath,otherwise⟩) same
    · obtain ⟨other,present,own,holds⟩ := same.mp ⟨folder,row,pair,reads⟩
      exact apart other present own holds
    · obtain ⟨other,present,own,reads⟩ := same.mpr ⟨folder,row,pair,beneath⟩
      exact otherwise other present own reads
  · intro differ
    by_cases inside : InFolder db file
    · obtain ⟨folder,row,pair,beneath⟩ := inside
      refine .missed folder row pair beneath fun other present own reads => differ ?_
      exact iff_of_true ⟨other,present,own,reads⟩ ⟨folder,row,pair,beneath⟩
    · by_cases taken : ∃ folder ∈ db.trackedFolders.rows, folder.drivePairId = file.drivePairId ∧
          Reads folder.folderPath file.relativePath
      · obtain ⟨folder,row,pair,reads⟩ := taken
        exact .taken folder row pair reads fun other present own holds => inside ⟨other,present,own,holds⟩
      · exact absurd (iff_of_false taken inside) differ

theorem provenanceOf_drivePairId (db : Db) (pairId : Nat) (file : TrackedFile) :
    (db.provenanceOf pairId file).drivePairId = file.drivePairId := by
  unfold Db.provenanceOf
  split <;> rfl

theorem provenanceOf_via {db : Db} {pairId : Nat} {file : TrackedFile} (own : file.drivePairId = pairId) :
    (db.provenanceOf pairId file).trackedViaFolder = true ↔ file.trackedDirect = false ∧ db.inTrackedFolder file = true := by
  simp [Db.provenanceOf,own]

/-- The flags come out right exactly if the folders' texts misjudge no file that was not tracked directly. -/
theorem provenance_correct_iff (db : Db) (pairId : Nat) :
    Correct pairId db (db.recomputeFolderProvenanceForDrive pairId) ↔
      ∀ file ∈ db.listTrackedFilesOfPair pairId, file.trackedDirect = false → ¬Misread db file := by
  have written {id : Nat} {file now : TrackedFile} (found : db.trackedFiles.find? id = some file)
      (row : (db.recomputeFolderProvenanceForDrive pairId).trackedFiles.find? id = some now) :
      db.provenanceOf pairId file = now := by
    rw [Db.find?_recompute,found,Option.map_some,Option.some.injEq] at row
    exact row
  constructor
  · intro correct file listed indirect misread
    obtain ⟨found,own⟩ := Db.mem_listTrackedFilesOfPair.mp listed
    have row : (db.recomputeFolderProvenanceForDrive pairId).trackedFiles.find? file.id =
        some (db.provenanceOf pairId file) := by rw [Db.find?_recompute,found,Option.map_some]
    have via := correct.viaFolder file.id file _ found row own
    rw [provenanceOf_via own,and_congr_right_iff] at via
    exact misread_iff.mp misread (via indirect)
  · intro exact
    refine ⟨fun id => ?_,fun id file now found row own direct => ?_,fun id file now found row own => ?_,
      fun id now row own => ?_,fun id file found other => ?_,fun id => ?_⟩
    · rw [Db.find?_recompute,Option.isSome_map]
    · obtain rfl := written found row
      simp [Db.provenanceOf,own,direct]
    · obtain rfl := written found row
      have listed : file ∈ db.listTrackedFilesOfPair pairId :=
        Db.mem_listTrackedFilesOfPair.mpr ⟨(show file.id = id from Table.find?_key found) ▸ found,own⟩
      rw [provenanceOf_via own,and_congr_right_iff]
      exact fun indirect => not_not.mp (mt misread_iff.mpr (exact file listed indirect))
    · rw [Db.find?_recompute,Option.map_eq_some_iff] at row
      obtain ⟨file,_,rfl⟩ := row
      have pair : file.drivePairId = pairId := (provenanceOf_drivePairId db pairId file).symm.trans own
      simp [Db.provenanceOf,pair]
    · rw [Db.find?_recompute,found,Option.map_some,Db.provenanceOf,if_neg other]
    · rw [Db.find?_recompute,Db.find?_recompute,Option.map_map]
      congr 1
      funext file
      exact provenanceOf_twice db _ rfl pairId file

/-! A folder and a file whose path differs from the folder's by the case of a letter. -/

def folderRow (folderPath : String) (id : Nat) : TrackedFolder :=
  ⟨id,1,folderPath,none,false,false,0,0,false,false,0,0⟩

theorem key_folderRow (folderPath : String) (id : Nat) : Keyed.key (folderRow folderPath id) = id := rfl

def scannedFile (relativePath : String) (id : Nat) : TrackedFile := ⟨id,1,relativePath,"",0,none,false,false,true,none⟩

theorem key_scannedFile (relativePath : String) (id : Nat) : Keyed.key (scannedFile relativePath id) = id := rfl

def foldersDb (folders : Table TrackedFolder) : Db :=
  { Db.empty with
    drivePairs := Table.empty.insert firstPair key_firstPair
    trackedFiles := Table.empty.insert (scannedFile "photos/f") (key_scannedFile _)
    trackedFolders := folders }

def upperFolder : Table TrackedFolder := Table.empty.insert (folderRow "Photos") (key_folderRow _)

theorem other_case_taken : ¬ ∀ (db : Db) (pairId : Nat), Correct pairId db (db.recomputeFolderProvenanceForDrive pairId) := by
  intro correct
  have row : ((foldersDb upperFolder).recomputeFolderProvenanceForDrive 1).trackedFiles.find? 1 =
      some (scannedFile "photos/f" 1) := by decide +kernel
  have inside := (((correct (foldersDb upperFolder) 1).viaFolder 1 (scannedFile "photos/f" 1) _ rfl row rfl).mp rfl).2
  obtain ⟨folder,listed,_,beneath⟩ := inside
  obtain rfl := List.mem_singleton.mp (show folder ∈ [folderRow "Photos" 1] from listed)
  exact absurd beneath (by decide +kernel)

/-! The cascade. -/

def removeSymlinks (calls : LinkCalls) : List String → LinkedAct Unit
  | [] => pure ()
  | virtualPath::rest => do
    let _ ← Effect.attempt (onLinks (removeSymlink calls virtualPath))
    removeSymlinks calls rest

structure FolderUntrackResult where
  folderId : Nat
  drivePairId : Nat
  removedFileIds : List Nat
  deriving DecidableEq, Repr

def untrackFolderCascade (calls : LinkCalls) (folderId : Nat) : LinkedAct FolderUntrackResult := do
  let folder ← inWorld (Act.query (fun db => db.getTrackedFolder folderId))
  let pair ← inWorld (Act.query (fun db => db.getDrivePair folder.drivePairId))
  inWorld (Act.query (fun _ => requirePairMutationAllowed pair))
  let descendants ← inWorld (Act.query (fun db =>
    .ok (db.listFolderOriginDescendantFiles folder.drivePairId folder.folderPath folder.id)))
  let fileIds := descendants.map TrackedFile.id
  let symlinksToRemove := descendants.filterMap TrackedFile.virtualPath ++ folder.virtualPath.toList
  inWorld (Act.execute (fun db => db.deleteFolderCascadeTx folder.id fileIds))
  removeSymlinks calls symlinksToRemove
  inWorld (Act.execute (fun db => db.recomputeFolderProvenanceForDrive folder.drivePairId))
  pure ⟨folder.id,folder.drivePairId,fileIds⟩

/-- The tables after the cascade. -/
def cascaded (db : Db) (folder : TrackedFolder) : Db :=
  (db.deleteFolderCascadeTx folder.id
    ((db.listFolderOriginDescendantFiles folder.drivePairId folder.folderPath folder.id).map
      TrackedFile.id)).recomputeFolderProvenanceForDrive folder.drivePairId

theorem removeSymlinks_run (calls : LinkCalls) (paths : List String) (s : Linked) :
    ∃ links, removeSymlinks calls paths s = .ok () { s with links } := by
  induction paths generalizing s with
  | nil => exact ⟨s.links,rfl⟩
  | cons path paths ih =>
    unfold removeSymlinks
    cases ran : onLinks (removeSymlink calls path) s with
    | ok a t =>
      have left := after_onLinks (removeSymlink calls path) s
      rw [Effect.after_of_ok ran] at left
      rw [Effect.bind_of_ok (Effect.attempt_of_ok ran),left]
      exact ih _
    | error message t =>
      have left := after_onLinks (removeSymlink calls path) s
      rw [Effect.after_of_error ran] at left
      rw [Effect.bind_of_ok (Effect.attempt_of_error ran),left]
      exact ih _

theorem untrackFolderCascade_ok {calls : LinkCalls} {folderId : Nat} {result : FolderUntrackResult} {s t : Linked}
    (ok : untrackFolderCascade calls folderId s = .ok result t) :
    ∃ folder, s.world.db.trackedFolders.find? folderId = some folder ∧ t.world.db = cascaded s.world.db folder := by
  obtain ⟨folder,u,read,reads⟩ := Effect.bind_success ok
  obtain ⟨pair,v,loaded,guards⟩ := Effect.bind_success reads
  obtain ⟨_,x,allowed,lists⟩ := Effect.bind_success guards
  obtain ⟨descendants,y,listed,deletes⟩ := Effect.bind_success lists
  obtain ⟨_,z,deleted,unlinks⟩ := Effect.bind_success deletes
  have found := (Act.query_success (inWorld_success read).1).1
  obtain rfl := query_still read
  obtain rfl := query_still loaded
  obtain rfl := query_still allowed
  have all := (Act.query_success (inWorld_success listed).1).1
  obtain rfl := query_still listed
  obtain ⟨links,removed⟩ := removeSymlinks_run calls
    (descendants.filterMap TrackedFile.virtualPath ++ folder.virtualPath.toList) z
  rw [Effect.bind_of_ok removed] at unlinks
  cases all
  cases deleted
  cases unlinks
  refine ⟨folder,?_,rfl⟩
  unfold Db.getTrackedFolder at found
  split at found
  · rename_i row there
    cases found
    exact there
  · cases found

/-- Nothing but the folder holds the file. -/
def OnlyUnder (db : Db) (folder : TrackedFolder) (relativePath : String) : Prop :=
  Beneath folder.folderPath relativePath ∧ ∀ other ∈ db.trackedFolders.rows,
    other.drivePairId = folder.drivePairId → other.id ≠ folder.id → ¬Beneath other.folderPath relativePath

def GoesWith (db : Db) (folder : TrackedFolder) (file : TrackedFile) : Prop :=
  file.drivePairId = folder.drivePairId ∧ file.trackedDirect = false ∧ file.trackedViaFolder = true ∧
    OnlyUnder db folder file.relativePath

/-- The folder and the files that only it holds are gone, and nothing else is. -/
structure ExactlyUntracked (folder : TrackedFolder) (db next : Db) : Prop where
  folders : ∀ id, next.trackedFolders.find? id = if id = folder.id then none else db.trackedFolders.find? id
  gone : ∀ id file, db.trackedFiles.find? id = some file →
    (next.trackedFiles.find? id = none ↔ GoesWith db folder file)
  kept : ∀ id file, db.trackedFiles.find? id = some file → ¬GoesWith db folder file →
    (∃ direct viaFolder, next.trackedFiles.find? id =
      some { file with trackedDirect := direct,trackedViaFolder := viaFolder }) ∧
    ∀ itemId item, db.syncQueue.find? itemId = some item → item.trackedFileId = id →
      next.syncQueue.find? itemId = some item

/-- The statement's own choice of files. -/
theorem mem_descendants {db : Db} {folder : TrackedFolder} {file : TrackedFile} :
    file ∈ db.listFolderOriginDescendantFiles folder.drivePairId folder.folderPath folder.id ↔
      db.trackedFiles.find? file.id = some file ∧ file.drivePairId = folder.drivePairId ∧ file.trackedDirect = false ∧
        file.trackedViaFolder = true ∧ Db.underFolder folder.folderPath file.relativePath = true ∧
        db.takenByOther folder.drivePairId folder.id file.relativePath = false := by
  rw [Db.listFolderOriginDescendantFiles,List.mem_filter,Db.mem_listTrackedFilesOfPair]
  simp only [Bool.and_eq_true,Bool.not_eq_true',and_assoc]

theorem find?_cascaded (db : Db) (folder : TrackedFolder) (id : Nat) :
    ((cascaded db folder).trackedFiles.find? id = none ↔ ∀ file, db.trackedFiles.find? id = some file →
      file ∈ db.listFolderOriginDescendantFiles folder.drivePairId folder.folderPath folder.id) ∧
    ∀ file, db.trackedFiles.find? id = some file →
      file ∉ db.listFolderOriginDescendantFiles folder.drivePairId folder.folderPath folder.id →
      ∃ direct viaFolder, (cascaded db folder).trackedFiles.find? id =
        some { file with trackedDirect := direct,trackedViaFolder := viaFolder } := by
  have row : (cascaded db folder).trackedFiles.find? id =
      (if id ∈ (db.listFolderOriginDescendantFiles folder.drivePairId folder.folderPath folder.id).map TrackedFile.id then none
        else db.trackedFiles.find? id).map (Db.provenanceOf (db.deleteFolderCascadeTx folder.id
          ((db.listFolderOriginDescendantFiles folder.drivePairId folder.folderPath folder.id).map TrackedFile.id))
            folder.drivePairId) := by
    rw [cascaded,Db.find?_recompute,← Db.find?_deleteTrackedFiles]
    rfl
  have chosen {file : TrackedFile} (found : db.trackedFiles.find? id = some file) :
      id ∈ (db.listFolderOriginDescendantFiles folder.drivePairId folder.folderPath folder.id).map TrackedFile.id ↔
        file ∈ db.listFolderOriginDescendantFiles folder.drivePairId folder.folderPath folder.id := by
    have key : file.id = id := Table.find?_key found
    rw [List.mem_map]
    constructor
    · rintro ⟨other,listed,same⟩
      have there := (mem_descendants.mp listed).1
      rw [same,found,Option.some.injEq] at there
      exact there ▸ listed
    · exact fun listed => ⟨file,listed,key⟩
  constructor
  · rw [row,Option.map_eq_none_iff]
    cases found : db.trackedFiles.find? id with
    | none => simp
    | some file =>
      have either := chosen found
      by_cases listed : file ∈ db.listFolderOriginDescendantFiles folder.drivePairId folder.folderPath folder.id
      · rw [if_pos (either.mpr listed)]
        refine iff_of_true rfl fun other same => ?_
        cases same
        exact listed
      · rw [if_neg (mt either.mp listed)]
        exact iff_of_false (by simp) fun all => listed (all file rfl)
  · intro file found other
    rw [row,if_neg (mt (chosen found).mp other),found,Option.map_some]
    unfold Db.provenanceOf
    split
    · exact ⟨_,_,rfl⟩
    · exact ⟨file.trackedDirect,file.trackedViaFolder,rfl⟩

theorem cascaded_trackedFolders (db : Db) (folder : TrackedFolder) (id : Nat) :
    (cascaded db folder).trackedFolders.find? id = if id = folder.id then none else db.trackedFolders.find? id := by
  have rows : (cascaded db folder).trackedFolders =
      db.trackedFolders.deleteWhere (fun other => other.id == folder.id) := by
    rw [← Db.deleteTrackedFiles_trackedFolders db
      ((db.listFolderOriginDescendantFiles folder.drivePairId folder.folderPath folder.id).map TrackedFile.id)]
    rfl
  rw [rows,Table.find?_deleteWhere]
  cases found : db.trackedFolders.find? id with
  | none => rw [Option.filter_none,ite_self]
  | some other =>
    have key : other.id = id := Table.find?_key found
    by_cases same : id = folder.id
    · simp [Option.filter,key,same]
    · simp [Option.filter,key,same]

theorem cascaded_queue {db : Db} {folder : TrackedFolder} {itemId : Nat} {item : SyncQueueItem} {file : TrackedFile}
    (found : db.syncQueue.find? itemId = some item) (own : db.trackedFiles.find? item.trackedFileId = some file)
    (other : file ∉ db.listFolderOriginDescendantFiles folder.drivePairId folder.folderPath folder.id) :
    (cascaded db folder).syncQueue.find? itemId = some item := by
  refine Db.queue_deleteTrackedFiles found fun member => other ?_
  obtain ⟨listed,there,same⟩ := List.mem_map.mp member
  have row := (mem_descendants.mp there).1
  rw [same,own,Option.some.injEq] at row
  exact row ▸ there

/-! The ways in which the selection misjudges a scanned file. -/

/-- The folder's path stands at the beginning of the file's in another letter case only. -/
def OtherCase (folderPath relativePath : String) : Prop :=
  Spells folderPath relativePath ∧ ¬Begins folderPath relativePath

/-- The folder holds the file, and the file's path spells the folder's otherwise. -/
def OtherwiseSpelled (folderPath relativePath : String) : Prop :=
  Beneath folderPath relativePath ∧ ¬Begins folderPath relativePath

inductive Misled (db : Db) (folder : TrackedFolder) (relativePath : String) : Prop
  /-- Only the folder holds the file, which spells the folder's path otherwise: the file stays. -/
  | unspelled (only : OnlyUnder db folder relativePath) (spelled : OtherwiseSpelled folder.folderPath relativePath)
  /-- Only the folder holds the file, and another folder's path stands before it in another letter case: the file stays. -/
  | otherCase (only : OnlyUnder db folder relativePath) (other : TrackedFolder) (row : other ∈ db.trackedFolders.rows)
    (pair : other.drivePairId = folder.drivePairId) (apart : other.id ≠ folder.id)
    (cased : OtherCase other.folderPath relativePath)
  /-- The folder's path stands before the file's in another letter case, and no other folder's does so in any: the file goes. -/
  | ownCase (cased : OtherCase folder.folderPath relativePath)
    (alone : ∀ other ∈ db.trackedFolders.rows, other.drivePairId = folder.drivePairId → other.id ≠ folder.id →
      ¬Begins other.folderPath relativePath ∧ ¬OtherCase other.folderPath relativePath)
  /-- The folder's path begins the file's, and other folders that hold it are all spelled otherwise: the file goes. -/
  | hidden (begins : Begins folder.folderPath relativePath) (other : TrackedFolder) (row : other ∈ db.trackedFolders.rows)
    (pair : other.drivePairId = folder.drivePairId) (apart : other.id ≠ folder.id)
    (spelled : OtherwiseSpelled other.folderPath relativePath)
    (alone : ∀ third ∈ db.trackedFolders.rows, third.drivePairId = folder.drivePairId → third.id ≠ folder.id →
      ¬Begins third.folderPath relativePath ∧ ¬OtherCase third.folderPath relativePath)

theorem spells_iff {folderPath relativePath : String} : Spells folderPath relativePath ↔
    Begins folderPath relativePath ∨ OtherCase folderPath relativePath := by
  constructor
  · intro spells
    by_cases begins : Begins folderPath relativePath
    · exact .inl begins
    · exact .inr ⟨spells,begins⟩
  · rintro (begins | ⟨spells,_⟩)
    · exact begins.mono fun text same => congrArg _ same
    · exact spells

theorem OtherCase.apart {folderPath relativePath : String} (cased : OtherCase folderPath relativePath) :
    ¬Beneath folderPath relativePath := fun beneath => cased.2 (cased.1.begins beneath)

theorem takenByOther_iff {db : Db} {folder : TrackedFolder} {relativePath : String} :
    db.takenByOther folder.drivePairId folder.id relativePath = true ↔ ∃ other ∈ db.trackedFolders.rows,
      other.drivePairId = folder.drivePairId ∧ other.id ≠ folder.id ∧ Spells other.folderPath relativePath := by
  rw [Db.takenByOther,List.any_eq_true]
  simp only [Bool.and_eq_true,beq_iff_eq,bne_iff_ne,underFolder_iff,and_assoc]

theorem untaken_iff {db : Db} {folder : TrackedFolder} {relativePath : String} :
    db.takenByOther folder.drivePairId folder.id relativePath = false ↔ ∀ other ∈ db.trackedFolders.rows,
      other.drivePairId = folder.drivePairId → other.id ≠ folder.id →
        ¬Begins other.folderPath relativePath ∧ ¬OtherCase other.folderPath relativePath := by
  rw [← Bool.not_eq_true,takenByOther_iff]
  simp only [spells_iff,not_exists,not_and,not_or]

theorem misled_iff {db : Db} {folder : TrackedFolder} {relativePath : String} : Misled db folder relativePath ↔
    ¬((Db.underFolder folder.folderPath relativePath = true ∧
        db.takenByOther folder.drivePairId folder.id relativePath = false) ↔ OnlyUnder db folder relativePath) := by
  rw [underFolder_iff,untaken_iff]
  constructor
  · rintro (⟨only,spelled⟩ | ⟨only,other,row,pair,apart,cased⟩ | ⟨cased,alone⟩ | ⟨begins,other,row,pair,apart,spelled,alone⟩) same
    · exact spelled.2 ((same.mpr only).1.begins only.1)
    · exact ((same.mpr only).2 other row pair apart).2 cased
    · exact cased.apart (same.mp ⟨cased.1,alone⟩).1
    · exact (same.mp ⟨spells_iff.mpr (.inl begins),alone⟩).2 other row pair apart spelled.1
  · intro differ
    by_cases only : OnlyUnder db folder relativePath
    · by_cases begins : Begins folder.folderPath relativePath
      · by_cases alone : ∀ other ∈ db.trackedFolders.rows, other.drivePairId = folder.drivePairId →
            other.id ≠ folder.id → ¬OtherCase other.folderPath relativePath
        · refine absurd (iff_of_true ⟨spells_iff.mpr (.inl begins),fun other row pair apart => ?_⟩ only) differ
          exact ⟨mt Begins.beneath (only.2 other row pair apart),alone other row pair apart⟩
        · simp only [not_forall,not_not] at alone
          obtain ⟨other,row,pair,apart,cased⟩ := alone
          exact .otherCase only other row pair apart cased
      · exact .unspelled only ⟨only.1,begins⟩
    · obtain ⟨spells,alone⟩ := not_not.mp fun unselected => differ (iff_of_false unselected only)
      rcases spells_iff.mp spells with begins | cased
      · have shared : ∃ other ∈ db.trackedFolders.rows, other.drivePairId = folder.drivePairId ∧ other.id ≠ folder.id ∧
            Beneath other.folderPath relativePath := by
          by_contra none
          exact only ⟨begins.beneath,fun other row pair apart beneath => none ⟨other,row,pair,apart,beneath⟩⟩
        obtain ⟨other,row,pair,apart,beneath⟩ := shared
        exact .hidden begins other row pair apart ⟨beneath,(alone other row pair apart).1⟩ alone
      · exact .ownCase cased alone

/-- The cascade is exact exactly if letter case and spelling mislead it about no scanned file of the pair. -/
theorem untrack_exact_iff {calls : LinkCalls} {folderId : Nat} {result : FolderUntrackResult} {s t : Linked}
    {folder : TrackedFolder} (found : s.world.db.trackedFolders.find? folderId = some folder)
    (ok : untrackFolderCascade calls folderId s = .ok result t) :
    ExactlyUntracked folder s.world.db t.world.db ↔
      ∀ file ∈ s.world.db.listTrackedFilesOfPair folder.drivePairId, file.trackedDirect = false →
        file.trackedViaFolder = true → ¬Misled s.world.db folder file.relativePath := by
  obtain ⟨same,row,tables⟩ := untrackFolderCascade_ok ok
  obtain rfl : folder = same := Option.some.inj (found.symm.trans row)
  rw [tables]
  constructor
  · intro exact file listed indirect via misled
    obtain ⟨there,pair⟩ := Db.mem_listTrackedFilesOfPair.mp listed
    have gone := exact.gone file.id file there
    rw [(find?_cascaded s.world.db folder file.id).1] at gone
    refine misled_iff.mp misled ⟨?_,?_⟩
    · rintro ⟨under,alone⟩
      refine (gone.mp fun other same => ?_).2.2.2
      obtain rfl := Option.some.inj (there.symm.trans same)
      exact mem_descendants.mpr ⟨there,pair,indirect,via,under,alone⟩
    · intro only
      exact (mem_descendants.mp (gone.mpr ⟨pair,indirect,via,only⟩ file there)).2.2.2.2
  · intro agrees
    have chosen {id : Nat} {file : TrackedFile} (there : s.world.db.trackedFiles.find? id = some file) :
        file ∈ s.world.db.listFolderOriginDescendantFiles folder.drivePairId folder.folderPath folder.id ↔
          GoesWith s.world.db folder file := by
      have here : s.world.db.trackedFiles.find? file.id = some file :=
        (show file.id = id from Table.find?_key there) ▸ there
      have judged (pair : file.drivePairId = folder.drivePairId) (indirect : file.trackedDirect = false)
          (via : file.trackedViaFolder = true) := not_not.mp
        (mt misled_iff.mpr (agrees file (Db.mem_listTrackedFilesOfPair.mpr ⟨here,pair⟩) indirect via))
      rw [mem_descendants]
      constructor
      · rintro ⟨_,pair,indirect,via,taken⟩
        exact ⟨pair,indirect,via,(judged pair indirect via).mp taken⟩
      · rintro ⟨pair,indirect,via,only⟩
        exact ⟨here,pair,indirect,via,(judged pair indirect via).mpr only⟩
    refine ⟨cascaded_trackedFolders s.world.db folder,fun id file there => ?_,fun id file there stays => ⟨?_,?_⟩⟩
    · rw [(find?_cascaded s.world.db folder id).1,← chosen there]
      constructor
      · exact fun all => all file there
      · intro listed other same
        obtain rfl := Option.some.inj (there.symm.trans same)
        exact listed
    · exact (find?_cascaded s.world.db folder id).2 file there (mt (chosen there).mp stays)
    · intro itemId item queued own
      subst own
      exact cascaded_queue queued there (mt (chosen there).mp stays)

/-! A scanned folder, alone and beside one whose name differs by the case of a letter. -/

def lowerFolder : Table TrackedFolder := Table.empty.insert (folderRow "photos") (key_folderRow _)

def bothFolders : Table TrackedFolder := lowerFolder.insert (folderRow "Photos") (key_folderRow _)

def scanned (folders : Table TrackedFolder) : Linked := ⟨⟨foldersDb folders,⟨fun _ => none,fun _ => true⟩⟩,fun _ => none⟩

theorem untrack_exact_iff_lowerFolder : ∃ result t, untrackFolderCascade .healthy 1 (scanned lowerFolder) = .ok result t ∧
    ExactlyUntracked (folderRow "photos" 1) (scanned lowerFolder).world.db t.world.db := by
  obtain ⟨result,t,ran⟩ : ∃ result t, untrackFolderCascade .healthy 1 (scanned lowerFolder) = .ok result t := ⟨_,_,rfl⟩
  have found : (scanned lowerFolder).world.db.trackedFolders.find? 1 = some (folderRow "photos" 1) := rfl
  refine ⟨result,t,ran,(untrack_exact_iff found ran).mpr ?_⟩
  intro file listed _ _
  obtain rfl := List.mem_singleton.mp (show file ∈ [scannedFile "photos/f" 1] from listed)
  have begins : Begins "photos" "photos/f" := .inr ⟨_,['f'],rfl,rfl⟩
  have alone {other : TrackedFolder} (present : other ∈ (scanned lowerFolder).world.db.trackedFolders.rows) :
      other.id = 1 := congrArg TrackedFolder.id (List.mem_singleton.mp (show other ∈ [folderRow "photos" 1] from present))
  rintro (⟨_,spelled⟩ | ⟨_,other,row,_,apart,_⟩ | ⟨cased,_⟩ | ⟨_,other,row,_,apart,_,_⟩)
  · exact spelled.2 begins
  · exact apart (alone row)
  · exact cased.2 begins
  · exact apart (alone row)

/-- The file stays, because the other folder takes its path by the pattern. -/
theorem other_case_keeps_file :
    ¬ ∀ (folderId : Nat) (folder : TrackedFolder) (result : FolderUntrackResult) (s t : Linked),
      s.world.db.trackedFolders.find? folderId = some folder →
      untrackFolderCascade .healthy folderId s = .ok result t → ExactlyUntracked folder s.world.db t.world.db := by
  intro exact
  obtain ⟨result,t,ran,left⟩ : ∃ result t, untrackFolderCascade .healthy 1 (scanned bothFolders) = .ok result t ∧
      t.world.db = cascaded (scanned bothFolders).world.db (folderRow "photos" 1) := ⟨_,_,rfl,rfl⟩
  have only : OnlyUnder (scanned bothFolders).world.db (folderRow "photos" 1) "photos/f" := by
    refine ⟨by decide +kernel,fun other present _ apart => ?_⟩
    rcases List.mem_pair.mp (show other ∈ [folderRow "photos" 1,folderRow "Photos" 2] from present) with rfl | rfl
    · exact absurd rfl apart
    · decide +kernel
  have gone := ((exact 1 (folderRow "photos" 1) result _ t rfl ran).gone 1 (scannedFile "photos/f" 1) rfl).mpr
    ⟨rfl,rfl,rfl,only⟩
  rw [left] at gone
  exact absurd gone (by decide +kernel)

end FolderProvenance

end BitProtector
