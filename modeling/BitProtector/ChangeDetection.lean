import BitProtector.ScanWalks
import BitProtector.PairFrame

/-! The search for changes over a pair of any number of files, page by page as the source lists
them, and what recording its changes makes of the rows and of the queue. -/
namespace BitProtector

namespace Db

/-- `list_tracked_files`: a page in the order of the ids, and how many rows pass the filters. -/
def listTrackedFiles (db : Db) (drivePairId : Option Nat) (virtualPrefix : Option String) (isMirrored : Option Bool)
    (page perPage : Nat) : List TrackedFile × Nat :=
  let files := db.trackedFiles.rows.filter (fun file =>
    drivePairId.all (· == file.drivePairId) &&
      virtualPrefix.all (fun text => file.virtualPath.any (fun path => likes (text.toList ++ ['%']) path.toList)) &&
      isMirrored.all (· == file.isMirrored))
  ((files.drop ((page - 1) * perPage)).take perPage,files.length)

theorem listTrackedFiles_ofPair (db : Db) (drivePairId page perPage : Nat) :
    db.listTrackedFiles (some drivePairId) none none page perPage =
      (((db.listTrackedFilesOfPair drivePairId).drop ((page - 1) * perPage)).take perPage,
        (db.listTrackedFilesOfPair drivePairId).length) := by
  have filters : (fun file : TrackedFile => (some drivePairId).all (· == file.drivePairId) &&
      (none : Option String).all (fun text => file.virtualPath.any (fun path => likes (text.toList ++ ['%']) path.toList)) &&
      (none : Option Bool).all (· == file.isMirrored)) = fun file => file.drivePairId == drivePairId := by
    funext file
    rw [Option.all_some,Option.all_none,Option.all_none,Bool.and_true,Bool.and_true,Bool.beq_comm]
  rw [listTrackedFiles,filters]
  rfl

end Db

namespace ChangeDetection
open Effect ScanWalks

def perPage : Nat := 200

section
variable [Blake3]

/-- The loop of `scan_all_changes` from a page on; `fuel` bounds the pages. -/
def scanPages (io : Io) (pair : DrivePair) : Nat → Nat → Act (List (TrackedFile × String))
  | 0, _ => Act.bail "too many pages"
  | fuel + 1, page => do
    let listed ← Act.query (fun db => .ok (db.listTrackedFiles (some pair.id) none none page perPage))
    if listed.1.isEmpty then pure []
    else
      let changes ← detectChanges io pair listed.1
      if listed.2 ≤ page * perPage then pure changes
      else
        let later ← scanPages io pair fuel (page + 1)
        pure (changes ++ later)

/-- There are never more pages than rows and one. -/
def scanAllChanges (io : Io) (pair : DrivePair) : Act (List (TrackedFile × String)) := do
  let rows ← Act.query (fun db => .ok db.trackedFiles.rows.length)
  scanPages io pair (rows + 1) 1

def scanAndRecordChanges (io : Io) (pair : DrivePair) : Act (List (TrackedFile × String)) := do
  let changes ← scanAllChanges io pair
  recordChanges pair changes
  pure changes

/-! The pages together. -/

variable {io : Io} {pair : DrivePair} {w t : World} {changes : List (TrackedFile × String)}

theorem detectChanges_append (io : Io) (pair : DrivePair) (files others : List TrackedFile) :
    detectChanges io pair (files ++ others) =
    (do let changes ← detectChanges io pair files
        let later ← detectChanges io pair others
        pure (changes ++ later)) := by
  induction files with
  | nil => simp only [List.nil_append,detectChanges,pure_bind,bind_pure]
  | cons file files ih => simp only [List.cons_append,detectChanges,ih,bind_assoc,pure_bind,List.append_assoc]

theorem scanPages_run {fuel k : Nat}
    (enough : (w.db.listTrackedFilesOfPair pair.id).length ≤ (k + fuel) * perPage) :
    scanPages io pair (fuel + 1) (k + 1) w =
      detectChanges io pair ((w.db.listTrackedFilesOfPair pair.id).drop (k * perPage)) w := by
  induction fuel generalizing k with
  | zero =>
    have past : (w.db.listTrackedFilesOfPair pair.id).drop (k * perPage) = [] := List.drop_eq_nil_of_le enough
    unfold scanPages
    rw [bind_of_ok (by rw [Act.query]),Db.listTrackedFiles_ofPair,Nat.add_sub_cancel,past]
    rfl
  | succ fuel ih =>
    let rest := (w.db.listTrackedFilesOfPair pair.id).drop (k * perPage)
    have next : (w.db.listTrackedFilesOfPair pair.id).drop ((k + 1) * perPage) = rest.drop perPage := by
      rw [List.drop_drop,Nat.succ_mul]
    have enough' : (w.db.listTrackedFilesOfPair pair.id).length ≤ (k + 1 + fuel) * perPage := by
      rwa [Nat.add_assoc,Nat.add_comm 1]
    have later := ih enough'
    rw [next] at later
    unfold scanPages
    rw [bind_of_ok (by rw [Act.query]),Db.listTrackedFiles_ofPair,Nat.add_sub_cancel]
    change (if (rest.take perPage).isEmpty then pure [] else do
      let changes ← detectChanges io pair (rest.take perPage)
      if (w.db.listTrackedFilesOfPair pair.id).length ≤ (k + 1) * perPage then pure changes
      else do
        let later ← scanPages io pair (fuel + 1) (k + 1 + 1)
        pure (changes ++ later) : Act _) w = detectChanges io pair rest w
    by_cases empty : (rest.take perPage).isEmpty = true
    · have ended : rest = [] := by
        rcases List.take_eq_nil_iff.mp (List.isEmpty_iff.mp empty) with none | nothing
        · cases none
        · exact nothing
      rw [if_pos empty,ended]
      rfl
    · rw [if_neg empty]
      by_cases last : (w.db.listTrackedFilesOfPair pair.id).length ≤ (k + 1) * perPage
      · have whole : rest.take perPage = rest := by
          apply List.take_of_length_le
          rw [List.length_drop]
          rw [Nat.succ_mul] at last
          omega
        simp only [if_pos last]
        rw [bind_pure,whole]
      · simp only [if_neg last]
        have split := detectChanges_append io pair (rest.take perPage) (rest.drop perPage)
        rw [List.take_append_drop] at split
        rw [split]
        cases first : detectChanges io pair (rest.take perPage) w with
        | error message t => rw [bind_of_error first,bind_of_error first]
        | ok changes t =>
          obtain rfl := (PairFrame.detectChanges_still first).1
          rw [bind_of_ok first,bind_of_ok first,bind_apply,later,bind_apply]

theorem scanAllChanges_eq (io : Io) (pair : DrivePair) : scanAllChanges io pair = BitProtector.scanAllChanges io pair := by
  funext w
  have few : (w.db.listTrackedFilesOfPair pair.id).length ≤ (0 + w.db.trackedFiles.rows.length) * perPage := by
    have listed : (w.db.listTrackedFilesOfPair pair.id).length ≤ w.db.trackedFiles.rows.length := List.length_filter_le _ _
    rw [perPage]
    omega
  rw [scanAllChanges,bind_of_ok (by rw [Act.query]),BitProtector.scanAllChanges,bind_of_ok (by rw [Act.query]),
    scanPages_run few,Nat.zero_mul,List.drop_zero]

theorem scanAndRecordChanges_eq (io : Io) (pair : DrivePair) :
    (scanAndRecordChanges io pair >>= fun _ => pure ()) = BitProtector.scanAndRecordChanges io pair := by
  simp only [scanAndRecordChanges,scanAllChanges_eq,BitProtector.scanAndRecordChanges,bind_assoc,pure_bind,bind_pure_unit]

end

/-! One change. -/

/-- The row of a file whose new contents are recorded. -/
def renewed (hash : String) (size : Nat) (file : TrackedFile) : TrackedFile :=
  { file with checksum := hash,fileSize := size,isMirrored := false }

def changedRows (db : Db) (fileId : Nat) (hash : String) (size : Nat) : Db :=
  (db.updateTrackedFileChecksum fileId hash size).updateTrackedFileMirrorStatus fileId false

/-- The statements of one change, on a pair whose standby takes copies or does not. -/
def changedDb (db : Db) (accepts : Bool) (fileId : Nat) (hash : String) (size : Nat) : Db :=
  if accepts then ((changedRows db fileId hash size).createSyncQueueItemDedup fileId .mirror).2
  else changedRows db fileId hash size

/-- The mirror items of a file with a status. -/
def mirrors (db : Db) (fileId : Nat) (status : SyncStatus) : List SyncQueueItem :=
  db.syncQueue.rows.filter (fun item => item.trackedFileId == fileId && item.action == .mirror && item.status == status)

/-- Only `user_action_required` items are ever given a reason. -/
def PlainMirrors (db : Db) : Prop := ∀ item ∈ db.syncQueue.rows, item.action = .mirror → item.reason = none

section
variable {db next : Db} {fileId other size : Nat} {hash : String} {accepts : Bool} {item : SyncQueueItem}

theorem recordChange_success {pair : DrivePair} {w t : World} {path : Location}
    (ok : recordChange pair fileId path hash w = .ok () t) : w.disk.exists? path = true ∧
      t = ⟨changedDb w.db (pair.standbyAcceptsSync w.disk) fileId hash (fileSize path w.disk),w.disk⟩ := by
  cases present : w.disk.exists? path with
  | false =>
    have absent : metadataLen path w = .error osError w := by
      rw [metadataLen,bind_of_ok (Act.look_apply _ _),present]
      rfl
    rw [recordChange,bind_of_error absent] at ok
    cases ok
  | true =>
    rw [recordChange,bind_of_ok (metadataLen_run present),bind_of_ok (Act.execute_apply _ _),
      bind_of_ok (Act.execute_apply _ _),bind_of_ok (Act.look_apply _ _)] at ok
    unfold changedDb
    cases accepts : pair.standbyAcceptsSync w.disk with
    | false =>
      rw [accepts,if_neg Bool.false_ne_true] at ok
      cases ok
      exact ⟨rfl,rfl⟩
    | true =>
      rw [accepts,if_pos rfl] at ok
      cases ok
      exact ⟨rfl,rfl⟩

theorem changedRows_rows : (changedRows db fileId hash size).trackedFiles.rows =
    db.trackedFiles.rows.map (fun file => if file.id == fileId then renewed hash size file else file) := by
  unfold changedRows Db.updateTrackedFileMirrorStatus Db.updateTrackedFileChecksum Db.updateTrackedFile
  rw [Table.updateWhere_rows,Table.updateWhere_rows,List.map_map]
  apply List.map_congr_left
  intro file _
  rw [Function.comp_apply]
  by_cases own : (file.id == fileId) = true
  · rw [if_pos own,if_pos own,if_pos own]
    rfl
  · rw [if_neg own,if_neg own,if_neg own]

theorem createSyncQueueItemDedup_cases (db : Db) (fileId : Nat) :
    ((db.openSyncQueueItem fileId .mirror none).isSome = true ∧ (db.createSyncQueueItemDedup fileId .mirror).2 = db) ∨
      (db.openSyncQueueItem fileId .mirror none = none ∧
        (db.createSyncQueueItemDedup fileId .mirror).2 = (db.createSyncQueueItem fileId .mirror none none).2) := by
  unfold Db.createSyncQueueItemDedup Db.createSyncQueueItemDedupWithCreated
  cases found : db.openSyncQueueItem fileId .mirror none with
  | none => exact .inr ⟨rfl,rfl⟩
  | some item => exact .inl ⟨rfl,rfl⟩

theorem changedDb_rows : (changedDb db accepts fileId hash size).trackedFiles.rows =
    db.trackedFiles.rows.map (fun file => if file.id == fileId then renewed hash size file else file) := by
  rw [← changedRows_rows,changedDb]
  split
  · rcases createSyncQueueItemDedup_cases (changedRows db fileId hash size) fileId with ⟨_,same⟩ | ⟨_,same⟩
    · rw [same]
    · rw [same]
      rfl
  · rfl

theorem changedDb_queue (db : Db) (accepts : Bool) (fileId : Nat) (hash : String) (size : Nat) :
    (changedDb db accepts fileId hash size).syncQueue.rows = db.syncQueue.rows ∨
    ∃ id, (changedDb db accepts fileId hash size).syncQueue.rows =
      db.syncQueue.rows ++ [⟨id,fileId,.mirror,.pending,none,none⟩] := by
  rw [changedDb]
  split
  · rcases createSyncQueueItemDedup_cases (changedRows db fileId hash size) fileId with ⟨_,same⟩ | ⟨_,same⟩
    · left
      rw [same]
      rfl
    · right
      rw [same]
      exact ⟨_,rfl⟩
  · left
    rfl

theorem plainMirrors_changedDb (plain : PlainMirrors db) : PlainMirrors (changedDb db accepts fileId hash size) := by
  intro item member mirror
  rcases changedDb_queue db accepts fileId hash size with same | ⟨id,more⟩
  · rw [same] at member
    exact plain item member mirror
  · rw [more,List.mem_append,List.mem_singleton] at member
    rcases member with before | rfl
    · exact plain item before mirror
    · rfl

theorem mirrors_changedDb_other (apart : other ≠ fileId) (status : SyncStatus) :
    mirrors (changedDb db accepts fileId hash size) other status = mirrors db other status := by
  rcases changedDb_queue db accepts fileId hash size with same | ⟨id,more⟩
  · rw [mirrors,same,mirrors]
  · have foreign : (fileId == other) = false := beq_eq_false_iff_ne.mpr apart.symm
    rw [mirrors,more,List.filter_append,mirrors,List.filter_cons_of_neg (by simp [foreign]),List.filter_nil,List.append_nil]

theorem mem_mirrors {status : SyncStatus} : item ∈ mirrors db fileId status ↔
    item ∈ db.syncQueue.rows ∧ item.trackedFileId = fileId ∧ item.action = .mirror ∧ item.status = status := by
  rw [mirrors,List.mem_filter,Bool.and_eq_true,Bool.and_eq_true,beq_iff_eq,beq_iff_eq,beq_iff_eq,and_assoc]

theorem openSyncQueueItem_isSome (plain : PlainMirrors db) (free : mirrors db fileId .inProgress = []) :
    (db.openSyncQueueItem fileId .mirror none).isSome = true ↔ mirrors db fileId .pending ≠ [] := by
  rw [Db.openSyncQueueItem,List.find?_isSome]
  constructor
  · rintro ⟨item,row,asked⟩
    simp only [Bool.and_eq_true,beq_iff_eq] at asked
    obtain ⟨⟨⟨own,mirror⟩,opened⟩,_⟩ := asked
    have pending : item.status = .pending := by
      cases status : item.status with
      | pending => rfl
      | inProgress =>
        have working : item ∈ mirrors db fileId .inProgress := mem_mirrors.mpr ⟨row,own,mirror,status⟩
        rw [free] at working
        cases working
      | completed | failed =>
        rw [status] at opened
        cases opened
    exact List.ne_nil_of_mem (mem_mirrors.mpr ⟨row,own,mirror,pending⟩)
  · intro some
    obtain ⟨item,member⟩ := List.exists_mem_of_ne_nil _ some
    obtain ⟨row,own,mirror,pending⟩ := mem_mirrors.mp member
    refine ⟨item,row,?_⟩
    simp [own,mirror,pending,plain item row mirror,SyncStatus.isOpen]

theorem mirrors_changedDb (plain : PlainMirrors db) (free : mirrors db fileId .inProgress = [])
    (few : (mirrors db fileId .pending).length ≤ 1) :
    (mirrors (changedDb db true fileId hash size) fileId .pending).length = 1 := by
  have plain' : PlainMirrors (changedRows db fileId hash size) := plain
  have free' : mirrors (changedRows db fileId hash size) fileId .inProgress = [] := free
  have opened := openSyncQueueItem_isSome plain' free'
  change _ ↔ mirrors db fileId .pending ≠ [] at opened
  rw [changedDb,if_pos rfl]
  rcases createSyncQueueItemDedup_cases (changedRows db fileId hash size) fileId with ⟨found,same⟩ | ⟨missing,same⟩
  · rw [same]
    change (mirrors db fileId .pending).length = 1
    exact Nat.le_antisymm few (List.length_pos_of_ne_nil (opened.mp found))
  · rw [missing,Option.isSome_none] at opened
    have nothing : mirrors db fileId .pending = [] := by
      by_contra some
      cases opened.mpr some
    rw [same]
    change (List.filter _ (db.syncQueue.rows ++ [(⟨_,fileId,.mirror,.pending,none,none⟩ : SyncQueueItem)])).length = 1
    rw [List.filter_append]
    change (mirrors db fileId .pending ++ _).length = 1
    rw [nothing,List.nil_append,List.filter_cons_of_pos (by simp)]
    rfl

end

/-! All the changes of a search. -/

section
variable [Blake3]

/-- The list is the changed files of the pair, each once. -/
structure Exact (io : Io) (disk : Disk) (pair : DrivePair) (db : Db) (changes : List (TrackedFile × String)) : Prop where
  once : (changes.map (fun change => change.1.id)).Nodup
  found : ∀ file hash, (file,hash) ∈ changes ↔
    (file ∈ db.trackedFiles.rows ∧ file.drivePairId = pair.id) ∧
      hashAt io disk (pair.copyOn pair.activeRole file.relativePath) = some hash ∧ hash ≠ file.checksum
  /-- A copy that is there has a checksum. -/
  read : ∀ file ∈ db.trackedFiles.rows, file.drivePairId = pair.id →
    disk.exists? (pair.copyOn pair.activeRole file.relativePath) = true →
      (hashAt io disk (pair.copyOn pair.activeRole file.relativePath)).isSome = true

omit [Blake3] in
theorem mem_listTrackedFilesOfPair {db : Db} {pairId : Nat} {file : TrackedFile} :
    file ∈ db.listTrackedFilesOfPair pairId ↔ file ∈ db.trackedFiles.rows ∧ file.drivePairId = pairId := by
  rw [Db.listTrackedFilesOfPair,List.mem_filter,beq_iff_eq]

variable {io : Io} {pair : DrivePair} {w t : World} {changes : List (TrackedFile × String)}

theorem changeOf_some {disk : Disk} {file listed : TrackedFile} {hash : String} :
    changeOf io disk pair listed = some (file,hash) ↔ listed = file ∧
      hashAt io disk (pair.copyOn pair.activeRole file.relativePath) = some hash ∧ hash ≠ file.checksum := by
  rw [changeOf,Option.map_eq_some_iff]
  constructor
  · rintro ⟨_,kept,same⟩
    cases same
    obtain ⟨read,differs⟩ := Option.filter_eq_some_iff.mp kept
    exact ⟨rfl,read,of_decide_eq_true differs⟩
  · rintro ⟨rfl,read,differs⟩
    exact ⟨hash,Option.filter_eq_some_iff.mpr ⟨read,decide_eq_true differs⟩,rfl⟩

theorem scanAllChanges_success (ok : scanAllChanges io pair w = .ok changes t) :
    t = w ∧ readsAll io w.disk pair (w.db.listTrackedFilesOfPair pair.id) = true ∧
      changes = (w.db.listTrackedFilesOfPair pair.id).filterMap (changeOf io w.disk pair) := by
  rw [scanAllChanges_eq,BitProtector.scanAllChanges,bind_of_ok (by rw [Act.query])] at ok
  cases reads : readsAll io w.disk pair (w.db.listTrackedFilesOfPair pair.id) with
  | false =>
    rw [detectChanges_fails reads] at ok
    cases ok
  | true =>
    rw [detectChanges_run reads] at ok
    cases ok
    exact ⟨rfl,rfl,rfl⟩

theorem scanAllChanges_run (reads : readsAll io w.disk pair (w.db.listTrackedFilesOfPair pair.id) = true) :
    scanAllChanges io pair w = .ok ((w.db.listTrackedFilesOfPair pair.id).filterMap (changeOf io w.disk pair)) w := by
  rw [scanAllChanges_eq,BitProtector.scanAllChanges,bind_of_ok (by rw [Act.query]),detectChanges_run reads]

theorem changed_once (io : Io) (disk : Disk) (pair : DrivePair) (db : Db) :
    (((db.listTrackedFilesOfPair pair.id).filterMap (changeOf io disk pair)).map (fun change => change.1.id)).Nodup := by
  have ascending : (db.listTrackedFilesOfPair pair.id).Pairwise (fun a b => a.id < b.id) := db.trackedFiles.ascending.filter _
  rw [List.Nodup,List.pairwise_map,List.pairwise_filterMap]
  apply ascending.imp
  intro a b before first isFirst second isSecond
  obtain ⟨rfl,_⟩ := changeOf_some.mp isFirst
  obtain ⟨rfl,_⟩ := changeOf_some.mp isSecond
  exact Nat.ne_of_lt before

theorem scanAllChanges_exact (ok : scanAllChanges io pair w = .ok changes t) : Exact io w.disk pair w.db changes := by
  obtain ⟨_,reads,rfl⟩ := scanAllChanges_success ok
  constructor
  · exact changed_once io w.disk pair w.db
  · intro file hash
    rw [List.mem_filterMap,← mem_listTrackedFilesOfPair]
    constructor
    · rintro ⟨listed,member,found⟩
      obtain ⟨rfl,differs⟩ := changeOf_some.mp found
      exact ⟨member,differs⟩
    · rintro ⟨member,differs⟩
      exact ⟨file,member,changeOf_some.mpr ⟨rfl,differs⟩⟩
  · intro file row own present
    have here := List.all_eq_true.mp reads file (mem_listTrackedFilesOfPair.mpr ⟨row,own⟩)
    rw [unreadable,present,Bool.true_and,Bool.not_eq_true',Option.isNone_eq_false_iff] at here
    exact here

/-- What recording a list of changes leaves. -/
structure Recorded (disk : Disk) (pair : DrivePair) (changes : List (TrackedFile × String)) (db next : Db) : Prop where
  ids : next.trackedFiles.rows.map TrackedFile.id = db.trackedFiles.rows.map TrackedFile.id
  changed : ∀ change ∈ changes,
    renewed change.2 (fileSize (pair.copyOn pair.activeRole change.1.relativePath) disk) change.1 ∈ next.trackedFiles.rows
  others : ∀ file ∈ db.trackedFiles.rows, file.id ∉ changes.map (fun change => change.1.id) →
    file ∈ next.trackedFiles.rows
  queued : pair.standbyAcceptsSync disk = true → ∀ change ∈ changes,
    (mirrors db change.1.id .pending).length ≤ 1 → mirrors db change.1.id .inProgress = [] →
      (mirrors next change.1.id .pending).length = 1
  /-- The items of other files. -/
  apart : ∀ id, id ∉ changes.map (fun change => change.1.id) → ∀ status, mirrors next id status = mirrors db id status

omit [Blake3] in
theorem recordChanges_recorded (plain : PlainMirrors w.db)
    (once : (changes.map (fun change => change.1.id)).Nodup) (rows : ∀ change ∈ changes, change.1 ∈ w.db.trackedFiles.rows)
    (ok : recordChanges pair changes w = .ok () t) : t.disk = w.disk ∧ Recorded w.disk pair changes w.db t.db := by
  induction changes generalizing w with
  | nil =>
    cases ok
    refine ⟨rfl,rfl,?_,fun file row _ => row,fun _ => ?_,fun _ _ _ => rfl⟩
    · intro change member
      cases member
    · intro change member
      cases member
  | cons change changes ih =>
    obtain ⟨file,hash⟩ := change
    obtain ⟨unlisted,once⟩ := List.nodup_cons.mp once
    have fresh : file.id ∉ changes.map (fun change => change.1.id) := unlisted
    obtain ⟨row,rows⟩ := List.forall_mem_cons.mp rows
    obtain ⟨_,u,first,rest⟩ := bind_success ok
    obtain ⟨present,rfl⟩ := recordChange_success first
    let size := fileSize (pair.copyOn pair.activeRole file.relativePath) w.disk
    let step := changedDb w.db (pair.standbyAcceptsSync w.disk) file.id hash size
    have stepRows : step.trackedFiles.rows = w.db.trackedFiles.rows.map
        (fun other => if other.id == file.id then renewed hash size other else other) := changedDb_rows
    have keeps (other : TrackedFile) (there : other ∈ w.db.trackedFiles.rows) (different : other.id ≠ file.id) :
        other ∈ step.trackedFiles.rows := by
      rw [stepRows]
      exact List.mem_map.mpr ⟨other,there,if_neg (by simpa using different)⟩
    have foreign (other : TrackedFile × String) (member : other ∈ changes) : other.1.id ≠ file.id := by
      intro same
      apply fresh
      rw [← same]
      exact List.mem_map_of_mem member
    obtain ⟨sameDisk,recorded⟩ := ih (plainMirrors_changedDb plain) once
      (fun other member => keeps other.1 (rows other member) (foreign other member)) rest
    refine ⟨sameDisk,?_,?_,?_,?_,?_⟩
    · rw [recorded.ids,stepRows,List.map_map]
      apply List.map_congr_left
      intro other _
      rw [Function.comp_apply]
      split <;> rfl
    · intro change member
      rcases List.mem_cons.mp member with rfl | later
      · apply recorded.others
        · rw [stepRows]
          exact List.mem_map.mpr ⟨file,row,if_pos (by simp)⟩
        · exact fresh
      · exact recorded.changed change later
    · intro other there unlisted
      rw [List.map_cons,List.mem_cons,not_or] at unlisted
      exact recorded.others other (keeps other there unlisted.1) unlisted.2
    · intro accepts change member few free
      rcases List.mem_cons.mp member with rfl | later
      · rw [recorded.apart file.id fresh]
        change (mirrors (changedDb w.db (pair.standbyAcceptsSync w.disk) file.id hash size) file.id .pending).length = 1
        rw [accepts]
        exact mirrors_changedDb plain free few
      · have kept (status : SyncStatus) : mirrors step change.1.id status = mirrors w.db change.1.id status :=
          mirrors_changedDb_other (foreign change later) status
        apply recorded.queued accepts change later
        · rw [kept]
          exact few
        · rw [kept]
          exact free
    · intro id unlisted status
      rw [List.map_cons,List.mem_cons,not_or] at unlisted
      exact (recorded.apart id unlisted.2 status).trans (mirrors_changedDb_other unlisted.1 status)

omit [Blake3] in
theorem Recorded.rows {disk : Disk} {db next : Db} (recorded : Recorded disk pair changes db next) {file : TrackedFile}
    (row : file ∈ next.trackedFiles.rows) :
    (∃ change ∈ changes, file =
      renewed change.2 (fileSize (pair.copyOn pair.activeRole change.1.relativePath) disk) change.1) ∨
    (file ∈ db.trackedFiles.rows ∧ file.id ∉ changes.map (fun change => change.1.id)) := by
  by_cases listed : file.id ∈ changes.map (fun change => change.1.id)
  · left
    obtain ⟨change,member,same⟩ := List.mem_map.mp listed
    exact ⟨change,member,next.trackedFiles.key_injective row (recorded.changed change member) same.symm⟩
  · right
    have before : file.id ∈ db.trackedFiles.rows.map TrackedFile.id := by
      rw [← recorded.ids]
      exact List.mem_map_of_mem row
    obtain ⟨old,there,same⟩ := List.mem_map.mp before
    have kept := recorded.others old there (by rwa [same])
    rw [← next.trackedFiles.key_injective kept row same]
    exact ⟨there,by rwa [same]⟩

theorem scanAllChanges_recorded (exact_ : Exact io w.disk pair w.db changes) (disk : t.disk = w.disk)
    (recorded : Recorded w.disk pair changes w.db t.db) : scanAllChanges io pair t = .ok [] t := by
  have origin (file : TrackedFile) (listed : file ∈ t.db.listTrackedFilesOfPair pair.id) :
      ∃ old ∈ w.db.trackedFiles.rows, old.drivePairId = pair.id ∧ old.relativePath = file.relativePath ∧
        hashAt io w.disk (pair.copyOn pair.activeRole file.relativePath) ∈ [none,some file.checksum] := by
    obtain ⟨row,own⟩ := mem_listTrackedFilesOfPair.mp listed
    rcases recorded.rows row with ⟨change,member,rfl⟩ | ⟨there,unlisted⟩
    · obtain ⟨⟨old,_⟩,read,_⟩ := (exact_.found change.1 change.2).mp member
      refine ⟨change.1,old,own,rfl,?_⟩
      rw [show (renewed _ _ change.1).relativePath = change.1.relativePath from rfl,read]
      simp [renewed]
    · refine ⟨file,there,own,rfl,?_⟩
      cases read : hashAt io w.disk (pair.copyOn pair.activeRole file.relativePath) with
      | none => simp
      | some hash =>
        by_cases same : hash = file.checksum
        · simp [same]
        · have changed := (exact_.found file hash).mpr ⟨⟨there,own⟩,read,same⟩
          exact absurd (List.mem_map_of_mem changed) unlisted
  have reads : readsAll io t.disk pair (t.db.listTrackedFilesOfPair pair.id) = true := by
    rw [disk,readsAll,List.all_eq_true]
    intro file listed
    obtain ⟨old,row,own,path,_⟩ := origin file listed
    have read := exact_.read old row own
    rw [path] at read
    rw [unreadable,Bool.not_eq_true',Bool.and_eq_false_iff,Option.isNone_eq_false_iff]
    cases present : w.disk.exists? (pair.copyOn pair.activeRole file.relativePath) with
    | false => exact .inl rfl
    | true => exact .inr (read present)
  have none : (t.db.listTrackedFilesOfPair pair.id).filterMap (changeOf io t.disk pair) = [] := by
    rw [List.filterMap_eq_nil_iff,disk]
    intro file listed
    obtain ⟨_,_,_,_,hashes⟩ := origin file listed
    rw [List.mem_cons,List.mem_singleton] at hashes
    rw [changeOf]
    rcases hashes with absent | same
    · rw [absent]
      rfl
    · rw [same,Option.filter_some_neg (by simp)]
      rfl
  rw [scanAllChanges_run reads,none]

/-- A search that returns has found the changed files of the pair; when it records them too,
they are recorded and queued, nothing else is, and the next search finds nothing. -/
theorem changes_exact (io : Io) (pair : DrivePair) (w : World) (plain : PlainMirrors w.db) :
    (∀ changes t, scanAllChanges io pair w = .ok changes t → t = w ∧ Exact io w.disk pair w.db changes) ∧
      ∀ changes t, scanAndRecordChanges io pair w = .ok changes t →
        Exact io w.disk pair w.db changes ∧ t.disk = w.disk ∧ Recorded w.disk pair changes w.db t.db ∧
          scanAllChanges io pair t = .ok [] t := by
  constructor
  · intro changes t ok
    exact ⟨(scanAllChanges_success ok).1,scanAllChanges_exact ok⟩
  · intro changes t ok
    obtain ⟨found,u,searched,ok⟩ := bind_success ok
    obtain ⟨_,v,recorded,ok⟩ := bind_success ok
    cases ok
    obtain rfl := (scanAllChanges_success searched).1
    have exact_ := scanAllChanges_exact searched
    obtain ⟨disk,records⟩ := recordChanges_recorded plain exact_.once
      (fun change member => ((exact_.found change.1 change.2).mp member).1.1) recorded
    exact ⟨exact_,disk,records,scanAllChanges_recorded exact_ disk records⟩

end

open FolderProvenance VirtualRetarget

/-- A pair whose only file has new contents. -/
def editedWorld : World :=
  ⟨foldersDb lowerFolder,⟨fun path => if path = (firstPair 1).copyOn .primary "photos/f" then some ⟨[1],none⟩ else none,
    fun _ => true⟩⟩

theorem changes_exact_edited :
    letI := sampleBlake3
    ∃ change t, scanAndRecordChanges .healthy (firstPair 1) editedWorld = .ok [change] t ∧
      (mirrors t.db 1 .pending).length = 1 ∧ scanAllChanges .healthy (firstPair 1) t = .ok [] t := by
  let _ := sampleBlake3
  have plain : PlainMirrors editedWorld.db := by
    intro item member
    cases member
  have exact_ := (@changes_exact sampleBlake3 .healthy (firstPair 1) editedWorld plain).2
    [(scannedFile "photos/f" 1,sampleBlake3.toHex [1])] _ rfl
  exact ⟨_,_,rfl,exact_.2.2.1.queued rfl _ List.mem_cons_self (by decide) rfl,exact_.2.2.2⟩

end ChangeDetection
end BitProtector
