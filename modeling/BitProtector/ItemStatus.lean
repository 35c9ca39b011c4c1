import BitProtector.MirrorFlag

/-! What one call of `process_item` leaves in the queue: the status it writes last,
and the arms that return before there is one. -/
namespace BitProtector
open Effect

/-! What a check finds, without the calls. -/

section
variable [Blake3]

/-- What `sideChecksum` returns; `none` is an error. -/
def sideDigest (io : Io) (path : Location) (disk : Disk) : Option (Option String) :=
  if disk.available path.root && disk.exists? path then
    match disk.node path with
    | some node => if io.openRead path && node.whole then some (some (checksumBytes node.bytes)) else none
    | none => none
  else some none

/-- The status of a check; `none` is an error. -/
def checkedStatus (io : Io) (pair : DrivePair) (file : TrackedFile) (disk : Disk) : Option IntegrityStatus :=
  if pair.roleState .primary = .active ∧ disk.available pair.primaryPath = false then some .primaryDriveUnavailable
  else if pair.roleState .secondary = .active ∧ disk.available pair.secondaryPath = false then
    some .secondaryDriveUnavailable
  else
    (sideDigest io (pair.copyOn .primary file.relativePath) disk).bind fun master =>
      (sideDigest io (pair.copyOn .secondary file.relativePath) disk).map fun mirror =>
        statusOfChecksums pair master mirror file.checksum

theorem sideChecksum_run (io : Io) (path : Location) (strategy : ChecksumStrategy) (w : World) :
    sideChecksum io path.root path strategy w =
      match sideDigest io path w.disk with
      | some digest => .ok digest w
      | none => .error osError w := by
  have hashed := checksumFile_run io w path strategy
  unfold sideChecksum sideDigest
  rw [bind_of_ok (Act.look_apply _ _)]
  cases w.disk.available path.root && w.disk.exists? path with
  | false => rfl
  | true =>
    simp only [if_true]
    cases found : w.disk.node path with
    | none =>
      rw [found] at hashed
      exact bind_of_error hashed _
    | some node =>
      rw [found] at hashed
      dsimp only at hashed ⊢
      cases reads : io.openRead path && node.whole with
      | true =>
        rw [reads] at hashed
        exact bind_of_ok hashed _
      | false =>
        rw [reads] at hashed
        exact bind_of_error hashed _

theorem checkFileIntegrity_run (io : Io) (pair : DrivePair) (file : TrackedFile)
    (masterStrategy mirrorStrategy : ChecksumStrategy) (w : World) :
    match checkedStatus io pair file w.disk with
    | some status => ∃ result, result.status = status ∧
        checkFileIntegrity io pair file masterStrategy mirrorStrategy w = .ok result w
    | none => checkFileIntegrity io pair file masterStrategy mirrorStrategy w = .error osError w := by
  have master : sideChecksum io pair.primaryPath (pair.copyOn .primary file.relativePath) masterStrategy w = _ :=
    sideChecksum_run io (pair.copyOn .primary file.relativePath) masterStrategy w
  have mirror : sideChecksum io pair.secondaryPath (pair.copyOn .secondary file.relativePath) mirrorStrategy w = _ :=
    sideChecksum_run io (pair.copyOn .secondary file.relativePath) mirrorStrategy w
  unfold checkedStatus checkFileIntegrity
  rw [bind_of_ok (Act.look_apply _ _),bind_of_ok (Act.look_apply _ _)]
  by_cases primary : pair.roleState .primary = .active ∧ w.disk.available pair.primaryPath = false
  · rw [if_pos primary,if_pos primary]
    exact ⟨_,rfl,rfl⟩
  · rw [if_neg primary,if_neg primary]
    by_cases secondary : pair.roleState .secondary = .active ∧ w.disk.available pair.secondaryPath = false
    · rw [if_pos secondary,if_pos secondary]
      exact ⟨_,rfl,rfl⟩
    · rw [if_neg secondary,if_neg secondary]
      cases first : sideDigest io (pair.copyOn .primary file.relativePath) w.disk with
      | none =>
        rw [first] at master
        rw [bind_of_ok (attempt_of_error master)]
        cases second : sideDigest io (pair.copyOn .secondary file.relativePath) w.disk with
        | none =>
          rw [second] at mirror
          exact bind_of_ok (attempt_of_error mirror) _
        | some digest =>
          rw [second] at mirror
          exact bind_of_ok (attempt_of_ok mirror) _
      | some masterDigest =>
        rw [first] at master
        rw [bind_of_ok (attempt_of_ok master)]
        cases second : sideDigest io (pair.copyOn .secondary file.relativePath) w.disk with
        | none =>
          rw [second] at mirror
          exact bind_of_ok (attempt_of_error mirror) _
        | some mirrorDigest =>
          rw [second] at mirror
          exact ⟨_,rfl,bind_of_ok (attempt_of_ok mirror) _⟩

/-! How an action ends. -/

/-- The action returns to `process_item`, which then writes a status: a copy of `mirror`
or a restore whatever comes of it, `adopt_mirror` if it needs no copy or makes one,
`verify` if both copies are good. -/
def Returns (io : Io) (action : SyncAction) (pair : DrivePair) (file : TrackedFile) (w : World) : Prop :=
  match action with
  | .mirror | .restoreMaster | .restoreMirror => True
  | .adoptMirror => adoption io pair file w.disk = .taken ∨
      ∃ copy, actionStart io .adoptMirror pair file w = some copy ∧ copy.completes io pair file = true
  | .verify => checkedStatus io pair file w.disk = some .ok
  | .userActionRequired | .other _ => False

theorem runAction_returns_iff (io : Io) (action : SyncAction) (pair : DrivePair) (file : TrackedFile) (w : World) :
    (∃ result t, runAction io action pair file w = .ok result t) ↔ Returns io action pair file w := by
  have attempts (x : Act Unit) : ∃ result t, attempt x w = .ok result t := by
    cases ran : x w with
    | ok a t => exact ⟨_,t,attempt_of_ok ran⟩
    | error e t => exact ⟨_,t,attempt_of_error ran⟩
  cases action with
  | mirror => exact iff_of_true (attempts _) trivial
  | restoreMaster => exact iff_of_true (attempts _) trivial
  | restoreMirror => exact iff_of_true (attempts _) trivial
  | adoptMirror =>
    unfold Returns
    have mirroring : SyncAction.adoptMirror.isMirroring = true := rfl
    rcases mirroringAction_cases io mirroring pair file w with
      ⟨copy,start,_,completes,_,ran⟩ | ⟨nothing,ran,_⟩ | ⟨stopped,t,_,ended⟩
    · exact iff_of_true ⟨_,_,ran⟩ (.inr ⟨copy,start,completes⟩)
    · refine iff_of_true ⟨_,_,ran⟩ (.inl ?_)
      have adopted := adoptMirror_run io pair file w
      cases choice : adoption io pair file w.disk with
      | taken => rfl
      | copied =>
        -- Nothing was copied, so the copy did not return either.
        rw [choice] at adopted
        obtain ⟨_,u,adopts,_⟩ := bind_success ran
        obtain ⟨digest,v,mirrored,_⟩ := bind_success (adopted.symm.trans adopts)
        rcases mirrorFile_cases io pair file w with ⟨copy,start,_⟩ | ⟨_,message,x,failed,_⟩
        · rw [actionStart,choice] at nothing
          dsimp only at nothing
          rw [start] at nothing
          cases nothing
        · rw [failed] at mirrored
          cases mirrored
      | unreadable =>
        rw [choice] at adopted
        obtain ⟨_,u,adopts,_⟩ := bind_success ran
        rw [adopted] at adopts
        cases adopts
    · refine iff_of_false ?_ ?_
      · rintro ⟨result,u,ran⟩
        rcases ended with ⟨message,failed⟩ | ⟨message,failed⟩
        · rw [failed] at ran
          cases ran
        · obtain ⟨_,_,_,ends⟩ := bind_success failed
          cases ends
      · rintro (taken | ⟨copy,start,completes⟩)
        · have adopted := adoptMirror_run io pair file w
          rw [taken] at adopted
          have ran : runAction io .adoptMirror pair file w = .ok (.ok ()) w := bind_of_ok adopted _
          rcases ended with ⟨message,failed⟩ | ⟨message,failed⟩
          · rw [failed] at ran
            cases ran
          · rw [failed] at ran
            cases ran
        · rw [stopped copy start] at completes
          cases completes
  | verify =>
    have checked := checkFileIntegrity_run io pair file .streaming .streaming w
    unfold Returns
    cases status : checkedStatus io pair file w.disk with
    | none =>
      rw [status] at checked
      refine iff_of_false ?_ (by simp)
      rintro ⟨result,t,ran⟩
      obtain ⟨_,_,checks,_⟩ := bind_success ran
      rw [checked] at checks
      cases checks
    | some found =>
      rw [status] at checked
      obtain ⟨result,rfl,checks⟩ := checked
      have steps : runAction io .verify pair file w =
          (if result.status = .ok then pure (.ok ()) else Act.bail "Integrity check failed") w := bind_of_ok checks _
      rw [steps,Option.some.injEq]
      split
      · rename_i good
        exact iff_of_true ⟨_,_,rfl⟩ good
      · rename_i bad
        refine iff_of_false ?_ bad
        rintro ⟨_,_,ran⟩
        cases ran
  | userActionRequired => exact iff_of_false (fun ⟨_,_,ran⟩ => nomatch ran) id
  | other text => exact iff_of_false (fun ⟨_,_,ran⟩ => nomatch ran) id

/-! The rows after a call. -/

omit [Blake3] in
theorem finishItem_syncQueue (item : SyncQueueItem) (file : TrackedFile) (pair : DrivePair) (result : Except String Unit)
    (t : World) (found : t.db.drivePairs.find? pair.id = some pair) :
    (after (finishItem item file pair result) t).db.syncQueue =
      (match result with
        | .ok _ => t.db.updateSyncQueueStatus item.id .completed none
        | .error message => t.db.updateSyncQueueStatus item.id .failed (some message)).syncQueue := by
  cases result with
  | error message => rfl
  | ok _ =>
    cases sets : item.action.setsMirrored with
    | true =>
      rw [finishItem_after sets found]
      exact finalized_syncQueue _ _ _
    | false =>
      unfold finishItem
      rw [after_bind_of_ok (Act.execute_apply _ _)]
      simp only [sets,Bool.false_eq_true,if_false]
      rfl

/-- The status that a started item ends with. -/
def endStatus (io : Io) (item : SyncQueueItem) (pair : DrivePair) (file : TrackedFile) (w : World) :
    SyncStatus × Option String :=
  match runAction io item.action pair file w with
  | .ok (.ok _) _ => (.completed,none)
  | .ok (.error message) _ => (.failed,some message)
  | .error _ _ => (.inProgress,none)

theorem processItem_find? {item : SyncQueueItem} {file : TrackedFile} {pair : DrivePair} {w : World}
    (hasFile : w.db.getTrackedFile item.trackedFileId = .ok file)
    (hasPair : w.db.getDrivePair file.drivePairId = .ok pair) (runs : itemSkipped item pair w.disk = false) (io : Io) (id : Nat) :
    let ended := endStatus io item (pair.operational w.disk) file (itemStarted item pair w)
    (after (processItem io item) w).db.syncQueue.find? id =
      ((w.db.operational w.disk pair).syncQueue.find? id).map (fun row =>
        if id = item.id then { row with status := ended.1,errorMessage := ended.2 } else row) := by
  have kept := dbKept_runAction io item.action (pair.operational w.disk) file (itemStarted item pair w)
  have again (status : SyncStatus) (message : Option String) {t : World} (same : t.db = (itemStarted item pair w).db) :
      (t.db.updateSyncQueueStatus item.id status message).syncQueue.find? id =
        ((w.db.operational w.disk pair).syncQueue.find? id).map (fun row =>
          if id = item.id then { row with status,errorMessage := message } else row) := by
    rw [Db.find?_updateSyncQueueStatus,same,itemStarted,Db.find?_updateSyncQueueStatus,Option.map_map]
    congr 1
    ext row : 1
    by_cases own : id = item.id <;> simp [own]
  have pairs {t : World} (same : t.db = (itemStarted item pair w).db) :
      t.db.drivePairs.find? (pair.operational w.disk).id = some (pair.operational w.disk) := by
    have keyed : pair.id = file.drivePairId := Table.find?_key (Db.getDrivePair_ok.mp hasPair)
    rw [same,DrivePair.operational_id,keyed]
    exact find?_operational hasPair w.disk
  have steps : processItem io item w = _ := processItem_started hasFile hasPair runs
  dsimp only
  unfold endStatus
  cases ran : runAction io item.action (pair.operational w.disk) file (itemStarted item pair w) with
  | error message t =>
    rw [after_of_error ran] at kept
    rw [after_of_error (steps.trans (bind_of_error ran _)),kept,itemStarted,Db.find?_updateSyncQueueStatus]
  | ok result t =>
    rw [after_of_ok ran] at kept
    have ended := finishItem_syncQueue item file (pair.operational w.disk) result t (pairs kept)
    rw [after,steps,bind_of_ok ran,← after,ended]
    cases result with
    | ok _ => exact again .completed none kept
    | error message => exact again .failed (some message) kept

theorem processItem_noFile {item : SyncQueueItem} {message : String} {w : World}
    (noFile : w.db.getTrackedFile item.trackedFileId = .error message) (io : Io) :
    processItem io item w = .error message w := by
  have unread : Act.query (fun db => db.getTrackedFile item.trackedFileId) w = .error message w := by
    simp only [Act.query,noFile]
  exact bind_of_error unread _

theorem processItem_noPair {item : SyncQueueItem} {file : TrackedFile} {message : String} {w : World}
    (hasFile : w.db.getTrackedFile item.trackedFileId = .ok file)
    (noPair : w.db.getDrivePair file.drivePairId = .error message) (io : Io) :
    processItem io item w = .error message w := by
  have read : Act.query (fun db => db.getTrackedFile item.trackedFileId) w = .ok file w := by
    simp only [Act.query,hasFile]
  have unread : Act.query (fun db => db.getDrivePair file.drivePairId) w = .error message w := by
    simp only [Act.query,noPair]
  exact (bind_of_ok read _).trans (bind_of_error (bind_of_error unread _) _)

/-- The tables that a call for `item` in `w` can leave. -/
inductive CallLeaves (item : SyncQueueItem) (w : World) : Db → Prop
  | untouched : CallLeaves item w w.db
  | skipped {file pair} (hasFile : w.db.getTrackedFile item.trackedFileId = .ok file)
      (hasPair : w.db.getDrivePair file.drivePairId = .ok pair) (skips : itemSkipped item pair w.disk = true) :
      CallLeaves item w (w.db.operational w.disk pair)
  | stranded {file pair} (hasFile : w.db.getTrackedFile item.trackedFileId = .ok file)
      (hasPair : w.db.getDrivePair file.drivePairId = .ok pair) (runs : itemSkipped item pair w.disk = false) :
      CallLeaves item w (itemStarted item pair w).db
  | failed {file pair} (hasFile : w.db.getTrackedFile item.trackedFileId = .ok file)
      (hasPair : w.db.getDrivePair file.drivePairId = .ok pair) (runs : itemSkipped item pair w.disk = false)
      (message : String) :
      CallLeaves item w ((itemStarted item pair w).db.updateSyncQueueStatus item.id .failed (some message))
  | verified {file pair} (hasFile : w.db.getTrackedFile item.trackedFileId = .ok file)
      (hasPair : w.db.getDrivePair file.drivePairId = .ok pair) (runs : itemSkipped item pair w.disk = false)
      (plain : item.action.setsMirrored = false) :
      CallLeaves item w ((itemStarted item pair w).db.updateSyncQueueStatus item.id .completed none)
  | finished {file pair} (hasFile : w.db.getTrackedFile item.trackedFileId = .ok file)
      (hasPair : w.db.getDrivePair file.drivePairId = .ok pair) (runs : itemSkipped item pair w.disk = false)
      (sets : item.action.setsMirrored = true) :
      CallLeaves item w ((itemFinished item file (itemStarted item pair w).db).finalized
        (pair.operational w.disk) item.action)

omit [Blake3] in
theorem find?_itemStarted (item : SyncQueueItem) {file : TrackedFile} {pair : DrivePair} {w : World}
    (hasPair : w.db.getDrivePair file.drivePairId = .ok pair) :
    (itemStarted item pair w).db.drivePairs.find? (pair.operational w.disk).id = some (pair.operational w.disk) := by
  have same : pair.id = file.drivePairId := Table.find?_key (Db.getDrivePair_ok.mp hasPair)
  rw [DrivePair.operational_id,same]
  exact find?_operational hasPair w.disk

theorem processItem_leaves (io : Io) (item : SyncQueueItem) (w : World) :
    CallLeaves item w (after (processItem io item) w).db := by
  cases hasFile : w.db.getTrackedFile item.trackedFileId with
  | error message =>
    rw [after_of_error (processItem_noFile hasFile io)]
    exact .untouched
  | ok file =>
    cases hasPair : w.db.getDrivePair file.drivePairId with
    | error message =>
      rw [after_of_error (processItem_noPair hasFile hasPair io)]
      exact .untouched
    | ok pair =>
      cases runs : itemSkipped item pair w.disk with
      | true =>
        rw [after_of_ok (processItem_skipped hasFile hasPair runs)]
        exact .skipped hasFile hasPair runs
      | false =>
        have found := find?_itemStarted item hasPair
        have kept := dbKept_runAction io item.action (pair.operational w.disk) file (itemStarted item pair w)
        have steps : processItem io item w = _ := processItem_started hasFile hasPair runs
        cases ran : runAction io item.action (pair.operational w.disk) file (itemStarted item pair w) with
        | error message t =>
          rw [after_of_error ran] at kept
          rw [after_of_error (steps.trans (bind_of_error ran _)),kept]
          exact .stranded hasFile hasPair runs
        | ok result t =>
          rw [after_of_ok ran] at kept
          rw [after,steps,bind_of_ok ran,← after]
          rw [← kept] at found
          cases result with
          | error message =>
            have failed := CallLeaves.failed hasFile hasPair runs message
            rw [← kept] at failed
            exact failed
          | ok _ =>
            cases sets : item.action.setsMirrored with
            | true =>
              rw [finishItem_after sets found,kept]
              exact .finished hasFile hasPair runs sets
            | false =>
              have verified := CallLeaves.verified hasFile hasPair runs sets
              rw [← kept] at verified
              unfold finishItem
              rw [after_bind_of_ok (Act.execute_apply _ _)]
              simp only [sets,Bool.false_eq_true,if_false]
              exact verified

/-- What each statement of a call respects holds of the whole call. -/
theorem processItem_related {R : Db → Db → Prop} [IsPreorder Db R] (io : Io) (item : SyncQueueItem) (w : World)
    (loads : ∀ pair, w.db.drivePairs.find? pair.id = some pair → R w.db (w.db.operational w.disk pair))
    (writes : ∀ db status message, R db (db.updateSyncQueueStatus item.id status message))
    (flags : ∀ db fileId, R db (db.updateTrackedFileMirrorStatus fileId true))
    (finalizes : ∀ db pair, db.drivePairs.find? pair.id = some pair → R db (db.finalized pair item.action)) :
    R w.db (after (processItem io item) w).db := by
  have loaded {file : TrackedFile} {pair : DrivePair} (hasPair : w.db.getDrivePair file.drivePairId = .ok pair) :
      R w.db (w.db.operational w.disk pair) := by
    have row := Db.getDrivePair_ok.mp hasPair
    have same : pair.id = file.drivePairId := Table.find?_key row
    exact loads pair (by rw [same]; exact row)
  have started {file : TrackedFile} {pair : DrivePair} (hasPair : w.db.getDrivePair file.drivePairId = .ok pair) :
      R w.db (itemStarted item pair w).db := trans_of R (loaded hasPair) (writes _ _ _)
  have leaves := processItem_leaves io item w
  generalize (after (processItem io item) w).db = last at leaves ⊢
  cases leaves with
  | untouched => exact refl_of R _
  | skipped hasFile hasPair skips => exact loaded hasPair
  | stranded hasFile hasPair runs => exact started hasPair
  | failed hasFile hasPair runs message => exact trans_of R (started hasPair) (writes _ _ _)
  | verified hasFile hasPair runs plain => exact trans_of R (started hasPair) (writes _ _ _)
  | @finished file pair hasFile hasPair runs sets =>
    have flagged : R (itemStarted item pair w).db (itemFinished item file (itemStarted item pair w).db) :=
      trans_of R (writes _ _ _) (flags _ file.id)
    have found := find?_itemStarted item hasPair
    exact trans_of R (trans_of R (started hasPair) flagged) (finalizes _ _ found)

omit [Blake3] in
theorem find?_operational_row {db : Db} {disk : Disk} {pair : DrivePair} {item : SyncQueueItem}
    (row : db.syncQueue.find? item.id = some item) : ∃ next, (db.operational disk pair).syncQueue.find? item.id = some next ∧
      (next = item ∨ (next.status = .failed ∧ next.errorMessage.isSome = true)) := by
  unfold Db.operational
  split
  · have found : (db.failedOver pair).syncQueue.find? item.id = (db.syncQueue.find? item.id).map _ :=
      Db.find?_updateQueueWhere _ _ _ _ _
    rw [row,Option.map_some] at found
    refine ⟨_,found,?_⟩
    split
    · exact .inr ⟨rfl,rfl⟩
    · exact .inl rfl
  · exact ⟨item,row,.inl rfl⟩

/-- The copy or check of the item's action succeeded. -/
def ItemSucceeds (io : Io) (item : SyncQueueItem) (w : World) : Prop :=
  ∃ file pair t, w.db.getTrackedFile item.trackedFileId = .ok file ∧ w.db.getDrivePair file.drivePairId = .ok pair ∧
    runAction io item.action (pair.operational w.disk) file (itemStarted item pair w) = .ok (.ok ()) t

/-- The row of the item is as it was, failed with a message, or completed after a success. -/
def Settled (io : Io) (item : SyncQueueItem) (w : World) : Prop :=
  ∃ row, (after (processItem io item) w).db.syncQueue.find? item.id = some row ∧
    (row = item ∨ (row.status = .failed ∧ row.errorMessage.isSome = true) ∨
      (row.status = .completed ∧ ItemSucceeds io item w))

/-- The rows that the call loads let it start the action, and the action returns. -/
def StartedReturns (io : Io) (item : SyncQueueItem) (w : World) : Prop :=
  ∀ file pair, w.db.getTrackedFile item.trackedFileId = .ok file → w.db.getDrivePair file.drivePairId = .ok pair →
    itemSkipped item pair w.disk = false →
    Returns io item.action (pair.operational w.disk) file (itemStarted item pair w)

omit [Blake3] in
theorem not_settled_of_inProgress {item row : SyncQueueItem} {succeeds : Prop} (pending : item.status = .pending)
    (stranded : row.status = .inProgress) : ¬(row = item ∨ (row.status = .failed ∧ row.errorMessage.isSome = true) ∨
      (row.status = .completed ∧ succeeds)) := by
  rintro (rfl | ⟨failed,_⟩ | ⟨completed,_⟩)
  · rw [pending] at stranded
    cases stranded
  · rw [failed] at stranded
    cases stranded
  · rw [completed] at stranded
    cases stranded

/-- A pending item is left settled exactly when its action, if it starts, returns. -/
theorem processItem_settled_iff (io : Io) (item : SyncQueueItem) (w : World)
    (row : w.db.syncQueue.find? item.id = some item) (pending : item.status = .pending) :
    Settled io item w ↔ StartedReturns io item w := by
  cases hasFile : w.db.getTrackedFile item.trackedFileId with
  | error message =>
    have still : after (processItem io item) w = w := after_of_error (processItem_noFile hasFile io)
    refine iff_of_true ⟨item,by rw [still]; exact row,.inl rfl⟩ ?_
    intro file pair found
    rw [hasFile] at found
    cases found
  | ok file =>
    cases hasPair : w.db.getDrivePair file.drivePairId with
    | error message =>
      have still : after (processItem io item) w = w := after_of_error (processItem_noPair hasFile hasPair io)
      refine iff_of_true ⟨item,by rw [still]; exact row,.inl rfl⟩ ?_
      intro other pair found loaded
      rw [hasFile,Except.ok.injEq] at found
      rw [← found,hasPair] at loaded
      cases loaded
    | ok pair =>
      obtain ⟨next,there,loaded⟩ : ∃ next, (w.db.operational w.disk pair).syncQueue.find? item.id = some next ∧
          (next = item ∨ (next.status = .failed ∧ next.errorMessage.isSome = true)) := find?_operational_row row
      cases skipped : itemSkipped item pair w.disk with
      | true =>
        have ended : after (processItem io item) w = { w with db := w.db.operational w.disk pair } :=
          after_of_ok (processItem_skipped hasFile hasPair skipped)
        refine iff_of_true ⟨next,by rw [ended]; exact there,loaded.imp id .inl⟩ ?_
        intro other loadedPair found pairFound starts
        rw [hasFile,Except.ok.injEq] at found
        subst found
        rw [hasPair,Except.ok.injEq] at pairFound
        subst pairFound
        rw [skipped] at starts
        cases starts
      | false =>
        have ended := processItem_find? hasFile hasPair skipped io item.id
        simp only [there,Option.map_some,if_true] at ended
        have only : StartedReturns io item w ↔
            Returns io item.action (pair.operational w.disk) file (itemStarted item pair w) := by
          constructor
          · intro each
            exact each file pair hasFile hasPair skipped
          · intro returns other loadedPair found pairFound _
            rw [hasFile,Except.ok.injEq] at found
            subst found
            rw [hasPair,Except.ok.injEq] at pairFound
            subst pairFound
            exact returns
        rw [only,← runAction_returns_iff]
        unfold endStatus at ended
        cases ran : runAction io item.action (pair.operational w.disk) file (itemStarted item pair w) with
        | error message t =>
          rw [ran] at ended
          refine iff_of_false ?_ fun ⟨_,_,returned⟩ => nomatch returned
          rintro ⟨last,found,settled⟩
          rw [ended,Option.some.injEq] at found
          exact not_settled_of_inProgress pending (by rw [← found]) settled
        | ok result t =>
          rw [ran] at ended
          cases result with
          | error message => exact iff_of_true ⟨_,ended,.inr (.inl ⟨rfl,rfl⟩)⟩ ⟨_,_,rfl⟩
          | ok _ => exact iff_of_true ⟨_,ended,.inr (.inr ⟨rfl,file,pair,t,hasFile,hasPair,ran⟩)⟩ ⟨_,_,rfl⟩

end

/-! The pending item of the corrupt file, once to mirror it and once to verify it. -/

theorem processItem_settled_iff_corrupted :
    letI := sampleBlake3
    Settled Io.healthy corruptedItem corruptedWorld ↔ StartedReturns Io.healthy corruptedItem corruptedWorld :=
  letI := sampleBlake3
  processItem_settled_iff Io.healthy corruptedItem corruptedWorld (by rfl) rfl

def verifyItem : SyncQueueItem := { corruptedItem with action := .verify }

def verifyWorld : World :=
  { corruptedWorld with db := { corruptedWorld.db with
      syncQueue := Table.empty.insert (fun id => { verifyItem with id }) (fun _ => rfl) } }

/-- A check that finds a corrupt copy leaves its item in progress. -/
theorem verify_strands_item :
    ¬ ∀ (_ : Blake3) (io : Io) (item : SyncQueueItem) (w : World), w.db.syncQueue.find? item.id = some item →
      item.status = .pending → Settled io item w := by
  intro settled
  let _ := sampleBlake3
  obtain ⟨row,found,ended⟩ := settled sampleBlake3 Io.healthy verifyItem verifyWorld rfl rfl
  have left : (after (processItem Io.healthy verifyItem) verifyWorld).db.syncQueue.find? 1 =
      some { verifyItem with status := .inProgress } := by decide
  have same := left.symm.trans found
  rw [Option.some.injEq] at same
  exact not_settled_of_inProgress rfl (by rw [← same]) ended

end BitProtector
