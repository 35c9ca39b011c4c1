import BitProtector.StaleBatch
import BitProtector.Foundation.Guarded

/-! The dedup insert of the sync queue as it runs: a SELECT on one connection and, if it
finds nothing, an INSERT on another, among other callers of it and the drains of the queue. -/
namespace BitProtector.QueueDedup
open StaleBatch Guarded

/-- The arguments of `create_sync_queue_item_dedup`. -/
structure Request where
  trackedFileId : Nat
  action : SyncAction
  reason : Option String
  errorMessage : Option String
  deriving DecidableEq, Repr

abbrev Key := Nat × SyncAction × Option String

def Request.key (request : Request) : Key := (request.trackedFileId,request.action,request.reason)

/-- A pending row or one in progress stands for its file, action and reason. -/
def openKey (item : SyncQueueItem) : Option Key :=
  if item.status.isOpen then some (item.trackedFileId,item.action,item.reason) else none

inductive Phase
  | drain (phase : DrainPhase)
  | free
  /-- The SELECT found nothing. -/
  | selected (request : Request)

inductive Input
  | drain (answers : Answers)
  | select (request : Request)
  /-- The INSERT, which may fail. -/
  | insert (succeeds : Bool)

/-- A statement of another operation that adds no row. -/
def adds : Event → Bool
  | .createSyncQueueItem _ _ _ _ | .createSyncQueueItemDedup _ _ _ _ => true
  | _ => false

abbrev Statement := { event : Event // adds event = false }

section
variable [Blake3]

def turn (input : Input) (w : World) : Phase → Option (World × Phase)
  | .drain phase =>
    match input with
    | .drain answers => (StaleBatch.turn answers w phase).map (fun next => (next.1,.drain next.2))
    | _ => none
  | .free =>
    match input with
    | .select request =>
      some (w,if (w.db.openSyncQueueItem request.trackedFileId request.action request.reason).isSome then .free
        else .selected request)
    | _ => none
  | .selected request =>
    match input with
    | .insert succeeds =>
      some (if succeeds then
        { w with db := (w.db.createSyncQueueItem request.trackedFileId request.action request.reason
          request.errorMessage).2 } else w,.free)
    | _ => none

def outside (statement : Statement) (w : World) : World := statement.val.run w

abbrev State := Interleaved World Phase

def machine : Machine State (Move Input Statement) := Interleaved.machine turn outside

/-- Drains and callers, none of them under way. -/
def begin (w : World) (drains : Nat → Bool) : State := ⟨w,fun i => if drains i then .drain .idle else .free⟩

end

/-- The row is one that has not been worked off. -/
def stillOpen (db : Db) (itemId : Nat) : Prop := ∀ row ∈ db.syncQueue.rows, row.id = itemId → row.status.isOpen = true

/-- A caller selects only when no other one is between its SELECT and its INSERT for the same
file, action and reason, and a status that opens a row is written only to one that is open. -/
def Exclusive : Move Input Statement → State → Prop
  | .turn i (.select request), s => ∀ j other, j ≠ i → s.op j = .selected other → other.key ≠ request.key
  | .turn i (.drain answers), s => ∀ phase item file pair, s.op i = .drain phase →
      phase.working answers.thread = some (.start item file pair) → stillOpen s.shared.db item.id
  | .turn _ (.insert _), _ => True
  | .outside statement, s => ∀ itemId status message, statement.val = .updateSyncQueueStatus itemId status message →
      status.isOpen = true → stillOpen s.shared.db itemId

/-- No two rows that are pending or in progress are for the same file, action and reason. -/
def Deduplicated (db : Db) : Prop := AtMostOne SyncQueueItem.id openKey db.syncQueue.rows

/-- No statement opens a row. -/
def Narrows (w t : World) : Prop := Shrinks SyncQueueItem.id openKey w.db.syncQueue.rows t.db.syncQueue.rows

instance : IsPreorder World Narrows where
  refl w := refl_of (Shrinks SyncQueueItem.id openKey) w.db.syncQueue.rows
  trans _ _ _ first second := trans_of (Shrinks SyncQueueItem.id openKey) first second

theorem narrows_of_eq {w t : World} (same : t.db.syncQueue = w.db.syncQueue) : Narrows w t := by
  rw [Narrows,same]
  exact refl_of _ _

theorem openKey_eq_some {item : SyncQueueItem} {k : Key} :
    openKey item = some k ↔ item.status.isOpen = true ∧ (item.trackedFileId,item.action,item.reason) = k := by
  simp [openKey]

theorem narrows_update (w : World) (p : SyncQueueItem → Bool) (status : SyncStatus) (message : Option String)
    (opens : status.isOpen = true → ∀ row ∈ w.db.syncQueue.rows, p row = true → row.status.isOpen = true) :
    Narrows w { w with db := w.db.updateQueueWhere p status message } := by
  rw [Narrows,Db.updateQueueWhere,Table.updateWhere_rows]
  apply shrinks_map
  · intro row
    split <;> rfl
  · intro row member k held
    split at held
    · rename_i taken
      obtain ⟨isOpen,same⟩ := openKey_eq_some.mp held
      exact openKey_eq_some.mpr ⟨opens isOpen row member taken,same⟩
    · exact held

theorem narrows_delete (w : World) (db : Db) (p : SyncQueueItem → Bool)
    (deleted : db.syncQueue = w.db.syncQueue.deleteWhere p) : Narrows w { w with db := db } := by
  rw [Narrows,deleted,Table.deleteWhere_rows]
  exact shrinks_of_subset fun _ member => List.mem_of_mem_filter member

theorem narrows_updateStatus (w : World) (itemId : Nat) (status : SyncStatus) (message : Option String)
    (opens : status.isOpen = true → stillOpen w.db itemId) :
    Narrows w { w with db := w.db.updateSyncQueueStatus itemId status message } := by
  apply narrows_update
  intro isOpen row member taken
  exact opens isOpen row member (beq_iff_eq.mp taken)

theorem narrows_close (w : World) (p : SyncQueueItem → Bool) {status : SyncStatus} (message : Option String)
    (closes : status.isOpen = false) : Narrows w { w with db := w.db.updateQueueWhere p status message } := by
  apply narrows_update
  intro isOpen
  cases closes.symm.trans isOpen

theorem narrows_requeue (w : World) : Narrows w { w with db := w.db.requeueInProgressSyncQueue } := by
  apply narrows_update
  intro _ row _ taken
  rw [beq_iff_eq.mp taken]
  rfl

theorem narrows_statement (statement : Statement) (w : World)
    (opens : ∀ itemId status message, statement.val = .updateSyncQueueStatus itemId status message →
      status.isOpen = true → stillOpen w.db itemId) : Narrows w (statement.val.run w) := by
  obtain ⟨event,none⟩ := statement
  cases event with
  | disk drives => exact narrows_of_eq rfl
  | failPendingSyncQueueForDrivePair pairId message => exact narrows_close w _ _ rfl
  | completePendingMirrorQueueForFile fileId => exact narrows_close w _ _ rfl
  | startPendingMirrorQueueForFile fileId =>
    apply narrows_update
    intro _ row _ taken
    simp only [Bool.and_eq_true,beq_iff_eq] at taken
    rw [taken.2]
    rfl
  | failPendingMirrorQueueForFile fileId message => exact narrows_close w _ _ rfl
  | deleteTrackedFile fileId => exact narrows_delete w _ _ rfl
  | updateSyncQueueStatus itemId status message => exact narrows_updateStatus w itemId status message (opens _ _ _ rfl)
  | clearCompletedSyncQueue => exact narrows_delete w _ _ rfl
  | requeueInProgressSyncQueue => exact narrows_requeue w
  | createSyncQueueItem fileId action reason message => cases none
  | createSyncQueueItemDedup fileId action reason message => cases none
  | elsewhere change => exact narrows_of_eq rfl

theorem tryAcquire_syncQueue (db : Db) (now pid : Nat) (processIsAlive : Nat → Bool) (staleAfterSecs : Nat) :
    (db.tryAcquireSyncProcessingLock now pid processIsAlive staleAfterSecs).2.syncQueue = db.syncQueue := by
  simp only [Db.tryAcquireSyncProcessingLock]
  split <;> rfl

section
variable [Blake3]

theorem narrows_advance (io : Io) (w : World) (phase : ItemPhase)
    (opens : ∀ item file pair, phase = .start item file pair → stillOpen w.db item.id) :
    Narrows w (advance io w phase).1 := by
  cases phase with
  | readFile item => exact refl_of _ _
  | loadPair item file => exact refl_of _ _
  | checkRoots item file pair => exact refl_of _ _
  | failover item file pair => exact narrows_of_eq rfl
  | unmirror item file pairId => exact narrows_of_eq rfl
  | failPending item file pairId => exact narrows_close w _ _ rfl
  | reload item file pairId => exact refl_of _ _
  | start item file pair =>
    simp only [advance]
    split
    · exact refl_of _ _
    · exact narrows_updateStatus w item.id _ _ fun _ => opens item file pair rfl
  | copy item file pair found =>
    have kept := dbKept_runAction io item.action pair file w
    simp only [advance]
    cases ran : runAction io item.action pair file w with
    | error message t =>
      rw [Effect.after_of_error ran] at kept
      exact narrows_of_eq (congrArg Db.syncQueue kept)
    | ok result t =>
      rw [Effect.after_of_ok ran] at kept
      exact narrows_of_eq (congrArg Db.syncQueue kept)
  | finish item file pair result found =>
    cases result with
    | ok _ => exact narrows_close w _ _ rfl
    | error message => exact narrows_close w _ _ rfl
  | flag item file pair => exact narrows_of_eq rfl
  | finalize item pairId => exact narrows_of_eq (finalize_syncQueue pairId item.action w)

theorem narrows_drain {answers : Answers} {w t : World} {phase next : DrainPhase}
    (opens : ∀ item file pair, phase.working answers.thread = some (.start item file pair) → stillOpen w.db item.id)
    (turned : StaleBatch.turn answers w phase = some (t,next)) : Narrows w t := by
  cases phase with
  | idle =>
    cases turned
    exact narrows_of_eq (tryAcquire_syncQueue w.db _ _ _ _)
  | requeue =>
    cases turned
    exact narrows_requeue w
  | heartbeat =>
    cases turned
    exact narrows_of_eq rfl
  | checkPause =>
    cases turned
    exact refl_of _ _
  | fetch =>
    cases turned
    exact refl_of _ _
  | release =>
    cases turned
    exact narrows_of_eq rfl
  | running allSkipped threads =>
    simp only [StaleBatch.turn] at turned
    split at turned
    · cases turned
      exact refl_of _ _
    · split at turned
      · cases turned
      · rename_i thread found
        obtain ⟨⟨after,later⟩,advanced,same⟩ := Option.map_eq_some_iff.mp turned
        cases same
        obtain ⟨current,rest⟩ := thread
        cases current with
        | some phase =>
          cases advanced
          apply narrows_advance
          rintro item file pair rfl
          apply opens item file pair
          rw [DrainPhase.working,DrainPhase.threads,found]
          rfl
        | none =>
          cases rest with
          | nil => cases advanced
          | cons item rest =>
            simp only [Thread.advance] at advanced
            split at advanced
            · cases advanced
              exact refl_of _ _
            · split at advanced <;> cases advanced <;> exact refl_of _ _

/-- What every state of an exclusive run satisfies: whoever is about to insert is the only one with
that key, and no open row has it. -/
structure Invariant (s : State) : Prop where
  unique : Deduplicated s.shared.db
  clear : ∀ i request, s.op i = .selected request → Free openKey request.key s.shared.db.syncQueue.rows
  apart : ∀ i j first second, i ≠ j → s.op i = .selected first → s.op j = .selected second → first.key ≠ second.key

omit [Blake3] in
theorem invariant_narrows {s : State} (inv : Invariant s) {w : World} (narrows : Narrows s.shared w) (i : Nat)
    {phase : Phase} (idle : ∀ request, phase ≠ .selected request) : Invariant (s.moved i w phase) := by
  have before {j : Nat} {request : Request} (selected : (s.moved i w phase).op j = .selected request) :
      j ≠ i ∧ s.op j = .selected request := by
    by_cases same : j = i
    · rw [same,Interleaved.moved_same] at selected
      exact absurd selected (idle request)
    · rw [Interleaved.moved_other s w phase same] at selected
      exact ⟨same,selected⟩
  constructor
  · exact inv.unique.of_shrinks narrows
  · intro j request selected
    exact (inv.clear j request (before selected).2).of_shrinks narrows
  · intro j k first second different selectedFirst selectedSecond
    exact inv.apart j k first second different (before selectedFirst).2 (before selectedSecond).2

omit [Blake3] in
theorem free_of_openSyncQueueItem {db : Db} {request : Request}
    (none : db.openSyncQueueItem request.trackedFileId request.action request.reason = none) :
    Free openKey request.key db.syncQueue.rows := by
  intro row member held
  obtain ⟨isOpen,same⟩ := openKey_eq_some.mp held
  have missed := List.find?_eq_none.mp none row member
  simp only [Request.key,Prod.mk.injEq] at same
  apply missed
  simp [same,isOpen]

omit [Blake3] in
theorem invariant_select {s : State} (inv : Invariant s) {i : Nat} {request : Request}
    (free : Free openKey request.key s.shared.db.syncQueue.rows)
    (alone : ∀ j other, j ≠ i → s.op j = .selected other → other.key ≠ request.key) :
    Invariant (s.moved i s.shared (.selected request)) := by
  have mine {j : Nat} {other : Request} (selected : (s.moved i s.shared (.selected request)).op j = .selected other) :
      (j = i ∧ other = request) ∨ (j ≠ i ∧ s.op j = .selected other) := by
    by_cases same : j = i
    · rw [same,Interleaved.moved_same] at selected
      cases selected
      exact .inl ⟨same,rfl⟩
    · rw [Interleaved.moved_other s s.shared _ same] at selected
      exact .inr ⟨same,selected⟩
  constructor
  · exact inv.unique
  · intro j other selected
    rcases mine selected with ⟨_,rfl⟩ | ⟨_,before⟩
    · exact free
    · exact inv.clear j other before
  · intro j k first second different selectedFirst selectedSecond
    rcases mine selectedFirst with ⟨rfl,rfl⟩ | ⟨apart,before⟩
    · rcases mine selectedSecond with ⟨rfl,_⟩ | ⟨apart,other⟩
      · exact absurd rfl different
      · exact (alone k second apart other).symm
    · rcases mine selectedSecond with ⟨rfl,rfl⟩ | ⟨_,other⟩
      · exact alone j first apart before
      · exact inv.apart j k first second different before other

omit [Blake3] in
theorem invariant_insert {s : State} (inv : Invariant s) {i : Nat} {request : Request}
    (selected : s.op i = .selected request) :
    Invariant (s.moved i { s.shared with db := (s.shared.db.createSyncQueueItem request.trackedFileId request.action
      request.reason request.errorMessage).2 } .free) := by
  have key (id : Nat) : openKey ⟨id,request.trackedFileId,request.action,.pending,request.errorMessage,request.reason⟩ =
      some request.key := openKey_eq_some.mpr ⟨rfl,rfl⟩
  have before {j : Nat} {other : Request} {w : World} (selects : (s.moved i w .free).op j = .selected other) :
      j ≠ i ∧ s.op j = .selected other := by
    by_cases same : j = i
    · rw [same,Interleaved.moved_same] at selects
      cases selects
    · rw [Interleaved.moved_other s w _ same] at selects
      exact ⟨same,selects⟩
  constructor
  · apply AtMostOne.concat inv.unique
    intro k held
    cases (key _).symm.trans held
    exact inv.clear i request selected
  · intro j other selects
    obtain ⟨apart,was⟩ := before selects
    apply Free.concat (inv.clear j other was)
    rw [key]
    intro same
    exact inv.apart i j request other apart.symm selected was (Option.some.inj same)
  · intro j k first second different selectedFirst selectedSecond
    exact inv.apart j k first second different (before selectedFirst).2 (before selectedSecond).2

theorem invariant_turn {s : State} (inv : Invariant s) (i : Nat) (input : Input) (exclusive : Exclusive (.turn i input) s)
    {next : World × Phase} (turned : turn input s.shared (s.op i) = some next) : Invariant (s.moved i next.1 next.2) := by
  cases at_ : s.op i with
  | drain phase =>
    rw [at_] at turned
    cases input with
    | drain answers =>
      obtain ⟨⟨w,later⟩,drained,rfl⟩ := Option.map_eq_some_iff.mp turned
      apply invariant_narrows inv (narrows_drain _ drained) i fun _ => Phase.noConfusion
      intro item file pair working
      exact exclusive phase item file pair at_ working
    | select request => cases turned
    | insert succeeds => cases turned
  | free =>
    rw [at_] at turned
    cases input with
    | drain answers => cases turned
    | insert succeeds => cases turned
    | select request =>
      cases turned
      cases found : s.shared.db.openSyncQueueItem request.trackedFileId request.action request.reason with
      | none => exact invariant_select inv (free_of_openSyncQueueItem found) exclusive
      | some item => exact invariant_narrows inv (refl_of _ _) i fun _ => Phase.noConfusion
  | selected request =>
    rw [at_] at turned
    cases input with
    | drain answers => cases turned
    | select other => cases turned
    | insert succeeds =>
      cases turned
      cases succeeds with
      | true => exact invariant_insert inv at_
      | false => exact invariant_narrows inv (refl_of _ _) i fun _ => Phase.noConfusion

/-- However callers of the dedup insert, drains of the queue and other statements follow each other, if they exclude each
other at their two statements then no two open rows are for one file, action and reason. -/
theorem queue_deduplicated {w : World} {drains : Nat → Bool} {s : State} (unique : Deduplicated w.db)
    (reached : machine.Reaches Exclusive (begin w drains) s) : Deduplicated s.shared.db := by
  have idle : ∀ i request, (begin w drains).op i ≠ .selected request := by
    intro i request
    change (if drains i = true then Phase.drain .idle else .free) ≠ _
    cases drains i <;> exact Phase.noConfusion
  have initial : Invariant (begin w drains) :=
    ⟨unique,fun i request selected => absurd selected (idle i request),fun i _ first _ _ selected _ =>
      absurd selected (idle i first)⟩
  apply (Interleaved.invariant_of_turns (I := Invariant) reached initial ?_ ?_).unique
  · intro i input s next inv exclusive turned
    exact invariant_turn inv i input exclusive turned
  · intro statement s inv exclusive
    have narrows := narrows_statement statement s.shared exclusive
    exact ⟨inv.unique.of_shrinks narrows,fun i request selected => (inv.clear i request selected).of_shrinks narrows,
      inv.apart⟩

end

/-! Two callers for one file: a scan that takes the turns of the other into account, and one that does not. -/

def verifyRequest : Request := ⟨corruptedFile.id,.verify,none,none⟩

def overlapping : List (Move Input Statement) :=
  [.turn 0 (.select verifyRequest),.turn 1 (.select verifyRequest),.turn 0 (.insert true),.turn 1 (.insert true)]

theorem corrupted_deduplicated : Deduplicated corruptedWorld.db := by
  intro a inA b inB _ _ _
  rw [List.mem_singleton.mp inA,List.mem_singleton.mp inB]

theorem not_deduplicated {db : Db} {a b : SyncQueueItem} (inA : a ∈ db.syncQueue.rows) (inB : b ∈ db.syncQueue.rows)
    {k : Key} (heldA : openKey a = some k) (heldB : openKey b = some k) (different : a.id ≠ b.id) : ¬Deduplicated db :=
  fun unique => different (unique a inA b inB k heldA heldB)

theorem overlapping_selects_duplicate :
    ¬ ∀ (_ : Blake3) (w : World) (drains : Nat → Bool) (s : State), Deduplicated w.db →
      machine.Reaches (fun _ _ => True) (begin w drains) s → Deduplicated s.shared.db := by
  intro always
  let _ := sampleBlake3
  obtain ⟨s,ran,rows⟩ : ∃ s, machine.exec (begin corruptedWorld fun _ => false) overlapping = some s ∧
      s.shared.db.syncQueue.rows = [corruptedItem,⟨2,1,.verify,.pending,none,none⟩,⟨3,1,.verify,.pending,none,none⟩] :=
    ⟨_,rfl,rfl⟩
  have unique := always sampleBlake3 corruptedWorld _ s corrupted_deduplicated (Machine.reaches_of_exec ran)
  refine not_deduplicated (a := ⟨2,1,.verify,.pending,none,none⟩) (b := ⟨3,1,.verify,.pending,none,none⟩) ?_ ?_ rfl rfl ?_ unique
  · simp [rows]
  · simp [rows]
  · decide

theorem exclusive_select {s : State} (idle : ∀ j other, s.op j ≠ .selected other) (i : Nat) (request : Request) :
    Exclusive (.turn i (.select request)) s :=
  fun j other _ selects => absurd selects (idle j other)

theorem queue_deduplicated_twice :
    letI := sampleBlake3
    ∃ s, machine.Reaches Exclusive (begin corruptedWorld fun _ => false) s ∧ s.op 1 = .free ∧
      s.shared.db.syncQueue.rows.length = 2 ∧ Deduplicated s.shared.db := by
  let _ := sampleBlake3
  have idle (j : Nat) (other : Request) : (begin corruptedWorld fun _ => false).op j ≠ .selected other := Phase.noConfusion
  obtain ⟨s,inserted,one,waits,idle⟩ : ∃ s, machine.Reaches Exclusive (begin corruptedWorld fun _ => false) s ∧
      s.shared.db = (corruptedWorld.db.createSyncQueueItem corruptedFile.id .verify none none).2 ∧ s.op 1 = .free ∧
      ∀ j other, s.op j ≠ .selected other := by
    refine ⟨_,.step (.turn 0 (.insert true)) (.step (.turn 0 (.select verifyRequest)) .start
      (exclusive_select idle 0 verifyRequest) rfl) trivial rfl,rfl,rfl,?_⟩
    rintro (_ | j) other selects <;> cases selects
  have taken : machine.step (.turn 1 (.select verifyRequest)) s = some (s.moved 1 s.shared .free) := by
    have found : (s.shared.db.openSyncQueueItem corruptedFile.id .verify none).isSome = true := by
      rw [one]
      rfl
    change (turn (.select verifyRequest) s.shared (s.op 1)).map _ = _
    rw [waits]
    simp only [turn,verifyRequest,found,if_true,Option.map_some]
  have refused := inserted.step _ (exclusive_select idle 1 verifyRequest) taken
  exact ⟨_,refused,s.moved_same 1 s.shared .free,by rw [Interleaved.moved_shared,one]; rfl,
    queue_deduplicated corrupted_deduplicated refused⟩

end BitProtector.QueueDedup
