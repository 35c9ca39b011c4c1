import BitProtector.PendingBatch
import BitProtector.StaleBatch

/-! One invocation of the drain while the queue is paused or its deadline passes. The thread
of a pair looks at the flag, then at the clock, and then calls `process_item`; the other
threads, and the rest of the program, go on between any two of these. -/
namespace BitProtector.PausedDrain
open QueueDrain PendingBatch StaleBatch

/-- Where the thread of a pair stands in its `for` loop. -/
inductive WorkerPhase
  | next
  | checkDeadline (item : SyncQueueItem)
  | call (item : SyncQueueItem)
  | inside (phase : ItemPhase)

structure Worker where
  pairId : Nat
  phase : WorkerPhase
  rest : List SyncQueueItem

inductive Phase
  | acquire
  | requeue
  | heartbeat
  | checkPause
  | checkDeadline
  | fetch
  | running (allSkipped : Bool) (workers : List Worker)
  | release
  | ended

/-- A call of `process_item`, with the pass and the pair of its thread. -/
structure Start where
  pass : Nat
  pairId : Nat
  item : SyncQueueItem
  deriving DecidableEq, Repr

structure State where
  world : World
  /-- The clock of the deadlines. -/
  now : Nat
  pass : Nat
  phase : Phase
  starts : List Start

structure Answers where
  io : Io
  pid : Nat
  processIsAlive : Nat → Bool
  wallClock : Nat
  /-- The statement of the database fails. -/
  fails : Bool
  /-- The thread that goes on. -/
  worker : Nat

inductive Move
  | turn (answers : Answers)
  | tick (elapsed : Nat)
  /-- Whatever else writes to the tables and the disks. -/
  | outside (change : World → World)

/-- One thread a pair, with the items of the pair in the order of the page. -/
def spawnWorkers (items : List (Nat × SyncQueueItem)) : List Worker :=
  (items.map Prod.fst).dedup.map (fun pairId => ⟨pairId,.next,taken items pairId⟩)

def Worker.ended : Worker → Bool
  | ⟨_,.next,[]⟩ => true
  | _ => false

def State.goTo (s : State) (world : World) (phase : Phase) : State := { s with world,phase }

section
variable [Blake3] (stopBy : Option Nat)

/-- The next step of a thread, and the item with which it calls `process_item` in this step. -/
def Worker.advance (answers : Answers) (now : Nat) (w : World) : Worker → Option (World × Worker × Option SyncQueueItem)
  | ⟨_,.next,[]⟩ => none
  | ⟨pairId,.next,item::rest⟩ =>
    if item.action = .userActionRequired then some (w,⟨pairId,.next,rest⟩,none)
    -- a flag that cannot be read counts as set
    else if answers.fails || w.db.syncSettings.queuePaused then some (w,⟨pairId,.next,[]⟩,none)
    else some (w,⟨pairId,.checkDeadline item,rest⟩,none)
  | ⟨pairId,.checkDeadline item,rest⟩ =>
    if expired stopBy now then some (w,⟨pairId,.next,[]⟩,none)
    else some (w,⟨pairId,.call item,rest⟩,none)
  | ⟨pairId,.call item,rest⟩ => some (w,⟨pairId,.inside (.readFile item),rest⟩,some item)
  | ⟨pairId,.inside phase,rest⟩ =>
    if answers.fails then some (w,⟨pairId,.next,rest⟩,none)
    else
      let (after,left) := StaleBatch.advance answers.io w phase
      some (after,⟨pairId,left.elim .next .inside,rest⟩,none)

/-- A step of one of the threads. -/
def State.work (s : State) (answers : Answers) (allSkipped : Bool) (workers : List Worker) (worker : Worker) :
    Option State :=
  (worker.advance stopBy answers s.now s.world).map fun (world,next,started) =>
    { s.goTo world (.running allSkipped (workers.set answers.worker next)) with
      starts := s.starts ++ (started.map (fun item => Start.mk s.pass worker.pairId item)).toList }

/-- The next statement of the invocation. -/
def turn (answers : Answers) (s : State) : Option State :=
  match s.phase with
  | .acquire =>
    if answers.fails then some (s.goTo s.world .ended)
    else
      let (acquired,db) := s.world.db.tryAcquireSyncProcessingLock answers.wallClock answers.pid answers.processIsAlive
        ProcessingLock.processingLockStaleAfterSecs
      some (s.goTo { s.world with db } (if acquired then .requeue else .ended))
  | .requeue =>
    if answers.fails then some (s.goTo s.world .release)
    else some (s.goTo { s.world with db := s.world.db.requeueInProgressSyncQueue } .heartbeat)
  | .heartbeat =>
    if answers.fails then some (s.goTo s.world .release)
    else some (s.goTo { s.world with db := s.world.db.heartbeatSyncProcessingLock answers.wallClock } .checkPause)
  | .checkPause =>
    some (s.goTo s.world (if answers.fails || s.world.db.syncSettings.queuePaused then .release else .checkDeadline))
  | .checkDeadline => some (s.goTo s.world (if expired stopBy s.now then .release else .fetch))
  | .fetch =>
    let items := s.world.db.listPendingSyncQueueWithDrivePair drainPageSize
    if answers.fails || items.isEmpty then some (s.goTo s.world .release)
    else some (s.goTo s.world (.running (items.all (fun entry => entry.2.action == .userActionRequired))
      (spawnWorkers items)))
  | .running allSkipped workers =>
    if workers.all Worker.ended then
      some { s.goTo s.world (if allSkipped then .release else .heartbeat) with pass := s.pass + 1 }
    else workers[answers.worker]?.bind (s.work stopBy answers allSkipped workers)
  | .release =>
    if answers.fails then some (s.goTo s.world .ended)
    else some (s.goTo { s.world with db := s.world.db.releaseSyncProcessingLock } .ended)
  | .ended => none

def step : Move → State → Option State
  | .turn answers, s => turn stopBy answers s
  | .tick elapsed, s => some { s with now := s.now + elapsed }
  | .outside change, s => some { s with world := change s.world }

def machine : Machine State Move := ⟨step stopBy⟩

def begin (w : World) (now : Nat) : State := ⟨w,now,0,.acquire,[]⟩

end

/-! What is claimed of an invocation. -/

def Phase.workers : Phase → List Worker
  | .running _ workers => workers
  | _ => []

/-- The items of one pass and pair, in the order in which they were started. -/
def startsOf (starts : List Start) (pass pairId : Nat) : List SyncQueueItem :=
  (starts.filter (fun start => start.pass = pass ∧ start.pairId = pairId)).map Start.item

/-- The thread is in a call of `process_item`. -/
def Worker.executes (worker : Worker) : Bool :=
  match worker.phase with
  | .inside _ => true
  | _ => false

structure Ordered (s : State) : Prop where
  /-- No two calls for one pair at a time. -/
  alone : ((s.phase.workers.filter Worker.executes).map Worker.pairId).Nodup
  ascending : ∀ pass pairId, (startsOf s.starts pass pairId).Pairwise (fun a b => a.id < b.id)
  /-- A pass starts no item twice. -/
  once : ∀ pass, ((s.starts.filter (fun start => start.pass = pass)).map (fun start => start.item.id)).Nodup
  /-- One pass after the other. -/
  inTurn : s.starts.Pairwise (fun a b => a.pass ≤ b.pass)

/-- The flag is set, or the deadline has passed. -/
def Halted (stopBy : Option Nat) (s : State) : Prop :=
  s.world.db.syncSettings.queuePaused = true ∨ expired stopBy s.now = true

/-- Nobody resumes the queue, unless the deadline is over. -/
def StaysHalted (stopBy : Option Nat) : Move → State → Prop
  | .outside change, s => Halted stopBy s → Halted stopBy { s with world := change s.world }
  | _, _ => True

/-- At most one item a pair more. -/
def FewMore (s t : State) : Prop :=
  ∃ more, t.starts = s.starts ++ more ∧ ∀ pairId, (more.filter (fun start => start.pairId = pairId)).length ≤ 1

/-! What one step can do. -/

def Phase.runs : Phase → Bool
  | .running _ _ => true
  | _ => false

/-- A step of the loop outside of the passes. -/
structure Between (s t : State) : Prop where
  starts : t.starts = s.starts
  now : t.now = s.now
  paused : t.world.db.syncSettings.queuePaused = s.world.db.syncSettings.queuePaused
  workers : t.phase.workers = []
  stands : t.phase.runs = false
  pass : (t.pass = s.pass ∧ s.phase.runs = false) ∨ t.pass = s.pass + 1

theorem queuePaused_tryAcquire (db : Db) (now pid : Nat) (processIsAlive : Nat → Bool) (staleAfterSecs : Nat) :
    (db.tryAcquireSyncProcessingLock now pid processIsAlive staleAfterSecs).2.syncSettings.queuePaused =
      db.syncSettings.queuePaused := by
  unfold Db.tryAcquireSyncProcessingLock
  dsimp only
  split <;> rfl

theorem between_goTo {s : State} {world : World} {phase : Phase} (before : s.phase.runs = false)
    (stands : phase.runs = false) (paused : world.db.syncSettings.queuePaused = s.world.db.syncSettings.queuePaused) :
    Between s (s.goTo world phase) := by
  refine ⟨rfl,rfl,paused,?_,stands,.inl ⟨rfl,before⟩⟩
  cases phase with
  | running allSkipped workers => cases stands
  | _ => rfl

section
variable [Blake3] {stopBy : Option Nat}

theorem turn_cases {answers : Answers} {s t : State} (taken : turn stopBy answers s = some t) :
    Between s t ∨
    (s.phase = .fetch ∧ ∃ allSkipped, t = s.goTo s.world
      (.running allSkipped (spawnWorkers (s.world.db.listPendingSyncQueueWithDrivePair drainPageSize)))) ∨
    (∃ allSkipped workers worker, s.phase = .running allSkipped workers ∧ workers[answers.worker]? = some worker ∧
      s.work stopBy answers allSkipped workers worker = some t) := by
  unfold turn at taken
  cases at_phase : s.phase with
  | running allSkipped workers =>
    simp only [at_phase] at taken
    split at taken
    · cases taken
      refine .inl ⟨rfl,rfl,rfl,?_,?_,.inr rfl⟩ <;> cases allSkipped <;> rfl
    · obtain ⟨worker,chosen,worked⟩ := Option.bind_eq_some_iff.mp taken
      exact .inr (.inr ⟨allSkipped,workers,worker,rfl,chosen,worked⟩)
  | fetch =>
    have before : s.phase.runs = false := by rw [at_phase]; rfl
    simp only [at_phase] at taken
    split at taken <;> cases taken
    · exact .inl (between_goTo before rfl rfl)
    · exact .inr (.inl ⟨rfl,_,rfl⟩)
  | acquire =>
    have before : s.phase.runs = false := by rw [at_phase]; rfl
    simp only [at_phase] at taken
    split at taken <;> cases taken
    · exact .inl (between_goTo before rfl rfl)
    · refine .inl (between_goTo before ?_ (queuePaused_tryAcquire _ _ _ _ _))
      split <;> rfl
  | requeue =>
    have before : s.phase.runs = false := by rw [at_phase]; rfl
    simp only [at_phase] at taken
    split at taken <;> cases taken <;> exact .inl (between_goTo before rfl rfl)
  | heartbeat =>
    have before : s.phase.runs = false := by rw [at_phase]; rfl
    simp only [at_phase] at taken
    split at taken <;> cases taken <;> exact .inl (between_goTo before rfl rfl)
  | checkPause =>
    have before : s.phase.runs = false := by rw [at_phase]; rfl
    simp only [at_phase,Option.some.injEq] at taken
    subst taken
    refine .inl (between_goTo before ?_ rfl)
    split <;> rfl
  | checkDeadline =>
    have before : s.phase.runs = false := by rw [at_phase]; rfl
    simp only [at_phase,Option.some.injEq] at taken
    subst taken
    refine .inl (between_goTo before ?_ rfl)
    split <;> rfl
  | release =>
    have before : s.phase.runs = false := by rw [at_phase]; rfl
    simp only [at_phase] at taken
    split at taken <;> cases taken <;> exact .inl (between_goTo before rfl rfl)
  | ended =>
    simp only [at_phase] at taken
    cases taken

/-- What is left of the page for a thread. -/
def Worker.waiting : Worker → List SyncQueueItem
  | ⟨_,.checkDeadline item,rest⟩ | ⟨_,.call item,rest⟩ => item::rest
  | ⟨_,.next,rest⟩ | ⟨_,.inside _,rest⟩ => rest

/-- The thread is past the checks that now say no. -/
def Worker.armed (late : Bool) : Worker → Bool
  | ⟨_,.call _,_⟩ => true
  | ⟨_,.checkDeadline _,_⟩ => !late
  | _ => false

/-- No statement of `process_item` sets or clears the flag. -/
theorem advance_paused (io : Io) (w : World) (phase : ItemPhase) :
    (StaleBatch.advance io w phase).1.db.syncSettings.queuePaused = w.db.syncSettings.queuePaused := by
  cases phase with
  | start item file pair =>
    simp only [StaleBatch.advance]
    split <;> rfl
  | copy item file pair found =>
    have kept := dbKept_runAction io item.action pair file w
    simp only [StaleBatch.advance]
    cases ran : runAction io item.action pair file w with
    | error message t =>
      rw [Effect.after_of_error ran] at kept
      rw [show t.db = w.db from kept]
    | ok result t =>
      rw [Effect.after_of_ok ran] at kept
      rw [show t.db = w.db from kept]
  | finish item file pair result found => cases result <;> rfl
  | finalize item pairId =>
    simp only [StaleBatch.advance]
    cases found : w.db.drivePairs.find? pairId with
    | none =>
      have failed : Act.query (fun db => db.getDrivePair pairId) w = .error Db.queryReturnedNoRows w := by
        simp only [Act.query,Db.getDrivePair,found]
      rw [maybeFinalizeRebuildForAction,Effect.after_bind_of_error failed]
    | some pair =>
      have key : pair.id = pairId := Table.find?_key found
      subst key
      rw [maybeFinalizeRebuildForAction_after item.action found]
      exact (drainKept_finalized found item.action).paused
  | _ => rfl

/-- A step of a thread: what it starts comes off what waits, and once the drain is halted only
an armed thread starts something, and none is armed anew. -/
structure Worked (stopBy : Option Nat) (now : Nat) (w : World) (worker : Worker) (after : World) (next : Worker)
    (started : Option SyncQueueItem) : Prop where
  paused : after.db.syncSettings.queuePaused = w.db.syncSettings.queuePaused
  pair : next.pairId = worker.pairId
  waiting : (started.toList ++ next.waiting).Sublist worker.waiting
  armed : (w.db.syncSettings.queuePaused = true ∨ expired stopBy now = true) →
    next.armed (expired stopBy now) = true → worker.armed (expired stopBy now) = true
  started : ∀ item, started = some item → worker.armed (expired stopBy now) = true ∧ next.armed (expired stopBy now) = false

theorem worker_worked {answers : Answers} {now : Nat} {w after : World} {worker next : Worker}
    {started : Option SyncQueueItem} (taken : worker.advance stopBy answers now w = some (after,next,started)) :
    Worked stopBy now w worker after next started := by
  obtain ⟨pairId,phase,rest⟩ := worker
  cases phase with
  | next =>
    cases rest with
    | nil => cases taken
    | cons item rest =>
      simp only [Worker.advance] at taken
      split at taken
      · cases taken
        exact ⟨rfl,rfl,List.sublist_cons_self _ _,fun _ armed => armed,fun _ none => (by cases none)⟩
      · split at taken
        · cases taken
          exact ⟨rfl,rfl,List.nil_sublist _,fun _ armed => armed,fun _ none => (by cases none)⟩
        · rename_i open_gate
          cases taken
          refine ⟨rfl,rfl,List.Sublist.refl _,fun halted armed => ?_,fun _ none => (by cases none)⟩
          rcases halted with paused | late
          · simp [paused] at open_gate
          · simp [Worker.armed,late] at armed
  | checkDeadline item =>
    simp only [Worker.advance] at taken
    split at taken
    · cases taken
      exact ⟨rfl,rfl,List.nil_sublist _,fun _ armed => (by cases armed),fun _ none => (by cases none)⟩
    · rename_i early
      cases taken
      refine ⟨rfl,rfl,List.Sublist.refl _,fun _ _ => ?_,fun _ none => (by cases none)⟩
      simpa [Worker.armed] using early
  | call item =>
    cases taken
    refine ⟨rfl,rfl,List.Sublist.refl _,fun _ armed => (by cases armed),fun _ _ => ⟨rfl,rfl⟩⟩
  | inside phase =>
    simp only [Worker.advance] at taken
    split at taken
    · cases taken
      exact ⟨rfl,rfl,List.Sublist.refl _,fun _ armed => (by cases armed),fun _ none => (by cases none)⟩
    · cases taken
      refine ⟨advance_paused answers.io w phase,rfl,?_,fun _ armed => ?_,fun _ none => (by cases none)⟩
      · cases (StaleBatch.advance answers.io w phase).2 <;> exact List.Sublist.refl _
      · cases left : (StaleBatch.advance answers.io w phase).2 <;> rw [left] at armed <;> cases armed

end

/-! The pages of an invocation. -/

/-- What the query promises of a page. -/
structure Orderly (page : List (Nat × SyncQueueItem)) : Prop where
  ascending : ∀ pairId, (taken page pairId).Pairwise (fun a b => a.id < b.id)
  distinct : (page.map (fun entry => entry.2.id)).Nodup

theorem orderly_fetched (db : Db) (size : Nat) : Orderly (db.listPendingSyncQueueWithDrivePair size) := by
  have fits : if (size : Int) < 0 then size = db.pendingSyncQueue.length else (size : Int) = size := by
    rw [if_neg (by omega)]
  have fair := fair_of_size fits
  exact ⟨fun pairId => (fair.ascending pairId).sublist (fair.in_order pairId).sublist,fair.distinct⟩

theorem orderly_nil : Orderly [] := ⟨fun _ => .nil,.nil⟩

/-- What was started in a pass, and what waits in the pass under way, come off the pages in order. -/
structure Paged (pages : Nat → List (Nat × SyncQueueItem)) (s : State) : Prop where
  orderly : ∀ pass, Orderly (pages pass)
  begun : ∀ pass pairId, (startsOf s.starts pass pairId).Sublist (taken (pages pass) pairId)
  past : ∀ start ∈ s.starts, start.pass < s.pass ∨ (start.pass = s.pass ∧ s.phase.runs = true)
  inTurn : s.starts.Pairwise (fun a b => a.pass ≤ b.pass)
  lanes : (s.phase.workers.map Worker.pairId).Nodup
  ahead : ∀ worker ∈ s.phase.workers,
    (startsOf s.starts s.pass worker.pairId ++ worker.waiting).Sublist (taken (pages s.pass) worker.pairId)

theorem startsOf_append (starts more : List Start) (pass pairId : Nat) :
    startsOf (starts ++ more) pass pairId = startsOf starts pass pairId ++ startsOf more pass pairId := by
  rw [startsOf,List.filter_append,List.map_append]
  rfl

theorem startsOf_same (pass pairId : Nat) (started : Option SyncQueueItem) :
    startsOf (started.map (fun item => Start.mk pass pairId item)).toList pass pairId = started.toList := by
  cases started with
  | none => rfl
  | some item => simp [startsOf]

theorem startsOf_other {pass pairId : Nat} {started : Option SyncQueueItem} {p q : Nat} (other : p ≠ pass ∨ q ≠ pairId) :
    startsOf (started.map (fun item => Start.mk pass pairId item)).toList p q = [] := by
  cases started with
  | none => rfl
  | some item =>
    have apart : ¬(pass = p ∧ pairId = q) := by
      rintro ⟨rfl,rfl⟩
      rcases other with differs | differs <;> exact differs rfl
    simp [startsOf,apart]

theorem startsOf_eq_nil {starts : List Start} {pass : Nat} (none : ∀ start ∈ starts, start.pass ≠ pass) (pairId : Nat) :
    startsOf starts pass pairId = [] := by
  rw [startsOf,List.map_eq_nil_iff,List.filter_eq_nil_iff]
  intro start member
  simpa using fun same => absurd same (none start member)

theorem paged_begin (w : World) (now : Nat) : Paged (fun _ => []) (begin w now) where
  orderly _ := orderly_nil
  begun _ _ := List.nil_sublist _
  past start member := by cases member
  inTurn := .nil
  lanes := .nil
  ahead worker member := by cases member

theorem Paged.between {pages : Nat → List (Nat × SyncQueueItem)} {s t : State} (paged : Paged pages s)
    (between : Between s t) : Paged pages t where
  orderly := paged.orderly
  begun := by
    rw [between.starts]
    exact paged.begun
  past start member := by
    rw [between.starts] at member
    rcases between.pass with ⟨same,stands⟩ | next
    · rcases paged.past start member with earlier | ⟨_,runs⟩
      · exact .inl (same ▸ earlier)
      · rw [stands] at runs
        cases runs
    · rcases paged.past start member with earlier | ⟨now,_⟩ <;> exact .inl (by omega)
  inTurn := by
    rw [between.starts]
    exact paged.inTurn
  lanes := by
    rw [between.workers]
    exact .nil
  ahead worker member := by
    rw [between.workers] at member
    cases member

theorem mem_spawnWorkers {items : List (Nat × SyncQueueItem)} {worker : Worker} (member : worker ∈ spawnWorkers items) :
    worker = ⟨worker.pairId,.next,taken items worker.pairId⟩ := by
  obtain ⟨pairId,_,rfl⟩ := List.mem_map.mp member
  rfl

theorem spawnWorkers_lanes (items : List (Nat × SyncQueueItem)) : ((spawnWorkers items).map Worker.pairId).Nodup := by
  rw [spawnWorkers,List.map_map]
  have same : (Worker.pairId ∘ fun pairId => Worker.mk pairId .next (taken items pairId)) = id := rfl
  rw [same,List.map_id]
  exact List.nodup_dedup _

theorem Paged.fetched {pages : Nat → List (Nat × SyncQueueItem)} {s : State} (paged : Paged pages s)
    (stands : s.phase.runs = false) {items : List (Nat × SyncQueueItem)} (orderly : Orderly items)
    (allSkipped : Bool) (world : World) :
    Paged (Function.update pages s.pass items) (s.goTo world (.running allSkipped (spawnWorkers items))) := by
  have earlier : ∀ start ∈ s.starts, start.pass < s.pass := by
    intro start member
    rcases paged.past start member with before | ⟨_,runs⟩
    · exact before
    · rw [stands] at runs
      cases runs
  have none_yet : ∀ pairId, startsOf s.starts s.pass pairId = [] :=
    startsOf_eq_nil fun start member => Nat.ne_of_lt (earlier start member)
  constructor
  · intro pass
    by_cases own : pass = s.pass
    · rw [own,Function.update_self]
      exact orderly
    · rw [Function.update_of_ne own]
      exact paged.orderly pass
  · intro pass pairId
    by_cases own : pass = s.pass
    · subst own
      exact none_yet pairId ▸ List.nil_sublist _
    · rw [Function.update_of_ne own]
      exact paged.begun pass pairId
  · exact fun start member => .inl (earlier start member)
  · exact paged.inTurn
  · exact spawnWorkers_lanes items
  · intro worker member
    have whole := mem_spawnWorkers member
    have waits : worker.waiting = taken items worker.pairId := by
      rw [whole]
      rfl
    change (startsOf s.starts s.pass worker.pairId ++ worker.waiting).Sublist
      (taken (Function.update pages s.pass items s.pass) worker.pairId)
    rw [none_yet,waits,Function.update_self]
    exact List.Sublist.refl _

theorem lanes_set {workers : List Worker} {k : Nat} {worker next : Worker} (chosen : workers[k]? = some worker)
    (pair : next.pairId = worker.pairId) : (workers.set k next).map Worker.pairId = workers.map Worker.pairId := by
  obtain ⟨inside,rfl⟩ := List.getElem?_eq_some_iff.mp chosen
  rw [List.map_set,pair]
  have counted : k < (workers.map Worker.pairId).length := by simpa using inside
  have own : (workers.map Worker.pairId)[k] = workers[k].pairId := List.getElem_map _
  rw [← own,List.set_getElem_self]

theorem mem_set_cases {workers : List Worker} {k : Nat} {worker next other : Worker}
    (lanes : (workers.map Worker.pairId).Nodup) (chosen : workers[k]? = some worker)
    (pair : next.pairId = worker.pairId) (member : other ∈ workers.set k next) :
    other = next ∨ (other ∈ workers ∧ other.pairId ≠ worker.pairId) := by
  have distinct := lanes_set chosen pair ▸ lanes
  by_cases own : other.pairId = worker.pairId
  · obtain ⟨inside,_⟩ := List.getElem?_eq_some_iff.mp chosen
    have here : next ∈ workers.set k next := List.mem_set inside next
    exact .inl (List.inj_on_of_nodup_map distinct member here (own.trans pair.symm))
  · rcases List.mem_or_eq_of_mem_set member with before | rfl
    · exact .inr ⟨before,own⟩
    · exact .inl rfl

section
variable [Blake3] {stopBy : Option Nat}

theorem work_cases {answers : Answers} {allSkipped : Bool} {workers : List Worker} {worker : Worker} {s t : State}
    (worked : s.work stopBy answers allSkipped workers worker = some t) :
    ∃ world next started, Worked stopBy s.now s.world worker world next started ∧
      t = { s.goTo world (.running allSkipped (workers.set answers.worker next)) with
        starts := s.starts ++ (started.map (fun item => Start.mk s.pass worker.pairId item)).toList } := by
  obtain ⟨⟨world,next,started⟩,taken,rfl⟩ := Option.map_eq_some_iff.mp worked
  exact ⟨world,next,started,worker_worked taken,rfl⟩

theorem Paged.worked {pages : Nat → List (Nat × SyncQueueItem)} {answers : Answers} {allSkipped : Bool}
    {workers : List Worker} {worker : Worker} {s t : State} (paged : Paged pages s)
    (at_phase : s.phase = .running allSkipped workers) (chosen : workers[answers.worker]? = some worker)
    (worked : s.work stopBy answers allSkipped workers worker = some t) : Paged pages t := by
  obtain ⟨world,next,started,step,rfl⟩ := work_cases worked
  have lanes := paged.lanes
  have ahead := paged.ahead
  rw [at_phase] at lanes ahead
  -- what was started before, what is started now and what waits, in the order of the page
  have mine : (startsOf s.starts s.pass worker.pairId ++ started.toList ++ next.waiting).Sublist
      (taken (pages s.pass) worker.pairId) := by
    rw [List.append_assoc]
    exact ((List.Sublist.refl _).append step.waiting).trans (ahead worker (List.mem_of_getElem? chosen))
  constructor
  · exact paged.orderly
  · intro pass pairId
    change (startsOf (s.starts ++ _) pass pairId).Sublist _
    rw [startsOf_append]
    by_cases own : pass = s.pass ∧ pairId = worker.pairId
    · obtain ⟨rfl,rfl⟩ := own
      rw [startsOf_same]
      exact (List.sublist_append_left _ _).trans mine
    · rw [startsOf_other (not_and_or.mp own),List.append_nil]
      exact paged.begun pass pairId
  · intro start member
    rcases List.mem_append.mp member with before | now
    · rcases paged.past start before with earlier | ⟨same,_⟩
      · exact .inl earlier
      · exact .inr ⟨same,rfl⟩
    · obtain ⟨item,_,rfl⟩ := Option.map_eq_some_iff.mp (Option.mem_toList.mp now)
      exact .inr ⟨rfl,rfl⟩
  · refine List.pairwise_append.mpr ⟨paged.inTurn,?_,fun start before later now => ?_⟩
    · cases started with
      | none => exact .nil
      | some item => exact List.pairwise_singleton _ _
    · obtain ⟨item,_,rfl⟩ := Option.map_eq_some_iff.mp (Option.mem_toList.mp now)
      rcases paged.past start before with earlier | ⟨same,_⟩
      · exact Nat.le_of_lt earlier
      · exact Nat.le_of_eq same
  · change ((workers.set answers.worker next).map Worker.pairId).Nodup
    rw [lanes_set chosen step.pair]
    exact lanes
  · intro other member
    change (startsOf (s.starts ++ _) s.pass other.pairId ++ other.waiting).Sublist _
    rw [startsOf_append]
    rcases mem_set_cases lanes chosen step.pair member with rfl | ⟨before,apart⟩
    · rw [step.pair,startsOf_same]
      exact mine
    · rw [startsOf_other (.inr apart),List.append_nil]
      exact ahead other before

theorem run_paged {w : World} {now : Nat} {s : State}
    (reached : (machine stopBy).Reaches (fun _ _ => True) (begin w now) s) : ∃ pages, Paged pages s := by
  refine reached.invariant (I := fun s => ∃ pages, Paged pages s) ⟨_,paged_begin w now⟩ ?_
  rintro l s t ⟨pages,paged⟩ _ taken
  cases l with
  | tick elapsed =>
    cases taken
    exact ⟨pages,paged.orderly,paged.begun,paged.past,paged.inTurn,paged.lanes,paged.ahead⟩
  | outside change =>
    cases taken
    exact ⟨pages,paged.orderly,paged.begun,paged.past,paged.inTurn,paged.lanes,paged.ahead⟩
  | turn answers =>
    rcases turn_cases taken with between | ⟨at_fetch,allSkipped,rfl⟩ | ⟨allSkipped,workers,worker,at_phase,chosen,worked⟩
    · exact ⟨pages,paged.between between⟩
    · exact ⟨_,paged.fetched (by rw [at_fetch]; rfl) (orderly_fetched _ _) allSkipped _⟩
    · exact ⟨pages,paged.worked at_phase chosen worked⟩

end

theorem once_of_paged {pages : Nat → List (Nat × SyncQueueItem)} {s : State} (paged : Paged pages s) (pass : Nat) :
    ((s.starts.filter (fun start => start.pass = pass)).map (fun start => start.item.id)).Nodup := by
  rw [List.Nodup,List.pairwise_map,List.pairwise_iff_forall_sublist]
  intro a b both same
  have ofPass : ∀ start ∈ [a,b], start.pass = pass := by
    intro start member
    simpa using (List.mem_filter.mp (both.subset member)).2
  have listed : ∀ start ∈ [a,b], (start.pairId,start.item) ∈ pages pass := by
    intro start member
    have known : start.item ∈ startsOf s.starts pass start.pairId := by
      refine List.mem_map.mpr ⟨start,List.mem_filter.mpr ⟨(List.mem_filter.mp (both.subset member)).1,?_⟩,rfl⟩
      simpa using ofPass start member
    obtain ⟨entry,found,item⟩ := List.mem_map.mp ((paged.begun pass start.pairId).subset known)
    have pair : entry.1 = start.pairId := by simpa using (List.mem_filter.mp found).2
    rw [← pair,← item]
    exact (List.mem_filter.mp found).1
  have entries := List.inj_on_of_nodup_map (paged.orderly pass).distinct (listed a List.mem_cons_self)
    (listed b (List.mem_cons_of_mem _ List.mem_cons_self)) same
  have pair : b.pairId = a.pairId := (Prod.mk.inj entries).1.symm
  have passes := ofPass a List.mem_cons_self
  have passesToo := ofPass b (List.mem_cons_of_mem _ List.mem_cons_self)
  -- of one pair and pass, they come off the page in the order of their numbers
  have two : [a.item,b.item].Sublist (startsOf s.starts pass a.pairId) := by
    have kept := (both.trans List.filter_sublist).filter (fun start => start.pass = pass ∧ start.pairId = a.pairId)
    have whole : [a,b].filter (fun start => start.pass = pass ∧ start.pairId = a.pairId) = [a,b] := by
      simp [passes,passesToo,pair]
    rw [whole] at kept
    exact kept.map Start.item
  have pairwise := ((paged.orderly pass).ascending a.pairId).sublist (two.trans (paged.begun pass a.pairId))
  have less : a.item.id < b.item.id := (List.pairwise_cons.mp pairwise).1 b.item List.mem_cons_self
  exact absurd same (Nat.ne_of_lt less)

theorem ordered_of_paged {pages : Nat → List (Nat × SyncQueueItem)} {s : State} (paged : Paged pages s) : Ordered s where
  alone := paged.lanes.sublist (List.filter_sublist.map _)
  ascending pass pairId := ((paged.orderly pass).ascending pairId).sublist (paged.begun pass pairId)
  once := once_of_paged paged
  inTurn := paged.inTurn

/-! After the flag is set, or the deadline has passed. -/

theorem expired_later {stopBy : Option Nat} {now later : Nat} (late : expired stopBy now = true) (after : now ≤ later) :
    expired stopBy later = true := by
  cases stopBy with
  | none => cases late
  | some deadline =>
    have passed : deadline ≤ now := by simpa [expired] using late
    simpa [expired] using passed.trans after

theorem armed_later {stopBy : Option Nat} {now later : Nat} (after : now ≤ later) {worker : Worker}
    (armed : worker.armed (expired stopBy later) = true) : worker.armed (expired stopBy now) = true := by
  obtain ⟨pairId,phase,rest⟩ := worker
  cases phase with
  | checkDeadline item =>
    cases late : expired stopBy now with
    | false => rfl
    | true =>
      rw [expired_later late after] at armed
      cases armed
  | call item => rfl
  | next => cases armed
  | inside phase => cases armed

/-- The calls for a pair. -/
def startsFor (starts : List Start) (pairId : Nat) : List Start := starts.filter (fun start => start.pairId = pairId)

/-- A pair that had its last item has no thread that could start one more. -/
structure Spent (stopBy : Option Nat) (more : List Start) (t : State) : Prop where
  few : ∀ pairId, (startsFor more pairId).length ≤ 1
  disarmed : ∀ worker ∈ t.phase.workers, worker.armed (expired stopBy t.now) = true → startsFor more worker.pairId = []

theorem startsFor_append (starts more : List Start) (pairId : Nat) :
    startsFor (starts ++ more) pairId = startsFor starts pairId ++ startsFor more pairId := List.filter_append ..

section
variable [Blake3] {stopBy : Option Nat}

theorem Spent.worked {answers : Answers} {allSkipped : Bool} {workers : List Worker} {worker : Worker} {s t : State}
    {before : List Start} {more : List Start} (spent : Spent stopBy more s) (halted : Halted stopBy s)
    (begun : s.starts = before ++ more) (lanes : (s.phase.workers.map Worker.pairId).Nodup)
    (at_phase : s.phase = .running allSkipped workers) (chosen : workers[answers.worker]? = some worker)
    (worked : s.work stopBy answers allSkipped workers worker = some t) :
    ∃ more, t.starts = before ++ more ∧ Spent stopBy more t := by
  obtain ⟨world,next,started,step,rfl⟩ := work_cases worked
  have disarmed := spent.disarmed
  rw [at_phase] at lanes disarmed
  have listed : worker ∈ workers := List.mem_of_getElem? chosen
  refine ⟨more ++ (started.map (fun item => Start.mk s.pass worker.pairId item)).toList,?_,?_,?_⟩
  · change s.starts ++ _ = _
    rw [begun,List.append_assoc]
  · intro pairId
    rw [startsFor_append]
    cases started with
    | none => simpa [startsFor] using spent.few pairId
    | some item =>
      by_cases own : worker.pairId = pairId
      · have none_yet := disarmed worker listed (step.started item rfl).1
        rw [← own,none_yet]
        simp [startsFor]
      · have few := spent.few pairId
        simpa [startsFor,own] using few
  · intro other member armed
    have armed_now : other.armed (expired stopBy s.now) = true := armed
    rcases mem_set_cases lanes chosen step.pair member with rfl | ⟨beside,apart⟩
    · have ready := step.armed halted armed_now
      rw [startsFor_append,step.pair,disarmed worker listed ready]
      cases started with
      | none => rfl
      | some item =>
        have off := (step.started item rfl).2
        rw [off] at armed_now
        cases armed_now
    · rw [startsFor_append,disarmed other beside armed_now]
      cases started with
      | none => rfl
      | some item =>
        have others : worker.pairId ≠ other.pairId := Ne.symm apart
        simp [startsFor,others]

/-- A run on from a halted state. -/
structure HaltedRun (stopBy : Option Nat) (before : List Start) (t : State) : Prop where
  halted : Halted stopBy t
  paged : ∃ pages, Paged pages t
  spent : ∃ more, t.starts = before ++ more ∧ Spent stopBy more t

theorem halted_step {before : List Start} {l : Move} {s t : State} (run : HaltedRun stopBy before s)
    (stays : StaysHalted stopBy l s) (taken : step stopBy l s = some t) : HaltedRun stopBy before t := by
  obtain ⟨halted,⟨pages,paged⟩,more,begun,spent⟩ := run
  cases l with
  | tick elapsed =>
    cases taken
    refine ⟨?_,⟨pages,paged.orderly,paged.begun,paged.past,paged.inTurn,paged.lanes,paged.ahead⟩,more,begun,spent.few,?_⟩
    · rcases halted with paused | late
      · exact .inl paused
      · exact .inr (expired_later late (Nat.le_add_right _ _))
    · exact fun worker member armed => spent.disarmed worker member (armed_later (Nat.le_add_right _ _) armed)
  | outside change =>
    cases taken
    exact ⟨stays halted,⟨pages,paged.orderly,paged.begun,paged.past,paged.inTurn,paged.lanes,paged.ahead⟩,more,begun,
      spent.few,spent.disarmed⟩
  | turn answers =>
    rcases turn_cases taken with between | ⟨at_fetch,allSkipped,rfl⟩ | ⟨allSkipped,workers,worker,at_phase,chosen,worked⟩
    · refine ⟨?_,⟨pages,paged.between between⟩,more,between.starts.trans begun,spent.few,?_⟩
      · unfold Halted
        rw [between.paused,between.now]
        exact halted
      · intro worker member
        rw [between.workers] at member
        cases member
    · refine ⟨halted,⟨_,paged.fetched (by rw [at_fetch]; rfl) (orderly_fetched _ _) allSkipped _⟩,more,begun,spent.few,?_⟩
      intro worker member armed
      rw [mem_spawnWorkers member] at armed
      cases armed
    · refine ⟨?_,⟨pages,paged.worked at_phase chosen worked⟩,
        spent.worked halted begun paged.lanes at_phase chosen worked⟩
      obtain ⟨world,next,started,step,rfl⟩ := work_cases worked
      rcases halted with paused | late
      · exact .inl (step.paused.trans paused)
      · exact .inr late

/-- In every run each pair is served by one call at a time and in the order of its items, and a
pass starts no item twice. Once the flag is set, and as long as nobody clears it, or once the
deadline has passed, at most one item a pair is started from there to the end. -/
theorem drain_pauses {w : World} {now : Nat} {s : State}
    (reached : (machine stopBy).Reaches (fun _ _ => True) (begin w now) s) :
    Ordered s ∧ (Halted stopBy s → ∀ t, (machine stopBy).Reaches (StaysHalted stopBy) s t → FewMore s t) := by
  obtain ⟨pages,paged⟩ := run_paged reached
  refine ⟨ordered_of_paged paged,fun halted t later => ?_⟩
  have first : HaltedRun stopBy s.starts s :=
    ⟨halted,⟨pages,paged⟩,[],(List.append_nil _).symm,fun _ => Nat.zero_le _,fun _ _ _ => rfl⟩
  have run := later.invariant first fun l u v run stays taken => halted_step run stays taken
  obtain ⟨more,begun,spent⟩ := run.spent
  exact ⟨more,begun,spent.few⟩

end

/-! The flag is set while the thread of the only pair looks at the clock. -/

def setSyncQueuePaused (paused : Bool) (db : Db) : Db :=
  { db with syncSettings := { db.syncSettings with queuePaused := paused } }

def pauseQueue : Move := .outside (fun w => { w with db := setSyncQueuePaused true w.db })

def goOn : Move := .turn ⟨Io.healthy,1,fun _ => true,0,false,0⟩

theorem drain_pauses_after_check :
    letI := sampleBlake3
    ∃ s t, (machine none).exec (begin pendingWorld 0) [goOn,goOn,goOn,goOn,goOn,goOn,goOn,pauseQueue] = some s ∧
      Halted none s ∧ s.starts = [] ∧ (machine none).exec s [goOn,goOn] = some t ∧ t.starts = [⟨0,1,corruptedItem⟩] ∧
      Ordered s ∧ FewMore s t := by
  let _ := sampleBlake3
  obtain ⟨s,ran,paused,none_yet⟩ : ∃ s,
      (machine none).exec (begin pendingWorld 0) [goOn,goOn,goOn,goOn,goOn,goOn,goOn,pauseQueue] = some s ∧
      s.world.db.syncSettings.queuePaused = true ∧ s.starts = [] := ⟨_,rfl,rfl,rfl⟩
  have bounds := drain_pauses (Machine.reaches_of_exec ran)
  obtain ⟨u,checked,t,called,one⟩ : ∃ u, step none goOn s = some u ∧ ∃ t, step none goOn u = some t ∧
      t.starts = [⟨0,1,corruptedItem⟩] := by
    cases ran
    exact ⟨_,rfl,_,rfl,rfl⟩
  have later : (machine none).exec s [goOn,goOn] = some t := by
    rw [Machine.exec,show (machine none).step goOn s = some u from checked,Option.bind_some,Machine.exec,
      show (machine none).step goOn u = some t from called]
    rfl
  exact ⟨s,t,ran,.inl paused,none_yet,later,one,bounds.1,
    bounds.2 (.inl paused) t (.step goOn (.step goOn .start trivial checked) trivial called)⟩

end BitProtector.PausedDrain
