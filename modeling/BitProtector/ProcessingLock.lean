import BitProtector.Repository
import BitProtector.Foundation.Machine

/-! The lock under which the queue is drained. Any number of invocations in any
number of processes take it, refresh it at the top of each page and drop it; it
lapses with its holder's process, or when its timestamp is old. -/
namespace BitProtector.ProcessingLock

def processingLockStaleAfterSecs : Nat := 300

/-- Where an invocation of `process_all_pending` that took the lock stands. -/
inductive DrainPhase
  | acquired
  | pageTop
  | inPass
  deriving DecidableEq, Repr

structure Drainer where
  id : Nat
  pid : Nat
  phase : DrainPhase
  deriving DecidableEq, Repr

structure LockState where
  now : Nat
  processes : List Nat
  /-- The live invocations that took the lock and have not dropped it. -/
  drainers : List Drainer
  db : Db
  /-- Who took the lock last, unless it was dropped since: the owner of the row. -/
  owner : Option Nat

inductive LockStep
  | tick (seconds : Nat)
  | spawn (pid : Nat)
  | die (pid : Nat)
  | acquire (id pid : Nat)
  | requeue (id : Nat)
  | heartbeat (id : Nat)
  | passEnds (id : Nat)
  | release (id : Nat)
  deriving DecidableEq, Repr

def processIsAlive (s : LockState) (pid : Nat) : Bool := s.processes.contains pid

def drainerIn (s : LockState) (id : Nat) (phase : DrainPhase) : Bool :=
  s.drainers.any (fun drainer => drainer.id == id && drainer.phase == phase)

def setPhase (s : LockState) (id : Nat) (phase : DrainPhase) : List Drainer :=
  s.drainers.map (fun drainer => if drainer.id == id then { drainer with phase } else drainer)

def step : LockStep → LockState → Option LockState
  | .tick seconds, s => some { s with now := s.now + seconds }
  | .spawn pid, s => some { s with processes := pid::s.processes }
  -- A killed process runs no guard: its row stays as it is.
  | .die pid, s => some { s with
      processes := s.processes.filter (· ≠ pid)
      drainers := s.drainers.filter (fun drainer => drainer.pid ≠ pid) }
  | .acquire id pid, s =>
    if processIsAlive s pid && !s.drainers.any (fun drainer => drainer.id == id) then
      let (taken,db) := s.db.tryAcquireSyncProcessingLock s.now pid (processIsAlive s) processingLockStaleAfterSecs
      if taken then some { s with db,drainers := ⟨id,pid,.acquired⟩::s.drainers,owner := some id }
      else some s
    else none
  | .requeue id, s =>
    if drainerIn s id .acquired then
      some { s with drainers := setPhase s id .pageTop,db := s.db.requeueInProgressSyncQueue }
    else none
  | .heartbeat id, s =>
    if drainerIn s id .pageTop then
      some { s with drainers := setPhase s id .inPass,db := s.db.heartbeatSyncProcessingLock s.now }
    else none
  | .passEnds id, s =>
    if drainerIn s id .inPass then some { s with drainers := setPhase s id .pageTop } else none
  -- The guard is dropped at the end, on an early return and on a panic.
  | .release id, s =>
    if s.drainers.any (fun drainer => drainer.id == id) then
      some { s with
        drainers := s.drainers.filter (fun drainer => drainer.id ≠ id)
        db := s.db.releaseSyncProcessingLock
        owner := none }
    else none

def machine : Machine LockState LockStep := ⟨step⟩

/-- Nobody drains the queue yet; the lock may be left over from a dead process. -/
def Idle (s : LockState) : Prop := s.drainers = [] ∧ s.owner = none

/-- Nobody tries the lock while a live holder's timestamp is five minutes old. -/
def HeldLocksFresh : LockStep → LockState → Prop
  | .acquire _ _, s => s.drainers ≠ [] →
      ∃ lockedAt, s.db.syncSettings.processingLockedAt = some lockedAt ∧
        s.now < lockedAt + processingLockStaleAfterSecs
  | _, _ => True

/-- The one invocation that drains owns the row, and its process is alive. -/
def Owned (s : LockState) : Prop :=
  s.drainers = [] ∨ ∃ drainer lockedAt, s.drainers = [drainer] ∧ s.owner = some drainer.id ∧
    drainer.pid ∈ s.processes ∧ s.db.syncSettings.processingLockedAt = some lockedAt ∧
      s.db.syncSettings.processingLockedByPid = some drainer.pid

theorem owned_setPhase {s : LockState} (owned : Owned s) (id : Nat) (phase : DrainPhase) {db : Db} {lockedAt : Option Nat}
    (pid : db.syncSettings.processingLockedByPid = s.db.syncSettings.processingLockedByPid)
    (stamp : db.syncSettings.processingLockedAt = lockedAt)
    (locked : lockedAt = s.db.syncSettings.processingLockedAt ∨ ∃ now, lockedAt = some now) :
    Owned { s with drainers := setPhase s id phase,db } := by
  rcases owned with none_drains | ⟨drainer,since,alone,own,alive,at_since,by_pid⟩
  · left
    simp [setPhase,none_drains]
  · right
    obtain ⟨later,is_later⟩ : ∃ later, lockedAt = some later := by
      rcases locked with same | ⟨now,same⟩
      · exact ⟨since,same.trans at_since⟩
      · exact ⟨now,same⟩
    by_cases mine : drainer.id = id
    · refine ⟨{ drainer with phase },later,?_,own,alive,stamp.trans is_later,pid.trans by_pid⟩
      simp [setPhase,alone,mine]
    · refine ⟨drainer,later,?_,own,alive,stamp.trans is_later,pid.trans by_pid⟩
      simp [setPhase,alone,mine]

theorem owned_step {l : LockStep} {s t : LockState} (owned : Owned s) (fresh : HeldLocksFresh l s)
    (taken : step l s = some t) : Owned t := by
  cases l with
  | tick seconds =>
    cases taken
    exact owned
  | spawn pid =>
    cases taken
    rcases owned with none_drains | ⟨drainer,since,alone,own,alive,locked⟩
    · exact .inl none_drains
    · exact .inr ⟨drainer,since,alone,own,List.mem_cons_of_mem _ alive,locked⟩
  | die pid =>
    cases taken
    rcases owned with none_drains | ⟨drainer,since,alone,own,alive,locked⟩
    · left
      simp [none_drains]
    · by_cases killed : drainer.pid = pid
      · left
        simp [alone,killed]
      · right
        refine ⟨drainer,since,?_,own,List.mem_filter.mpr ⟨alive,by simpa using killed⟩,locked⟩
        simp [alone,killed]
  | acquire id pid =>
    simp only [step] at taken
    split at taken
    · rename_i may
      obtain ⟨alive,_⟩ := Bool.and_eq_true_iff.mp may
      split at taken
      · rename_i got
        cases taken
        rcases owned with none_drains | ⟨drainer,since,alone,own,running,at_since,by_pid⟩
        · have stamped := Db.tryAcquire_taken got
          right
          refine ⟨⟨id,pid,.acquired⟩,s.now,?_,rfl,by simpa [processIsAlive] using alive,stamped.1,stamped.2⟩
          simp [none_drains]
        · -- The holder is alive and its timestamp fresh, so the attempt fails.
          obtain ⟨lockedAt,at_lock,recent⟩ := fresh (by simp [alone])
          have refused := Db.tryAcquire_refused pid (processIsAlive s) at_lock by_pid
            (by simpa [processIsAlive] using running) recent
          rw [refused] at got
          cases got
      · cases taken
        exact owned
    · cases taken
  | requeue id =>
    simp only [step] at taken
    split at taken
    · cases taken
      exact owned_setPhase owned id .pageTop rfl rfl (.inl rfl)
    · cases taken
  | heartbeat id =>
    simp only [step] at taken
    split at taken
    · cases taken
      exact owned_setPhase owned id .inPass rfl rfl (.inr ⟨s.now,rfl⟩)
    · cases taken
  | passEnds id =>
    simp only [step] at taken
    split at taken
    · cases taken
      exact owned_setPhase owned id .pageTop rfl rfl (.inl rfl)
    · cases taken
  | release id =>
    simp only [step] at taken
    split at taken
    · rename_i present
      cases taken
      left
      rcases owned with none_drains | ⟨drainer,_,alone,_⟩
      · simp [none_drains]
      · have mine : drainer.id = id := by simpa [alone] using present
        simp [alone,mine]
    · cases taken

theorem owned_reached {start s : LockState} (idle : Idle start) (reached : machine.Reaches HeldLocksFresh start s) :
    Owned s :=
  reached.invariant (.inl idle.1) fun _ _ _ owned fresh taken => owned_step owned fresh taken

/-- A step that writes the row on behalf of an invocation. -/
def writesFor (id : Nat) (l : LockStep) : Prop := l = .heartbeat id ∨ l = .release id

theorem drainer_of_write {id : Nat} {l : LockStep} {s : LockState} (writes : writesFor id l)
    (taken : (machine.step l s).isSome) : ∃ drainer ∈ s.drainers, drainer.id = id := by
  rcases writes with rfl | rfl
  · simp only [machine,step,drainerIn,Option.isSome_ite,List.any_eq_true,Bool.and_eq_true,beq_iff_eq] at taken
    obtain ⟨drainer,member,mine,_⟩ := taken
    exact ⟨drainer,member,mine⟩
  · simp only [machine,step,Option.isSome_ite,List.any_eq_true,beq_iff_eq] at taken
    obtain ⟨drainer,member,mine⟩ := taken
    exact ⟨drainer,member,mine⟩

theorem second_drainer {s t : LockState} {id pid : Nat} (owned : Owned s)
    (stale : ¬HeldLocksFresh (.acquire id pid) s) (taken : machine.step (.acquire id pid) s = some t) :
    t.drainers.length = 2 := by
  obtain ⟨held,old⟩ := Classical.not_imp.mp stale
  rcases owned with none_drains | ⟨drainer,since,alone,_,_,at_since,_⟩
  · exact absurd none_drains held
  · have lapsed : since + processingLockStaleAfterSecs ≤ s.now := by
      by_contra recent
      exact old ⟨since,at_since,Nat.not_le.mp recent⟩
    have got := Db.tryAcquire_lapsed pid (processIsAlive s) at_since lapsed
    simp only [machine,step,got,if_true] at taken
    split at taken
    · cases taken
      simp [alone]
    · cases taken

/-- As long as held locks are fresh whenever somebody tries the lock, at most one live
invocation drains the queue, it owns the row, and only the owner refreshes or frees it.
The first attempt on a held lock that is not fresh ends this. -/
theorem processingLock_exclusive {start s : LockState} (idle : Idle start)
    (reached : machine.Reaches HeldLocksFresh start s) :
    s.drainers.length ≤ 1 ∧ (∀ drainer ∈ s.drainers, s.owner = some drainer.id) ∧
      (∀ id l, writesFor id l → (machine.step l s).isSome → s.owner = some id) ∧
      ∀ id pid t, machine.step (.acquire id pid) s = some t → ¬HeldLocksFresh (.acquire id pid) s →
        t.drainers.length = 2 := by
  have owned := owned_reached idle reached
  have own : ∀ drainer ∈ s.drainers, s.owner = some drainer.id := by
    intro drainer member
    rcases owned with none_drains | ⟨holder,_,alone,own,_⟩
    · simp [none_drains] at member
    · rw [alone,List.mem_singleton] at member
      rw [member]
      exact own
  refine ⟨?_,own,?_,?_⟩
  · rcases owned with none_drains | ⟨_,_,alone,_⟩
    · simp [none_drains]
    · simp [alone]
  · intro id l writes taken
    obtain ⟨drainer,member,mine⟩ := drainer_of_write writes taken
    rw [own drainer member,mine]
  · intro id pid t taken stale
    exact second_drainer owned stale taken

/-- Two processes and a free lock. -/
def twoProcesses : LockState := ⟨0,[1,2],[],Db.empty,none⟩

/-- The second process is refused while the first drains, and takes the lock once it is dropped. -/
def refusedOnce : List LockStep :=
  [.acquire 10 1,.requeue 10,.heartbeat 10,.tick 200,.acquire 20 2,.release 10,.acquire 20 2]

theorem processingLock_exclusive_refused :
    ∃ s, machine.exec twoProcesses refusedOnce = some s ∧ s.drainers = [⟨20,2,.acquired⟩] ∧ s.drainers.length ≤ 1 ∧
      s.owner = some 20 := by
  have taken : machine.Reaches HeldLocksFresh twoProcesses _ :=
    .step (.acquire 10 1) .start (fun held => absurd rfl held) rfl
  have requeued : machine.Reaches HeldLocksFresh twoProcesses _ := .step (.requeue 10) taken trivial rfl
  have beaten : machine.Reaches HeldLocksFresh twoProcesses _ := .step (.heartbeat 10) requeued trivial rfl
  have waited : machine.Reaches HeldLocksFresh twoProcesses _ := .step (.tick 200) beaten trivial rfl
  have refused : machine.Reaches HeldLocksFresh twoProcesses _ :=
    .step (.acquire 20 2) waited (fun _ => ⟨0,rfl,by decide⟩) rfl
  have dropped : machine.Reaches HeldLocksFresh twoProcesses _ := .step (.release 10) refused trivial rfl
  have takenToo : machine.Reaches HeldLocksFresh twoProcesses _ :=
    .step (.acquire 20 2) dropped (fun held => absurd rfl held) rfl
  have exclusive := processingLock_exclusive ⟨rfl,rfl⟩ takenToo
  exact ⟨_,rfl,rfl,exclusive.1,exclusive.2.1 ⟨20,2,.acquired⟩ (by decide)⟩

/-- A page that takes longer than five minutes, and a second process that tries the lock. -/
def longPage : List LockStep :=
  [.acquire 10 1,.requeue 10,.heartbeat 10,.tick 301,.acquire 20 2]

theorem longPage_shares_queue :
    ¬ ∀ start s, Idle start → machine.Reaches (fun _ _ => True) start s →
      s.drainers.length ≤ 1 ∧ ∀ id l, writesFor id l → (machine.step l s).isSome → s.owner = some id := by
  intro exclusive
  obtain ⟨s,ran,two⟩ : ∃ s, machine.exec twoProcesses longPage = some s ∧ s.drainers.length = 2 :=
    ⟨_,rfl,by decide⟩
  have one := (exclusive twoProcesses s ⟨rfl,rfl⟩ (Machine.reaches_of_exec ran)).1
  rw [two] at one
  exact absurd one (by decide)

end BitProtector.ProcessingLock
