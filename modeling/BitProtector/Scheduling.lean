import BitProtector.Foundation.Table
import BitProtector.Foundation.Machine
import Mathlib.Logic.Function.Basic

/-! The schedules of the API and the threads that the scheduler runs for them. A thread takes
its parameters once, when it starts. -/
namespace BitProtector.Scheduling

structure ScheduleConfig where
  id : Nat
  taskType : String
  cronExpr : Option String
  intervalSeconds : Option Int
  maxDurationSeconds : Option Int
  enabled : Bool
  deriving DecidableEq

instance : Keyed ScheduleConfig := ⟨ScheduleConfig.id⟩

inductive TaskType
  | sync
  | integrityCheck
  deriving DecidableEq

def taskTypeOf (taskType : String) : TaskType :=
  if taskType = "integrity_check" then .integrityCheck else .sync

/-- What the closure of a thread has captured; `ended` once the thread has panicked. -/
structure Thread where
  taskType : TaskType
  cronExpr : Option String
  intervalSecs : Option Int
  maxDurationSecs : Option Int
  ended : Bool
  deriving DecidableEq

def threadOf (config : ScheduleConfig) : Thread :=
  ⟨taskTypeOf config.taskType,config.cronExpr,config.intervalSeconds,config.maxDurationSeconds,false⟩

/-- The map from schedules to their threads. -/
abbrev Threads := Nat → Option Thread

def startThread (threads : Threads) (config : ScheduleConfig) : Threads :=
  Function.update threads config.id (some (threadOf config))

/-- A schedule that already has a thread keeps it. -/
def startMissing (threads : Threads) (config : ScheduleConfig) : Threads :=
  if (threads config.id).isNone then startThread threads config else threads

def stopOthers (configs : List ScheduleConfig) (threads : Threads) : Threads :=
  fun id => if configs.any (fun config => config.id == id && config.enabled) then threads id else none

/-- The threads of the database backups are not among these. -/
def reload (configs : List ScheduleConfig) (threads : Threads) : Threads :=
  (configs.filter ScheduleConfig.enabled).foldl startMissing (stopOthers configs threads)

structure CreateScheduleRequest where
  taskType : String
  cronExpr : Option String
  intervalSeconds : Option Int
  maxDurationSeconds : Option Int
  enabled : Option Bool

/-- A field that is absent is left alone, and `null` clears it. -/
structure UpdateScheduleRequest where
  cronExpr : Option (Option String)
  intervalSeconds : Option (Option Int)
  maxDurationSeconds : Option (Option Int)
  enabled : Option Bool

structure Service where
  configs : Table ScheduleConfig
  threads : Threads

def createdConfig (request : CreateScheduleRequest) (id : Nat) : ScheduleConfig :=
  ⟨id,request.taskType,request.cronExpr,request.intervalSeconds,request.maxDurationSeconds,request.enabled.getD true⟩

theorem createdConfig_key (request : CreateScheduleRequest) (id : Nat) : Keyed.key (createdConfig request id) = id := rfl

def createScheduleConfig (configs : Table ScheduleConfig) (request : CreateScheduleRequest) : Table ScheduleConfig :=
  configs.insert (createdConfig request) (createdConfig_key request)

/-- The four updates of a row, one after the other. -/
def updatedConfig (request : UpdateScheduleRequest) (config : ScheduleConfig) : ScheduleConfig :=
  { config with
    cronExpr := request.cronExpr.getD config.cronExpr
    intervalSeconds := request.intervalSeconds.getD config.intervalSeconds
    enabled := request.enabled.getD config.enabled
    maxDurationSeconds := request.maxDurationSeconds.getD config.maxDurationSeconds }

def updateScheduleConfig (configs : Table ScheduleConfig) (id : Nat) (request : UpdateScheduleRequest) :
    Table ScheduleConfig :=
  configs.updateWhere (fun config => config.id == id) (updatedConfig request) (fun _ => rfl)

def deleteScheduleConfig (configs : Table ScheduleConfig) (id : Nat) : Table ScheduleConfig :=
  configs.deleteWhere (fun config => config.id == id)

def reloadScheduler (configs : Table ScheduleConfig) (threads : Threads) : Service :=
  ⟨configs,reload configs.rows threads⟩

def createSchedule (request : CreateScheduleRequest) (s : Service) : Service :=
  if request.cronExpr.isNone && request.intervalSeconds.isNone then s
  else if request.taskType ≠ "sync" ∧ request.taskType ≠ "integrity_check" then s
  else reloadScheduler (createScheduleConfig s.configs request) s.threads

def updateSchedule (id : Nat) (request : UpdateScheduleRequest) (s : Service) : Service :=
  if (s.configs.find? id).isSome then reloadScheduler (updateScheduleConfig s.configs id request) s.threads else s

def deleteSchedule (id : Nat) (s : Service) : Service :=
  reloadScheduler (deleteScheduleConfig s.configs id) s.threads

/-- `s as u64`. -/
def asU64 (seconds : Int) : Nat := (seconds % UInt64.size).toNat

/-- `Instant::now() + Duration::from_secs(..)` panics where the seconds pass the range of `i64`. -/
def deadlineFits (now : Nat) (maxDurationSecs : Option Int) : Bool :=
  maxDurationSecs.all (fun seconds => now + asU64 seconds < UInt64.size / 2)

inductive Label
  | create (request : CreateScheduleRequest)
  | update (id : Nat) (request : UpdateScheduleRequest)
  | delete (id : Nat)
  /-- The thread of the schedule wakes up at this second of the clock, and runs its task. -/
  | wake (id now : Nat)

def step : Label → Service → Option Service
  | .create request, s => some (createSchedule request s)
  | .update id request, s => some (updateSchedule id request s)
  | .delete id, s => some (deleteSchedule id s)
  | .wake id now, s =>
    match s.threads id with
    | some thread =>
      if thread.ended then none
      else some { s with
        threads := Function.update s.threads id (some { thread with ended := !deadlineFits now thread.maxDurationSecs }) }
    | none => none

def machine : Machine Service Label := ⟨step⟩

/-- The service starts with the schedules that are stored. -/
def boot (configs : Table ScheduleConfig) : Service := reloadScheduler configs (fun _ => none)

/-- Whose threads run are the enabled schedules, and each runs by what is stored of its schedule. -/
def Current (s : Service) : Prop :=
  ∀ id, s.threads id = ((s.configs.find? id).filter ScheduleConfig.enabled).map threadOf

/-- An update of a schedule that was enabled and stays enabled leaves what its thread runs by, and a thread
that wakes up has a deadline. -/
def Unchanging : Label → Service → Prop
  | .update id request, s => ∀ config, s.configs.find? id = some config → config.enabled = true →
    (updatedConfig request config).enabled = true → threadOf (updatedConfig request config) = threadOf config
  | .wake id now, s => ∀ config, s.configs.find? id = some config → deadlineFits now config.maxDurationSeconds = true
  | _, _ => True

/-! What a reload leaves. -/

theorem foldl_startMissing (configs : List ScheduleConfig) (threads : Threads) (id : Nat) :
    configs.foldl startMissing threads id =
      (threads id).or ((configs.find? (fun config => config.id == id)).map threadOf) := by
  induction configs generalizing threads with
  | nil => simp
  | cons config rest ih =>
    rw [List.foldl_cons,ih]
    by_cases own : config.id = id
    · subst own
      have first : (config::rest).find? (fun other => other.id == config.id) = some config :=
        List.find?_cons_of_pos (by simp)
      rw [first]
      cases running : threads config.id with
      | none => simp [startMissing,startThread,running]
      | some thread => simp [startMissing,running]
    · have other : startMissing threads config id = threads id := by
        unfold startMissing startThread
        split
        · exact Function.update_of_ne (Ne.symm own) _ _
        · rfl
      rw [other,List.find?_cons_of_neg (by simpa using own)]

theorem find?_enabled (configs : Table ScheduleConfig) (id : Nat) :
    (configs.rows.filter ScheduleConfig.enabled).find? (fun config => config.id == id) =
      (configs.find? id).filter ScheduleConfig.enabled := by
  cases found : configs.find? id with
  | none =>
    rw [Option.filter_none,List.find?_eq_none]
    intro config member same
    have key : config.id = id := by simpa using same
    exact Table.find?_eq_none.mp found config (List.mem_filter.mp member).1 key
  | some config =>
    obtain ⟨member,key⟩ := Table.find?_eq_some.mp found
    have own : config.id = id := key
    cases enabled : config.enabled with
    | true =>
      have first : ∀ other ∈ configs.rows.filter ScheduleConfig.enabled, (other.id == id) = true → other = config := by
        intro other present same
        have key : other.id = id := by simpa using same
        exact configs.key_injective (List.mem_filter.mp present).1 member (key.trans own.symm)
      have there : config ∈ configs.rows.filter ScheduleConfig.enabled := List.mem_filter.mpr ⟨member,enabled⟩
      have some : ((configs.rows.filter ScheduleConfig.enabled).find? (fun config => config.id == id)).isSome := by
        rw [List.find?_isSome]
        exact ⟨config,there,by simpa using own⟩
      obtain ⟨other,found⟩ := Option.isSome_iff_exists.mp some
      have same := List.find?_some found
      rw [found,first other (List.mem_of_find?_eq_some found) same,Option.filter_some_pos enabled]
    | false =>
      rw [Option.filter_some_neg (by simp [enabled]),List.find?_eq_none]
      intro other present same
      obtain ⟨present,runs⟩ := List.mem_filter.mp present
      have key : other.id = id := by simpa using same
      rw [configs.key_injective present member (key.trans own.symm),enabled] at runs
      cases runs

theorem reload_threads (configs : Table ScheduleConfig) (threads : Threads) (id : Nat) :
    reload configs.rows threads id =
      ((configs.find? id).filter ScheduleConfig.enabled).map (fun config => (threads id).getD (threadOf config)) := by
  have some : configs.rows.any (fun config => config.id == id && config.enabled) =
      ((configs.find? id).filter ScheduleConfig.enabled).isSome := by
    rw [← find?_enabled,Bool.eq_iff_iff,List.any_eq_true,List.find?_isSome]
    constructor
    · rintro ⟨config,member,both⟩
      obtain ⟨own,enabled⟩ := Bool.and_eq_true_iff.mp both
      exact ⟨config,List.mem_filter.mpr ⟨member,enabled⟩,own⟩
    · rintro ⟨config,member,own⟩
      obtain ⟨member,enabled⟩ := List.mem_filter.mp member
      exact ⟨config,member,Bool.and_eq_true_iff.mpr ⟨own,enabled⟩⟩
  rw [reload,foldl_startMissing,find?_enabled,stopOthers,some]
  cases (configs.find? id).filter ScheduleConfig.enabled with
  | none => rfl
  | some config => cases running : threads id <;> simp

/-! What each step leaves of the property. -/

theorem current_boot (configs : Table ScheduleConfig) : Current (boot configs) := by
  intro id
  exact reload_threads configs (fun _ => none) id

theorem current_reload_iff {s : Service} (current : Current s) (configs : Table ScheduleConfig) :
    Current (reloadScheduler configs s.threads) ↔
      ∀ id before config, s.configs.find? id = some before → before.enabled = true → configs.find? id = some config →
        config.enabled = true → threadOf config = threadOf before := by
  constructor
  · intro after id before config was ran found runs
    have left := after id
    change reload configs.rows s.threads id = ((configs.find? id).filter ScheduleConfig.enabled).map threadOf at left
    rw [reload_threads,found,current id,was] at left
    simpa [Option.filter,ran,runs] using left.symm
  · intro same id
    change reload configs.rows s.threads id = ((configs.find? id).filter ScheduleConfig.enabled).map threadOf
    rw [reload_threads]
    cases found : configs.find? id with
    | none => rfl
    | some config =>
      cases runs : config.enabled with
      | false => simp [Option.filter,runs]
      | true =>
        have row := current id
        cases was : s.configs.find? id with
        | none => simp [row,was,Option.filter,runs]
        | some before =>
          cases ran : before.enabled with
          | false => simp [row,was,Option.filter,runs,ran]
          | true => simp [row,was,Option.filter,runs,ran,same id before config was ran found runs]

theorem unchanging_update_iff {s : Service} (current : Current s) (id : Nat) (request : UpdateScheduleRequest) :
    Current (updateSchedule id request s) ↔ Unchanging (.update id request) s := by
  unfold updateSchedule
  have row (other : Nat) : (updateScheduleConfig s.configs id request).find? other =
      (s.configs.find? other).map (fun config => if config.id == id then updatedConfig request config else config) :=
    s.configs.find?_updateWhere _ _ _ other
  split
  · rw [current_reload_iff current]
    constructor
    · intro same config found ran runs
      have key : config.id = id := Table.find?_key found
      refine same id config _ found ran ?_ runs
      rw [row,found]
      simp [key]
    · intro unchanging other before config was ran found runs
      rw [row,was,Option.map_some,Option.some.injEq] at found
      have key : before.id = other := Table.find?_key was
      split at found
      · rename_i own
        have own : before.id = id := by simpa using own
        subst found
        exact unchanging before (own ▸ key ▸ was) ran runs
      · rw [found]
  · rename_i missing
    have none : s.configs.find? id = none := by simpa using missing
    apply iff_of_true current
    intro config found
    cases none.symm.trans found

theorem current_create {s : Service} (current : Current s) (request : CreateScheduleRequest) :
    Current (createSchedule request s) := by
  unfold createSchedule
  split
  · exact current
  · split
    · exact current
    · rw [current_reload_iff current]
      intro id before config was _ found _
      rw [createScheduleConfig,Table.find?_insert] at found
      split at found
      · rename_i new
        rw [new,Table.find?_next] at was
        cases was
      · cases was.symm.trans found
        rfl

theorem current_delete {s : Service} (current : Current s) (id : Nat) : Current (deleteSchedule id s) := by
  rw [deleteSchedule,current_reload_iff current]
  intro other before config was _ found _
  rw [deleteScheduleConfig,Table.find?_deleteWhere,was] at found
  obtain ⟨same,_⟩ := Option.filter_eq_some_iff.mp found
  cases same
  rfl

theorem current_update_iff {s : Service} (current : Current s) {id : Nat} {config : ScheduleConfig} (thread : Thread)
    (stored : (s.configs.find? id).filter ScheduleConfig.enabled = some config) :
    Current ⟨s.configs,Function.update s.threads id (some thread)⟩ ↔ thread = threadOf config := by
  constructor
  · intro after
    have own : Function.update s.threads id (some thread) id = _ := after id
    rw [Function.update_self,stored,Option.map_some] at own
    exact Option.some.inj own
  · rintro rfl other
    change Function.update s.threads id _ other = _
    by_cases own : other = id
    · subst own
      rw [Function.update_self,stored,Option.map_some]
    · rw [Function.update_of_ne own]
      exact current other

theorem unchanging_wake_iff {s t : Service} {id now : Nat} (current : Current s) (taken : step (.wake id now) s = some t) :
    Current t ↔ Unchanging (.wake id now) s := by
  simp only [step] at taken
  split at taken
  · rename_i thread there
    split at taken
    · cases taken
    · cases taken
      obtain ⟨config,stored,rfl⟩ := Option.map_eq_some_iff.mp ((current id).symm.trans there)
      obtain ⟨found,runs⟩ := Option.filter_eq_some_iff.mp stored
      have ends : Unchanging (.wake id now) s ↔ deadlineFits now config.maxDurationSeconds = true := by
        constructor
        · exact fun fits => fits config found
        · intro fits other same
          cases found.symm.trans same
          exact fits
      rw [current_update_iff current _ stored,ends]
      constructor
      · intro same
        simpa [threadOf] using congrArg Thread.ended same
      · intro fits
        simp [threadOf,fits]
  · cases taken

theorem unchanging_iff {label : Label} {s t : Service} (current : Current s) (taken : step label s = some t) :
    Current t ↔ Unchanging label s := by
  cases label with
  | create request =>
    cases taken
    exact iff_of_true (current_create current request) trivial
  | update id request =>
    cases taken
    exact unchanging_update_iff current id request
  | delete id =>
    cases taken
    exact iff_of_true (current_delete current id) trivial
  | wake id now => exact unchanging_wake_iff current taken

/-- The threads are those of the schedules in every state of a run whose steps all meet the condition, and a step
that does not meet it ends that. -/
theorem threads_current (configs : Table ScheduleConfig) :
    (∀ s, machine.Reaches Unchanging (boot configs) s → Current s) ∧
    ∀ label s t, Current s → step label s = some t → (Current t ↔ Unchanging label s) := by
  refine ⟨fun s reached => ?_,fun label s t current taken => unchanging_iff current taken⟩
  apply reached.invariant (current_boot configs)
  intro label before after current unchanging taken
  exact (unchanging_iff current taken).mpr unchanging

/-! A schedule that is made hourly while it runs. -/

def everyMinute : CreateScheduleRequest := ⟨"sync",none,some 60,none,none⟩

def hourly : UpdateScheduleRequest := ⟨none,some (some 3600),none,none⟩

theorem interval_kept : ¬ ∀ configs s, machine.Reaches (fun _ _ => True) (boot configs) s → Current s := by
  intro claim
  have ran : machine.exec (boot .empty) [.create everyMinute,.update 1 hourly] =
      some (updateSchedule 1 hourly (createSchedule everyMinute (boot .empty))) := rfl
  have own := claim .empty _ (Machine.reaches_of_exec ran) 1
  have stale : (updateSchedule 1 hourly (createSchedule everyMinute (boot .empty))).threads 1 =
      some ⟨.sync,none,some 60,none,false⟩ := by decide
  rw [stale] at own
  exact absurd own (by decide)

/-- Disabled and enabled again, it runs hourly. -/
theorem threads_current_restarted : ∃ s, machine.exec (boot .empty) [.create everyMinute,
      .update 1 { hourly with enabled := some false },.update 1 ⟨none,none,none,some true⟩] = some s ∧
    s.threads 1 = some ⟨.sync,none,some 3600,none,false⟩ ∧ Current s := by
  refine ⟨_,rfl,by decide,(threads_current .empty).1 _ ?_⟩
  refine .step (.update 1 ⟨none,none,none,some true⟩) (.step (.update 1 { hourly with enabled := some false })
    (.step (.create everyMinute) .start trivial rfl) ?_ rfl) ?_ rfl
  · intro config found _ runs
    cases runs
  · intro config found ran _
    have off : config = ⟨1,"sync",none,some 3600,none,false⟩ := by
      apply Option.some.inj
      rw [← found]
      decide
    rw [off] at ran
    cases ran

end BitProtector.Scheduling
