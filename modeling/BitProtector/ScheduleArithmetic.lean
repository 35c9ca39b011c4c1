import BitProtector.Scheduling
import Mathlib.Data.List.Induction

/-! What the threads of the scheduler compute of the seconds that the API has accepted: the time
until the next run, the steps to sleep it in, and the deadline of a run. -/
namespace BitProtector.ScheduleArithmetic
open Scheduling

/-- `a * b` of two `u64`, where it does not overflow. -/
def mulU64 (a b : Nat) : Option Nat := if a * b < UInt64.size then some (a * b) else none

/-- `steps` of a hundred milliseconds. -/
def steps (sleepMs : Nat) : Nat := max (sleepMs / 100) 1

/-- `next_cron_sleep_ms`; `upcoming` is what the cron and chrono crates answer, the milliseconds until then. -/
def nextCronSleepMs (upcoming : String → Except String Int64) (expr : String) : Except String Nat :=
  (upcoming expr).map (fun ms => asU64 (max ms.toInt 0))

/-- The sleep of a schedule thread. -/
def sleepMs (upcoming : String → Except String Int64) (thread : Thread) : Option Nat :=
  match thread.cronExpr with
  | some expr => some ((nextCronSleepMs upcoming expr).toOption.getD 3600000)
  | none => mulU64 (asU64 (thread.intervalSecs.getD 3600)) 1000

/-- The sleep of a thread that backs the database up or checks its backups. -/
def backupSleepMs (intervalSeconds : Int) : Option Nat := mulU64 (asU64 (max intervalSeconds 1)) 1000

/-! The settings of the database backups. -/

structure DbBackupSettings where
  backupEnabled : Bool
  backupIntervalSeconds : Int
  integrityEnabled : Bool
  integrityIntervalSeconds : Int
  deriving DecidableEq

structure UpdateBackupSettings where
  backupEnabled : Option Bool
  backupIntervalSeconds : Option Int
  integrityEnabled : Option Bool
  integrityIntervalSeconds : Option Int

/-- The row that the schema inserts. -/
def defaultSettings : DbBackupSettings := ⟨false,86400,false,86400⟩

def validateInterval (value : Option Int) (name : String) : Except String Unit :=
  if value.any (· ≤ 0) then .error s!"{name} must be greater than zero" else .ok ()

def updateDbBackupSettings (request : UpdateBackupSettings) (settings : DbBackupSettings) : DbBackupSettings where
  backupEnabled := request.backupEnabled.getD settings.backupEnabled
  backupIntervalSeconds := request.backupIntervalSeconds.getD settings.backupIntervalSeconds
  integrityEnabled := request.integrityEnabled.getD settings.integrityEnabled
  integrityIntervalSeconds := request.integrityIntervalSeconds.getD settings.integrityIntervalSeconds

def updateSettings (request : UpdateBackupSettings) (settings : DbBackupSettings) : Except String DbBackupSettings := do
  validateInterval request.backupIntervalSeconds "backup_interval_seconds"
  validateInterval request.integrityIntervalSeconds "integrity_interval_seconds"
  pure (updateDbBackupSettings request settings)

/-- A refused update leaves the row as it is. -/
def settingsAfter (requests : List UpdateBackupSettings) : DbBackupSettings :=
  requests.foldl (fun settings request => (updateSettings request settings).toOption.getD settings) defaultSettings

/-- The intervals of the threads that `reload_database_backup_threads` starts. -/
def backupThreads (settings : DbBackupSettings) : List (String × Int) :=
  (if settings.backupEnabled then [("database_backup",settings.backupIntervalSeconds)] else []) ++
    if settings.integrityEnabled then [("database_backup_integrity",settings.integrityIntervalSeconds)] else []

/-! What a schedule is made of. -/

/-- `validate_create_request`, and the task is one of the two. -/
def accepts (request : CreateScheduleRequest) : Bool :=
  (request.cronExpr.isSome || request.intervalSeconds.isSome) &&
    (request.taskType == "sync" || request.taskType == "integrity_check")

/-- The service after a schedule is created and then updated. -/
def updatedService (request : CreateScheduleRequest) (updates : List UpdateScheduleRequest) (s : Service) : Service :=
  updates.foldl (fun t update => updateSchedule (s.configs.lastId + 1) update t) (createSchedule request s)

/-- The row of that schedule. -/
def stored (request : CreateScheduleRequest) (updates : List UpdateScheduleRequest) (id : Nat) : ScheduleConfig :=
  updates.foldl (fun config update => updatedConfig update config) (createdConfig request id)

/-! Safe arithmetic. -/

/-- The product is computed, and the steps take a positive time that is near the configured one. -/
def Waits (sleepMs : Option Nat) (seconds : Int) : Prop :=
  ∃ ms, sleepMs = some ms ∧ 0 < steps ms ∧
    1000 * seconds - 100 ≤ (steps ms * 100 : Nat) ∧ (steps ms * 100 : Nat) ≤ 1000 * seconds + 100

/-- A run that starts at `now` seconds of the clock. -/
structure Safe (upcoming : String → Except String Int64) (now : Nat) (config : ScheduleConfig) : Prop where
  scheduled : config.cronExpr.isSome = true ∨ config.intervalSeconds.isSome = true
  computed : (sleepMs upcoming (threadOf config)).isSome = true
  waits : config.cronExpr = none → ∀ seconds ∈ config.intervalSeconds,
    (asU64 seconds : Int) = seconds ∧ Waits (sleepMs upcoming (threadOf config)) seconds
  deadline : deadlineFits now config.maxDurationSeconds = true ∧
    ∀ seconds ∈ config.maxDurationSeconds, (asU64 seconds : Int) = seconds

def maxSeconds : Int := 18446744073709551

structure Fits (now : Nat) (config : ScheduleConfig) : Prop where
  scheduled : config.cronExpr.isSome = true ∨ config.intervalSeconds.isSome = true
  interval : config.cronExpr = none → ∀ seconds ∈ config.intervalSeconds, 0 ≤ seconds ∧ seconds ≤ maxSeconds
  duration : ∀ seconds ∈ config.maxDurationSeconds, 0 ≤ seconds ∧ now + seconds < 9223372036854775808

theorem mulU64_eq_some_iff {a b c : Nat} : mulU64 a b = some c ↔ a * b < UInt64.size ∧ c = a * b := by
  unfold mulU64
  split
  · simp [*,eq_comm]
  · simp [*]

theorem asU64_exact_iff {seconds : Int} : (asU64 seconds : Int) = seconds ↔ 0 ≤ seconds ∧ seconds < UInt64.size := by
  have positive : (0 : Int) < UInt64.size := by decide
  have low := Int.emod_nonneg seconds (Int.ne_of_gt positive)
  have high := Int.emod_lt_of_pos seconds positive
  rw [asU64,Int.toNat_of_nonneg low]
  constructor
  · intro same
    exact ⟨same ▸ low,same ▸ high⟩
  · rintro ⟨nonneg,below⟩
    exact Int.emod_eq_of_lt nonneg below

/-- Seconds are waited for as configured exactly if their milliseconds are a `u64`. -/
theorem waits_iff {seconds : Int} :
    (asU64 seconds : Int) = seconds ∧ Waits (mulU64 (asU64 seconds) 1000) seconds ↔ 0 ≤ seconds ∧ seconds ≤ maxSeconds := by
  have size : (UInt64.size : Int) = 18446744073709551616 := rfl
  constructor
  · rintro ⟨exact,ms,computed,_⟩
    obtain ⟨small,_⟩ := mulU64_eq_some_iff.mp computed
    have nonneg := (asU64_exact_iff.mp exact).1
    refine ⟨nonneg,?_⟩
    unfold maxSeconds
    omega
  · rintro ⟨nonneg,bound⟩
    unfold maxSeconds at bound
    have exact : (asU64 seconds : Int) = seconds := asU64_exact_iff.mpr ⟨nonneg,by omega⟩
    refine ⟨exact,asU64 seconds * 1000,mulU64_eq_some_iff.mpr ⟨by omega,rfl⟩,Nat.le_max_right _ _,?_⟩
    unfold steps
    omega

theorem deadline_iff {now : Nat} {maxDurationSecs : Option Int} :
    (deadlineFits now maxDurationSecs = true ∧ ∀ seconds ∈ maxDurationSecs, (asU64 seconds : Int) = seconds) ↔
      ∀ seconds ∈ maxDurationSecs, 0 ≤ seconds ∧ now + seconds < 9223372036854775808 := by
  have size : (UInt64.size : Int) = 18446744073709551616 := rfl
  have half : UInt64.size / 2 = 9223372036854775808 := rfl
  cases maxDurationSecs with
  | none => simp [deadlineFits]
  | some seconds =>
    simp only [deadlineFits,Option.all_some,decide_eq_true_eq,Option.mem_def,Option.some.injEq,forall_eq']
    constructor
    · rintro ⟨fits,exact⟩
      have nonneg := (asU64_exact_iff.mp exact).1
      exact ⟨nonneg,by omega⟩
    · rintro ⟨nonneg,below⟩
      have exact : (asU64 seconds : Int) = seconds := asU64_exact_iff.mpr ⟨nonneg,by omega⟩
      exact ⟨by omega,exact⟩

/-! Schedules. -/

theorem safe_iff {upcoming : String → Except String Int64} {now : Nat} {config : ScheduleConfig} :
    Safe upcoming now config ↔ Fits now config := by
  have sleeps (free : config.cronExpr = none) {seconds : Int} (every : config.intervalSeconds = some seconds) :
      sleepMs upcoming (threadOf config) = mulU64 (asU64 seconds) 1000 := by
    simp only [sleepMs,threadOf,free,every,Option.getD_some]
  constructor
  · intro safe
    refine ⟨safe.scheduled,fun free seconds every => ?_,deadline_iff.mp safe.deadline⟩
    have waits := safe.waits free seconds every
    rw [sleeps free every] at waits
    exact waits_iff.mp waits
  · intro fits
    have waits (free : config.cronExpr = none) (seconds : Int) (every : seconds ∈ config.intervalSeconds) :
        (asU64 seconds : Int) = seconds ∧ Waits (sleepMs upcoming (threadOf config)) seconds := by
      rw [sleeps free every]
      exact waits_iff.mpr (fits.interval free seconds every)
    refine ⟨fits.scheduled,?_,waits,deadline_iff.mpr fits.duration⟩
    cases cron : config.cronExpr with
    | some expr => simp [sleepMs,threadOf,cron]
    | none =>
      obtain ⟨seconds,every⟩ := Option.isSome_iff_exists.mp (fits.scheduled.resolve_left (by simp [cron]))
      obtain ⟨_,ms,computed,_⟩ := waits cron seconds every
      rw [computed]
      rfl

theorem configs_updateSchedule (id : Nat) (request : UpdateScheduleRequest) (s : Service) (other : Nat) :
    (updateSchedule id request s).configs.find? other =
      (s.configs.find? other).map (fun config => if config.id == id then updatedConfig request config else config) := by
  unfold updateSchedule
  split
  · exact s.configs.find?_updateWhere _ (updatedConfig request) (fun _ => rfl) other
  · rename_i missing
    cases found : s.configs.find? other with
    | none => rfl
    | some config =>
      have key : config.id = other := Table.find?_key found
      have apart : config.id ≠ id := by
        rintro rfl
        rw [key,found] at missing
        exact missing rfl
      simp [apart]

theorem updatedService_found {request : CreateScheduleRequest} (accepted : accepts request = true)
    (updates : List UpdateScheduleRequest) (s : Service) :
    (updatedService request updates s).configs.find? (s.configs.lastId + 1) =
      some (stored request updates (s.configs.lastId + 1)) := by
  have created : (createSchedule request s).configs.find? (s.configs.lastId + 1) =
      some (createdConfig request (s.configs.lastId + 1)) := by
    unfold accepts at accepted
    have given : (request.cronExpr.isNone && request.intervalSeconds.isNone) = false := by
      cases cron : request.cronExpr <;> cases every : request.intervalSeconds <;> simp_all
    have task : ¬(request.taskType ≠ "sync" ∧ request.taskType ≠ "integrity_check") := by
      simp only [Bool.and_eq_true,Bool.or_eq_true,beq_iff_eq] at accepted
      tauto
    rw [createSchedule,given,if_neg (by decide),if_neg task]
    exact (Table.find?_insert s.configs _ (createdConfig_key request) _).trans (if_pos rfl)
  have keyed (config : ScheduleConfig) : config.id = s.configs.lastId + 1 →
      ∀ t : Service, t.configs.find? (s.configs.lastId + 1) = some config →
        (updates.foldl (fun t update => updateSchedule (s.configs.lastId + 1) update t) t).configs.find? (s.configs.lastId + 1) =
          some (updates.foldl (fun config update => updatedConfig update config) config) := by
    induction updates generalizing config with
    | nil => exact fun _ t found => found
    | cons update updates ih =>
      intro own t found
      rw [List.foldl_cons,List.foldl_cons]
      refine ih _ ?_ _ ?_
      · exact own
      · rw [configs_updateSchedule,found,Option.map_some,if_pos (by simpa using own)]
  exact keyed _ rfl _ created

/-! Database backups. -/

theorem settingsAfter_positive (requests : List UpdateBackupSettings) :
    0 < (settingsAfter requests).backupIntervalSeconds ∧ 0 < (settingsAfter requests).integrityIntervalSeconds := by
  induction requests using List.reverseRecOn with
  | nil => decide
  | append_singleton requests request ih =>
    rw [settingsAfter,List.foldl_append,List.foldl_cons,List.foldl_nil]
    change 0 < ((updateSettings request (settingsAfter requests)).toOption.getD (settingsAfter requests)).backupIntervalSeconds ∧
      0 < ((updateSettings request (settingsAfter requests)).toOption.getD (settingsAfter requests)).integrityIntervalSeconds
    have kept {value : Option Int} {before : Int} (positive : 0 < before) (valid : ¬value.any (· ≤ 0) = true) :
        0 < value.getD before := by
      cases value <;> simp_all
    unfold updateSettings validateInterval
    split
    · exact ih
    · rename_i backup
      split
      · exact ih
      · rename_i integrity
        exact ⟨kept ih.1 backup,kept ih.2 integrity⟩

theorem backup_waits_iff {seconds : Int} (positive : 0 < seconds) :
    (asU64 (max seconds 1) : Int) = seconds ∧ Waits (backupSleepMs seconds) seconds ↔ seconds ≤ maxSeconds := by
  have same : max seconds 1 = seconds := by omega
  rw [backupSleepMs,same,waits_iff]
  exact and_iff_right (Int.le_of_lt positive)

theorem backupThreads_positive (requests : List UpdateBackupSettings) :
    ∀ thread ∈ backupThreads (settingsAfter requests), 0 < thread.2 := by
  obtain ⟨backup,integrity⟩ := settingsAfter_positive requests
  intro thread member
  rcases List.mem_append.mp member with first | second
  · split at first
    · rw [List.mem_singleton.mp first]
      exact backup
    · cases first
  · split at second
    · rw [List.mem_singleton.mp second]
      exact integrity
    · cases second

/-- The arithmetic of an accepted schedule is safe exactly where its seconds fit, and so is that of the accepted
backup settings. -/
theorem arithmetic_safe_iff (upcoming : String → Except String Int64) :
    (∀ request updates s now, accepts request = true →
      ∃ config, (updatedService request updates s).configs.find? (s.configs.lastId + 1) = some config ∧
        (Safe upcoming now config ↔ Fits now config)) ∧
    ∀ requests, (∀ thread ∈ backupThreads (settingsAfter requests),
        (asU64 (max thread.2 1) : Int) = thread.2 ∧ Waits (backupSleepMs thread.2) thread.2) ↔
      ∀ thread ∈ backupThreads (settingsAfter requests), thread.2 ≤ maxSeconds := by
  constructor
  · intro request updates s now accepted
    exact ⟨_,updatedService_found accepted updates s,safe_iff⟩
  · intro requests
    have each (thread) (member : thread ∈ backupThreads (settingsAfter requests)) :=
      backup_waits_iff (backupThreads_positive requests thread member)
    constructor
    · exact fun safe thread member => (each thread member).mp (safe thread member)
    · exact fun fits thread member => (each thread member).mpr (fits thread member)

def noCron : String → Except String Int64 := fun _ => .error "Invalid cron expression"

theorem arithmetic_safe_hourly : ∃ config,
    (updatedService everyMinute [hourly] (boot .empty)).configs.find? 1 = some config ∧
      config.intervalSeconds = some 3600 ∧ Safe noCron 0 config := by
  obtain ⟨config,found,safe⟩ := (arithmetic_safe_iff noCron).1 everyMinute [hourly] (boot .empty) 0 (by decide)
  have row : config = stored everyMinute [hourly] 1 := by
    apply Option.some.inj
    rw [← found]
    decide
  refine ⟨config,found,by rw [row]; rfl,safe.mpr ?_⟩
  rw [row]
  exact ⟨by decide,fun _ seconds every => by cases every; decide,fun _ none => by cases none⟩

/-- A second less than none. -/
def backwards : CreateScheduleRequest := ⟨"sync",none,some (-1),none,none⟩

theorem negative_interval_accepted : ¬ ∀ upcoming request updates s now, accepts request = true →
    ∀ config, (updatedService request updates s).configs.find? (s.configs.lastId + 1) = some config →
      Safe upcoming now config := by
  intro always
  have safe := always noCron backwards [] (boot .empty) 0 (by decide) (createdConfig backwards 1) (by decide)
  exact absurd safe.computed (by decide)

end BitProtector.ScheduleArithmetic
