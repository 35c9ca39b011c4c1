import BitProtector.Foundation.Machine
import BitProtector.ScheduleArithmetic
import Mathlib.Algebra.GroupWithZero.Nat

/-! The runs that a schedule thread starts by its cron expression, on a clock of nanoseconds. The
thread sleeps in whole steps of a hundred milliseconds towards the next occurrence, runs its
task, and asks for the next occurrence from there. -/
namespace BitProtector.CronRuns
open ScheduleArithmetic

/-- A cron expression, by what the cron crate answers: the first occurrence strictly after a time. -/
structure Cron where
  occurs : Nat → Prop
  next : Nat → Option Nat
  later : ∀ now target, next now = some target → now < target ∧ occurs target
  first : ∀ now target, next now = some target → ∀ other, now < other → occurs other → target ≤ other
  none_later : ∀ now, next now = none → ∀ other, now < other → ¬occurs other

def millisecond : Nat := 1000000

/-- What one `thread::sleep` of a step is asked for. -/
def stepLength : Nat := 100 * millisecond

/-- A run of the task, with the occurrence that was waited for. -/
structure Run where
  target : Option Nat
  started : Nat
  deriving DecidableEq

/-- The thread at the top of its loop; the last run comes first. -/
structure State where
  now : Nat
  runs : List Run
  deriving DecidableEq

/-- How long one turn of the loop takes: from asking for the occurrence to measuring the time until it, each of the
sleeps with what lies between them, and the task with all that follows. -/
structure Turn where
  lag : Nat
  sleeps : List Nat
  task : Nat

/-- `next_cron_sleep_ms`, an hour where there is none. -/
def cronSleepMs (target : Option Nat) (measured : Nat) : Nat :=
  match target with
  | some target => (target - measured) / millisecond
  | none => 3600000

variable (cron : Cron)

def wokenAt (turn : Turn) (s : State) : Nat := s.now + turn.lag + turn.sleeps.sum

/-- A sleep lasts no less than it is asked for. -/
def step (turn : Turn) (s : State) : Option State :=
  if turn.sleeps.length = steps (cronSleepMs (cron.next s.now) (s.now + turn.lag)) ∧
      ∀ sleep ∈ turn.sleeps, stepLength ≤ sleep then
    some ⟨wokenAt turn s + turn.task,⟨cron.next s.now,wokenAt turn s⟩::s.runs⟩
  else none

def machine : Machine State Turn := ⟨step cron⟩

def begin (now : Nat) : State := ⟨now,[]⟩

/-- No run is early, and no two are for one occurrence. -/
structure FiresOnce (s : State) : Prop where
  on_time : ∀ run ∈ s.runs, ∀ target ∈ run.target, target ≤ run.started
  once : s.runs.Pairwise (fun later earlier => ∀ target ∈ later.target, earlier.target ≠ some target)

/-- By how much the sleeps of a turn are longer than asked for. -/
def overrun (turn : Turn) : Nat := (turn.sleeps.map (· - stepLength)).sum

/-- What the whole steps leave of the time until the occurrence is made up for by the sleeps. -/
def Covered (turn : Turn) (s : State) : Prop :=
  ∀ target, cron.next s.now = some target →
    target - (s.now + turn.lag) < stepLength ∨ (target - (s.now + turn.lag)) % stepLength ≤ overrun turn

section
variable {cron} {turn : Turn} {s t : State}

theorem sum_sleeps {sleeps : List Nat} (long : ∀ sleep ∈ sleeps, stepLength ≤ sleep) :
    sleeps.sum = sleeps.length * stepLength + (sleeps.map (· - stepLength)).sum := by
  induction sleeps with
  | nil => simp
  | cons sleep sleeps ih =>
    have rest := ih fun other member => long other (List.mem_cons_of_mem _ member)
    have own := long sleep List.mem_cons_self
    simp only [List.sum_cons,List.length_cons,List.map_cons,rest,Nat.add_mul,Nat.one_mul]
    omega

theorem covered_iff (taken : step cron turn s = some t) :
    Covered cron turn s ↔ ∀ target, cron.next s.now = some target → target ≤ wokenAt turn s := by
  unfold step at taken
  split at taken
  · rename_i slept
    obtain ⟨count,long⟩ := slept
    apply forall_congr'
    intro target
    apply imp_congr_right
    intro next
    have whole := sum_sleeps long
    rw [count,next] at whole
    change turn.sleeps.sum = steps ((target - (s.now + turn.lag)) / millisecond) * stepLength + overrun turn at whole
    have rounded : (target - (s.now + turn.lag)) / millisecond / 100 = (target - (s.now + turn.lag)) / stepLength := by
      rw [Nat.div_div_eq_div_mul,Nat.mul_comm]
      rfl
    rw [steps,rounded] at whole
    rw [wokenAt,whole]
    have split := Nat.div_add_mod (target - (s.now + turn.lag)) stepLength
    have positive : 0 < stepLength := by decide
    by_cases short : target - (s.now + turn.lag) < stepLength
    · rw [Nat.div_eq_of_lt short,Nat.max_eq_right (by decide)]
      exact iff_of_true (.inl short) (by omega)
    · have some : 1 ≤ (target - (s.now + turn.lag)) / stepLength := Nat.div_pos (by omega) positive
      rw [Nat.max_eq_left some,or_iff_right short]
      rw [Nat.mul_comm stepLength] at split
      omega
  · cases taken

theorem taken_eq (taken : step cron turn s = some t) :
    t = ⟨wokenAt turn s + turn.task,⟨cron.next s.now,wokenAt turn s⟩::s.runs⟩ := by
  unfold step at taken
  split at taken
  · exact (Option.some.inj taken).symm
  · cases taken

/-- All occurrences that were waited for are past. -/
structure Invariant (s : State) : Prop where
  fires : FiresOnce s
  past : ∀ run ∈ s.runs, ∀ target ∈ run.target, target ≤ s.now

theorem invariant_begin (now : Nat) : Invariant (begin now) := by
  constructor
  · constructor
    · intro run impossible
      cases impossible
    · exact List.Pairwise.nil
  · intro run impossible
    cases impossible

theorem invariant_step (before : Invariant s) (covered : Covered cron turn s) (taken : step cron turn s = some t) :
    Invariant t := by
  have reached := (covered_iff taken).mp covered
  rw [taken_eq taken]
  have advanced : s.now ≤ wokenAt turn s := by
    unfold wokenAt
    omega
  constructor
  · constructor
    · intro run member target waited
      rcases List.mem_cons.mp member with rfl | old
      · exact reached target waited
      · exact before.fires.on_time run old target waited
    · refine List.pairwise_cons.mpr ⟨?_,before.fires.once⟩
      intro earlier old target waited same
      have past := before.past earlier old target same
      exact absurd (cron.later s.now target waited).1 (Nat.not_lt.mpr past)
  · intro run member target waited
    change target ≤ wokenAt turn s + turn.task
    rcases List.mem_cons.mp member with rfl | old
    · exact Nat.le_add_right_of_le (reached target waited)
    · have past := before.past run old target waited
      omega

end

/-- In a run of the thread whose turns are all covered each occurrence fires once and not early, and a turn that is
not covered starts a run early. -/
theorem fires_once_iff (now : Nat) :
    (∀ s, (machine cron).Reaches (Covered cron) (begin now) s → FiresOnce s) ∧
    ∀ turn s t, step cron turn s = some t → FiresOnce t → Covered cron turn s := by
  constructor
  · intro s reached
    have kept : Invariant s := by
      apply reached.invariant
      · exact invariant_begin now
      · exact fun turn before after holds covered taken => invariant_step holds covered taken
    exact kept.fires
  · intro turn s t taken fires
    rw [taken_eq taken] at fires
    exact (covered_iff taken).mpr fun target next => fires.on_time _ List.mem_cons_self target next

/-! Every minute. -/

def minute : Nat := 60000 * millisecond

def everyMinute : Cron where
  occurs time := minute ∣ time
  next now := some ((now / minute + 1) * minute)
  later now target next := by
    cases next
    refine ⟨?_,Nat.dvd_mul_left _ _⟩
    have split := Nat.div_add_mod now minute
    have below := Nat.mod_lt now (show 0 < minute by decide)
    rw [Nat.add_mul,Nat.mul_comm,Nat.one_mul]
    omega
  first now target next other after occurs := by
    cases next
    obtain ⟨count,rfl⟩ := occurs
    rw [Nat.mul_comm minute]
    apply Nat.mul_le_mul_right
    exact Nat.div_lt_of_lt_mul after
  none_later now none := by cases none

/-- A hundred milliseconds before the minute the step ends on it. -/
theorem fires_once_sharp : ∃ s,
    (machine everyMinute).exec (begin (minute - stepLength)) [⟨0,[stepLength],0⟩] = some s ∧ s.runs.length = 1 ∧
      FiresOnce s := by
  refine ⟨_,rfl,rfl,(fires_once_iff everyMinute (minute - stepLength)).1 _ (.step ⟨0,[stepLength],0⟩ .start ?_ rfl)⟩
  intro target next
  cases next
  exact .inr (by decide)

/-- 150 ms before the minute one step is slept, and 50 ms before it the run starts. -/
def early : Turn := ⟨0,[100 * millisecond],0⟩

theorem early_runs : ¬ ∀ cron now s, (machine cron).Reaches (fun _ _ => True) (begin now) s → FiresOnce s := by
  intro always
  have ran : (machine everyMinute).exec (begin (minute - 150 * millisecond)) [early] =
      some ⟨minute - 50 * millisecond,[⟨some minute,minute - 50 * millisecond⟩]⟩ := by decide
  have fires := always everyMinute _ _ (Machine.reaches_of_exec ran)
  exact absurd (fires.on_time _ List.mem_cons_self minute rfl) (by decide)

/-- The turn after it runs for that minute again. -/
example : (machine everyMinute).exec (begin (minute - 150 * millisecond)) [early,early] =
    some ⟨minute + 50 * millisecond,[⟨some minute,minute + 50 * millisecond⟩,⟨some minute,minute - 50 * millisecond⟩]⟩ := by
  decide

end BitProtector.CronRuns
