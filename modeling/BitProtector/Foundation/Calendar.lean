import Mathlib.Tactic.IntervalCases

/-! Dates of the Gregorian calendar and the days they number, and times of the day. -/
namespace BitProtector.Calendar

def isLeap (year : Int) : Bool := year % 4 == 0 && (year % 100 != 0 || year % 400 == 0)

/-- The months are counted from one. -/
def daysInMonth (leap : Bool) : Nat → Nat
  | 1 | 3 | 5 | 7 | 8 | 10 | 12 => 31
  | 4 | 6 | 9 | 11 => 30
  | 2 => if leap then 29 else 28
  | _ => 0

def daysBeforeMonth (leap : Bool) : Nat → Nat
  | 0 => 0
  | month + 1 => daysBeforeMonth leap month + daysInMonth leap month

/-- The days from the first of January of the year zero to that of another. -/
def daysBeforeYear (year : Int) : Int := 365 * year + (year + 3) / 4 - (year + 99) / 100 + (year + 399) / 400

structure Date where
  year : Int
  month : Nat
  day : Nat
  month_positive : 1 ≤ month
  month_bound : month ≤ 12
  day_positive : 1 ≤ day
  day_bound : day ≤ daysInMonth (isLeap year) month

def Date.number (date : Date) : Int := daysBeforeYear date.year + daysBeforeMonth (isLeap date.year) date.month + date.day

/-- A time on a date, to the millisecond. -/
structure Moment where
  date : Date
  hour : Nat
  minute : Nat
  second : Nat
  milli : Nat
  hour_bound : hour < 24
  minute_bound : minute < 60
  second_bound : second < 60
  milli_bound : milli < 1000

/-- The milliseconds of its day. -/
def Moment.ofDay (moment : Moment) : Nat := ((moment.hour * 60 + moment.minute) * 60 + moment.second) * 1000 + moment.milli

def Moment.instant (moment : Moment) : Int := moment.date.number * 86400000 + moment.ofDay

/-! Years and months. -/

theorem daysBeforeYear_succ (year : Int) :
    daysBeforeYear (year + 1) = daysBeforeYear year + (if isLeap year then 366 else 365) := by
  unfold daysBeforeYear
  by_cases leap : isLeap year = true
  · rw [if_pos leap]
    simp [isLeap] at leap
    omega
  · rw [if_neg leap]
    simp [isLeap] at leap
    omega

theorem daysBeforeYear_le {year later : Int} (order : year < later) : daysBeforeYear (year + 1) ≤ daysBeforeYear later := by
  unfold daysBeforeYear
  omega

theorem daysBeforeMonth_le {leap : Bool} {month later : Nat} (order : month < later) :
    daysBeforeMonth leap month + daysInMonth leap month ≤ daysBeforeMonth leap later := by
  induction later with
  | zero => omega
  | succ later ih =>
    rcases Nat.lt_succ_iff_lt_or_eq.mp order with less | rfl
    · have before := ih less
      rw [daysBeforeMonth]
      omega
    · exact Nat.le_refl _

theorem daysBeforeMonth_year (leap : Bool) : daysBeforeMonth leap 13 = if leap then 366 else 365 := by
  cases leap <;> rfl

/-! Dates in their order. -/

theorem number_bounds (date : Date) :
    daysBeforeYear date.year < date.number ∧ date.number ≤ daysBeforeYear (date.year + 1) := by
  have whole : daysBeforeMonth (isLeap date.year) date.month + daysInMonth (isLeap date.year) date.month ≤
      daysBeforeMonth (isLeap date.year) 13 := daysBeforeMonth_le (by have := date.month_bound; omega)
  have first := date.day_positive
  have last := date.day_bound
  rw [daysBeforeMonth_year] at whole
  rw [daysBeforeYear_succ,Date.number]
  split
  · rename_i leap
    rw [if_pos leap] at whole
    omega
  · rename_i common
    rw [if_neg common] at whole
    omega

/-- Year by year, month by month, day by day. -/
def Date.Before (date later : Date) : Prop :=
  date.year < later.year ∨ date.year = later.year ∧
    (date.month < later.month ∨ date.month = later.month ∧ date.day < later.day)

theorem number_lt_of_before {date later : Date} (order : date.Before later) : date.number < later.number := by
  rcases order with years | ⟨year,months | ⟨month,days⟩⟩
  · have here := (number_bounds date).2
    have there := (number_bounds later).1
    have between := daysBeforeYear_le years
    omega
  · have between : daysBeforeMonth (isLeap later.year) date.month + daysInMonth (isLeap later.year) date.month ≤
        daysBeforeMonth (isLeap later.year) later.month := daysBeforeMonth_le months
    have last := date.day_bound
    have first := later.day_positive
    rw [year] at last
    rw [Date.number,Date.number,year]
    omega
  · rw [Date.number,Date.number,year,month]
    omega

@[ext] theorem Date.ext {date other : Date} (year : date.year = other.year) (month : date.month = other.month)
    (day : date.day = other.day) : date = other := by
  cases date
  cases other
  simp_all

theorem before_total (date other : Date) : date.Before other ∨ date = other ∨ other.Before date := by
  rcases Int.lt_trichotomy date.year other.year with less | year | more
  · exact .inl (.inl less)
  · rcases Nat.lt_trichotomy date.month other.month with less | month | more
    · exact .inl (.inr ⟨year,.inl less⟩)
    · rcases Nat.lt_trichotomy date.day other.day with less | day | more
      · exact .inl (.inr ⟨year,.inr ⟨month,less⟩⟩)
      · exact .inr (.inl (Date.ext year month day))
      · exact .inr (.inr (.inr ⟨year.symm,.inr ⟨month.symm,more⟩⟩))
    · exact .inr (.inr (.inr ⟨year.symm,.inl more⟩))
  · exact .inr (.inr (.inl more))

theorem number_lt_iff {date later : Date} : date.number < later.number ↔ date.Before later := by
  refine ⟨fun less => ?_,number_lt_of_before⟩
  rcases before_total date later with before | rfl | after
  · exact before
  · omega
  · have more := number_lt_of_before after
    omega

theorem number_injective {date other : Date} (same : date.number = other.number) : date = other := by
  rcases before_total date other with before | equal | after
  · have less := number_lt_of_before before
    omega
  · exact equal
  · have more := number_lt_of_before after
    omega

/-! Moments. -/

theorem ofDay_bound (moment : Moment) : moment.ofDay < 86400000 := by
  have hour := moment.hour_bound
  have minute := moment.minute_bound
  have second := moment.second_bound
  have milli := moment.milli_bound
  unfold Moment.ofDay
  omega

theorem instant_lt_iff {moment later : Moment} :
    moment.instant < later.instant ↔
      moment.date.Before later.date ∨ moment.date = later.date ∧ moment.ofDay < later.ofDay := by
  have here := ofDay_bound moment
  have there := ofDay_bound later
  rw [Moment.instant,Moment.instant,← number_lt_iff]
  constructor
  · intro less
    by_cases same : moment.date.number = later.date.number
    · exact .inr ⟨number_injective same,by omega⟩
    · exact .inl (by omega)
  · rintro (days | ⟨day,times⟩)
    · omega
    · rw [day]
      omega

end BitProtector.Calendar
