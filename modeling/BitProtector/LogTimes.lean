import BitProtector.Foundation.Calendar
import BitProtector.Listings

/-! The time filters of the event log. The column holds what SQLite writes of the clock, the web client
sends another format of its times, and the two are compared as texts. -/
namespace BitProtector.LogTimes
open Calendar TextOrder Listings

/-! Times as texts. -/

/-- A reading of the clock, to the second. -/
structure Stamp where
  moment : Moment
  whole : moment.milli = 0
  year_low : 0 ≤ moment.date.year
  year_high : moment.date.year ≤ 9999

def Stamp.instant (stamp : Stamp) : Int := stamp.moment.instant

def monthAndDay (date : Date) (rest : List Char) : List Char :=
  '-'::(padded 2 date.month ++ '-'::(padded 2 date.day ++ rest))

def clock (moment : Moment) (rest : List Char) : List Char :=
  padded 2 moment.hour ++ ':'::(padded 2 moment.minute ++ ':'::(padded 2 moment.second ++ rest))

/-- `datetime('now')`, which is the format that the CLI documents. -/
def Stamp.datetime (stamp : Stamp) : List Char :=
  padded 4 stamp.moment.date.year.toNat ++ monthAndDay stamp.moment.date (' '::clock stamp.moment [])

/-- The year of `toISOString`: four digits, or a sign and six. -/
def isoYear (year : Int) : List Char :=
  if 0 ≤ year ∧ year ≤ 9999 then padded 4 year.toNat
  else (if year < 0 then '-' else '+')::padded 6 year.natAbs

def toISOString (moment : Moment) : List Char :=
  isoYear moment.date.year ++ monthAndDay moment.date ('T'::clock moment ('.'::(padded 3 moment.milli ++ ['Z'])))

/-- A bound of the filter, as the web client or the user of the CLI writes it. -/
inductive Bound
  | web (moment : Moment)
  | documented (stamp : Stamp)

def Bound.text : Bound → String
  | .web moment => String.ofList (toISOString moment)
  | .documented stamp => String.ofList stamp.datetime

def Bound.instant : Bound → Int
  | .web moment => moment.instant
  | .documented stamp => stamp.instant

/-! The log with its times. -/

structure StampedLog where
  store : Store
  times : EventLogRow → Stamp
  written : ∀ row ∈ store.eventLog.rows, row.createdAt = String.ofList (times row).datetime

/-- `from <= t <= to`. -/
def within (since upTo : Option Bound) (stamp : Stamp) : Bool :=
  since.all (fun bound => decide (bound.instant ≤ stamp.instant)) &&
    upTo.all (fun bound => decide (stamp.instant ≤ bound.instant))

/-- The filters that are not about time. -/
def untimed (eventType : Option String) (trackedFileId : Option Nat) : LogFilter := ⟨eventType,trackedFileId,none,none⟩

def timed (eventType : Option String) (trackedFileId : Option Nat) (since upTo : Option Bound) : LogFilter :=
  ⟨eventType,trackedFileId,since.map Bound.text,upTo.map Bound.text⟩

/-- The entries that a listing is to show, the newest first. -/
def StampedLog.exactRows (log : StampedLog) (eventType : Option String) (trackedFileId : Option Nat)
    (since upTo : Option Bound) : List EventLogEntry :=
  (log.store.eventLog.rows.filter (fun row =>
    (untimed eventType trackedFileId).takes row && within since upTo (log.times row))).reverse.map
      (fun row => ⟨row,eventFilePath log.store.db row⟩)

/-! The order of the texts. -/

theorem before_monthAndDay {date other : Date} (rest more : List Char) :
    before (monthAndDay date rest) (monthAndDay other more) = true ↔
      date.month < other.month ∨ date.month = other.month ∧
        (date.day < other.day ∨ date.day = other.day ∧ before rest more = true) := by
  have months : date.month < capacity 2 ∧ other.month < capacity 2 := by
    have here := date.month_bound
    have there := other.month_bound
    simp only [capacity]
    omega
  have days : date.day < capacity 2 ∧ other.day < capacity 2 := by
    have here := date.day_bound
    have there := other.day_bound
    have most (leap : Bool) (month : Nat) : daysInMonth leap month ≤ 31 := by
      unfold daysInMonth
      split <;> (try split) <;> omega
    have largest := most (isLeap date.year) date.month
    have otherLargest := most (isLeap other.year) other.month
    simp only [capacity]
    omega
  simp only [monthAndDay,before_cons_cons,before_field months.1 months.2,before_field days.1 days.2,Nat.lt_irrefl,
    true_and,false_or]

theorem before_dates {date other : Date} (years : 0 ≤ date.year ∧ date.year ≤ 9999)
    (otherYears : 0 ≤ other.year ∧ other.year ≤ 9999) (rest more : List Char) :
    before (padded 4 date.year.toNat ++ monthAndDay date rest) (padded 4 other.year.toNat ++ monthAndDay other more) = true ↔
      date.Before other ∨ date = other ∧ before rest more = true := by
  have low : date.year.toNat < capacity 4 := by
    simp only [capacity]
    omega
  have high : other.year.toNat < capacity 4 := by
    simp only [capacity]
    omega
  rw [before_field low high,before_monthAndDay,Date.Before,Date.ext_iff]
  have less : date.year.toNat < other.year.toNat ↔ date.year < other.year := by omega
  have same : date.year.toNat = other.year.toNat ↔ date.year = other.year := by omega
  rw [less,same]
  tauto

theorem before_clock {moment other : Moment} (whole : moment.milli = 0) (otherWhole : other.milli = 0) :
    before (clock moment []) (clock other []) = true ↔ moment.ofDay < other.ofDay := by
  have hour := moment.hour_bound
  have minute := moment.minute_bound
  have second := moment.second_bound
  have otherHour := other.hour_bound
  have otherMinute := other.minute_bound
  have otherSecond := other.second_bound
  have two {n m : Nat} (low : n < 60) (high : m < 60) : n < capacity 2 ∧ m < capacity 2 := by
    simp only [capacity]
    omega
  obtain ⟨hours,hours'⟩ := two (by omega : moment.hour < 60) (by omega : other.hour < 60)
  obtain ⟨minutes,minutes'⟩ := two minute otherMinute
  obtain ⟨seconds,seconds'⟩ := two second otherSecond
  simp only [clock,before_cons_cons,before_field hours hours',before_field minutes minutes',before_field seconds seconds',
    before_nil,Bool.false_eq_true,and_false,or_false,Nat.lt_irrefl,true_and,false_or]
  unfold Moment.ofDay
  omega

theorem before_datetime (stamp other : Stamp) :
    before stamp.datetime other.datetime = true ↔ stamp.instant < other.instant := by
  have clocks := before_clock stamp.whole other.whole
  rw [Stamp.datetime,Stamp.datetime,before_dates ⟨stamp.year_low,stamp.year_high⟩ ⟨other.year_low,other.year_high⟩,
    before_cons_cons,clocks,Stamp.instant,Stamp.instant,instant_lt_iff]
  simp

theorem not_before_iff {date other : Date} : ¬other.Before date ↔ date.Before other ∨ date = other := by
  constructor
  · intro later
    rcases before_total date other with less | same | more
    · exact .inl less
    · exact .inr same
    · exact absurd more later
  · rintro (less | rfl) more
    · have here := number_lt_of_before less
      have there := number_lt_of_before more
      omega
    · have here := number_lt_of_before more
      omega

/-- Between the two formats the blank and the `T` decide on a date they share. -/
theorem before_isoString (stamp : Stamp) {moment : Moment} (years : 0 ≤ moment.date.year ∧ moment.date.year ≤ 9999) :
    (before stamp.datetime (toISOString moment) = true ↔ ¬moment.date.Before stamp.moment.date) ∧
      (before (toISOString moment) stamp.datetime = true ↔ moment.date.Before stamp.moment.date) := by
  have letter : ¬ 'T'.toNat < ' '.toNat ∧ 'T' ≠ ' ' := by decide
  rw [toISOString,isoYear,if_pos years,Stamp.datetime,before_dates ⟨stamp.year_low,stamp.year_high⟩ years,
    before_dates years ⟨stamp.year_low,stamp.year_high⟩,before_cons_cons,before_cons_cons,not_before_iff]
  constructor
  · simp
  · simp [letter]

theorem padded_head {width n : Nat} (digits : 0 < width) (rest : List Char) :
    ∃ c cs, padded width n ++ rest = c::cs ∧ 48 ≤ c.toNat := by
  induction width generalizing n rest with
  | zero => omega
  | succ width ih =>
    rw [padded,List.append_assoc]
    rcases Nat.eq_zero_or_pos width with rfl | more
    · exact ⟨digit n,rest,rfl,by rw [digit_toNat]; omega⟩
    · exact ih more _

theorem before_signed (stamp : Stamp) {moment : Moment} (years : ¬(0 ≤ moment.date.year ∧ moment.date.year ≤ 9999)) :
    before stamp.datetime (toISOString moment) = false ∧ before (toISOString moment) stamp.datetime = true := by
  obtain ⟨c,cs,text,large⟩ : ∃ c cs, stamp.datetime = c::cs ∧ 48 ≤ c.toNat := padded_head (by decide) _
  obtain ⟨sign,shown,small⟩ : ∃ sign : Char, (if moment.date.year < 0 then '-' else '+') = sign ∧ sign.toNat < 48 := by
    split
    · exact ⟨'-',rfl,by decide⟩
    · exact ⟨'+',rfl,by decide⟩
  rw [toISOString,isoYear,if_neg years,shown,text,List.cons_append]
  constructor
  · rw [Bool.eq_false_iff,ne_eq,before_cons_cons]
    rintro (less | ⟨rfl,_⟩)
    · omega
    · omega
  · exact (before_cons_cons _ _ _ _).mpr (.inl (by omega))

/-! What the two comparisons decide. -/

/-- A time of the web client on the date of a row. -/
def Bound.SameDate : Bound → Stamp → Prop
  | .web moment,stamp => moment.date = stamp.moment.date
  | .documented _,_ => False

/-- A time of the web client in a year of more than four digits. -/
def Bound.Beyond : Bound → Prop
  | .web moment => 9999 < moment.date.year
  | .documented _ => False

theorem instant_lt_of_before {moment other : Moment} (before : moment.date.Before other.date) :
    moment.instant < other.instant := instant_lt_iff.mpr (.inl before)

theorem before_iff_instant {moment other : Moment} :
    moment.date.Before other.date ↔ moment.instant ≤ other.instant ∧ moment.date ≠ other.date := by
  constructor
  · intro before
    have less := instant_lt_of_before before
    refine ⟨by omega,fun same => ?_⟩
    exact not_before_iff.mpr (.inr same) (same ▸ before)
  · rintro ⟨order,apart⟩
    by_contra later
    have more := instant_lt_of_before ((not_before_iff.mp later).resolve_right (Ne.symm apart))
    omega

theorem not_before_iff_instant {moment other : Moment} :
    ¬moment.date.Before other.date ↔ other.instant ≤ moment.instant ∨ moment.date = other.date := by
  rw [before_iff_instant,not_and_or,not_not,not_le]
  refine ⟨Or.imp_left le_of_lt,?_⟩
  rintro (order | same)
  · rcases lt_or_eq_of_le order with less | equal
    · exact .inl less
    · right
      by_contra apart
      have before := before_iff_instant.mpr ⟨le_of_eq equal.symm,apart⟩
      have less := instant_lt_of_before before
      omega
  · exact .inr same

theorem since_passes_iff (bound : Bound) (stamp : Stamp) :
    before stamp.datetime bound.text.toList = false ↔
      bound.Beyond ∨ bound.instant ≤ stamp.instant ∧ ¬bound.SameDate stamp := by
  rw [Bool.eq_false_iff,ne_eq]
  cases bound with
  | documented other =>
    rw [Bound.text,String.toList_ofList,before_datetime]
    simp [Bound.Beyond,Bound.SameDate,Bound.instant]
  | web moment =>
    rw [Bound.text,String.toList_ofList]
    simp only [Bound.Beyond,Bound.SameDate,Bound.instant,Stamp.instant]
    by_cases years : 0 ≤ moment.date.year ∧ moment.date.year ≤ 9999
    · rw [(before_isoString stamp years).1,not_not,before_iff_instant]
      have low : ¬9999 < moment.date.year := by omega
      simp [low]
    · rw [(before_signed stamp years).1]
      by_cases beyond : 9999 < moment.date.year
      · simp [beyond]
      · have low := stamp.year_low
        have before : moment.date.Before stamp.moment.date := .inl (by omega)
        simp [before_iff_instant.mp before]

theorem upTo_passes_iff (bound : Bound) (stamp : Stamp) :
    before bound.text.toList stamp.datetime = false ↔
      ¬bound.Beyond ∧ (stamp.instant ≤ bound.instant ∨ bound.SameDate stamp) := by
  rw [Bool.eq_false_iff,ne_eq]
  cases bound with
  | documented other =>
    rw [Bound.text,String.toList_ofList,before_datetime]
    simp [Bound.Beyond,Bound.SameDate,Bound.instant]
  | web moment =>
    rw [Bound.text,String.toList_ofList]
    simp only [Bound.Beyond,Bound.SameDate,Bound.instant,Stamp.instant]
    by_cases years : 0 ≤ moment.date.year ∧ moment.date.year ≤ 9999
    · rw [(before_isoString stamp years).2,not_before_iff_instant]
      have low : ¬9999 < moment.date.year := by omega
      simp [low]
    · rw [(before_signed stamp years).2]
      by_cases beyond : 9999 < moment.date.year
      · simp [beyond]
      · have low := stamp.year_low
        have before : moment.date.Before stamp.moment.date := .inl (by omega)
        have later := mt not_before_iff_instant.mpr (not_not.mpr before)
        simp [later]

/-! The listing. -/

/-- In the range, and not shown. -/
def Lost (since upTo : Option Bound) (stamp : Stamp) : Prop :=
  within since upTo stamp = true ∧ ((∃ bound ∈ since, bound.SameDate stamp) ∨ ∃ bound ∈ upTo, bound.Beyond)

/-- Outside the range, and shown. -/
def Stray (since upTo : Option Bound) (stamp : Stamp) : Prop :=
  within since upTo stamp = false ∧
    (∀ bound ∈ since, bound.Beyond ∨ bound.instant ≤ stamp.instant ∧ ¬bound.SameDate stamp) ∧
    ∀ bound ∈ upTo, ¬bound.Beyond ∧ (stamp.instant ≤ bound.instant ∨ bound.SameDate stamp)

theorem within_iff {since upTo : Option Bound} {stamp : Stamp} :
    within since upTo stamp = true ↔
      (∀ bound ∈ since, bound.instant ≤ stamp.instant) ∧ ∀ bound ∈ upTo, stamp.instant ≤ bound.instant := by
  simp [within,Option.all_eq_true]

theorem sameDate_not_beyond {bound : Bound} {stamp : Stamp} (same : bound.SameDate stamp) : ¬bound.Beyond := by
  cases bound with
  | documented other => cases same
  | web moment =>
    have date : moment.date = stamp.moment.date := same
    have high := stamp.year_high
    rw [Bound.Beyond,date]
    omega

/-- What the two texts decide of a row. -/
def shown (since upTo : Option Bound) (stamp : Stamp) : Bool :=
  since.all (fun bound => !before stamp.datetime bound.text.toList) &&
    upTo.all (fun bound => !before bound.text.toList stamp.datetime)

theorem shown_iff {since upTo : Option Bound} {stamp : Stamp} :
    shown since upTo stamp = true ↔
      (∀ bound ∈ since, bound.Beyond ∨ bound.instant ≤ stamp.instant ∧ ¬bound.SameDate stamp) ∧
        ∀ bound ∈ upTo, ¬bound.Beyond ∧ (stamp.instant ≤ bound.instant ∨ bound.SameDate stamp) := by
  simp only [shown,Bool.and_eq_true,Option.all_eq_true,Bool.not_eq_true',since_passes_iff,upTo_passes_iff,Option.mem_def]

theorem shown_of_within {since upTo : Option Bound} {stamp : Stamp} (inside : within since upTo stamp = true) :
    shown since upTo stamp = true ↔ (∀ bound ∈ since, ¬bound.SameDate stamp) ∧ ∀ bound ∈ upTo, ¬bound.Beyond := by
  obtain ⟨lower,upper⟩ := within_iff.mp inside
  rw [shown_iff]
  refine and_congr (forall₂_congr fun bound member => ?_) (forall₂_congr fun bound member => ?_)
  · constructor
    · rintro (beyond | ⟨_,apart⟩) same
      · exact sameDate_not_beyond same beyond
      · exact apart same
    · intro apart
      exact .inr ⟨lower bound member,apart⟩
  · exact and_iff_left (.inl (upper bound member))

theorem shown_eq_within_iff {since upTo : Option Bound} {stamp : Stamp} :
    shown since upTo stamp = within since upTo stamp ↔ ¬Lost since upTo stamp ∧ ¬Stray since upTo stamp := by
  cases inside : within since upTo stamp with
  | true =>
    rw [shown_of_within inside]
    simp [Lost,Stray,inside]
  | false =>
    rw [Bool.eq_false_iff,ne_eq,shown_iff]
    simp only [Lost,Stray,inside,Bool.false_eq_true,false_and,not_false_eq_true,true_and]

theorem takes_timed (eventType : Option String) (trackedFileId : Option Nat) (since upTo : Option Bound)
    {row : EventLogRow} {stamp : Stamp} (written : row.createdAt = String.ofList stamp.datetime) :
    (timed eventType trackedFileId since upTo).takes row =
      ((untimed eventType trackedFileId).takes row && shown since upTo stamp) := by
  simp only [LogFilter.takes,timed,untimed,shown,written,String.toList_ofList,Option.all_map,Option.all_none,
    Bool.and_true,Bool.and_assoc]

theorem filter_eq_iff {α : Type} {p q : α → Bool} {list : List α} :
    list.filter p = list.filter q ↔ ∀ a ∈ list, p a = q a := by
  refine ⟨fun same a member => ?_,List.filter_congr⟩
  have both : a ∈ list.filter p ↔ a ∈ list.filter q := by rw [same]
  rw [List.mem_filter,List.mem_filter,and_iff_right member,and_iff_right member] at both
  exact Bool.eq_iff_iff.mpr both

theorem logRows_exact_iff (log : StampedLog) (eventType : Option String) (trackedFileId : Option Nat)
    (since upTo : Option Bound) :
    logRows log.store (timed eventType trackedFileId since upTo) = log.exactRows eventType trackedFileId since upTo ↔
      ∀ row ∈ log.store.eventLog.rows, (untimed eventType trackedFileId).takes row = true →
        ¬Lost since upTo (log.times row) ∧ ¬Stray since upTo (log.times row) := by
  have entries : Function.Injective (fun row => (⟨row,eventFilePath log.store.db row⟩ : EventLogEntry)) := by
    intro row other same
    exact congrArg EventLogEntry.row same
  rw [logRows,StampedLog.exactRows,(List.map_injective_iff.mpr entries).eq_iff,List.reverse_inj,filter_eq_iff]
  refine forall₂_congr fun row member => ?_
  rw [takes_timed eventType trackedFileId since upTo (log.written row member),← shown_eq_within_iff]
  cases (untimed eventType trackedFileId).takes row <;> simp

/-- The listing shows the entries of the time range, and counts them, on every page, if and only if no row that passes the
other filters is in the range on the date of the web client's lower bound or under an upper bound beyond the year 9999,
and none outside it meets the bounds as those two cases have it. -/
theorem time_filters_exact (log : StampedLog) (eventType : Option String) (trackedFileId : Option Nat)
    (since upTo : Option Bound) :
    (∀ build window, listEventLogs build log.store (timed eventType trackedFileId since upTo) window =
        answer build window (log.exactRows eventType trackedFileId since upTo)) ↔
      ∀ row ∈ log.store.eventLog.rows, (untimed eventType trackedFileId).takes row = true →
        ¬Lost since upTo (log.times row) ∧ ¬Stray since upTo (log.times row) := by
  rw [← logRows_exact_iff]
  constructor
  · intro same
    have whole := same .checked ⟨1,-1⟩
    have offset : Build.checked.offset ⟨1,-1⟩ = some 0 := rfl
    simp only [listEventLogs,answer,offset,slice] at whole
    simpa using congrArg (Option.map Prod.fst) whole
  · intro same build window
    rw [listEventLogs,same]

theorem documented_exact (log : StampedLog) (eventType : Option String) (trackedFileId : Option Nat)
    (since upTo : Option Stamp) (build : Build) (window : Window) :
    listEventLogs build log.store (timed eventType trackedFileId (since.map .documented) (upTo.map .documented)) window =
      answer build window (log.exactRows eventType trackedFileId (since.map .documented) (upTo.map .documented)) := by
  have never (bound : Option Stamp) (stamp : Stamp) : ∀ b ∈ bound.map Bound.documented, ¬b.SameDate stamp ∧ ¬b.Beyond := by
    intro b member
    obtain ⟨other,_,rfl⟩ := Option.map_eq_some_iff.mp member
    exact ⟨id,id⟩
  refine (time_filters_exact log eventType trackedFileId _ _).mpr (fun row _ _ => ⟨?_,?_⟩) build window
  · rintro ⟨_,⟨bound,member,same⟩ | ⟨bound,member,beyond⟩⟩
    · exact (never since (log.times row) bound member).1 same
    · exact (never upTo (log.times row) bound member).2 beyond
  · rintro ⟨outside,lower,upper⟩
    rw [Bool.eq_false_iff] at outside
    refine outside (within_iff.mpr ⟨fun bound member => ?_,fun bound member => ?_⟩)
    · exact ((lower bound member).resolve_left (never since (log.times row) bound member).2).1
    · exact (upper bound member).2.resolve_right (never upTo (log.times row) bound member).1

/-! A row of the day that the web client asks for. -/

def mayDay : Date := ⟨2024,5,1,by decide,by decide,by decide,by decide⟩

def midnight : Moment := ⟨mayDay,0,0,0,0,by decide,by decide,by decide,by decide⟩

def tenOClock : Stamp := ⟨⟨mayDay,10,0,0,0,by decide,by decide,by decide,by decide⟩,rfl,by decide,by decide⟩

def mayLog : StampedLog where
  store := oneEvent
  times := fun _ => tenOClock
  written := by
    intro row member
    obtain rfl : row = started := List.mem_singleton.mp member
    decide +kernel

/-- From midnight on, the event of ten o'clock is missing. -/
theorem midnight_loses :
    Bound.text (.web midnight) = "2024-05-01T00:00:00.000Z" ∧ midnight.instant ≤ tenOClock.instant ∧
      listEventLogs .checked mayLog.store (timed none none (some (.web midnight)) none) ⟨1,25⟩ = some ([],0) ∧
      ¬∀ (log : StampedLog) eventType trackedFileId since upTo build window,
        listEventLogs build log.store (timed eventType trackedFileId since upTo) window =
          answer build window (log.exactRows eventType trackedFileId since upTo) := by
  have text : Bound.text (.web midnight) = "2024-05-01T00:00:00.000Z" := by decide +kernel
  have order : midnight.instant ≤ tenOClock.instant := by decide
  have lists : listEventLogs .checked mayLog.store (timed none none (some (.web midnight)) none) ⟨1,25⟩ = some ([],0) := by
    decide +kernel
  have exact : answer .checked ⟨1,25⟩ (mayLog.exactRows none none (some (.web midnight)) none) =
      some ([⟨started,none⟩],1) := by
    decide +kernel
  refine ⟨text,order,lists,fun all => ?_⟩
  have same := all mayLog none none (some (.web midnight)) none .checked ⟨1,25⟩
  rw [lists,exact] at same
  cases same

end BitProtector.LogTimes
