import Mathlib.Data.Int.Notation
import Mathlib.Tactic.SplitIfs

/-
  The Gregorian calendar, extended to all years, and the time
  in seconds since the start of 1970.

  Months are counted from 0 where days are added up, and from
  1 in a moment.

  Key definitions include:
    * `Calendar.daysToYear`
    * `Calendar.daysToMonth`
    * `Calendar.Moment`
    * `Calendar.Moment.unixTime`

  Key theorems include:
    * `Calendar.daysToYear_succ`
    * `Calendar.daysToYear_mono`
    * `Calendar.daysToMonth_year`
    * `Calendar.Moment.unixTime_nonneg`
-/

------------------------------------------------------------
-- Years
------------------------------------------------------------

namespace Calendar

variable {year later : Int}

/- A day is added every four years, but in three of 400. -/
def isLeap (year : Int) : Bool :=
  year % 4 = 0 && (year % 100 ≠ 0 || year % 400 = 0)

/- How many days were added before a year. -/
def leapsBefore (year : Int) : Int :=
  (year - 1) / 4 - (year - 1) / 100 + (year - 1) / 400

def yearLength (year : Int) : Int :=
  if isLeap year then 366 else 365

/- The days from the start of 1970 to that of a year. -/
def daysToYear (year : Int) : Int :=
  365 * (year - 1970) + leapsBefore year - leapsBefore 1970

theorem isLeap_iff :
    isLeap year = true ↔
      year % 4 = 0 ∧ (year % 100 ≠ 0 ∨ year % 400 = 0) := by
  simp [isLeap]

theorem leapsBefore_succ
    (year : Int) :
    leapsBefore (year + 1) =
      leapsBefore year + if isLeap year then 1 else 0 := by
  unfold leapsBefore
  split_ifs with hLeap
  · rw [isLeap_iff] at hLeap
    omega
  · rw [isLeap_iff] at hLeap
    omega

/- A year ends where the next one starts. -/
theorem daysToYear_succ
    (year : Int) :
    daysToYear (year + 1) =
      daysToYear year + yearLength year := by
  unfold daysToYear yearLength
  rw [leapsBefore_succ]
  split_ifs
  · omega
  · omega

theorem daysToYear_mono
    (hLater : year ≤ later) :
    daysToYear year ≤ daysToYear later := by
  unfold daysToYear leapsBefore
  omega

theorem daysToYear_epoch :
    daysToYear 1970 = 0 :=
  rfl

end Calendar

------------------------------------------------------------
-- Months
------------------------------------------------------------

namespace Calendar

variable {year : Int} {month : Nat}

/- January is month 0. -/
def monthLength (year : Int) (month : Nat) : Int :=
  match month with
  | 1 => if isLeap year then 29 else 28
  | 3 => 30
  | 5 => 30
  | 8 => 30
  | 10 => 30
  | _ => 31

/- The days from the start of a year to that of a month. -/
def daysToMonth (year : Int) : Nat → Int
| 0 => 0
| month + 1 => daysToMonth year month + monthLength year month

theorem monthLength_pos
    (year : Int)
    (month : Nat) :
    0 < monthLength year month := by
  unfold monthLength
  split
  · split_ifs
    · decide
    · decide
  all_goals decide

theorem daysToMonth_nonneg
    (year : Int)
    (month : Nat) :
    0 ≤ daysToMonth year month := by
  induction month with
  | zero => exact Int.le_refl 0
  | succ month ih =>
      have hLength := monthLength_pos year month
      rw [daysToMonth]
      omega

/- Twelve months make up a year. -/
theorem daysToMonth_year
    (year : Int) :
    daysToMonth year 12 = yearLength year := by
  unfold yearLength
  simp only [daysToMonth, monthLength]
  split_ifs
  · rfl
  · rfl

theorem daysToMonth_mono
    {later : Nat}
    (hLater : month ≤ later) :
    daysToMonth year month ≤ daysToMonth year later := by
  induction hLater with
  | refl => exact Int.le_refl _
  | step _ ih =>
      rename_i later _
      have hLength := monthLength_pos year later
      rw [daysToMonth]
      omega

theorem daysToMonth_le
    (hMonth : month ≤ 12) :
    daysToMonth year month ≤ yearLength year := by
  rw [← daysToMonth_year]
  exact daysToMonth_mono hMonth

end Calendar

------------------------------------------------------------
-- Moments
------------------------------------------------------------

namespace Calendar

/- Seconds, from days and the time of a day. -/
def secondsOf
    (days hour minute second : Int) : Int :=
  ((days * 24 + hour) * 60 + minute) * 60 + second

/- A date and a time that there are. -/
structure Moment where
  year : Nat
  month : Nat
  day : Nat
  hour : Nat
  minute : Nat
  second : Nat
  month_pos : 1 ≤ month
  month_le : month ≤ 12
  day_pos : 1 ≤ day
  day_le : (day : Int) ≤ monthLength year (month - 1)
  hour_lt : hour < 24
  minute_lt : minute < 60
  second_lt : second < 60

namespace Moment

variable (moment : Moment)

def unixTime : Int :=
  secondsOf
    (daysToYear moment.year +
      daysToMonth moment.year (moment.month - 1) +
      (moment.day - 1))
    moment.hour moment.minute moment.second

theorem day_le_31 :
    moment.day ≤ 31 := by
  have hDay := moment.day_le
  have hLength :
      ∀ month, monthLength moment.year month ≤ 31 := by
    intro month
    unfold monthLength
    split
    · split_ifs
      · decide
      · decide
    all_goals decide
  have hBound := hLength (moment.month - 1)
  omega

/- From 1970 on the time is not negative. -/
theorem unixTime_nonneg
    (hYear : 1970 ≤ moment.year) :
    0 ≤ moment.unixTime := by
  have hEpoch :
      daysToYear 1970 ≤ daysToYear moment.year :=
    daysToYear_mono (by omega)
  have hMonth :=
    daysToMonth_nonneg moment.year (moment.month - 1)
  have hDay := moment.day_pos
  rw [daysToYear_epoch] at hEpoch
  unfold unixTime secondsOf
  omega

end Moment

end Calendar
