import Mathlib.Algebra.Order.Monoid.NatCast
import Mathlib.Order.Monotone.Basic

/-!
# The proleptic Gregorian calendar

Days are counted from the first of January 1970.  Every day is that of one date, and the dates of
a calendar are in the order of their days.
-/

namespace YunXi
namespace Calendar

variable (year : Int)

/-- The year has a twenty-ninth of February. -/
def IsLeap : Prop :=
  year % 4 = 0 ∧ (year % 100 ≠ 0 ∨ year % 400 = 0)

instance (year : Int) : Decidable (IsLeap year) :=
  inferInstanceAs (Decidable (_ ∧ _))

/-- Days of a month, which are counted from one. -/
def daysInMonth : Nat → Nat
  | 1 | 3 | 5 | 7 | 8 | 10 | 12 => 31
  | 4 | 6 | 9 | 11 => 30
  | 2 => if IsLeap year then 29 else 28
  | _ => 0

def daysInYear : Nat := if IsLeap year then 366 else 365

/-- Days of a year before a month. -/
def daysBeforeMonth (year : Int) : Nat → Nat
  | 0 => 0
  | month + 1 => daysBeforeMonth year month + daysInMonth year month

/-- Days from the start of the year 1 to that of a year. -/
def daysBeforeYear : Int :=
  365 * (year - 1) + (year - 1) / 4 - (year - 1) / 100 + (year - 1) / 400

@[ext] structure Date where
  year : Int
  month : Nat
  day : Nat
  deriving DecidableEq, Repr

structure Date.Valid (date : Date) : Prop where
  one_le_month : 1 ≤ date.month
  month_le : date.month ≤ 12
  one_le_day : 1 ≤ date.day
  day_le : date.day ≤ daysInMonth date.year date.month

/-- Dates are compared by their years, then by their months, then by their days. -/
instance : LT Date where
  lt first second := first.year < second.year ∨ first.year = second.year ∧
    (first.month < second.month ∨ first.month = second.month ∧ first.day < second.day)

/-- Days from the first of January 1970 to a date. -/
def dayNumber (date : Date) : Int :=
  daysBeforeYear date.year - daysBeforeYear 1970 + daysBeforeMonth date.year date.month +
    date.day - 1

example : dayNumber ⟨1970, 1, 1⟩ = 0 := by decide
example : dayNumber ⟨2000, 2, 29⟩ = 11016 := by decide

theorem daysBeforeYear_succ :
    daysBeforeYear (year + 1) = daysBeforeYear year + daysInYear year := by
  unfold daysBeforeYear daysInYear
  by_cases leap : IsLeap year
  · rw [if_pos leap]
    unfold IsLeap at leap
    omega
  · rw [if_neg leap]
    unfold IsLeap at leap
    omega

theorem daysBeforeYear_monotone {year later : Int} (notLater : year ≤ later) :
    daysBeforeYear year ≤ daysBeforeYear later := by
  obtain ⟨count, rfl⟩ := Int.le.dest notLater
  induction count with
  | zero => exact (Int.add_zero year).symm ▸ Int.le_refl _
  | succ count ih =>
      have before := ih (Int.le_add_of_nonneg_right (Int.natCast_nonneg _))
      rw [Int.natCast_succ, ← Int.add_assoc, daysBeforeYear_succ]
      exact before.trans (Int.le_add_of_nonneg_right (Int.natCast_nonneg _))

theorem daysBeforeMonth_succ (month : Nat) :
    daysBeforeMonth year (month + 1) = daysBeforeMonth year month + daysInMonth year month :=
  rfl

theorem daysBeforeMonth_monotone : Monotone (daysBeforeMonth year) :=
  monotone_nat_of_le_succ fun _ => Nat.le_add_right _ _

/-- The twelve months are the year. -/
theorem daysBeforeMonth_thirteen : daysBeforeMonth year 13 = daysInYear year := by
  by_cases leap : IsLeap year <;> simp [daysBeforeMonth, daysInMonth, daysInYear, leap]

theorem daysInMonth_le (month : Nat) : daysInMonth year month ≤ 31 := by
  unfold daysInMonth
  split <;> first | decide | (split <;> decide)

variable {first second : Date}

namespace Date.Valid

/-- A date comes before the next month. -/
theorem dayOfYear_le (valid : first.Valid) :
    daysBeforeMonth first.year first.month + first.day ≤
      daysBeforeMonth first.year (first.month + 1) := by
  rw [daysBeforeMonth_succ]
  exact Nat.add_le_add_left valid.day_le _

/-- A date comes before the next year. -/
theorem dayNumber_lt (valid : first.Valid) :
    dayNumber first < daysBeforeYear (first.year + 1) - daysBeforeYear 1970 := by
  have month := valid.dayOfYear_le
  have year : daysBeforeMonth first.year (first.month + 1) ≤ daysInYear first.year :=
    daysBeforeMonth_thirteen first.year ▸
      daysBeforeMonth_monotone first.year (Nat.succ_le_succ valid.month_le)
  rw [daysBeforeYear_succ, dayNumber]
  omega

theorem le_dayNumber (valid : first.Valid) :
    daysBeforeYear first.year - daysBeforeYear 1970 ≤ dayNumber first := by
  have day := valid.one_le_day
  rw [dayNumber]
  omega

end Date.Valid

theorem dayNumber_lt_of_lt (valid : first.Valid) (valid' : second.Valid)
    (before : first < second) : dayNumber first < dayNumber second := by
  rcases before with year | ⟨year, month | ⟨month, day⟩⟩
  · have later := daysBeforeYear_monotone (Int.add_one_le_of_lt year)
    have ends := valid.dayNumber_lt
    have starts := valid'.le_dayNumber
    omega
  · have later : daysBeforeMonth second.year (first.month + 1) ≤
        daysBeforeMonth second.year second.month :=
      daysBeforeMonth_monotone second.year (Nat.succ_le_of_lt month)
    have ends := valid.dayOfYear_le
    have day := valid'.one_le_day
    rw [year] at ends
    rw [dayNumber, dayNumber, year]
    omega
  · rw [dayNumber, dayNumber, year, month]
    omega

theorem lt_trichotomy (first second : Date) : first < second ∨ first = second ∨ second < first := by
  change (_ ∨ _ ∧ (_ ∨ _ ∧ _)) ∨ _ ∨ (_ ∨ _ ∧ (_ ∨ _ ∧ _))
  rw [Date.ext_iff]
  omega

/-- Dates are in the order of their days. -/
theorem dayNumber_lt_iff (valid : first.Valid) (valid' : second.Valid) :
    dayNumber first < dayNumber second ↔ first < second := by
  refine ⟨fun days => ?_, dayNumber_lt_of_lt valid valid'⟩
  rcases lt_trichotomy first second with before | rfl | after
  · exact before
  · exact absurd days (lt_irrefl _)
  · exact absurd days (dayNumber_lt_of_lt valid' valid after).not_gt

/-- No day is that of two dates. -/
theorem dayNumber_injective (valid : first.Valid) (valid' : second.Valid)
    (same : dayNumber first = dayNumber second) : first = second := by
  rcases lt_trichotomy first second with before | rfl | after
  · exact absurd same (dayNumber_lt_of_lt valid valid' before).ne
  · rfl
  · exact absurd same (dayNumber_lt_of_lt valid' valid after).ne'

/-- A day before the first of January of a year is not in that year. -/
theorem year_le_of_dayNumber {year : Int} (valid : first.Valid)
    (late : daysBeforeYear year - daysBeforeYear 1970 ≤ dayNumber first) : year ≤ first.year := by
  by_contra early
  have ends := valid.dayNumber_lt
  have later := daysBeforeYear_monotone (Int.add_one_le_of_lt (not_le.mp early))
  omega

@[ext] structure Moment where
  date : Date
  hour : Nat
  minute : Nat
  second : Nat
  milli : Nat
  deriving DecidableEq, Repr

namespace Moment

structure Valid (moment : Moment) : Prop where
  date : moment.date.Valid
  hour_lt : moment.hour < 24
  minute_lt : moment.minute < 60
  second_lt : moment.second < 60
  milli_lt : moment.milli < 1000

/-- Milliseconds from the start of 1970 to a moment. -/
def millis (moment : Moment) : Int :=
  (((dayNumber moment.date * 24 + moment.hour) * 60 + moment.minute) * 60 + moment.second) * 1000 +
    moment.milli

variable {moment other : Moment}

/-- Moments are in the order of their milliseconds. -/
theorem millis_lt_iff (valid : moment.Valid) (valid' : other.Valid) :
    moment.millis < other.millis ↔
      moment.date < other.date ∨ moment.date = other.date ∧ (moment.hour < other.hour ∨
        moment.hour = other.hour ∧ (moment.minute < other.minute ∨ moment.minute = other.minute ∧
          (moment.second < other.second ∨ moment.second = other.second ∧
            moment.milli < other.milli))) := by
  rw [← dayNumber_lt_iff valid.date valid'.date]
  have sameDay : moment.date = other.date ↔ dayNumber moment.date = dayNumber other.date :=
    ⟨congrArg dayNumber, dayNumber_injective valid.date valid'.date⟩
  rw [sameDay]
  obtain ⟨-, hours, minutes, seconds, millis⟩ := valid
  obtain ⟨-, hours', minutes', seconds', millis'⟩ := valid'
  unfold Moment.millis
  omega

/-- No two moments have the same milliseconds. -/
theorem millis_injective (valid : moment.Valid) (valid' : other.Valid)
    (same : moment.millis = other.millis) : moment = other := by
  obtain ⟨day, hours, minutes, seconds, millis⟩ := valid
  obtain ⟨day', hours', minutes', seconds', millis'⟩ := valid'
  unfold Moment.millis at same
  have sameDay := dayNumber_injective day day' (by omega)
  rw [sameDay] at same
  refine Moment.ext sameDay ?_ ?_ ?_ ?_ <;> omega

end Moment

end Calendar
end YunXi
