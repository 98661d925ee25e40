import Mathlib.Tactic.IntervalCases
import YunXi.Program.Calendar
import YunXi.Program.Decimals
import YunXi.WebGateway.Projection

/-!
# Time stamps of the workspace views

The date of a day is found by counting years from March, so that a leap day is the last day of its
year: eras of 400 years, in them centuries, in these spans of four years, and in these years.  No
operation on the way leaves the range of 64-bit integers, and the date is that of the calendar.
-/

namespace YunXi
namespace WebGateway

open Calendar (Date IsLeap Moment dayNumber daysBeforeMonth daysBeforeYear daysInMonth daysInYear)
open Decimals (append_lt_append_left digits field_lt_iff leftpad_toDigits)

def minI64 : Int := -9223372036854775808
def maxI64 : Int := 9223372036854775807

/-- The result of an operation on `i64`, which panics where it overflows. -/
def checkedI64 (value : Int) : Option Int :=
  if minI64 ≤ value ∧ value ≤ maxI64 then some value else none

/-- `saturating_add`. -/
def saturatingAdd (first second : Int) : Int := max minI64 (min maxI64 (first + second))

/-- `civil_date_from_days`, each operation on `i64`. -/
def civilDateFromDaysI64 (daysSinceEpoch : Int) : Option (Int × Int × Int) := do
  let days := saturatingAdd daysSinceEpoch 719468
  let shifted ← checkedI64 (if days ≥ 0 then days else days - 146096)
  let era := shifted.tdiv 146097
  let eraDays ← checkedI64 (era * 146097)
  let dayOfEra ← checkedI64 (days - eraDays)
  let withoutLeaps ← checkedI64 (dayOfEra - dayOfEra.tdiv 1460)
  let withCenturies ← checkedI64 (withoutLeaps + dayOfEra.tdiv 36524)
  let commonDays ← checkedI64 (withCenturies - dayOfEra.tdiv 146096)
  let yearOfEra := commonDays.tdiv 365
  let eraYears ← checkedI64 (era * 400)
  let year ← checkedI64 (yearOfEra + eraYears)
  let yearDays ← checkedI64 (365 * yearOfEra)
  let withLeaps ← checkedI64 (yearDays + yearOfEra.tdiv 4)
  let daysBefore ← checkedI64 (withLeaps - yearOfEra.tdiv 100)
  let dayOfYear ← checkedI64 (dayOfEra - daysBefore)
  let fifths ← checkedI64 (5 * dayOfYear)
  let rounded ← checkedI64 (fifths + 2)
  let monthPrime := rounded.tdiv 153
  let monthDays ← checkedI64 (153 * monthPrime)
  let roundedDays ← checkedI64 (monthDays + 2)
  let dayPrime ← checkedI64 (dayOfYear - roundedDays.tdiv 5)
  let day ← checkedI64 (dayPrime + 1)
  let month ← checkedI64 (monthPrime + if monthPrime < 10 then 3 else -9)
  let year ← checkedI64 (year + if month ≤ 2 then 1 else 0)
  return (year, month, day)

/-- `unix_millis_rfc3339`, each operation on `u64` or `i64`. -/
def unixMillisRfc3339I64 (millis : UInt64) : Option String := do
  let seconds := millis / 1000
  let dayCount := (seconds / 86400).toNat
  -- `i64::try_from(..).unwrap_or(i64::MAX)`
  let days := if (dayCount : Int) ≤ maxI64 then (dayCount : Int) else maxI64
  let secondsOfDay := seconds % 86400
  let (year, month, day) ← civilDateFromDaysI64 days
  return padded 4 year ++ "-" ++ padded 2 month ++ "-" ++ padded 2 day ++ "T" ++
    padded 2 (secondsOfDay / 3600).toNat ++ ":" ++ padded 2 (secondsOfDay % 3600 / 60).toNat ++
    ":" ++ padded 2 (secondsOfDay % 60).toNat ++ "." ++ padded 3 (millis % 1000).toNat ++ "Z"

/-- A day of a year that begins in March. -/
structure MarchDay where
  era : Int
  century : Int
  span : Int
  year : Int
  day : Int
  centuries : 0 ≤ century ∧ century ≤ 3
  spans : 0 ≤ span ∧ span ≤ 24
  years : 0 ≤ year ∧ year ≤ 3
  inYear : 0 ≤ day ∧ day ≤ 365
  leapDay : day = 365 → year = 3 ∧ (span < 24 ∨ century = 3)

namespace MarchDay

/-- Days since the first of March of the year 0. -/
def days (march : MarchDay) : Int :=
  146097 * march.era + 36524 * march.century + 1461 * march.span + 365 * march.year + march.day

theorem exists_days (days : Int) : ∃ march : MarchDay, march.days = days := by
  obtain ⟨century, rest, inEra, centuries, rests, isLast⟩ : ∃ century rest : Int,
      days % 146097 = 36524 * century + rest ∧ (0 ≤ century ∧ century ≤ 3) ∧
        (0 ≤ rest ∧ rest ≤ 36524) ∧ (rest = 36524 → century = 3) := by
    refine ⟨min (days % 146097 / 36524) 3,
      days % 146097 - 36524 * min (days % 146097 / 36524) 3, ?_⟩
    omega
  obtain ⟨year, day, inSpan, years, inYear, isLeapYear⟩ : ∃ year day : Int,
      rest % 1461 = 365 * year + day ∧ (0 ≤ year ∧ year ≤ 3) ∧ (0 ≤ day ∧ day ≤ 365) ∧
        (day = 365 → year = 3) := by
    refine ⟨min (rest % 1461 / 365) 3, rest % 1461 - 365 * min (rest % 1461 / 365) 3, ?_⟩
    omega
  refine ⟨⟨days / 146097, century, rest / 1461, year, day, centuries, ?_, years, inYear,
    fun isLeapDay => ⟨isLeapYear isLeapDay, ?_⟩⟩, ?_⟩
  · omega
  · have last := isLeapYear isLeapDay
    omega
  · simp only [MarchDay.days]
    omega

variable (march : MarchDay)

/-- The year that begins in March. -/
def yearNumber : Int :=
  march.year + 4 * march.span + 100 * march.century + 400 * march.era

/-- Months since March. -/
def monthPrime : Int := (5 * march.day + 2) / 153

/-- Days of the month before this one. -/
def dayPrime : Int := march.day - (153 * march.monthPrime + 2) / 5

theorem monthPrime_bounds : 0 ≤ march.monthPrime ∧ march.monthPrime ≤ 11 := by
  have inYear := march.inYear
  rw [monthPrime]
  omega

/-- From March on, months of 31 and 30 days alternate as the fifths of 153 do. -/
theorem dayPrime_bounds : 0 ≤ march.dayPrime ∧ march.dayPrime <
    (153 * (march.monthPrime + 1) + 2) / 5 - (153 * march.monthPrime + 2) / 5 := by
  have inYear := march.inYear
  rw [dayPrime, monthPrime]
  omega

/-- The date, with the year that begins in January. -/
def date : Date :=
  if march.monthPrime < 10 then
    ⟨march.yearNumber, (march.monthPrime + 3).toNat, (march.dayPrime + 1).toNat⟩
  else ⟨march.yearNumber + 1, (march.monthPrime - 9).toNat, (march.dayPrime + 1).toNat⟩

/-- The leap day is in February of the next year. -/
theorem isLeap_of_leapDay (isLast : march.day = 365) : IsLeap (march.yearNumber + 1) := by
  obtain ⟨isYear, isSpan⟩ := march.leapDay isLast
  have spans := march.spans
  have centuries := march.centuries
  unfold IsLeap yearNumber
  omega

/-- Years up to one that begins in March. -/
theorem daysBeforeYear_yearNumber :
    daysBeforeYear (march.yearNumber + 1) = march.days - march.day := by
  have years := march.years
  have spans := march.spans
  have centuries := march.centuries
  rw [daysBeforeYear, days, yearNumber]
  omega

theorem valid_date : march.date.Valid := by
  obtain ⟨low, high⟩ := march.monthPrime_bounds
  obtain ⟨positive, short⟩ := march.dayPrime_bounds
  have february : march.monthPrime = 11 → march.dayPrime ≤ 28 := by
    intro isFebruary
    have inYear := march.inYear
    rw [dayPrime, isFebruary]
    omega
  have leap : march.monthPrime = 11 → march.dayPrime = 28 → IsLeap (march.yearNumber + 1) := by
    intro isFebruary isLast
    refine march.isLeap_of_leapDay ?_
    rw [dayPrime, isFebruary] at isLast
    omega
  unfold date
  generalize march.monthPrime = month at *
  generalize march.dayPrime = day at *
  by_cases spring : month < 10
  · rw [if_pos spring]
    refine ⟨by dsimp only; omega, by dsimp only; omega, by dsimp only; omega, ?_⟩
    interval_cases month <;> simp [daysInMonth] at short ⊢ <;> omega
  · rw [if_neg spring]
    obtain rfl | rfl : month = 10 ∨ month = 11 := by omega
    · refine ⟨by dsimp only; omega, by dsimp only; omega, by dsimp only; omega, ?_⟩
      change (day + 1).toNat ≤ 31
      omega
    · refine ⟨by dsimp only; omega, by dsimp only; omega, by dsimp only; omega, ?_⟩
      change (day + 1).toNat ≤ if IsLeap (march.yearNumber + 1) then 29 else 28
      have most := february rfl
      by_cases isLeap : IsLeap (march.yearNumber + 1)
      · rw [if_pos isLeap]
        omega
      · have notLast : day ≠ 28 := fun isLast => isLeap (leap rfl isLast)
        rw [if_neg isLeap]
        omega

/-- Days from the first of March to the end of the year. -/
theorem daysBeforeMonth_spring (year month : Int) (low : 0 ≤ month) (high : month < 10) :
    (daysBeforeMonth year (month + 3).toNat : Int) + 306 =
      daysInYear year + (153 * month + 2) / 5 := by
  by_cases leap : IsLeap year <;> interval_cases month <;>
    simp [daysBeforeMonth, daysInMonth, daysInYear, leap]

theorem dayNumber_date : dayNumber march.date = march.days - 719468 := by
  obtain ⟨low, high⟩ := march.monthPrime_bounds
  obtain ⟨positive, -⟩ := march.dayPrime_bounds
  have before := march.daysBeforeYear_yearNumber
  have next := Calendar.daysBeforeYear_succ march.yearNumber
  have epoch : daysBeforeYear 1970 = 719162 := by decide
  have isDay : march.day = march.dayPrime + (153 * march.monthPrime + 2) / 5 := by
    rw [dayPrime]
    omega
  unfold date
  by_cases spring : march.monthPrime < 10
  · have months := daysBeforeMonth_spring march.yearNumber march.monthPrime low spring
    rw [if_pos spring, dayNumber]
    dsimp only
    omega
  · rw [if_neg spring, dayNumber]
    obtain month | month : march.monthPrime = 10 ∨ march.monthPrime = 11 := by omega
    · have months : daysBeforeMonth (march.yearNumber + 1) 1 = 0 := by
        simp [daysBeforeMonth, daysInMonth]
      rw [month] at isDay ⊢
      dsimp only
      simp
      omega
    · have months : daysBeforeMonth (march.yearNumber + 1) 2 = 31 := by
        simp [daysBeforeMonth, daysInMonth]
      rw [month] at isDay ⊢
      dsimp only
      simp
      omega

theorem era_eq : (if march.days ≥ 0 then march.days else march.days - 146096).tdiv 146097 =
    march.era := by
  have centuries := march.centuries
  have spans := march.spans
  have years := march.years
  have inYear := march.inYear
  have leapDay := march.leapDay
  rw [Int.tdiv_eq_ediv, show Int.sign 146097 = 1 from rfl]
  unfold days
  split <;> split <;> omega

/-- Days of the era before this day. -/
def dayOfEra : Int := 36524 * march.century + 1461 * march.span + 365 * march.year + march.day

def yearOfEra : Int := march.year + 4 * march.span + 100 * march.century

theorem dayOfEra_bounds : 0 ≤ march.dayOfEra ∧ march.dayOfEra ≤ 146096 := by
  have centuries := march.centuries
  have spans := march.spans
  have years := march.years
  have inYear := march.inYear
  have leapDay := march.leapDay
  unfold dayOfEra
  omega

/-- A span of four years has one day more than 1460, a century one day less than 25 spans, and an
era one day more than four centuries. -/
theorem yearOfEra_eq :
    (march.dayOfEra - march.dayOfEra / 1460 + march.dayOfEra / 36524 -
      march.dayOfEra / 146096) / 365 = march.yearOfEra := by
  obtain ⟨era, century, span, year, day, centuries, spans, years, inYear, leapDay⟩ := march
  unfold dayOfEra yearOfEra
  dsimp only
  have byCentury : (36524 * century + 1461 * span + 365 * year + day) / 36524 -
      (36524 * century + 1461 * span + 365 * year + day) / 146096 = century := by
    obtain rfl | rfl | rfl | rfl : century = 0 ∨ century = 1 ∨ century = 2 ∨ century = 3 := by
      omega
    all_goals omega
  have bySpan : (36524 * century + 1461 * span + 365 * year + day) / 1460 =
      25 * century + span + (24 * century + span + 365 * year + day) / 1460 := by
    omega
  have byYear : (365 * year + day - (24 * century + span + 365 * year + day) / 1460) / 365 =
      year := by
    omega
  omega

theorem yearOfEra_bounds : 0 ≤ march.yearOfEra ∧ march.yearOfEra ≤ 399 := by
  have centuries := march.centuries
  have spans := march.spans
  have years := march.years
  unfold yearOfEra
  omega

theorem dayOfYear_eq : march.dayOfEra -
    (365 * march.yearOfEra + march.yearOfEra / 4 - march.yearOfEra / 100) = march.day := by
  have centuries := march.centuries
  have spans := march.spans
  have years := march.years
  unfold dayOfEra yearOfEra
  omega

theorem dayOfEra_eq : march.days - march.era * 146097 = march.dayOfEra := by
  unfold days dayOfEra
  omega

theorem tdiv_yearOfEra : (march.dayOfEra - march.dayOfEra.tdiv 1460 + march.dayOfEra.tdiv 36524 -
    march.dayOfEra.tdiv 146096).tdiv 365 = march.yearOfEra := by
  obtain ⟨low, high⟩ := march.dayOfEra_bounds
  rw [Int.tdiv_eq_ediv_of_nonneg low, Int.tdiv_eq_ediv_of_nonneg low,
    Int.tdiv_eq_ediv_of_nonneg low, Int.tdiv_eq_ediv_of_nonneg (by omega), march.yearOfEra_eq]

theorem tdiv_dayOfYear : march.dayOfEra - (365 * march.yearOfEra + march.yearOfEra.tdiv 4 -
    march.yearOfEra.tdiv 100) = march.day := by
  obtain ⟨low, high⟩ := march.yearOfEra_bounds
  rw [Int.tdiv_eq_ediv_of_nonneg low, Int.tdiv_eq_ediv_of_nonneg low, march.dayOfYear_eq]

theorem tdiv_monthPrime : (5 * march.day + 2).tdiv 153 = march.monthPrime := by
  have inYear := march.inYear
  rw [Int.tdiv_eq_ediv_of_nonneg (by omega), monthPrime]

theorem tdiv_dayPrime : march.day - (153 * march.monthPrime + 2).tdiv 5 = march.dayPrime := by
  have low := march.monthPrime_bounds.1
  rw [Int.tdiv_eq_ediv_of_nonneg (by omega), dayPrime]

end MarchDay

/-- A date as the computation gives it. -/
def triple (date : Date) : Int × Int × Int := (date.year, date.month, date.day)

theorem triple_date (march : MarchDay) : triple march.date =
    (march.yearOfEra + march.era * 400 +
        (if march.monthPrime + (if march.monthPrime < 10 then 3 else -9) ≤ 2 then 1 else 0),
      march.monthPrime + (if march.monthPrime < 10 then 3 else -9), march.dayPrime + 1) := by
  obtain ⟨low, high⟩ := march.monthPrime_bounds
  have positive := march.dayPrime_bounds.1
  unfold MarchDay.date triple
  by_cases spring : march.monthPrime < 10
  · rw [if_pos spring, if_pos spring, if_neg (by omega)]
    simp only [Prod.mk.injEq, MarchDay.yearNumber, MarchDay.yearOfEra]
    omega
  · rw [if_neg spring, if_neg spring, if_pos (by omega)]
    simp only [Prod.mk.injEq, MarchDay.yearNumber, MarchDay.yearOfEra]
    omega

theorem civilDateFromDays_march (march : MarchDay) :
    civilDateFromDays (march.days - 719468) = triple march.date := by
  unfold civilDateFromDays
  dsimp only
  rw [Int.sub_add_cancel, march.era_eq, march.dayOfEra_eq, march.tdiv_yearOfEra,
    march.tdiv_dayOfYear, march.tdiv_monthPrime, march.tdiv_dayPrime, triple_date]
  refine Prod.ext ?_ rfl
  dsimp only
  split <;> omega

theorem checkedI64_eq {value : Int} (low : -9223372036854775808 ≤ value)
    (high : value ≤ 9223372036854775807) : checkedI64 value = some value :=
  if_pos ⟨low, high⟩

theorem bind_checkedI64 {α : Type} {value : Int} {next : Int → Option α} {result : Option α}
    (low : -9223372036854775808 ≤ value) (high : value ≤ 9223372036854775807)
    (rest : next value = result) : (checkedI64 value >>= next) = result := by
  rw [checkedI64_eq low high]
  exact rest

/-- No operation of the computation overflows. -/
theorem civilDateFromDaysI64_march (march : MarchDay) (low : minI64 ≤ march.days - 719468)
    (high : march.days ≤ maxI64) :
    civilDateFromDaysI64 (march.days - 719468) = some (triple march.date) := by
  obtain ⟨eraLow, eraHigh⟩ := march.dayOfEra_bounds
  obtain ⟨yearLow, yearHigh⟩ := march.yearOfEra_bounds
  obtain ⟨monthLow, monthHigh⟩ := march.monthPrime_bounds
  obtain ⟨dayLow, dayHigh⟩ := march.inYear
  have isDays := march.dayOfEra_eq
  unfold minI64 at low
  unfold maxI64 at high
  have saturates : saturatingAdd (march.days - 719468) 719468 = march.days := by
    unfold saturatingAdd minI64 maxI64
    omega
  have isYear := march.tdiv_yearOfEra
  have isDay := march.tdiv_dayOfYear
  have isDayPrime := march.tdiv_dayPrime
  have positive := march.dayPrime_bounds.1
  rw [Int.tdiv_eq_ediv_of_nonneg eraLow, Int.tdiv_eq_ediv_of_nonneg eraLow,
    Int.tdiv_eq_ediv_of_nonneg eraLow] at isYear
  rw [Int.tdiv_eq_ediv_of_nonneg yearLow, Int.tdiv_eq_ediv_of_nonneg yearLow] at isDay
  rw [Int.tdiv_eq_ediv_of_nonneg (by omega)] at isDayPrime
  unfold civilDateFromDaysI64
  dsimp only
  rw [saturates]
  refine bind_checkedI64 (by split <;> omega) (by split <;> omega) ?_
  rw [march.era_eq]
  refine bind_checkedI64 (by omega) (by omega) ?_
  rw [march.dayOfEra_eq]
  refine bind_checkedI64 (by omega) (by omega) ?_
  rw [Int.tdiv_eq_ediv_of_nonneg eraLow, Int.tdiv_eq_ediv_of_nonneg eraLow,
    Int.tdiv_eq_ediv_of_nonneg eraLow]
  iterate 3 refine bind_checkedI64 (by omega) (by omega) ?_
  rw [isYear, Int.tdiv_eq_ediv_of_nonneg yearLow, Int.tdiv_eq_ediv_of_nonneg yearLow]
  iterate 6 refine bind_checkedI64 (by omega) (by omega) ?_
  rw [isDay]
  iterate 2 refine bind_checkedI64 (by omega) (by omega) ?_
  rw [march.tdiv_monthPrime]
  iterate 2 refine bind_checkedI64 (by omega) (by omega) ?_
  rw [Int.tdiv_eq_ediv_of_nonneg (by omega), isDayPrime]
  iterate 2 refine bind_checkedI64 (by omega) (by omega) ?_
  iterate 2 refine bind_checkedI64 (by split <;> omega) (by split <;> omega) ?_
  rw [triple_date]
  rfl

/-- Every day has its date. -/
theorem civilDateFromDays_eq (days : Int) : ∃ date : Date, date.Valid ∧ dayNumber date = days ∧
    civilDateFromDays days = triple date := by
  obtain ⟨march, isDays⟩ := MarchDay.exists_days (days + 719468)
  have isDay : march.days - 719468 = days := by omega
  refine ⟨march.date, march.valid_date, march.dayNumber_date.trans isDay, ?_⟩
  rw [← isDay, civilDateFromDays_march]

theorem civilDateFromDaysI64_eq {days : Int} (low : minI64 ≤ days)
    (high : days ≤ maxI64 - 719468) :
    civilDateFromDaysI64 days = some (civilDateFromDays days) := by
  obtain ⟨march, isDays⟩ := MarchDay.exists_days (days + 719468)
  have isDay : march.days - 719468 = days := by omega
  rw [← isDay, civilDateFromDays_march]
  exact civilDateFromDaysI64_march march (by omega) (by omega)

/-- A moment as it is printed. -/
def rfc3339 (moment : Moment) : String :=
  padded 4 moment.date.year ++ "-" ++ padded 2 moment.date.month ++ "-" ++
    padded 2 moment.date.day ++ "T" ++ padded 2 moment.hour ++ ":" ++ padded 2 moment.minute ++
    ":" ++ padded 2 moment.second ++ "." ++ padded 3 moment.milli ++ "Z"

/-- The printed text is that of the moment. -/
theorem unixMillisRfc3339_eq (millis : UInt64) : ∃ moment : Moment, moment.Valid ∧
    moment.millis = millis.toNat ∧ unixMillisRfc3339 millis = rfc3339 moment ∧
    civilDateFromDays (millis.toNat / 1000 / 86400) = triple moment.date := by
  obtain ⟨date, valid, isDay, civil⟩ := civilDateFromDays_eq (millis.toNat / 1000 / 86400)
  refine ⟨⟨date, millis.toNat / 1000 % 86400 / 3600, millis.toNat / 1000 % 86400 % 3600 / 60,
    millis.toNat / 1000 % 86400 % 60, millis.toNat % 1000⟩, ⟨valid, ?_, ?_, ?_, ?_⟩, ?_, ?_, civil⟩
  iterate 4 dsimp only; omega
  · rw [Moment.millis, isDay]
    dsimp only
    omega
  · unfold unixMillisRfc3339 rfc3339
    dsimp only
    push_cast
    rw [civil]
    rfl

theorem unixMillisRfc3339I64_eq (millis : UInt64) :
    unixMillisRfc3339I64 millis = some (unixMillisRfc3339 millis) := by
  have small := millis.toNat_lt
  have fits : ((millis / 1000 / 86400).toNat : Int) = millis.toNat / 1000 / 86400 := by
    rw [UInt64.toNat_div, UInt64.toNat_div]
    rfl
  unfold unixMillisRfc3339I64 unixMillisRfc3339
  dsimp only
  rw [fits, if_pos (by unfold maxI64; omega), civilDateFromDaysI64_eq (by unfold minI64; omega)
    (by unfold maxI64; omega)]
  push_cast
  simp only [UInt64.toNat_div, UInt64.toNat_mod]
  rfl

theorem padded_natCast {width number : Nat} (some : 0 < width) (small : number < 10 ^ width) :
    (padded width number).toList = digits width number := by
  have decimal : (toString (number : Int)).toList = Nat.toDigits 10 number :=
    (congrArg String.toList Nat.toString_eq_repr).trans Nat.toList_repr
  rw [padded, String.toList_ofList, decimal, leftpad_toDigits some small]

/-- Texts of two moments before the year 10000 are in the order of the moments. -/
theorem rfc3339_lt_iff {moment other : Moment} (valid : moment.Valid) (valid' : other.Valid)
    (early : 0 ≤ moment.date.year ∧ moment.date.year < 10000)
    (early' : 0 ≤ other.date.year ∧ other.date.year < 10000) :
    rfc3339 moment < rfc3339 other ↔ moment.millis < other.millis := by
  have day := (valid.date.day_le.trans (Calendar.daysInMonth_le _ _)).trans_lt
    (show 31 < 10 ^ 2 by decide)
  have day' := (valid'.date.day_le.trans (Calendar.daysInMonth_le _ _)).trans_lt
    (show 31 < 10 ^ 2 by decide)
  have month := valid.date.month_le.trans_lt (show 12 < 10 ^ 2 by decide)
  have month' := valid'.date.month_le.trans_lt (show 12 < 10 ^ 2 by decide)
  have hour := valid.hour_lt.trans (show 24 < 10 ^ 2 by decide)
  have hour' := valid'.hour_lt.trans (show 24 < 10 ^ 2 by decide)
  have minute := valid.minute_lt.trans (show 60 < 10 ^ 2 by decide)
  have minute' := valid'.minute_lt.trans (show 60 < 10 ^ 2 by decide)
  have second := valid.second_lt.trans (show 60 < 10 ^ 2 by decide)
  have second' := valid'.second_lt.trans (show 60 < 10 ^ 2 by decide)
  have milli : moment.milli < 10 ^ 3 := valid.milli_lt
  have milli' : other.milli < 10 ^ 3 := valid'.milli_lt
  obtain ⟨year, isYear⟩ := Int.eq_ofNat_of_zero_le early.1
  obtain ⟨year', isYear'⟩ := Int.eq_ofNat_of_zero_le early'.1
  have fits : year < 10 ^ 4 := by
    rw [isYear] at early
    exact Int.ofNat_lt.mp early.2
  have fits' : year' < 10 ^ 4 := by
    rw [isYear'] at early'
    exact Int.ofNat_lt.mp early'.2
  rw [Moment.millis_lt_iff valid valid']
  change (rfc3339 moment).toList < (rfc3339 other).toList ↔ _
  unfold rfc3339
  rw [isYear, isYear']
  simp only [String.toList_append, List.append_assoc]
  rw [padded_natCast (by decide) fits, padded_natCast (by decide) fits',
    padded_natCast (by decide) month, padded_natCast (by decide) month',
    padded_natCast (by decide) day, padded_natCast (by decide) day',
    padded_natCast (by decide) hour, padded_natCast (by decide) hour',
    padded_natCast (by decide) minute, padded_natCast (by decide) minute',
    padded_natCast (by decide) second, padded_natCast (by decide) second',
    padded_natCast (by decide) milli, padded_natCast (by decide) milli',
    field_lt_iff fits fits', append_lt_append_left, field_lt_iff month month',
    append_lt_append_left, field_lt_iff day day', append_lt_append_left, field_lt_iff hour hour',
    append_lt_append_left, field_lt_iff minute minute', append_lt_append_left,
    field_lt_iff second second', append_lt_append_left, field_lt_iff milli milli']
  have before : moment.date < other.date ↔ moment.date.year < other.date.year ∨
      moment.date.year = other.date.year ∧ (moment.date.month < other.date.month ∨
        moment.date.month = other.date.month ∧ moment.date.day < other.date.day) := Iff.rfl
  rw [before, Calendar.Date.ext_iff, isYear, isYear']
  simp only [List.lt_irrefl, and_false, or_false]
  omega

/-- The order of dates as the computation gives them. -/
def Earlier (first second : Int × Int × Int) : Prop :=
  first.1 < second.1 ∨ first.1 = second.1 ∧ (first.2.1 < second.2.1 ∨
    first.2.1 = second.2.1 ∧ first.2.2 < second.2.2)

theorem earlier_triple_iff {first second : Date} :
    Earlier (triple first) (triple second) ↔ first < second := by
  change (_ ∨ _ ∧ (_ ∨ _ ∧ _)) ↔ (_ ∨ _ ∧ (_ ∨ _ ∧ _))
  simp only [triple, Int.ofNat_lt, Int.ofNat_inj]

theorem earlier_civilDateFromDays_iff (first second : Int) :
    Earlier (civilDateFromDays first) (civilDateFromDays second) ↔ first < second := by
  obtain ⟨date, valid, isDay, civil⟩ := civilDateFromDays_eq first
  obtain ⟨other, valid', isDay', civil'⟩ := civilDateFromDays_eq second
  rw [civil, civil', earlier_triple_iff, ← Calendar.dayNumber_lt_iff valid valid', isDay, isDay']

theorem civilDateFromDays_injective : Function.Injective civilDateFromDays := by
  intro first second same
  have notBefore := (earlier_civilDateFromDays_iff first second).not
  have notAfter := (earlier_civilDateFromDays_iff second first).not
  rw [same] at notBefore notAfter
  unfold Earlier at notBefore notAfter
  omega

/-- The year of an instant. -/
def yearOf (millis : UInt64) : Int := (civilDateFromDays (millis.toNat / 1000 / 86400)).1

theorem unixMillisRfc3339_lt_iff {first second : UInt64} (early : yearOf first < 10000)
    (early' : yearOf second < 10000) :
    unixMillisRfc3339 first < unixMillisRfc3339 second ↔ first < second := by
  obtain ⟨moment, valid, isMoment, printed, civil⟩ := unixMillisRfc3339_eq first
  obtain ⟨other, valid', isOther, printed', civil'⟩ := unixMillisRfc3339_eq second
  have late : ∀ {moment : Moment} {millis : Nat}, moment.Valid → moment.millis = millis →
      0 ≤ moment.date.year := by
    intro moment millis valid isMoment
    have since := @Calendar.year_le_of_dayNumber moment.date 1970 valid.date
    obtain ⟨-, hours, minutes, seconds, millis⟩ := valid
    unfold Moment.millis at isMoment
    have later := since (by omega)
    omega
  rw [yearOf, civil] at early
  rw [yearOf, civil'] at early'
  rw [printed, printed', rfc3339_lt_iff valid valid' ⟨late valid isMoment, early⟩
    ⟨late valid' isOther, early'⟩, isMoment, isOther, Int.ofNat_lt, UInt64.lt_iff_toNat_lt]

theorem unixMillisRfc3339_inj {first second : UInt64} (early : yearOf first < 10000)
    (early' : yearOf second < 10000) :
    unixMillisRfc3339 first = unixMillisRfc3339 second ↔ first = second := by
  refine ⟨fun same => ?_, congrArg _⟩
  have less := unixMillisRfc3339_lt_iff early early'
  have greater := unixMillisRfc3339_lt_iff early' early
  rw [same, iff_false_left (lt_irrefl _), UInt64.lt_iff_toNat_lt] at less greater
  exact UInt64.toNat_inj.mp (by omega)

/-- Days of `i64` to which the shift can be added. -/
def Shiftable (days : Int) : Prop := minI64 ≤ days ∧ days ≤ maxI64 - 719468

/-- No operation overflows, every instant is printed as the moment of the calendar that it is, a
day is given the only date of its number, and texts of years of four digits are in the order of the
instants. -/
theorem unixMillisRfc3339_exact :
    (∀ millis : UInt64, ∃ moment : Moment, moment.Valid ∧ moment.millis = millis.toNat ∧
      (∀ other : Moment, other.Valid → other.millis = millis.toNat → other = moment) ∧
      Shiftable (millis.toNat / 1000 / 86400) ∧
      civilDateFromDaysI64 (millis.toNat / 1000 / 86400) = some (triple moment.date) ∧
      unixMillisRfc3339I64 millis = some (rfc3339 moment)) ∧
    (∀ days, Shiftable days → ∃ date : Date, date.Valid ∧ dayNumber date = days ∧
      (∀ other : Date, other.Valid → dayNumber other = days → other = date) ∧
      civilDateFromDaysI64 days = some (triple date)) ∧
    (∀ first second date date', Shiftable first → Shiftable second →
      civilDateFromDaysI64 first = some date → civilDateFromDaysI64 second = some date' →
        (date = date' ↔ first = second) ∧ (Earlier date date' ↔ first < second)) ∧
    ∀ first second text text', yearOf first < 10000 → yearOf second < 10000 →
      unixMillisRfc3339I64 first = some text → unixMillisRfc3339I64 second = some text' →
        (text = text' ↔ first = second) ∧ (text < text' ↔ first < second) := by
  refine ⟨fun millis => ?_, fun days inRange => ?_, ?_, ?_⟩
  · obtain ⟨moment, valid, isMoment, printed, civil⟩ := unixMillisRfc3339_eq millis
    have small := millis.toNat_lt
    have inRange : Shiftable (millis.toNat / 1000 / 86400) := by
      unfold Shiftable minI64 maxI64
      omega
    refine ⟨moment, valid, isMoment, fun other valid' isOther => ?_, inRange, ?_, ?_⟩
    · exact Moment.millis_injective valid' valid (isOther.trans isMoment.symm)
    · rw [civilDateFromDaysI64_eq inRange.1 inRange.2, civil]
    · rw [unixMillisRfc3339I64_eq, printed]
  · obtain ⟨date, valid, isDay, civil⟩ := civilDateFromDays_eq days
    refine ⟨date, valid, isDay, fun other valid' isOther => ?_, ?_⟩
    · exact Calendar.dayNumber_injective valid' valid (isOther.trans isDay.symm)
    · rw [civilDateFromDaysI64_eq inRange.1 inRange.2, civil]
  · intro first second date date' inRange inRange' isDate isDate'
    rw [civilDateFromDaysI64_eq inRange.1 inRange.2, Option.some_inj] at isDate
    rw [civilDateFromDaysI64_eq inRange'.1 inRange'.2, Option.some_inj] at isDate'
    rw [← isDate, ← isDate']
    exact ⟨civilDateFromDays_injective.eq_iff, earlier_civilDateFromDays_iff first second⟩
  · intro first second text text' early early' isText isText'
    rw [unixMillisRfc3339I64_eq, Option.some_inj] at isText isText'
    rw [← isText, ← isText']
    exact ⟨unixMillisRfc3339_inj early early', unixMillisRfc3339_lt_iff early early'⟩

/-- Two instants, one of the year 1970 and one of the year 2026. -/
theorem unixMillisRfc3339_two : unixMillisRfc3339 0 < unixMillisRfc3339 1767225600123 :=
  (unixMillisRfc3339_exact.2.2.2 0 1767225600123 _ _ (by decide) (by decide)
    (unixMillisRfc3339I64_eq _) (unixMillisRfc3339I64_eq _)).2.mpr (by decide)

end WebGateway
end YunXi
