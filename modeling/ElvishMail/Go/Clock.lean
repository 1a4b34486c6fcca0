import Mathlib.Tactic.Lift
import ElvishMail.Go.Calendar

/-!
# Dates in machine integers

`Date` and `AddDate` of Go's `time` as they compute. An `int` and an `int64` wrap around at
2^64, and so do the `uint64` in which the days before a year are counted. A `Time` holds the
seconds since the year 1; the hours of a day are not needed here. As long as the exact
seconds fit, the result is the exact one.
-/

namespace Go

/-- What an `int64` or an `int` holds of an integer. -/
def int64 (value : Int) : Int := Int.bmod value (2 ^ 64)

/-- What a `uint64` holds of an integer. -/
def uint64 (value : Int) : Int := value % 2 ^ 64

/-- An integer that an `int64` holds. -/
def IsInt64 (value : Int) : Prop := -2 ^ 63 ≤ value ∧ value < 2 ^ 63

instance (value : Int) : Decidable (IsInt64 value) := inferInstanceAs (Decidable (_ ∧ _))

theorem int64_eq {value : Int} (fits : IsInt64 value) : int64 value = value := by
  unfold IsInt64 at fits
  unfold int64
  rw [Int.bmod_def]
  omega

theorem int64_over {value : Int} (beyond : 2 ^ 63 ≤ value) (below : value < 2 ^ 63 + 2 ^ 64) :
    int64 value = value - 2 ^ 64 := by
  unfold int64
  rw [Int.bmod_def]
  omega

theorem int64_congr {value other : Int} (same : uint64 value = uint64 other) :
    int64 value = int64 other := by
  unfold uint64 at same
  unfold int64
  rw [Int.bmod_def, Int.bmod_def]
  omega

/-- `unixToInternal`: the seconds from the year 1 to 1970. -/
def unixToInternal : Int := 62135596800

/-- `absoluteYears`, a multiple of 400. -/
def absoluteYears : Int := 292277022400

/-- `absoluteToInternal`: minus the seconds before the year 1, from an absolute year that
begins in March. -/
def absoluteToInternal : Int := -(106751990354238 * 86400)

def dateToAbsDays (year month day : Int) : Int :=
  let janFeb := if month < 3 then 1 else 0
  let amonth := month + 12 * janFeb
  let y := uint64 (year - janFeb + absoluteYears)
  let ayday := (979 * amonth - 2919) / 32
  let century := y / 100
  let cyear := y % 100
  let cday := 1461 * cyear / 4
  let centurydays := uint64 (146097 * century) / 4
  uint64 (centurydays + (cday + ayday + day - 1))

/-- `time.Date` at midnight, for a month counted from zero; `norm` carries whole years. -/
def dateSeconds (year month day : Int) : Int :=
  int64 (dateToAbsDays (int64 (year + month / 12)) (month % 12 + 1) day * 86400 + absoluteToInternal)

/-- `Time.AddDate` on a day at midnight: the seconds of the result, as `Time` holds them. -/
def addDateSeconds (number years months days : Int) : Int :=
  let date := civilDate number
  dateSeconds (int64 (date.year + years)) (int64 (date.month + months - 1)) (int64 (date.day + days))

/-- The seconds of a day, as `Time` would have to hold them. -/
def daySeconds (number : Int) : Int := number * 86400 + unixToInternal

/-- A day that a `Time` can hold. -/
def IsDay (number : Int) : Prop := absoluteToInternal ≤ daySeconds number ∧ daySeconds number < 2 ^ 63

instance (number : Int) : Decidable (IsDay number) := inferInstanceAs (Decidable (_ ∧ _))

theorem daysBefore_centuries (year : Int) :
    146097 * (year / 100) / 4 + 1461 * (year % 100) / 4 = daysBefore year := by
  unfold daysBefore
  have leaps : year / 4 = 25 * (year / 100) + year % 100 / 4 := by omega
  have eras : year / 400 = year / 100 / 4 := by omega
  have centuries : 146097 * (year / 100) / 4 = 36524 * (year / 100) + year / 100 / 4 := by omega
  have years : 1461 * (year % 100) / 4 = 365 * (year % 100) + year % 100 / 4 := by omega
  rw [leaps, eras, centuries, years]
  omega

theorem marchDays {months : Int} (first : 0 ≤ months) (last : months < 12) :
    (979 * (months + 3) - 2919) / 32 = (153 * months + 2) / 5 := by
  have all : ∀ months : Fin 12,
      (979 * ((months : Int) + 3) - 2919) / 32 = (153 * (months : Int) + 2) / 5 := by decide
  lift months to Nat using first
  exact all ⟨months, by omega⟩

theorem daysBefore_absolute (year : Int) :
    daysBefore (year + absoluteYears) = daysBefore year + 106751990353932 := by
  have era := daysBefore_era 730692556 year
  unfold absoluteYears
  rw [Int.add_comm year, ← show (730692556 : Int) * 400 = 292277022400 by decide, era]
  omega

theorem dateToAbsDays_eq {year month day : Int} (first : 1 ≤ month) (last : month ≤ 12)
    (after : 0 ≤ year + (month - 3) / 12 + absoluteYears)
    (near : year + (month - 3) / 12 + absoluteYears < 2 ^ 50) :
    dateToAbsDays year month day = uint64 (dayNumber year month day + 106751990354238 + 719162) := by
  unfold dateToAbsDays
  dsimp only
  obtain ⟨janFeb, early⟩ : ∃ janFeb : Int, (if month < 3 then 1 else 0) = janFeb := ⟨_, rfl⟩
  rw [early]
  -- the year that begins in March
  have carried : year + (month - 3) / 12 = year - janFeb := by
    split at early <;> omega
  rw [carried] at after near
  have wide : uint64 (year - janFeb + absoluteYears) = year - janFeb + absoluteYears := by
    unfold uint64
    omega
  have centuries : uint64 (146097 * ((year - janFeb + absoluteYears) / 100)) =
      146097 * ((year - janFeb + absoluteYears) / 100) := by
    unfold uint64
    omega
  rw [wide, centuries]
  have days := daysBefore_centuries (year - janFeb + absoluteYears)
  rw [daysBefore_absolute] at days
  have shifted : month + 12 * janFeb = (month - 3) % 12 + 3 := by
    split at early <;> omega
  rw [shifted, marchDays (by omega) (by omega)]
  unfold dayNumber
  dsimp only
  rw [carried]
  congr 1
  omega

theorem dateSeconds_eq {year month day : Int} (within : IsInt64 (year + month / 12))
    (after : 0 ≤ year + (month - 2) / 12 + absoluteYears)
    (near : year + (month - 2) / 12 + absoluteYears < 2 ^ 50) :
    dateSeconds year month day = int64 (daySeconds (dayNumber year (month + 1) day)) := by
  have years : year + month / 12 + (month % 12 + 1 - 3) / 12 = year + (month - 2) / 12 := by omega
  have same : dayNumber (year + month / 12) (month % 12 + 1) day = dayNumber year (month + 1) day := by
    have months : (month + 1 - 3) % 12 = (month % 12 + 1 - 3) % 12 := by omega
    have shifted : month + 1 - 3 = month - 2 := by omega
    unfold dayNumber
    dsimp only
    rw [← months, years, shifted]
  unfold dateSeconds
  rw [int64_eq within, dateToAbsDays_eq (by omega) (by omega) (by omega) (by omega), same]
  apply int64_congr
  unfold uint64 absoluteToInternal daySeconds unixToInternal
  omega

theorem civilDate_bounds (number : Int) :
    1 ≤ (civilDate number).month ∧ (civilDate number).month ≤ 12 ∧
      1 ≤ (civilDate number).day ∧ (civilDate number).day ≤ 31 ∧
      400 * ((number + 719468) / 146097) ≤ (civilDate number).year + ((civilDate number).month - 3) / 12 ∧
      (civilDate number).year + ((civilDate number).month - 3) / 12 <
        400 * ((number + 719468) / 146097) + 400 := by
  have bounds := dayOfYear_bounds (Int.emod_nonneg (number + 719468) (by decide : (146097 : Int) ≠ 0))
    (Int.emod_lt_of_pos (number + 719468) (by decide))
  unfold civilDate
  dsimp only at bounds ⊢
  generalize ((number + 719468) % 146097 - (number + 719468) % 146097 / 1460 +
    (number + 719468) % 146097 / 36524 - (number + 719468) % 146097 / 146096) / 365 = year at bounds ⊢
  generalize (number + 719468) % 146097 - daysBefore year = dayOfYear at bounds ⊢
  split_ifs with early
  · omega
  · omega

theorem dayNumber_succ_le (year month day : Int) :
    dayNumber year (month + 1) day ≤ dayNumber year month day + 31 := by
  unfold dayNumber
  dsimp only
  obtain within | last : (month - 3) % 12 < 11 ∨ (month - 3) % 12 = 11 := by omega
  · have same : (month + 1 - 3) / 12 = (month - 3) / 12 := by omega
    have next : (month + 1 - 3) % 12 = (month - 3) % 12 + 1 := by omega
    rw [same, next]
    omega
  · have carried : (month + 1 - 3) / 12 = (month - 3) / 12 + 1 := by omega
    have first : (month + 1 - 3) % 12 = 0 := by omega
    rw [carried, first, last, ← Int.add_assoc]
    unfold daysBefore
    omega

theorem addDate_ge (number : Int) (months days : Nat) :
    number + 28 * months + days ≤ addDate number 0 months days := by
  have later := addDate_months number months
  have shifted : addDate number 0 months days = addDate number 0 months 0 + days := by
    unfold addDate dayNumber
    dsimp only
    omega
  omega

theorem addDateSeconds_eq {number : Int} {months days : Nat} (day : IsDay number)
    (below : daySeconds (addDate number 0 months days) < 2 ^ 64) :
    addDateSeconds number 0 months days = int64 (daySeconds (addDate number 0 months days)) := by
  have later := addDate_ge number months days
  obtain ⟨firstMonth, lastMonth, firstDay, lastDay, afterYear, beforeYear⟩ := civilDate_bounds number
  unfold IsDay daySeconds absoluteToInternal unixToInternal at day
  unfold daySeconds unixToInternal at below
  have fewMonths : (months : Int) < 2 ^ 50 := by omega
  have fewDays : (days : Int) < 2 ^ 50 := by omega
  unfold addDateSeconds
  dsimp only
  rw [Int.add_zero, int64_eq (by unfold IsInt64; omega), int64_eq (by unfold IsInt64; omega),
    int64_eq (by unfold IsInt64; omega), dateSeconds_eq]
  · unfold addDate
    dsimp only
    rw [Int.add_zero]
    congr 3
    omega
  · unfold IsInt64
    omega
  · unfold absoluteYears
    omega
  · unfold absoluteYears
    omega

end Go
