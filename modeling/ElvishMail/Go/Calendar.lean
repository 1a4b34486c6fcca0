import Mathlib.Algebra.Group.Int.Defs
import Mathlib.Algebra.Group.Nat.Defs
import Mathlib.Data.Int.Basic

/-!
# Dates

`Date` and `AddDate` of Go's `time` in UTC, on days counted from 1 January 1970. Months
and days beyond their ranges carry over to the next year or month.
-/

namespace Go

def daysBefore (year : Int) : Int := 365 * year + year / 4 - year / 100 + year / 400

/-- `time.Date`: the day of a date. -/
def dayNumber (year month day : Int) : Int :=
  let months := month - 3
  daysBefore (year + months / 12) + (153 * (months % 12) + 2) / 5 + day - 719469

structure CivilDate where
  year : Int
  month : Int
  day : Int
deriving DecidableEq

/-- `Time.Date`: the date of a day. -/
def civilDate (number : Int) : CivilDate :=
  let shifted := number + 719468
  let era := shifted / 146097
  let dayOfEra := shifted % 146097
  let yearOfEra := (dayOfEra - dayOfEra / 1460 + dayOfEra / 36524 - dayOfEra / 146096) / 365
  let dayOfYear := dayOfEra - daysBefore yearOfEra
  -- months are counted from March, so that a leap day is the last of its year
  let months := (5 * dayOfYear + 2) / 153
  { year := era * 400 + yearOfEra + if months < 10 then 0 else 1
    month := if months < 10 then months + 3 else months - 9
    day := dayOfYear - (153 * months + 2) / 5 + 1 }

def addDate (number years months days : Int) : Int :=
  let date := civilDate number
  dayNumber (date.year + years) (date.month + months) (date.day + days)

theorem dayOfYear_bounds {dayOfEra : Int} (nonneg : 0 ≤ dayOfEra) (below : dayOfEra < 146097) :
    let yearOfEra := (dayOfEra - dayOfEra / 1460 + dayOfEra / 36524 - dayOfEra / 146096) / 365
    0 ≤ yearOfEra ∧ yearOfEra < 400 ∧ 0 ≤ dayOfEra - daysBefore yearOfEra ∧
      dayOfEra - daysBefore yearOfEra ≤ 365 := by
  dsimp only
  unfold daysBefore
  obtain last | early : dayOfEra = 146096 ∨ dayOfEra < 146096 := by omega
  · subst last
    decide
  have leap : dayOfEra / 146096 = 0 := by omega
  rw [leap]
  -- a century at a time, in which every fourth year is a leap year
  obtain century | century | century | century : dayOfEra / 36524 = 0 ∨ dayOfEra / 36524 = 1 ∨
      dayOfEra / 36524 = 2 ∨ dayOfEra / 36524 = 3 := by omega
  all_goals
    rw [century]
    generalize years : (dayOfEra - dayOfEra / 1460 + _ - 0) / 365 = year
    have same : year / 100 = dayOfEra / 36524 := by omega
    have within : year / 400 = 0 := by omega
    omega

theorem daysBefore_era (era year : Int) : daysBefore (era * 400 + year) = era * 146097 + daysBefore year := by
  unfold daysBefore
  omega

theorem dayNumber_civilDate (number : Int) :
    dayNumber (civilDate number).year (civilDate number).month (civilDate number).day = number := by
  have bounds := dayOfYear_bounds (Int.emod_nonneg (number + 719468) (by decide : (146097 : Int) ≠ 0))
    (Int.emod_lt_of_pos (number + 719468) (by decide))
  unfold civilDate dayNumber
  dsimp only at bounds ⊢
  generalize ((number + 719468) % 146097 - (number + 719468) % 146097 / 1460 +
    (number + 719468) % 146097 / 36524 - (number + 719468) % 146097 / 146096) / 365 = year at bounds ⊢
  generalize days : daysBefore year = before at bounds ⊢
  have era := daysBefore_era ((number + 719468) / 146097) year
  rw [days] at era
  split_ifs with early
  · have same : (number + 719468) / 146097 * 400 + year + 0 +
        ((5 * ((number + 719468) % 146097 - before) + 2) / 153 + 3 - 3) / 12 =
        (number + 719468) / 146097 * 400 + year := by omega
    rw [same, era]
    omega
  · have same : (number + 719468) / 146097 * 400 + year + 1 +
        ((5 * ((number + 719468) % 146097 - before) + 2) / 153 - 9 - 3) / 12 =
        (number + 719468) / 146097 * 400 + year := by omega
    rw [same, era]
    omega

theorem addDate_days (number days : Int) : addDate number 0 0 days = number + days := by
  have same := dayNumber_civilDate number
  unfold addDate
  dsimp only
  rw [Int.add_zero, Int.add_zero]
  unfold dayNumber at same ⊢
  dsimp only at same ⊢
  omega

theorem daysBefore_succ (year : Int) : daysBefore year + 365 ≤ daysBefore (year + 1) := by
  unfold daysBefore
  omega

theorem dayNumber_succ (year month day : Int) :
    dayNumber year month day + 28 ≤ dayNumber year (month + 1) day := by
  unfold dayNumber
  dsimp only
  obtain within | last : (month - 3) % 12 < 11 ∨ (month - 3) % 12 = 11 := by omega
  · have same : (month + 1 - 3) / 12 = (month - 3) / 12 := by omega
    have next : (month + 1 - 3) % 12 = (month - 3) % 12 + 1 := by omega
    rw [same, next]
    omega
  · have carried : (month + 1 - 3) / 12 = (month - 3) / 12 + 1 := by omega
    have first : (month + 1 - 3) % 12 = 0 := by omega
    have later := daysBefore_succ (year + (month - 3) / 12)
    rw [carried, first, last, ← Int.add_assoc]
    omega

theorem addDate_months (number : Int) (months : Nat) : number + 28 * months ≤ addDate number 0 months 0 := by
  have same := dayNumber_civilDate number
  unfold addDate
  dsimp only
  rw [Int.add_zero, Int.add_zero]
  induction months with
  | zero =>
    rw [Int.natCast_zero, Int.add_zero, same]
    omega
  | succ months ih =>
    have later := dayNumber_succ (civilDate number).year ((civilDate number).month + months)
      (civilDate number).day
    rw [Int.natCast_succ, ← Int.add_assoc]
    omega

end Go
