import Mathlib
import QueryFederation.Proofs.Calendar.DateOrder

/-! Every day has a date of the calendar, and it is the day of that date. The months are counted
from March, so that the only one whose length depends on the year is the last. -/
namespace QueryFederation.Calendar

theorem leapYearIff {year : Int} : isLeapYear year = true ↔
    year % 4 = 0 ∧ (year % 100 ≠ 0 ∨ year % 400 = 0) := by
  simp [isLeapYear]

/- A year has a day 365 only if the February at its end is one of a leap year. -/
theorem lastDayLeap {day : Int} (least : 0 ≤ day) (greatest : day < 146097) (era : Int)
    (last : dayOfYear day = 365) : isLeapYear (yearOfEra day + era * 400 + 1) = true := by
  obtain ⟨first, before⟩ := yearOfEraRange least greatest
  obtain ⟨year, known⟩ := Int.eq_ofNat_of_zero_le first
  rw [leapYearIff]
  by_cases final : year = 399
  · omega
  · have begins := (yearEnds year (by omega)).2
    have ended : day < yearStart (year + 1) := by
      by_contra late
      have order := yearOfEraMono (not_lt.mp late)
      omega
    have long : yearStart (year + 1) - yearStart year = 366 := by
      unfold yearStart at ended begins ⊢
      rw [dayOfYear, known, yearStart] at last
      omega
    unfold yearStart at long
    have fourth : (year + 1) % 4 = 0 := by omega
    have ordinary : (year + 1) % 100 ≠ 0 := by omega
    omega

/- The lengths of the months, of which July and August are two long ones in a row. -/
def marchMonthLength (leap : Bool) (month : Int) : Int :=
  if month = 11 then (if leap then 29 else 28) else if month ∈ [1, 3, 6, 8] then 30 else 31

theorem dayOfMonthFits {day : Int} {leap : Bool} (least : 0 ≤ day) (greatest : day < 366)
    (last : day = 365 → leap = true) :
    dayOfMonth day ≤ marchMonthLength leap (monthOfYear day) := by
  have month : monthOfYear day = (5 * day + 2) / 153 := rfl
  rw [dayOfMonth, marchMonthLength]
  generalize monthOfYear day = month at *
  simp only [List.mem_cons, List.not_mem_nil, or_false]
  split_ifs with february leaping
  · omega
  · have before : day ≠ 365 := fun final => leaping (last final)
    omega
  · omega
  · omega

/- The number of a month that is counted from March. -/
def monthNumber (month : Int) : Nat := (if month < 10 then month + 3 else month - 9).toNat

theorem monthLengthEq (year : Int) {month : Int} (least : 0 ≤ month) (greatest : month < 12) :
    monthLength year (monthNumber month) = marchMonthLength (isLeapYear year) month := by
  obtain ⟨n, rfl⟩ := Int.eq_ofNat_of_zero_le least
  have small : n < 12 := by omega
  cases isLeap : isLeapYear year <;> interval_cases n <;>
    simp [monthNumber, monthLength, isLeap, marchMonthLength]

section Days
variable (days : Int)

theorem monthEq : (Date.ofDays days).month = monthNumber (marchMonth days) := rfl

theorem dayEq : ((Date.ofDays days).day : Int) = marchDay days :=
  Int.toNat_of_nonneg ((marchDayRange days).1.trans' (by decide))

theorem ofDaysMonth : 1 ≤ (Date.ofDays days).month ∧ (Date.ofDays days).month ≤ 12 := by
  have range := marchMonthRange days
  rw [monthEq, monthNumber]
  split_ifs <;> omega

theorem ofDaysDay : (Date.ofDays days).day ≤
    monthLength (Date.ofDays days).year (Date.ofDays days).month := by
  obtain ⟨least, greatest⟩ := eraDayRange days
  obtain ⟨first, last⟩ := dayOfYearRange least greatest
  have months := marchMonthRange days
  have leap (final : dayOfYear (eraDay days) = 365) :
      isLeapYear (Date.ofDays days).year = true := by
    have february : ¬ marchMonth days < 10 := by
      rw [marchMonth, monthOfYear, final]
      decide
    rw [ofDaysEq, if_neg february, marchYear]
    exact lastDayLeap least greatest _ final
  have fits : marchDay days ≤ _ := dayOfMonthFits first last leap
  have length := monthLengthEq (Date.ofDays days).year months.1 months.2
  have day := dayEq days
  rw [monthEq]
  rw [← marchMonth, ← length, ← day] at fits
  exact_mod_cast fits

theorem ofDaysValid : (Date.ofDays days).isValid = true := by
  have month := ofDaysMonth days
  have fits := ofDaysDay days
  have start := (marchDayRange days).1
  have day := dayEq days
  have first : 1 ≤ (Date.ofDays days).day := by omega
  simp [Date.isValid, month, first, fits]

/- The year and the month of a date are counted from March again. -/
theorem backToMarch :
    (if (Date.ofDays days).month ≤ 2 then (Date.ofDays days).year - 1
      else (Date.ofDays days).year) = marchYear days ∧
    (((Date.ofDays days).month : Int) + 9) % 12 = marchMonth days := by
  have range := marchMonthRange days
  rw [ofDaysEq]
  dsimp only
  split_ifs <;> omega

theorem toDaysOfDays : (Date.ofDays days).toDays = days := by
  obtain ⟨year, month⟩ := backToMarch days
  have years := yearOfEraRange (eraDayRange days).1 (eraDayRange days).2
  have era : marchYear days / 400 = (days + 719468) / 146097 := by
    rw [marchYear]
    omega
  have place : marchYear days % 400 = yearOfEra (eraDay days) := by
    rw [marchYear]
    omega
  have day : dayOfYear (eraDay days) = (153 * marchMonth days + 2) / 5 + marchDay days - 1 := by
    rw [marchDay, dayOfMonth, marchMonth]
    omega
  have whole : eraDay days = yearStart (yearOfEra (eraDay days)) + dayOfYear (eraDay days) := by
    rw [dayOfYear]
    omega
  have rest : eraDay days = (days + 719468) % 146097 := rfl
  rw [yearStart, day] at whole
  simp only [Date.toDays, year, month, era, place, dayEq]
  omega

end Days

end QueryFederation.Calendar
