import Mathlib
import QueryFederation.Calendar.Date

/-! Dates come in the order of their days. A day is first placed in an era of four hundred years, then
in a year that begins in March, a month of that year and at last a day of the month; each of these
places grows with the day. -/
namespace QueryFederation.Calendar

section March

def yearOfEra (day : Int) : Int := (day - day / 1460 + day / 36524 - day / 146096) / 365

/- The first day of a year of the era. -/
def yearStart (year : Int) : Int := 365 * year + year / 4 - year / 100

def dayOfYear (day : Int) : Int := day - yearStart (yearOfEra day)

def monthOfYear (day : Int) : Int := (5 * day + 2) / 153

def dayOfMonth (day : Int) : Int := day - (153 * monthOfYear day + 2) / 5 + 1

theorem yearOfEraMono {a b : Int} (order : a ≤ b) : yearOfEra a ≤ yearOfEra b := by
  have quarters : a - a / 1460 ≤ b - b / 1460 := by omega
  have centuries : a / 36524 - a / 146096 ≤ b / 36524 - b / 146096 := by omega
  exact Int.ediv_le_ediv (by decide) (by omega)

theorem yearOfEraRange {day : Int} (least : 0 ≤ day) (greatest : day < 146097) :
    0 ≤ yearOfEra day ∧ yearOfEra day < 400 := by
  have low := yearOfEraMono least
  have high := yearOfEraMono (show day ≤ 146096 by omega)
  have first : yearOfEra 0 = 0 := by decide
  have last : yearOfEra 146096 = 399 := by decide
  omega

/- The year of the first and of the last day of each year; the days between have it too. -/
theorem yearEnds : ∀ year < 399, yearOfEra (yearStart ((year : Nat) + 1) - 1) = year ∧
    yearOfEra (yearStart ((year : Nat) + 1)) = year + 1 := by decide +kernel

theorem dayOfYearRange {day : Int} (least : 0 ≤ day) (greatest : day < 146097) :
    0 ≤ dayOfYear day ∧ dayOfYear day < 366 := by
  obtain ⟨first, last⟩ := yearOfEraRange least greatest
  obtain ⟨year, known⟩ := Int.eq_ofNat_of_zero_le first
  have started : yearStart year ≤ day := by
    by_contra early
    cases year with
    | zero => exact early least
    | succ before =>
      have ends := (yearEnds before (by omega)).1
      have order := yearOfEraMono (show day ≤ yearStart (before + 1) - 1 by push_cast at early; omega)
      push_cast at known
      omega
  have ended : day < yearStart year + 366 := by
    by_cases final : year = 399
    · have start : yearStart year = 145731 := by rw [final]; decide
      omega
    · by_contra late
      have begins := (yearEnds year (by omega)).2
      have next : yearStart (year + 1) ≤ yearStart year + 366 := by
        unfold yearStart
        omega
      have order := yearOfEraMono (show yearStart (year + 1) ≤ day by omega)
      omega
  rw [dayOfYear, known]
  omega

theorem monthOfYearRange {day : Int} (least : 0 ≤ day) (greatest : day < 366) :
    0 ≤ monthOfYear day ∧ monthOfYear day < 12 := by
  unfold monthOfYear
  omega

theorem dayOfMonthRange (day : Int) : 1 ≤ dayOfMonth day ∧ dayOfMonth day ≤ 31 := by
  unfold dayOfMonth monthOfYear
  omega

/- Two days of an era: in different years, in different months of one year, or in one month. -/
theorem placesGrow {a b : Int} (order : a < b) :
    yearOfEra a < yearOfEra b ∨ yearOfEra a = yearOfEra b ∧
      (monthOfYear (dayOfYear a) < monthOfYear (dayOfYear b) ∨
        monthOfYear (dayOfYear a) = monthOfYear (dayOfYear b) ∧
          dayOfMonth (dayOfYear a) < dayOfMonth (dayOfYear b)) := by
  rcases (yearOfEraMono order.le).lt_or_eq with years | years
  · exact .inl years
  refine .inr ⟨years, ?_⟩
  have days : dayOfYear a < dayOfYear b := by
    rw [dayOfYear, dayOfYear, years]
    omega
  have months : monthOfYear (dayOfYear a) ≤ monthOfYear (dayOfYear b) :=
    Int.ediv_le_ediv (by decide) (by omega)
  rcases months.lt_or_eq with months | months
  · exact .inl months
  · refine .inr ⟨months, ?_⟩
    rw [dayOfMonth, dayOfMonth, months]
    omega

end March

def eraDay (days : Int) : Int := (days + 719468) % 146097

theorem eraDayRange (days : Int) : 0 ≤ eraDay days ∧ eraDay days < 146097 :=
  ⟨Int.emod_nonneg _ (by decide), Int.emod_lt_of_pos _ (by decide)⟩

def marchYear (days : Int) : Int := yearOfEra (eraDay days) + (days + 719468) / 146097 * 400

def marchMonth (days : Int) : Int := monthOfYear (dayOfYear (eraDay days))

def marchDay (days : Int) : Int := dayOfMonth (dayOfYear (eraDay days))

theorem ofDaysEq (days : Int) : Date.ofDays days =
    { year := if marchMonth days < 10 then marchYear days else marchYear days + 1
      month := (if marchMonth days < 10 then marchMonth days + 3 else marchMonth days - 9).toNat
      day := (marchDay days).toNat } := rfl

theorem marchMonthRange (days : Int) : 0 ≤ marchMonth days ∧ marchMonth days < 12 := by
  obtain ⟨least, greatest⟩ := eraDayRange days
  obtain ⟨first, last⟩ := dayOfYearRange least greatest
  exact monthOfYearRange first last

theorem marchDayRange (days : Int) : 1 ≤ marchDay days ∧ marchDay days ≤ 31 := dayOfMonthRange _

theorem marchGrows {a b : Int} (order : a < b) :
    marchYear a < marchYear b ∨ marchYear a = marchYear b ∧
      (marchMonth a < marchMonth b ∨ marchMonth a = marchMonth b ∧ marchDay a < marchDay b) := by
  have early := yearOfEraRange (eraDayRange a).1 (eraDayRange a).2
  have late := yearOfEraRange (eraDayRange b).1 (eraDayRange b).2
  have eras : (a + 719468) / 146097 ≤ (b + 719468) / 146097 :=
    Int.ediv_le_ediv (by decide) (by omega)
  unfold marchYear
  rcases eras.lt_or_eq with eras | eras
  · exact .inl (by omega)
  · have days : eraDay a < eraDay b := by
      unfold eraDay
      omega
    rw [eras]
    rcases placesGrow days with years | ⟨years, rest⟩
    · exact .inl (by omega)
    · exact .inr ⟨by omega, rest⟩

def Date.Before (a b : Date) : Prop :=
  a.year < b.year ∨ a.year = b.year ∧
    (a.month < b.month ∨ a.month = b.month ∧ a.day < b.day)

theorem ofDaysGrows {a b : Int} (order : a < b) : (Date.ofDays a).Before (Date.ofDays b) := by
  have grows := marchGrows order
  have early := marchMonthRange a
  have late := marchMonthRange b
  have first := marchDayRange a
  have last := marchDayRange b
  simp only [Date.Before, ofDaysEq]
  split_ifs <;> omega

theorem ofDaysBefore {a b : Int} : (Date.ofDays a).Before (Date.ofDays b) ↔ a < b := by
  refine ⟨fun before => ?_, ofDaysGrows⟩
  rcases lt_trichotomy a b with order | same | order
  · exact order
  · rw [same] at before
    simp [Date.Before] at before
  · have after := ofDaysGrows order
    unfold Date.Before at before after
    omega

theorem ofDaysRange (days : Int) :
    (Date.ofDays days).month < 100 ∧ (Date.ofDays days).day < 100 := by
  have months := marchMonthRange days
  have days := marchDayRange days
  rw [ofDaysEq]
  dsimp only
  split_ifs <;> omega

end QueryFederation.Calendar
