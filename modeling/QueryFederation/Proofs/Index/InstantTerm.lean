import Mathlib
import QueryFederation.Index.Term
import QueryFederation.Proofs.Calendar.DateOrder
import QueryFederation.Proofs.Calendar.YearText

/-! Terms of instants against their milliseconds. Within a year every field of the term has one width
and the fields come in the order of their weight; between years the written year decides. -/
namespace QueryFederation.Calendar
open Number

/- A leap second has milliseconds of its own, after those of the second before it. -/
def Instant.millisecond (instant : Instant) : ℤ ×ₗ ℕ :=
  toLex (instant.seconds, instant.nanos / 1000000)

/- What the order of the fields relies on. -/
structure Instant.Valid (instant : Instant) : Prop where
  fits : instant.nanos < 2000000000
  minuteEnd : 1000000000 ≤ instant.nanos → instant.secondOfDay % 60 = 59

theorem validOfIsValid {instant : Instant} (valid : instant.isValid = true) : instant.Valid := by
  simp only [Instant.isValid, Bool.and_eq_true, decide_eq_true_eq, Bool.or_eq_true,
    Bool.not_eq_true', Instant.isLeap, decide_eq_false_iff_not, beq_iff_eq] at valid
  exact ⟨valid.1.2, fun leap => valid.2.resolve_left (not_not.mpr leap)⟩

theorem separatedLt {width n m : Nat} (left : n < 10 ^ width) (right : m < 10 ^ width) {c : Char}
    {us vs : List Char} :
    fixedDigits 10 width n ++ c :: us < fixedDigits 10 width m ++ c :: vs ↔
      n < m ∨ n = m ∧ us < vs := by
  rw [fixedFieldLt left right, List.cons_lt_cons_self]

def timeText (instant : Instant) : List Char := instant.writeTime .milliseconds ++ ['Z']

def afterYear (instant : Instant) : List Char :=
  '-' :: fixedDigits 10 2 instant.date.month ++
    '-' :: (fixedDigits 10 2 instant.date.day ++ 'T' :: timeText instant)

theorem writeSplit (instant : Instant) :
    instant.write .milliseconds = writeYear instant.date.year ++ afterYear instant := by
  simp [Instant.write, Date.write, afterYear, timeText]

/- The seconds of the last minute go up to 60. -/
def secondText (instant : Instant) : Nat :=
  instant.secondOfDay % 60 + (if instant.isLeap then 1 else 0)

theorem timeTextFields (instant : Instant) : timeText instant =
    fixedDigits 10 2 (instant.secondOfDay / 3600) ++ ':' ::
      (fixedDigits 10 2 (instant.secondOfDay / 60 % 60) ++ ':' ::
        (fixedDigits 10 2 (secondText instant) ++ '.' ::
          (fixedDigits 10 3 (instant.nanos % 1000000000 / 1000000) ++ ['Z']))) := by
  simp [timeText, Instant.writeTime, writeFraction, secondText]

theorem secondOfDayRange (instant : Instant) : instant.secondOfDay < 86400 := by
  unfold Instant.secondOfDay secondsPerDay
  omega

theorem secondTextEq (instant : Instant) : secondText instant =
    instant.secondOfDay % 60 + (if 1000000000 ≤ instant.nanos then 1 else 0) := by
  simp [secondText, Instant.isLeap]

/- A second and its fraction, with the second 60 counted as the fractions from 1000 on. -/
theorem leapLt {second other nanos rest : Nat} (minuteEnd : 1000000000 ≤ nanos → second = 59)
    (otherEnd : 1000000000 ≤ rest → other = 59) (small : second < 60) (little : other < 60)
    (fits : nanos < 2000000000) (restFits : rest < 2000000000) :
    second + (if 1000000000 ≤ nanos then 1 else 0) < other + (if 1000000000 ≤ rest then 1 else 0) ∨
        second + (if 1000000000 ≤ nanos then 1 else 0) =
            other + (if 1000000000 ≤ rest then 1 else 0) ∧
          nanos % 1000000000 / 1000000 < rest % 1000000000 / 1000000 ↔
      second < other ∨ second = other ∧ nanos / 1000000 < rest / 1000000 := by
  split_ifs <;> omega

section Two
variable {a b : Instant}

theorem timeTextLt (left : a.Valid) (right : b.Valid) : timeText a < timeText b ↔
    a.secondOfDay < b.secondOfDay ∨
      a.secondOfDay = b.secondOfDay ∧ a.nanos / 1000000 < b.nanos / 1000000 := by
  have early := secondOfDayRange a
  have late := secondOfDayRange b
  have seconds (instant : Instant) : secondText instant < 10 ^ 2 := by
    rw [secondTextEq]
    split_ifs <;> omega
  rw [timeTextFields, timeTextFields, separatedLt (by omega) (by omega),
    separatedLt (by omega) (by omega), separatedLt (seconds a) (seconds b),
    fixedFieldLt (by omega) (by omega), secondTextEq, secondTextEq]
  simp only [List.lt_irrefl, and_false, or_false]
  rw [leapLt left.minuteEnd right.minuteEnd (by omega) (by omega) left.fits right.fits]
  omega

theorem afterYearLt : afterYear a < afterYear b ↔
    a.date.month < b.date.month ∨ a.date.month = b.date.month ∧
      (a.date.day < b.date.day ∨ a.date.day = b.date.day ∧ timeText a < timeText b) := by
  have first := ofDaysRange a.day
  have last := ofDaysRange b.day
  rw [afterYear, afterYear, List.cons_append, List.cons_append, List.cons_lt_cons_self,
    separatedLt first.1 last.1, separatedLt first.2 last.2]

/- In one year the dates have the order of the days. -/
theorem sameYearDays (same : a.date.year = b.date.year) :
    (a.date.month < b.date.month ∨ a.date.month = b.date.month ∧ a.date.day < b.date.day ↔
      a.day < b.day) ∧
    (a.date.month = b.date.month ∧ a.date.day = b.date.day ↔ a.day = b.day) := by
  have below : a.date.Before b.date ↔ a.day < b.day := ofDaysBefore
  have above : b.date.Before a.date ↔ b.day < a.day := ofDaysBefore
  rw [Date.Before] at below above
  omega

theorem sinceDayStart (instant : Instant) :
    instant.seconds = instant.day * 86400 + instant.secondOfDay := by
  unfold Instant.day Instant.secondOfDay secondsPerDay
  omega

theorem millisecondLt : a.millisecond < b.millisecond ↔
    a.seconds < b.seconds ∨ a.seconds = b.seconds ∧ a.nanos / 1000000 < b.nanos / 1000000 :=
  Prod.Lex.toLex_lt_toLex

theorem textLt : a.text < b.text ↔ a.write .milliseconds < b.write .milliseconds := by
  rw [String.lt_iff_toList_lt]
  simp [Instant.text]

theorem sameYearLt (left : a.Valid) (right : b.Valid) (same : a.date.year = b.date.year) :
    a.text < b.text ↔ a.millisecond < b.millisecond := by
  have early := secondOfDayRange a
  have late := secondOfDayRange b
  have days := sameYearDays same
  have start := sinceDayStart a
  have begin := sinceDayStart b
  rw [textLt, writeSplit, writeSplit, same, appendLt rfl, afterYearLt, timeTextLt left right,
    millisecondLt]
  simp only [List.lt_irrefl, false_or, true_and]
  omega

theorem otherYearLt (differ : a.date.year ≠ b.date.year) :
    a.text < b.text ↔ YearBefore a.date.year b.date.year := by
  rw [textLt, writeSplit, writeSplit]
  exact yearTextLt differ

theorem otherYearMillisecond (differ : a.date.year ≠ b.date.year) :
    a.millisecond < b.millisecond ↔ a.date.year < b.date.year := by
  have early := secondOfDayRange a
  have late := secondOfDayRange b
  have start := sinceDayStart a
  have begin := sinceDayStart b
  have days : a.date.Before b.date ↔ a.day < b.day := ofDaysBefore
  rw [Date.Before] at days
  have apart : a.day ≠ b.day := fun same => differ (by rw [Instant.date, same]; rfl)
  rw [millisecondLt]
  omega

variable (left : a.Valid) (right : b.Valid)
include left right

theorem textInj : a.text = b.text ↔ a.millisecond = b.millisecond := by
  by_cases same : a.date.year = b.date.year
  · exact equalOfOrder (sameYearLt left right same) (sameYearLt right left (Eq.symm same))
  · have below := otherYearLt same
    have above := otherYearLt (Ne.symm same)
    have before := otherYearMillisecond same
    have after := otherYearMillisecond (Ne.symm same)
    refine iff_of_false (fun equal => ?_) (fun equal => ?_)
    · rw [equal] at below above
      rcases yearBeforeTotal same with first | last
      · exact lt_irrefl _ (below.mpr first)
      · exact lt_irrefl _ (above.mpr last)
    · rw [equal] at before after
      rcases lt_or_gt_of_ne same with first | last
      · exact lt_irrefl _ (before.mpr first)
      · exact lt_irrefl _ (after.mpr last)

theorem textInOrder : (a.text < b.text ↔ a.millisecond < b.millisecond) ↔
    WrittenInOrder a.date.year b.date.year := by
  by_cases same : a.date.year = b.date.year
  · exact iff_of_true (sameYearLt left right same) (.inl same)
  · rw [otherYearLt same, otherYearMillisecond same, WrittenInOrder, or_iff_right same]

end Two

end QueryFederation.Calendar
