import Mathlib
import QueryFederation.Calendar.Reading
import QueryFederation.Proofs.Calendar.DateRoundTrip
import QueryFederation.Proofs.Index.InstantTerm
import QueryFederation.Proofs.Text.Takes

/-! Instants and dates that are read from what they are written as. The strict form has every field
in its place; what it does not take is tried as a date. -/
namespace QueryFederation.Calendar
open Number Text

/- The time of day as it is written, without what is less than a millisecond. -/
def Instant.clock (instant : Instant) : ClockTime :=
  ⟨instant.secondOfDay / 3600, instant.secondOfDay / 60 % 60, secondText instant,
    instant.nanos % 1000000000 / 1000000 * 1000000⟩

def Instant.inMilliseconds (instant : Instant) : Instant :=
  { instant with nanos := instant.nanos / 1000000 * 1000000 }

section Strict

theorem takesFraction {n : Nat} (fits : n < 1000) (rest : List Char) :
    scanOptionalFraction ('.' :: fixedDigits 10 3 n ++ 'Z' :: rest) =
      some (n * 1000000, 'Z' :: rest) := by
  have point : Scan.optionally ['.'] ('.' :: (fixedDigits 10 3 n ++ 'Z' :: rest)) =
      some (some '.', fixedDigits 10 3 n ++ 'Z' :: rest) := rfl
  have stops : ('Z' :: rest).takeWhile Char.isDigit = [] := rfl
  have digits : Scan.digits 1 (some 9) (fixedDigits 10 3 n ++ 'Z' :: rest) =
      some (fixedDigits 10 3 n, 'Z' :: rest) := digitsTaken (by decide) (.inr ⟨by decide, stops⟩)
  have skipped : Scan.skipWhile Char.isDigit ('Z' :: rest) = some ((), 'Z' :: rest) := rfl
  have scale : powerOfTen (9 - (fixedDigits 10 3 n).length) = 1000000 := by
    rw [lengthFixedDigits]
    rfl
  rw [scanOptionalFraction, List.cons_append, scanThen point]
  dsimp only
  rw [scanFraction, scanThen digits, scanThen skipped, ofDigitsFixedDigits fits, scale]
  rfl

theorem takesZulu (separator : Scan Unit) : Takes (scanOffset separator) ['Z'] 0 := fun _ => rfl

variable {instant : Instant}

theorem takesStrict (plain : instant.date.Plain) :
    Takes scanStrict (instant.write .milliseconds) (instant.date, instant.clock, 0) := by
  obtain ⟨least, greatest⟩ := plain
  have clock := secondOfDayRange instant
  have places := ofDaysRange instant.day
  have year : (instant.date.year.toNat : Int) = instant.date.year := Int.toNat_of_nonneg least
  have second : secondText instant < 10 ^ 2 := by
    rw [secondTextEq]
    split_ifs <;> omega
  rw [writeSplit, plainYear least greatest, afterYear, timeTextFields]
  unfold scanStrict
  refine takesBind (takesNumber le_rfl (by omega)) ?_
  refine takesChar (by decide) (takesBind (takesNumber le_rfl places.1) ?_)
  refine takesChar (by decide) (takesBind (takesNumber le_rfl places.2) ?_)
  refine takesChar (by decide) (takesBind (takesNumber le_rfl (by omega)) ?_)
  refine takesChar (by decide) (takesBind (takesNumber le_rfl (by omega)) ?_)
  refine takesChar (by decide) (takesBind (takesNumber le_rfl second) ?_)
  refine takesBefore (takesFraction (by omega)) (takesBind (takesZulu _) ?_)
  rw [year]
  exact takesPure _

theorem datesDays (valid : instant.isValid = true) : instant.date.days? = some instant.day := by
  have bounds : firstDay ≤ instant.day ∧ instant.day ≤ lastDay := by
    simp only [Instant.isValid, Bool.and_eq_true, decide_eq_true_eq] at valid
    exact valid.1.1
  have day : instant.date.toDays = instant.day := toDaysOfDays _
  have good : instant.date.isValid = true := ofDaysValid _
  simp [Date.days?, day, good, bounds]

theorem leapInMilliseconds (instant : Instant) :
    instant.inMilliseconds.isLeap = instant.isLeap := by
  have same : 1000000000 ≤ instant.nanos / 1000000 * 1000000 ↔ 1000000000 ≤ instant.nanos := by
    omega
  rw [Instant.isLeap, Instant.isLeap, Instant.inMilliseconds, decide_eq_decide]
  exact same

theorem inMillisecondsValid (valid : instant.isValid = true) :
    instant.inMilliseconds.isValid = true := by
  have fits : instant.nanos < 2000000000 → instant.nanos / 1000000 * 1000000 < 2000000000 := by
    omega
  rw [Instant.isValid, leapInMilliseconds]
  simp only [Instant.isValid, Bool.and_eq_true, decide_eq_true_eq] at valid ⊢
  exact ⟨⟨valid.1.1, fits valid.1.2⟩, valid.2⟩

/- The second 60 stands for the second before it, with a fraction of one second or more. -/
theorem secondRead (valid : instant.Valid) :
    secondText instant ≤ 60 ∧ min (secondText instant) 59 = instant.secondOfDay % 60 ∧
      instant.nanos % 1000000000 / 1000000 * 1000000 +
        (if secondText instant = 60 then 1000000000 else 0) = instant.nanos / 1000000 * 1000000 := by
  have fits := valid.fits
  have minuteEnd := valid.minuteEnd
  rw [secondTextEq]
  split_ifs <;> omega

theorem clockParts (seconds : Nat) :
    seconds / 3600 * 3600 + seconds / 60 % 60 * 60 + seconds % 60 = seconds := by omega

theorem assembled (valid : instant.isValid = true) :
    assemble? instant.date instant.clock 0 = some instant.inMilliseconds := by
  obtain ⟨most, second, nanos⟩ := secondRead (validOfIsValid valid)
  have range := secondOfDayRange instant
  have good : instant.clock.isValid = true := by
    have hour : instant.secondOfDay / 3600 ≤ 23 := by omega
    have minute : instant.secondOfDay / 60 % 60 ≤ 59 := by omega
    simp [ClockTime.isValid, Instant.clock, hour, minute, most]
  have clock : instant.clock.hour * 3600 + instant.clock.minute * 60 + min instant.clock.second 59 =
      instant.secondOfDay := by
    simp only [Instant.clock, second, clockParts]
  have start : instant.day * secondsPerDay + instant.secondOfDay - 0 = instant.seconds := by
    rw [sub_zero, secondsPerDay, ← sinceDayStart]
  have same : Instant.mk (instant.day * secondsPerDay + instant.secondOfDay - 0)
      (instant.clock.nanos + if instant.clock.second = 60 then 1000000000 else 0) =
        instant.inMilliseconds := by
    rw [start]
    exact congrArg (Instant.mk instant.seconds) nanos
  simp only [assemble?, datesDays valid, Option.bind_eq_bind, Option.bind_some, good, clock, same,
    inMillisecondsValid valid, guard]
  rfl

theorem readWritten (valid : instant.isValid = true) (plain : instant.date.Plain) :
    readStrict? (instant.write .milliseconds) = some instant.inMilliseconds := by
  rw [readStrict?, completeTakes (takesStrict plain)]
  exact assembled valid

end Strict

section Dates
variable {date : Date} {n : Nat}

theorem takesYear (fits : n < 10 ^ 4) : Takes scanYear (fixedDigits 10 4 n) n := by
  obtain ⟨c, digits, known, -, unsigned⟩ := digitHead 3 n
  intro rest
  have bare : Scan.optionally ['-', '+'] (fixedDigits 10 4 n ++ rest) =
      some (none, fixedDigits 10 4 n ++ rest) := by
    rw [known, List.cons_append, Scan.optionally, if_neg unsigned]
  rw [scanYear, scanThen bare]
  dsimp only
  exact scanThen (takesNumber (by decide) fits rest)

theorem takesPart (fits : n < 10 ^ 2) : Takes scanPart (fixedDigits 10 2 n) n := by
  have bare : Takes (Scan.number 1 (some 2)) (fixedDigits 10 2 n) n := takesNumber (by decide) fits
  rw [← List.append_nil (fixedDigits 10 2 n)] at bare ⊢
  exact takesAfterBlanks bare

theorem takesDate (days : Int) (plain : (Date.ofDays days).Plain) :
    Takes (scanDate (pure ())) (Date.ofDays days).write (Date.ofDays days) := by
  obtain ⟨least, greatest⟩ := plain
  have places := ofDaysRange days
  have year : ((Date.ofDays days).year.toNat : Int) = (Date.ofDays days).year :=
    Int.toNat_of_nonneg least
  rw [Date.write, plainYear least greatest, List.append_assoc]
  unfold scanDate
  refine takesAfterBlanks (takesBind (takesYear (by omega)) (takesNothing ?_))
  refine takesChar (by decide) (takesBind (takesPart places.1) (takesNothing ?_))
  refine takesChar (by decide) ?_
  rw [← List.append_nil (fixedDigits 10 2 (Date.ofDays days).day), year]
  exact takesBind (takesPart places.2) (takesPure _)

/- A date is no instant: nothing separates it from a time. -/
theorem strictRefuses (days : Int) (plain : (Date.ofDays days).Plain) :
    readStrict? (Date.ofDays days).write = none := by
  obtain ⟨least, greatest⟩ := plain
  have places := ofDaysRange days
  have fails : scanStrict (Date.ofDays days).write = none := by
    rw [Date.write, plainYear least greatest, List.append_assoc,
      ← List.append_nil (fixedDigits 10 2 (Date.ofDays days).day)]
    unfold scanStrict
    refine failsAfter (takesNumber le_rfl (by omega)) ?_
    refine failsChar (by decide) (failsAfter (takesNumber le_rfl places.1) ?_)
    refine failsChar (by decide) (failsAfter (takesNumber le_rfl places.2) ?_)
    exact scanFails rfl
  rw [readStrict?, Scan.complete?, fails]
  rfl

theorem readWrittenDate {instant : Instant} (valid : instant.isValid = true)
    (plain : instant.date.Plain) :
    readInstantOrDate? instant.date.write = some instant.midnight := by
  have day : instant.date.toDays = instant.day := toDaysOfDays _
  have whole : Scan.complete? (scanDate (pure ())) instant.date.write = some instant.date :=
    completeTakes (takesDate instant.day plain)
  have read : readDate? instant.date.write = some instant.date := by
    rw [readDate?, whole, Option.bind_eq_bind, Option.bind_some, datesDays valid]
    rfl
  have refused : readStrict? instant.date.write = none := strictRefuses instant.day plain
  rw [readInstantOrDate?, refused, read, Option.map_some, day]
  rfl

end Dates

end QueryFederation.Calendar
