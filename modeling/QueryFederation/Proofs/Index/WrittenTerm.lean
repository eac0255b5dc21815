import Mathlib
import QueryFederation.Proofs.Calendar.ReadBack
import QueryFederation.Proofs.Index.DayTerm

/-! Terms of instants and of days that are given as texts. The term of an instant is read as that
instant, but for less than a millisecond, and the text of a date as the first instant of the day. -/
namespace QueryFederation.Index
open Calendar Request

def dateText (date : Date) : String := String.ofList date.write

section Texts
variable {instant : Instant}

theorem inMillisecondsTime (instant : Instant) :
    instant.inMilliseconds.writeTime .milliseconds = instant.writeTime .milliseconds := by
  have same : instant.inMilliseconds.nanos % 1000000000 / 1000000 =
      instant.nanos % 1000000000 / 1000000 := by
    have nanos : instant.inMilliseconds.nanos = instant.nanos / 1000000 * 1000000 := rfl
    rw [nanos]
    omega
  rw [Instant.writeTime, Instant.writeTime, leapInMilliseconds, writeFraction, writeFraction, same]
  rfl

/- Nothing that is written is lost with what is less than a millisecond. -/
theorem inMillisecondsText (instant : Instant) : instant.inMilliseconds.text = instant.text := by
  rw [Instant.text, Instant.text, Instant.write, Instant.write, inMillisecondsTime]
  rfl

theorem instantOfText (valid : instant.isValid = true) (plain : instant.date.Plain) :
    instantOf? (.text (instantTerm instant)) = some instant.inMilliseconds := by
  rw [instantOf?, instantTerm, Instant.text, String.toList_ofList, readInstantOrDate?,
    readWritten valid plain]

theorem instantOfDate (valid : instant.isValid = true) (plain : instant.date.Plain) :
    instantOf? (.text (dateText instant.date)) = some instant.midnight := by
  rw [instantOf?, dateText, String.toList_ofList, readWrittenDate valid plain]

end Texts

section Literals
variable {value : Literal} {instant : Instant} (read : instantOf? value = some instant)
include read

theorem encodeInstant : encode .dateTime value = .ok (instantTerm instant) := by
  simp only [encode, read, orMismatch]
  rfl

theorem encodeDay : encode .date value = .ok (instantTerm instant.midnight) := by
  simp only [encode, read, orMismatch]
  rfl

end Literals

/- An instant, its own term and the text of its date, given as literals. -/
structure WrittenAlike (instant : Instant) : Prop where
  term : encode .dateTime (.text (instantTerm instant)) = .ok (instantTerm instant)
  day : ∃ term, encode .date (.instant instant) = .ok term ∧
    encode .date (.text (instantTerm instant)) = .ok term ∧
    encode .date (.text (dateText instant.date)) = .ok term ∧
    encode .dateTime (.text (dateText instant.date)) = .ok term

theorem instantsReadBack {instant : Instant} (valid : instant.isValid = true)
    (plain : instant.date.Plain) : WrittenAlike instant := by
  have read := instantOfText valid plain
  have readDate := instantOfDate valid plain
  have again : instant.midnight.midnight = instant.midnight := by
    rw [Instant.midnight, midnightDay, Instant.midnight]
  have day := encodeDay read
  refine ⟨?_, instantTerm instant.midnight, rfl, day, ?_, encodeInstant readDate⟩
  · rw [encodeInstant read, instantTerm, inMillisecondsText, instantTerm]
  · rw [encodeDay readDate, again]

/- The last leap second of a year, with a fraction that the term does not have. -/
def leapDayEnd : Instant := ⟨1483228799, 1999999999⟩

theorem leapSecondReadBack :
    leapDayEnd.isValid = true ∧ leapDayEnd.date.Plain ∧ WrittenAlike leapDayEnd ∧
      instantTerm leapDayEnd = "2016-12-31T23:59:60.999Z" ∧
      dateText leapDayEnd.date = "2016-12-31" := by
  have valid : leapDayEnd.isValid = true := by decide
  have plain : leapDayEnd.date.Plain := by decide
  exact ⟨valid, plain, instantsReadBack valid plain, by decide, by decide⟩

end QueryFederation.Index
