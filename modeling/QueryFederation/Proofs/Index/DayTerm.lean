import Mathlib
import QueryFederation.Proofs.Calendar.DateRoundTrip
import QueryFederation.Proofs.Index.ByteOrder
import QueryFederation.Proofs.Index.InstantTerm

/-! Terms of whole days. They are the terms of the midnights that the days begin with, and stand in
the order of the days as long as the years have four digits. -/
namespace QueryFederation.Index
open Calendar Number Request

/- The first instant of the day in which another one falls. -/
structure Opens (start instant : Instant) : Prop where
  sharp : start.nanos = 0
  whole : secondsPerDay ∣ start.seconds
  before : start.seconds ≤ instant.seconds
  within : instant.seconds < start.seconds + secondsPerDay

section Midnights
variable {v w : Instant}

theorem midnightSeconds (instant : Instant) : instant.midnight.seconds = instant.day * 86400 := rfl

theorem midnightNanos (instant : Instant) : instant.midnight.nanos = 0 := rfl

theorem opensMidnight (v start : Instant) : Opens start v ↔ start = v.midnight := by
  have since := sinceDayStart v
  have range := secondOfDayRange v
  have seconds := midnightSeconds v
  constructor
  · rintro ⟨sharp, ⟨days, whole⟩, before, within⟩
    have same : start.seconds = v.midnight.seconds := by
      unfold secondsPerDay at whole within
      omega
    cases start
    exact congr (congrArg Instant.mk same) sharp
  · rintro rfl
    refine ⟨midnightNanos v, ⟨v.day, seconds.trans (mul_comm _ _)⟩, by omega, ?_⟩
    unfold secondsPerDay
    omega

theorem midnightDay (instant : Instant) : instant.midnight.day = instant.day := by
  have seconds := midnightSeconds instant
  rw [Instant.day, secondsPerDay]
  omega

theorem midnightDate (instant : Instant) : instant.midnight.date = instant.date := by
  rw [Instant.date, midnightDay, Instant.date]

theorem midnightValid (instant : Instant) : instant.midnight.Valid := by
  have nanos := midnightNanos instant
  exact ⟨by omega, by omega⟩

theorem midnightBefore : v.midnight.millisecond < w.midnight.millisecond ↔ v.day < w.day := by
  rw [millisecondLt, midnightSeconds, midnightSeconds, midnightNanos, midnightNanos]
  omega

end Midnights

section Days
variable {v w : Instant}

theorem dateEq : v.date = w.date ↔ v.day = w.day := by
  refine ⟨fun same => ?_, congrArg Date.ofDays⟩
  rw [← toDaysOfDays v.day, ← toDaysOfDays w.day]
  exact congrArg Date.toDays same

theorem dateBefore : v.date.Before w.date ↔ v.day < w.day := ofDaysBefore

theorem dayTermLt (left : v.date.Plain) (right : w.date.Plain) :
    v.midnight.text < w.midnight.text ↔ v.day < w.day := by
  refine ((textInOrder (midnightValid v) (midnightValid w)).mpr ?_).trans midnightBefore
  rw [midnightDate, midnightDate]
  exact plainYearsInOrder left.2 right.2 (.inl left.1)

end Days

/- What the terms of two days are to each other. -/
structure DayTerms (v w : Instant) (left right : String) : Prop where
  coded : encode .date (.instant v) = .ok left ∧ encode .date (.instant w) = .ok right
  equal : left = right ↔ v.date = w.date
  earlier : bytes left < bytes right ↔ v.date.Before w.date
  opening : ∃ start, (∀ other, Opens other v ↔ other = start) ∧
    encode .dateTime (.instant start) = .ok left

theorem dayTermsInOrder {v w : Instant} (left : v.date.Plain) (right : w.date.Plain) :
    (v.date = w.date ↔ v.day = w.day) ∧ (v.date.Before w.date ↔ v.day < w.day) ∧
      ∃ first second, DayTerms v w first second := by
  refine ⟨dateEq, dateBefore, v.midnight.text, w.midnight.text, ⟨rfl, rfl⟩, ?_, ?_, ?_⟩
  · rw [dateEq]
    exact equalOfOrder (dayTermLt left right) (dayTermLt right left)
  · rw [bytesLt, dayTermLt left right, dateBefore]
  · exact ⟨v.midnight, opensMidnight v, rfl⟩

/- A leap second at the end of the day before the first one that is counted. -/
def sixtiesEnd : Instant := ⟨-1, 1500000000⟩

def seventiesBegin : Instant := ⟨0, 0⟩

theorem seventiesAfterSixties :
    sixtiesEnd.date.Plain ∧ seventiesBegin.date.Plain ∧
      ∃ first second, DayTerms sixtiesEnd seventiesBegin first second ∧
        first ≠ second ∧ bytes first < bytes second := by
  have left : sixtiesEnd.date.Plain := by decide
  have right : seventiesBegin.date.Plain := by decide
  obtain ⟨dates, order, first, second, terms⟩ := dayTermsInOrder left right
  have apart : sixtiesEnd.date ≠ seventiesBegin.date := by decide
  have before : sixtiesEnd.day < seventiesBegin.day := by decide
  exact ⟨left, right, first, second, terms, mt terms.equal.mp apart,
    terms.earlier.mpr (order.mpr before)⟩

end QueryFederation.Index
