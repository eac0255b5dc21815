import Mathlib
import QueryFederation.Proofs.Compile.OneTerm
import QueryFederation.Proofs.Index.InstantTerm

/-! Comparisons with an instant. Equality selects the instants of the same millisecond; the other
comparisons select by time if and only if the years of the two instants are written in order. -/
namespace QueryFederation.Compile
open Calendar Request Schema Index

section Instants
variable {context : Context} {property : String} {field : ResolvedField}

theorem compareInstant (names : context.Names property field) (temporal : field.type = .dateTime)
    {name : String} (only : field.fields = [name]) (value : Instant) (op : Comparison) :
    context.translate (.compare property op (.instant value)) =
      .ok (comparisonQuery name (instantTerm value) op) := by
  have encodes : Encodes field.type := by
    rw [temporal]
    exact ⟨rfl, rfl⟩
  have coded : encode field.type (.instant value) = .ok (instantTerm value) := by
    rw [temporal]
    rfl
  exact compareCoded names encodes only coded op

/- What comparing an instant that is stored with one that is asked for comes to. -/
structure InstantsCompared (context : Context) (property name : String) (asked stored : Instant) :
    Prop where
  equal : ∃ text, context.translate (.compare property .eq (.instant asked)) =
      .ok (.term name text) ∧ (text = instantTerm stored ↔ stored.millisecond = asked.millisecond)
  ordered : FindsBy context property (.instant asked) name (instantTerm stored)
      (·.Relates stored.millisecond asked.millisecond) ↔
    WrittenInOrder stored.date.year asked.date.year

theorem instantsCompared (names : context.Names property field)
    (temporal : field.type = .dateTime) {name : String} (only : field.fields = [name])
    {asked stored : Instant} (valid : asked.Valid) (storedValid : stored.Valid) :
    InstantsCompared context property name asked stored where
  equal := by
    refine ⟨_, compareInstant names temporal only asked .eq, ?_⟩
    exact eq_comm.trans (textInj storedValid valid)
  ordered := by
    have compiles := compareInstant names temporal only asked
    have equal : instantTerm stored = instantTerm asked ↔ _ := textInj storedValid valid
    exact (findsByBelow compiles equal).trans (textInOrder storedValid valid)

/- Whatever the two instants are. -/
theorem instantsSelected (names : context.Names property field)
    (temporal : field.type = .dateTime) :
    ∃ name, field.fields = [name] ∧ ∀ asked stored : Instant,
      asked.isValid = true → stored.isValid = true →
        InstantsCompared context property name asked stored := by
  obtain ⟨name, only⟩ := namesOneField names (by rw [temporal]; rfl)
  exact ⟨name, only, fun asked stored valid storedValid =>
    instantsCompared names temporal only (validOfIsValid valid) (validOfIsValid storedValid)⟩

end Instants

def events : Context :=
  Context.new { properties := [(⟨"urn:c", "at"⟩, .dateTime)] } { entries := [("c", "urn:c")] }
    .single {} .allOnly {}

def eventAtField : ResolvedField :=
  ⟨some ⟨"urn:c", "at"⟩, ["@\x7burn:c\x7dat"], .dateTime⟩

theorem eventsAt : events.Names "c:at" eventAtField := by cbv

/- The year 2017 began just after a leap second. -/
def yearBegins : Instant := ⟨1483228800, 0⟩

def leapSecond : Instant := ⟨1483228799, 1500000000⟩

theorem leapSecondSelected :
    events.Names "c:at" eventAtField ∧
      (yearBegins.isValid = true ∧ leapSecond.isValid = true) ∧
      InstantsCompared events "c:at" "@\x7burn:c\x7dat" yearBegins leapSecond := by
  obtain ⟨name, only, compared⟩ := instantsSelected eventsAt rfl
  cases only
  have valid : yearBegins.isValid = true ∧ leapSecond.isValid = true := by decide
  exact ⟨eventsAt, valid, compared _ _ valid.1 valid.2⟩

def lastOfFourDigits : Instant := ⟨253402300799, 999000000⟩

def firstOfFive : Instant := ⟨253402300800, 0⟩

/- The year 10000 is found among the instants before the end of the year 9999. -/
theorem firstOfFiveBelow :
    lastOfFourDigits.isValid = true ∧ firstOfFive.isValid = true ∧
      lastOfFourDigits.millisecond < firstOfFive.millisecond ∧
      events.translate (.compare "c:at" .lt (.instant lastOfFourDigits)) =
        .ok (.range "@\x7burn:c\x7dat" .unbounded (.excluded (instantTerm lastOfFourDigits))) ∧
      InByteRange .unbounded (.excluded (instantTerm lastOfFourDigits))
        (instantTerm firstOfFive) := by
  refine ⟨by decide, by decide, by decide, compareInstant eventsAt rfl rfl _ .lt, ?_⟩
  have year : firstOfFive.date.year = 10000 ∧ lastOfFourDigits.date.year = 9999 := by decide
  have before : firstOfFive.text < lastOfFourDigits.text := by
    rw [otherYearLt (by omega), year.1, year.2, YearBefore, if_pos (by decide)]
    exact fun far => absurd far (by decide)
  exact inRangeBelow.mpr before

end QueryFederation.Compile
