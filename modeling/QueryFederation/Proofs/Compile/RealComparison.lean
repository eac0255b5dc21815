import Mathlib
import QueryFederation.Proofs.Compile.IntegerComparison
import QueryFederation.Proofs.Compile.OneTerm
import QueryFederation.Proofs.Index.RealTerm

/-! Comparisons with a number that need not be whole. The terms are those of binary numbers, so that a
comparison with a literal is one with the binary number that is nearest to it, and one that tells the
zeros apart. -/
namespace QueryFederation.Compile
open Number Request Schema Index

/- The number that a literal stands for, after the binary number it is compared by. A text stands for
the binary number that it is read as. -/
inductive StandsForReal : Literal → Binary64 → WithBot (WithTop ℚ) → Prop where
  | float {x : Binary64} (number : x.isNaN = false) : StandsForReal (.float x) x x.value
  | int (z : Int64) : StandsForReal (.int z) (.ofInt z.toInt) ((z.toInt : ℚ) : WithTop ℚ)
  | text {s : String} {x : Binary64} (read : readBinary64? (Unicode.trim s.toList) = some x)
      (number : x.isNaN = false) : StandsForReal (.text s) x x.value
  | id {s : String} {x : Binary64} (read : readBinary64? (Unicode.trim s.toList) = some x)
      (number : x.isNaN = false) : StandsForReal (.id s) x x.value

theorem StandsForReal.nearest {value : Literal} {x : Binary64} {n : WithBot (WithTop ℚ)}
    (stands : StandsForReal value x n) : x.Nearest n := by
  cases stands with
  | float number | text _ number | id _ number => exact Binary64.selfNearest number
  | int z => exact Binary64.ofIntNearest z.toInt

theorem doubleOfSome {value : Literal} {x : Binary64} :
    doubleOf? value = some x ∧ x.isNaN = false ↔ ∃ n, StandsForReal value x n := by
  constructor
  · rintro ⟨found, number⟩
    cases value with
    | float y =>
      cases found
      exact ⟨_, .float number⟩
    | int z =>
      cases found
      exact ⟨_, .int z⟩
    | text s => exact ⟨_, .text found number⟩
    | id s => exact ⟨_, .id found number⟩
    | bool | instant => contradiction
  · rintro ⟨n, stands⟩
    refine ⟨?_, stands.nearest.number⟩
    cases stands with
    | float | int => rfl
    | text read | id read => exact read

theorem realEncodes {type : DataType} (real : type = .float ∨ type = .double) : Encodes type := by
  rcases real with rfl | rfl
  · exact ⟨rfl, rfl⟩
  · exact ⟨rfl, rfl⟩

theorem encodeReal {type : DataType} (real : type = .float ∨ type = .double) {value : Literal}
    {term : String} :
    encode type value = .ok term ↔ ∃ x n, StandsForReal value x n ∧ doubleTerm x = term := by
  have coded : encode type value = .ok term ↔
      ∃ x, doubleOf? value = some x ∧ x.isNaN = false ∧ doubleTerm x = term := by
    rcases real with rfl | rfl <;>
      simp only [encode, bindSucceeds, mismatchPasses] <;>
      refine exists_congr fun x => and_congr_right fun _ => ?_ <;>
      cases x.isNaN <;> simp [pureSucceeds, throw, throwThe, MonadExceptOf.throw]
  rw [coded]
  refine exists_congr fun x => ?_
  rw [← and_assoc, doubleOfSome, exists_and_right]

/- What comparing a stored number with a literal comes to. -/
structure RealsCompared (context : Context) (property name : String) (value : Literal)
    (x : Binary64) (n : WithBot (WithTop ℚ)) (stored : Binary64) : Prop where
  ranked : FindsBy context property value name (doubleTerm stored) (·.Relates (rank stored) (rank x))
  ordered : FindsBy context property value name (doubleTerm stored) (·.Relates stored.value n) ↔
    (stored.value = x.value → stored = x ∧ x.value = n)

theorem realsCompared {context : Context} {property name : String} {value : Literal}
    {x : Binary64} {n : WithBot (WithTop ℚ)} (stands : StandsForReal value x n)
    (compiles : ∀ op, context.translate (.compare property op value) =
      .ok (comparisonQuery name (doubleTerm x) op))
    {stored : Binary64} (number : stored.isNaN = false) :
    RealsCompared context property name value x n stored where
  ranked := by
    have near := stands.nearest
    rw [findsByOrder compiles]
    exact ⟨doubleTermRank number near.number, doubleTermRank near.number number⟩
  ordered := by
    rw [findsByOrder compiles]
    exact nearestTerms stands.nearest number

/- Everything that comparisons with one property may come to, whatever the literal. -/
theorem realsSelected {context : Context} {property : String} {field : ResolvedField}
    (names : context.Names property field) (real : field.type = .float ∨ field.type = .double) :
    ∃ name, field.fields = [name] ∧
      (∀ op value, (∃ query, context.translate (.compare property op value) = .ok query) ↔
        ∃ x n, StandsForReal value x n) ∧
      ∀ value x n, StandsForReal value x n → ∀ stored : Binary64, stored.isNaN = false →
        RealsCompared context property name value x n stored := by
  have encodes := realEncodes real
  obtain ⟨name, only⟩ := namesOneField names encodes.single
  refine ⟨name, only, fun op value => ?_, fun value x n stands stored number => ?_⟩
  · rw [compareSucceeds names encodes op]
    simp only [encodeReal real]
    exact ⟨fun ⟨_, x, n, stands, _⟩ => ⟨x, n, stands⟩, fun ⟨x, n, stands⟩ => ⟨_, x, n, stands, rfl⟩⟩
  · have coded := (encodeReal real).mpr ⟨x, n, stands, rfl⟩
    exact realsCompared stands (compareCoded names encodes only coded) number

def ratings : Context :=
  Context.new { properties := [(⟨"urn:c", "rating"⟩, .double)] } { entries := [("c", "urn:c")] }
    .single {} .allOnly {}

def ratingField : ResolvedField :=
  ⟨some ⟨"urn:c", "rating"⟩, ["@\x7burn:c\x7drating"], .double⟩

theorem ratingsRating : ratings.Names "c:rating" ratingField := by cbv

/- The number 2.5, stored where 3 is asked for. -/
theorem ratingCompared :
    ratings.Names "c:rating" ratingField ∧
      (ratingField.type = .float ∨ ratingField.type = .double) ∧
      RealsCompared ratings "c:rating" "@\x7burn:c\x7drating" (.int 3) (.ofInt 3) (3 : ℚ)
        ⟨0x4004000000000000⟩ := by
  obtain ⟨name, only, -, compared⟩ := realsSelected ratingsRating (.inr rfl)
  cases only
  exact ⟨ratingsRating, .inr rfl, compared _ _ _ (.int 3) ⟨0x4004000000000000⟩ (by decide)⟩

def positiveZero : Binary64 := ⟨0⟩

def negativeZero : Binary64 := ⟨0x8000000000000000⟩

def doublePower53 : Binary64 := ⟨0x4340000000000000⟩

/- Equality with zero does not find the negative zero, and equality with the whole number above
9007199254740992 finds this number instead. -/
theorem equalityMistaken :
    (negativeZero.value = positiveZero.value ∧
      ratings.translate (.compare "c:rating" .eq (.float positiveZero)) =
        .ok (.term "@\x7burn:c\x7drating" (doubleTerm positiveZero)) ∧
      doubleTerm negativeZero ≠ doubleTerm positiveZero) ∧
    doublePower53.value < ((9007199254740993 : ℚ) : WithTop ℚ) ∧
      ratings.translate (.compare "c:rating" .eq (.int 9007199254740993)) =
        .ok (.term "@\x7burn:c\x7drating" (doubleTerm doublePower53)) := by
  have compiles {value : Literal} {x : Binary64} {n : WithBot (WithTop ℚ)}
      (stands : StandsForReal value x n) :
      ratings.translate (.compare "c:rating" .eq value) =
        .ok (.term "@\x7burn:c\x7drating" (doubleTerm x)) :=
    compareCoded ratingsRating (realEncodes (.inr rfl)) rfl
      ((encodeReal (.inr rfl)).mpr ⟨x, n, stands, rfl⟩) .eq
  have rounded : Binary64.ofInt 9007199254740993 = doublePower53 := by decide
  have decoded : Format.double.decode doublePower53.magnitude = ⟨4503599627370496, 1⟩ := by decide
  have value : doublePower53.value = ((9007199254740992 : ℚ) : WithTop ℚ) := by
    rw [Binary64.value, if_pos (by decide), if_neg (by decide), Format.exact, decoded]
    norm_num
  refine ⟨⟨?_, compiles (.float (by decide)), ?_⟩, ?_, ?_⟩
  · rw [Binary64.valueInj (by decide) (by decide)]
    decide
  · rw [ne_eq, doubleTermInj]
    decide
  · rw [value]
    exact WithBot.coe_lt_coe.mpr (WithTop.coe_lt_coe.mpr (by norm_num))
  · rw [← rounded]
    exact compiles (.int 9007199254740993)

end QueryFederation.Compile
