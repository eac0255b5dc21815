import Mathlib
import QueryFederation.Proofs.Compile.Encoded
import QueryFederation.Proofs.Index.IntegerTerm

/-! Comparisons with an integer. The compiled query selects the term of a number if and only if the
number itself compares so with the literal. -/
namespace QueryFederation.Compile
open Number Request Schema Index

/- The numbers that literals stand for. Blanks around a text do not count. -/
inductive StandsFor : Literal → Int64 → Prop where
  | int (n : Int64) : StandsFor (.int n) n
  | text {s : String} {n : Int64} (written : Writes (Unicode.trim s.toList) n.toInt) :
      StandsFor (.text s) n
  | id {s : String} {n : Int64} (written : Writes (Unicode.trim s.toList) n.toInt) :
      StandsFor (.id s) n

theorem integerOfSome {value : Literal} {n : Int64} :
    integerOf? value = some n ↔ StandsFor value n := by
  constructor
  · intro found
    cases value with
    | int m =>
      cases found
      exact .int n
    | text s => exact .text (readInt64Some.mp found)
    | id s => exact .id (readInt64Some.mp found)
    | float | bool | instant => contradiction
  · intro stands
    cases stands with
    | int => rfl
    | text written => exact readInt64Some.mpr written
    | id written => exact readInt64Some.mpr written

/- The numbers of 32 bits. -/
def IntRange (n : Int64) : Prop := -2147483648 ≤ n.toInt ∧ n.toInt ≤ 2147483647

instance (n : Int64) : Decidable (IntRange n) := inferInstanceAs (Decidable (_ ∧ _))

theorem fitsIntTrue {n : Int64} : fitsInt n = true ↔ IntRange n := by
  have half : powerOfTwo 31 = 2147483648 := by decide
  rw [fitsInt, half, IntRange, Bool.and_eq_true, decide_eq_true_iff, decide_eq_true_iff]
  omega

def Accepts (type : DataType) (value : Literal) (n : Int64) : Prop :=
  StandsFor value n ∧ (type = .int → IntRange n)

theorem integralEncodes {type : DataType} (integral : type = .int ∨ type = .long) :
    Encodes type := by
  rcases integral with rfl | rfl
  · exact ⟨rfl, rfl⟩
  · exact ⟨rfl, rfl⟩

theorem mismatchPasses {α : Type} {found : Option α} {x : α} :
    orMismatch found = .ok x ↔ found = some x := by
  cases found <;> simp [orMismatch]

theorem encodeIntegral {type : DataType} (integral : type = .int ∨ type = .long) {value : Literal}
    {term : String} :
    encode type value = .ok term ↔ ∃ n, Accepts type value n ∧ longTerm n = term := by
  rcases integral with rfl | rfl
  · simp only [encode, bindSucceeds, mismatchPasses, integerOfSome, Accepts, ← fitsIntTrue,
      forall_const]
    refine exists_congr fun n => ?_
    cases fitsInt n <;> simp [pureSucceeds, throw, throwThe, MonadExceptOf.throw]
  · have free {P : Prop} : (DataType.long = .int → P) ↔ True := by simp
    rw [encode, bindSucceeds]
    simp only [mismatchPasses, integerOfSome, Accepts, pureSucceeds, free, and_true]

theorem encodeBeyond {value : Literal} {n : Int64} (stands : StandsFor value n)
    (beyond : ¬ IntRange n) : encode .int value = .error .outOfIntRange := by
  have unfit : fitsInt n = false := Bool.eq_false_iff.mpr fun fits => beyond (fitsIntTrue.mp fits)
  rw [encode, integerOfSome.mpr stands]
  simp [orMismatch, bind, Except.bind, unfit, throw, throwThe, MonadExceptOf.throw]

/- A comparison becomes a range that holds the terms of the wanted numbers and of no others. -/
def RangesOver (context : Context) (property name : String) (op : Comparison) (value : Literal)
    (wanted : Int → Prop) : Prop :=
  ∃ lower upper,
    context.translate (.compare property op value) = .ok (.range name lower upper) ∧
      ∀ m : Int64, InByteRange lower upper (longTerm m) ↔ wanted m.toInt

structure SelectsBy (context : Context) (property name : String) (value : Literal) (n : Int64) :
    Prop where
  equal : ∃ text, context.translate (.compare property .eq value) = .ok (.term name text) ∧
    ∀ m : Int64, text = longTerm m ↔ m = n
  less : RangesOver context property name .lt value (· < n.toInt)
  lessOrEqual : RangesOver context property name .le value (· ≤ n.toInt)
  greater : RangesOver context property name .gt value (· > n.toInt)
  greaterOrEqual : RangesOver context property name .ge value (· ≥ n.toInt)

theorem selectsTerms {context : Context} {property name : String} {value : Literal} {n : Int64}
    (compiles : ∀ op, context.translate (.compare property op value) =
      .ok (comparisonQuery name (longTerm n) op)) :
    SelectsBy context property name value n where
  equal := ⟨_, compiles .eq, fun _ => longTermInj.trans eq_comm⟩
  less := ⟨_, _, compiles .lt, fun _ => inRangeBelow.trans longTermLt⟩
  lessOrEqual := ⟨_, _, compiles .le, fun _ => inRangeUpTo.trans longTermLe⟩
  greater := ⟨_, _, compiles .gt, fun _ => inRangeAbove.trans longTermLt⟩
  greaterOrEqual := ⟨_, _, compiles .ge, fun _ => inRangeFrom.trans longTermLe⟩

/- Everything that comparisons with one property may come to, whatever the literal. -/
theorem integersSelected {context : Context} {property : String} {field : ResolvedField}
    (names : context.Names property field) (integral : field.type = .int ∨ field.type = .long) :
    ∃ name, field.fields = [name] ∧
      (∀ value n, Accepts field.type value n → SelectsBy context property name value n) ∧
      (∀ op value, (∃ query, context.translate (.compare property op value) = .ok query) ↔
        ∃ n, Accepts field.type value n) ∧
      (∀ op value n, field.type = .int → StandsFor value n → ¬ IntRange n →
        context.translate (.compare property op value) =
          .error (.node (.predicate (.compare property op value))
            (.encoding .int value .outOfIntRange))) ∧
      ∀ m : Int64, WrittenInFull m := by
  have encodes := integralEncodes integral
  obtain ⟨name, only⟩ := namesOneField names encodes.single
  refine ⟨name, only, fun value n accepted => ?_, fun op value => ?_,
    fun op value n int stands beyond => ?_, longTermInFull⟩
  · have coded := (encodeIntegral integral).mpr ⟨n, accepted, rfl⟩
    exact selectsTerms (compareCoded names encodes only coded)
  · rw [compareSucceeds names encodes op]
    simp only [encodeIntegral integral]
    exact ⟨fun ⟨_, n, accepted, _⟩ => ⟨n, accepted⟩, fun ⟨n, accepted⟩ => ⟨_, n, accepted, rfl⟩⟩
  · have refused := compareFaulty names encodes (int ▸ encodeBeyond stands beyond) op
    rwa [int] at refused

def sizes : Context :=
  Context.new { properties := [(⟨"urn:c", "size"⟩, .int)] } { entries := [("c", "urn:c")] }
    (.ofDomain "acme") {} .allOnly {}

def sizeField : ResolvedField :=
  ⟨some ⟨"urn:c", "size"⟩, ["@\x7burn:c\x7dsize"], .int⟩

/- A text with blanks is accepted, a number of more than 32 bits is not. -/
theorem sizesSelected :
    sizes.Names "c:size" sizeField ∧
      SelectsBy sizes "c:size" "@\x7burn:c\x7dsize" (.text " -5 ") (-5) ∧
      sizes.translate (.compare "c:size" .lt (.int 2147483648)) =
        .error (.node (.predicate (.compare "c:size" .lt (.int 2147483648)))
          (.encoding .int (.int 2147483648) .outOfIntRange)) := by
  have names : sizes.Names "c:size" sizeField := by cbv
  obtain ⟨name, only, selects, -, refuses, -⟩ := integersSelected names (.inl rfl)
  cases only
  have digits : Digits ['5'] := ⟨List.cons_ne_nil _ _, by simp⟩
  have trimmed : Unicode.trim " -5 ".toList = ['-', '5'] := by decide
  have stands : StandsFor (.text " -5 ") (-5) := .text (trimmed ▸ .minus digits)
  exact ⟨names, selects _ _ ⟨stands, fun _ => by decide⟩,
    refuses .lt _ _ rfl (.int 2147483648) (by decide)⟩

end QueryFederation.Compile
