import Mathlib
import QueryFederation.Proofs.Compile.Encoded
import QueryFederation.Proofs.Index.ByteOrder
import QueryFederation.Proofs.Number.FixedDigits

/-! Comparisons asked of an entity that has one term in a field. What the compiled query says of the
term is what the order of terms says of it and of the term of the literal. -/
namespace QueryFederation.Request

/- The comparison itself, in whichever order. -/
def Comparison.Relates {α : Type} [LT α] [LE α] : Comparison → α → α → Prop
  | .eq, a, b => a = b
  | .ne, a, b => a ≠ b
  | .lt, a, b => a < b
  | .le, a, b => a ≤ b
  | .gt, a, b => b < a
  | .ge, a, b => b ≤ a

section Orders
variable {α β : Type} [LinearOrder α] [LinearOrder β] {a b : α} {x y : β}

/- All comparisons agree as soon as the strict ones do. -/
theorem relatesSame :
    (∀ op : Comparison, op.Relates a b ↔ op.Relates x y) ↔ ((a < b ↔ x < y) ∧ (b < a ↔ y < x)) := by
  constructor
  · intro same
    exact ⟨same .lt, same .gt⟩
  · rintro ⟨below, above⟩
    have equal : a = b ↔ x = y := Number.equalOfOrder below above
    intro op
    cases op with
    | eq => exact equal
    | ne => exact not_congr equal
    | lt => exact below
    | le => rw [Comparison.Relates, Comparison.Relates, ← not_lt, ← not_lt, above]
    | gt => exact above
    | ge => rw [Comparison.Relates, Comparison.Relates, ← not_lt, ← not_lt, below]

/- Where equality is known to agree, one of the two is enough. -/
theorem relatesBelow (equal : a = b ↔ x = y) :
    (∀ op : Comparison, op.Relates a b ↔ op.Relates x y) ↔ (a < b ↔ x < y) := by
  rw [relatesSame]
  refine and_iff_left_of_imp fun below => ?_
  rw [← not_le, ← not_le, le_iff_lt_or_eq, le_iff_lt_or_eq, below, equal]

end Orders

end QueryFederation.Request

namespace QueryFederation.Index

/- What leaves are true of an entity with one term in a field, whatever it has in other fields. -/
structure OneTerm (truth : Query → Bool) (name term : String) : Prop where
  filled : truth (.present name) = true
  equal : ∀ text, truth (.term name text) = true ↔ text = term
  words : ∀ terms, truth (.phrase name terms) = true ↔ terms = [term]
  between : ∀ lower upper, truth (.range name lower upper) = true ↔ InByteRange lower upper term

/- An entity with nothing else. -/
def only (name term : String) : Query → Bool
  | .present field => decide (field = name)
  | .term field text => decide (field = name ∧ text = term)
  | .phrase field terms => decide (field = name ∧ terms = [term])
  | .range field lower upper => decide (field = name) && inRange lower upper term
  | _ => false

theorem onlyOneTerm (name term : String) : OneTerm (only name term) name term where
  filled := decide_eq_true rfl
  equal text := by simp [only]
  words terms := by simp [only]
  between lower upper := by simp [only, inByteRange]

end QueryFederation.Index

namespace QueryFederation.Compile
open Request Schema Index

theorem comparisonHolds {truth : Query → Bool} {name term : String}
    (one : OneTerm truth name term) (limit : String) (op : Comparison) :
    (comparisonQuery name limit op).holds truth = true ↔ op.Relates term limit := by
  have equal : truth (.term name limit) = true ↔ term = limit := (one.equal limit).trans eq_comm
  cases op with
  | eq => exact equal
  | ne =>
    rw [Comparison.Relates, ne_eq, ← equal]
    simp [comparisonQuery, Query.holds, Query.demandsHold, one.filled]
  | lt => exact (one.between _ _).trans inRangeBelow
  | le => exact (one.between _ _).trans inRangeUpTo
  | gt => exact (one.between _ _).trans inRangeAbove
  | ge => exact (one.between _ _).trans inRangeFrom

/- Whatever is asked of the property with the value, the term is found just where it is wanted. -/
def FindsBy (context : Context) (property : String) (value : Literal) (name term : String)
    (wanted : Comparison → Prop) : Prop :=
  ∀ op, ∃ query, context.translate (.compare property op value) = .ok query ∧
    ∀ truth, OneTerm truth name term → (query.holds truth = true ↔ wanted op)

section Finding
variable {context : Context} {property name term limit : String} {value : Literal}
  {wanted : Comparison → Prop}

/- Where one term stands for the value, the order of terms decides. -/
theorem findsByTerms
    (compiles : ∀ op, context.translate (.compare property op value) =
      .ok (comparisonQuery name limit op)) :
    FindsBy context property value name term wanted ↔
      ∀ op : Comparison, op.Relates term limit ↔ wanted op := by
  constructor
  · intro finds op
    obtain ⟨query, compiled, holds⟩ := finds op
    cases (compiles op).symm.trans compiled
    have one := onlyOneTerm name term
    exact (comparisonHolds one limit op).symm.trans (holds _ one)
  · intro decides op
    exact ⟨_, compiles op, fun truth one => (comparisonHolds one limit op).trans (decides op)⟩

section Ordered
variable {α : Type} [LinearOrder α] {a b : α}
  (compiles : ∀ op, context.translate (.compare property op value) =
    .ok (comparisonQuery name limit op))
include compiles

theorem findsByOrder :
    FindsBy context property value name term (·.Relates a b) ↔
      (term < limit ↔ a < b) ∧ (limit < term ↔ b < a) :=
  (findsByTerms compiles).trans relatesSame

theorem findsByBelow (equal : term = limit ↔ a = b) :
    FindsBy context property value name term (·.Relates a b) ↔ (term < limit ↔ a < b) :=
  (findsByTerms compiles).trans (relatesBelow equal)

end Ordered

end Finding

end QueryFederation.Compile
