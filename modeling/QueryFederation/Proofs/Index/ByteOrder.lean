import Mathlib
import QueryFederation.Index.Truth

/-! Terms are compared byte by byte. In UTF-8 this is the order of their characters, so that a range
admits the same terms either way. -/
namespace QueryFederation.Index

def bytes (s : String) : List UInt8 := s.toUTF8.data.toList

theorem bytesEq (s : String) : bytes s = s.toList.flatMap String.utf8EncodeChar := by
  have encoded : s.toByteArray = (s.toList.flatMap String.utf8EncodeChar).toByteArray := by
    conv_lhs => rw [← String.ofList_toList (s := s)]
    rw [String.toByteArray_ofList]
    rfl
  rw [bytes, String.toUTF8, encoded, List.toList_data_toByteArray]

theorem byteLt {n m : Nat} (left : n < 256) (right : m < 256) :
    UInt8.ofNat n < UInt8.ofNat m ↔ n < m := by
  rw [UInt8.lt_iff_toNat_lt, UInt8.toNat_ofNat_of_lt' left, UInt8.toNat_ofNat_of_lt' right]

theorem byteInj {n m : Nat} (left : n < 256) (right : m < 256) :
    UInt8.ofNat n = UInt8.ofNat m ↔ n = m := by
  rw [← UInt8.toNat_inj, UInt8.toNat_ofNat_of_lt' left, UInt8.toNat_ofNat_of_lt' right]

/- The bytes of a character are a head, which grows with their number, and digits of base 64. -/
theorem charBytesLt {c d : Char} (less : c < d) (left right : List UInt8) :
    String.utf8EncodeChar c ++ left < String.utf8EncodeChar d ++ right := by
  have order : c.val.toNat < d.val.toNat := UInt32.lt_iff_toNat_lt.mp (Char.lt_def.mp less)
  have top : d.val.toNat < 1114112 := by
    have valid := d.valid
    simp only [UInt32.isValidChar, Nat.isValidChar] at valid
    omega
  have twice : ∀ n : Nat, n / 4096 = n / 64 / 64 := by omega
  have thrice : ∀ n : Nat, n / 262144 = n / 64 / 64 / 64 := by omega
  unfold String.utf8EncodeChar
  generalize c.val.toNat = n at order ⊢
  generalize d.val.toNat = m at order top ⊢
  simp only [twice, thrice]
  -- one case for each number of bytes of either character
  split_ifs <;>
    simp (disch := omega) only [List.cons_append, List.nil_append, List.cons_lt_cons_iff, byteLt,
      byteInj] <;>
    omega

theorem charsBytesLt {cs ds : List Char} (less : cs < ds) :
    cs.flatMap String.utf8EncodeChar < ds.flatMap String.utf8EncodeChar := by
  induction List.lex_lt.mpr less with
  | @nil d rest =>
    have filled : 0 < (String.utf8EncodeChar d).length := by
      rw [String.length_utf8EncodeChar]
      exact Char.utf8Size_pos d
    obtain ⟨byte, others, known⟩ := List.exists_cons_of_length_pos filled
    rw [List.flatMap_nil, List.flatMap_cons, known]
    exact List.nil_lt_cons _ _
  | cons later ih =>
    rw [List.flatMap_cons, List.flatMap_cons]
    exact List.append_left_lt (ih (List.lex_lt.mp later))
  | rel first =>
    rw [List.flatMap_cons, List.flatMap_cons]
    exact charBytesLt first _ _

theorem bytesLt {s t : String} : bytes s < bytes t ↔ s < t := by
  rw [String.lt_iff_toList_lt, bytesEq, bytesEq]
  refine ⟨fun less => ?_, charsBytesLt⟩
  rcases lt_trichotomy s.toList t.toList with below | same | above
  · exact below
  · rw [same] at less
    exact absurd less (List.lt_irrefl _)
  · exact absurd less (List.lt_asymm (charsBytesLt above))

theorem bytesLe {s t : String} : bytes s ≤ bytes t ↔ s ≤ t := by
  rw [← List.not_lt, bytesLt, String.not_lt]

def Bound.StartsBefore (term : String) : Bound → Prop
  | .included least => bytes least ≤ bytes term
  | .excluded least => bytes least < bytes term
  | .unbounded => True

def Bound.EndsAfter (term : String) : Bound → Prop
  | .included greatest => bytes term ≤ bytes greatest
  | .excluded greatest => bytes term < bytes greatest
  | .unbounded => True

/- A term lies between two bounds if its bytes do. -/
def InByteRange (lower upper : Bound) (term : String) : Prop :=
  lower.StartsBefore term ∧ upper.EndsAfter term

theorem inByteRange {lower upper : Bound} {term : String} :
    InByteRange lower upper term ↔ inRange lower upper term = true := by
  have starts : lower.StartsBefore term ↔ lower.admitsFrom term = true := by
    cases lower <;> simp [Bound.StartsBefore, Bound.admitsFrom, bytesLt, bytesLe]
  have ends : upper.EndsAfter term ↔ upper.admitsTo term = true := by
    cases upper <;> simp [Bound.EndsAfter, Bound.admitsTo, bytesLt, bytesLe]
  rw [InByteRange, starts, ends, inRange, Bool.and_eq_true]

section OneSided
variable {limit term : String}

theorem inRangeBelow : InByteRange .unbounded (.excluded limit) term ↔ term < limit :=
  (iff_of_eq (true_and _)).trans bytesLt

theorem inRangeUpTo : InByteRange .unbounded (.included limit) term ↔ term ≤ limit :=
  (iff_of_eq (true_and _)).trans bytesLe

theorem inRangeAbove : InByteRange (.excluded limit) .unbounded term ↔ limit < term :=
  (iff_of_eq (and_true _)).trans bytesLt

theorem inRangeFrom : InByteRange (.included limit) .unbounded term ↔ limit ≤ term :=
  (iff_of_eq (and_true _)).trans bytesLe

end OneSided

end QueryFederation.Index
