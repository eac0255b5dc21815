import Mathlib
import QueryFederation.Proofs.Schema.Spelling

/-! Qualified texts. The first closing brace ends the namespace, whatever it was meant for, so that
a name is read back from its text unless a brace or a line end stands where none is looked for. -/
namespace QueryFederation.Schema
open QualifiedName

/- The names that are read back from their texts. -/
def readBackNames : Set QualifiedName := {name | ofQualified name.text = .ok name}

section Reading
variable {s : String} {name : QualifiedName}

theorem memReadBack :
    name ∈ readBackNames ↔ '}' ∉ name.space.toList ∧ IsLine name.localName := by
  change ofQualified name.text = .ok name ↔ _
  rw [qualifiedIff, eq_self, and_true]

/- What is read is written in the same way. -/
theorem readQualified : ofQualified s = .ok name ↔ name ∈ readBackNames ∧ name.text = s := by
  rw [qualifiedIff, ← and_assoc, memReadBack, eq_comm]

theorem refusesOthers (other : s ∉ QualifiedName.text '' readBackNames) :
    ofQualified s = .error (.notQualified s) := by
  cases read : ofQualified s with
  | ok name =>
    have known := readQualified.mp read
    exact absurd ⟨name, known⟩ other
  | error fault =>
    unfold ofQualified at read
    split at read
    · contradiction
    · exact read.symm

end Reading

theorem readBackInj : Set.InjOn QualifiedName.text readBackNames := by
  intro a left b right same
  have first : ofQualified a.text = .ok a := left
  have second : ofQualified b.text = .ok b := right
  rw [same, second] at first
  exact (Except.ok.inj first).symm

/- Of the names just those are read back; of the texts just theirs are read. -/
theorem qualifiedTextsExact :
    (∀ name : QualifiedName, ofQualified name.text = .ok name ↔
      '}' ∉ name.space.toList ∧ name.localName ≠ "" ∧ '\n' ∉ name.localName.toList) ∧
    (∀ s name, ofQualified s = .ok name → name.text = s) ∧
    Set.InjOn QualifiedName.text readBackNames ∧
    ∀ s, (∃ name ∈ readBackNames, name.text = s ∧ ofQualified s = .ok name) ∨
      s ∉ QualifiedName.text '' readBackNames ∧ ofQualified s = .error (.notQualified s) := by
  refine ⟨fun name => ?_, fun s name read => (readQualified.mp read).2, readBackInj, fun s => ?_⟩
  · refine memReadBack.trans (and_congr_right fun _ => ?_)
    exact ⟨fun line => ⟨line.filled, line.oneLine⟩, fun parts => ⟨parts.1, parts.2⟩⟩
  · by_cases known : s ∈ QualifiedName.text '' readBackNames
    · obtain ⟨name, inside, same⟩ := known
      exact .inl ⟨name, inside, same, readQualified.mpr ⟨inside, same⟩⟩
    · exact .inr ⟨known, refusesOthers known⟩

/- A local name may have braces in it, and a namespace may have a line end. -/
def braced : QualifiedName := ⟨"urn:\x7bc\n", " \x7da\x7d: b "⟩

theorem bracedReadBack :
    ofQualified "\x7burn:\x7bc\n\x7d \x7da\x7d: b " = .ok braced ∧
      braced.text = "\x7burn:\x7bc\n\x7d \x7da\x7d: b " := by
  have read : ofQualified braced.text = .ok braced :=
    (qualifiedTextsExact.1 braced).mpr ⟨by decide, by decide, by decide⟩
  exact ⟨read, qualifiedTextsExact.2.1 _ braced read⟩

end QueryFederation.Schema
