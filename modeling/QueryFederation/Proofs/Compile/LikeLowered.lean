import Mathlib
import QueryFederation.Proofs.Compile.Leaves
import QueryFederation.Proofs.Compile.Shape
import QueryFederation.Proofs.Pattern.Lowered

/-! LIKE conditions on text. Their patterns are lowered as a whole, the terms of the index were
lowered word by word; whether a text that matches is still found depends on the capital sigmas in
the pattern, and on what a place for one character stands for. -/
namespace QueryFederation.Compile
open Request Schema Index Pattern

variable {context : Context} {property pattern : String} {field : ResolvedField} {negated : Bool}
  {query : Query}

theorem patternRead (pattern : String) :
    ofWildcard (Unicode.lowerText (likeToWildcard pattern)).toList =
      lowerPieces (ofLike pattern.toList) := by
  rw [Unicode.lowerText, String.toList_ofList, likeToWildcard, String.toList_ofList, readLowered]

theorem likeWildcards (names : context.Names property field)
    (lowered : field.analyzer.lowercases = true)
    (compiled : context.translate (.like property pattern negated) = .ok query)
    (name wildcard : String) :
    .wildcard name wildcard ∈ query.leaves ↔
      name ∈ field.fields ∧ wildcard = Unicode.lowerText (likeToWildcard pattern) := by
  obtain ⟨other, resolved, more⟩ := bindSucceeds.mp compiled
  cases names.symm.trans (resolveNames resolved)
  obtain ⟨like, liked, built⟩ := bindSucceeds.mp more
  cases likeAcross liked
  have across : .wildcard name wildcard ∈ (field.across (field.patternLeaf pattern).on).leaves ↔
      name ∈ field.fields ∧ wildcard = Unicode.lowerText (likeToWildcard pattern) := by
    rw [acrossLeaves, ResolvedField.patternLeaf, if_pos lowered]
    simp [Leaf.on, eq_comm]
  cases negated with
  | false =>
    cases built
    exact across
  | true =>
    cases built
    rw [if_pos rfl, withoutLeaves, ← across]
    simp

/- Whatever text a LIKE condition on text is asked of: if it matches, its lower case matches the
compiled pattern. So it is for exactly those patterns whose capital sigmas are settled by the
characters beside them, as long as no place for one character stands for a dotted capital I. -/
theorem likeLowered (names : context.Names property field)
    (textual : field.type = .text ∨ field.type = .mlText)
    (compiled : context.translate (.like property pattern negated) = .ok query) :
    (∀ name wildcard, .wildcard name wildcard ∈ query.leaves ↔
      name ∈ field.fields ∧ wildcard = Unicode.lowerText (likeToWildcard pattern)) ∧
    ((∀ s : String, MatchesSingly (ofLike pattern.toList) s.toList →
      ∀ name wildcard, .wildcard name wildcard ∈ query.leaves →
        Matches (ofWildcard wildcard.toList) (Unicode.lowerText s).toList) ↔
      SigmasSettled (ofLike pattern.toList)) := by
  have lowered : field.analyzer.lowercases = true := by
    rcases textual with text | text <;> rw [ResolvedField.analyzer, text] <;> rfl
  have wildcards := likeWildcards names lowered compiled
  refine ⟨wildcards, ?_⟩
  rw [← loweredExactly]
  constructor
  · intro every s matched
    obtain ⟨name, member⟩ := List.exists_mem_of_ne_nil _ (namesSomeField names)
    have found := every (String.ofList s) (by rwa [String.toList_ofList]) name _
      ((wildcards name _).mpr ⟨member, rfl⟩)
    rwa [patternRead, Unicode.lowerText, String.toList_ofList, String.toList_ofList] at found
  · intro every s matched name wildcard inside
    obtain ⟨-, rfl⟩ := (wildcards name wildcard).mp inside
    rw [patternRead, Unicode.lowerText, String.toList_ofList]
    exact every s.toList matched

def almanac : Context :=
  Context.new { properties := [(⟨"urn:c", "title"⟩, .mlText)] } { entries := [("c", "urn:c")] }
    .single {} .localeAndAll {}

def almanacTitle : ResolvedField :=
  ⟨some ⟨"urn:c", "title"⟩, ["@\x7burn:c\x7dtitle.en", "@\x7burn:c\x7dtitle"], .mlText⟩

def titlesLike (wildcard : String) : Query :=
  almanacTitle.across fun name => .wildcard name wildcard

theorem almanacTitles : almanac.Names "c:title" almanacTitle := by cbv

section Evaluation
set_option maxRecDepth 100000

theorem sigmaInside : SigmasSettled (ofLike "ΚΟΣΜ_%".toList) := by
  have read : ofLike "ΚΟΣΜ_%".toList =
      [.char 'Κ', .char 'Ο', .char 'Σ', .char 'Μ', .anyOne, .anyRun] := by cbv
  have letter : meetsCased? [.char 'Μ', .anyOne, .anyRun] = some true := by cbv
  rw [SigmasSettled, read]
  simp [settledCons, settledNil, letter, Settled.goesOn]

theorem kosmosLowered : Unicode.lowerText "ΚΟΣΜΟΣ" = "κοσμος" := by cbv

theorem kosmosFound :
    almanac.Names "c:title" almanacTitle ∧ almanacTitle.type = .mlText ∧
      almanac.translate (.like "c:title" "ΚΟΣΜ_%" false) = .ok (titlesLike "κοσμ?*") ∧
      SigmasSettled (ofLike "ΚΟΣΜ_%".toList) ∧
      MatchesSingly (ofLike "ΚΟΣΜ_%".toList) "ΚΟΣΜΟΣ".toList ∧
      Matches (ofWildcard "κοσμ?*".toList) "κοσμος".toList := by
  have compiled : almanac.translate (.like "c:title" "ΚΟΣΜ_%" false) =
      .ok (titlesLike "κοσμ?*") := by cbv
  have pattern : Unicode.lowerText (likeToWildcard "ΚΟΣΜ_%") = "κοσμ?*" := by cbv
  have matched : MatchesSingly (ofLike "ΚΟΣΜ_%".toList) "ΚΟΣΜΟΣ".toList :=
    .char _ (.char _ (.char _ (.char _ (.anyOne 'Ο' (by decide) (.anyRun ['Σ'] .nil)))))
  obtain ⟨wildcards, exactly⟩ := likeLowered almanacTitles (.inr rfl) compiled
  have inside := (wildcards "@\x7burn:c\x7dtitle" "κοσμ?*").mpr
    ⟨by simp [almanacTitle], pattern.symm⟩
  have found := exactly.mpr sigmaInside "ΚΟΣΜΟΣ" matched _ _ inside
  rw [kosmosLowered] at found
  exact ⟨almanacTitles, rfl, compiled, sigmaInside, matched, found⟩

/- A place for any run may stand for letters, a place for one character for two in lower case. -/
theorem wordsMissed :
    (almanac.translate (.like "c:title" "ΚΟΣ%" false) = .ok (titlesLike "κος*") ∧
      Matches (ofLike "ΚΟΣ%".toList) "ΚΟΣΜΟΣ".toList ∧
      ¬ Matches (ofWildcard "κος*".toList) (Unicode.lowerText "ΚΟΣΜΟΣ").toList) ∧
    (almanac.translate (.like "c:title" "_stanbul" false) = .ok (titlesLike "?stanbul") ∧
      Matches (ofLike "_stanbul".toList) "İstanbul".toList ∧
      ¬ Matches (ofWildcard "?stanbul".toList) (Unicode.lowerText "İstanbul").toList) := by
  have dotted : (Unicode.lowerText "İstanbul").toList =
    ['i', Char.ofNat 0x307, 's', 't', 'a', 'n', 'b', 'u', 'l'] := by cbv
  refine ⟨⟨by cbv, ?_, ?_⟩, by cbv, ?_, ?_⟩
  · exact .char _ (.char _ (.char _ (.anyRun ['Μ', 'Ο', 'Σ'] .nil)))
  · rw [kosmosLowered]
    simp [ofWildcard, matchesCharIff]
  · exact .anyOne _ (.char _ (.char _ (.char _ (.char _ (.char _ (.char _ (.char _ .nil)))))))
  · rw [dotted]
    simp [ofWildcard, matchesCharIff, matchesAnyOneIff]

end Evaluation

end QueryFederation.Compile
