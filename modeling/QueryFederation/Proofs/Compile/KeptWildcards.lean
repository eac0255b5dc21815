import Mathlib
import QueryFederation.Proofs.Compile.FullTextAgreement
import QueryFederation.Proofs.Text.WildcardPlaces

/-! Wildcards in full text. A wildcard is found in one token, whose word is looked for as a pattern,
unless a mark attaches to it. Then it is dropped, and what is left is looked for as it is. -/
namespace QueryFederation.Compile
open Request Schema Index Pattern Text

theorem expressionTokens {text : String} {token : Token} {type : DataType}
    (textual : type.isTextual = true) (known : token ∈ Tokenizer.wildcards.tokenize text) :
    Unicode.lowerText token.text ∈ (Context.expressionAnalyzer type).terms text := by
  rw [Context.expressionAnalyzer, if_pos textual]
  exact List.mem_map.mpr ⟨token.lowered, List.mem_map_of_mem known, rfl⟩

theorem wildWordSought {context : Context} {field : ResolvedField} {text word : String}
    {node : Predicate} {query : Query} (ok : context.fullText field text node = .ok query)
    (inside : word ∈ (Context.expressionAnalyzer field.type).terms text)
    (wild : hasWildcard word = true) :
    ∀ name ∈ field.fields, .wildcard name word ∈ query.leaves := by
  intro name member
  rw [fullTextWordLeaves ok]
  refine List.mem_flatMap.mpr ⟨word, inside, List.mem_map.mpr ⟨name, member, ?_⟩⟩
  rw [wordLeaf, if_pos wild, Leaf.on]

/- Every field of the property is searched for the pattern that a wildcard stands in. -/
def SoughtAsPattern (text pattern : String) : Prop :=
  ∀ (context : Context) (property : Option String) (field : ResolvedField) (query : Query),
    context.Names (property.getD context.parameters.defaultField) field →
    field.type.isTextual = true →
    context.translate (.fullText property text) = .ok query →
    ∀ name ∈ field.fields, .wildcard name pattern ∈ query.leaves

/- A wildcard is in exactly one token, whose word is then looked for as a pattern, or in none where a
mark attaches to it. -/
theorem wildcardsKept {text : String} {front back : List Char} {w : Char}
    (wild : isWild w = true) (split : text.toList = front ++ w :: back) :
    ((∃! token, token ∈ Tokenizer.wildcards.tokenize text ∧ token.Holds (byteLength front)) ↔
      Stays back) ∧
    (∀ token ∈ Tokenizer.wildcards.tokenize text, token.Holds (byteLength front) →
      Stays back ∧ w ∈ token.text.toList ∧
        SoughtAsPattern text (Unicode.lowerText token.text)) := by
  have held := wildHeld wild split
  refine ⟨?_, fun token known holds => ⟨held.mp ⟨token, known, holds⟩, ?_, ?_⟩⟩
  · rw [← held]
    constructor
    · rintro ⟨token, found, -⟩
      exact ⟨token, found⟩
    · rintro ⟨token, known, holds⟩
      exact ⟨token, ⟨known, holds⟩, fun other found => heldOnce found.1 known found.2 holds⟩
  · exact wildInText wild split known holds
  · intro context property field query names textual ok
    rw [translateExpression property names] at ok
    exact wildWordSought ok (expressionTokens textual known)
      (loweredWild wild (wildInText wild split known holds))

def patterned (pattern : String) : Query := depotTitle.across fun name => .wildcard name pattern

theorem depotNamesTitle : depot.Names "c:title" depotTitle := by cbv

theorem reportKept :
    "A Rep*rt".toList = "A Rep".toList ++ '*' :: ['r', 't'] ∧
      depot.translate (.fullText (some "c:title") "A Rep*rt") =
        .ok (.boolean [(.must, titled "a"), (.must, patterned "rep*rt")] 0) ∧
      (∃! token, token ∈ Tokenizer.wildcards.tokenize "A Rep*rt" ∧ token.Holds 5) ∧
      (⟨"Rep*rt", 1, 2, 8⟩ : Token) ∈ Tokenizer.wildcards.tokenize "A Rep*rt" ∧
      ∀ name ∈ depotTitle.fields, .wildcard name "rep*rt" ∈
        (Query.boolean [(.must, titled "a"), (.must, patterned "rep*rt")] 0).leaves := by
  have split : "A Rep*rt".toList = "A Rep".toList ++ '*' :: ['r', 't'] := by decide
  have terms : (Context.expressionAnalyzer depotTitle.type).terms "A Rep*rt" =
      ["a", "rep*rt"] := by decide +kernel
  have translated : depot.translate (.fullText (some "c:title") "A Rep*rt") =
      .ok (.boolean [(.must, titled "a"), (.must, patterned "rep*rt")] 0) := by
    rw [translateFullText depotNamesTitle, Context.fullText, terms]
    rfl
  have tokens : (⟨"Rep*rt", 1, 2, 8⟩ : Token) ∈ Tokenizer.wildcards.tokenize "A Rep*rt" := by
    decide +kernel
  have lowered : Unicode.lowerText "Rep*rt" = "rep*rt" := by decide +kernel
  have wild : isWild '*' = true := rfl
  have place : byteLength "A Rep".toList = 5 := by decide
  have stays : Stays ['r', 't'] := staysBefore (by decide)
  have kept := wildcardsKept wild split
  rw [place] at kept
  obtain ⟨-, -, pattern⟩ := kept.2 _ tokens ⟨by decide, by decide⟩
  rw [lowered] at pattern
  exact ⟨split, translated, kept.1.mpr stays, tokens,
    pattern depot (some "c:title") depotTitle _ depotNamesTitle rfl translated⟩

/- An accent after the wildcard makes one segment of the two, which is neither wildcards nor a word. -/
theorem accentedWildcardDropped :
    "doc*\u0301".toList = "doc".toList ++ '*' :: ['\u0301'] ∧
      Tokenizer.wildcards.tokenize "doc*\u0301" = [⟨"doc", 0, 0, 3⟩] ∧
      (¬ ∃ token ∈ Tokenizer.wildcards.tokenize "doc*\u0301", token.Holds 3) ∧
      depot.translate (.fullText (some "c:title") "doc*\u0301") = .ok (titled "doc") := by
  have tokens : Tokenizer.wildcards.tokenize "doc*\u0301" = [⟨"doc", 0, 0, 3⟩] := by
    decide +kernel
  have terms : (Context.expressionAnalyzer depotTitle.type).terms "doc*\u0301" = ["doc"] := by
    decide +kernel
  have translated : depot.translate (.fullText (some "c:title") "doc*\u0301") =
      .ok (titled "doc") := by
    rw [translateFullText depotNamesTitle, Context.fullText, terms]
    rfl
  refine ⟨by decide, tokens, ?_, translated⟩
  rw [tokens]
  rintro ⟨token, inside, -, after⟩
  rw [List.mem_singleton.mp inside] at after
  exact Nat.lt_irrefl 3 after

end QueryFederation.Compile
