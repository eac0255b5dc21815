import QueryFederation.Compile.Context
import QueryFederation.Index.Truth

/-! What a request says of an entity, read as plain logic. The reading knows the fields that a name
stands for and the terms that stand for a value. It builds no queries other than single leaves. -/
namespace QueryFederation.Compile
open Request Schema Index

/- One thing to look for, in whichever field. -/
inductive Leaf where
  | term (text : String)
  | phrase (terms : List String)
  | wildcard (pattern : String)
  | range (lower upper : Bound)
  | present
  deriving DecidableEq, Repr

def Leaf.on : Leaf → String → Query
  | .term text, field => .term field text
  | .phrase terms, field => .phrase field terms
  | .wildcard pattern, field => .wildcard field pattern
  | .range lower upper, field => .range field lower upper
  | .present, field => .present field

namespace ResolvedField

def Finds (field : ResolvedField) (truth : Query → Bool) (leaf : Leaf) : Prop :=
  ∃ name ∈ field.fields, truth (leaf.on name) = true

/- A text stands in the index as its words, any other value as one encoded term. A text without
words stands for nothing. -/
inductive Stands (field : ResolvedField) (value : Literal) : Leaf → Prop where
  | word {word} (textual : field.type.isTextual = true)
      (one : field.analyzer.terms value.plainText = [word]) : Stands field value (.term word)
  | words {first second rest} (textual : field.type.isTextual = true)
      (several : field.analyzer.terms value.plainText = first :: second :: rest) :
      Stands field value (.phrase (first :: second :: rest))
  | encoded {term} (bare : field.type.isTextual = false)
      (coded : encode field.type value = .ok term) : Stands field value (.term term)

inductive Limits (field : ResolvedField) (value : Literal) : String → Prop where
  | lowered (text : field.type = .text) : Limits field value (Unicode.lowerText value.plainText)
  | encoded {term} (other : field.type ≠ .text) (coded : encode field.type value = .ok term) :
      Limits field value term

def Equals (field : ResolvedField) (truth : Query → Bool) (value : Literal) : Prop :=
  ∃ leaf, Stands field value leaf ∧ field.Finds truth leaf

def Within (field : ResolvedField) (truth : Query → Bool) (value : Literal)
    (bounds : String → Bound × Bound) : Prop :=
  ∃ term, Limits field value term ∧ field.Finds truth (.range (bounds term).1 (bounds term).2)

def Compares (field : ResolvedField) (truth : Query → Bool) (value : Literal) : Comparison → Prop
  | .eq => field.Equals truth value
  | .ne => field.Finds truth .present ∧ ¬ field.Equals truth value
  | .lt => field.Within truth value fun term => (.unbounded, .excluded term)
  | .le => field.Within truth value fun term => (.unbounded, .included term)
  | .gt => field.Within truth value fun term => (.excluded term, .unbounded)
  | .ge => field.Within truth value fun term => (.included term, .unbounded)

def patternLeaf (field : ResolvedField) (pattern : String) : Leaf :=
  .wildcard (if field.analyzer.lowercases then Unicode.lowerText (Pattern.likeToWildcard pattern)
    else Pattern.likeToWildcard pattern)

end ResolvedField

def wordLeaf (word : String) : Leaf :=
  if Pattern.hasWildcard word then .wildcard word else .term word

/- A negated condition is not met by entities without any value. -/
def unlessNegated (negated : Bool) (condition present : Prop) : Prop :=
  if negated then present ∧ ¬ condition else condition

namespace Context

def Names (context : Context) (property : String) (field : ResolvedField) : Prop :=
  context.resolver.resolve property none = .ok field

def Contains (context : Context) (truth : Query → Bool) (field : ResolvedField) (text : String) :
    Prop :=
  let words := (expressionAnalyzer field.type).terms text
  match context.parameters.operator with
  | .or => ∃ word ∈ words, field.Finds truth (wordLeaf word)
  | .and => ∀ word ∈ words, field.Finds truth (wordLeaf word)

mutual
def Reads (context : Context) (truth : Query → Bool) : Predicate → Prop
  | .all children => context.ReadsAll truth children
  | .any children => context.ReadsAny truth children
  | .not child => ¬ context.Reads truth child
  | .compare property op value =>
    ∃ field, context.Names property field ∧ field.Compares truth value op
  | .oneOf property values negated =>
    ∃ field, context.Names property field ∧
      unlessNegated negated (∃ value ∈ values, field.Equals truth value)
        (field.Finds truth .present)
  | .like property pattern negated =>
    ∃ field, context.Names property field ∧
      unlessNegated negated (field.Finds truth (field.patternLeaf pattern))
        (field.Finds truth .present)
  | .present property => ∃ field, context.Names property field ∧ field.Finds truth .present
  | .absent property => ∃ field, context.Names property field ∧ ¬ field.Finds truth .present
  | .fullText property text =>
    ∃ field, context.Names (property.getD context.parameters.defaultField) field ∧
      context.Contains truth field text
  | .inFolder folder => truth (.term ReservedField.parent.name folder) = true
  | .isType type =>
    ∃ name, QualifiedName.resolve context.resolver.namespaces type = .ok name ∧
      ∃ subtype ∈ context.resolver.dictionary.types.subtypes name,
        truth (.term ReservedField.type.name subtype.text) = true

def ReadsAll (context : Context) (truth : Query → Bool) : List Predicate → Prop
  | [] => True
  | child :: rest => context.Reads truth child ∧ context.ReadsAll truth rest

def ReadsAny (context : Context) (truth : Query → Bool) : List Predicate → Prop
  | [] => False
  | child :: rest => context.Reads truth child ∨ context.ReadsAny truth rest
end

/- Entities of other tenants and entities hidden from the client are out of sight. -/
def Sees (context : Context) (truth : Query → Bool) : Prop :=
  (context.tenant.active = true →
    truth (.term ReservedField.tenant.name context.tenant.domain) = true) ∧
  ∀ client, context.client = some client →
    truth (.term ReservedField.hidden.name client.name) = false

end Context

end QueryFederation.Compile
