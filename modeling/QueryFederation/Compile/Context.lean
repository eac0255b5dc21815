import QueryFederation.Compile.Rejection
import QueryFederation.Index.CompiledQuery
import QueryFederation.Pattern.Glob

/-! Compilation of a request. A predicate becomes a query of the index, and is then confined to
what the tenant and the client may see. -/
namespace QueryFederation.Compile
open Request Schema Index

structure Snapshot where
  generation : Nat := 0
  fields : List String := []
  deriving DecidableEq, Repr

structure Context where
  tenant : Tenant
  parameters : Parameters
  generation : Nat
  resolver : FieldResolver
  client : Option Client := none
  allowLeadingWildcard : Bool := true
  deriving DecidableEq, Repr

/- Names are resolved in the first locale of the request. -/
def Context.new (dictionary : Dictionary) (namespaces : Namespaces) (tenant : Tenant)
    (parameters : Parameters) (mode : LanguageMode) (snapshot : Snapshot) : Context :=
  { tenant := tenant
    parameters := parameters
    generation := snapshot.generation
    resolver :=
      { dictionary := dictionary
        namespaces := namespaces
        indexed := snapshot.fields
        mode := parameters.mode.getD mode
        locale := parameters.locales.head?.getD Request.Locale.default } }

abbrev Compiled := Except Rejection

def reject {α : Type} (predicate : Predicate) (reason : Reason) : Compiled α :=
  .error (.node (.predicate predicate) reason)

def ResolvedField.across (field : ResolvedField) (build : String → Query) : Query :=
  Query.anyOf (field.fields.map build)

def ResolvedField.anyValue (field : ResolvedField) : Query := field.across .present

def ResolvedField.without (field : ResolvedField) (excluded : List Query) : Query :=
  .boolean ((.must, field.anyValue) :: excluded.map (.mustNot, ·)) 0

def ResolvedField.phrase? (field : ResolvedField) : List String → Option Query
  | [] => none
  | [term] => some (field.across fun name => .term name term)
  | terms => some (field.across fun name => .phrase name terms)

namespace Context

def resolve (context : Context) (property : String) (node : Predicate) : Compiled ResolvedField :=
  match context.resolver.resolve property none with
  | .ok field => .ok field
  | .error fault => .error (fault.locate (.predicate node))

def encoded (field : ResolvedField) (value : Literal) (node : Predicate) : Compiled String :=
  match encode field.type value with
  | .ok term => .ok term
  | .error fault => reject node (.encoding field.type value fault)

def equals (field : ResolvedField) (value : Literal) (node : Predicate) : Compiled Query :=
  if !field.type.supportsEquality then reject node (.unsupported .eq field.type)
  else if field.type.isTextual then
    match field.phrase? (field.analyzer.terms value.plainText) with
    | some query => .ok query
    | none => reject node .noTerms
  else do
    let term ← encoded field value node
    return field.across fun name => .term name term

/- The end of a range. Text is lowered as it is in the index. -/
def rangeTerm (field : ResolvedField) (value : Literal) (node : Predicate) : Compiled String :=
  if field.type = .text then .ok (Unicode.lowerText value.plainText)
  else encoded field value node

def range (field : ResolvedField) (op : Comparison) (value : Literal) (node : Predicate)
    (bounds : String → Bound × Bound) : Compiled Query := do
  if !field.type.supportsRange then reject node (.unsupported op field.type)
  else
    let (lower, upper) := bounds (← rangeTerm field value node)
    return field.across fun name => .range name lower upper

def compare (field : ResolvedField) (op : Comparison) (value : Literal) (node : Predicate) :
    Compiled Query :=
  match op with
  | .eq => equals field value node
  | .ne => do return field.without [← equals field value node]
  | .lt => range field op value node fun term => (.unbounded, .excluded term)
  | .le => range field op value node fun term => (.unbounded, .included term)
  | .gt => range field op value node fun term => (.excluded term, .unbounded)
  | .ge => range field op value node fun term => (.included term, .unbounded)

def checkLeading (context : Context) (pattern : String) (node : Predicate) : Compiled Unit :=
  if !context.allowLeadingWildcard && Pattern.startsWild pattern then
    reject node .leadingWildcard
  else .ok ()

def like (context : Context) (field : ResolvedField) (pattern : String) (node : Predicate) :
    Compiled Query := do
  if !field.type.supportsLike then reject node (.likeUnsupported field.type)
  else
    let wildcard := Pattern.likeToWildcard pattern
    let wildcard := if field.analyzer.lowercases then Unicode.lowerText wildcard else wildcard
    context.checkLeading wildcard node
    return field.across fun name => .wildcard name wildcard

def word (context : Context) (field : ResolvedField) (node : Predicate) (term : String) :
    Compiled Query := do
  if Pattern.hasWildcard term then
    context.checkLeading term node
    return field.across fun name => .wildcard name term
  else return field.across fun name => .term name term

/- In an expression over text, words may hold wildcards. -/
def expressionAnalyzer (type : DataType) : Text.Analyzer :=
  if type.isTextual then .wildcard else analyzerFor type

def joinWords : TermOperator → List Query → Query
  | .or, words => Query.anyOf words
  | .and, words => Query.allOf words

def fullText (context : Context) (field : ResolvedField) (text : String) (node : Predicate) :
    Compiled Query := do
  let terms := (expressionAnalyzer field.type).terms text
  if terms.isEmpty then reject node .noFullTextTerms
  else return joinWords context.parameters.operator (← terms.mapM (context.word field node))

def isType (context : Context) (type : String) (node : Predicate) : Compiled Query :=
  match QualifiedName.resolve context.resolver.namespaces type with
  | .error fault => reject node (.name fault)
  | .ok name =>
    let types := context.resolver.dictionary.types
    if types.contains name then
      .ok (Query.anyOf ((types.subtypes name).map fun subtype =>
        .term ReservedField.type.name subtype.text))
    else reject node (.unknownType name)

mutual
def translate (context : Context) : Predicate → Compiled Query
  | .all children => do return Query.allOf (← context.translateAll children)
  | .any [] => reject (.any []) .emptyDisjunction
  | .any (child :: rest) => do
    let first ← context.translate child
    return Query.anyOf (first :: (← context.translateAll rest))
  | .not child => do return Query.negate (← context.translate child)
  | .compare property op value => do
    let node := Predicate.compare property op value
    compare (← context.resolve property node) op value node
  | .oneOf property values negated => do
    let node := Predicate.oneOf property values negated
    if values.isEmpty then reject node .emptyList
    else
      let field ← context.resolve property node
      let equal ← values.mapM fun value => equals field value node
      return if negated then field.without equal else Query.anyOf equal
  | .like property pattern negated => do
    let node := Predicate.like property pattern negated
    let field ← context.resolve property node
    let query ← context.like field pattern node
    return if negated then field.without [query] else query
  | .present property => do
    return (← context.resolve property (.present property)).anyValue
  | .absent property => do
    return Query.negate (← context.resolve property (.absent property)).anyValue
  | .fullText property text => do
    let node := Predicate.fullText property text
    let field ← context.resolve (property.getD context.parameters.defaultField) node
    context.fullText field text node
  | .inFolder folder => .ok (.term ReservedField.parent.name folder)
  | .isType type => context.isType type (.isType type)

def translateAll (context : Context) : List Predicate → Compiled (List Query)
  | [] => .ok []
  | child :: rest => do
    let first ← context.translate child
    return first :: (← context.translateAll rest)
end

def directionOf (term : SortTerm) : Direction := if term.ascending then .ascending else .descending

def translateSort (context : Context) (term : SortTerm) : Compiled SortField :=
  match term.key with
  | .score => .ok (.score (directionOf term))
  | .property property =>
    match context.resolver.resolve property none with
    | .error fault => .error (fault.locate (.ordering property))
    | .ok field =>
      if field.type = .content then .error (.node (.ordering property) .notSortable)
      else .ok (.field (field.fields.headD "") (directionOf term))

def tenantFilter (context : Context) : List (Occur × Query) :=
  if context.tenant.active then
    [(.must, .term ReservedField.tenant.name context.tenant.domain)]
  else []

def clientFilter (context : Context) : List (Occur × Query) :=
  match context.client with
  | some client => [(.mustNot, .term ReservedField.hidden.name client.name)]
  | none => []

def confine (context : Context) (query : Query) : Query :=
  match context.tenantFilter ++ context.clientFilter with
  | [] => query
  | filters => .boolean ((.must, query) :: filters) 0

def compile (context : Context) (predicate : Predicate) (sort : List SortTerm) :
    Compiled CompiledQuery := do
  let query ← context.translate predicate
  let fields ← sort.mapM context.translateSort
  return ⟨context.confine query, fields, context.generation⟩

end Context

end QueryFederation.Compile
