import Mathlib
import QueryFederation.Proofs.Compile.Meaning
import QueryFederation.Proofs.Compile.Simulation
import QueryFederation.Proofs.Order

/-! The language mode decides in which fields a multilingual property is looked for. A mode with
more fields finds more, as long as nothing in the request is negated. -/
namespace QueryFederation.Request

namespace Predicate

inductive Positive : Predicate → Prop where
  | all {children : List Predicate} (each : ∀ child ∈ children, Positive child) :
      Positive (.all children)
  | any {children : List Predicate} (each : ∀ child ∈ children, Positive child) :
      Positive (.any children)
  | compare (property : String) {op : Comparison} (value : Literal) (affirmed : op ≠ .ne) :
      Positive (.compare property op value)
  | oneOf (property : String) (values : List Literal) : Positive (.oneOf property values false)
  | like (property pattern : String) : Positive (.like property pattern false)
  | present (property : String) : Positive (.present property)
  | fullText (property : Option String) (text : String) : Positive (.fullText property text)
  | inFolder (folder : String) : Positive (.inFolder folder)
  | isType (type : String) : Positive (.isType type)

end Predicate

inductive LanguageMode.Widens : LanguageMode → LanguageMode → Prop where
  | language : Widens .exactLocale .localeOnly
  | unlocalized : Widens .localeOnly .localeAndAll
  | localized : Widens .allOnly .localeAndAll
  | everyLanguage : Widens .allOnly .allLanguages

end QueryFederation.Request

namespace QueryFederation.Compile
open Request Schema Index

/- The same context, with a language mode asked for or not, and the one in force. -/
def Context.under (context : Context) (requested : Option LanguageMode) (mode : LanguageMode) :
    Context :=
  { context with
    parameters := { context.parameters with mode := requested }
    resolver := { context.resolver with mode := mode } }

structure ResolvedField.Widens (field wide : ResolvedField) : Prop where
  type : field.type = wide.type
  fields : field.fields ⊆ wide.fields

section Modes
variable {narrow wide : LanguageMode} (wider : narrow.Widens wide) (resolver : FieldResolver)
include wider

theorem modeFieldsWiden (base : String) :
    resolver.modeFields base narrow ⊆ resolver.modeFields base wide := by
  cases wider with
  | language | unlocalized => exact List.subset_append_left _ _
  | localized | everyLanguage => simp [FieldResolver.modeFields]

theorem fieldsWiden (name : QualifiedName) (type : DataType) :
    resolver.fieldsOf name type narrow ⊆ resolver.fieldsOf name type wide := by
  unfold FieldResolver.fieldsOf
  split
  · intro field inside
    rw [FieldResolver.localeFields, Order.memDropRuns] at inside ⊢
    exact modeFieldsWiden wider resolver _ inside
  · exact List.Subset.refl _

end Modes

/- A mode does not decide which names there are, and what type of value they stand for. -/
theorem resolveUnder (context : Context) (mode another : LanguageMode)
    (requested other : Option LanguageMode) (property : String) :
    Together (fun field mirror => field.type = mirror.type ∧
        (mode.Widens another → field.Widens mirror))
      ((context.under requested mode).resolver.resolve property none)
      ((context.under other another).resolver.resolve property none) := by
  unfold FieldResolver.resolve
  split
  · exact .ok ⟨rfl, fun _ => ⟨rfl, List.Subset.refl _⟩⟩
  · dsimp only [Context.under]
    split
    · exact .error _ _
    · split
      · exact .error _ _
      · exact .ok ⟨rfl, fun wider => ⟨rfl, fieldsWiden wider context.resolver _ _⟩⟩

def sameTypes : Likeness :=
  ⟨fun field mirror => field.type = mirror.type, fun _ _ => True, fun _ _ => True⟩

theorem sameTypesKept : sameTypes.Kept where
  type same := same
  across _ _ := trivial
  without _ _ := trivial
  anyOf _ := trivial
  allOf _ := trivial
  negate _ := trivial
  self _ := trivial
  key _ _ := trivial
  score _ := trivial

theorem modesParallel (context : Context) (mode another : LanguageMode)
    (requested other : Option LanguageMode) :
    Parallel sameTypes Eq Eq (context.under requested mode) (context.under other another) where
  fields same := by
    cases same
    exact togetherWeaken (resolveUnder context mode another requested other _) fun _ _ => And.left
  types same := by
    cases same
    exact togetherSelf (fun _ => rfl) _
  hierarchy := rfl
  unnamed := rfl
  operator := rfl
  leading := rfl
  confined _ := trivial
  generation := rfl

theorem compilesUnder (context : Context) (predicate : Predicate) (sort : List SortTerm)
    (mode another : LanguageMode) (requested other : Option LanguageMode) :
    (∃ compiled, (context.under requested mode).compile predicate sort = .ok compiled) ↔
      ∃ compiled, (context.under other another).compile predicate sort = .ok compiled := by
  have parallel := modesParallel context mode another requested other
  have respelled : Respelled Eq Eq predicate predicate :=
    respelledSelf (fun _ => rfl) (fun _ => rfl) predicate
  have ordered : List.Forall₂ (RespelledTerm Eq) sort sort :=
    List.forall₂_same.mpr fun term _ => respelledTermSelf (fun _ => rfl) term
  exact togetherSucceed (compileTogether sameTypesKept parallel respelled ordered)

section Readings
variable {truth : Query → Bool} {field wide : ResolvedField} {value : Literal}
  (widens : field.Widens wide)
include widens

theorem findsWiden {leaf : Leaf} (finds : field.Finds truth leaf) : wide.Finds truth leaf := by
  obtain ⟨name, inside, holds⟩ := finds
  exact ⟨name, widens.fields inside, holds⟩

theorem equalsWiden (equals : field.Equals truth value) : wide.Equals truth value := by
  obtain ⟨leaf, stands, finds⟩ := equals
  refine ⟨leaf, ?_, findsWiden widens finds⟩
  have analyzer : field.analyzer = wide.analyzer := congrArg analyzerFor widens.type
  cases stands with
  | word textual one => exact .word (widens.type ▸ textual) (analyzer ▸ one)
  | words textual several => exact .words (widens.type ▸ textual) (analyzer ▸ several)
  | encoded bare coded => exact .encoded (widens.type ▸ bare) (widens.type ▸ coded)

theorem withinWiden {bounds : String → Bound × Bound} (within : field.Within truth value bounds) :
    wide.Within truth value bounds := by
  obtain ⟨term, limits, finds⟩ := within
  refine ⟨term, ?_, findsWiden widens finds⟩
  cases limits with
  | lowered text => exact .lowered (widens.type ▸ text)
  | encoded other coded => exact .encoded (widens.type ▸ other) (widens.type ▸ coded)

theorem comparesWiden {op : Comparison} (affirmed : op ≠ .ne)
    (compares : field.Compares truth value op) : wide.Compares truth value op := by
  cases op with
  | eq => exact equalsWiden widens compares
  | ne => exact absurd rfl affirmed
  | lt | le | gt | ge => exact withinWiden widens compares

theorem patternLeafWidens (pattern : String) :
    field.patternLeaf pattern = wide.patternLeaf pattern := by
  have analyzer : field.analyzer = wide.analyzer := congrArg analyzerFor widens.type
  unfold ResolvedField.patternLeaf
  rw [analyzer]

theorem containsWiden {left right : Context}
    (operator : left.parameters.operator = right.parameters.operator) {text : String}
    (contains : left.Contains truth field text) : right.Contains truth wide text := by
  unfold Context.Contains at contains ⊢
  rw [operator, widens.type] at contains
  generalize right.parameters.operator = joined at contains ⊢
  cases joined with
  | or =>
    obtain ⟨word, inside, finds⟩ := contains
    exact ⟨word, inside, findsWiden widens finds⟩
  | and =>
    intro words word inside
    exact findsWiden widens (contains word inside)

end Readings

theorem readsAllEvery {context : Context} {truth : Query → Bool} {children : List Predicate} :
    context.ReadsAll truth children ↔ ∀ child ∈ children, context.Reads truth child := by
  induction children with
  | nil => simp [Context.ReadsAll]
  | cons child rest ih => rw [Context.ReadsAll, ih, List.forall_mem_cons]

theorem readsAnySome {context : Context} {truth : Query → Bool} {children : List Predicate} :
    context.ReadsAny truth children ↔ ∃ child ∈ children, context.Reads truth child := by
  induction children with
  | nil => simp [Context.ReadsAny]
  | cons child rest ih => rw [Context.ReadsAny, ih, List.exists_mem_cons_iff]

section Contexts
variable {context : Context} {narrow wide : LanguageMode} (wider : narrow.Widens wide)
  {requested other : Option LanguageMode} {truth : Query → Bool}
include wider

theorem namesWiden {property : String} {field : ResolvedField}
    (names : (context.under requested narrow).Names property field) :
    ∃ mirror, (context.under other wide).Names property mirror ∧ field.Widens mirror := by
  obtain ⟨_, mirror, ok, also, -, widens⟩ | ⟨⟨fault, fails⟩, -⟩ :=
    togetherEnds.mp (resolveUnder context narrow wide requested other property)
  · cases names.symm.trans ok
    exact ⟨mirror, also, widens wider⟩
  · cases names.symm.trans fails

/- What is found in a field is found in one that has more. -/
theorem namedWidens {property : String} {claim : ResolvedField → Prop}
    (kept : ∀ {field mirror : ResolvedField}, field.Widens mirror → claim field → claim mirror)
    (found : ∃ field, (context.under requested narrow).Names property field ∧ claim field) :
    ∃ field, (context.under other wide).Names property field ∧ claim field := by
  obtain ⟨field, names, known⟩ := found
  obtain ⟨mirror, also, widens⟩ := namesWiden wider names
  exact ⟨mirror, also, kept widens known⟩

theorem readsWiden {predicate : Predicate} (positive : predicate.Positive)
    (reads : (context.under requested narrow).Reads truth predicate) :
    (context.under other wide).Reads truth predicate := by
  induction positive with
  | all each ih =>
    rw [Context.Reads, readsAllEvery] at reads ⊢
    exact fun child inside => ih child inside (reads child inside)
  | any each ih =>
    rw [Context.Reads, readsAnySome] at reads ⊢
    obtain ⟨child, inside, known⟩ := reads
    exact ⟨child, inside, ih child inside known⟩
  | compare property value affirmed =>
    rw [Context.Reads] at reads ⊢
    exact namedWidens wider (fun widens => comparesWiden widens affirmed) reads
  | oneOf property values =>
    rw [Context.Reads] at reads ⊢
    refine namedWidens wider (fun widens => ?_) reads
    rintro ⟨value, inside, equals⟩
    exact ⟨value, inside, equalsWiden widens equals⟩
  | like property pattern =>
    rw [Context.Reads] at reads ⊢
    refine namedWidens wider (fun widens finds => ?_) reads
    rw [← patternLeafWidens widens]
    exact findsWiden widens finds
  | present property =>
    rw [Context.Reads] at reads ⊢
    exact namedWidens wider (fun widens => findsWiden widens) reads
  | fullText property text =>
    rw [Context.Reads] at reads ⊢
    exact namedWidens wider (fun widens => containsWiden widens rfl) reads
  | inFolder folder => exact reads
  | isType type => exact reads

end Contexts

theorem compiledConfines {context : Context} {predicate : Predicate} {sort : List SortTerm}
    {compiled : CompiledQuery} (ok : context.compile predicate sort = .ok compiled) :
    ∃ query, context.translate predicate = .ok query ∧ compiled.query = context.confine query := by
  obtain ⟨query, translated, more⟩ := bindSucceeds.mp ok
  obtain ⟨fields, -, built⟩ := bindSucceeds.mp more
  cases built
  exact ⟨query, translated, rfl⟩

/- A request compiles in all modes or in none. What has no negation in it finds in a wider mode all
that it finds in a narrower one. -/
theorem wideningKeepsMatches (context : Context) (predicate : Predicate) (sort : List SortTerm) :
    (∀ mode another requested other,
      (∃ compiled, (context.under requested mode).compile predicate sort = .ok compiled) ↔
        ∃ compiled, (context.under other another).compile predicate sort = .ok compiled) ∧
    (predicate.Positive → ∀ {narrow wide : LanguageMode}, narrow.Widens wide →
      ∀ {requested other compiled widened},
        (context.under requested narrow).compile predicate sort = .ok compiled →
        (context.under other wide).compile predicate sort = .ok widened →
        ∀ truth, compiled.query.holds truth = true → widened.query.holds truth = true) := by
  refine ⟨compilesUnder context predicate sort, ?_⟩
  intro positive narrow wide wider requested other compiled widened ok also truth holds
  obtain ⟨query, translated, same⟩ := compiledConfines ok
  obtain ⟨mirror, retranslated, again⟩ := compiledConfines also
  rw [same, confineHolds, translateHolds translated] at holds
  rw [again, confineHolds, translateHolds retranslated]
  exact ⟨readsWiden wider positive holds.1, holds.2⟩

def titledByAnn : Predicate :=
  .any [.all [.present "c:title", .oneOf "c:owner" [.id "ann"] false], .inFolder "f"]

/- What the request asks for where these are the titles to look for. -/
def titledByAnnQuery (titled : Query) : Query :=
  .boolean [(.must, .anyOf [.allOf [titled, .term "@\x7burn:c\x7downer" "ann"],
      .term "PARENT" "f"]),
    (.must, .term "TENANT" "acme"), (.mustNot, .term "HIDDEN" "cmis")] 0

def britishTitle : Query := .present "@\x7burn:c\x7dtitle.en_GB"

def englishTitle : Query := .anyOf [britishTitle, .present "@\x7burn:c\x7dtitle.en"]

theorem englishFindsBritish :
    (archive.under none .exactLocale).compile titledByAnn [] =
        .ok ⟨titledByAnnQuery britishTitle, [], 0⟩ ∧
      (archive.under (some .localeOnly) .localeOnly).compile titledByAnn [] =
        .ok ⟨titledByAnnQuery englishTitle, [], 0⟩ ∧
      (∀ truth, (titledByAnnQuery britishTitle).holds truth = true →
        (titledByAnnQuery englishTitle).holds truth = true) ∧
      ∃ compiled, (archive.under none .allLanguages).compile titledByAnn [] = .ok compiled := by
  have british : (archive.under none .exactLocale).compile titledByAnn [] =
      .ok ⟨titledByAnnQuery britishTitle, [], 0⟩ := by cbv
  have english : (archive.under (some .localeOnly) .localeOnly).compile titledByAnn [] =
      .ok ⟨titledByAnnQuery englishTitle, [], 0⟩ := by cbv
  have titledOwned :
      Predicate.Positive (.all [.present "c:title", .oneOf "c:owner" [.id "ann"] false]) := by
    refine .all (List.forall_mem_cons.mpr ⟨.present _, ?_⟩)
    exact List.forall_mem_singleton.mpr (.oneOf _ _)
  have positive : titledByAnn.Positive := by
    refine .any (List.forall_mem_cons.mpr ⟨titledOwned, ?_⟩)
    exact List.forall_mem_singleton.mpr (.inFolder _)
  obtain ⟨compiles, widens⟩ := wideningKeepsMatches archive titledByAnn []
  exact ⟨british, english, widens positive .language british english,
    (compiles _ _ _ _).mp ⟨_, british⟩⟩

end QueryFederation.Compile
