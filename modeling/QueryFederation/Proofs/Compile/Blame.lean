import Mathlib
import QueryFederation.Compile.Reading
import QueryFederation.Proofs.Compile.Composite
import QueryFederation.Proofs.Failure

/-! Where the blame for a request that does not compile is put. Of the conditions that fail by
themselves the first one is named, then the first sort term; and what is said of it is either that
it is about an unknown property, or why it cannot be translated. -/
namespace QueryFederation.Compile
open Request Schema Index

namespace Context

/- A node that does not compile though all conditions below it do. -/
def FailsAt (context : Context) (node : Predicate) (rejection : Rejection) : Prop :=
  context.translate node = .error rejection ∧
    ∀ child ∈ node.children, ∃ query, context.translate child = .ok query

/- A rejection that tells what is wrong at the node. -/
def Blames {α : Type} (node : Predicate) (result : Compiled α) : Prop :=
  ∀ rejection, result = .error rejection → ∃ reason, rejection = .node (.predicate node) reason

end Context

variable {context : Context} {field : ResolvedField} {node : Predicate}

section Blames
variable {α β : Type}

theorem blamesOk (value : α) : Context.Blames node (.ok value) := by
  intro rejection impossible
  contradiction

theorem blamesReject (reason : Reason) : Context.Blames node (reject (α := α) node reason) := by
  intro rejection rejected
  cases rejected
  exact ⟨reason, rfl⟩

theorem blamesBind {first : Compiled α} {next : α → Compiled β}
    (head : Context.Blames node first) (tail : ∀ value, Context.Blames node (next value)) :
    Context.Blames node (first >>= next) := by
  intro rejection rejected
  rcases bindFails.mp rejected with fails | ⟨value, -, fails⟩
  · exact head rejection fails
  · exact tail value rejection fails

theorem blamesMapM {f : α → Compiled β} (each : ∀ x, Context.Blames node (f x)) (xs : List α) :
    Context.Blames node (xs.mapM f) := by
  intro rejection rejected
  obtain ⟨x, -, fails⟩ := firstFaultMember (mapFails.mp rejected)
  exact each x rejection fails

end Blames

theorem encodedBlames (value : Literal) :
    Context.Blames node (Context.encoded field value node) := by
  unfold Context.encoded
  split
  · exact blamesOk _
  · exact blamesReject _

theorem equalsBlames (value : Literal) : Context.Blames node (Context.equals field value node) := by
  unfold Context.equals
  split
  · exact blamesReject _
  split
  · split
    · exact blamesOk _
    · exact blamesReject _
  · exact blamesBind (encodedBlames value) fun _ => blamesOk _

theorem rangeBlames (op : Comparison) (value : Literal) (bounds : String → Bound × Bound) :
    Context.Blames node (Context.range field op value node bounds) := by
  unfold Context.range
  split
  · exact blamesReject _
  · refine blamesBind ?_ fun _ => blamesOk _
    unfold Context.rangeTerm
    split
    · exact blamesOk _
    · exact encodedBlames value

theorem compareBlames (op : Comparison) (value : Literal) :
    Context.Blames node (Context.compare field op value node) := by
  unfold Context.compare
  cases op with
  | eq => exact equalsBlames value
  | ne => exact blamesBind (equalsBlames value) fun _ => blamesOk _
  | lt | le | gt | ge => exact rangeBlames _ value _

theorem checkLeadingBlames (pattern : String) :
    Context.Blames node (context.checkLeading pattern node) := by
  unfold Context.checkLeading
  split
  · exact blamesReject _
  · exact blamesOk _

theorem likeBlames (pattern : String) : Context.Blames node (context.like field pattern node) := by
  unfold Context.like
  split
  · exact blamesReject _
  · exact blamesBind (checkLeadingBlames _) fun _ => blamesOk _

theorem wordBlames (word : String) : Context.Blames node (context.word field node word) := by
  unfold Context.word
  split
  · exact blamesBind (checkLeadingBlames _) fun _ => blamesOk _
  · exact blamesOk _

theorem fullTextBlames (text : String) : Context.Blames node (context.fullText field text node) := by
  unfold Context.fullText
  dsimp only
  split
  · exact blamesReject _
  · exact blamesBind (blamesMapM wordBlames _) fun _ => blamesOk _

theorem isTypeBlames (type : String) : Context.Blames node (context.isType type node) := by
  unfold Context.isType
  split
  · exact blamesReject _
  · dsimp only
    split
    · exact blamesOk _
    · exact blamesReject _

/- What is said of a name: the name itself where it means no property, or where it cannot be read
what is wrong at the place. -/
theorem resolutionLocated {property : String} {fault : ResolutionFault} {place : Node}
    (failed : context.resolver.resolve property none = .error fault) :
    fault.locate place = .unknownField property ∨
      ∃ reason, fault.locate place = .node place reason := by
  unfold FieldResolver.resolve at failed
  split at failed
  · contradiction
  split at failed
  · cases failed
    exact .inr ⟨_, rfl⟩
  · split at failed
    · cases failed
      exact .inl rfl
    · contradiction

/- A condition on a property, whose name is resolved first. -/
theorem namedBlames {α : Type} {property : String} {next : ResolvedField → Compiled α}
    {rejection : Rejection} (tail : ∀ field, Context.Blames node (next field))
    (failed : (context.resolve property node >>= next) = .error rejection) :
    rejection = .unknownField property ∨ ∃ reason, rejection = .node (.predicate node) reason := by
  rcases bindFails.mp failed with unresolved | ⟨field, -, fails⟩
  · unfold Context.resolve at unresolved
    split at unresolved
    · contradiction
    · rename_i fault faulty
      cases unresolved
      exact resolutionLocated faulty
  · exact .inr (tail field rejection fails)

/- Conditions with conditions in them never fail by themselves, but for the empty disjunction. -/
theorem failsLocated {rejection : Rejection} (fails : context.FailsAt node rejection) :
    (∃ property, node.subject? context.parameters.defaultField = some property ∧
      rejection = .unknownField property) ∨
    ∃ reason, rejection = .node (.predicate node) reason := by
  obtain ⟨rejected, below⟩ := fails
  have known {property : String} (subject : node.subject? context.parameters.defaultField =
      some property) (told : rejection = .unknownField property ∨
        ∃ reason, rejection = .node (.predicate node) reason) :
      (∃ property, node.subject? context.parameters.defaultField = some property ∧
        rejection = .unknownField property) ∨
      ∃ reason, rejection = .node (.predicate node) reason :=
    told.imp_left fun unknown => ⟨property, subject, unknown⟩
  cases node with
  | all children =>
    obtain ⟨query, ok⟩ := conjunctionCompiles.mpr below
    exact nomatch ok.symm.trans rejected
  | any children =>
    by_cases empty : children = []
    · subst empty
      exact .inr (blamesReject _ rejection rejected)
    · obtain ⟨query, ok⟩ := (disjunctionCompiles empty).mpr below
      exact nomatch ok.symm.trans rejected
  | not child =>
    obtain ⟨query, ok⟩ := negationCompiles.mpr (below child List.mem_cons_self)
    exact nomatch ok.symm.trans rejected
  | compare property op value =>
    exact known rfl (namedBlames (fun _ => compareBlames op value) rejected)
  | oneOf property values negated =>
    unfold Context.translate at rejected
    dsimp only at rejected
    split at rejected
    · exact .inr (blamesReject _ rejection rejected)
    · exact known rfl (namedBlames
        (fun _ => blamesBind (blamesMapM equalsBlames values) fun _ => blamesOk _) rejected)
  | like property pattern negated =>
    exact known rfl
      (namedBlames (fun _ => blamesBind (likeBlames pattern) fun _ => blamesOk _) rejected)
  | present property => exact known rfl (namedBlames (fun _ => blamesOk _) rejected)
  | absent property => exact known rfl (namedBlames (fun _ => blamesOk _) rejected)
  | fullText property text => exact known rfl (namedBlames (fun _ => fullTextBlames text) rejected)
  | inFolder folder => contradiction
  | isType type => exact .inr (isTypeBlames type rejection rejected)

/- What is wrong below a node that does not compile is wrong in the first child that does not. -/
theorem firstChildFails {rejection : Rejection} (failed : context.translate node = .error rejection)
    (below : ¬ ∀ child ∈ node.children, ∃ query, context.translate child = .ok query) :
    FirstFault (fun child fault => context.translate child = .error fault) node.children
      rejection := by
  cases node with
  | all children =>
    rw [translateConjunction, buildFails] at failed
    exact mapFails.mp failed
  | any children =>
    by_cases empty : children = []
    · exact absurd (by simp [Predicate.children, empty]) below
    · rw [translateDisjunction empty, buildFails] at failed
      exact mapFails.mp failed
  | not child =>
    rw [translateNegation, buildFails] at failed
    exact .here failed
  | _ => exact absurd (by simp [Predicate.children]) below

/- Every node of a predicate that compiles does so too. -/
theorem nodesCompile {predicate : Predicate}
    (compiles : ∃ query, context.translate predicate = .ok query) :
    ∀ node ∈ predicate.nodes, ∃ query, context.translate node = .ok query := by
  induction predicate using Predicate.inductBelow with
  | step predicate ih =>
    rw [Predicate.nodesEq, List.forall_mem_cons]
    refine ⟨compiles, fun node inside => ?_⟩
    obtain ⟨child, member, deeper⟩ := List.mem_flatMap.mp inside
    exact ih child member (childrenCompile compiles child member) node deeper

theorem nodesPass {predicate : Predicate}
    (compiles : ∃ query, context.translate predicate = .ok query) :
    ∀ node ∈ predicate.nodes, ∀ rejection, ¬ context.FailsAt node rejection := by
  intro node inside rejection fails
  obtain ⟨query, ok⟩ := nodesCompile compiles node inside
  exact nomatch ok.symm.trans fails.1

theorem translateFails {predicate : Predicate} {rejection : Rejection}
    (failed : context.translate predicate = .error rejection) :
    FirstFault context.FailsAt predicate.nodes rejection := by
  induction predicate using Predicate.inductBelow with
  | step predicate ih =>
    rw [Predicate.nodesEq]
    by_cases below : ∀ child ∈ predicate.children, ∃ query, context.translate child = .ok query
    · exact .here ⟨failed, below⟩
    · refine .later (fun other fails => below fails.2) ?_
      refine firstFaultFlatMap (firstChildFails failed below) ih fun child _ pass => ?_
      cases one : context.translate child with
      | ok query => exact nodesPass ⟨query, one⟩
      | error other => exact absurd one (pass other)

theorem translateFailsIff {predicate : Predicate} {rejection : Rejection} :
    context.translate predicate = .error rejection ↔
      FirstFault context.FailsAt predicate.nodes rejection := by
  refine ⟨translateFails, fun first => ?_⟩
  cases ends : context.translate predicate with
  | ok query =>
    obtain ⟨node, inside, fails⟩ := firstFaultMember first
    exact absurd fails (nodesPass ⟨query, ends⟩ node inside rejection)
  | error other =>
    have single (node : Predicate) (fault other : Rejection) (left : context.FailsAt node fault)
        (right : context.FailsAt node other) : fault = other :=
      Except.error.inj (left.1.symm.trans right.1)
    rw [firstFaultUnique single (translateFails ends) first]

theorem translateSucceedsIff {predicate : Predicate} :
    (∃ query, context.translate predicate = .ok query) ↔
      ∀ node ∈ predicate.nodes, ∀ rejection, ¬ context.FailsAt node rejection := by
  refine ⟨nodesPass, fun pass => ?_⟩
  cases ends : context.translate predicate with
  | ok query => exact ⟨query, rfl⟩
  | error rejection =>
    obtain ⟨node, inside, fails⟩ := firstFaultMember (translateFails ends)
    exact absurd fails (pass node inside rejection)

theorem sortLocated {term : SortTerm} {rejection : Rejection}
    (failed : context.translateSort term = .error rejection) :
    ∃ property, term.key = .property property ∧ (rejection = .unknownField property ∨
      ∃ reason, rejection = .node (.ordering property) reason) := by
  unfold Context.translateSort at failed
  split at failed
  · contradiction
  · rename_i property key
    refine ⟨property, key, ?_⟩
    split at failed
    · rename_i fault unresolved
      cases failed
      exact resolutionLocated unresolved
    · split at failed
      · cases failed
        exact .inr ⟨_, rfl⟩
      · contradiction

/- The conditions are all tried before the sort terms. -/
theorem compileFails {predicate : Predicate} {sort : List SortTerm} {rejection : Rejection} :
    context.compile predicate sort = .error rejection ↔
      FirstFault context.FailsAt predicate.nodes rejection ∨
        (∀ node ∈ predicate.nodes, ∀ other, ¬ context.FailsAt node other) ∧
          FirstFault (fun term fault => context.translateSort term = .error fault) sort
            rejection := by
  rw [Context.compile, bindFails, translateFailsIff, ← translateSucceedsIff, ← mapFails]
  simp only [buildFails, exists_and_right]

namespace Context

/- What may be said of a request: a property is called unknown as it is written, or is the one that
a search for words is about when it names none; all else comes with the text of a condition or a
sort term. -/
inductive Told (context : Context) (predicate : Predicate) (sort : List SortTerm) :
    Fault → Prop where
  | unknownSubject {node : Predicate} {property : String} (inside : node ∈ predicate.nodes)
      (subject : node.subject? context.parameters.defaultField = some property) :
      Told context predicate sort (.unknownField property)
  | unknownKey {term : SortTerm} {property : String} (inside : term ∈ sort)
      (key : term.key = .property property) : Told context predicate sort (.unknownField property)
  | condition {node : Predicate} (inside : node ∈ predicate.nodes) (reason : String) :
      Told context predicate sort (.untranslatable node.render reason)
  | ordering {term : SortTerm} {property : String} (inside : term ∈ sort)
      (key : term.key = .property property) (reason : String) :
      Told context predicate sort (.untranslatable ("ORDER BY " ++ property) reason)

def Compiles (context : Context) (predicate : Predicate) : Prop :=
  ∃ compiled, context.compile predicate [] = .ok compiled

/- Each rejection is that of the first node that fails by itself, and says what is wrong there. -/
structure Pinpoints (context : Context) : Prop where
  first : ∀ predicate sort rejection, context.compile predicate sort = .error rejection ↔
    FirstFault context.FailsAt predicate.nodes rejection ∨
      (∀ node ∈ predicate.nodes, ∀ other, ¬ context.FailsAt node other) ∧
        FirstFault (fun term fault => context.translateSort term = .error fault) sort rejection
  told : ∀ predicate sort rejection, context.compile predicate sort = .error rejection →
    context.Told predicate sort rejection.toFault
  conjunction : ∀ children,
    context.Compiles (.all children) ↔ ∀ child ∈ children, context.Compiles child
  disjunction : ∀ children, children ≠ [] →
    (context.Compiles (.any children) ↔ ∀ child ∈ children, context.Compiles child)
  negation : ∀ child, context.Compiles (.not child) ↔ context.Compiles child

end Context

theorem rejectionTold {predicate : Predicate} {sort : List SortTerm} {rejection : Rejection}
    (failed : context.compile predicate sort = .error rejection) :
    context.Told predicate sort rejection.toFault := by
  rcases compileFails.mp failed with first | ⟨-, first⟩
  · obtain ⟨node, inside, fails⟩ := firstFaultMember first
    rcases failsLocated fails with ⟨property, subject, rfl⟩ | ⟨reason, rfl⟩
    · exact .unknownSubject inside subject
    · exact .condition inside reason.message
  · obtain ⟨term, inside, fails⟩ := firstFaultMember first
    obtain ⟨property, key, rfl | ⟨reason, rfl⟩⟩ := sortLocated fails
    · exact .unknownKey inside key
    · exact .ordering inside key reason.message

theorem compilesIff {predicate : Predicate} :
    context.Compiles predicate ↔ ∃ query, context.translate predicate = .ok query := by
  rw [Context.Compiles, Context.compile]
  exact buildSucceeds

theorem rejectionsPinpointed (context : Context) : context.Pinpoints where
  first _ _ _ := compileFails
  told _ _ _ := rejectionTold
  conjunction children := by simpa only [compilesIff] using conjunctionCompiles
  disjunction children some := by simpa only [compilesIff] using disjunctionCompiles some
  negation child := by simpa only [compilesIff] using negationCompiles

def bureau : Context :=
  Context.new { properties := [(⟨"urn:c", "owner"⟩, .id), (⟨"urn:c", "body"⟩, .content)] }
    { entries := [("c", "urn:c")] } .single { defaultField := "c:text" } .allOnly {}

/- The empty list stands before the default field that means nothing, and both before the order. -/
def emptyListFirst : Predicate :=
  .all [.present "c:owner", .not (.any [.oneOf "c:owner" [] false, .fullText none "budget"])]

theorem emptyListBlamed :
    bureau.compile emptyListFirst [⟨.property "c:body", true⟩] =
      .error (.node (.predicate (.oneOf "c:owner" [] false)) .emptyList) ∧
    bureau.Told emptyListFirst [⟨.property "c:body", true⟩]
      (.untranslatable "c:owner IN ()" "empty IN list") ∧
    bureau.Compiles (.all [.present "c:owner", .inFolder "f"]) := by
  have below : ∀ child ∈ [Predicate.present "c:owner", .inFolder "f"], bureau.Compiles child := by
    refine List.forall_mem_cons.mpr ⟨⟨⟨.present "@\x7burn:c\x7downer", [], 0⟩, by cbv⟩, ?_⟩
    exact List.forall_mem_singleton.mpr ⟨⟨.term "PARENT" "f", [], 0⟩, by cbv⟩
  have failed : bureau.compile emptyListFirst [⟨.property "c:body", true⟩] =
      .error (.node (.predicate (.oneOf "c:owner" [] false)) .emptyList) := by cbv
  have pinpoints := rejectionsPinpointed bureau
  exact ⟨failed, pinpoints.told _ _ _ failed, (pinpoints.conjunction _).mpr below⟩

end QueryFederation.Compile
