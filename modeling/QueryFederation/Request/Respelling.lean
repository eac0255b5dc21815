import Mathlib.Data.List.Forall2
import QueryFederation.Request.Nodes

/-! Requests that differ in the names of properties and types only. Which names may stand for one
another is left open. -/
namespace QueryFederation.Request

variable (named typed : String → String → Prop)

inductive Respelled : Predicate → Predicate → Prop where
  | all {children others} (each : List.Forall₂ Respelled children others) :
      Respelled (.all children) (.all others)
  | any {children others} (each : List.Forall₂ Respelled children others) :
      Respelled (.any children) (.any others)
  | not {child other} (one : Respelled child other) : Respelled (.not child) (.not other)
  | compare {property other} (name : named property other) (op : Comparison) (value : Literal) :
      Respelled (.compare property op value) (.compare other op value)
  | oneOf {property other} (name : named property other) (values : List Literal)
      (negated : Bool) : Respelled (.oneOf property values negated) (.oneOf other values negated)
  | like {property other} (name : named property other) (pattern : String) (negated : Bool) :
      Respelled (.like property pattern negated) (.like other pattern negated)
  | present {property other} (name : named property other) :
      Respelled (.present property) (.present other)
  | absent {property other} (name : named property other) :
      Respelled (.absent property) (.absent other)
  | fullText {property other} (name : named property other) (text : String) :
      Respelled (.fullText (some property) text) (.fullText (some other) text)
  | unnamedText (text : String) : Respelled (.fullText none text) (.fullText none text)
  | inFolder (folder : String) : Respelled (.inFolder folder) (.inFolder folder)
  | isType {type other} (name : typed type other) : Respelled (.isType type) (.isType other)

inductive RespelledTerm : SortTerm → SortTerm → Prop where
  | score (ascending : Bool) : RespelledTerm ⟨.score, ascending⟩ ⟨.score, ascending⟩
  | property {name other} (same : named name other) (ascending : Bool) :
      RespelledTerm ⟨.property name, ascending⟩ ⟨.property other, ascending⟩

variable {named typed}

theorem respelledSelf (name : ∀ name, named name name) (type : ∀ type, typed type type)
    (predicate : Predicate) : Respelled named typed predicate predicate := by
  induction predicate using Predicate.inductBelow with
  | step predicate ih =>
    cases predicate with
    | all children => exact .all (List.forall₂_same.mpr ih)
    | any children => exact .any (List.forall₂_same.mpr ih)
    | not child => exact .not (ih child (List.mem_singleton_self child))
    | compare property op value => exact .compare (name property) op value
    | oneOf property values negated => exact .oneOf (name property) values negated
    | like property pattern negated => exact .like (name property) pattern negated
    | present property => exact .present (name property)
    | absent property => exact .absent (name property)
    | fullText property text =>
      cases property with
      | none => exact .unnamedText text
      | some property => exact .fullText (name property) text
    | inFolder folder => exact .inFolder folder
    | isType other => exact .isType (type other)

theorem respelledTermSelf (name : ∀ name, named name name) (term : SortTerm) :
    RespelledTerm named term term := by
  obtain ⟨key, ascending⟩ := term
  cases key with
  | score => exact .score ascending
  | property property => exact .property (name property) ascending

end QueryFederation.Request
