import QueryFederation.Json.Form
import QueryFederation.Request.Parameters
import QueryFederation.Request.Predicate

/-! The JSON forms of requests. -/
namespace QueryFederation.Json
open Request

instance : Form Literal where
  encode
    | .text value => .tagged "Text" (encode value)
    | .int value => .tagged "Int" (encode value)
    | .float value => .tagged "Float" (encode value)
    | .bool value => .tagged "Bool" (encode value)
    | .instant value => .tagged "DateTime" (encode value)
    | .id value => .tagged "Id" (encode value)
  decode := .choice fun
    | "Text" => .map .text decode
    | "Int" => .map .int decode
    | "Float" => .map .float decode
    | "Bool" => .map .bool decode
    | "DateTime" => .map .instant decode
    | "Id" => .map .id decode
    | _ => .refuse

def comparisonKey : Comparison → String
  | .eq => "Eq"
  | .ne => "Ne"
  | .lt => "Lt"
  | .le => "Le"
  | .gt => "Gt"
  | .ge => "Ge"

instance : Form Comparison := .ofNames comparisonKey [.eq, .ne, .lt, .le, .gt, .ge]

mutual
def encodePredicate : Predicate → Tree
  | .all children => .tagged "And" (.array (encodePredicates children))
  | .any children => .tagged "Or" (.array (encodePredicates children))
  | .not child => .tagged "Not" (encodePredicate child)
  | .compare property op value =>
    .tagged "Compare"
      (.record [("property", encode property), ("op", encode op), ("value", encode value)])
  | .oneOf property values negated =>
    .tagged "In"
      (.record
        [("property", encode property), ("values", encode values), ("negated", encode negated)])
  | .like property pattern negated =>
    .tagged "Like"
      (.record
        [("property", encode property), ("pattern", encode pattern), ("negated", encode negated)])
  | .present property => .tagged "Exists" (.record [("property", encode property)])
  | .absent property => .tagged "IsNull" (.record [("property", encode property)])
  | .fullText property text =>
    .tagged "FullText" (.record [("property", encode property), ("text", encode text)])
  | .inFolder folder => .tagged "InFolder" (encode folder)
  | .isType type => .tagged "IsType" (encode type)

def encodePredicates : List Predicate → List Tree
  | [] => []
  | child :: rest => encodePredicate child :: encodePredicates rest
end

def decodePredicateStep (child : Decoder Predicate) : Decoder Predicate := .choice fun
  | "And" => .map .all (.list child)
  | "Or" => .map .any (.list child)
  | "Not" => .map .not child
  | "Compare" => .record ["property", "op", "value"] fun r => do
    return .compare (← r.field "property") (← r.field "op") (← r.field "value")
  | "In" => .record ["property", "values", "negated"] fun r => do
    return .oneOf (← r.field "property") (← r.field "values") (← r.field "negated")
  | "Like" => .record ["property", "pattern", "negated"] fun r => do
    return .like (← r.field "property") (← r.field "pattern") (← r.field "negated")
  | "Exists" => .record ["property"] fun r => return .present (← r.field "property")
  | "IsNull" => .record ["property"] fun r => return .absent (← r.field "property")
  | "FullText" => .record ["property", "text"] fun r => do
    return .fullText (← r.fieldOr "property" none) (← r.field "text")
  | "InFolder" => .map .inFolder decode
  | "IsType" => .map .isType decode
  | _ => .refuse

instance : Form Predicate where
  encode := encodePredicate
  decode := .nested decodePredicateStep

instance : Form SortKey where
  encode
    | .score => .ofString "Score"
    | .property name => .tagged "Property" (encode name)
  decode := .choice fun
    | "Score" => .unit .score
    | "Property" => .map .property decode
    | _ => .refuse

instance : Form SortTerm where
  encode term := .record [("key", encode term.key), ("ascending", encode term.ascending)]
  decode := .record ["key", "ascending"] fun r => do
    return ⟨← r.field "key", ← r.field "ascending"⟩

def encodeOrder (terms : List SortTerm) : Tree := .record [("terms", encode terms)]

def decodeOrder : Decoder (List SortTerm) := .record ["terms"] fun r => r.field "terms"

instance : Form Request.Locale where
  encode locale :=
    .record [("language", encode locale.language), ("country", encode locale.country)]
  decode := .record ["language", "country"] fun r => do
    return ⟨← r.field "language", ← r.fieldOr "country" none⟩

def modeKey : LanguageMode → String
  | .exactLocale => "exact_locale"
  | .localeOnly => "locale_only"
  | .localeAndAll => "locale_and_all"
  | .allLanguages => "all_languages"
  | .allOnly => "all_only"

def modes : List LanguageMode :=
  [.exactLocale, .localeOnly, .localeAndAll, .allLanguages, .allOnly]

instance : Form LanguageMode := .ofNames modeKey modes

def operatorKey : TermOperator → String
  | .or => "or"
  | .and => "and"

instance : Form TermOperator := .ofNames operatorKey [.or, .and]

def clientKey : Client → String
  | .webClient => "web_client"
  | client => client.name

instance : Form Client := .ofNames clientKey Client.every

instance : Form Tenant where
  encode tenant :=
    .record [("multi_tenancy", encode tenant.active), ("domain", encode tenant.domain)]
  decode := .record ["multi_tenancy", "domain"] fun r => do
    return ⟨← r.field "multi_tenancy", ← r.field "domain"⟩

instance : Form Parameters where
  encode parameters :=
    .record [("default_field", encode parameters.defaultField),
      ("ml_analysis_mode", encode parameters.mode),
      ("default_operator", encode parameters.operator), ("locales", encode parameters.locales)]
  decode :=
    .record ["default_field", "ml_analysis_mode", "default_operator", "locales"] fun r => do
      return ⟨← r.field "default_field", ← r.fieldOr "ml_analysis_mode" none,
        ← r.field "default_operator", ← r.field "locales"⟩

end QueryFederation.Json
