import QueryFederation.Engine.Run
import QueryFederation.Json.Request

/-! The JSON forms of configurations and of queries with several selectors. -/
namespace QueryFederation.Json
open Request Engine

instance : Form Selector where
  encode selector :=
    .record [("name", encode selector.name), ("type_name", encode selector.type),
      ("predicate", encode selector.predicate), ("sort", encodeOrder selector.sort)]
  decode := .record ["name", "type_name", "predicate", "sort"] fun r => do
    return ⟨← r.field "name", ← r.fieldOr "type_name" none, ← r.field "predicate",
      ← r.fieldWith decodeOrder "sort"⟩

instance : Form FederatedQuery where
  encode query :=
    .record [("statement", encode query.statement), ("selectors", encode query.selectors),
      ("skip_count", encode query.skip), ("max_items", encode query.maxItems)]
  decode := .record ["statement", "selectors", "skip_count", "max_items"] fun r => do
    return ⟨← r.field "statement", ← r.field "selectors", ← r.field "skip_count",
      ← r.fieldOr "max_items" none⟩

def configurationFields (config : Configuration) : List (String × Tree) :=
  [("default_ml_analysis_mode", encode config.mode), ("default_locale", encode config.locale),
    ("default_operator", encode config.operator), ("parallel_execution", encode config.parallel),
    ("thread_pool_size", encode config.threads), ("default_max_items", encode config.maxItems)]

/- What a configuration leaves out has its default. -/
def buildConfiguration (r : Record) : Option Configuration := do
  let standard : Configuration := {}
  return { mode := ← r.fieldOr "default_ml_analysis_mode" standard.mode
           locale := ← r.fieldOr "default_locale" standard.locale
           operator := ← r.fieldOr "default_operator" standard.operator
           parallel := ← r.fieldOr "parallel_execution" standard.parallel
           threads := ← r.fieldOr "thread_pool_size" standard.threads
           maxItems := ← r.fieldOr "default_max_items" standard.maxItems }

instance : Form Configuration where
  encode config := .record (configurationFields config)
  decode :=
    .sparseRecord
      ["default_ml_analysis_mode", "default_locale", "default_operator", "parallel_execution",
        "thread_pool_size", "default_max_items"]
      buildConfiguration

end QueryFederation.Json
