import QueryFederation.Json.Document
import QueryFederation.Json.Engine

/-! Configurations as texts and files. -/
namespace QueryFederation.Engine.Configuration

def read (s : String) : Except Fault Configuration := do
  let config : Configuration ← Json.read s
  config.validate
  return config

def ofFile (contents : Except String String) : Except Fault Configuration :=
  match contents with
  | .ok s => read s
  | .error reason => .error (.file reason)

def text (config : Configuration) : String := (Json.encode config).writeLines

end QueryFederation.Engine.Configuration
