import QueryFederation.Request.Parameters

/-! The configuration of a query engine. -/
namespace QueryFederation.Engine
open Request

structure Configuration where
  mode : LanguageMode := .localeAndAll
  locale : Request.Locale := Request.Locale.default
  operator : TermOperator := .or
  parallel : Bool := true
  /- Without a number, the machine decides. -/
  threads : Option UInt64 := none
  /- The page size of queries that set none. -/
  maxItems : UInt64 := 100
  deriving DecidableEq, Repr

inductive ConfigurationFault where
  | noThreads
  | noItems
  | noLanguage
  deriving DecidableEq, Repr

def ConfigurationFault.message : ConfigurationFault → String
  | .noThreads => "thread_pool_size must be greater than zero"
  | .noItems => "default_max_items must be greater than zero"
  | .noLanguage => "default_locale has no language"

def Configuration.fault? (config : Configuration) : Option ConfigurationFault :=
  if config.threads = some 0 then some .noThreads
  else if config.maxItems = 0 then some .noItems
  else if config.locale.language.isEmpty then some .noLanguage
  else none

def Configuration.validate (config : Configuration) : Except Fault Unit :=
  match config.fault? with
  | some fault => .error (.configuration fault.message)
  | none => .ok ()

def Configuration.parameters (config : Configuration) : Parameters :=
  { operator := config.operator, locales := [config.locale] }

end QueryFederation.Engine
