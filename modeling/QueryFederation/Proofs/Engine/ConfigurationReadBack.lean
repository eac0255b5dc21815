import Mathlib
import QueryFederation.Engine.ConfigurationText
import QueryFederation.Proofs.Json.ReadBack
import QueryFederation.Proofs.Success

/-! A configuration is read back from its text, and so is what is left of it when keys are taken out
of the text. Whatever is read has been validated. -/
namespace QueryFederation.Engine.Configuration
open Json Request

/- Keys that are not kept leave the value that every configuration starts with. -/
def keeping (config : Configuration) (keep : String → Bool) : Configuration :=
  let standard : Configuration := {}
  { mode := if keep "default_ml_analysis_mode" then config.mode else standard.mode
    locale := if keep "default_locale" then config.locale else standard.locale
    operator := if keep "default_operator" then config.operator else standard.operator
    parallel := if keep "parallel_execution" then config.parallel else standard.parallel
    threads := if keep "thread_pool_size" then config.threads else standard.threads
    maxItems := if keep "default_max_items" then config.maxItems else standard.maxItems }

def keptTree (config : Configuration) (keep : String → Bool) : Tree :=
  .record ((configurationFields config).filter fun field => keep field.1)

/- The text stands for the configuration, if that is a valid one. -/
structure ReadAs (s : String) (config : Configuration) : Prop where
  accepted : config.validate = .ok () → read s = .ok config
  refused : ∀ fault, config.validate = .error fault → read s = .error fault ∧
    ∃ reason : ConfigurationFault, fault = .configuration reason.message

structure ReadBack (config : Configuration) : Prop where
  whole : ReadAs config.text config
  kept : ∀ keep cs, Spells cs (config.keptTree keep).tokens →
    ReadAs (String.ofList cs) (config.keeping keep)

variable {config : Configuration} {keep : String → Bool} {levels : Nat}

theorem configurationDecode (levels : Nat) (tree : Tree) :
    (decode levels tree : Option Configuration) =
      Decoder.sparseRecord
        ["default_ml_analysis_mode", "default_locale", "default_operator", "parallel_execution",
          "thread_pool_size", "default_max_items"] buildConfiguration levels tree := rfl

theorem keysUnrepeated (config : Configuration) :
    ((configurationFields config).map Prod.fst).Nodup := by
  simp [configurationFields]

def keptRecord (config : Configuration) (keep : String → Bool) (levels : Nat) : Record :=
  ⟨levels, (configurationFields config).filter fun field => keep field.1⟩

/- A locale is a record in the record. -/
theorem buildKept (config : Configuration) (keep : String → Bool) (levels : Nat) :
    buildConfiguration (config.keptRecord keep (levels + 1)) = some (config.keeping keep) := by
  have kept {α : Type} [Form α] (name : String) {value : α} (default : α)
      (written : (name, encode value) ∈ configurationFields config)
      (back : ReadsBack (levels + 1) value) :
      (config.keptRecord keep (levels + 1)).fieldOr name default =
        some (if keep name then value else default) :=
    fieldOrKept (keysUnrepeated config) default keep written back
  have mode (default : LanguageMode) := kept "default_ml_analysis_mode" default
    (by simp [configurationFields]) (modeReadsBack config.mode)
  have locale (default : Request.Locale) := kept "default_locale" default
    (by simp [configurationFields]) (localeReadsBack config.locale)
  have operator (default : TermOperator) := kept "default_operator" default
    (by simp [configurationFields]) (operatorReadsBack config.operator)
  have parallel (default : Bool) := kept "parallel_execution" default
    (by simp [configurationFields]) (boolReadsBack config.parallel)
  have threads (default : Option UInt64) := kept "thread_pool_size" default
    (by simp [configurationFields]) (optionReadsBack wordPresent wordReadsBack config.threads)
  have maxItems (default : UInt64) := kept "default_max_items" default
    (by simp [configurationFields]) (wordReadsBack config.maxItems)
  simp only [buildConfiguration, mode, locale, operator, parallel, threads, maxItems]
  rfl

theorem keptTreeDecode (config : Configuration) (keep : String → Bool) :
    decode deepest (config.keptTree keep) = some (config.keeping keep) := by
  have unrepeated : (((configurationFields config).filter fun field => keep field.1).map
      Prod.fst).Nodup := (keysUnrepeated config).sublist (List.filter_sublist.map _)
  rw [configurationDecode, keptTree, Decoder.sparseRecord, deepest, recordRead unrepeated]
  exact buildKept config keep 125

theorem keepingAll (config : Configuration) : config.keeping (fun _ => true) = config := rfl

theorem keptTreeAll (config : Configuration) : config.keptTree (fun _ => true) = encode config := by
  rw [keptTree, List.filter_true]
  rfl

theorem readTree {s : String} {tree : Tree} (parsed : Tree.read? s = some tree)
    (decoded : decode deepest tree = some config) : ReadAs s config := by
  have read : (Json.read s : Except Fault Configuration) = .ok config := by
    simp only [Json.read, Json.readWith, parsed, decoded]
  have ends : Configuration.read s = config.validate >>= fun _ => .ok config := by
    rw [Configuration.read, read]
    rfl
  constructor
  · intro valid
    rw [ends, valid]
    rfl
  · intro fault invalid
    rw [ends, invalid]
    refine ⟨rfl, ?_⟩
    unfold validate at invalid
    split at invalid
    · rename_i reason _
      cases invalid
      exact ⟨reason, rfl⟩
    · contradiction

/- Taking keys out of a text may make the rest of it invalid or valid. -/
theorem configurationReadBack :
    (∀ config : Configuration, config.ReadBack) ∧
      ∀ s config, Configuration.read s = .ok config → config.validate = .ok () := by
  refine ⟨fun config => ⟨?_, fun keep cs spells => ?_⟩, fun s config accepted => ?_⟩
  · refine readTree (readWriteLines (encode config)) ?_
    rw [← keptTreeAll, keptTreeDecode, keepingAll]
  · exact readTree (readSpelled spells) (keptTreeDecode config keep)
  · obtain ⟨decoded, -, more⟩ := bindSucceeds.mp accepted
    obtain ⟨_, valid, built⟩ := bindSucceeds.mp more
    cases built
    exact valid

def hurried : Configuration :=
  { locale := ⟨"f\"\\\n", some "CA"⟩, operator := .and, parallel := false, threads := some 0,
    maxItems := 18446744073709551615 }

def withoutThreads (key : String) : Bool :=
  key != "thread_pool_size" && key != "parallel_execution"

/- Without the number of threads the text stands for a valid configuration, over several lines. -/
theorem hurriedReadBack :
    Configuration.read hurried.text =
      .error (.configuration "thread_pool_size must be greater than zero") ∧
    Spells ((hurried.keptTree withoutThreads).layOut 0) (hurried.keptTree withoutThreads).tokens ∧
    Configuration.read (String.ofList ((hurried.keptTree withoutThreads).layOut 0)) =
      .ok { hurried with parallel := true, threads := none } ∧
    (hurried.keeping withoutThreads).validate = .ok () := by
  obtain ⟨each, validated⟩ := configurationReadBack
  have spells := spellsLines (hurried.keptTree withoutThreads)
  have invalid : hurried.validate =
      .error (.configuration "thread_pool_size must be greater than zero") := by decide
  have accepted := ((each hurried).kept withoutThreads _ spells).accepted (by decide)
  have left : hurried.keeping withoutThreads =
      { hurried with parallel := true, threads := none } := by decide
  exact ⟨((each hurried).whole.refused _ invalid).1, spells, left ▸ accepted,
    validated _ _ accepted⟩

end QueryFederation.Engine.Configuration
