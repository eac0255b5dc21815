import Mathlib
import QueryFederation.Json.Document
import QueryFederation.Json.Request
import QueryFederation.Json.RoundTrip
import QueryFederation.Proofs.Order

/-! Values are read back from the trees that they are written as. Of a record this holds field by
field, whichever of the other fields are there. -/
namespace QueryFederation.Json
open Number Request

variable {α : Type} {levels : Nat}

def ReadsBack [Form α] (levels : Nat) (value : α) : Prop :=
  decode levels (encode value) = some value

theorem textReadsBack (s : String) : ReadsBack levels s := rfl

theorem boolReadsBack (value : Bool) : ReadsBack levels value := rfl

theorem natDecoded {n bound : Nat} (levels : Nat) (small : n < bound) :
    Form.decodeInt 0 bound levels (.number (.ofNat n)) = some (n : Int) := by
  simp [Form.decodeInt, NumberText.int?, NumberText.ofNat, small]

theorem natEncode (n : Nat) : encode n = .number (.ofNat n) := rfl

theorem natDecode (levels : Nat) (tree : Tree) : (decode levels tree : Option Nat) =
    (Form.decodeInt 0 (powerOfTwo 64) levels tree).map Int.toNat := rfl

theorem natReadsBack {n : Nat} (small : n < powerOfTwo 64) : ReadsBack levels n := by
  rw [ReadsBack, natDecode, natEncode, natDecoded levels small]
  rfl

theorem wordEncode (value : UInt64) : encode value = encode value.toNat := rfl

theorem wordDecode (levels : Nat) (tree : Tree) : (decode levels tree : Option UInt64) =
    (decode levels tree : Option Nat).map Nat.toUInt64 := rfl

theorem wordReadsBack (value : UInt64) : ReadsBack levels value := by
  have small : value.toNat < powerOfTwo 64 := value.toNat_lt
  have back : ReadsBack levels value.toNat := natReadsBack small
  rw [ReadsBack, wordDecode, wordEncode, back, Option.map_some]
  exact congrArg some UInt64.ofNat_toNat

theorem namesReadBack {name : α → String} {every : List α} {value : α} (levels : Nat)
    (named : every.find? (fun other => name other == name value) = some value) :
    (Form.ofNames name every).decode levels ((Form.ofNames name every).encode value) =
      some value := by
  unfold Form.ofNames Tree.ofString
  dsimp only [Decoder.choice]
  rw [named]
  rfl

theorem modeReadsBack (mode : LanguageMode) : ReadsBack levels mode :=
  namesReadBack levels (by cases mode <;> decide)

theorem operatorReadsBack (operator : TermOperator) : ReadsBack levels operator :=
  namesReadBack levels (by cases operator <;> decide)

theorem optionalPresent (value : Decoder α) {tree : Tree} (present : tree ≠ .null) :
    Decoder.optional value levels tree = (value levels tree).map some := by
  cases tree with
  | null => exact absurd rfl present
  | _ => rfl

/- What is there is told from what is not. -/
theorem optionReadsBack [Form α] (present : ∀ value : α, encode value ≠ .null)
    (each : ∀ value : α, ReadsBack levels value) (value : Option α) : ReadsBack levels value := by
  cases value with
  | none => rfl
  | some value =>
    exact (optionalPresent decode (present value)).trans (congrArg (Option.map some) (each value))

section Records
variable {fields : List (String × Tree)}

theorem membersNamed : Decoder.namedMembers?
    (fields.map fun (name, value) => (some name, value)) = some fields := by
  rw [Decoder.namedMembers?, List.mapM_map]
  induction fields with
  | nil => rfl
  | cons field rest ih => simp [ih]

variable (unrepeated : (fields.map Prod.fst).Nodup)
include unrepeated

theorem recordRead {lengthOk : Nat → Bool} {names : List String} {build : Record → Option α} :
    Decoder.recordWhere lengthOk names build (levels + 1) (.record fields) =
      build ⟨levels, fields⟩ := by
  have once : names.all (fun name => fields.countP (·.1 == name) ≤ 1) = true := by
    refine List.all_eq_true.mpr fun name _ => decide_eq_true ?_
    have counted := List.nodup_iff_count_le_one.mp unrepeated name
    rwa [List.count, List.countP_map] at counted
  simp only [Decoder.recordWhere, Decoder.inside, Tree.record, membersNamed, Option.bind_eq_bind,
    Option.bind_some, once]
  rfl

theorem fieldRead [Form α] {name : String} {value : α} (written : (name, encode value) ∈ fields)
    (back : ReadsBack levels value) : Record.field ⟨levels, fields⟩ name = some value := by
  rw [Record.field, Record.fieldWith, (Order.lookupMember unrepeated).mpr written]
  exact back

theorem fieldOrRead [Form α] {name : String} {value default : α}
    (written : (name, encode value) ∈ fields) (back : ReadsBack levels value) :
    Record.fieldOr ⟨levels, fields⟩ name default = some value := by
  rw [Record.fieldOr, (Order.lookupMember unrepeated).mpr written]
  exact back

/- A field that is left out has its default. What is left out besides makes no difference. -/
theorem fieldOrKept [Form α] {name : String} {value : α} (default : α) (keep : String → Bool)
    (written : (name, encode value) ∈ fields) (back : ReadsBack levels value) :
    Record.fieldOr ⟨levels, fields.filter fun field => keep field.1⟩ name default =
      some (if keep name then value else default) := by
  cases known : keep name with
  | true =>
    exact fieldOrRead (unrepeated.sublist (List.filter_sublist.map _))
      (List.mem_filter.mpr ⟨written, known⟩) back
  | false =>
    rw [Record.fieldOr, Order.lookupFilter, known]
    rfl

end Records

theorem textPresent (s : String) : encode s ≠ .null := Tree.noConfusion

theorem wordPresent (value : UInt64) : encode value ≠ .null := Tree.noConfusion

def localeFields (locale : Request.Locale) : List (String × Tree) :=
  [("language", encode locale.language), ("country", encode locale.country)]

theorem localeEncode (locale : Request.Locale) :
    encode locale = .record (localeFields locale) := rfl

theorem localeDecode (levels : Nat) (tree : Tree) : (decode levels tree : Option Request.Locale) =
    Decoder.record ["language", "country"] (fun r => do
      return ⟨← r.field "language", ← r.fieldOr "country" none⟩) levels tree := rfl

theorem localeReadsBack (locale : Request.Locale) : ReadsBack (levels + 1) locale := by
  have unrepeated : ((localeFields locale).map Prod.fst).Nodup := by simp [localeFields]
  have language : Record.field ⟨levels, localeFields locale⟩ "language" = some locale.language :=
    fieldRead unrepeated (by simp [localeFields]) (textReadsBack locale.language)
  have country (default : Option String) :
      Record.fieldOr ⟨levels, localeFields locale⟩ "country" default = some locale.country :=
    fieldOrRead unrepeated (by simp [localeFields])
      (optionReadsBack textPresent textReadsBack locale.country)
  rw [ReadsBack, localeDecode, localeEncode, Decoder.record, recordRead unrepeated, language,
    country]
  rfl

end QueryFederation.Json
