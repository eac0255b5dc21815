import QueryFederation.Calendar.Reading
import QueryFederation.Calendar.Written
import QueryFederation.Json.Real

/-! The JSON form of values: how each is written as a tree and read from one. Reading follows
only so many levels of nesting, and ignores what it has no use for, however deep that may be. -/
namespace QueryFederation.Json
open Number

/-- Reads a value from a tree. The number says how many levels further down it may go. -/
def Decoder (α : Type) : Type := Nat → Tree → Option α

class Form (α : Type) where
  encode : α → Tree
  decode : Decoder α

export Form (encode decode)

def deepest : Nat := 127

structure Record where
  levels : Nat
  fields : List (String × Tree)

namespace Record

variable {α : Type}

def fieldWith (record : Record) (decoder : Decoder α) (name : String) : Option α := do
  decoder record.levels (← record.fields.lookup name)

def field [Form α] (record : Record) (name : String) : Option α := record.fieldWith decode name

def fieldOr [Form α] (record : Record) (name : String) (default : α) : Option α :=
  match record.fields.lookup name with
  | some tree => decode record.levels tree
  | none => some default

end Record

namespace Decoder

variable {α β : Type}

def refuse : Decoder α := fun _ _ => none

def map (f : α → β) (decoder : Decoder α) : Decoder β := fun levels tree =>
  (decoder levels tree).map f

def inside (decoder : Decoder α) : Decoder α
  | 0, _ => none
  | levels + 1, tree => decoder levels tree

def list (item : Decoder α) : Decoder (List α) := inside fun levels tree =>
  match tree with
  | .array items => items.mapM (item levels)
  | _ => none

def optional (value : Decoder α) : Decoder (Option α)
  | _, .null => some none
  | levels, tree => (value levels tree).map some

/- The members of an object by name. Every name must be a text. -/
def namedMembers? (members : List (Option String × Tree)) : Option (List (String × Tree)) :=
  members.mapM fun (name, value) => name.map (·, value)

/- A record with these fields: an object, in which other names are ignored, or an array of the
values in order. The array is acceptable if its length is. -/
def recordWhere (lengthOk : Nat → Bool) (names : List String) (build : Record → Option α) :
    Decoder α := inside fun levels tree =>
  match tree with
  | .object members => do
    let fields ← namedMembers? members
    guard (names.all fun name => fields.countP (·.1 == name) ≤ 1)
    build ⟨levels, fields⟩
  | .array items => do
    guard (lengthOk items.length)
    build ⟨levels, names.zip items⟩
  | _ => none

def record (names : List String) (build : Record → Option α) : Decoder α :=
  recordWhere (· == names.length) names build

def sparseRecord (names : List String) (build : Record → Option α) : Decoder α :=
  recordWhere (· ≤ names.length) names build

/- One of several kinds of values, by the name of the kind: an object with that name only, or
the name by itself, which has no value. -/
def choice (kind : String → Decoder α) : Decoder α := fun levels tree =>
  match tree with
  | .text (some name) => kind name levels .null
  | .object [(some name, value)] => inside (kind name) levels value
  | _ => none

def unit (value : α) : Decoder α
  | _, .null => some value
  | _, _ => none

def unroll (step : Decoder α → Decoder α) : Nat → Decoder α
  | 0 => refuse
  | steps + 1 => step (unroll step steps)

def nested (step : Decoder α → Decoder α) : Decoder α := fun levels =>
  unroll step (levels + 1) levels

end Decoder

namespace Form

variable {α : Type}

@[reducible] def ofNames (name : α → String) (every : List α) : Form α where
  encode value := .ofString (name value)
  decode := .choice fun s =>
    match every.find? fun value => name value == s with
    | some value => .unit value
    | none => .refuse

instance [Form α] : Form (Option α) where
  encode
    | some value => encode value
    | none => .null
  decode := .optional decode

instance [Form α] : Form (List α) where
  encode values := .array (values.map encode)
  decode := .list decode

instance : Form Bool where
  encode := .bool
  decode
    | _, .bool value => some value
    | _, _ => none

instance : Form String where
  encode := .ofString
  decode
    | _, .text value => value
    | _, _ => none

def decodeInt (least bound : Int) : Decoder Int
  | _, .number value => do
    let z ← value.int?
    guard (least ≤ z ∧ z < bound)
    return z
  | _, _ => none

/- Counts have 64 bits. -/
instance : Form Nat where
  encode n := .number (.ofNat n)
  decode := (decodeInt 0 (powerOfTwo 64)).map Int.toNat

instance : Form UInt64 where
  encode n := encode n.toNat
  decode := (decode : Decoder Nat).map Nat.toUInt64

instance : Form Int64 where
  encode z := .number (.ofInt z.toInt)
  decode := (decodeInt (-powerOfTwo 63) (powerOfTwo 63)).map Int64.ofInt

instance : Form Binary64 where
  encode := ofBinary64
  decode
    | _, .number value => value.binary64?
    | _, _ => none

instance : Form Binary32 where
  encode := ofBinary32
  decode
    | _, .number value => value.binary32?
    | _, _ => none

instance : Form Calendar.Instant where
  encode instant := .ofString (String.ofList (instant.write .asNeeded))
  decode
    | _, .text (some s) => Calendar.readLoose? s.toList
    | _, _ => none

end Form

end QueryFederation.Json
