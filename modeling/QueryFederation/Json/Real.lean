import QueryFederation.Json.Tree
import QueryFederation.Number.Digits
import QueryFederation.Number.Shortest

/-! Binary numbers as JSON numbers. Writing takes the shortest digits. Reading takes as many digits
as fit into 64 bits and scales them by a power of ten; each of the two steps rounds, so that the
number read may differ from the written one in its last bits. -/
namespace QueryFederation.Json
open Number

def digitValues (n : Nat) : List (Fin 10) := (digits n).map digitOf

def ofDigitValues (ds : List (Fin 10)) : Nat := ds.foldl (fun n d => 10 * n + d.val) 0

/- Appends digits as long as the number stays below `2 ^ 64`; the digits that are left over. -/
def absorb (n : Nat) : List (Fin 10) → Nat × List (Fin 10)
  | [] => (n, [])
  | d :: rest =>
    if 10 * n + d.val < powerOfTwo 64 then absorb (10 * n + d.val) rest else (n, d :: rest)

def greatestPower : Nat := 308

def power (exponent : Nat) : Nat := Format.double.round (powerOfTen exponent) 1

def scaleUp? (magnitude exponent : Nat) : Option Nat :=
  if magnitude = 0 then some 0
  else if greatestPower < exponent then none
  else
    let scaled := Format.double.multiply magnitude (power exponent)
    if scaled < Format.double.infinity then some scaled else none

/- Divides by powers of ten. A number below `2 ^ 64` is zero after two divisions by the
greatest of them. -/
def scaleDown : Nat → Nat → Nat → Nat
  | 0, _, _ => 0
  | steps + 1, magnitude, exponent =>
    if exponent ≤ greatestPower then Format.double.divide magnitude (power exponent)
    else
      scaleDown steps (Format.double.divide magnitude (power greatestPower))
        (exponent - greatestPower)

namespace NumberText

/- The decimal that reading works with: its digits fit into 64 bits. Digits of the whole part
that do not fit count into the exponent, and those of the fraction are left out. -/
def decimal (number : NumberText) : Decimal :=
  let (whole, beyond) := absorb 0 (digitValues number.whole)
  let (all, unused) := absorb whole number.fraction
  let taken := number.fraction.length - unused.length
  ⟨all, number.exponent.getD 0 + beyond.length - taken⟩

def magnitude? (number : NumberText) : Option Nat :=
  let decimal := number.decimal
  let significand := Format.double.round decimal.digits 1
  if 0 ≤ decimal.exponent then scaleUp? significand decimal.exponent.toNat
  else some (scaleDown 3 significand (-decimal.exponent).toNat)

def binary64? (number : NumberText) : Option Binary64 :=
  number.magnitude?.map (Binary64.ofParts number.negative)

/- Integers of 64 bits are converted directly, and other numbers by way of a double. -/
def binary32? (number : NumberText) : Option Binary32 :=
  match number.int? with
  | some z =>
    if -(powerOfTwo 63 : Int) ≤ z ∧ z < powerOfTwo 64 then some (.ofInt z)
    else number.binary64?.map Binary32.ofDouble
  | none => number.binary64?.map Binary32.ofDouble

end NumberText

structure RealStyle where
  tie : Tie
  above : Int
  atMost : Int
  deriving DecidableEq, Repr

def doubleStyle : RealStyle := ⟨.toEven, -5, 16⟩

def singleStyle : RealStyle := ⟨.toEven, -6, 13⟩

/- At least one digit follows the point, unless there is an exponent. -/
def RealStyle.write (style : RealStyle) (negative : Bool) (d : Decimal) : NumberText :=
  let ds := digitValues d.digits
  let point := (ds.length : Int) + d.exponent
  if style.above < point ∧ point ≤ style.atMost then
    if 0 ≤ d.exponent then ⟨negative, d.digits * powerOfTen d.exponent.toNat, [digitOf '0'], none⟩
    else if 0 < point then
      ⟨negative, ofDigitValues (ds.take point.toNat), ds.drop point.toNat, none⟩
    else ⟨negative, 0, List.replicate (-point).toNat (digitOf '0') ++ ds, none⟩
  else ⟨negative, ofDigitValues (ds.take 1), ds.drop 1, some (point - 1)⟩

def writeReal (format : Format) (style : RealStyle) (negative : Bool) (magnitude : Nat) : Tree :=
  if magnitude = 0 then .number ⟨negative, 0, [digitOf '0'], none⟩
  else if magnitude < format.infinity then
    .number (style.write negative (shortest format style.tie magnitude))
  else .null

def ofBinary64 (x : Binary64) : Tree := writeReal .double doubleStyle x.isNegative x.magnitude

def ofBinary32 (x : Binary32) : Tree := writeReal .single singleStyle x.isNegative x.magnitude

end QueryFederation.Json
