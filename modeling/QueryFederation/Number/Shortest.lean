import QueryFederation.Number.Binary
import QueryFederation.Number.Digits

/-! The fewest decimal digits that are read back as the same binary number, and of those the
nearest to it. -/
namespace QueryFederation.Number

inductive Tie where
  | up
  | toEven
  deriving DecidableEq, Repr

structure Decimal where
  digits : Nat
  exponent : Int
  deriving DecidableEq, Repr

def floorLog10 (num den : Nat) : Int :=
  if den ≤ num then ((digits (num / den)).length : Int) - 1
  else
    let guess : Int := -((digits (den / num)).length : Int)
    if den ≤ num * powerOfTen (-(guess + 1)).toNat then guess + 1 else guess

/-- A positive number and the interval of values that are rounded to it, over one denominator. -/
structure Interval where
  value : Nat
  lower : Nat
  upper : Nat
  den : Nat
  closed : Bool
  deriving DecidableEq, Repr

/- Below a power of two the next number is only half as far away as above it. -/
def Interval.ofMagnitude (format : Format) (magnitude : Nat) : Interval :=
  let scaled := format.decode magnitude
  let factor := powerOfTwo scaled.scale.toNat
  let near := scaled.mantissa = format.unit ∧ format.leastScale < scaled.scale
  { value := 4 * scaled.mantissa * factor
    lower := (4 * scaled.mantissa - (if near then 1 else 2)) * factor
    upper := (4 * scaled.mantissa + 2) * factor
    den := 4 * powerOfTwo (-scaled.scale).toNat
    closed := scaled.mantissa % 2 = 0 }

def Interval.contains (interval : Interval) (point : Nat) : Bool :=
  if interval.closed then interval.lower ≤ point && point ≤ interval.upper
  else interval.lower < point && point < interval.upper

/- Multiplies everything by a power of ten, so that multiples of the new denominator are the
decimals with that exponent. -/
def Interval.onGrid (interval : Interval) (exponent : Int) : Interval :=
  let factor := powerOfTen (-exponent).toNat
  { interval with
    value := interval.value * factor
    lower := interval.lower * factor
    upper := interval.upper * factor
    den := interval.den * powerOfTen exponent.toNat }

/- The nearer of the two grid points around the value, if it is in the interval; else the
other one, if that is. -/
def Interval.pick? (tie : Tie) (grid : Interval) : Option Nat :=
  let below := grid.value / grid.den
  let rest := grid.value % grid.den
  let up : Bool :=
    if 2 * rest = grid.den then
      match tie with
      | .up => true
      | .toEven => below % 2 == 1
    else decide (grid.den < 2 * rest)
  let first := if up then below + 1 else below
  let second := if up then below else below + 1
  if grid.contains (first * grid.den) then some first
  else if grid.contains (second * grid.den) then some second
  else none

def Decimal.trim : Nat → Decimal → Decimal
  | 0, d => d
  | steps + 1, d =>
    if d.digits ≠ 0 ∧ d.digits % 10 = 0 then Decimal.trim steps ⟨d.digits / 10, d.exponent + 1⟩
    else d

/- The shortest decimal of a positive finite magnitude. Seventeen digits always suffice for
the formats in use. -/
def shortest (format : Format) (tie : Tie) (magnitude : Nat) : Decimal :=
  let interval := Interval.ofMagnitude format magnitude
  let top := floorLog10 interval.value interval.den
  let found := (List.range 17).findSome? fun (extra : Nat) =>
    let exponent := top - extra
    ((interval.onGrid exponent).pick? tie).map fun ds => Decimal.trim 17 ⟨ds, exponent⟩
  found.getD ⟨0, 0⟩

end QueryFederation.Number
