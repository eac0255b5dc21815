import QueryFederation.Number.Power

/-! Binary floating-point numbers, kept as their bits. A magnitude is the bits without the sign;
magnitudes grow with the values they stand for. Every conversion rounds an exact ratio once, to
the nearest magnitude, and a tie goes to the even one. -/
namespace QueryFederation.Number

structure Format where
  exponentBits : Nat
  fractionBits : Nat
  deriving DecidableEq, Repr

structure Scaled where
  mantissa : Nat
  scale : Int
  deriving DecidableEq, Repr

def roundDiv (num den : Nat) : Nat :=
  let quotient := num / den
  let rest := num % den
  if 2 * rest < den then quotient
  else if den < 2 * rest then quotient + 1
  else quotient + quotient % 2

def floorLog2 (num den : Nat) : Int :=
  let guess := (num.log2 : Int) - den.log2
  if den * powerOfTwo guess.toNat ≤ num * powerOfTwo (-guess).toNat then guess else guess - 1

namespace Format

def double : Format := ⟨11, 52⟩

def single : Format := ⟨8, 23⟩

def unit (format : Format) : Nat := powerOfTwo format.fractionBits

def infinity (format : Format) : Nat := (powerOfTwo format.exponentBits - 1) * format.unit

def signUnit (format : Format) : Nat := powerOfTwo (format.exponentBits + format.fractionBits)

def leastScale (format : Format) : Int :=
  2 - (powerOfTwo (format.exponentBits - 1) : Int) - (format.fractionBits : Int)

def decode (format : Format) (magnitude : Nat) : Scaled :=
  let exponent := magnitude / format.unit
  let fraction := magnitude % format.unit
  if exponent = 0 then ⟨fraction, format.leastScale⟩
  else ⟨format.unit + fraction, format.leastScale + (exponent - 1 : Nat)⟩

def round (format : Format) (num den : Nat) : Nat :=
  if num = 0 then 0
  else
    let scale := max format.leastScale (floorLog2 num den - format.fractionBits)
    let mantissa := roundDiv (num * powerOfTwo (-scale).toNat) (den * powerOfTwo scale.toNat)
    min format.infinity ((scale - format.leastScale).toNat * format.unit + mantissa)

def multiply (format : Format) (a b : Nat) : Nat :=
  let x := format.decode a
  let y := format.decode b
  let scale := x.scale + y.scale
  format.round (x.mantissa * y.mantissa * powerOfTwo scale.toNat) (powerOfTwo (-scale).toNat)

def divide (format : Format) (a b : Nat) : Nat :=
  let x := format.decode a
  let y := format.decode b
  let scale := x.scale - y.scale
  format.round (x.mantissa * powerOfTwo scale.toNat) (y.mantissa * powerOfTwo (-scale).toNat)

/- The magnitude nearest to `mantissa * 10 ^ exponent`. Far beyond the greatest number the
answer is infinity, and far below the least it is zero. -/
def ofDecimal (format : Format) (mantissa : Nat) (exponent : Int) : Nat :=
  let length := (mantissa.log2 / 3 : Int) + 1
  if mantissa = 0 ∨ exponent + length < -400 then 0
  else if 400 < exponent then format.infinity
  else format.round (mantissa * powerOfTen exponent.toNat) (powerOfTen (-exponent).toNat)

end Format

structure Binary64 where
  bits : UInt64
  deriving DecidableEq, Repr

namespace Binary64

def isNegative (x : Binary64) : Bool := decide (Format.double.signUnit ≤ x.bits.toNat)

def magnitude (x : Binary64) : Nat := x.bits.toNat % Format.double.signUnit

def isNaN (x : Binary64) : Bool := decide (Format.double.infinity < x.magnitude)

def isFinite (x : Binary64) : Bool := decide (x.magnitude < Format.double.infinity)

def ofParts (negative : Bool) (magnitude : Nat) : Binary64 :=
  ⟨((if negative then Format.double.signUnit else 0) + magnitude).toUInt64⟩

def nan (negative : Bool) : Binary64 :=
  ofParts negative (Format.double.infinity + Format.double.unit / 2)

def ofInt (z : Int) : Binary64 := ofParts (z < 0) (Format.double.round z.natAbs 1)

end Binary64

structure Binary32 where
  bits : UInt32
  deriving DecidableEq, Repr

namespace Binary32

def isNegative (x : Binary32) : Bool := decide (Format.single.signUnit ≤ x.bits.toNat)

def magnitude (x : Binary32) : Nat := x.bits.toNat % Format.single.signUnit

def isFinite (x : Binary32) : Bool := decide (x.magnitude < Format.single.infinity)

def ofParts (negative : Bool) (magnitude : Nat) : Binary32 :=
  ⟨((if negative then Format.single.signUnit else 0) + magnitude).toUInt32⟩

def ofInt (z : Int) : Binary32 := ofParts (z < 0) (Format.single.round z.natAbs 1)

def ofDouble (x : Binary64) : Binary32 :=
  let value := Format.double.decode x.magnitude
  ofParts x.isNegative
    (Format.single.round (value.mantissa * powerOfTwo value.scale.toNat)
      (powerOfTwo (-value.scale).toNat))

end Binary32

end QueryFederation.Number
