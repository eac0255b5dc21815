import QueryFederation.Number.Shortest

/-! Decimal text of binary numbers. -/
namespace QueryFederation.Number

def positional (d : Decimal) : List Char :=
  let ds := digits d.digits
  let whole := (ds.length : Int) + d.exponent
  if 0 ≤ d.exponent then ds ++ List.replicate d.exponent.toNat '0'
  else if 0 < whole then ds.take whole.toNat ++ '.' :: ds.drop whole.toNat
  else '0' :: '.' :: List.replicate (-whole).toNat '0' ++ ds

def Binary64.plain (x : Binary64) : String :=
  if x.isNaN then "NaN"
  else
    String.ofList <| withSign x.isNegative <|
      if x.magnitude = 0 then ['0']
      else if x.isFinite then positional (shortest .double .up x.magnitude)
      else ['i', 'n', 'f']

end QueryFederation.Number
