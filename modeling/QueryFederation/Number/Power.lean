/-! Powers of two and of ten. -/
namespace QueryFederation.Number

def powerOfTwo (exponent : Nat) : Nat := Nat.pow 2 exponent

def powerOfTen (exponent : Nat) : Nat := Nat.pow 10 exponent

end QueryFederation.Number
