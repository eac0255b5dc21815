import QueryFederation.Unicode.AlphanumericTable

namespace QueryFederation.Unicode

def isAlphanumeric (c : Char) : Bool := inRanges c.toNat alphanumericRanges

end QueryFederation.Unicode
