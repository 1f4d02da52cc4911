/-!
Decimal digits and the numbers that they write.
-/

namespace LossPrevention.Text

def digitValue (c : Char) : Nat := c.toNat - '0'.toNat

def digitsValue (ds : List Char) : Nat := ds.foldl (fun acc d => acc * 10 + digitValue d) 0

/-- The digits of a number with zeros in front up to the given width. -/
def padded (width n : Nat) : String :=
  let ds := toString n
  "".pushn '0' (width - ds.length) ++ ds

end LossPrevention.Text
