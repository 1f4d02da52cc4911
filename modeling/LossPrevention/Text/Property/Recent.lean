/-!
What Unicode 17 adds to Unicode 16, as far as names of groups can hold it.
-/

namespace LossPrevention.Text.Property.Recent

def letters : List String :=
  ["1ov 1 r0 1 3j 1 ult 2 2 1 1 1 s 1 j7y q 12j 3 1e 2 2g4 8 g8 18 fyc p 2 p 7y 5 4qp 8 zt m ",
    "2p 37 hjh v 1 m 8 2 154q 6 4ma c gsi 3be"]

def numbers : List String :=
  ["1kgw a g7e 3"]

end LossPrevention.Text.Property.Recent
