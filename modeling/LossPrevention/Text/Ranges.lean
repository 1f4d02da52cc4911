/-!
Sets of code points as ascending ranges, and their written form: the lengths of the runs outside
and inside the set in turn, in base 36.
-/

namespace LossPrevention.Text.Ranges

def contains (ranges : List (Nat × Nat)) (n : Nat) : Bool :=
  ranges.any (fun r => r.1 ≤ n && n ≤ r.2)

def digitValue (c : Char) : Nat :=
  if c.isDigit then c.toNat - '0'.toNat else c.toNat - 'a'.toNat + 10

/-- The numbers of a text that has a blank after each but the last one. -/
def numbers (base : Nat) (cs : List Char) : List Nat :=
  let (last, others) := cs.foldl
    (fun (n, done) c => if c = ' ' then (0, n :: done) else (n * base + digitValue c, done))
    (0, [])
  (last :: others).reverse

/-- Adds up the runs from `start` on. -/
def ofRuns (start : Nat) : List Nat → List (Nat × Nat)
  | gap :: run :: rest => (start + gap, start + gap + run - 1) :: ofRuns (start + gap + run) rest
  | _ => []

/-- The ranges of a written form that may be cut into several lines. -/
def decode (lines : List String) : List (Nat × Nat) :=
  let text := String.join lines
  if text.isEmpty then [] else ofRuns 0 (numbers 36 text.toList)

/-! ### Sets as ascending ranges that do not touch -/

def top : Nat := 0x10ffff

/-- Joins ranges that overlap or touch, in a list that ascends by the starts. -/
def join : List (Nat × Nat) → List (Nat × Nat)
  | [] => []
  | r :: rest => go r rest
where
  go (r : Nat × Nat) : List (Nat × Nat) → List (Nat × Nat)
    | [] => [r]
    | s :: rest => if s.1 ≤ r.2 + 1 then go (r.1, max r.2 s.2) rest else r :: go s rest

def normal (ranges : List (Nat × Nat)) : List (Nat × Nat) :=
  join (ranges.mergeSort (fun r s => r.1 ≤ s.1))

def union (a b : List (Nat × Nat)) : List (Nat × Nat) := normal (a ++ b)

/-- What ascending ranges leave out from `start` on. -/
def gaps (start : Nat) : List (Nat × Nat) → List (Nat × Nat)
  | [] => if start ≤ top then [(start, top)] else []
  | r :: rest =>
      if start < r.1 then (start, r.1 - 1) :: gaps (r.2 + 1) rest else gaps (r.2 + 1) rest

def compl (a : List (Nat × Nat)) : List (Nat × Nat) := gaps 0 a

def inter (a b : List (Nat × Nat)) : List (Nat × Nat) := compl (union (compl a) (compl b))

end LossPrevention.Text.Ranges
