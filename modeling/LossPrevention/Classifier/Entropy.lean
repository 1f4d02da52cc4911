/-!
How evenly a text uses its characters, in bits a character.
-/

namespace LossPrevention.Classifier.Entropy

/-- Counts one more `c`; a new character goes to the end. -/
def count (c : Char) : List (Char × Nat) → List (Char × Nat)
  | [] => [(c, 1)]
  | (d, n) :: rest => if d = c then (d, n + 1) :: rest else (d, n) :: count c rest

def frequencies (content : List Char) : List (Char × Nat) :=
  content.foldl (fun acc c => count c acc) []

/-- An order in which the counts of a text are added up. A table of counts has an order of its own
each time it is made, and the rounding of a sum may hang on it. -/
structure Order where
  arrange : List (Char × Nat) → List (Char × Nat)
  perm : ∀ counts, (arrange counts).Perm counts

/-- Each character where it comes first. -/
def Order.asWritten : Order := ⟨id, fun counts => .refl counts⟩

def share (length n : Nat) : Float :=
  let p := n.toFloat / length.toFloat
  p * -p.log2

/-- The sum of `-p log₂ p` over the share `p` of each character. The sum starts at `-0.0`, which
changes no other number, so that a text of one character repeated has entropy `-0.0`. -/
def shannon (order : Order) (content : List Char) : Float :=
  if content.isEmpty then 0.0
  else (order.arrange (frequencies content)).foldl
    (fun sum e => sum + share content.length e.2) (-0.0)

end LossPrevention.Classifier.Entropy
