import LossPrevention.Pattern.Basic

/-!
Whether a text holds a match, without looking for the best one. A set of places is a number, bit
`i` of which stands for the place behind `i` characters, and a pattern takes the set of places
where it may start to the set of those where it may end.
-/

namespace LossPrevention.Pattern.Reach

/-- Bit `i` says whether character `i` is in the set. -/
def members (s : Text.CharSet) : List Char → Nat
  | [] => 0
  | c :: cs => (if s.contains c then 1 else 0) + 2 * members s cs

/-- Bit `i` says whether the demand is met behind `i` characters. -/
def meets (l : Look) (before : Option Char) : List Char → Nat
  | [] => if l.holds before none then 1 else 0
  | c :: cs => (if l.holds before (some c) then 1 else 0) + 2 * meets l (some c) cs

/-- A pattern for one text: sets and demands are the places where they hold. -/
inductive Moves where
  | stay
  | over (mask : Nat)
  | at (mask : Nat)
  | seq (p q : Moves)
  | alt (p q : Moves)
  | rep (p : Moves) (least : Nat) (most : Option Nat)

def moves (text : List Char) : Pattern → Moves
  | .empty => .stay
  | .set s => .over (members s text)
  | .look l => .at (meets l none text)
  | .seq p q => .seq (moves text p) (moves text q)
  | .alt p q => .alt (moves text p) (moves text q)
  | .rep p least most _ => .rep (moves text p) least most
  | .group _ p => moves text p

/-- Just `n` steps; there is nothing more to do once another one changes nothing. -/
def exactly (f : Nat → Nat) : Nat → Nat → Nat
  | 0, s => s
  | n + 1, s =>
      let next := f s
      if next = s then s else exactly f n next

/-- Adds what at most `n` steps from `front` reach to `all`; only new places go on. -/
def upTo (f : Nat → Nat) : Nat → Nat → Nat → Nat
  | 0, all, _ => all
  | n + 1, all, front =>
      let next := all ||| f front
      if next = all then all else upTo f n next (next ^^^ all)

/-- The places that the moves lead to from any of the given ones, in a text of `length`. -/
def reach (length : Nat) : Moves → Nat → Nat
  | .stay, s => s
  | .over mask, s => (s &&& mask) <<< 1
  | .at mask, s => s &&& mask
  | .seq p q, s => reach length q (reach length p s)
  | .alt p q, s => reach length p s ||| reach length q s
  | .rep p least most, s =>
      let s := exactly (reach length p) least s
      let limit := match most with
        | some m => min (m - least) (length + 1)
        | none => length + 1
      upTo (reach length p) limit s s

end Reach

/-- Whether some part of the text matches. -/
def isMatch (p : Pattern) (text : List Char) : Bool :=
  Reach.reach text.length (Reach.moves text p) (Nat.pow 2 (text.length + 1) - 1) ≠ 0

end LossPrevention.Pattern
