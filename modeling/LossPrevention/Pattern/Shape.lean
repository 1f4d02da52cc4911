import LossPrevention.Pattern.Basic
import LossPrevention.Text.Utf8

/-!
The shape of a pattern: what is left of it when neighbouring characters are put together, sets are
spelled out as ranges, alternatives that are sets become one set, and parts that all alternatives
start with are written once. The room that a pattern takes is told from its shape.
-/

namespace LossPrevention.Pattern

inductive Shape where
  | empty
  /-- Characters one behind the other, at least one. -/
  | text (cs : List Nat)
  /-- Ranges of characters; `bytes` if the class is made of bytes. -/
  | set (ranges : List (Nat × Nat)) (bytes : Bool)
  | look (l : Look)
  | rep (p : Shape) (least : Nat) (most : Option Nat) (greedy : Bool)
  /-- A part that keeps what it spans. -/
  | keep (p : Shape)
  | seq (ps : List Shape)
  | alt (ps : List Shape)

namespace Shape

/-! ### What a shape can match -/

mutual

/-- Whether it matches nothing but the empty text. -/
def onlyEmpty : Shape → Bool
  | empty => true
  | text _ => false
  | set _ _ => false
  | look _ => true
  | rep p _ _ _ => p.onlyEmpty
  | keep p => p.onlyEmpty
  | seq ps => allOnlyEmpty ps
  | alt ps => allOnlyEmpty ps

def allOnlyEmpty : List Shape → Bool
  | [] => true
  | p :: ps => p.onlyEmpty && allOnlyEmpty ps

end

/-- The sum of two lengths, one of which may be of a part that never matches. -/
def addLength (a b : Option Nat) : Option Nat := a.bind (fun a => b.map (a + ·))

def minLength (a b : Option Nat) : Option Nat := a.bind (fun a => b.map (min a))

mutual

/-- The least number of bytes of a match, as far as every alternative has one. -/
def leastLength : Shape → Option Nat
  | empty => some 0
  | text cs => some (cs.flatMap Text.Utf8.encode).length
  | set ranges _ => ranges.head?.map (fun r => (Text.Utf8.encode r.1).length)
  | look _ => some 0
  | rep p least _ _ => p.leastLength.map (least * ·)
  | keep p => p.leastLength
  | seq ps => sumLength ps
  | alt ps => leastOf ps

def sumLength : List Shape → Option Nat
  | [] => some 0
  | p :: ps => addLength p.leastLength (sumLength ps)

def leastOf : List Shape → Option Nat
  | [] => none
  | [p] => p.leastLength
  | p :: ps => minLength p.leastLength (leastOf ps)

end

mutual

def startsWith (l : Look) : Shape → Bool
  | look l' => l = l'
  | rep p least _ _ => 0 < least && p.startsWith l
  | keep p => p.startsWith l
  | seq ps => seqStarts l ps
  | alt ps => altStarts l ps
  | _ => false

def seqStarts (l : Look) : List Shape → Bool
  | [] => false
  | p :: ps => p.startsWith l || (p.onlyEmpty && seqStarts l ps)

def altStarts (l : Look) : List Shape → Bool
  | [] => true
  | p :: ps => p.startsWith l && altStarts l ps

end

mutual

def endsWith (l : Look) : Shape → Bool
  | look l' => l = l'
  | rep p least _ _ => 0 < least && p.endsWith l
  | keep p => p.endsWith l
  | seq ps => seqEnds l ps
  | alt ps => altEnds l ps
  | _ => false

def seqEnds (l : Look) : List Shape → Bool
  | [] => false
  | p :: ps => seqEnds l ps || (allOnlyEmpty ps && p.endsWith l)

def altEnds (l : Look) : List Shape → Bool
  | [] => true
  | p :: ps => p.endsWith l && altEnds l ps

end

mutual

/-- Whether two shapes are written alike. Two parts that keep their spans never are. -/
def same : Shape → Shape → Bool
  | empty, empty => true
  | text cs, text cs' => cs = cs'
  | set r b, set r' b' => r = r' && b = b'
  | look l, look l' => l = l'
  | rep p l m g, rep p' l' m' g' => l = l' && m = m' && g = g' && p.same p'
  | seq ps, seq ps' => sameAll ps ps'
  | alt ps, alt ps' => sameAll ps ps'
  | _, _ => false

def sameAll : List Shape → List Shape → Bool
  | [], [] => true
  | p :: ps, q :: qs => p.same q && sameAll ps qs
  | _, _ => false

end

/-! ### Putting shapes together -/

/-- A set of characters; a single one is text. -/
def ofSet (bytes : Bool) (ranges : List (Nat × Nat)) : Shape :=
  match ranges with
  | [] => set [] true
  | [(first, last)] => if first = last then text [first] else set ranges bytes
  | _ => set ranges bytes

/-- What is empty is not repeated, and a single repetition is the part itself. -/
def ofRep (p : Shape) (least : Nat) (most : Option Nat) (greedy : Bool) : Shape :=
  let (least, most) :=
    if p.onlyEmpty then (min least 1, some (min (most.getD 1) 1)) else (least, most)
  if least = 0 ∧ most = some 0 then empty
  else if least = 1 ∧ most = some 1 then p
  else rep p least most greedy

def members : Shape → List Shape
  | empty => []
  | seq ps => ps
  | p => [p]

def joinTexts : List Shape → List Shape
  | [] => []
  | p :: ps =>
      match p, joinTexts ps with
      | text cs, text cs' :: rest => text (cs ++ cs') :: rest
      | p, rest => p :: rest

def ofSeq (ps : List Shape) : Shape :=
  match joinTexts (ps.flatMap members) with
  | [] => empty
  | [p] => p
  | qs => seq qs

def branches : Shape → List Shape
  | alt ps => ps
  | p => [p]

/-- The ranges of alternatives each of which is a single character. -/
def singles? (ps : List Shape) : Option (List (Nat × Nat)) :=
  ps.mapM fun
    | text [c] => some (c, c)
    | _ => none

/-- The ranges of alternatives each of which is a set. -/
def sets? (ps : List Shape) : Option (List (Nat × Nat)) :=
  (ps.mapM fun
    | set ranges _ => some ranges
    | _ => none).map List.flatten

/-- The parts that two sequences both start with. -/
def commonPrefix : List Shape → List Shape → List Shape
  | p :: ps, q :: qs => if p.same q then p :: commonPrefix ps qs else []
  | _, _ => []

/-- The parts that all alternatives start with, if each of them is a sequence. -/
def sharedPrefix (ps : List Shape) : List Shape :=
  match ps.mapM (fun | seq qs => some qs | _ => none) with
  | some (first :: rest) => rest.foldl commonPrefix first
  | _ => []

/-- The alternatives as one shape. `depth` bounds how often a shared start is written once. -/
def ofAlt : Nat → List Shape → Shape
  | 0, ps => alt ps
  | depth + 1, ps =>
      match ps.flatMap branches with
      | [] => set [] true
      | [p] => p
      | ps =>
          match singles? ps <|> sets? ps with
          | some ranges => ofSet false (Text.Ranges.normal ranges)
          | none =>
              match sharedPrefix ps with
              | [] => alt ps
              | shared =>
                  let rests := ps.map (fun p => ofSeq (p.members.drop shared.length))
                  ofSeq (shared ++ [ofAlt depth rests])

mutual

def count : Shape → Nat
  | rep p _ _ _ => p.count + 1
  | keep p => p.count + 1
  | seq ps => countAll ps + 1
  | alt ps => countAll ps + 1
  | _ => 1

def countAll : List Shape → Nat
  | [] => 0
  | p :: ps => p.count + countAll ps

end

def join (ps : List Shape) : Shape := ofAlt (countAll ps + 1) ps

/-- The shape of alternatives, each of which is given by its members. -/
def ofOutline (alternatives : List (List Shape)) : Shape := join (alternatives.map ofSeq)

/-- The members of a sequence that is the only alternative; several alternatives are one member. -/
def outlineMembers : List (List Shape) → List Shape
  | [ps] => ps
  | alternatives => [ofOutline alternatives]

/-- The alternatives that the pattern is made of, each as the members of a sequence. -/
def outline : Pattern → List (List Shape)
  | .empty => [[]]
  | .set (.ascii s) => [[ofSet true (Text.CharSet.ascii s).toRanges]]
  | .set s => [[ofSet false s.toRanges]]
  | .look l => [[look l]]
  | .seq p q => [outlineMembers (outline p) ++ outlineMembers (outline q)]
  | .alt p q => outlineMembers (outline p) :: outline q
  | .rep p least most greedy => [[ofRep (ofOutline (outline p)) least most greedy]]
  | .group keeps p => [[if keeps then keep (ofOutline (outline p)) else ofOutline (outline p)]]

def ofPattern (p : Pattern) : Shape := ofOutline (outline p)

end Shape

end LossPrevention.Pattern
