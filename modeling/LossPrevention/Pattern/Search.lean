import LossPrevention.Pattern.Basic

/-!
Searching a text for a pattern. `Pattern.ends` lists where the pattern can lead, best first: the
earlier alternative before the later one, and more repetitions before fewer unless the pattern
asks for fewer. A match is the best one from the leftmost place that has any, and `findAll`
continues behind each match.
-/

namespace LossPrevention.Pattern

/-- Whether the places lie in a row, each on the same side of the next, so that none is twice. -/
def inRow (before : Cursor → Cursor → Bool) : List Cursor → Bool
  | c :: d :: cs => before c d && inRow before (d :: cs)
  | _ => true

/-- The first cursor of each place. -/
def distinct (cs : List Cursor) : List Cursor :=
  if inRow (fun c d => d.pos < c.pos) cs || inRow (fun c d => c.pos < d.pos) cs then cs
  else go 0 cs
where
  /-- Bit `i` of `seen` says that place `i` was there before. -/
  go (seen : Nat) : List Cursor → List Cursor
    | [] => []
    | c :: cs => if seen.testBit c.pos then go seen cs else c :: go (seen ||| 1 <<< c.pos) cs

/-- Just `n` repetitions; there is nothing more to do once another one changes nothing. -/
def exactly (step : Cursor → List Cursor) : Nat → List Cursor → List Cursor
  | 0, cs => cs
  | n + 1, cs =>
      let next := distinct (cs.flatMap step)
      if next.map Cursor.pos = cs.map Cursor.pos then next else exactly step n next

/-- At most `n` further repetitions, with `tail` behind them; one that takes no character changes
nothing and is left out. -/
def upTo (step : Cursor → List Cursor) (greedy : Bool) : Nat → Cursor → List Cursor → List Cursor
  | 0, c, tail => c :: tail
  | n + 1, c, tail =>
      let more := (step c).filter (fun d => c.pos < d.pos)
      if greedy then more.foldr (upTo step greedy n) (c :: tail)
      else c :: more.foldr (upTo step greedy n) tail

def ends : Pattern → Cursor → List Cursor
  | empty, c => [c]
  | set s, c =>
      match c.rest with
      | [] => []
      | x :: rest => if s.contains x then [⟨c.pos + 1, some x, rest⟩] else []
  | look l, c => if l.holds c.before c.next? then [c] else []
  | seq p q, c => distinct ((ends p c).flatMap (ends q))
  | alt p q, c => distinct (ends p c ++ ends q c)
  | rep p least most greedy, c =>
      distinct ((exactly (ends p) least [c]).flatMap fun d =>
        let limit := match most with
          | some m => m - least
          | none => d.rest.length
        upTo (ends p) greedy limit d [])
  | group _ p, c => ends p c

/-- A match: the place where it starts and the place where it ends. -/
structure Span where
  first : Cursor
  last : Cursor

namespace Span

def length (s : Span) : Nat := s.last.pos - s.first.pos

def chars (s : Span) : List Char := s.first.rest.take s.length

def text (s : Span) : String := String.ofList s.chars

end Span

def findAt (p : Pattern) (c : Cursor) : Option Span := (ends p c).head?.map (⟨c, ·⟩)

/-- The match from the leftmost place at or behind the cursor. -/
def findFrom (p : Pattern) (c : Cursor) : Option Span :=
  go c.pos c.before c.rest
where
  go (pos : Nat) (before : Option Char) : List Char → Option Span
    | [] => findAt p ⟨pos, before, []⟩
    | x :: rest =>
        match findAt p ⟨pos, before, x :: rest⟩ with
        | some s => some s
        | none => go (pos + 1) (some x) rest

/-- The matches one behind the other. An empty match right behind the last one is none. -/
def findRest (p : Pattern) : Nat → Option Nat → Cursor → List Span
  | 0, _, _ => []
  | fuel + 1, previous, c =>
      match findFrom p c with
      | none => []
      | some s =>
          if s.length = 0 ∧ previous = some s.last.pos then
            match s.first.step? with
            | none => []
            | some next => findRest p fuel previous next
          else s :: findRest p fuel (some s.last.pos) s.last

def findAll (p : Pattern) (text : List Char) : List Span :=
  findRest p (2 * text.length + 2) none (Cursor.start text)

def splice (replacement : List Char) (c : Cursor) : List Span → List Char
  | [] => c.rest
  | s :: spans =>
      c.rest.take (s.first.pos - c.pos) ++ replacement ++ splice replacement s.last spans

def replaceAll (p : Pattern) (replacement text : List Char) : List Char :=
  splice replacement (Cursor.start text) (p.findAll text)

end LossPrevention.Pattern
