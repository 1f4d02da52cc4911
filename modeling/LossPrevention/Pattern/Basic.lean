import LossPrevention.Text.CharSet

/-!
Patterns over text and what they match. A `Cursor` is a place in a text; `Pattern.Spans` says
which places a pattern leads to from a given one.
-/

namespace LossPrevention

open Text (CharSet)

/-- What a pattern can ask of the place it stands at. -/
inductive Look where
  | textStart
  | textEnd
  | lineStart
  | lineEnd
  /-- As `lineStart` and `lineEnd`, with `\r`, `\n` and the pair of both ending a line. -/
  | anyLineStart
  | anyLineEnd
  | edge (ascii : Bool)
  | noEdge (ascii : Bool)
  | wordStart (ascii : Bool)
  | wordEnd (ascii : Bool)
  | notAfterWord (ascii : Bool)
  | notBeforeWord (ascii : Bool)
  deriving DecidableEq

inductive Pattern where
  | empty
  | set (s : CharSet)
  | look (l : Look)
  | seq (p q : Pattern)
  | alt (p q : Pattern)
  /-- At least `least` times, and at most `most` times if there is a limit. -/
  | rep (p : Pattern) (least : Nat) (most : Option Nat) (greedy : Bool)
  /-- A part in parentheses, which may keep what it spans. It matches what the part does. -/
  | group (keeps : Bool) (p : Pattern)

/-- A place in a text: the number of characters before it, the last of them, and what follows. -/
structure Cursor where
  pos : Nat
  before : Option Char
  rest : List Char

namespace Cursor

def start (text : List Char) : Cursor := ⟨0, none, text⟩

def next? (c : Cursor) : Option Char := c.rest.head?

/-- The place after the next character. -/
def step? (c : Cursor) : Option Cursor :=
  match c.rest with
  | [] => none
  | x :: rest => some ⟨c.pos + 1, some x, rest⟩

end Cursor

namespace Look

def inWord (ascii : Bool) (c : Option Char) : Bool :=
  c.any (if ascii then Text.isAsciiWord else Text.isWord)

/-- Whether the demand is met between two characters; a missing one is an end of the text. -/
def holds (l : Look) (before next : Option Char) : Bool :=
  match l with
  | textStart => before.isNone
  | textEnd => next.isNone
  | lineStart => before.all (· = '\n')
  | lineEnd => next.all (· = '\n')
  | anyLineStart => before.all (fun c => c = '\n' || c = '\r' && next ≠ some '\n')
  | anyLineEnd => next.all (fun c => c = '\r' || c = '\n' && before ≠ some '\r')
  | edge ascii => inWord ascii before != inWord ascii next
  | noEdge ascii => inWord ascii before == inWord ascii next
  | wordStart ascii => !inWord ascii before && inWord ascii next
  | wordEnd ascii => inWord ascii before && !inWord ascii next
  | notAfterWord ascii => !inWord ascii before
  | notBeforeWord ascii => !inWord ascii next

/-- Whether it can be told from single bytes, which the words of Unicode cannot. -/
def isLocal : Look → Bool
  | textStart | textEnd | lineStart | lineEnd | anyLineStart | anyLineEnd => true
  | edge ascii | noEdge ascii | wordStart ascii | wordEnd ascii | notAfterWord ascii
  | notBeforeWord ascii => ascii

end Look

namespace Pattern

/-- The pattern leads from the first place to the second. -/
inductive Spans : Pattern → Cursor → Cursor → Prop
  | empty (c : Cursor) : Spans .empty c c
  | set {s : CharSet} {c : Cursor} {x : Char} {rest : List Char} (hr : c.rest = x :: rest)
      (hx : s.contains x = true) : Spans (.set s) c ⟨c.pos + 1, some x, rest⟩
  | look {l : Look} {c : Cursor} (h : l.holds c.before c.next? = true) : Spans (.look l) c c
  | seq {p q : Pattern} {a b c : Cursor} : Spans p a b → Spans q b c → Spans (.seq p q) a c
  | altLeft {p q : Pattern} {a b : Cursor} : Spans p a b → Spans (.alt p q) a b
  | altRight {p q : Pattern} {a b : Cursor} : Spans q a b → Spans (.alt p q) a b
  | done {p : Pattern} {most : Option Nat} {greedy : Bool} (c : Cursor) :
      Spans (.rep p 0 most greedy) c c
  | once {p : Pattern} {least : Nat} {most : Option Nat} {greedy : Bool} {a b c : Cursor}
      (hm : most ≠ some 0) : Spans p a b →
      Spans (.rep p (least - 1) (most.map (· - 1)) greedy) b c →
      Spans (.rep p least most greedy) a c
  | group {keeps : Bool} {p : Pattern} {a b : Cursor} : Spans p a b → Spans (.group keeps p) a b

/-- What the pattern may ask of places. -/
def looks : Pattern → List Look
  | empty | set _ | rep _ _ (some 0) _ => []
  | look l => [l]
  | seq p q | alt p q => p.looks ++ q.looks
  | rep p _ _ _ | group _ p => p.looks

/-- The patterns one behind the other. -/
def all (ps : List Pattern) : Pattern := ps.foldr .seq .empty

def char (c : Char) : Pattern := .set (.single c)

def oneOf (cs : List Char) : Pattern := .set (CharSet.unions (cs.map .single))

def word (s : String) : Pattern := all (s.toList.map char)

/-- The word in any case. -/
def anyCase (s : String) : Pattern := all (s.toList.map (fun c => .set (.folded (.single c))))

def optional (p : Pattern) : Pattern := .rep p 0 (some 1) true

def times (n : Nat) (p : Pattern) : Pattern := .rep p n (some n) true

def between (least most : Nat) (p : Pattern) : Pattern := .rep p least (some most) true

def atLeast (least : Nat) (p : Pattern) : Pattern := .rep p least none true

/-- An edge of a word. -/
def edge : Pattern := .look (.edge false)

end Pattern

end LossPrevention
