import LossPrevention.Pattern.Shape
import Std.Data.HashMap

/-!
The room that the automaton of a pattern takes: 32 bytes a state, 8 bytes an edge of a state that
has several of them, and 4 bytes a branch of a state that only branches. The automaton reads bytes,
and there are two of them, one for each direction of reading. Every repetition is written out.
-/

namespace LossPrevention.Pattern

/-- The states of an automaton and the bytes they take beside their own. -/
structure Room where
  states : Nat := 0
  extra : Nat := 0

namespace Room

/-- The room in bytes that an automaton may take. -/
def limit : Nat := 10485760

def bytes (r : Room) : Nat := 32 * r.states + r.extra

def isFull (r : Room) : Bool := limit < r.bytes

def add (r : Room) (states extra : Nat) : Room := ⟨r.states + states, r.extra + extra⟩

/-- Adds to the room until it is full. -/
def repeated (grow : Room → Room) : Nat → Room → Room
  | 0, r => r
  | n + 1, r => if r.isFull then r else repeated grow n (grow r)

/-! ### Sets of characters

States of a set are shared where two of them have the same edges. Only so many are remembered: each
has a slot of its own, and a later one takes the slot of an earlier one. -/

def mix (h : UInt64) (n : Nat) : UInt64 := (h ^^^ n.toUInt64) * 1099511628211

/-- The slot of a state with these edges or of an edge with these numbers. -/
def slot (slots : Nat) (numbers : List Nat) : Nat :=
  (numbers.foldl mix 14695981039346656037).toNat % slots

/-- The states met so far: what they are made of and their numbers, by slots. -/
structure Shared where
  room : Room
  known : Std.HashMap Nat (List Nat × Nat) := {}

namespace Shared

/-- The number of the state that is made so, which is a new one if none is remembered. -/
def state (s : Shared) (slots extra : Nat) (key : List Nat) : Nat × Shared :=
  let place := slot slots key
  let fresh := (s.room.states, ⟨s.room.add 1 extra, s.known.insert place (key, s.room.states)⟩)
  match s.known[place]? with
  | some (key', n) => if key' = key then (n, s) else fresh
  | none => fresh

/-- Sequences that ascend, put together by their first range. -/
def byFirst : List (List (Nat × Nat)) → List ((Nat × Nat) × List (List (Nat × Nat)))
  | [] => []
  | [] :: rest => byFirst rest
  | (r :: tail) :: rest =>
      match byFirst rest with
      | (r', tails) :: groups =>
          if r = r' then (r, tail :: tails) :: groups else (r, [tail]) :: (r', tails) :: groups
      | [] => [(r, [tail])]

/-- The state that the sequences start from; each of them leads to `goal`. Sequences take at most
`depth` bytes. -/
def start (goal : Nat) : Nat → List (List (Nat × Nat)) → Shared → Nat × Shared
  | 0, _, s => (goal, s)
  | _ + 1, [[]], s => (goal, s)
  | depth + 1, sequences, s =>
      let (edges, s) := (byFirst sequences).foldl
        (fun (edges, s) group =>
          let (n, s) := start goal depth group.2 s
          (edges ++ [group.1.1, group.1.2, n], s))
        (([] : List Nat), s)
      s.state 10000 (8 * (edges.length / 3)) edges

/-- A sequence read from its end, which leads to state `goal`. -/
def chain (goal : Nat) (sequence : List (Nat × Nat)) (s : Shared) : Nat × Shared :=
  sequence.foldl (fun (n, s) r => s.state 1000 0 [n, r.1, r.2]) (goal, s)

end Shared

def isAscii (ranges : List (Nat × Nat)) : Bool := ranges.all (fun r => r.2 < 0x80)

/-- The room for a set. Within ASCII it is one state with an edge for each range. -/
def set (back : Bool) (ranges : List (Nat × Nat)) (r : Room) : Room :=
  if isAscii ranges then r.add 2 (8 * ranges.length)
  else
    let sequences := Text.Utf8.ofRanges ranges
    if back then
      let goal := r.states + 1
      (sequences.foldl (fun s q => (Shared.chain goal q s).2)
        ⟨r.add 2 (4 * sequences.length), {}⟩).room
    else (Shared.start r.states 4 sequences ⟨r.add 1 0, {}⟩).2.room

/-! ### Words

Alternatives that are all words are put into a tree. A word that ends within another one splits the
branches of its node into those of words before it and those of words behind it. -/

/-- Adds the tail of a word to the branches of a node. -/
def branch (b : Nat) (tail : List Nat) :
    List (Nat × List (List Nat)) → List (Nat × List (List Nat))
  | [] => [(b, [tail])]
  | (b', tails) :: rest =>
      if b = b' then (b', tails ++ [tail]) :: rest else (b', tails) :: branch b tail rest

/-- The branches of a node in the parts into which the words that end here split them. -/
def chunks (words : List (List Nat)) : List (List (Nat × List (List Nat))) :=
  let (closed, live) := words.foldl
    (fun (closed, live) word =>
      match word with
      | b :: tail => (closed, branch b tail live)
      | [] =>
          if live.isEmpty && closed.all List.isEmpty && !closed.isEmpty then (closed, live)
          else (closed ++ [live], []))
    ([], [])
  closed ++ [live]

/-- The room for the tree of words of at most `depth` bytes. -/
def tree : Nat → List (List Nat) → Room
  | 0, _ => {}
  | depth + 1, words =>
      let parts := chunks words
      if parts.all List.isEmpty then {}
      else
        let below := parts.flatten.foldl
          (fun (r : Room) b => let s := tree depth b.2; r.add s.states s.extra) {}
        let filled := parts.filter (fun p => !p.isEmpty)
        let edges := filled.foldl (fun n p => if p.length = 1 then n else n + 8 * p.length) 0
        let ways := filled.length + (parts.length - 1)
        let r := below.add filled.length edges
        if ways = 1 then r else r.add 1 (4 * ways)

/-- The bytes of alternatives that are all words. -/
def words? (ps : List Shape) : Option (List (List Nat)) :=
  ps.mapM fun
    | .text cs => some (cs.flatMap Text.Utf8.encode)
    | _ => none

/-! ### Shapes -/

mutual

/-- Whether the last state of the automaton only branches; leading on from it takes a branch
more. -/
def branches (back : Bool) : Shape → Bool
  | .rep p least most _ =>
      match most with
      | none => 0 < least || 0 < p.leastLength.getD 0
      | some m => least = m && branches back p
  | .keep p => back && branches back p
  | .seq ps => lastBranches back ps
  | _ => false

def lastBranches (back : Bool) : List Shape → Bool
  | [] => false
  | [p] => branches back p
  | p :: ps => if back then branches back p else lastBranches back ps

end

/-- The room for leading on from the end of the shape. -/
def link (back : Bool) (p : Shape) : Nat := if branches back p then 4 else 0

/-- The room for leading from each part of a sequence to the next. -/
def links (back : Bool) (ps : List Shape) : Nat :=
  (if back then ps.tail else ps.dropLast).foldl (fun n p => n + link back p) 0

mutual

def grow (back : Bool) : Shape → Room → Room
  | .empty, r => r.add 1 0
  | .text cs, r => r.add (cs.flatMap Text.Utf8.encode).length 0
  | .set ranges _, r => set back ranges r
  | .look _, r => r.add 1 0
  | .keep p, r => if back then grow back p r else (grow back p (r.add 1 0)).add 1 (link back p)
  | .seq ps, r => (growAll back ps r).add 0 (links back ps)
  | .alt ps, r =>
      match words? ps with
      | some words =>
          let words := if back then words.map List.reverse else words
          let t := tree ((words.map List.length).foldl max 0 + 1) words
          r.add (t.states + 1) t.extra
      | none => (growEach back ps 0 r).add 0 (ps.foldl (fun n p => n + link back p) (4 * ps.length))
  | .rep p least most _, r =>
      let on := link back p
      match most with
      | none =>
          if least = 0 then
            if 0 < p.leastLength.getD 0 then (grow back p (r.add 1 0)).add 0 (4 + on)
            else (grow back p r).add 3 (16 + on)
          else
            (repeated (fun r => (grow back p r).add 0 on) least r).add 1 4
      | some m =>
          if least = m then
            (repeated (fun r => (grow back p r).add 0 on) (m - 1) r |> grow back p)
          else if least = 0 ∧ m = 1 then (grow back p (r.add 1 0)).add 1 (8 + on)
          else
            let r := if least = 0 then r.add 1 0
              else repeated (fun r => (grow back p r).add 0 on) least r
            repeated (fun r => (grow back p (r.add 1 0)).add 0 (8 + on)) (m - least) (r.add 1 0)

/-- Sequences are built in the direction of reading. -/
def growAll (back : Bool) : List Shape → Room → Room
  | [], r => r
  | p :: ps, r => if back then grow back p (growAll back ps r) else growAll back ps (grow back p r)

/-- Alternatives are built in the order written; their fork and their common end are put behind the
second of them. -/
def growEach (back : Bool) : List Shape → Nat → Room → Room
  | [], _, r => r
  | p :: ps, n, r =>
      let r := grow back p r
      growEach back ps (n + 1) (if n = 1 then r.add 2 0 else r)

end

/-- The room for the whole automaton. What matches only at the very start of a text, or at its very
end where it is read backwards, is not looked for elsewhere. -/
def ofShape (back : Bool) (p : Shape) : Room :=
  let fixed := if back then p.endsWith .textEnd else p.startsWith .textStart
  let r : Room := if fixed then ⟨1, 0⟩ else ⟨3, 16⟩
  if back then (grow back p r).add 1 (link back p)
  else (grow back p (r.add 1 0)).add 2 (link back p)

end Room

def fits (p : Pattern) : Bool :=
  let shape := Shape.ofPattern p
  !(Room.ofShape false shape).isFull && !(Room.ofShape true shape).isFull

end LossPrevention.Pattern
