import LossPrevention.Pattern.Basic

/-!
The written form of patterns: groups, alternatives, repetitions, classes with set operations,
escapes, and flags that hold to the end of the group they are set in.
-/

namespace LossPrevention.Pattern.Reader

open Text (CharSet)

structure Flags where
  ignoreCase : Bool := false
  multiLine : Bool := false
  dotAll : Bool := false
  swapGreed : Bool := false
  unicode : Bool := true
  anyLineEnd : Bool := false
  verbose : Bool := false

/-- A part of a pattern with the number of constructs that lie inside one another in it. -/
structure Part where
  pattern : Pattern
  height : Nat := 0

/-- What a sequence is made of; a change of flags cannot be repeated. -/
inductive Item where
  | part (p : Part)
  | flags

def Item.part? : Item → Option Part
  | part p => some p
  | flags => none

/-- Blanks and comments, where the flags let them mean nothing. -/
def skipSpace (verbose : Bool) : List Char → List Char
  | [] => []
  | c :: cs => if verbose then space (c :: cs) else c :: cs
where
  space : List Char → List Char
    | [] => []
    | c :: cs =>
        if Text.isBlank c then space cs
        else if c = '#' then comment cs
        else c :: cs
  comment : List Char → List Char
    | [] => []
    | c :: cs => if c = '\n' then space cs else comment cs

/-! ### Numbers, names and escapes -/

def hexValue? (c : Char) : Option Nat :=
  if c.isDigit then some (c.toNat - '0'.toNat)
  else if 'a' ≤ c && c ≤ 'f' then some (c.toNat - 'a'.toNat + 10)
  else if 'A' ≤ c && c ≤ 'F' then some (c.toNat - 'A'.toNat + 10)
  else none

def scalar? (digits : List Char) : Option Char := do
  let values ← digits.mapM hexValue?
  let n := values.foldl (fun acc v => acc * 16 + v) 0
  if n < 0xd800 ∨ 0xe000 ≤ n ∧ n < 0x110000 then some (Char.ofNat n) else none

/-- Takes characters one by one, with the space after each of them skipped. -/
def spaced (verbose : Bool) (cs : List Char) : List Char × List Char :=
  go cs.length cs
where
  go : Nat → List Char → List Char × List Char
    | 0, cs => ([], cs)
    | fuel + 1, cs =>
        match skipSpace verbose cs with
        | c :: rest =>
            if c.isDigit then
              let (ds, rest) := go fuel rest
              (c :: ds, rest)
            else ([], c :: rest)
        | [] => ([], [])

/-- The number in the braces of a repetition, with blanks around it; `some none` if there is no
digit at all. -/
def count? (verbose : Bool) (cs : List Char) : Option (Option Nat × List Char) :=
  let (ds, rest) := spaced verbose (cs.dropWhile Text.isBlank)
  let rest := skipSpace verbose (rest.dropWhile Text.isBlank)
  let n := ds.foldl (fun acc d => acc * 10 + (d.toNat - '0'.toNat)) 0
  if ds.isEmpty then some (none, rest)
  else if n < Nat.pow 2 32 then some (some n, rest)
  else none

def isMeta (c : Char) : Bool :=
  ['\\', '.', '+', '*', '?', '(', ')', '|', '[', ']', '{', '}', '^', '$', '#', '&', '-',
    '~'].contains c

/-- ASCII characters without a meaning of their own stand for themselves behind a backslash. -/
def isEscapable (c : Char) : Bool :=
  isMeta c || (c.toNat < 0x80 && !c.isAlphanum && c ≠ '<' && c ≠ '>')

/-- What a single sign or escape stands for. -/
inductive Primitive where
  | literal (c : Char) (byte : Bool)
  | set (s : CharSet)
  | look (l : Look)

/-- The hexadecimal digits behind `\x`, `\u` and `\U`: two, four or eight, or any number of them in
braces. -/
def hex? (verbose : Bool) (width : Nat) (cs : List Char) : Option (Primitive × List Char) :=
  match skipSpace verbose cs with
  | '{' :: rest => braced rest.length [] rest
  | cs => fixed width [] cs
where
  braced : Nat → List Char → List Char → Option (Primitive × List Char)
    | 0, _, _ => none
    | fuel + 1, acc, cs =>
        match skipSpace verbose cs with
        | '}' :: rest => do
            if acc.isEmpty then none
            let c ← scalar? acc.reverse
            some (.literal c false, skipSpace verbose rest)
        | c :: rest => if (hexValue? c).isSome then braced fuel (c :: acc) rest else none
        | [] => none
  fixed : Nat → List Char → List Char → Option (Primitive × List Char)
    | 0, acc, cs => do
        let c ← scalar? acc.reverse
        some (.literal c (width = 2), skipSpace verbose cs)
    | n + 1, acc, cs =>
        match skipSpace verbose cs with
        | c :: rest => if (hexValue? c).isSome then fixed n (c :: acc) rest else none
        | [] => none

def foldIf (flags : Flags) (s : CharSet) : CharSet := if flags.ignoreCase then .folded s else s

def complIf (negated : Bool) (s : CharSet) : CharSet := if negated then .compl s else s

/-- Whether a class without Unicode keeps to ASCII, the only bytes that are characters. -/
def isAsciiOnly (s : CharSet) : Bool :=
  (List.range 0x80).all (fun n => !s.contains (Char.ofNat (0x80 + n)))

def asciiOnly? (s : CharSet) : Option CharSet :=
  if isAsciiOnly s then some (.ascii s) else none

/-- A class as it stands with the flags: without Unicode it is refused if it leaves ASCII. -/
def settled? (flags : Flags) (s : CharSet) : Option CharSet :=
  if flags.unicode then some s else asciiOnly? s

/-- A class of one letter, such as `\d`; without Unicode it must not leave ASCII. -/
def letterClass? (flags : Flags) (unicode ascii : CharSet) (negated : Bool) : Option CharSet :=
  if flags.unicode then some (complIf negated unicode) else asciiOnly? (complIf negated ascii)

def splitAtSign (a : Char) : List Char → Option (List Char × List Char)
  | [] => none
  | c :: cs =>
      if c = a then some ([], cs) else (splitAtSign a cs).map (fun (l, r) => (c :: l, r))

def splitAtUnequal : List Char → Option (List Char × List Char)
  | [] => none
  | '!' :: '=' :: cs => some ([], cs)
  | c :: cs => (splitAtUnequal cs).map (fun (l, r) => (c :: l, r))

/-- The set named in `\p{…}`, either by a name alone or by a name and a value, and whether the
sign between the two asks for the other characters. -/
def propertySet? (name : List Char) : Option (CharSet × Bool) :=
  match splitAtUnequal name with
  | some (l, r) => (CharSet.valued? (String.ofList l) (String.ofList r)).map (·, true)
  | none =>
      match (splitAtSign ':' name).orElse (fun _ => splitAtSign '=' name) with
      | some (l, r) => (CharSet.valued? (String.ofList l) (String.ofList r)).map (·, false)
      | none => (CharSet.named? (String.ofList name)).map (·, false)

def property? (flags : Flags) (negated : Bool) (cs : List Char) :
    Option (Primitive × List Char) := do
  let (name, rest) ← match skipSpace flags.verbose cs with
    | '{' :: rest => braced rest.length [] rest
    | '\\' :: _ => none
    | c :: rest => some ([c], skipSpace flags.verbose rest)
    | [] => none
  if !flags.unicode then none
  let (s, unequal) ← propertySet? name
  some (.set (complIf (negated != unequal) (foldIf flags s)), rest)
where
  braced : Nat → List Char → List Char → Option (List Char × List Char)
    | 0, _, _ => none
    | fuel + 1, acc, cs =>
        match skipSpace flags.verbose cs with
        | '}' :: rest => some (acc.reverse, rest)
        | c :: rest => braced fuel (c :: acc) rest
        | [] => none

def edgeOf? (ascii : Bool) : String → Option Look
  | "start" => some (.wordStart ascii)
  | "end" => some (.wordEnd ascii)
  | "start-half" => some (.notAfterWord ascii)
  | "end-half" => some (.notBeforeWord ascii)
  | _ => none

/-- The name in the braces behind `\b`, if letters and hyphens follow the brace. -/
def edge? (flags : Flags) (cs : List Char) : Option (Primitive × List Char) :=
  let ascii := !flags.unicode
  match cs with
  | '{' :: rest =>
      match skipSpace flags.verbose rest with
      | [] => none
      | c :: rest =>
          if c.isAlpha || c = '-' then named rest.length [] (c :: rest)
          else some (.look (.edge ascii), cs)
  | _ => some (.look (.edge ascii), cs)
where
  named : Nat → List Char → List Char → Option (Primitive × List Char)
    | fuel, acc, cs =>
        match skipSpace flags.verbose cs with
        | '}' :: rest => do
            let l ← edgeOf? (!flags.unicode) (String.ofList acc.reverse)
            some (.look l, rest)
        | c :: rest =>
            match fuel with
            | 0 => none
            | fuel + 1 => if c.isAlpha || c = '-' then named fuel (c :: acc) rest else none
        | [] => none

def escape? (flags : Flags) : List Char → Option (Primitive × List Char)
  | [] => none
  | 'x' :: cs => hex? flags.verbose 2 cs
  | 'u' :: cs => hex? flags.verbose 4 cs
  | 'U' :: cs => hex? flags.verbose 8 cs
  | 'p' :: cs => property? flags false cs
  | 'P' :: cs => property? flags true cs
  | 'd' :: cs => (letterClass? flags .digit .asciiDigit false).map (fun s => (.set s, cs))
  | 'D' :: cs => (letterClass? flags .digit .asciiDigit true).map (fun s => (.set s, cs))
  | 's' :: cs => (letterClass? flags .blank .asciiBlank false).map (fun s => (.set s, cs))
  | 'S' :: cs => (letterClass? flags .blank .asciiBlank true).map (fun s => (.set s, cs))
  | 'w' :: cs => (letterClass? flags .word .asciiWord false).map (fun s => (.set s, cs))
  | 'W' :: cs => (letterClass? flags .word .asciiWord true).map (fun s => (.set s, cs))
  | 'a' :: cs => some (.literal '\x07' false, cs)
  | 'f' :: cs => some (.literal '\x0c' false, cs)
  | 't' :: cs => some (.literal '\t' false, cs)
  | 'n' :: cs => some (.literal '\n' false, cs)
  | 'r' :: cs => some (.literal '\r' false, cs)
  | 'v' :: cs => some (.literal '\x0b' false, cs)
  | 'A' :: cs => some (.look .textStart, cs)
  | 'z' :: cs => some (.look .textEnd, cs)
  | 'b' :: cs => edge? flags cs
  | 'B' :: cs => some (.look (.noEdge (!flags.unicode)), cs)
  | '<' :: cs => some (.look (.wordStart (!flags.unicode)), cs)
  | '>' :: cs => some (.look (.wordEnd (!flags.unicode)), cs)
  | c :: cs => if isEscapable c then some (.literal c false, cs) else none

/-- A literal as a set; without Unicode a byte beyond ASCII is no character. -/
def literalSet? (flags : Flags) (c : Char) (byte : Bool) : Option CharSet :=
  if flags.unicode then some (foldIf flags (.single c))
  else if byte && 0x80 ≤ c.toNat then none
  else if c.toNat < 0x80 then asciiOnly? (foldIf flags (.single c))
  else some (.single c)

/-! ### Classes in brackets -/

structure ClassPart where
  set : CharSet
  height : Nat := 0

def joinClass (parts : List ClassPart) : ClassPart :=
  match parts with
  | [] => ⟨.empty, 0⟩
  | [p] => p
  | _ => ⟨CharSet.unions (parts.map ClassPart.set),
      1 + (parts.map ClassPart.height).foldl max 0⟩

inductive ClassOp where
  | inter
  | diff
  | symDiff

def ClassOp.apply (flags : Flags) (op : ClassOp) (l r : ClassPart) : ClassPart :=
  let a := foldIf flags l.set
  let b := foldIf flags r.set
  let s : CharSet := match op with
    | inter => .inter a b
    | diff => .inter a (.compl b)
    | symDiff => .union (.inter a (.compl b)) (.inter b (.compl a))
  ⟨s, 1 + max l.height r.height⟩

/-- The left side of a set operation whose right side is being read. -/
def joinOp (flags : Flags) (left : Option (ClassPart × ClassOp)) (right : ClassPart) : ClassPart :=
  match left with
  | none => right
  | some (l, op) => op.apply flags l right

/-- A member that can be an end of a range. -/
inductive Member where
  | char (c : Char)
  | set (s : CharSet)

def member? (flags : Flags) : List Char → Option (Member × List Char)
  | '\\' :: cs =>
      match escape? flags cs with
      | some (.literal c _, rest) =>
          if flags.unicode || c.toNat < 0x80 then some (.char c, rest) else none
      | some (.set s, rest) => some (.set s, rest)
      | _ => none
  | c :: cs => if flags.unicode || c.toNat < 0x80 then some (.char c, cs) else none
  | [] => none

/-- A member or a range. A hyphen in front of the closing bracket or of another hyphen makes no
range. -/
def range? (flags : Flags) (cs : List Char) : Option (ClassPart × List Char) := do
  let (m, rest) ← member? flags cs
  let rest := skipSpace flags.verbose rest
  let alone : Option (ClassPart × List Char) := match m with
    | .char c => some (⟨.single c, 0⟩, rest)
    | .set s => some (⟨s, 0⟩, rest)
  match rest with
  | [] => none
  | '-' :: after =>
      match skipSpace flags.verbose after with
      | [] => none
      | ']' :: _ => alone
      | '-' :: _ => alone
      | after => do
          let (m', rest) ← member? flags after
          match m, m' with
          | .char a, .char b =>
              if a.toNat ≤ b.toNat then some (⟨.range a.toNat b.toNat, 0⟩, rest) else none
          | _, _ => none
  | _ => alone

/-- A named class such as `[:alpha:]`, if one stands here. -/
def posix? (flags : Flags) : List Char → Option (CharSet × List Char)
  | '[' :: ':' :: cs =>
      let (negated, cs) := match cs with
        | '^' :: rest => (true, rest)
        | _ => (false, cs)
      let (name, rest) := cs.span (· ≠ ':')
      match rest with
      | ':' :: ']' :: rest =>
          (CharSet.posix? (String.ofList name)).map
            (fun s => (complIf negated (foldIf flags s), rest))
      | _ => none
  | _ => none

/-- The hyphens at the head of a class stand for themselves, and so does a bracket at its very
head. -/
def classHead (verbose : Bool) : Nat → List ClassPart → List Char → List ClassPart × List Char
  | 0, acc, cs => (acc, cs)
  | fuel + 1, acc, cs =>
      match skipSpace verbose cs with
      | '-' :: rest => classHead verbose fuel (⟨.single '-', 0⟩ :: acc) rest
      | ']' :: rest => if acc.isEmpty then ([⟨.single ']', 0⟩], rest) else (acc, ']' :: rest)
      | cs => (acc, cs)

mutual

/-- The class behind an opening bracket. -/
def class? (flags : Flags) : Nat → List Char → Option (ClassPart × List Char)
  | 0, _ => none
  | fuel + 1, cs =>
      let cs := skipSpace flags.verbose cs
      let (negated, cs) := match cs with
        | '^' :: rest => (true, skipSpace flags.verbose rest)
        | _ => (false, cs)
      let (acc, cs) := classHead flags.verbose (cs.length + 1) [] cs
      do
        let (inside, rest) ← members? flags fuel none acc cs
        let s ← settled? flags (complIf negated (foldIf flags inside.set))
        some (⟨s, inside.height + 1⟩, rest)

def members? (flags : Flags) : Nat → Option (ClassPart × ClassOp) → List ClassPart → List Char →
    Option (ClassPart × List Char)
  | 0, _, _, _ => none
  | fuel + 1, left, acc, cs =>
      let closed := joinOp flags left (joinClass acc.reverse)
      match skipSpace flags.verbose cs with
      | [] => none
      | ']' :: rest => some (closed, rest)
      | '&' :: '&' :: rest => members? flags fuel (some (closed, .inter)) [] rest
      | '-' :: '-' :: rest => members? flags fuel (some (closed, .diff)) [] rest
      | '~' :: '~' :: rest => members? flags fuel (some (closed, .symDiff)) [] rest
      | '[' :: rest =>
          match posix? flags ('[' :: rest) with
          | some (s, rest) => do
              let s ← settled? flags s
              members? flags fuel left (⟨s, 0⟩ :: acc) rest
          | none => do
              let (p, rest) ← class? flags fuel rest
              members? flags fuel left (p :: acc) rest
      | cs => do
          let (p, rest) ← range? flags cs
          members? flags fuel left (p :: acc) rest

end

def bracket? (flags : Flags) (cs : List Char) : Option (Part × List Char) := do
  let (p, rest) ← class? flags (cs.length + 1) cs
  some (⟨.set p.set, p.height⟩, rest)

/-! ### Groups and repetitions -/

def setFlag? (on : Bool) (flags : Flags) : Char → Option Flags
  | 'i' => some { flags with ignoreCase := on }
  | 'm' => some { flags with multiLine := on }
  | 's' => some { flags with dotAll := on }
  | 'U' => some { flags with swapGreed := on }
  | 'u' => some { flags with unicode := on }
  | 'R' => some { flags with anyLineEnd := on }
  | 'x' => some { flags with verbose := on }
  | _ => none

/-- The flags behind `(?`, each named at most once; what lies behind a hyphen is switched off, and
something has to. The answer says whether any sign was there at all. -/
def flags? (flags : Flags) : Nat → List Char → Bool → List Char →
    Option (Flags × Bool × List Char)
  | 0, _, _, _ => none
  | fuel + 1, seen, on, cs =>
      match cs with
      | [] => none
      | c :: rest =>
          if c = ':' || c = ')' then
            if seen.head? = some '-' then none else some (flags, seen.isEmpty, cs)
          else if seen.contains c then none
          else if c = '-' then flags? flags fuel (c :: seen) false rest
          else do
            let flags ← setFlag? on flags c
            flags? flags fuel (c :: seen) on rest

def isNameStart (c : Char) : Bool := c = '_' || Text.isLetter c

def isNameChar (c : Char) : Bool :=
  c = '_' || c = '.' || c = '[' || c = ']' || Text.isLetter c || Text.isNumeric c

def name? (cs : List Char) : Option (List Char × List Char) :=
  let (name, rest) := cs.span (· ≠ '>')
  match name, rest with
  | c :: more, '>' :: rest =>
      if isNameStart c && more.all isNameChar then some (c :: more, rest) else none
  | _, _ => none

def lookaround (cs : List Char) : Bool :=
  [['?', '='], ['?', '!'], ['?', '<', '='], ['?', '<', '!']].any (·.isPrefixOf cs)

/-- The pattern repeated; `?` behind a repetition makes it prefer less. -/
def repeated (flags : Flags) (p : Part) (least : Nat) (most : Option Nat) (cs : List Char) :
    Part × List Char :=
  let (lazy, rest) := match cs with
    | '?' :: rest => (true, rest)
    | _ => (false, cs)
  (⟨.rep p.pattern least most (lazy == flags.swapGreed), p.height + 1⟩, rest)

def braces? (flags : Flags) (p : Part) (cs : List Char) : Option (Part × List Char) := do
  let (least, rest) ← count? flags.verbose (skipSpace flags.verbose cs)
  let least ← least
  match rest with
  | '}' :: rest => some (repeated flags p least (some least) (skipSpace flags.verbose rest))
  | ',' :: rest =>
      match skipSpace flags.verbose rest with
      | '}' :: rest => some (repeated flags p least none (skipSpace flags.verbose rest))
      | rest => do
          let (most, rest) ← count? flags.verbose rest
          let most ← most
          match rest with
          | '}' :: rest =>
              if least ≤ most then
                some (repeated flags p least (some most) (skipSpace flags.verbose rest))
              else none
          | _ => none
  | _ => none

def joinSeq (items : List Item) : Part :=
  match items with
  | [] => ⟨.empty, 0⟩
  | [.part p] => p
  | [.flags] => ⟨.empty, 0⟩
  | _ =>
      let parts := items.filterMap Item.part?
      ⟨parts.foldr (fun p q => .seq p.pattern q) .empty, 1 + (parts.map Part.height).foldl max 0⟩

/-- The alternatives in the order written; the last of them is the last argument. -/
def joinAlt (earlier : List Part) (last : Part) : Part :=
  match earlier with
  | [] => last
  | _ =>
      ⟨earlier.foldr (fun p q => .alt p.pattern q) last.pattern,
        1 + (earlier.map Part.height).foldl max last.height⟩

def dot? (flags : Flags) : Option CharSet :=
  if !flags.unicode then none
  else if flags.dotAll then some .any
  else if flags.anyLineEnd then some (.compl (.ranges [(10, 10), (13, 13)]))
  else some (.compl (.single '\n'))

def lineStart (flags : Flags) : Look :=
  if !flags.multiLine then .textStart else if flags.anyLineEnd then .anyLineStart else .lineStart

def lineEnd (flags : Flags) : Look :=
  if !flags.multiLine then .textEnd else if flags.anyLineEnd then .anyLineEnd else .lineEnd

def primitive? (flags : Flags) : List Char → Option (Pattern × List Char)
  | [] => none
  | '.' :: cs => (dot? flags).map (fun s => (.set s, cs))
  | '^' :: cs => some (.look (lineStart flags), cs)
  | '$' :: cs => some (.look (lineEnd flags), cs)
  | '\\' :: cs => do
      match ← escape? flags cs with
      | (.literal c byte, rest) => (literalSet? flags c byte).map (fun s => (.set s, rest))
      | (.set s, rest) => some (.set s, rest)
      | (.look l, rest) => some (.look l, rest)
  | c :: cs => (literalSet? flags c false).map (fun s => (.set s, cs))

/-- Reads alternatives up to the end or the closing parenthesis of the group, which is left.
`names` are the names of groups met so far. -/
def alternatives? : Nat → Flags → List (List Char) → List Part → List Item → List Char →
    Option (Part × List (List Char) × List Char)
  | 0, _, _, _, _, _ => none
  | fuel + 1, flags, names, earlier, items, cs =>
      let again (f : Part → Option (Part × List Char)) :=
        match items with
        | .part p :: items =>
            match f p with
            | some (p, rest) => alternatives? fuel flags names earlier (.part p :: items) rest
            | none => none
        | _ => none
      match skipSpace flags.verbose cs with
      | [] => some (joinAlt earlier.reverse (joinSeq items.reverse), names, [])
      | ')' :: rest => some (joinAlt earlier.reverse (joinSeq items.reverse), names, ')' :: rest)
      | '|' :: rest =>
          alternatives? fuel flags names (joinSeq items.reverse :: earlier) [] rest
      | '[' :: rest => do
          let (p, rest) ← bracket? flags rest
          alternatives? fuel flags names earlier (.part p :: items) rest
      | '?' :: rest => again (fun p => some (repeated flags p 0 (some 1) rest))
      | '*' :: rest => again (fun p => some (repeated flags p 0 none rest))
      | '+' :: rest => again (fun p => some (repeated flags p 1 none rest))
      | '{' :: rest => again (fun p => braces? flags p rest)
      | '(' :: rest =>
          let rest := skipSpace flags.verbose rest
          if lookaround rest then none
          else
            let group (keeps : Bool) (inner : Flags) (names : List (List Char))
                (cs : List Char) := do
              let (p, names, rest) ← alternatives? fuel inner names [] [] cs
              match rest with
              | ')' :: rest =>
                  alternatives? fuel flags names earlier
                    (.part ⟨.group keeps p.pattern, p.height + 1⟩ :: items) rest
              | _ => none
            let named (cs : List Char) := do
              let (name, rest) ← name? cs
              if names.contains name then none else group true flags (name :: names) rest
            match rest with
            | '?' :: 'P' :: '<' :: cs => named cs
            | '?' :: '<' :: cs => named cs
            | '?' :: cs => do
                let (inner, none?, after) ← flags? flags (cs.length + 1) [] true cs
                match after with
                | ':' :: after => group false inner names after
                | ')' :: after =>
                    if none? then none
                    else alternatives? fuel inner names earlier (.flags :: items) after
                | _ => none
            | cs => group true flags names cs
      | cs => do
          let (p, rest) ← primitive? flags cs
          alternatives? fuel flags names earlier (.part ⟨p, 0⟩ :: items) rest

/-- How many constructs may lie inside one another. -/
def maxHeight : Nat := 250

def pattern? (cs : List Char) : Option Pattern := do
  let (p, _, rest) ← alternatives? (2 * cs.length + 2) {} [] [] [] cs
  if rest.isEmpty && p.height ≤ maxHeight then some p.pattern else none

end LossPrevention.Pattern.Reader
