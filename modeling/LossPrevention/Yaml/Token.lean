/-!
The tokens of YAML text. Indentation becomes tokens of its own: a block starts where a line is
indented further and ends where a line is indented less. A key without `?` is known only once its
colon is met, so the place where it started is kept until then.
-/

namespace LossPrevention.Yaml

inductive Style where
  | plain
  | quoted
  | literal
  | folded
  deriving DecidableEq

inductive Token where
  | version (major minor : Nat)
  | tagPrefix (handle start : String)
  | documentStart
  | documentEnd
  | blockSequenceStart
  | blockMappingStart
  | blockEnd
  | flowSequenceStart
  | flowSequenceEnd
  | flowMappingStart
  | flowMappingEnd
  | blockEntry
  | flowEntry
  | key
  | value
  | reference (name : String)
  | anchor (name : String)
  | tag (handle suffix : String)
  | scalar (text : String) (style : Style)
  | streamEnd
  deriving DecidableEq

namespace Token

/-! ### Characters -/

def isBreak (c : Char) : Bool :=
  c = '\n' || c = '\r' || c = '\x85' || c = Char.ofNat 0x2028 || c = Char.ofNat 0x2029

def isBlank (c : Char) : Bool := c = ' ' || c = '\t'

def isBreakOrEnd (c : Option Char) : Bool := c.all isBreak

def isBlankOrEnd (c : Option Char) : Bool := c.all (fun c => isBlank c || isBreak c)

def isNameChar (c : Char) : Bool := c.isAlphanum || c = '_' || c = '-'

def isAllowed (c : Char) : Bool :=
  let n := c.toNat
  n = 9 || n = 10 || n = 13 || (0x20 ≤ n && n ≤ 0x7e) || n = 0x85 || (0xa0 ≤ n && n ≤ 0xd7ff) ||
    (0xe000 ≤ n && n ≤ 0xfffd) || 0x10000 ≤ n

def byteOrderMark : Char := Char.ofNat 0xfeff

/-! ### Places in the text -/

structure Place where
  rest : List Char
  index : Nat := 0
  line : Nat := 0
  column : Nat := 0

namespace Place

def at? (p : Place) (n : Nat) : Option Char := (p.rest.drop n).head?

def skip (p : Place) (n : Nat) : Place :=
  { p with rest := p.rest.drop n, index := p.index + n, column := p.column + n }

def next (p : Place) : Place := p.skip 1

/-- Over a line break, which may be of two characters. -/
def skipLine (p : Place) : Place :=
  match p.rest with
  | '\r' :: '\n' :: rest => ⟨rest, p.index + 2, p.line + 1, 0⟩
  | c :: rest => if isBreak c then ⟨rest, p.index + 1, p.line + 1, 0⟩ else p
  | [] => p

def breakChars (p : Place) : List Char :=
  match p.rest with
  | c :: _ =>
      if c = '\n' || c = '\r' || c = '\x85' then ['\n'] else if isBreak c then [c] else []
  | [] => []

def skipWhile (test : Char → Bool) (p : Place) : Place :=
  p.skip (p.rest.takeWhile test).length

def isDocumentMark (p : Place) : Bool :=
  p.column = 0 && (['-', '-', '-'].isPrefixOf p.rest || ['.', '.', '.'].isPrefixOf p.rest) &&
    isBlankOrEnd (p.at? 3)

end Place

/-! ### The state of the scan -/

structure SimpleKey where
  required : Bool
  number : Nat
  index : Nat
  line : Nat
  column : Nat

structure Scan where
  place : Place
  /-- The last token comes first. -/
  tokens : List Token := []
  count : Nat := 0
  flowLevel : Nat := 0
  indent : Int := -1
  indents : List Int := []
  keyAllowed : Bool := true
  /-- A place for a key on every level of flow, the innermost first. -/
  keys : List (Option SimpleKey) := [none]
  done : Bool := false

namespace Scan

def emit (s : Scan) (t : Token) : Scan := { s with tokens := t :: s.tokens, count := s.count + 1 }

def insertAt (s : Scan) (number : Nat) (t : Token) : Scan :=
  let later := s.count - number
  { s with tokens := s.tokens.take later ++ t :: s.tokens.drop later, count := s.count + 1 }

def skip (s : Scan) (n : Nat) : Scan := { s with place := s.place.skip n }

def next (s : Scan) : Scan := s.skip 1

def inFlow (s : Scan) : Bool := s.flowLevel ≠ 0

def setKey (s : Scan) (k : Option SimpleKey) : Scan := { s with keys := k :: s.keys.drop 1 }

/-- Gives up the key of the innermost level; one that has to be a key cannot be given up. -/
def removeKey? (s : Scan) : Option Scan :=
  match s.keys with
  | some k :: _ => if k.required then none else some (s.setKey none)
  | _ => some s

def saveKey? (s : Scan) : Option Scan :=
  if s.keyAllowed then do
    let s' ← s.removeKey?
    let p := s.place
    let required := !s.inFlow && s.indent = (p.column : Int)
    some (s'.setKey (some ⟨required, s.count, p.index, p.line, p.column⟩))
  else some s

/-- A key has to be followed by its colon on the same line within 1024 characters. -/
def isStale (s : Scan) (k : SimpleKey) : Bool :=
  k.line < s.place.line || k.index + 1024 < s.place.index

def dropStale? (s : Scan) : Option Scan := do
  let keys ← s.keys.mapM fun k => match k with
    | some k => if s.isStale k then (if k.required then none else some none) else some (some k)
    | none => some none
  some { s with keys }

def roll (s : Scan) (column : Nat) (number : Option Nat) (t : Token) : Scan :=
  if s.inFlow || (column : Int) ≤ s.indent then s
  else
    let s := { s with indents := s.indent :: s.indents, indent := column }
    match number with
    | some n => s.insertAt n t
    | none => s.emit t

def unroll (s : Scan) (column : Int) : Scan :=
  if s.inFlow then s else go s.indents s
where
  go : List Int → Scan → Scan
    | [], s => s
    | i :: rest, s =>
        if column < s.indent then
          go rest ({ s.emit .blockEnd with indent := i, indents := rest })
        else s

/-! ### Blanks and comments -/

def toNextToken : Nat → Scan → Scan
  | 0, s => s
  | fuel + 1, s =>
      let p := s.place
      let p := if p.column = 0 && p.at? 0 = some byteOrderMark then p.next else p
      let tabs := s.inFlow || !s.keyAllowed
      let p := p.skipWhile (fun c => c = ' ' || (tabs && c = '\t'))
      let p := if p.at? 0 = some '#' then p.skipWhile (fun c => !isBreak c) else p
      match p.at? 0 with
      | some c =>
          if isBreak c then
            toNextToken fuel
              { s with place := p.skipLine, keyAllowed := s.keyAllowed || !s.inFlow }
          else { s with place := p }
      | none => { s with place := p }

/-! ### Scalars -/

/-- A scalar under way: what is read, and the blanks and breaks behind it. -/
structure Text where
  chars : List Char := []
  spaces : List Char := []
  leading : List Char := []
  trailing : List Char := []
  /-- Whether a line break was met behind `chars`. -/
  broken : Bool := false

/-- Blanks stay as they are; a single line break becomes a blank, and of several the first one is
left out. All of them are kept in reverse. -/
def Text.fold (t : Text) : Text :=
  if t.broken then
    if t.leading = ['\n'] then
      { chars := (if t.trailing.isEmpty then [' '] else t.trailing) ++ t.chars }
    else { chars := t.trailing ++ t.leading ++ t.chars }
  else { chars := t.spaces ++ t.chars }

def Text.push (t : Text) (c : Char) : Text := { t with chars := c :: t.chars }

def Text.space (t : Text) (p : Place) : Text × Place :=
  match p.at? 0 with
  | some c =>
      if isBlank c then
        (if t.broken then t else { t with spaces := c :: t.spaces }, p.next)
      else if t.broken then
        ({ t with trailing := p.breakChars.reverse ++ t.trailing }, p.skipLine)
      else
        ({ t with spaces := [], leading := p.breakChars.reverse, broken := true }, p.skipLine)
  | none => (t, p)

def isSpace (c : Char) : Bool := isBlank c || isBreak c

/-- A plain scalar ends at a comment, at a colon with a blank behind it, at what ends its
collection, and where a line is indented too little. -/
def plain? (s : Scan) : Nat → Text → Place → Option (Text × Place)
  | 0, _, _ => none
  | fuel + 1, t, p =>
      match p.at? 0 with
      | none => some (t, p)
      | some c =>
          if isSpace c then
            if t.broken && (p.column : Int) < s.indent + 1 && c = '\t' then none
            else
              let (t, p) := t.space p
              plain? s fuel t p
          else
            let afterSpace := t.broken || !t.spaces.isEmpty
            if t.broken && !s.inFlow && (p.column : Int) < s.indent + 1 then some (t, p)
            else if p.isDocumentMark then some (t, p)
            else if c = '#' && (afterSpace || t.chars.isEmpty) then some (t, p)
            else if s.inFlow && c = ':' &&
                (p.at? 1).any [',', '?', '[', ']', '{', '}'].contains then none
            else if c = ':' && isBlankOrEnd (p.at? 1) then some (t, p)
            else if s.inFlow && [',', '[', ']', '{', '}'].contains c then some (t, p)
            else
              let t := if afterSpace then t.fold else t
              plain? s fuel (t.push c) p.next

def hexValue? (c : Char) : Option Nat :=
  if c.isDigit then some (c.toNat - '0'.toNat)
  else if 'a' ≤ c && c ≤ 'f' then some (c.toNat - 'a'.toNat + 10)
  else if 'A' ≤ c && c ≤ 'F' then some (c.toNat - 'A'.toNat + 10)
  else none

/-- The character of `n` hexadecimal digits. -/
def hexChar? (n : Nat) (p : Place) : Option (Char × Place) := do
  let digits := p.rest.take n
  if digits.length ≠ n then none
  let values ← digits.mapM hexValue?
  let code := values.foldl (fun acc v => acc * 16 + v) 0
  if code < 0xd800 ∨ 0xe000 ≤ code ∧ code < 0x110000 then some (Char.ofNat code, p.skip n)
  else none

def escape? (p : Place) : Option (Char × Place) := do
  let c ← p.at? 0
  let q := p.next
  match c with
  | '0' => some ('\x00', q)
  | 'a' => some ('\x07', q)
  | 'b' => some ('\x08', q)
  | 't' | '\t' => some ('\t', q)
  | 'n' => some ('\n', q)
  | 'v' => some ('\x0b', q)
  | 'f' => some ('\x0c', q)
  | 'r' => some ('\r', q)
  | 'e' => some ('\x1b', q)
  | ' ' => some (' ', q)
  | '"' => some ('"', q)
  | '/' => some ('/', q)
  | '\\' => some ('\\', q)
  | 'N' => some ('\x85', q)
  | '_' => some ('\xa0', q)
  | 'L' => some (Char.ofNat 0x2028, q)
  | 'P' => some (Char.ofNat 0x2029, q)
  | 'x' => hexChar? 2 q
  | 'u' => hexChar? 4 q
  | 'U' => hexChar? 8 q
  | _ => none

/-- A scalar in quotes, from behind the opening one. -/
def quoted? (single : Bool) : Nat → Text → Place → Option (Text × Place)
  | 0, _, _ => none
  | fuel + 1, t, p =>
      if p.isDocumentMark then none
      else match p.at? 0 with
      | none => none
      | some c =>
          if isSpace c then
            let (t, p) := t.space p
            quoted? single fuel t p
          else
            let t := if t.broken || !t.spaces.isEmpty then t.fold else t
            if single then
              if c = '\'' then
                if p.at? 1 = some '\'' then quoted? single fuel (t.push '\'') (p.skip 2)
                else some (t, p.next)
              else quoted? single fuel (t.push c) p.next
            else if c = '"' then some (t, p.next)
            else if c = '\\' then
              if (p.at? 1).any isBreak then
                quoted? single fuel { t with broken := true } p.next.skipLine
              else
                match escape? p.next with
                | some (c, p) => quoted? single fuel (t.push c) p
                | none => none
            else quoted? single fuel (t.push c) p.next

/-- The breaks between the lines of a block scalar. The first line that is not blank fixes the
indentation if none is given; it is `0` until then. -/
def blockBreaks? (s : Scan) : Nat → Nat → Nat → List Char → Place →
    Option (Nat × List Char × Place)
  | 0, _, _, _, _ => none
  | fuel + 1, indent, widest, breaks, p =>
      let room := p.rest.takeWhile (· = ' ') |>.length
      let p := p.skip (if indent = 0 then room else min room (indent - p.column))
      let widest := max widest p.column
      if (indent = 0 || p.column < indent) && p.at? 0 = some '\t' then none
      else if (p.at? 0).any isBreak then
        blockBreaks? s fuel indent widest (p.breakChars.reverse ++ breaks) p.skipLine
      else
        let indent := if indent = 0 then max (max widest (s.indent + 1).toNat) 1 else indent
        some (indent, breaks, p)

/-- The lines of a block scalar. Folding joins two lines that neither start with a blank. -/
def blockLines? (s : Scan) (fold : Bool) : Nat → Nat → Bool → Text → Place →
    Option (Text × Place)
  | 0, _, _, _, _ => none
  | fuel + 1, indent, ledByBlank, t, p =>
      if p.column = indent && (p.at? 0).isSome then
        let blank := (p.at? 0).any isBlank
        let joined := fold && t.leading = ['\n'] && !ledByBlank && !blank
        let leading :=
          if joined then (if t.trailing.isEmpty then [' '] else []) else t.leading
        let line := p.rest.takeWhile (fun c => !isBreak c)
        let chars := line.reverse ++ t.trailing ++ leading ++ t.chars
        let p := p.skip line.length
        let leading := p.breakChars.reverse
        match blockBreaks? s (p.rest.length + 1) indent 0 [] p.skipLine with
        | some (indent, trailing, p) =>
            blockLines? s fold fuel indent blank { chars, leading, trailing } p
        | none => none
      else some (t, p)

/-- How the end of a block scalar is treated. -/
inductive Chomp where
  | strip
  | clip
  | keep

/-- The signs behind `|` or `>`: how to end, and how far to indent, in either order. -/
def blockHeader? (p : Place) : Option (Chomp × Nat × Place) := do
  let chomp (p : Place) : Option Chomp × Place :=
    match p.at? 0 with
    | some '+' => (some .keep, p.next)
    | some '-' => (some .strip, p.next)
    | _ => (none, p)
  let width (p : Place) : Option (Nat × Place) :=
    match p.at? 0 with
    | some c =>
        if c = '0' then none
        else if c.isDigit then some (c.toNat - '0'.toNat, p.next)
        else some (0, p)
    | none => some (0, p)
  let (first, p) := chomp p
  let (indent, p) ← width p
  let (second, p) := if first.isNone && indent ≠ 0 then chomp p else (none, p)
  let p := p.skipWhile isBlank
  let p := if p.at? 0 = some '#' then p.skipWhile (fun c => !isBreak c) else p
  if !isBreakOrEnd (p.at? 0) then none
  some ((first <|> second).getD .clip, indent, p.skipLine)

def blockScalar? (s : Scan) (fold : Bool) (p : Place) : Option (List Char × Place) := do
  let (chomp, width, p) ← blockHeader? p
  let fuel := p.rest.length + 1
  let indent := if width = 0 then 0 else (max s.indent 0).toNat + width
  let (indent, trailing, p) ← blockBreaks? s fuel indent 0 [] p
  let (t, p) ← blockLines? s fold fuel indent false { trailing } p
  let chars := match chomp with
    | .strip => t.chars
    | .clip => t.leading ++ t.chars
    | .keep => t.trailing ++ t.leading ++ t.chars
  some (chars.reverse, p)

/-! ### Anchors, tags and directives -/

def name? (p : Place) : Option (String × Place) :=
  let name := p.rest.takeWhile isNameChar
  let p := p.skip name.length
  let ends := isBlankOrEnd (p.at? 0) ||
    (p.at? 0).any ['?', ':', ',', ']', '}', '%', '@', Char.ofNat 0x60].contains
  if name.isEmpty || !ends then none else some (String.ofList name, p)

def isUriChar (c : Char) : Bool :=
  isNameChar c ||
    [';', '/', '?', ':', '@', '&', '=', '+', '$', '.', '!', '~', '*', '\'', '(', ')'].contains c

/-- The bytes written as `%` and two digits. -/
def uriBytes? : Nat → Place → Option (List UInt8 × Place)
  | 0, p => some ([], p)
  | fuel + 1, p =>
      if p.at? 0 = some '%' then do
        let high ← (p.at? 1).bind hexValue?
        let low ← (p.at? 2).bind hexValue?
        let (bytes, p) ← uriBytes? fuel (p.skip 3)
        some (UInt8.ofNat (high * 16 + low) :: bytes, p)
      else some ([], p)

def uri? (verbatim : Bool) : Nat → List Char → Place → Option (List Char × Place)
  | 0, _, _ => none
  | fuel + 1, acc, p =>
      match p.at? 0 with
      | some '%' => do
          let (bytes, p) ← uriBytes? p.rest.length p
          let text ← String.fromUTF8? (ByteArray.mk bytes.toArray)
          uri? verbatim fuel (text.toList.reverse ++ acc) p
      | some c =>
          if isUriChar c || (verbatim && [',', '[', ']'].contains c) then
            uri? verbatim fuel (c :: acc) p.next
          else some (acc.reverse, p)
      | none => some (acc.reverse, p)

/-- A tag: as it is in angle brackets, with a handle between exclamation marks, or local. -/
def tag? (s : Scan) (p : Place) : Option (String × String × Place) := do
  let (handle, suffix, p) ←
    if p.at? 1 = some '<' then do
      let (uri, p) ← uri? true (p.rest.length + 1) [] (p.skip 2)
      if uri.isEmpty || p.at? 0 ≠ some '>' then none
      some ([], uri, p.next)
    else do
      let name := (p.rest.drop 1).takeWhile isNameChar
      let q := p.skip (1 + name.length)
      if q.at? 0 = some '!' then do
        let (suffix, p) ← uri? false (p.rest.length + 1) [] q.next
        if suffix.isEmpty then none
        some ('!' :: name ++ ['!'], suffix, p)
      else do
        let (more, p) ← uri? false (p.rest.length + 1) [] q
        let suffix := name ++ more
        if suffix.isEmpty then some ([], ['!'], p) else some (['!'], suffix, p)
  if (s.inFlow && p.at? 0 = some ',') || isBlankOrEnd (p.at? 0) then
    some (String.ofList handle, String.ofList suffix, p)
  else none

def number? (p : Place) : Option (Nat × Place) :=
  let ds := p.rest.takeWhile Char.isDigit
  if ds.isEmpty || 9 < ds.length then none
  else some (ds.foldl (fun acc d => acc * 10 + (d.toNat - '0'.toNat)) 0, p.skip ds.length)

def directive? (p : Place) : Option (Token × Place) := do
  let name := p.rest.takeWhile isNameChar
  let p := p.skip name.length
  if name.isEmpty || !isBlankOrEnd (p.at? 0) then none
  let p := p.skipWhile isBlank
  let (token, p) ←
    if name = ['Y', 'A', 'M', 'L'] then do
      let (major, p) ← number? p
      if p.at? 0 ≠ some '.' then none
      let (minor, p) ← number? p.next
      some (Token.version major minor, p)
    else if name = ['T', 'A', 'G'] then do
      if p.at? 0 ≠ some '!' then none
      let inner := (p.rest.drop 1).takeWhile isNameChar
      let q := p.skip (1 + inner.length)
      let (handle, p) ←
        if q.at? 0 = some '!' then some ('!' :: inner ++ ['!'], q.next)
        else if inner.isEmpty then some (['!'], q) else none
      if !(p.at? 0).any isBlank then none
      let p := p.skipWhile isBlank
      let (start, p) ← uri? true (p.rest.length + 1) [] p
      if start.isEmpty || !isBlankOrEnd (p.at? 0) then none
      some (Token.tagPrefix (String.ofList handle) (String.ofList start), p)
    else none
  let p := p.skipWhile isBlank
  let p := if p.at? 0 = some '#' then p.skipWhile (fun c => !isBreak c) else p
  if isBreakOrEnd (p.at? 0) then some (token, p.skipLine) else none

/-! ### One token after the other -/

def put (s : Scan) (p : Place) (t : Token) : Scan := { s with place := p }.emit t

def flowStart? (s : Scan) (t : Token) : Option Scan := do
  let s ← s.saveKey?
  let s := { s with flowLevel := s.flowLevel + 1, keys := none :: s.keys, keyAllowed := true }
  some (s.next.emit t)

def flowEnd? (s : Scan) (t : Token) : Option Scan := do
  let s ← s.removeKey?
  let s := if s.inFlow then { s with flowLevel := s.flowLevel - 1, keys := s.keys.drop 1 } else s
  some ({ s with keyAllowed := false }.next.emit t)

def flowEntry? (s : Scan) : Option Scan := do
  let s ← s.removeKey?
  some ({ s with keyAllowed := true }.next.emit .flowEntry)

def blockEntry? (s : Scan) : Option Scan := do
  if !s.inFlow && !s.keyAllowed then none
  let s ← (s.roll s.place.column none .blockSequenceStart).removeKey?
  some ({ s with keyAllowed := true }.next.emit .blockEntry)

def key? (s : Scan) : Option Scan := do
  if !s.inFlow && !s.keyAllowed then none
  let s ← (s.roll s.place.column none .blockMappingStart).removeKey?
  some ({ s with keyAllowed := !s.inFlow }.next.emit .key)

def value? (s : Scan) : Option Scan :=
  match s.keys with
  | some k :: _ =>
      let s := s.insertAt k.number .key
      let s := s.roll k.column (some k.number) .blockMappingStart
      some ({ s.setKey none with keyAllowed := false }.next.emit .value)
  | _ => do
      if !s.inFlow && !s.keyAllowed then none
      let s := s.roll s.place.column none .blockMappingStart
      some ({ s with keyAllowed := !s.inFlow }.next.emit .value)

/-- Ends all blocks, as directives and the marks of documents do. -/
def endBlocks? (s : Scan) : Option Scan := do
  let s ← (s.unroll (-1)).removeKey?
  some { s with keyAllowed := false }

def named? (s : Scan) (make : String → Token) : Option Scan := do
  let s ← s.saveKey?
  let (name, p) ← name? s.place.next
  some ({ s with keyAllowed := false }.put p (make name))

def tagged? (s : Scan) : Option Scan := do
  let s ← s.saveKey?
  let (handle, suffix, p) ← tag? s s.place
  some ({ s with keyAllowed := false }.put p (.tag handle suffix))

def block? (s : Scan) (fold : Bool) : Option Scan := do
  let s ← s.removeKey?
  let (chars, p) ← blockScalar? s fold s.place.next
  let style := if fold then Style.folded else .literal
  some ({ s with keyAllowed := true }.put p (.scalar (String.ofList chars) style))

def quote? (s : Scan) (single : Bool) : Option Scan := do
  let s ← s.saveKey?
  let (t, p) ← quoted? single (2 * s.place.rest.length + 2) {} s.place.next
  some ({ s with keyAllowed := false }.put p (.scalar (String.ofList t.chars.reverse) .quoted))

def plainToken? (s : Scan) : Option Scan := do
  let s ← s.saveKey?
  let (t, p) ← plain? s (2 * s.place.rest.length + 2) {} s.place
  some ({ s with keyAllowed := t.broken }.put p
    (.scalar (String.ofList t.chars.reverse) .plain))

/-- The signs that cannot start a plain scalar. -/
def indicators : List Char :=
  ['-', '?', ':', ',', '[', ']', '{', '}', '#', '&', '*', '!', '|', '>', '\'', '"', '%', '@',
    Char.ofNat 0x60]

def startsPlain (s : Scan) (c : Char) : Bool :=
  let next := s.place.at? 1
  !(isSpace c || indicators.contains c) ||
    (c = '-' && !next.any isBlank) ||
    (!s.inFlow && (c = '?' || c = ':') && !isBlankOrEnd next)

def fetch? (s : Scan) : Option Scan := do
  let s := toNextToken (s.place.rest.length + 1) s
  let s ← s.dropStale?
  let s := s.unroll s.place.column
  let p := s.place
  match p.at? 0 with
  | none => do
      let s ← s.endBlocks?
      some { s.emit .streamEnd with done := true }
  | some c =>
      let spaced := isBlankOrEnd (p.at? 1)
      if p.column = 0 && c = '%' then do
        let s ← s.endBlocks?
        let (t, p) ← directive? p.next
        some (s.put p t)
      else if p.isDocumentMark then do
        let s ← s.endBlocks?
        some ((s.skip 3).emit (if c = '-' then .documentStart else .documentEnd))
      else if c = '[' then s.flowStart? .flowSequenceStart
      else if c = '{' then s.flowStart? .flowMappingStart
      else if c = ']' then s.flowEnd? .flowSequenceEnd
      else if c = '}' then s.flowEnd? .flowMappingEnd
      else if c = ',' then s.flowEntry?
      else if c = '-' && spaced then s.blockEntry?
      else if c = '?' && (s.inFlow || spaced) then s.key?
      else if c = ':' && (s.inFlow || spaced) then s.value?
      else if c = '*' then s.named? .reference
      else if c = '&' then s.named? .anchor
      else if c = '!' then s.tagged?
      else if c = '|' && !s.inFlow then s.block? false
      else if c = '>' && !s.inFlow then s.block? true
      else if c = '\'' then s.quote? true
      else if c = '"' then s.quote? false
      else if s.startsPlain c then s.plainToken?
      else none

def run? : Nat → Scan → Option Scan
  | 0, _ => none
  | fuel + 1, s => if s.done then some s else (s.fetch?).bind (run? fuel)

end Scan

def scan? (text : List Char) : Option (List Token) := do
  if !text.all isAllowed then none
  let s ← Scan.run? (2 * text.length + 4) { place := { rest := text } }
  some s.tokens.reverse

end Token

end LossPrevention.Yaml
