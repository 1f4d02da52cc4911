import LossPrevention.Text.Blank
import LossPrevention.Text.Folding
import LossPrevention.Text.Property.Age
import LossPrevention.Text.Property.Binary
import LossPrevention.Text.Property.Break
import LossPrevention.Text.Property.Category
import LossPrevention.Text.Property.Recent
import LossPrevention.Text.Property.Script

/-!
Sets of characters: ranges, the classes of Unicode, and what unions, intersections, complements
and case folding make of them. `CharSet.contains` is their meaning.
-/

namespace LossPrevention.Text

/-- The code points of the table's entry that has `name` among its names. -/
def property? (table : List (List String × List String)) (name : String) :
    Option (List (Nat × Nat)) :=
  (table.find? (fun e => e.1.contains name)).map (fun e => Ranges.decode e.2)

def category (code : String) : List (Nat × Nat) := (property? Property.Category.table code).getD []

def alphabetic : List (Nat × Nat) := (property? Property.Binary.table "alphabetic").getD []

def decimalDigits : List (Nat × Nat) := category "nd"

/-- What a word holds beside letters and digits: marks, connectors and joiners. -/
def wordExtras : List (Nat × Nat) :=
  category "mn" ++ category "mc" ++ category "me" ++ category "pc" ++ [(0x200c, 0x200d)]

def isDigit (c : Char) : Bool :=
  c.isDigit || (0x80 ≤ c.toNat && Ranges.contains decimalDigits c.toNat)

def recentLetters : List (Nat × Nat) := Ranges.decode Property.Recent.letters

def recentNumbers : List (Nat × Nat) := Ranges.decode Property.Recent.numbers

/-- A letter as of Unicode 17. -/
def isLetter (c : Char) : Bool :=
  c.isAlpha || (0x80 ≤ c.toNat &&
    (Ranges.contains alphabetic c.toNat || Ranges.contains recentLetters c.toNat))

/-- A digit or another number as of Unicode 17. -/
def isNumeric (c : Char) : Bool :=
  isDigit c || (0x80 ≤ c.toNat &&
    (Ranges.contains (category "nl" ++ category "no") c.toNat ||
      Ranges.contains recentNumbers c.toNat))

def isAsciiWord (c : Char) : Bool := c.isAlphanum || c = '_'

def isWord (c : Char) : Bool :=
  isAsciiWord c ||
    (0x80 ≤ c.toNat &&
      (Ranges.contains alphabetic c.toNat || Ranges.contains decimalDigits c.toNat ||
        Ranges.contains wordExtras c.toNat))

theorem isWord_of_isDigit {c : Char} (h : c.isDigit = true) : isWord c = true := by
  simp [isWord, isAsciiWord, Char.isAlphanum, h]

inductive CharSet where
  | empty
  | any
  | range (first last : Nat)
  | ranges (all : List (Nat × Nat))
  | digit
  | blank
  | word
  | union (a b : CharSet)
  | inter (a b : CharSet)
  | compl (a : CharSet)
  /-- Everything that differs from a member in case only. -/
  | folded (a : CharSet)
  /-- The members within ASCII, for a class that is made of bytes. -/
  | ascii (a : CharSet)

namespace CharSet

def contains : CharSet → Char → Bool
  | empty, _ => false
  | any, _ => true
  | range first last, c => first ≤ c.toNat && c.toNat ≤ last
  | ranges all, c => Ranges.contains all c.toNat
  | digit, c => isDigit c
  | blank, c => isBlank c
  | word, c => isWord c
  | union a b, c => a.contains c || b.contains c
  | inter a b, c => a.contains c && b.contains c
  | compl a, c => !a.contains c
  | folded a, c => (Folding.variants c).any a.contains
  | ascii a, c => c.toNat < 0x80 && a.contains c

def wordRanges : List (Nat × Nat) :=
  Ranges.normal (alphabetic ++ decimalDigits ++ wordExtras)

def blankRanges : List (Nat × Nat) :=
  [(9, 13), (0x20, 0x20), (0x85, 0x85), (0xa0, 0xa0), (0x1680, 0x1680), (0x2000, 0x200a),
    (0x2028, 0x2029), (0x202f, 0x202f), (0x205f, 0x205f), (0x3000, 0x3000)]

/-- The members as ascending ranges that do not touch; surrogates, which are no characters, may be
among them. -/
def codePoints : CharSet → List (Nat × Nat)
  | empty => []
  | any => [(0, Ranges.top)]
  | range first last => if first ≤ last then [(first, last)] else []
  | ranges all => Ranges.normal all
  | digit => Ranges.normal decimalDigits
  | blank => blankRanges
  | word => wordRanges
  | union a b => Ranges.union a.codePoints b.codePoints
  | inter a b => Ranges.inter a.codePoints b.codePoints
  | compl a => Ranges.compl a.codePoints
  | folded a => Folding.close a.codePoints
  | ascii a => Ranges.inter a.codePoints [(0, 0x7f)]

/-- The members as ascending ranges of characters. -/
def toRanges (s : CharSet) : List (Nat × Nat) :=
  Ranges.inter s.codePoints [(0, 0xd7ff), (0xe000, Ranges.top)]

def single (c : Char) : CharSet := .range c.toNat c.toNat

def unions (sets : List CharSet) : CharSet :=
  match sets with
  | [] => empty
  | s :: rest => rest.foldl union s

def asciiDigit : CharSet := .range 0x30 0x39

def asciiBlank : CharSet := .ranges [(9, 13), (32, 32)]

def asciiWord : CharSet := .ranges [(0x30, 0x39), (0x41, 0x5a), (0x5f, 0x5f), (0x61, 0x7a)]

/-- The classes that are named in brackets and colons, such as `[:alpha:]`. -/
def posix? : String → Option CharSet
  | "alnum" => some (.ranges [(0x30, 0x39), (0x41, 0x5a), (0x61, 0x7a)])
  | "alpha" => some (.ranges [(0x41, 0x5a), (0x61, 0x7a)])
  | "ascii" => some (.range 0 0x7f)
  | "blank" => some (.ranges [(9, 9), (32, 32)])
  | "cntrl" => some (.ranges [(0, 0x1f), (0x7f, 0x7f)])
  | "digit" => some asciiDigit
  | "graph" => some (.range 0x21 0x7e)
  | "lower" => some (.range 0x61 0x7a)
  | "print" => some (.range 0x20 0x7e)
  | "punct" => some (.ranges [(0x21, 0x2f), (0x3a, 0x40), (0x5b, 0x60), (0x7b, 0x7e)])
  | "space" => some asciiBlank
  | "upper" => some (.range 0x41 0x5a)
  | "word" => some asciiWord
  | "xdigit" => some (.ranges [(0x30, 0x39), (0x41, 0x46), (0x61, 0x66)])
  | _ => none

/-- A property's name without case, blanks, hyphens, underscores and a leading `is`. -/
def looseName (name : String) : String :=
  let cs := name.toList
  let (led, cs) := match cs with
    | i :: s :: rest => if i.toLower = 'i' && s.toLower = 's' then (true, rest) else (false, cs)
    | _ => (false, cs)
  let kept := (cs.filter (fun c => c ≠ ' ' && c ≠ '_' && c ≠ '-' && c.toNat < 0x80)).map
    Char.toLower
  if led && kept = ['c'] then "isc" else String.ofList kept

/-- The codes of the categories that a category's name stands for; `cn` is the unassigned one. -/
def categoryCodes? : String → Option (List String)
  | "c" | "other" => some ["cc", "cf", "cn", "co"]
  | "cc" | "control" | "cntrl" => some ["cc"]
  | "cf" | "format" => some ["cf"]
  | "cn" | "unassigned" => some ["cn"]
  | "co" | "privateuse" => some ["co"]
  | "l" | "letter" => some ["ll", "lm", "lo", "lt", "lu"]
  | "lc" | "casedletter" => some ["ll", "lt", "lu"]
  | "ll" | "lowercaseletter" => some ["ll"]
  | "lm" | "modifierletter" => some ["lm"]
  | "lo" | "otherletter" => some ["lo"]
  | "lt" | "titlecaseletter" => some ["lt"]
  | "lu" | "uppercaseletter" => some ["lu"]
  | "m" | "mark" | "combiningmark" => some ["mc", "me", "mn"]
  | "mc" | "spacingmark" => some ["mc"]
  | "me" | "enclosingmark" => some ["me"]
  | "mn" | "nonspacingmark" => some ["mn"]
  | "n" | "number" => some ["nd", "nl", "no"]
  | "nd" | "decimalnumber" | "digit" => some ["nd"]
  | "nl" | "letternumber" => some ["nl"]
  | "no" | "othernumber" => some ["no"]
  | "p" | "punctuation" | "punct" => some ["pc", "pd", "pe", "pf", "pi", "po", "ps"]
  | "pc" | "connectorpunctuation" => some ["pc"]
  | "pd" | "dashpunctuation" => some ["pd"]
  | "pe" | "closepunctuation" => some ["pe"]
  | "pf" | "finalpunctuation" => some ["pf"]
  | "pi" | "initialpunctuation" => some ["pi"]
  | "po" | "otherpunctuation" => some ["po"]
  | "ps" | "openpunctuation" => some ["ps"]
  | "s" | "symbol" => some ["sc", "sk", "sm", "so"]
  | "sc" | "currencysymbol" => some ["sc"]
  | "sk" | "modifiersymbol" => some ["sk"]
  | "sm" | "mathsymbol" => some ["sm"]
  | "so" | "othersymbol" => some ["so"]
  | "z" | "separator" => some ["zl", "zp", "zs"]
  | "zl" | "lineseparator" => some ["zl"]
  | "zp" | "paragraphseparator" => some ["zp"]
  | "zs" | "spaceseparator" => some ["zs"]
  | _ => none

def assigned : CharSet :=
  .ranges (Property.Category.table.flatMap (fun e => Ranges.decode e.2))

def ofCode (code : String) : CharSet :=
  if code = "cn" then .compl assigned else .ranges (category code)

def category? (name : String) : Option CharSet :=
  match name with
  | "any" => some any
  | "ascii" => some (.range 0 0x7f)
  | "assigned" => some assigned
  | _ => (categoryCodes? name).map (fun codes => unions (codes.map ofCode))

def script? (name : String) : Option CharSet :=
  (property? Property.Script.table name).map .ranges

def scriptExtensions? (name : String) : Option CharSet :=
  ((property? Property.Script.extensions name).orElse
    (fun _ => property? Property.Script.table name)).map .ranges

/-- A property by its name alone: a binary property, a category or a script. Three short names
belong to a category although a property has them too. -/
def named? (name : String) : Option CharSet :=
  let name := looseName name
  let binary :=
    if name = "cf" || name = "sc" || name = "lc" then none
    else (property? Property.Binary.table name).map .ranges
  binary <|> category? name <|> script? name

/-- The characters that the named version of Unicode or an older one was the first to hold. -/
def age? (name : String) : Option CharSet :=
  go [] Property.Age.table
where
  go (older : List (Nat × Nat)) : List (List String × List String) → Option CharSet
    | [] => none
    | (names, runs) :: rest =>
        let held := older ++ Ranges.decode runs
        if names.contains name then some (.ranges held) else go held rest

/-- A property given as a name and a value. -/
def valued? (name value : String) : Option CharSet :=
  let value := looseName value
  match looseName name with
  | "gc" | "generalcategory" => category? value
  | "sc" | "script" => script? value
  | "scx" | "scriptextensions" => scriptExtensions? value
  | "age" => age? value
  | "gcb" | "graphemeclusterbreak" => (property? Property.Break.grapheme value).map .ranges
  | "wb" | "wordbreak" => (property? Property.Break.word value).map .ranges
  | "sb" | "sentencebreak" => (property? Property.Break.sentence value).map .ranges
  | _ => none

end CharSet

end LossPrevention.Text
