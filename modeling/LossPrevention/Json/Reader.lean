import LossPrevention.Document.Basic
import LossPrevention.Text.Digits

/-!
Reading JSON text. Integers are exact within 64 bits; any other number is a binary number, scaled
from its first digits in floating-point steps. Lists and objects may be 127 deep.
-/

namespace LossPrevention.Json.Reader

open Binary64
open Text (digitValue digitsValue)

def isBlank (c : Char) : Bool := c = ' ' || c = '\t' || c = '\n' || c = '\r'

def skipBlank (cs : List Char) : List Char := cs.dropWhile isBlank

/-- Appends digits to `acc` as long as it stays below `2 ^ 64`; the rest of the digits is left. -/
def accumulate (acc : Nat) : List Char → Nat × List Char
  | [] => (acc, [])
  | d :: ds =>
      let next := acc * 10 + digitValue d
      if next < Nat.pow 2 64 then accumulate next ds else (acc, d :: ds)

/-- Whether a minus leads an exponent, and what follows its sign. -/
def exponentSign : List Char → Bool × List Char
  | '-' :: rest => (true, rest)
  | '+' :: rest => (false, rest)
  | cs => (false, cs)

/-- The exponent after an `e`, with at least one digit. -/
def exponent? (cs : List Char) : Option (Int × List Char) :=
  let (negative, cs) := exponentSign cs
  let (ds, rest) := cs.span Char.isDigit
  if ds.isEmpty then none
  else
    let n : Int := digitsValue ds
    some (if negative then -n else n, rest)

/-- The digits after a point, with at least one. -/
def fraction? (cs : List Char) : Option (List Char × List Char) :=
  let (ds, rest) := cs.span Char.isDigit
  if ds.isEmpty then none else some (ds, rest)

def signed (negative : Bool) (x : Float) : Float := if negative then negate x else x

/-- A number whose fraction is `ds`, scaled by `10 ^ e`: only the digits that fit into 64 bits
count, the others give way to zeros. -/
def float? (negative : Bool) (whole ds : List Char) (e : Int) : Option Number :=
  let (high, dropped) := accumulate 0 whole
  let (digits, rest) := accumulate high ds
  let scale := e + dropped.length - (ds.length - rest.length : Nat)
  (ofDigits? digits scale).map (fun x => .float (signed negative x))

def integer? (negative : Bool) (whole : List Char) : Option Number :=
  let n := digitsValue whole
  if Nat.pow 2 64 ≤ n then float? negative whole [] 0
  else if !negative then some (.int n)
  else if n = 0 ∨ Nat.pow 2 63 < n then some (.float (negate (ofInt n)))
  else some (.int (-n))

/-- Whether a minus leads a number, and what follows it. -/
def sign : List Char → Bool × List Char
  | '-' :: rest => (true, rest)
  | cs => (false, cs)

/-- The digits of a fraction, if there is one. -/
def point? : List Char → Option (List Char × List Char)
  | '.' :: rest => fraction? rest
  | cs => some ([], cs)

/-- The number of which all digits are known, with the exponent that may follow them. -/
def scaled? (negative : Bool) (whole ds : List Char) : List Char → Option (Number × List Char)
  | 'e' :: rest | 'E' :: rest => do
      let (e, rest) ← exponent? rest
      (float? negative whole ds e).map (·, rest)
  | cs => (if ds.isEmpty then integer? negative whole else float? negative whole ds 0).map (·, cs)

def number? (cs : List Char) : Option (Number × List Char) := do
  let (negative, cs) := sign cs
  let (whole, rest) := cs.span Char.isDigit
  if whole.isEmpty || (whole.head? = some '0' && whole.length ≠ 1) then none
  else
    let (ds, rest) ← point? rest
    scaled? negative whole ds rest

def hexValue? (c : Char) : Option Nat :=
  if c.isDigit then some (digitValue c)
  else if 'a' ≤ c && c ≤ 'f' then some (c.toNat - 'a'.toNat + 10)
  else if 'A' ≤ c && c ≤ 'F' then some (c.toNat - 'A'.toNat + 10)
  else none

def unit? : List Char → Option (Nat × List Char)
  | a :: b :: c :: d :: rest => do
      let a ← hexValue? a
      let b ← hexValue? b
      let c ← hexValue? c
      let d ← hexValue? d
      some (((a * 16 + b) * 16 + c) * 16 + d, rest)
  | _ => none

def isHighSurrogate (n : Nat) : Bool := 0xd800 ≤ n && n < 0xdc00

def isLowSurrogate (n : Nat) : Bool := 0xdc00 ≤ n && n < 0xe000

/-- The character of a `\u` escape; two halves of a surrogate pair belong together and a half on
its own stands for nothing. -/
def unicode? (cs : List Char) : Option (Char × List Char) := do
  let (high, rest) ← unit? cs
  if isLowSurrogate high then none
  else if isHighSurrogate high then
    match rest with
    | '\\' :: 'u' :: rest => do
        let (low, rest) ← unit? rest
        if isLowSurrogate low then
          some (Char.ofNat (0x10000 + (high - 0xd800) * 0x400 + (low - 0xdc00)), rest)
        else none
    | _ => none
  else some (Char.ofNat high, rest)

def escape? : List Char → Option (Char × List Char)
  | '"' :: rest => some ('"', rest)
  | '\\' :: rest => some ('\\', rest)
  | '/' :: rest => some ('/', rest)
  | 'b' :: rest => some ('\x08', rest)
  | 'f' :: rest => some ('\x0c', rest)
  | 'n' :: rest => some ('\n', rest)
  | 'r' :: rest => some ('\r', rest)
  | 't' :: rest => some ('\t', rest)
  | 'u' :: rest => unicode? rest
  | _ => none

/-- The characters of a text up to its closing quote, which is taken too. -/
def quoted? : Nat → List Char → Option (List Char × List Char)
  | 0, _ => none
  | _, [] => none
  | _, '"' :: rest => some ([], rest)
  | fuel + 1, '\\' :: rest => do
      let (c, rest) ← escape? rest
      let (s, rest) ← quoted? fuel rest
      some (c :: s, rest)
  | fuel + 1, c :: rest =>
      if c.toNat < 0x20 then none
      else do
        let (s, rest) ← quoted? fuel rest
        some (c :: s, rest)

def text? (cs : List Char) : Option (String × List Char) := do
  let (s, rest) ← quoted? (cs.length + 1) cs
  some (String.ofList s, rest)

def word? (word : List Char) (d : Document) (cs : List Char) : Option (Document × List Char) :=
  if word.isPrefixOf cs then some (d, cs.drop word.length) else none

mutual

/-- The value at the head of the text; `depth` more levels may open. -/
def value? : Nat → Nat → List Char → Option (Document × List Char)
  | 0, _, _ => none
  | fuel + 1, depth, cs =>
      match skipBlank cs with
      | 'n' :: rest => word? ['u', 'l', 'l'] .null rest
      | 't' :: rest => word? ['r', 'u', 'e'] (.bool true) rest
      | 'f' :: rest => word? ['a', 'l', 's', 'e'] (.bool false) rest
      | '"' :: rest => do
          let (s, rest) ← text? rest
          some (.text s, rest)
      | '[' :: rest =>
          if depth = 0 then none
          else match skipBlank rest with
            | ']' :: rest => some (.list [], rest)
            | rest => do
                let (items, rest) ← items? fuel (depth - 1) rest
                some (.list items, rest)
      | '{' :: rest =>
          if depth = 0 then none
          else match skipBlank rest with
            | '}' :: rest => some (.record [], rest)
            | rest => do
                let (fields, rest) ← fields? fuel (depth - 1) rest
                some (.record fields, rest)
      | cs => do
          let (n, rest) ← number? cs
          some (.number n, rest)

def items? : Nat → Nat → List Char → Option (List Document × List Char)
  | 0, _, _ => none
  | fuel + 1, depth, cs => do
      let (d, rest) ← value? fuel depth cs
      match skipBlank rest with
      | ']' :: rest => some ([d], rest)
      | ',' :: rest => do
          let (ds, rest) ← items? fuel depth rest
          some (d :: ds, rest)
      | _ => none

def fields? : Nat → Nat → List Char → Option (List (Document × Document) × List Char)
  | 0, _, _ => none
  | fuel + 1, depth, cs =>
      match skipBlank cs with
      | '"' :: rest => do
          let (key, rest) ← text? rest
          match skipBlank rest with
          | ':' :: rest => do
              let (d, rest) ← value? fuel depth rest
              match skipBlank rest with
              | '}' :: rest => some ([(.text key, d)], rest)
              | ',' :: rest => do
                  let (fs, rest) ← fields? fuel depth rest
                  some ((.text key, d) :: fs, rest)
              | _ => none
          | _ => none
      | _ => none

end

/-- How many lists and objects may be open at once. -/
def maxDepth : Nat := 127

def document? (cs : List Char) : Option Document := do
  let (d, rest) ← value? (2 * cs.length + 2) maxDepth cs
  if (skipBlank rest).isEmpty then some d else none

end Reader

def read? (text : String) : Option Document := Reader.document? text.toList

def Value.parse? (text : String) : Option Value := (read? text).bind Document.toValue?

end LossPrevention.Json
