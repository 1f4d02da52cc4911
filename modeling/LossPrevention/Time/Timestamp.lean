import LossPrevention.Text.Blank
import LossPrevention.Text.Digits
import LossPrevention.Time.Instant

/-!
Instants as text: `2026-03-01T12:00:00.500+00:00`. What is written has no digits for a fraction or
three, six or nine of them. What is read may leave out leading zeros, may have white space before
a number and around a separator, and may be at any offset from universal time.
-/

namespace LossPrevention.Time.Instant

open Text (digitsValue padded)

def yearText (year : Int) : String :=
  if 0 ≤ year ∧ year ≤ 9999 then padded 4 year.toNat
  else (if year < 0 then "-" else "+") ++ padded 4 year.natAbs

def fractionText (nanos : Nat) : String :=
  if nanos = 0 then ""
  else if nanos % 1000000 = 0 then "." ++ padded 3 (nanos / 1000000)
  else if nanos % 1000 = 0 then "." ++ padded 6 (nanos / 1000)
  else "." ++ padded 9 nanos

/-- The instant with `offset` as the name of universal time. A leap second is written as 60. -/
def textWith (offset : String) (t : Instant) : String :=
  let date := Date.ofDays (t.seconds / 86400)
  let inDay := (t.seconds % 86400).toNat
  let second := inDay % 60 + t.nanos / unit
  yearText date.year ++ "-" ++ padded 2 date.month ++ "-" ++ padded 2 date.day ++ "T" ++
    padded 2 (inDay / 3600) ++ ":" ++ padded 2 (inDay / 60 % 60) ++ ":" ++ padded 2 second ++
    fractionText (t.nanos % unit) ++ offset

def text (t : Instant) : String := t.textWith "+00:00"

def zuluText (t : Instant) : String := t.textWith "Z"

def skipBlank (cs : List Char) : List Char := cs.dropWhile Text.isBlank

/-- Up to `width` digits, at least one. -/
def number? (width : Nat) (cs : List Char) : Option (Nat × List Char) :=
  let ds := (cs.take width).takeWhile Char.isDigit
  if ds.isEmpty then none else some (digitsValue ds, cs.drop ds.length)

/-- A number within the bounds, after white space. -/
def field? (low high : Nat) (cs : List Char) : Option (Nat × List Char) := do
  let (n, rest) ← number? 2 (skipBlank cs)
  if low ≤ n ∧ n ≤ high then some (n, rest) else none

/-- Four digits at most; any number of them after a sign. -/
def year? (cs : List Char) : Option (Int × List Char) :=
  match skipBlank cs with
  | '-' :: rest => (number? rest.length rest).map fun (n, rest) => (-n, rest)
  | '+' :: rest => (number? rest.length rest).map fun (n, rest) => ((n : Int), rest)
  | rest => (number? 4 rest).map fun (n, rest) => ((n : Int), rest)

def separator? (c : Char) (cs : List Char) : Option (List Char) :=
  match skipBlank cs with
  | d :: rest => if d = c then some rest else none
  | [] => none

/-- Nanoseconds after a point; from the tenth on digits do not count. -/
def fraction? : List Char → Option (Nat × List Char)
  | '.' :: rest =>
      let ds := (rest.take 9).takeWhile Char.isDigit
      if ds.isEmpty then none
      else
        let after := (rest.drop ds.length).dropWhile Char.isDigit
        some (digitsValue ds * Nat.pow 10 (9 - ds.length), after)
  | cs => some (0, cs)

def offsetMinutes? (cs : List Char) : Option (Nat × List Char) :=
  match cs with
  | a :: b :: rest =>
      if a.isDigit ∧ b.isDigit then
        match rest.dropWhile (fun c => c = ':' || Text.isBlank c) with
        | c :: d :: rest =>
            if c.isDigit ∧ d.isDigit ∧ c < '6' then
              some (digitsValue [a, b] * 60 + digitsValue [c, d], rest)
            else none
        | _ => none
      else none
  | _ => none

/-- How many minutes the local time is ahead. -/
def offset? (cs : List Char) : Option (Int × List Char) :=
  let ahead (sign : Int) (cs : List Char) : Option (Int × List Char) := do
    let (n, rest) ← offsetMinutes? cs
    if n < 24 * 60 then some (sign * n, rest) else none
  match skipBlank cs with
  | 'Z' :: rest | 'z' :: rest => some (0, rest)
  | '+' :: rest => ahead 1 rest
  | '-' :: rest | '\u2212' :: rest => ahead (-1) rest
  | u :: t :: c :: rest =>
      if Text.lowerAscii (String.ofList [u, t, c]) = "utc" then some (0, rest) else none
  | _ => none

def isWithin (t : Instant) : Bool := earliest.seconds ≤ t.seconds && t.seconds ≤ latest.seconds

def read? (cs : List Char) : Option Instant := do
  let (year, cs) ← year? cs
  let cs ← separator? '-' cs
  let (month, cs) ← field? 1 12 cs
  let cs ← separator? '-' cs
  let (day, cs) ← field? 1 31 cs
  let cs ← match cs with
    | 'T' :: rest | 't' :: rest | ' ' :: rest => some rest
    | _ => none
  let (hour, cs) ← field? 0 23 cs
  let cs ← separator? ':' cs
  let (minute, cs) ← field? 0 59 cs
  let cs ← separator? ':' cs
  let (second, cs) ← field? 0 60 cs
  let (nanos, cs) ← fraction? cs
  let (offset, cs) ← offset? cs
  if !(skipBlank cs).isEmpty then none
  let date ← Date.ofParts? year month day
  let leap := if second = 60 then 1 else 0
  let seconds : Int := date.toDays * 86400 + hour * 3600 + minute * 60 + (second - leap : Nat)
  let here : Instant := ⟨seconds, leap * unit + nanos⟩
  let there : Instant := ⟨seconds - offset * 60, leap * unit + nanos⟩
  if here.isWithin && there.isWithin then some there else none

def ofText? (text : String) : Option Instant := read? text.toList

end LossPrevention.Time.Instant
