import LossPrevention.Document.Basic

/-!
What a scalar without quotes means: null, a truth value, a number or a text. Numbers are decimal,
or hexadecimal, octal and binary with `0x`, `0o` and `0b`; leading zeros make a text.
-/

namespace LossPrevention.Document.Scalar

open Json (Number)

/-- What the tags of the scalars' own types start with. -/
def coreTag : String := "tag:yaml.org,2002:"

def localTag? (tag : String) : Option String :=
  match tag.toList with
  | '!' :: name => some (String.ofList name)
  | _ => none

def isNull (s : String) : Bool := s = "" || s = "~" || s = "null" || s = "Null" || s = "NULL"

def bool? : String → Option Bool
  | "true" | "True" | "TRUE" => some true
  | "false" | "False" | "FALSE" => some false
  | _ => none

def digitValue (c : Char) : Nat :=
  if c.isDigit then c.toNat - '0'.toNat else c.toLower.toNat - 'a'.toNat + 10

def isDigitOf (base : Nat) (c : Char) : Bool :=
  (c.isDigit || ('a' ≤ c.toLower && c.toLower ≤ 'f')) && digitValue c < base

def digitsIn? (base : Nat) (cs : List Char) : Option Nat :=
  if cs.isEmpty || !cs.all (isDigitOf base) then none
  else some (cs.foldl (fun acc c => acc * base + digitValue c) 0)

/-- Digits that a zero leads, as a sign may lead them, are no number. -/
def isPadded (cs : List Char) : Bool :=
  let cs := match cs with
    | '-' :: rest | '+' :: rest => rest
    | _ => cs
  match cs with
  | '0' :: rest => !rest.isEmpty && rest.all Char.isDigit
  | _ => false

/-- A magnitude with its base in front. -/
def based? : List Char → Option Nat
  | '0' :: 'x' :: cs => digitsIn? 16 cs
  | '0' :: 'o' :: cs => digitsIn? 8 cs
  | '0' :: 'b' :: cs => digitsIn? 2 cs
  | _ => none

def unsigned? (cs : List Char) : Option Nat :=
  let bare := match cs with
    | '+' :: rest => rest
    | _ => cs
  (based? bare).orElse fun _ => if isPadded cs then none else digitsIn? 10 bare

def negated? (cs : List Char) : Option Nat :=
  match cs with
  | '-' :: rest => (based? rest).orElse fun _ => if isPadded cs then none else digitsIn? 10 rest
  | _ => none

def int? (s : String) : Option Int :=
  ((unsigned? s.toList).map Int.ofNat).orElse fun _ =>
    (negated? s.toList).map (fun n => -(n : Int))

/-- The digits of a decimal with a point or an exponent or neither, and their scale. -/
def decimal? (cs : List Char) : Option (Nat × Int) := do
  let (whole, rest) := cs.span Char.isDigit
  let (fraction, rest) := match rest with
    | '.' :: after => after.span Char.isDigit
    | _ => ([], rest)
  if whole.isEmpty && fraction.isEmpty then none
  let e ← match rest with
    | [] => some (0 : Int)
    | 'e' :: after | 'E' :: after =>
        match after with
        | '-' :: ds => (digitsIn? 10 ds).map (fun n => -(n : Int))
        | '+' :: ds => (digitsIn? 10 ds).map Int.ofNat
        | ds => (digitsIn? 10 ds).map Int.ofNat
    | _ => none
  let digits ← digitsIn? 10 (whole ++ fraction)
  some (digits, e - fraction.length)

/-- A scale beyond which every number is infinite or zero. -/
def scaleLimit (digits : Nat) (scale : Int) : Int :=
  let size : Int := (Nat.toDigits 10 digits).length
  max (-400 - size) (min 400 scale)

def magnitude? (cs : List Char) : Option Float := do
  let (digits, scale) ← decimal? cs
  let x := Binary64.nearest digits (scaleLimit digits scale)
  if Binary64.isFinite x then some x else none

def float? (s : String) : Option Float :=
  match s with
  | ".inf" | ".Inf" | ".INF" | "+.inf" | "+.Inf" | "+.INF" => some Binary64.infinity
  | "-.inf" | "-.Inf" | "-.INF" => some (Binary64.negate Binary64.infinity)
  | ".nan" | ".NaN" | ".NAN" => some Binary64.nan
  | _ =>
      match s.toList with
      | '+' :: cs => magnitude? cs
      | '-' :: cs => (magnitude? cs).map Binary64.negate
      | cs => magnitude? cs

/-- Integers beyond 64 bits have no place in a document. -/
def resolve? (s : String) : Option Document :=
  if isNull s then some .null
  else
    match bool? s with
    | some b => some (.bool b)
    | none =>
        match int? s with
        | some n => if -(Nat.pow 2 63 : Int) ≤ n ∧ n < Nat.pow 2 64 then some (.number (.int n)) else
            if -(Nat.pow 2 127 : Int) ≤ n ∧ n < Nat.pow 2 128 then none else asFloat s
        | none => asFloat s
where
  asFloat (s : String) : Option Document :=
    match if isPadded s.toList then none else float? s with
    | some x => some (.number (.float x))
    | none => some (.text s)

end LossPrevention.Document.Scalar
