import LossPrevention.Decimal.Shortest
import LossPrevention.Json.Value

/-!
Compact JSON text: no blanks, keys in ascending order, and only quotes, backslashes and control
characters escaped.
-/

namespace LossPrevention.Json

open Binary64

/-- From here on up numbers are written with an exponent. -/
def positionalLimit : Int := 16

/-- Down to this many zeros after the point numbers are written without an exponent. -/
def positionalZeros : Int := 4

/-- The digits `ds` with the point after the first `e` of them, filled up with zeros. -/
def positional (ds : List Char) (e : Int) : List Char :=
  if e ≤ 0 then '0' :: '.' :: (List.replicate e.natAbs '0' ++ ds)
  else
    let n := e.toNat
    if ds.length ≤ n then ds ++ List.replicate (n - ds.length) '0' ++ ['.', '0']
    else ds.take n ++ '.' :: ds.drop n

def scientific (ds : List Char) (e : Int) : List Char :=
  let lead := match ds with
    | [] => []
    | [d] => [d]
    | d :: rest => d :: '.' :: rest
  lead ++ 'e' :: (if e < 0 then '-' else '+') :: Nat.toDigits 10 e.natAbs

/-- The shortest digits that read back: without an exponent from `1e-5` to below `1e16`. -/
def floatChars (x : Float) : List Char :=
  let magnitude :=
    if significand x = 0 then ['0', '.', '0']
    else
      let (c, k) := Decimal.Shortest.decimal (significand x) (exponent x)
      let ds := Nat.toDigits 10 c
      let e := k + ds.length
      if -positionalZeros ≤ e ∧ e ≤ positionalLimit then positional ds e
      else scientific ds (e - 1)
  if signBit x then '-' :: magnitude else magnitude

def intChars (n : Int) : List Char :=
  if n < 0 then '-' :: Nat.toDigits 10 n.natAbs else Nat.toDigits 10 n.natAbs

namespace Number

def chars : Number → List Char
  | int n => intChars n
  | float x => if isFinite x then floatChars x else ['n', 'u', 'l', 'l']

end Number

def hexDigit (n : Nat) : Char := Nat.digitChar (n % 16)

def escaped (c : Char) : List Char :=
  if c = '"' then ['\\', '"']
  else if c = '\\' then ['\\', '\\']
  else if c = '\n' then ['\\', 'n']
  else if c = '\r' then ['\\', 'r']
  else if c = '\t' then ['\\', 't']
  else if c = '\x08' then ['\\', 'b']
  else if c = '\x0c' then ['\\', 'f']
  else if c.toNat < 0x20 then
    ['\\', 'u', '0', '0', hexDigit (c.toNat / 16), hexDigit c.toNat]
  else [c]

def textChars (s : String) : List Char := '"' :: s.toList.flatMap escaped ++ ['"']

namespace Value

mutual

def chars : Value → List Char
  | null => ['n', 'u', 'l', 'l']
  | bool true => ['t', 'r', 'u', 'e']
  | bool false => ['f', 'a', 'l', 's', 'e']
  | number n => n.chars
  | text s => textChars s
  | list [] => ['[', ']']
  | list (x :: xs) => '[' :: (chars x ++ itemChars xs)
  | object [] => ['{', '}']
  | object ((k, v) :: fs) => '{' :: (textChars k ++ ':' :: (chars v ++ fieldChars fs))

/-- The items after the first, each led by a comma, and the closing bracket. -/
def itemChars : List Value → List Char
  | [] => [']']
  | x :: xs => ',' :: (chars x ++ itemChars xs)

def fieldChars : List (String × Value) → List Char
  | [] => ['}']
  | (k, v) :: fs => ',' :: (textChars k ++ ':' :: (chars v ++ fieldChars fs))

end

def compact (v : Value) : String := String.ofList v.chars

end Value

end LossPrevention.Json
