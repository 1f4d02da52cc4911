/-!
Binary floating-point numbers of 64 bits as exact values `± significand · 2 ^ exponent`, their
order as integers, and the reading of a decimal in floating-point steps.
-/

namespace LossPrevention.Binary64

def signBit (x : Float) : Bool := Nat.pow 2 63 ≤ x.toBits.toNat

def exponentBits (x : Float) : Nat := x.toBits.toNat / Nat.pow 2 52 % Nat.pow 2 11

def fractionBits (x : Float) : Nat := x.toBits.toNat % Nat.pow 2 52

/-- With `exponent`, the magnitude of a finite number. -/
def significand (x : Float) : Nat :=
  if exponentBits x = 0 then fractionBits x else Nat.pow 2 52 + fractionBits x

def exponent (x : Float) : Int :=
  if exponentBits x = 0 then -1074 else (exponentBits x : Int) - 1075

def isFinite (x : Float) : Bool := exponentBits x ≠ 2047

def isNaN (x : Float) : Bool := exponentBits x = 2047 && fractionBits x ≠ 0

/-- The bits below the sign count the magnitudes upwards from zero, so this integer orders all
numbers as their values do, and gives both zeros the same place. -/
def rank (x : Float) : Int :=
  if signBit x then -((x.toBits.toNat - Nat.pow 2 63 : Nat) : Int) else x.toBits.toNat

/-- The number nearest to an integer, ties to the even significand. -/
def ofInt (n : Int) : Float := Float.ofInt n

/-- The number nearest to `10 ^ n`. -/
def powerOfTen (n : Nat) : Float := Float.ofScientific 1 false n

def infinity : Float := Float.ofBits 0x7ff0000000000000

def nan : Float := Float.ofBits 0x7ff8000000000000

/-- Divides by `10 ^ n` in steps of at most `10 ^ 308`; after three whole steps nothing is left. -/
def shrink (x : Float) (n : Nat) : Float :=
  let steps := (n - 1) / 308
  (List.replicate (min steps 3) (powerOfTen 308)).foldl (· / ·) x / powerOfTen (n - 308 * steps)

/-- `digits · 10 ^ scale` with one rounding for the digits and one for each scaling step;
`none` if the result is not finite. -/
def ofDigits? (digits : Nat) (scale : Int) : Option Float :=
  let x := ofInt digits
  let y :=
    if scale < 0 then some (shrink x scale.natAbs)
    else if scale ≤ 308 then some (x * powerOfTen scale.toNat)
    else if digits = 0 then some x else none
  y.filter isFinite

/-- The number nearest to `digits · 10 ^ scale`, in one rounding. -/
def nearest (digits : Nat) (scale : Int) : Float :=
  Float.ofScientific digits (scale < 0) scale.natAbs

def negate (x : Float) : Float := -x

end LossPrevention.Binary64
