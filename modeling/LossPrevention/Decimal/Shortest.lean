/-!
The decimal with the fewest digits that reads back as a given binary number, and of those the
nearest to it. A number `m · 2 ^ q` is the nearest one to every real in an interval around it; the
search goes through the decimal grids from one digit on and takes the first grid with a point in
that interval.
-/

namespace LossPrevention.Decimal.Shortest

structure Ratio where
  num : Nat
  den : Nat

def Ratio.scale (r : Ratio) (power : Int) : Ratio :=
  if power < 0 then ⟨r.num, r.den * Nat.pow 10 power.natAbs⟩
  else ⟨r.num * Nat.pow 10 power.toNat, r.den⟩

def digitCount (n : Nat) : Nat := (Nat.toDigits 10 n).length

/-- The least `j ≤ fuel` for which `r · 10 ^ j` is at least one. -/
def leadingZeros (r : Ratio) : Nat → Nat
  | 0 => 0
  | fuel + 1 => if r.den ≤ r.num then 0 else leadingZeros ⟨r.num * 10, r.den⟩ fuel + 1

/-- The `e` with `10 ^ (e - 1) ≤ r < 10 ^ e`. -/
def magnitude (r : Ratio) : Int :=
  if r.den ≤ r.num then digitCount (r.num / r.den)
  else 1 - (leadingZeros r 400 : Int)

/-- Four times the value and the ends of its interval, all over one denominator. -/
structure Interval where
  lower : Nat
  value : Nat
  upper : Nat
  den : Nat
  closed : Bool

/-- Below a power of two the spacing of the numbers is half of that above it. -/
def interval (m : Nat) (q : Int) : Interval :=
  let low := if m = Nat.pow 2 52 ∧ -1074 < q then 4 * m - 1 else 4 * m - 2
  let up := if q < 0 then 1 else Nat.pow 2 q.toNat
  let down := if q < 0 then Nat.pow 2 q.natAbs else 1
  ⟨low * up, 4 * m * up, (4 * m + 2) * up, 4 * down, m % 2 = 0⟩

/-- Whether `c · 10 ^ k` lies in the interval. -/
def Interval.contains (i : Interval) (c : Nat) (k : Int) : Bool :=
  let up := if k < 0 then 1 else Nat.pow 10 k.toNat
  let down := if k < 0 then Nat.pow 10 k.natAbs else 1
  let x := c * up * i.den
  if i.closed then i.lower * down ≤ x && x ≤ i.upper * down
  else i.lower * down < x && x < i.upper * down

/-- The point of the grid `10 ^ k` to take, if the interval holds one: the nearer of the two
neighbours of the value, at equal distance the even one. -/
def Interval.pick? (i : Interval) (k : Int) : Option Nat :=
  let r := Ratio.scale ⟨i.value, i.den⟩ (-k)
  let c := r.num / r.den
  let rest := r.num % r.den
  match i.contains c k, i.contains (c + 1) k with
  | true, true =>
      some (if 2 * rest < r.den then c else if r.den < 2 * rest then c + 1 else c + c % 2)
  | true, false => some c
  | false, true => some (c + 1)
  | false, false => none

def trimZeros : Nat → Nat → Int → Nat × Int
  | 0, c, k => (c, k)
  | fuel + 1, c, k => if c % 10 = 0 ∧ c ≠ 0 then trimZeros fuel (c / 10) (k + 1) else (c, k)

def search (i : Interval) (e : Int) : Nat → Nat → Nat × Int
  | 0, n => (i.value / i.den, n)
  | fuel + 1, n =>
      match i.pick? (e - n) with
      | some c => trimZeros 20 c (e - n)
      | none => search i e fuel (n + 1)

/-- The digits `c` and the exponent `k` of the shortest decimal `c · 10 ^ k` for `m · 2 ^ q`. -/
def decimal (m : Nat) (q : Int) : Nat × Int :=
  let i := interval m q
  search i (magnitude ⟨i.value, i.den⟩) 20 1

end LossPrevention.Decimal.Shortest
