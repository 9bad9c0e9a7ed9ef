/-
TagExpr/Decimal/Shortest.lean

The shortest decimal that reads back as a given binary number.

The reals that round to a finite number `m · 2 ^ q` form an interval around it: half a unit
to each side, but a quarter below a power of two, whose lower neighbour is nearer.  The ends
belong to it iff `m` is even.  For 1, 2, … 17 digits the number lies between two neighbours
of the decimal grid of that many digits.  The first grid with a neighbour in the interval
wins; of two the nearer is taken, and the upper one if both are equally near.

All comparisons are exact, in quarters of a unit over a common denominator.
-/
import TagExpr.Decimal.Binary64

namespace TagExpr

/-- The number `coefficient · 10 ^ exponent`. -/
structure Decimal where
  coefficient : Nat
  exponent : Int
  deriving DecidableEq

/-- A positive magnitude `value / denom` and the interval of reals that round to it. -/
structure Rounding where
  value : Nat
  low : Nat
  high : Nat
  denom : Nat
  closed : Bool

namespace Rounding

/-- The interval of a finite number other than zero. -/
def of (x : Binary64) : Rounding :=
  let m := x.significand
  let scale := Nat.pow 2 (x.exponent - 2).toNat
  let below := if x.fraction = 0 ∧ 1 < x.biasedExponent then 1 else 2
  { value := 4 * m * scale
    low := (4 * m - below) * scale
    high := (4 * m + 2) * scale
    denom := Nat.pow 2 (2 - x.exponent).toNat
    closed := m % 2 = 0 }

/-- `num / denom` rounds to the number. -/
def contains (r : Rounding) (num denom : Nat) : Bool :=
  let low := r.low * denom
  let high := r.high * denom
  let here := num * r.denom
  (low < here || r.closed && low == here) && (here < high || r.closed && here == high)

/-- The power of ten of the leading digit: the `e` with `10 ^ e ≤ value / denom < 10 ^ (e + 1)`. -/
def leadingPower (r : Rounding) : Int :=
  if r.denom ≤ r.value then
    (Nat.toDigits 10 (r.value / r.denom)).length - 1
  else
    match (List.range 400).find? fun j => r.denom ≤ r.value * Nat.pow 10 j with
    | some j => -(j : Int)
    | none => 0

/-- The better neighbour among the multiples of `10 ^ p`, if one of them rounds to the number. -/
def neighbour? (r : Rounding) (p : Int) : Option Nat :=
  let up := Nat.pow 10 p.toNat
  let down := Nat.pow 10 (-p).toNat
  let unit := r.denom * up
  let c := r.value * down / unit
  let rest := r.value * down % unit
  let lower := r.contains (c * up) down
  let upper := r.contains ((c + 1) * up) down
  if lower && (!upper || 2 * rest < unit) then some c
  else if upper then some (c + 1)
  else none

end Rounding

/-- A decimal whose coefficient is a power of ten, as the same number with coefficient one. -/
def Decimal.ofCoefficient (c digits : Nat) (p : Int) : Decimal :=
  if c = Nat.pow 10 digits then ⟨1, p + digits⟩ else ⟨c, p⟩

/-- The shortest decimal that reads back as a finite number other than zero. -/
def Binary64.shortest (x : Binary64) : Decimal :=
  let r := Rounding.of x
  let e := r.leadingPower
  let onGrid (i : Nat) : Option Decimal :=
    (r.neighbour? (e - i)).map fun c => Decimal.ofCoefficient c (i + 1) (e - i)
  ((List.range 17).findSome? onGrid).getD ⟨0, 0⟩

end TagExpr
