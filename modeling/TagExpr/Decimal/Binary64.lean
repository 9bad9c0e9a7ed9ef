/-
TagExpr/Decimal/Binary64.lean

Floating-point numbers of 64 bits, by their bit pattern.

A finite number is `significand · 2 ^ exponent`, with its sign apart.  Comparison is that of
IEEE 754: no NaN equals anything, and the two zeros are equal; any other number equals
itself alone.  No arithmetic is needed: numbers enter as bits and leave as bits or as text.
-/

namespace TagExpr

/-- A floating-point number of 64 bits. -/
@[ext] structure Binary64 where
  bits : UInt64
  deriving DecidableEq

namespace Binary64

/-- The sign bit is set. -/
def isNegative (x : Binary64) : Bool :=
  Nat.pow 2 63 ≤ x.bits.toNat

/-- The biased exponent, eleven bits. -/
def biasedExponent (x : Binary64) : Nat :=
  x.bits.toNat / Nat.pow 2 52 % Nat.pow 2 11

/-- The fraction, fifty-two bits. -/
def fraction (x : Binary64) : Nat :=
  x.bits.toNat % Nat.pow 2 52

/-- Not a number. -/
def isNaN (x : Binary64) : Bool :=
  x.biasedExponent = 2047 ∧ x.fraction ≠ 0

/-- One of the two infinities. -/
def isInfinite (x : Binary64) : Bool :=
  x.biasedExponent = 2047 ∧ x.fraction = 0

/-- One of the two zeros. -/
def isZero (x : Binary64) : Bool :=
  x.biasedExponent = 0 ∧ x.fraction = 0

/-- The integer `m` of the magnitude `m · 2 ^ q` of a finite number. -/
def significand (x : Binary64) : Nat :=
  if x.biasedExponent = 0 then x.fraction else Nat.pow 2 52 + x.fraction

/-- The exponent `q` of the magnitude `m · 2 ^ q` of a finite number. -/
def exponent (x : Binary64) : Int :=
  max x.biasedExponent 1 - 1075

/-- Equality of IEEE 754. -/
def equal (x y : Binary64) : Bool :=
  !x.isNaN && !y.isNaN && (x = y || x.isZero && y.isZero)

theorem equal_self (x : Binary64) : x.equal x = !x.isNaN := by
  cases h : x.isNaN <;> simp [equal, h]

theorem equal_comm (x y : Binary64) : x.equal y = y.equal x := by
  simp only [equal, Bool.and_comm, eq_comm (a := x)]

theorem equal_trans {x y z : Binary64} (hxy : x.equal y = true) (hyz : y.equal z = true) :
    x.equal z = true := by
  simp only [equal, Bool.and_eq_true, Bool.or_eq_true, decide_eq_true_eq, Bool.not_eq_true'] at *
  obtain ⟨⟨hx, -⟩, hxy⟩ := hxy
  obtain ⟨⟨-, hz⟩, hyz⟩ := hyz
  refine ⟨⟨hx, hz⟩, ?_⟩
  rcases hxy with rfl | hxy
  · exact hyz
  · rcases hyz with rfl | hyz
    · exact Or.inr hxy
    · exact Or.inr ⟨hxy.1, hyz.2⟩

end Binary64

end TagExpr
