/-
TagExpr/Proofs/FloatEquality.lean

Equality of floating-point numbers is equality of what they stand for.

A bit pattern that is no NaN stands for an infinity or for a multiple of 2⁻¹⁰⁷⁴, the least
positive number:

    significand · 2 ^ (max e 1 - 1)   units, with the biased exponent e, and with the sign.

The two zeros stand for the same number, any other number has one pattern, and a NaN stands for
none.  So the comparison of bits that `Binary64.equal` makes is the comparison of IEEE 754.
-/
import TagExpr.Decimal.Binary64

namespace TagExpr

namespace Binary64

/-! ### The number behind a bit pattern -/

/-- The magnitude of a finite number, in units of the least positive one. -/
def magnitude (x : Binary64) : Nat :=
  x.significand * Nat.pow 2 (max x.biasedExponent 1 - 1)

/-- A finite number, in units of the least positive one. -/
def units (x : Binary64) : Int :=
  if x.isNegative then -x.magnitude else x.magnitude

/-- What a bit pattern stands for. -/
inductive Number where
  /-- A multiple of the least positive number. -/
  | finite (units : Int)
  | infinite (negative : Bool)
  deriving DecidableEq

/-- The number that a bit pattern stands for; NaN stands for none. -/
def number? (x : Binary64) : Option Number :=
  if x.isNaN then none
  else if x.isInfinite then some (.infinite x.isNegative)
  else some (.finite x.units)

/-! ### Fields -/

theorem fraction_lt (x : Binary64) : x.fraction < Nat.pow 2 52 :=
  Nat.mod_lt _ (by decide)

theorem significand_lt (x : Binary64) : x.significand < Nat.pow 2 53 := by
  have hx := x.fraction_lt
  simp only [Nat.pow_eq] at hx ⊢
  unfold significand
  simp only [Nat.pow_eq]
  split <;> omega

theorem le_significand {x : Binary64} (h : x.biasedExponent ≠ 0) :
    Nat.pow 2 52 ≤ x.significand := by
  rw [significand, if_neg h]
  exact Nat.le_add_right _ _

/-- The three fields are the whole pattern. -/
theorem eq_of_fields {x y : Binary64} (hs : x.isNegative = y.isNegative)
    (he : x.biasedExponent = y.biasedExponent) (hf : x.fraction = y.fraction) : x = y := by
  have hx := x.bits.toNat_lt
  have hy := y.bits.toNat_lt
  simp only [isNegative, biasedExponent, fraction, Nat.pow_eq, decide_eq_decide] at hs he hf
  apply Binary64.ext
  apply UInt64.toNat_inj.mp
  omega

/-! ### Finite magnitudes -/

/-- A greater exponent makes a greater magnitude, whatever the significands. -/
theorem magnitude_lt_of_exponent_lt {x y : Binary64}
    (h : max x.biasedExponent 1 < max y.biasedExponent 1) : x.magnitude < y.magnitude := by
  have hy : Nat.pow 2 52 ≤ y.significand := le_significand (by omega)
  calc x.magnitude < Nat.pow 2 53 * Nat.pow 2 (max x.biasedExponent 1 - 1) :=
        Nat.mul_lt_mul_of_pos_right x.significand_lt (Nat.two_pow_pos _)
    _ = Nat.pow 2 52 * Nat.pow 2 (max x.biasedExponent 1 - 1 + 1) := by
        have hdouble : Nat.pow 2 53 = Nat.pow 2 52 * 2 := rfl
        have hnext : Nat.pow 2 (max x.biasedExponent 1 - 1 + 1)
            = 2 * Nat.pow 2 (max x.biasedExponent 1 - 1) := Nat.pow_succ'
        rw [hdouble, hnext, Nat.mul_assoc]
    _ ≤ Nat.pow 2 52 * Nat.pow 2 (max y.biasedExponent 1 - 1) :=
        Nat.mul_le_mul_left _ (Nat.pow_le_pow_right (by decide) (by omega))
    _ ≤ y.magnitude := Nat.mul_le_mul_right _ hy

/-- A magnitude has one exponent and one fraction. -/
theorem fields_eq_of_magnitude_eq {x y : Binary64} (h : x.magnitude = y.magnitude) :
    x.biasedExponent = y.biasedExponent ∧ x.fraction = y.fraction := by
  -- different exponents would put the magnitudes in order
  have he : max x.biasedExponent 1 = max y.biasedExponent 1 := by
    rcases Nat.lt_trichotomy (max x.biasedExponent 1) (max y.biasedExponent 1) with hlt | heq | hgt
    · exact absurd h (Nat.ne_of_lt (magnitude_lt_of_exponent_lt hlt))
    · exact heq
    · exact absurd h.symm (Nat.ne_of_lt (magnitude_lt_of_exponent_lt hgt))
  have hs : x.significand = y.significand := by
    unfold magnitude at h
    rw [he] at h
    exact Nat.eq_of_mul_eq_mul_right (Nat.two_pow_pos _) h
  -- the exponents 0 and 1 share a unit, but only the latter has the leading bit
  have hx := x.fraction_lt
  have hy := y.fraction_lt
  unfold significand at hs
  simp only [Nat.pow_eq] at hx hy hs
  split at hs <;> split at hs <;> omega

theorem isZero_iff_magnitude_eq_zero (x : Binary64) : x.isZero = true ↔ x.magnitude = 0 := by
  have hpos := Nat.two_pow_pos (max x.biasedExponent 1 - 1)
  have hnonzero : x.magnitude = 0 ↔ x.significand = 0 := by
    rw [magnitude, Nat.mul_eq_zero, Nat.pow_eq]
    omega
  rw [hnonzero, significand, isZero, decide_eq_true_eq]
  simp only [Nat.pow_eq]
  split <;> omega

/-- Of finite numbers, only the zeros have two patterns. -/
theorem units_eq_iff (x y : Binary64) :
    x.units = y.units ↔ x = y ∨ x.isZero = true ∧ y.isZero = true := by
  constructor
  · intro h
    -- up to the sign, the units are the magnitude
    have hm : x.magnitude = y.magnitude := by
      unfold units at h
      split at h <;> split at h <;> omega
    obtain ⟨he, hf⟩ := fields_eq_of_magnitude_eq hm
    by_cases hs : x.isNegative = y.isNegative
    · exact .inl (eq_of_fields hs he hf)
    · -- opposite signs, so both magnitudes are zero
      rw [isZero_iff_magnitude_eq_zero, isZero_iff_magnitude_eq_zero]
      right
      unfold units at h
      split at h <;> split at h
      · simp_all
      · omega
      · omega
      · simp_all
  · rintro (rfl | ⟨hx, hy⟩)
    · rfl
    · rw [isZero_iff_magnitude_eq_zero] at hx hy
      simp [units, hx, hy]

/-! ### Equality -/

theorem number?_eq_none_iff (x : Binary64) : x.number? = none ↔ x.isNaN = true := by
  unfold number?
  split
  · next h => simp [h]
  · next h => split <;> simp [h]

theorem number?_of_isZero {x : Binary64} (h : x.isZero = true) : x.number? = some (.finite 0) := by
  have hm := (isZero_iff_magnitude_eq_zero x).mp h
  simp only [isZero, decide_eq_true_eq] at h
  simp [number?, isNaN, isInfinite, units, hm, h]

/-- Two infinities of one sign have one pattern. -/
theorem eq_of_isInfinite {x y : Binary64} (hx : x.isInfinite = true) (hy : y.isInfinite = true)
    (hs : x.isNegative = y.isNegative) : x = y := by
  simp only [isInfinite, decide_eq_true_eq] at hx hy
  exact eq_of_fields hs (hx.1.trans hy.1.symm) (hx.2.trans hy.2.symm)

/-- Patterns that are no NaN stand for the same number if they are equal or both zeros. -/
theorem number?_eq_iff {x y : Binary64} (hx : x.isNaN = false) (hy : y.isNaN = false) :
    x.number? = y.number? ↔ x = y ∨ x.isZero = true ∧ y.isZero = true := by
  constructor
  · intro h
    simp only [number?, hx, hy, Bool.false_eq_true, if_false] at h
    -- an infinity is not finite, so both numbers are of one form
    split at h <;> split at h
    · next hix hiy =>
      rw [Option.some.injEq, Number.infinite.injEq] at h
      exact .inl (eq_of_isInfinite hix hiy h)
    · cases h
    · cases h
    · rw [Option.some.injEq, Number.finite.injEq] at h
      exact (units_eq_iff x y).mp h
  · rintro (rfl | ⟨hzx, hzy⟩)
    · rfl
    · rw [number?_of_isZero hzx, number?_of_isZero hzy]

/-- **Equality compares the numbers that two patterns stand for.**  A NaN stands for none, so it
equals nothing, and the two zeros stand for one number. -/
theorem equal_iff_number (x y : Binary64) :
    x.equal y = true ↔ ∃ r, x.number? = some r ∧ y.number? = some r := by
  rcases hx : x.isNaN with - | -
  · rcases hy : y.isNaN with - | -
    · have hsome : x.number? ≠ none := by simp [number?_eq_none_iff, hx]
      obtain ⟨r, hr⟩ := Option.ne_none_iff_exists'.mp hsome
      simp only [equal, hx, hy, hr, Option.some.injEq, Bool.not_false, Bool.true_and,
        Bool.or_eq_true, Bool.and_eq_true, decide_eq_true_eq, exists_eq_left']
      rw [← number?_eq_iff hx hy, hr, eq_comm]
    · simp [equal, hy, (number?_eq_none_iff y).mpr hy]
  · simp [equal, hx, (number?_eq_none_iff x).mpr hx]

end Binary64

end TagExpr
