import CriteriaSearch.Number.Pair
import CriteriaSearch.Proofs.Number.Reading
import Mathlib.Algebra.Order.Field.Basic
import Mathlib.Data.Rat.Cast.Order
import Mathlib.Tactic.FieldSimp
import Mathlib.Tactic.NormNum

/-!
# Errors of rounding

How far the result of rounded arithmetic lies from the exact result. A bound on the magnitude of
the exact result makes the rounded one finite and bounds its error by the last place of the bound.
-/

namespace CriteriaSearch

namespace FiniteDouble

def value (x : FiniteDouble) : ℚ := x.signedUnits / unitsPerOne

end FiniteDouble

namespace Double

attribute [local irreducible] unitsPerOne limitUnits

def Near (x : Double) (v ε : ℚ) : Prop := ∃ y : FiniteDouble, x = .finite y ∧ |y.value - v| ≤ ε

/-- The bound is neither too large nor too small for the numbers below it to be rounded in the
53rd place of the bound. -/
structure IsBound (M : ℚ) : Prop where
  large : 1 / 2 ^ 64 ≤ M
  small : M ≤ 2 ^ 128

theorem Near.mono {x : Double} {v ε δ : ℚ} (h : x.Near v ε) (hle : ε ≤ δ) : x.Near v δ := by
  obtain ⟨y, hy, herror⟩ := h
  exact ⟨y, hy, herror.trans hle⟩

theorem near_self (x : FiniteDouble) : (Double.finite x).Near x.value 0 :=
  ⟨x, rfl, by simp⟩

/-- Rounding changes a quotient by half a unit of its exponent at most. -/
theorem abs_roundedUnits_sub_le (scaled den : Nat) (hden : 0 < den) :
    |(roundedUnits scaled den : ℚ) - scaled / den| ≤ 2 ^ roundedExponent scaled den / 2 := by
  have hunit : 0 < den * 2 ^ roundedExponent scaled den := by positivity
  have hle := roundedQuotient_le scaled (den * 2 ^ roundedExponent scaled den)
  have hge := le_roundedQuotient scaled (den * 2 ^ roundedExponent scaled den) hunit
  have hden' : (0 : ℚ) < den := by exact_mod_cast hden
  rw [← roundedSignificand] at hle hge
  -- Both bounds hold for integers, from where they are carried over to quotients.
  have hle' : 2 * ((roundedSignificand scaled den : ℚ) *
      (den * 2 ^ roundedExponent scaled den)) ≤
        2 * scaled + den * 2 ^ roundedExponent scaled den := by
    exact_mod_cast hle
  have hge' : 2 * (scaled : ℚ) ≤ 2 * (roundedSignificand scaled den *
      (den * 2 ^ roundedExponent scaled den)) + den * 2 ^ roundedExponent scaled den := by
    exact_mod_cast hge
  rw [roundedUnits, abs_le]
  push_cast
  constructor
  · rw [neg_le_sub_iff_le_add, div_le_iff₀ hden']
    nlinarith
  · rw [sub_le_iff_le_add, ← sub_le_iff_le_add', le_div_iff₀ hden']
    nlinarith

/-- The unit of the exponent is a small part of the quotient, unless it is the least unit. -/
theorem unit_le (scaled den : Nat) (hden : 0 < den) (h : roundedExponent scaled den ≠ 0) :
    (2 : ℚ) ^ roundedExponent scaled den * 2 ^ 52 ≤ scaled / den := by
  have hden' : (0 : ℚ) < den := by exact_mod_cast hden
  have hle := le_scaled scaled den hden h
  have hle' : (2 : ℚ) ^ 52 * (den * 2 ^ roundedExponent scaled den) ≤ scaled := by
    exact_mod_cast hle
  rw [le_div_iff₀ hden']
  linarith

theorem unitsPerOne_large : (2 : ℚ) ^ 128 ≤ unitsPerOne := by
  have hle : 2 ^ 128 ≤ unitsPerOne := by
    rw [unitsPerOne_eq]
    exact pow_le_pow_right₀ one_le_two (by decide)
  exact_mod_cast hle

/-- Rounding changes a quotient below a bound by half of the last place of the bound at most. -/
theorem abs_roundedUnits_sub_le_bound (num den : Nat) (hden : 0 < den) (M : ℚ) (hM : IsBound M)
    (hle : (num : ℚ) / den ≤ M) :
    |(roundedUnits (num * unitsPerOne) den : ℚ) - num / den * unitsPerOne| ≤
      M / 2 ^ 53 * unitsPerOne := by
  have hU := unitsPerOne_large
  have hquotient : ((num * unitsPerOne : Nat) : ℚ) / den = num / den * unitsPerOne := by
    push_cast
    ring
  have herror := abs_roundedUnits_sub_le (num * unitsPerOne) den hden
  rw [hquotient] at herror
  apply herror.trans
  by_cases hexponent : roundedExponent (num * unitsPerOne) den = 0
  · -- With the least exponent the unit is tiny beside any bound that is allowed.
    rw [hexponent]
    have hlarge := hM.large
    have hproduct : (1 / 2 ^ 64 : ℚ) * 2 ^ 128 ≤ M * unitsPerOne :=
      mul_le_mul hlarge hU (by positivity) (le_trans (by positivity) hlarge)
    have hsmall : (2 : ℚ) ^ 52 ≤ 1 / 2 ^ 64 * 2 ^ 128 := by norm_num
    have hsplit : M / 2 ^ 53 * unitsPerOne = M * unitsPerOne / 2 ^ 53 := by ring
    rw [hsplit, le_div_iff₀ (by positivity)]
    linarith
  · have hunit := unit_le (num * unitsPerOne) den hden hexponent
    rw [hquotient] at hunit
    have hUpos : (0 : ℚ) ≤ unitsPerOne := le_trans (by positivity) hU
    have hbound := mul_le_mul_of_nonneg_right hle hUpos
    linarith

theorem roundedUnits_lt_limitUnits (num den : Nat) (hden : 0 < den)
    (hle : (num : ℚ) / den ≤ 2 ^ 128) : roundedUnits (num * unitsPerOne) den < limitUnits := by
  have hden' : (0 : ℚ) < den := by exact_mod_cast hden
  rw [div_le_iff₀ hden'] at hle
  have hnum : num ≤ 2 ^ 128 * den := by exact_mod_cast hle
  have hmono : roundedUnits (num * unitsPerOne) den ≤ 1 * 2 ^ (128 + 1074) := by
    rw [← roundedUnits_exact 1 (128 + 1074) (by decide)]
    apply roundedUnits_mono _ _ _ _ hden Nat.one_pos
    rw [unitsPerOne_eq, one_mul, mul_one, pow_add]
    rw [mul_right_comm]
    exact Nat.mul_le_mul_right _ hnum
  exact hmono.trans_lt (mul_lt_limitUnits 1 (128 + 1074) (by decide) (by decide))

def signedValue (negative : Bool) (v : ℚ) : ℚ := if negative then -v else v

theorem value_eq_signedValue (x : FiniteDouble) :
    x.value = signedValue x.negative (x.units / unitsPerOne) := by
  rw [FiniteDouble.value, signedUnits_eq, signed, signedValue]
  cases x.negative
  · simp
  · simp only [↓reduceIte]
    push_cast
    ring

theorem roundQuotient_near (negative : Bool) (num den : Nat) (hden : 0 < den) (M : ℚ)
    (hM : IsBound M) (hle : (num : ℚ) / den ≤ M) :
    (roundQuotient negative num den).Near (signedValue negative (num / den)) (M / 2 ^ 53) := by
  have hUpos : (0 : ℚ) < unitsPerOne := lt_of_lt_of_le (by positivity) unitsPerOne_large
  have hlimit := roundedUnits_lt_limitUnits num den hden (hle.trans hM.small)
  rcases roundQuotient_eq negative num den hden with ⟨x, hx, hnegative, hunits, _⟩ | ⟨_, hlarge⟩
  · refine ⟨x, hx, ?_⟩
    have herror := abs_roundedUnits_sub_le_bound num den hden M hM hle
    have hmagnitude : |(x.units : ℚ) / unitsPerOne - num / den| ≤ M / 2 ^ 53 := by
      rw [hunits]
      have hsplit : (roundedUnits (num * unitsPerOne) den : ℚ) / unitsPerOne - num / den =
          (roundedUnits (num * unitsPerOne) den - num / den * unitsPerOne) / unitsPerOne := by
        rw [sub_div, mul_div_cancel_right₀ _ hUpos.ne']
      rwa [hsplit, abs_div, abs_of_pos hUpos, div_le_iff₀ hUpos]
    rw [value_eq_signedValue, hnegative]
    cases negative
    · exact hmagnitude
    · simp only [signedValue, ↓reduceIte]
      rwa [neg_sub_neg, abs_sub_comm]
  · omega

theorem signedValue_natAbs (n : Int) (d : ℚ) :
    signedValue (decide (n < 0)) ((n.natAbs : ℚ) / d) = n / d := by
  rcases lt_or_ge n 0 with hneg | hpos
  · have habs : (n.natAbs : ℚ) = -n := by
      rw [← Int.cast_natCast, Int.ofNat_natAbs_of_nonpos hneg.le]
      push_cast
      ring
    simp only [signedValue, hneg, decide_true, ↓reduceIte, habs]
    ring
  · have habs : (n.natAbs : ℚ) = n := by
      rw [← Int.cast_natCast, Int.natAbs_of_nonneg hpos]
    simp only [signedValue, not_lt.mpr hpos, decide_false, Bool.false_eq_true, ↓reduceIte, habs]

theorem IsBound.nonneg {M : ℚ} (hM : IsBound M) : 0 ≤ M / 2 ^ 53 :=
  div_nonneg (le_trans (by positivity) hM.large) (by positivity)

/-- The error of a sum is that of its parts and of one rounding. -/
theorem Near.add {x y : Double} {a b c ε δ η M : ℚ} (hx : x.Near a ε) (hy : y.Near b δ)
    (hM : IsBound M) (hc : a + b = c) (hupper : c + (ε + δ) ≤ M) (hlower : -M ≤ c - (ε + δ))
    (hη : ε + δ + M / 2 ^ 53 ≤ η) : (x.add y).Near c η := by
  subst hc
  apply Near.mono _ hη
  have hle : |a + b| + (ε + δ) ≤ M := by
    have : |a + b| ≤ M - (ε + δ) := abs_le.mpr ⟨by linarith, by linarith⟩
    linarith
  obtain ⟨x, rfl, hx⟩ := hx
  obtain ⟨y, rfl, hy⟩ := hy
  have hUpos : (0 : ℚ) < unitsPerOne := lt_of_lt_of_le (by positivity) unitsPerOne_large
  -- The error of the terms, before the sum is rounded.
  have hsum : |x.value + y.value - (a + b)| ≤ ε + δ := by
    have hsplit : x.value + y.value - (a + b) = (x.value - a) + (y.value - b) := by ring
    rw [hsplit]
    exact (abs_add_le _ _).trans (add_le_add hx hy)
  have hvalue : x.value + y.value =
      ((x.signedUnits + y.signedUnits : Int) : ℚ) / unitsPerOne := by
    rw [FiniteDouble.value, FiniteDouble.value]
    push_cast
    ring
  rw [Double.add]
  split
  · next hzero =>
    refine ⟨.zero _, rfl, ?_⟩
    have hnone : (FiniteDouble.zero (x.negative && y.negative)).value = x.value + y.value := by
      rw [hvalue, hzero, value_eq_signedValue]
      cases (x.negative && y.negative) <;> simp [signedValue, FiniteDouble.zero, FiniteDouble.units]
    rw [hnone]
    have := hM.nonneg
    linarith
  · have hmagnitude : (((x.signedUnits + y.signedUnits).natAbs : Nat) : ℚ) / unitsPerOne =
        |x.value + y.value| := by
      rw [hvalue, abs_div, abs_of_pos hUpos, Nat.cast_natAbs, Int.cast_abs]
    have hbound : (((x.signedUnits + y.signedUnits).natAbs : Nat) : ℚ) / unitsPerOne ≤ M := by
      rw [hmagnitude]
      have htriangle := abs_add_le (a + b) (x.value + y.value - (a + b))
      rw [add_sub_cancel] at htriangle
      linarith
    -- One rounding adds its own error to that of the terms.
    obtain ⟨z, hz, herror⟩ := roundQuotient_near (decide (x.signedUnits + y.signedUnits < 0)) _ _
      unitsPerOne_pos M hM hbound
    rw [signedValue_natAbs, ← hvalue] at herror
    refine ⟨z, hz, ?_⟩
    have hsplit : z.value - (a + b) =
        (z.value - (x.value + y.value)) + (x.value + y.value - (a + b)) := by ring
    rw [hsplit]
    have := abs_add_le (z.value - (x.value + y.value)) (x.value + y.value - (a + b))
    linarith

theorem Near.neg {x : Double} {a ε : ℚ} (hx : x.Near a ε) : x.neg.Near (-a) ε := by
  obtain ⟨x, rfl, hx⟩ := hx
  refine ⟨{ x with negative := !x.negative }, rfl, ?_⟩
  have hvalue : (({ x with negative := !x.negative } : FiniteDouble)).value = -x.value := by
    rw [value_eq_signedValue, value_eq_signedValue]
    change signedValue (!x.negative) (x.units / unitsPerOne) = _
    cases x.negative <;> simp [signedValue]
  rw [hvalue, neg_sub_neg, abs_sub_comm]
  exact hx

theorem Near.sub {x y : Double} {a b c ε δ η M : ℚ} (hx : x.Near a ε) (hy : y.Near b δ)
    (hM : IsBound M) (hc : a - b = c) (hupper : c + (ε + δ) ≤ M) (hlower : -M ≤ c - (ε + δ))
    (hη : ε + δ + M / 2 ^ 53 ≤ η) : (x.sub y).Near c η := by
  rw [sub_eq_add_neg] at hc
  exact hx.add hy.neg hM hc hupper hlower hη

theorem abs_value (x : FiniteDouble) : |x.value| = x.units / unitsPerOne := by
  have hnonneg : (0 : ℚ) ≤ x.units / unitsPerOne := by positivity
  rw [value_eq_signedValue]
  cases x.negative <;> simp [signedValue, abs_of_nonneg hnonneg]

/-- The error of a product by a number is that of the other factor and of one rounding. -/
theorem Near.mul {x : Double} {a c ε η M : ℚ} (hx : x.Near a ε) (y : FiniteDouble)
    (hM : IsBound M) (hy : 0 ≤ y.value) (hc : a * y.value = c) (hupper : c + ε * y.value ≤ M)
    (hlower : -M ≤ c - ε * y.value) (hη : ε * y.value + M / 2 ^ 53 ≤ η) :
    (x.mul (.finite y)).Near c η := by
  subst hc
  have habs : |y.value| = y.value := abs_of_nonneg hy
  rw [← habs] at hη
  apply Near.mono _ hη
  have hle : (|a| + ε) * |y.value| ≤ M := by
    have : |a * y.value| ≤ M - ε * y.value := abs_le.mpr ⟨by linarith, by linarith⟩
    rw [abs_mul] at this
    rw [add_mul, habs]
    rw [habs] at this
    linarith
  obtain ⟨x, rfl, hx⟩ := hx
  have hUpos : (0 : ℚ) < unitsPerOne := lt_of_lt_of_le (by positivity) unitsPerOne_large
  have hUU : 0 < unitsPerOne * unitsPerOne := Nat.mul_pos unitsPerOne_pos unitsPerOne_pos
  have hmagnitude : ((x.units * y.units : Nat) : ℚ) / ((unitsPerOne * unitsPerOne : Nat) : ℚ) =
      |x.value| * |y.value| := by
    rw [abs_value, abs_value]
    push_cast
    rw [div_mul_div_comm]
  have hx' : |x.value| ≤ |a| + ε := by
    have htriangle := abs_add_le a (x.value - a)
    rw [add_sub_cancel] at htriangle
    linarith
  have hbound : ((x.units * y.units : Nat) : ℚ) / ((unitsPerOne * unitsPerOne : Nat) : ℚ) ≤ M := by
    rw [hmagnitude]
    exact (mul_le_mul_of_nonneg_right hx' (abs_nonneg _)).trans hle
  -- The product is rounded once; the error of the factor is multiplied by the other factor.
  obtain ⟨z, hz, herror⟩ := roundQuotient_near (x.negative != y.negative) _ _ hUU M hM hbound
  have hproduct : signedValue (x.negative != y.negative) (((x.units * y.units : Nat) : ℚ) /
      ((unitsPerOne * unitsPerOne : Nat) : ℚ)) = x.value * y.value := by
    rw [hmagnitude, abs_value, abs_value, value_eq_signedValue x, value_eq_signedValue y]
    cases x.negative <;> cases y.negative <;> simp [signedValue]
  rw [hproduct] at herror
  refine ⟨z, hz, ?_⟩
  have hsplit : z.value - a * y.value =
      (z.value - x.value * y.value) + (x.value - a) * y.value := by ring
  have hfactor : |(x.value - a) * y.value| ≤ ε * |y.value| := by
    rw [abs_mul]
    exact mul_le_mul_of_nonneg_right hx (abs_nonneg _)
  rw [hsplit]
  have := abs_add_le (z.value - x.value * y.value) ((x.value - a) * y.value)
  linarith

end Double

end CriteriaSearch
