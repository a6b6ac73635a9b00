import CriteriaSearch.Proofs.Number.Exact
import Mathlib.Tactic.NormNum

/-!
# Decimals rounded to binary numbers

A decimal is rounded like the quotient of its digits and powers of ten, also where a size beyond all
bounds decides at once, so that zeros at its end may be written as digits or as an exponent. Every
decimal inside the interval of a finite number is rounded to that number.
-/

namespace CriteriaSearch

namespace Double

attribute [local irreducible] unitsPerOne limitUnits

theorem roundedUnits_two_pow (n : Nat) : roundedUnits (2 ^ n) 1 = 2 ^ n := by
  have hexact := roundedUnits_exact 1 n (by decide)
  rwa [one_mul] at hexact

theorem limitUnits_le_two_pow (n : Nat) (h : 1024 ≤ n) : limitUnits ≤ 2 ^ (n + 1074) := by
  calc limitUnits = 2 ^ (1024 + 1074) := by rw [limitUnits, show 2098 = 1024 + 1074 from rfl]
    _ ≤ 2 ^ (n + 1074) := Nat.pow_le_pow_right (by decide) (by omega)

theorem roundQuotient_infinite (negative : Bool) (num den n : Nat) (hden : 0 < den)
    (hn : 1024 ≤ n) (h : 2 ^ n * den ≤ num) :
    roundQuotient negative num den = .infinite negative := by
  have hscaled : 2 ^ (n + 1074) * den ≤ num * unitsPerOne * 1 := by
    rw [unitsPerOne_eq, pow_add, Nat.mul_one, Nat.mul_right_comm]
    exact Nat.mul_le_mul_right _ h
  have hmono := roundedUnits_mono _ _ 1 den Nat.one_pos hden hscaled
  have hlimit := limitUnits_le_two_pow n hn
  rw [roundedUnits_two_pow] at hmono
  rcases roundQuotient_eq negative num den hden with ⟨x, -, -, -, hlt⟩ | ⟨hx, -⟩
  · exact absurd hlt (hlimit.trans hmono).not_gt
  · exact hx

theorem roundQuotient_zero (negative : Bool) (num den : Nat)
    (h : 2 * (num * unitsPerOne) < den) : roundQuotient negative num den = zero negative := by
  have hlt : num * unitsPerOne < den := by omega
  have hexponent : roundedExponent (num * unitsPerOne) den = 0 := by
    rw [roundedExponent, Nat.div_eq_of_lt hlt]
    rfl
  have hsignificand : roundedSignificand (num * unitsPerOne) den = 0 := by
    rw [roundedSignificand, hexponent, pow_zero, mul_one, roundedQuotient, Nat.mod_eq_of_lt hlt,
      Nat.div_eq_of_lt hlt]
    exact if_neg (by omega)
  rw [roundQuotient_eq_ofParts, hexponent, hsignificand]
  rfl

theorem neg_roundQuotient (num den : Nat) :
    (roundQuotient false num den).neg = roundQuotient true num den := by
  rw [roundQuotient_eq_ofParts, roundQuotient_eq_ofParts, ofParts, ofParts]
  split
  · rfl
  · split <;> rfl

/-- The bounds on the exponent of a decimal do not change what it is rounded to. -/
theorem ofScientific_eq (negative : Bool) (digits : Nat) (exponent : Int) (h : digits ≠ 0) :
    ofScientific negative digits exponent =
      roundQuotient negative (digits * 10 ^ exponent.toNat) (10 ^ (-exponent).toNat) := by
  have hpow (n : Nat) : 2 ^ (3 * n) ≤ 10 ^ n := by
    rw [pow_mul]
    exact Nat.pow_le_pow_left (by decide) n
  unfold ofScientific
  rw [if_neg h]
  split
  · -- So many zeros before the point pass the largest finite number.
    next hlarge =>
    have hone : (-exponent).toNat = 0 := by omega
    rw [hone, pow_zero]
    refine (roundQuotient_infinite negative _ 1 (3 * exponent.toNat) Nat.one_pos (by omega)
      ?_).symm
    rw [Nat.mul_one]
    calc 2 ^ (3 * exponent.toNat) ≤ 10 ^ exponent.toNat := hpow _
      _ ≤ digits * 10 ^ exponent.toNat := Nat.le_mul_of_pos_left _ (Nat.pos_of_ne_zero h)
  · split
    · -- So many places after the point leave less than half a unit.
      next hsmall =>
      have hone : exponent.toNat = 0 := by omega
      rw [hone, pow_zero, mul_one]
      refine (roundQuotient_zero negative digits _ ?_).symm
      have hdigits : digits < 2 ^ (digits.log2 + 1) := Nat.lt_log2_self
      calc 2 * (digits * unitsPerOne) < 2 * (2 ^ (digits.log2 + 1) * 2 ^ 1074) := by
            rw [unitsPerOne_eq]
            exact Nat.mul_lt_mul_of_pos_left
              (Nat.mul_lt_mul_of_pos_right hdigits (by positivity)) (by decide)
        _ = 2 ^ (digits.log2 + 1 + 1074 + 1) := by rw [← pow_add, ← pow_succ']
        _ ≤ 2 ^ (3 * (-exponent).toNat) := Nat.pow_le_pow_right (by decide) (by omega)
        _ ≤ 10 ^ (-exponent).toNat := hpow _
    · split
      · next hwhole =>
        have hone : (-exponent).toNat = 0 := by omega
        rw [hone, pow_zero]
        rfl
      · next hfraction =>
        have hone : exponent.toNat = 0 := by omega
        rw [hone, pow_zero, mul_one]
        rfl

/-- Zeros at the end of the digits may be written as an exponent. -/
theorem ofScientific_mul_pow (negative : Bool) (digits n : Nat) (exponent : Int) :
    ofScientific negative (digits * 10 ^ n) exponent =
      ofScientific negative digits (exponent + n) := by
  by_cases h : digits = 0
  · rw [h, zero_mul]
    rfl
  · have hpow : digits * 10 ^ n ≠ 0 := Nat.mul_ne_zero h (by positivity)
    rw [ofScientific_eq negative _ _ h, ofScientific_eq negative _ _ hpow]
    apply roundQuotient_congr _ _ _ _ _ (by positivity) (by positivity)
    have hexponent : n + exponent.toNat + (-(exponent + n)).toNat =
        (exponent + n).toNat + (-exponent).toNat := by omega
    calc digits * 10 ^ n * 10 ^ exponent.toNat * 10 ^ (-(exponent + n)).toNat
        = digits * 10 ^ (n + exponent.toNat + (-(exponent + n)).toNat) := by ring
      _ = digits * 10 ^ (exponent + n).toNat * 10 ^ (-exponent).toNat := by
        rw [hexponent]
        ring

/-- A decimal with digits after its point and of at most 128 bits before it is a finite number. -/
theorem isFinite_ofScientific (negative : Bool) (digits places : Nat) (h : digits ≤ 2 ^ 128) :
    (ofScientific negative digits (-(places : Int))).isFinite = true := by
  by_cases hzero : digits = 0
  · rw [hzero]
    rfl
  · have hone : (-(places : Int)).toNat = 0 := by omega
    have hplaces : (-(-(places : Int))).toNat = places := by omega
    have hpos : 0 < 10 ^ places := by positivity
    have hsmall : (digits : ℚ) / (10 ^ places : Nat) ≤ 2 ^ 128 := by
      refine (div_le_self (Nat.cast_nonneg _) ?_).trans (by exact_mod_cast h)
      exact_mod_cast hpos
    have hlimit := roundedUnits_lt_limitUnits digits (10 ^ places) hpos hsmall
    rw [ofScientific_eq negative digits _ hzero, hone, hplaces, pow_zero, mul_one]
    rcases roundQuotient_eq negative digits (10 ^ places) hpos with ⟨x, hx, -⟩ | ⟨-, hlarge⟩
    · rw [hx]
      rfl
    · exact absurd hlarge hlimit.not_ge

/-- A quotient within half a unit of an integer is rounded to it, and one at that distance if the
integer is even. -/
theorem roundedQuotient_eq_of_near (scaled unit m : Nat) (hunit : 0 < unit)
    (hlow : 2 * (m * unit) ≤ 2 * scaled + unit) (hhigh : 2 * scaled ≤ 2 * (m * unit) + unit)
    (hodd : m % 2 = 1 → 2 * (m * unit) < 2 * scaled + unit ∧ 2 * scaled < 2 * (m * unit) + unit) :
    roundedQuotient scaled unit = m := by
  have hsplit := Nat.div_add_mod scaled unit
  have hlt := Nat.mod_lt scaled hunit
  rw [mul_comm] at hsplit
  -- The quotient lies between the integer and one of its neighbours.
  by_cases hle : m * unit ≤ scaled
  · have hq : scaled / unit = m := by
      refine Nat.div_eq_of_lt_le hle ?_
      rw [Nat.succ_mul]
      omega
    rw [hq] at hsplit
    rw [roundedQuotient, hq]
    exact if_neg (by omega)
  · obtain ⟨q, rfl⟩ : ∃ q, m = q + 1 := ⟨m - 1, by
      rcases m with _ | m
      · rw [zero_mul] at hle
        omega
      · rfl⟩
    rw [Nat.add_one_mul q unit] at hlow hhigh hodd hle
    have hq : scaled / unit = q := by
      refine Nat.div_eq_of_lt_le (by omega) ?_
      rw [Nat.add_one_mul q unit]
      omega
    rw [hq] at hsplit
    rw [roundedQuotient, hq]
    exact if_pos (by omega)

theorem roundedExponent_eq (scaled den e : Nat) (hden : 0 < den)
    (hlow : e = 0 ∨ 2 ^ 52 * (den * 2 ^ e) ≤ scaled) (hhigh : scaled < 2 ^ 53 * (den * 2 ^ e)) :
    roundedExponent scaled den = e := by
  have hlt : scaled / den < 2 ^ (53 + e) := by
    rw [Nat.div_lt_iff_lt_mul hden]
    calc scaled < 2 ^ 53 * (den * 2 ^ e) := hhigh
      _ = 2 ^ (53 + e) * den := by ring
  have hupper : (scaled / den).log2 < 53 + e := by
    by_cases hzero : scaled / den = 0
    · rw [hzero]
      exact Nat.lt_of_lt_of_le (by decide) (Nat.le_add_right 53 e)
    · exact (Nat.log2_lt hzero).mpr hlt
  rw [roundedExponent]
  rcases hlow with rfl | hlow
  · omega
  · have hle : 2 ^ (52 + e) ≤ scaled / den := by
      rw [Nat.le_div_iff_mul_le hden]
      calc 2 ^ (52 + e) * den = 2 ^ 52 * (den * 2 ^ e) := by ring
        _ ≤ scaled := hlow
    have hne : scaled / den ≠ 0 := (Nat.lt_of_lt_of_le (by positivity) hle).ne'
    have hlower : 52 + e ≤ (scaled / den).log2 := (Nat.le_log2 hne).mpr hle
    omega

section Interval

variable (x : FiniteDouble) (num den : Nat) (hden : 0 < den)
include hden

/-- A quotient near to a number, counted in units of its exponent, is rounded to it. -/
theorem roundQuotient_of_near
    (hexponent : x.exponent = 0 ∨ 2 ^ 52 * (den * 2 ^ x.exponent) ≤ num * unitsPerOne)
    (hlow : 2 * (x.significand * (den * 2 ^ x.exponent)) ≤
      2 * (num * unitsPerOne) + den * 2 ^ x.exponent)
    (hhigh : 2 * (num * unitsPerOne) ≤
      2 * (x.significand * (den * 2 ^ x.exponent)) + den * 2 ^ x.exponent)
    (hodd : x.significand % 2 = 1 →
      2 * (x.significand * (den * 2 ^ x.exponent)) <
        2 * (num * unitsPerOne) + den * 2 ^ x.exponent ∧
      2 * (num * unitsPerOne) <
        2 * (x.significand * (den * 2 ^ x.exponent)) + den * 2 ^ x.exponent) :
    roundQuotient x.negative num den = .finite x := by
  have hunit : 0 < den * 2 ^ x.exponent := by positivity
  have hbelow : num * unitsPerOne < 2 ^ 53 * (den * 2 ^ x.exponent) := by
    have hnext : (x.significand + 1) * (den * 2 ^ x.exponent) ≤ 2 ^ 53 * (den * 2 ^ x.exponent) :=
      Nat.mul_le_mul_right _ x.significand_lt
    rw [Nat.add_one_mul x.significand] at hnext
    omega
  -- The bounds first give the exponent, and in units of it the significand.
  have hexponent := roundedExponent_eq _ den x.exponent hden hexponent hbelow
  have hsignificand := roundedQuotient_eq_of_near _ _ _ hunit hlow hhigh hodd
  rw [roundQuotient_eq_ofParts, roundedSignificand, hexponent, hsignificand, ofParts,
    dif_pos ⟨x.significand_lt, x.exponent_le, x.normal⟩]

/-- The numbers just below a power of two are spaced half as far, and a quotient among them that is
near enough to the power is rounded up to it. -/
theorem roundQuotient_of_below (hsignificand : x.significand = 2 ^ 52) (hexponent : x.exponent ≠ 0)
    (hlow : 4 * (2 ^ 52 * (den * 2 ^ x.exponent)) ≤
      4 * (num * unitsPerOne) + den * 2 ^ x.exponent)
    (hhigh : num * unitsPerOne < 2 ^ 52 * (den * 2 ^ x.exponent)) :
    roundQuotient x.negative num den = .finite x := by
  obtain ⟨negative, m, e, hm, he, hnormal⟩ := x
  obtain ⟨e, rfl⟩ : ∃ f, e = f + 1 := Nat.exists_eq_succ_of_ne_zero hexponent
  obtain rfl : m = 4503599627370496 := hsignificand
  dsimp only at hlow hhigh ⊢
  have hunit : 0 < den * 2 ^ e := by positivity
  have hdouble : den * 2 ^ (e + 1) = 2 * (den * 2 ^ e) := by ring
  rw [hdouble] at hlow hhigh
  have hrounded := roundedQuotient_eq_of_near (num * unitsPerOne) (den * 2 ^ e) (2 ^ 53) hunit
    (by omega) (by omega) (by omega)
  have hexponent := roundedExponent_eq (num * unitsPerOne) den e hden (.inr (by omega)) (by omega)
  rw [roundQuotient_eq_ofParts, roundedSignificand, hexponent, hrounded, ofParts,
    dif_neg (by omega), dif_pos ⟨rfl, he⟩]

/-- A quotient inside the interval of a finite number is rounded to it, and one at an end of the
interval if the significand is even. -/
theorem roundQuotient_of_mem (hlow : x.roundingInterval.1 * den ≤ 4 * (num * unitsPerOne))
    (hhigh : 4 * (num * unitsPerOne) ≤ x.roundingInterval.2 * den)
    (hodd : x.significand % 2 = 1 → x.roundingInterval.1 * den < 4 * (num * unitsPerOne) ∧
      4 * (num * unitsPerOne) < x.roundingInterval.2 * den) :
    roundQuotient x.negative num den = .finite x := by
  have hunit : 0 < den * 2 ^ x.exponent := by positivity
  have hvalue : x.quarters * den = 4 * (x.significand * (den * 2 ^ x.exponent)) := by
    rw [FiniteDouble.quarters, FiniteDouble.units, twoTo_eq]
    ring
  have hhalf : 2 * twoTo x.exponent * den = 2 * (den * 2 ^ x.exponent) := by
    rw [twoTo_eq]
    ring
  have hquarter : twoTo x.exponent * den = den * 2 ^ x.exponent := by
    rw [twoTo_eq]
    ring
  rw [FiniteDouble.roundingInterval] at hlow hhigh hodd
  dsimp only at hlow hhigh hodd
  rw [Nat.add_mul, hvalue, hhalf] at hhigh
  rw [Nat.add_mul, hvalue, hhalf, Nat.sub_mul, hvalue] at hodd
  rw [Nat.sub_mul, hvalue] at hlow
  split at hlow
  · -- Below a power of two the numbers lie twice as close.
    next hpower =>
    rw [if_pos hpower, hquarter] at hodd
    rw [hquarter] at hlow
    obtain ⟨hsignificand, hexponent⟩ := hpower
    have hsame : x.significand = 2 ^ 52 := hsignificand
    rw [hsame] at hlow hhigh hodd
    by_cases hbelow : num * unitsPerOne < 2 ^ 52 * (den * 2 ^ x.exponent)
    · exact roundQuotient_of_below x num den hden hsame hexponent (by omega) hbelow
    · refine roundQuotient_of_near x num den hden (.inr (by omega)) ?_ ?_ ?_ <;> rw [hsame]
      · omega
      · omega
      · omega
  · next hpower =>
    rw [if_neg hpower, hhalf] at hodd
    rw [hhalf] at hlow
    refine roundQuotient_of_near x num den hden ?_ (by omega) (by omega) (by omega)
    by_cases hexponent : x.exponent = 0
    · exact .inl hexponent
    · have hnormal := x.normal
      have hnext : (2 ^ 52 + 1) * (den * 2 ^ x.exponent) ≤
          x.significand * (den * 2 ^ x.exponent) := Nat.mul_le_mul_right _ (by omega)
      rw [Nat.add_one_mul (2 ^ 52)] at hnext
      exact .inr (by omega)

end Interval

end Double

end CriteriaSearch
