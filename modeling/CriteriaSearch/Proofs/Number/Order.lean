import CriteriaSearch.Memory.Evaluation
import CriteriaSearch.Proofs.Number.Rounding
import Mathlib.Data.Nat.Cast.Order.Ring

/-!
# The order of numbers

Binary numbers are compared by their place on one line of integers, on which the infinite numbers
lie beyond all others. Rounding an integer keeps to its side of every other integer, though two
different integers may be rounded to one number. Stored integers are compared exactly with each
other and after rounding with stored binary numbers.
-/

namespace CriteriaSearch

namespace FiniteDouble

theorem units_lt (x : FiniteDouble) : x.units < Double.limitUnits :=
  Double.mul_lt_limitUnits _ _ x.significand_lt x.exponent_le

end FiniteDouble

namespace Double

attribute [local irreducible] limitUnits

def signed (negative : Bool) (n : Nat) : Int := if negative then -(n : Int) else n

/-- The place of a number on the line: its units of 2⁻¹⁰⁷⁴, and a place beyond those of all finite
numbers for the infinite ones. -/
def position : Double → Int
  | .nan => 0
  | .infinite negative => signed negative (limitUnits)
  | .finite x => x.signedUnits

theorem signedUnits_eq (x : FiniteDouble) : x.signedUnits = signed x.negative x.units := rfl

theorem signed_mono (negative : Bool) (m n : Nat) (h : m ≤ n) :
    if negative then signed negative n ≤ signed negative m
    else signed negative m ≤ signed negative n := by
  have : (m : Int) ≤ n := Int.ofNat_le.mpr h
  cases negative
  · exact this
  · exact Int.neg_le_neg this

theorem signed_true_nonpos (n : Nat) : signed true n ≤ 0 := by
  simp [signed]

theorem signed_false_nonneg (n : Nat) : 0 ≤ signed false n := by
  simp [signed]

theorem signedUnits_bounds (x : FiniteDouble) :
    signed true (limitUnits) < x.signedUnits ∧ x.signedUnits < signed false (limitUnits) := by
  have hlt := x.units_lt
  rw [signedUnits_eq]
  unfold signed
  cases x.negative <;> simp only [Bool.false_eq_true, ↓reduceIte] <;> omega

theorem compare_eq_position (x y : Double) (hx : x ≠ .nan) (hy : y ≠ .nan) :
    x.compare y = some (Ord.compare x.position y.position) := by
  have hbig : signed true (limitUnits) < signed false (limitUnits) :=
    (signedUnits_bounds (.zero false)).1.trans (signedUnits_bounds (.zero false)).2
  rcases x with _ | a | x
  · exact absurd rfl hx
  · rcases y with _ | b | y
    · exact absurd rfl hy
    · cases a <;> cases b <;> simp only [compare, position]
      · rw [Std.ReflOrd.compare_self, Std.ReflOrd.compare_self]
      · rw [compare_gt_iff_gt.mpr hbig]; rfl
      · rw [compare_lt_iff_lt.mpr hbig]; rfl
      · rw [Std.ReflOrd.compare_self, Std.ReflOrd.compare_self]
    · have h := signedUnits_bounds y
      cases a <;> simp only [compare, position]
      · rw [compare_gt_iff_gt.mpr h.2]; rfl
      · rw [compare_lt_iff_lt.mpr h.1]; rfl
  · rcases y with _ | b | y
    · exact absurd rfl hy
    · have h := signedUnits_bounds x
      cases b <;> simp only [compare, position]
      · rw [compare_lt_iff_lt.mpr h.2]; rfl
      · rw [compare_gt_iff_gt.mpr h.1]; rfl
    · rfl

/-- The place of a rounded quotient is that of its units, or the end of the line. -/
theorem position_roundQuotient (negative : Bool) (num den : Nat) (hden : 0 < den) :
    (roundQuotient negative num den).position =
      signed negative (min (roundedUnits (num * unitsPerOne) den) (limitUnits)) := by
  rcases roundQuotient_eq negative num den hden with ⟨x, h, hneg, hunits, hlt⟩ | ⟨h, hle⟩
  · rw [h, min_eq_left hlt.le, ← hunits, ← hneg]
    rfl
  · rw [h, min_eq_right hle]
    rfl

theorem position_ofInt_mono (a b : Int) (h : a ≤ b) :
    (ofInt a).position ≤ (ofInt b).position := by
  unfold ofInt
  rw [position_roundQuotient _ _ _ Nat.one_pos, position_roundQuotient _ _ _ Nat.one_pos]
  have hmono (m n : Nat) (hmn : m ≤ n) :
      min (roundedUnits (m * unitsPerOne) 1) (limitUnits) ≤
        min (roundedUnits (n * unitsPerOne) 1) (limitUnits) := by
    apply min_le_min_right
    apply roundedUnits_mono _ _ _ _ Nat.one_pos Nat.one_pos
    exact Nat.mul_le_mul_right 1 (Nat.mul_le_mul_right _ hmn)
  -- Magnitudes are rounded without their signs, so the four cases of the signs are apart.
  by_cases ha : a < 0 <;> by_cases hb : b < 0
  · simp only [ha, hb, decide_true]
    exact signed_mono true _ _ (hmono _ _ (by omega))
  · simp only [ha, hb, decide_true, decide_false]
    exact (signed_true_nonpos _).trans (signed_false_nonneg _)
  · omega
  · simp only [ha, hb, decide_false]
    exact signed_mono false _ _ (hmono _ _ (by omega))

end Double

namespace Decimal

theorem ofInt?_eq_some (n : Int) (h : n.natAbs < 2 ^ 96) :
    ∃ d, ofInt? n = some d ∧ d.signedMantissa = n ∧ d.scale = 0 := by
  refine ⟨⟨decide (n < 0) && n.natAbs != 0, n.natAbs, 0, h, Nat.zero_le 28⟩, ?_, ?_, rfl⟩
  · rw [ofInt?, ofParts?, dif_pos ⟨h, Nat.zero_le 28⟩]
  · simp only [signedMantissa, Bool.and_eq_true, decide_eq_true_eq, bne_iff_ne, ne_eq]
    split <;> omega

end Decimal

namespace NumberValue

theorem toDecimal?_of_toInt? (a : NumberValue) (n : Int) (h : a.toInt? = some n) :
    ∃ d, a.toDecimal? = some d ∧ d.signedMantissa = n ∧ d.scale = 0 := by
  cases a with
  | int i =>
    cases h
    have hle := Int32.le_toInt i
    have hlt := Int32.toInt_lt i
    exact Decimal.ofInt?_eq_some _ (by omega)
  | long i =>
    cases h
    have hle := Int64.le_toInt i
    have hlt := Int64.toInt_lt i
    exact Decimal.ofInt?_eq_some _ (by omega)
  | _ => cases h

theorem compare_integers (a b : NumberValue) (m n : Int) (ha : a.toInt? = some m)
    (hb : b.toInt? = some n) : a.compare b = some (Ord.compare m n) := by
  obtain ⟨x, hx, hxm, hxs⟩ := a.toDecimal?_of_toInt? m ha
  obtain ⟨y, hy, hym, hys⟩ := b.toDecimal?_of_toInt? n hb
  unfold compare
  rw [hx, hy]
  simp only [Decimal.compare, hxm, hym, hxs, hys]
  simp [tenTo]

theorem compare_double_left (x : Double) (b : NumberValue) :
    (double x).compare b = x.compare b.toDouble := rfl

theorem compare_double_right (a : NumberValue) (y : Double) :
    a.compare (double y) = a.toDouble.compare y := by
  cases a <;> unfold compare toDecimal? <;> simp only [toDouble] <;> split <;> simp_all

end NumberValue

end CriteriaSearch
