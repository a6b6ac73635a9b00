import CriteriaSearch.Proofs.Number.Error
import Mathlib.Order.Compare

/-!
# Exact comparisons

Two numbers whose values are finite always have an order, which turns around with them. It is the
order of their exact values unless one of them is rounded before they are compared. That can only
happen to a decimal or to an integer of more than 53 bits, and only beside a binary number.
-/

namespace CriteriaSearch

theorem compare_eq_cmp_div (m n : Int) {k : ℚ} (hk : 0 < k) :
    Ord.compare m n = cmp ((m : ℚ) / k) ((n : ℚ) / k) := by
  have hmono : StrictMono fun i : Int => (i : ℚ) / k := by
    intro i j hij
    have hcast : (i : ℚ) < j := Int.cast_lt.mpr hij
    exact div_lt_div_of_pos_right hcast hk
  rw [← cmp_eq_compare]
  exact (hmono.cmp_map_eq m n).symm

namespace Double

attribute [local irreducible] unitsPerOne limitUnits

theorem mul_unitsPerOne_lt (n : Nat) (h : n ≤ 2 ^ 64) : n * unitsPerOne < limitUnits := by
  have hlimit := mul_lt_limitUnits 1 (64 + 1074) (by decide) (by decide)
  have hle : n * unitsPerOne ≤ 1 * 2 ^ (64 + 1074) := by
    rw [unitsPerOne_eq, one_mul, pow_add]
    exact Nat.mul_le_mul_right _ h
  exact hle.trans_lt hlimit

theorem signed_natAbs (n : Int) (k : Nat) : signed (decide (n < 0)) (n.natAbs * k) = n * k := by
  unfold signed
  rw [Nat.cast_mul]
  by_cases hn : n < 0
  · have habs : (n.natAbs : Int) = -n := by omega
    rw [decide_eq_true hn, if_pos rfl, habs, Int.neg_mul, Int.neg_neg]
  · have habs : (n.natAbs : Int) = n := by omega
    rw [decide_eq_false hn, if_neg Bool.false_ne_true, habs]

theorem position_ofInt (n : Int) (h : n.natAbs ≤ 2 ^ 53) :
    (ofInt n).position = n * unitsPerOne := by
  have hexact := roundedUnits_exact n.natAbs 1074 h
  have hlt := mul_unitsPerOne_lt n.natAbs (h.trans (by decide))
  rw [← unitsPerOne_eq] at hexact
  rw [ofInt, position_roundQuotient _ _ _ Nat.one_pos, hexact, min_eq_left hlt.le, signed_natAbs]

def IsAt (x : Double) (v : ℚ) : Prop := x ≠ .nan ∧ (x.position : ℚ) / unitsPerOne = v

theorem isAt_finite (x : FiniteDouble) : (finite x).IsAt x.value := ⟨nofun, rfl⟩

theorem isAt_ofInt (n : Int) (h : n.natAbs ≤ 2 ^ 53) : (ofInt n).IsAt n := by
  have hunits : (unitsPerOne : ℚ) ≠ 0 := Nat.cast_ne_zero.mpr unitsPerOne_pos.ne'
  refine ⟨ofInt_ne_nan n, ?_⟩
  rw [position_ofInt n h, Int.cast_mul, Int.cast_natCast]
  exact mul_div_cancel_right₀ (n : ℚ) hunits

theorem IsAt.compare_eq {x y : Double} {v w : ℚ} (hx : x.IsAt v) (hy : y.IsAt w) :
    x.compare y = some (cmp v w) := by
  have hunits : (0 : ℚ) < unitsPerOne := Nat.cast_pos.mpr unitsPerOne_pos
  obtain ⟨hxnan, rfl⟩ := hx
  obtain ⟨hynan, rfl⟩ := hy
  rw [compare_eq_position x y hxnan hynan, compare_eq_cmp_div _ _ hunits]

end Double

namespace Decimal

def value (d : Decimal) : ℚ := d.signedMantissa / 10 ^ d.scale

theorem value_eq_div (d : Decimal) (n : Nat) :
    d.value = (d.signedMantissa * tenTo n : Int) / (10 ^ d.scale * 10 ^ n) := by
  have hcast : ((tenTo n : Nat) : ℚ) = 10 ^ n := by
    change ((10 ^ n : Nat) : ℚ) = 10 ^ n
    push_cast
    rfl
  have hten : (10 : ℚ) ^ n ≠ 0 := by positivity
  rw [value, Int.cast_mul, Int.cast_natCast, hcast]
  exact (mul_div_mul_right _ _ hten).symm

theorem compare_eq_cmp (d e : Decimal) : d.compare e = cmp d.value e.value := by
  have hpos : (0 : ℚ) < 10 ^ d.scale * 10 ^ e.scale := by positivity
  -- Each mantissa is brought to the places of both decimals.
  rw [compare, compare_eq_cmp_div _ _ hpos, d.value_eq_div e.scale, e.value_eq_div d.scale,
    mul_comm ((10 : ℚ) ^ e.scale)]

end Decimal

namespace NumberValue

/-- The exact value of a number that has one; an infinite or undefined number has none. -/
def rational? : NumberValue → Option ℚ
  | .int n => some n.toInt
  | .long n => some n.toInt
  | .double (.finite x) => some x.value
  | .double _ => none
  | .decimal d => some d.value

def isBinary : NumberValue → Bool
  | .double _ => true
  | _ => false

/-- Neither number is rounded to be compared with the other: none of them is a binary number, or
both are, or one is and the other is an integer of at most 53 bits. -/
inductive KeepsExact : NumberValue → NumberValue → Prop
  | noBinary (a b : NumberValue) (ha : a.isBinary = false) (hb : b.isBinary = false) :
      KeepsExact a b
  | binary (x y : Double) : KeepsExact (.double x) (.double y)
  | integerLeft (a : NumberValue) (y : Double) (n : Int) (ha : a.toInt? = some n)
      (hn : n.natAbs ≤ 2 ^ 53) : KeepsExact a (.double y)
  | integerRight (x : Double) (b : NumberValue) (n : Int) (hb : b.toInt? = some n)
      (hn : n.natAbs ≤ 2 ^ 53) : KeepsExact (.double x) b

section Exact

variable {a b : NumberValue} {v w : ℚ}

theorem isAt_of_double {x : Double} (h : (double x).rational? = some v) : x.IsAt v := by
  cases x with
  | finite x =>
    cases h
    exact Double.isAt_finite x
  | _ => cases h

theorem isDefined_of_rational? (h : a.rational? = some v) : a.IsDefined := by
  cases a with
  | int n => exact Double.ofInt_ne_nan n.toInt
  | long n => exact Double.ofInt_ne_nan n.toInt
  | double x => exact (isAt_of_double h).1
  | decimal d => exact Decimal.toDouble_ne_nan d

theorem rational?_of_toInt? {n : Int} (h : a.toInt? = some n) : a.rational? = some (n : ℚ) := by
  cases a with
  | int m =>
    cases h
    rfl
  | long m =>
    cases h
    rfl
  | _ => cases h

theorem isAt_toDouble {n : Int} (ha : a.toInt? = some n) (hn : n.natAbs ≤ 2 ^ 53)
    (h : a.rational? = some v) : a.toDouble.IsAt v := by
  obtain rfl : (n : ℚ) = v := Option.some.inj ((rational?_of_toInt? ha).symm.trans h)
  cases a with
  | int m =>
    cases ha
    exact Double.isAt_ofInt m.toInt hn
  | long m =>
    cases ha
    exact Double.isAt_ofInt m.toInt hn
  | _ => cases ha

/-- A number that is not binary is a decimal of the same value. -/
theorem exists_toDecimal? (h : a.rational? = some v) (hbinary : a.isBinary = false) :
    ∃ d, a.toDecimal? = some d ∧ d.value = v := by
  have hinteger (n : Int) (ha : a.toInt? = some n) : ∃ d, a.toDecimal? = some d ∧ d.value = v := by
    obtain rfl : (n : ℚ) = v := Option.some.inj ((rational?_of_toInt? ha).symm.trans h)
    obtain ⟨d, hd, hmantissa, hscale⟩ := a.toDecimal?_of_toInt? n ha
    refine ⟨d, hd, ?_⟩
    rw [Decimal.value, hmantissa, hscale, pow_zero, div_one]
  cases a with
  | int n => exact hinteger n.toInt rfl
  | long n => exact hinteger n.toInt rfl
  | double x => cases hbinary
  | decimal d =>
    cases h
    exact ⟨d, rfl, rfl⟩

/-- Two numbers with places have an order, and the opposite one when they change places. -/
theorem exists_compare_swap (ha : a.IsDefined) (hb : b.IsDefined) :
    ∃ o, a.compare b = some o ∧ b.compare a = some o.swap := by
  obtain ⟨o, ho⟩ := exists_compare a b ha hb
  refine ⟨o, ho, ?_⟩
  have hplaces := Double.compare_eq_position a.toDouble b.toDouble ha hb
  have hswapped := Double.compare_eq_position b.toDouble a.toDouble hb ha
  unfold compare at ho ⊢
  -- Two decimals are compared exactly, and all other pairs as binary numbers, in either order.
  cases hx : a.toDecimal? with
  | none =>
    rw [hx, hplaces] at ho
    obtain rfl := Option.some.inj ho
    rw [← Std.OrientedOrd.eq_swap]
    cases hy : b.toDecimal? with
    | none => exact hswapped
    | some y => exact hswapped
  | some x =>
    cases hy : b.toDecimal? with
    | none =>
      rw [hx, hy, hplaces] at ho
      obtain rfl := Option.some.inj ho
      rw [← Std.OrientedOrd.eq_swap]
      exact hswapped
    | some y =>
      rw [hx, hy] at ho
      obtain rfl := Option.some.inj ho
      unfold Decimal.compare
      rw [← Std.OrientedOrd.eq_swap]

theorem compare_of_keepsExact (hkeeps : a.KeepsExact b) (ha : a.rational? = some v)
    (hb : b.rational? = some w) : a.compare b = some (cmp v w) := by
  cases hkeeps with
  | noBinary _ _ habinary hbbinary =>
    obtain ⟨d, hd, rfl⟩ := exists_toDecimal? ha habinary
    obtain ⟨e, he, rfl⟩ := exists_toDecimal? hb hbbinary
    unfold compare
    rw [hd, he]
    exact congrArg some (d.compare_eq_cmp e)
  | binary x y =>
    rw [compare_double_left]
    exact (isAt_of_double ha).compare_eq (isAt_of_double hb)
  | integerLeft _ y n hinteger hn =>
    rw [compare_double_right]
    exact (isAt_toDouble hinteger hn ha).compare_eq (isAt_of_double hb)
  | integerRight x _ n hinteger hn =>
    rw [compare_double_left]
    exact (isAt_of_double ha).compare_eq (isAt_toDouble hinteger hn hb)

end Exact

/-- Numbers with exact values always have an order, which is reversed when they change places, and
which is that of their values wherever neither is rounded. -/
theorem compare_exact (a b : NumberValue) (v w : ℚ) (ha : a.rational? = some v)
    (hb : b.rational? = some w) :
    (∃ o, a.compare b = some o ∧ b.compare a = some o.swap) ∧
      (a.KeepsExact b → a.compare b = some (cmp v w)) := by
  constructor
  · exact exists_compare_swap (isDefined_of_rational? ha) (isDefined_of_rational? hb)
  · intro hkeeps
    exact compare_of_keepsExact hkeeps ha hb

def belowLimit : FiniteDouble :=
  ⟨false, 9007199254740991, 1074, by decide, by decide, .inr (by decide)⟩

theorem value_belowLimit : belowLimit.value = 9007199254740991 := by
  have hunits : belowLimit.signedUnits = 9007199254740991 * (unitsPerOne : Int) := by
    decide +kernel
  have hpos : (unitsPerOne : ℚ) ≠ 0 := Nat.cast_ne_zero.mpr Double.unitsPerOne_pos.ne'
  rw [FiniteDouble.value, hunits, Int.cast_mul, Int.cast_natCast, mul_div_cancel_right₀ _ hpos]
  rfl

/-- The greatest integer that is compared exactly with all binary numbers comes after the number
below it. -/
theorem compare_exact_limit :
    (long 9007199254740992).rational? = some 9007199254740992 ∧
      (double (.finite belowLimit)).rational? = some 9007199254740991 ∧
      (∃ o, (long 9007199254740992).compare (double (.finite belowLimit)) = some o ∧
        (double (.finite belowLimit)).compare (long 9007199254740992) = some o.swap) ∧
      (long 9007199254740992).compare (double (.finite belowLimit)) = some .gt := by
  have hlong : (long 9007199254740992).rational? = some 9007199254740992 := rfl
  have hdouble : (double (.finite belowLimit)).rational? = some 9007199254740991 :=
    congrArg some value_belowLimit
  obtain ⟨horder, hexact⟩ := compare_exact _ _ _ _ hlong hdouble
  refine ⟨hlong, hdouble, horder, ?_⟩
  have hless : (9007199254740991 : ℚ) < 9007199254740992 := by norm_num
  rw [hexact (.integerLeft _ _ 9007199254740992 rfl (by decide)), hless.cmp_eq_gt]

end NumberValue

end CriteriaSearch
