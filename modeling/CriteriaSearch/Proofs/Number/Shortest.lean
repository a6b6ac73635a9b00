import CriteriaSearch.Number.Shortest
import CriteriaSearch.Proofs.Number.Scientific

/-!
# Shortest digits

The digits that are chosen for a binary number round to it, and there are at most seventeen of them.
The search ends there since a step of the seventeenth digit is smaller than the interval of numbers
that round to the same one.
-/

namespace CriteriaSearch

namespace FiniteDouble

open Double

attribute [local irreducible] unitsPerOne limitUnits

theorem atLeastPowerOfTen_iff (x : FiniteDouble) (k : Int) :
    x.atLeastPowerOfTen k = true ↔
      unitsPerOne * 10 ^ k.toNat ≤ x.units * 10 ^ (-k).toNat := by
  unfold atLeastPowerOfTen
  split
  · next h =>
    have hone : (-k).toNat = 0 := by omega
    rw [decide_eq_true_iff, hone, pow_zero, mul_one]
    rfl
  · next h =>
    have hone : k.toNat = 0 := by omega
    rw [decide_eq_true_iff, hone, pow_zero, mul_one]
    rfl

/-- A power of ten may be split into a power that scales the number and one that does not. -/
theorem atLeastPowerOfTen_add_iff (x : FiniteDouble) (k : Int) (n : Nat) :
    x.atLeastPowerOfTen (k + n) = true ↔
      10 ^ n * (unitsPerOne * 10 ^ k.toNat) ≤ x.units * 10 ^ (-k).toNat := by
  have hpos : 0 < 10 ^ (-(k + n)).toNat := by positivity
  have hpos' : 0 < 10 ^ (-k).toNat := by positivity
  have hexponent : n + k.toNat + (-(k + n)).toNat = (k + n).toNat + (-k).toNat := by omega
  have hleft : 10 ^ n * (unitsPerOne * 10 ^ k.toNat) * 10 ^ (-(k + n)).toNat =
      unitsPerOne * 10 ^ (k + n).toNat * 10 ^ (-k).toNat := by
    calc 10 ^ n * (unitsPerOne * 10 ^ k.toNat) * 10 ^ (-(k + n)).toNat
        = unitsPerOne * 10 ^ (n + k.toNat + (-(k + n)).toNat) := by ring
      _ = unitsPerOne * 10 ^ (k + n).toNat * 10 ^ (-k).toNat := by
        rw [hexponent]
        ring
  rw [atLeastPowerOfTen_iff, ← Nat.mul_le_mul_right_iff hpos', ← hleft, mul_right_comm x.units,
    Nat.mul_le_mul_right_iff hpos]

/-- The first guess for the decimal exponent of a number of so many binary digits. -/
def exponentGuess (log : Nat) : Int := (((log : Int) - 1074) * 30103).fdiv 100000 - 1

def IsGoodGuess (log : Nat) : Prop :=
  2 ^ 1074 * 10 ^ (exponentGuess log).toNat ≤ 2 ^ log * 10 ^ (-exponentGuess log).toNat ∧
    2 ^ (log + 1) * 10 ^ (-(exponentGuess log + 3)).toNat ≤
      2 ^ 1074 * 10 ^ (exponentGuess log + 3).toNat

instance (log : Nat) : Decidable (IsGoodGuess log) := inferInstanceAs (Decidable (_ ∧ _))

theorem isGoodGuess_of_lt (log : Nat) (h : log < 2098) : IsGoodGuess log := by
  -- The exponents are tried in blocks, so that the evaluation does not nest too deep.
  have hblocks : ∀ a < 46, ∀ b < 46, IsGoodGuess (46 * a + b) := by decide +kernel
  have hsplit := Nat.div_add_mod log 46
  rw [← hsplit]
  exact hblocks _ (by omega) _ (by omega)

/-- A number lies between the power of ten of its decimal exponent and the next one. -/
theorem decimalExponent_bounds (x : FiniteDouble) (h : x.isZero = false) :
    x.atLeastPowerOfTen x.decimalExponent = true ∧
      x.atLeastPowerOfTen (x.decimalExponent + 1) = false := by
  have hpos := units_pos x h
  have hlog : x.units.log2 < 53 + 2045 := by
    have hunits : x.units < 2 ^ (53 + x.exponent) := by
      rw [pow_add]
      exact Nat.mul_lt_mul_of_pos_right x.significand_lt (Nat.two_pow_pos _)
    exact ((Nat.log2_lt hpos.ne').mpr hunits).trans_le (Nat.add_le_add_left x.exponent_le 53)
  obtain ⟨hlow, hhigh⟩ := isGoodGuess_of_lt x.units.log2 hlog
  rw [← unitsPerOne_eq] at hlow hhigh
  obtain ⟨g, hg⟩ : ∃ g, exponentGuess x.units.log2 = g := ⟨_, rfl⟩
  rw [hg] at hlow hhigh
  have hguess : x.atLeastPowerOfTen g = true := by
    rw [atLeastPowerOfTen_iff]
    exact hlow.trans (Nat.mul_le_mul_right _ (Nat.log2_self_le hpos.ne'))
  -- The guess is at most two too small, so that three more are too large.
  have hbeyond : x.atLeastPowerOfTen (g + 3) = false := by
    rw [Bool.eq_false_iff, ne_eq, atLeastPowerOfTen_iff, Nat.not_le]
    exact (Nat.mul_lt_mul_of_pos_right Nat.lt_log2_self (by positivity)).trans_le hhigh
  have hexponent : x.decimalExponent =
      if x.atLeastPowerOfTen (g + 2) then g + 2
      else if x.atLeastPowerOfTen (g + 1) then g + 1 else g := by
    rw [← hg]
    rfl
  rw [hexponent]
  split
  · next htwo =>
    rw [Int.add_assoc]
    exact ⟨htwo, hbeyond⟩
  · next htwo =>
    split
    · next hone =>
      rw [Int.add_assoc]
      exact ⟨hone, Bool.eq_false_iff.mpr htwo⟩
    · next hone => exact ⟨hguess, Bool.eq_false_iff.mpr hone⟩

/-- The multiple of a power of ten lies in the interval of the number, and not at an end of it if
the significand is odd. -/
def IsInside (x : FiniteDouble) (k : Int) (d : Nat) : Prop :=
  x.roundingInterval.1 * 10 ^ (-k).toNat ≤ d * (4 * unitsPerOne * 10 ^ k.toNat) ∧
    d * (4 * unitsPerOne * 10 ^ k.toNat) ≤ x.roundingInterval.2 * 10 ^ (-k).toNat ∧
    (x.significand % 2 = 1 →
      x.roundingInterval.1 * 10 ^ (-k).toNat < d * (4 * unitsPerOne * 10 ^ k.toNat) ∧
        d * (4 * unitsPerOne * 10 ^ k.toNat) < x.roundingInterval.2 * 10 ^ (-k).toNat)

instance (x : FiniteDouble) (k : Int) (d : Nat) : Decidable (x.IsInside k d) :=
  inferInstanceAs (Decidable (_ ∧ _ ∧ (_ → _)))

theorem IsInside.ofScientific_eq {x : FiniteDouble} {k : Int} {d : Nat} (h : x.IsInside k d)
    (hd : d ≠ 0) : ofScientific x.negative d k = .finite x := by
  have hvalue : d * (4 * unitsPerOne * 10 ^ k.toNat) = 4 * (d * 10 ^ k.toNat * unitsPerOne) := by
    ring
  rw [IsInside, hvalue] at h
  rw [Double.ofScientific_eq _ d k hd]
  exact roundQuotient_of_mem x _ _ (by positivity) h.1 h.2.1 h.2.2

/-- The multiple of a power of ten just below a number, or the number itself. -/
def multipleBelow (x : FiniteDouble) (k : Int) : Nat :=
  x.quarters * 10 ^ (-k).toNat / (4 * unitsPerOne * 10 ^ k.toNat)

theorem onGrid?_eq (tie : Tie) (x : FiniteDouble) (k : Int) : ∃ side, x.onGrid? tie k =
    if x.IsInside k (x.multipleBelow k) then
      if x.IsInside k (x.multipleBelow k + 1) then some (tie.choose side (x.multipleBelow k))
      else some (x.multipleBelow k)
    else if x.IsInside k (x.multipleBelow k + 1) then some (x.multipleBelow k + 1) else none := by
  -- The search compares numbers without fractions, which says that a multiple is inside.
  have hinside (d : Nat) :
      (if x.significand % 2 = 0 then
          x.roundingInterval.1 * tenTo (-k).toNat ≤ d * (4 * unitsPerOne * tenTo k.toNat) &&
            d * (4 * unitsPerOne * tenTo k.toNat) ≤ x.roundingInterval.2 * tenTo (-k).toNat
        else
          x.roundingInterval.1 * tenTo (-k).toNat < d * (4 * unitsPerOne * tenTo k.toNat) &&
            d * (4 * unitsPerOne * tenTo k.toNat) < x.roundingInterval.2 * tenTo (-k).toNat) =
        decide (x.IsInside k d) := by
    have hten (n : Nat) : tenTo n = 10 ^ n := rfl
    rw [hten, hten, Bool.eq_iff_iff, decide_eq_true_iff, IsInside]
    split
    · next heven =>
      rw [Bool.and_eq_true, decide_eq_true_iff, decide_eq_true_iff]
      exact ⟨fun h => ⟨h.1, h.2, fun hodd => by omega⟩, fun h => ⟨h.1, h.2.1⟩⟩
    · next hodd =>
      rw [Bool.and_eq_true, decide_eq_true_iff, decide_eq_true_iff]
      exact ⟨fun h => ⟨h.1.le, h.2.le, fun _ => h⟩, fun h => h.2.2 (by omega)⟩
  refine ⟨compare (2 * (x.quarters * tenTo (-k).toNat))
    ((2 * x.multipleBelow k + 1) * (4 * unitsPerOne * tenTo k.toNat)), ?_⟩
  rw [onGrid?]
  dsimp only
  rw [hinside, hinside]
  have hbelow : x.quarters * tenTo (-k).toNat / (4 * unitsPerOne * tenTo k.toNat) =
      x.multipleBelow k := rfl
  rw [hbelow]
  by_cases hd : x.IsInside k (x.multipleBelow k) <;>
    by_cases hnext : x.IsInside k (x.multipleBelow k + 1) <;>
      simp only [hd, hnext, decide_true, decide_false, if_true, if_false]

/-- What is found among the multiples of a power of ten lies inside the interval, at one side of the
number or the other. -/
theorem onGrid?_eq_some (tie : Tie) (x : FiniteDouble) (k : Int) (d : Nat)
    (h : x.onGrid? tie k = some d) : x.IsInside k d ∧ d ≤ x.multipleBelow k + 1 := by
  obtain ⟨side, heq⟩ := onGrid?_eq tie x k
  rw [heq] at h
  -- Whichever side is chosen, it is one of the two multiples that are inside.
  have hchoose (n : Nat) : tie.choose side n = n ∨ tie.choose side n = n + 1 := by
    unfold Tie.choose
    split
    · exact .inl rfl
    · exact ite_eq_or_eq _ _ _
    · exact .inr rfl
  split at h
  · next hbelow =>
    split at h
    · next habove =>
      cases h
      rcases hchoose (x.multipleBelow k) with hd | hd <;> rw [hd]
      · exact ⟨hbelow, Nat.le_succ _⟩
      · exact ⟨habove, Nat.le_refl _⟩
    · cases h
      exact ⟨hbelow, Nat.le_succ _⟩
  · split at h
    · next habove =>
      cases h
      exact ⟨habove, Nat.le_refl _⟩
    · cases h

theorem onGrid?_isSome (tie : Tie) (x : FiniteDouble) (k : Int)
    (h : x.IsInside k (x.multipleBelow k) ∨ x.IsInside k (x.multipleBelow k + 1)) :
    (x.onGrid? tie k).isSome = true := by
  obtain ⟨side, heq⟩ := onGrid?_eq tie x k
  rw [heq]
  split
  · split <;> rfl
  · next hbelow => rw [if_pos (h.resolve_left hbelow), Option.isSome_some]

section Digits

variable (x : FiniteDouble) (h : x.isZero = false)
include h

theorem significand_pos : 0 < x.significand := by
  rw [isZero, beq_eq_false_iff_ne] at h
  exact Nat.pos_of_ne_zero h

/-- The interval reaches to both sides of the number, and is wider than its last seventeenth
digit. -/
theorem interval_bounds : 0 < x.roundingInterval.1 ∧ x.roundingInterval.1 < x.quarters ∧
    x.quarters < x.roundingInterval.2 ∧
    x.quarters + 10 ^ 16 * x.roundingInterval.1 < 10 ^ 16 * x.roundingInterval.2 := by
  have hpos := x.significand_pos h
  have hunit : 0 < 2 ^ x.exponent := by positivity
  have hle : 2 ^ x.exponent ≤ x.significand * 2 ^ x.exponent := Nat.le_mul_of_pos_left _ hpos
  have hlt : x.significand * 2 ^ x.exponent < 9007199254740992 * 2 ^ x.exponent :=
    Nat.mul_lt_mul_of_pos_right x.significand_lt hunit
  rw [roundingInterval, quarters, units, twoTo_eq]
  dsimp only
  split
  · next hpower =>
    rw [hpower.1] at hle hlt ⊢
    omega
  · omega

theorem IsInside.ne_zero {k : Int} {d : Nat} (hd : x.IsInside k d) : d ≠ 0 := by
  rintro rfl
  have hpos := Nat.mul_pos (x.interval_bounds h).1 (by positivity : 0 < 10 ^ (-k).toNat)
  have hlow := hd.1
  rw [Nat.zero_mul] at hlow
  omega

/-- The multiple below a number has one digit more than the step lies below its decimal exponent. -/
theorem multipleBelow_lt (n : Nat) : x.multipleBelow (x.decimalExponent - n) < 10 ^ (n + 1) := by
  have hbeyond := (x.decimalExponent_bounds h).2
  have hsplit : x.decimalExponent + 1 = x.decimalExponent - n + (n + 1 : Nat) := by omega
  rw [hsplit, Bool.eq_false_iff, ne_eq, atLeastPowerOfTen_add_iff, Nat.not_le] at hbeyond
  rw [multipleBelow, Nat.div_lt_iff_lt_mul (by have := unitsPerOne_pos; positivity), quarters]
  linarith

theorem exists_isInside (k : Int) (hk : x.decimalExponent = k + 16) :
    x.IsInside k (x.multipleBelow k) ∨ x.IsInside k (x.multipleBelow k + 1) := by
  have hten := (x.decimalExponent_bounds h).1
  have hsplit : x.decimalExponent = k + (16 : Nat) := hk
  obtain ⟨-, hlow, hhigh, hwide⟩ := x.interval_bounds h
  rw [hsplit, atLeastPowerOfTen_add_iff] at hten
  have hstep : 0 < 4 * unitsPerOne * 10 ^ k.toNat := by
    have := unitsPerOne_pos
    positivity
  have hscale : 0 < 10 ^ (-k).toNat := by positivity
  have hbelow := Nat.div_mul_le_self (x.quarters * 10 ^ (-k).toNat) (4 * unitsPerOne * 10 ^ k.toNat)
  have habove := Nat.lt_div_mul_add (a := x.quarters * 10 ^ (-k).toNat) hstep
  rw [← multipleBelow] at hbelow habove
  rw [← Nat.add_one_mul] at habove
  by_contra hnone
  rw [not_or] at hnone
  -- Both neighbours lie outside, so that the interval lies between them.
  have hfirst : x.multipleBelow k * (4 * unitsPerOne * 10 ^ k.toNat) ≤
      x.roundingInterval.1 * 10 ^ (-k).toNat := by
    by_contra hlt
    have hlast := Nat.mul_lt_mul_of_pos_right hhigh hscale
    exact hnone.1 ⟨by omega, by omega, fun _ => ⟨by omega, by omega⟩⟩
  have hlast : x.roundingInterval.2 * 10 ^ (-k).toNat ≤
      (x.multipleBelow k + 1) * (4 * unitsPerOne * 10 ^ k.toNat) := by
    by_contra hlt
    have hfirst := Nat.mul_lt_mul_of_pos_right hlow hscale
    exact hnone.2 ⟨by omega, by omega, fun _ => ⟨by omega, by omega⟩⟩
  have hwidth := Nat.mul_lt_mul_of_pos_right hwide hscale
  rw [Nat.add_one_mul] at hlast
  rw [quarters] at hwidth
  linarith

/-- The search finds a decimal of at most seventeen digits that rounds to the number. -/
theorem exists_found (tie : Tie) : ∃ (n d : Nat), n < 17 ∧
    ((List.range 17).findSome? fun (n : Nat) => (x.onGrid? tie (x.decimalExponent - n)).map fun d =>
      DecimalDigits.mk d (x.decimalExponent - n)) = some ⟨d, x.decimalExponent - n⟩ ∧
    x.IsInside (x.decimalExponent - n) d ∧ d ≤ 10 ^ (n + 1) := by
  have hlast : (x.onGrid? tie (x.decimalExponent - (16 : Nat))).isSome = true :=
    onGrid?_isSome tie x _ (x.exists_isInside h _ (by omega))
  have hsome : ((List.range 17).findSome? fun (n : Nat) =>
      (x.onGrid? tie (x.decimalExponent - n)).map fun d =>
        DecimalDigits.mk d (x.decimalExponent - n)).isSome = true := by
    rw [List.findSome?_isSome_iff]
    exact ⟨16, List.mem_range.mpr (by decide), by rw [Option.isSome_map]; exact hlast⟩
  obtain ⟨found, hfound⟩ := Option.isSome_iff_exists.mp hsome
  obtain ⟨n, hn, hmap⟩ := List.exists_of_findSome?_eq_some hfound
  obtain ⟨d, hd, rfl⟩ := Option.map_eq_some_iff.mp hmap
  obtain ⟨hinside, hle⟩ := onGrid?_eq_some tie x _ d hd
  exact ⟨n, d, List.mem_range.mp hn, hfound, hinside, hle.trans (x.multipleBelow_lt h n)⟩

end Digits

end FiniteDouble

namespace DecimalDigits

theorem dropZeros_split (fuel : Nat) (d : DecimalDigits) :
    ∃ n : Nat, d.coefficient = (dropZeros fuel d).coefficient * 10 ^ n ∧
      (dropZeros fuel d).exponent = d.exponent + n := by
  induction fuel generalizing d with
  | zero => exact ⟨0, (Nat.mul_one _).symm, (Int.add_zero _).symm⟩
  | succ fuel ih =>
    unfold dropZeros
    split
    · next hzero =>
      obtain ⟨n, hcoefficient, hexponent⟩ := ih ⟨d.coefficient / 10, d.exponent + 1⟩
      refine ⟨n + 1, ?_, ?_⟩
      · rw [pow_succ, ← mul_assoc, ← hcoefficient]
        exact (Nat.div_mul_cancel (Nat.dvd_of_mod_eq_zero hzero.2)).symm
      · rw [hexponent]
        push_cast
        ring
    · exact ⟨0, (Nat.mul_one _).symm, (Int.add_zero _).symm⟩

theorem dropZeros_mod_ne_zero (fuel : Nat) (d : DecimalDigits) (hd : d.coefficient ≠ 0)
    (hfuel : d.coefficient < 10 ^ fuel) : (dropZeros fuel d).coefficient % 10 ≠ 0 := by
  induction fuel generalizing d with
  | zero =>
    rw [pow_zero] at hfuel
    omega
  | succ fuel ih =>
    unfold dropZeros
    split
    · next hzero =>
      rw [pow_succ] at hfuel
      exact ih ⟨d.coefficient / 10, d.exponent + 1⟩ (by dsimp only; omega) (by dsimp only; omega)
    · next hstop =>
      rw [not_and] at hstop
      exact hstop hd

end DecimalDigits

namespace FiniteDouble

open Double

/-- The digits chosen for a number round to it, do not end in a zero, and are at most seventeen. -/
theorem shortest_spec (tie : Tie) (x : FiniteDouble) (h : x.isZero = false) :
    ofScientific x.negative (x.shortest tie).coefficient (x.shortest tie).exponent = .finite x ∧
      (x.shortest tie).coefficient % 10 ≠ 0 ∧ (x.shortest tie).coefficient < 10 ^ 17 := by
  obtain ⟨n, d, hn, hfound, hinside, hle⟩ := x.exists_found h tie
  have hshortest : x.shortest tie =
      DecimalDigits.dropZeros 20 ⟨d, x.decimalExponent - n⟩ := by
    rw [shortest, h, if_neg Bool.false_ne_true]
    dsimp only
    rw [hfound, Option.getD_some]
  have hd := hinside.ne_zero x h
  have hsmall : d ≤ 10 ^ 17 := hle.trans (Nat.pow_le_pow_right (by decide) hn)
  obtain ⟨zeros, hcoefficient, hexponent⟩ :=
    DecimalDigits.dropZeros_split 20 ⟨d, x.decimalExponent - n⟩
  have hlast := DecimalDigits.dropZeros_mod_ne_zero 20 ⟨d, x.decimalExponent - n⟩ hd (by
    dsimp only
    omega)
  rw [← hshortest] at hcoefficient hexponent hlast
  dsimp only at hcoefficient hexponent
  refine ⟨?_, hlast, ?_⟩
  · rw [hexponent, ← ofScientific_mul_pow, ← hcoefficient]
    exact hinside.ofScientific_eq hd
  · have hfactor : (x.shortest tie).coefficient ≤ d := by
      rw [hcoefficient]
      exact Nat.le_mul_of_pos_right _ (by positivity)
    -- A number of more than seventeen digits would be a power of ten, which ends in a zero.
    omega

end FiniteDouble

end CriteriaSearch
