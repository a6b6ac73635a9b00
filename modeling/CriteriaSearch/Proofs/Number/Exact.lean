import CriteriaSearch.Proofs.Digits
import CriteriaSearch.Proofs.Number.Error
import CriteriaSearch.Sql.Moment

namespace CriteriaSearch

namespace Double

attribute [local irreducible] unitsPerOne limitUnits

theorem roundQuotient_congr (negative : Bool) (m n d e : Nat) (hd : 0 < d) (he : 0 < e)
    (h : m * e = n * d) : roundQuotient negative m d = roundQuotient negative n e := by
  have hscaled : m * unitsPerOne * e = n * unitsPerOne * d := by
    rw [mul_right_comm, h, mul_right_comm]
  have hexponent : roundedExponent (m * unitsPerOne) d = roundedExponent (n * unitsPerOne) e :=
    Nat.le_antisymm (roundedExponent_mono _ _ _ _ hd he hscaled.le)
      (roundedExponent_mono _ _ _ _ he hd hscaled.ge)
  have hsignificand :
      roundedSignificand (m * unitsPerOne) d = roundedSignificand (n * unitsPerOne) e := by
    unfold roundedSignificand
    rw [hexponent]
    obtain ⟨u, hu⟩ : ∃ u, 2 ^ roundedExponent (n * unitsPerOne) e = u := ⟨_, rfl⟩
    have hupos : 0 < u := by
      rw [← hu]
      positivity
    rw [hu]
    have heq : m * unitsPerOne * (e * u) = n * unitsPerOne * (d * u) := by
      rw [← mul_assoc, hscaled, mul_assoc]
    apply Nat.le_antisymm
    · exact roundedQuotient_mono _ _ _ _ (Nat.mul_pos hd hupos) (Nat.mul_pos he hupos) heq.le
    · exact roundedQuotient_mono _ _ _ _ (Nat.mul_pos he hupos) (Nat.mul_pos hd hupos) heq.ge
  rw [roundQuotient_eq_ofParts, roundQuotient_eq_ofParts, hexponent, hsignificand]

theorem ofInt_units (n : Nat) (h : n ≤ 2 ^ 53) :
    ∃ x : FiniteDouble, ofInt n = .finite x ∧ x.negative = false ∧ x.units = n * unitsPerOne := by
  obtain ⟨x, hx, hnegative, hunits⟩ := ofInt_finite n (h.trans (by decide))
  have hexact := roundedUnits_exact n 1074 h
  rw [← unitsPerOne_eq] at hexact
  exact ⟨x, hx, hnegative, hunits.trans hexact⟩

theorem ofInt_natCast (n : Nat) : ofInt n = roundQuotient false n 1 := by
  have hsign : decide ((n : Int) < 0) = false := by
    rw [decide_eq_false_iff_not]
    omega
  rw [ofInt, hsign, Int.natAbs_natCast]

theorem mul_ofInt (a b : Nat) (ha : a ≤ 2 ^ 53) (hb : b ≤ 2 ^ 53) :
    (ofInt a).mul (ofInt b) = ofInt (a * b : Nat) := by
  obtain ⟨x, hx, hxsign, hxunits⟩ := ofInt_units a ha
  obtain ⟨y, hy, hysign, hyunits⟩ := ofInt_units b hb
  rw [ofInt_natCast (a * b), hx, hy, mul, hxsign, hysign, hxunits, hyunits]
  apply roundQuotient_congr _ _ _ _ _ (Nat.mul_pos unitsPerOne_pos unitsPerOne_pos) Nat.one_pos
  ring

theorem ofInt_zero : ofInt 0 = zero false := by
  decide +kernel

theorem add_ofInt (a b : Nat) (ha : a ≤ 2 ^ 53) (hb : b ≤ 2 ^ 53) :
    (ofInt a).add (ofInt b) = ofInt (a + b : Nat) := by
  obtain ⟨x, hx, hxsign, hxunits⟩ := ofInt_units a ha
  obtain ⟨y, hy, hysign, hyunits⟩ := ofInt_units b hb
  have hsum : x.signedUnits + y.signedUnits = ((a + b) * unitsPerOne : Nat) := by
    rw [FiniteDouble.signedUnits, FiniteDouble.signedUnits, hxsign, hysign, hxunits, hyunits,
      Nat.add_mul]
    rfl
  rw [hx, hy, add, hsum, hxsign, hysign]
  split
  · next hzero =>
    have hnone : a + b = 0 := by
      have := unitsPerOne_pos
      rcases Nat.mul_eq_zero.mp (Int.ofNat_eq_zero.mp hzero) with h | h
      · exact h
      · omega
    rw [hnone]
    exact ofInt_zero.symm
  · -- A sum other than zero is counted in units again, and rounds as the integer does.
    have hsign : decide (((a + b) * unitsPerOne : Nat) < (0 : Int)) = false := by
      rw [decide_eq_false_iff_not]
      omega
    rw [hsign, Int.natAbs_natCast, ofInt_natCast]
    exact roundQuotient_congr _ _ _ _ _ unitsPerOne_pos Nat.one_pos (Nat.mul_one _)

theorem div_ofInt (a b : Nat) (ha : a ≤ 2 ^ 53) (hb : b ≤ 2 ^ 53) (hpos : 0 < b) :
    (ofInt a).div (ofInt b) = roundQuotient false a b := by
  have hdivisor := ofInt_isDivisor b hpos (hb.trans (by decide))
  obtain ⟨x, hx, hxsign, hxunits⟩ := ofInt_units a ha
  obtain ⟨y, hy, hysign, hyunits⟩ := ofInt_units b hb
  obtain ⟨z, hz, hnonzero⟩ := (isDivisor_iff _).mp hdivisor
  obtain rfl : y = z := by
    rw [hy] at hz
    exact Double.finite.inj hz
  rw [hx, hy, div, hnonzero, hxsign, hysign, hxunits, hyunits]
  simp only [Bool.false_eq_true, ↓reduceIte, bne_self_eq_false]
  apply roundQuotient_congr _ _ _ _ _ (Nat.mul_pos hpos unitsPerOne_pos) hpos
  ring

end Double

namespace Sql.Moment

open Double

attribute [local irreducible] unitsPerOne limitUnits

/-- The sum of a fraction after some of its digits, with what it is to be divided by. -/
def fractionStep (sum : Double × Double) (c : Char) : Double × Double :=
  ((sum.1.mul (.ofInt 10)).add (.ofInt (c.toNat - '0'.toNat)), sum.2.mul (.ofInt 10))

theorem fraction_eq_foldl (cs : List Char) :
    fraction cs =
      (cs.foldl fractionStep (.zero false, .ofInt 1)).1.div
        (cs.foldl fractionStep (.zero false, .ofInt 1)).2 := rfl

theorem foldl_fractionStep (cs : List Char) (n k : Nat) (hn : n < 10 ^ k)
    (hk : k + cs.length ≤ 15) (hdigits : cs.all isDigit = true) :
    cs.foldl fractionStep (.ofInt n, .ofInt (10 ^ k : Nat)) =
      (.ofInt (digitsValue n cs), .ofInt (10 ^ (k + cs.length) : Nat)) ∧
    digitsValue n cs < 10 ^ (k + cs.length) := by
  -- The invariant is that both parts are the exact integers, the first one less than the second.
  induction cs generalizing n k with
  | nil => exact ⟨rfl, hn⟩
  | cons c cs ih =>
    rw [List.all_cons, Bool.and_eq_true] at hdigits
    rw [List.length_cons] at hk
    obtain ⟨hlow, hhigh⟩ := digit_bounds c hdigits.1
    have hzero : '0'.toNat = 48 := rfl
    obtain ⟨d, hd⟩ : ∃ d, c.toNat = '0'.toNat + d := ⟨c.toNat - '0'.toNat, by omega⟩
    have hdigit : d ≤ 9 := by omega
    have hpow : 10 ^ k ≤ 10 ^ 14 := Nat.pow_le_pow_right (by decide) (by omega)
    have hstep : fractionStep (.ofInt n, .ofInt (10 ^ k : Nat)) c =
        (.ofInt (n * 10 + d : Nat), .ofInt (10 ^ (k + 1) : Nat)) := by
      have hvalue : (c.toNat : Int) - '0'.toNat = (d : Nat) := by omega
      have hten : (10 : Int) = (10 : Nat) := rfl
      rw [fractionStep, hvalue, hten, mul_ofInt n 10 (by omega) (by decide),
        add_ofInt (n * 10) d (by omega) (by omega), mul_ofInt (10 ^ k) 10 (by omega) (by decide),
        pow_succ]
    have hnext : n * 10 + d < 10 ^ (k + 1) := by
      rw [pow_succ]
      omega
    have hcons : digitsValue n (c :: cs) = digitsValue (n * 10 + d) cs := by
      have hvalue : c.toNat - '0'.toNat = d := by omega
      rw [digitsValue, List.foldl_cons, hvalue]
      rfl
    have hih := ih (n * 10 + d) (k + 1) hnext (by omega) hdigits.2
    rw [List.foldl_cons, hstep, hcons, List.length_cons, Nat.add_comm cs.length 1, ← Nat.add_assoc]
    exact hih

theorem fraction_eq (cs : List Char) (hlength : cs.length ≤ 15) (hdigits : cs.all isDigit = true) :
    fraction cs = roundQuotient false (digitsValue 0 cs) (10 ^ cs.length) := by
  obtain ⟨hfold, hlt⟩ := foldl_fractionStep cs 0 0 (by decide) (by omega) hdigits
  have hstart : (Double.zero false, Double.ofInt 1) =
      (.ofInt (0 : Nat), .ofInt (10 ^ 0 : Nat)) := by
    rw [pow_zero, Nat.cast_zero, Nat.cast_one, ofInt_zero]
  have hpow : 10 ^ (0 + cs.length) ≤ 10 ^ 15 := Nat.pow_le_pow_right (by decide) (by omega)
  rw [fraction_eq_foldl, hstart, hfold]
  rw [Nat.zero_add] at hpow hlt ⊢
  exact div_ofInt (digitsValue 0 cs) (10 ^ cs.length) (by omega) (by omega) (by positivity)

end Sql.Moment

end CriteriaSearch
