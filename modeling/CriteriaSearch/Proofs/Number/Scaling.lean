import CriteriaSearch.Proofs.Number.Error
import CriteriaSearch.Sql.Numeral

/-!
# Scaling by powers of ten

A number is written by scaling it with powers of ten, as a pair of which the second part keeps what
rounding takes away from the first. Each step multiplies the first part by its power up to a small
part of itself.
-/

namespace CriteriaSearch

namespace Double

attribute [local irreducible] unitsPerOne limitUnits

theorem negative_eq_false (x : FiniteDouble) (h : 0 < x.value) : x.negative = false := by
  by_contra hne
  rw [Bool.not_eq_false] at hne
  rw [value_eq_signedValue, hne] at h
  have hnonneg : (0 : ℚ) ≤ x.units / unitsPerOne := by positivity
  simp only [signedValue, ↓reduceIte] at h
  linarith

theorem value_zero : (FiniteDouble.zero false).value = 0 := by
  rw [value_eq_signedValue]
  simp [signedValue, FiniteDouble.zero, FiniteDouble.units]

/-- Clearing the last bits of a positive number leaves a part of it. -/
theorem upperHalf_near (x : FiniteDouble) (h : 0 < x.value) :
    ∃ a, 0 ≤ a ∧ a ≤ x.value ∧ (finite x).upperHalf.Near a 0 := by
  have hnegative := negative_eq_false x h
  have hle : x.significand / 67108864 * 67108864 ≤ x.significand := Nat.div_mul_le_self _ _
  have hlt := x.significand_lt
  -- Clearing the low bits leaves the leading one, so that the exponent stays.
  have hnormal : x.exponent = 0 ∨ 2 ^ 52 ≤ x.significand / 67108864 * 67108864 := by
    have := x.normal
    omega
  have hunits : x.significand / 67108864 * 67108864 * 2 ^ x.exponent ≤ x.units :=
    Nat.mul_le_mul_right _ hle
  rcases ofParts_eq x.negative _ x.exponent (by omega) hnormal with ⟨y, hy, hynegative, hyunits, _⟩ |
    ⟨_, hlarge⟩
  · have hyvalue : y.value = y.units / unitsPerOne := by
      rw [value_eq_signedValue, hynegative, hnegative]
      rfl
    have hxvalue : x.value = x.units / unitsPerOne := by
      rw [value_eq_signedValue, hnegative]
      rfl
    refine ⟨y.value, ?_, ?_, y, hy, by simp⟩
    · rw [hyvalue]
      positivity
    · rw [hyvalue, hxvalue, hyunits]
      have hcast : ((x.significand / 67108864 * 67108864 * 2 ^ x.exponent : Nat) : ℚ) ≤ x.units := by
        exact_mod_cast hunits
      exact div_le_div_of_nonneg_right hcast (by positivity)
  · have := x.units_lt
    omega

end Double

namespace DoublePair

open Double

attribute [local irreducible] unitsPerOne limitUnits

/-- The factors of the steps up are short: their last bits are clear. -/
structure IsFactor (y : Double) (b : ℚ) : Prop where
  value : ∃ f : FiniteDouble, y = .finite f ∧ f.value = b
  upper : y.upperHalf = y
  lower : y.sub y = .zero false
  one_le : 1 ≤ b

/-- One step multiplies the first part up to a small part of itself. -/
theorem mul_near (h t : FiniteDouble) (y : Double) (b : ℚ) (hy : IsFactor y b)
    (hpos : 0 < h.value) (ht : |t.value| ≤ h.value / 2 ^ 39)
    (hlarge : IsBound (2 * h.value)) (hM : IsBound (2 * h.value * b)) :
    ((⟨.finite h, .finite t⟩ : DoublePair).mul y (.zero false)).head.Near
        ((h.value + t.value) * b) (26 * (2 * h.value * b / 2 ^ 53)) ∧
      ((⟨.finite h, .finite t⟩ : DoublePair).mul y (.zero false)).tail.Near 0
        (53 * (2 * h.value * b / 2 ^ 53)) := by
  obtain ⟨⟨f, rfl, rfl⟩, hupper, hlower, hone⟩ := hy
  have hfpos : 0 < f.value := by linarith
  have hzero := value_zero
  obtain ⟨a, ha, hah, hupperX⟩ := upperHalf_near h hpos
  -- The product of the first part, and what one rounding of numbers of that size changes.
  obtain ⟨u, hu⟩ : ∃ u, 2 * h.value * f.value / 2 ^ 53 = u := ⟨_, rfl⟩
  have hproduct : h.value * f.value = 2 ^ 52 * u := by
    rw [← hu]
    ring
  have hulast : 2 * h.value / 2 ^ 53 * f.value = u := by
    rw [← hu]
    ring
  have hupos : 0 < u := by
    rw [← hu]
    positivity
  have hM2 : 2 * h.value * f.value = 2 ^ 53 * u := by linarith
  have haf : 0 ≤ a * f.value := mul_nonneg ha hfpos.le
  have hahf : a * f.value ≤ h.value * f.value := mul_le_mul_of_nonneg_right hah hfpos.le
  obtain ⟨htlower, htupper⟩ := abs_le.mp ht
  have htlower' : -(h.value * f.value / 2 ^ 39) ≤ t.value * f.value := by
    have := mul_le_mul_of_nonneg_right htlower hfpos.le
    linarith
  have htupper' : t.value * f.value ≤ h.value * f.value / 2 ^ 39 := by
    have := mul_le_mul_of_nonneg_right htupper hfpos.le
    linarith
  have hlowerX : ((Double.finite h).sub (Double.finite h).upperHalf).Near (h.value - a)
      (2 * h.value / 2 ^ 53) :=
    (near_self h).sub hupperX hlarge rfl (by linarith) (by linarith) (by linarith)
  have hp : ((Double.finite h).upperHalf.mul (.finite f)).Near (a * f.value) u :=
    hupperX.mul f hM hfpos.le rfl (by linarith) (by linarith) (by linarith)
  have hcross : (((Double.finite h).upperHalf).mul (.zero false)).Near 0 u :=
    hupperX.mul (.zero false) hM hzero.ge (by rw [hzero, mul_zero]) (by linarith) (by linarith)
      (by linarith)
  have hcross' : (((Double.finite h).sub (Double.finite h).upperHalf).mul (.finite f)).Near
      ((h.value - a) * f.value) (2 * u) :=
    hlowerX.mul f hM hfpos.le rfl (by linarith) (by linarith) (by linarith)
  have hq := hcross.add hcross' hM (c := (h.value - a) * f.value) (η := 4 * u) (by ring)
    (by linarith) (by linarith) (by linarith)
  have hc := hp.add hq hM (c := h.value * f.value) (η := 6 * u) (by ring) (by linarith)
    (by linarith) (by linarith)
  have hpc := hp.sub hc hM (c := (a - h.value) * f.value) (η := 8 * u) (by ring) (by linarith)
    (by linarith) (by linarith)
  have hpcq := hpc.add hq hM (c := 0) (η := 13 * u) (by ring) (by linarith) (by linarith)
    (by linarith)
  have hlow := hlowerX.mul (.zero false) hM hzero.ge (c := 0) (η := u) (by rw [hzero, mul_zero])
    (by rw [hzero]; linarith) (by rw [hzero]; linarith) (by rw [hzero]; linarith)
  have herror := hpcq.add hlow hM (c := 0) (η := 15 * u) (by ring) (by linarith) (by linarith)
    (by linarith)
  have htail := (near_self h).mul (.zero false) hM hzero.ge (c := 0) (η := u)
    (by rw [hzero, mul_zero]) (by linarith) (by linarith) (by linarith)
  have htail' := (near_self t).mul f hM hfpos.le (c := t.value * f.value) (η := u) rfl
    (by linarith) (by linarith) (by linarith)
  have hrest := (htail.add htail' hM (c := t.value * f.value) (η := 3 * u) (by ring)
    (by linarith) (by linarith) (by linarith)).add herror hM (c := t.value * f.value)
    (η := 19 * u) (by ring) (by linarith) (by linarith) (by linarith)
  have hhead := hc.add hrest hM (c := (h.value + t.value) * f.value) (η := 26 * u) (by ring)
    (by linarith) (by linarith) (by linarith)
  have hleft := (hc.sub hhead hM (c := -(t.value * f.value)) (η := 33 * u) (by ring)
    (by linarith) (by linarith) (by linarith)).add hrest hM (c := 0) (η := 53 * u) (by ring)
    (by linarith) (by linarith) (by linarith)
  simp only [DoublePair.mul, hupper, hlower, hu]
  exact ⟨hhead, hleft⟩

/-- After `k` steps the first part is near to a value, and the second is small beside it. -/
structure IsScaled (p : DoublePair) (v : ℚ) (k : Nat) : Prop where
  parts : ∃ h t : FiniteDouble, p = ⟨.finite h, .finite t⟩ ∧ |h.value - v| ≤ k * (v / 2 ^ 38) ∧
    |t.value| ≤ h.value / 2 ^ 39

theorem stepErrors_le {k : Nat} (n : Nat) (hn : n ≤ 38) (hk : k ≤ 2 ^ n) {v : ℚ} (hv : 0 ≤ v) :
    k * (v / 2 ^ 38) ≤ v / 2 ^ (38 - n) := by
  have hk' : (k : ℚ) ≤ 2 ^ n := by exact_mod_cast hk
  have hpow : (2 : ℚ) ^ 38 = 2 ^ n * 2 ^ (38 - n) := by
    rw [← pow_add, Nat.add_sub_cancel' hn]
  calc k * (v / 2 ^ 38)
      ≤ 2 ^ n * (v / 2 ^ 38) := mul_le_mul_of_nonneg_right hk' (by positivity)
    _ = v / 2 ^ (38 - n) := by
      rw [hpow]
      field_simp

theorem isScaled_start (x : FiniteDouble) (h : 0 ≤ x.value) :
    IsScaled ⟨.finite x, .zero false⟩ x.value 0 := by
  refine ⟨x, .zero false, rfl, by simp, ?_⟩
  rw [value_zero, abs_zero]
  positivity

/-- A step multiplies the value by its factor and adds little to the error. -/
theorem IsScaled.step {p : DoublePair} {v : ℚ} {k : Nat} (hp : IsScaled p v k) (s : PowerStep)
    (b : ℚ) (hs : IsFactor s.value b) (hexcess : s.excess = .zero false) (hb : b ≤ 2 ^ 40)
    (hk : k ≤ 2 ^ 30) (hv : 1 / 2 ^ 20 ≤ v) (hv' : v ≤ 2 ^ 66) :
    IsScaled (s.apply p) (v * b) (k + 1) := by
  obtain ⟨h, t, rfl, hhead, htail⟩ := hp.parts
  have hone := hs.one_le
  have hvpos : 0 < v := lt_of_lt_of_le (by positivity) hv
  -- So few steps were made that the first part is still close to the value.
  have hclose : k * (v / 2 ^ 38) ≤ v / 2 ^ 8 := stepErrors_le 30 (by decide) hk hvpos.le
  obtain ⟨hlower, hupper⟩ := abs_le.mp hhead
  have hpos : 0 < h.value := by linarith
  have hlarge : IsBound (2 * h.value) := ⟨by linarith, by linarith⟩
  have hproduct : h.value ≤ h.value * b := le_mul_of_one_le_right hpos.le hone
  have hproduct' : h.value * b ≤ h.value * 2 ^ 40 := mul_le_mul_of_nonneg_left hb hpos.le
  have hM : IsBound (2 * h.value * b) := ⟨by linarith, by linarith⟩
  obtain ⟨⟨h', hh', hherror⟩, ⟨t', ht', hterror⟩⟩ := mul_near h t s.value b hs hpos htail hlarge hM
  obtain ⟨htlower, htupper⟩ := abs_le.mp htail
  obtain ⟨hherrorLower, hherrorUpper⟩ := abs_le.mp hherror
  have hbnonneg : 0 ≤ b := by linarith
  have htb : -(h.value * b / 2 ^ 39) ≤ t.value * b := by
    have := mul_le_mul_of_nonneg_right htlower hbnonneg
    linarith
  have htb' : t.value * b ≤ h.value * b / 2 ^ 39 := by
    have := mul_le_mul_of_nonneg_right htupper hbnonneg
    linarith
  have hhb : -(k * (v * b / 2 ^ 38)) ≤ h.value * b - v * b := by
    have := mul_le_mul_of_nonneg_right hlower hbnonneg
    linarith
  have hhb' : h.value * b - v * b ≤ k * (v * b / 2 ^ 38) := by
    have := mul_le_mul_of_nonneg_right hupper hbnonneg
    linarith
  have hsmall : k * (v * b / 2 ^ 38) ≤ v * b / 2 ^ 8 := by
    have := mul_le_mul_of_nonneg_right hclose hbnonneg
    linarith
  have hvb : 0 < v * b := mul_pos hvpos (by linarith)
  -- The error so far grows with the factor, and the step adds one more share to it.
  refine ⟨h', t', ?_, ?_, ?_⟩
  · rw [PowerStep.apply, hexcess, ← hh', ← ht']
  · push_cast
    exact abs_le.mpr ⟨by linarith, by linarith⟩
  · rw [sub_zero] at hterror
    linarith

end DoublePair

namespace Double

attribute [local irreducible] unitsPerOne limitUnits

theorem less_iff (x y : FiniteDouble) :
    (finite x).less (finite y) = true ↔ x.value < y.value := by
  have hUpos : (0 : ℚ) < unitsPerOne := lt_of_lt_of_le (by positivity) unitsPerOne_large
  rw [FiniteDouble.value, FiniteDouble.value, div_lt_div_iff_of_pos_right hUpos, Int.cast_lt]
  simp only [less, compare, beq_iff_eq, Option.some.injEq, compare_lt_iff_lt]

theorem ofInt_value (n : Nat) (h : n ≤ 2 ^ 53) :
    ∃ x : FiniteDouble, ofInt n = .finite x ∧ x.value = n := by
  have hUpos : (0 : ℚ) < unitsPerOne := lt_of_lt_of_le (by positivity) unitsPerOne_large
  obtain ⟨x, hx, hnegative, hunits⟩ := ofInt_finite n (h.trans (by decide))
  have hexact := roundedUnits_exact n 1074 h
  rw [← unitsPerOne_eq] at hexact
  refine ⟨x, hx, ?_⟩
  rw [value_eq_signedValue, hnegative, hunits, hexact]
  push_cast
  exact mul_div_cancel_right₀ _ hUpos.ne'

theorem abs_integerPart_sub_le (x : FiniteDouble) :
    |((finite x).integerPart : ℚ) - x.value| ≤ 1 := by
  have hU : (0 : Int) < unitsPerOne := by exact_mod_cast unitsPerOne_pos
  have hUpos : (0 : ℚ) < unitsPerOne := by exact_mod_cast unitsPerOne_pos
  have hsplit := Int.mul_tdiv_add_tmod x.signedUnits unitsPerOne
  have hlt := Int.tmod_lt_of_pos x.signedUnits hU
  have hgt := Int.lt_tmod_of_pos x.signedUnits hU
  obtain ⟨r, hr⟩ : ∃ r, x.signedUnits.tmod unitsPerOne = r := ⟨_, rfl⟩
  rw [hr] at hsplit hlt hgt
  have hvalue : x.value = (finite x).integerPart + r / unitsPerOne := by
    rw [FiniteDouble.value, integerPart, ← hsplit]
    push_cast
    rw [add_div, mul_div_cancel_left₀ _ hUpos.ne', hsplit]
  have hrlt : (r : ℚ) < unitsPerOne := by exact_mod_cast hlt
  have hrgt : -(unitsPerOne : ℚ) < r := by exact_mod_cast hgt
  rw [hvalue, abs_sub_comm, add_sub_cancel_left, abs_div, abs_of_pos hUpos, div_le_one hUpos]
  exact abs_le.mpr ⟨hrgt.le, hrlt.le⟩

end Double

namespace DoublePair

open Double

attribute [local irreducible] unitsPerOne limitUnits

/-- The integer parts of a scaled pair add up to the value, up to a small part of it and two. -/
theorem IsScaled.wholeParts_near {p : DoublePair} {v : ℚ} {k : Nat} (hp : IsScaled p v k)
    (hk : k ≤ 2 ^ 6) (hv : 1 ≤ v) :
    |((p.head.integerPart + p.tail.integerPart).toNat : ℚ) - v| ≤ v / 2 ^ 30 + 2 := by
  obtain ⟨h, t, rfl, hhead, htail⟩ := hp.parts
  have hclose : k * (v / 2 ^ 38) ≤ v / 2 ^ 32 := stepErrors_le 6 (by decide) hk (by linarith)
  obtain ⟨hlower, hupper⟩ := abs_le.mp (hhead.trans hclose)
  obtain ⟨htlower, htupper⟩ := abs_le.mp htail
  obtain ⟨hh, hh'⟩ := abs_le.mp (abs_integerPart_sub_le h)
  obtain ⟨ht, ht'⟩ := abs_le.mp (abs_integerPart_sub_le t)
  obtain ⟨whole, hwhole⟩ : ∃ whole,
      (Double.finite h).integerPart + (Double.finite t).integerPart = whole := ⟨_, rfl⟩
  have hcast : ((Double.finite h).integerPart : ℚ) + (Double.finite t).integerPart = whole := by
    exact_mod_cast hwhole
  have hnear : |(whole : ℚ) - v| ≤ v / 2 ^ 30 + 2 := abs_le.mpr ⟨by linarith, by linarith⟩
  -- A sum below zero is cut off, which brings it nearer to the value.
  rw [hwhole]
  rcases le_total 0 whole with hpos | hneg
  · have hnat : ((whole.toNat : Nat) : ℚ) = whole := by exact_mod_cast Int.toNat_of_nonneg hpos
    rwa [hnat]
  · have hneg' : (whole : ℚ) ≤ 0 := by exact_mod_cast hneg
    obtain ⟨hbelow, -⟩ := abs_le.mp hnear
    rw [Int.toNat_of_nonpos hneg, Nat.cast_zero]
    exact abs_le.mpr ⟨by linarith, by linarith⟩

end DoublePair

namespace Sql

open Double DoublePair

attribute [local irreducible] unitsPerOne limitUnits

theorem nineteenDigits_near (n : Nat) (hn : n ∈ [0, 1, 11, 101]) (M : ℚ) (hM : IsBound M)
    (hle : 9223372036854774784 / 10 ^ n ≤ M) :
    (nineteenDigits (-n)).Near (9223372036854774784 / 10 ^ n) (M / 2 ^ 53) := by
  have heq : ∀ m ∈ [0, 1, 11, 101], nineteenDigits (-(m : Nat)) =
      roundQuotient false 9223372036854774784 (10 ^ m) := by
    decide +kernel
  have hnear := roundQuotient_near false 9223372036854774784 (10 ^ n) (by positivity) M hM
    (by push_cast; exact hle)
  rw [← heq n hn] at hnear
  push_cast at hnear
  exact hnear

section Loop

variable {s : PowerStep} {limit : Double} {p : DoublePair} {e : Int}

theorem enlargeBy_of_not_less {fuel : Nat} (h : p.head.less limit = false) :
    enlargeBy s limit fuel p e = (p, e) := by
  cases fuel with
  | zero => rfl
  | succ fuel => rw [enlargeBy, h, if_neg Bool.false_ne_true]

theorem enlargeBy_of_less {fuel : Nat} (h : p.head.less limit = true) :
    enlargeBy s limit (fuel + 1) p e = enlargeBy s limit fuel (s.apply p) (e - s.exponent) := by
  rw [enlargeBy, if_pos h]

end Loop

/-- The loop takes some of the steps that it may, and each scales the pair. -/
theorem enlargeBy_isScaled (s : PowerStep) (b : ℚ) (hs : IsFactor s.value b)
    (hexcess : s.excess = .zero false) (hb : b ≤ 2 ^ 40) (l : FiniteDouble)
    (hl : l.value ≤ 2 ^ 64) (fuel : Nat) (p : DoublePair) (e : Int) (v : ℚ) (k : Nat)
    (hp : IsScaled p v k) (hv : 1 / 2 ^ 20 ≤ v) (hk : k + fuel ≤ 2 ^ 30) :
    ∃ j ≤ fuel, (enlargeBy s (.finite l) fuel p e).2 = e - j * s.exponent ∧
      IsScaled (enlargeBy s (.finite l) fuel p e).1 (v * b ^ j) (k + j) := by
  -- The induction is on the fuel; the invariant is that the pair stands for the value after `k`
  -- steps.
  induction fuel generalizing p e v k with
  | zero => exact ⟨0, le_rfl, by simp [enlargeBy], by simpa [enlargeBy] using hp⟩
  | succ fuel ih =>
    rw [enlargeBy]
    split
    · next hless =>
      obtain ⟨h, t, rfl, hhead, htail⟩ := hp.parts
      have hlt := (less_iff h l).mp hless
      have hvpos : 0 < v := lt_of_lt_of_le (by positivity) hv
      have hclose : k * (v / 2 ^ 38) ≤ v / 2 ^ 8 :=
        stepErrors_le 30 (by decide) (by omega) hvpos.le
      obtain ⟨hlower, -⟩ := abs_le.mp hhead
      have hstep := hp.step s b hs hexcess hb (by omega) hv (by linarith)
      have hgrow : v ≤ v * b := le_mul_of_one_le_right hvpos.le hs.one_le
      obtain ⟨j, hj, he, hscaled⟩ := ih _ (e - s.exponent) (v * b) (k + 1) hstep
        (hv.trans hgrow) (by omega)
      refine ⟨j + 1, Nat.succ_le_succ hj, ?_, ?_⟩
      · rw [he]
        push_cast
        ring
      · have hpow : v * b ^ (j + 1) = v * b * b ^ j := by ring
        rw [hpow, show k + (j + 1) = k + 1 + j from by omega]
        exact hscaled
    · exact ⟨0, Nat.zero_le _, by simp, by simpa using hp⟩

theorem isFactor_ofInt (n : Nat) (hn : n ∈ [10, 10000000000]) : IsFactor (.ofInt n) n := by
  have hupper : ∀ m ∈ [10, 10000000000],
      (Double.ofInt (m : Nat)).upperHalf = .ofInt (m : Nat) ∧
        (Double.ofInt (m : Nat)).sub (.ofInt (m : Nat)) = .zero false := by
    decide +kernel
  have hle : n ≤ 2 ^ 53 ∧ 1 ≤ n := by
    simp only [List.mem_cons, List.not_mem_nil, or_false] at hn
    omega
  obtain ⟨f, hf, hvalue⟩ := ofInt_value n hle.1
  exact ⟨⟨f, hf, hvalue⟩, (hupper n hn).1, (hupper n hn).2, by exact_mod_cast hle.2⟩

/-- A number that is not long already is enlarged by the steps up. -/
theorem longDigits_eq (x : Double) (h : (nineteenDigits 0).less x = false) (s₁ s₂ s₃ : PowerStep)
    (hup : PowerStep.up = [s₁, s₂, s₃]) :
    longDigits x =
      let p := enlargeBy s₁ (nineteenDigits (-101)) 30 ⟨x, .zero false⟩ 0
      let q := enlargeBy s₂ (nineteenDigits (-11)) 30 p.1 p.2
      let r := enlargeBy s₃ (nineteenDigits (-1)) 30 q.1 q.2
      ⟨(r.1.head.integerPart + r.1.tail.integerPart).toNat, r.2⟩ := by
  unfold longDigits
  -- The limits are kept as they are: they are not to be worked out here.
  generalize nineteenDigits 0 = l₀ at h ⊢
  generalize nineteenDigits (-101) = l₁
  generalize nineteenDigits (-11) = l₂
  generalize nineteenDigits (-1) = l₃
  rw [hup]
  simp only [h, Bool.false_eq_true, ↓reduceIte, List.zip_cons_cons, List.zip_nil_right,
    List.foldl_cons, List.foldl_nil]

/-- The steps up by ten and by one power of ten have whole factors. -/
theorem up_eq : ∃ s₁ s₂ s₃ : PowerStep, PowerStep.up = [s₁, s₂, s₃] ∧
    (s₂.value = .ofInt (10000000000 : Nat) ∧ s₂.excess = .zero false ∧ s₂.exponent = 10) ∧
    s₃.value = .ofInt (10 : Nat) ∧ s₃.excess = .zero false ∧ s₃.exponent = 1 := by
  have hten : Double.ofScientific false 1 10 = .ofInt (10000000000 : Nat) := by decide +kernel
  have hone : Double.ofScientific false 1 1 = .ofInt (10 : Nat) := by decide +kernel
  exact ⟨_, _, _, rfl, ⟨hten, rfl, rfl⟩, hone, rfl, rfl⟩

/-- Numbers of middle size are above the first limit of the loops and below the others, which are
not too large. -/
theorem limits_bounds : ∃ l₀ l₁ l₂ l₃ : FiniteDouble,
    (nineteenDigits 0 = .finite l₀ ∧ 64 < l₀.value) ∧
    (nineteenDigits (-101) = .finite l₁ ∧ l₁.value < 1 / 2 ^ 12) ∧
    (nineteenDigits (-11) = .finite l₂ ∧ 64 < l₂.value ∧ l₂.value ≤ 2 ^ 64) ∧
    nineteenDigits (-1) = .finite l₃ ∧ l₃.value ≤ 2 ^ 64 := by
  obtain ⟨l₀, hl₀, hl₀'⟩ := nineteenDigits_near 0 (by simp) (2 ^ 64)
    ⟨by norm_num, by norm_num⟩ (by norm_num)
  obtain ⟨l₁, hl₁, hl₁'⟩ := nineteenDigits_near 101 (by simp) (1 / 2 ^ 32)
    ⟨by norm_num, by norm_num⟩ (by norm_num)
  obtain ⟨l₂, hl₂, hl₂'⟩ := nineteenDigits_near 11 (by simp) (2 ^ 32)
    ⟨by norm_num, by norm_num⟩ (by norm_num)
  obtain ⟨l₃, hl₃, hl₃'⟩ := nineteenDigits_near 1 (by simp) (2 ^ 64)
    ⟨by norm_num, by norm_num⟩ (by norm_num)
  norm_num only [abs_le] at hl₀' hl₁' hl₂' hl₃'
  refine ⟨l₀, l₁, l₂, l₃, ⟨hl₀, ?_⟩, ⟨hl₁, ?_⟩, ⟨hl₂, ?_, ?_⟩, hl₃, ?_⟩
  · linarith [hl₀'.1]
  · linarith [hl₁'.2]
  · linarith [hl₂'.1]
  · linarith [hl₂'.2]
  · linarith [hl₃'.2]

/-- The loops bring a number of middle size to at least ten powers of ten in few steps. -/
theorem longDigits_scaled (x : FiniteDouble) (hlow : 1 / 2 ^ 12 ≤ x.value) (hhigh : x.value ≤ 64) :
    ∃ (p : DoublePair) (k steps : Nat), IsScaled p (x.value * 10 ^ k) steps ∧ steps ≤ 2 ^ 6 ∧
      10 ≤ k ∧ longDigits (.finite x) =
        ⟨(p.head.integerPart + p.tail.integerPart).toNat, -(k : Int)⟩ := by
  obtain ⟨l₀, l₁, l₂, l₃, ⟨hl₀, hl₀'⟩, ⟨hl₁, hl₁'⟩, ⟨hl₂, hl₂', hl₂''⟩, hl₃, hl₃'⟩ := limits_bounds
  obtain ⟨s₁, s₂, s₃, hup, ⟨hvalue₂, hexcess₂, hexponent₂⟩, hvalue₃, hexcess₃, hexponent₃⟩ :=
    up_eq
  have hlong : (nineteenDigits 0).less (.finite x) = false := by
    rw [hl₀, Bool.eq_false_iff, ne_eq, less_iff]
    linarith
  -- The longest step does not fit, and the next one is taken at least once.
  have hstay : (Double.finite x).less (nineteenDigits (-101)) = false := by
    rw [hl₁, Bool.eq_false_iff, ne_eq, less_iff]
    linarith
  have hmove : enlargeBy s₂ (.finite l₂) 30 ⟨.finite x, .zero false⟩ 0 =
      enlargeBy s₂ (.finite l₂) 29 (s₂.apply ⟨.finite x, .zero false⟩) (0 - 10) := by
    have hless : (Double.finite x).less (.finite l₂) = true := by
      rw [less_iff]
      linarith
    rw [enlargeBy_of_less hless, hexponent₂]
    rfl
  have hfirst := (isScaled_start x (by linarith)).step s₂ _
    (hvalue₂ ▸ isFactor_ofInt 10000000000 (by simp)) hexcess₂ (by norm_num) (by norm_num)
    (by linarith) (by linarith)
  obtain ⟨i, hi, hie, hsecond⟩ := enlargeBy_isScaled s₂ _
    (hvalue₂ ▸ isFactor_ofInt 10000000000 (by simp)) hexcess₂ (by norm_num) l₂ hl₂'' 29 _ (0 - 10) _
    _ hfirst (by push_cast; linarith) (by norm_num)
  have hgrow : x.value ≤ x.value * (10000000000 : Nat) * (10000000000 : Nat) ^ i := by
    have hpow : (1 : ℚ) ≤ ((10000000000 : Nat) : ℚ) ^ i := one_le_pow₀ (by norm_num)
    have hten : x.value ≤ x.value * (10000000000 : Nat) := by
      push_cast
      linarith
    exact hten.trans (le_mul_of_one_le_right (by push_cast; linarith) hpow)
  obtain ⟨j, hj, hje, hthird⟩ := enlargeBy_isScaled s₃ _
    (hvalue₃ ▸ isFactor_ofInt 10 (by simp)) hexcess₃ (by norm_num) l₃ hl₃' 30 _
    (0 - 10 - i * (10 : Nat)) _ _ hsecond (le_trans (by linarith) hgrow) (by omega)
  rw [hexponent₂] at hie
  rw [hexponent₃] at hje
  have hvalue : x.value * (10000000000 : Nat) * (10000000000 : Nat) ^ i * (10 : Nat) ^ j =
      x.value * 10 ^ (10 + 10 * i + j) := by
    rw [pow_add, pow_add, pow_mul]
    push_cast
    ring
  rw [hvalue] at hthird
  refine ⟨_, 10 + 10 * i + j, _, hthird, by omega, by omega, ?_⟩
  rw [longDigits_eq (.finite x) hlong s₁ s₂ s₃ hup, hl₂, hl₃, enlargeBy_of_not_less hstay]
  dsimp only
  rw [hmove, hie, hje, DecimalDigits.mk.injEq]
  refine ⟨rfl, ?_⟩
  push_cast
  ring

/-- The digits of a number of middle size write it up to a small part and two units. -/
theorem longDigits_near (x : FiniteDouble) (hlow : 1 / 2 ^ 12 ≤ x.value) (hhigh : x.value ≤ 64) :
    ∃ k : Nat, 10 ≤ k ∧ (longDigits (.finite x)).exponent = -(k : Int) ∧
      |((longDigits (.finite x)).coefficient : ℚ) - x.value * 10 ^ k| ≤
        x.value * 10 ^ k / 2 ^ 30 + 2 := by
  obtain ⟨p, k, steps, hscaled, hsteps, hk, hdigits⟩ := longDigits_scaled x hlow hhigh
  have hlarge : 1 ≤ x.value * 10 ^ k := by
    have hpow : (10 : ℚ) ^ 10 ≤ 10 ^ k := pow_le_pow_right₀ (by norm_num) hk
    have hproduct := mul_le_mul hlow hpow (by positivity) (by linarith)
    exact le_trans (by norm_num) hproduct
  rw [hdigits]
  exact ⟨k, hk, rfl, hscaled.wholeParts_near hsteps hlarge⟩

theorem inPlaces_three (x : FiniteDouble) (m : Nat) (hpos : 1 ≤ m) (hm : m ≤ 60000)
    (hx : |x.value - m / 1000| ≤ 1 / 2 ^ 20) : inPlaces 3 (.finite x) = m := by
  have hm' : (m : ℚ) ≤ 60000 := by exact_mod_cast hm
  have hpos' : (1 : ℚ) ≤ m := by exact_mod_cast hpos
  obtain ⟨hlower, hupper⟩ := abs_le.mp hx
  have hzero : (Double.finite x).sameValue (.zero false) = false := by
    rw [Bool.eq_false_iff]
    intro hsame
    simp only [Double.sameValue, Double.compare, Double.zero, beq_iff_eq, Option.some.injEq,
      compare_eq_iff_eq] at hsame
    have hvalue : x.value = (FiniteDouble.zero false).value := by
      rw [FiniteDouble.value, hsame, FiniteDouble.value]
    rw [value_zero] at hvalue
    linarith
  obtain ⟨k, hk, hexponent, hdigits⟩ := longDigits_near x (by linarith) (by linarith)
  obtain ⟨j, rfl⟩ : ∃ j, k = j + 3 := ⟨k - 3, by omega⟩
  have hneg : ¬(0 ≤ (longDigits (.finite x)).exponent + ((3 : Nat) : Int)) := by
    rw [hexponent]
    push_cast
    omega
  have hunit : (-((longDigits (.finite x)).exponent + ((3 : Nat) : Int))).toNat = j := by
    rw [hexponent]
    push_cast
    omega
  obtain ⟨C, hC⟩ : ∃ C, (longDigits (.finite x)).coefficient = C := ⟨_, rfl⟩
  rw [inPlaces, hzero]
  simp only [Bool.false_eq_true, ↓reduceIte, if_neg hneg, hunit, hC]
  rw [hC] at hdigits
  -- The number in units of the last place kept is the number of thousandths and less than a half.
  have hten : (10 : ℚ) ^ 7 ≤ 10 ^ j := pow_le_pow_right₀ (by norm_num) (by omega)
  have hsplit : x.value * 10 ^ (j + 3) = x.value * 1000 * 10 ^ j := by
    rw [pow_add]
    ring
  rw [hsplit] at hdigits
  obtain ⟨u, hu⟩ : ∃ u : ℚ, (10 : ℚ) ^ j = u := ⟨_, rfl⟩
  rw [hu] at hdigits hten
  have hupos : 0 < u := by linarith
  have hnear : (x.value * 1000 - m) * u ≤ 1 / 2 ^ 10 * u :=
    mul_le_mul_of_nonneg_right (by linarith) hupos.le
  have hnear' : -(1 / 2 ^ 10) * u ≤ (x.value * 1000 - m) * u :=
    mul_le_mul_of_nonneg_right (by linarith) hupos.le
  have hsize : x.value * 1000 * u ≤ 2 ^ 16 * u :=
    mul_le_mul_of_nonneg_right (by linarith) hupos.le
  obtain ⟨hdlower, hdupper⟩ := abs_le.mp hdigits
  have hlo : m * (2 * u) ≤ 2 * C + u := by linarith
  have hhi : 2 * C + u < (m + 1) * (2 * u) := by linarith
  rw [← hu] at hlo hhi
  have hlo' : m * (2 * tenTo j) ≤ 2 * C + tenTo j := by exact_mod_cast hlo
  have hhi' : 2 * C + tenTo j < (m + 1) * (2 * tenTo j) := by exact_mod_cast hhi
  exact Nat.div_eq_of_lt_le hlo' hhi'

end Sql

end CriteriaSearch
