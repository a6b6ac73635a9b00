import CriteriaSearch.Number.Decimal
import Mathlib.Tactic.Linarith
import Mathlib.Tactic.Ring

namespace CriteriaSearch

namespace Double

/-- The exponent of the number that `scaled` / `den` units of 2⁻¹⁰⁷⁴ are rounded to. -/
def roundedExponent (scaled den : Nat) : Nat := (scaled / den).log2 - 52

/-- The quotient by a unit, rounded; of two equally near integers, the even one. -/
def roundedQuotient (scaled unit : Nat) : Nat :=
  if unit < 2 * (scaled % unit) ∨ (2 * (scaled % unit) = unit ∧ scaled / unit % 2 = 1) then
    scaled / unit + 1
  else scaled / unit

/-- The significand of the number that `scaled` / `den` units are rounded to. -/
def roundedSignificand (scaled den : Nat) : Nat :=
  roundedQuotient scaled (den * 2 ^ roundedExponent scaled den)

/-- The units of the number that `scaled` / `den` units are rounded to. -/
def roundedUnits (scaled den : Nat) : Nat :=
  roundedSignificand scaled den * 2 ^ roundedExponent scaled den

theorem roundQuotient_eq_ofParts (negative : Bool) (num den : Nat) :
    roundQuotient negative num den =
      ofParts negative (roundedSignificand (num * unitsPerOne) den)
        (roundedExponent (num * unitsPerOne) den) := rfl

theorem roundedQuotient_eq_or (scaled unit : Nat) :
    roundedQuotient scaled unit = scaled / unit ∨
      roundedQuotient scaled unit = scaled / unit + 1 := by
  unfold roundedQuotient
  split
  · exact .inr rfl
  · exact .inl rfl

theorem roundedQuotient_le (scaled unit : Nat) :
    2 * (roundedQuotient scaled unit * unit) ≤ 2 * scaled + unit := by
  have hsplit := Nat.div_add_mod scaled unit
  rw [mul_comm] at hsplit
  unfold roundedQuotient
  split
  · next h =>
    have hexpand : (scaled / unit + 1) * unit = scaled / unit * unit + unit := by ring
    omega
  · have := Nat.zero_le (scaled % unit)
    omega

theorem le_roundedQuotient (scaled unit : Nat) (hunit : 0 < unit) :
    2 * scaled ≤ 2 * (roundedQuotient scaled unit * unit) + unit := by
  have hsplit := Nat.div_add_mod scaled unit
  have hlt := Nat.mod_lt scaled hunit
  rw [mul_comm] at hsplit
  unfold roundedQuotient
  split
  · have hexpand : (scaled / unit + 1) * unit = scaled / unit * unit + unit := by ring
    omega
  · next h =>
    omega

theorem roundedQuotient_of_dvd (scaled unit : Nat) (h : unit ∣ scaled) :
    roundedQuotient scaled unit * unit = scaled := by
  have hmod : scaled % unit = 0 := Nat.mod_eq_zero_of_dvd h
  have hdiv := Nat.div_mul_cancel h
  unfold roundedQuotient
  rw [hmod]
  split
  · next hup =>
    have hzero : unit = 0 := by omega
    simp only [hzero, Nat.div_zero] at hdiv ⊢
    simpa using hdiv
  · exact hdiv

/-- A larger quotient is not rounded to a smaller integer, also if the units differ. -/
theorem roundedQuotient_mono (s t u v : Nat) (hu : 0 < u) (hv : 0 < v) (h : s * v ≤ t * u) :
    roundedQuotient s u ≤ roundedQuotient t v := by
  have hs := Nat.div_add_mod s u
  have ht := Nat.div_add_mod t v
  have hmods := Nat.mod_lt s hu
  have hmodt := Nat.mod_lt t hv
  have hq : s / u ≤ t / v := by
    rw [Nat.le_div_iff_mul_le hv]
    apply Nat.le_of_mul_le_mul_right _ hu
    calc s / u * v * u = s / u * u * v := by ring
      _ ≤ s * v := Nat.mul_le_mul_right v (Nat.div_mul_le_self s u)
      _ ≤ t * u := h
  by_contra hlt
  -- both quotients have the same integer part, and only the first one is rounded up
  have hup : s / u = t / v ∧ roundedQuotient s u = s / u + 1 ∧ roundedQuotient t v = t / v := by
    rcases roundedQuotient_eq_or s u with hsu | hsu <;>
      rcases roundedQuotient_eq_or t v with htv | htv <;> omega
  obtain ⟨heq, hsu, htv⟩ := hup
  unfold roundedQuotient at hsu htv
  have hsup : u < 2 * (s % u) ∨ (2 * (s % u) = u ∧ s / u % 2 = 1) := by
    split at hsu
    · assumption
    · omega
  have htdown : ¬(v < 2 * (t % v) ∨ (2 * (t % v) = v ∧ t / v % 2 = 1)) := by
    split at htv
    · omega
    · assumption
  have hrest : s % u * v ≤ t % v * u := by
    have hsv : s * v = u * (s / u) * v + s % u * v := by rw [← add_mul, hs]
    have htu : t * u = v * (t / v) * u + t % v * u := by rw [← add_mul, ht]
    have hwhole : u * (s / u) * v = v * (t / v) * u := by rw [heq]; ring
    omega
  have hhalf : u * v ≤ 2 * (s % u) * v := Nat.mul_le_mul_right v (by omega)
  have hhalf' : 2 * (t % v) * u ≤ v * u := Nat.mul_le_mul_right u (by omega)
  have hcomm : v * u = u * v := mul_comm v u
  have hdouble : 2 * (s % u) * v = 2 * (s % u * v) := by ring
  have hdouble' : 2 * (t % v) * u = 2 * (t % v * u) := by ring
  have hsu' : 2 * (s % u) = u := by
    apply Nat.eq_of_mul_eq_mul_right hv
    omega
  have htv' : 2 * (t % v) = v := by
    apply Nat.eq_of_mul_eq_mul_right hu
    omega
  omega

theorem scaled_lt (scaled den : Nat) (hden : 0 < den) :
    scaled < 2 ^ 53 * (den * 2 ^ roundedExponent scaled den) := by
  have hlog : scaled / den < 2 ^ ((scaled / den).log2 + 1) := Nat.lt_log2_self
  have hpow : 2 ^ ((scaled / den).log2 + 1) ≤ 2 ^ (53 + roundedExponent scaled den) := by
    apply Nat.pow_le_pow_right (by decide)
    unfold roundedExponent
    omega
  have hlt := (Nat.div_lt_iff_lt_mul hden).mp (hlog.trans_le hpow)
  calc scaled < 2 ^ (53 + roundedExponent scaled den) * den := hlt
    _ = 2 ^ 53 * (den * 2 ^ roundedExponent scaled den) := by rw [pow_add]; ring

/-- The quotient is at least 2⁵² units of its exponent, unless the exponent is the least. -/
theorem le_scaled (scaled den : Nat) (hden : 0 < den) (h : roundedExponent scaled den ≠ 0) :
    2 ^ 52 * (den * 2 ^ roundedExponent scaled den) ≤ scaled := by
  have hlog : 52 < (scaled / den).log2 := by
    unfold roundedExponent at h
    omega
  have hne : scaled / den ≠ 0 := by
    intro hzero
    rw [hzero] at hlog
    simp at hlog
  have hle := Nat.log2_self_le hne
  have hsplit : (scaled / den).log2 = 52 + roundedExponent scaled den := by
    unfold roundedExponent
    omega
  rw [hsplit, Nat.le_div_iff_mul_le hden] at hle
  calc 2 ^ 52 * (den * 2 ^ roundedExponent scaled den)
      = 2 ^ (52 + roundedExponent scaled den) * den := by rw [pow_add]; ring
    _ ≤ scaled := hle

theorem roundedSignificand_le (scaled den : Nat) (hden : 0 < den) :
    roundedSignificand scaled den ≤ 2 ^ 53 := by
  have hunit : 0 < den * 2 ^ roundedExponent scaled den := by positivity
  have hlt := (Nat.div_lt_iff_lt_mul hunit).mpr (scaled_lt scaled den hden)
  unfold roundedSignificand roundedQuotient
  split <;> omega

theorem le_roundedSignificand (scaled den : Nat) (hden : 0 < den)
    (h : roundedExponent scaled den ≠ 0) : 2 ^ 52 ≤ roundedSignificand scaled den := by
  have hunit : 0 < den * 2 ^ roundedExponent scaled den := by positivity
  have hle := (Nat.le_div_iff_mul_le hunit).mpr (le_scaled scaled den hden h)
  unfold roundedSignificand roundedQuotient
  split <;> omega

theorem roundedExponent_mono (s t d e : Nat) (hd : 0 < d) (he : 0 < e) (h : s * e ≤ t * d) :
    roundedExponent s d ≤ roundedExponent t e := by
  have hdiv : s / d ≤ t / e := by
    rw [Nat.le_div_iff_mul_le he]
    apply Nat.le_of_mul_le_mul_right _ hd
    calc s / d * e * d = s / d * d * e := by ring
      _ ≤ s * e := Nat.mul_le_mul_right e (Nat.div_mul_le_self s d)
      _ ≤ t * d := h
  have hlog : (s / d).log2 ≤ (t / e).log2 := by
    by_cases hzero : s / d = 0
    · simp [hzero]
    · have hpos : t / e ≠ 0 := fun h => hzero (Nat.le_zero.mp (h ▸ hdiv))
      rw [Nat.le_log2 hpos]
      exact (Nat.log2_self_le hzero).trans hdiv
  unfold roundedExponent
  omega

theorem roundedUnits_mono (s t d e : Nat) (hd : 0 < d) (he : 0 < e) (h : s * e ≤ t * d) :
    roundedUnits s d ≤ roundedUnits t e := by
  have hexp := roundedExponent_mono s t d e hd he h
  unfold roundedUnits
  -- With one exponent the significands decide; else the larger exponent does, as its significand is
  -- at least half of what the other may be.
  rcases Nat.eq_or_lt_of_le hexp with heq | hlt
  · have hmono : roundedSignificand s d ≤ roundedSignificand t e := by
      unfold roundedSignificand
      rw [heq]
      apply roundedQuotient_mono _ _ _ _ (by positivity) (by positivity)
      calc s * (e * 2 ^ roundedExponent t e) = s * e * 2 ^ roundedExponent t e := by ring
        _ ≤ t * d * 2 ^ roundedExponent t e := Nat.mul_le_mul_right _ h
        _ = t * (d * 2 ^ roundedExponent t e) := by ring
    rw [heq]
    exact Nat.mul_le_mul_right _ hmono
  · have hsmall := roundedSignificand_le s d hd
    have hlarge := le_roundedSignificand t e he (by omega)
    have hpow : 2 ^ (roundedExponent s d + 1) ≤ 2 ^ roundedExponent t e :=
      Nat.pow_le_pow_right (by decide) hlt
    calc roundedSignificand s d * 2 ^ roundedExponent s d
        ≤ 2 ^ 53 * 2 ^ roundedExponent s d := Nat.mul_le_mul_right _ hsmall
      _ = 2 ^ 52 * 2 ^ (roundedExponent s d + 1) := by rw [pow_succ]; ring
      _ ≤ 2 ^ 52 * 2 ^ roundedExponent t e := Nat.mul_le_mul_left _ hpow
      _ ≤ roundedSignificand t e * 2 ^ roundedExponent t e := Nat.mul_le_mul_right _ hlarge

/-- A quotient that is a whole number of units of its exponent is not changed. -/
theorem roundedUnits_of_dvd (scaled : Nat) (h : 2 ^ roundedExponent scaled 1 ∣ scaled) :
    roundedUnits scaled 1 = scaled := by
  unfold roundedUnits roundedSignificand
  rw [one_mul]
  exact roundedQuotient_of_dvd scaled _ h

def limitUnits : Nat := 2 ^ 2098

theorem mul_lt_limitUnits (m e : Nat) (hm : m < 2 ^ 53) (he : e ≤ 2045) :
    m * 2 ^ e < limitUnits := by
  have hpow : 2 ^ e ≤ 2 ^ 2045 := pow_le_pow_right₀ one_le_two he
  calc m * 2 ^ e < 2 ^ 53 * 2 ^ e := Nat.mul_lt_mul_of_pos_right hm (by positivity)
    _ ≤ 2 ^ 53 * 2 ^ 2045 := Nat.mul_le_mul_left _ hpow
    _ = limitUnits := by rw [limitUnits, show 2098 = 53 + 2045 from rfl, pow_add]

/-- A rounded significand and its exponent give the finite number of their product, unless it is too
large. -/
theorem ofParts_eq (negative : Bool) (m e : Nat) (hm : m ≤ 2 ^ 53) (he : e = 0 ∨ 2 ^ 52 ≤ m) :
    (∃ x : FiniteDouble, ofParts negative m e = .finite x ∧ x.negative = negative ∧
      x.units = m * 2 ^ e ∧ m * 2 ^ e < limitUnits) ∨
    (ofParts negative m e = .infinite negative ∧ limitUnits ≤ m * 2 ^ e) := by
  unfold ofParts
  split
  · next h => exact .inl ⟨_, rfl, rfl, rfl, mul_lt_limitUnits m e h.1 h.2.1⟩
  · next h =>
    split
    · next h' =>
      -- The significand was rounded up to the next power of two.
      have hunits : 4503599627370496 * 2 ^ (e + 1) = m * 2 ^ e := by
        rw [h'.1, pow_succ]
        ring
      refine .inl ⟨_, rfl, rfl, hunits, ?_⟩
      rw [← hunits]
      exact mul_lt_limitUnits _ _ (by decide) h'.2
    · next h' =>
      refine .inr ⟨rfl, ?_⟩
      have hcase : (m = 2 ^ 53 ∧ 2045 ≤ e) ∨ (2 ^ 52 ≤ m ∧ 2046 ≤ e) := by omega
      rcases hcase with ⟨hm', he'⟩ | ⟨hm', he'⟩
      · calc limitUnits = 2 ^ 53 * 2 ^ 2045 := by
              rw [limitUnits, show 2098 = 53 + 2045 from rfl, pow_add]
          _ ≤ m * 2 ^ e := Nat.mul_le_mul hm'.ge (Nat.pow_le_pow_right (by decide) he')
      · calc limitUnits = 2 ^ 52 * 2 ^ 2046 := by
              rw [limitUnits, show 2098 = 52 + 2046 from rfl, pow_add]
          _ ≤ m * 2 ^ e := Nat.mul_le_mul hm' (Nat.pow_le_pow_right (by decide) he')

/-- Rounding gives the finite number of the rounded units, unless they are too many. -/
theorem roundQuotient_eq (negative : Bool) (num den : Nat) (hden : 0 < den) :
    (∃ x : FiniteDouble, roundQuotient negative num den = .finite x ∧ x.negative = negative ∧
      x.units = roundedUnits (num * unitsPerOne) den ∧
      roundedUnits (num * unitsPerOne) den < limitUnits) ∨
    (roundQuotient negative num den = .infinite negative ∧
      limitUnits ≤ roundedUnits (num * unitsPerOne) den) := by
  rw [roundQuotient_eq_ofParts]
  apply ofParts_eq
  · exact roundedSignificand_le _ _ hden
  · by_cases h : roundedExponent (num * unitsPerOne) den = 0
    · exact .inl h
    · exact .inr (le_roundedSignificand _ _ hden h)

theorem roundQuotient_ne_nan (negative : Bool) (num den : Nat) (hden : 0 < den) :
    roundQuotient negative num den ≠ .nan := by
  rcases roundQuotient_eq negative num den hden with ⟨x, h, _⟩ | ⟨h, _⟩ <;> simp [h]

theorem ofInt_ne_nan (n : Int) : ofInt n ≠ .nan := roundQuotient_ne_nan _ _ _ Nat.one_pos

end Double

end CriteriaSearch
