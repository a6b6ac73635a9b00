import CriteriaSearch.Proofs.Number.Order
import CriteriaSearch.Value.Reader

namespace CriteriaSearch

namespace Double

attribute [local irreducible] limitUnits

theorem twoTo_eq (n : Nat) : twoTo n = 2 ^ n := rfl

theorem unitsPerOne_eq : unitsPerOne = 2 ^ 1074 := by
  unfold unitsPerOne
  exact twoTo_eq 1074

attribute [local irreducible] unitsPerOne

theorem unitsPerOne_pos : 0 < unitsPerOne := by
  rw [unitsPerOne_eq]
  positivity

theorem roundedUnits_exact (m e : Nat) (h : m ≤ 2 ^ 53) :
    roundedUnits (m * 2 ^ e) 1 = m * 2 ^ e := by
  have hlt (k f : Nat) (hk : k < 2 ^ 53) : roundedUnits (k * 2 ^ f) 1 = k * 2 ^ f := by
    apply roundedUnits_of_dvd
    unfold roundedExponent
    apply (Nat.pow_dvd_pow 2 _).trans (Nat.dvd_mul_left (2 ^ f) k)
    rw [Nat.div_one]
    rcases Nat.eq_zero_or_pos (k * 2 ^ f) with hzero | hpos
    · rw [hzero]
      exact Nat.zero_le f
    · have hlog : (k * 2 ^ f).log2 < 53 + f := by
        rw [Nat.log2_lt hpos.ne', pow_add]
        exact Nat.mul_lt_mul_of_pos_right hk (by positivity)
      omega
  rcases Nat.lt_or_eq_of_le h with hm | rfl
  · exact hlt m e hm
  · have h52 : 2 ^ 53 * 2 ^ e = 2 ^ 52 * 2 ^ (e + 1) := by ring
    rw [h52]
    exact hlt (2 ^ 52) (e + 1) (by decide)

theorem roundedUnits_one : roundedUnits unitsPerOne 1 = unitsPerOne := by
  have h := roundedUnits_exact 1 1074 (by decide)
  rwa [← unitsPerOne_eq, Nat.one_mul unitsPerOne] at h

theorem ofInt_finite (n : Nat) (h : n ≤ 2 ^ 97) :
    ∃ x : FiniteDouble, ofInt n = .finite x ∧ x.negative = false ∧
      x.units = roundedUnits (n * unitsPerOne) 1 := by
  have hle : roundedUnits (n * unitsPerOne) 1 ≤ 1 * 2 ^ (97 + 1074) := by
    rw [← roundedUnits_exact 1 (97 + 1074) (by decide)]
    apply roundedUnits_mono _ _ _ _ Nat.one_pos Nat.one_pos
    rw [unitsPerOne_eq, one_mul, pow_add]
    exact Nat.mul_le_mul_right 1 (Nat.mul_le_mul_right _ h)
  have hlimit := mul_lt_limitUnits 1 (97 + 1074) (by decide) (by decide)
  have hsign : decide ((n : Int) < 0) = false := by
    rw [decide_eq_false_iff_not]
    omega
  rw [ofInt, Int.natAbs_natCast, hsign]
  rcases roundQuotient_eq false n 1 Nat.one_pos with ⟨x, hx, hneg, hunits, _⟩ | ⟨_, hlarge⟩
  · exact ⟨x, hx, hneg, hunits⟩
  · omega

def isDivisor : Double → Bool
  | .finite y => !y.isZero
  | _ => false

theorem isDivisor_iff (x : Double) :
    x.isDivisor = true ↔ ∃ y : FiniteDouble, x = .finite y ∧ y.isZero = false := by
  cases x <;> simp [isDivisor]

theorem ofInt_isDivisor (n : Nat) (hpos : 0 < n) (h : n ≤ 2 ^ 97) : (ofInt n).isDivisor = true := by
  obtain ⟨x, hx, _, hunits⟩ := ofInt_finite n h
  have hle : unitsPerOne ≤ x.units := by
    calc unitsPerOne = roundedUnits unitsPerOne 1 := roundedUnits_one.symm
      _ ≤ roundedUnits (n * unitsPerOne) 1 := by
        apply roundedUnits_mono _ _ _ _ Nat.one_pos Nat.one_pos
        exact Nat.mul_le_mul_right 1 (Nat.le_mul_of_pos_left _ hpos)
      _ = x.units := hunits.symm
  refine (isDivisor_iff _).mpr ⟨x, hx, ?_⟩
  rw [FiniteDouble.isZero, beq_eq_false_iff_ne]
  intro hzero
  have hunit := unitsPerOne_pos
  rw [FiniteDouble.units, hzero, Nat.zero_mul] at hle
  omega

theorem units_pos (x : FiniteDouble) (h : x.isZero = false) : 0 < x.units := by
  have hne : x.significand ≠ 0 := by simpa [FiniteDouble.isZero] using h
  exact Nat.mul_pos (Nat.pos_of_ne_zero hne) (Nat.pow_pos (by decide))

theorem div_ne_nan (x y : Double) (hx : x ≠ .nan) (hy : y.isDivisor = true) : x.div y ≠ .nan := by
  obtain ⟨y, rfl, hzero⟩ := (isDivisor_iff y).mp hy
  cases x with
  | nan => exact absurd rfl hx
  | infinite a => exact nofun
  | finite x =>
    rw [div, hzero, if_neg Bool.false_ne_true]
    exact roundQuotient_ne_nan _ _ _ (units_pos y hzero)

theorem mul_ne_nan (x y : Double) (hx : x ≠ .nan) (hy : y.isDivisor = true) : x.mul y ≠ .nan := by
  obtain ⟨y, rfl, hzero⟩ := (isDivisor_iff y).mp hy
  cases x with
  | nan => exact absurd rfl hx
  | infinite a =>
    rw [mul, hzero, if_neg Bool.false_ne_true]
    exact nofun
  | finite x => exact roundQuotient_ne_nan _ _ _ (Nat.mul_pos unitsPerOne_pos unitsPerOne_pos)

theorem add_ne_nan (x : FiniteDouble) (y : Double) (hy : y ≠ .nan) :
    (finite x).add y ≠ .nan := by
  cases y with
  | nan => exact absurd rfl hy
  | infinite a => exact nofun
  | finite y =>
    rw [add]
    split
    · exact nofun
    · exact roundQuotient_ne_nan _ _ _ unitsPerOne_pos

theorem roundToWhole_ne_nan (x : Double) (hx : x ≠ .nan) : x.roundToWhole ≠ .nan := by
  cases x with
  | nan => exact absurd rfl hx
  | infinite a => exact nofun
  | finite x => exact roundQuotient_ne_nan _ _ _ Nat.one_pos

theorem neg_ne_nan (x : Double) (hx : x ≠ .nan) : x.neg ≠ .nan := by
  cases x with
  | nan => exact absurd rfl hx
  | _ => exact nofun

end Double

namespace Decimal

theorem powerOfTen_isDivisor (n : Nat) (h : n ≤ 28) :
    (powerOfTen 6 n (.ofInt 10) (.ofInt 1)).isDivisor = true := by
  have hall : ∀ m ≤ 28, (powerOfTen 6 m (.ofInt 10) (.ofInt 1)).isDivisor = true := by
    decide +kernel
  exact hall n h

theorem toDouble_ne_nan (d : Decimal) : d.toDouble ≠ .nan := by
  have hpower := powerOfTen_isDivisor d.scale d.scale_le
  have hten : tenTo d.scale ≤ 2 ^ 97 := by
    calc tenTo d.scale ≤ tenTo 28 := Nat.pow_le_pow_right (by decide) d.scale_le
      _ ≤ 2 ^ 97 := by decide
  have hlt := d.mantissa_lt
  have hsign (x : Double) (hx : x ≠ .nan) : (if d.negative then x.neg else x) ≠ .nan := by
    split
    · exact Double.neg_ne_nan x hx
    · exact hx
  unfold toDouble
  apply hsign
  split
  · exact Double.ofInt_ne_nan _
  · dsimp only
    split
    · exact Double.ofInt_ne_nan _
    · -- Each step divides by a finite number other than zero, or adds to a finite one.
      have hwhole : d.mantissa / tenTo d.scale ≤ 2 ^ 97 :=
        (Nat.div_le_self _ _).trans (by omega)
      obtain ⟨x, hx, _⟩ := Double.ofInt_finite _ hwhole
      have hfraction := Double.div_ne_nan _ _ (Double.ofInt_ne_nan ↑(d.mantissa % tenTo d.scale))
        (Double.ofInt_isDivisor (tenTo d.scale) (Nat.pow_pos (by decide)) hten)
      rw [hx]
      apply Double.div_ne_nan _ _ _ hpower
      apply Double.roundToWhole_ne_nan
      apply Double.mul_ne_nan _ _ _ hpower
      exact Double.add_ne_nan x _ hfraction

end Decimal

namespace NumberValue

def IsDefined (n : NumberValue) : Prop := n.toDouble ≠ .nan

/-- A number is read as an integer, as a finite binary number or as a decimal. -/
theorem ofChars?_cases {cs : List Char} {n : NumberValue} (h : ofChars? cs = some n) :
    (∃ k, ((int32? k).map int).or ((int64? k).map long) = some n) ∨
      (∃ x : FiniteDouble, n = .double (.finite x)) ∨
      ∃ d, decimal? .refused cs = some d ∧ n = .decimal d := by
  have hfinite (x : Double) (hx : finiteDouble? cs = some x) :
      ∃ y : FiniteDouble, double x = .double (.finite y) := by
    have hx := (Option.filter_eq_some_iff.mp hx).2
    cases x with
    | nan => cases hx
    | infinite a => cases hx
    | finite y => exact ⟨y, rfl⟩
  simp only [ofChars?, Option.or_eq_some_iff, Option.map_eq_some_iff,
    Option.filter_eq_some_iff] at h
  rcases h with hint | ⟨-, ⟨x, ⟨hx, -⟩, rfl⟩ | ⟨-, ⟨d, hd, rfl⟩ | ⟨-, x, hx, rfl⟩⟩⟩
  · obtain ⟨-, hint⟩ := Option.ite_none_left_eq_some.mp hint
    obtain ⟨k, -, hk⟩ := Option.bind_eq_some_iff.mp hint
    exact .inl ⟨k, hk⟩
  · exact .inr (.inl (hfinite x hx))
  · exact .inr (.inr ⟨d, hd, rfl⟩)
  · exact .inr (.inl (hfinite x hx))

theorem ofChars?_isDefined (cs : List Char) (n : NumberValue) (h : ofChars? cs = some n) :
    n.IsDefined := by
  rcases ofChars?_cases h with ⟨k, hk⟩ | ⟨x, rfl⟩ | ⟨d, -, rfl⟩
  · simp only [Option.or_eq_some_iff, Option.map_eq_some_iff] at hk
    obtain ⟨_, -, rfl⟩ | ⟨-, _, -, rfl⟩ := hk
    · exact Double.ofInt_ne_nan _
    · exact Double.ofInt_ne_nan _
  · exact nofun
  · exact Decimal.toDouble_ne_nan d

theorem exists_compare (a b : NumberValue) (ha : a.IsDefined) (hb : b.IsDefined) :
    ∃ o, a.compare b = some o := by
  unfold compare
  split
  · exact ⟨_, rfl⟩
  · exact ⟨_, Double.compare_eq_position _ _ ha hb⟩

end NumberValue

theorem map_eq_ok_iff {α β ε : Type} (f : α → β) (x : Except ε α) (y : β) :
    x.map f = .ok y ↔ ∃ a, x = .ok a ∧ f a = y := by
  cases x <;> simp [Except.map]

namespace FieldValue

/-- A number among the values is one that has a place on the line. -/
def IsDefined : FieldValue → Prop
  | .number n => n.IsDefined
  | _ => True

/-- A text is read as a value of the type asked for, and never as the undefined number. -/
theorem ofText_eq_ok (s : String) (t : FieldType) (v : FieldValue) (h : ofText s t = .ok v) :
    v.fieldType = t ∧ v.IsDefined := by
  cases t with
  | string =>
    cases h
    exact ⟨rfl, trivial⟩
  | boolean =>
    cases h
    exact ⟨rfl, trivial⟩
  | date =>
    obtain ⟨d, -, rfl⟩ := (map_eq_ok_iff _ _ _).mp h
    exact ⟨rfl, trivial⟩
  | number =>
    obtain ⟨n, hn, rfl⟩ := (map_eq_ok_iff _ _ _).mp h
    refine ⟨rfl, ?_⟩
    unfold NumberValue.ofText at hn
    split at hn
    · next hm =>
      cases hn
      exact NumberValue.ofChars?_isDefined _ n hm
    · cases hn

end FieldValue

end CriteriaSearch
