import CriteriaSearch.Proofs.Number.Display
import CriteriaSearch.Proofs.Number.Exact
import CriteriaSearch.Proofs.Number.Order

/-!
# Numbers that are displayed and read again

Integers and binary numbers come back as they were. The text of a decimal may be read as a number of
another kind: as an integer, which has the same value, or as the binary number nearest to it, since
seventeen digits are enough for one. The comparison takes for a decimal the binary number that it
computes, which need not be the nearest.
-/

namespace CriteriaSearch

theorem int32?_toInt (i : Int32) : int32? i.toInt = some i := by
  have hle := Int32.le_toInt i
  have hlt := Int32.toInt_lt i
  rw [int32?, if_pos (by omega), Int32.ofInt_toInt]

theorem int64?_toInt (i : Int64) : int64? i.toInt = some i := by
  have hle := Int64.le_toInt i
  have hlt := Int64.toInt_lt i
  rw [int64?, if_pos (by omega), Int64.ofInt_toInt]

theorem toInt_of_int32? (n : Int) (i : Int32) (h : int32? n = some i) : i.toInt = n := by
  obtain ⟨hbounds, hi⟩ := Option.ite_none_right_eq_some.mp h
  rw [← Option.some_inj.mp hi]
  exact Int32.toInt_ofInt_of_le hbounds.1 (by omega)

theorem toInt_of_int64? (n : Int) (i : Int64) (h : int64? n = some i) : i.toInt = n := by
  obtain ⟨hbounds, hi⟩ := Option.ite_none_right_eq_some.mp h
  rw [← Option.some_inj.mp hi]
  exact Int64.toInt_ofInt_of_le hbounds.1 (by omega)

namespace Decimal

def ZeroUnsigned (d : Decimal) : Prop := d.mantissa = 0 → d.negative = false

theorem zeroUnsigned_of_ofParts? {negative : Bool} {mantissa scale : Nat} {d : Decimal}
    (h : ofParts? negative mantissa scale = some d) : d.ZeroUnsigned := by
  obtain ⟨hfits, hd⟩ := Option.dite_none_right_eq_some.mp h
  rw [← Option.some_inj.mp hd]
  intro hzero
  change mantissa = 0 at hzero
  change (negative && mantissa != 0) = false
  rw [hzero]
  exact Bool.and_false negative

theorem ofParts?_self (d : Decimal) (h : d.ZeroUnsigned) :
    ofParts? d.negative d.mantissa d.scale = some d := by
  have hsign : (d.negative && d.mantissa != 0) = d.negative := by
    by_cases hzero : d.mantissa = 0
    · rw [h hzero, Bool.false_and]
    · rw [bne_iff_ne.mpr hzero, Bool.and_true]
  rw [ofParts?, dif_pos ⟨d.mantissa_lt, d.scale_le⟩]
  simp only [hsign]

theorem zeroUnsigned_of_roundRest? {negative : Bool} {mantissa scale : Nat} {rest : List Char}
    {d : Decimal} (h : roundRest? negative mantissa scale rest = some d) : d.ZeroUnsigned := by
  obtain ⟨-, h⟩ := Option.ite_none_right_eq_some.mp h
  unfold roundAt? at h
  split at h
  · exact zeroUnsigned_of_ofParts? h
  split at h
  · exact zeroUnsigned_of_ofParts? h
  split at h
  · cases h
  · exact zeroUnsigned_of_ofParts? h

theorem zeroUnsigned_of_readFrom? (negative afterPoint started : Bool) (mantissa scale : Nat)
    (cs : List Char) (d : Decimal)
    (h : readFrom? negative afterPoint started mantissa scale cs = some d) : d.ZeroUnsigned := by
  -- Reading goes on, or stops where the parts are put together.
  fun_induction readFrom? negative afterPoint started mantissa scale cs with
  | case1 => exact zeroUnsigned_of_ofParts? h
  | case2 => cases h
  | case3 => exact zeroUnsigned_of_roundRest? h
  | case4 => cases h
  | case5 _ _ _ _ _ _ _ ih => exact ih h
  | case6 _ _ _ _ _ _ ih => exact ih h
  | case7 => cases h
  | case8 => cases h
  | case9 _ _ _ _ _ _ _ _ _ _ _ _ ih => exact ih h
  | case10 => exact zeroUnsigned_of_roundRest? h
  | case11 => cases h

theorem zeroUnsigned_of_ofChars? {cs : List Char} {d : Decimal} (h : ofChars? cs = some d) :
    d.ZeroUnsigned :=
  zeroUnsigned_of_readFrom? _ _ _ _ _ _ d h

theorem zeroUnsigned_of_decimal? {cs : List Char} {d : Decimal}
    (h : NumberValue.decimal? .refused cs = some d) : d.ZeroUnsigned := by
  unfold NumberValue.decimal? at h
  split at h
  · unfold ofScientificChars? at h
    split at h
    · cases h
    · obtain ⟨base, -, hmoved⟩ := Option.bind_eq_some_iff.mp h
      split at hmoved
      · obtain ⟨e, -, hdown⟩ := Option.bind_eq_some_iff.mp hmoved
        unfold scaleDown? at hdown
        split at hdown
        · cases hdown
        split at hdown
        · exact zeroUnsigned_of_ofParts? hdown
        · cases hdown
      · obtain ⟨e, -, hup⟩ := Option.bind_eq_some_iff.mp hmoved
        unfold scaleUp? at hup
        split at hup
        · exact zeroUnsigned_of_ofParts? hup
        split at hup
        · exact zeroUnsigned_of_ofParts? hup
        · cases hup
  · exact zeroUnsigned_of_ofChars? h

def nearest (d : Decimal) : Double := .ofScientific d.negative d.mantissa (-(d.scale : Int))

theorem nearest_finite (d : Decimal) : d.nearest.isFinite = true :=
  Double.isFinite_ofScientific d.negative d.mantissa d.scale
    (d.mantissa_lt.le.trans (by decide))

theorem nearest_eq_toDouble (d : Decimal) (h : d.scale = 0) : d.nearest = d.toDouble := by
  have hunsigned : d.toDouble =
      if d.negative then (Double.ofInt d.mantissa).neg else Double.ofInt d.mantissa := by
    simp only [toDouble, if_pos h]
  rw [nearest, hunsigned, h]
  -- Zero is no quotient for reading, which takes its sign from the text.
  by_cases hzero : d.mantissa = 0
  · have hread (negative : Bool) (e : Int) : Double.ofScientific negative 0 e = .zero negative :=
      if_pos rfl
    rw [hzero, hread, Nat.cast_zero, Double.ofInt_zero]
    cases d.negative <;> rfl
  · rw [Double.ofScientific_eq _ _ _ hzero, Double.ofInt_natCast, Double.neg_roundQuotient]
    have hscale : (-((0 : Nat) : Int)).toNat = 0 ∧ (-(-((0 : Nat) : Int))).toNat = 0 := ⟨rfl, rfl⟩
    rw [hscale.1, hscale.2, pow_zero, mul_one]
    cases d.negative with
    | true => rw [if_pos rfl]
    | false => rw [if_neg Bool.false_ne_true]

theorem compare_self (d e : Decimal) (hmantissa : d.signedMantissa = e.signedMantissa)
    (hscale : d.scale = e.scale) : d.compare e = .eq := by
  rw [compare, hmantissa, hscale]
  exact compare_eq_iff_eq.mpr rfl

end Decimal

theorem Double.compare_self (x : Double) (h : x ≠ .nan) : x.compare x = some .eq := by
  rw [compare_eq_position x x h h]
  exact congrArg some (compare_eq_iff_eq.mpr rfl)

namespace NumberValue

/-- What holds of a number by its kind if a text was read as it. -/
def IsRead : NumberValue → Prop
  | .int _ => True
  | .long n => int32? n.toInt = none
  | .double x => x.isFinite = true
  | .decimal d => d.ZeroUnsigned

/-- An integer is read as a number of the first kind that holds it. -/
theorem integer_isRead (k : Int) (n : NumberValue)
    (h : ((int32? k).map int).or ((int64? k).map long) = some n) :
    n.toInt? = some k ∧ n.IsRead := by
  simp only [Option.or_eq_some_iff, Option.map_eq_some_iff, Option.map_eq_none_iff] at h
  rcases h with ⟨i, hi, rfl⟩ | ⟨hsmall, l, hl, rfl⟩
  · exact ⟨congrArg some (toInt_of_int32? k i hi), trivial⟩
  · have hk := toInt_of_int64? k l hl
    refine ⟨congrArg some hk, ?_⟩
    rw [IsRead, hk]
    exact hsmall

theorem ofChars?_isRead (cs : List Char) (n : NumberValue) (h : ofChars? cs = some n) :
    n.IsRead := by
  rcases ofChars?_cases h with ⟨k, hk⟩ | ⟨x, rfl⟩ | ⟨d, hd, rfl⟩
  · exact (integer_isRead k n hk).2
  · rfl
  · exact Decimal.zeroUnsigned_of_decimal? hd

theorem ofText_toString (n : NumberValue) (k : Int) (hk : n.toInt? = some k) (hn : n.IsRead) :
    ofText (toString k) = .ok n := by
  -- An integer is read as the first kind that holds it, which is the kind that it had.
  have hkind : ((int32? k).map int).or ((int64? k).map long) = some n := by
    cases n with
    | int i =>
      cases hk
      rw [int32?_toInt]
      rfl
    | long l =>
      cases hk
      rw [IsRead] at hn
      rw [hn, int64?_toInt]
      rfl
    | double x => cases hk
    | decimal d => cases hk
  have hread : ofChars? (Numeral.ofInt k).chars = some n := by
    rw [ofChars?, (Numeral.ofInt k).integer?_chars rfl rfl, Numeral.value_ofInt, hkind]
    rfl
  have htext : toString k = String.ofList (Numeral.ofInt k).chars := by
    rw [← Numeral.toList_toString, String.ofList_toList]
  rw [htext]
  exact ofText_ofList _ n ((Numeral.ofInt k).isBlank_chars (List.forall_mem_nil _)) hread

variable (d : Decimal)

theorem finiteDouble?_decimal : finiteDouble? d.chars = some d.nearest := by
  have hzero : (0 : Int) - d.scale = -(d.scale : Int) := Int.zero_sub _
  have hread := d.numeral.ofChars?_chars 0 rfl
  rw [d.value_numeral, d.length_fraction_numeral, d.chars_numeral, hzero] at hread
  rw [finiteDouble?, hread]
  exact if_pos d.nearest_finite

/-- The text of a decimal is read as an integer of its value, as the nearest binary number if it has
few digits, or as the decimal. -/
theorem ofText_display_decimal (h : d.ZeroUnsigned) :
    (∃ m, ofText d.display = .ok m ∧ m.toInt? = some d.signedMantissa ∧ d.scale = 0) ∨
      (ofText d.display = .ok (.double d.nearest) ∧ significantDigits d.chars ≤ doubleDigits) ∨
      (ofText d.display = .ok (.decimal d) ∧ doubleDigits < significantDigits d.chars) := by
  have hblank := d.numeral.isBlank_chars nofun
  have hdecimal := d.numeral.decimal?_chars rfl .refused
    (by rw [d.value_numeral]; exact d.mantissa_lt)
    (by rw [d.length_fraction_numeral]; exact d.scale_le)
  rw [d.value_numeral, d.length_fraction_numeral] at hdecimal
  rw [d.chars_numeral] at hblank hdecimal
  have hself : decimal? .refused d.chars = some d := hdecimal.trans (d.ofParts?_self h)
  have hread (m : NumberValue) (hm : ofChars? d.chars = some m) : ofText d.display = .ok m :=
    ofText_ofList d.chars m hblank hm
  rw [ofChars?, finiteDouble?_decimal, hself] at hread
  cases hinteger : integer? d.chars with
  | some m =>
    -- An integer has no point, so that the decimal has no places.
    have hscale : d.scale = 0 := by
      by_contra hscale
      have hpoint : d.numeral.point.isSome = true := by
        have hsome : d.numeral.point = some _ := if_neg hscale
        rw [hsome]
        rfl
      have hnone := d.numeral.integer?_chars_of_point hpoint
      rw [d.chars_numeral, hinteger] at hnone
      cases hnone
    have hkind := d.numeral.integer?_chars (if_pos hscale) rfl
    rw [d.chars_numeral, hinteger, d.value_numeral] at hkind
    rw [hinteger] at hread
    exact .inl ⟨m, hread m rfl, (integer_isRead _ m hkind.symm).1, hscale⟩
  | none =>
    rw [hinteger] at hread
    simp only [Option.filter_some] at hread
    by_cases hfew : significantDigits d.chars ≤ doubleDigits
    · rw [if_pos (decide_eq_true hfew)] at hread
      exact .inr (.inl ⟨hread _ rfl, hfew⟩)
    · rw [if_neg fun hle => hfew (of_decide_eq_true hle)] at hread
      exact .inr (.inr ⟨hread _ rfl, not_le.mp hfew⟩)

theorem exists_ofText_display_decimal (h : d.ZeroUnsigned) :
    ∃ m, ofText d.display = .ok m ∧ (m.compare (.decimal d) = some .eq ↔
      (significantDigits d.chars ≤ doubleDigits → d.nearest.sameValue d.toDouble = true)) := by
  rcases ofText_display_decimal d h with ⟨m, hm, hvalue, hscale⟩ | ⟨hm, hfew⟩ | ⟨hm, hmany⟩
  · have hsame : d.nearest.sameValue d.toDouble = true := by
      rw [d.nearest_eq_toDouble hscale, Double.sameValue,
        Double.compare_self _ d.toDouble_ne_nan]
      rfl
    obtain ⟨e, he, hmantissa, hplaces⟩ := m.toDecimal?_of_toInt? d.signedMantissa hvalue
    have hequal : m.compare (.decimal d) = some .eq := by
      unfold compare
      rw [he]
      exact congrArg some (e.compare_self d hmantissa (hplaces.trans hscale.symm))
    exact ⟨m, hm, iff_of_true hequal fun _ => hsame⟩
  · -- Here the nearest binary number is compared with the one computed for the decimal.
    refine ⟨_, hm, ?_⟩
    rw [compare_double_left, Double.sameValue, beq_iff_eq]
    exact ⟨fun hequal _ => hequal, fun hequal => hequal hfew⟩
  · refine ⟨_, hm, iff_of_true ?_ fun hfew => absurd hfew (not_le.mpr hmany)⟩
    exact congrArg some (d.compare_self d rfl rfl)

/-- A displayed number is read again: an integer and a binary number as the same number, and a
decimal as a number that is equal to it, unless it has few digits and the binary number computed for
it is not the nearest one. -/
theorem ofText_display (s : String) (n : NumberValue) (h : ofText s = .ok n) :
    ∃ m, ofText n.display = .ok m ∧ ((∀ d, n ≠ .decimal d) → m = n) ∧
      (m.compare n = some .eq ↔ ∀ d, n = .decimal d →
        significantDigits d.chars ≤ doubleDigits → d.nearest.sameValue d.toDouble = true) := by
  -- How the number was read tells which integers are long and that zeros have no sign.
  have hread : n.IsRead := by
    unfold ofText at h
    split at h
    · next hsome =>
      cases h
      exact ofChars?_isRead _ n hsome
    · cases h
  have hinteger (k : Int) (hk : n.toInt? = some k) : n.compare n = some .eq := by
    rw [compare_integers n n k k hk hk]
    exact congrArg some (compare_eq_iff_eq.mpr rfl)
  cases n with
  | int i =>
    exact ⟨_, ofText_toString (.int i) i.toInt rfl hread, fun _ => rfl,
      iff_of_true (hinteger i.toInt rfl) nofun⟩
  | long l =>
    exact ⟨_, ofText_toString (.long l) l.toInt rfl hread, fun _ => rfl,
      iff_of_true (hinteger l.toInt rfl) nofun⟩
  | double x =>
    cases x with
    | nan => cases hread
    | infinite a => cases hread
    | finite x =>
      exact ⟨_, ofText_display_finite x, fun _ => rfl,
        iff_of_true (Double.compare_self (.finite x) nofun) nofun⟩
  | decimal d =>
    obtain ⟨m, hm, hequal⟩ := exists_ofText_display_decimal d hread
    refine ⟨m, hm, fun hnot => absurd rfl (hnot d), hequal.trans ?_⟩
    constructor
    · rintro hsame _ ⟨⟩
      exact hsame
    · intro hall
      exact hall d rfl

def tenth : Decimal := ⟨false, 1000000000000000000000000000, 28, by decide, by decide⟩

theorem ofText_display_tenth :
    ofText "0.10000000000000000000000000001" = .ok (.decimal tenth) ∧
      ∃ m, ofText tenth.display = .ok m ∧ m.compare (.decimal tenth) = some .eq := by
  have hread : ofText "0.10000000000000000000000000001" = .ok (.decimal tenth) := by
    decide +kernel
  have hnearest : tenth.nearest.sameValue tenth.toDouble = true := by
    decide +kernel
  obtain ⟨m, hm, -, hequal⟩ := ofText_display _ (.decimal tenth) hread
  refine ⟨hread, m, hm, hequal.mpr ?_⟩
  rintro _ ⟨⟩ -
  exact hnearest

/-- A decimal for which the number before the nearest one is computed. -/
def misrounded : Decimal := ⟨false, 44158683449786907, 28, by decide, by decide⟩

/-- The text of a decimal may be read as a number that is greater than the decimal. -/
theorem ofText_display_misrounded :
    ofText "0.00000000000441586834497869074662" = .ok (.decimal misrounded) ∧
      ofText misrounded.display = .ok (.double misrounded.nearest) ∧
      (double misrounded.nearest).compare (.decimal misrounded) = some .gt := by
  refine ⟨?_, ?_, ?_⟩ <;> decide +kernel

end NumberValue

end CriteriaSearch
