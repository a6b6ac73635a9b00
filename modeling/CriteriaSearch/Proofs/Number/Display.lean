import CriteriaSearch.Number.Notation
import CriteriaSearch.Proofs.Number.Numeral
import CriteriaSearch.Proofs.Number.Shortest

namespace CriteriaSearch

namespace Numeral

def ofInt (n : Int) : Numeral where
  negative := decide (n < 0)
  whole := Nat.toDigits 10 n.natAbs
  point := none
  mark := []
  whole_ne_nil := Nat.toDigits_ne_nil
  whole_digits := all_isDigit_toDigits n.natAbs
  point_digits := nofun
  mark_start := nofun

theorem chars_ofInt (n : Int) :
    (ofInt n).chars = (if n < 0 then ['-'] else []) ++ Nat.toDigits 10 n.natAbs := by
  have hmantissa : (ofInt n).mantissa = Nat.toDigits 10 n.natAbs := List.append_nil _
  have hmark : (ofInt n).mark = [] := rfl
  have hnegative : (ofInt n).negative = decide (n < 0) := rfl
  rw [chars_eq, hmantissa, hmark, List.append_nil, hnegative]
  simp only [decide_eq_true_eq]

theorem value_ofInt (n : Int) :
    (if (ofInt n).negative then -((ofInt n).value : Int) else (ofInt n).value) = n := by
  have hvalue : (ofInt n).value = n.natAbs := by
    rw [value, fraction, ofInt, Option.getD_none, List.append_nil, digitsValue_toDigits]
  have hnegative : (ofInt n).negative = decide (n < 0) := rfl
  rw [hvalue, hnegative]
  simp only [decide_eq_true_eq]
  split <;> omega

theorem toList_toString (n : Int) : (toString n).toList = (ofInt n).chars := by
  rw [chars_ofInt]
  cases n with
  | ofNat n =>
    have hnonneg : ¬ Int.ofNat n < 0 := not_lt.mpr (Int.natCast_nonneg n)
    have hshown : toString (Int.ofNat n) = Nat.repr n := rfl
    rw [if_neg hnonneg, hshown, Nat.toList_repr]
    rfl
  | negSucc n =>
    have hneg : Int.negSucc n < 0 := Int.negSucc_lt_zero n
    have hshown : toString (Int.negSucc n) = "-" ++ Nat.repr (n + 1) := rfl
    rw [if_pos hneg, hshown, String.toList_append, Nat.toList_repr]
    rfl

theorem exponentChars_display (e : Int) :
    NumberStyle.display.exponentChars e = (ofInt e).chars := by
  have hwidth : 1 - (Nat.toDigits 10 e.natAbs).length = 0 := by
    have hpos := List.length_pos_iff.mpr (Nat.toDigits_ne_nil (n := e.natAbs) (b := 10))
    omega
  have hsign : (if e < 0 then ['-'] else if NumberStyle.display.exponentPlus then ['+'] else []) =
      if e < 0 then ['-'] else [] := rfl
  have hleast : NumberStyle.display.exponentWidth = 1 := rfl
  rw [chars_ofInt, NumberStyle.exponentChars, hsign, hleast, hwidth, List.replicate_zero,
    List.append_nil]

theorem readExponent?_exponentChars (e : Int) :
    readExponent? ('e' :: NumberStyle.display.exponentChars e) = some e := by
  rw [readExponent?, if_pos (.inl rfl), exponentChars_display, readInt?_chars (ofInt e) rfl rfl,
    value_ofInt]

theorem isBlank_exponentChars (e : Int) :
    ∀ c ∈ 'e' :: NumberStyle.display.exponentChars e, Text.isBlank c = false := by
  rw [exponentChars_display, List.forall_mem_cons]
  exact ⟨by decide, (ofInt e).isBlank_chars nofun⟩

/-- The numeral has a point or an exponent and no blank characters, and its value is that of the
decimal number: zeros may stand before and behind its digits. -/
structure Writes (n : Numeral) (d : DecimalDigits) : Prop where
  isReal : n.point.isSome = true ∨ n.mark ≠ []
  notBlank : ∀ c ∈ n.mark, Text.isBlank c = false
  exists_places : ∃ (a b : Nat) (e : Int),
    n.whole ++ n.fraction =
      List.replicate a '0' ++ Nat.toDigits 10 d.coefficient ++ List.replicate b '0' ∧
    readExponent? n.mark = some e ∧ e - n.fraction.length + b = d.exponent

section Writing

variable (negative : Bool) (d : DecimalDigits)

def IsWritten (chars : List Char) : Prop :=
  ∃ n : Numeral, n.negative = negative ∧ n.unsigned = chars ∧ n.Writes d

/-- Digits with a point among them write a number if the point stands where its exponent says. -/
theorem isWritten_point (whole fraction : List Char) (a b : Nat) (hwhole : whole ≠ [])
    (hplaces : whole ++ fraction =
      List.replicate a '0' ++ Nat.toDigits 10 d.coefficient ++ List.replicate b '0')
    (hexponent : (b : Int) - fraction.length = d.exponent) :
    IsWritten negative d (whole ++ '.' :: fraction) := by
  have hdigits : (whole ++ fraction).all isDigit = true := by
    rw [hplaces, List.all_append, List.all_append, all_isDigit_replicate, all_isDigit_replicate,
      all_isDigit_toDigits]
    rfl
  rw [List.all_append, Bool.and_eq_true] at hdigits
  let n : Numeral :=
    { negative, whole, point := some fraction, mark := []
      whole_ne_nil := hwhole, whole_digits := hdigits.1
      point_digits := by
        rintro _ ⟨⟩
        exact hdigits.2
      mark_start := nofun }
  refine ⟨n, rfl, List.append_nil _, .inl rfl, nofun, a, b, 0, hplaces, rfl, ?_⟩
  have hlength : n.fraction.length = fraction.length := rfl
  rw [hlength]
  omega

/-- Digits with the point after the first of them, or without other digits, write a number together
with the exponent of the first. -/
theorem isWritten_mark (c : Char) (point : Option (List Char))
    (hdigits : Nat.toDigits 10 d.coefficient = c :: point.getD []) :
    IsWritten negative d ((c :: point.elim [] ('.' :: ·)) ++
      'e' :: NumberStyle.display.exponentChars ((point.getD []).length + d.exponent)) := by
  have hall := all_isDigit_toDigits d.coefficient
  rw [hdigits, List.all_cons, Bool.and_eq_true] at hall
  -- The digits after the point count towards the exponent, as the mark says it for the first digit.
  let n : Numeral :=
    { negative, whole := [c], point
      mark := 'e' :: NumberStyle.display.exponentChars ((point.getD []).length + d.exponent)
      whole_ne_nil := List.cons_ne_nil c []
      whole_digits := by
        rw [List.all_cons, hall.1]
        rfl
      point_digits := by
        rintro _ rfl
        exact hall.2
      mark_start := by
        rintro _ ⟨⟩
        rfl }
  have hfraction : n.fraction = point.getD [] := rfl
  refine ⟨n, rfl, ?_, .inr (List.cons_ne_nil _ _), isBlank_exponentChars _, 0, 0, _, ?_,
    readExponent?_exponentChars _, ?_⟩
  · cases point <;> rfl
  · rw [hfraction, hdigits]
    exact (List.append_nil _).symm
  · rw [hfraction]
    omega

theorem isWritten_digitChars (hzero : d.coefficient = 0 → d.exponent = 0) :
    IsWritten negative d (NumberStyle.display.digitChars d) := by
  have hne : Nat.toDigits 10 d.coefficient ≠ [] := Nat.toDigits_ne_nil
  have hpositive := List.length_pos_iff.mpr hne
  unfold NumberStyle.digitChars
  dsimp only
  split
  · next h =>
    apply isWritten_point negative d ['0'] ['0'] 0 1 (List.cons_ne_nil _ _)
    · rw [h]
      rfl
    · rw [hzero h]
      rfl
  split
  · -- in places: the point is before the digits, behind them or among them
    split
    · next hpoint =>
      have hplaces (zeros : Nat) (digits : List Char) :
          ['0'] ++ (List.replicate zeros '0' ++ digits) =
            List.replicate (1 + zeros) '0' ++ digits ++ List.replicate 0 '0' := by
        rw [List.replicate_add, List.replicate_zero, List.append_nil, List.append_assoc]
        rfl
      refine isWritten_point negative d ['0'] _ _ 0 (List.cons_ne_nil _ _) (hplaces _ _) ?_
      rw [List.length_append, List.length_replicate]
      omega
    split
    · next hpoint hwhole =>
      have hplaces (digits : List Char) (zeros : Nat) :
          digits ++ List.replicate zeros '0' ++ ['0'] =
            List.replicate 0 '0' ++ digits ++ List.replicate (zeros + 1) '0' := by
        rw [List.replicate_succ', ← List.append_assoc]
        rfl
      refine isWritten_point negative d _ ['0'] 0 _ (List.append_ne_nil_of_left_ne_nil hne _)
        (hplaces _ _) ?_
      rw [List.length_singleton]
      omega
    · next hpoint hsplit =>
      refine isWritten_point negative d _ _ 0 0 ?_ ?_ ?_
      · rw [ne_eq, List.take_eq_nil_iff]
        exact not_or.mpr ⟨by omega, hne⟩
      · rw [List.take_append_drop, List.replicate_zero, List.append_nil]
        rfl
      · rw [List.length_drop]
        omega
  · -- with the exponent of the first digit
    cases hdigits : Nat.toDigits 10 d.coefficient with
    | nil => exact absurd hdigits hne
    | cons c rest =>
      have hfirst : (((c :: rest).length : Int) + d.exponent - 1) = rest.length + d.exponent := by
        rw [List.length_cons]
        omega
      rw [hfirst]
      cases rest with
      | nil => exact isWritten_mark negative d c none hdigits
      | cons c' rest => exact isWritten_mark negative d c (some (c' :: rest)) hdigits

end Writing

variable {n : Numeral} {d : DecimalDigits} (h : n.Writes d)
include h

theorem Writes.integer?_chars : NumberValue.integer? n.chars = none := by
  rcases h.isReal with hpoint | hmark
  · exact n.integer?_chars_of_point hpoint
  · exact n.integer?_chars_of_mark hmark

/-- The zeros around the digits do not change the number that is read. -/
theorem Writes.ofChars?_chars :
    Double.ofChars? n.chars = some (.ofScientific n.negative d.coefficient d.exponent) := by
  obtain ⟨a, b, e, hplaces, hexponent, hd⟩ := h.exists_places
  have hvalue : n.value = d.coefficient * 10 ^ b := by
    rw [value, hplaces, digitsValue_append_zeros, digitsValue_append, digitsValue_zeros,
      digitsValue_toDigits]
  rw [n.ofChars?_chars e hexponent, hvalue, Double.ofScientific_mul_pow, hd]

theorem Writes.significantDigits_le (hd : d.coefficient < 10 ^ 17) :
    NumberValue.significantDigits n.chars ≤ NumberValue.doubleDigits := by
  obtain ⟨a, b, e, hplaces, -, -⟩ := h.exists_places
  have hlength := (Nat.length_toDigits_le_iff (by decide : 1 < 10) (by decide : 0 < 17)).mpr hd
  rw [significantDigits_chars, hplaces]
  exact (length_trimmed_le _ a b).trans hlength

end Numeral

namespace FiniteDouble

theorem eq_zero (x : FiniteDouble) (h : x.isZero = true) : x = zero x.negative := by
  obtain ⟨negative, significand, exponent, _, _, hnormal⟩ := x
  have hsignificand : significand = 0 := eq_of_beq h
  subst hsignificand
  have hexponent : exponent = 0 := hnormal.resolve_right (by decide)
  subst hexponent
  rfl

end FiniteDouble

namespace NumberValue

theorem ofText_ofList (cs : List Char) (n : NumberValue) (hblank : ∀ c ∈ cs, Text.isBlank c = false)
    (hread : ofChars? cs = some n) : ofText (String.ofList cs) = .ok n := by
  rw [ofText, String.toList_ofList, Text.trimChars_eq_self cs hblank, hread]

/-- The displayed text of a finite binary number is read as the number. -/
theorem ofText_display_finite (x : FiniteDouble) :
    ofText (Double.finite x).display = .ok (.double (.finite x)) := by
  -- Zero is written with the digit zero; all other numbers have digits of which the last is not
  -- zero.
  have hdigits : ((x.shortest .away).coefficient = 0 → (x.shortest .away).exponent = 0) ∧
      (x.shortest .away).coefficient < 10 ^ 17 ∧
      Double.ofScientific x.negative (x.shortest .away).coefficient (x.shortest .away).exponent =
        .finite x := by
    cases hzero : x.isZero with
    | true =>
      have hshortest : x.shortest .away = ⟨0, 0⟩ := if_pos hzero
      rw [hshortest]
      exact ⟨fun _ => rfl, by decide, congrArg Double.finite (x.eq_zero hzero).symm⟩
    | false =>
      obtain ⟨hvalue, hlast, hlt⟩ := x.shortest_spec .away hzero
      exact ⟨fun h => absurd (by rw [h]) hlast, hlt, hvalue⟩
  obtain ⟨n, hnegative, hunsigned, hwrites⟩ :=
    Numeral.isWritten_digitChars x.negative (x.shortest .away) hdigits.1
  have hchars : (Double.finite x).chars .display = n.chars := by
    rw [Numeral.chars, hnegative, hunsigned]
    exact congrArg (fun b : Bool => if b then _ else _) (Bool.and_true _)
  have hread : finiteDouble? n.chars = some (.finite x) := by
    rw [finiteDouble?, hwrites.ofChars?_chars, hnegative, hdigits.2.2]
    rfl
  have hfew := hwrites.significantDigits_le hdigits.2.1
  rw [Double.display, hchars]
  apply ofText_ofList n.chars _ (n.isBlank_chars hwrites.notBlank)
  rw [ofChars?, hwrites.integer?_chars, hread]
  dsimp only
  rw [Option.filter_some, if_pos (decide_eq_true hfew)]
  rfl

end NumberValue

namespace Decimal

variable (d : Decimal)

/-- The digits of a decimal with as many zeros before them as its places need. -/
def places : List Char := Date.padded (d.scale + 1) d.mantissa

theorem scale_lt_length_places : d.scale < d.places.length := by
  rw [places, Date.padded, List.length_append, List.length_replicate]
  omega

def numeral : Numeral where
  negative := d.negative
  whole := d.places.take (d.places.length - d.scale)
  point := if d.scale = 0 then none else some (d.places.drop (d.places.length - d.scale))
  mark := []
  whole_ne_nil := by
    have hlt := d.scale_lt_length_places
    rw [ne_eq, List.take_eq_nil_iff, ← List.length_eq_zero_iff]
    omega
  whole_digits := List.all_eq_true.mpr fun c hc =>
    List.all_eq_true.mp (Date.all_isDigit_padded _ _) c (List.mem_of_mem_take hc)
  point_digits := by
    intro fraction hfraction
    rw [Option.mem_def, Option.ite_none_left_eq_some, Option.some_inj] at hfraction
    rw [← hfraction.2]
    exact List.all_eq_true.mpr fun c hc =>
      List.all_eq_true.mp (Date.all_isDigit_padded _ _) c (List.mem_of_mem_drop hc)
  mark_start := nofun

theorem fraction_numeral : d.numeral.fraction = d.places.drop (d.places.length - d.scale) := by
  have hpoint : d.numeral.point =
      if d.scale = 0 then none else some (d.places.drop (d.places.length - d.scale)) := rfl
  rw [Numeral.fraction, hpoint]
  -- Without places there is no point, and nothing is left behind the digits either.
  split
  · next hscale =>
    rw [hscale, Nat.sub_zero, List.drop_length]
    rfl
  · rfl

theorem length_fraction_numeral : d.numeral.fraction.length = d.scale := by
  have hlt := d.scale_lt_length_places
  rw [fraction_numeral, List.length_drop]
  omega

theorem value_numeral : d.numeral.value = d.mantissa := by
  have hwhole : d.numeral.whole = d.places.take (d.places.length - d.scale) := rfl
  rw [Numeral.value, hwhole, fraction_numeral, List.take_append_drop, places,
    Date.digitsValue_padded]

theorem chars_numeral : d.numeral.chars = d.chars := by
  have hmantissa : d.numeral.mantissa = d.places.take (d.places.length - d.scale) ++
      if d.scale = 0 then [] else '.' :: d.places.drop (d.places.length - d.scale) := by
    have hpoint : d.numeral.point =
        if d.scale = 0 then none else some (d.places.drop (d.places.length - d.scale)) := rfl
    rw [Numeral.mantissa, hpoint]
    by_cases hscale : d.scale = 0
    · simp only [if_pos hscale]
      rfl
    · simp only [if_neg hscale]
      rfl
  have hmark : d.numeral.mark = [] := rfl
  rw [Numeral.chars_eq, hmantissa, hmark, List.append_nil, ← List.append_assoc]
  rfl

end Decimal

end CriteriaSearch
