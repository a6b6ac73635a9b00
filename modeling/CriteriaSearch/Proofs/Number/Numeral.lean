import CriteriaSearch.Proofs.Calendar.Reading
import CriteriaSearch.Proofs.Number.Scientific
import CriteriaSearch.Value.Reader

namespace CriteriaSearch

/-- A sign, digits, a point with digits after it or none, and an exponent with its mark or none. -/
structure Numeral where
  negative : Bool
  whole : List Char
  point : Option (List Char)
  mark : List Char
  whole_ne_nil : whole ≠ []
  whole_digits : whole.all isDigit = true
  point_digits : ∀ fraction ∈ point, fraction.all isDigit = true
  mark_start : ∀ c ∈ mark.head?, Decimal.isExponentMark c = true

namespace Numeral

variable (n : Numeral)

def fraction : List Char := n.point.getD []

def value : Nat := digitsValue 0 (n.whole ++ n.fraction)

def mantissa : List Char :=
  n.whole ++ match n.point with
    | none => []
    | some fraction => '.' :: fraction

def unsigned : List Char := n.mantissa ++ n.mark

def chars : List Char := if n.negative then '-' :: n.unsigned else n.unsigned

theorem mark_cases : n.mark = [] ∨ ∃ rest, n.mark = 'e' :: rest ∨ n.mark = 'E' :: rest := by
  have hstart := n.mark_start
  cases hmark : n.mark with
  | nil => exact .inl rfl
  | cons c rest =>
    rw [hmark] at hstart
    have hc := hstart c rfl
    rw [Decimal.isExponentMark, Bool.or_eq_true, beq_iff_eq, beq_iff_eq] at hc
    rcases hc with rfl | rfl
    · exact .inr ⟨rest, .inl rfl⟩
    · exact .inr ⟨rest, .inr rfl⟩

/-- The text goes on after its digits with a mark, if it does. -/
theorem mark_head (p : Char → Bool) (h : p 'e' = false ∧ p 'E' = false) :
    ∀ c ∈ n.mark.head?, p c = false := by
  rcases n.mark_cases with hnone | ⟨rest, hsome | hsome⟩
  · rw [hnone]
    exact nofun
  · rw [hsome]
    rintro _ ⟨⟩
    exact h.1
  · rw [hsome]
    rintro _ ⟨⟩
    exact h.2

theorem fraction_digits : n.fraction.all isDigit = true := by
  have hdigits := n.point_digits
  rw [fraction]
  cases hpoint : n.point with
  | none => rfl
  | some fraction => exact hdigits fraction hpoint

theorem digits : (n.whole ++ n.fraction).all isDigit = true := by
  rw [List.all_append, n.whole_digits, n.fraction_digits]
  rfl

theorem readDecimalParts?_unsigned :
    readDecimalParts? n.unsigned =
      (readExponent? n.mark).map fun e => (n.value, e - (n.fraction.length : Int)) := by
  have hmark := n.mark_head isDigit ⟨by decide, by decide⟩
  rw [value, fraction, unsigned, mantissa, List.append_assoc, readDecimalParts?]
  -- The first run of digits ends at the point, or at the mark if there is no point.
  cases hpoint : n.point with
  | none =>
    obtain ⟨htake, hdrop⟩ := takeWhile_run isDigit n.whole n.mark n.whole_digits hmark
    simp only [List.nil_append, htake, hdrop, Option.getD_none, List.append_nil]
    rcases n.mark_cases with hnone | ⟨rest, hsome | hsome⟩
    · rw [hnone]
      exact if_neg fun hnil => n.whole_ne_nil hnil.1
    · rw [hsome]
      exact if_neg fun hnil => n.whole_ne_nil hnil.1
    · rw [hsome]
      exact if_neg fun hnil => n.whole_ne_nil hnil.1
  | some fraction =>
    have hfraction := n.point_digits fraction hpoint
    obtain ⟨htake, hdrop⟩ := takeWhile_run isDigit n.whole ('.' :: (fraction ++ n.mark))
      n.whole_digits (by rintro _ ⟨⟩; decide)
    obtain ⟨htake', hdrop'⟩ := takeWhile_run isDigit fraction n.mark hfraction hmark
    simp only [List.cons_append, htake, hdrop, htake', hdrop', Option.getD_some,
      digitsValue_append]
    exact if_neg fun hnil => n.whole_ne_nil hnil.1

theorem exists_whole : ∃ c cs, n.whole = c :: cs ∧ isDigit c = true := by
  obtain ⟨c, cs, hcons⟩ := List.exists_cons_of_ne_nil n.whole_ne_nil
  have hdigits := n.whole_digits
  rw [hcons, List.all_cons, Bool.and_eq_true] at hdigits
  exact ⟨c, cs, hcons, hdigits.1⟩

theorem splitSign_chars : splitSign n.chars = (n.negative, n.unsigned) := by
  obtain ⟨c, cs, hwhole, hc⟩ := n.exists_whole
  rw [chars]
  cases n.negative with
  | true => rfl
  | false =>
    have hunsigned : ∃ more, n.unsigned = c :: more := by
      rw [unsigned, mantissa, hwhole]
      exact ⟨_, rfl⟩
    obtain ⟨more, hmore⟩ := hunsigned
    have hminus : c ≠ '-' := by
      rintro rfl
      cases hc
    have hplus : c ≠ '+' := by
      rintro rfl
      cases hc
    rw [if_neg Bool.false_ne_true, hmore, splitSign]
    · exact fun _ h => hminus (List.cons.inj h).1
    · exact fun _ h => hplus (List.cons.inj h).1

theorem ofChars?_chars (e : Int) (h : readExponent? n.mark = some e) :
    Double.ofChars? n.chars = some (.ofScientific n.negative n.value (e - n.fraction.length)) := by
  rw [Double.ofChars?, n.splitSign_chars]
  dsimp only
  rw [n.readDecimalParts?_unsigned, h]
  rfl

/-- What holds of digits, the point and the minus sign holds of the text up to its exponent. -/
theorem all_mantissa (p : Char → Bool) (hdigit : ∀ c, isDigit c = true → p c = true)
    (hpoint : p '.' = true) : n.mantissa.all p = true := by
  have hall (cs : List Char) (hcs : cs.all isDigit = true) : cs.all p = true := by
    rw [List.all_eq_true] at hcs ⊢
    exact fun c hc => hdigit c (hcs c hc)
  have hdigits := n.point_digits
  rw [mantissa, List.all_append, hall _ n.whole_digits]
  cases hfraction : n.point with
  | none => rfl
  | some fraction =>
    dsimp only
    rw [List.all_cons, hpoint, hall fraction (hdigits fraction hfraction)]
    rfl

theorem chars_eq : n.chars = (if n.negative then ['-'] else []) ++ n.mantissa ++ n.mark := by
  rw [chars, unsigned]
  cases n.negative <;> rfl

theorem all_beforeMark (p : Char → Bool) (hdigit : ∀ c, isDigit c = true → p c = true)
    (hpoint : p '.' = true) (hminus : p '-' = true) :
    ((if n.negative then ['-'] else []) ++ n.mantissa).all p = true := by
  rw [List.all_append, n.all_mantissa p hdigit hpoint]
  cases n.negative with
  | true =>
    rw [if_pos rfl, List.all_cons, hminus]
    rfl
  | false => rfl

theorem isBlank_chars (h : ∀ c ∈ n.mark, Text.isBlank c = false) :
    ∀ c ∈ n.chars, Text.isBlank c = false := by
  have hbefore : ((if n.negative then ['-'] else []) ++ n.mantissa).all
      (fun c => !Text.isBlank c) = true := by
    apply n.all_beforeMark
    · intro c hc
      rw [Date.isBlank_of_isWritten c (Date.isWritten_of_digit c hc)]
      rfl
    · decide
    · decide
  intro c hc
  rw [chars_eq, List.mem_append] at hc
  rcases hc with hc | hc
  · have hblank := List.all_eq_true.mp hbefore c hc
    rwa [Bool.not_eq_true'] at hblank
  · exact h c hc

theorem isExponentMark_of_isDigit (c : Char) (h : isDigit c = true) :
    Decimal.isExponentMark c = false := by
  obtain ⟨hlow, hhigh⟩ := digit_bounds c h
  rw [Decimal.isExponentMark, Bool.or_eq_false_iff, beq_eq_false_iff_ne, beq_eq_false_iff_ne]
  constructor <;> rintro rfl
  · exact absurd hhigh (by decide)
  · exact absurd hhigh (by decide)

theorem noMark_beforeMark : ((if n.negative then ['-'] else []) ++ n.mantissa).all
    (fun c => !Decimal.isExponentMark c) = true := by
  apply n.all_beforeMark
  · intro c hc
    rw [isExponentMark_of_isDigit c hc]
    rfl
  · decide
  · decide

theorem filter_beforeMark :
    ((if n.negative then ['-'] else []) ++ n.mantissa).filter isDigit = n.whole ++ n.fraction := by
  have hself (cs : List Char) (hcs : cs.all isDigit = true) : cs.filter isDigit = cs :=
    List.filter_eq_self.mpr (List.all_eq_true.mp hcs)
  have hsign : (if n.negative then ['-'] else []).filter isDigit = [] := by
    cases n.negative <;> rfl
  have hdigits := n.point_digits
  rw [List.filter_append, hsign, List.nil_append, mantissa, List.filter_append,
    hself _ n.whole_digits, fraction]
  cases hpoint : n.point with
  | none => rfl
  | some fraction =>
    have hfraction : ('.' :: fraction).filter isDigit = fraction.filter isDigit := rfl
    dsimp only
    rw [hfraction, hself fraction (hdigits fraction hpoint), Option.getD_some]

/-- The digits that count are those before the exponent, without the zeros at both ends. -/
theorem significantDigits_chars : NumberValue.significantDigits n.chars =
    ((((n.whole ++ n.fraction).dropWhile (· == '0')).reverse).dropWhile (· == '0')).length := by
  have hrun := takeWhile_run (fun c => !Decimal.isExponentMark c) _ n.mark n.noMark_beforeMark
    (n.mark_head _ ⟨by decide, by decide⟩)
  rw [NumberValue.significantDigits, chars_eq, hrun.1, filter_beforeMark]

theorem length_trimmed_le (ds : List Char) (a b : Nat) :
    ((((List.replicate a '0' ++ ds ++ List.replicate b '0').dropWhile (· == '0')).reverse).dropWhile
      (· == '0')).length ≤ ds.length := by
  have hzeros (k : Nat) : ∀ c ∈ List.replicate k '0', (c == '0') = true := by
    intro c hc
    rw [List.eq_of_mem_replicate hc]
    rfl
  have htrailing (xs : List Char) :
      ((xs ++ List.replicate b '0').reverse.dropWhile (· == '0')).length ≤ xs.length := by
    rw [List.reverse_append, List.reverse_replicate, List.dropWhile_append_of_pos (hzeros b),
      ← xs.length_reverse]
    exact (List.dropWhile_suffix _).length_le
  rw [List.append_assoc, List.dropWhile_append_of_pos (hzeros a), List.dropWhile_append]
  -- If the digits are zeros themselves, the zeros behind them are dropped from the front.
  split
  · rw [List.dropWhile_eq_nil_iff.mpr (hzeros b)]
    exact Nat.zero_le _
  · exact (htrailing _).trans (List.dropWhile_suffix _).length_le

theorem integer?_chars_of_point (h : n.point.isSome = true) :
    NumberValue.integer? n.chars = none := by
  obtain ⟨fraction, hpoint⟩ := Option.isSome_iff_exists.mp h
  have hmem : '.' ∈ n.chars := by
    rw [chars_eq, mantissa, hpoint]
    simp
  rw [NumberValue.integer?, List.contains_iff_mem.mpr hmem]
  rfl

theorem readInt?_chars_of_mark (h : n.mark ≠ []) : readInt? n.chars = none := by
  have hdigits : n.unsigned.all isDigit = false := by
    rw [unsigned, List.all_append, Bool.and_eq_false_iff]
    rcases n.mark_cases with hnone | ⟨rest, hsome | hsome⟩
    · exact absurd hnone h
    · rw [hsome]
      exact .inr rfl
    · rw [hsome]
      exact .inr rfl
  rw [readInt?, splitSign_chars]
  dsimp only
  rw [readNat?, hdigits, if_neg fun hall => Bool.false_ne_true hall.2]
  rfl

theorem integer?_chars_of_mark (h : n.mark ≠ []) : NumberValue.integer? n.chars = none := by
  rw [NumberValue.integer?, n.readInt?_chars_of_mark h]
  exact ite_self none

section Whole

variable (hpoint : n.point = none) (hmark : n.mark = [])
include hpoint hmark

theorem unsigned_eq_whole : n.unsigned = n.whole := by
  rw [unsigned, mantissa, hpoint, hmark, List.append_nil]
  exact List.append_nil _

theorem readInt?_chars :
    readInt? n.chars = some (if n.negative then -(n.value : Int) else n.value) := by
  have hvalue : n.value = digitsValue 0 n.whole := by
    rw [value, fraction, hpoint]
    exact congrArg _ (List.append_nil _)
  rw [readInt?, splitSign_chars, n.unsigned_eq_whole hpoint hmark, hvalue]
  dsimp only
  rw [readNat?, if_pos ⟨n.whole_ne_nil, n.whole_digits⟩]
  rfl

theorem integer?_chars :
    NumberValue.integer? n.chars =
      ((int32? (if n.negative then -(n.value : Int) else n.value)).map NumberValue.int).or
        ((int64? (if n.negative then -(n.value : Int) else n.value)).map NumberValue.long) := by
  have hnone : n.chars.contains '.' = false := by
    have hwhole : '.' ∉ n.whole := fun hmem =>
      absurd (List.all_eq_true.mp n.whole_digits '.' hmem) (by decide)
    rw [Bool.eq_false_iff, ne_eq, List.contains_iff_mem, chars,
      n.unsigned_eq_whole hpoint hmark]
    split
    · exact List.not_mem_cons_of_ne_of_not_mem (by decide) hwhole
    · exact hwhole
  rw [NumberValue.integer?, hnone, n.readInt?_chars hpoint hmark]
  rfl

end Whole

end Numeral

namespace Decimal

theorem digit?_of_isDigit (c : Char) (h : isDigit c = true) :
    digit? c = some (c.toNat - '0'.toNat) := by
  rw [isDigit, Bool.and_eq_true, decide_eq_true_iff, decide_eq_true_iff] at h
  exact if_pos h

theorem le_digitsValue (start : Nat) (cs : List Char) : start ≤ digitsValue start cs :=
  (Nat.le_mul_of_pos_right start (Nat.pow_pos (by decide))).trans (mul_pow_le_digitsValue start cs)

theorem readFrom?_digits (negative afterPoint started : Bool) (m s : Nat) (ds rest : List Char)
    (hdigits : ds.all isDigit = true) (hvalue : digitsValue m ds < 79228162514264337593543950336)
    (hscale : afterPoint = true → s + ds.length ≤ 28) :
    readFrom? negative afterPoint started m s (ds ++ rest) =
      readFrom? negative afterPoint (started || !ds.isEmpty) (digitsValue m ds)
        (if afterPoint then s + ds.length else s) rest := by
  -- What was read so far fits since what will have been read fits.
  induction ds generalizing m s started with
  | nil =>
    rw [List.nil_append, List.isEmpty_nil, Bool.not_true, Bool.or_false]
    cases afterPoint <;> rfl
  | cons c ds ih =>
    rw [List.all_cons, Bool.and_eq_true] at hdigits
    have hpoint : c ≠ '.' := by
      rintro rfl
      exact absurd hdigits.1 (by decide)
    have hseparator : c ≠ '_' := by
      rintro rfl
      exact absurd hdigits.1 (by decide)
    have hfits : m * 10 + (c.toNat - '0'.toNat) < 79228162514264337593543950336 :=
      (le_digitsValue _ ds).trans_lt hvalue
    have hroom : (afterPoint && decide (s ≥ 28) && started) = false := by
      rw [List.length_cons] at hscale
      cases afterPoint with
      | false => rfl
      | true =>
        have hlt := hscale rfl
        rw [Bool.true_and, decide_eq_false (by omega), Bool.false_and]
    have hnext := ih true (m * 10 + (c.toNat - '0'.toNat)) (if afterPoint then s + 1 else s)
      hdigits.2 hvalue (fun hafter => by
        have hlt := hscale hafter
        rw [List.length_cons] at hlt
        rw [if_pos hafter]
        omega)
    rw [List.cons_append, readFrom?, hroom, if_neg Bool.false_ne_true, if_neg hpoint,
      if_neg hseparator, digit?_of_isDigit c hdigits.1]
    dsimp only
    rw [if_pos hfits, hnext, List.isEmpty_cons, Bool.not_false, Bool.or_true, Bool.true_or,
      List.length_cons]
    cases afterPoint with
    | false => rfl
    | true =>
      simp only [if_true]
      rw [Nat.add_right_comm]
      rfl

end Decimal

namespace Numeral

variable (n : Numeral) (hmark : n.mark = [])
include hmark

/-- A numeral without exponent is read as the decimal of its digits if these fit. -/
theorem decimal?_chars (excess : Decimal.Excess)
    (hvalue : n.value < 79228162514264337593543950336) (hscale : n.fraction.length ≤ 28) :
    NumberValue.decimal? excess n.chars =
      Decimal.ofParts? n.negative n.value n.fraction.length := by
  -- Without a mark the text is read in one go: digits, the point, and digits again.
  have hnone : n.chars.any Decimal.isExponentMark = false := by
    rw [chars_eq, hmark, List.append_nil, List.any_eq_not_all_not, n.noMark_beforeMark]
    rfl
  have hwhole : digitsValue 0 n.whole < 79228162514264337593543950336 := by
    rw [value, digitsValue_append] at hvalue
    exact (Decimal.le_digitsValue _ _).trans_lt hvalue
  have hdigits := Decimal.readFrom?_digits n.negative false false 0 0 n.whole
  have hstarted : (false || !n.whole.isEmpty) = true := by
    obtain ⟨c, cs, hcons, -⟩ := n.exists_whole
    rw [hcons]
    rfl
  rw [hstarted] at hdigits
  rw [NumberValue.decimal?, hnone, if_neg Bool.false_ne_true, Decimal.ofChars?, splitSign_chars]
  dsimp only
  rw [unsigned, hmark, List.append_nil, mantissa]
  rw [value, fraction] at hvalue ⊢
  rw [fraction] at hscale
  have hfraction := n.point_digits
  cases hpoint : n.point with
  | none =>
    rw [hdigits [] n.whole_digits hwhole nofun, Option.getD_none, List.append_nil]
    rfl
  | some fraction =>
    rw [hpoint, Option.getD_some] at hvalue hscale
    rw [digitsValue_append] at hvalue
    have hrest := Decimal.readFrom?_digits n.negative true true (digitsValue 0 n.whole) 0 fraction
      [] (hfraction fraction hpoint) hvalue (fun _ => by rwa [Nat.zero_add])
    rw [hdigits ('.' :: fraction) n.whole_digits hwhole nofun]
    rw [List.append_nil] at hrest
    refine hrest.trans ?_
    rw [Option.getD_some, digitsValue_append]
    simp only [if_true, Nat.zero_add]
    rfl

end Numeral

end CriteriaSearch
