import CriteriaSearch.Calendar.DateTime
import CriteriaSearch.Proofs.Digits

namespace CriteriaSearch

namespace DateTime

/-- A date-time of a year with four digits in whole milliseconds, which is no leap second. -/
structure IsPlain (t : DateTime) : Prop where
  year_nonneg : 0 ≤ t.date.year
  year_le : t.date.year ≤ 9999
  nano_lt : t.nano < 1000000000
  whole_millis : t.nano % 1000000 = 0

/-- The text writes the date-time: a date alone for its midnight, or the date and the clock, of
which the letter Z tells that it is universal time. -/
inductive Writes : DateTime → List Char → Prop
  | date (d : Date) : Writes (midnight d) d.chars
  | clock (t : DateTime) : Writes t t.chars
  | utc (t : DateTime) : Writes t (t.chars ++ ['Z'])

def millis (t : DateTime) : Nat := t.nano / 1000000

def millisFraction (m : Nat) : List Char := if m = 0 then [] else '.' :: Date.padded 3 m

def clockOf (hour minute second : Nat) : List Char :=
  Date.padded 2 hour ++ ':' :: Date.padded 2 minute ++ ':' :: Date.padded 2 second

namespace IsPlain

variable {t : DateTime} (h : t.IsPlain)
include h

theorem millis_lt : t.millis < 1000 := by
  have := h.nano_lt
  unfold millis
  omega

theorem shownNano_eq : t.shownNano = t.nano := by
  have := h.nano_lt
  unfold shownNano nanosPerSecond
  omega

theorem clockChars_eq :
    t.clockChars = clockOf (t.second / 3600) (t.second / 60 % 60) (t.second % 60) := by
  have hnano : t.nano / nanosPerSecond = 0 := Nat.div_eq_of_lt h.nano_lt
  rw [clockChars, hnano, Nat.add_zero, clockOf]

theorem fractionChars_eq : fractionChars t.shownNano = millisFraction t.millis := by
  have hwhole := h.whole_millis
  rw [h.shownNano_eq, fractionChars, millisFraction, millis]
  by_cases hzero : t.nano = 0
  · rw [if_pos hzero, if_pos (by omega)]
  · rw [if_neg hzero, if_pos hwhole, if_neg (by omega)]

theorem chars_eq : t.chars = t.date.chars ++
    'T' :: (clockOf (t.second / 3600) (t.second / 60 % 60) (t.second % 60) ++
      millisFraction t.millis) := by
  rw [chars, h.clockChars_eq, h.fractionChars_eq, List.append_assoc, List.cons_append]

theorem millisChars_eq : t.millisChars = t.date.chars ++
    'T' :: (clockOf (t.second / 3600) (t.second / 60 % 60) (t.second % 60) ++
      '.' :: Date.padded 3 t.millis) := by
  rw [millisChars, h.clockChars_eq, h.shownNano_eq, ← millis, List.append_assoc, List.cons_append]

end IsPlain

end DateTime

namespace Date

theorem chars_eq (d : Date) (hnonneg : 0 ≤ d.year) (hle : d.year ≤ 9999) :
    d.chars = padded 4 d.year.toNat ++ '-' :: (padded 2 d.month ++ '-' :: padded 2 d.day) := by
  have habs : d.year.natAbs = d.year.toNat := by omega
  rw [chars, yearChars, if_neg (by omega), if_neg (by omega), habs, List.append_assoc,
    List.cons_append]

def isWritten (c : Char) : Bool :=
  isDigit c || c == '-' || c == ':' || c == '.' || c == 'T' || c == 'Z'

theorem isWritten_of_digit (c : Char) (h : isDigit c = true) : isWritten c = true := by
  simp only [isWritten, h, Bool.true_or]

theorem all_isWritten_padded (width n : Nat) : (padded width n).all isWritten = true := by
  have hall := all_isDigit_padded width n
  rw [List.all_eq_true] at hall ⊢
  intro c hc
  exact isWritten_of_digit c (hall c hc)

theorem all_isWritten_chars (d : Date) (hnonneg : 0 ≤ d.year) (hle : d.year ≤ 9999) :
    d.chars.all isWritten = true := by
  have hhyphen : isWritten '-' = true := rfl
  rw [d.chars_eq hnonneg hle]
  simp only [List.all_append, List.all_cons, all_isWritten_padded, hhyphen, Bool.and_self]

theorem toNat_ne_zero_of_isWritten (c : Char) (h : isWritten c = true) : c.toNat ≠ 0 := by
  simp only [isWritten, Bool.or_eq_true, beq_iff_eq] at h
  rcases h with ((((hdigit | rfl) | rfl) | rfl) | rfl) | rfl
  · have := digit_bounds c hdigit
    omega
  all_goals decide

theorem day_le (d : Date) : d.day ≤ 31 := by
  have hday := d.day_bounds.2
  unfold daysInMonth at hday
  split at hday
  · split at hday <;> omega
  · split at hday <;> omega

end Date

namespace DateTime

open Date

theorem all_isWritten_millisFraction (m : Nat) : (millisFraction m).all isWritten = true := by
  have hpoint : isWritten '.' = true := rfl
  unfold millisFraction
  split
  · rfl
  · rw [List.all_cons, hpoint, all_isWritten_padded, Bool.and_self]

theorem all_isWritten_clockOf (h i s : Nat) : (clockOf h i s).all isWritten = true := by
  have hcolon : isWritten ':' = true := rfl
  simp only [clockOf, List.all_append, List.all_cons, all_isWritten_padded, hcolon, Bool.and_self]

theorem IsPlain.all_isWritten_chars {t : DateTime} (h : t.IsPlain) :
    t.chars.all isWritten = true := by
  have hletter : isWritten 'T' = true := rfl
  rw [h.chars_eq]
  simp only [List.all_append, List.all_cons, hletter, all_isWritten_clockOf,
    all_isWritten_millisFraction, t.date.all_isWritten_chars h.year_nonneg h.year_le, Bool.and_self]

theorem Writes.all_isWritten {t : DateTime} {cs : List Char} (hw : t.Writes cs) (h : t.IsPlain) :
    cs.all isWritten = true := by
  cases hw with
  | date d => exact d.all_isWritten_chars h.year_nonneg h.year_le
  | clock => exact h.all_isWritten_chars
  | utc =>
    have hletter : isWritten 'Z' = true := rfl
    simp only [List.all_append, h.all_isWritten_chars, List.all_cons, hletter, List.all_nil,
      Bool.and_self]

end DateTime

end CriteriaSearch
