import CriteriaSearch.Memory.Evaluation
import CriteriaSearch.Proofs.Calendar
import CriteriaSearch.Proofs.Calendar.Chronological
import Mathlib.Data.List.TakeWhile

namespace CriteriaSearch

namespace Date

theorem isBlank_of_isWritten (c : Char) (h : isWritten c = true) : Text.isBlank c = false := by
  simp only [isWritten, Bool.or_eq_true, beq_iff_eq] at h
  rcases h with ((((hdigit | rfl) | rfl) | rfl) | rfl) | rfl
  · obtain ⟨hlow, hhigh⟩ := digit_bounds c hdigit
    simp only [Text.isBlank, Bool.or_eq_false_iff, Bool.and_eq_false_iff, beq_eq_false_iff_ne,
      decide_eq_false_iff_not]
    omega
  all_goals decide

end Date

namespace Text

theorem skipBlank_eq_self (cs : List Char) (h : ∀ c ∈ cs, isBlank c = false) :
    skipBlank cs = cs := by
  cases cs with
  | nil => rfl
  | cons c cs => exact skipBlank_cons_of_not_blank (h c List.mem_cons_self)

theorem trimChars_eq_self (cs : List Char) (h : ∀ c ∈ cs, isBlank c = false) :
    trimChars cs = cs := by
  have hreverse : ∀ c ∈ cs.reverse, isBlank c = false := by
    intro c hc
    exact h c (List.mem_reverse.mp hc)
  rw [trimChars, skipBlank_eq_self cs h, skipBlank_eq_self _ hreverse, List.reverse_reverse]

end Text

namespace LayoutItem

/-- Digits within the width are read up to the first character that is none. -/
theorem digits?_run (width : Nat) (ds rest : List Char) (hne : ds ≠ [])
    (hds : ds.all isDigit = true) (hlength : ds.length ≤ width)
    (hrest : ∀ c ∈ rest.head?, isDigit c = false) :
    digits? width (ds ++ rest) = some (digitsValue 0 ds, rest) := by
  have hhead : ∀ c ∈ (rest.take (width - ds.length)).head?, isDigit c = false := by
    intro c hc
    rw [List.head?_take] at hc
    split at hc
    · cases hc
    · exact hrest c hc
  have hrun : ((ds ++ rest).take width).takeWhile isDigit = ds := by
    rw [List.take_append, List.take_of_length_le hlength]
    exact (takeWhile_run isDigit ds _ hds hhead).1
  rw [digits?]
  simp only [hrun, if_neg hne, List.drop_left']

theorem digits?_padded (width n : Nat) (rest : List Char) (hwidth : 0 < width)
    (hn : n < 10 ^ width) : digits? width (Date.padded width n ++ rest) = some (n, rest) := by
  have htake := Date.take_padded width n rest hwidth hn
  have hrun : (Date.padded width n).takeWhile isDigit = Date.padded width n :=
    List.takeWhile_eq_self_iff.mpr (List.all_eq_true.mp (Date.all_isDigit_padded width n))
  have hdrop : (Date.padded width n ++ rest).drop (Date.padded width n).length = rest :=
    List.drop_left' rfl
  have hvalue := Date.digitsValue_padded width n
  rw [digits?]
  simp only [htake, hrun, if_neg (Date.padded_ne_nil width n), hdrop, hvalue]

theorem skipBlank_padded (width n : Nat) (rest : List Char) :
    Text.skipBlank (Date.padded width n ++ rest) = Date.padded width n ++ rest := by
  obtain ⟨c, cs, hcons, hdigit⟩ := Date.padded_eq_cons width n
  rw [hcons, List.cons_append]
  exact Text.skipBlank_cons_of_not_blank
    (Date.isBlank_of_isWritten c (Date.isWritten_of_digit c hdigit))

theorem upTo?_padded (most n : Nat) (rest : List Char) (hn : n < 100) (hmost : n ≤ most) :
    upTo? most (Date.padded 2 n ++ rest) = some (n, rest) := by
  rw [upTo?, skipBlank_padded, digits?_padded 2 n rest (by decide) hn, Option.bind_some]
  exact if_pos hmost

theorem year?_padded (n : Nat) (rest : List Char) (hn : n < 10000) :
    year? (Date.padded 4 n ++ rest) = some ((n : Int), rest) := by
  obtain ⟨c, cs, hcons, hdigit⟩ := Date.padded_eq_cons 4 n
  have hread := digits?_padded 4 n rest (by decide) hn
  rw [year?, skipBlank_padded]
  rw [hcons, List.cons_append] at hread ⊢
  -- The first character is a digit, so that the year has no sign.
  split
  · next hminus =>
    rw [(List.cons.inj hminus).1] at hdigit
    exact absurd hdigit (by decide)
  · next hplus =>
    rw [(List.cons.inj hplus).1] at hdigit
    exact absurd hdigit (by decide)
  · rw [hread, Option.map_some]

/-- A written year is read up to the hyphen behind it, with or without a sign. -/
theorem year?_yearChars (year : Int) (rest : List Char) :
    year? (Date.yearChars year ++ '-' :: rest) = some (year, '-' :: rest) := by
  -- Behind a sign the digits may be as many as there are.
  have hsigned : digits? (Date.padded 4 year.natAbs ++ '-' :: rest).length
      (Date.padded 4 year.natAbs ++ '-' :: rest) = some (year.natAbs, '-' :: rest) := by
    obtain ⟨c, cs, hcons, -⟩ := Date.padded_eq_cons 4 year.natAbs
    have hread := digits?_run (Date.padded 4 year.natAbs ++ '-' :: rest).length
      (Date.padded 4 year.natAbs) ('-' :: rest) (by rw [hcons]; exact List.cons_ne_nil c cs)
      (Date.all_isDigit_padded 4 _) (by rw [List.length_append]; omega)
      (by intro c hc; cases hc; rfl)
    rwa [Date.digitsValue_padded] at hread
  rw [Date.yearChars]
  split
  · next hneg =>
    rw [List.cons_append, year?, Text.skipBlank_cons_of_not_blank (by decide)]
    simp only [hsigned, Option.map_some, Option.some.injEq, Prod.mk.injEq, and_true]
    omega
  · split
    · next hlarge =>
      rw [List.cons_append, year?, Text.skipBlank_cons_of_not_blank (by decide)]
      simp only [hsigned, Option.map_some, Option.some.injEq, Prod.mk.injEq, and_true]
      omega
    · rw [year?_padded year.natAbs _ (by omega)]
      simp only [Option.some.injEq, Prod.mk.injEq, and_true]
      omega

theorem nanos?_point (digits : List Char) (zeros : Nat) (hne : digits ≠ [])
    (hdigits : digits.all isDigit = true)
    (hlength : (digits ++ List.replicate zeros '0').length = 9) :
    nanos? digits = some (digitsValue 0 (digits ++ List.replicate zeros '0'), []) := by
  rw [List.length_append, List.length_replicate] at hlength
  have hrun : digits.takeWhile isDigit = digits :=
    List.takeWhile_eq_self_iff.mpr (List.all_eq_true.mp hdigits)
  have hkept : digits.take 9 = digits := List.take_of_length_le (by omega)
  have hzeros : 9 - digits.length = zeros := by omega
  rw [nanos?, digitsValue_append_zeros]
  simp only [hrun, hkept, if_neg hne, hzeros, List.drop_length]
  rfl

theorem nanos?_millis (m : Nat) (hm : m < 1000) (rest : List Char)
    (hrest : rest.takeWhile isDigit = []) :
    nanos? (Date.padded 3 m ++ rest) = some (m * 1000000, rest) := by
  have hlength := Date.length_padded 3 m (by decide) (by omega)
  have hall := List.all_eq_true.mp (Date.all_isDigit_padded 3 m)
  have hrun : (Date.padded 3 m ++ rest).takeWhile isDigit = Date.padded 3 m := by
    rw [List.takeWhile_append_of_pos hall, hrest, List.append_nil]
  have hkept : (Date.padded 3 m).take 9 = Date.padded 3 m := List.take_of_length_le (by omega)
  have hdrop := Date.drop_padded 3 m rest (by decide) (by omega)
  rw [nanos?]
  simp only [hrun, hkept, if_neg (Date.padded_ne_nil 3 m), Date.digitsValue_padded, hlength, hdrop]

theorem read?_literal (c : Char) (p : DateParts) (rest : List Char) :
    (literal c).read? p (c :: rest) = some (p, rest) := if_pos rfl

end LayoutItem

namespace Layout

open LayoutItem

theorem parts?_cons {item : LayoutItem} {p q : DateParts} {cs rest : List Char} (items : Layout)
    (h : item.read? p cs = some (q, rest)) : parts? (item :: items) p cs = parts? items q rest := by
  rw [parts?, h, Option.bind_some]

theorem upTo?_digits (most : Nat) (a b c : Char) (rest : List Char) (ha : isDigit a = true)
    (hb : isDigit b = true) :
    upTo? most (a :: b :: c :: rest) =
      if digitsValue 0 [a, b] ≤ most then some (digitsValue 0 [a, b], c :: rest) else none := by
  have hblank := Date.isBlank_of_isWritten a (Date.isWritten_of_digit a ha)
  rw [upTo?, Text.skipBlank_cons_of_not_blank hblank, LayoutItem.digits?]
  simp only [List.take_succ_cons, List.take_zero, List.takeWhile_cons, ha, hb, if_true,
    List.takeWhile_nil]
  rfl

/-- A layout that starts with the day stops at the third digit of a year. -/
theorem parts?_day_of_digits (separator : Char) (items : Layout) (a b c : Char) (rest : List Char)
    (ha : isDigit a = true) (hb : isDigit b = true) (hne : separator ≠ c) :
    parts? (.day :: .literal separator :: items) .empty (a :: b :: c :: rest) = none := by
  have hread := upTo?_digits 31 a b c rest ha hb
  by_cases hday : digitsValue 0 [a, b] ≤ 31
  · rw [if_pos hday] at hread
    have hitem : LayoutItem.day.read? .empty (a :: b :: c :: rest) =
        some ({ DateParts.empty with day := some (digitsValue 0 [a, b]) }, c :: rest) := by
      rw [read?, hread]
      rfl
    rw [parts?_cons _ hitem, parts?, read?, if_neg hne]
    rfl
  · rw [if_neg hday] at hread
    rw [parts?, read?, hread]
    rfl

theorem parts?_isoDate (d : Date) (items : Layout) (rest : List Char) :
    parts? (isoDate ++ items) .empty (d.chars ++ rest) =
      parts? items ⟨some d.year, some d.month, some d.day, none, none, none, none⟩ rest := by
  have hmonth := d.month_bounds.2
  have hday := d.day_le
  rw [Date.chars, isoDate]
  simp only [List.append_assoc, List.cons_append, List.nil_append, parts?, read?, year?_yearChars,
    Option.map_some, Option.bind_some, if_true, upTo?_padded 12 d.month _ (by omega) hmonth,
    upTo?_padded 31 d.day _ (by omega) hday]
  rfl

theorem parts?_clock (h i s : Nat) (hh : h < 24) (hi : i < 60) (hs : s ≤ 60) (p : DateParts)
    (items : Layout) (rest : List Char) :
    parts? (clock ++ items) p (DateTime.clockOf h i s ++ rest) =
      parts? items { p with hour := some h, minute := some i, second := some s } rest := by
  rw [DateTime.clockOf, clock]
  simp only [List.cons_append, List.nil_append, List.append_assoc, parts?, read?, Option.map_some,
    Option.bind_some, if_true, upTo?_padded 23 h _ (by omega) (by omega),
    upTo?_padded 59 i _ (by omega) (by omega), upTo?_padded 60 s _ (by omega) (by omega)]

end Layout

namespace DateParts

/-- The numbers that are shown of a date-time name it. A leap second must be the last of its
minute, so that it is shown as second sixty. -/
theorem dateTime?_shown (t : DateTime) (hleap : 1000000000 ≤ t.nano → t.second % 60 = 59)
    (nano : Option Nat) (hnano : nano.getD 0 = t.shownNano) :
    dateTime? ⟨some t.date.year, some t.date.month, some t.date.day, some (t.second / 3600),
      some (t.second / 60 % 60), some (t.second % 60 + t.nano / nanosPerSecond), nano⟩ =
        some t := by
  have hdate := t.date.ofParts?_self
  have hsecond := t.second_lt
  have hlt := t.nano_lt
  have hself : DateTime.ofParts? t.date t.second t.nano = some t := by
    rw [DateTime.ofParts?, dif_pos ⟨t.second_lt, t.nano_lt⟩]
  unfold DateTime.shownNano nanosPerSecond at hnano
  simp only [dateTime?, date?, Option.bind_eq_bind, Option.bind_some, hdate, Option.getD_some,
    hnano, nanosPerSecond]
  rcases Nat.lt_or_ge t.nano 1000000000 with hplain | hlarge
  · rw [if_neg (by omega), Nat.div_eq_of_lt hplain, Nat.mod_eq_of_lt hplain]
    convert hself using 2
    omega
  · have hlast := hleap hlarge
    rw [if_pos (by omega)]
    convert hself using 2 <;> omega

end DateParts

namespace DateTime

open LayoutItem Layout

theorem IsPlain.nano_eq {t : DateTime} (h : t.IsPlain) : t.nano = t.millis * 1000000 := by
  have := h.whole_millis
  unfold millis
  omega

theorem IsPlain.leap {t : DateTime} (h : t.IsPlain) :
    1000000000 ≤ t.nano → t.second % 60 = 59 := fun hlarge => absurd h.nano_lt (not_lt.mpr hlarge)

theorem clockChars_eq (t : DateTime) :
    t.clockChars = clockOf (t.second / 3600) (t.second / 60 % 60)
      (t.second % 60 + t.nano / nanosPerSecond) := rfl

theorem fraction_read (n : Nat) (hn : n < 1000000000) (p : DateParts) (hp : p.nano = none) :
    ∃ nano : Option Nat, nano.getD 0 = n ∧
      LayoutItem.fraction.read? p (fractionChars n) = some ({ p with nano := nano }, []) := by
  by_cases hzero : n = 0
  · refine ⟨none, hzero.symm, ?_⟩
    rw [fractionChars, if_pos hzero, ← hp]
    rfl
  · obtain ⟨digits, zeros, hchars, hdigits, hlength, hvalue⟩ := fractionChars_eq_point n hzero hn
    have hne : digits ≠ [] := by
      rintro rfl
      rw [List.nil_append, digitsValue_zeros] at hvalue
      exact hzero hvalue.symm
    have hread := nanos?_point digits zeros hne hdigits hlength
    refine ⟨some n, rfl, ?_⟩
    rw [hchars, read?]
    simp only [hread, hvalue, Option.map_some]

/-- The first layout reads a written date-time, if a leap second is the last of its minute. -/
theorem layout_chars (t : DateTime) (hleap : 1000000000 ≤ t.nano → t.second % 60 = 59) :
    Layout.dateTime? (isoDate ++ [.literal 'T'] ++ clock ++ [.fraction]) t.chars = some t := by
  have hsecond := t.second_lt
  have hlt := t.nano_lt
  have hlast : t.second % 60 + t.nano / nanosPerSecond ≤ 60 := by
    unfold nanosPerSecond
    omega
  obtain ⟨nano, hnano, hread⟩ := fraction_read t.shownNano (Nat.mod_lt _ (by decide))
    ⟨some t.date.year, some t.date.month, some t.date.day, some (t.second / 3600),
      some (t.second / 60 % 60), some (t.second % 60 + t.nano / nanosPerSecond), none⟩ rfl
  rw [Layout.dateTime?, chars, clockChars_eq, List.append_assoc, List.append_assoc,
    List.append_assoc, parts?_isoDate t.date, List.cons_append, List.cons_append, List.nil_append,
    parts?_cons _ (read?_literal 'T' _ _), parts?_clock _ _ _ (by omega) (by omega) hlast,
    parts?_cons _ hread, parts?, Option.bind_some]
  exact DateParts.dateTime?_shown t hleap nano hnano

theorem layout_dateChars (d : Date) (hnonneg : 0 ≤ d.year) (hle : d.year ≤ 9999) (layout : Layout)
    (hlayout : layout ∈ dateTimes) : layout.dateTime? d.chars = none := by
  have hiso (items : Layout) (hitems : ∀ p, parts? items p [] = none) :
      Layout.dateTime? (isoDate ++ items) d.chars = none := by
    have hread := parts?_isoDate d items []
    rw [List.append_nil] at hread
    rw [Layout.dateTime?, hread, hitems, Option.bind_none]
  have hdayFirst (separator : Char) (hseparator : isDigit separator = false) :
      Layout.dateTime? (dayFirst separator) d.chars = none := by
    have hyear := d.chars_eq hnonneg hle
    have hlength := Date.length_padded 4 d.year.toNat (by decide) (by omega)
    have hdigits := Date.all_isDigit_padded 4 d.year.toNat
    -- The day takes the first two digits of the year, and the third is no separator.
    generalize Date.padded 4 d.year.toNat = digits at hyear hlength hdigits
    obtain ⟨a, b, c, e, rfl⟩ := List.length_eq_four.mp hlength
    simp only [List.all_cons, Bool.and_eq_true] at hdigits
    obtain ⟨ha, hb, hc, -⟩ := hdigits
    have hne : separator ≠ c := by
      rintro rfl
      rw [hc] at hseparator
      cases hseparator
    rw [hyear, Layout.dateTime?, dayFirst]
    simp only [List.cons_append]
    rw [parts?_day_of_digits _ _ a b c _ ha hb hne]
    rfl
  simp only [dateTimes, List.mem_cons, List.not_mem_nil, or_false] at hlayout
  rcases hlayout with rfl | rfl | rfl | rfl | rfl
  · rw [List.append_assoc, List.append_assoc]
    exact hiso _ fun p => rfl
  · exact hiso _ fun p => rfl
  · rw [List.append_assoc]
    exact hiso _ fun p => rfl
  · exact hdayFirst '-' rfl
  · exact hdayFirst '/' rfl

theorem isBlank_of_mem_padded (width n : Nat) : ∀ c ∈ Date.padded width n,
    Text.isBlank c = false := by
  intro c hc
  have hdigit := List.all_eq_true.mp (Date.all_isDigit_padded width n) c hc
  exact Date.isBlank_of_isWritten c (Date.isWritten_of_digit c hdigit)

theorem isBlank_of_mem_dateChars (d : Date) : ∀ c ∈ d.chars, Text.isBlank c = false := by
  have hhyphen : Text.isBlank '-' = false := rfl
  have hplus : Text.isBlank '+' = false := rfl
  have hyear : ∀ c ∈ Date.yearChars d.year, Text.isBlank c = false := by
    rw [Date.yearChars]
    split
    · exact List.forall_mem_cons.mpr ⟨hhyphen, isBlank_of_mem_padded 4 _⟩
    · split
      · exact List.forall_mem_cons.mpr ⟨hplus, isBlank_of_mem_padded 4 _⟩
      · exact isBlank_of_mem_padded 4 _
  simp only [Date.chars, List.forall_mem_append, List.forall_mem_cons]
  exact ⟨⟨hyear, hhyphen, isBlank_of_mem_padded 2 _⟩, hhyphen, isBlank_of_mem_padded 2 _⟩

theorem isBlank_of_mem_chars (t : DateTime) : ∀ c ∈ t.chars, Text.isBlank c = false := by
  have hletter : Text.isBlank 'T' = false := rfl
  have hcolon : Text.isBlank ':' = false := rfl
  have hpoint : Text.isBlank '.' = false := rfl
  have hclock : ∀ c ∈ t.clockChars, Text.isBlank c = false := by
    simp only [clockChars, List.forall_mem_append, List.forall_mem_cons]
    exact ⟨⟨isBlank_of_mem_padded 2 _, hcolon, isBlank_of_mem_padded 2 _⟩, hcolon,
      isBlank_of_mem_padded 2 _⟩
  have hfraction : ∀ c ∈ fractionChars t.shownNano, Text.isBlank c = false := by
    rw [fractionChars]
    split
    · exact List.forall_mem_nil _
    · split
      · exact List.forall_mem_cons.mpr ⟨hpoint, isBlank_of_mem_padded 3 _⟩
      · split
        · exact List.forall_mem_cons.mpr ⟨hpoint, isBlank_of_mem_padded 6 _⟩
        · exact List.forall_mem_cons.mpr ⟨hpoint, isBlank_of_mem_padded 9 _⟩
  simp only [chars, List.forall_mem_append, List.forall_mem_cons]
  exact ⟨⟨isBlank_of_mem_dateChars t.date, hletter, hclock⟩, hfraction⟩

/-- A date-time whose leap second, if it is one, is the last of its minute is read from its text. -/
theorem ofText?_chars (t : DateTime) (hleap : 1000000000 ≤ t.nano → t.second % 60 = 59) :
    DateTime.ofText? (String.ofList t.chars) = some t := by
  rw [ofText?, String.toList_ofList, Text.trimChars_eq_self _ (isBlank_of_mem_chars t)]
  simp only [dateTimes, List.findSome?_cons, layout_chars t hleap]
  rfl

theorem ofText?_dateChars (d : Date) (h : (midnight d).IsPlain) :
    DateTime.ofText? (String.ofList d.chars) = some (midnight d) := by
  have hnone : (dateTimes.findSome? fun layout => layout.dateTime? d.chars) = none :=
    List.findSome?_eq_none_iff.mpr (layout_dateChars d h.year_nonneg h.year_le)
  have hread := parts?_isoDate d [] []
  rw [List.append_nil, List.append_nil] at hread
  have hdate : Layout.date? isoDate d.chars = some d := by
    rw [Layout.date?, hread, parts?, Option.bind_some, DateParts.date?]
    exact d.ofParts?_self
  rw [ofText?, String.toList_ofList, Text.trimChars_eq_self _ (isBlank_of_mem_dateChars d), hnone,
    hdate]
  rfl

theorem ofText_eq_ok_iff (s : String) (t : DateTime) :
    DateTime.ofText s = .ok t ↔ ofText? s = some t := by
  rw [ofText]
  cases ofText? s <;> simp

/-- A date-time that is read from a text, in whichever layout, is read again from its own text. -/
theorem ofText_displayed (s : String) (t : DateTime) (h : DateTime.ofText s = .ok t) :
    DateTime.ofText (FieldValue.dateTime t).display = .ok t := by
  have hleap := ofText?_leap s t ((ofText_eq_ok_iff s t).mp h)
  exact (ofText_eq_ok_iff _ t).mpr (ofText?_chars t hleap)

def idesOfMarch : DateTime :=
  ⟨⟨-44, 3, 15, by decide, by decide, by decide⟩, 37859, 1000000000, by decide, by decide⟩

/-- The day comes first in the one text and last in the other, where the year has more digits. -/
theorem ofText_displayed_ides :
    DateTime.ofText " 15/3/-44 10:30:60" = .ok idesOfMarch ∧
      (FieldValue.dateTime idesOfMarch).display = "-0044-03-15T10:30:60" ∧
      DateTime.ofText "-0044-03-15T10:30:60" = .ok idesOfMarch := by
  have hread : DateTime.ofText " 15/3/-44 10:30:60" = .ok idesOfMarch := by rfl
  exact ⟨hread, rfl, ofText_displayed " 15/3/-44 10:30:60" idesOfMarch hread⟩

end DateTime

namespace Zoned

theorem fixed?_padded (width most n : Nat) (rest : List Char) (hwidth : 0 < width)
    (hn : n < 10 ^ width) (hmost : n ≤ most) :
    fixed? width most (Date.padded width n ++ rest) = some (n, rest) := by
  have hlength := Date.length_padded width n hwidth hn
  have hvalue := Date.digitsValue_padded width n
  have hall := Date.all_isDigit_padded width n
  rw [fixed?]
  simp only [Date.take_padded width n rest hwidth hn, Date.drop_padded width n rest hwidth hn,
    hvalue]
  exact if_pos ⟨hlength, hall, hmost⟩

theorem local?_dateChars (d : Date) (hnonneg : 0 ≤ d.year) (hle : d.year ≤ 9999) :
    local? d.chars = none := by
  have hmonth := d.month_bounds.2
  have hday := d.day_le
  rw [d.chars_eq hnonneg hle, local?, fixed?_padded 4 9999 _ _ (by decide) (by omega) (by omega)]
  simp only [Option.bind_eq_bind, Option.bind_some, char?, beq_self_eq_true, if_true]
  rw [fixed?_padded 2 12 _ _ (by decide) (by omega) hmonth]
  simp only [Option.bind_some, beq_self_eq_true, if_true]
  rw [← List.append_nil (Date.padded 2 d.day), fixed?_padded 2 31 _ _ (by decide) (by omega) hday]
  rfl

/-- The date and the clock of a written date-time are read whatever zone follows them. -/
theorem local?_chars {t : DateTime} (h : t.IsPlain) (zone : List Char)
    (hzone : zone = [] ∨ zone = ['Z']) : local? (t.chars ++ zone) = some (t, zone) := by
  have hnonneg := h.year_nonneg
  have hle := h.year_le
  have hmonth := t.date.month_bounds.2
  have hday := t.date.day_le
  have hsecond := t.second_lt
  have hyear : ((t.date.year.toNat : Nat) : Int) = t.date.year := Int.toNat_of_nonneg hnonneg
  have hparts := DateParts.dateTime?_shown t h.leap (some t.nano) h.shownNano_eq.symm
  have hwhole : t.nano / nanosPerSecond = 0 := Nat.div_eq_of_lt h.nano_lt
  rw [hwhole, Nat.add_zero] at hparts
  have hpoint (rest : List Char) : zone ≠ '.' :: rest := by
    rcases hzone with rfl | rfl
    · exact (List.cons_ne_nil _ _).symm
    · intro heq
      exact absurd (List.cons.inj heq).1 (by decide)
  rw [h.chars_eq, t.date.chars_eq hnonneg hle, DateTime.clockOf]
  simp only [List.append_assoc, List.cons_append]
  rw [local?, fixed?_padded 4 9999 _ _ (by decide) (by omega) (by omega)]
  simp only [Option.bind_eq_bind, Option.bind_some, char?, beq_self_eq_true, if_true]
  rw [fixed?_padded 2 12 _ _ (by decide) (by omega) hmonth]
  simp only [Option.bind_some, beq_self_eq_true, if_true]
  rw [fixed?_padded 2 31 _ _ (by decide) (by omega) hday]
  simp only [Option.bind_some, beq_self_eq_true, Bool.true_or, if_true]
  rw [fixed?_padded 2 23 _ _ (by decide) (by omega) (by omega)]
  simp only [Option.bind_some, beq_self_eq_true, if_true]
  rw [fixed?_padded 2 59 _ _ (by decide) (by omega) (by omega)]
  simp only [Option.bind_some, beq_self_eq_true, if_true]
  rw [fixed?_padded 2 60 _ _ (by decide) (by omega) (by omega)]
  simp only [Option.bind_some, hyear]
  -- A fraction is there exactly if the milliseconds are not zero.
  by_cases hzero : t.millis = 0
  · have hnano : t.nano = 0 := by rw [h.nano_eq, hzero]
    rw [DateTime.millisFraction, if_pos hzero, List.nil_append]
    split
    · next rest => exact absurd rfl (hpoint rest)
    · rw [← hnano, hparts]
      rfl
  · have hread := LayoutItem.nanos?_millis t.millis h.millis_lt zone
      (by rcases hzone with rfl | rfl <;> rfl)
    rw [DateTime.millisFraction, if_neg hzero, List.cons_append]
    simp only [hread, Option.bind_some, ← h.nano_eq, hparts]

end Zoned

namespace DateTime

theorem addSeconds?_zero (t : DateTime) : t.addSeconds? 0 = some t := by
  have hsecond := t.second_lt
  have hday : (t.date.dayNumber * (secondsPerDay : Int) + t.second + 0).fdiv secondsPerDay =
      t.date.dayNumber := by
    rw [Int.fdiv_eq_ediv_of_nonneg _ (by decide), secondsPerDay]
    omega
  have hrest : ((t.date.dayNumber * (secondsPerDay : Int) + t.second + 0).fmod
      secondsPerDay).toNat = t.second := by
    rw [Int.fmod_eq_emod_of_nonneg _ (by decide), secondsPerDay]
    omega
  rw [addSeconds?]
  simp only [hday, hrest, Date.ofDayNumber?_dayNumber, Option.bind_some]
  rw [ofParts?, dif_pos ⟨t.second_lt, t.nano_lt⟩]

end DateTime

theorem Json.dateTime?_writes {t : DateTime} {cs : List Char} (hw : t.Writes cs) (h : t.IsPlain) :
    Json.dateTime? (String.ofList cs) = some t := by
  rw [Json.dateTime?, String.toList_ofList]
  cases hw with
  | date d =>
    have hnone : DateTime.ofZoned? d.chars = none := by
      rw [DateTime.ofZoned?, Zoned.local?_dateChars d h.year_nonneg h.year_le]
      rfl
    rw [hnone, DateTime.ofText?_dateChars d h]
    rfl
  | clock =>
    have hlocal := Zoned.local?_chars h [] (.inl rfl)
    rw [List.append_nil] at hlocal
    have hnone : DateTime.ofZoned? t.chars = none := by
      rw [DateTime.ofZoned?, hlocal]
      rfl
    rw [hnone, DateTime.ofText?_chars t h.leap]
    rfl
  | utc =>
    have hzoned : DateTime.ofZoned? (t.chars ++ ['Z']) = some t := by
      rw [DateTime.ofZoned?, Zoned.local?_chars h ['Z'] (.inr rfl)]
      exact t.addSeconds?_zero
    rw [hzoned]
    rfl

end CriteriaSearch
