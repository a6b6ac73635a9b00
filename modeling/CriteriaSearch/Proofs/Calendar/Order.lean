import CriteriaSearch.Proofs.Calendar.Written
import CriteriaSearch.Value
import Mathlib.Data.Int.Order.Basic
import Mathlib.Data.Nat.Basic
import Mathlib.Order.Compare

/-!
# The order of written dates

Texts in milliseconds have the order of their date-times, since every part of them has a fixed width
and a larger part comes before a smaller one. What is finer than a millisecond is lost, and a second
sixty comes after all seconds of its minute.
-/

namespace CriteriaSearch

def compareChars (as bs : List Char) : Ordering :=
  if as < bs then .lt else if as = bs then .eq else .gt

theorem compareText_ofList (as bs : List Char) :
    compareText (String.ofList as) (String.ofList bs) = compareChars as bs := by
  have hlt : String.ofList as < String.ofList bs ↔ as < bs := by
    rw [String.lt_iff, String.toList_ofList, String.toList_ofList]
  have heq : String.ofList as = String.ofList bs ↔ as = bs := String.ofList_inj
  simp only [compareText, compareChars, hlt, heq]

theorem compareChars_cons (a b : Char) (as bs : List Char) :
    compareChars (a :: as) (b :: bs) =
      (Ord.compare a.toNat b.toNat).then (compareChars as bs) := by
  have hlt : a < b ↔ a.toNat < b.toNat := by
    rw [Char.lt_def, UInt32.lt_iff_toNat_lt]
    rfl
  unfold compareChars
  simp only [List.cons_lt_cons_iff, List.cons.injEq, hlt, ← Char.toNat_inj]
  rcases Nat.lt_trichotomy a.toNat b.toNat with h | h | h
  · rw [compare_lt_iff_lt.mpr h, if_pos (.inl h)]
    rfl
  · rw [compare_eq_iff_eq.mpr h]
    simp only [h, Nat.lt_irrefl, false_or, true_and]
    rfl
  · rw [compare_gt_iff_gt.mpr h, if_neg (by omega), if_neg (by omega)]
    rfl

theorem compareChars_self (as : List Char) : compareChars as as = .eq := by
  rw [compareChars, if_neg (List.lt_irrefl as), if_pos rfl]

/-- Of two runs that start with as many characters, those characters count first. -/
theorem compareChars_append (as bs cs ds : List Char) (h : as.length = bs.length) :
    compareChars (as ++ cs) (bs ++ ds) = (compareChars as bs).then (compareChars cs ds) := by
  induction as generalizing bs with
  | nil =>
    obtain rfl := List.eq_nil_of_length_eq_zero h.symm
    rfl
  | cons a as ih =>
    obtain ⟨b, bs, rfl⟩ := List.exists_cons_of_length_eq_add_one h.symm
    rw [List.cons_append, List.cons_append, compareChars_cons, compareChars_cons,
      ih bs (Nat.succ.inj h), Ordering.then_assoc]

/-- Numbers with a larger and a smaller part are compared by the larger part first. -/
theorem compare_mul_add (k m n d e : Nat) (hd : d < k) (he : e < k) :
    Ord.compare (m * k + d) (n * k + e) = (Ord.compare m n).then (Ord.compare d e) := by
  rcases Nat.lt_trichotomy m n with h | rfl | h
  · have hmul := Nat.mul_le_mul_right k (Nat.succ_le_of_lt h)
    rw [Nat.succ_mul] at hmul
    rw [compare_lt_iff_lt.mpr h, compare_lt_iff_lt.mpr (by omega)]
    rfl
  · rw [Std.ReflOrd.compare_self, Ordering.eq_then]
    rcases Nat.lt_trichotomy d e with h | rfl | h
    · rw [compare_lt_iff_lt.mpr h, compare_lt_iff_lt.mpr (by omega)]
    · rw [Std.ReflOrd.compare_self, Std.ReflOrd.compare_self]
    · rw [compare_gt_iff_gt.mpr h, compare_gt_iff_gt.mpr (by omega)]
  · have hmul := Nat.mul_le_mul_right k (Nat.succ_le_of_lt h)
    rw [Nat.succ_mul] at hmul
    rw [compare_gt_iff_gt.mpr h, compare_gt_iff_gt.mpr (by omega)]
    rfl

/-- Digits of one width have the order of the numbers that they write. -/
theorem compareChars_digits (as bs : List Char) (m n : Nat) (h : as.length = bs.length)
    (has : as.all isDigit = true) (hbs : bs.all isDigit = true) :
    (Ord.compare m n).then (compareChars as bs) =
      Ord.compare (digitsValue m as) (digitsValue n bs) := by
  induction as generalizing bs m n with
  | nil =>
    obtain rfl := List.eq_nil_of_length_eq_zero h.symm
    exact Ordering.then_eq
  | cons a as ih =>
    obtain ⟨b, bs, rfl⟩ := List.exists_cons_of_length_eq_add_one h.symm
    rw [List.all_cons, Bool.and_eq_true] at has hbs
    obtain ⟨halow, hahigh⟩ := digit_bounds a has.1
    obtain ⟨hblow, hbhigh⟩ := digit_bounds b hbs.1
    have hzero : '0'.toNat = 48 := rfl
    have hchar : Ord.compare a.toNat b.toNat = Ord.compare (a.toNat - 48) (b.toNat - 48) := by
      obtain ⟨d, hd⟩ : ∃ d, a.toNat = 1 * 48 + d := ⟨a.toNat - 48, by omega⟩
      obtain ⟨e, he⟩ : ∃ e, b.toNat = 1 * 48 + e := ⟨b.toNat - 48, by omega⟩
      rw [hd, he, compare_mul_add 48 1 1 d e (by omega) (by omega), Std.ReflOrd.compare_self,
        Ordering.eq_then, Nat.one_mul, Nat.add_sub_cancel_left, Nat.add_sub_cancel_left]
    -- The numbers read so far count first, then the digits here, then those that follow.
    have hrest := ih bs (m * 10 + (a.toNat - 48)) (n * 10 + (b.toNat - 48)) (Nat.succ.inj h)
      has.2 hbs.2
    rw [compare_mul_add 10 m n _ _ (by omega) (by omega)] at hrest
    rw [compareChars_cons, hchar, ← Ordering.then_assoc, hrest]
    rfl

theorem compareChars_numbers (as bs : List Char) (h : as.length = bs.length)
    (has : as.all isDigit = true) (hbs : bs.all isDigit = true) :
    compareChars as bs = Ord.compare (digitsValue 0 as) (digitsValue 0 bs) := by
  rw [← compareChars_digits as bs 0 0 h has hbs, Std.ReflOrd.compare_self, Ordering.eq_then]

theorem compareChars_padded (width m n : Nat) (as bs : List Char) (hwidth : 0 < width)
    (hm : m < 10 ^ width) (hn : n < 10 ^ width) :
    compareChars (Date.padded width m ++ as) (Date.padded width n ++ bs) =
      (Ord.compare m n).then (compareChars as bs) := by
  have hlength := (Date.length_padded width m hwidth hm).trans
    (Date.length_padded width n hwidth hn).symm
  rw [compareChars_append _ _ _ _ hlength, compareChars_numbers _ _ hlength
    (Date.all_isDigit_padded width m) (Date.all_isDigit_padded width n), Date.digitsValue_padded,
    Date.digitsValue_padded]

theorem compareChars_cons_self (c : Char) (as bs : List Char) :
    compareChars (c :: as) (c :: bs) = compareChars as bs := by
  rw [compareChars_cons, Std.ReflOrd.compare_self, Ordering.eq_then]

namespace DateTime

def cut (l : DateTime) : DateTime :=
  ⟨l.date, l.second, l.nano / 1000000 * 1000000, l.second_lt, by have := l.nano_lt; omega⟩

/-- The order of a plain date-time with another one as their texts in milliseconds have it. A year
of more than four digits is written with a sign, which comes before all digits. -/
def compareShown (t l : DateTime) : Ordering :=
  if 9999 < l.date.year then .gt else t.compare l.cut

/-- What is finer than a millisecond decides the order of a date-time with a plain one only if both
are of one millisecond. -/
theorem compare_cut (t l : DateTime) (ht : t.IsPlain) :
    t.compare l = t.compare l.cut ∨ (t.compare l.cut = .eq ∧ t.compare l = .lt) := by
  have hwhole := ht.whole_millis
  obtain ⟨o, ho⟩ : ∃ o, t.date.compare l.date = o := ⟨_, rfl⟩
  obtain ⟨q, hq⟩ : ∃ q, Ord.compare t.second l.second = q := ⟨_, rfl⟩
  have hcompare : t.compare l = (o.then (q.then (Ord.compare t.nano l.nano))) := by
    rw [compare, ho, hq]
  have hcut : t.compare l.cut = (o.then (q.then (Ord.compare t.nano (l.nano / 1000000 * 1000000)))) := by
    rw [← ho, ← hq]
    rfl
  rw [hcompare, hcut]
  -- Whole milliseconds on one side of the cut fraction are on the same side of the fraction itself.
  rcases Nat.lt_trichotomy t.nano (l.nano / 1000000 * 1000000) with h | h | h
  · left
    rw [compare_lt_iff_lt.mpr h, compare_lt_iff_lt.mpr (by omega : t.nano < l.nano)]
  · rw [compare_eq_iff_eq.mpr h]
    rcases Nat.lt_or_eq_of_le (by omega : t.nano ≤ l.nano) with h' | h'
    · rw [compare_lt_iff_lt.mpr h']
      cases o <;> cases q <;> decide
    · left
      rw [compare_eq_iff_eq.mpr h']
  · left
    rw [compare_gt_iff_gt.mpr h, compare_gt_iff_gt.mpr (by omega : l.nano < t.nano)]

def afterDate (h i s m : Nat) : List Char := 'T' :: (clockOf h i s ++ '.' :: Date.padded 3 m)

theorem millisChars_eq (l : DateTime) :
    l.millisChars = l.date.chars ++ afterDate (l.second / 3600) (l.second / 60 % 60)
      (l.second % 60 + l.nano / 1000000000) (l.nano % 1000000000 / 1000000) := by
  rw [millisChars, List.append_assoc, List.cons_append]
  rfl

theorem compareChars_afterDate (h h' i i' s s' m m' : Nat) (hh : h < 100) (hh' : h' < 100)
    (hi : i < 100) (hi' : i' < 100) (hs : s < 100) (hs' : s' < 100) (hm : m < 1000)
    (hm' : m' < 1000) :
    compareChars (afterDate h i s m) (afterDate h' i' s' m') =
      (Ord.compare h h').then ((Ord.compare i i').then
        ((Ord.compare s s').then (Ord.compare m m'))) := by
  have hnil : compareChars [] [] = .eq := rfl
  have hmillis := compareChars_padded 3 m m' [] [] (by decide) hm hm'
  rw [List.append_nil, List.append_nil, hnil, Ordering.then_eq] at hmillis
  simp only [afterDate, clockOf, List.append_assoc, List.cons_append, compareChars_cons_self]
  rw [compareChars_padded 2 h h' _ _ (by decide) hh hh', compareChars_cons_self,
    compareChars_padded 2 i i' _ _ (by decide) hi hi', compareChars_cons_self,
    compareChars_padded 2 s s' _ _ (by decide) hs hs', compareChars_cons_self, hmillis]

theorem compareChars_afterYear (d e : Date) (cs ds : List Char) :
    compareChars (Date.padded 2 d.month ++ '-' :: (Date.padded 2 d.day ++ cs))
        (Date.padded 2 e.month ++ '-' :: (Date.padded 2 e.day ++ ds)) =
      (Ord.compare d.month e.month).then
        ((Ord.compare d.day e.day).then (compareChars cs ds)) := by
  have hdmonth := d.month_bounds.2
  have hemonth := e.month_bounds.2
  have hdday := d.day_le
  have heday := e.day_le
  rw [compareChars_padded 2 _ _ _ _ (by decide) (by omega) (by omega), compareChars_cons_self,
    compareChars_padded 2 _ _ _ _ (by decide) (by omega) (by omega)]

theorem compareChars_dateChars (d e : Date) (hd : 0 ≤ d.year ∧ d.year ≤ 9999)
    (he : 0 ≤ e.year ∧ e.year ≤ 9999) (cs ds : List Char) :
    compareChars (d.chars ++ cs) (e.chars ++ ds) = (d.compare e).then (compareChars cs ds) := by
  have hyear : Ord.compare d.year.toNat e.year.toNat = Ord.compare d.year e.year := by
    rcases Int.lt_trichotomy d.year e.year with h | h | h
    · have hnat : d.year.toNat < e.year.toNat := by omega
      rw [compare_lt_iff_lt.mpr h, compare_lt_iff_lt.mpr hnat]
    · rw [h, Std.ReflOrd.compare_self, Std.ReflOrd.compare_self]
    · have hnat : e.year.toNat < d.year.toNat := by omega
      rw [compare_gt_iff_gt.mpr h, compare_gt_iff_gt.mpr hnat]
  rw [d.chars_eq hd.1 hd.2, e.chars_eq he.1 he.2]
  simp only [List.append_assoc, List.cons_append]
  rw [compareChars_padded 4 _ _ _ _ (by decide) (by omega) (by omega), compareChars_cons_self,
    compareChars_afterYear, hyear, Date.compare, Ordering.then_assoc, Ordering.then_assoc]

theorem compare_second (a b : Nat) :
    Ord.compare a b = (Ord.compare (a / 3600) (b / 3600)).then
      ((Ord.compare (a / 60 % 60) (b / 60 % 60)).then (Ord.compare (a % 60) (b % 60))) := by
  have hminutes : Ord.compare (a / 60) (b / 60) =
      (Ord.compare (a / 3600) (b / 3600)).then (Ord.compare (a / 60 % 60) (b / 60 % 60)) := by
    rw [← compare_mul_add 60 _ _ _ _ (by omega) (by omega)]
    congr 1 <;> omega
  rw [← Ordering.then_assoc, ← hminutes, ← compare_mul_add 60 _ _ _ _ (by omega) (by omega)]
  congr 1 <;> omega

theorem compare_congr (a b c d : Nat) (hlt : a < b ↔ c < d) (heq : a = b ↔ c = d) :
    Ord.compare a b = Ord.compare c d := by
  rcases Nat.lt_trichotomy a b with h | h | h
  · rw [compare_lt_iff_lt.mpr h, compare_lt_iff_lt.mpr (hlt.mp h)]
  · rw [compare_eq_iff_eq.mpr h, compare_eq_iff_eq.mpr (heq.mp h)]
  · rw [compare_gt_iff_gt.mpr h, compare_gt_iff_gt.mpr (by omega)]

/-- A leap second of the last second of a minute is shown as the second after it, and no second of
its minute comes after it. -/
theorem compare_shown (s nano s' nano' : Nat) (hs : s < 60) (hs' : s' < 60)
    (hleap : 1000000000 ≤ nano → s = 59) (hleap' : 1000000000 ≤ nano' → s' = 59)
    (hnano : nano < 2000000000) (hnano' : nano' < 2000000000) :
    (Ord.compare (s + nano / 1000000000) (s' + nano' / 1000000000)).then
        (Ord.compare (nano % 1000000000) (nano' % 1000000000)) =
      (Ord.compare s s').then (Ord.compare nano nano') := by
  -- Both sides compare the time within the minute, one with seconds of double length.
  rw [← compare_mul_add 1000000000 _ _ _ _ (by omega) (by omega),
    ← compare_mul_add 2000000000 _ _ _ _ hnano hnano']
  apply compare_congr
  · omega
  · omega

/-- Texts whose dates are in order have the order of the date-times, but for what is finer than a
millisecond. -/
theorem compareChars_millisChars (t l : DateTime) (ht : 1000000000 ≤ t.nano → t.second % 60 = 59)
    (hl : 1000000000 ≤ l.nano → l.second % 60 = 59)
    (hdates : ∀ cs ds, compareChars (t.date.chars ++ cs) (l.date.chars ++ ds) =
      (t.date.compare l.date).then (compareChars cs ds)) :
    compareChars t.millisChars l.millisChars = t.cut.compare l.cut := by
  have htsecond := t.second_lt
  have hlsecond := l.second_lt
  have htnano := t.nano_lt
  have hlnano := l.nano_lt
  have hshown := compare_shown (t.second % 60) (t.nano / 1000000 * 1000000) (l.second % 60)
    (l.nano / 1000000 * 1000000) (by omega) (by omega) (by omega) (by omega) (by omega) (by omega)
  -- Cutting off a part of a millisecond changes neither the leap second nor the digits shown.
  have hleap (n : Nat) : n / 1000000 * 1000000 / 1000000000 = n / 1000000000 := by omega
  have hmillis : Ord.compare (t.nano / 1000000 * 1000000 % 1000000000)
      (l.nano / 1000000 * 1000000 % 1000000000) =
        Ord.compare (t.nano % 1000000000 / 1000000) (l.nano % 1000000000 / 1000000) := by
    apply compare_congr <;> omega
  rw [hleap, hleap, hmillis] at hshown
  rw [millisChars_eq, millisChars_eq, hdates, compareChars_afterDate _ _ _ _ _ _ _ _ (by omega)
    (by omega) (by omega) (by omega) (by omega) (by omega) (by omega) (by omega), hshown]
  change _ = (t.date.compare l.date).then ((Ord.compare t.second l.second).then
    (Ord.compare (t.nano / 1000000 * 1000000) (l.nano / 1000000 * 1000000)))
  rw [compare_second t.second l.second, Ordering.then_assoc, Ordering.then_assoc]

theorem IsPlain.cut_eq {t : DateTime} (h : t.IsPlain) : t.cut = t := by
  have hwhole := h.whole_millis
  have hnano : t.nano / 1000000 * 1000000 = t.nano := by omega
  cases t
  simp only [cut, hnano]

/-- The text of a date with a sign before its year comes before those of the plain ones. -/
theorem compareChars_signed (d e : Date) (hd : 0 ≤ d.year ∧ d.year ≤ 9999)
    (he : e.year < 0 ∨ 9999 < e.year) (cs ds : List Char) :
    compareChars (d.chars ++ cs) (e.chars ++ ds) = .gt := by
  obtain ⟨c, rest, hcons, hdigit⟩ := Date.padded_eq_cons 4 d.year.toNat
  obtain ⟨hlow, -⟩ := digit_bounds c hdigit
  obtain ⟨sign, more, hsigned, hsign⟩ : ∃ sign more, e.chars = sign :: more ∧ sign.toNat < 48 := by
    rw [Date.chars, Date.yearChars]
    rcases he with hneg | hlarge
    · rw [if_pos hneg]
      exact ⟨'-', _, rfl, by decide⟩
    · rw [if_neg (by omega), if_pos hlarge]
      exact ⟨'+', _, rfl, by decide⟩
  rw [d.chars_eq hd.1 hd.2, hcons, hsigned, List.cons_append, List.cons_append, List.cons_append,
    compareChars_cons, compare_gt_iff_gt.mpr (by omega)]
  rfl

/-- The texts of a plain date-time and of another one have the order of the date-times, but for what
is finer than a millisecond and for years of more than four digits. A leap second must be the last
of its minute. -/
theorem compareText_millisText (t l : DateTime) (ht : t.IsPlain)
    (hleap : 1000000000 ≤ l.nano → l.second % 60 = 59) :
    compareText t.millisText l.millisText = t.compareShown l := by
  have hyear : 0 ≤ t.date.year ∧ t.date.year ≤ 9999 := ⟨ht.year_nonneg, ht.year_le⟩
  have htnano := ht.nano_lt
  rw [millisText, millisText, compareText_ofList, compareShown]
  rcases lt_or_ge 9999 l.date.year with hlarge | hyear_le
  · rw [millisChars_eq, millisChars_eq, compareChars_signed _ _ hyear (.inr hlarge), if_pos hlarge]
  rw [if_neg (not_lt.mpr hyear_le)]
  rcases lt_or_ge l.date.year 0 with hneg | hnonneg
  · have hdate : t.date.compare l.cut.date = .gt := by
      rw [Date.compare]
      change (Ord.compare t.date.year l.date.year).then _ = _
      rw [compare_gt_iff_gt.mpr (by omega)]
      rfl
    rw [millisChars_eq, millisChars_eq, compareChars_signed _ _ hyear (.inl hneg), compare, hdate]
    rfl
  · rw [compareChars_millisChars t l (by omega) hleap
      (compareChars_dateChars _ _ hyear ⟨hnonneg, hyear_le⟩), ht.cut_eq]

end DateTime

end CriteriaSearch
