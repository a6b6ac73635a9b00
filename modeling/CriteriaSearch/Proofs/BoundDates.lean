import CriteriaSearch.Documents.Bson
import CriteriaSearch.Proofs.Calendar
import CriteriaSearch.Proofs.Calendar.WholeDay
import CriteriaSearch.SearchIndex.Query
import CriteriaSearch.Sql.Clause
import Mathlib.Tactic.SplitIfs

namespace CriteriaSearch

/-- Digits that a hyphen ends come before more digits that do not start with a smaller number. -/
theorem compareChars_ended (as bs cs ds : List Char) (has : as.all isDigit = true)
    (hbs : bs.all isDigit = true) (h : as.length < bs.length) :
    compareChars (as ++ '-' :: cs) (bs ++ '-' :: ds) =
      if digitsValue 0 as * 10 ^ (bs.length - as.length) ≤ digitsValue 0 bs then .lt else .gt := by
  obtain ⟨first, rest, rfl, hlength⟩ : ∃ first rest, bs = first ++ rest ∧
      as.length = first.length := by
    refine ⟨bs.take as.length, bs.drop as.length, (List.take_append_drop _ _).symm, ?_⟩
    rw [List.length_take, Nat.min_eq_left h.le]
  rw [List.all_append, Bool.and_eq_true] at hbs
  obtain ⟨hfirst, hrest⟩ := hbs
  have hhyphen : compareChars ('-' :: cs) (rest ++ '-' :: ds) = .lt := by
    cases rest with
    | nil =>
      rw [List.append_nil] at h
      exact absurd hlength (Nat.ne_of_lt h)
    | cons b rest =>
      rw [List.all_cons, Bool.and_eq_true] at hrest
      have hlow : '-'.toNat < b.toNat := Nat.lt_of_lt_of_le (by decide) (digit_bounds b hrest.1).1
      rw [List.cons_append, compareChars_cons, compare_lt_iff_lt.mpr hlow, Ordering.lt_then]
  -- The longer number lies between its first digits with zeros and their successor with zeros.
  have hlower := mul_pow_le_digitsValue (digitsValue 0 first) rest
  have hupper := digitsValue_lt (digitsValue 0 first) rest hrest
  rw [← digitsValue_append] at hlower hupper
  rw [List.append_assoc, compareChars_append _ _ _ _ hlength, hhyphen,
    compareChars_numbers as first hlength has hfirst, List.length_append, hlength,
    Nat.add_sub_cancel_left]
  rcases Nat.lt_trichotomy (digitsValue 0 as) (digitsValue 0 first) with hlt | heq | hlt
  · have hmul := Nat.mul_le_mul_right (10 ^ rest.length) hlt.le
    rw [compare_lt_iff_lt.mpr hlt, if_pos (hmul.trans hlower)]
    rfl
  · rw [heq, if_pos hlower, Std.ReflOrd.compare_self]
    rfl
  · have hmul := Nat.mul_le_mul_right (10 ^ rest.length) (Nat.succ_le_of_lt hlt)
    rw [compare_gt_iff_gt.mpr hlt, if_neg (Nat.not_le_of_lt (hupper.trans_le hmul))]
    rfl

namespace Date

/-- The digits of a year's text with zeros after them up to six, as a number. -/
def filledYear (n : Nat) : Nat :=
  if n < 10000 then n * 100 else if n < 100000 then n * 10 else n

/-- The text of the year `y`, which is not the later one, does not come after that of `z`. -/
def YearsInOrder (y z : Int) : Prop :=
  -- A sign comes before all digits.
  y = z ∨ (0 ≤ z ∧ z ≤ 9999) ∨
  -- After a plus the digits decide. If they agree, the shorter text comes first, which is that
  -- of y.
  (9999 < y ∧ filledYear y.natAbs ≤ filledYear z.natAbs) ∨
  -- After a minus they decide, too, but there the shorter text is that of z.
  (z < 0 ∧ filledYear y.natAbs < filledYear z.natAbs)

instance (y z : Int) : Decidable (YearsInOrder y z) := inferInstanceAs (Decidable (_ ∨ _))

/-- The width of the digits of a year that is at most six places long. -/
theorem length_padded_four (n : Nat) (h : n < 1000000) :
    (padded 4 n).length = if n < 10000 then 4 else if n < 100000 then 5 else 6 := by
  have hlength (k : Nat) (hk : 0 < k) : (Nat.toDigits 10 n).length ≤ k ↔ n < 10 ^ k :=
    Nat.length_toDigits_le_iff (by decide) hk
  have hfour := hlength 4 (by decide)
  have hfive := hlength 5 (by decide)
  have hsix := hlength 6 (by decide)
  rw [padded, List.length_append, List.length_replicate]
  split_ifs <;> omega

theorem compareChars_yearDigits (m n : Nat) (hmn : m < n) (hn : n < 1000000) (cs ds : List Char) :
    compareChars (padded 4 m ++ '-' :: cs) (padded 4 n ++ '-' :: ds) =
      if filledYear m ≤ filledYear n then .lt else .gt := by
  have hm := length_padded_four m (hmn.trans hn)
  have hn := length_padded_four n hn
  have hmdigits := all_isDigit_padded 4 m
  have hndigits := all_isDigit_padded 4 n
  -- Years of one width are compared as numbers. Where the widths differ, the hyphen after the
  -- narrower one stands beside a digit of the wider one.
  by_cases hlength : (padded 4 m).length = (padded 4 n).length
  · have hfilled : filledYear m ≤ filledYear n := by
      rw [hm, hn] at hlength
      unfold filledYear
      split_ifs at hlength ⊢ <;> omega
    rw [compareChars_append _ _ _ _ hlength, compareChars_numbers _ _ hlength hmdigits hndigits,
      digitsValue_padded, digitsValue_padded, compare_lt_iff_lt.mpr hmn, if_pos hfilled,
      Ordering.lt_then]
  · have hshorter : (padded 4 m).length < (padded 4 n).length := by
      rw [hm, hn] at hlength ⊢
      split_ifs at hlength ⊢ <;> omega
    have hfilled : m * 10 ^ ((padded 4 n).length - (padded 4 m).length) ≤ n ↔
        filledYear m ≤ filledYear n := by
      rw [hm, hn] at hshorter ⊢
      unfold filledYear
      split_ifs at hshorter ⊢ <;> simp only [Nat.reduceSub, Nat.reducePow] <;> omega
    rw [compareChars_ended _ _ cs ds hmdigits hndigits hshorter, digitsValue_padded,
      digitsValue_padded]
    simp only [hfilled]

theorem compareChars_sign (c : Char) (hc : c.toNat < 48) (n : Nat) (cs ds : List Char) :
    compareChars (c :: cs) (padded 4 n ++ ds) = .lt := by
  obtain ⟨d, rest, hcons, hdigit⟩ := padded_eq_cons 4 n
  obtain ⟨hlow, -⟩ := digit_bounds d hdigit
  rw [hcons, List.cons_append, compareChars_cons, compare_lt_iff_lt.mpr (by omega), Ordering.lt_then]

theorem compareChars_years (y z : Int) (hy : -1000000 < y) (hz : z < 1000000) (hyz : y < z)
    (cs ds : List Char) :
    compareChars (yearChars y ++ '-' :: cs) (yearChars z ++ '-' :: ds) ≠ .gt ↔
      YearsInOrder y z := by
  unfold YearsInOrder yearChars
  rcases lt_or_ge z 0 with hneg | hnonneg
  · -- Before the year zero larger digits are earlier.
    have hdigits := compareChars_yearDigits z.natAbs y.natAbs (by omega) (by omega) ds cs
    rw [if_pos (hyz.trans hneg), if_pos hneg, List.cons_append, List.cons_append,
      compareChars_cons_self, compareChars_swap, hdigits]
    split_ifs
    · exact iff_of_false (by decide) (by omega)
    · exact iff_of_true (by decide) (by omega)
  rw [if_neg (not_lt.mpr hnonneg)]
  rcases lt_or_ge y 0 with hyneg | hynonneg
  · rw [if_pos hyneg, List.cons_append]
    split_ifs
    · -- Of the two signs the plus comes first.
      have hsigns : '+'.toNat < '-'.toNat := by decide
      rw [List.cons_append, compareChars_cons, compare_gt_iff_gt.mpr hsigns, Ordering.gt_then]
      exact iff_of_false (by decide) (by omega)
    · rw [compareChars_sign '-' (by decide)]
      exact iff_of_true (by decide) (by omega)
  rw [if_neg (not_lt.mpr hynonneg)]
  split_ifs
  · have hdigits := compareChars_yearDigits y.natAbs z.natAbs (by omega) (by omega) cs ds
    rw [List.cons_append, List.cons_append, compareChars_cons_self, hdigits]
    split_ifs
    · exact iff_of_true (by decide) (by omega)
    · exact iff_of_false (by decide) (by omega)
  · -- The later year has the sign if the earlier one has it.
    omega
  · rw [compareChars_swap, List.cons_append, compareChars_sign '+' (by decide)]
    exact iff_of_false (by decide) (by omega)
  · rw [compareChars_padded 4 _ _ _ _ (by decide) (by omega) (by omega),
      compare_lt_iff_lt.mpr (by omega), Ordering.lt_then]
    exact iff_of_true (by decide) (by omega)

theorem compareChars_chars_of_year (d e : Date) (hyear : d.year = e.year) (cs ds : List Char) :
    compareChars (d.chars ++ cs) (e.chars ++ ds) = (d.compare e).then (compareChars cs ds) := by
  rw [chars, chars, compare, hyear, Std.ReflOrd.compare_self, Ordering.eq_then]
  simp only [List.append_assoc, List.cons_append]
  rw [compareChars_append _ _ _ _ rfl, compareChars_self, Ordering.eq_then, compareChars_cons_self,
    DateTime.compareChars_afterYear, Ordering.then_assoc]

end Date

namespace DateTime

variable {a b : DateTime}

/-- Cutting off what is finer than a millisecond puts no date-time before an earlier one. -/
theorem cut_le (h : a.compare b ≠ .gt) : a.cut.compare b.cut ≠ .gt := by
  change (a.date.compare b.date).then ((Ord.compare a.second b.second).then
    (Ord.compare (a.nano / 1000000 * 1000000) (b.nano / 1000000 * 1000000))) ≠ .gt
  rw [compare] at h
  simp only [ne_eq, Ordering.then_eq_gt, compare_gt_iff_gt] at h ⊢
  intro hcut
  apply h
  apply hcut.imp_right
  apply And.imp_right
  apply Or.imp_right
  apply And.imp_right
  omega

theorem year_le (h : a.compare b ≠ .gt) : a.date.year ≤ b.date.year := by
  by_contra hlater
  apply h
  rw [compare, Date.compare, compare_gt_iff_gt.mpr (not_le.mp hlater)]
  rfl

/-- The text of an earlier date-time comes first, unless the texts of the years are out of order. -/
theorem millisText_le_iff (ha : 1000000000 ≤ a.nano → a.second % 60 = 59)
    (hb : 1000000000 ≤ b.nano → b.second % 60 = 59) (h : a.compare b ≠ .gt) :
    a.millisText ≤ b.millisText ↔ Date.YearsInOrder a.date.year b.date.year := by
  have horder : a.millisText ≤ b.millisText ↔ compareChars a.millisChars b.millisChars ≠ .gt := by
    rw [← String.not_lt, ← compareText_eq_lt, millisText, millisText, compareText_ofList,
      compareChars_swap, ne_eq]
    cases compareChars a.millisChars b.millisChars <;> decide
  rw [horder]
  rcases lt_or_eq_of_le (year_le h) with hyear | hyear
  · have habounds := a.date.year_bounds
    have hbbounds := b.date.year_bounds
    rw [millisChars, millisChars, Date.chars, Date.chars]
    simp only [List.append_assoc, List.cons_append]
    exact Date.compareChars_years _ _ (by omega) (by omega) hyear _ _
  · rw [compareChars_millisChars a b ha hb (Date.compareChars_chars_of_year _ _ hyear)]
    exact iff_of_true (cut_le h) (.inl hyear)

/-- The count of seconds since the start of 1970; a leap second counts as the second before it. -/
def epochSecond (t : DateTime) : Int := t.date.dayNumber * secondsPerDay + t.second

/-- A date-time is in an earlier second than a later one, or earlier in the same second. -/
theorem epochSecond_le (h : a.compare b ≠ .gt) :
    a.epochSecond < b.epochSecond ∨ a.epochSecond = b.epochSecond ∧ a.nano ≤ b.nano := by
  have hasecond := a.second_lt
  unfold epochSecond secondsPerDay
  cases hdate : a.date.compare b.date with
  | lt =>
    have hday := a.date.dayNumber_lt b.date hdate
    left
    omega
  | eq =>
    have hsame := (Date.compare_eq_eq_iff _ _).mp hdate
    rw [compare, hdate, Ordering.eq_then, ne_eq, Ordering.then_eq_gt, compare_gt_iff_gt,
      compare_gt_iff_gt, compare_eq_iff_eq] at h
    rw [hsame]
    omega
  | gt =>
    rw [compare, hdate] at h
    exact absurd rfl h

/-- The leap second of the first date-time has a fraction that the second one, which lies in the
second after it, has not reached. -/
def Overruns (a b : DateTime) : Prop :=
  b.epochSecond = a.epochSecond + 1 ∧ 1000 + b.nano / 1000000 < a.nano / 1000000

instance (a b : DateTime) : Decidable (a.Overruns b) := inferInstanceAs (Decidable (_ ∧ _))

theorem epochMillis_le_iff (h : a.compare b ≠ .gt) :
    a.epochMillis ≤ b.epochMillis ↔ ¬a.Overruns b := by
  have hanano := a.nano_lt
  have hcount (t : DateTime) : t.epochMillis = t.epochSecond * 1000 + (t.nano / 1000000 : Nat) := rfl
  rw [hcount, hcount, Overruns]
  rcases epochSecond_le h with hlt | ⟨heq, hnano⟩
  · omega
  · omega

end DateTime

/-- Both parameters are texts, and the first one does not come after the second. -/
def Sql.Param.InOrder : Sql.Param → Sql.Param → Prop
  | .text s, .text t => s ≤ t
  | _, _ => False

/-- Both values are texts, and the first one does not come after the second. -/
def Json.InOrder : Json → Json → Prop
  | .text s, .text t => s ≤ t
  | _, _ => False

/-- Both values are dates, and the first one is not later than the second. -/
def Documents.Bson.InOrder : Documents.Bson → Documents.Bson → Prop
  | .dateTime m, .dateTime n => m ≤ n
  | _, _ => False

/-- Dates that are read and sent to a store are in order there, too, with two exceptions. Where
dates are texts, the texts of the years must be in order, as they are if the later year is one of 0
to 9999. Where dates are counts of milliseconds, the earlier one must not be in a leap second with
more milliseconds than the later one has in the second after it. -/
theorem bound_dates_in_order {r s : String} {a b : DateTime} (hr : DateTime.ofText r = .ok a)
    (hs : DateTime.ofText s = .ok b) (h : a.compare b ≠ .gt) :
    ((Sql.Param.ofValue (.dateTime a)).InOrder (Sql.Param.ofValue (.dateTime b)) ↔
      Date.YearsInOrder a.date.year b.date.year) ∧
    ((SearchIndex.valueToJson (.dateTime a)).InOrder (SearchIndex.valueToJson (.dateTime b)) ↔
      Date.YearsInOrder a.date.year b.date.year) ∧
    ((Documents.Bson.ofValue (.dateTime a)).InOrder (Documents.Bson.ofValue (.dateTime b)) ↔
      ¬a.Overruns b) := by
  have ha := DateTime.ofText?_leap r a ((DateTime.ofText_eq_ok_iff r a).mp hr)
  have hb := DateTime.ofText?_leap s b ((DateTime.ofText_eq_ok_iff s b).mp hs)
  have htexts := DateTime.millisText_le_iff ha hb h
  exact ⟨htexts, htexts, DateTime.epochMillis_le_iff h⟩

/-- Half a second into a leap second comes before an afternoon, in texts and in counts. -/
theorem bound_dates_in_order_2024 :
    ∃ a b, DateTime.ofText "2016-12-31T23:59:60.5" = .ok a ∧
      DateTime.ofText " 2024-03-15T15:00:00.0000004" = .ok b ∧ a.compare b = .lt ∧
      (Sql.Param.ofValue (.dateTime a)).InOrder (Sql.Param.ofValue (.dateTime b)) ∧
      (SearchIndex.valueToJson (.dateTime a)).InOrder (SearchIndex.valueToJson (.dateTime b)) ∧
      (Documents.Bson.ofValue (.dateTime a)).InOrder (Documents.Bson.ofValue (.dateTime b)) := by
  let leap : DateTime := ⟨lastDay2016, 86399, 1500000000, by decide, by decide⟩
  let ides : Date := ⟨2024, 3, 15, by decide, by decide, by decide⟩
  let afternoon : DateTime := ⟨ides, 54000, 400, by decide, by decide⟩
  have hleap : DateTime.ofText "2016-12-31T23:59:60.5" = .ok leap := by rfl
  have hafternoon : DateTime.ofText " 2024-03-15T15:00:00.0000004" = .ok afternoon := by rfl
  obtain ⟨hsql, hindex, hdocuments⟩ := bound_dates_in_order hleap hafternoon (by decide)
  exact ⟨leap, afternoon, hleap, hafternoon, by decide, hsql.mpr (by decide),
    hindex.mpr (by decide), hdocuments.mpr (by decide)⟩

/-- The text of a year of five digits comes before that of a year of four, and the milliseconds of a
leap second pass those of the second after it. -/
theorem bound_dates_reversed :
    (∃ a b, DateTime.ofText "2024-03-15T10:30:00" = .ok a ∧
      DateTime.ofText "+10000-01-01T00:00:00" = .ok b ∧ a.compare b = .lt ∧
      ¬(Sql.Param.ofValue (.dateTime a)).InOrder (Sql.Param.ofValue (.dateTime b)) ∧
      ¬(SearchIndex.valueToJson (.dateTime a)).InOrder (SearchIndex.valueToJson (.dateTime b))) ∧
    ∃ a b, DateTime.ofText "2016-12-31T23:59:60.500" = .ok a ∧
      DateTime.ofText "2017-01-01T00:00:00.200" = .ok b ∧ a.compare b = .lt ∧
      ¬(Documents.Bson.ofValue (.dateTime a)).InOrder (Documents.Bson.ofValue (.dateTime b)) := by
  constructor
  · let ides : Date := ⟨2024, 3, 15, by decide, by decide, by decide⟩
    let morning : DateTime := ⟨ides, 37800, 0, by decide, by decide⟩
    let newYear : Date := ⟨10000, 1, 1, by decide, by decide, by decide⟩
    have htexts : ¬morning.millisText ≤ (DateTime.midnight newYear).millisText := by
      rw [DateTime.millisText_le_iff (by decide) (by decide) (by decide)]
      decide
    exact ⟨morning, .midnight newYear, by rfl, by rfl, by decide, htexts, htexts⟩
  · let leap : DateTime := ⟨lastDay2016, 86399, 1500000000, by decide, by decide⟩
    let newYear : Date := ⟨2017, 1, 1, by decide, by decide, by decide⟩
    let next : DateTime := ⟨newYear, 0, 200000000, by decide, by decide⟩
    have hcounts : ¬leap.epochMillis ≤ next.epochMillis := by decide
    exact ⟨leap, next, by rfl, by rfl, by decide, hcounts⟩

end CriteriaSearch
