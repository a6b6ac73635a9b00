import CriteriaSearch.Calendar.Zoned
import CriteriaSearch.Proofs.Calendar.Leap

/-!
# The order of full texts

The text of a date-time shows as many digits of its fraction as it has, so that texts of one second
differ in length. Still they have the order of the date-times: the digits that are left out are
zeros, and nothing comes before everything. A letter for universal time breaks that, since it comes
after the point and after all digits, unless the fractions are of one width.
-/

namespace CriteriaSearch

theorem compareChars_swap (as bs : List Char) : compareChars as bs = (compareChars bs as).swap := by
  induction as generalizing bs with
  | nil => cases bs <;> rfl
  | cons a as ih =>
    cases bs with
    | nil => rfl
    | cons b bs =>
      rw [compareChars_cons, compareChars_cons, Ordering.swap_then, ← ih bs,
        ← Std.OrientedOrd.eq_swap]

theorem compareChars_nil_ne_lt (as : List Char) : compareChars as [] ≠ .lt := by
  rw [compareChars, if_neg (List.not_lt_nil as)]
  split <;> decide

/-- Zeros at the end of runs of digits do not change which of the runs comes first. -/
theorem compareChars_of_zeros (as bs : List Char) (i j : Nat) (has : as.all isDigit = true)
    (hlength : (as ++ List.replicate i '0').length = (bs ++ List.replicate j '0').length)
    (h : compareChars (as ++ List.replicate i '0') (bs ++ List.replicate j '0') = .lt) :
    compareChars as bs = .lt := by
  have hzero : '0'.toNat = 48 := rfl
  induction as generalizing bs j with
  | nil =>
    cases bs with
    | nil =>
      -- Both runs are the same zeros.
      simp only [List.nil_append, List.length_replicate] at hlength
      rw [hlength, List.nil_append, compareChars_self] at h
      cases h
    | cons b bs => rfl
  | cons a as ih =>
    rw [List.all_cons, Bool.and_eq_true] at has
    obtain ⟨hlow, -⟩ := digit_bounds a has.1
    cases bs with
    | nil =>
      -- No run of digits comes before zeros of its length.
      cases j with
      | zero => cases hlength
      | succ j =>
        rw [List.cons_append, List.nil_append, List.replicate_succ] at h hlength
        rw [compareChars_cons, hzero, Ordering.then_eq_lt] at h
        rcases h with hlt | ⟨-, hrest⟩
        · have := compare_lt_iff_lt.mp hlt
          omega
        · exact absurd (ih [] j has.2 (Nat.succ.inj hlength) hrest) (compareChars_nil_ne_lt as)
    | cons b bs =>
      rw [List.cons_append, List.cons_append] at h hlength
      rw [compareChars_cons, Ordering.then_eq_lt] at h ⊢
      exact h.imp_right (And.imp_right (ih bs j has.2 (Nat.succ.inj hlength)))

namespace DateTime

/-- A fraction is written as a point and digits, which have its value when zeros fill them up to
nine. -/
theorem fractionChars_eq_point (nano : Nat) (hpos : nano ≠ 0) (h : nano < 1000000000) :
    ∃ digits zeros, fractionChars nano = '.' :: digits ∧ digits.all isDigit = true ∧
      (digits ++ List.replicate zeros '0').length = 9 ∧
      digitsValue 0 (digits ++ List.replicate zeros '0') = nano := by
  have hdigits (width n zeros : Nat) (hwidth : 0 < width) (hsum : width + zeros = 9)
      (hlt : n < 10 ^ width) (hvalue : n * 10 ^ zeros = nano) :
      (Date.padded width n).all isDigit = true ∧
        (Date.padded width n ++ List.replicate zeros '0').length = 9 ∧
        digitsValue 0 (Date.padded width n ++ List.replicate zeros '0') = nano := by
    refine ⟨Date.all_isDigit_padded width n, ?_, ?_⟩
    · rw [List.length_append, Date.length_padded width n hwidth hlt, List.length_replicate, hsum]
    · rw [digitsValue_append_zeros, Date.digitsValue_padded, hvalue]
  rw [fractionChars, if_neg hpos]
  split
  · exact ⟨_, 6, rfl, hdigits 3 _ 6 (by decide) rfl (by omega) (by omega)⟩
  · split
    · exact ⟨_, 3, rfl, hdigits 6 _ 3 (by decide) rfl (by omega) (by omega)⟩
    · exact ⟨_, 0, rfl, hdigits 9 _ 0 (by decide) rfl (by omega) (by omega)⟩

theorem compareChars_fraction_lt (m n : Nat) (hn : n < 1000000000) (hmn : m < n) :
    compareChars (fractionChars m) (fractionChars n) = .lt := by
  obtain ⟨ds, j, hds, hdsdigits, hdslength, hdsvalue⟩ := fractionChars_eq_point n (by omega) hn
  by_cases hzero : m = 0
  · rw [hzero, hds]
    rfl
  · obtain ⟨cs, i, hcs, hcsdigits, hcslength, hcsvalue⟩ :=
      fractionChars_eq_point m hzero (by omega)
    have hfull := compareChars_numbers (cs ++ List.replicate i '0') (ds ++ List.replicate j '0')
      (hcslength.trans hdslength.symm)
      (by rw [List.all_append, hcsdigits, all_isDigit_replicate]; rfl)
      (by rw [List.all_append, hdsdigits, all_isDigit_replicate]; rfl)
    rw [hcsvalue, hdsvalue, compare_lt_iff_lt.mpr hmn] at hfull
    rw [hcs, hds, compareChars_cons_self]
    exact compareChars_of_zeros cs ds i j hcsdigits (hcslength.trans hdslength.symm) hfull

theorem compareChars_fraction (m n : Nat) (hm : m < 1000000000) (hn : n < 1000000000) :
    compareChars (fractionChars m) (fractionChars n) = Ord.compare m n := by
  rcases Nat.lt_trichotomy m n with hlt | rfl | hlt
  · rw [compareChars_fraction_lt m n hn hlt, compare_lt_iff_lt.mpr hlt]
  · rw [Std.ReflOrd.compare_self, compareChars_self]
  · rw [compareChars_swap, compareChars_fraction_lt n m hm hlt, compare_gt_iff_gt.mpr hlt]
    rfl

/-- A date-time of a year with four digits. A leap second in it is the last second of its minute. -/
structure IsShown (t : DateTime) : Prop where
  year_nonneg : 0 ≤ t.date.year
  year_le : t.date.year ≤ 9999
  leap : 1000000000 ≤ t.nano → t.second % 60 = 59

theorem IsShown.year_bounds {t : DateTime} (h : t.IsShown) :
    0 ≤ t.date.year ∧ t.date.year ≤ 9999 := ⟨h.year_nonneg, h.year_le⟩

def fullClock (t : DateTime) : List Char := t.clockChars ++ fractionChars t.shownNano

theorem chars_eq_fullClock (t : DateTime) : t.chars = t.date.chars ++ 'T' :: t.fullClock := by
  rw [chars, fullClock, List.append_assoc, List.cons_append]

theorem compareChars_clock (t u : DateTime) (cs ds : List Char) :
    compareChars (t.clockChars ++ cs) (u.clockChars ++ ds) =
      (Ord.compare (t.second / 3600) (u.second / 3600)).then
        ((Ord.compare (t.second / 60 % 60) (u.second / 60 % 60)).then
          ((Ord.compare (t.second % 60 + t.nano / 1000000000)
            (u.second % 60 + u.nano / 1000000000)).then (compareChars cs ds))) := by
  have htnano := t.nano_lt
  have hunano := u.nano_lt
  have htsecond := t.second_lt
  have husecond := u.second_lt
  unfold clockChars nanosPerSecond
  simp only [List.append_assoc, List.cons_append]
  rw [compareChars_padded 2 _ _ _ _ (by decide) (by omega) (by omega), compareChars_cons_self,
    compareChars_padded 2 _ _ _ _ (by decide) (by omega) (by omega), compareChars_cons_self,
    compareChars_padded 2 _ _ _ _ (by decide) (by omega) (by omega)]

theorem compareChars_fullClock (t u : DateTime) (ht : t.IsShown) (hu : u.IsShown) :
    compareChars t.fullClock u.fullClock =
      (Ord.compare t.second u.second).then (Ord.compare t.nano u.nano) := by
  have hfraction : compareChars (fractionChars t.shownNano) (fractionChars u.shownNano) =
      Ord.compare (t.nano % 1000000000) (u.nano % 1000000000) :=
    compareChars_fraction _ _ (Nat.mod_lt _ (by decide)) (Nat.mod_lt _ (by decide))
  rw [fullClock, fullClock, compareChars_clock t u, hfraction,
    compare_shown _ _ _ _ (Nat.mod_lt _ (by decide)) (Nat.mod_lt _ (by decide)) ht.leap hu.leap
      t.nano_lt u.nano_lt, compare_second t.second u.second, Ordering.then_assoc,
    Ordering.then_assoc]

theorem compareChars_chars (t u : DateTime) (ht : t.IsShown) (hu : u.IsShown) :
    compareChars t.chars u.chars = t.compare u := by
  rw [chars_eq_fullClock, chars_eq_fullClock,
    compareChars_dateChars _ _ ht.year_bounds hu.year_bounds, compareChars_cons_self,
    compareChars_fullClock t u ht hu, compare]

end DateTime

end CriteriaSearch
