import CriteriaSearch.Proofs.Calendar.Reading
import CriteriaSearch.Proofs.DateSorting
import CriteriaSearch.Proofs.Compilation

namespace CriteriaSearch

theorem eq_of_compareChars {as bs : List Char} (h : compareChars as bs = .eq) : as = bs := by
  unfold compareChars at h
  split at h
  · cases h
  · split at h
    · next heq => exact heq
    · cases h

/-- Digits are what the number that they write looks like when it is padded to their count. -/
theorem padded_digitsValue (cs : List Char) (hne : 0 < cs.length) (hcs : cs.all isDigit = true) :
    Date.padded cs.length (digitsValue 0 cs) = cs := by
  have hlt := digitsValue_lt 0 cs hcs
  rw [Nat.zero_add, Nat.one_mul] at hlt
  have hlength := Date.length_padded cs.length (digitsValue 0 cs) hne hlt
  have hcompare := compareChars_numbers _ cs hlength (Date.all_isDigit_padded _ _) hcs
  rw [Date.digitsValue_padded, Std.ReflOrd.compare_self] at hcompare
  exact eq_of_compareChars hcompare

namespace Date

/-- The year of the date is written with four digits and no sign. -/
def IsShort (d : Date) : Prop := 0 ≤ d.year ∧ d.year ≤ 9999

instance (d : Date) : Decidable d.IsShort := inferInstanceAs (Decidable (_ ∧ _))

theorem ofParts?_eq_some {year : Int} {month day : Nat} {d : Date}
    (h : ofParts? year month day = some d) : d.year = year ∧ d.month = month ∧ d.day = day := by
  unfold ofParts? at h
  split at h
  · cases h
    exact ⟨rfl, rfl, rfl⟩
  · cases h

theorem compare_eq_eq_iff (d e : Date) : d.compare e = .eq ↔ d = e := by
  constructor
  · intro h
    simp only [compare, Ordering.then_eq_eq, compare_eq_iff_eq] at h
    obtain ⟨hyear, hmonth, hday⟩ := h
    cases d
    cases e
    simp only [mk.injEq]
    exact ⟨hyear, hmonth, hday⟩
  · rintro rfl
    simp only [compare, Std.ReflOrd.compare_self, Ordering.eq_then]

end Date

namespace DateTime

theorem compare_eq_eq_iff (t u : DateTime) : t.compare u = .eq ↔ t = u := by
  constructor
  · intro h
    simp only [compare, Ordering.then_eq_eq, compare_eq_iff_eq, Date.compare_eq_eq_iff] at h
    obtain ⟨hdate, hsecond, hnano⟩ := h
    cases t
    cases u
    simp only [mk.injEq]
    exact ⟨hdate, hsecond, hnano⟩
  · rintro rfl
    exact compare_self t

/-- A text looks like a date if its characters are four, two and two digits with hyphens. -/
theorem looksLikeDate_iff (s : String) :
    looksLikeDate s = true ↔ ∃ year month day : List Char,
      s.toList = year ++ '-' :: (month ++ '-' :: day) ∧
      (year.length = 4 ∧ year.all isDigit = true) ∧
      (month.length = 2 ∧ month.all isDigit = true) ∧ day.length = 2 ∧ day.all isDigit = true := by
  unfold looksLikeDate
  constructor
  · intro h
    split at h
    · next a b c d e f g i hs =>
      simp only [List.all_cons, List.all_nil, Bool.and_true, Bool.and_eq_true] at h
      obtain ⟨ha, hb, hc, hd, he, hf, hg, hi⟩ := h
      exact ⟨[a, b, c, d], [e, f], [g, i], hs, by simp [ha, hb, hc, hd], by simp [he, hf],
        by simp [hg, hi]⟩
    · cases h
  · rintro ⟨year, month, day, hs, ⟨hyear, hyears⟩, ⟨hmonth, hmonths⟩, hday, hdays⟩
    obtain ⟨a, b, c, d, rfl⟩ := List.length_eq_four.mp hyear
    obtain ⟨e, f, rfl⟩ := List.length_eq_two.mp hmonth
    obtain ⟨g, i, rfl⟩ := List.length_eq_two.mp hday
    rw [hs]
    simp only [List.all_cons, List.all_nil, Bool.and_true, Bool.and_eq_true] at hyears hmonths hdays
    simp [hyears, hmonths, hdays]

end DateTime

theorem LayoutItem.upTo?_two (most n : Nat) (rest : List Char) (hn : n < 100) :
    upTo? most (Date.padded 2 n ++ rest) = if n ≤ most then some (n, rest) else none := by
  rw [upTo?, skipBlank_padded, digits?_padded 2 n rest (by decide) hn, Option.bind_some]

namespace DateTime

open Layout

/-- The date that such a text names, if it names one, is written in the same way. -/
theorem chars_of_isoDate (year month day : Nat) (hyear : year < 10000) (hmonth : month < 100)
    (hday : day < 100) (d : Date)
    (h : isoDate.date? (Date.padded 4 year ++ '-' :: (Date.padded 2 month ++
      '-' :: Date.padded 2 day)) = some d) :
    d.IsShort ∧ d.chars = Date.padded 4 year ++ '-' :: (Date.padded 2 month ++
      '-' :: Date.padded 2 day) := by
  have hlast := LayoutItem.upTo?_two 31 day [] hday
  rw [List.append_nil] at hlast
  obtain ⟨p, hp, hdate⟩ := Option.bind_eq_some_iff.mp h
  simp only [isoDate, parts?, LayoutItem.read?, LayoutItem.year?_padded year _ hyear,
    Option.map_some, Option.bind_some, if_true, LayoutItem.upTo?_two 12 month _ hmonth] at hp
  by_cases hm : month ≤ 12
  · rw [if_pos hm] at hp
    simp only [Option.map_some, Option.bind_some, if_true, hlast] at hp
    by_cases hd : day ≤ 31
    · rw [if_pos hd] at hp
      cases hp
      obtain ⟨hy, hm, hd⟩ := Date.ofParts?_eq_some hdate
      have hshort : d.IsShort := by
        unfold Date.IsShort
        omega
      refine ⟨hshort, ?_⟩
      rw [d.chars_eq hshort.1 hshort.2, hy, hm, hd, Int.toNat_natCast]
    · rw [if_neg hd] at hp
      cases hp
  · rw [if_neg hm] at hp
    cases hp

theorem wholeDay?_eq_some_iff (s : String) (first last : DateTime) :
    wholeDay? s = some (first, last) ↔
      ∃ d : Date, d.IsShort ∧ s.toList = d.chars ∧ first = midnight d ∧ last = endOfDay d := by
  constructor
  · intro h
    unfold wholeDay? at h
    split at h
    · next hlooks =>
      obtain ⟨d, hd, hpair⟩ := Option.map_eq_some_iff.mp h
      cases hpair
      obtain ⟨year, month, day, hs, ⟨hyear, hyears⟩, ⟨hmonth, hmonths⟩, hday, hdays⟩ :=
        (looksLikeDate_iff s).mp hlooks
      -- Digits are what their number looks like in as many places.
      have hnumber (cs : List Char) (n : Nat) (hn : cs.length = n) (hpos : 0 < n)
          (hcs : cs.all isDigit = true) :
          cs = Date.padded n (digitsValue 0 cs) ∧ digitsValue 0 cs < 10 ^ n := by
        subst hn
        have hlt := digitsValue_lt 0 cs hcs
        rw [Nat.zero_add, Nat.one_mul] at hlt
        exact ⟨(padded_digitsValue cs hpos hcs).symm, hlt⟩
      obtain ⟨hyear, hyearlt⟩ := hnumber year 4 hyear (by decide) hyears
      obtain ⟨hmonth, hmonthlt⟩ := hnumber month 2 hmonth (by decide) hmonths
      obtain ⟨hday, hdaylt⟩ := hnumber day 2 hday (by decide) hdays
      rw [hyear, hmonth, hday] at hs
      rw [hs] at hd
      obtain ⟨hshort, hchars⟩ := chars_of_isoDate _ _ _ hyearlt hmonthlt hdaylt d hd
      exact ⟨d, hshort, hs.trans hchars.symm, rfl, rfl⟩
    · cases h
  · rintro ⟨d, hshort, hs, rfl, rfl⟩
    have hmonth := d.month_bounds.2
    have hday := d.day_le
    have hyear : d.year.toNat < 10 ^ 4 := by
      have := hshort.2
      omega
    have hlooks : looksLikeDate s = true := by
      rw [looksLikeDate_iff, hs, d.chars_eq hshort.1 hshort.2]
      exact ⟨_, _, _, rfl,
        ⟨Date.length_padded 4 _ (by decide) hyear, Date.all_isDigit_padded _ _⟩,
        ⟨Date.length_padded 2 _ (by decide) (by omega), Date.all_isDigit_padded _ _⟩,
        Date.length_padded 2 _ (by decide) (by omega), Date.all_isDigit_padded _ _⟩
    -- What is written for a date is read as the date.
    have hread := parts?_isoDate d [] []
    rw [List.append_nil, List.append_nil] at hread
    have hdate : isoDate.date? d.chars = some d := by
      rw [Layout.date?, hread, parts?, Option.bind_some, DateParts.date?]
      exact d.ofParts?_self
    rw [wholeDay?, if_pos hlooks, hs, hdate, Option.map_some]

theorem wholeDay?_display (d : Date) (hshort : d.IsShort) :
    wholeDay? d.display = some (midnight d, endOfDay d) := by
  refine (wholeDay?_eq_some_iff _ _ _).mpr ⟨d, hshort, ?_, rfl, rfl⟩
  rw [Date.display, String.toList_ofList]

theorem ofText?_of_wholeDay? {s : String} {first last : DateTime}
    (h : wholeDay? s = some (first, last)) : DateTime.ofText? s = some first := by
  obtain ⟨d, hshort, hs, rfl, -⟩ := (wholeDay?_eq_some_iff s first last).mp h
  have hread := ofText?_dateChars d ⟨hshort.1, hshort.2, (by decide : 0 < 1000000000), rfl⟩
  rwa [← hs, String.ofList_toList] at hread

/-- The moment lies in a leap second that is added at the end of its day. -/
def IsLastLeap (t : DateTime) : Prop := t.second = 86399 ∧ 1000000000 ≤ t.nano

instance (t : DateTime) : Decidable t.IsLastLeap := inferInstanceAs (Decidable (_ ∧ _))

theorem midnight_le_iff (d : Date) (t : DateTime) :
    t.compare (midnight d) ≠ .lt ↔ t.date.compare d ≠ .lt := by
  have hsecond : Ord.compare t.second 0 ≠ .lt := by
    rw [ne_eq, compare_lt_iff_lt]
    omega
  have hnano : Ord.compare t.nano 0 ≠ .lt := by
    rw [ne_eq, compare_lt_iff_lt]
    omega
  change (t.date.compare d).then ((Ord.compare t.second 0).then (Ord.compare t.nano 0)) ≠ .lt ↔ _
  rw [ne_eq, ne_eq, Ordering.then_eq_lt, Ordering.then_eq_lt]
  simp [hsecond, hnano]

theorem le_endOfDay_iff (d : Date) (t : DateTime) :
    t.compare (endOfDay d) ≠ .gt ↔
      t.date.compare d ≠ .gt ∧ (t.date = d → ¬t.IsLastLeap) := by
  have hlt := t.second_lt
  have hclock : (Ord.compare t.second 86399).then (Ord.compare t.nano 999999999) = .gt ↔
      t.IsLastLeap := by
    rw [Ordering.then_eq_gt, compare_gt_iff_gt, compare_eq_iff_eq, compare_gt_iff_gt, IsLastLeap]
    omega
  change (t.date.compare d).then ((Ord.compare t.second 86399).then
    (Ord.compare t.nano 999999999)) ≠ .gt ↔ _
  rw [ne_eq, Ordering.then_eq_gt, hclock, not_or, not_and, Date.compare_eq_eq_iff]

/-- The range of a day holds the moments of the day, but those of a leap second at its end. -/
theorem within_day_iff (d : Date) (t : DateTime) :
    t.compare (midnight d) ≠ .lt ∧ t.compare (endOfDay d) ≠ .gt ↔ t.date = d ∧ ¬t.IsLastLeap := by
  rw [midnight_le_iff, le_endOfDay_iff, ← Date.compare_eq_eq_iff]
  cases t.date.compare d <;> simp

end DateTime

namespace Predicate

/-- The field names a moment of the day. -/
def onDay (key : String) (d : Date) : Predicate :=
  .range key (.dateTime (.midnight d)) (.dateTime (.endOfDay d))

def atMoment (key : String) (t : DateTime) : Predicate := .compare key .equal (.dateTime t)

theorem holds_range_dateTime (key : String) (row : Json) (first last : DateTime) :
    (range key (.dateTime first) (.dateTime last)).holds row = true ↔
      ∃ t, row.moment? key = some t ∧ t.compare first ≠ .lt ∧ t.compare last ≠ .gt := by
  rw [holds_iff, evaluate, testField, Json.moment?]
  cases row.present? key with
  | none => simp
  | some stored =>
    rw [Truth.ofBool_eq_yes, withinRange, Json.compareWith_dateTime, Json.compareWith_dateTime,
      Option.bind_some]
    cases stored.text?.bind Json.dateTime? with
    | none => simp
    | some t =>
      simp only [Option.map_some, Option.some.injEq, exists_eq_left']
      cases t.compare first <;> cases t.compare last <;> decide

theorem holds_onDay_iff (key : String) (d : Date) (row : Json) :
    (onDay key d).holds row = true ↔
      ∃ t, row.moment? key = some t ∧ t.date = d ∧ ¬t.IsLastLeap := by
  rw [onDay, holds_range_dateTime]
  simp only [DateTime.within_day_iff]

theorem holds_atMoment_iff (key : String) (u : DateTime) (row : Json) :
    (atMoment key u).holds row = true ↔ row.moment? key = some u := by
  rw [atMoment, Json.holds_compare_dateTime, Comparison.holds]
  constructor
  · rintro ⟨stored, -, h⟩
    rw [beq_iff_eq, Option.map_eq_some_iff] at h
    obtain ⟨t, ht, hcompare⟩ := h
    rwa [← (DateTime.compare_eq_eq_iff t u).mp hcompare]
  · intro h
    obtain ⟨s, hs, -⟩ := Json.present?_of_moment? h
    refine ⟨.text s, hs, ?_⟩
    rw [h, Option.map_some, DateTime.compare_self]
    rfl

end Predicate

namespace Filter

variable {ds : List FilterDescriptor} {f : Filter} {s : String}

theorem equality_of_value (t : FieldType) (hvalue : f.value = some s) :
    f.equality t = match (if t = .date then DateTime.wholeDay? s else none) with
      | some (first, last) => .ok (.range f.key (.dateTime first) (.dateTime last))
      | none => f.comparing t .equal := by
  rw [equality, requiredValue, hvalue]
  rfl

theorem compile_equals (t : FieldType) (hop : f.operator = .equals) (hvalue : f.value = some s) :
    f.compile t = match (if t = .date then DateTime.wholeDay? s else none) with
      | some (first, last) => .ok (some (.range f.key (.dateTime first) (.dateTime last)))
      | none => (FieldValue.ofText s t).map fun v => some (.compare f.key .equal v) := by
  have hrequired : f.requiredValue = .ok s := by rw [requiredValue, hvalue]
  have hcomparing : f.comparing t .equal =
      (FieldValue.ofText s t).map fun v => .compare f.key .equal v := by
    rw [comparing, hrequired]
    change (FieldValue.ofText s t >>= fun v =>
      (.ok (Predicate.compare f.key .equal v) : Except SearchError Predicate)) = _
    cases FieldValue.ofText s t <;> rfl
  rw [compile, hop]
  dsimp only
  rw [equality_of_value t hvalue, hcomparing]
  rcases (if t = .date then DateTime.wholeDay? s else none) with _ | ⟨first, last⟩
  · cases FieldValue.ofText s t <;> rfl
  · rfl

theorem compile_dateAlone (hop : f.operator = .equals) (hvalue : f.value = some s) {d : Date}
    (hshort : d.IsShort) (hs : s = d.display) : f.compile .date = .ok (some (.onDay f.key d)) := by
  rw [compile_equals .date hop hvalue, if_pos rfl, hs, DateTime.wholeDay?_display d hshort]
  rfl

theorem compile_moment (hop : f.operator = .equals) (hvalue : f.value = some s) {u : DateTime}
    (hread : DateTime.ofText? s = some u) (hother : ∀ d : Date, d.IsShort → s ≠ d.display) :
    f.compile .date = .ok (some (.atMoment f.key u)) := by
  have hday : DateTime.wholeDay? s = none := by
    -- A text with a whole day would be that of a date alone.
    by_contra hsome
    obtain ⟨⟨first, last⟩, hpair⟩ := Option.ne_none_iff_exists'.mp hsome
    obtain ⟨d, hshort, hs, -⟩ := (DateTime.wholeDay?_eq_some_iff _ _ _).mp hpair
    exact hother d hshort (by rw [Date.display, ← hs, String.ofList_toList])
  rw [compile_equals .date hop hvalue, if_pos rfl, hday]
  simp only [FieldValue.ofText, DateTime.ofText, hread]
  rfl

/-- An equality with a date alone, written as year, month and day, finds the rows whose moment lies
on that day, unless it lies in a leap second at its end. So no row is found on two days, and a row
of the years 0 to 9999 is found on exactly one day if its moment is no such leap second. An equality
with any other date or date-time finds the rows of that very moment. -/
theorem equality_finds_day (hop : f.operator = .equals) (hvalue : f.value = some s)
    (htype : f.resolvedType ds = .date) :
    (∀ d : Date, d.IsShort → s = d.display →
      f.compile (f.resolvedType ds) = .ok (some (.onDay f.key d))) ∧
    (∀ u, DateTime.ofText? s = some u → (∀ d : Date, d.IsShort → s ≠ d.display) →
      f.compile (f.resolvedType ds) = .ok (some (.atMoment f.key u))) ∧
    ∀ row t, row.moment? f.key = some t →
      (∀ d, (Predicate.onDay f.key d).holds row = true ↔ t.date = d ∧ ¬t.IsLastLeap) ∧
      (∀ u, (Predicate.atMoment f.key u).holds row = true ↔ t = u) ∧
      (∀ d e, d ≠ e → ¬((Predicate.onDay f.key d).holds row = true ∧
        (Predicate.onDay f.key e).holds row = true)) ∧
      (t.date.IsShort →
        ((∃! d : Date, d.IsShort ∧ (Predicate.onDay f.key d).holds row = true) ↔
          ¬t.IsLastLeap)) := by
  rw [htype]
  refine ⟨fun d hshort hs => compile_dateAlone hop hvalue hshort hs,
    fun u hread hother => compile_moment hop hvalue hread hother, ?_⟩
  intro row t ht
  -- All that is said of several days follows from what one day finds.
  have hday (d : Date) :
      (Predicate.onDay f.key d).holds row = true ↔ t.date = d ∧ ¬t.IsLastLeap := by
    simp only [Predicate.holds_onDay_iff, ht, Option.some.injEq, exists_eq_left']
  refine ⟨hday, ?_, ?_, ?_⟩
  · intro u
    rw [Predicate.holds_atMoment_iff, ht, Option.some.injEq]
  · intro d e hne hboth
    rw [hday, hday] at hboth
    exact hne (hboth.1.1.symm.trans hboth.2.1)
  · intro hshort
    constructor
    · rintro ⟨d, ⟨-, hd⟩, -⟩
      exact ((hday d).mp hd).2
    · intro hleap
      refine ⟨t.date, ⟨hshort, (hday _).mpr ⟨rfl, hleap⟩⟩, ?_⟩
      rintro d ⟨-, hd⟩
      exact ((hday d).mp hd).1.symm

end Filter

theorem Operator.equals_ne_nil : [Operator.equals] ≠ [] := by decide

theorem Operator.normalize_equals : Operator.normalize [.equals] = [.equals] := by decide

def eventFields : List FilterDescriptor :=
  [⟨"at", .date, true, [.equals], by decide, Operator.equals_ne_nil, Operator.normalize_equals⟩]

def eventsOf (d : Date) : Filter := .withValue "at" .equals d.display

theorem year_2024_bounds : -262143 ≤ (2024 : Int) ∧ (2024 : Int) ≤ 262142 := by decide

theorem february_bounds : 1 ≤ 2 ∧ 2 ≤ 12 := by decide

theorem february_2024_bounds : 1 ≤ 29 ∧ 29 ≤ daysInMonth 2024 2 := by decide

def leapDay2024 : Date :=
  ⟨2024, 2, 29, year_2024_bounds, february_bounds, february_2024_bounds⟩

/-- An event on the first of March in a zone an hour east, which is still on the leap day. -/
def lateEvent : Json := .object [("at", .text "2024-03-01T00:30:00.5+01:00")]

theorem half_second_lt : 500000000 < 2000000000 := by decide

def lateMoment : DateTime := ⟨leapDay2024, 84600, 500000000, by decide, half_second_lt⟩

/-- The event is found on the leap day and on no other one. -/
theorem equality_finds_day_zoned :
    (eventsOf leapDay2024).operator = .equals ∧
      (eventsOf leapDay2024).value = some leapDay2024.display ∧
      (eventsOf leapDay2024).resolvedType eventFields = .date ∧
      (eventsOf leapDay2024).compile .date = .ok (some (.onDay "at" leapDay2024)) ∧
      ∃! d : Date, d.IsShort ∧ (Predicate.onDay "at" d).holds lateEvent = true := by
  have hmoment : lateEvent.moment? "at" = some lateMoment := by rfl
  have htype : (eventsOf leapDay2024).resolvedType eventFields = .date := rfl
  obtain ⟨hday, -, hrows⟩ :=
    Filter.equality_finds_day (s := leapDay2024.display) rfl rfl htype
  refine ⟨rfl, rfl, rfl, hday leapDay2024 (by decide) rfl, ?_⟩
  exact ((hrows lateEvent lateMoment hmoment).2.2.2 (by decide)).mpr (by decide)

/-- The last day of the year 2016, which ended with a leap second. -/
def lastDay2016 : Date := ⟨2016, 12, 31, by decide, by decide, by decide⟩

def leapEvent : Json := .object [("at", .text "2016-12-31T23:59:60Z")]

/-- A moment of the day that the filter of the day does not find. -/
theorem equality_misses_lastLeap :
    (eventsOf lastDay2016).compile ((eventsOf lastDay2016).resolvedType eventFields) =
        .ok (some (.onDay "at" lastDay2016)) ∧
      (leapEvent.moment? "at").map DateTime.date = some lastDay2016 ∧
      (Predicate.onDay "at" lastDay2016).holds leapEvent = false := by
  refine ⟨?_, ?_, ?_⟩
  · rfl
  · rfl
  · rfl

end CriteriaSearch
