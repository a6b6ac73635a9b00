import CriteriaSearch.Proofs.Calendar.Chronological
import CriteriaSearch.Proofs.Paging

/-!
# Sorting by dates

Rows are sorted by a date as by any other text, while tests compare the moments that the texts name.
Both agree exactly where the texts of earlier moments come first. They do so where all texts are
written in full without a zone, or all in universal time and of one length. A text in universal time
with a fraction comes before one of the same second without.
-/

namespace CriteriaSearch

theorem Date.compare_swap (d e : Date) : d.compare e = (e.compare d).swap := by
  rw [Date.compare, Date.compare, Ordering.swap_then, Ordering.swap_then,
    ← Std.OrientedOrd.eq_swap, ← Std.OrientedOrd.eq_swap, ← Std.OrientedOrd.eq_swap]

theorem DateTime.compare_swap (t u : DateTime) : t.compare u = (u.compare t).swap := by
  rw [DateTime.compare, DateTime.compare, Ordering.swap_then, Ordering.swap_then,
    ← Date.compare_swap, ← Std.OrientedOrd.eq_swap, ← Std.OrientedOrd.eq_swap]

theorem DateTime.compare_self (t : DateTime) : t.compare t = .eq := by
  have h := t.compare_swap t
  revert h
  cases t.compare t <;> decide

namespace Json

/-- The moment that the text under a key names, as tests of dates take it. -/
def moment? (key : String) (row : Json) : Option DateTime :=
  (row.present? key).bind fun stored => stored.text?.bind dateTime?

def textAt (key : String) (row : Json) : String :=
  ((row.present? key).bind text?).getD ""

/-- The first row is found by the test for moments before that of the second row. -/
def IsEarlier (key : String) (a b : Json) : Prop :=
  ∃ t, b.moment? key = some t ∧ (Predicate.compare key .less (.dateTime t)).holds a = true

theorem dateTime?_leap (s : String) (t : DateTime) (h : dateTime? s = some t) :
    1000000000 ≤ t.nano → t.second % 60 = 59 := by
  rcases Option.or_eq_some_iff.mp h with hzoned | ⟨-, htext⟩
  · exact DateTime.ofZoned?_leap s.toList t hzoned
  · exact DateTime.ofText?_leap s t htext

/-- A stored text is compared as the moment that it names, and other values not at all. -/
theorem compareWith_dateTime (stored : Json) (u : DateTime) :
    stored.compareWith (.dateTime u) =
      (stored.text?.bind dateTime?).map fun t => t.compare u := by
  rw [compareWith, asKindOf?]
  cases stored.text?.bind dateTime? <;> rfl

/-- A test of a date holds of a row when its moment has the order that the test asks for. -/
theorem holds_compare_dateTime (key : String) (c : Comparison) (row : Json) (u : DateTime) :
    (Predicate.compare key c (.dateTime u)).holds row = true ↔
      ∃ stored, row.present? key = some stored ∧
        c.holds ((row.moment? key).map fun t => t.compare u) = true := by
  rw [Predicate.holds_iff, Predicate.evaluate, Predicate.testField, moment?]
  cases row.present? key with
  | none => simp
  | some stored => simp [Truth.ofBool_eq_yes, compareWith_dateTime]

theorem present?_of_moment? {key : String} {row : Json} {t : DateTime}
    (h : row.moment? key = some t) :
    ∃ s, row.present? key = some (.text s) ∧ dateTime? s = some t := by
  obtain ⟨stored, hstored, h⟩ := Option.bind_eq_some_iff.mp h
  obtain ⟨s, hs, ht⟩ := Option.bind_eq_some_iff.mp h
  cases stored <;> cases hs
  exact ⟨s, hstored, ht⟩

theorem isEarlier_iff (key : String) (a b : Json) :
    IsEarlier key a b ↔
      ∃ t u, a.moment? key = some t ∧ b.moment? key = some u ∧ t.compare u = .lt := by
  constructor
  · rintro ⟨u, hu, hless⟩
    obtain ⟨stored, -, hlt⟩ := (holds_compare_dateTime key .less a u).mp hless
    rw [Comparison.holds, beq_iff_eq, Option.map_eq_some_iff] at hlt
    obtain ⟨t, ht, hcompare⟩ := hlt
    exact ⟨t, u, ht, hu, hcompare⟩
  · rintro ⟨t, u, ht, hu, hcompare⟩
    obtain ⟨s, hs, -⟩ := present?_of_moment? ht
    refine ⟨u, hu, (holds_compare_dateTime key .less a u).mpr ⟨.text s, hs, ?_⟩⟩
    rw [Comparison.holds, ht, Option.map_some, hcompare]
    rfl

theorem isEarlier_iff_greater (key : String) (a b : Json) :
    IsEarlier key a b ↔ ∃ t, a.moment? key = some t ∧
      (Predicate.compare key .greater (.dateTime t)).holds b = true := by
  rw [isEarlier_iff]
  constructor
  · rintro ⟨t, u, ht, hu, hcompare⟩
    obtain ⟨s, hs, -⟩ := present?_of_moment? hu
    refine ⟨t, ht, (holds_compare_dateTime key .greater b t).mpr ⟨.text s, hs, ?_⟩⟩
    rw [Comparison.holds, hu, Option.map_some, DateTime.compare_swap, hcompare]
    rfl
  · rintro ⟨t, ht, hgreater⟩
    obtain ⟨stored, -, hgt⟩ := (holds_compare_dateTime key .greater b t).mp hgreater
    rw [Comparison.holds, beq_iff_eq, Option.map_eq_some_iff] at hgt
    obtain ⟨u, hu, hcompare⟩ := hgt
    refine ⟨t, u, ht, hu, ?_⟩
    rw [DateTime.compare_swap, hcompare]
    rfl

end Json

/-- Every value that the rows have under the key is a text that names a moment. -/
def HoldDates (key : String) (rows : List Json) : Prop :=
  ∀ row ∈ rows, ∀ stored, row.present? key = some stored → ∃ t, row.moment? key = some t

theorem textAt_of_moment? {key : String} {row : Json} {t : DateTime}
    (h : row.moment? key = some t) :
    row.valueAt key = .text (row.textAt key) ∧ Json.dateTime? (row.textAt key) = some t := by
  obtain ⟨s, hs, hread⟩ := Json.present?_of_moment? h
  have hfield : row.field? key = some (.text s) := (Option.filter_eq_some_iff.mp hs).1
  have htext : row.textAt key = s := by
    rw [Json.textAt, hs]
    rfl
  rw [Json.valueAt, hfield, htext]
  exact ⟨rfl, hread⟩

theorem valueAt_of_moment?_eq_none {key : String} {rows : List Json} (hrows : HoldDates key rows)
    (row : Json) (hrow : row ∈ rows) (h : row.moment? key = none) : row.valueAt key = .null := by
  cases hpresent : row.present? key with
  | some stored =>
    obtain ⟨t, ht⟩ := hrows row hrow stored hpresent
    rw [ht] at h
    cases h
  | none =>
    rw [Json.present?, Option.filter_eq_none_iff] at hpresent
    rw [Json.valueAt]
    cases hfield : row.field? key with
    | none => rfl
    | some stored =>
      have hnull := hpresent stored hfield
      cases stored <;> first | rfl | exact absurd rfl hnull

/-- Rows with dates are ordered by a key in a way that sorting can follow. -/
theorem isTransitiveOn_dates (key : String) (t : FieldType) (rows : List Json)
    (hrows : HoldDates key rows) : IsTransitiveOn (compareRows [⟨key, .ascending, t⟩]) rows := by
  have hnumber (row : Json) (hrow : row ∈ rows) :
      (row.valueAt key).number? = none ∧ (row.valueAt key).IsDefined := by
    cases hmoment : row.moment? key with
    | none =>
      rw [valueAt_of_moment?_eq_none hrows row hrow hmoment]
      exact ⟨rfl, nofun⟩
    | some t =>
      rw [(textAt_of_moment? hmoment).1]
      exact ⟨rfl, nofun⟩
  -- Only numbers between two integers can break the order, and no value is a number.
  have hclash : ¬HasClash (· ∈ rows) key := by
    rintro ⟨a, b, c, ha, -, -, x, y, z, hx, -⟩
    rw [(hnumber a ha).1] at hx
    cases hx
  intro a ha b hb c hc
  apply compareRows_trans _ (· ∈ rows) _ a b c ha hb hc
  intro s hs
  rw [List.mem_singleton.mp hs]
  exact TypedSort.compareRows_trans _ _ (fun row hrow => (hnumber row hrow).2) hclash

theorem compareRows_dates (key : String) (t : FieldType) (a b : Json) (u v : DateTime)
    (ha : a.moment? key = some u) (hb : b.moment? key = some v) :
    compareRows [⟨key, .ascending, t⟩] a b = compareText (a.textAt key) (b.textAt key) := by
  rw [compareRows, compareRows, Ordering.then_eq, TypedSort.compareRows_eq,
    (textAt_of_moment? ha).1, (textAt_of_moment? hb).1]
  rfl

theorem compareText_eq_lt (s t : String) : compareText s t = .lt ↔ s < t := by
  unfold compareText
  split
  · simp [*]
  · split <;> simp [*]

theorem compareText_eq_eq (s t : String) : compareText s t = .eq ↔ s = t := by
  unfold compareText
  split
  · next h =>
    simp only [reduceCtorEq, false_iff]
    rintro rfl
    exact String.lt_irrefl s h
  · split <;> simp [*]

namespace DateTime

/-- The text is that of a date alone, or of a date-time in full without a zone. -/
def WritesLocal (t : DateTime) (cs : List Char) : Prop :=
  (t = midnight t.date ∧ cs = t.date.chars) ∨ cs = t.chars

instance (t : DateTime) (cs : List Char) : Decidable (t.WritesLocal cs) :=
  inferInstanceAs (Decidable (_ ∨ _))

/-- Local texts are in the order of what they write, a date before all later times of its day. -/
theorem compareChars_writesLocal {t u : DateTime} {cs ds : List Char} (hcs : t.WritesLocal cs)
    (hds : u.WritesLocal ds) (ht : t.IsShown) (hu : u.IsShown) (h : t.compare u = .lt) :
    compareChars cs ds = .lt := by
  have hdates (cs ds : List Char) :
      compareChars (t.date.chars ++ cs) (u.date.chars ++ ds) =
        (t.date.compare u.date).then (compareChars cs ds) :=
    compareChars_dateChars t.date u.date ht.year_bounds hu.year_bounds cs ds
  have horder := h
  rw [compare, Ordering.then_eq_lt] at horder
  rcases hcs with ⟨htday, rfl⟩ | rfl
  · rcases hds with ⟨huday, rfl⟩ | rfl
    · -- Two days are compared, so that the clocks, both at midnight, say nothing.
      have hclock : (Ord.compare t.second u.second).then (Ord.compare t.nano u.nano) = .eq := by
        rw [htday, huday]
        rfl
      have hdate := hdates [] []
      rw [List.append_nil, List.append_nil] at hdate
      rw [hclock, ← Ordering.then_eq_lt] at horder
      rw [hdate]
      exact horder
    · -- The text of a day is the start of every text of a time on that day.
      have hdate := hdates [] ('T' :: u.fullClock)
      rw [List.append_nil] at hdate
      rw [chars_eq_fullClock, hdate, Ordering.then_eq_lt]
      apply horder.imp_right
      rintro ⟨heq, -⟩
      exact ⟨heq, rfl⟩
  · rcases hds with ⟨huday, rfl⟩ | rfl
    · -- Nothing of a day comes before its midnight, so that the days differ.
      have hfirst : (Ord.compare t.second u.second).then (Ord.compare t.nano u.nano) ≠ .lt := by
        have hsecond : u.second = 0 := by rw [huday]; rfl
        have hnano : u.nano = 0 := by rw [huday]; rfl
        rw [ne_eq, Ordering.then_eq_lt, compare_lt_iff_lt, compare_lt_iff_lt]
        omega
      have hdate := hdates ('T' :: t.fullClock) []
      have hlt := horder.resolve_right fun h => hfirst h.2
      rw [List.append_nil] at hdate
      rw [chars_eq_fullClock, hdate, hlt]
      rfl
    · rw [compareChars_chars t u ht hu]
      exact h

/-- Texts in universal time that have one length are in the order of what they write. -/
theorem compareChars_utc {t u : DateTime} (ht : t.IsShown) (hu : u.IsShown)
    (hlength : t.chars.length = u.chars.length) :
    compareChars (t.chars ++ ['Z']) (u.chars ++ ['Z']) = t.compare u := by
  rw [compareChars_append _ _ _ _ hlength, compareChars_chars t u ht hu]
  exact Ordering.then_eq

end DateTime

/-- The dates under a key are written in one form: none with a zone, or all in universal time and
with one count of digits. Their years have four digits. -/
inductive IsUniform (key : String) (rows : List Json) : Prop
  | noZone : (∀ row ∈ rows, ∀ t, row.moment? key = some t → 0 ≤ t.date.year ∧ t.date.year ≤ 9999 ∧
      t.WritesLocal (row.textAt key).toList) → IsUniform key rows
  | utc (length : Nat) : (∀ row ∈ rows, ∀ t, row.moment? key = some t →
      0 ≤ t.date.year ∧ t.date.year ≤ 9999 ∧ t.chars.length = length ∧
        (row.textAt key).toList = t.chars ++ ['Z']) → IsUniform key rows

theorem IsUniform.textAt_lt {key : String} {rows : List Json} (h : IsUniform key rows)
    (a b : Json) (ha : a ∈ rows) (hb : b ∈ rows) (hearlier : a.IsEarlier key b) :
    a.textAt key < b.textAt key := by
  obtain ⟨t, u, ht, hu, hlt⟩ := (Json.isEarlier_iff key a b).mp hearlier
  have hleap (row : Json) (t : DateTime) (hrow : row.moment? key = some t) :=
    Json.dateTime?_leap _ t (textAt_of_moment? hrow).2
  rw [← compareText_eq_lt, ← String.ofList_toList (s := a.textAt key),
    ← String.ofList_toList (s := b.textAt key), compareText_ofList]
  cases h with
  | noZone hrows =>
    obtain ⟨htnonneg, htle, htext⟩ := hrows a ha t ht
    obtain ⟨hunonneg, hule, hutext⟩ := hrows b hb u hu
    exact DateTime.compareChars_writesLocal htext hutext ⟨htnonneg, htle, hleap a t ht⟩
      ⟨hunonneg, hule, hleap b u hu⟩ hlt
  | utc length hrows =>
    obtain ⟨htnonneg, htle, htlength, htext⟩ := hrows a ha t ht
    obtain ⟨hunonneg, hule, hulength, hutext⟩ := hrows b hb u hu
    rw [htext, hutext, DateTime.compareChars_utc ⟨htnonneg, htle, hleap a t ht⟩
      ⟨hunonneg, hule, hleap b u hu⟩ (htlength.trans hulength.symm)]
    exact hlt

def IsChronological (key : String) (rows : List Json) : Prop :=
  rows.Pairwise fun a b => ¬b.IsEarlier key a

/-- A stable sort by a date is chronological exactly if earlier dates have smaller texts. -/
theorem isChronological_iff {key : String} {t : FieldType} {rows found : List Json}
    (hsort : IsStableSort (compareRows [⟨key, .ascending, t⟩]) rows found) :
    IsChronological key found ↔
      ∀ a ∈ rows, ∀ b ∈ rows, a.IsEarlier key b → a.textAt key < b.textAt key := by
  have hcompare (a b : Json) (hearlier : a.IsEarlier key b) :
      compareRows [⟨key, .ascending, t⟩] a b = compareText (a.textAt key) (b.textAt key) := by
    obtain ⟨u, v, hu, hv, -⟩ := (Json.isEarlier_iff key a b).mp hearlier
    exact compareRows_dates key t a b u v hu hv
  -- Rows with different dates are never equal in the order of the key.
  have hdiffer (a b : Json) (hearlier : a.IsEarlier key b) :
      compareRows [⟨key, .ascending, t⟩] a b ≠ .eq := by
    obtain ⟨u, v, hu, hv, hlt⟩ := (Json.isEarlier_iff key a b).mp hearlier
    rw [hcompare a b hearlier, ne_eq, compareText_eq_eq]
    intro htext
    -- One text cannot name two moments.
    have hread := (textAt_of_moment? hu).2
    rw [htext, (textAt_of_moment? hv).2] at hread
    cases hread
    rw [DateTime.compare_self] at hlt
    cases hlt
  rw [IsChronological, hsort.pairwise_not_iff (Json.IsEarlier key) fun a _ b _ => hdiffer a b]
  have hlt (a b : Json) (hearlier : a.IsEarlier key b) :
      compareRows [⟨key, .ascending, t⟩] a b = .lt ↔ a.textAt key < b.textAt key := by
    rw [hcompare a b hearlier, compareText_eq_lt]
  constructor
  · intro h a ha b hb hearlier
    exact (hlt a b hearlier).mp (h a ha b hb hearlier)
  · intro h a ha b hb hearlier
    exact (hlt a b hearlier).mpr (h a ha b hb hearlier)

/-- A search sorted by a date finds its rows in the order that tests for earlier and for later dates
have exactly if earlier dates have smaller texts, as they do if they are written in one form. -/
theorem search_chronological_iff (store : MemoryStore) (c : Criteria) (k : Compiled) (key : String)
    (h : c.compile store.descriptors = .ok k) (hsorts : c.sorts = [⟨key, .ascending⟩])
    (hdates : HoldDates key (store.matching k)) :
    ∃ found, IsStableSort (compareRows k.sorts) (store.matching k) found ∧
      Id.run (store.repository.search c) = .ok (.cut found c.page.number c.page.size c.sorts) ∧
      (IsChronological key found ↔ ∀ a ∈ store.matching k, ∀ b ∈ store.matching k,
        a.IsEarlier key b → a.textAt key < b.textAt key) ∧
      (IsUniform key (store.matching k) → IsChronological key found) ∧
      ∀ a b : Json, a.IsEarlier key b ↔ ∃ t, a.moment? key = some t ∧
        (Predicate.compare key .greater (.dateTime t)).holds b = true := by
  -- Compiling leaves the one sort as it is and only adds the type of its field.
  have hk : k.sorts = [⟨key, .ascending, resolveFieldType store.descriptors key⟩] := by
    rw [Criteria.sorts_of_compile h, Criteria.typedSorts, hsorts]
    rfl
  have hsort : IsStableSort (compareRows k.sorts) (store.matching k) (store.found k) := by
    apply store.isStableSort_found
    rw [hk]
    exact isTransitiveOn_dates key _ _ hdates
  have hiff := isChronological_iff (hk ▸ hsort)
  refine ⟨store.found k, hsort, store.repository_search c k h, hiff, ?_,
    Json.isEarlier_iff_greater key⟩
  intro huniform
  rw [hiff]
  intro a ha b hb
  exact huniform.textAt_lt a b ha hb

def datedRow (date : String) : Json := .object [("publishedAt", .text date)]

def datedRows (dates : List String) : MemoryStore where
  descriptors := [⟨"publishedAt", .date, true, [.lessThan], by decide, by decide, by decide⟩]
  rows := dates.map datedRow

def byDate : Criteria := ⟨[], [⟨"publishedAt", .ascending⟩], none, .first⟩

theorem matching_datedRows (dates : List String) (k : Compiled)
    (h : byDate.compile (datedRows dates).descriptors = .ok k) :
    (datedRows dates).matching k = dates.map datedRow ∧
      k.sorts = [⟨"publishedAt", .ascending, .date⟩] := by
  cases h
  exact ⟨List.filter_eq_self.mpr fun _ _ => rfl, rfl⟩

theorem holdDates_datedRows (dates : List String)
    (h : ∀ date ∈ dates, (Json.dateTime? date).isSome) :
    HoldDates "publishedAt" (dates.map datedRow) := by
  intro row hrow stored _
  obtain ⟨date, hdate, rfl⟩ := List.mem_map.mp hrow
  exact Option.isSome_iff_exists.mp (h date hdate)

theorem isUniform_datedRows (dates : List String)
    (h : ∀ date ∈ dates, ∀ t ∈ Json.dateTime? date,
      0 ≤ t.date.year ∧ t.date.year ≤ 9999 ∧ t.WritesLocal date.toList) :
    IsUniform "publishedAt" (dates.map datedRow) := by
  apply IsUniform.noZone
  intro row hrow t ht
  obtain ⟨date, hdate, rfl⟩ := List.mem_map.mp hrow
  exact h date hdate t ht

/-- Local texts with and without a fraction and a date alone are sorted as their dates are. -/
theorem search_chronological_local :
    ∃ page, Id.run ((datedRows ["2024-03-15T10:30:00.500", "2024-03-16",
        "2024-03-15T10:30:00"]).repository.search byDate) = .ok page ∧
      page.total = 3 ∧ IsChronological "publishedAt" page.content := by
  obtain ⟨k, hk⟩ : ∃ k, byDate.compile (datedRows ["2024-03-15T10:30:00.500", "2024-03-16",
      "2024-03-15T10:30:00"]).descriptors = .ok k := ⟨_, rfl⟩
  have hmatching := (matching_datedRows _ k hk).1
  obtain ⟨found, hsort, hsearch, -, huniform, -⟩ := search_chronological_iff _ byDate k
    "publishedAt" hk rfl (hmatching ▸ holdDates_datedRows _ (by decide))
  have hfound := huniform (hmatching ▸ isUniform_datedRows _ (by decide))
  refine ⟨_, hsearch, ?_, ?_⟩
  · change found.length = 3
    rw [hsort.perm.length_eq, hmatching]
    rfl
  · exact hfound.sublist ((List.take_sublist _ _).trans (List.drop_sublist _ _))

/-- In universal time the later of two dates in one second comes first, since its fraction stands
where the earlier one has its letter. -/
theorem search_not_chronological_utc :
    ∃ page, Id.run ((datedRows ["2024-03-15T10:30:00Z",
        "2024-03-15T10:30:00.500Z"]).repository.search byDate) = .ok page ∧
      page.content = [datedRow "2024-03-15T10:30:00.500Z", datedRow "2024-03-15T10:30:00Z"] ∧
      (datedRow "2024-03-15T10:30:00Z").IsEarlier "publishedAt"
        (datedRow "2024-03-15T10:30:00.500Z") ∧
      ¬IsChronological "publishedAt" page.content := by
  obtain ⟨k, hk⟩ : ∃ k, byDate.compile (datedRows ["2024-03-15T10:30:00Z",
      "2024-03-15T10:30:00.500Z"]).descriptors = .ok k := ⟨_, rfl⟩
  obtain ⟨hmatching, hsorts⟩ := matching_datedRows _ k hk
  have hearlier : (datedRow "2024-03-15T10:30:00Z").IsEarlier "publishedAt"
      (datedRow "2024-03-15T10:30:00.500Z") := by
    let fifteenth : Date := ⟨2024, 3, 15, by decide, by decide, by decide⟩
    refine ⟨⟨fifteenth, 37800, 500000000, by decide, by decide⟩, ?_⟩
    decide
  have hfound : (datedRows ["2024-03-15T10:30:00Z", "2024-03-15T10:30:00.500Z"]).found k =
      [datedRow "2024-03-15T10:30:00.500Z", datedRow "2024-03-15T10:30:00Z"] := by
    have hsort := (datedRows ["2024-03-15T10:30:00Z",
      "2024-03-15T10:30:00.500Z"]).isStableSort_found k
    rw [hmatching, hsorts] at hsort
    apply (hsort (isTransitiveOn_dates _ _ _ (holdDates_datedRows _ (by decide)))).unique
    refine ⟨List.Perm.swap _ _ _, by decide, ?_⟩
    intro x hx
    simp only [List.map_cons, List.map_nil, List.mem_cons, List.not_mem_nil, or_false] at hx
    rcases hx with rfl | rfl <;> rfl
  refine ⟨_, MemoryStore.repository_search _ byDate k hk, ?_, hearlier, ?_⟩
  · rw [hfound]
    rfl
  · rw [hfound]
    intro hchronological
    exact List.rel_of_pairwise_cons hchronological List.mem_cons_self hearlier

end CriteriaSearch
