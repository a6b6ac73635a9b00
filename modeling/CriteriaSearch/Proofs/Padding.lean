import CriteriaSearch.Proofs.Calendar.WholeDay
import Mathlib.Data.List.Forall2

namespace CriteriaSearch

namespace Text

/-- The second text is the first with blank characters added at its ends. -/
def Pads (s s' : String) : Prop :=
  ∃ before after : List Char, before.all isBlank = true ∧ after.all isBlank = true ∧
    s'.toList = before ++ s.toList ++ after

theorem trimChars_append_of_blank (before cs after : List Char)
    (hbefore : before.all isBlank = true) (hafter : after.all isBlank = true) :
    trimChars (before ++ cs ++ after) = trimChars cs := by
  rw [List.all_eq_true] at hbefore hafter
  unfold trimChars skipBlank
  rw [List.append_assoc, List.dropWhile_append_of_pos hbefore, List.dropWhile_append]
  -- What follows is dropped from the front or from the back, as the text is blank or not.
  split
  · next hempty =>
    rw [List.isEmpty_iff.mp hempty, List.dropWhile_eq_nil_iff.mpr hafter]
  · rw [List.reverse_append, List.dropWhile_append_of_pos]
    intro c hc
    exact hafter c (List.mem_reverse.mp hc)

theorem Pads.trimChars_eq {s s' : String} (h : Pads s s') :
    trimChars s'.toList = trimChars s.toList := by
  obtain ⟨before, after, hbefore, hafter, hs⟩ := h
  rw [hs, trimChars_append_of_blank before _ after hbefore hafter]

theorem Pads.eq_of_not_blank {s s' : String} (h : Pads s s')
    (hs' : ∀ c ∈ s'.toList, isBlank c = false) : s' = s := by
  obtain ⟨before, after, hbefore, hafter, hs⟩ := h
  have hnil (cs : List Char) (hcs : cs.all isBlank = true) (hmem : ∀ c ∈ cs, c ∈ s'.toList) :
      cs = [] := by
    apply List.eq_nil_iff_forall_not_mem.mpr
    intro c hc
    have hblank := hs' c (hmem c hc)
    rw [List.all_eq_true.mp hcs c hc] at hblank
    cases hblank
  have hfirst : before = [] := hnil before hbefore fun c hc => by simp [hs, hc]
  have hlast : after = [] := hnil after hafter fun c hc => by simp [hs, hc]
  rw [hfirst, hlast, List.nil_append, List.append_nil] at hs
  exact String.toList_injective hs

end Text

def byKind {α : Type} (x : Except SearchError α) : Except String α := x.mapError SearchError.kind

section ByKind

variable {α β : Type}

theorem byKind_map (x : Except SearchError α) (k : α → β) : byKind (x.map k) = (byKind x).map k := by
  cases x <;> rfl

theorem byKind_bind (x : Except SearchError α) (k : α → Except SearchError β) :
    byKind (x >>= k) = byKind x >>= fun a => byKind (k a) := by
  cases x <;> rfl

theorem byKind_bind_congr {x y : Except SearchError α} (k : α → Except SearchError β)
    (h : byKind x = byKind y) : byKind (x >>= k) = byKind (y >>= k) := by
  rw [byKind_bind, byKind_bind, h]

/-- Results for two lists are of one kind if those for their items are. -/
theorem byKind_mapM_congr (k : α → Except SearchError β) {xs ys : List α}
    (h : List.Forall₂ (fun x y => byKind (k x) = byKind (k y)) xs ys) :
    byKind (xs.mapM k) = byKind (ys.mapM k) := by
  induction h with
  | nil => rfl
  | cons hitem _ ih =>
    rw [List.mapM_cons, List.mapM_cons, byKind_bind, byKind_bind, hitem]
    congr 1
    funext a
    exact byKind_bind_congr _ ih

end ByKind

/-- A text that is not taken as it is is read alike with blank characters around it. -/
theorem FieldValue.ofText_padded {s s' : String} (h : Text.Pads s s') {t : FieldType}
    (ht : t ≠ .string) : byKind (FieldValue.ofText s' t) = byKind (FieldValue.ofText s t) := by
  cases t with
  | string => exact absurd rfl ht
  | number =>
    rw [ofText, ofText, NumberValue.ofText, NumberValue.ofText, h.trimChars_eq]
    cases NumberValue.ofChars? (Text.trimChars s.toList) <;> rfl
  | date =>
    rw [ofText, ofText, DateTime.ofText, DateTime.ofText, DateTime.ofText?, DateTime.ofText?,
      h.trimChars_eq]
    split <;> rfl
  | boolean => rw [ofText, ofText, readBoolean, readBoolean, h.trimChars_eq]

theorem DateTime.wholeDay?_padded {s s' : String} (h : Text.Pads s s') (hne : s' ≠ s) :
    wholeDay? s' = none := by
  by_contra hsome
  obtain ⟨⟨first, last⟩, hpair⟩ := Option.ne_none_iff_exists'.mp hsome
  obtain ⟨d, -, hs', -⟩ := (wholeDay?_eq_some_iff _ _ _).mp hpair
  apply hne
  apply h.eq_of_not_blank
  intro c hc
  rw [hs'] at hc
  exact isBlank_of_mem_dateChars d c hc

namespace Filter

/-- The second filter is the first with blank characters added around its values. -/
structure Pads (f g : Filter) : Prop where
  key : g.key = f.key
  operator : g.operator = f.operator
  fieldType : g.fieldType = f.fieldType
  value : Option.Rel Text.Pads f.value g.value
  valueTo : Option.Rel Text.Pads f.valueTo g.valueTo
  values : List.Forall₂ Text.Pads f.values g.values

/-- The filter asks for a day with an equality, and blank characters were added to that day. -/
def LosesDay (f g : Filter) (t : FieldType) : Prop :=
  t = .date ∧ f.operator = .equals ∧ g.value ≠ f.value ∧
    ∃ d : Date, d.IsShort ∧ f.value = some d.display

variable {f g : Filter} {t : FieldType}

namespace Pads

section Reading

variable {α : Type} {k k' : String → Except SearchError α}

theorem requiredValue_bind (h : f.Pads g)
    (hk : ∀ s s', f.value = some s → g.value = some s' → Text.Pads s s' →
      byKind (k' s') = byKind (k s)) :
    byKind (g.requiredValue >>= k') = byKind (f.requiredValue >>= k) := by
  have hvalue := h.value
  rw [requiredValue, requiredValue, h.key, h.operator]
  generalize f.value = v, g.value = w at hvalue hk
  cases hvalue with
  | none => rfl
  | some hpads => exact hk _ _ rfl rfl hpads

theorem requiredUpper_bind (h : f.Pads g)
    (hk : ∀ s s', Text.Pads s s' → byKind (k' s') = byKind (k s)) :
    byKind (g.requiredUpper >>= k') = byKind (f.requiredUpper >>= k) := by
  have hvalueTo := h.valueTo
  rw [requiredUpper, requiredUpper, h.key]
  generalize f.valueTo = v, g.valueTo = w at hvalueTo
  cases hvalueTo with
  | none => rfl
  | some hpads => exact hk _ _ hpads

end Reading

theorem comparing (h : f.Pads g) (ht : t ≠ .string) (c : Comparison) :
    byKind (g.comparing t c) = byKind (f.comparing t c) := by
  rw [Filter.comparing, Filter.comparing, h.key]
  apply h.requiredValue_bind
  intro s s' _ _ hpads
  exact byKind_bind_congr _ (FieldValue.ofText_padded hpads ht)

theorem rangeTest (h : f.Pads g) (ht : t ≠ .string) :
    byKind (g.rangeTest t) = byKind (f.rangeTest t) := by
  rw [Filter.rangeTest, Filter.rangeTest, h.key]
  apply h.requiredValue_bind
  intro s s' _ _ hpads
  rw [byKind_bind, byKind_bind, FieldValue.ofText_padded hpads ht]
  congr 1
  funext lower
  apply h.requiredUpper_bind
  intro s s' hpads
  exact byKind_bind_congr _ (FieldValue.ofText_padded hpads ht)

theorem membershipTest (h : f.Pads g) (ht : t ≠ .string) :
    byKind (g.membershipTest t) = byKind (f.membershipTest t) := by
  rw [Filter.membershipTest, Filter.membershipTest, h.key]
  apply byKind_bind_congr
  apply byKind_mapM_congr
  refine List.Forall₂.flip (h.values.imp ?_)
  intro s s' hpads
  exact FieldValue.ofText_padded hpads ht

theorem equality (h : f.Pads g) (ht : t ≠ .string) (hop : f.operator = .equals)
    (hkeeps : ¬f.LosesDay g t) : byKind (g.equality t) = byKind (f.equality t) := by
  rw [Filter.equality, Filter.equality]
  apply h.requiredValue_bind
  intro s s' hs hs' hpads
  have hday : (if t = .date then DateTime.wholeDay? s' else none) =
      if t = .date then DateTime.wholeDay? s else none := by
    split
    · next hdate =>
      by_cases hsame : s' = s
      · rw [hsame]
      rw [DateTime.wholeDay?_padded hpads hsame]
      -- Were there a day without the blank characters, it would be lost.
      cases hpair : DateTime.wholeDay? s with
      | none => rfl
      | some pair =>
        obtain ⟨d, hshort, hchars, -⟩ := (DateTime.wholeDay?_eq_some_iff _ _ _).mp hpair
        refine absurd ⟨hdate, hop, ?_, d, hshort, ?_⟩ hkeeps
        · rw [hs, hs']
          exact fun heq => hsame (Option.some.inj heq)
        · rw [hs, Date.display, ← hchars, String.ofList_toList]
    · rfl
  rw [hday, h.key]
  split
  · rfl
  · exact h.comparing ht .equal

theorem compile (h : f.Pads g) (ht : t ≠ .string) (hkeeps : ¬f.LosesDay g t) :
    byKind (g.compile t) = byKind (f.compile t) := by
  have hordered (c : Comparison) :
      byKind (if t.isOrdered then (g.comparing t c).map some else .ok none) =
        byKind (if t.isOrdered then (f.comparing t c).map some else .ok none) := by
    split
    · rw [byKind_map, byKind_map, h.comparing ht c]
    · rfl
  rw [Filter.compile, Filter.compile, h.operator, h.key]
  cases hop : f.operator with
  | equals => rw [byKind_map, byKind_map, h.equality ht hop hkeeps]
  | notEquals => rw [byKind_map, byKind_map, h.comparing ht .notEqual]
  | lessThan => exact hordered .less
  | greaterThan => exact hordered .greater
  | between =>
    dsimp only
    split
    · rw [byKind_map, byKind_map, h.rangeTest ht]
    · rfl
  | oneOf => rw [byKind_map, byKind_map, h.membershipTest ht]
  | noneOf => rw [byKind_map, byKind_map, h.membershipTest ht]
  -- The tests of texts are dropped.
  | contains => simp only [if_neg ht]
  | notContains => simp only [if_neg ht]
  | startsWith => simp only [if_neg ht]
  | endsWith => simp only [if_neg ht]
  -- The tests for blanks read no value.
  | blank => rfl
  | notBlank => rfl

end Pads

theorem compile_losesDay (h : f.Pads g) (hop : f.operator = .equals) (hne : g.value ≠ f.value)
    {d : Date} (hshort : d.IsShort) (hf : f.value = some d.display) :
    f.compile .date = .ok (some (.onDay f.key d)) ∧
      g.compile .date = .ok (some (.atMoment f.key (.midnight d))) := by
  have hvalue := h.value
  obtain ⟨s', hg, hpads⟩ : ∃ s', g.value = some s' ∧ Text.Pads d.display s' := by
    rw [hf] at hvalue
    generalize g.value = w at hvalue
    cases hvalue with
    | some hpads => exact ⟨_, rfl, hpads⟩
  have hne' : s' ≠ d.display := by
    rintro rfl
    exact hne (hg.trans hf.symm)
  -- Trimmed, the text is that of the day, which is read as its midnight.
  have hread : DateTime.ofText? s' = some (.midnight d) := by
    rw [← DateTime.ofText?_of_wholeDay? (DateTime.wholeDay?_display d hshort), DateTime.ofText?,
      DateTime.ofText?, hpads.trimChars_eq]
  refine ⟨compile_dateAlone hop hf hshort rfl, ?_⟩
  rw [← h.key]
  refine compile_moment (h.operator.trans hop) hg hread ?_
  rintro e he rfl
  have hnone := DateTime.wholeDay?_padded hpads hne'
  rw [DateTime.wholeDay?_display e he] at hnone
  cases hnone

/-- Blank characters that are added around the values of a filter for a number, a date or a boolean
change neither what it is compiled to nor the kind of its refusal, unless they are added to a date
alone that an equality asks for: then the filter no longer finds the day but its midnight. -/
theorem padding_keeps_filter (h : f.Pads g) (ht : t ≠ .string) :
    (byKind (g.compile t) = byKind (f.compile t) ↔ ¬f.LosesDay g t) ∧
    ∀ d : Date, d.IsShort → t = .date → f.operator = .equals → f.value = some d.display →
      g.value ≠ f.value →
      f.compile t = .ok (some (.onDay f.key d)) ∧
        g.compile t = .ok (some (.atMoment f.key (.midnight d))) := by
  refine ⟨⟨?_, h.compile ht⟩, ?_⟩
  · rintro hsame ⟨rfl, hop, hne, d, hshort, hf⟩
    obtain ⟨hday, hmoment⟩ := compile_losesDay h hop hne hshort hf
    rw [hday, hmoment] at hsame
    cases hsame
  · rintro d hshort rfl hop hf hne
    exact compile_losesDay h hop hne hshort hf

end Filter

def paddedLeapDay : Filter := .withValue "at" .equals " 2024-02-29"

theorem pads_leapDay : (eventsOf leapDay2024).Pads paddedLeapDay := by
  refine ⟨rfl, rfl, rfl, .some ?_, .none, .nil⟩
  exact ⟨[' '], [], rfl, rfl, rfl⟩

/-- Blank characters around a date alone do change what it is compiled to. -/
theorem padding_loses_day :
    (eventsOf leapDay2024).Pads paddedLeapDay ∧
      byKind (paddedLeapDay.compile .date) ≠ byKind ((eventsOf leapDay2024).compile .date) := by
  refine ⟨pads_leapDay, ?_⟩
  have hday : (eventsOf leapDay2024).compile .date = .ok (some (.onDay "at" leapDay2024)) := rfl
  have hmoment : paddedLeapDay.compile .date =
      .ok (some (.atMoment "at" (.midnight leapDay2024))) := rfl
  rw [hday, hmoment]
  intro hsame
  cases hsame

/-- A range of days keeps its meaning, and the leap day does not. -/
theorem padding_keeps_filter_range :
    byKind ((Filter.between "at" "\t2024-02-28" " 2024-03-01\n").compile .date) =
        byKind ((Filter.between "at" "2024-02-28" "2024-03-01").compile .date) ∧
      (eventsOf leapDay2024).compile .date = .ok (some (.onDay "at" leapDay2024)) ∧
      paddedLeapDay.compile .date = .ok (some (.atMoment "at" (.midnight leapDay2024))) := by
  have hpads : (Filter.between "at" "2024-02-28" "2024-03-01").Pads
      (.between "at" "\t2024-02-28" " 2024-03-01\n") := by
    refine ⟨rfl, rfl, rfl, .some ?_, .some ?_, .nil⟩
    · exact ⟨['\t'], [], rfl, rfl, rfl⟩
    · exact ⟨[' '], ['\n'], rfl, rfl, rfl⟩
  constructor
  · refine (Filter.padding_keeps_filter hpads (by decide)).1.mpr ?_
    rintro ⟨-, hop, -⟩
    cases hop
  · exact (Filter.padding_keeps_filter pads_leapDay (by decide)).2 leapDay2024 (by decide) rfl rfl
      rfl (by decide)

end CriteriaSearch
