import CriteriaSearch.Proofs.Compilation
import CriteriaSearch.Proofs.Number.Reading

/-!
# The predicates of filters

The forms that the predicate of a filter can have. Each tests the key of the filter alone, with
values that are read as the type of its field, and each negation stands beside a test that the field
is present. What holds of all compiled requests is proved for these forms.
-/

namespace CriteriaSearch

theorem bind_eq_ok_iff {α β ε : Type} (x : Except ε α) (f : α → Except ε β) (y : β) :
    x >>= f = .ok y ↔ ∃ a, x = .ok a ∧ f a = .ok y := by
  cases x with
  | error e =>
    constructor
    · intro h
      cases h
    · rintro ⟨a, ha, -⟩
      cases ha
  | ok a =>
    constructor
    · intro h
      exact ⟨a, rfl, h⟩
    · rintro ⟨b, hb, h⟩
      cases hb
      exact h

/-- The value is what some text is read as for fields of the type. -/
def FieldType.Reads (t : FieldType) (v : FieldValue) : Prop :=
  ∃ s, FieldValue.ofText s t = .ok v

/-- The predicate is that of a filter with this key on a field of this type. -/
inductive FilterTerm (key : String) (t : FieldType) : Predicate → Prop
  | equal (v : FieldValue) : t.Reads v → FilterTerm key t (.compare key .equal v)
  | wholeDay (s : String) (first last : DateTime) : t = .date →
      DateTime.wholeDay? s = some (first, last) →
      FilterTerm key t (.range key (.dateTime first) (.dateTime last))
  | notEqual (v : FieldValue) : t.Reads v →
      FilterTerm key t (.and [.isNotNull key, .compare key .notEqual v])
  | less (v : FieldValue) : t.isOrdered = true → t.Reads v →
      FilterTerm key t (.compare key .less v)
  | greater (v : FieldValue) : t.isOrdered = true → t.Reads v →
      FilterTerm key t (.compare key .greater v)
  | between (lower upper : FieldValue) : t.isOrdered = true → t.Reads lower → t.Reads upper →
      FilterTerm key t (.range key lower upper)
  | textMatch (mode : TextMode) (s : String) : t = .string →
      FilterTerm key t (.textMatch key mode s)
  | notContains (s : String) : t = .string →
      FilterTerm key t (.presentAndNot key (.textMatch key .contains s))
  | oneOf (vs : List FieldValue) : (∀ v ∈ vs, t.Reads v) → FilterTerm key t (.oneOf key vs)
  | noneOf (vs : List FieldValue) : (∀ v ∈ vs, t.Reads v) →
      FilterTerm key t (.presentAndNot key (.oneOf key vs))
  | blank : t ≠ .string → FilterTerm key t (.isNull key)
  | blankText : t = .string →
      FilterTerm key t (.or [.isNull key, .compare key .equal (.text "")])
  | notBlank : t ≠ .string → FilterTerm key t (.isNotNull key)
  | notBlankText : t = .string →
      FilterTerm key t (.and [.isNotNull key, .compare key .notEqual (.text "")])

namespace Filter

theorem comparing_eq_ok (f : Filter) (t : FieldType) (c : Comparison) (p : Predicate)
    (h : f.comparing t c = .ok p) : ∃ v, t.Reads v ∧ p = .compare f.key c v := by
  obtain ⟨s, -, h⟩ := (bind_eq_ok_iff _ _ _).mp h
  obtain ⟨v, hv, h⟩ := (bind_eq_ok_iff _ _ _).mp h
  cases h
  exact ⟨v, ⟨s, hv⟩, rfl⟩

theorem rangeTest_eq_ok (f : Filter) (t : FieldType) (p : Predicate)
    (h : f.rangeTest t = .ok p) :
    ∃ lower upper, t.Reads lower ∧ t.Reads upper ∧ p = .range f.key lower upper := by
  obtain ⟨s, -, h⟩ := (bind_eq_ok_iff _ _ _).mp h
  obtain ⟨lower, hlower, h⟩ := (bind_eq_ok_iff _ _ _).mp h
  obtain ⟨s', -, h⟩ := (bind_eq_ok_iff _ _ _).mp h
  obtain ⟨upper, hupper, h⟩ := (bind_eq_ok_iff _ _ _).mp h
  cases h
  exact ⟨lower, upper, ⟨s, hlower⟩, ⟨s', hupper⟩, rfl⟩

theorem textTest_eq_ok (f : Filter) (mode : TextMode) (p : Predicate)
    (h : f.textTest mode = .ok p) : ∃ s, p = .textMatch f.key mode s := by
  obtain ⟨s, -, h⟩ := (bind_eq_ok_iff _ _ _).mp h
  cases h
  exact ⟨s, rfl⟩

theorem membershipTest_eq_ok (f : Filter) (t : FieldType) (p : Predicate)
    (h : f.membershipTest t = .ok p) :
    ∃ vs, (∀ v ∈ vs, t.Reads v) ∧ p = .oneOf f.key vs := by
  obtain ⟨vs, hvs, h⟩ := (bind_eq_ok_iff _ _ _).mp h
  cases h
  refine ⟨vs, ?_, rfl⟩
  intro v hv
  rw [((mapM_eq_ok_iff _ _ _).mp hvs).2, List.mem_filterMap] at hv
  obtain ⟨s, -, hs⟩ := hv
  refine ⟨s, ?_⟩
  cases hread : FieldValue.ofText s t with
  | error e =>
    rw [hread] at hs
    cases hs
  | ok w =>
    rw [hread] at hs
    cases hs
    rfl

theorem equality_eq_ok (f : Filter) (t : FieldType) (p : Predicate)
    (h : f.equality t = .ok p) : FilterTerm f.key t p := by
  obtain ⟨s, -, h⟩ := (bind_eq_ok_iff _ _ _).mp h
  split at h
  · next first last hday =>
    cases h
    by_cases ht : t = .date
    · rw [if_pos ht] at hday
      exact .wholeDay s first last ht hday
    · rw [if_neg ht] at hday
      cases hday
  · obtain ⟨v, hv, rfl⟩ := f.comparing_eq_ok t .equal p h
    exact .equal v hv

/-- What can become of a filter that is kept, one case for each operator. -/
theorem compile_eq_some (f : Filter) (t : FieldType) (p : Predicate)
    (h : f.compile t = .ok (some p)) : FilterTerm f.key t p := by
  -- A filter of an operator that asks for more of the type is dropped unless the type grants it.
  have hguard (b : Prop) [Decidable b] (x : Except SearchError Predicate)
      (hx : (if b then x.map some else .ok none) = .ok (some p)) : b ∧ x = .ok p := by
    split at hx
    · next hb =>
      obtain ⟨q, hq, hqp⟩ := (map_eq_ok_iff _ _ _).mp hx
      cases hqp
      exact ⟨hb, hq⟩
    · cases hx
  unfold compile at h
  cases hop : f.operator <;> simp only [hop] at h
  case equals =>
    obtain ⟨q, hq, hqp⟩ := (map_eq_ok_iff _ _ _).mp h
    cases hqp
    exact f.equality_eq_ok t p hq
  case notEquals =>
    obtain ⟨q, hq, hqp⟩ := (map_eq_ok_iff _ _ _).mp h
    obtain ⟨v, hv, rfl⟩ := f.comparing_eq_ok t .notEqual q hq
    cases hqp
    exact .notEqual v hv
  case lessThan =>
    obtain ⟨ht, hq⟩ := hguard _ _ h
    obtain ⟨v, hv, rfl⟩ := f.comparing_eq_ok t .less p hq
    exact .less v ht hv
  case greaterThan =>
    obtain ⟨ht, hq⟩ := hguard _ _ h
    obtain ⟨v, hv, rfl⟩ := f.comparing_eq_ok t .greater p hq
    exact .greater v ht hv
  case between =>
    obtain ⟨ht, hq⟩ := hguard _ _ h
    obtain ⟨lower, upper, hlower, hupper, rfl⟩ := f.rangeTest_eq_ok t p hq
    exact .between lower upper ht hlower hupper
  case contains =>
    obtain ⟨ht, hq⟩ := hguard _ _ h
    obtain ⟨s, rfl⟩ := f.textTest_eq_ok _ p hq
    exact .textMatch _ s ht
  case startsWith =>
    obtain ⟨ht, hq⟩ := hguard _ _ h
    obtain ⟨s, rfl⟩ := f.textTest_eq_ok _ p hq
    exact .textMatch _ s ht
  case endsWith =>
    obtain ⟨ht, hq⟩ := hguard _ _ h
    obtain ⟨s, rfl⟩ := f.textTest_eq_ok _ p hq
    exact .textMatch _ s ht
  case notContains =>
    split at h
    · next ht =>
      obtain ⟨q, hq, hqp⟩ := (map_eq_ok_iff _ _ _).mp h
      obtain ⟨s, rfl⟩ := f.textTest_eq_ok _ q hq
      cases hqp
      exact .notContains s ht
    · cases h
  case oneOf =>
    obtain ⟨q, hq, hqp⟩ := (map_eq_ok_iff _ _ _).mp h
    cases hqp
    obtain ⟨vs, hvs, rfl⟩ := f.membershipTest_eq_ok t p hq
    exact .oneOf vs hvs
  case noneOf =>
    obtain ⟨q, hq, hqp⟩ := (map_eq_ok_iff _ _ _).mp h
    obtain ⟨vs, hvs, rfl⟩ := f.membershipTest_eq_ok t q hq
    cases hqp
    exact .noneOf vs hvs
  case blank =>
    cases h
    split
    · next ht => exact .blankText ht
    · next ht => exact .blank ht
  case notBlank =>
    cases h
    split
    · next ht => exact .notBlankText ht
    · next ht => exact .notBlank ht

end Filter

end CriteriaSearch
