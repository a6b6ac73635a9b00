import CriteriaSearch.Proofs.FilterTerm

/-!
# Predicates in two truth values

A store without a third truth value decides every test: a test of a missing value fails, except
that a missing value differs from any other. Whether a compiled request finds a row does not
depend on which of the two logics reads it, since each negation also asks for the field.
-/

namespace CriteriaSearch

/-- How a store decides the tests of a predicate on the values that are present. -/
structure Reading (α : Type) where
  equal : FieldValue → α → Bool
  less : FieldValue → α → Bool
  greater : FieldValue → α → Bool
  within : FieldValue → FieldValue → α → Bool
  among : List FieldValue → α → Bool
  finds : TextMode → String → α → Bool

namespace Predicate

variable {α : Type} (r : Reading α) (value? : String → Option α)

mutual

/-- The meaning of a predicate in two truth values, given the values of the fields. -/
def twoValued : Predicate → Bool
  | .and parts => twoValuedAll parts
  | .or parts => twoValuedAny parts
  | .not part => !twoValued part
  | .compare field .equal v => (value? field).any (r.equal v)
  | .compare field .notEqual v => !(value? field).any (r.equal v)
  | .compare field .less v => (value? field).any (r.less v)
  | .compare field .greater v => (value? field).any (r.greater v)
  | .range field lower upper => (value? field).any (r.within lower upper)
  | .oneOf field values => (value? field).any (r.among values)
  | .textMatch field mode text => (value? field).any (r.finds mode text)
  | .isNull field => (value? field).isNone
  | .isNotNull field => (value? field).isSome

def twoValuedAll : List Predicate → Bool
  | [] => true
  | p :: ps => twoValued p && twoValuedAll ps

def twoValuedAny : List Predicate → Bool
  | [] => false
  | p :: ps => twoValued p || twoValuedAny ps

end

theorem twoValuedAll_eq (ps : List Predicate) :
    twoValuedAll r value? ps = (ps.map (twoValued r value?)).all id := by
  induction ps with
  | nil => rfl
  | cons p ps ih => rw [twoValuedAll, List.map_cons, List.all_cons, ih, id]

theorem twoValuedAny_eq (ps : List Predicate) :
    twoValuedAny r value? ps = (ps.map (twoValued r value?)).any id := by
  induction ps with
  | nil => rfl
  | cons p ps ih => rw [twoValuedAny, List.map_cons, List.any_cons, ih, id]

theorem twoValued_and (ps : List Predicate) :
    (Predicate.and ps).twoValued r value? = true ↔ ∀ p ∈ ps, p.twoValued r value? = true := by
  rw [twoValued]
  induction ps with
  | nil => simp [twoValuedAll]
  | cons p ps ih => rw [twoValuedAll, Bool.and_eq_true, ih, List.forall_mem_cons]

theorem twoValued_or (ps : List Predicate) :
    (Predicate.or ps).twoValued r value? = true ↔ ∃ p ∈ ps, p.twoValued r value? = true := by
  rw [twoValued]
  induction ps with
  | nil => simp [twoValuedAny]
  | cons p ps ih =>
    rw [twoValuedAny, Bool.or_eq_true, ih]
    simp only [List.mem_cons, exists_eq_or_imp]

end Predicate

namespace Json

def reading : Reading Json where
  equal v stored := Comparison.equal.holds (stored.compareWith v)
  less v stored := Comparison.less.holds (stored.compareWith v)
  greater v stored := Comparison.greater.holds (stored.compareWith v)
  within := Predicate.withinRange
  among vs stored := vs.any fun v => stored.compareWith v == some .eq
  finds := Predicate.textHolds

/-- A stored value is one of those that fields of the type hold. -/
def holdsType (stored : Json) : FieldType → Bool
  | .string => stored.text?.isSome
  | .boolean => stored.boolean?.isSome
  | .date => (stored.text?.bind dateTime?).isSome
  | .number => stored.number?.any fun n => n.toDouble != .nan

/-- A stored value has an order with the values that are read for fields of its type. -/
theorem exists_compareWith (stored : Json) (t : FieldType) (v : FieldValue)
    (h : stored.holdsType t = true) (hv : t.Reads v) : ∃ o, stored.compareWith v = some o := by
  obtain ⟨s, hs⟩ := hv
  obtain ⟨rfl, hdefined⟩ := FieldValue.ofText_eq_ok s t v hs
  cases v with
  | text u =>
    obtain ⟨w, hw⟩ := Option.isSome_iff_exists.mp h
    exact ⟨_, by rw [compareWith, asKindOf?, hw]; rfl⟩
  | boolean u =>
    obtain ⟨w, hw⟩ := Option.isSome_iff_exists.mp h
    exact ⟨_, by rw [compareWith, asKindOf?, hw]; rfl⟩
  | dateTime u =>
    obtain ⟨w, hw⟩ := Option.isSome_iff_exists.mp h
    exact ⟨_, by rw [compareWith, asKindOf?, hw]; rfl⟩
  | number u =>
    obtain ⟨w, hw, hw'⟩ := (Option.any_eq_true _ _).mp h
    rw [bne_iff_ne] at hw'
    obtain ⟨o, ho⟩ := NumberValue.exists_compare w u hw' hdefined
    exact ⟨o, by rw [compareWith, asKindOf?, hw]; exact ho⟩

end Json

namespace Predicate

theorem testField_eq_yes (row : Json) (field : String) (test : Json → Bool) :
    testField row field test = .yes ↔ (row.present? field).any test = true := by
  unfold testField
  cases row.present? field with
  | none => simp
  | some stored => simp [Truth.ofBool_eq_yes]

def Agrees (row : Json) (p : Predicate) : Prop :=
  p.twoValued Json.reading row.present? = true ↔ p.holds row = true

variable {row : Json}

theorem agrees_or (ps : List Predicate) (h : ∀ p ∈ ps, Agrees row p) : Agrees row (.or ps) := by
  rw [Agrees, twoValued_or, holds_or]
  exact exists_congr fun p => and_congr_right fun hp => h p hp

/-- The logics agree on every test of one field but that for another value. -/
theorem agrees_test (field : String) (test : Json → Bool) (p : Predicate)
    (htwo : p.twoValued Json.reading row.present? = (row.present? field).any test)
    (hthree : p.evaluate row = testField row field test) : Agrees row p := by
  rw [Agrees, htwo, holds_iff, hthree, testField_eq_yes]

theorem agrees_isNull (field : String) : Agrees row (.isNull field) := by
  rw [Agrees, holds_iff, evaluate, Truth.ofBool_eq_yes, twoValued]

theorem agrees_isNotNull (field : String) : Agrees row (.isNotNull field) := by
  rw [Agrees, holds_iff, evaluate, Truth.ofBool_eq_yes, twoValued]

theorem agrees_equal (field : String) (v : FieldValue) : Agrees row (.compare field .equal v) := by
  apply agrees_test field (Json.reading.equal v)
  · rfl
  · rfl

theorem agrees_less (field : String) (v : FieldValue) : Agrees row (.compare field .less v) := by
  apply agrees_test field (Json.reading.less v)
  · rfl
  · rfl

theorem agrees_greater (field : String) (v : FieldValue) :
    Agrees row (.compare field .greater v) := by
  apply agrees_test field (Json.reading.greater v)
  · rfl
  · rfl

theorem agrees_range (field : String) (lower upper : FieldValue) :
    Agrees row (.range field lower upper) := by
  apply agrees_test field (Json.reading.within lower upper)
  · rfl
  · rfl

theorem agrees_oneOf (field : String) (vs : List FieldValue) : Agrees row (.oneOf field vs) := by
  apply agrees_test field (Json.reading.among vs)
  · rfl
  · rfl

theorem agrees_textMatch (field : String) (mode : TextMode) (s : String) :
    Agrees row (.textMatch field mode s) := by
  apply agrees_test field (Json.reading.finds mode s)
  · rfl
  · rfl

/-- A negated test agrees beside a test that its field is present. The negation alone does not: of
a missing value it is unknown in one logic and holds in the other. -/
theorem agrees_presentAndNot (field : String) (test : Json → Bool) (p : Predicate)
    (htwo : p.twoValued Json.reading row.present? = (row.present? field).any test)
    (hthree : p.evaluate row = testField row field test) :
    Agrees row (.presentAndNot field p) := by
  rw [Agrees, presentAndNot, twoValued_and, holds_and]
  simp only [List.mem_cons, List.not_mem_nil, or_false, forall_eq_or_imp, forall_eq, holds_iff,
    evaluate, twoValued, hthree, htwo, Truth.ofBool_eq_yes, testField]
  cases row.present? field with
  | none => simp
  | some stored =>
    simp only [Option.any_some, Truth.ofBool_not, Truth.ofBool_eq_yes]

/-- A test for another value agrees beside a test that its field is present, if stored values have
an order with the value. -/
theorem agrees_notEqual (field : String) (v : FieldValue)
    (h : ∀ stored, row.present? field = some stored → ∃ o, stored.compareWith v = some o) :
    Agrees row (.and [.isNotNull field, .compare field .notEqual v]) := by
  rw [Agrees, twoValued_and, holds_and]
  simp only [List.mem_cons, List.not_mem_nil, or_false, forall_eq_or_imp, forall_eq, holds_iff,
    evaluate, twoValued, Truth.ofBool_eq_yes, testField]
  cases hstored : row.present? field with
  | none => simp
  | some stored =>
    obtain ⟨o, ho⟩ := h stored hstored
    simp only [Option.any_some, Json.reading, ho, Truth.ofBool_eq_yes, Comparison.holds,
      Option.isSome_some]
    cases o <;> decide

end Predicate

open Predicate in
/-- The logics agree on the predicate of every filter whose field holds a value of its type. -/
theorem FilterTerm.agrees (row : Json) (key : String) (t : FieldType) (p : Predicate)
    (hp : FilterTerm key t p)
    (htype : ∀ stored, row.present? key = some stored → stored.holdsType t = true) :
    Agrees row p := by
  -- A negated comparison agrees since stored values have an order with the value.
  have hordered (v : FieldValue) (hv : t.Reads v) (stored : Json)
      (hstored : row.present? key = some stored) : ∃ o, stored.compareWith v = some o :=
    stored.exists_compareWith t v (htype stored hstored) hv
  cases hp with
  | equal v hv => exact agrees_equal key v
  | wholeDay s first last ht hday => exact agrees_range key _ _
  | notEqual v hv => exact agrees_notEqual key v (hordered v hv)
  | less v ht hv => exact agrees_less key v
  | greater v ht hv => exact agrees_greater key v
  | between lower upper ht hlower hupper => exact agrees_range key lower upper
  | textMatch mode s ht => exact agrees_textMatch key mode s
  | notContains s ht =>
    apply agrees_presentAndNot key (Json.reading.finds .contains s)
    · rfl
    · rfl
  | oneOf vs hvs => exact agrees_oneOf key vs
  | noneOf vs hvs =>
    apply agrees_presentAndNot key (Json.reading.among vs)
    · rfl
    · rfl
  | blank ht => exact agrees_isNull key
  | blankText ht =>
    apply agrees_or
    simp only [List.forall_mem_cons, List.not_mem_nil, false_implies, implies_true, and_true]
    exact ⟨agrees_isNull key, agrees_equal key _⟩
  | notBlank ht => exact agrees_isNotNull key
  | notBlankText ht => exact agrees_notEqual key _ (hordered _ ⟨"", ht ▸ rfl⟩)

open Predicate in
theorem fullTextPredicate_agrees (ds : List FilterDescriptor) (query : String) (row : Json)
    (p : Predicate) (h : fullTextPredicate ds query = some p) : Agrees row p := by
  have htwo := any_iff (fun p => p.twoValued Json.reading row.present? = true)
    (twoValued_or Json.reading row.present?) _ p h
  have hthree := any_iff (fun p => p.holds row = true) (holds_or row) _ p h
  rw [Agrees, htwo, hthree]
  refine exists_congr fun q => and_congr_right fun hq => ?_
  obtain ⟨d, -, rfl⟩ := List.mem_map.mp hq
  exact agrees_textMatch d.key .contains query

/-- A compiled request finds the same rows in two truth values as in three, among the rows in which
each field that a kept filter tests is missing, null or a value of the type of the filter. -/
theorem twoValued_eq_satisfies (ds : List FilterDescriptor) (c : Criteria) (k : Compiled)
    (h : c.compile ds = .ok k) (row : Json)
    (htype : ∀ f ∈ c.filters, f.isDropped ds = false →
      ∀ stored, row.present? f.key = some stored → stored.holdsType (f.resolvedType ds) = true) :
    (k.predicate.all fun p => p.twoValued Json.reading row.present?) =
      satisfies k.predicate row := by
  obtain ⟨-, -, rfl⟩ := (Criteria.compile_eq_ok_iff ds c k).mp h
  rw [Bool.eq_iff_iff, Criteria.compiled, satisfies_all, Option.all_eq_true,
    Predicate.all_iff (fun p => p.twoValued Json.reading row.present? = true)
      (Predicate.twoValued_and Json.reading row.present?)]
  refine forall₂_congr fun p hp => ?_
  rcases (Criteria.mem_terms ds c p).mp hp with ⟨f, hf, hterm⟩ | hquery
  · have hkept : f.isDropped ds = false := by
      rw [Filter.isDropped, hterm]
    exact (f.compile_eq_some _ p hterm).agrees row f.key _ p (htype f hf hkept)
  · obtain ⟨query, -, hp⟩ := Option.bind_eq_some_iff.mp hquery
    exact fullTextPredicate_agrees ds query row p hp

def nameAndUsages : List FilterDescriptor :=
  [⟨"name", .string, true, [.notContains], by decide, by decide, by decide⟩,
    ⟨"usages", .number, true, [.notEquals], by decide, by decide, by decide⟩]

def refusals : Criteria :=
  ⟨[.withValue "name" .notContains "linux", .withValue "usages" .notEquals "10"], [], none, .first⟩

/-- A row without a name is found in neither logic, though its number is not the refused one. -/
theorem twoValued_eq_satisfies_of_missing :
    ∃ k, refusals.compile nameAndUsages = .ok k ∧
      (k.predicate.all fun p => p.twoValued Json.reading
        (Json.object [("usages", .integer 12)]).present?) =
          satisfies k.predicate (.object [("usages", .integer 12)]) := by
  refine ⟨_, rfl, twoValued_eq_satisfies nameAndUsages refusals _ rfl _ ?_⟩
  intro f hf _ stored hstored
  simp only [refusals, List.mem_cons, List.not_mem_nil, or_false] at hf
  rcases hf with rfl | rfl
  · cases hstored
  · cases hstored
    decide +kernel

end CriteriaSearch
