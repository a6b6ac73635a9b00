import CriteriaSearch.Proofs.Faults
import CriteriaSearch.Proofs.TwoValued

/-!
# Searches by one filter

What a search by a single filter finds. The operators that compare a field with values see nothing
of a row but the order of its stored value with each of the values, and that there is none for a
missing value; the negated ones ask for the field as well.
-/

namespace CriteriaSearch

/-- A field as filters name it: by its key, among the descriptors of an entity, and with its type if
they give one. -/
structure AskedField where
  descriptors : List FilterDescriptor
  key : String
  given : Option FieldType

namespace Predicate

/-- A negation beside the test for its field holds of values that are there and fail the test. -/
theorem holds_presentAndNot_iff (field : String) (test : Json → Bool) (p : Predicate) (row : Json)
    (h : p.evaluate row = testField row field test) :
    (presentAndNot field p).holds row = true ↔
      ∃ stored, row.present? field = some stored ∧ test stored = false := by
  rw [presentAndNot, holds_and]
  simp only [List.forall_mem_cons, List.not_mem_nil, false_implies, implies_true, and_true,
    holds_iff, evaluate, h, testField, Truth.ofBool_eq_yes]
  cases row.present? field with
  | none => simp
  | some stored => simp [Truth.ofBool_not, Truth.ofBool_eq_yes]

/-- A comparison beside the test for its field fails for a missing value, and is never unknown. -/
theorem evaluate_presentAnd (field : String) (c : Comparison) (v : FieldValue) (row : Json) :
    (Predicate.and [.isNotNull field, .compare field c v]).evaluate row =
      .ofBool ((row.present? field).any fun stored => c.holds (stored.compareWith v)) := by
  simp only [evaluate, evaluateAll, testField]
  cases row.present? field with
  | none => rfl
  | some stored =>
    rw [Option.any_some]
    dsimp only
    cases c.holds (stored.compareWith v) <;> rfl

/-- A comparison or else the absence of its field holds for a missing value. -/
theorem evaluate_missingOr (field : String) (c : Comparison) (v : FieldValue) (row : Json) :
    (Predicate.or [.isNull field, .compare field c v]).evaluate row =
      .ofBool ((row.present? field).all fun stored => c.holds (stored.compareWith v)) := by
  simp only [evaluate, evaluateAny, testField]
  cases row.present? field with
  | none => rfl
  | some stored =>
    rw [Option.all_some]
    dsimp only
    cases c.holds (stored.compareWith v) <;> rfl

theorem holds_test_iff (field : String) (test : Json → Bool) (p : Predicate) (row : Json)
    (h : p.evaluate row = testField row field test) :
    p.holds row = true ↔ ∃ stored, row.present? field = some stored ∧ test stored = true := by
  rw [holds_iff, h, testField_eq_yes, Option.any_eq_true]

end Predicate

theorem Comparison.holds_none (c : Comparison) : c.holds none = false := by
  cases c <;> rfl

namespace Filter

variable {f : Filter} {t : FieldType} {s u : String} {v w : FieldValue}

theorem comparing_of_reads (c : Comparison) (hvalue : f.value = some s)
    (hread : FieldValue.ofText s t = .ok v) : f.comparing t c = .ok (.compare f.key c v) := by
  rw [comparing, requiredValue, hvalue]
  change (FieldValue.ofText s t >>= fun v => Except.ok (Predicate.compare f.key c v)) = _
  rw [hread]
  rfl

theorem rangeTest_of_reads (hvalue : f.value = some s) (hupper : f.valueTo = some u)
    (hlow : FieldValue.ofText s t = .ok v) (hhigh : FieldValue.ofText u t = .ok w) :
    f.rangeTest t = .ok (.range f.key v w) := by
  rw [rangeTest, requiredValue, requiredUpper, hvalue, hupper]
  change (FieldValue.ofText s t >>= fun v =>
    FieldValue.ofText u t >>= fun w => Except.ok (Predicate.range f.key v w)) = _
  rw [hlow]
  change (FieldValue.ofText u t >>= fun w => Except.ok (Predicate.range f.key v w)) = _
  rw [hhigh]
  rfl

theorem textTest_of_value (mode : TextMode) (hvalue : f.value = some s) :
    f.textTest mode = .ok (.textMatch f.key mode s) := by
  rw [textTest, requiredValue, hvalue]
  rfl

/-- The values of a set are those that its texts are read as. -/
theorem membershipTest_of_reads (hread : ∀ s ∈ f.values, ∃ v, FieldValue.ofText s t = .ok v) :
    f.membershipTest t =
      .ok (.oneOf f.key (f.values.filterMap fun s => (FieldValue.ofText s t).toOption)) := by
  have hvalues := (mapM_eq_ok_iff (fun s => FieldValue.ofText s t) f.values _).mpr ⟨hread, rfl⟩
  rw [membershipTest, hvalues]
  rfl

end Filter

namespace AskedField

variable (x : AskedField)

/-- The type as which the values of filters on the field are read. -/
def fieldType : FieldType := x.given.getD (resolveFieldType x.descriptors x.key)

/-- A text is read as a value of the type of the field. -/
def Accepts (s : String) : Prop := ∃ v, FieldValue.ofText s x.fieldType = .ok v

def bare (op : Operator) : Filter := { Filter.bare x.key op with fieldType := x.given }

def withValue (op : Operator) (s : String) : Filter :=
  { Filter.withValue x.key op s with fieldType := x.given }

def between (low high : String) : Filter :=
  { Filter.between x.key low high with fieldType := x.given }

def membership (op : Operator) (values : List String) : Filter :=
  { Filter.membership x.key op values with fieldType := x.given }

/-- The filter is kept, as a predicate of its own. -/
def Keeps (f : Filter) : Prop := ∃ p, f.compile (f.resolvedType x.descriptors) = .ok (some p)

/-- A request with the filter alone finds the row. -/
def Finds (f : Filter) (row : Json) : Prop :=
  ∃ k, (Criteria.everything.withFilter f).compile x.descriptors = .ok k ∧
    satisfies k.predicate row = true

/-- The order of the value that the row has in the field with the value that a text is read as, if
both are there and have one. -/
def order? (row : Json) (s : String) : Option Ordering :=
  (row.present? x.key).bind fun stored =>
    (FieldValue.ofText s x.fieldType).toOption.bind stored.compareWith

variable {x} {f : Filter} {row : Json} {s low high : String} {vs : List String}

theorem finds_iff {p : Predicate} (h : f.compile (f.resolvedType x.descriptors) = .ok (some p)) :
    x.Finds f row ↔ p.holds row = true := by
  have hfilters : (Criteria.everything.withFilter f).filters = [f] := rfl
  have hterms : (Criteria.everything.withFilter f).terms x.descriptors = [p] := by
    have hterm := (f.term?_eq_some_iff x.descriptors p).mpr h
    rw [Criteria.terms, hfilters, List.filterMap_cons_some hterm]
    rfl
  have hcompile : (Criteria.everything.withFilter f).compile x.descriptors =
      .ok ((Criteria.everything.withFilter f).compiled x.descriptors) := by
    have hsize : (100 : UInt32) ≠ 0 := by decide
    refine (Criteria.compile_eq_ok_iff _ _ _).mpr ⟨hsize, ?_, rfl⟩
    intro g hg
    rw [hfilters, List.mem_singleton] at hg
    exact hg ▸ ⟨_, h⟩
  have hmeaning : satisfies ((Criteria.everything.withFilter f).compiled
      x.descriptors).predicate row = true ↔ p.holds row = true := by
    rw [Criteria.compiled, hterms, satisfies_all]
    simp only [List.mem_singleton, forall_eq]
  rw [← hmeaning]
  constructor
  · rintro ⟨k, hk, hsatisfies⟩
    rwa [Except.ok.inj (hcompile.symm.trans hk)]
  · intro hsatisfies
    exact ⟨_, hcompile, hsatisfies⟩

theorem order?_eq {v : FieldValue} (hread : FieldValue.ofText s x.fieldType = .ok v) :
    x.order? row s = (row.present? x.key).bind fun stored => stored.compareWith v := by
  rw [order?, hread]
  rfl

theorem order?_of_missing (h : row.present? x.key = none) : x.order? row s = none := by
  rw [order?, h]
  rfl

theorem accepts_iff : x.Accepts s ↔ (FieldValue.ofText s x.fieldType).isOk = true := by
  rw [Accepts]
  cases FieldValue.ofText s x.fieldType with
  | error e => simp [Except.isOk, Except.toBool]
  | ok v => simp [Except.isOk, Except.toBool]

/-- A stored value of the type of the field has an order with every value that is read. -/
theorem exists_order? {stored : Json} (h : row.present? x.key = some stored)
    (htype : stored.holdsType x.fieldType = true) (hs : x.Accepts s) :
    ∃ o, x.order? row s = some o := by
  obtain ⟨v, hv⟩ := hs
  obtain ⟨o, ho⟩ := stored.exists_compareWith x.fieldType v htype ⟨s, hv⟩
  refine ⟨o, ?_⟩
  rw [order?_eq hv, h]
  exact ho

theorem holds_order? (c : Comparison) {v : FieldValue}
    (hread : FieldValue.ofText s x.fieldType = .ok v) :
    ((row.present? x.key).any fun stored => c.holds (stored.compareWith v)) =
      c.holds (x.order? row s) := by
  rw [order?_eq hread]
  cases row.present? x.key with
  | none => exact (Comparison.holds_none c).symm
  | some stored => rfl

theorem holds_compare_iff (c : Comparison) {v : FieldValue}
    (hread : FieldValue.ofText s x.fieldType = .ok v) :
    (Predicate.compare x.key c v).holds row = true ↔ c.holds (x.order? row s) = true := by
  rw [Predicate.holds_iff, Predicate.evaluate, Predicate.testField_eq_yes, holds_order? c hread]

theorem finds_equals_iff (hs : x.Accepts s)
    (halone : x.fieldType = .date → DateTime.wholeDay? s = none) :
    x.Finds (x.withValue .equals s) row ↔ x.order? row s = some .eq := by
  obtain ⟨v, hv⟩ := hs
  have hday : (if x.fieldType = .date then DateTime.wholeDay? s else none) = none :=
    ite_eq_right_iff.mpr halone
  have hcompile : (x.withValue .equals s).compile x.fieldType =
      .ok (some (.compare x.key .equal v)) := by
    rw [Filter.compile_equals x.fieldType rfl rfl, hday, hv]
    rfl
  rw [finds_iff hcompile, holds_compare_iff .equal hv, Comparison.holds, beq_iff_eq]

/-- The two operators that compare by an order ask for one side of the value. -/
theorem finds_ordering_iff {op : Operator} {c : Comparison}
    (hop : op = .lessThan ∧ c = .less ∨ op = .greaterThan ∧ c = .greater)
    (hordered : x.fieldType.isOrdered = true) (hs : x.Accepts s) :
    x.Finds (x.withValue op s) row ↔ c.holds (x.order? row s) = true := by
  obtain ⟨v, hv⟩ := hs
  have htried : (x.withValue op s).compile x.fieldType =
      if x.fieldType.isOrdered = true then
        ((x.withValue op s).comparing x.fieldType c).map some else .ok none := by
    rcases hop with ⟨rfl, rfl⟩ | ⟨rfl, rfl⟩ <;> rfl
  have hcompile : (x.withValue op s).compile x.fieldType =
      .ok (some (.compare x.key c v)) := by
    rw [htried, if_pos hordered, Filter.comparing_of_reads c rfl hv]
    rfl
  rw [finds_iff hcompile, holds_compare_iff c hv]

theorem finds_lessThan_iff (hordered : x.fieldType.isOrdered = true) (hs : x.Accepts s) :
    x.Finds (x.withValue .lessThan s) row ↔ x.order? row s = some .lt := by
  rw [finds_ordering_iff (.inl ⟨rfl, rfl⟩) hordered hs, Comparison.holds, beq_iff_eq]

theorem finds_greaterThan_iff (hordered : x.fieldType.isOrdered = true) (hs : x.Accepts s) :
    x.Finds (x.withValue .greaterThan s) row ↔ x.order? row s = some .gt := by
  rw [finds_ordering_iff (.inr ⟨rfl, rfl⟩) hordered hs, Comparison.holds, beq_iff_eq]

theorem finds_notEquals_iff (hs : x.Accepts s) :
    x.Finds (x.withValue .notEquals s) row ↔
      x.order? row s = some .lt ∨ x.order? row s = some .gt := by
  obtain ⟨v, hv⟩ := hs
  have hcompile : (x.withValue .notEquals s).compile x.fieldType =
      .ok (some (.and [.isNotNull x.key, .compare x.key .notEqual v])) := by
    change ((x.withValue .notEquals s).comparing x.fieldType .notEqual).map _ = _
    rw [Filter.comparing_of_reads .notEqual rfl hv]
    rfl
  rw [finds_iff hcompile, Predicate.holds_iff, Predicate.evaluate_presentAnd,
    Truth.ofBool_eq_yes, holds_order? .notEqual hv, Comparison.holds, Bool.or_eq_true, beq_iff_eq,
    beq_iff_eq]

theorem finds_between_iff (hordered : x.fieldType.isOrdered = true) (hlow : x.Accepts low)
    (hhigh : x.Accepts high) :
    x.Finds (x.between low high) row ↔
      (x.order? row low = some .gt ∨ x.order? row low = some .eq) ∧
      (x.order? row high = some .lt ∨ x.order? row high = some .eq) := by
  obtain ⟨v, hv⟩ := hlow
  obtain ⟨w, hw⟩ := hhigh
  have hcompile : (x.between low high).compile x.fieldType = .ok (some (.range x.key v w)) := by
    change (if x.fieldType.isOrdered = true then
      ((x.between low high).rangeTest x.fieldType).map some else .ok none) = _
    rw [if_pos hordered, Filter.rangeTest_of_reads rfl rfl hv hw]
    rfl
  rw [finds_iff hcompile, Predicate.holds_iff, Predicate.evaluate, Predicate.testField_eq_yes,
    order?_eq hv, order?_eq hw]
  cases row.present? x.key with
  | none => simp
  | some stored => simp [Predicate.withinRange]

/-- The values of a set among which a stored value is looked for. -/
def valuesOf (x : AskedField) (vs : List String) : List FieldValue :=
  vs.filterMap fun s => (FieldValue.ofText s x.fieldType).toOption

def isAmong (x : AskedField) (vs : List String) (stored : Json) : Bool :=
  (x.valuesOf vs).any fun v => stored.compareWith v == some .eq

theorem isAmong_iff {stored : Json} (h : row.present? x.key = some stored) :
    x.isAmong vs stored = true ↔ ∃ s ∈ vs, x.order? row s = some .eq := by
  have horder (s : String) : x.order? row s = some .eq ↔
      ∃ v, (FieldValue.ofText s x.fieldType).toOption = some v ∧
        stored.compareWith v = some .eq := by
    rw [order?, h, Option.bind_some, Option.bind_eq_some_iff]
  simp only [isAmong, valuesOf, List.any_eq_true, List.mem_filterMap, beq_iff_eq, horder]
  constructor
  · rintro ⟨v, ⟨s, hs, hv⟩, heq⟩
    exact ⟨s, hs, v, hv, heq⟩
  · rintro ⟨s, hs, v, hv, heq⟩
    exact ⟨v, ⟨s, hs, hv⟩, heq⟩

theorem compile_oneOf (hvs : ∀ s ∈ vs, x.Accepts s) :
    (x.membership .oneOf vs).compile x.fieldType = .ok (some (.oneOf x.key (x.valuesOf vs))) := by
  change ((x.membership .oneOf vs).membershipTest x.fieldType).map some = _
  rw [Filter.membershipTest_of_reads hvs]
  rfl

theorem compile_noneOf (hvs : ∀ s ∈ vs, x.Accepts s) :
    (x.membership .noneOf vs).compile x.fieldType =
      .ok (some (.presentAndNot x.key (.oneOf x.key (x.valuesOf vs)))) := by
  change ((x.membership .noneOf vs).membershipTest x.fieldType).map _ = _
  rw [Filter.membershipTest_of_reads hvs]
  rfl

theorem finds_oneOf (hvs : ∀ s ∈ vs, x.Accepts s) :
    x.Finds (x.membership .oneOf vs) row ↔
      ∃ stored, row.present? x.key = some stored ∧ x.isAmong vs stored = true := by
  rw [finds_iff (compile_oneOf hvs)]
  exact Predicate.holds_test_iff x.key (x.isAmong vs) _ row rfl

end AskedField

end CriteriaSearch
