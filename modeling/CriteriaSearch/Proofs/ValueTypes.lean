import CriteriaSearch.Proofs.FilterTerm
import CriteriaSearch.Proofs.SearchIndex.Matching
import CriteriaSearch.Sql.Clause

namespace CriteriaSearch

theorem FieldType.isOrdered_iff (t : FieldType) : t.isOrdered = true ↔ t = .number ∨ t = .date := by
  cases t <;> decide

theorem FieldType.Reads.fieldType_eq {t : FieldType} {v : FieldValue} (h : t.Reads v) :
    v.fieldType = t := by
  obtain ⟨s, hs⟩ := h
  exact (FieldValue.ofText_eq_ok s t v hs).1

namespace Predicate

def literals : Predicate → List FieldValue
  | .compare _ _ v => [v]
  | .range _ lower upper => [lower, upper]
  | .oneOf _ vs => vs
  | .textMatch _ _ text => [.text text]
  | .isNull _ | .isNotNull _ | .and _ | .or _ | .not _ => []

def asksOrder : Predicate → Bool
  | .compare _ .less _ | .compare _ .greater _ | .range _ _ _ => true
  | _ => false

def asksPart : Predicate → Bool
  | .textMatch _ _ _ => true
  | _ => false

structure Suits (t : FieldType) (test : Predicate) : Prop where
  literals_typed : ∀ v ∈ test.literals, v.fieldType = t
  ordered : test.asksOrder = true → t = .number ∨ t = .date
  textual : test.asksPart = true → t = .string

section Suits

variable {t : FieldType} {field : String}

theorem suits_isNull : (isNull field).Suits t := ⟨List.forall_mem_nil _, nofun, nofun⟩

theorem suits_isNotNull : (isNotNull field).Suits t := ⟨List.forall_mem_nil _, nofun, nofun⟩

theorem suits_equal {v : FieldValue} (hv : v.fieldType = t) : (compare field .equal v).Suits t :=
  ⟨List.forall_mem_singleton.mpr hv, nofun, nofun⟩

theorem suits_notEqual {v : FieldValue} (hv : v.fieldType = t) :
    (compare field .notEqual v).Suits t :=
  ⟨List.forall_mem_singleton.mpr hv, nofun, nofun⟩

theorem suits_textMatch (ht : t = .string) (mode : TextMode) (text : String) :
    (textMatch field mode text).Suits t :=
  ⟨List.forall_mem_singleton.mpr ht.symm, nofun, fun _ => ht⟩

theorem suits_oneOf {vs : List FieldValue} (hvs : ∀ v ∈ vs, v.fieldType = t) :
    (oneOf field vs).Suits t :=
  ⟨hvs, nofun, nofun⟩

variable (ht : t = .number ∨ t = .date)
include ht

theorem suits_less {v : FieldValue} (hv : v.fieldType = t) : (compare field .less v).Suits t :=
  ⟨List.forall_mem_singleton.mpr hv, fun _ => ht, nofun⟩

theorem suits_greater {v : FieldValue} (hv : v.fieldType = t) :
    (compare field .greater v).Suits t :=
  ⟨List.forall_mem_singleton.mpr hv, fun _ => ht, nofun⟩

theorem suits_range {lower upper : FieldValue} (hlower : lower.fieldType = t)
    (hupper : upper.fieldType = t) : (range field lower upper).Suits t :=
  ⟨List.forall_mem_cons.mpr ⟨hlower, List.forall_mem_singleton.mpr hupper⟩, fun _ => ht, nofun⟩

end Suits

theorem leaves_conjuncts (p : Predicate) : p.conjuncts.flatMap leaves = p.leaves := by
  cases p with
  | and parts => exact (leavesOf_eq parts).symm
  | _ => exact List.flatMap_singleton _ _

theorem leaves_all {ps : List Predicate} {p : Predicate} (h : all ps = some p) :
    p.leaves = ps.flatMap leaves := by
  have hterms : (ps.flatMap conjuncts).flatMap leaves = ps.flatMap leaves := by
    rw [List.flatMap_assoc]
    exact List.flatMap_congr fun p _ => p.leaves_conjuncts
  rw [all] at h
  rw [← hterms]
  split at h
  · cases h
  · next only hone =>
    cases h
    rw [hone, List.flatMap_singleton]
  · cases h
    exact leavesOf_eq _

theorem leaves_any {ps : List Predicate} {p : Predicate} (h : any ps = some p) :
    p.leaves = ps.flatMap leaves := by
  rcases ps with _ | ⟨only, _ | ⟨first, rest⟩⟩
  · cases h
  · cases h
    exact (List.flatMap_singleton _ _).symm
  · cases h
    exact leavesOf_eq _

end Predicate

open Predicate in
theorem FilterTerm.leaves_suit {key : String} {t : FieldType} {p : Predicate}
    (h : FilterTerm key t p) : ∀ test ∈ p.leaves, test.Suits t := by
  have hone (test : Predicate) (htest : test.Suits t) : ∀ other ∈ [test], other.Suits t :=
    List.forall_mem_singleton.mpr htest
  have htwo (first test : Predicate) (hfirst : first.Suits t) (htest : test.Suits t) :
      ∀ other ∈ [first, test], other.Suits t :=
    List.forall_mem_cons.mpr ⟨hfirst, hone test htest⟩
  cases h with
  | equal v hv => exact hone _ (suits_equal hv.fieldType_eq)
  | wholeDay s first last ht hday => exact hone _ (suits_range (.inr ht) ht.symm ht.symm)
  | notEqual v hv => exact htwo _ _ suits_isNotNull (suits_notEqual hv.fieldType_eq)
  | less v ht hv => exact hone _ (suits_less (t.isOrdered_iff.mp ht) hv.fieldType_eq)
  | greater v ht hv => exact hone _ (suits_greater (t.isOrdered_iff.mp ht) hv.fieldType_eq)
  | between lower upper ht hlower hupper =>
    exact hone _ (suits_range (t.isOrdered_iff.mp ht) hlower.fieldType_eq hupper.fieldType_eq)
  | textMatch mode s ht => exact hone _ (suits_textMatch ht mode s)
  | notContains s ht => exact htwo _ _ suits_isNotNull (suits_textMatch ht .contains s)
  | oneOf vs hvs => exact hone _ (suits_oneOf fun v hv => (hvs v hv).fieldType_eq)
  | noneOf vs hvs =>
    exact htwo _ _ suits_isNotNull (suits_oneOf fun v hv => (hvs v hv).fieldType_eq)
  | blank => exact hone _ suits_isNull
  | blankText ht => exact htwo _ _ suits_isNull (suits_equal ht.symm)
  | notBlank => exact hone _ suits_isNotNull
  | notBlankText ht => exact htwo _ _ suits_isNotNull (suits_notEqual ht.symm)

theorem mem_fullText_leaves_iff (ds : List FilterDescriptor) (query : String) (test : Predicate) :
    (∃ p, fullTextPredicate ds query = some p ∧ test ∈ p.leaves) ↔
      ∃ d ∈ ds, d.fieldType = .string ∧ test = .textMatch d.key .contains query := by
  have hparts : test ∈ ((ds.filter fun d => d.fieldType == .string).map fun d =>
      Predicate.textMatch d.key .contains query).flatMap Predicate.leaves ↔
        ∃ d ∈ ds, d.fieldType = .string ∧ test = .textMatch d.key .contains query := by
    simp [Predicate.leaves, and_assoc]
  rw [← hparts]
  constructor
  · rintro ⟨p, hp, htest⟩
    rwa [Predicate.leaves_any hp] at htest
  · intro htest
    cases hp : fullTextPredicate ds query with
    | none =>
      rw [(Predicate.any_eq_none_iff _).mp hp] at htest
      cases htest
    | some p =>
      refine ⟨p, rfl, ?_⟩
      rwa [Predicate.leaves_any hp]

theorem Criteria.mem_compiled_leaves_iff {ds : List FilterDescriptor} {c : Criteria} {k : Compiled}
    (h : c.compile ds = .ok k) {p : Predicate} (hp : k.predicate = some p) (test : Predicate) :
    test ∈ p.leaves ↔
      (∃ f ∈ c.filters, ∃ q, f.compile (f.resolvedType ds) = .ok (some q) ∧ test ∈ q.leaves) ∨
      ∃ query, c.activeQuery? = some query ∧
        ∃ d ∈ ds, d.fieldType = .string ∧ test = .textMatch d.key .contains query := by
  obtain ⟨-, -, rfl⟩ := (compile_eq_ok_iff ds c k).mp h
  -- The tests of a conjunction are those of its terms, from which the conjunction was put together.
  simp only [Predicate.leaves_all hp, List.mem_flatMap, mem_terms, or_and_right, exists_or,
    ← mem_fullText_leaves_iff]
  apply or_congr
  · constructor
    · rintro ⟨q, ⟨f, hf, hq⟩, htest⟩
      exact ⟨f, hf, q, hq, htest⟩
    · rintro ⟨f, hf, q, hq, htest⟩
      exact ⟨q, ⟨f, hf, hq⟩, htest⟩
  · constructor
    · rintro ⟨q, hq, htest⟩
      obtain ⟨query, hquery, hq⟩ := Option.bind_eq_some_iff.mp hq
      exact ⟨query, hquery, q, hq, htest⟩
    · rintro ⟨query, hquery, q, hq, htest⟩
      exact ⟨q, Option.bind_eq_some_iff.mpr ⟨query, hquery, hq⟩, htest⟩

namespace Sql

/-- The condition of a test with the column in the form for one value. -/
def clauseFor (v : FieldValue) (k : Nat) : Predicate → List Token
  | .compare field c _ => fieldTokens field v ++ [.symbol (comparisonSign c), .param (k + 1)]
  | .range field _ _ =>
    fieldTokens field v ++ [.keyword "BETWEEN", .param (k + 1), .keyword "AND", .param (k + 2)]
  | .oneOf field vs =>
    fieldTokens field v ++ .keyword "IN" :: Token.parens (paramTokens k vs.length)
  | test => clause k test

theorem fieldTokens_eq (field : String) (v : FieldValue) :
    fieldTokens field v =
      if v.fieldType = .date then
        [.name "strftime", .symbol "(", .text momentFormat, .symbol ",", .quoted field, .symbol ")"]
      else [.quoted field] := by
  cases v <;> rfl

theorem fieldTokens_congr (field : String) {v w : FieldValue} (h : v.fieldType = w.fieldType) :
    fieldTokens field v = fieldTokens field w := by
  rw [fieldTokens_eq, fieldTokens_eq, h]

theorem clause_eq_clauseFor {t : FieldType} {test : Predicate} (h : test.Suits t) {v : FieldValue}
    (hv : v ∈ test.literals) (k : Nat) : clause k test = clauseFor v k test := by
  have hcolumn (field : String) (w : FieldValue) (hw : w ∈ test.literals) :
      fieldTokens field w = fieldTokens field v :=
    fieldTokens_congr field ((h.literals_typed w hw).trans (h.literals_typed v hv).symm)
  -- The column is taken from the first value, and that is one of the values.
  cases test with
  | compare field c w => rw [clause, clauseFor, hcolumn field w List.mem_cons_self]
  | range field lower upper => rw [clause, clauseFor, hcolumn field lower List.mem_cons_self]
  | oneOf field vs =>
    cases vs with
    | nil => cases hv
    | cons w ws => rw [clause, clauseFor, hcolumn field w List.mem_cons_self, List.length_cons]
  | _ => rfl

end Sql

namespace SearchIndex.Dialect

variable (d : Dialect)

def clauseFor (v : FieldValue) : Predicate → Json
  | .compare field .equal w => single "term" (single (d.exactField field v) (valueToJson w))
  | .compare field .notEqual w =>
    mustNot [single "term" (single (d.exactField field v) (valueToJson w))]
  | .compare field .less w =>
    single "range" (single (d.exactField field v) (single "lt" (valueToJson w)))
  | .compare field .greater w =>
    single "range" (single (d.exactField field v) (single "gt" (valueToJson w)))
  | .range field lower upper =>
    single "range" (single (d.exactField field v) (.object [("gte", valueToJson lower),
      ("lte", valueToJson upper)]))
  | .oneOf field vs =>
    single "terms" (single (d.exactField field v) (.array (vs.map valueToJson)))
  | .textMatch field mode text =>
    single "wildcard" (single (d.exactField field v) (.object [
      ("value", .text (pattern mode text)), ("case_insensitive", .boolean true)]))
  | test => d.clause test

theorem exactField_eq_of_type (field : String) (v : FieldValue) :
    d.exactField field v = if v.fieldType = .string then d.keyword field else field := by
  cases v <;> rfl

theorem exactField_congr (field : String) {v w : FieldValue} (h : v.fieldType = w.fieldType) :
    d.exactField field v = d.exactField field w := by
  rw [exactField_eq_of_type, exactField_eq_of_type, h]

theorem exactField_of_ordered (field : String) {v : FieldValue}
    (h : v.fieldType = .number ∨ v.fieldType = .date) : d.exactField field v = field := by
  rw [exactField_eq_of_type, if_neg]
  intro htext
  rw [htext] at h
  rcases h with h | h <;> cases h

theorem clause_eq_clauseFor {t : FieldType} {test : Predicate} (h : test.Suits t) {v : FieldValue}
    (hv : v ∈ test.literals) : d.clause test = d.clauseFor v test := by
  have hexact (field : String) (w : FieldValue) (hw : w ∈ test.literals) :
      d.exactField field w = d.exactField field v :=
    d.exactField_congr field ((h.literals_typed w hw).trans (h.literals_typed v hv).symm)
  -- Orders are asked of the field itself, which is the one for values that are no texts.
  have hordered (field : String) (horder : test.asksOrder = true) :
      d.exactField field v = field := by
    apply d.exactField_of_ordered field
    rw [h.literals_typed v hv]
    exact h.ordered horder
  cases test with
  | compare field c w =>
    cases c with
    | equal => rw [clause, comparison, clauseFor, hexact field w List.mem_cons_self]
    | notEqual => rw [clause, comparison, clauseFor, hexact field w List.mem_cons_self]
    | less => rw [clause, comparison, clauseFor, hordered field rfl]
    | greater => rw [clause, comparison, clauseFor, hordered field rfl]
  | range field lower upper => rw [clause, clauseFor, hordered field rfl]
  | oneOf field vs =>
    cases vs with
    | nil => cases hv
    | cons w ws => rw [clause, clauseFor, hexact field w List.mem_cons_self]
  | textMatch field mode text =>
    obtain rfl := List.mem_singleton.mp hv
    rfl
  | _ => cases hv

end SearchIndex.Dialect

/-- In the compiled form of a request, the tests of a filter suit the type that the filter is
resolved to, and the tests of a query over all fields are those of text fields. Orders are asked of
numbers and dates alone. So a test has values of one type, and stores write it as if they had looked
at any one of them. -/
theorem compiled_tests_typed (ds : List FilterDescriptor) (c : Criteria) (k : Compiled)
    (h : c.compile ds = .ok k) :
    (∀ f ∈ c.filters, ∀ q, f.compile (f.resolvedType ds) = .ok (some q) →
      ∀ test ∈ q.leaves, test.Suits (f.resolvedType ds)) ∧
    ∀ p, k.predicate = some p →
      (∀ test, test ∈ p.leaves ↔
        (∃ f ∈ c.filters, ∃ q, f.compile (f.resolvedType ds) = .ok (some q) ∧ test ∈ q.leaves) ∨
        ∃ query, c.activeQuery? = some query ∧
          ∃ d ∈ ds, d.fieldType = .string ∧ test = .textMatch d.key .contains query) ∧
      ∀ test ∈ p.leaves, (∃ t, test.Suits t) ∧ ∀ v ∈ test.literals,
        (∀ n, Sql.clause n test = Sql.clauseFor v n test) ∧
        ∀ dialect : SearchIndex.Dialect, dialect.clause test = dialect.clauseFor v test := by
  have hfilter (f : Filter) (q : Predicate) (hq : f.compile (f.resolvedType ds) = .ok (some q)) :
      ∀ test ∈ q.leaves, test.Suits (f.resolvedType ds) :=
    (f.compile_eq_some _ q hq).leaves_suit
  refine ⟨fun f _ => hfilter f, ?_⟩
  intro p hp
  refine ⟨Criteria.mem_compiled_leaves_iff h hp, ?_⟩
  intro test htest
  -- A test comes from a filter, whose type it suits, or from the full-text query.
  obtain ⟨t, ht⟩ : ∃ t, test.Suits t := by
    rcases (Criteria.mem_compiled_leaves_iff h hp test).mp htest with hterm | hquery
    · obtain ⟨f, -, q, hq, htest⟩ := hterm
      exact ⟨_, hfilter f q hq test htest⟩
    · obtain ⟨query, -, d, -, -, rfl⟩ := hquery
      exact ⟨.string, Predicate.suits_textMatch rfl .contains query⟩
  refine ⟨⟨t, ht⟩, ?_⟩
  intro v hv
  exact ⟨Sql.clause_eq_clauseFor ht hv, fun dialect => dialect.clause_eq_clauseFor ht hv⟩

/-- A range of dates in a field that has numbers by its descriptor, a set of texts, a filter that is
dropped for its type and a query over all text fields. -/
def datedUsages : Criteria :=
  ⟨[{ Filter.between "usages" "2024-01-31" "2024-02-29" with fieldType := some .date },
    .membership "name" .noneOf ["axe", "saw"], .withValue "usages" .contains "1"], [],
    some ⟨some "x"⟩, .first⟩

/-- The column of the range is in the form for dates, for its upper end too. -/
theorem compiled_tests_typed_dated :
    ∃ k p, datedUsages.compile nameAndUsages = .ok k ∧ k.predicate = some p ∧
      (∀ test ∈ p.leaves, ∃ t, test.Suits t) ∧
      ∃ lower upper, .range "usages" lower (.dateTime upper) ∈ p.leaves ∧
        Sql.clause 0 (.range "usages" lower (.dateTime upper)) =
          Sql.clauseFor (.dateTime upper) 0 (.range "usages" lower (.dateTime upper)) := by
  obtain ⟨-, hpredicate⟩ := compiled_tests_typed nameAndUsages datedUsages _ rfl
  obtain ⟨-, htests⟩ := hpredicate _ rfl
  refine ⟨_, _, rfl, rfl, fun test htest => (htests test htest).1, _, _, List.mem_cons_self, ?_⟩
  exact ((htests _ List.mem_cons_self).2 _ (List.mem_cons_of_mem _ List.mem_cons_self)).1 0

end CriteriaSearch
