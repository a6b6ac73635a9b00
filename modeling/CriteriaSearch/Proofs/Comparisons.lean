import CriteriaSearch.Proofs.Negations

namespace CriteriaSearch.AskedField

variable (x : AskedField)

/-- The filters on the field that compare it: with one value, with two ends and with a set. -/
def comparisons (s low high : String) (vs : List String) : List Filter :=
  [x.withValue .equals s, x.withValue .notEquals s, x.withValue .lessThan s,
    x.withValue .greaterThan s, x.between low high, x.membership .oneOf vs, x.membership .noneOf vs]

variable {x} {row : Json} {s low high : String} {vs : List String}

theorem keeps_of_faults_eq_nil {f : Filter} (htype : f.resolvedType x.descriptors = x.fieldType)
    (happlies : f.operator.AppliesTo x.fieldType) (hfaults : f.faults x.fieldType = []) :
    x.Keeps f := by
  rw [Keeps, htype, Filter.compile_isSome_iff]
  exact ⟨happlies, (f.faults_eq_nil_iff x.fieldType).mp hfaults⟩

theorem faults_comparisons (hread : ∀ u ∈ s :: low :: high :: vs, x.Accepts u) :
    ∀ f ∈ x.comparisons s low high vs, f.faults x.fieldType = [] := by
  have hclean (u : String) (hu : u ∈ s :: low :: high :: vs) :
      FieldValue.faults x.fieldType u = [] :=
    (FieldValue.faults_eq_nil_iff _ _).mpr (hread u hu)
  have hs := hclean s (by simp)
  have hrange := List.append_eq_nil_iff.mpr ⟨hclean low (by simp), hclean high (by simp)⟩
  have hset : vs.flatMap (FieldValue.faults x.fieldType) = [] := by
    apply List.flatMap_eq_nil_iff.mpr
    intro u hu
    exact hclean u (by simp [hu])
  simp only [comparisons, List.forall_mem_cons, List.not_mem_nil, false_implies, implies_true,
    and_true]
  exact ⟨hs, hs, hs, hs, hrange, hset, hset⟩

theorem keeps_comparisons (hordered : x.fieldType.isOrdered = true)
    (hread : ∀ u ∈ s :: low :: high :: vs, x.Accepts u) :
    ∀ f ∈ x.comparisons s low high vs, x.Keeps f := by
  intro f hf
  apply keeps_of_faults_eq_nil
  · have htypes : ∀ g ∈ x.comparisons s low high vs, g.fieldType = x.given ∧ g.key = x.key := by
      simp only [comparisons, List.forall_mem_cons, List.not_mem_nil, false_implies, implies_true,
        and_true]
      exact ⟨⟨rfl, rfl⟩, ⟨rfl, rfl⟩, ⟨rfl, rfl⟩, ⟨rfl, rfl⟩, ⟨rfl, rfl⟩, ⟨rfl, rfl⟩, ⟨rfl, rfl⟩⟩
    rw [Filter.resolvedType, (htypes f hf).1, (htypes f hf).2]
    rfl
  · -- None of the operators looks for a part of a text, so each applies to ordered types.
    have hoperators : ∀ op ∈ (x.comparisons s low high vs).map Filter.operator,
        op ∉ Operator.textual := by
      change ∀ op ∈ [Operator.equals, .notEquals, .lessThan, .greaterThan, .between, .oneOf,
        .noneOf], op ∉ Operator.textual
      decide
    refine ⟨fun _ => ?_, fun htext => absurd htext (hoperators _ (List.mem_map_of_mem hf))⟩
    revert hordered
    cases x.fieldType <;> decide
  · exact faults_comparisons hread f hf

/-- An equality finds no missing value, whether it asks for a value or for a whole day. -/
theorem not_finds_equals_of_missing (hs : x.Accepts s) (h : row.present? x.key = none) :
    ¬x.Finds (x.withValue .equals s) row := by
  obtain ⟨v, hv⟩ := hs
  obtain ⟨p, test, hcompile, hmeaning⟩ : ∃ p test,
      (x.withValue .equals s).compile x.fieldType = .ok (some p) ∧
      p.evaluate row = Predicate.testField row x.key test := by
    rw [Filter.compile_equals x.fieldType rfl rfl, hv]
    rcases (if x.fieldType = .date then DateTime.wholeDay? s else none) with _ | ⟨first, last⟩
    · exact ⟨_, fun stored => Comparison.equal.holds (stored.compareWith v), rfl, rfl⟩
    · exact ⟨_, Predicate.withinRange (.dateTime first) (.dateTime last), rfl, rfl⟩
  rw [finds_iff hcompile, Predicate.holds_test_iff x.key test p row hmeaning, h]
  simp

theorem not_finds_of_missing (hordered : x.fieldType.isOrdered = true)
    (hread : ∀ u ∈ s :: low :: high :: vs, x.Accepts u) (h : row.present? x.key = none) :
    ∀ f ∈ x.comparisons s low high vs, ¬x.Finds f row := by
  simp only [List.forall_mem_cons] at hread
  obtain ⟨hs, hlow, hhigh, hvs⟩ := hread
  simp only [comparisons, List.forall_mem_cons, List.not_mem_nil, false_implies, implies_true,
    and_true]
  refine ⟨not_finds_equals_of_missing hs h, ?_, ?_, ?_, ?_, ?_, ?_⟩
  · simp [finds_notEquals_iff hs, order?_of_missing h]
  · simp [finds_lessThan_iff hordered hs, order?_of_missing h]
  · simp [finds_greaterThan_iff hordered hs, order?_of_missing h]
  · simp [finds_between_iff hordered hlow hhigh, order?_of_missing h]
  · exact ((complements_oneOf hvs row).missing h).1
  · exact ((complements_oneOf hvs row).missing h).2

section Present

variable {stored : Json} (hstored : row.present? x.key = some stored)

include hstored

theorem finds_oneOf_iff (hvs : ∀ u ∈ vs, x.Accepts u) :
    x.Finds (x.membership .oneOf vs) row ↔ ∃ u ∈ vs, x.order? row u = some .eq := by
  rw [finds_oneOf hvs, ← isAmong_iff hstored]
  simp only [hstored, Option.some.injEq, exists_eq_left']

variable (htype : stored.holdsType x.fieldType = true)

include htype

/-- A value of the type of the field has an order with every value, so it is equal to those that it
is not found to differ from. -/
theorem order?_eq_iff (hs : x.Accepts s) :
    x.order? row s = some .eq ↔ ¬x.Finds (x.withValue .notEquals s) row := by
  obtain ⟨o, ho⟩ := exists_order? hstored htype hs
  rw [finds_notEquals_iff hs, ho]
  cases o <;> simp

theorem finds_between_iff_not (hordered : x.fieldType.isOrdered = true) (hlow : x.Accepts low)
    (hhigh : x.Accepts high) :
    x.Finds (x.between low high) row ↔
      ¬x.Finds (x.withValue .lessThan low) row ∧ ¬x.Finds (x.withValue .greaterThan high) row := by
  obtain ⟨o, ho⟩ := exists_order? hstored htype hlow
  obtain ⟨o', ho'⟩ := exists_order? hstored htype hhigh
  rw [finds_between_iff hordered hlow hhigh, finds_lessThan_iff hordered hlow,
    finds_greaterThan_iff hordered hhigh, ho, ho']
  cases o <;> cases o' <;> simp

end Present

/-- The operators that compare a number or a date fit together, for all values that are read. None
of them finds a missing value. A value of the type of the field is never less and greater at once,
differs from what it is less or greater than, equals everything else, lies between two ends if it
is outside neither, and is in a set if it does not differ from some member. -/
theorem comparisons_coherent (x : AskedField)
    (hordered : x.fieldType = .number ∨ x.fieldType = .date) (s low high : String)
    (vs : List String) (hread : ∀ u ∈ s :: low :: high :: vs, x.Accepts u) (row : Json) :
    (∀ f ∈ x.comparisons s low high vs, x.Keeps f) ∧
    (row.present? x.key = none → ∀ f ∈ x.comparisons s low high vs, ¬x.Finds f row) ∧
    ∀ stored, row.present? x.key = some stored → stored.holdsType x.fieldType = true →
      ¬(x.Finds (x.withValue .lessThan s) row ∧ x.Finds (x.withValue .greaterThan s) row) ∧
      (x.Finds (x.withValue .notEquals s) row ↔
        x.Finds (x.withValue .lessThan s) row ∨ x.Finds (x.withValue .greaterThan s) row) ∧
      ((x.fieldType = .date → DateTime.wholeDay? s = none) →
        (x.Finds (x.withValue .equals s) row ↔ ¬x.Finds (x.withValue .notEquals s) row)) ∧
      (x.Finds (x.between low high) row ↔
        ¬x.Finds (x.withValue .lessThan low) row ∧
          ¬x.Finds (x.withValue .greaterThan high) row) ∧
      (x.Finds (x.membership .oneOf vs) row ↔
        ∃ u ∈ vs, ¬x.Finds (x.withValue .notEquals u) row) ∧
      (x.Finds (x.membership .noneOf vs) row ↔ ¬x.Finds (x.membership .oneOf vs) row) := by
  have hisOrdered : x.fieldType.isOrdered = true := by
    rcases hordered with h | h <;> rw [h] <;> rfl
  refine ⟨keeps_comparisons hisOrdered hread, not_finds_of_missing hisOrdered hread, ?_⟩
  intro stored hstored htype
  simp only [List.forall_mem_cons] at hread
  obtain ⟨hs, hlow, hhigh, hvs⟩ := hread
  -- Every operator is brought to the order of the stored value with a value of the filter.
  have hless : x.Finds (x.withValue .lessThan s) row ↔ x.order? row s = some .lt :=
    finds_lessThan_iff hisOrdered hs
  have hgreater : x.Finds (x.withValue .greaterThan s) row ↔ x.order? row s = some .gt :=
    finds_greaterThan_iff hisOrdered hs
  refine ⟨?_, ?_, ?_, ?_, ?_, (complements_oneOf hvs row).present stored hstored⟩
  · rw [hless, hgreater]
    rintro ⟨hlt, hgt⟩
    rw [hlt] at hgt
    cases hgt
  · rw [finds_notEquals_iff hs, hless, hgreater]
  · intro halone
    rw [finds_equals_iff hs halone, order?_eq_iff hstored htype hs]
  · exact finds_between_iff_not hstored htype hisOrdered hlow hhigh
  · rw [finds_oneOf_iff hstored hvs]
    apply exists_congr
    intro u
    apply and_congr_right
    intro hu
    exact order?_eq_iff hstored htype (hvs u hu)

def usages : AskedField := ⟨nameAndUsages, "usages", none⟩

def twelveUsages : Json := .object [("usages", .integer 12)]

/-- Twelve usages against ten, against five to twenty, and against three and twelve. -/
theorem comparisons_coherent_twelve :
    (∀ f ∈ usages.comparisons "10" "5" "20" ["3", "12"], usages.Keeps f) ∧
    (usages.Finds (usages.withValue .notEquals "10") twelveUsages ↔
      usages.Finds (usages.withValue .lessThan "10") twelveUsages ∨
        usages.Finds (usages.withValue .greaterThan "10") twelveUsages) ∧
    (usages.Finds (usages.withValue .equals "10") twelveUsages ↔
      ¬usages.Finds (usages.withValue .notEquals "10") twelveUsages) ∧
    (usages.Finds (usages.between "5" "20") twelveUsages ↔
      ¬usages.Finds (usages.withValue .lessThan "5") twelveUsages ∧
        ¬usages.Finds (usages.withValue .greaterThan "20") twelveUsages) ∧
    (usages.Finds (usages.membership .noneOf ["3", "12"]) twelveUsages ↔
      ¬usages.Finds (usages.membership .oneOf ["3", "12"]) twelveUsages) := by
  have hread : ∀ u ∈ ["10", "5", "20", "3", "12"], usages.Accepts u := by
    simp only [List.forall_mem_cons, List.not_mem_nil, false_implies, implies_true, and_true,
      AskedField.accepts_iff]
    decide +kernel
  obtain ⟨hkept, -, hpresent⟩ :=
    comparisons_coherent usages (.inl rfl) "10" "5" "20" ["3", "12"] hread twelveUsages
  obtain ⟨-, hother, hequal, hbetween, -, hnone⟩ := hpresent (.integer 12) rfl (by decide +kernel)
  have hnumber : usages.fieldType ≠ .date := by decide
  exact ⟨hkept, hother, hequal fun hdate => absurd hdate hnumber, hbetween, hnone⟩

end CriteriaSearch.AskedField
