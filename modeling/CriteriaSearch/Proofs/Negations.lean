import CriteriaSearch.Proofs.SingleFilter

namespace CriteriaSearch

theorem Truth.ofBool_ne_unknown (b : Bool) : ofBool b ≠ .unknown := by
  cases b <;> decide

theorem Json.holds_compareWith_empty (stored : Json) :
    Comparison.equal.holds (stored.compareWith (.text "")) = (stored.text? == some "") ∧
    Comparison.notEqual.holds (stored.compareWith (.text "")) = stored.text?.any (· != "") := by
  have hcompare : stored.compareWith (.text "") = stored.text?.map fun s => compareText s "" := by
    cases stored <;> rfl
  rw [hcompare]
  cases stored.text? with
  | none => decide
  | some s =>
    have hsame := compareText_eq_eq s ""
    cases horder : compareText s "" <;> simp_all [Comparison.holds]

namespace AskedField

/-- Of two filters on a field that are both kept, one is the negation of the other: each row with a
value in the field is found by exactly one of them, and the other rows by neither. -/
structure Complements (x : AskedField) (f g : Filter) (row : Json) : Prop where
  keeps : x.Keeps f
  keeps_negation : x.Keeps g
  missing : row.present? x.key = none → ¬x.Finds f row ∧ ¬x.Finds g row
  present : ∀ stored, row.present? x.key = some stored → (x.Finds g row ↔ ¬x.Finds f row)

variable {x : AskedField} {f g : Filter} {row : Json} {vs : List String}

/-- A test of a field and its negation beside the test that the field is there. -/
theorem complements_of_presentAndNot {p : Predicate} (test : Json → Bool)
    (hf : f.compile (f.resolvedType x.descriptors) = .ok (some p))
    (hg : g.compile (g.resolvedType x.descriptors) = .ok (some (.presentAndNot x.key p)))
    (hmeaning : p.evaluate row = Predicate.testField row x.key test) :
    x.Complements f g row := by
  have hfinds : x.Finds f row ↔
      ∃ stored, row.present? x.key = some stored ∧ test stored = true := by
    rw [finds_iff hf, Predicate.holds_test_iff x.key test p row hmeaning]
  have hrefuses : x.Finds g row ↔
      ∃ stored, row.present? x.key = some stored ∧ test stored = false := by
    rw [finds_iff hg, Predicate.holds_presentAndNot_iff x.key test p row hmeaning]
  refine ⟨⟨p, hf⟩, ⟨_, hg⟩, ?_, ?_⟩
  · intro hmissing
    rw [hfinds, hrefuses, hmissing]
    simp
  · intro stored hstored
    rw [hfinds, hrefuses]
    simp only [hstored, Option.some.injEq, exists_eq_left', Bool.not_eq_true]

theorem complements_contains (htext : x.fieldType = .string) (s : String) (row : Json) :
    x.Complements (x.withValue .contains s) (x.withValue .notContains s) row := by
  have htest (op : Operator) :
      (x.withValue op s).textTest .contains = .ok (.textMatch x.key .contains s) :=
    Filter.textTest_of_value .contains rfl
  have hplain : (x.withValue .contains s).compile x.fieldType =
      .ok (some (.textMatch x.key .contains s)) := by
    change (if x.fieldType = .string then
      ((x.withValue .contains s).textTest .contains).map some else .ok none) = _
    rw [if_pos htext, htest]
    rfl
  have hnegated : (x.withValue .notContains s).compile x.fieldType =
      .ok (some (.presentAndNot x.key (.textMatch x.key .contains s))) := by
    change (if x.fieldType = .string then
      ((x.withValue .notContains s).textTest .contains).map _ else .ok none) = _
    rw [if_pos htext, htest]
    rfl
  exact complements_of_presentAndNot (Predicate.textHolds .contains s) hplain hnegated rfl

theorem complements_oneOf (hvs : ∀ s ∈ vs, x.Accepts s) (row : Json) :
    x.Complements (x.membership .oneOf vs) (x.membership .noneOf vs) row :=
  complements_of_presentAndNot (x.isAmong vs) (compile_oneOf hvs) (compile_noneOf hvs) rfl

/-- A set with a text that is no value of the type is refused for the same fault by both. -/
theorem membership_refused_iff (x : AskedField) (vs : List String) (e : SearchError) :
    (x.membership .oneOf vs).compile x.fieldType = .error e ↔
      (x.membership .noneOf vs).compile x.fieldType = .error e := by
  have happlies (op : Operator) (hop : op ∈ Operator.setwise) : op.AppliesTo x.fieldType := by
    revert hop
    cases op <;> cases x.fieldType <;> decide
  have hplain : Operator.oneOf ∈ Operator.setwise := by decide
  have hnegated : Operator.noneOf ∈ Operator.setwise := by decide
  rw [Filter.compile_eq_error_iff, Filter.compile_eq_error_iff]
  exact and_congr (iff_of_true (happlies _ hplain) (happlies _ hnegated)) Iff.rfl

/-- The row has no value in the field, or the empty text in a field for texts. -/
def isBlank (x : AskedField) (row : Json) : Bool :=
  (row.present? x.key).all fun stored =>
    decide (x.fieldType = .string) && stored.text? == some ""

/-- The row has a value in the field, and a text that is not empty if the field is for texts. -/
def isFilled (x : AskedField) (row : Json) : Bool :=
  (row.present? x.key).any fun stored =>
    decide (x.fieldType ≠ .string) || stored.text?.any (· != "")

theorem evaluate_blank (x : AskedField) (row : Json) :
    ∃ p, (x.bare .blank).compile x.fieldType = .ok (some p) ∧
      p.evaluate row = .ofBool (x.isBlank row) := by
  refine ⟨if x.fieldType = .string then .or [.isNull x.key, .compare x.key .equal (.text "")]
    else .isNull x.key, rfl, ?_⟩
  unfold isBlank
  by_cases htext : x.fieldType = .string
  · rw [if_pos htext, Predicate.evaluate_missingOr]
    simp only [Json.holds_compareWith_empty, htext, decide_true, Bool.true_and]
  · rw [if_neg htext, Predicate.evaluate]
    cases row.present? x.key with
    | none => rfl
    | some stored => simp [htext]

theorem evaluate_notBlank (x : AskedField) (row : Json) :
    ∃ p, (x.bare .notBlank).compile x.fieldType = .ok (some p) ∧
      p.evaluate row = .ofBool (x.isFilled row) := by
  refine ⟨if x.fieldType = .string then .and [.isNotNull x.key, .compare x.key .notEqual (.text "")]
    else .isNotNull x.key, rfl, ?_⟩
  unfold isFilled
  by_cases htext : x.fieldType = .string
  · rw [if_pos htext, Predicate.evaluate_presentAnd]
    simp only [Json.holds_compareWith_empty, htext, ne_eq, not_true, decide_false, Bool.false_or]
  · rw [if_neg htext, Predicate.evaluate]
    cases row.present? x.key with
    | none => rfl
    | some stored => simp [htext]

theorem finds_blank_iff (x : AskedField) (row : Json) :
    x.Finds (x.bare .blank) row ↔ x.isBlank row = true := by
  obtain ⟨p, hcompile, hmeaning⟩ := x.evaluate_blank row
  rw [finds_iff hcompile, Predicate.holds_iff, hmeaning, Truth.ofBool_eq_yes]

theorem finds_notBlank_iff (x : AskedField) (row : Json) :
    x.Finds (x.bare .notBlank) row ↔ x.isFilled row = true := by
  obtain ⟨p, hcompile, hmeaning⟩ := x.evaluate_notBlank row
  rw [finds_iff hcompile, Predicate.holds_iff, hmeaning, Truth.ofBool_eq_yes]

theorem isBlank_iff (x : AskedField) (row : Json) :
    x.isBlank row = true ↔ row.present? x.key = none ∨
      x.fieldType = .string ∧ row.present? x.key = some (.text "") := by
  unfold isBlank
  cases row.present? x.key with
  | none => simp
  | some stored =>
    have hempty : stored.text? = some "" ↔ stored = .text "" := by
      cases stored <;> simp [Json.text?]
    simp [hempty]

/-- The field is for texts and holds something else. -/
def Misplaced (x : AskedField) (row : Json) : Prop :=
  x.fieldType = .string ∧ ∃ stored, row.present? x.key = some stored ∧ stored.text? = none

theorem not_misplaced_of_isBlank (h : x.isBlank row = true) : ¬x.Misplaced row := by
  rintro ⟨-, stored, hstored, hother⟩
  rcases (x.isBlank_iff row).mp h with hmissing | ⟨-, hempty⟩
  · rw [hmissing] at hstored
    cases hstored
  · rw [hempty] at hstored
    cases hstored
    cases hother

theorem isFilled_iff (x : AskedField) (row : Json) :
    x.isFilled row = true ↔ x.isBlank row = false ∧ ¬x.Misplaced row := by
  unfold isFilled isBlank Misplaced
  cases row.present? x.key with
  | none => simp
  | some stored =>
    by_cases htext : x.fieldType = .string
    · cases h : stored.text? <;> simp [htext, h]
    · simp [htext]

/-- Negated operators complement the plain ones: of the searches for a part of a text and for its
absence, and of those for a set of values and for anything else, one finds each row with a value in
the field, whatever its kind, and none finds another row. A search for blank fields finds the
missing, null and empty ones, and one for filled fields finds the other rows but those with a
misplaced value; neither test is ever undecided. -/
theorem negations_complement (x : AskedField) (row : Json) :
    (x.fieldType = .string → ∀ s,
      x.Complements (x.withValue .contains s) (x.withValue .notContains s) row) ∧
    (∀ vs, (∀ s ∈ vs, x.Accepts s) →
      x.Complements (x.membership .oneOf vs) (x.membership .noneOf vs) row) ∧
    (∀ vs e, (x.membership .oneOf vs).compile x.fieldType = .error e ↔
      (x.membership .noneOf vs).compile x.fieldType = .error e) ∧
    (∀ op ∈ Operator.valueless, ∃ p,
      (x.bare op).compile x.fieldType = .ok (some p) ∧ p.evaluate row ≠ .unknown) ∧
    (x.Finds (x.bare .blank) row ↔ row.present? x.key = none ∨
      x.fieldType = .string ∧ row.present? x.key = some (.text "")) ∧
    ¬(x.Finds (x.bare .blank) row ∧ x.Finds (x.bare .notBlank) row) ∧
    (x.Finds (x.bare .blank) row ∨ x.Finds (x.bare .notBlank) row ↔ ¬x.Misplaced row) := by
  -- Both tests are those of decided truth values, so that they are never unknown.
  have hdecided : ∀ op ∈ Operator.valueless, ∃ p,
      (x.bare op).compile x.fieldType = .ok (some p) ∧ p.evaluate row ≠ .unknown := by
    simp only [Operator.valueless, List.forall_mem_cons, List.not_mem_nil, false_implies,
      implies_true, and_true]
    obtain ⟨p, hp, hblank⟩ := x.evaluate_blank row
    obtain ⟨q, hq, hfilled⟩ := x.evaluate_notBlank row
    exact ⟨⟨p, hp, hblank ▸ Truth.ofBool_ne_unknown _⟩,
      ⟨q, hq, hfilled ▸ Truth.ofBool_ne_unknown _⟩⟩
  refine ⟨fun htext s => complements_contains htext s row, fun vs hvs => complements_oneOf hvs row,
    x.membership_refused_iff, hdecided, ?_, ?_, ?_⟩
  · rw [finds_blank_iff, isBlank_iff]
  · rw [finds_blank_iff, finds_notBlank_iff, isFilled_iff]
    rintro ⟨hblank, hfilled, -⟩
    rw [hblank] at hfilled
    cases hfilled
  · rw [finds_blank_iff, finds_notBlank_iff, isFilled_iff]
    constructor
    · rintro (hblank | ⟨-, hplaced⟩)
      · exact not_misplaced_of_isBlank hblank
      · exact hplaced
    · intro hplaced
      cases hblank : x.isBlank row with
      | true => exact .inl rfl
      | false => exact .inr ⟨rfl, hplaced⟩

def recordName : AskedField := ⟨nameAndUsages, "name", none⟩

/-- A number in the place of the name lies outside every text and every set, and is no blank. -/
theorem negations_complement_number :
    recordName.Complements (recordName.withValue .contains "linux")
      (recordName.withValue .notContains "linux") (.object [("name", .integer 7)]) ∧
    recordName.Complements (recordName.membership .oneOf ["linux", ""])
      (recordName.membership .noneOf ["linux", ""]) (.object [("name", .integer 7)]) ∧
    recordName.Misplaced (.object [("name", .integer 7)]) ∧
    ¬(recordName.Finds (recordName.bare .blank) (.object [("name", .integer 7)]) ∨
      recordName.Finds (recordName.bare .notBlank) (.object [("name", .integer 7)])) := by
  obtain ⟨htexts, hsets, -, -, -, -, hsplit⟩ :=
    negations_complement recordName (.object [("name", .integer 7)])
  have hread : ∀ s ∈ ["linux", ""], recordName.Accepts s := by
    simp only [List.forall_mem_cons, List.not_mem_nil, false_implies, implies_true, and_true,
      accepts_iff]
    decide +kernel
  have hmisplaced : recordName.Misplaced (.object [("name", .integer 7)]) :=
    ⟨rfl, .integer 7, rfl, rfl⟩
  exact ⟨htexts rfl "linux", hsets _ hread, hmisplaced, fun hfound => hsplit.mp hfound hmisplaced⟩

end AskedField

end CriteriaSearch
