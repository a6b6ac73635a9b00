import CriteriaSearch.Proofs.Applicability
import CriteriaSearch.Proofs.Calendar.WholeDay

namespace CriteriaSearch

def refusal? {α : Type} : Except SearchError α → Option SearchError
  | .ok _ => none
  | .error e => some e

section Refusal

variable {α β : Type}

theorem refusal?_eq_some_iff {x : Except SearchError α} {e : SearchError} :
    refusal? x = some e ↔ x = .error e := by
  cases x <;> simp [refusal?]

theorem refusal?_eq_none_iff {x : Except SearchError α} : refusal? x = none ↔ ∃ v, x = .ok v := by
  cases x <;> simp [refusal?]

theorem exists_some_iff {x : Except SearchError (Option α)} :
    (∃ v, x = .ok (some v)) ↔ x ≠ .ok none ∧ refusal? x = none := by
  rcases x with e | _ | v <;> simp [refusal?]

theorem refusal?_map (g : α → β) (x : Except SearchError α) :
    refusal? (x.map g) = refusal? x := by
  cases x <;> rfl

theorem refusal?_bind (x : Except SearchError α) (g : α → Except SearchError β) :
    refusal? (x >>= g) = (refusal? x).or (x.toOption.bind fun v => refusal? (g v)) := by
  cases x <;> rfl

/-- Trying a list is refused for what the first of its items is refused for. -/
theorem refusal?_mapM (f : α → Except SearchError β) (xs : List α) :
    refusal? (xs.mapM f) = xs.findSome? fun x => refusal? (f x) := by
  induction xs with
  | nil => rfl
  | cons x xs ih =>
    rw [List.mapM_cons, List.findSome?_cons]
    cases hx : f x with
    | error e => rfl
    | ok y =>
      -- The results of the items behind are put together after the last of them.
      have hrest : refusal? (xs.mapM f >>= fun ys => pure (y :: ys)) = refusal? (xs.mapM f) :=
        refusal?_map (y :: ·) _
      change refusal? (xs.mapM f >>= fun ys => pure (y :: ys)) = _
      rw [hrest, ih]
      rfl

theorem exists_of_mapM_eq_error {f : α → Except SearchError β} {xs : List α} {e : SearchError}
    (h : xs.mapM f = .error e) :
    ∃ before x after, xs = before ++ x :: after ∧ (∀ y ∈ before, ∃ z, f y = .ok z) ∧
      f x = .error e := by
  rw [← refusal?_eq_some_iff, refusal?_mapM, List.findSome?_eq_some_iff] at h
  obtain ⟨before, x, after, hxs, hx, hbefore⟩ := h
  refine ⟨before, x, after, hxs, ?_, refusal?_eq_some_iff.mp hx⟩
  intro y hy
  exact refusal?_eq_none_iff.mp (hbefore y hy)

end Refusal

/-- What is wrong with a text as a value of the type: a date or a number that it does not name. -/
def FieldValue.faults (t : FieldType) (s : String) : List SearchError :=
  match t with
  | .date => if DateTime.ofText? s = none then [.invalidDate s] else []
  | .number =>
    if NumberValue.ofChars? (Text.trimChars s.toList) = none then [.invalidNumber s] else []
  | .string | .boolean => []

theorem FieldValue.refusal?_ofText (t : FieldType) (s : String) :
    refusal? (FieldValue.ofText s t) = (FieldValue.faults t s).head? := by
  cases t with
  | string => rfl
  | boolean => rfl
  | date =>
    rw [ofText, refusal?_map, DateTime.ofText, faults]
    cases DateTime.ofText? s <;> rfl
  | number =>
    rw [ofText, refusal?_map, NumberValue.ofText, faults]
    cases NumberValue.ofChars? (Text.trimChars s.toList) <;> rfl

theorem FieldValue.refusal?_map_ofText {β : Type} (t : FieldType) (s : String)
    (g : FieldValue → β) :
    refusal? ((FieldValue.ofText s t).map g) = (FieldValue.faults t s).head? := by
  rw [refusal?_map, refusal?_ofText]

theorem FieldValue.faults_eq_nil_iff (t : FieldType) (s : String) :
    FieldValue.faults t s = [] ↔ ∃ v, FieldValue.ofText s t = .ok v := by
  rw [← refusal?_eq_none_iff, refusal?_ofText, List.head?_eq_none_iff]

namespace Operator

def valueless : List Operator := [.blank, .notBlank]

def setwise : List Operator := [.oneOf, .noneOf]

theorem not_appliesTo_iff (op : Operator) (t : FieldType) :
    ¬op.AppliesTo t ↔
      op ∈ ordering ∧ (t = .string ∨ t = .boolean) ∨ op ∈ textual ∧ t ≠ .string := by
  cases op <;> cases t <;> decide

theorem appliesTo_of_valueless {op : Operator} (t : FieldType) (h : op ∈ valueless) :
    op.AppliesTo t := by
  revert h
  cases op <;> cases t <;> decide

end Operator

namespace Filter

/-- What is wrong with a value that a filter needs, and which may not be there. -/
def faultsOf (t : FieldType) (missing : SearchError) : Option String → List SearchError
  | none => [missing]
  | some s => FieldValue.faults t s

/-- What is wrong with the values that a filter needs, in the order in which it needs them. -/
def faults (t : FieldType) (f : Filter) : List SearchError :=
  match f.operator with
  | .blank | .notBlank => []
  | .oneOf | .noneOf => f.values.flatMap (FieldValue.faults t)
  | .between =>
    faultsOf t (.missingValue f.key .between) f.value ++
      faultsOf t (.missingUpperBound f.key) f.valueTo
  | op => faultsOf t (.missingValue f.key op) f.value

/-- Every value that the operator of a filter needs is there and is a text of the type. -/
@[mk_iff]
structure IsComplete (f : Filter) (t : FieldType) : Prop where
  value : f.operator ∉ Operator.valueless ++ Operator.setwise →
    ∃ s, f.value = some s ∧ ∃ v, FieldValue.ofText s t = .ok v
  upper : f.operator = .between → ∃ s, f.valueTo = some s ∧ ∃ v, FieldValue.ofText s t = .ok v
  values : f.operator ∈ Operator.setwise → ∀ s ∈ f.values, ∃ v, FieldValue.ofText s t = .ok v

theorem faultsOf_eq_nil_iff (t : FieldType) (missing : SearchError) (value : Option String) :
    faultsOf t missing value = [] ↔ ∃ s, value = some s ∧ ∃ v, FieldValue.ofText s t = .ok v := by
  cases value with
  | none => simp [faultsOf]
  | some s => simp [faultsOf, FieldValue.faults_eq_nil_iff]

theorem faults_eq_nil_iff (f : Filter) (t : FieldType) : f.faults t = [] ↔ f.IsComplete t := by
  rw [isComplete_iff, faults]
  -- Each operator settles which of the three conditions are asked for.
  cases f.operator <;>
    simp [Operator.valueless, Operator.setwise, faultsOf_eq_nil_iff, List.flatMap_eq_nil_iff,
      FieldValue.faults_eq_nil_iff]

theorem faults_of_valueless (f : Filter) (t : FieldType) (h : f.operator ∈ Operator.valueless) :
    f.faults t = [] := by
  unfold faults
  revert h
  cases f.operator <;> simp [Operator.valueless]

section Tests

variable (f : Filter) (t : FieldType)

theorem refusal?_comparing (c : Comparison) :
    refusal? (f.comparing t c) = (faultsOf t (.missingValue f.key f.operator) f.value).head? := by
  unfold comparing requiredValue
  cases f.value with
  | none => rfl
  | some s => exact FieldValue.refusal?_map_ofText t s (Predicate.compare f.key c)

theorem refusal?_equality :
    refusal? (f.equality t) = (faultsOf t (.missingValue f.key f.operator) f.value).head? := by
  have hcomparing := f.refusal?_comparing t .equal
  cases hvalue : f.value with
  | none =>
    rw [equality, requiredValue, hvalue]
    rfl
  | some s =>
    rw [hvalue] at hcomparing
    rw [equality_of_value t hvalue]
    cases hday : (if t = .date then DateTime.wholeDay? s else none) with
    | none => exact hcomparing
    | some day =>
      -- What stands for a whole day is a date, so a comparison would have read it as well.
      obtain ⟨first, last⟩ := day
      obtain ⟨rfl, hwhole⟩ : t = .date ∧ DateTime.wholeDay? s = some (first, last) := by
        split at hday
        · next ht => exact ⟨ht, hday⟩
        · cases hday
      have hread := DateTime.ofText?_of_wholeDay? hwhole
      simp only [refusal?, faultsOf, FieldValue.faults, hread, reduceCtorEq, if_false,
        List.head?_nil]

theorem refusal?_textTest (mode : TextMode) :
    refusal? (f.textTest mode) =
      (faultsOf .string (.missingValue f.key f.operator) f.value).head? := by
  unfold textTest requiredValue
  cases f.value <;> rfl

theorem refusal?_rangeTest :
    refusal? (f.rangeTest t) =
      (faultsOf t (.missingValue f.key f.operator) f.value ++
        faultsOf t (.missingUpperBound f.key) f.valueTo).head? := by
  unfold rangeTest requiredValue requiredUpper
  rw [List.head?_append]
  cases f.value with
  | none => rfl
  | some s =>
    change refusal? (FieldValue.ofText s t >>= _) = (FieldValue.faults t s).head?.or _
    rw [refusal?_bind, FieldValue.refusal?_ofText]
    -- The upper end is only asked for once the value has been read.
    cases hread : FieldValue.ofText s t with
    | error e =>
      rw [← FieldValue.refusal?_ofText, hread]
      rfl
    | ok lower =>
      congr 1
      cases f.valueTo with
      | none => rfl
      | some u => exact FieldValue.refusal?_map_ofText t u (Predicate.range f.key lower)

theorem refusal?_membershipTest :
    refusal? (f.membershipTest t) = (f.values.flatMap (FieldValue.faults t)).head? := by
  have hread := refusal?_map (Predicate.oneOf f.key)
    (f.values.mapM fun v => FieldValue.ofText v t)
  have hfirst : (fun v => refusal? (FieldValue.ofText v t)) =
      fun v => (FieldValue.faults t v).head? := funext fun v => FieldValue.refusal?_ofText t v
  rw [refusal?_mapM, hfirst, ← List.head?_flatMap] at hread
  exact hread

theorem refusal?_compile :
    refusal? (f.compile t) = if f.operator.AppliesTo t then (f.faults t).head? else none := by
  by_cases happlies : f.operator.AppliesTo t
  · rw [if_pos happlies]
    obtain ⟨hordered, htext⟩ := happlies
    -- The type is one for which the operator is tried.
    have hordering (h : f.operator ∈ Operator.ordering) : t.isOrdered = true := by
      rcases hordered h with rfl | rfl <;> rfl
    unfold compile faults
    cases hop : f.operator
    all_goals dsimp only
    case equals => rw [refusal?_map, refusal?_equality, hop]
    case notEquals => rw [refusal?_map, refusal?_comparing, hop]
    case lessThan | greaterThan =>
      rw [if_pos (hordering (by rw [hop]; decide)), refusal?_map, refusal?_comparing, hop]
    case between =>
      rw [if_pos (hordering (by rw [hop]; decide)), refusal?_map, refusal?_rangeTest, hop]
    case contains | startsWith | endsWith | notContains =>
      obtain rfl := htext (by rw [hop]; decide)
      rw [if_pos rfl, refusal?_map, refusal?_textTest, hop]
    case oneOf | noneOf => rw [refusal?_map, refusal?_membershipTest]
    case blank | notBlank => rfl
  · rw [if_neg happlies, refusal?_eq_none_iff]
    exact ⟨none, (f.compile_eq_none_iff t).mpr happlies⟩

theorem compile_eq_error_iff (e : SearchError) :
    f.compile t = .error e ↔ f.operator.AppliesTo t ∧ (f.faults t).head? = some e := by
  rw [← refusal?_eq_some_iff, refusal?_compile]
  by_cases happlies : f.operator.AppliesTo t <;> simp [happlies]

theorem compile_isSome_iff :
    (∃ p, f.compile t = .ok (some p)) ↔ f.operator.AppliesTo t ∧ f.IsComplete t := by
  rw [exists_some_iff, ne_eq, compile_eq_none_iff, not_not, refusal?_compile]
  apply and_congr_right
  intro happlies
  rw [if_pos happlies, List.head?_eq_none_iff, faults_eq_nil_iff]

end Tests

end Filter

namespace Criteria

variable (ds : List FilterDescriptor) (c : Criteria)

theorem refusal?_compile :
    refusal? (c.compile ds) =
      if c.page.size = 0 then some (.invalidPageSize 0)
      else c.filters.findSome? fun f => refusal? (f.compile (f.resolvedType ds)) := by
  unfold compile
  by_cases hsize : c.page.size = 0
  · rw [if_pos hsize, if_pos hsize]
    rfl
  · rw [if_neg hsize, if_neg hsize]
    have houtcome : (fun f : Filter => refusal? (f.outcome ds)) =
        fun f => refusal? (f.compile (f.resolvedType ds)) :=
      funext fun f => refusal?_map _ _
    rw [← houtcome, ← refusal?_mapM]
    exact refusal?_map _ (c.filters.mapM (Filter.outcome ds))

theorem compile_eq_error_iff (e : SearchError) :
    c.compile ds = .error e ↔
      c.page.size = 0 ∧ e = .invalidPageSize 0 ∨
      c.page.size ≠ 0 ∧ ∃ before f after, c.filters = before ++ f :: after ∧
        (∀ g ∈ before, g.Compiles ds) ∧ f.compile (f.resolvedType ds) = .error e := by
  rw [← refusal?_eq_some_iff, refusal?_compile]
  by_cases hsize : c.page.size = 0
  · simp [hsize, eq_comm]
  · simp only [hsize, if_false, false_and, ne_eq, not_false_eq_true, true_and, false_or,
      List.findSome?_eq_some_iff, refusal?_eq_some_iff, refusal?_eq_none_iff, Filter.Compiles]
    constructor
    · rintro ⟨before, f, after, hfilters, herror, hbefore⟩
      exact ⟨before, f, after, hfilters, hbefore, herror⟩
    · rintro ⟨before, f, after, hfilters, hbefore, herror⟩
      exact ⟨before, f, after, hfilters, herror, hbefore⟩

theorem compile_isError_iff :
    (∃ e, c.compile ds = .error e) ↔
      c.page.size = 0 ∨ ∃ f ∈ c.filters, ∃ e, f.compile (f.resolvedType ds) = .error e := by
  have hok : (∃ e, c.compile ds = .error e) ↔ refusal? (c.compile ds) ≠ none := by
    simp only [← refusal?_eq_some_iff, Option.ne_none_iff_exists']
  rw [hok, refusal?_compile]
  by_cases hsize : c.page.size = 0
  · simp [hsize]
  · simp only [hsize, if_false, false_or, ne_eq, List.findSome?_eq_none_iff, not_forall,
      ← refusal?_eq_some_iff, exists_prop]
    simp only [← ne_eq, Option.ne_none_iff_exists']

end Criteria

/-- What becomes of filters and requests. A filter is dropped if its operator compares by an order
and its field holds texts or truth values, or looks for a part of a text and its field holds no
texts, whatever its values are. A filter that is not dropped is kept if its values are complete, and
else refused for the first of its faults; one that only asks whether the field is blank is always
kept. A request is refused for an empty page before all else, and then for its first filter that is
refused, also behind filters that are dropped. -/
theorem compile_reports_first_fault :
    (∀ (f : Filter) (t : FieldType),
      (f.compile t = .ok none ↔
        f.operator ∈ Operator.ordering ∧ (t = .string ∨ t = .boolean) ∨
        f.operator ∈ Operator.textual ∧ t ≠ .string) ∧
      ((∃ p, f.compile t = .ok (some p)) ↔ f.compile t ≠ .ok none ∧ f.IsComplete t) ∧
      (∀ e, f.compile t = .error e ↔
        f.compile t ≠ .ok none ∧ (f.faults t).head? = some e) ∧
      (f.operator ∈ Operator.valueless → ∃ p, f.compile t = .ok (some p))) ∧
    ∀ (ds : List FilterDescriptor) (c : Criteria),
      ((∃ e, c.compile ds = .error e) ↔
        c.page.size = 0 ∨ ∃ f ∈ c.filters, ∃ e, f.compile (f.resolvedType ds) = .error e) ∧
      ∀ e, c.compile ds = .error e ↔
        c.page.size = 0 ∧ e = .invalidPageSize 0 ∨
        c.page.size ≠ 0 ∧ ∃ before f after, c.filters = before ++ f :: after ∧
          (∀ g ∈ before, ∃ p, g.compile (g.resolvedType ds) = .ok p) ∧
          f.compile (f.resolvedType ds) = .error e := by
  constructor
  · intro f t
    -- To be kept or refused is to apply, since a filter is dropped just when it does not apply.
    have hkept : f.compile t ≠ .ok none ↔ f.operator.AppliesTo t := by
      rw [ne_eq, f.compile_eq_none_iff t, not_not]
    refine ⟨?_, ?_, ?_, ?_⟩
    · rw [f.compile_eq_none_iff t, Operator.not_appliesTo_iff]
    · rw [hkept]
      exact f.compile_isSome_iff t
    · intro e
      rw [hkept]
      exact f.compile_eq_error_iff t e
    · intro hvalueless
      rw [f.compile_isSome_iff t]
      refine ⟨Operator.appliesTo_of_valueless t hvalueless, ?_⟩
      rw [← f.faults_eq_nil_iff, f.faults_of_valueless t hvalueless]
  · intro ds c
    exact ⟨c.compile_isError_iff ds, fun e => c.compile_eq_error_iff ds e⟩

end CriteriaSearch
