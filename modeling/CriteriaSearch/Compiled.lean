import CriteriaSearch.Criteria
import CriteriaSearch.Descriptor
import CriteriaSearch.Predicate
import CriteriaSearch.Value.Reader

/-!
# Compiled criteria

Search criteria are compiled against the descriptors of an entity: every filter becomes a predicate
on typed values, and the query over all text fields becomes a test of each of them. A filter whose
operator does not apply to the type of its field is dropped and noted. Every negation also asks for
the field to be present, so that stores with and without a third truth value agree.
-/

namespace CriteriaSearch

/-- A filter whose operator does not apply to its field type. -/
structure DroppedFilter where
  key : String
  operator : Operator
  fieldType : FieldType
  deriving DecidableEq, Repr

structure TypedSort where
  key : String
  direction : Direction
  fieldType : FieldType
  deriving DecidableEq, Repr

structure Compiled where
  predicate : Option Predicate
  sorts : List TypedSort
  page : PageRequest
  dropped : List DroppedFilter

namespace Filter

def requiredValue (f : Filter) : Except SearchError String :=
  match f.value with
  | some v => .ok v
  | none => .error (.missingValue f.key f.operator)

def requiredUpper (f : Filter) : Except SearchError String :=
  match f.valueTo with
  | some v => .ok v
  | none => .error (.missingUpperBound f.key)

def comparing (f : Filter) (t : FieldType) (c : Comparison) : Except SearchError Predicate := do
  let raw ← f.requiredValue
  let value ← FieldValue.ofText raw t
  return .compare f.key c value

/-- The field equals the value of the filter; a date alone stands for all of its day. -/
def equality (f : Filter) (t : FieldType) : Except SearchError Predicate := do
  let raw ← f.requiredValue
  match (if t = .date then DateTime.wholeDay? raw else none) with
  | some (first, last) => return .range f.key (.dateTime first) (.dateTime last)
  | none => f.comparing t .equal

def rangeTest (f : Filter) (t : FieldType) : Except SearchError Predicate := do
  let lower ← FieldValue.ofText (← f.requiredValue) t
  let upper ← FieldValue.ofText (← f.requiredUpper) t
  return .range f.key lower upper

def textTest (f : Filter) (mode : TextMode) : Except SearchError Predicate := do
  return .textMatch f.key mode (← f.requiredValue)

def membershipTest (f : Filter) (t : FieldType) : Except SearchError Predicate := do
  return .oneOf f.key (← f.values.mapM fun v => FieldValue.ofText v t)

/-- The predicate of a filter on a field of the given type; none if the operator does not apply to
the type. -/
def compile (f : Filter) (t : FieldType) : Except SearchError (Option Predicate) :=
  match f.operator with
  | .equals => (f.equality t).map some
  | .notEquals => (f.comparing t .notEqual).map fun p => some (.and [.isNotNull f.key, p])
  | .lessThan => if t.isOrdered then (f.comparing t .less).map some else .ok none
  | .greaterThan => if t.isOrdered then (f.comparing t .greater).map some else .ok none
  | .between => if t.isOrdered then (f.rangeTest t).map some else .ok none
  | .contains => if t = .string then (f.textTest .contains).map some else .ok none
  | .startsWith => if t = .string then (f.textTest .startsWith).map some else .ok none
  | .endsWith => if t = .string then (f.textTest .endsWith).map some else .ok none
  | .notContains =>
    if t = .string then
      (f.textTest .contains).map fun p => some (.presentAndNot f.key p)
    else .ok none
  | .oneOf => (f.membershipTest t).map some
  | .noneOf => (f.membershipTest t).map fun p => some (.presentAndNot f.key p)
  | .blank =>
    .ok <| some <|
      if t = .string then .or [.isNull f.key, .compare f.key .equal (.text "")]
      else .isNull f.key
  | .notBlank =>
    .ok <| some <|
      if t = .string then .and [.isNotNull f.key, .compare f.key .notEqual (.text "")]
      else .isNotNull f.key

end Filter

/-- The type of a field: that of the first descriptor with its key, and text for unknown keys. -/
def resolveFieldType (ds : List FilterDescriptor) (key : String) : FieldType :=
  match ds.find? (fun d => d.key == key) with
  | some d => d.fieldType
  | none => .string

def Filter.resolvedType (ds : List FilterDescriptor) (f : Filter) : FieldType :=
  f.fieldType.getD (resolveFieldType ds f.key)

inductive FilterOutcome where
  | term (predicate : Predicate)
  | dropped (filter : DroppedFilter)

namespace FilterOutcome

def term? : FilterOutcome → Option Predicate
  | .term p => some p
  | .dropped _ => none

def dropped? : FilterOutcome → Option DroppedFilter
  | .term _ => none
  | .dropped d => some d

end FilterOutcome

def Filter.outcome (ds : List FilterDescriptor) (f : Filter) : Except SearchError FilterOutcome :=
  (f.compile (f.resolvedType ds)).map fun
    | some p => .term p
    | none => .dropped ⟨f.key, f.operator, f.resolvedType ds⟩

/-- Some text field holds the query; none if the entity has no text fields. -/
def fullTextPredicate (ds : List FilterDescriptor) (query : String) : Option Predicate :=
  Predicate.any <|
    (ds.filter fun d => d.fieldType == .string).map fun d => .textMatch d.key .contains query

namespace Criteria

def typedSorts (ds : List FilterDescriptor) (c : Criteria) : List TypedSort :=
  c.sorts.map fun s => ⟨s.key, s.direction, resolveFieldType ds s.key⟩

def fullTextTerm (ds : List FilterDescriptor) (c : Criteria) : List Predicate :=
  ((c.activeQuery?).bind (fullTextPredicate ds)).toList

/-- Compiles a request. An empty page is refused first, then the first filter without
a meaning. -/
def compile (ds : List FilterDescriptor) (c : Criteria) : Except SearchError Compiled := do
  if c.page.size = 0 then throw (.invalidPageSize 0)
  let outcomes ← c.filters.mapM (Filter.outcome ds)
  return {
    predicate := Predicate.all (outcomes.filterMap FilterOutcome.term? ++ c.fullTextTerm ds)
    sorts := c.typedSorts ds
    page := c.page
    dropped := outcomes.filterMap FilterOutcome.dropped? }

end Criteria

end CriteriaSearch
