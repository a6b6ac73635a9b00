import CriteriaSearch.Text.Upper

namespace CriteriaSearch

/-- The type of a searchable field. It decides how the values of a filter are read. -/
inductive FieldType where
  | string
  | number
  | date
  | boolean
  deriving DecidableEq, Repr

inductive Operator where
  | equals
  | notEquals
  | lessThan
  | greaterThan
  | contains
  | notContains
  | startsWith
  | endsWith
  | oneOf
  | noneOf
  | between
  | blank
  | notBlank
  deriving DecidableEq, Repr

inductive Direction where
  | ascending
  | descending
  deriving DecidableEq, Repr

namespace FieldType

def all : List FieldType := [.string, .number, .date, .boolean]

def name : FieldType → String
  | .string => "STRING"
  | .number => "NUMBER"
  | .date => "DATE"
  | .boolean => "BOOLEAN"

/-- Ranges and the order comparisons apply to fields of this type. -/
def isOrdered : FieldType → Bool
  | .number | .date => true
  | .string | .boolean => false

def ofName? (s : String) : Option FieldType := all.find? (fun t => t.name == s)

def ofAnyCase? (s : String) : Option FieldType := ofName? (Text.upper s)

end FieldType

namespace Operator

def all : List Operator :=
  [.equals, .notEquals, .lessThan, .greaterThan, .contains, .notContains, .startsWith, .endsWith,
    .oneOf, .noneOf, .between, .blank, .notBlank]

def name : Operator → String
  | .equals => "EQUALS"
  | .notEquals => "NOT_EQUALS"
  | .lessThan => "LESS_THAN"
  | .greaterThan => "GREATER_THAN"
  | .contains => "CONTAINS"
  | .notContains => "NOT_CONTAINS"
  | .startsWith => "STARTS_WITH"
  | .endsWith => "ENDS_WITH"
  | .oneOf => "IN"
  | .noneOf => "NOT_IN"
  | .between => "BETWEEN"
  | .blank => "BLANK"
  | .notBlank => "NOT_BLANK"

def ofName? (s : String) : Option Operator := all.find? (fun op => op.name == s)

def ofAnyCase? (s : String) : Option Operator := ofName? (Text.upper s)

def defaults : FieldType → List Operator
  | .string =>
    [.equals, .notEquals, .contains, .notContains, .startsWith, .endsWith, .oneOf, .noneOf]
  | .number | .date | .boolean =>
    [.equals, .notEquals, .lessThan, .greaterThan, .oneOf, .noneOf, .between]

/-- The operators of a list without repetition and in their fixed order. -/
def normalize (ops : List Operator) : List Operator := all.filter (fun op => ops.contains op)

theorem mem_all (op : Operator) : op ∈ all := by cases op <;> decide

theorem mem_normalize {op : Operator} {ops : List Operator} :
    op ∈ normalize ops ↔ op ∈ ops := by
  simp [normalize, mem_all]

theorem normalize_normalize (ops : List Operator) :
    normalize (normalize ops) = normalize ops := by
  apply List.filter_congr
  intro op _
  simp [mem_normalize]

theorem normalize_defaults (t : FieldType) : normalize (defaults t) = defaults t := by
  cases t <;> decide

end Operator

namespace Direction

def name : Direction → String
  | .ascending => "ASC"
  | .descending => "DESC"

/-- The direction with this name, all in upper or all in lower case. -/
def ofName? (s : String) : Option Direction :=
  if s = "ASC" ∨ s = "asc" then some .ascending
  else if s = "DESC" ∨ s = "desc" then some .descending
  else none

def ofAnyCase? (s : String) : Option Direction :=
  if Text.upper s = "ASC" then some .ascending
  else if Text.upper s = "DESC" then some .descending
  else none

def apply (d : Direction) (o : Ordering) : Ordering :=
  match d with
  | .ascending => o
  | .descending => o.swap

end Direction

end CriteriaSearch
