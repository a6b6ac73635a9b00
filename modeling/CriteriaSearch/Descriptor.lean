import CriteriaSearch.Json.Record
import CriteriaSearch.SearchError
import CriteriaSearch.Text.Blank

namespace CriteriaSearch

structure FilterDescriptor where
  key : String
  fieldType : FieldType
  nullable : Bool
  operators : List Operator
  key_not_blank : Text.isBlankText key = false
  operators_ne_nil : operators ≠ []
  operators_normal : Operator.normalize operators = operators
  deriving DecidableEq, Repr

namespace FilterDescriptor

/-- The descriptor with the given parts. A blank key is refused first, then a missing field type,
then an empty list of operators. -/
def make (key : String) (fieldType : Option FieldType) (nullable : Bool)
    (operators : List Operator) : Except SearchError FilterDescriptor :=
  if hk : Text.isBlankText key = false then
    match fieldType with
    | none => .error (.missingFieldType key)
    | some t =>
      if ho : Operator.normalize operators ≠ [] then
        .ok ⟨key, t, nullable, Operator.normalize operators, hk, ho,
          Operator.normalize_normalize operators⟩
      else .error (.noOperators key)
  else .error .blankKey

def withDefaults (key : String) (fieldType : FieldType) (nullable : Bool) :
    Except SearchError FilterDescriptor :=
  make key (some fieldType) nullable (Operator.defaults fieldType)

def supports (d : FilterDescriptor) (op : Operator) : Bool := d.operators.contains op

def toJson (d : FilterDescriptor) : Json :=
  .object [
    ("key", .text d.key),
    ("fieldType", .text d.fieldType.name),
    ("nullable", .boolean d.nullable),
    ("availableOperators", .array (d.operators.map fun op => .text op.name))]

def fieldTypeOfJson? (j : Json) : Option FieldType := j.choice?.bind FieldType.ofName?

def operatorOfJson? (j : Json) : Option Operator := j.choice?.bind Operator.ofName?

def ofJson? (j : Json) : Option FilterDescriptor := do
  match ← j.slots? ["key", "fieldType", "nullable", "availableOperators"] with
  | [key, fieldType, nullable, operators] =>
    let key ← key.required Json.text?
    let fieldType ← fieldType.nullable fieldTypeOfJson?
    let nullable ← nullable.orElse false Json.boolean?
    let operators ← operators.orElse [] (Json.list? operatorOfJson?)
    (make key fieldType nullable operators).toOption
  | _ => none

end FilterDescriptor

end CriteriaSearch
