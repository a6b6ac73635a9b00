import CriteriaSearch.Value

namespace CriteriaSearch

inductive Comparison where
  | equal
  | notEqual
  | less
  | greater
  deriving DecidableEq, Repr

inductive TextMode where
  | contains
  | startsWith
  | endsWith
  deriving DecidableEq, Repr

inductive Predicate where
  | and (parts : List Predicate)
  | or (parts : List Predicate)
  | not (part : Predicate)
  | compare (field : String) (comparison : Comparison) (value : FieldValue)
  /-- The field lies between two values or equals one of them. -/
  | range (field : String) (lower upper : FieldValue)
  | oneOf (field : String) (values : List FieldValue)
  /-- The field holds the text, whatever the case of letters. -/
  | textMatch (field : String) (mode : TextMode) (text : String)
  | isNull (field : String)
  | isNotNull (field : String)
  deriving Repr

namespace Predicate

def presentAndNot (field : String) (part : Predicate) : Predicate :=
  .and [.isNotNull field, .not part]

def conjuncts : Predicate → List Predicate
  | .and parts => parts
  | p => [p]

/-- The conjunction of some predicates, of which conjunctions are taken apart. Nothing is left of
no terms, and a single term stands for itself. -/
def all (ps : List Predicate) : Option Predicate :=
  match ps.flatMap conjuncts with
  | [] => none
  | [p] => some p
  | terms => some (.and terms)

def any : List Predicate → Option Predicate
  | [] => none
  | [p] => some p
  | terms => some (.or terms)

mutual

/-- The fields of the tests of a predicate from left to right, with repetitions. -/
def leafFields : Predicate → List String
  | .and parts => leafFieldsOf parts
  | .or parts => leafFieldsOf parts
  | .not part => leafFields part
  | .compare field _ _ => [field]
  | .range field _ _ => [field]
  | .oneOf field _ => [field]
  | .textMatch field _ _ => [field]
  | .isNull field => [field]
  | .isNotNull field => [field]

def leafFieldsOf : List Predicate → List String
  | [] => []
  | p :: ps => leafFields p ++ leafFieldsOf ps

end

/-- The fields that a predicate names, each once, in the order of their first occurrence. -/
def fields (p : Predicate) : List String := p.leafFields.eraseDups

end Predicate

end CriteriaSearch
