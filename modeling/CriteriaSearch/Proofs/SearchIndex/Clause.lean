import CriteriaSearch.Proofs.SearchIndex.Wildcard

/-!
# Query clauses

The clauses that an index reads and what they say of a document, while the index decides which of
the values that are there a test finds. What is not among these clauses has no meaning here.
-/

namespace CriteriaSearch.SearchIndex

inductive Bound where
  | below
  | above
  | atLeast
  | atMost
  deriving DecidableEq, Repr

def Bound.ofName? : String → Option Bound
  | "lt" => some .below
  | "gt" => some .above
  | "gte" => some .atLeast
  | "lte" => some .atMost
  | _ => none

/-- What a clause asks of the value of a field. -/
inductive Test where
  | term (value : Json)
  | terms (values : List Json)
  | range (bounds : List (Bound × Json))
  | wildcard (pattern : Wildcard) (anyCase : Bool)
  | present

inductive Clause where
  | matchAll
  | matchNone
  | allOf (clauses : List Clause)
  | anyOf (clauses : List Clause)
  | noneOf (clauses : List Clause)
  | leaf (field : String) (test : Test)

def Test.ofJson? (name : String) (asked : Json) : Option Test :=
  match name, asked with
  | "term", v => some (.term v)
  | "terms", .array vs => some (.terms vs)
  | "range", .object bounds => do
    let bounds ← bounds.mapM fun (name, v) => (Bound.ofName? name).map (·, v)
    return .range bounds
  | "wildcard", .object [("value", .text s), ("case_insensitive", .boolean b)] => do
    let pattern : Wildcard ← Text.Parsed.ofText? s
    return .wildcard pattern b
  | _, _ => none

namespace Clause

def simple? (name : String) (body : List (String × Json)) : Option Clause :=
  match name, body with
  | "match_all", [] => some .matchAll
  | "match_none", [] => some .matchNone
  | "exists", [("field", .text field)] => some (.leaf field .present)
  | _, [(field, asked)] => (Test.ofJson? name asked).map (.leaf field)
  | _, _ => none

mutual

def ofJson? : Json → Option Clause
  | .object [("bool", .object [("filter", .array clauses)])] => (ofJsons? clauses).map .allOf
  | .object [("bool", .object [("should", .array clauses),
      ("minimum_should_match", .integer 1)])] => (ofJsons? clauses).map .anyOf
  | .object [("bool", .object [("must_not", .array clauses)])] => (ofJsons? clauses).map .noneOf
  | .object [(name, .object body)] => simple? name body
  | _ => none

def ofJsons? : List Json → Option (List Clause)
  | [] => some []
  | c :: cs => do
    let first ← ofJson? c
    let others ← ofJsons? cs
    return first :: others

end

mutual

/-- The tests of a clause from left to right, with the fields that they ask for. -/
def tests : Clause → List (String × Test)
  | .matchAll => []
  | .matchNone => []
  | .allOf clauses => testsOf clauses
  | .anyOf clauses => testsOf clauses
  | .noneOf clauses => testsOf clauses
  | .leaf field test => [(field, test)]

def testsOf : List Clause → List (String × Test)
  | [] => []
  | c :: cs => tests c ++ testsOf cs

end
end Clause

/-- What an index decides: which stored values are texts, and which of them the tests find. -/
structure Interpretation (α : Type) where
  isText : α → Bool
  term : Json → α → Bool
  terms : List Json → α → Bool
  range : List (Bound × Json) → α → Bool
  wildcard : Wildcard → Bool → α → Bool

namespace Interpretation

variable {α : Type} (i : Interpretation α) (fields : String → Option α)

/-- A test holds of the value of a field. No test holds of a field without a value. -/
def testHolds (stored : Option α) : Test → Bool
  | .term v => stored.any (i.term v)
  | .terms vs => stored.any (i.terms vs)
  | .range bounds => stored.any (i.range bounds)
  | .wildcard pattern anyCase => stored.any (i.wildcard pattern anyCase)
  | .present => stored.isSome

mutual

def holds : Clause → Bool
  | .matchAll => true
  | .matchNone => false
  | .allOf clauses => allHold clauses
  | .anyOf clauses => anyHolds clauses
  | .noneOf clauses => !anyHolds clauses
  | .leaf field test => i.testHolds (fields field) test

def allHold : List Clause → Bool
  | [] => true
  | c :: cs => holds c && allHold cs

def anyHolds : List Clause → Bool
  | [] => false
  | c :: cs => holds c || anyHolds cs

end

end Interpretation

end CriteriaSearch.SearchIndex
