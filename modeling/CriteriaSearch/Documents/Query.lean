import CriteriaSearch.Compiled
import CriteriaSearch.Documents.Bson

/-!
# Predicates as document queries

A predicate becomes a filter document of a store whose tests have two truth values: a test of a
missing field does not hold, and a negation of it does. The empty filter holds of every document.
-/

namespace CriteriaSearch.Documents

def patternSigns : List Char := "\\.+*?()|[]\x7b\x7d^$#&-~".toList

def escapePattern (cs : List Char) : List Char :=
  cs.flatMap fun c => if patternSigns.contains c then ['\\', c] else [c]

def pattern (mode : TextMode) (text : String) : String :=
  let escaped := escapePattern text.toList
  String.ofList <|
    match mode with
    | .contains => escaped
    | .startsWith => '^' :: escaped
    | .endsWith => escaped ++ ['$']

def comparisonOperator : Comparison → String
  | .equal => "$eq"
  | .notEqual => "$ne"
  | .less => "$lt"
  | .greater => "$gt"

mutual

def filter : Predicate → Document
  | .and [] => []
  | .and (p :: ps) => [("$and", .array (.document (filter p) :: filters ps))]
  | .or [] => [("$nor", .array [.document []])]
  | .or (p :: ps) => [("$or", .array (.document (filter p) :: filters ps))]
  | .not part => [("$nor", .array [.document (filter part)])]
  | .compare field c value =>
    [(field, .document [(comparisonOperator c, .ofValue value)])]
  | .range field lower upper =>
    [(field, .document [("$gte", .ofValue lower), ("$lte", .ofValue upper)])]
  | .oneOf field values => [(field, .document [("$in", .array (values.map .ofValue))])]
  | .textMatch field mode text =>
    [(field, .document [("$regex", .text (pattern mode text)), ("$options", .text "i")])]
  | .isNull field => [(field, .null)]
  | .isNotNull field => [(field, .document [("$ne", .null)])]

def filters : List Predicate → List Bson
  | [] => []
  | p :: ps => .document (filter p) :: filters ps

end

def directionSign : Direction → Bson
  | .ascending => .int32 1
  | .descending => .int32 (-1)

/-- The sort document of some sorts. A key that comes again keeps its place. -/
def sortDocument (sorts : List TypedSort) : Document :=
  sorts.foldl (fun d s => d.set s.key (directionSign s.direction)) []

structure Query where
  filter : Document
  sort : Document
  skip : Nat
  limit : Nat
  deriving Repr

def Query.build (c : Compiled) : Query where
  filter := match c.predicate with
    | some p => Documents.filter p
    | none => []
  sort := sortDocument c.sorts
  skip := c.page.offset
  limit := c.page.size.toNat

end CriteriaSearch.Documents
