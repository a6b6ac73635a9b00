import CriteriaSearch.Compiled
import CriteriaSearch.Json.Basic

/-!
# Predicates as index queries

A predicate becomes a query clause of a search index. An index keeps a text field twice, as words
and as a whole; the whole text has the name of the field with a suffix. Equality, sets and text
matches ask for the whole text.
-/

namespace CriteriaSearch.SearchIndex

structure Query where
  index : String
  body : Json
  deriving Repr

structure Dialect where
  index : String
  /-- The suffix of the field that holds a text as a whole. -/
  keywordSuffix : String
  trackTotalHits : Bool
  deriving DecidableEq, Repr

def Dialect.standard (index : String) : Dialect := ⟨index, ".keyword", true⟩

def escapeWildcardChars (cs : List Char) : List Char :=
  cs.flatMap fun c => if c = '\\' ∨ c = '*' ∨ c = '?' then ['\\', c] else [c]

def escapeWildcard (s : String) : String := String.ofList (escapeWildcardChars s.toList)

def pattern (mode : TextMode) (text : String) : String :=
  let escaped := escapeWildcardChars text.toList
  String.ofList <|
    match mode with
    | .contains => '*' :: escaped ++ ['*']
    | .startsWith => escaped ++ ['*']
    | .endsWith => '*' :: escaped

/-- A number as JSON; one that is not finite is null. -/
def numberToJson (n : NumberValue) : Json :=
  match n.toInt? with
  | some i => .integer i
  | none => if n.toDouble.isFinite then .float n.toDouble else .null

/-- A value as a query gives it; dates are texts in milliseconds. -/
def valueToJson : FieldValue → Json
  | .text s => .text s
  | .number n => numberToJson n
  | .dateTime t => .text t.millisText
  | .boolean b => .boolean b

def single (name : String) (value : Json) : Json := .object [(name, value)]

def matchAll : Json := single "match_all" (.object [])

def matchNone : Json := single "match_none" (.object [])

def mustNot (clauses : List Json) : Json := single "bool" (single "must_not" (.array clauses))

def existsClause (field : String) : Json := single "exists" (single "field" (.text field))

namespace Dialect

def keyword (d : Dialect) (field : String) : String := field ++ d.keywordSuffix

def exactField (d : Dialect) (field : String) (value : FieldValue) : String :=
  match value with
  | .text _ => d.keyword field
  | _ => field

def comparison (d : Dialect) (field : String) (c : Comparison) (value : FieldValue) : Json :=
  let v := valueToJson value
  let term := single "term" (single (d.exactField field value) v)
  match c with
  | .equal => term
  | .notEqual => mustNot [term]
  | .less => single "range" (single field (single "lt" v))
  | .greater => single "range" (single field (single "gt" v))

mutual

def clause (d : Dialect) : Predicate → Json
  | .and [] => matchAll
  | .and (p :: ps) => single "bool" (single "filter" (.array (d.clause p :: d.clauses ps)))
  | .or [] => matchNone
  | .or (p :: ps) =>
    single "bool" (.object [("should", .array (d.clause p :: d.clauses ps)),
      ("minimum_should_match", .integer 1)])
  | .not part => mustNot [d.clause part]
  | .compare field c value => d.comparison field c value
  | .range field lower upper =>
    single "range" (single field (.object [("gte", valueToJson lower),
      ("lte", valueToJson upper)]))
  | .oneOf _ [] => matchNone
  | .oneOf field (v :: vs) =>
    single "terms" (single (d.exactField field v) (.array ((v :: vs).map valueToJson)))
  | .textMatch field mode text =>
    single "wildcard" (single (d.keyword field) (.object [
      ("value", .text (pattern mode text)), ("case_insensitive", .boolean true)]))
  | .isNull field => mustNot [existsClause field]
  | .isNotNull field => existsClause field

def clauses (d : Dialect) : List Predicate → List Json
  | [] => []
  | p :: ps => d.clause p :: d.clauses ps

end

/-- The clause of a sort: missing values come first where it ascends and last where it descends. -/
def sortClause (d : Dialect) (s : TypedSort) : Json :=
  let field := if s.fieldType = .string then d.keyword s.key else s.key
  let (order, missing) := match s.direction with
    | .ascending => ("asc", "_first")
    | .descending => ("desc", "_last")
  single field (.object [("order", .text order), ("missing", .text missing)])

def build (d : Dialect) (c : Compiled) : Query where
  index := d.index
  body :=
    let query := match c.predicate with
      | some p => single "bool" (single "filter" (.array [d.clause p]))
      | none => matchAll
    .ofFields [
      ("query", some query),
      ("from", some (.integer c.page.offset)),
      ("size", some (.integer c.page.size.toNat)),
      ("track_total_hits", some (.boolean d.trackTotalHits)),
      ("sort", if c.sorts = [] then none else some (.array (c.sorts.map d.sortClause)))]

end Dialect

end CriteriaSearch.SearchIndex
