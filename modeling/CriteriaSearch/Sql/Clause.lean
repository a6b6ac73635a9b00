import CriteriaSearch.Compiled
import CriteriaSearch.Sql.Cell
import CriteriaSearch.Sql.Like
import CriteriaSearch.Text.Upper

/-!
# Predicates as SQL

A predicate becomes a condition in SQL, in which each value stands as a numbered parameter. The
tokens of the condition do not depend on the values, only on their kinds and their number. Texts are
compared in upper case, dates as texts in milliseconds, and booleans as zero and one.
-/

namespace CriteriaSearch.Sql

inductive Param where
  | text (value : String)
  | integer (value : Int)
  | float (value : Double)
  | null
  deriving DecidableEq, Repr

namespace Param

def ofValue : FieldValue → Param
  | .text s => .text s
  | .number n =>
    match n.toInt? with
    | some i => .integer i
    | none => .float n.toDouble
  | .dateTime t => .text t.millisText
  | .boolean b => .integer (if b then 1 else 0)

/-- The cell that a parameter binds; an undefined number binds as missing. -/
def cell : Param → Cell
  | .text s => .text s
  | .integer n => .integer n
  | .float .nan => .null
  | .float x => .real x
  | .null => .null

def pattern (mode : TextMode) (text : String) : Param :=
  let escaped := Text.upperChars (escapePattern text.toList)
  .text <| String.ofList <|
    match mode with
    | .contains => '%' :: escaped ++ ['%']
    | .startsWith => escaped ++ ['%']
    | .endsWith => '%' :: escaped

end Param

def comparisonSign : Comparison → String
  | .equal => "="
  | .notEqual => "<>"
  | .less => "<"
  | .greater => ">"

def momentFormat : String := "%Y-%m-%dT%H:%M:%f"

/-- A field as it is compared with a value: a field of dates as text in milliseconds. -/
def fieldTokens (field : String) (value : FieldValue) : List Token :=
  match value with
  | .dateTime _ =>
    [.name "strftime", .symbol "(", .text momentFormat, .symbol ",", .quoted field, .symbol ")"]
  | _ => [.quoted field]

def falseTokens : List Token := [.number "0", .symbol "=", .number "1"]

def trueTokens : List Token := [.number "1", .symbol "=", .number "1"]

def paramTokens (k n : Nat) : List Token :=
  Token.joined [.symbol ","] ((List.range n).map fun i => [.param (k + i + 1)])

mutual

def params : Predicate → List Param
  | .and parts => paramsOfAll parts
  | .or parts => paramsOfAll parts
  | .not part => params part
  | .compare _ _ value => [.ofValue value]
  | .range _ lower upper => [.ofValue lower, .ofValue upper]
  | .oneOf _ values => values.map .ofValue
  | .textMatch _ mode text => [.pattern mode text]
  | .isNull _ => []
  | .isNotNull _ => []

def paramsOfAll : List Predicate → List Param
  | [] => []
  | p :: ps => params p ++ paramsOfAll ps

end

mutual

/-- The condition of a predicate, whose parameters follow `k` others. -/
def clause (k : Nat) : Predicate → List Token
  | .and [] => trueTokens
  | .and (p :: ps) => Token.parens (clause k p) ++ clauseRest "AND" (k + (params p).length) ps
  | .or [] => falseTokens
  | .or (p :: ps) => Token.parens (clause k p) ++ clauseRest "OR" (k + (params p).length) ps
  | .not part => .keyword "NOT" :: Token.parens (clause k part)
  | .compare field c value =>
    fieldTokens field value ++ [.symbol (comparisonSign c), .param (k + 1)]
  | .range field lower _ =>
    fieldTokens field lower ++
      [.keyword "BETWEEN", .param (k + 1), .keyword "AND", .param (k + 2)]
  | .oneOf _ [] => falseTokens
  | .oneOf field (v :: vs) =>
    fieldTokens field v ++ .keyword "IN" :: Token.parens (paramTokens k (vs.length + 1))
  | .textMatch field _ _ =>
    [.name "unicode_upper", .symbol "(", .quoted field, .symbol ")", .keyword "LIKE",
      .param (k + 1), .keyword "ESCAPE", .text "\\"]
  | .isNull field => [.quoted field, .keyword "IS", .keyword "NULL"]
  | .isNotNull field => [.quoted field, .keyword "IS", .keyword "NOT", .keyword "NULL"]

def clauseRest (word : String) (k : Nat) : List Predicate → List Token
  | [] => []
  | p :: ps =>
    .keyword word :: Token.parens (clause k p) ++ clauseRest word (k + (params p).length) ps

end

structure Fragment where
  text : String
  params : List Param
  deriving DecidableEq, Repr

namespace Fragment

def addParam (f : Fragment) (p : Param) : String × Fragment :=
  (String.ofList (Token.param (f.params.length + 1)).chars, { f with params := f.params ++ [p] })

/-- The condition of a predicate after the parameters of a fragment, and the fragment with the
parameters of the predicate added. -/
def lower (f : Fragment) (p : Predicate) : String × Fragment :=
  (String.ofList (Token.render (clause f.params.length p)),
    { f with params := f.params ++ Sql.params p })

end Fragment

structure Query where
  select : Fragment
  count : Fragment
  deriving DecidableEq, Repr

/-- The key of a sort: missing values come first where it ascends and last where it descends. -/
def sortTokens (s : TypedSort) : List Token :=
  .quoted s.key ::
    match s.direction with
    | .ascending => [.keyword "ASC", .keyword "NULLS", .keyword "FIRST"]
    | .descending => [.keyword "DESC", .keyword "NULLS", .keyword "LAST"]

def orderTokens (sorts : List TypedSort) : List Token :=
  if sorts = [] then []
  else .keyword "ORDER" :: .keyword "BY" :: Token.joined [.symbol ","] (sorts.map sortTokens)

def largestInteger : Nat := 9223372036854775807

namespace Query

def whereTokens (c : Compiled) : List Token :=
  match c.predicate with
  | some p => .keyword "WHERE" :: clause 0 p
  | none => []

def whereParams (c : Compiled) : List Param :=
  match c.predicate with
  | some p => Sql.params p
  | none => []

def countTokens (table : String) (c : Compiled) : List Token :=
  [.keyword "SELECT", .name "COUNT", .symbol "(", .symbol "*", .symbol ")", .keyword "FROM",
    .quoted table] ++ whereTokens c

def selectTokens (table : String) (c : Compiled) : List Token :=
  let k := (whereParams c).length
  [.keyword "SELECT", .symbol "*", .keyword "FROM", .quoted table] ++ whereTokens c ++
    orderTokens c.sorts ++
    [.keyword "LIMIT", .param (k + 1), .keyword "OFFSET", .param (k + 2)]

/-- The size and the offset of a page as parameters; an offset beyond 64 bits is the largest
integer. -/
def pageParams (page : PageRequest) : List Param :=
  [.integer page.size.toNat, .integer (min page.offset largestInteger)]

def build (table : String) (c : Compiled) : Query where
  select :=
    ⟨String.ofList (Token.render (selectTokens table c)), whereParams c ++ pageParams c.page⟩
  count := ⟨String.ofList (Token.render (countTokens table c)), whereParams c⟩

end Query

end CriteriaSearch.Sql
