import CriteriaSearch.Field
import CriteriaSearch.Sql.Cell

namespace CriteriaSearch.Sql

inductive Sign where
  | equal
  | notEqual
  | less
  | lessOrEqual
  | greater
  | greaterOrEqual
  deriving DecidableEq, Repr

inductive Arithmetic where
  | add
  | subtract
  | multiply
  | divide
  | remainder
  | both
  | either
  | shiftLeft
  | shiftRight
  deriving DecidableEq, Repr

inductive SetOperation where
  | union
  | unionAll
  | except
  | intersect
  deriving DecidableEq, Repr

structure TableName where
  database : Option String
  name : String
  deriving DecidableEq, Repr

mutual

/-- An expression. A place is the text of the statement from the expression on. -/
inductive Expr where
  /-- A name between double quotes; it is a text where no column has it. -/
  | quoted (name : String)
  | column (table : Option TableName) (name : String) (place : List Char)
  | param (index : Nat)
  | literal (cell : Cell)
  /-- A function of the given arguments, of which equal ones may count once. -/
  | call (function : String) (distinct : Bool) (arguments : List Expr) (place : List Char)
  | or (a b : Expr)
  | and (a b : Expr)
  | not (a : Expr)
  | compare (sign : Sign) (a b : Expr)
  /-- Both values are missing, or they are equal. -/
  | same (a b : Expr)
  | between (a lower upper : Expr)
  | inList (a : Expr) (items : List Expr)
  | inQuery (a : Expr) (q : SelectQuery)
  /-- A pattern with `%` and `_`, and the character after which they stand for themselves. -/
  | like (text pattern escape : Expr)
  | isNull (a : Expr)
  | choice (test result otherwise : Expr)
  | arithmetic (operation : Arithmetic) (a b : Expr)
  | concat (a b : Expr)
  /-- The value itself, with no affinity. -/
  | plus (a : Expr)
  | complement (a : Expr)
  | cast (a : Expr) (type : String)
  | collate (a : Expr) (collation : String)
  | row (items : List Expr)
  /-- A value of the first row, by its place in a row of so many. -/
  | query (q : SelectQuery) (index width : Nat)
  | hasRows (q : SelectQuery)

inductive ResultColumn where
  | all
  | allOf (table : String)
  | value (e : Expr) (name : String) (isNamed : Bool)

inductive Source where
  | nothing
  /-- The rows of a table, which may be searched by an index of this name only. -/
  | table (name : TableName) (label index : Option String)
  | query (q : SelectQuery) (label : Option String)

structure OrderKey where
  key : Expr
  direction : Direction
  nullsFirst : Bool
  /-- Where the key stands, after its signs and parentheses. -/
  place : List Char

structure Selection where
  distinct : Bool
  columns : List ResultColumn
  source : Source
  condition : Option Expr
  groups : List Expr
  having : Option Expr

inductive Body where
  | select (s : Selection)
  | values (rows : List (List Expr))
  | combine (operation : SetOperation) (a b : Body)

structure SelectQuery where
  body : Body
  order : List OrderKey
  limit : Option Expr
  offset : Option Expr

end

namespace TableName

def display (t : TableName) : String :=
  match t.database with
  | some database => database ++ "." ++ t.name
  | none => t.name

def ofName (name : String) : TableName := ⟨none, name⟩

def isLocal (t : TableName) : Bool :=
  t.database.all fun d => sameName d "main" || sameName d "temp"

def admits (name : TableName) (isTemporary : Bool) : Bool :=
  match name.database with
  | some d => sameName d (if isTemporary then "temp" else "main")
  | none => true

def isTemporary (name : TableName) : Bool := name.database.any (sameName "temp")

def means (t : TableName) (label : String) : Bool := t.isLocal && sameName label t.name

end TableName

namespace SetOperation

def words : SetOperation → String
  | .union => "UNION"
  | .unionAll => "UNION ALL"
  | .except => "EXCEPT"
  | .intersect => "INTERSECT"

end SetOperation

namespace Expr

/-- Both expressions hold; a zero among them is all that is left of them. -/
def both (a b : Expr) : Expr :=
  match a, b with
  | .literal (.integer 0), _ | _, .literal (.integer 0) => .literal (.integer 0)
  | a, b => .and a b

def eachPair (test : Expr → Expr → Expr) : List Expr → List Expr → Expr
  | [a], [b] => test a b
  | a :: as, b :: bs => .and (test a b) (eachPair test as bs)
  | _, _ => .literal (.integer 1)

/-- The order of two rows of values: by the first values that differ. `strict` is the sign for all
but the last pair, and `last` that for the last one. -/
def rowOrder (strict last : Sign) : List Expr → List Expr → Expr
  | [a], [b] => .compare last a b
  | a :: as, b :: bs =>
    .or (.compare strict a b) (.and (.compare .equal a b) (rowOrder strict last as bs))
  | _, _ => .literal (.integer 1)

/-- The comparison of two expressions; rows of the same width are compared by their values. -/
def comparison (sign : Sign) (a b : Expr) : Expr :=
  match a, b with
  | .row as, .row bs =>
    if as.length = bs.length then
      match sign with
      | .equal => eachPair (.compare .equal) as bs
      | .notEqual => .not (eachPair (.compare .equal) as bs)
      | .less => rowOrder .less .less as bs
      | .lessOrEqual => rowOrder .less .lessOrEqual as bs
      | .greater => rowOrder .greater .greater as bs
      | .greaterOrEqual => rowOrder .greater .greaterOrEqual as bs
    else .compare sign a b
  | a, b => .compare sign a b

def negatedIf (negated : Bool) (e : Expr) : Expr := if negated then .not e else e

def identical (a b : Expr) : Expr :=
  match a, b with
  | a, .literal .null => .isNull a
  | .row as, .row bs => if as.length = bs.length then eachPair .same as bs else .same a b
  | a, b => .same a b

def truthName? (name : String) : Option Bool :=
  match foldName name with
  | "true" => some true
  | "false" => some false
  | _ => none

mutual

def isConstant : Expr → Bool
  | .literal _ | .param _ => true
  | .column none name _ => (truthName? name).isSome
  | .quoted _ | .column (some _) _ _ | .call .. | .inQuery _ _ | .query .. | .hasRows _ => false
  | .not a | .isNull a | .plus a | .complement a | .cast a _ | .collate a _ => isConstant a
  | .or a b | .and a b | .compare _ a b | .same a b | .arithmetic _ a b | .concat a b =>
    isConstant a && isConstant b
  | .between a b c | .like a b c | .choice a b c => isConstant a && isConstant b && isConstant c
  | .inList a items => isConstant a && areConstant items
  | .row items => areConstant items

def areConstant : List Expr → Bool
  | [] => true
  | e :: es => isConstant e && areConstant es

end

mutual

/-- The expression with another name for a column. Queries within it keep theirs. -/
def renamed (old new : String) : Expr → Expr
  | .quoted name => .quoted (if sameName name old then new else name)
  | .column table name place => .column table (if sameName name old then new else name) place
  | .call function distinct arguments place =>
    .call function distinct (allRenamed old new arguments) place
  | .or a b => .or (renamed old new a) (renamed old new b)
  | .and a b => .and (renamed old new a) (renamed old new b)
  | .not a => .not (renamed old new a)
  | .compare sign a b => .compare sign (renamed old new a) (renamed old new b)
  | .same a b => .same (renamed old new a) (renamed old new b)
  | .between a b c => .between (renamed old new a) (renamed old new b) (renamed old new c)
  | .inList a items => .inList (renamed old new a) (allRenamed old new items)
  | .inQuery a q => .inQuery (renamed old new a) q
  | .like a b c => .like (renamed old new a) (renamed old new b) (renamed old new c)
  | .isNull a => .isNull (renamed old new a)
  | .choice a b c => .choice (renamed old new a) (renamed old new b) (renamed old new c)
  | .arithmetic operation a b => .arithmetic operation (renamed old new a) (renamed old new b)
  | .concat a b => .concat (renamed old new a) (renamed old new b)
  | .plus a => .plus (renamed old new a)
  | .complement a => .complement (renamed old new a)
  | .cast a type => .cast (renamed old new a) type
  | .collate a collation => .collate (renamed old new a) collation
  | .row items => .row (allRenamed old new items)
  | .param index => .param index
  | .literal cell => .literal cell
  | .query q index width => .query q index width
  | .hasRows q => .hasRows q

def allRenamed (old new : String) : List Expr → List Expr
  | [] => []
  | e :: es => renamed old new e :: allRenamed old new es

end

mutual

/-- How many expressions stand within each other, without those of queries. -/
def height : Expr → Nat
  | .quoted _ | .column .. | .param _ | .literal _ | .query .. | .hasRows _ => 1
  | .not a | .isNull a | .plus a | .complement a | .cast a _ | .collate a _ | .inQuery a _ =>
    height a + 1
  | .or a b | .and a b | .compare _ a b | .same a b | .arithmetic _ a b | .concat a b =>
    max (height a) (height b) + 1
  | .between a b c | .like a b c | .choice a b c =>
    max (height a) (max (height b) (height c)) + 1
  | .inList a items => max (height a) (heightOfAll items) + 1
  | .call _ _ arguments _ => heightOfAll arguments + 1
  | .row items => heightOfAll items + 1

def heightOfAll : List Expr → Nat
  | [] => 0
  | e :: es => max (height e) (heightOfAll es)

end

end Expr

end CriteriaSearch.Sql
