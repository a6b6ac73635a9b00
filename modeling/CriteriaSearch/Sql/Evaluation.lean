import CriteriaSearch.Sql.Fault
import CriteriaSearch.Sql.Function

/-!
# Evaluation of expressions

The value of an expression on a row. Tests have three truth values: a test of a missing value is
unknown, and an unknown test has a missing value. Before an expression is evaluated, its names are
checked.
-/

namespace CriteriaSearch.Sql

/-- The cell of a row in a column, with what the column says about comparisons. -/
structure Slot where
  cell : Cell
  affinity : Option Affinity
  collation : Collation
  deriving DecidableEq, Repr

/-- The answer to a query: what its columns prefer to store, its rows, and the fault that was met in
making them. -/
structure Reply where
  affinities : List (Option Affinity)
  rows : List (List Cell)
  fault : Option Fault
  deriving DecidableEq, Repr

namespace Reply

def empty : Reply := ⟨[], [], none⟩

end Reply

structure Counts where
  lastId : Int
  changed : Nat
  total : Nat
  deriving DecidableEq, Repr

namespace Counts

def start : Counts := ⟨0, 0, 0⟩

def call? (c : Counts) (function : String) : Option Cell :=
  match foldName function with
  | "last_insert_rowid" => some (.integer c.lastId)
  | "changes" => some (.integer c.changed)
  | "total_changes" => some (.integer c.total)
  | _ => none

/-- The counts after a statement that changed so many rows and inserted the last of them under an
identifier. -/
def after (c : Counts) (changed : Nat) (lastId : Option Int) : Counts :=
  ⟨lastId.getD c.lastId, changed, c.total + changed⟩

end Counts

/-- The columns of a row by name, which the name of a table may qualify. -/
abbrev Lookup := Option TableName → String → Option Slot

structure Scope where
  column : Lookup
  params : List Cell
  /-- The answer to a query that may name the columns of the row. -/
  ask : SelectQuery → Reply
  /-- The rows of the group that the row stands for. -/
  group : List Lookup
  counts : Counts

namespace Scope

def ofParams (params : List Cell) : Scope :=
  ⟨fun _ _ => none, params, fun _ => .empty, [], .start⟩

/-- The value of a parameter; parameters without a value are missing. -/
def param (s : Scope) (index : Nat) : Cell :=
  match index with
  | 0 => .null
  | n + 1 => (s.params[n]?).getD .null

def atRow (s : Scope) (column : Lookup) : Scope :=
  { s with column := column, group := [] }

end Scope

def distinctRows (rows : List (List Cell)) : List (List Cell) :=
  let same (a b : List Cell) : Bool :=
    a.length == b.length && (a.zip b).all fun (x, y) => x.order y == .eq
  rows.foldr (fun row rest => row :: rest.filter fun other => !same row other) []

namespace Expr

def isGrouping (function : String) (count : Nat) : Bool :=
  FunctionForm.fitting FunctionForm.ofGroups function count &&
    !FunctionForm.fitting FunctionForm.ofRows function count

/-- The affinity of an expression: that of its column or of the type it is cast to. -/
def affinity (scope : Scope) : Expr → Option Affinity
  | .quoted name => (scope.column none name).bind Slot.affinity
  | .column table name _ => (scope.column table name).bind Slot.affinity
  | .cast _ type => some (if type = "" then .numeric else .ofDeclaration type)
  | .collate a _ => affinity scope a
  | .query q index _ => (scope.ask q).affinities[index]?.join
  | _ => none

mutual

/-- The name of the collation that an expression asks for: the first one among its parts. -/
def askedName? : Expr → Option String
  | .collate _ name => some name
  | .quoted _ | .column .. | .param _ | .literal _ | .query .. | .hasRows _ => none
  | .not a | .isNull a | .plus a | .complement a | .cast a _ | .inQuery a _ => askedName? a
  | .or a b | .and a b | .compare _ a b | .same a b | .arithmetic _ a b | .concat a b =>
    (askedName? a).or (askedName? b)
  | .between a b c | .like a b c | .choice a b c =>
    (askedName? a).or ((askedName? b).or (askedName? c))
  | .inList a items => (askedName? a).or (askedNameAmong? items)
  | .call _ _ arguments _ => askedNameAmong? arguments
  | .row items => askedNameAmong? items

def askedNameAmong? : List Expr → Option String
  | [] => none
  | e :: es => (askedName? e).or (askedNameAmong? es)

end

def askedCollation? (e : Expr) : Option Collation := (askedName? e).bind Collation.ofName?

def columnCollation? (scope : Scope) : Expr → Option Collation
  | .quoted name => (scope.column none name).map Slot.collation
  | .column table name _ => (scope.column table name).map Slot.collation
  | .cast a _ | .plus a => columnCollation? scope a
  | _ => none

def collation (scope : Scope) (e : Expr) : Collation :=
  ((askedCollation? e).or (columnCollation? scope e)).getD .binary

/-- The collation of a comparison: one that a side asks for, or that of a column. -/
def commonCollation (scope : Scope) (a b : Expr) : Collation :=
  ((askedCollation? a).or <| (askedCollation? b).or <|
    (columnCollation? scope a).or (columnCollation? scope b)).getD .binary

def commonAffinity (scope : Scope) (a b : Expr) : Affinity :=
  .common (affinity scope a) (affinity scope b)

/-- The collation of the arguments of a function: that of the first one that has one. -/
def argumentCollation (scope : Scope) (arguments : List Expr) : Collation :=
  (arguments.findSome? fun e =>
    (askedCollation? e).or (columnCollation? scope e)).getD .binary

/-- The truth value that a name stands for where no column has it. -/
def truthLiteral? (scope : Scope) : Expr → Option Bool
  | .column none name _ =>
    match scope.column none name with
    | some _ => none
    | none => truthName? name
  | _ => none

mutual

def eval (scope : Scope) : Expr → Cell
  | .quoted name =>
    match scope.column none name with
    | some slot => slot.cell
    -- A name between double quotes that no column has is a text.
    | none => .text name
  | .column table name _ =>
    match scope.column table name with
    | some slot => slot.cell
    | none =>
      match table, truthName? name with
      | none, some b => .ofBool b
      | _, _ => .null
  | .param index => scope.param index
  | .literal cell => cell
  | .call function distinct arguments _ =>
    let collation := argumentCollation scope arguments
    -- A function of groups sees all rows of its group, any other one the row itself.
    if isGrouping function arguments.length then
      let rows := scope.group.map fun row => evalList (scope.atRow row) arguments
      .gathered collation function (if distinct then distinctRows rows else rows)
    else
      (scope.counts.call? function).getD <|
        .applied collation function (evalList scope arguments)
  | .or a b => .ofTruth ((eval scope a).truth.or (eval scope b).truth)
  | .and a b => .ofTruth ((eval scope a).truth.and (eval scope b).truth)
  | .not a => .ofTruth (eval scope a).truth.not
  | .compare sign a b =>
    .ofTruth (Cell.compareBy sign (commonAffinity scope a b) (commonCollation scope a b)
      (eval scope a) (eval scope b))
  | .same a b =>
    -- A name for a truth value asks for the truth of the other side.
    match truthLiteral? scope b with
    | some value => .ofBool ((eval scope a).truth == .ofBool value)
    | none =>
      .ofBool (Cell.isSame (commonAffinity scope a b) (commonCollation scope a b)
        (eval scope a) (eval scope b))
  | .between a lower upper =>
    .ofTruth <|
      (Cell.compareBy .greaterOrEqual (commonAffinity scope a lower)
        (commonCollation scope a lower) (eval scope a) (eval scope lower)).and
      (Cell.compareBy .lessOrEqual (commonAffinity scope a upper)
        (commonCollation scope a upper) (eval scope a) (eval scope upper))
  | .inList a items =>
    .ofTruth (Cell.among ((affinity scope a).getD .blob) (collation scope a) (eval scope a)
      (evalList scope items))
  | .inQuery a q =>
    let reply := scope.ask q
    .ofTruth (Cell.among (.common reply.affinities.head?.join (affinity scope a))
      (collation scope a) (eval scope a) (reply.rows.filterMap List.head?))
  | .like text pattern escape =>
    .ofTruth (Cell.like (eval scope text) (eval scope pattern) (eval scope escape))
  | .isNull a => .ofTruth (.ofBool (eval scope a).isNull)
  | .choice test result otherwise =>
    if (eval scope test).truth == .yes then eval scope result else eval scope otherwise
  | .arithmetic operation a b => .reckon operation (eval scope a) (eval scope b)
  | .concat a b => .concat (eval scope a) (eval scope b)
  | .plus a => eval scope a
  | .complement a => (eval scope a).complement
  | .cast a type =>
    .castTo (if type = "" then .numeric else .ofDeclaration type) (eval scope a)
  | .collate a _ => eval scope a
  | .row items => (evalList scope items).headD .null
  | .query q index _ => ((scope.ask q).rows.head?.bind fun row => row[index]?).getD .null
  | .hasRows q => .ofBool (!(scope.ask q).rows.isEmpty)

def evalList (scope : Scope) : List Expr → List Cell
  | [] => []
  | e :: es => eval scope e :: evalList scope es

end

/-- The expression holds of the row for certain. -/
def holds (scope : Scope) (e : Expr) : Bool := (e.eval scope).truth == .yes

mutual

def hasGrouping : Expr → Bool
  | .call function _ arguments _ =>
    isGrouping function arguments.length || anyGrouping arguments
  | .quoted _ | .column .. | .param _ | .literal _ | .query .. | .hasRows _ => false
  | .not a | .isNull a | .plus a | .complement a | .cast a _ | .collate a _ | .inQuery a _ =>
    hasGrouping a
  | .or a b | .and a b | .compare _ a b | .same a b | .arithmetic _ a b | .concat a b =>
    hasGrouping a || hasGrouping b
  | .between a b c | .like a b c | .choice a b c =>
    hasGrouping a || hasGrouping b || hasGrouping c
  | .inList a items => hasGrouping a || anyGrouping items
  | .row items => anyGrouping items

def anyGrouping : List Expr → Bool
  | [] => false
  | e :: es => hasGrouping e || anyGrouping es

end

mutual

/-- The last call for the greatest or the least value of a group: whether it is for the greatest
one, and its argument. -/
def lastExtreme? : Expr → Option (Bool × Expr)
  | .call function _ arguments _ =>
    if isGrouping function arguments.length && ["max", "min"].contains (foldName function) then
      arguments.head?.map fun e => (foldName function == "max", e)
    else lastExtremeAmong? arguments
  | .quoted _ | .column .. | .param _ | .literal _ | .query .. | .hasRows _ => none
  | .not a | .isNull a | .plus a | .complement a | .cast a _ | .collate a _ | .inQuery a _ =>
    lastExtreme? a
  | .or a b | .and a b | .compare _ a b | .same a b | .arithmetic _ a b | .concat a b =>
    (lastExtreme? b).or (lastExtreme? a)
  | .between a b c | .like a b c | .choice a b c =>
    (lastExtreme? c).or ((lastExtreme? b).or (lastExtreme? a))
  | .inList a items => (lastExtremeAmong? items).or (lastExtreme? a)
  | .row items => lastExtremeAmong? items

def lastExtremeAmong? : List Expr → Option (Bool × Expr)
  | [] => none
  | e :: es => (lastExtremeAmong? es).or (lastExtreme? e)

end

end Expr

/-- What an expression may do with functions of groups. -/
inductive Grouping where
  | forbidden
  /-- They would have one, but rows are not gathered yet. -/
  | early
  | allowed
  deriving DecidableEq, Repr

structure Names where
  column : Option TableName → String → Bool
  ask : SelectQuery → Except Fault Nat
  grouping : Grouping

namespace Names

def none : Names := ⟨fun _ _ => false, fun _ => .ok 1, .forbidden⟩

def checkGrouping (names : Names) (function : String) (distinct : Bool) (count : Nat)
    (place : List Char) : Except Fault Unit :=
  match names.grouping with
  | .forbidden => .error (.misusedAggregate function place)
  | .early => .error (.earlyAggregate function place)
  | .allowed => if distinct && count != 1 then .error .distinctArguments else .ok ()

def isChance : Expr → Bool
  | .literal (.real x) => !x.less (.zero false) && !(Double.ofInt 1).less x
  | _ => false

def checkChance (function : String) (arguments : List Expr) (place : List Char) :
    Except Fault Unit :=
  if foldName function = "likelihood" && arguments.length == 2 &&
      !(arguments.drop 1).all isChance then
    .error (.likelihood place)
  else .ok ()

def checkCall (names : Names) (function : String) (distinct : Bool) (count : Nat)
    (place : List Char) : Except Fault Unit :=
  if foldName function = "match" then .error .misusedMatch
  else if FunctionForm.fitting FunctionForm.ofRows function count then .ok ()
  else if FunctionForm.fitting FunctionForm.ofGroups function count then
    names.checkGrouping function distinct count place
  else if FunctionForm.named (FunctionForm.ofRows ++ FunctionForm.ofGroups) function then
    .error (.argumentCount function place)
  else .error (.noSuchFunction function place)

def checkWidth (names : Names) (q : SelectQuery) (width : Nat) : Except Fault Unit := do
  let columns ← names.ask q
  if columns = width then return ()
  else if width = 1 then throw (.queryWidth columns)
  else throw (.assignedCount width columns)

def written (table : Option TableName) (name : String) : String :=
  match table with
  | some t => t.display ++ "." ++ name
  | _ => name

end Names

namespace Expr

def checkCollation (es : List Expr) : Except Fault Unit :=
  match askedNameAmong? es with
  | some name => if (Collation.ofName? name).isSome then .ok () else .error (.noSuchCollation name)
  | none => .ok ()

def comparingFunctions : List String := ["max", "min", "nullif"]

mutual

def check (names : Names) : Expr → Except Fault Unit
  | .quoted _ | .param _ | .literal _ => .ok ()
  | .column table name place =>
    if names.column table name || (table.isNone && (truthName? name).isSome) then .ok ()
    else .error (.unknownName (Names.written table name) place)
  | .call function distinct arguments place => do
    let inner := if isGrouping function arguments.length then
      { names with grouping := .forbidden } else names
    Names.checkChance function arguments place
    checkList inner arguments
    names.checkCall function distinct arguments.length place
    if comparingFunctions.contains (foldName function) then checkCollation arguments
  | .compare _ a b | .same a b => do
    check names a
    check names b
    checkCollation [a, b]
  | .or a b | .and a b | .arithmetic _ a b | .concat a b => do
    check names a
    check names b
  | .not a | .isNull a | .plus a | .complement a | .cast a _ | .collate a _ => check names a
  | .between a b c => do
    check names a
    check names b
    check names c
    checkCollation [a, b, c]
  | .like a b c | .choice a b c => do
    check names a
    check names b
    check names c
  | .inList a items => do
    check names a
    checkList names items
    checkCollation (a :: items)
  | .inQuery a q => do
    check names a
    names.checkWidth q 1
    checkCollation [a]
  | .row items => do
    checkList names items
    -- Several values stand only where a comparison has taken them apart.
    throw .rowValue
  | .query q _ width => names.checkWidth q width
  | .hasRows q => do
    let _ ← names.ask q
    return ()

def checkList (names : Names) : List Expr → Except Fault Unit
  | [] => .ok ()
  | e :: es => do
    check names e
    checkList names es

end

end Expr

end CriteriaSearch.Sql
