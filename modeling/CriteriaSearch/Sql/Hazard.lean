import CriteriaSearch.Sql.Evaluation

/-!
# Faults of values

A value may turn out to have no result when it is worked out: the magnitude of the least integer, a
sum beyond 64 bits, bytes that are too many, or a pattern that is too long or whose escape sign is
no single character. Such a fault depends on the row, so that it is found only where the expression
is evaluated.
-/

namespace CriteriaSearch.Sql

namespace Cell

def patternFault? (pattern : Cell) (escape : Option Cell) : Option Fault :=
  if 50000 < pattern.bytes.length then some .patternLength
  else if escape.all fun c => c.isNull || c.visible.length == 1 then none
  else some .escapeLength

def functionFault? (function : String) (arguments : List Cell) : Option Fault :=
  match foldName function, arguments with
  | "abs", [.integer n] => if n = -9223372036854775808 then some .overflow else none
  | "glob", [pattern, _] | "like", [pattern, _] => patternFault? pattern none
  | "zeroblob", [c] => if longest < c.toInt then some .tooLarge else none
  | "like", [pattern, _, escape] => patternFault? pattern (some escape)
  | _, _ => none

def sumFault? (sum : Int) : List Cell → Option Fault
  | .integer n :: cs => if fits (sum + n) then sumFault? (sum + n) cs else some .overflow
  | _ => none

/-- The fault of a function of groups, if there is one: that of a sum of nothing but integers. -/
def groupFault? (function : String) (rows : List (List Cell)) : Option Fault :=
  let cells := ((rows.filterMap List.head?).filter fun c => !c.isNull).map numeral
  let isInteger (c : Cell) : Bool := match c with
    | .integer _ => true
    | _ => false
  if foldName function = "sum" && cells.all isInteger then sumFault? 0 cells else none

end Cell

namespace Expr

def riskyFunctions : List String := ["abs", "glob", "like", "sum", "zeroblob"]

mutual

def isRisky : Expr → Bool
  | .quoted _ | .column .. | .param _ | .literal _ => false
  | .query .. | .hasRows _ | .inQuery _ _ | .like .. => true
  | .not a | .isNull a | .plus a | .complement a | .cast a _ | .collate a _ => isRisky a
  | .or a b | .and a b | .compare _ a b | .same a b | .arithmetic _ a b | .concat a b =>
    isRisky a || isRisky b
  | .between a b c | .choice a b c => isRisky a || isRisky b || isRisky c
  | .inList a items => isRisky a || anyRisky items
  | .call function _ arguments _ =>
    riskyFunctions.contains (foldName function) || anyRisky arguments
  | .row items => anyRisky items

def anyRisky : List Expr → Bool
  | [] => false
  | e :: es => isRisky e || anyRisky es

end

mutual

/-- The fault of the value of an expression on a row, if there is one. The second part of a
conjunction or disjunction is not looked at if the first one decides. -/
def fault? (scope : Scope) : Expr → Option Fault
  | .quoted _ | .column .. | .param _ | .literal _ => none
  | .query q _ _ | .hasRows q => (scope.ask q).fault
  | .inQuery a q => (fault? scope a).or (scope.ask q).fault
  | .not a | .isNull a | .plus a | .complement a | .cast a _ | .collate a _ => fault? scope a
  | .and a b =>
    (fault? scope a).or (if (eval scope a).truth == .no then none else fault? scope b)
  | .or a b =>
    (fault? scope a).or (if (eval scope a).truth == .yes then none else fault? scope b)
  | .compare _ a b | .same a b | .arithmetic _ a b | .concat a b =>
    (fault? scope a).or (fault? scope b)
  | .between a b c => (fault? scope a).or ((fault? scope b).or (fault? scope c))
  | .like text pattern escape =>
    (fault? scope text).or <| (fault? scope pattern).or <| (fault? scope escape).or <|
      Cell.patternFault? (eval scope pattern) (some (eval scope escape))
  | .choice test result otherwise =>
    (fault? scope test).or <|
      if (eval scope test).truth == .yes then fault? scope result else fault? scope otherwise
  | .inList a items => (fault? scope a).or (faultAmong? scope items)
  | .call function distinct arguments _ =>
    if isGrouping function arguments.length then
      let rows := scope.group.map fun row => evalList (scope.atRow row) arguments
      (scope.group.findSome? fun row => faultAmong? (scope.atRow row) arguments).or <|
        Cell.groupFault? function (if distinct then distinctRows rows else rows)
    else
      (faultAmong? scope arguments).or <|
        Cell.functionFault? function (evalList scope arguments)
  | .row items => faultAmong? scope items

def faultAmong? (scope : Scope) : List Expr → Option Fault
  | [] => none
  | e :: es => (fault? scope e).or (faultAmong? scope es)

end

def faultOn? (scopes : List Scope) (e : Expr) : Option Fault :=
  if e.isRisky then scopes.findSome? fun s => e.fault? s else none

end Expr

end CriteriaSearch.Sql
