import CriteriaSearch.Sql.Expression
import CriteriaSearch.Sql.Fault
import CriteriaSearch.Sql.Lexer

/-!
# Reading expressions and queries

Expressions are read by the strength with which their signs bind: an operand takes in every sign to
its right that binds at least as strongly as its level asks for. Signs of one level bind to the
left.
-/

namespace CriteriaSearch.Sql

def unexpected : List Lexeme → Fault
  | [] => .incomplete
  | l :: _ =>
    match l.token with
    | .broken source => .unrecognized source.toList l.start
    | _ => .near l.source l.start

def expect (t : Token) : List Lexeme → Except Fault (List Lexeme)
  | l :: rest => if l.token = t then .ok rest else .error (unexpected (l :: rest))
  | [] => .error .incomplete

def expectKeywords : List String → List Lexeme → Except Fault (List Lexeme)
  | [], ts => .ok ts
  | w :: ws, ts => do expectKeywords ws (← expect (.keyword w) ts)

def afterKeywords? (words : List String) (ts : List Lexeme) : Option (List Lexeme) :=
  (expectKeywords words ts).toOption

def startsWithKeyword (words : List String) : List Lexeme → Bool
  | ⟨.keyword w, _, _⟩ :: _ => words.contains w
  | _ => false

namespace Lexeme

/-- The name that a lexeme is. A keyword is a name where no rule of the grammar needs it. -/
def word? (l : Lexeme) : Option String :=
  match l.token with
  | .name s | .quoted s => some s
  | .keyword w => if reservedWords.contains w then none else some (String.ofList l.source)
  | _ => none

def name? (l : Lexeme) : Option String :=
  match l.token with
  | .text s => some s
  | _ => l.word?

end Lexeme

def readName : List Lexeme → Except Fault (String × List Lexeme)
  | l :: rest =>
    match l.name? with
    | some s => .ok (s, rest)
    | none => .error (unexpected (l :: rest))
  | [] => .error .incomplete

def readTableName (ts : List Lexeme) : Except Fault (TableName × List Lexeme) := do
  let (name, ts) ← readName ts
  match ts with
  | ⟨.symbol ".", _, _⟩ :: rest => do
    let (table, ts) ← readName rest
    return (⟨some name, table⟩, ts)
  | ts => return (⟨none, name⟩, ts)

def joiningWords : List String :=
  ["CROSS", "FULL", "INNER", "LEFT", "NATURAL", "OUTER", "RIGHT", "INDEXED"]

def readAlias (ts : List Lexeme) : Except Fault (Option String × List Lexeme) :=
  match ts with
  | ⟨.keyword "AS", _, _⟩ :: rest => do
    let (name, ts) ← readName rest
    return (some name, ts)
  | l :: rest =>
    match l.name? with
    | some s => if startsWithKeyword joiningWords ts then .ok (none, ts) else .ok (some s, rest)
    | none => .ok (none, ts)
  | [] => .ok (none, [])

def readCommaList {α : Type} (part : List Lexeme → Except Fault (α × List Lexeme)) :
    Nat → List Lexeme → Except Fault (List α × List Lexeme)
  | 0, ts => .error (unexpected ts)
  | fuel + 1, ts => do
    let (a, ts) ← part ts
    match ts with
    | ⟨.symbol ",", _, _⟩ :: rest => do
      let (more, ts) ← readCommaList part fuel rest
      return (a :: more, ts)
    | ts => return ([a], ← expect (.symbol ")") ts)

def typeWords : List Lexeme → List Lexeme
  | l :: rest =>
    if startsWithKeyword ["GENERATED"] [l] then l :: rest
    else if l.name?.isSome then typeWords rest
    else l :: rest
  | [] => []

def readSigned : List Lexeme → Except Fault (List Lexeme)
  | ⟨.symbol "-", _, _⟩ :: ⟨.number _, _, _⟩ :: rest
  | ⟨.symbol "+", _, _⟩ :: ⟨.number _, _, _⟩ :: rest
  | ⟨.number _, _, _⟩ :: rest => .ok rest
  | ⟨.symbol "-", _, _⟩ :: rest | ⟨.symbol "+", _, _⟩ :: rest => .error (unexpected rest)
  | ts => .error (unexpected ts)

/-- The text from the start of some lexemes to the start of what follows them, without blanks at its
end. -/
def textBefore (ts after : List Lexeme) : String :=
  match ts with
  | [] => ""
  | l :: _ =>
    let length := match after with
      | next :: _ => l.start.length - next.start.length
      | [] => l.start.length
    String.ofList ((l.start.take length).reverse.dropWhile isSpace).reverse

def readType (ts : List Lexeme) : Except Fault (String × List Lexeme) :=
  let after := typeWords ts
  if after.length = ts.length then .ok ("", ts)
  else
    match after with
    | ⟨.symbol "(", _, _⟩ :: rest => do
      let after ← readSigned rest
      let after ← match after with
        | ⟨.symbol ",", _, _⟩ :: rest => readSigned rest
        | after => .ok after
      let after ← expect (.symbol ")") after
      return (textBefore ts after, after)
    | after => .ok (textBefore ts after, after)

/-! ## Levels -/

/-- How strongly signs bind. -/
inductive Level where
  | or
  | and
  | not
  | equality
  | order
  | bits
  | sum
  | product
  | concat
  | collate
  deriving DecidableEq, Repr

namespace Level

def rank : Level → Nat
  | .or => 1
  | .and => 2
  | .not => 3
  | .equality => 4
  | .order => 5
  | .bits => 7
  | .sum => 8
  | .product => 9
  | .concat => 10
  | .collate => 11

end Level

structure Infix where
  level : Level
  make : Expr → Expr → Expr

namespace Infix

def comparison (level : Level) (sign : Sign) : Infix := ⟨level, .comparison sign⟩

def calculation (level : Level) (operation : Arithmetic) : Infix := ⟨level, .arithmetic operation⟩

def ofToken? : Token → Option Infix
  | .keyword "OR" => some ⟨.or, .or⟩
  | .keyword "AND" => some ⟨.and, .both⟩
  | .symbol "=" | .symbol "==" => some (comparison .equality .equal)
  | .symbol "<>" | .symbol "!=" => some (comparison .equality .notEqual)
  | .symbol "<" => some (comparison .order .less)
  | .symbol "<=" => some (comparison .order .lessOrEqual)
  | .symbol ">" => some (comparison .order .greater)
  | .symbol ">=" => some (comparison .order .greaterOrEqual)
  | .symbol "&" => some (calculation .bits .both)
  | .symbol "|" => some (calculation .bits .either)
  | .symbol "<<" => some (calculation .bits .shiftLeft)
  | .symbol ">>" => some (calculation .bits .shiftRight)
  | .symbol "+" => some (calculation .sum .add)
  | .symbol "-" => some (calculation .sum .subtract)
  | .symbol "*" => some (calculation .product .multiply)
  | .symbol "/" => some (calculation .product .divide)
  | .symbol "%" => some (calculation .product .remainder)
  | .symbol "||" => some ⟨.concat, .concat⟩
  | _ => none

end Infix

def patternWords : List String := ["LIKE", "GLOB", "REGEXP", "MATCH"]

def testWords : List String := "BETWEEN" :: "IN" :: patternWords

/-! ## Literals -/

def hexCell (digits : List Char) : Cell :=
  let n := digits.foldl (fun n c => n * 16 + (hexDigit? c).getD 0) 0
  .integer (Int64.ofNat n).toInt

def numberCell (digits : String) : Cell := (Cell.numberOfText? digits).getD .null

/-- The literal of a number, of which digits of base sixteen may be too many. `sign` is what stands
before it, and the place is that of the digits. -/
def numberLiteral (sign digits : String) (place : List Char) : Except Fault Expr :=
  match digits.toList with
  | '0' :: x :: hex =>
    if x = 'x' ∨ x = 'X' then
      let significant := hex.dropWhile (· == '0')
      if 16 < significant.length then .error (.digitsTooBig (sign ++ digits) place)
      else
        match hexCell significant with
        | .integer n =>
          if sign = "" then .ok (.literal (.integer n))
          else if n = -9223372036854775808 then .error (.digitsTooBig (sign ++ digits) place)
          else .ok (.literal (.integer (-n)))
        | cell => .ok (.literal cell)
    else .ok (.literal (numberCell (sign ++ digits)))
  | _ => .ok (.literal (numberCell (sign ++ digits)))

def enclosedNumber? : List Lexeme → Option (String × List Char × List Lexeme)
  | ⟨.number digits, place, _⟩ :: rest => some (digits, place, rest)
  | ⟨.symbol "(", _, _⟩ :: rest =>
    match enclosedNumber? rest with
    | some (digits, place, ⟨.symbol ")", _, _⟩ :: rest) => some (digits, place, rest)
    | _ => none
  | _ => none

def setOperation? : List Lexeme → Option (SetOperation × List Lexeme)
  | ⟨.keyword "UNION", _, _⟩ :: ⟨.keyword "ALL", _, _⟩ :: rest => some (.unionAll, rest)
  | ⟨.keyword "UNION", _, _⟩ :: rest => some (.union, rest)
  | ⟨.keyword "EXCEPT", _, _⟩ :: rest => some (.except, rest)
  | ⟨.keyword "INTERSECT", _, _⟩ :: rest => some (.intersect, rest)
  | _ => none

def readDirection : List Lexeme → Direction × List Lexeme
  | ⟨.keyword "ASC", _, _⟩ :: rest => (.ascending, rest)
  | ⟨.keyword "DESC", _, _⟩ :: rest => (.descending, rest)
  | ts => (.ascending, ts)

/-- Reads where missing values stand in an order: by default before the others if it ascends. -/
def readNulls (d : Direction) (ts : List Lexeme) : Except Fault (Bool × List Lexeme) :=
  match ts with
  | ⟨.keyword "NULLS", _, _⟩ :: ⟨.keyword "FIRST", _, _⟩ :: rest => .ok (true, rest)
  | ⟨.keyword "NULLS", _, _⟩ :: ⟨.keyword "LAST", _, _⟩ :: rest => .ok (false, rest)
  | ⟨.keyword "NULLS", _, _⟩ :: rest => .error (unexpected rest)
  | ts => .ok (d == .ascending, ts)

/-- Where an expression stands after the signs and parentheses before it. -/
def signedPlace : List Lexeme → List Char
  | [] => []
  | l :: rest =>
    match l.token with
    | .symbol "-" | .symbol "+" | .symbol "(" => signedPlace rest
    | _ => l.start

def SelectQuery.allOf (table : TableName) : SelectQuery :=
  ⟨.select ⟨false, [.all], .table table none none, none, [], none⟩, [], none, none⟩

/-- The fault of an order or a limit that stands before an operation and not after it. -/
def SelectQuery.earlyClause? (q : SelectQuery) (operation : SetOperation) : Option Fault :=
  if !q.order.isEmpty then some (.earlyClause "ORDER BY" operation.words)
  else if q.limit.isSome then some (.earlyClause "LIMIT" operation.words)
  else none

def Source.labelled (s : Source) (label : Option String) : Source :=
  match s, label with
  | .table name _ index, some label => .table name (some label) index
  | .query q _, some label => .query q (some label)
  | s, _ => s

def readIndexChoice (ts : List Lexeme) : Except Fault (Option String × List Lexeme) :=
  match ts with
  | ⟨.keyword "INDEXED", _, _⟩ :: rest => do
    let (name, ts) ← readName (← expect (.keyword "BY") rest)
    return (some name, ts)
  | ⟨.keyword "NOT", _, _⟩ :: ⟨.keyword "INDEXED", _, _⟩ :: rest => .ok (none, rest)
  | ts => .ok (none, ts)

def greatestHeight : Nat := 1000

def greatestParam : Nat := 32766

def currentMoment (function : String) (place : List Char) : Expr :=
  .call function false [.literal (.text "now")] place

/-- The name of a value in a result: that of its column, or the text that writes it. -/
def resultName (e : Expr) (written : String) : String :=
  match e with
  | .column _ name _ | .quoted name => name
  | _ => written

/-! ## Expressions -/

mutual

/-- Reads an expression whose signs bind at least as strongly as a level. -/
def readExpr : Nat → Level → List Lexeme → Except Fault (Expr × List Lexeme)
  | 0, _, ts => .error (unexpected ts)
  | fuel + 1, level, ts => do
    let (a, ts) ← readOperand fuel ts
    readSigns fuel level a ts

def readSigns : Nat → Level → Expr → List Lexeme → Except Fault (Expr × List Lexeme)
  | 0, _, _, ts => .error (unexpected ts)
  | fuel + 1, level, a, ts =>
    let admits (other : Level) : Bool := level.rank ≤ other.rank
    -- Every part of an expression passes here, so that its height is tested here.
    if greatestHeight < a.height then .error .tooDeep
    else match ts with
    | ⟨.keyword "IS", _, _⟩ :: rest =>
      if admits .equality then do
        let (b, ts) ← readIdentity fuel a rest
        readSigns fuel level b ts
      else .ok (a, ts)
    | ⟨.keyword "ISNULL", _, _⟩ :: rest =>
      if admits .equality then readSigns fuel level (.isNull a) rest else .ok (a, ts)
    | ⟨.keyword "NOTNULL", _, _⟩ :: rest =>
      if admits .equality then readSigns fuel level (.not (.isNull a)) rest else .ok (a, ts)
    | ⟨.keyword "NOT", _, _⟩ :: ⟨.keyword "NULL", _, _⟩ :: rest =>
      if admits .not then readSigns fuel level (.not (.isNull a)) rest else .ok (a, ts)
    | ⟨.keyword "NOT", _, _⟩ :: rest =>
      if admits .not then do
        let (b, ts) ← readTest fuel true a rest
        readSigns fuel level b ts
      else .ok (a, ts)
    | ⟨.keyword "COLLATE", _, _⟩ :: rest =>
      if admits .collate then do
        let (name, ts) ← readName rest
        readSigns fuel level (.collate a name) ts
      else .ok (a, ts)
    | l :: rest =>
      match Infix.ofToken? l.token with
      | some sign =>
        if admits sign.level then do
          let (b, ts) ← readAbove fuel sign.level rest
          readSigns fuel level (sign.make a b) ts
        else .ok (a, ts)
      | none =>
        if startsWithKeyword testWords ts && admits .equality then do
          let (b, ts) ← readTest fuel false a ts
          readSigns fuel level b ts
        else .ok (a, ts)
    | [] => .ok (a, [])

/-- Reads the right operand of a sign, whose own signs bind more strongly. -/
def readAbove : Nat → Level → List Lexeme → Except Fault (Expr × List Lexeme)
  | 0, _, ts => .error (unexpected ts)
  | fuel + 1, level, ts =>
    match level with
    | .or => readExpr fuel .and ts
    | .and => readExpr fuel .not ts
    | .not => readExpr fuel .equality ts
    | .equality => readExpr fuel .order ts
    | .order => readExpr fuel .bits ts
    | .bits => readExpr fuel .sum ts
    | .sum => readExpr fuel .product ts
    | .product => readExpr fuel .concat ts
    | .concat => readExpr fuel .collate ts
    | .collate => readOperand fuel ts

def readIdentity : Nat → Expr → List Lexeme → Except Fault (Expr × List Lexeme)
  | 0, _, ts => .error (unexpected ts)
  | fuel + 1, a, ts =>
    match ts with
    | ⟨.keyword "NOT", _, _⟩ :: ⟨.keyword "DISTINCT", _, _⟩ :: rest => do
      let (b, ts) ← readAbove fuel .equality (← expect (.keyword "FROM") rest)
      return (.identical a b, ts)
    | ⟨.keyword "DISTINCT", _, _⟩ :: rest => do
      let (b, ts) ← readAbove fuel .equality (← expect (.keyword "FROM") rest)
      return (.not (.identical a b), ts)
    | ⟨.keyword "NOT", _, _⟩ :: rest => do
      let (b, ts) ← readAbove fuel .equality rest
      return (.not (.identical a b), ts)
    | ts => do
      let (b, ts) ← readAbove fuel .equality ts
      return (.identical a b, ts)

def readTest : Nat → Bool → Expr → List Lexeme → Except Fault (Expr × List Lexeme)
  | 0, _, _, ts => .error (unexpected ts)
  | fuel + 1, negated, a, ts =>
    match ts with
    | ⟨.keyword "BETWEEN", _, _⟩ :: rest => do
      let (lower, ts) ← readExpr fuel .not rest
      let (lower, ts) ← readAlternatives fuel lower ts
      let ts ← expect (.keyword "AND") ts
      let (upper, ts) ← readAbove fuel .equality ts
      return (.negatedIf negated (.between a lower upper), ts)
    | ⟨.keyword "IN", _, _⟩ :: rest => do
      let (e, ts) ← readMembership fuel a rest
      return (.negatedIf negated e, ts)
    | l :: rest =>
      if startsWithKeyword patternWords [l] then do
        let (pattern, ts) ← readAbove fuel .equality rest
        match l.token, ts with
        | .keyword "LIKE", ⟨.keyword "ESCAPE", _, _⟩ :: rest => do
          let (escape, ts) ← readAbove fuel .equality rest
          return (.negatedIf negated (.like a pattern escape), ts)
        | _, ts =>
          let call : Expr := .call (String.ofList l.source) false [pattern, a] l.start
          return (.negatedIf negated call, ts)
      else .error (unexpected (l :: rest))
    | [] => .error .incomplete

/-- Reads what `OR` adds to the lower bound of a range, which takes in every `AND` after it. -/
def readAlternatives : Nat → Expr → List Lexeme → Except Fault (Expr × List Lexeme)
  | 0, _, ts => .error (unexpected ts)
  | fuel + 1, a, ts =>
    match ts with
    | ⟨.keyword "OR", _, _⟩ :: rest => do
      let (b, ts) ← readAbove fuel .or rest
      readAlternatives fuel (.or a b) ts
    | ts => .ok (a, ts)

def readMembership : Nat → Expr → List Lexeme → Except Fault (Expr × List Lexeme)
  | 0, _, ts => .error (unexpected ts)
  | fuel + 1, a, ts =>
    match ts with
    | ⟨.symbol "(", _, _⟩ :: ⟨.symbol ")", _, _⟩ :: rest => .ok (.inList a [], rest)
    | ⟨.symbol "(", _, _⟩ :: rest =>
      if startsWithKeyword ["SELECT", "VALUES"] rest then do
        let (q, ts) ← readQuery fuel rest
        return (.inQuery a q, ← expect (.symbol ")") ts)
      else do
        let (items, ts) ← readList fuel rest
        return (.inList a items, ← expect (.symbol ")") ts)
    | ts => do
      let (table, ts) ← readTableName ts
      return (.inQuery a (.allOf table), ts)

def readOperand : Nat → List Lexeme → Except Fault (Expr × List Lexeme)
  | 0, ts => .error (unexpected ts)
  | fuel + 1, ts =>
    match ts with
    | ⟨.symbol "(", _, _⟩ :: rest =>
      if startsWithKeyword ["SELECT", "VALUES"] rest then do
        let (q, ts) ← readQuery fuel rest
        return (.query q 0 1, ← expect (.symbol ")") ts)
      else do
        let (items, ts) ← readList fuel rest
        let ts ← expect (.symbol ")") ts
        match items with
        | [e] => return (e, ts)
        | items => return (.row items, ts)
    | ⟨.symbol "-", _, _⟩ :: rest =>
      -- The sign belongs to a number that follows at once, so that the least integer can be
      -- written.
      match enclosedNumber? rest with
      | some (digits, place, rest) => do return (← numberLiteral "-" digits place, rest)
      | none => do
        let (a, ts) ← readOperand fuel rest
        return (.arithmetic .subtract (.literal (.integer 0)) a, ts)
    | ⟨.symbol "+", _, _⟩ :: rest => do
      let (a, ts) ← readOperand fuel rest
      return (.plus a, ts)
    | ⟨.symbol "~", _, _⟩ :: rest => do
      let (a, ts) ← readOperand fuel rest
      return (.complement a, ts)
    | ⟨.keyword "NOT", _, _⟩ :: rest => do
      let (a, ts) ← readExpr fuel .not rest
      return (.not a, ts)
    | ⟨.keyword "EXISTS", _, _⟩ :: rest => do
      let (q, ts) ← readQuery fuel (← expect (.symbol "(") rest)
      return (.hasRows q, ← expect (.symbol ")") ts)
    | ⟨.keyword "CAST", _, _⟩ :: rest => do
      let (a, ts) ← readExpr fuel .or (← expect (.symbol "(") rest)
      let (type, ts) ← readType (← expect (.keyword "AS") ts)
      return (.cast a type, ← expect (.symbol ")") ts)
    | ⟨.keyword "CASE", _, _⟩ :: rest =>
      if startsWithKeyword ["WHEN"] rest then readBranches fuel none rest
      else do
        let (operand, ts) ← readExpr fuel .or rest
        readBranches fuel (some operand) ts
    | ⟨.param n, place, after⟩ :: rest =>
      -- A question mark alone has no number that could be wrong.
      let isNumbered := Text.startsWith ['?'] (Lexeme.source ⟨.param n, place, after⟩) &&
        1 < (Lexeme.source ⟨.param n, place, after⟩).length
      if isNumbered && (n == 0 || decide (greatestParam < n)) then .error (.paramNumber place)
      else .ok (.param n, rest)
    | ⟨.text s, place, after⟩ :: rest =>
      match rest with
      | ⟨.symbol ".", _, _⟩ :: _ => readNamed fuel s ⟨.text s, place, after⟩ rest
      | rest => .ok (.literal (.text s), rest)
    | ⟨.blob bytes, _, _⟩ :: rest => .ok (.literal (.blob bytes), rest)
    | ⟨.number digits, place, _⟩ :: rest => do return (← numberLiteral "" digits place, rest)
    | ⟨.keyword "NULL", _, _⟩ :: rest => .ok (.literal .null, rest)
    | ⟨.keyword "CURRENT_DATE", place, _⟩ :: rest => .ok (currentMoment "date" place, rest)
    | ⟨.keyword "CURRENT_TIME", place, _⟩ :: rest => .ok (currentMoment "time" place, rest)
    | ⟨.keyword "CURRENT_TIMESTAMP", place, _⟩ :: rest =>
      .ok (currentMoment "datetime" place, rest)
    | l :: rest =>
      match l.word? with
      | some name => readNamed fuel name l rest
      | none => .error (unexpected ts)
    | [] => .error .incomplete

def readNamed : Nat → String → Lexeme → List Lexeme → Except Fault (Expr × List Lexeme)
  | 0, _, _, ts => .error (unexpected ts)
  | fuel + 1, name, l, ts =>
    match ts with
    | ⟨.symbol "(", _, _⟩ :: rest => do
      let ((distinct, arguments), ts) ← readArguments fuel rest
      return (.call name distinct arguments l.start, ts)
    | ⟨.symbol ".", _, _⟩ :: rest => do
      let (second, ts) ← readName rest
      match ts with
      | ⟨.symbol ".", _, _⟩ :: rest => do
        let (third, ts) ← readName rest
        return (.column (some ⟨some name, second⟩) third l.start, ts)
      | ts => return (.column (some (.ofName name)) second l.start, ts)
    | ts =>
      match l.token with
      | .quoted s => .ok (.quoted s, ts)
      | _ => .ok (.column none name l.start, ts)

/-- Reads the branches of a choice. With an operand, each test is for equality with it. -/
def readBranches : Nat → Option Expr → List Lexeme → Except Fault (Expr × List Lexeme)
  | 0, _, ts => .error (unexpected ts)
  | fuel + 1, operand, ts => do
    let (test, ts) ← readExpr fuel .or (← expect (.keyword "WHEN") ts)
    let (result, ts) ← readExpr fuel .or (← expect (.keyword "THEN") ts)
    let test := match operand with
      | some e => .compare .equal e test
      | none => test
    match ts with
    | ⟨.keyword "ELSE", _, _⟩ :: rest => do
      let (otherwise, ts) ← readExpr fuel .or rest
      return (.choice test result otherwise, ← expect (.keyword "END") ts)
    | ⟨.keyword "END", _, _⟩ :: rest => return (.choice test result (.literal .null), rest)
    | ts => do
      let (more, ts) ← readBranches fuel operand ts
      return (.choice test result more, ts)

def readArguments : Nat → List Lexeme → Except Fault ((Bool × List Expr) × List Lexeme)
  | 0, ts => .error (unexpected ts)
  | fuel + 1, ts =>
    match ts with
    | ⟨.symbol ")", _, _⟩ :: rest => .ok ((false, []), rest)
    | ⟨.symbol "*", _, _⟩ :: rest => do return ((false, []), ← expect (.symbol ")") rest)
    | ⟨.keyword "DISTINCT", _, _⟩ :: ⟨.symbol ")", _, _⟩ :: rest => .ok ((true, []), rest)
    | ⟨.keyword "DISTINCT", _, _⟩ :: rest => do
      let (arguments, ts) ← readList fuel rest
      return ((true, arguments), ← expect (.symbol ")") ts)
    | ts => do
      let (arguments, ts) ← readList fuel ((afterKeywords? ["ALL"] ts).getD ts)
      return ((false, arguments), ← expect (.symbol ")") ts)

def readList : Nat → List Lexeme → Except Fault (List Expr × List Lexeme)
  | 0, ts => .error (unexpected ts)
  | fuel + 1, ts => do
    let (a, ts) ← readExpr fuel .or ts
    match ts with
    | ⟨.symbol ",", _, _⟩ :: rest => do
      let (more, ts) ← readList fuel rest
      return (a :: more, ts)
    | ts => return ([a], ts)

def readAfter : Nat → String → List Lexeme → Except Fault (Option Expr × List Lexeme)
  | 0, _, ts => .error (unexpected ts)
  | fuel + 1, word, ts =>
    match afterKeywords? [word] ts with
    | some ts => do
      let (e, ts) ← readExpr fuel .or ts
      return (some e, ts)
    | none => .ok (none, ts)

def readQuery : Nat → List Lexeme → Except Fault (SelectQuery × List Lexeme)
  | 0, ts => .error (unexpected ts)
  | fuel + 1, ts => do
    let (first, ts) ← readPart fuel ts
    let ((q, fault), ts) ← readParts fuel first none ts
    match fault with
    | some fault => throw fault
    | none => return (q, ts)

def readParts : Nat → SelectQuery → Option Fault → List Lexeme →
    Except Fault ((SelectQuery × Option Fault) × List Lexeme)
  | 0, _, _, ts => .error (unexpected ts)
  | fuel + 1, a, fault, ts =>
    match setOperation? ts with
    | some (operation, ts) => do
      let fault := (a.earlyClause? operation).or fault
      let (b, ts) ← readPart fuel ts
      readParts fuel { b with body := .combine operation a.body b.body } fault ts
    | none => .ok ((a, fault), ts)

def readPart : Nat → List Lexeme → Except Fault (SelectQuery × List Lexeme)
  | 0, ts => .error (unexpected ts)
  | fuel + 1, ts =>
    match ts with
    | ⟨.keyword "SELECT", _, _⟩ :: rest => do
      let (s, ts) ← readSelection fuel rest
      let (order, ts) ← match afterKeywords? ["ORDER"] ts with
        | some ts => do readOrderKeys fuel (← expect (.keyword "BY") ts)
        | none => .ok ([], ts)
      let (limit, ts) ← readAfter fuel "LIMIT" ts
      match limit, ts with
      | some first, ⟨.symbol ",", _, _⟩ :: rest => do
        let (second, ts) ← readExpr fuel .or rest
        return (⟨.select s, order, some second, some first⟩, ts)
      | some _, ts => do
        let (offset, ts) ← readAfter fuel "OFFSET" ts
        return (⟨.select s, order, limit, offset⟩, ts)
      | none, ts => return (⟨.select s, order, none, none⟩, ts)
    | ⟨.keyword "VALUES", _, _⟩ :: rest => do
      let (rows, ts) ← readRows fuel none rest
      return (⟨.values rows, [], none, none⟩, ts)
    | ts => .error (unexpected ts)

/-- Reads rows of values. A row of constants must have as many values as the one before it. -/
def readRows : Nat → Option Nat → List Lexeme → Except Fault (List (List Expr) × List Lexeme)
  | 0, _, ts => .error (unexpected ts)
  | fuel + 1, width, ts => do
    let (row, ts) ← readList fuel (← expect (.symbol "(") ts)
    let ts ← expect (.symbol ")") ts
    if width.any (· != row.length) && Expr.areConstant row then throw .unevenRows
    match ts with
    | ⟨.symbol ",", _, _⟩ :: rest => do
      let (more, ts) ← readRows fuel (some row.length) rest
      return (row :: more, ts)
    | ts => return ([row], ts)

def readSelection : Nat → List Lexeme → Except Fault (Selection × List Lexeme)
  | 0, ts => .error (unexpected ts)
  | fuel + 1, ts => do
    let (distinct, ts) := match afterKeywords? ["DISTINCT"] ts with
      | some ts => (true, ts)
      | none => (false, (afterKeywords? ["ALL"] ts).getD ts)
    let (columns, ts) ← readColumns fuel ts
    let (source, ts) ← match afterKeywords? ["FROM"] ts with
      | some ts => readSource fuel ts
      | none => .ok (.nothing, ts)
    let (condition, ts) ← readAfter fuel "WHERE" ts
    let (groups, ts) ← match afterKeywords? ["GROUP"] ts with
      | some ts => do readList fuel (← expect (.keyword "BY") ts)
      | none => .ok ([], ts)
    let (having, ts) ← readAfter fuel "HAVING" ts
    return (⟨distinct, columns, source, condition, groups, having⟩, ts)

def readColumns : Nat → List Lexeme → Except Fault (List ResultColumn × List Lexeme)
  | 0, ts => .error (unexpected ts)
  | fuel + 1, ts => do
    let (column, ts) ← readColumn fuel ts
    match ts with
    | ⟨.symbol ",", _, _⟩ :: rest => do
      let (more, ts) ← readColumns fuel rest
      return (column :: more, ts)
    | ts => return ([column], ts)

def readColumn : Nat → List Lexeme → Except Fault (ResultColumn × List Lexeme)
  | 0, ts => .error (unexpected ts)
  | fuel + 1, ts =>
    match ts with
    | ⟨.symbol "*", _, _⟩ :: rest => .ok (.all, rest)
    | l :: ⟨.symbol ".", place, after⟩ :: ⟨.symbol "*", place', after'⟩ :: rest =>
      match l.name? with
      | some table => .ok (.allOf table, rest)
      | none =>
        .error (unexpected (l :: ⟨.symbol ".", place, after⟩ :: ⟨.symbol "*", place', after'⟩ ::
          rest))
    | ts => do
      let (e, after) ← readExpr fuel .or ts
      let written := textBefore ts after
      let (name, after) ← readAlias after
      return (.value e (name.getD (resultName e written)) name.isSome, after)

def readSource : Nat → List Lexeme → Except Fault (Source × List Lexeme)
  | 0, ts => .error (unexpected ts)
  | fuel + 1, ts =>
    match ts with
    | ⟨.symbol "(", _, _⟩ :: rest =>
      if startsWithKeyword ["SELECT", "VALUES"] rest then do
        let (q, ts) ← readQuery fuel rest
        let (name, ts) ← readAlias (← expect (.symbol ")") ts)
        return (.query q name, ts)
      else do
        let (source, ts) ← readSource fuel rest
        let (name, ts) ← readAlias (← expect (.symbol ")") ts)
        return (source.labelled name, ts)
    | ts => do
      let (table, ts) ← readTableName ts
      let (name, ts) ← readAlias ts
      let (index, ts) ← readIndexChoice ts
      return (.table table name index, ts)

def readOrderKeys : Nat → List Lexeme → Except Fault (List OrderKey × List Lexeme)
  | 0, ts => .error (unexpected ts)
  | fuel + 1, ts => do
    let place := signedPlace ts
    let (key, ts) ← readExpr fuel .or ts
    let (direction, ts) := readDirection ts
    let (nullsFirst, ts) ← readNulls direction ts
    match ts with
    | ⟨.symbol ",", _, _⟩ :: rest => do
      let (more, ts) ← readOrderKeys fuel rest
      return (⟨key, direction, nullsFirst, place⟩ :: more, ts)
    | ts => return ([⟨key, direction, nullsFirst, place⟩], ts)

end

/-- How many calls within each other reading these lexemes may need. -/
def readingDepth (ts : List Lexeme) : Nat := 24 * (ts.length + 1)

namespace Expr

def ofLexemes (ts : List Lexeme) : Except Fault (Expr × List Lexeme) :=
  readExpr (readingDepth ts) .or ts

end Expr

namespace SelectQuery

def ofLexemes (ts : List Lexeme) : Except Fault (SelectQuery × List Lexeme) :=
  readQuery (readingDepth ts) ts

end SelectQuery

end CriteriaSearch.Sql
