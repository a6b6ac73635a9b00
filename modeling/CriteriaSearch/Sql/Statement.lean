import CriteriaSearch.Sql.Evaluation
import CriteriaSearch.Sql.Grammar

namespace CriteriaSearch.Sql

inductive Conflict where
  /-- The statement has no effect. -/
  | abort
  /-- The statement ends and keeps the effect it had so far. -/
  | fail
  /-- The row is left out. -/
  | ignore
  /-- The rows that it conflicts with are removed. -/
  | replace
  /-- The transaction has no effect. -/
  | rollback
  deriving DecidableEq, Repr

structure ColumnDeclaration where
  name : String
  type : String
  /-- What happens to a row that has no value here; none if it may have none. -/
  notNull : Option Conflict
  collation : Collation
  default : Expr

structure Check where
  column : Option String
  name : Option String
  written : String
  condition : Expr

namespace Check

def label (c : Check) : String := c.name.getD c.written

end Check

inductive KeyOrigin where
  | primary
  | column
  | table
  | statement
  deriving DecidableEq, Repr

/-- Expressions whose values no two rows share, and what happens to a row that has those of
another. -/
structure Key where
  parts : List Expr
  conflict : Conflict
  origin : KeyOrigin

def Key.columns? (key : Key) : Option (List String) :=
  key.parts.mapM fun
    | .column none name _ | .quoted name => some (foldName name)
    | _ => none

structure TableDeclaration where
  columns : List ColumnDeclaration
  /-- The column that shows the identifiers of rows. -/
  idColumn : Option String
  idConflict : Conflict
  /-- Identifiers are never given twice. -/
  countsIds : Bool
  primaryKey : Option (List (Expr × Direction))
  keys : List Key
  checks : List Check
  /-- The key by which rows are listed if their identifiers have no name. -/
  order : Option (List (Expr × Direction))
  /-- Columns store nothing but values of their types. -/
  isStrict : Bool

/-- What happens to a new row that has the key of another one. -/
structure Upsert where
  target : Option (List Expr)
  /-- The changes of the other row; without them, nothing happens. -/
  changes : Option (List (String × Expr))
  condition : Option Expr

structure ViewDeclaration where
  name : TableName
  last : Lexeme
  columns : Option (List String)
  query : SelectQuery

inductive Tidying where
  | analyze
  | reindex
  deriving DecidableEq, Repr

inductive Statement where
  /-- `declaration` is absent if the table is there already and need not be made. -/
  | createTable (table : TableName) (declaration : Option TableDeclaration)
  | createTableAs (ifMissing : Bool) (table : TableName) (q : SelectQuery)
  | dropTable (ifExists : Bool) (table : TableName)
  | createView (ifMissing : Bool) (view : ViewDeclaration)
  | dropView (ifExists : Bool) (view : TableName)
  | createIndex (unique ifMissing : Bool) (index : TableName) (table : String)
      (parts : List Expr) (condition : Option Expr)
  | dropIndex (ifExists : Bool) (index : TableName)
  | renameTable (table : TableName) (name : String)
  | renameColumn (table : TableName) (column : String) (place : List Char) (name : String)
  /-- The fault of the declaration counts only if the table is there. -/
  | addColumn (table : TableName) (declaration : Except Fault TableDeclaration)
  | dropColumn (table : TableName) (column : String) (place : List Char)
  /-- The conflict is what the statement says in place of what the rules of the table say. Without
  columns, the values are for all columns in their order. Without a query, every column has its
  default. -/
  | insert (conflict : Option Conflict) (table : TableName) (label : Option String)
      (columns : Option (List String)) (source : Option SelectQuery) (upserts : List Upsert)
      (returning : List ResultColumn)
  | update (conflict : Option Conflict) (table : TableName) (label : Option String)
      (changes : List (String × Expr)) (condition : Option Expr) (returning : List ResultColumn)
  | delete (table : TableName) (label : Option String) (condition : Option Expr)
      (returning : List ResultColumn)
  | query (q : SelectQuery)
  | begin
  | commit
  | rollback
  | savepoint (name : String)
  | release (name : String)
  | rollbackTo (name : String)
  | vacuum (database : Option String) (place : List Char)
  | tidy (what : Tidying) (subject : Option TableName) (place : List Char)
  | attach
  | detach (database : String)
  | nothing
  | explain (s : Statement)

namespace TableDeclaration

def empty : TableDeclaration := ⟨[], none, .abort, false, none, [], [], none, false⟩

def mapLast (t : TableDeclaration) (f : ColumnDeclaration → ColumnDeclaration) :
    TableDeclaration :=
  match t.columns.reverse with
  | c :: cs => { t with columns := (f c :: cs).reverse }
  | [] => t

def names (t : TableDeclaration) : List String := t.columns.map ColumnDeclaration.name

/-- The table with one more key. A key of the columns of another one adds nothing but what happens
to rows, which the other one may leave open. -/
def withKey (t : TableDeclaration) (key : Key) : Except Fault TableDeclaration :=
  let same (other : Key) : Bool := key.columns?.isSome && other.columns? == key.columns?
  match t.keys.find? same with
  | none => .ok { t with keys := t.keys ++ [key] }
  | some other =>
    if other.conflict ≠ key.conflict ∧ other.conflict ≠ .abort ∧ key.conflict ≠ .abort then
      .error .differentRules
    else
      let merged : Key :=
        { other with
          conflict := if other.conflict = .abort then key.conflict else other.conflict
          origin := if key.origin = .primary then .primary else other.origin }
      .ok { t with keys := t.keys.map fun other => if same other then merged else other }

end TableDeclaration

namespace Statement

/-! ## Tables -/

def readConflictWord (ts : List Lexeme) : Except Fault (Conflict × List Lexeme) :=
  match ts with
  | ⟨.keyword "ABORT", _, _⟩ :: rest => .ok (.abort, rest)
  | ⟨.keyword "FAIL", _, _⟩ :: rest => .ok (.fail, rest)
  | ⟨.keyword "IGNORE", _, _⟩ :: rest => .ok (.ignore, rest)
  | ⟨.keyword "REPLACE", _, _⟩ :: rest => .ok (.replace, rest)
  | ⟨.keyword "ROLLBACK", _, _⟩ :: rest => .ok (.rollback, rest)
  | ts => .error (unexpected ts)

def readConflictClause (ts : List Lexeme) : Except Fault (Conflict × List Lexeme) :=
  match ts with
  | ⟨.keyword "ON", _, _⟩ :: ⟨.keyword "CONFLICT", _, _⟩ :: rest => readConflictWord rest
  | ts => .ok (.abort, ts)

def readNames (ts : List Lexeme) : Except Fault (List String × List Lexeme) :=
  readCommaList readName (ts.length + 1) ts

def readKeyPart (ts : List Lexeme) : Except Fault ((Expr × Direction) × List Lexeme) := do
  let (e, ts) ← Expr.ofLexemes ts
  let (direction, ts) := readDirection ts
  return ((e, direction), ts)

def readKeyParts (ts : List Lexeme) : Except Fault (List Expr × List Lexeme) := do
  let ts ← expect (.symbol "(") ts
  let (parts, ts) ← readCommaList readKeyPart (ts.length + 1) ts
  return (parts.map Prod.fst, ts)

/-- Reads a part of a primary key, and whether identifiers are never given twice. -/
def readPrimaryPart (ts : List Lexeme) :
    Except Fault (((Expr × Direction) × Bool) × List Lexeme) := do
  let (part, ts) ← readKeyPart ts
  match afterKeywords? ["AUTOINCREMENT"] ts with
  | some ts => return ((part, true), ts)
  | none => return ((part, false), ts)

def readEnclosedExpr (ts : List Lexeme) : Except Fault ((Expr × String) × List Lexeme) := do
  let inner ← expect (.symbol "(") ts
  let (e, after) ← Expr.ofLexemes inner
  return ((e, textBefore inner after), ← expect (.symbol ")") after)

def isTerm (l : Lexeme) : Bool :=
  match l.token with
  | .number _ | .text _ | .blob _ | .keyword "NULL" | .keyword "CURRENT_TIME"
  | .keyword "CURRENT_DATE" | .keyword "CURRENT_TIMESTAMP" => true
  | _ => false

def readDefault (column : String) (ts : List Lexeme) : Except Fault (Expr × List Lexeme) := do
  match ts with
  | ⟨.symbol "(", _, _⟩ :: _ => do
    let ((e, _), ts) ← readEnclosedExpr ts
    match e.check Names.none with
    | .error (.unknownName _ _) => throw (.changingDefault column)
    | _ => return (e, ts)
  | ⟨.symbol "-", _, _⟩ :: rest | ⟨.symbol "+", _, _⟩ :: rest =>
    if rest.head?.any isTerm then readOperand (readingDepth ts) ts else throw (unexpected rest)
  | l :: rest =>
    if isTerm l then readOperand 2 ts
    else
      match l.word? with
      | some name =>
        match Expr.truthName? name with
        | some b => return (.literal (.ofBool b), rest)
        | none => return (.literal (.text name), rest)
      | none => throw (unexpected ts)
  | [] => throw .incomplete

def columnWords : List String := [
  "CONSTRAINT", "DEFAULT", "NOT", "NULL", "PRIMARY", "UNIQUE", "CHECK", "REFERENCES", "COLLATE",
  "DEFERRABLE", "AS", "GENERATED"]

def tableWords : List String := ["CONSTRAINT", "PRIMARY", "UNIQUE", "CHECK", "FOREIGN"]

/-- The table with a primary key of some parts, which shows the identifiers if it is a single column
of integers that is not declared to descend. -/
def withPrimaryKey (name : String) (t : TableDeclaration) (parts : List (Expr × Direction))
    (descends counts : Bool) (conflict : Conflict) : Except Fault TableDeclaration :=
  if t.primaryKey.isSome then .error (.severalPrimaryKeys name)
  else
    let idColumn? : Option String := match parts with
      | [(.column none column _, _)] | [(.quoted column, _)] =>
        (t.columns.find? fun c => sameName c.name column && sameName c.type "INTEGER").map
          ColumnDeclaration.name
      | _ => none
    let t := { t with primaryKey := some parts }
    match idColumn?, descends with
    | some column, false =>
      .ok { t with idColumn := some column, countsIds := counts, idConflict := conflict }
    | _, _ =>
      if counts then .error .misplacedCounter
      else t.withKey ⟨parts.map Prod.fst, conflict, .primary⟩

def readReference : Nat → List Lexeme → Except Fault (List Lexeme)
  | 0, ts => .error (unexpected ts)
  | fuel + 1, ts =>
    match ts with
    | ⟨.keyword "ON", _, _⟩ :: ⟨.keyword event, _, _⟩ :: rest =>
      if ["DELETE", "UPDATE", "INSERT"].contains event then
        match rest with
        | ⟨.keyword "SET", _, _⟩ :: ⟨.keyword "NULL", _, _⟩ :: rest
        | ⟨.keyword "SET", _, _⟩ :: ⟨.keyword "DEFAULT", _, _⟩ :: rest
        | ⟨.keyword "NO", _, _⟩ :: ⟨.keyword "ACTION", _, _⟩ :: rest
        | ⟨.keyword "CASCADE", _, _⟩ :: rest
        | ⟨.keyword "RESTRICT", _, _⟩ :: rest => readReference fuel rest
        | rest => .error (unexpected rest)
      else .error (unexpected (ts.drop 1))
    | ⟨.keyword "MATCH", _, _⟩ :: rest => do readReference fuel (← readName rest).2
    | ⟨.keyword "NOT", _, _⟩ :: ⟨.keyword "DEFERRABLE", _, _⟩ :: rest
    | ⟨.keyword "DEFERRABLE", _, _⟩ :: rest =>
      match rest with
      | ⟨.keyword "INITIALLY", _, _⟩ :: ⟨.keyword "DEFERRED", _, _⟩ :: rest
      | ⟨.keyword "INITIALLY", _, _⟩ :: ⟨.keyword "IMMEDIATE", _, _⟩ :: rest => .ok rest
      | rest => .ok rest
    | ts => .ok ts

/-- The declaration of a column may go on like this, or end here. -/
def continuesColumn : List Lexeme → Bool
  | ⟨.symbol ",", _, _⟩ :: _ | ⟨.symbol ")", _, _⟩ :: _ => true
  | ts => startsWithKeyword columnWords ts

def readReferred (ts : List Lexeme) : Except Fault (List Lexeme) := do
  let (_, ts) ← readName ts
  let ts ← match ts with
    | ⟨.symbol "(", _, _⟩ :: rest => do pure (← readNames rest).2
    | ts => pure ts
  readReference (ts.length + 1) ts

def readConstraints (table : String) : Nat → Option String → TableDeclaration → List Lexeme →
    Except Fault (TableDeclaration × List Lexeme)
  | 0, _, _, ts => .error (unexpected ts)
  | fuel + 1, label, t, ts => do
    let column := (t.names.getLast?).getD ""
    match ts with
    | ⟨.keyword "CONSTRAINT", _, _⟩ :: rest => do
      let (label, ts) ← readName rest
      readConstraints table fuel (some label) t ts
    | ⟨.keyword "DEFAULT", _, _⟩ :: rest => do
      let (e, ts) ← readDefault column rest
      readConstraints table fuel none (t.mapLast fun c => { c with default := e }) ts
    | ⟨.keyword "NULL", _, _⟩ :: rest => do
      let (_, ts) ← readConflictClause rest
      readConstraints table fuel none t ts
    | ⟨.keyword "NOT", _, _⟩ :: ⟨.keyword "NULL", _, _⟩ :: rest => do
      let (conflict, ts) ← readConflictClause rest
      readConstraints table fuel none (t.mapLast fun c => { c with notNull := some conflict }) ts
    | ⟨.keyword "PRIMARY", _, _⟩ :: rest => do
      let (direction, ts) := readDirection (← expect (.keyword "KEY") rest)
      let (conflict, ts) ← readConflictClause ts
      let (counts, ts) := match afterKeywords? ["AUTOINCREMENT"] ts with
        | some ts => (true, ts)
        | none => (false, ts)
      if t.primaryKey.isSome && !continuesColumn ts then throw (unexpected ts)
      let t ← withPrimaryKey table t [(.column none column [], direction)]
        (direction == .descending) counts conflict
      readConstraints table fuel none t ts
    | ⟨.keyword "UNIQUE", _, _⟩ :: rest => do
      let (conflict, ts) ← readConflictClause rest
      let t ← t.withKey ⟨[.column none column []], conflict, .column⟩
      readConstraints table fuel none t ts
    | ⟨.keyword "CHECK", _, _⟩ :: rest => do
      let ((e, written), ts) ← readEnclosedExpr rest
      readConstraints table fuel none
        { t with checks := t.checks ++ [⟨some column, label, written, e⟩] } ts
    | ⟨.keyword "REFERENCES", _, _⟩ :: rest => do
      readConstraints table fuel none t (← readReferred rest)
    | ⟨.keyword "COLLATE", _, _⟩ :: rest => do
      let (name, ts) ← readName rest
      match Collation.ofName? name with
      | some collation =>
        readConstraints table fuel none (t.mapLast fun c => { c with collation := collation }) ts
      | none => throw (.noSuchCollation name)
    | ts => return (t, ts)

/-- Reads the declaration of a column. A name that another column has is a fault if that is to be
checked. -/
def readColumn (table : String) (checked : Bool) (t : TableDeclaration) (ts : List Lexeme) :
    Except Fault (TableDeclaration × List Lexeme) := do
  let (name, ts) ← readName ts
  let (type, ts) ← readType ts
  if checked && continuesColumn ts && t.names.any (sameName name) then
    throw (.duplicateColumn name)
  let column : ColumnDeclaration := ⟨name, type, none, .binary, .literal .null⟩
  readConstraints table (ts.length + 1) none { t with columns := t.columns ++ [column] } ts

def readTableConstraint (table : String) (label : Option String) (t : TableDeclaration)
    (ts : List Lexeme) : Except Fault (TableDeclaration × List Lexeme) := do
  match ts with
  | ⟨.keyword "PRIMARY", _, _⟩ :: rest => do
    let ts ← expect (.symbol "(") (← expect (.keyword "KEY") rest)
    let (parts, ts) ← readCommaList readPrimaryPart (ts.length + 1) ts
    let (conflict, ts) ← readConflictClause ts
    let t ← withPrimaryKey table t (parts.map Prod.fst) false (parts.any Prod.snd) conflict
    return (t, ts)
  | ⟨.keyword "UNIQUE", _, _⟩ :: rest => do
    let (parts, ts) ← readKeyParts rest
    let (conflict, ts) ← readConflictClause ts
    return (← t.withKey ⟨parts, conflict, .table⟩, ts)
  | ⟨.keyword "CHECK", _, _⟩ :: rest => do
    let ((e, written), ts) ← readEnclosedExpr rest
    let (_, ts) ← readConflictClause ts
    return ({ t with checks := t.checks ++ [⟨none, label, written, e⟩] }, ts)
  | ⟨.keyword "FOREIGN", _, _⟩ :: rest => do
    let ts ← expect (.symbol "(") (← expect (.keyword "KEY") rest)
    let (_, ts) ← readNames ts
    return (t, ← readReferred (← expect (.keyword "REFERENCES") ts))
  | ts => throw (unexpected ts)

def readTableConstraints (table : String) : Nat → TableDeclaration → List Lexeme →
    Except Fault (TableDeclaration × List Lexeme)
  | 0, _, ts => .error (unexpected ts)
  | fuel + 1, t, ts => do
    let (label, ts) ← match ts with
      | ⟨.keyword "CONSTRAINT", _, _⟩ :: rest => do
        let (label, ts) ← readName rest
        pure (some label, ts)
      | ts => pure (none, ts)
    let (t, ts) ← readTableConstraint table label t ts
    match ts with
    | ⟨.symbol ",", _, _⟩ :: rest => readTableConstraints table fuel t rest
    | ⟨.symbol ")", _, _⟩ :: rest => return (t, rest)
    | ts =>
      if startsWithKeyword tableWords ts then readTableConstraints table fuel t ts
      else throw (unexpected ts)

def readColumns (table : String) (checked : Bool) : Nat → TableDeclaration → List Lexeme →
    Except Fault (TableDeclaration × List Lexeme)
  | 0, _, ts => .error (unexpected ts)
  | fuel + 1, t, ts => do
    let (t, ts) ← readColumn table checked t ts
    match ts with
    | ⟨.symbol ",", _, _⟩ :: rest =>
      if startsWithKeyword tableWords rest then readTableConstraints table (rest.length + 1) t rest
      else readColumns table checked fuel t rest
    | ⟨.symbol ")", _, _⟩ :: rest => return (t, rest)
    | ts =>
      if startsWithKeyword tableWords ts then readTableConstraints table (ts.length + 1) t ts
      else throw (unexpected ts)

/-- The table with columns that may not be missing where they are parts of a key. -/
def withoutNulls (parts : List Expr) (t : TableDeclaration) : TableDeclaration :=
  let isPart (c : ColumnDeclaration) : Bool := parts.any fun
    | .column none column _ | .quoted column => sameName column c.name
    | _ => false
  { t with
    columns := t.columns.map fun c =>
      if isPart c then { c with notNull := c.notNull.or (some .abort) } else c }

/-- The table with rows that are listed by its primary key and whose identifiers have no name. -/
def withoutIds (name : String) (t : TableDeclaration) : Except Fault TableDeclaration :=
  match t.primaryKey with
  | none => .error (.missingPrimaryKey name)
  | some parts =>
    if t.countsIds then .error .counterWithoutIds
    else
      let es := parts.map Prod.fst
      let keys := if t.idColumn.isSome then t.keys ++ [⟨es, t.idConflict, .primary⟩] else t.keys
      .ok { withoutNulls es t with keys := keys, idColumn := none, order := some parts }

def strictTypes : List String := ["int", "integer", "real", "text", "blob", "any"]

def madeStrict (name : String) (t : TableDeclaration) : Except Fault TableDeclaration :=
  match t.columns.find? fun c => !strictTypes.contains (foldName c.type) with
  | some c =>
    if c.type = "" then .error (.missingType name c.name)
    else .error (.unknownType name c.name c.type)
  | none =>
    let parts := if t.idColumn.isSome then [] else (t.primaryKey.getD []).map Prod.fst
    .ok { withoutNulls parts t with isStrict := true }

def atEnd : List Lexeme → Bool
  | [] | ⟨.symbol ";", _, _⟩ :: _ => true
  | _ => false

def readOptions : Nat → Bool × Bool → List Lexeme → Except Fault ((Bool × Bool) × List Lexeme)
  | 0, _, ts => .error (unexpected ts)
  | fuel + 1, (noIds, strict), ts => do
    let (options, ts) ← match ts with
      | ⟨.keyword "WITHOUT", _, _⟩ :: l :: rest =>
        match l.word? with
        | some option =>
          if sameName option "rowid" then pure ((true, strict), rest)
          else throw (.unknownOption option)
        | none => throw (unexpected (l :: rest))
      | ⟨.keyword "WITHOUT", _, _⟩ :: [] => throw .incomplete
      | l :: rest =>
        match l.word? with
        | some option =>
          if sameName option "strict" then pure ((noIds, true), rest)
          else throw (.unknownOption option)
        | none => throw (unexpected ts)
      | [] => throw .incomplete
    match ts with
    | ⟨.symbol ",", _, _⟩ :: rest => readOptions fuel options rest
    | ts => if atEnd ts then return (options, ts) else throw (unexpected ts)

def withOptions (name : String) (options : Bool × Bool) (t : TableDeclaration) :
    Except Fault TableDeclaration := do
  let t ← if options.2 then madeStrict name t else pure t
  if options.1 then withoutIds name t else return t

structure NameState where
  exists? : Bool
  fault : Option Fault

def placeOf (ts : List Lexeme) : List Char := (ts.head?.map Lexeme.start).getD []

/-- Reads whether a statement counts only if something does or does not exist. -/
def readIf (words : List String) (ts : List Lexeme) : Except Fault (Bool × List Lexeme) :=
  match ts with
  | ⟨.keyword "IF", _, _⟩ :: rest => do return (true, ← expectKeywords words rest)
  | ts => .ok (false, ts)

/-- The lexeme of the name itself in a name that may be qualified. -/
def lastLexeme (table : TableName) (l : Lexeme) (ts : List Lexeme) : Lexeme :=
  if table.database.isSome then (ts[2]?).getD l else l

def temporaryName (table : TableName) : TableName := ⟨some (table.database.getD "temp"), table.name⟩

def readCreateTable (state : TableName → Lexeme → Lexeme → NameState) (isTemporary : Bool)
    (ts : List Lexeme) : Except Fault (Statement × List Lexeme) := do
  let (ifMissing, ts) ← readIf ["NOT", "EXISTS"] ts
  match ts with
  | [] => throw .incomplete
  | l :: _ =>
    let (table, after) ← readTableName ts
    let last := lastLexeme table l ts
    let table := if isTemporary then temporaryName table else table
    let state := state table l last
    let fault := if isTemporary && !table.isTemporary then some .qualifiedTemporary else state.fault
    match after with
    | ⟨.symbol "(", _, _⟩ :: rest =>
      let isThere := ifMissing && state.exists?
      if !isThere then
        match fault with
        | some fault => throw fault
        | none => pure ()
      let (t, ts) ← readColumns table.name (!isThere) (rest.length + 1) .empty rest
      let (options, ts) ← if atEnd ts then pure ((false, false), ts)
        else readOptions (ts.length + 1) (false, false) ts
      let t ← withOptions table.name options t
      return (.createTable table (if isThere then none else some t), ts)
    | ⟨.keyword "AS", _, _⟩ :: rest =>
      if !(ifMissing && state.exists?) then
        match fault with
        | some fault => throw fault
        | none => pure ()
      let (q, ts) ← SelectQuery.ofLexemes rest
      return (.createTableAs ifMissing table q, ts)
    | ts => throw (unexpected ts)

def readOptional (word : String) (ts : List Lexeme) :
    Except Fault (Option Expr × List Lexeme) :=
  readAfter (readingDepth ts) word ts

def readCreateIndex (unique : Bool) (ts : List Lexeme) :
    Except Fault (Statement × List Lexeme) := do
  let (ifMissing, ts) ← readIf ["NOT", "EXISTS"] ts
  let (index, ts) ← readTableName ts
  let (table, ts) ← readName (← expect (.keyword "ON") ts)
  let (parts, ts) ← readKeyParts ts
  let (condition, ts) ← readOptional "WHERE" ts
  return (.createIndex unique ifMissing index table parts condition, ts)

def readCreateView (isTemporary : Bool) (ts : List Lexeme) :
    Except Fault (Statement × List Lexeme) := do
  let (ifMissing, ts) ← readIf ["NOT", "EXISTS"] ts
  match ts with
  | [] => throw .incomplete
  | l :: _ =>
    let (view, after) ← readTableName ts
    let last := lastLexeme view l ts
    let view := if isTemporary then temporaryName view else view
    let (columns, ts) ← match after with
      | ⟨.symbol "(", _, _⟩ :: rest => do
        let (names, ts) ← readNames rest
        pure (some names, ts)
      | ts => pure (none, ts)
    let (q, ts) ← SelectQuery.ofLexemes (← expect (.keyword "AS") ts)
    return (.createView ifMissing ⟨view, last, columns, q⟩, ts)

def readCreate (state : TableName → Lexeme → Lexeme → NameState) (ts : List Lexeme) :
    Except Fault (Statement × List Lexeme) :=
  match ts with
  | ⟨.keyword "TABLE", _, _⟩ :: rest => readCreateTable state false rest
  | ⟨.keyword "INDEX", _, _⟩ :: rest => readCreateIndex false rest
  | ⟨.keyword "UNIQUE", _, _⟩ :: rest => do
    readCreateIndex true (← expect (.keyword "INDEX") rest)
  | ⟨.keyword "VIEW", _, _⟩ :: rest => readCreateView false rest
  | ⟨.keyword "TEMP", _, _⟩ :: rest | ⟨.keyword "TEMPORARY", _, _⟩ :: rest =>
    match rest with
    | ⟨.keyword "TABLE", _, _⟩ :: rest => readCreateTable state true rest
    | ⟨.keyword "VIEW", _, _⟩ :: rest => readCreateView true rest
    | rest => .error (unexpected rest)
  | ts => .error (unexpected ts)

def readDrop (ts : List Lexeme) : Except Fault (Statement × List Lexeme) := do
  let readOne (rest : List Lexeme) (make : Bool → TableName → Statement) :
      Except Fault (Statement × List Lexeme) := do
    let (ifExists, ts) ← readIf ["EXISTS"] rest
    let (name, ts) ← readTableName ts
    return (make ifExists name, ts)
  match ts with
  | ⟨.keyword "TABLE", _, _⟩ :: rest => readOne rest .dropTable
  | ⟨.keyword "INDEX", _, _⟩ :: rest => readOne rest .dropIndex
  | ⟨.keyword "VIEW", _, _⟩ :: rest => readOne rest .dropView
  | ts => throw (unexpected ts)

def readAlter (ts : List Lexeme) : Except Fault (Statement × List Lexeme) := do
  let (table, ts) ← readTableName (← expect (.keyword "TABLE") ts)
  let afterColumn (ts : List Lexeme) := (afterKeywords? ["COLUMN"] ts).getD ts
  match ts with
  | ⟨.keyword "RENAME", _, _⟩ :: ⟨.keyword "TO", _, _⟩ :: rest => do
    let (name, ts) ← readName rest
    return (.renameTable table name, ts)
  | ⟨.keyword "RENAME", _, _⟩ :: rest => do
    let rest := afterColumn rest
    let (column, ts) ← readName rest
    let (name, ts) ← readName (← expect (.keyword "TO") ts)
    return (.renameColumn table column (placeOf rest) name, ts)
  | ⟨.keyword "ADD", _, _⟩ :: rest => do
    match readColumn table.name false .empty (afterColumn rest) with
    | .ok (t, ts) =>
      if atEnd ts then return (.addColumn table (.ok t), ts)
      else return (.addColumn table (.error (unexpected ts)), [])
    | .error fault => return (.addColumn table (.error fault), [])
  | ⟨.keyword "DROP", _, _⟩ :: rest => do
    let rest := afterColumn rest
    let (column, ts) ← readName rest
    return (.dropColumn table column (placeOf rest), ts)
  | ts => throw (unexpected ts)

/-! ## Rows -/

def readConflict (ts : List Lexeme) : Except Fault (Option Conflict × List Lexeme) :=
  match ts with
  | ⟨.keyword "OR", _, _⟩ :: rest => do
    let (conflict, ts) ← readConflictWord rest
    return (some conflict, ts)
  | ts => .ok (none, ts)

def readTarget (ts : List Lexeme) :
    Except Fault ((TableName × Option String) × List Lexeme) := do
  let (table, ts) ← readTableName ts
  let (name, ts) ← match ts with
    | ⟨.keyword "AS", _, _⟩ :: rest => do
      let (name, ts) ← readName rest
      pure (some name, ts)
    | ts => pure (none, ts)
  let (_, ts) ← readIndexChoice ts
  return ((table, name), ts)

def readReturning (ts : List Lexeme) : Except Fault (List ResultColumn × List Lexeme) :=
  match ts with
  | ⟨.keyword "RETURNING", _, _⟩ :: rest => Sql.readColumns (readingDepth rest) rest
  | ts => .ok ([], ts)

def readChanges : Nat → List Lexeme → Except Fault (List (String × Expr) × List Lexeme)
  | 0, ts => .error (unexpected ts)
  | fuel + 1, ts => do
    let (changes, ts) ← match ts with
      | ⟨.symbol "(", _, _⟩ :: rest => do
        let (names, ts) ← readNames rest
        let (value, ts) ← Expr.ofLexemes (← expect (.symbol "=") ts)
        match value with
        | .row items =>
          if items.length = names.length then pure (names.zip items, ts)
          else throw (.assignedCount names.length items.length)
        | .query q _ _ =>
          let part (n : Nat) : Expr := .query q n names.length
          pure (names.zip ((List.range names.length).map part), ts)
        | e =>
          if names.length = 1 then pure (names.map fun name => (name, e), ts)
          else throw (.assignedCount names.length 1)
      | ts => do
        let (name, ts) ← readName ts
        let (value, ts) ← Expr.ofLexemes (← expect (.symbol "=") ts)
        pure ([(name, value)], ts)
    match ts with
    | ⟨.symbol ",", _, _⟩ :: rest => do
      let (more, ts) ← readChanges fuel rest
      return (changes ++ more, ts)
    | ts => return (changes, ts)

def readUpserts : Nat → List Lexeme → Except Fault (List Upsert × List Lexeme)
  | 0, ts => .error (unexpected ts)
  | fuel + 1, ts => do
    match ts with
    | ⟨.keyword "ON", _, _⟩ :: rest => do
      let ts ← expect (.keyword "CONFLICT") rest
      let (target, ts) ← match ts with
        | ⟨.symbol "(", _, _⟩ :: _ => do
          let (parts, ts) ← readKeyParts ts
          let (_, ts) ← readOptional "WHERE" ts
          pure (some parts, ts)
        | ts => pure (none, ts)
      let ts ← expect (.keyword "DO") ts
      match ts with
      | ⟨.keyword "NOTHING", _, _⟩ :: rest => do
        let (more, ts) ← readUpserts fuel rest
        return (⟨target, none, none⟩ :: more, ts)
      | ts => do
        let ts ← expectKeywords ["UPDATE", "SET"] ts
        let (changes, ts) ← readChanges (ts.length + 1) ts
        let (condition, ts) ← readOptional "WHERE" ts
        let (more, ts) ← readUpserts fuel ts
        return (⟨target, some changes, condition⟩ :: more, ts)
    | ts => return ([], ts)

def readInsert (conflict : Option Conflict) (ts : List Lexeme) :
    Except Fault (Statement × List Lexeme) := do
  let ((table, name), ts) ← readTarget (← expect (.keyword "INTO") ts)
  let (columns, ts) ← match ts with
    | ⟨.symbol "(", _, _⟩ :: rest => do
      let (names, ts) ← readNames rest
      pure (some names, ts)
    | ts => pure (none, ts)
  match ts with
  | ⟨.keyword "DEFAULT", _, _⟩ :: rest => do
    let (returning, ts) ← readReturning (← expect (.keyword "VALUES") rest)
    return (.insert conflict table name columns none [] returning, ts)
  | ts => do
    let (q, ts) ← SelectQuery.ofLexemes ts
    let (upserts, ts) ← readUpserts (ts.length + 1) ts
    let (returning, ts) ← readReturning ts
    return (.insert conflict table name columns (some q) upserts returning, ts)

def readUpdate (ts : List Lexeme) : Except Fault (Statement × List Lexeme) := do
  let (conflict, ts) ← readConflict ts
  let ((table, name), ts) ← readTarget ts
  let ts ← expect (.keyword "SET") ts
  let (changes, ts) ← readChanges (ts.length + 1) ts
  let (condition, ts) ← readOptional "WHERE" ts
  let (returning, ts) ← readReturning ts
  return (.update conflict table name changes condition returning, ts)

def readDelete (ts : List Lexeme) : Except Fault (Statement × List Lexeme) := do
  let ((table, name), ts) ← readTarget (← expect (.keyword "FROM") ts)
  let (condition, ts) ← readOptional "WHERE" ts
  let (returning, ts) ← readReturning ts
  return (.delete table name condition returning, ts)

/-! ## Transactions and the rest -/

def readTransaction (ts : List Lexeme) : List Lexeme :=
  match ts with
  | ⟨.keyword "TRANSACTION", _, _⟩ :: l :: rest =>
    if l.name?.isSome && !startsWithKeyword ["TO"] [l] then rest else l :: rest
  | ⟨.keyword "TRANSACTION", _, _⟩ :: [] => []
  | ts => ts

def readBegin (ts : List Lexeme) : Statement × List Lexeme :=
  let ts := if startsWithKeyword ["DEFERRED", "IMMEDIATE", "EXCLUSIVE"] ts then ts.drop 1 else ts
  (.begin, readTransaction ts)

def readRollback (ts : List Lexeme) : Except Fault (Statement × List Lexeme) := do
  match readTransaction ts with
  | ⟨.keyword "TO", _, _⟩ :: rest => do
    let (name, ts) ← readName ((afterKeywords? ["SAVEPOINT"] rest).getD rest)
    return (.rollbackTo name, ts)
  | ts => return (.rollback, ts)

def readSetting (ts : List Lexeme) : Except Fault (List Lexeme) :=
  match ts with
  | ⟨.keyword "ON", _, _⟩ :: rest | ⟨.keyword "DELETE", _, _⟩ :: rest
  | ⟨.keyword "DEFAULT", _, _⟩ :: rest => .ok rest
  | ts =>
    match readName ts with
    | .ok (_, rest) => .ok rest
    | .error _ => readSigned ts

def readPragma (ts : List Lexeme) : Except Fault (Statement × List Lexeme) := do
  let (_, ts) ← readTableName ts
  match ts with
  | ⟨.symbol "=", _, _⟩ :: rest => do return (.nothing, ← readSetting rest)
  | ⟨.symbol "(", _, _⟩ :: rest => do
    return (.nothing, ← expect (.symbol ")") (← readSetting rest))
  | ts => return (.nothing, ts)

def readSubject (ts : List Lexeme) : Except Fault (Option TableName × List Lexeme) :=
  if atEnd ts then .ok (none, ts)
  else do
    let (name, ts) ← readTableName ts
    return (some name, ts)

def readVacuum (ts : List Lexeme) : Except Fault (Statement × List Lexeme) := do
  let (database, after) ← if atEnd ts || startsWithKeyword ["INTO"] ts then pure (none, ts)
    else do
      let (name, after) ← readName ts
      pure (some name, after)
  let (_, after) ← readOptional "INTO" after
  return (.vacuum database (placeOf ts), after)

def readOther (opens : Bool) (ts : List Lexeme) : Except Fault (Statement × List Lexeme) := do
  let (e, ts) ← Expr.ofLexemes ((afterKeywords? ["DATABASE"] ts).getD ts)
  if opens then
    let (_, ts) ← Expr.ofLexemes (← expect (.keyword "AS") ts)
    let (_, ts) ← match ts with
      | ⟨.keyword "KEY", _, _⟩ :: rest => Expr.ofLexemes rest
      | ts => pure (e, ts)
    return (.attach, ts)
  else
    match e with
    | .column none name _ | .quoted name => return (.detach name, ts)
    | e => return (.detach (String.ofList (e.eval (.ofParams [])).chars), ts)

/-- Reads a statement by its first words. `state` tells what is known of the name of a table to
make, which starts and ends with the given lexemes. -/
def readAny (state : TableName → Lexeme → Lexeme → NameState) (ts : List Lexeme) :
    Except Fault (Statement × List Lexeme) := do
  match ts with
  | ⟨.keyword "SELECT", _, _⟩ :: _ | ⟨.keyword "VALUES", _, _⟩ :: _ => do
    let (q, ts) ← SelectQuery.ofLexemes ts
    return (.query q, ts)
  | ⟨.keyword "CREATE", _, _⟩ :: rest => readCreate state rest
  | ⟨.keyword "DROP", _, _⟩ :: rest => readDrop rest
  | ⟨.keyword "ALTER", _, _⟩ :: rest => readAlter rest
  | ⟨.keyword "INSERT", _, _⟩ :: rest => do
    let (conflict, ts) ← readConflict rest
    readInsert conflict ts
  | ⟨.keyword "REPLACE", _, _⟩ :: rest => readInsert (some .replace) rest
  | ⟨.keyword "UPDATE", _, _⟩ :: rest => readUpdate rest
  | ⟨.keyword "DELETE", _, _⟩ :: rest => readDelete rest
  | ⟨.keyword "BEGIN", _, _⟩ :: rest => return readBegin rest
  | ⟨.keyword "COMMIT", _, _⟩ :: rest | ⟨.keyword "END", _, _⟩ :: rest =>
    return (.commit, readTransaction rest)
  | ⟨.keyword "ROLLBACK", _, _⟩ :: rest => readRollback rest
  | ⟨.keyword "SAVEPOINT", _, _⟩ :: rest => do
    let (name, ts) ← readName rest
    return (.savepoint name, ts)
  | ⟨.keyword "RELEASE", _, _⟩ :: rest => do
    let (name, ts) ← readName ((afterKeywords? ["SAVEPOINT"] rest).getD rest)
    return (.release name, ts)
  | ⟨.keyword "PRAGMA", _, _⟩ :: rest => readPragma rest
  | ⟨.keyword "VACUUM", _, _⟩ :: rest => readVacuum rest
  | ⟨.keyword "ANALYZE", _, _⟩ :: rest => do
    let (subject, ts) ← readSubject rest
    return (.tidy .analyze subject (placeOf rest), ts)
  | ⟨.keyword "REINDEX", _, _⟩ :: rest => do
    let (subject, ts) ← readSubject rest
    return (.tidy .reindex subject (placeOf rest), ts)
  | ⟨.keyword "ATTACH", _, _⟩ :: rest => readOther true rest
  | ⟨.keyword "DETACH", _, _⟩ :: rest => readOther false rest
  | ts => throw (unexpected ts)

def readStatement (state : TableName → Lexeme → Lexeme → NameState) (ts : List Lexeme) :
    Except Fault (Statement × List Lexeme) := do
  match ts with
  | ⟨.keyword "EXPLAIN", _, _⟩ :: rest => do
    let rest ← match rest with
      | ⟨.keyword "QUERY", _, _⟩ :: rest => expect (.keyword "PLAN") rest
      | rest => pure rest
    let (s, ts) ← readAny state rest
    return (.explain s, ts)
  | ts => readAny state ts

/-- Reads the first statement of some lexemes, which a semicolon or the end must follow, and tells
the text after it. Nothing but semicolons is no statement. -/
def readFirst (state : TableName → Lexeme → Lexeme → NameState) :
    List Lexeme → Except Fault (Option Statement × List Char)
  | [] => .ok (none, [])
  | ⟨.symbol ";", _, _⟩ :: rest => readFirst state rest
  | ts => do
    let (s, ts) ← readStatement state ts
    match ts with
    | [] => return (some s, [])
    | ⟨.symbol ";", _, after⟩ :: _ => return (some s, after)
    | ts => throw (unexpected ts)

def ofChars (state : TableName → Lexeme → Lexeme → NameState) (cs : List Char) :
    Except Fault (Option Statement × List Char) :=
  readFirst state (lexemes cs)

end Statement

end CriteriaSearch.Sql
