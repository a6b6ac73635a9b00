import CriteriaSearch.Sql.Statement

/-!
# Tables

A table has columns and rows. Every row has an identifier of its own, and rows are kept in the
order of their identifiers. A column that is declared as integer primary key shows the identifier.
Keys are expressions whose values no two rows share.
-/

namespace CriteriaSearch.Sql

structure Column where
  name : String
  type : String
  affinity : Affinity
  collation : Collation
  notNull : Option Conflict
  isRowId : Bool
  default : Expr

structure Row where
  id : Int
  cells : List Cell
  deriving DecidableEq, Repr

structure Index where
  name : Option String
  /-- What happens to a row with the key of another one; none if rows may share keys. -/
  conflict : Option Conflict
  parts : List Expr
  /-- The rows that the index holds; all of them if there is no condition. -/
  condition : Option Expr
  origin : KeyOrigin

structure Table where
  name : String
  isTemporary : Bool
  columns : List Column
  indexes : List Index
  checks : List Check
  idConflict : Conflict
  /-- The greatest identifier ever given, if identifiers are never given twice. -/
  lastId : Option Int
  order : Option (List (Expr × Direction))
  isStrict : Bool
  rows : Array Row

/-- What expressions see beside the row they are evaluated on. -/
structure Surroundings where
  params : List Cell
  counts : Counts
  ask : Lookup → SelectQuery → Reply

namespace Surroundings

def ofParams (params : List Cell) : Surroundings := ⟨params, .start, fun _ _ => .empty⟩

def scope (s : Surroundings) (column : Lookup) : Scope :=
  ⟨column, s.params, s.ask column, [], s.counts⟩

def bare (s : Surroundings) : Scope := s.scope fun _ _ => none

end Surroundings

namespace Column

/-- The column of a declaration. In a strict table, the type `ANY` keeps values as they are. -/
def ofDeclaration (idColumn : Option String) (isStrict : Bool) (d : ColumnDeclaration) : Column :=
  let affinity := if isStrict && sameName d.type "any" then .blob else .ofDeclaration d.type
  ⟨d.name, d.type, affinity, d.collation, d.notNull, idColumn.any (sameName d.name), d.default⟩

def plain (name type : String) : Column :=
  ⟨name, type, .ofDeclaration type, .binary, none, false, .literal .null⟩

end Column

namespace Table

def ofDeclaration (name : String) (isTemporary : Bool) (d : TableDeclaration) : Table where
  name := name
  isTemporary := isTemporary
  columns := d.columns.map (Column.ofDeclaration d.idColumn d.isStrict)
  indexes := d.keys.map fun key => ⟨none, some key.conflict, key.parts, none, key.origin⟩
  checks := d.checks
  idConflict := d.idConflict
  lastId := if d.countsIds then some 0 else none
  order := d.order
  isStrict := d.isStrict
  rows := #[]

/-- The names that stand for the identifier of a row where no column has them. -/
def rowIdNames : List String := ["rowid", "oid", "_rowid_"]

def isRowIdName (name : String) : Bool := rowIdNames.contains (foldName name)

def hasOwnColumn (t : Table) (name : String) : Bool := t.columns.any fun c => sameName c.name name

def namesId (t : Table) (name : String) : Bool := t.order.isNone && isRowIdName name

def hasColumn (t : Table) (name : String) : Bool := t.hasOwnColumn name || t.namesId name

def lookup (t : Table) (row : Row) (name : String) : Option Slot :=
  match (t.columns.zip row.cells).find? (fun c => sameName c.1.name name) with
  | some (column, cell) => some ⟨cell, some column.affinity, column.collation⟩
  | none => if t.namesId name then some ⟨.integer row.id, some .integer, .binary⟩ else none

def column (t : Table) (label : String) (row : Row) : Lookup := fun table name =>
  if table.all (TableName.means · label) then t.lookup row name else none

def scope (t : Table) (params : List Cell) (row : Row) : Scope :=
  (Surroundings.ofParams params).scope (t.column t.name row)

def names (t : Table) (label : String) (ask : SelectQuery → Except Fault Nat) : Names :=
  ⟨fun table name => table.all (TableName.means · label) && t.hasColumn name, ask, .forbidden⟩

/-! ## Identifiers -/

def nextId (t : Table) : Int :=
  let last : Int := match t.rows.back? with
    | some row => row.id
    | none => 0
  (match t.lastId with
    | some n => max n last
    | none => last) + 1

/-- The identifier that a cell gives a row; a missing cell gives none. -/
def rowId? (c : Cell) : Except Fault (Option Int) :=
  match c.store .numeric with
  | .null => .ok none
  | .integer n => .ok (some n)
  | _ => .error .mismatch

def givesId (t : Table) (name : String) : Bool :=
  match t.columns.find? fun c => sameName c.name name with
  | some c => c.isRowId
  | none => t.namesId name

/-- The value that an insertion gives a column: the first one with its name, if there is one. -/
def givenValue? (column : Column) (values : List (String × Cell)) : Option Cell :=
  (values.find? fun v => sameName v.1 column.name).map Prod.snd

/-- The identifier of a new row: the last value that is given for one, or the next in turn. -/
def newId (t : Table) (values : List (String × Cell)) : Except Fault Int := do
  match (values.filter fun v => t.givesId v.1).getLast? with
  | some (_, c) => return (← rowId? c).getD t.nextId
  | none => return t.nextId

def newCells (t : Table) (id : Int) (values : List (String × Cell)) : List Cell :=
  t.columns.map fun column =>
    if column.isRowId then .integer id
    else ((givenValue? column values).getD (column.default.eval (.ofParams []))).store
      column.affinity

/-- The first column that may not be missing and is, with what happens then. -/
def missingColumn? (t : Table) (cells : List Cell) : Option (Column × Conflict) :=
  (t.columns.zip cells).findSome? fun (column, cell) =>
    if cell.isNull && !column.isRowId then column.notNull.map fun conflict => (column, conflict)
    else none

/-- The cells with defaults in place of missing ones where those would be replaced. -/
def withDefaults (t : Table) (action : Conflict → Conflict) (cells : List Cell) : List Cell :=
  (t.columns.zip cells).map fun (column, cell) =>
    if cell.isNull && !column.isRowId && column.notNull.any (action · == .replace) then
      (column.default.eval (.ofParams [])).store column.affinity
    else cell

def strictKind (type : String) : String :=
  let type := foldName type
  if type = "int" then "integer" else type

def strayCell? (t : Table) (cells : List Cell) : Option (Column × Cell) :=
  if t.isStrict then
    (t.columns.zip cells).find? fun (column, cell) =>
      !cell.isNull && strictKind column.type != "any" && strictKind column.type != cell.kindName
  else none

/-- The table with an identifier that has been given to a row, even if the row is left out then. -/
def noteId (t : Table) (id : Int) : Table := { t with lastId := t.lastId.map (max id) }

def place (t : Table) (row : Row) : Table :=
  if t.rows.back?.all (fun last => last.id < row.id) then
    { t with rows := t.rows.push row }
  else
    { t with
      rows := t.rows.filter (fun r => r.id < row.id) ++ #[row] ++
        t.rows.filter fun r => row.id < r.id }

def remove (t : Table) (id : Int) : Table := { t with rows := t.rows.filter fun r => r.id != id }

/-- The column whose name a fault about identifiers gives. -/
def idColumn (t : Table) : String :=
  match t.columns.find? Column.isRowId with
  | some c => c.name
  | none => "rowid"

/-! ## Keys -/

/-- The key of a row in an index, with how its parts are compared; none if the index does not hold
the row. -/
def key? (t : Table) (i : Index) (row : Row) : Option (List (Cell × Collation)) :=
  let scope := t.scope [] row
  if i.condition.all (Expr.holds scope) then
    some (i.parts.map fun e => (e.eval scope, e.collation scope))
  else none

/-- Two keys are the same; a key with a missing part is like no other. -/
def sameKey (a b : List (Cell × Collation)) : Bool :=
  a.length == b.length &&
    (a.zip b).all fun (x, y) =>
      !x.1.isNull && !y.1.isNull && x.1.orderBy x.2 y.1 == .eq

def sharing (t : Table) (i : Index) (row : Row) : List Row :=
  match if i.conflict.isSome then t.key? i row else none with
  | some key => t.rows.toList.filter fun other => (t.key? i other).any (sameKey key)
  | none => []

/-- What no two rows of a table share: the identifier, or the key in an index. -/
inductive Identity where
  | id
  | key (i : Index)

def Identity.isId : Identity → Bool
  | .id => true
  | .key _ => false

def holders (t : Table) (what : Identity) (row : Row) : List Row :=
  match what with
  | .id =>
    if t.rows.back?.any fun last => row.id ≤ last.id then
      t.rows.toList.filter fun r => r.id == row.id
    else []
  | .key i => t.sharing i row

def columnName? : Expr → Option String
  | .column none name _ | .quoted name => some name
  | _ => none

def keyFault (t : Table) (what : Identity) : Fault :=
  let written (e : Expr) : Option String := (columnName? e).bind fun name =>
    (t.columns.find? fun c => sameName c.name name).map fun c => t.name ++ "." ++ c.name
  match what with
  | .id => .notUnique [t.name ++ "." ++ t.idColumn]
  | .key i =>
    match i.parts.mapM written, i.name with
    | some names, _ => .notUnique names
    | none, some name => .notUniqueIndex name
    | none, none => .notUnique []

def isIdentityOf (t : Table) (parts : List Expr) (what : Identity) : Bool :=
  match parts.mapM columnName? with
  | none => false
  | some names =>
    let folded := names.map foldName
    let matching (others : List String) : Bool :=
      others.length == folded.length && folded.all (others.map foldName).contains
    match what with
    | .id => names.length == 1 && names.all t.givesId
    | .key i => i.condition.isNone && (i.parts.mapM columnName?).any matching

/-- What no two rows share, in the order in which a new row is tested for it, with what happens
then. The latest keys come first, and those that are declared to replace rows come last. What is
among the `targets` of a statement precedes all else. -/
def identities (t : Table) (statement : Option Conflict) (targets : List (List Expr)) :
    List (Identity × Conflict) :=
  let keys := t.indexes.reverse.filterMap fun i => i.conflict.map fun c => (Identity.key i, c)
  let (late, early) := keys.partition fun x => x.2 == .replace
  let id := (Identity.id, t.idConflict)
  let all := if statement.isNone && t.idConflict == .replace && targets.isEmpty then
      early ++ late ++ [id]
    else id :: early ++ late
  let isTarget (x : Identity × Conflict) : Bool := targets.any fun parts => t.isIdentityOf parts x.1
  let chosen := targets.filterMap fun parts => all.find? fun x => t.isIdentityOf parts x.1
  (chosen ++ all.filter fun x => !isTarget x).map fun x => (x.1, statement.getD x.2)

def brokenCheck? (t : Table) (row : Row) : Option Check :=
  t.checks.find? fun c => (c.condition.eval (t.scope [] row)).truth == .no

/-! ## Changes -/

/-- Why a row is refused, and what the statement does then. -/
structure Refusal where
  fault : Fault
  conflict : Conflict
  deriving DecidableEq, Repr

namespace Refusal

def ofFault (fault : Fault) : Refusal := ⟨fault, .abort⟩

end Refusal

inductive Placement where
  | done (t : Table)
  | ignored
  | taken (other : Row) (what : Identity)

/-- Puts a row into the table unless it shares what no two rows share. The sharing that is `claimed`
is left to others. -/
def putUnshared (claimed : Identity → Bool) (row : Row) :
    List (Identity × Conflict) → Table → Except Refusal Placement
  | [], t => .ok (.done (t.place row))
  | (what, conflict) :: rest, t =>
    match t.holders what row with
    | [] => putUnshared claimed row rest t
    | other :: others =>
      if claimed what then .ok (.taken other what)
      else
        match conflict with
        | .ignore => .ok .ignored
        | .replace =>
          putUnshared claimed row rest ((other :: others).foldl (fun t r => t.remove r.id) t)
        | conflict => .error ⟨t.keyFault what, conflict⟩

/-- Puts a row into the table, unless it breaks a rule. What a statement says about that counts in
place of what the rule says, and it may name `targets` that are tested first. -/
def put (t : Table) (statement : Option Conflict) (targets : List (List Expr))
    (claimed : Identity → Bool) (row : Row) : Except Refusal Placement :=
  let action (own : Conflict) : Conflict := statement.getD own
  let row := { row with cells := t.withDefaults action row.cells }
  let refuse (fault : Fault) (own : Conflict) : Except Refusal Placement :=
    match action own with
    | .ignore => .ok .ignored
    | .replace => .error ⟨fault, .abort⟩
    | conflict => .error ⟨fault, conflict⟩
  let identities := t.identities statement targets
  match t.missingColumn? row.cells, t.strayCell? row.cells, t.brokenCheck? row with
  | some (column, conflict), _, _ => refuse (.notNull t.name column.name) conflict
  | none, some (column, cell), _ => do
    -- Without conditions to check, the identifier is tested before the types of the cells.
    let first := if t.checks.isEmpty then identities.takeWhile fun x => x.1.isId else []
    match ← putUnshared claimed row first t with
    | .done _ => throw (.ofFault (.strayValue cell.kindName column.type t.name column.name))
    | other => return other
  | none, none, some check => refuse (.checkFailed check.label) .abort
  | none, none, none => putUnshared claimed row identities t

def newRow (t : Table) (values : List (String × Cell)) : Except Fault Row := do
  let id ← t.newId values
  return ⟨id, t.newCells id values⟩

/-- A row that breaks a rule may end a statement that then has no effect. The statement gives rows
an identifier or does not, and gives them cells in the columns that it touches. -/
def mayAbort (t : Table) (statement : Option Conflict) (givesId : Bool) (touches : String → Bool) :
    Bool :=
  let action (own : Conflict) : Conflict := statement.getD own
  let isTouched (what : Identity) : Bool := match what with
    | .id => givesId
    | .key i => i.parts.any fun e => (columnName? e).all touches
  let isMissing (e : Expr) : Bool := match e with
    | .literal .null => true
    | _ => false
  (t.identities statement []).any (fun x => x.2 == .abort && isTouched x.1) ||
    (!t.checks.isEmpty && [Conflict.abort, .replace].contains (action .abort)) ||
    t.columns.any fun c =>
      !c.isRowId && touches c.name && c.notNull.any fun own =>
        action own == .abort || (action own == .replace && isMissing c.default)

def listed (t : Table) : List Row :=
  match t.order with
  | none => t.rows.toList
  | some parts =>
    let comparePart (a b : Row) (part : Expr × Direction) : Ordering :=
      let collation := part.1.collation (t.scope [] a)
      part.2.apply ((part.1.eval (t.scope [] a)).orderBy collation (part.1.eval (t.scope [] b)))
    let compare (a b : Row) : Ordering := (parts.map (comparePart a b)).foldr Ordering.then .eq
    t.rows.toList.mergeSort fun a b => (compare a b).isLE

def selected (t : Table) (s : Surroundings) (label : String) (condition : Option Expr) : List Row :=
  match condition with
  | some e => t.listed.filter fun row => e.holds (s.scope (t.column label row))
  | none => t.listed

def delete (t : Table) (s : Surroundings) (label : String) (condition : Option Expr) : Table :=
  match condition with
  | some e => { t with rows := t.rows.filter fun row => !e.holds (s.scope (t.column label row)) }
  | none => { t with rows := #[] }

/-- The row after some changes, of which the last one for a column counts. -/
def changedRow (t : Table) (scope : Scope) (changes : List (String × Expr)) (row : Row) :
    Except Fault Row := do
  let values := changes.map fun change => (change.1, change.2.eval scope)
  let id ← match (values.filter fun v => t.givesId v.1).getLast? with
    | some (_, c) =>
      match ← rowId? c with
      | some n => pure n
      | none => throw .mismatch
    | none => pure row.id
  let cells := (t.columns.zip row.cells).map fun (column, cell) =>
    if column.isRowId then .integer id
    else
      match givenValue? column values.reverse with
      | some c => c.store column.affinity
      | none => cell
  return ⟨id, cells⟩

def change (t : Table) (conflict : Option Conflict) (scope : Scope)
    (changes : List (String × Expr)) (row : Row) : Except Refusal (Option Table) := do
  let changed ← (t.changedRow scope changes row).mapError Refusal.ofFault
  match ← (t.remove row.id).put conflict [] (fun _ => false) changed with
  | .done t => return some t
  | .ignored | .taken _ _ => return none

def row? (t : Table) (id : Int) : Option Row := t.rows.find? fun r => r.id == id

/-! ## Declarations -/

def addColumn (t : Table) (column : Column) : Table :=
  let cell := (column.default.eval (.ofParams [])).store column.affinity
  { t with
    columns := t.columns ++ [column]
    rows := t.rows.map fun row => { row with cells := row.cells ++ [cell] } }

def withColumns (t : Table) (d : TableDeclaration) : Table :=
  let t := d.columns.foldl (fun (t : Table) c => t.addColumn (.ofDeclaration none t.isStrict c)) t
  { t with checks := t.checks ++ d.checks }

def dropColumn (t : Table) (name : String) : Table :=
  let kept := t.columns.map fun c => !sameName c.name name
  let select {α : Type} (xs : List α) : List α :=
    ((kept.zip xs).filter Prod.fst).map Prod.snd
  { t with
    columns := select t.columns
    checks := t.checks.filter fun c => !c.column.any (sameName name)
    rows := t.rows.map fun row => { row with cells := select row.cells } }

def renamedChars (old new : String) : List Char → List Lexeme → List Char
  | cs, [] => cs
  | cs, l :: ls =>
    let source := match l.token with
      | .quoted name => if sameName name old then enclose '"' new else l.source
      | _ => if l.word?.any (sameName old) then new.toList else l.source
    cs.take (cs.length - l.start.length) ++ source ++ renamedChars old new l.rest ls

def renameColumn (t : Table) (name new : String) : Table :=
  let rename (e : Expr) : Expr := e.renamed name new
  let named (column : String) : String := if sameName column name then new else column
  { t with
    columns := t.columns.map fun c => { c with name := named c.name }
    indexes := t.indexes.map fun i =>
      { i with parts := i.parts.map rename, condition := i.condition.map rename }
    checks := t.checks.map fun c =>
      { c with
        column := c.column.map named
        written := String.ofList (renamedChars name new c.written.toList (lexemes c.written.toList))
        condition := rename c.condition }
    order := t.order.map fun parts => parts.map fun part => (rename part.1, part.2) }

end Table

end CriteriaSearch.Sql
