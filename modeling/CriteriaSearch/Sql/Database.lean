import CriteriaSearch.Sql.Reply

namespace CriteriaSearch.Sql

structure Savepoint where
  /-- The name of the state; the start of a transaction has none. -/
  name : Option String
  tables : List Table
  views : List View

structure Database where
  tables : List Table
  views : List View
  saved : List Savepoint
  counts : Counts

inductive Answer where
  | done
  | rows (columns : List String) (rows : List (List Cell))
  deriving Repr

/-- How a statement uses a table that it does not only read. -/
inductive TableUse where
  | modify
  | drop
  | alter
  | index
  deriving DecidableEq, Repr

namespace TableUse

def participle : TableUse → String
  | .modify => "modified"
  | .drop => "dropped"
  | .alter => "altered"
  | .index => "indexed"

def viewFault (use : TableUse) (view : String) : Fault :=
  match use with
  | .modify => .viewChanged view
  | .drop => .viewDropped view
  | .alter => .viewKept view "altered"
  | .index => .viewIndexed

end TableUse

namespace Database

def empty : Database := ⟨[], [], [], .start⟩

def isReserved (name : String) : Bool :=
  Text.startsWith "sqlite_".toList (foldName name).toList

def isCatalog (name : TableName) : Bool :=
  name.isLocal &&
    ["sqlite_master", "sqlite_schema", "sqlite_temp_master", "sqlite_temp_schema"].contains
      (foldName name.name)

def catalog : Table where
  name := "sqlite_master"
  isTemporary := false
  columns := ["type", "name", "tbl_name", "rootpage", "sql"].map fun name => .plain name "TEXT"
  indexes := []
  checks := []
  idConflict := .abort
  lastId := none
  order := none
  isStrict := false
  rows := #[]

/-- The table of a name; a temporary one comes before another one. -/
def ownTable? (db : Database) (name : TableName) : Option Table :=
  let named (isTemporary : Bool) : Option Table :=
    if name.admits isTemporary then
      db.tables.find? fun t => t.isTemporary == isTemporary && sameName t.name name.name
    else none
  (named true).or (named false)

def table? (db : Database) (name : TableName) : Option Table :=
  if isCatalog name then some catalog else db.ownTable? name

def view? (db : Database) (name : TableName) : Option View :=
  let named (isTemporary : Bool) : Option View :=
    if name.admits isTemporary then
      db.views.find? fun v => v.isTemporary == isTemporary && sameName v.name name.name
    else none
  (named true).or (named false)

def needTable (db : Database) (name : TableName) : Except Fault Table :=
  match db.table? name with
  | some t => .ok t
  | none => .error (.noSuchTable name.display)

def needOwnTable (db : Database) (name : TableName) (use : TableUse) : Except Fault Table :=
  if isCatalog name then .error (.protectedTable name.name use.participle)
  else
    match db.ownTable? name, db.view? name with
    | some t, _ => .ok t
    | none, some v => .error (use.viewFault v.name)
    | none, none => .error (.noSuchTable name.display)

def needIndexed (db : Database) (index : TableName) (table : String) : Except Fault Table :=
  match db.ownTable? ⟨index.database, table⟩ with
  | some t => .ok t
  | none => db.needOwnTable ⟨some (index.database.getD "main"), table⟩ .index

def replaceTable (db : Database) (old new : Table) : Database :=
  let isOld (t : Table) : Bool := t.isTemporary == old.isTemporary && sameName t.name old.name
  { db with tables := db.tables.map fun t => if isOld t then new else t }

def replace (db : Database) (table : Table) : Database := db.replaceTable table table

def remove (db : Database) (table : Table) : Database :=
  { db with
    tables := db.tables.filter fun t =>
      !(t.isTemporary == table.isTemporary && sameName t.name table.name) }

def addTable (db : Database) (table : Table) : Database :=
  { db with tables := db.tables ++ [table] }

def indexed? (db : Database) (index : String) : Option Table :=
  db.tables.find? fun t => t.indexes.any fun i => i.name.any (sameName index)

/-- What lasts when the database is closed and opened again. -/
def reopened (db : Database) : Database :=
  let (tables, views) := match db.saved.getLast? with
    | some s => (s.tables, s.views)
    | none => (db.tables, db.views)
  ⟨tables.filter fun t => !t.isTemporary, views.filter fun v => !v.isTemporary, [], .start⟩

def save (db : Database) (name : Option String) : Database :=
  { db with saved := ⟨name, db.tables, db.views⟩ :: db.saved }

def rollback (db : Database) : Database :=
  match db.saved.getLast? with
  | some s => ⟨s.tables, s.views, [], db.counts⟩
  | none => db

/-- The saved states from the innermost one of a name on, with that one first. -/
def savedFrom? (db : Database) (name : String) : Option (Savepoint × List Savepoint) :=
  match db.saved.dropWhile fun s => !s.name.any (sameName name) with
  | s :: rest => some (s, rest)
  | [] => none

/-- How many queries may stand within each other, counted with the parts of each. -/
def queryDepth : Nat := 1000

def site (db : Database) (params : List Cell) : Site :=
  ⟨db.table?, db.view?, params, db.counts, fun _ _ => none⟩

def surroundings (db : Database) (params : List Cell) : Surroundings :=
  ⟨params, db.counts, fun outer q =>
    SelectQuery.reply queryDepth { db.site params with outer := outer } q⟩

def checkQuery (db : Database) (outer : Option TableName → String → Bool) (q : SelectQuery) :
    Except Fault (List String) :=
  SelectQuery.check queryDepth ⟨db.table?, db.view?, outer⟩ q

/-- What expressions see while a statement changes a table, which is in the given state by now. A
query that does not depend on the row around it keeps the answer that it had at first. -/
def surroundingsAt (db : Database) (now : Table) (params : List Cell) : Surroundings :=
  let stays (q : SelectQuery) : Bool := (db.checkQuery (fun _ _ => false) q).isOk
  ⟨params, db.counts, fun outer q =>
    (if stays q then db.surroundings params else (db.replace now).surroundings params).ask outer q⟩

def columnNames (db : Database) (name : TableName) : List String :=
  match db.table? name, db.view? name with
  | some t, _ => t.columns.map Column.name
  | none, some v => v.columns.getD ((db.checkQuery (fun _ _ => false) v.query).toOption.getD [])
  | none, none => []

def names (db : Database) (column : Option TableName → String → Bool) : Names :=
  ⟨column, fun q => (db.checkQuery column q).map List.length, .forbidden⟩

def tableNames (db : Database) (t : Table) (label : String) : Names :=
  db.names fun table name => table.all (TableName.means · label) && t.hasColumn name

end Database

end CriteriaSearch.Sql
