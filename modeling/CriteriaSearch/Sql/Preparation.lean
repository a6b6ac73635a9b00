import CriteriaSearch.Sql.Database

namespace CriteriaSearch.Sql

namespace Database

/-- Why nothing can be made under a name, given by its first and its last lexeme. -/
def nameFault? (db : Database) (name : TableName) (first last : Lexeme) : Option Fault :=
  let own : TableName := ⟨some (if name.isTemporary then "temp" else "main"), name.name⟩
  if !name.isLocal then some (.unknownDatabase (name.database.getD "") first.start)
  else if isReserved name.name then some (.reservedName name.name)
  else if (db.table? own).isSome then some (.nameExists "table" last.source last.start)
  else if (db.view? own).isSome then some (.nameExists "view" last.source last.start)
  else if (db.indexed? name.name).isSome then some (.indexNamed name.name)
  else none

def isTaken (db : Database) (name : TableName) : Bool :=
  let own : TableName := ⟨some (if name.isTemporary then "temp" else "main"), name.name⟩
  (db.table? own).isSome || (db.view? own).isSome

def nameState (db : Database) (table : TableName) (first last : Lexeme) : Statement.NameState :=
  ⟨db.isTaken table, db.nameFault? table first last⟩

def checkChanges (t : Table) (names : Names) : List (String × Expr) → Except Fault Unit
  | [] => .ok ()
  | (name, e) :: rest => do
    e.check names
    if t.hasColumn name then checkChanges t names rest else throw (.noSuchColumn name)

def checkReturning (names : Names) (columns : List ResultColumn) : Except Fault Unit :=
  columns.forM fun
    | .value e _ _ => e.check names
    | _ => .ok ()

def isKey (t : Table) (parts : List Expr) : Bool :=
  (t.identities none []).any fun x => t.isIdentityOf parts x.1

def checkUpsert (db : Database) (t : Table) (label : String) (u : Upsert) :
    Except Fault Unit := do
  match u.target with
  | some parts => do
    Expr.checkList (db.tableNames t label) parts
    if !isKey t parts then throw .noConflictKey
  | none => pure ()
  let names := db.names fun table name =>
    table.all (fun a => a.means label || a.means "excluded") && t.hasColumn name
  checkChanges t names (u.changes.getD [])
  Expr.checkList names u.condition.toList

def checkInsert (db : Database) (t : Table) (table : TableName) (label : Option String)
    (columns : Option (List String)) (source : Option SelectQuery) : Except Fault Unit := do
  let shown := label.getD table.display
  match (columns.getD []).find? fun name => !t.hasColumn name with
  | some name => throw (.noColumnNamed shown name)
  | none => pure ()
  match source with
  | none => pure ()
  | some q => do
    let width := (← db.checkQuery (fun _ _ => false) q).length
    match columns with
    | some names => if width ≠ names.length then throw (.valueCount width names.length)
    | none =>
      if width ≠ t.columns.length then throw (.tableWidth shown width t.columns.length)

def checkDeclaration (d : TableDeclaration) : Except Fault Unit := do
  let hasColumn (table : Option TableName) (name : String) : Bool :=
    table.isNone && (d.names.any (sameName name) || Table.isRowIdName name)
  let names : Names := { Names.none with column := hasColumn }
  d.keys.forM fun key => do
    Expr.checkList names key.parts
    Expr.checkCollation key.parts
  d.checks.forM fun c => c.condition.check names

def checkIndex (db : Database) (ifMissing : Bool) (index : TableName) (table : String)
    (parts : List Expr) (condition : Option Expr) : Except Fault Unit := do
  let t ← db.needIndexed index table
  if isReserved index.name then throw (.reservedName index.name)
  if (db.ownTable? (.ofName index.name)).isSome then throw (.tableNamed index.name)
  if (db.indexed? index.name).isSome then
    if ifMissing then return () else throw (.indexExists index.name)
  let names := db.tableNames t t.name
  Expr.checkList names parts
  Expr.checkCollation parts
  Expr.checkList names condition.toList

def isFixedDefault : Expr → Bool
  | .literal _ => true
  | .plus e | .arithmetic .subtract (.literal (.integer 0)) e => isFixedDefault e
  | _ => false

def checkNewColumn (t : Table) (d : TableDeclaration) : Except Fault Unit :=
  d.columns.forM fun c => do
    if t.hasOwnColumn c.name then throw (.duplicateColumn c.name)
    if d.primaryKey.isSome then throw (.addedColumn "PRIMARY KEY column")
    if !d.keys.isEmpty then throw (.addedColumn "UNIQUE column")
    if !t.rows.isEmpty then
      match c.default with
      | .literal .null =>
        if c.notNull.isSome then throw (.addedColumn "NOT NULL column with default value NULL")
      | e => if !isFixedDefault e then throw (.addedColumn "column with non-constant default")

def checkOldColumn (t : Table) (column : String) (place : List Char) : Except Fault Unit := do
  if !t.hasOwnColumn column then throw (.unquotedName column place)
  let isPart (e : Expr) : Bool := match e with
    | .column none name _ | .quoted name => sameName name column
    | _ => false
  let isKey (origin : KeyOrigin) : Bool :=
    t.indexes.any fun i => i.origin == origin && i.parts.any isPart
  if isKey .primary || t.columns.any fun c => c.isRowId && sameName c.name column then
    throw (.keptColumn column "PRIMARY KEY")
  if isKey .column then throw (.keptColumn column "UNIQUE")
  if t.columns.length = 1 then throw (.lastColumn column)

/-- The fault that a change of a table would leave in what names its columns, if there is one. -/
def checkLeft (db : Database) (t : Table) (change : String) : Except Fault Unit := do
  let names := db.tableNames t t.name
  let blame (subject : String) (outcome : Except Fault Unit) : Except Fault Unit :=
    outcome.mapError fun fault => .leftBroken subject change fault.withinView
  t.checks.forM fun c => blame ("table " ++ t.name) (c.condition.check names)
  t.indexes.forM fun i =>
    blame (i.name.elim ("table " ++ t.name) ("index " ++ ·)) <|
      Expr.checkList names (i.parts ++ i.condition.toList)
  let db := db.replace t
  db.views.forM fun v =>
    blame ("view " ++ v.name) ((db.checkQuery (fun _ _ => false) v.query).map fun _ => ())

/-- The fault that the rows of a table would have after it gets a column, if there is one. -/
def checkRows (t : Table) (d : TableDeclaration) : Except Fault Unit := do
  let t := { t.withColumns d with checks := d.checks }
  if t.rows.any fun row => (t.brokenCheck? row).isSome then throw .addedCheck
  if t.rows.any fun row => (t.strayCell? row.cells).isSome then throw .addedDefault

def checkView (db : Database) (ifMissing : Bool) (v : ViewDeclaration) : Except Fault Unit :=
  if v.name.database.all fun d => sameName d "main" || sameName d "temp" then
    if ifMissing && db.isTaken v.name then .ok ()
    else
      match db.nameFault? v.name v.last v.last with
      | some fault => .error fault
      | none => .ok ()
  else .error (.unknownDatabase (v.name.database.getD "") v.last.start)

def checkSubject (db : Database) (what : Tidying) (subject : TableName) (place : List Char) :
    Except Fault Unit :=
  let isThere := (db.table? subject).isSome || (db.indexed? subject.name).isSome
  let names (kind : String → Bool) : Bool := subject.database.isNone && kind subject.name
  match what with
  | .analyze =>
    if !subject.isLocal then .error (.unknownDatabase (subject.database.getD "") place)
    else if isThere || names (fun s => sameName s "main" || sameName s "temp") then .ok ()
    else .error (.noSuchTable subject.display)
  | .reindex =>
    if !subject.isLocal then .error (.unknownDatabase (subject.database.getD "") place)
    else if isThere || names (fun s => (Collation.ofName? s).isSome) then .ok ()
    else .error .notReindexed

/-- The fault for which a statement is refused before it runs, if there is one. -/
def check (db : Database) : Statement → Except Fault Unit
  | .createTable _ declaration => declaration.toList.forM checkDeclaration
  | .createTableAs ifMissing table q =>
    if ifMissing && db.isTaken table then .ok ()
    else (db.checkQuery (fun _ _ => false) q).map fun _ => ()
  | .dropTable ifExists table => do
    if ifExists && (db.table? table).isNone && (db.view? table).isNone then return ()
    let _ ← db.needOwnTable table .drop
    return ()
  | .createView ifMissing v => db.checkView ifMissing v
  | .dropView ifExists view =>
    if (db.view? view).isSome then .ok ()
    else if (db.table? view).isSome then .error (.tableDropped view.name)
    else if ifExists then .ok ()
    else .error (.noSuchView view.display)
  | .createIndex _ ifMissing index table parts condition =>
    db.checkIndex ifMissing index table parts condition
  | .dropIndex ifExists index =>
    if ifExists || (db.indexed? index.name).isSome then .ok ()
    else .error (.noSuchIndex index.display)
  | .renameTable table name => do
    let t ← db.needOwnTable table .alter
    -- A table keeps its database under the new name.
    let new : TableName := ⟨some (if t.isTemporary then "temp" else "main"), name⟩
    if db.isTaken new || (db.indexed? name).isSome then throw (.nameTaken name)
    if isReserved name then throw (.reservedName name)
  | .renameColumn table column place name => do
    let t ← db.needOwnTable table .alter
    if !t.hasOwnColumn column then throw (.unquotedName column place)
    if t.hasOwnColumn name && !sameName column name then throw (.duplicateColumn name)
  | .addColumn table d => do
    let t ← db.needOwnTable table .alter
    let d ← d
    checkNewColumn t d
    if t.isStrict then
      let _ ← (Statement.madeStrict t.name d).mapError (.leftBroken ("table " ++ t.name)
        " after add column")
    checkRows t d
  | .dropColumn table column place => do
    let t ← db.needOwnTable table .alter
    checkOldColumn t column place
    db.checkLeft t ""
    db.checkLeft (t.dropColumn column) " after drop column"
  | .insert _ table label columns source upserts returning => do
    let t ← db.needOwnTable table .modify
    db.checkInsert t table label columns source
    upserts.forM (db.checkUpsert t (label.getD t.name))
    checkReturning (db.tableNames t (label.getD t.name)) returning
  | .update _ table label changes condition returning => do
    let t ← db.needOwnTable table .modify
    let names := db.tableNames t (label.getD t.name)
    checkChanges t names changes
    Expr.checkList names condition.toList
    checkReturning names returning
  | .delete table label condition returning => do
    let t ← db.needOwnTable table .modify
    let names := db.tableNames t (label.getD t.name)
    Expr.checkList names condition.toList
    checkReturning names returning
  | .query q => (db.checkQuery (fun _ _ => false) q).map fun _ => ()
  | .explain s => db.check s
  | .vacuum database place =>
    match database.filter fun d => !(TableName.mk (some d) "").isLocal with
    | some d => .error (.unknownDatabase d place)
    | none => .ok ()
  | .tidy what subject place =>
    match subject with
    | some subject => db.checkSubject what subject place
    | none => .ok ()
  | .detach database =>
    if (TableName.mk (some database) "").isLocal then .error (.mainDetached database)
    else .error (.noSuchDatabase database)
  | .begin | .commit | .rollback | .savepoint _ | .release _ | .rollbackTo _ | .attach
  | .nothing => .ok ()

end Database

end CriteriaSearch.Sql
