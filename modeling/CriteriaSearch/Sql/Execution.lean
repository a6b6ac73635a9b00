import CriteriaSearch.Sql.Preparation

namespace CriteriaSearch.Sql

abbrev Run := Database × Except Fault Answer

structure Progress where
  table : Table
  changed : Nat
  lastId : Option Int

namespace Progress

def step (p : Progress) (t : Table) : Progress := { p with table := t, changed := p.changed + 1 }

def insert (p : Progress) (t : Table) (id : Int) : Progress :=
  { p.step t with lastId := if t.order.isNone then some id else p.lastId }

def runAll {α : Type} (step : Progress → α → Except Table.Refusal Progress) :
    Progress → List α → Progress × Option Table.Refusal
  | p, [] => (p, none)
  | p, x :: xs =>
    match step p x with
    | .ok p => runAll step p xs
    | .error refusal => (p, some refusal)

end Progress

namespace Database

def keep (db : Database) (p : Progress) : Database :=
  { db.replace p.table with counts := db.counts.after p.changed p.lastId }

/-- The database after a statement that has no effect but on the counts. -/
def drop (db : Database) (p : Progress) : Database :=
  { db with counts := db.counts.after 0 p.lastId }

/-- The database as the next row of a statement sees it, which knows the last one inserted. -/
def during (db : Database) (p : Progress) : Database :=
  { db with counts := { db.counts with lastId := p.lastId.getD db.counts.lastId } }

/-- The database after the steps of a statement on a table. Within a transaction, a statement is
taken back only if one of the rules of the table may ask for that. -/
def settle (db : Database) (mayAbort : Bool) (steps : Progress × Option Table.Refusal) : Run :=
  match steps with
  | (p, none) => (db.keep p, .ok .done)
  | (p, some refusal) =>
    let after := match refusal.conflict with
      | .fail => db.keep p
      | .rollback => db.rollback.drop p
      | .abort | .ignore | .replace =>
        if db.saved.isEmpty || mayAbort then db.drop p else (db.replace p.table).drop p
    (after, .error refusal.fault)

def excludedLookup (t : Table) (label : String) (other new : Row) : Lookup := fun table name =>
  if table.any (TableName.means · "excluded") then t.lookup new name
  else t.column label other table name

/-- The rule for new rows that have what others have: the first one for all or for just this. -/
def upsertFor? (t : Table) (upserts : List Upsert) (what : Table.Identity) : Option Upsert :=
  upserts.find? fun u => u.target.all fun parts => t.isIdentityOf parts what

def insertRow (db : Database) (params : List Cell) (conflict : Option Conflict) (label : String)
    (upserts : List Upsert) (p : Progress) (values : List (String × Cell)) :
    Except Table.Refusal Progress := do
  let row ← (p.table.newRow values).mapError Table.Refusal.ofFault
  -- The identifier counts as given even if the row is left out.
  let t := p.table.noteId row.id
  let targets := upserts.filterMap Upsert.target
  match ← t.put conflict targets (fun what => (upsertFor? t upserts what).isSome) row with
  | .done t => return p.insert t row.id
  | .ignored => return { p with table := t }
  | .taken other what =>
    match (upsertFor? t upserts what).bind fun u => u.changes.map fun c => (u.condition, c) with
    | some (condition, changes) =>
      let surroundings := (db.during p).surroundingsAt t params
      let scope := surroundings.scope (excludedLookup t label other row)
      if condition.all fun e => e.holds scope then
        let changed ← t.change (some .abort) scope changes other
        return (changed.map p.step).getD { p with table := t }
      else return { p with table := t }
    | none => return { p with table := t }

/-- A row that breaks a rule after some changes may end a statement that then has no effect. -/
def changesMayAbort (t : Table) (statement : Option Conflict) (changes : List (String × Expr)) :
    Bool :=
  t.mayAbort statement (changes.any fun c => t.givesId c.1) fun name =>
    changes.any fun c => sameName c.1 name

/-- A row that a statement makes when its turn comes, and the fault met in that. -/
abbrev RowMaker := Progress → Except Fault (List Cell)

def makeRow (db : Database) (params : List Cell) (values : List Expr) : RowMaker := fun p =>
  let made := SelectQuery.result queryDepth ((db.during p).site params)
    ⟨.values [values], [], none, none⟩
  match made.fault with
  | some fault => .error fault
  | none => .ok (made.rows.head?.getD [])

/-- The rows to be inserted in a table. Those that are written out are made one by one, unless one
of them reads the table; those of any other query are made before the first is inserted. -/
def rowMakers (db : Database) (params : List Cell) (t : Table) :
    Option SelectQuery → Except Fault (List RowMaker)
  | none => .ok [fun _ => .ok []]
  | some q =>
    let result := SelectQuery.result queryDepth (db.site params) q
    let made := match result.fault with
      | some fault => .error fault
      | none => .ok (result.rows.map fun cells _ => .ok cells)
    match q with
    | ⟨.values rows, [], none, none⟩ =>
      if ((db.remove t).checkQuery (fun _ _ => false) q).isOk then
        .ok (rows.map (db.makeRow params))
      else made
    | _ => made

def runInsert (db : Database) (params : List Cell) (conflict : Option Conflict) (t : Table)
    (label : String) (columns : Option (List String)) (source : Option SelectQuery)
    (upserts : List Upsert) : Run :=
  let names := columns.getD (t.columns.map Column.name)
  let step (p : Progress) (row : RowMaker) : Except Table.Refusal Progress := do
    let cells ← (row p).mapError Table.Refusal.ofFault
    db.insertRow params conflict label upserts p (names.zip cells)
  match db.rowMakers params t source with
  | .error fault => (db, .error fault)
  | .ok rows =>
    let mayAbort := t.mayAbort conflict (names.any t.givesId) (fun _ => true) ||
      upserts.any fun u => u.changes.any (changesMayAbort t (some .abort))
    db.settle mayAbort (Progress.runAll step ⟨t, 0, none⟩ rows)

def rowScopes (s : Surroundings) (t : Table) (label : String) (rows : List Row) : List Scope :=
  rows.map fun row => s.scope (t.column label row)

def runUpdate (db : Database) (params : List Cell) (conflict : Option Conflict) (t : Table)
    (label : String) (changes : List (String × Expr)) (condition : Option Expr) : Run :=
  let s := db.surroundings params
  let rows := t.selected s label condition
  let fault := (condition.bind (Expr.faultOn? (rowScopes s t label t.rows.toList))).or <|
    changes.findSome? fun change => change.2.faultOn? (rowScopes s t label rows)
  let step (p : Progress) (row : Row) : Except Table.Refusal Progress :=
    match p.table.row? row.id with
    | some row => do
      let scope := (db.surroundingsAt p.table params).scope (p.table.column label row)
      return ((← p.table.change conflict scope changes row).map p.step).getD p
    | none => .ok p
  match fault with
  | some fault => (db, .error fault)
  | none =>
    db.settle (changesMayAbort t conflict changes) (Progress.runAll step ⟨t, 0, none⟩ rows)

def runDelete (db : Database) (params : List Cell) (t : Table) (label : String)
    (condition : Option Expr) : Run :=
  let s := db.surroundings params
  match condition.bind (Expr.faultOn? (rowScopes s t label t.rows.toList)) with
  | some fault => (db, .error fault)
  | none =>
    let rest := t.delete s label condition
    (db.keep ⟨rest, t.rows.size - rest.rows.size, none⟩, .ok .done)

/-- The table with one more index, unless two rows have the same key in it. -/
def withIndex (t : Table) (i : Index) : Except Fault Table :=
  if t.rows.any fun row => (t.sharing i row).any fun other => other.id != row.id then
    .error (t.keyFault (.key i))
  else .ok { t with indexes := t.indexes ++ [i] }

def typeOf (affinity : Option Affinity) : String :=
  match affinity with
  | some .text => "TEXT"
  | some .numeric => "NUM"
  | some .integer => "INT"
  | some .real => "REAL"
  | some .blob | none => ""

def tableOf (name : TableName) (result : Result) : Table where
  name := name.name
  isTemporary := name.isTemporary
  columns := result.headings.map fun h => .plain h.name (typeOf h.affinity)
  indexes := []
  checks := []
  idConflict := .abort
  lastId := none
  order := none
  isStrict := false
  rows := ((result.rows.zipIdx 1).map fun (cells, n) => Row.mk n cells).toArray

def runDeclaration (db : Database) (params : List Cell) :
    Statement → Except Fault Database
  | .createTable _ none => .ok db
  | .createTable table (some d) =>
    .ok (db.addTable (.ofDeclaration table.name table.isTemporary d))
  | .createTableAs _ table q =>
    if db.isTaken table then .ok db
    else
      let result := SelectQuery.result queryDepth (db.site params) q
      match result.fault with
      | some fault => .error fault
      | none => .ok (db.addTable (tableOf table result))
  | .dropTable _ table =>
    match db.ownTable? table with
    | some t => .ok (db.remove t)
    | none => .ok db
  | .createView _ v =>
    if db.isTaken v.name then .ok db
    else
      .ok { db with
        views := db.views ++ [⟨v.name.name, v.name.isTemporary, v.columns, v.query⟩] }
  | .dropView _ view =>
    match db.view? view with
    | some v =>
      .ok { db with
        views := db.views.filter fun other =>
          !(other.isTemporary == v.isTemporary && sameName other.name v.name) }
    | none => .ok db
  | .createIndex unique _ index table parts condition =>
    if (db.indexed? index.name).isSome then .ok db
    else do
      let t ← db.needIndexed index table
      let conflict := if unique then some .abort else none
      return db.replace (← withIndex t ⟨some index.name, conflict, parts, condition, .statement⟩)
  | .dropIndex _ index =>
    let drop (t : Table) : Table :=
      { t with indexes := t.indexes.filter fun i => !i.name.any (sameName index.name) }
    .ok { db with tables := db.tables.map drop }
  | .renameTable table name => do
    let t ← db.needTable table
    return db.replaceTable t { t with name := name }
  | .renameColumn table column _ name => do
    let t ← db.needTable table
    return db.replace (t.renameColumn column name)
  | .addColumn table d => do
    let t ← db.needTable table
    return db.replace (t.withColumns (← d))
  | .dropColumn table column _ => do
    let t ← db.needTable table
    return db.replace (t.dropColumn column)
  | _ => .ok db

def runTransaction (db : Database) : Statement → Except Fault Database
  | .begin => if db.saved.isEmpty then .ok (db.save none) else .error .openTransaction
  | .commit =>
    if db.saved.isEmpty then .error (.noTransaction "commit") else .ok { db with saved := [] }
  | .rollback =>
    if db.saved.isEmpty then .error (.noTransaction "rollback") else .ok db.rollback
  | .savepoint name => .ok (db.save (some name))
  | .release name =>
    match db.savedFrom? name with
    | some (_, rest) => .ok { db with saved := rest }
    | none => .error (.noSuchSavepoint name)
  | .rollbackTo name =>
    match db.savedFrom? name with
    | some (s, rest) => .ok ⟨s.tables, s.views, s :: rest, db.counts⟩
    | none => .error (.noSuchSavepoint name)
  | .vacuum _ _ => if db.saved.isEmpty then .ok db else .error .vacuumWithin
  | .attach => if db.saved.isEmpty then .ok db else .error .attachWithin
  | _ => .ok db

def runQuery (db : Database) (params : List Cell) (q : SelectQuery) : Except Fault Answer :=
  let bounds := q.limit.toList ++ q.offset.toList
  if bounds.all fun e => (boundOf params e).isSome then
    let result := SelectQuery.result queryDepth (db.site params) q
    match result.fault with
    | some fault => .error fault
    | none => .ok (.rows (result.headings.map Heading.name) result.rows)
  else .error .mismatch

def afterChange (db : Database) (changed : Except Fault Database) : Run :=
  match changed with
  | .ok db => (db, .ok .done)
  | .error fault => (db, .error fault)

def runChecked (db : Database) (params : List Cell) (statement : Statement) : Run :=
  match statement with
  | .insert conflict table label columns source upserts _ =>
    match db.needTable table with
    | .ok t => db.runInsert params conflict t (label.getD t.name) columns source upserts
    | .error fault => (db, .error fault)
  | .update conflict table label changes condition _ =>
    match db.needTable table with
    | .ok t => db.runUpdate params conflict t (label.getD t.name) changes condition
    | .error fault => (db, .error fault)
  | .delete table label condition _ =>
    match db.needTable table with
    | .ok t => db.runDelete params t (label.getD t.name) condition
    | .error fault => (db, .error fault)
  | .query q => (db, db.runQuery params q)
  | .createTable .. | .createTableAs .. | .dropTable .. | .createView .. | .dropView ..
  | .createIndex .. | .dropIndex .. | .renameTable .. | .renameColumn .. | .addColumn ..
  | .dropColumn .. => db.afterChange (db.runDeclaration params statement)
  | .begin | .commit | .rollback | .savepoint _ | .release _ | .rollbackTo _ | .vacuum _ _
  | .attach => db.afterChange (db.runTransaction statement)
  | .nothing | .explain _ | .tidy .. | .detach _ => (db, .ok .done)

def run (db : Database) (statement : Statement) (params : List Cell) : Run :=
  match db.check statement with
  | .ok () => db.runChecked params statement
  | .error fault => (db, .error fault)

def read (db : Database) (cs : List Char) : Except Fault (Option Statement × List Char) :=
  Statement.ofChars db.nameState cs

/-- Runs the only statement of a text; the text of a fault stands for it. -/
def execute (db : Database) (sql : String) (params : List Cell) :
    Except String (Answer × Database) :=
  let cs := sql.toList
  match db.read cs with
  | .error fault => .error (fault.message cs)
  | .ok (none, _) => .ok (.done, db)
  | .ok (some s, _) =>
    match db.run s params with
    | (db, .ok answer) => .ok (answer, db)
    | (_, .error fault) => .error (fault.message cs)

/-- Runs the statements of a text in turn; the changes of those before a fault stay. -/
def executeAll (db : Database) : Nat → List Char → Database × Except String Unit
  | 0, _ => (db, .ok ())
  | _ + 1, [] => (db, .ok ())
  | fuel + 1, cs =>
    match db.read cs with
    | .error fault => (db, .error (fault.message cs))
    | .ok (none, _) => (db, .ok ())
    | .ok (some s, rest) =>
      match db.run s [] with
      | (db, .ok _) => executeAll db fuel rest
      | (db, .error fault) => (db, .error (fault.message cs))

def executeBatch (db : Database) (sql : String) : Database × Except String Unit :=
  executeAll db (sql.length + 1) sql.toList

end Database

end CriteriaSearch.Sql
