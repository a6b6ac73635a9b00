import CriteriaSearch.Json.Record
import CriteriaSearch.Json.Writer
import CriteriaSearch.Repository
import CriteriaSearch.Schema
import CriteriaSearch.Sql.Clause
import CriteriaSearch.Sql.Execution
import CriteriaSearch.Text.Quoted

namespace CriteriaSearch.Sql

structure Config where
  maxConnections : UInt32
  minConnections : UInt32
  connectionTimeoutMillis : UInt64
  busyTimeoutMillis : UInt32
  deriving DecidableEq, Repr

structure Store where
  database : Database
  table : String
  descriptors : List FilterDescriptor

namespace Config

def standard : Config := ⟨10, 1, 30000, 5000⟩

def word? (j : Json) : Option UInt32 := (j.natUpTo? 4294967295).map UInt32.ofNat

def ofJson? (j : Json) : Option Config := do
  let names := ["max_connections", "min_connections", "connection_timeout_ms", "busy_timeout_ms"]
  match ← j.slots? names with
  | [most, least, timeout, busy] =>
    some ⟨← most.orElse standard.maxConnections word?,
      ← least.orElse standard.minConnections word?,
      ← timeout.orElse standard.connectionTimeoutMillis fun j =>
        (j.natUpTo? 18446744073709551615).map UInt64.ofNat,
      ← busy.orElse standard.busyTimeoutMillis word?⟩
  | _ => none

def toJson (c : Config) : Json :=
  .object [
    ("max_connections", .integer c.maxConnections.toNat),
    ("min_connections", .integer c.minConnections.toNat),
    ("connection_timeout_ms", .integer c.connectionTimeoutMillis.toNat),
    ("busy_timeout_ms", .integer c.busyTimeoutMillis.toNat)]

end Config

def queryError (text : String) : SearchError := .queryError BackendKind.sqlite.name text

def noSuchColumn (field : String) : SearchError := queryError ("no such column: " ++ field)

/-- A database opens where its file can lie: in memory, in the working directory or in the directory
for temporary files. -/
def canOpen (path : String) : Bool :=
  match (path.splitOn "/").reverse with
  | [] | [_] => true
  | _ :: folders => folders == ["tmp", ""] || folders == [""] || folders == ["."]

namespace Store

def connect (path table : String) (schema : EntitySchema) : Except SearchError Store :=
  if canOpen path then schema.descriptors.map fun ds => ⟨.empty, table, ds⟩
  else .error <| .connectionFailed BackendKind.sqlite.name <|
    "timed out waiting for connection: unable to open database file: " ++ path

/-- Runs a batch of statements; the changes before a fault stay. -/
def executeBatch (store : Store) (sql : String) : Store × Except SearchError Unit :=
  let (db, outcome) := store.database.executeBatch sql
  ({ store with database := db }, outcome.mapError queryError)

def columnNames (store : Store) : List String :=
  store.database.columnNames (.ofName store.table)

def reopen (store : Store) : Store := { store with database := store.database.reopened }

/-- The parameter that a field of a row binds: lists and objects bind as texts. -/
def paramOfJson : Json → Param
  | .null => .null
  | .boolean b => .integer (if b then 1 else 0)
  | .integer n => if Cell.fits n then .integer n else .float (.ofInt n)
  | .float x => .float x
  | .text s => .text s
  | j => .text j.compact

def insertTokens (table : String) (names : List String) : List Token :=
  [.keyword "INSERT", .keyword "INTO", .quoted table] ++
    Token.parens (Token.joined [.symbol ","] (names.map fun name => [.quoted name])) ++
    .keyword "VALUES" :: Token.parens (paramTokens 0 names.length)

def insert (store : Store) (row : Json) : Except SearchError Store :=
  match row with
  | .object fields =>
    let sql := String.ofList (Token.render (insertTokens store.table (fields.map Prod.fst)))
    let cells := fields.map fun field => (paramOfJson field.2).cell
    match store.database.execute sql cells with
    | .ok (_, db) => .ok { store with database := db }
    | .error text => .error (queryError text)
  | _ => .error (.mapping BackendKind.sqlite.name "row must serialize to an object")

/-- The statements for compiled criteria. The filters may only name keys of descriptors, and sorts
beyond them only columns of the table. -/
def lower (store : Store) (c : Compiled) : Except SearchError Query :=
  let known (field : String) : Bool := store.descriptors.any fun d => d.key == field
  match (c.predicate.toList.flatMap Predicate.fields).find? fun field => !known field with
  | some field => .error (noSuchColumn field)
  | none =>
    -- The columns are looked at only if a sort names no key of a descriptor.
    if c.sorts.all fun s => known s.key then .ok (.build store.table c)
    else
      match c.sorts.find? fun s => !store.columnNames.contains s.key with
      | some s => .error (noSuchColumn s.key)
      | none => .ok (.build store.table c)

def booleanKeys (store : Store) : List String :=
  (store.descriptors.filter fun d => d.fieldType == .boolean).map FilterDescriptor.key

/-- A cell as the value of a field; integers of boolean fields are truth values. -/
def jsonOfCell (isBoolean : Bool) : Cell → Json
  | .null => .null
  | .integer n => if isBoolean then .boolean (n != 0) else .integer n
  | .real x => if x.isFinite then .float x else .null
  | .text s => .text s
  | .blob _ => .null

def rowOfCells (store : Store) (names : List String) (cells : List Cell) : Json :=
  .object <| (names.zip cells).map fun (name, cell) =>
    (name, jsonOfCell (store.booleanKeys.contains name) cell)

def ask (store : Store) (f : Fragment) : Except SearchError Answer :=
  match store.database.execute f.text (f.params.map Param.cell) with
  | .ok (answer, _) => .ok answer
  | .error text => .error (queryError text)

/-- Runs the statements of a query: first the count, then the rows. -/
def execute (store : Store) (q : Query) : Except SearchError (RawPage Json) := do
  let total := match ← store.ask q.count with
    | .rows _ ((.integer n :: _) :: _) => n.toNat
    | _ => 0
  match ← store.ask q.select with
  | .rows names rows => return ⟨rows.map (store.rowOfCells names), total⟩
  | _ => return ⟨[], total⟩

def display (store : Store) : String :=
  "SqliteRepository \x7b table: " ++ Text.quoted store.table ++ ", filters: " ++
    toString store.descriptors.length ++ ", .. \x7d"

def repository {Entity : Type} (store : Store) (mapRow : Json → Except SearchError Entity) :
    Repository Id Query Json Entity where
  kind := .sqlite
  descriptors := store.descriptors
  lower := store.lower
  execute := store.execute
  mapRow := mapRow

end Store

end CriteriaSearch.Sql
