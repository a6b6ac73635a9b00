namespace CriteriaSearch.Sql

/-- The cause of a refusal. A place is given by the text of the statement from there on. -/
inductive Fault where
  | near (token place : List Char)
  | incomplete
  /-- No token starts here; `source` is what was read in vain. -/
  | unrecognized (source place : List Char)
  | noSuchTable (table : String)
  | noSuchIndex (index : String)
  | noSuchView (view : String)
  | noSuchDatabase (database : String)
  | viewWidth (view : String) (expected found : Nat)
  | viewChanged (view : String)
  | viewKept (view participle : String)
  | viewDropped (view : String)
  | tableDropped (table : String)
  | viewIndexed
  | qualifiedTemporary
  | mainDetached (database : String)
  | notReindexed
  | noSuchColumn (column : String)
  | unknownName (name : String) (place : List Char)
  | noSuchFunction (function : String) (place : List Char)
  | argumentCount (function : String) (place : List Char)
  | misusedAggregate (function : String) (place : List Char)
  /-- A function of groups is asked for where rows are not gathered yet. -/
  | earlyAggregate (function : String) (place : List Char)
  | aggregateInGroup
  | distinctArguments
  | misusedMatch
  /-- The chance that a test is likely is no number between zero and one. -/
  | likelihood (place : List Char)
  | paramNumber (place : List Char)
  | tooDeep
  | earlyClause (clause operation : String)
  | noSuchCollation (collation : String)
  | rowValue
  | digitsTooBig (digits : String) (place : List Char)
  /-- The table or view to create exists; `token` is its name as it was written. -/
  | nameExists (kind : String) (token place : List Char)
  | indexExists (index : String)
  | tableNamed (name : String)
  | indexNamed (name : String)
  | nameTaken (name : String)
  | reservedName (name : String)
  | unknownDatabase (name : String) (place : List Char)
  | protectedTable (table action : String)
  | noColumnNamed (table column : String)
  | duplicateColumn (column : String)
  | severalPrimaryKeys (table : String)
  | misplacedCounter
  | changingDefault (column : String)
  | unknownOption (option : String)
  | missingPrimaryKey (table : String)
  | counterWithoutIds
  | missingType (table column : String)
  | unknownType (table column type : String)
  /-- An insertion names more or fewer columns than it has values. -/
  | valueCount (values columns : Nat)
  | assignedCount (columns values : Nat)
  | tableWidth (table : String) (values columns : Nat)
  | unevenRows
  | noConflictKey
  | noTables
  | unevenParts (operation : String)
  | queryWidth (columns : Nat)
  | groupNeeded
  /-- A place in an order that no column of the result has. -/
  | orderTerm (position width : Nat) (place : Option (List Char))
  | groupTerm (position width : Nat)
  | unmatchedOrderTerm (position : Nat)
  | notNull (table column : String)
  | notUnique (columns : List String)
  | notUniqueIndex (index : String)
  | checkFailed (label : String)
  /-- A row identifier is no integer. -/
  | mismatch
  /-- A value is not of the type of a column that stores no others. -/
  | strayValue (kind type table column : String)
  | overflow
  | tooLarge
  /-- What stands before a sign of a pattern for itself is no single character. -/
  | escapeLength
  | patternLength
  | openTransaction
  | vacuumWithin
  | attachWithin
  | noTransaction (action : String)
  | noSuchSavepoint (name : String)
  | unquotedName (column : String) (place : List Char)
  | addedColumn (reason : String)
  | lastColumn (column : String)
  | keptColumn (column reason : String)
  | differentRules
  | addedCheck
  | addedDefault
  /-- What a change would leave of something has a fault of its own. -/
  | leftBroken (subject change : String) (cause : Fault)
  deriving DecidableEq, Repr

namespace Fault

def byteCount (cs : List Char) : Nat := (String.ofList cs).utf8ByteSize

def upper (s : String) : String := String.ofList (s.toList.map Char.toUpper)

/-- The fault as it is told of the query of a view, which names the database of its tables. -/
def withinView : Fault → Fault
  | .noSuchTable table => .noSuchTable ("main." ++ table)
  | .unknownName name _ => .noSuchColumn name
  | fault => fault

def located (statement : List Char) (text : String) (place : List Char) : String :=
  text ++ " in " ++ String.ofList statement ++ " at offset " ++
    toString (byteCount statement - byteCount place)

def ordinal (n : Nat) : String :=
  toString n ++
    if n / 10 % 10 = 1 then "th"
    else match n % 10 with
      | 1 => "st"
      | 2 => "nd"
      | 3 => "rd"
      | _ => "th"

def message (statement : List Char) : Fault → String
  | .near token place =>
    located statement ("near \"" ++ String.ofList token ++ "\": syntax error") place
  | .incomplete => "incomplete input"
  | .unrecognized source place =>
    located statement ("unrecognized token: \"" ++ String.ofList source ++ "\"") place
  | .noSuchTable table => "no such table: " ++ table
  | .noSuchIndex index => "no such index: " ++ index
  | .noSuchView view => "no such view: " ++ view
  | .noSuchDatabase database => "no such database: " ++ database
  | .viewWidth view expected found =>
    "expected " ++ toString expected ++ " columns for '" ++ view ++ "' but got " ++ toString found
  | .viewChanged view => "cannot modify " ++ view ++ " because it is a view"
  | .viewKept view participle => "view " ++ view ++ " may not be " ++ participle
  | .viewDropped view => "use DROP VIEW to delete view " ++ view
  | .tableDropped table => "use DROP TABLE to delete table " ++ table
  | .viewIndexed => "views may not be indexed"
  | .qualifiedTemporary => "temporary table name must be unqualified"
  | .mainDetached database => "cannot detach database " ++ database
  | .notReindexed => "unable to identify the object to be reindexed"
  | .noSuchColumn column => "no such column: " ++ column
  | .unknownName name place => located statement ("no such column: " ++ name) place
  | .noSuchFunction function place => located statement ("no such function: " ++ function) place
  | .argumentCount function place =>
    located statement ("wrong number of arguments to function " ++ function ++ "()") place
  | .misusedAggregate function place =>
    located statement ("misuse of aggregate function " ++ function ++ "()") place
  | .earlyAggregate function place =>
    located statement ("misuse of aggregate: " ++ function ++ "()") place
  | .aggregateInGroup => "aggregate functions are not allowed in the GROUP BY clause"
  | .distinctArguments => "DISTINCT aggregates must have exactly one argument"
  | .likelihood place =>
    located statement
      "second argument to likelihood() must be a constant between 0.0 and 1.0" place
  | .paramNumber place =>
    located statement "variable number must be between ?1 and ?32766" place
  | .tooDeep => "Expression tree is too large (maximum depth 1000)"
  | .earlyClause clause operation =>
    clause ++ " clause should come after " ++ operation ++ " not before"
  | .misusedMatch => "unable to use function MATCH in the requested context"
  | .noSuchCollation collation => "no such collation sequence: " ++ collation
  | .rowValue => "row value misused"
  | .digitsTooBig digits place => located statement ("hex literal too big: " ++ digits) place
  | .nameExists kind token place =>
    located statement (kind ++ " " ++ String.ofList token ++ " already exists") place
  | .indexExists index => "index " ++ index ++ " already exists"
  | .tableNamed name => "there is already a table named " ++ name
  | .indexNamed name => "there is already an index named " ++ name
  | .nameTaken name => "there is already another table or index with this name: " ++ name
  | .reservedName name => "object name reserved for internal use: " ++ name
  | .unknownDatabase name place => located statement ("unknown database " ++ name) place
  | .protectedTable table action => "table " ++ table ++ " may not be " ++ action
  | .noColumnNamed table column => "table " ++ table ++ " has no column named " ++ column
  | .duplicateColumn column => "duplicate column name: " ++ column
  | .severalPrimaryKeys table => "table \"" ++ table ++ "\" has more than one primary key"
  | .misplacedCounter => "AUTOINCREMENT is only allowed on an INTEGER PRIMARY KEY"
  | .changingDefault column => "default value of column [" ++ column ++ "] is not constant"
  | .unknownOption option => "unknown table option: " ++ option
  | .missingPrimaryKey table => "PRIMARY KEY missing on table " ++ table
  | .counterWithoutIds => "AUTOINCREMENT not allowed on WITHOUT ROWID tables"
  | .missingType table column => "missing datatype for " ++ table ++ "." ++ column
  | .unknownType table column type =>
    "unknown datatype for " ++ table ++ "." ++ column ++ ": \"" ++ type ++ "\""
  | .valueCount values columns =>
    toString values ++ " values for " ++ toString columns ++ " columns"
  | .assignedCount columns values =>
    toString columns ++ " columns assigned " ++ toString values ++ " values"
  | .tableWidth table values columns =>
    "table " ++ table ++ " has " ++ toString columns ++ " columns but " ++ toString values ++
      " values were supplied"
  | .unevenRows => "all VALUES must have the same number of terms"
  | .noConflictKey => "ON CONFLICT clause does not match any PRIMARY KEY or UNIQUE constraint"
  | .noTables => "no tables specified"
  | .unevenParts operation =>
    "SELECTs to the left and right of " ++ operation ++
      " do not have the same number of result columns"
  | .queryWidth columns =>
    "sub-select returns " ++ toString columns ++ " columns - expected 1"
  | .groupNeeded => "HAVING clause on a non-aggregate query"
  | .orderTerm position width place =>
    let text := ordinal position ++ " ORDER BY term out of range - should be between 1 and " ++
      toString width
    place.elim text (located statement text)
  | .groupTerm position width =>
    ordinal position ++ " GROUP BY term out of range - should be between 1 and " ++ toString width
  | .unmatchedOrderTerm position =>
    ordinal position ++ " ORDER BY term does not match any column in the result set"
  | .notNull table column => "NOT NULL constraint failed: " ++ table ++ "." ++ column
  | .notUnique columns => "UNIQUE constraint failed: " ++ ", ".intercalate columns
  | .notUniqueIndex index => "UNIQUE constraint failed: index '" ++ index ++ "'"
  | .checkFailed label => "CHECK constraint failed: " ++ label
  | .mismatch => "datatype mismatch"
  | .strayValue kind type table column =>
    let kind := if kind = "integer" then "int" else kind
    "cannot store " ++ upper kind ++ " value in " ++ upper type ++ " column " ++ table ++ "." ++
      column
  | .overflow => "integer overflow"
  | .tooLarge => "string or blob too big"
  | .escapeLength => "ESCAPE expression must be a single character"
  | .patternLength => "LIKE or GLOB pattern too complex"
  | .openTransaction => "cannot start a transaction within a transaction"
  | .vacuumWithin => "cannot VACUUM from within a transaction"
  | .attachWithin => "cannot ATTACH database within transaction"
  | .noTransaction action => "cannot " ++ action ++ " - no transaction is active"
  | .noSuchSavepoint name => "no such savepoint: " ++ name
  | .unquotedName column place =>
    located statement ("no such column: \"" ++ column ++ "\"") place
  | .addedColumn reason => "Cannot add a " ++ reason
  | .lastColumn column => "cannot drop column \"" ++ column ++ "\": no other columns exist"
  | .keptColumn column reason => "cannot drop " ++ reason ++ " column: \"" ++ column ++ "\""
  | .differentRules => "conflicting ON CONFLICT clauses specified"
  | .addedCheck => "CHECK constraint failed"
  | .addedDefault => "type mismatch on DEFAULT"
  | .leftBroken subject change cause =>
    "error in " ++ subject ++ change ++ ": " ++ message statement cause

end Fault

end CriteriaSearch.Sql
