import CriteriaSearch.Text.Utf8

namespace CriteriaSearch.Sql

inductive Token where
  | keyword (word : String)
  /-- A name without quotes, or between signs that enclose nothing but names. -/
  | name (word : String)
  | quoted (value : String)
  | text (value : String)
  | blob (bytes : List UInt8)
  | number (digits : String)
  /-- The place of a parameter, counted from one; zero for a parameter that is given no value. -/
  | param (index : Nat)
  | symbol (sign : String)
  | broken (source : String)
  deriving DecidableEq, Repr

def keywords : List String := [
  "ABORT", "ACTION", "ADD", "AFTER", "ALL", "ALTER", "ALWAYS", "ANALYZE", "AND", "AS", "ASC",
  "ATTACH", "AUTOINCREMENT", "BEFORE", "BEGIN", "BETWEEN", "BY", "CASCADE", "CASE", "CAST",
  "CHECK", "COLLATE", "COLUMN", "COMMIT", "CONFLICT", "CONSTRAINT", "CREATE", "CROSS", "CURRENT",
  "CURRENT_DATE", "CURRENT_TIME", "CURRENT_TIMESTAMP", "DATABASE", "DEFAULT", "DEFERRABLE",
  "DEFERRED", "DELETE", "DESC", "DETACH", "DISTINCT", "DO", "DROP", "EACH", "ELSE", "END",
  "ESCAPE", "EXCEPT", "EXCLUDE", "EXCLUSIVE", "EXISTS", "EXPLAIN", "FAIL", "FILTER", "FIRST",
  "FOLLOWING", "FOR", "FOREIGN", "FROM", "FULL", "GENERATED", "GLOB", "GROUP", "GROUPS",
  "HAVING", "IF", "IGNORE", "IMMEDIATE", "IN", "INDEX", "INDEXED", "INITIALLY", "INNER",
  "INSERT", "INSTEAD", "INTERSECT", "INTO", "IS", "ISNULL", "JOIN", "KEY", "LAST", "LEFT",
  "LIKE", "LIMIT", "MATCH", "MATERIALIZED", "NATURAL", "NO", "NOT", "NOTHING", "NOTNULL", "NULL",
  "NULLS", "OF", "OFFSET", "ON", "OR", "ORDER", "OTHERS", "OUTER", "OVER", "PARTITION", "PLAN",
  "PRAGMA", "PRECEDING", "PRIMARY", "QUERY", "RAISE", "RANGE", "RECURSIVE", "REFERENCES",
  "REGEXP", "REINDEX", "RELEASE", "RENAME", "REPLACE", "RESTRICT", "RETURNING", "RIGHT",
  "ROLLBACK", "ROW", "ROWS", "SAVEPOINT", "SELECT", "SET", "TABLE", "TEMP", "TEMPORARY", "THEN",
  "TIES", "TO", "TRANSACTION", "TRIGGER", "UNBOUNDED", "UNION", "UNIQUE", "UPDATE", "USING",
  "VACUUM", "VALUES", "VIEW", "VIRTUAL", "WHEN", "WHERE", "WINDOW", "WITH", "WITHOUT"]

def reservedWords : List String := [
  "ADD", "ALL", "ALTER", "AND", "AS", "AUTOINCREMENT", "BETWEEN", "CASE", "CHECK", "COLLATE",
  "COMMIT", "CONSTRAINT", "CREATE", "DEFAULT", "DEFERRABLE", "DELETE", "DISTINCT", "DROP", "ELSE",
  "ESCAPE", "EXCEPT", "EXISTS", "FOREIGN", "FROM", "GROUP", "HAVING", "IN", "INDEX", "INSERT",
  "INTERSECT", "INTO", "IS", "ISNULL", "JOIN", "LIMIT", "NOT", "NOTHING", "NOTNULL", "NULL", "ON",
  "OR", "ORDER", "PRIMARY", "REFERENCES", "RETURNING", "SELECT", "SET", "TABLE", "THEN", "TO",
  "TRANSACTION", "UNION", "UNIQUE", "UPDATE", "USING", "VALUES", "WHEN", "WHERE"]

def Token.ofWord (word : String) : Token :=
  let upper := String.ofList (word.toList.map Char.toUpper)
  if keywords.contains upper then .keyword upper else .name word

def enclose (quote : Char) (s : String) : List Char :=
  quote :: s.toList.flatMap (fun c => if c = quote then [quote, quote] else [c]) ++ [quote]

def quoteName (name : String) : String := String.ofList (enclose '"' name)

namespace Token

def hexText (bytes : List UInt8) : String :=
  String.ofList <| bytes.flatMap fun b =>
    [Nat.digitChar (b.toNat / 16), Nat.digitChar (b.toNat % 16)].map Char.toUpper

def chars : Token → List Char
  | .keyword word => word.toList
  | .name word => word.toList
  | .quoted s => enclose '"' s
  | .text value => enclose '\'' value
  | .blob bytes => 'x' :: enclose '\'' (hexText bytes)
  | .number digits => digits.toList
  | .param index => '?' :: Nat.toDigits 10 index
  | .symbol sign => sign.toList
  | .broken source => source.toList

/-- No blank stands after an opening parenthesis, before a closing one or a comma, and between a
name without quotes and the parenthesis that opens its arguments. -/
def touches : Token → Token → Bool
  | .symbol "(", _ => true
  | _, .symbol ")" => true
  | _, .symbol "," => true
  | .name _, .symbol "(" => true
  | _, _ => false

def renderAfter (previous : Token) : List Token → List Char
  | [] => []
  | t :: ts => (if previous.touches t then [] else [' ']) ++ t.chars ++ renderAfter t ts

def render : List Token → List Char
  | [] => []
  | t :: ts => t.chars ++ renderAfter t ts

def joined (separator : List Token) : List (List Token) → List Token
  | [] => []
  | [group] => group
  | group :: groups => group ++ separator ++ joined separator groups

def parens (ts : List Token) : List Token := .symbol "(" :: ts ++ [.symbol ")"]

end Token

end CriteriaSearch.Sql
