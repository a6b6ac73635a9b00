import CriteriaSearch.Json.Basic
import CriteriaSearch.Value

namespace CriteriaSearch.Documents

inductive Bson where
  | null
  | boolean (value : Bool)
  | int32 (value : Int32)
  | int64 (value : Int64)
  | double (value : Double)
  /-- Milliseconds since the start of 1970. -/
  | dateTime (millis : Int)
  | text (value : String)
  | array (items : List Bson)
  | document (fields : List (String × Bson))
  deriving Inhabited, Repr

abbrev Document := List (String × Bson)

/-- The document with a field set. A field that is there keeps its place. -/
def Document.set (d : Document) (name : String) (value : Bson) : Document :=
  if d.any fun field => field.1 == name then
    d.map fun field => if field.1 == name then (name, value) else field
  else d ++ [(name, value)]

namespace Bson

/-- The value that a filter compares with; decimals are sent as binary floating-point numbers. -/
def ofValue : FieldValue → Bson
  | .text s => .text s
  | .number (.int n) => .int32 n
  | .number (.long n) => .int64 n
  | .number n => .double n.toDouble
  | .dateTime t => .dateTime t.epochMillis
  | .boolean b => .boolean b

mutual

def toJson : Bson → Json
  | .null => .null
  | .boolean b => .boolean b
  | .int32 n => .integer n.toInt
  | .int64 n => .integer n.toInt
  | .double x => .float x
  | .dateTime millis => .object [("$date", .integer millis)]
  | .text s => .text s
  | .array items => .array (listToJson items)
  | .document fields => .object (fieldsToJson fields)

def listToJson : List Bson → List Json
  | [] => []
  | b :: bs => toJson b :: listToJson bs

def fieldsToJson : List (String × Bson) → List (String × Json)
  | [] => []
  | (name, b) :: fields => (name, toJson b) :: fieldsToJson fields

end

end Bson

end CriteriaSearch.Documents
