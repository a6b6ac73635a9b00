import CriteriaSearch.Json.Record
import CriteriaSearch.Value.Reader

namespace CriteriaSearch

namespace NumberValue

def toJson (n : NumberValue) : Json :=
  let tagged (kind : String) (value : Json) : Json :=
    .object [("kind", .text kind), ("value", value)]
  match n with
  | .int n => tagged "int" (.integer n.toInt)
  | .long n => tagged "long" (.integer n.toInt)
  | .double x => tagged "double" (.float x)
  | .decimal d => tagged "decimal" (.text d.display)

def doubleOfJson? : Json → Option Double
  | .integer n => some (.ofInt n)
  | .float x => some x
  | _ => none

def decimalOfJson? : Json → Option Decimal
  | .integer n => Decimal.ofInt? n
  | .float x => decimal? .rounded x.plain.toList
  | .text s => decimal? .rounded s.toList
  | _ => none

def ofJson? (j : Json) : Option NumberValue := do
  let (kind, value) ← j.tagged? "kind" "value"
  match kind with
  | "int" => (value.integer?.bind int32?).map .int
  | "long" => (value.integer?.bind int64?).map .long
  | "double" => (doubleOfJson? value).map .double
  | "decimal" => (decimalOfJson? value).map .decimal
  | _ => none

end NumberValue

namespace FieldValue

def toJson (v : FieldValue) : Json :=
  let tagged (kind : String) (value : Json) : Json :=
    .object [("type", .text kind), ("value", value)]
  match v with
  | .text s => tagged "text" (.text s)
  | .number n => tagged "number" n.toJson
  | .dateTime t => tagged "dateTime" (.text t.display)
  | .boolean b => tagged "boolean" (.boolean b)

def ofJson? (j : Json) : Option FieldValue := do
  let (type, value) ← j.tagged? "type" "value"
  match type with
  | "text" => value.text?.map .text
  | "number" => (NumberValue.ofJson? value).map .number
  | "dateTime" => (value.text?.bind fun s => Layout.looseDateTime.dateTime? s.toList).map .dateTime
  | "boolean" => value.boolean?.map .boolean
  | _ => none

end FieldValue

end CriteriaSearch
