import CriteriaSearch.Compiled
import CriteriaSearch.Criteria.Document
import CriteriaSearch.Predicate.Document

namespace CriteriaSearch

def Predicate.optionToJson : Option Predicate → Json
  | some p => p.toJson
  | none => .null

def DroppedFilter.toJson (f : DroppedFilter) : Json :=
  .object [("key", .text f.key), ("operator", .text f.operator.name),
    ("field_type", .text f.fieldType.name)]

def TypedSort.toJson (s : TypedSort) : Json :=
  .object [("key", .text s.key), ("direction", .text s.direction.name),
    ("field_type", .text s.fieldType.name)]

def Compiled.toJson (c : Compiled) : Json :=
  .object [
    ("predicate", Predicate.optionToJson c.predicate),
    ("sorts", .array (c.sorts.map TypedSort.toJson)),
    ("page", c.page.toJson),
    ("dropped", .array (c.dropped.map DroppedFilter.toJson))]

end CriteriaSearch
