import CriteriaSearch.Criteria
import CriteriaSearch.Descriptor
import CriteriaSearch.Json.Record

/-!
# Criteria documents

Criteria as JSON documents. Null and missing members stand for the defaults, members of other names
are ignored, and the writer leaves out what has its default where the reader allows it.
-/

namespace CriteriaSearch

namespace PageRequest

def numberOfJson? (j : Json) : Option UInt32 := (j.natUpTo? 4294967295).map UInt32.ofNat

def ofJson? (j : Json) : Option PageRequest := do
  match ← j.slots? ["number", "size"] with
  | [number, size] =>
    some ⟨← number.orElse first.number numberOfJson?, ← size.orElse first.size numberOfJson?⟩
  | _ => none

def toJson (p : PageRequest) : Json :=
  .object [("number", .integer p.number.toNat), ("size", .integer p.size.toNat)]

end PageRequest

namespace Filter

def ofJson? (j : Json) : Option Filter := do
  match ← j.slots? ["key", "operator", "fieldType", "value", "valueTo", "values"] with
  | [key, operator, fieldType, value, valueTo, values] =>
    some ⟨← key.required Json.text?, ← operator.required FilterDescriptor.operatorOfJson?,
      ← fieldType.optional FilterDescriptor.fieldTypeOfJson?, ← value.optional Json.text?,
      ← valueTo.optional Json.text?, ← values.orNull [] (Json.list? Json.text?)⟩
  | _ => none

def toJson (f : Filter) : Json :=
  .ofFields [
    ("key", some (.text f.key)),
    ("operator", some (.text f.operator.name)),
    ("fieldType", f.fieldType.map fun t => .text t.name),
    ("value", f.value.map .text),
    ("valueTo", f.valueTo.map .text),
    ("values", if f.values = [] then none else some (.array (f.values.map .text)))]

end Filter

namespace SortKey

def directionOfJson? (j : Json) : Option Direction := j.choice?.bind Direction.ofName?

def ofJson? (j : Json) : Option SortKey := do
  match ← j.slots? ["key", "direction"] with
  | [key, direction] =>
    some ⟨← key.required Json.text?, ← direction.orElse .ascending directionOfJson?⟩
  | _ => none

def toJson (s : SortKey) : Json :=
  .object [("key", .text s.key), ("direction", .text s.direction.name)]

end SortKey

namespace FullText

def ofJson? (j : Json) : Option FullText := do
  match ← j.slots? ["query"] with
  | [query] => some ⟨← query.optional Json.text?⟩
  | _ => none

def toJson (f : FullText) : Json := .object [("query", .ofText? f.query)]

end FullText

namespace Criteria

def ofJson? (j : Json) : Option Criteria := do
  match ← j.slots? ["filters", "sorts", "fullText", "page"] with
  | [filters, sorts, fullText, page] =>
    some ⟨← filters.orNull [] (Json.list? Filter.ofJson?),
      ← sorts.orNull [] (Json.list? SortKey.ofJson?), ← fullText.optional FullText.ofJson?,
      ← page.orNull .first PageRequest.ofJson?⟩
  | _ => none

def toJson (c : Criteria) : Json :=
  .ofFields [
    ("filters", some (.array (c.filters.map Filter.toJson))),
    ("sorts", some (.array (c.sorts.map SortKey.toJson))),
    ("fullText", c.fullText.map FullText.toJson),
    ("page", some c.page.toJson)]

end Criteria

end CriteriaSearch
