import CriteriaSearch.Json.Basic
import CriteriaSearch.Page
import CriteriaSearch.Repository

namespace CriteriaSearch.SearchIndex

def hitsOf (body : Json) : List Json :=
  (((body.field? "hits").bind (·.field? "hits")).bind Json.array?).getD []

/-- The count of hits of an answer, given alone or with a note beside it. -/
def totalOf? (body : Json) : Option Nat :=
  let total := (body.field? "hits").bind (·.field? "total")
  let value := (total.bind (·.field? "value")).or total
  value.bind (Json.natUpTo? 18446744073709551615)

def rowOf (hit : Json) : Except SearchError Json :=
  match hit.field? "_source" with
  | some row => .ok row
  | none => .error (.mapping BackendKind.elasticsearch.name "search hit without _source")

def parseHits (body : Json) : Except SearchError (RawPage Json) := do
  let rows ← (hitsOf body).mapM rowOf
  return ⟨rows, (totalOf? body).getD rows.length⟩

end CriteriaSearch.SearchIndex
