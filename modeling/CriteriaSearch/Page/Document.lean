import CriteriaSearch.Criteria.Document
import CriteriaSearch.Page

namespace CriteriaSearch

def ResultPage.toJson {α : Type} (row : α → Json) (p : ResultPage α) : Json :=
  .object [
    ("content", .array (p.content.map row)),
    ("pageNumber", .integer p.number.toNat),
    ("pageSize", .integer p.size.toNat),
    ("totalElements", .integer p.total),
    ("totalPages", .integer p.totalPages),
    ("sorts", .array (p.sorts.map SortKey.toJson)),
    ("first", .boolean p.first),
    ("last", .boolean p.last),
    ("empty", .boolean p.empty)]

end CriteriaSearch
