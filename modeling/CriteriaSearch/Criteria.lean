import CriteriaSearch.Field
import CriteriaSearch.Text.Blank

namespace CriteriaSearch

/-- A condition on one field. The values are still texts. -/
structure Filter where
  key : String
  operator : Operator
  fieldType : Option FieldType
  /-- The value, or the lower end of a range. -/
  value : Option String
  valueTo : Option String
  values : List String
  deriving DecidableEq, Repr

structure SortKey where
  key : String
  direction : Direction
  deriving DecidableEq, Repr

structure FullText where
  query : Option String
  deriving DecidableEq, Repr

/-- A window on the rows found; pages are numbered from zero. -/
structure PageRequest where
  number : UInt32
  size : UInt32
  deriving DecidableEq, Repr

structure Criteria where
  filters : List Filter
  sorts : List SortKey
  fullText : Option FullText
  page : PageRequest
  deriving DecidableEq, Repr

namespace Filter

def bare (key : String) (op : Operator) : Filter := ⟨key, op, none, none, none, []⟩

def withValue (key : String) (op : Operator) (value : String) : Filter :=
  ⟨key, op, none, some value, none, []⟩

/-- A filter on a range, both ends included. -/
def between (key lower upper : String) : Filter :=
  ⟨key, .between, none, some lower, some upper, []⟩

def membership (key : String) (op : Operator) (values : List String) : Filter :=
  ⟨key, op, none, none, none, values⟩

end Filter

namespace FullText

/-- The query, unless it is missing or blank. -/
def active? (f : FullText) : Option String := f.query.filter fun q => !Text.isBlankText q

end FullText

namespace PageRequest

def first : PageRequest := ⟨0, 100⟩

def offset (p : PageRequest) : Nat := p.number.toNat * p.size.toNat

end PageRequest

namespace Criteria

def everything : Criteria := ⟨[], [], none, .first⟩

def withFilter (c : Criteria) (f : Filter) : Criteria := { c with filters := c.filters ++ [f] }

/-- The request with one more sort, which counts less than those before it. -/
def withSort (c : Criteria) (s : SortKey) : Criteria := { c with sorts := c.sorts ++ [s] }

def withFullText (c : Criteria) (query : String) : Criteria :=
  { c with fullText := some ⟨some query⟩ }

def withPage (c : Criteria) (number size : UInt32) : Criteria :=
  { c with page := ⟨number, size⟩ }

def activeQuery? (c : Criteria) : Option String := c.fullText.bind FullText.active?

end Criteria

end CriteriaSearch
