import CriteriaSearch.Criteria

namespace CriteriaSearch

structure RawPage (α : Type) where
  rows : List α
  total : Nat
  deriving Repr

structure ResultPage (α : Type) where
  content : List α
  number : UInt32
  size : UInt32
  total : Nat
  totalPages : Nat
  sorts : List SortKey
  first : Bool
  last : Bool
  empty : Bool
  deriving Repr

namespace ResultPage

def nothing {α : Type} : ResultPage α := ⟨[], 0, 0, 0, 0, [], true, true, true⟩

/-- The count of pages of the given size that hold so many rows; rows that are not divided are one
page. -/
def pageCount (total : Nat) (size : UInt32) : Nat :=
  if size = 0 then 1 else (total + size.toNat - 1) / size.toNat

def ofRows {α : Type} (content : List α) (page : PageRequest) (total : Nat)
    (sorts : List SortKey) : ResultPage α where
  content := content
  number := page.number
  size := page.size
  total := total
  totalPages := pageCount total page.size
  sorts := sorts
  first := page.number == 0
  last := pageCount total page.size ≤ page.number.toNat + 1
  empty := content.isEmpty

def map {α β : Type} (f : α → β) (p : ResultPage α) : ResultPage β :=
  { p with content := p.content.map f }

end ResultPage

end CriteriaSearch
