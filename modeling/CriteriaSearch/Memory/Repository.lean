import CriteriaSearch.Memory.Order
import CriteriaSearch.Repository
import CriteriaSearch.Schema

namespace CriteriaSearch

structure MemoryQuery where
  predicate : Option Predicate
  sorts : List TypedSort
  page : PageRequest

structure MemoryStore where
  descriptors : List FilterDescriptor
  rows : List Json

namespace MemoryQuery

def keeps (q : MemoryQuery) (row : Json) : Bool :=
  match q.predicate with
  | some p => p.holds row
  | none => true

def found (q : MemoryQuery) (rows : List Json) : List Json :=
  (rows.filter q.keeps).mergeSort fun a b => (compareRows q.sorts a b).isLE

def run (q : MemoryQuery) (rows : List Json) : RawPage Json :=
  let found := q.found rows
  ⟨(found.drop q.page.offset).take q.page.size.toNat, found.length⟩

end MemoryQuery

namespace MemoryStore

def ofSchema (schema : EntitySchema) : Except SearchError MemoryStore :=
  schema.descriptors.map fun ds => ⟨ds, []⟩

def insert (store : MemoryStore) (row : Json) : MemoryStore :=
  { store with rows := store.rows ++ [row] }

def repository (store : MemoryStore) : Repository Id MemoryQuery Json Json where
  kind := .memory
  descriptors := store.descriptors
  lower c := .ok ⟨c.predicate, c.sorts, c.page⟩
  execute q := .ok (q.run store.rows)
  mapRow row := .ok row

end MemoryStore

end CriteriaSearch
