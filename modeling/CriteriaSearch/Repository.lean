import CriteriaSearch.Compiled
import CriteriaSearch.Page

/-!
# Repositories

A search runs in four stages: the criteria are compiled, the compiled criteria are expressed in the
query language of a backend, the query is executed, and each row is turned into an entity. The first
stage that fails decides the outcome. A backend brings all stages but the first.
-/

namespace CriteriaSearch

inductive BackendKind where
  | sqlite
  | mongodb
  | elasticsearch
  | memory
  deriving DecidableEq, Repr

namespace BackendKind

def all : List BackendKind := [.sqlite, .mongodb, .elasticsearch, .memory]

def name : BackendKind → String
  | .sqlite => "sqlite"
  | .mongodb => "mongodb"
  | .elasticsearch => "elasticsearch"
  | .memory => "memory"

def ofName? (s : String) : Option BackendKind := all.find? (fun k => k.name == s)

end BackendKind

/-- A store of entities with its own query language. -/
structure Repository (m : Type → Type) (Query Row Entity : Type) where
  kind : BackendKind
  descriptors : List FilterDescriptor
  lower : Compiled → Except SearchError Query
  execute : Query → m (Except SearchError (RawPage Row))
  mapRow : Row → Except SearchError Entity

namespace Repository

variable {m : Type → Type} {Query Row Entity : Type}

def compile (r : Repository m Query Row Entity) (c : Criteria) : Except SearchError Query := do
  r.lower (← c.compile r.descriptors)

def mapResult (r : Repository m Query Row Entity) (c : Criteria) (page : RawPage Row) :
    Except SearchError (ResultPage Entity) := do
  return .ofRows (← page.rows.mapM r.mapRow) c.page page.total c.sorts

def search [Monad m] (r : Repository m Query Row Entity) (c : Criteria) :
    m (Except SearchError (ResultPage Entity)) :=
  match r.compile c with
  | .error e => pure (.error e)
  | .ok query => do
    match ← r.execute query with
    | .error e => pure (.error e)
    | .ok page => pure (r.mapResult c page)

end Repository

end CriteriaSearch
