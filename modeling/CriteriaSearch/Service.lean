import CriteriaSearch.Compiled
import CriteriaSearch.Page
import CriteriaSearch.Registry
import CriteriaSearch.Schema

namespace CriteriaSearch

/-- What a repository does for a service: it answers a request. -/
abbrev Finder (m : Type → Type) (Entity : Type) : Type :=
  Criteria → m (Except SearchError (ResultPage Entity))

structure SearchService (m : Type → Type) (Entity : Type) where
  registry : Registry (Finder m Entity)

namespace Registration

variable {Repo : Type}

/-- The filter with the type that is registered for its key, unless it gives one. Keys without a
descriptor are those of texts. -/
def resolveFilter (r : Registration Repo) (f : Filter) : Filter :=
  match f.fieldType with
  | some _ => f
  | none => { f with fieldType := some ((r.fieldType? f.key).getD .string) }

def resolveCriteria (r : Registration Repo) (c : Criteria) : Criteria :=
  { c with filters := c.filters.map r.resolveFilter }

end Registration

namespace SearchService

variable {m : Type → Type} {Entity : Type}

def empty : SearchService m Entity := ⟨.empty⟩

def register (s : SearchService m Entity) (entity : EntityId) (schema : EntitySchema)
    (finder : Finder m Entity) : Except SearchError (SearchService m Entity) := do
  let filters ← schema.descriptors
  return ⟨(s.registry.register ⟨entity, schema.name, filters, finder⟩).2⟩

def isRegistered (s : SearchService m Entity) (entity : EntityId) : Bool :=
  (s.registry.get? entity).isSome

def search [Monad m] (s : SearchService m Entity) (entity : EntityId) (name : String)
    (c : Criteria) : m (Except SearchError (ResultPage Entity)) :=
  match s.registry.get? entity with
  | none => pure (.error (.notRegistered name))
  | some r =>
    match r.repositoryFor? entity with
    | none => pure (.error (.notRegistered name))
    | some finder => finder (r.resolveCriteria c)

def availableFilters (s : SearchService m Entity) (entity : EntityId) : List FilterDescriptor :=
  ((s.registry.get? entity).map Registration.filters).getD []

def availableFiltersByName (s : SearchService m Entity) (name : String) : List FilterDescriptor :=
  ((s.registry.getByName? name).map Registration.filters).getD []

def resolveFieldType (s : SearchService m Entity) (entity : EntityId) (key : String) : FieldType :=
  ((s.registry.get? entity).bind fun r => r.fieldType? key).getD .string

def fieldType (s : SearchService m Entity) (entity : EntityId) (name key : String) :
    Except SearchError FieldType :=
  match s.registry.get? entity with
  | none => .error (.notRegistered name)
  | some r =>
    match r.fieldType? key with
    | some t => .ok t
    | none => .error (.fieldNotFound r.name key)

end SearchService

end CriteriaSearch
