import CriteriaSearch.Descriptor
import CriteriaSearch.Text.Quoted
import CriteriaSearch.Value

namespace CriteriaSearch

/-- The identity of an entity type. Two types may have one name. -/
structure EntityId where
  number : Nat
  deriving DecidableEq, Repr

structure Registration (Repo : Type) where
  entity : EntityId
  name : String
  filters : List FilterDescriptor
  repository : Repo

inductive RegistryUpdate where
  | registered (name : String)
  | replaced (name : String)
  deriving DecidableEq, Repr

structure Registry (Repo : Type) where
  entries : List (Registration Repo)
  announced : List RegistryUpdate

/-- A subscriber has read so many announcements. -/
structure Subscription where
  read : Nat
  deriving DecidableEq, Repr

inductive Notice where
  | update (u : RegistryUpdate)
  /-- So many announcements were lost. -/
  | lagged (count : Nat)
  deriving DecidableEq, Repr

namespace Registration

variable {Repo : Type}

def filter? (r : Registration Repo) (key : String) : Option FilterDescriptor :=
  r.filters.find? fun d => d.key == key

def fieldType? (r : Registration Repo) (key : String) : Option FieldType :=
  (r.filter? key).map FilterDescriptor.fieldType

def repositoryFor? (r : Registration Repo) (entity : EntityId) : Option Repo :=
  if r.entity = entity then some r.repository else none

def display (r : Registration Repo) : String :=
  "EntityRegistration \x7b entity: " ++ Text.quoted r.name ++ ", filters: " ++
    toString r.filters.length ++ " \x7d"

end Registration

namespace Registry

variable {Repo : Type}

def empty : Registry Repo := ⟨[], []⟩

def get? (r : Registry Repo) (entity : EntityId) : Option (Registration Repo) :=
  r.entries.find? fun e => e.entity == entity

def getByName? (r : Registry Repo) (name : String) : Option (Registration Repo) :=
  r.entries.find? fun e => e.name == name

/-- The registry with a record for its type in place of the one before, which is given back. -/
def register (r : Registry Repo) (e : Registration Repo) :
    Option (Registration Repo) × Registry Repo :=
  match r.get? e.entity with
  | some previous =>
    (some previous,
      ⟨r.entries.map fun old => if old.entity == e.entity then e else old,
        r.announced ++ [.replaced e.name]⟩)
  | none => (none, ⟨r.entries ++ [e], r.announced ++ [.registered e.name]⟩)

def size (r : Registry Repo) : Nat := r.entries.length

def names (r : Registry Repo) : List String :=
  (r.entries.map Registration.name).mergeSort fun a b => (compareText a b).isLE

def display (r : Registry Repo) : String :=
  "EntityRegistry \x7b entities: [" ++ ", ".intercalate (r.names.map Text.quoted) ++ "] \x7d"

def capacity : Nat := 64

def subscribe (r : Registry Repo) : Subscription := ⟨r.announced.length⟩

/-- What a subscriber has not read yet; announcements beyond the capacity are lost, the oldest
first. -/
def drain (r : Registry Repo) (s : Subscription) : List Notice × Subscription :=
  let waiting := r.announced.drop s.read
  let lost := waiting.length - capacity
  ((if lost = 0 then [] else [Notice.lagged lost]) ++ (waiting.drop lost).map Notice.update,
    ⟨r.announced.length⟩)

end Registry

end CriteriaSearch
