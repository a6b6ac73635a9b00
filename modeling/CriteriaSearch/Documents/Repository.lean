import CriteriaSearch.Documents.Query
import CriteriaSearch.Json.Record
import CriteriaSearch.Repository

namespace CriteriaSearch.Documents

structure Config where
  uri : String
  database : String
  collection : String
  deriving DecidableEq, Repr

structure Collection (m : Type → Type) where
  find : Query → m (Except SearchError (List Document))
  count : Document → m (Except SearchError Nat)

namespace Config

def localUri : String := "mongodb://localhost:27017"

def standard (database collection : String) : Config := ⟨localUri, database, collection⟩

def ofJson? (j : Json) : Option Config := do
  match ← j.slots? ["uri", "database", "collection"] with
  | [uri, database, collection] =>
    some ⟨← uri.orElse localUri Json.text?, ← database.required Json.text?,
      ← collection.required Json.text?⟩
  | _ => none

def toJson (c : Config) : Json :=
  .object [("uri", .text c.uri), ("database", .text c.database),
    ("collection", .text c.collection)]

end Config

def Collection.execute {m : Type → Type} [Monad m] (c : Collection m) (q : Query) :
    m (Except SearchError (RawPage Document)) := do
  match ← c.count q.filter with
  | .error e => return .error e
  | .ok total =>
    match ← c.find q with
    | .error e => return .error e
    | .ok rows => return .ok ⟨rows, total⟩

def displayRepository (descriptors : List FilterDescriptor) : String :=
  "MongoRepository \x7b filters: " ++ toString descriptors.length ++ ", .. \x7d"

def Collection.repository {m : Type → Type} [Monad m] {Entity : Type} (c : Collection m)
    (descriptors : List FilterDescriptor) (mapRow : Document → Except SearchError Entity) :
    Repository m Query Document Entity where
  kind := .mongodb
  descriptors := descriptors
  lower compiled := .ok (.build compiled)
  execute := c.execute
  mapRow := mapRow

end CriteriaSearch.Documents
