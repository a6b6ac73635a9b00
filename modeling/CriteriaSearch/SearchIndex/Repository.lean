import CriteriaSearch.Json.Record
import CriteriaSearch.SearchIndex.Hits
import CriteriaSearch.SearchIndex.Query
import CriteriaSearch.Text.Quoted

namespace CriteriaSearch.SearchIndex

inductive Credentials where
  | basic (username password : String)
  | bearer (token : String)
  deriving DecidableEq, Repr

structure Config where
  nodes : List String
  index : String
  requestTimeoutMillis : UInt64
  credentials : Option Credentials
  keywordSuffix : String
  trackTotalHits : Bool
  deriving DecidableEq, Repr

namespace Credentials

def ofJson? : Json → Option Credentials
  | .object [("Basic", j)] => do
    match ← j.slots? ["username", "password"] with
    | [username, password] =>
      some (.basic (← username.required Json.text?) (← password.required Json.text?))
    | _ => none
  | .object [("Bearer", j)] => do
    match ← j.slots? ["token"] with
    | [token] => some (.bearer (← token.required Json.text?))
    | _ => none
  | _ => none

def toJson : Credentials → Json
  | .basic username password =>
    .object [("Basic", .object [("username", .text username), ("password", .text password)])]
  | .bearer token => .object [("Bearer", .object [("token", .text token)])]

end Credentials

namespace Config

def localNodes : List String := ["http://localhost:9200"]

/-- Half a minute. -/
def standardTimeout : UInt64 := 30000

def standard (index : String) : Config :=
  ⟨localNodes, index, standardTimeout, none, ".keyword", true⟩

def dialect (c : Config) : Dialect := ⟨c.index, c.keywordSuffix, c.trackTotalHits⟩

def ofJson? (j : Json) : Option Config := do
  let names :=
    ["nodes", "index", "request_timeout_ms", "auth", "keyword_suffix", "track_total_hits"]
  match ← j.slots? names with
  | [nodes, index, timeout, credentials, suffix, track] =>
    some ⟨← nodes.orElse localNodes (Json.list? Json.text?), ← index.required Json.text?,
      ← timeout.orElse standardTimeout fun j =>
        (j.natUpTo? 18446744073709551615).map UInt64.ofNat,
      ← credentials.optional Credentials.ofJson?, ← suffix.orElse ".keyword" Json.text?,
      ← track.orElse true Json.boolean?⟩
  | _ => none

def toJson (c : Config) : Json :=
  .object [
    ("nodes", .array (c.nodes.map .text)),
    ("index", .text c.index),
    ("request_timeout_ms", .integer c.requestTimeoutMillis.toNat),
    ("auth", match c.credentials with
      | some a => a.toJson
      | none => .null),
    ("keyword_suffix", .text c.keywordSuffix),
    ("track_total_hits", .boolean c.trackTotalHits)]

end Config

structure Index (m : Type → Type) where
  search : Query → m (Except SearchError Json)

def Index.execute {m : Type → Type} [Monad m] (i : Index m) (q : Query) :
    m (Except SearchError (RawPage Json)) := do
  match ← i.search q with
  | .error e => return .error e
  | .ok body => return parseHits body

def Dialect.display (d : Dialect) : String :=
  "EsQueryBuilder \x7b index: " ++ Text.quoted d.index ++ ", keyword_suffix: " ++
    Text.quoted d.keywordSuffix ++ ", track_total_hits: " ++
    (if d.trackTotalHits then "true" else "false") ++ " \x7d"

def displayRepository (d : Dialect) (descriptors : List FilterDescriptor) : String :=
  "ElasticsearchRepository \x7b builder: " ++ d.display ++ ", filters: " ++
    toString descriptors.length ++ ", .. \x7d"

def Index.repository {m : Type → Type} [Monad m] {Entity : Type} (i : Index m) (d : Dialect)
    (descriptors : List FilterDescriptor) (mapRow : Json → Except SearchError Entity) :
    Repository m Query Json Entity where
  kind := .elasticsearch
  descriptors := descriptors
  lower compiled := .ok (d.build compiled)
  execute := i.execute
  mapRow := mapRow

end CriteriaSearch.SearchIndex
