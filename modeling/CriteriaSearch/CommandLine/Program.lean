import CriteriaSearch.CommandLine.Help
import CriteriaSearch.CommandLine.Request
import CriteriaSearch.Json.Reader
import CriteriaSearch.Page.Document
import CriteriaSearch.Sample.OperatingSystem
import CriteriaSearch.Service
import CriteriaSearch.Sql.Repository

namespace CriteriaSearch.CommandLine

inductive Failure where
  | unreadableCriteria
  | search (error : SearchError)
  deriving DecidableEq, Repr

def Failure.message : Failure → String
  | .unreadableCriteria => "invalid criteria document"
  | .search e => e.message

structure Outcome where
  status : UInt32
  output : String
  complaint : String
  deriving DecidableEq, Repr

abbrev SampleService := SearchService Id OperatingSystem

def systems : EntityId := ⟨0⟩

def sampleStore (o : Options) : Except SearchError Sql.Store := do
  let store ← Sql.Store.connect o.database OperatingSystem.table OperatingSystem.schema
  let (store, made) := store.executeBatch OperatingSystem.tableStatement
  made
  let (store, emptied) := store.executeBatch ("DELETE FROM " ++ OperatingSystem.table)
  emptied
  (OperatingSystem.samples o.sampleSize).foldlM (fun s row => s.insert row.toJson) store

def sampleService (store : Sql.Store) : Except SearchError SampleService :=
  let repository := store.repository (OperatingSystem.ofRow BackendKind.sqlite.name)
  SearchService.empty.register systems OperatingSystem.schema repository.search

def searchDocument (o : Options) : Except Failure Json := do
  let service ← ((sampleStore o).bind sampleService).mapError .search
  if o.listFilters then
    return .array ((service.availableFilters systems).map FilterDescriptor.toJson)
  match (Json.ofText o.criteria).bind Criteria.ofJson? with
  | none => throw .unreadableCriteria
  | some c =>
    let page ← (service.search systems OperatingSystem.schema.name c).run.mapError .search
    return page.toJson OperatingSystem.toJson

def search (o : Options) : Outcome :=
  match searchDocument o with
  | .ok document => ⟨0, document.pretty ++ "\n", ""⟩
  | .error failure => ⟨1, "", "Error: " ++ failure.message ++ "\n"⟩

def run (arguments : List String) (env : Environment) : Outcome :=
  match Request.ofArguments arguments env with
  | .ok .help => ⟨0, help env, ""⟩
  | .ok .version => ⟨0, version, ""⟩
  | .ok (.search o) => search o
  | .error e =>
    ⟨2, "", e.message ++ "\n\nFor more information, try '--help'.\n"⟩

end CriteriaSearch.CommandLine
