import CriteriaSearch.Documents.Repository
import CriteriaSearch.Memory.Repository
import CriteriaSearch.Proofs.Applicability
import CriteriaSearch.Proofs.Service
import CriteriaSearch.SearchIndex.Repository
import CriteriaSearch.Sql.Repository

/-!
# Services over repositories

A service fills in the types of filters from the descriptors it has registered, and a repository
looks them up in its own ones when it compiles the request. Both have the descriptors of the schema,
and both take the first one with the key. So a search by way of the service is the search that the
repository does, whatever the filters give for their types.
-/

namespace CriteriaSearch

namespace Registration

variable {Repo : Type} (r : Registration Repo)

theorem fieldType?_getD (key : String) :
    (r.fieldType? key).getD .string = CriteriaSearch.resolveFieldType r.filters key := by
  rw [fieldType?, filter?, CriteriaSearch.resolveFieldType]
  -- Both take the first descriptor with the key, and text where there is none.
  cases r.filters.find? fun d => d.key == key <;> rfl

/-- A service fills in the type that the filter is compiled for without it. -/
theorem resolveFilter_eq (f : Filter) :
    r.resolveFilter f = { f with fieldType := some (f.resolvedType r.filters) } := by
  obtain ⟨key, operator, _ | t, value, valueTo, values⟩ := f
  · rw [resolveFilter, Filter.resolvedType, Option.getD_none, fieldType?_getD]
  · rfl

theorem outcome_resolveFilter (f : Filter) :
    (r.resolveFilter f).outcome r.filters = f.outcome r.filters := by
  rw [resolveFilter_eq]
  -- A filter is compiled for the type that it is handed; the one it has noted is not looked at.
  rfl

theorem compile_resolveCriteria (c : Criteria) :
    (r.resolveCriteria c).compile r.filters = c.compile r.filters := by
  have houtcomes : (c.filters.map r.resolveFilter).mapM (Filter.outcome r.filters) =
      c.filters.mapM (Filter.outcome r.filters) := by
    rw [List.mapM_map]
    exact congrArg (c.filters.mapM ·) (funext r.outcome_resolveFilter)
  rw [Criteria.compile, Criteria.compile]
  simp only [resolveCriteria, houtcomes]
  rfl

end Registration

/-- Requests that are compiled to the same and ask for the same page in the same order. -/
structure Criteria.SameSearch (ds : List FilterDescriptor) (c c' : Criteria) : Prop where
  compile_eq : c.compile ds = c'.compile ds
  page_eq : c.page = c'.page
  sorts_eq : c.sorts = c'.sorts

theorem Registration.sameSearch_resolveCriteria {Repo : Type} (r : Registration Repo)
    (c : Criteria) : Criteria.SameSearch r.filters (r.resolveCriteria c) c :=
  ⟨r.compile_resolveCriteria c, rfl, rfl⟩

/-- A repository makes use of the filters of a request only to compile it. -/
theorem Repository.search_congr {m : Type → Type} [Monad m] {Query Row Entity : Type}
    (r : Repository m Query Row Entity) {c c' : Criteria}
    (h : Criteria.SameSearch r.descriptors c c') : r.search c = r.search c' := by
  have hcompile : r.compile c = r.compile c' := by
    rw [compile, compile, h.compile_eq]
  have hresult : r.mapResult c = r.mapResult c' := by
    funext page
    rw [mapResult, mapResult, h.page_eq, h.sorts_eq]
  rw [search, search, hcompile, hresult]

section Adapters

variable {m : Type → Type} [Monad m]

/-- What the repositories over a schema do for a service. The rows in memory and the database of a
table are those at the time of the request, and documents and indexes are asked as they are. -/
inductive Serves (schema : EntitySchema) : {Entity : Type} → Finder m Entity → Prop
  | memory (start : MemoryStore) (h : MemoryStore.ofSchema schema = .ok start)
      (rows : m (List Json)) :
      Serves schema fun c => do
        let now := { start with rows := ← rows }
        return Id.run (now.repository.search c)
  | table {Entity : Type} (path table : String) (start : Sql.Store)
      (h : Sql.Store.connect path table schema = .ok start) (database : m Sql.Database)
      (mapRow : Json → Except SearchError Entity) :
      Serves schema fun c => do
        let now := { start with database := ← database }
        return Id.run ((now.repository mapRow).search c)
  | collection {Entity : Type} (ds : List FilterDescriptor) (h : schema.descriptors = .ok ds)
      (collection : Documents.Collection m)
      (mapRow : Documents.Document → Except SearchError Entity) :
      Serves schema (collection.repository ds mapRow).search
  | index {Entity : Type} (ds : List FilterDescriptor) (h : schema.descriptors = .ok ds)
      (index : SearchIndex.Index m) (dialect : SearchIndex.Dialect)
      (mapRow : Json → Except SearchError Entity) :
      Serves schema (index.repository dialect ds mapRow).search

variable {Entity : Type} {schema : EntitySchema} {finder : Finder m Entity}

/-- A repository over a schema has the descriptors of the schema, and what it finds depends on what
requests are compiled to with them. -/
theorem Serves.descriptors (h : Serves schema finder) :
    ∃ ds, schema.descriptors = .ok ds ∧
      ∀ c c', Criteria.SameSearch ds c c' → finder c = finder c' := by
  cases h with
  | memory start hstart rows =>
    obtain ⟨ds, hschema, rfl⟩ := (map_eq_ok_iff _ _ _).mp hstart
    refine ⟨ds, hschema, fun c c' hsame => ?_⟩
    have hnow (now : List Json) := (MemoryStore.repository ⟨ds, now⟩).search_congr hsame
    exact congrArg (rows >>= ·) (funext fun now => congrArg pure (hnow now))
  | table path table start hstart database mapRow =>
    rw [Sql.Store.connect] at hstart
    split at hstart
    · obtain ⟨ds, hschema, rfl⟩ := (map_eq_ok_iff _ _ _).mp hstart
      refine ⟨ds, hschema, fun c c' hsame => ?_⟩
      have hnow (now : Sql.Database) :=
        (Sql.Store.repository ⟨now, table, ds⟩ mapRow).search_congr hsame
      exact congrArg (database >>= ·) (funext fun now => congrArg pure (hnow now))
    · cases hstart
  | collection ds hschema collection mapRow =>
    exact ⟨ds, hschema, fun c c' hsame =>
      (collection.repository ds mapRow).search_congr hsame⟩
  | index ds hschema index dialect mapRow =>
    exact ⟨ds, hschema, fun c c' hsame =>
      (index.repository dialect ds mapRow).search_congr hsame⟩

end Adapters

namespace SearchService

open ServiceCall

variable {m : Type → Type} {Entity : Type}

/-- The filter with its type looked up by the service, unless it gives one. -/
def fillIn (s : SearchService m Entity) (entity : EntityId) (f : Filter) : Filter :=
  { f with fieldType := some (f.fieldType.getD (s.resolveFieldType entity f.key)) }

/-- The request with the types of its filters filled in by the service. -/
def fillInAll (s : SearchService m Entity) (entity : EntityId) (c : Criteria) : Criteria :=
  { c with filters := c.filters.map (s.fillIn entity) }

theorem fillIn_eq_resolveFilter {s : SearchService m Entity} {entity : EntityId}
    {r : Registration (Finder m Entity)} (h : s.registry.get? entity = some r) (f : Filter) :
    s.fillIn entity f = r.resolveFilter f := by
  rw [fillIn, resolveFieldType, h, Option.bind_some, r.fieldType?_getD, r.resolveFilter_eq]
  rfl

theorem fillInAll_eq_resolveCriteria {s : SearchService m Entity} {entity : EntityId}
    {r : Registration (Finder m Entity)} (h : s.registry.get? entity = some r) (c : Criteria) :
    s.fillInAll entity c = r.resolveCriteria c := by
  have hfill : s.fillIn entity = r.resolveFilter :=
    funext fun f => fillIn_eq_resolveFilter h f
  rw [fillInAll, hfill]
  rfl

theorem fillIn_of_fieldType (s : SearchService m Entity) (entity : EntityId) {f : Filter}
    {t : FieldType} (h : f.fieldType = some t) : s.fillIn entity f = f := by
  rw [fillIn, h, Option.getD_some, ← h]

theorem fillIn_fillIn (s : SearchService m Entity) (entity : EntityId) (f : Filter) :
    s.fillIn entity (s.fillIn entity f) = s.fillIn entity f :=
  s.fillIn_of_fieldType entity rfl

theorem fillInAll_fillInAll (s : SearchService m Entity) (entity : EntityId) (c : Criteria) :
    s.fillInAll entity (s.fillInAll entity c) = s.fillInAll entity c := by
  have hfill : s.fillIn entity ∘ s.fillIn entity = s.fillIn entity :=
    funext fun f => s.fillIn_fillIn entity f
  rw [fillInAll, fillInAll, List.map_map, hfill]

def Spares (entity : EntityId) (call : ServiceCall m Entity) : Prop :=
  ∀ r, call.registration? = some r → r.entity ≠ entity

/-- A record stays the last one of its type while no call registers the type again. -/
theorem lastRecord_append {past : List (ServiceCall m Entity)} {entity : EntityId}
    {r : Registration (Finder m Entity)} (h : lastRecord past entity = some r)
    (later : List (ServiceCall m Entity)) (hlater : ∀ call ∈ later, Spares entity call) :
    lastRecord (past ++ later) entity = some r := by
  -- The induction adds the later calls at the end, as histories grow.
  induction later using List.reverseRecOn with
  | nil => rwa [List.append_nil]
  | append_singleton later call ih =>
    rw [List.forall_mem_append] at hlater
    obtain ⟨hbefore, hcall⟩ := hlater
    have hspares := hcall call (List.mem_singleton.mpr rfl)
    rw [lastRecord, ← List.append_assoc, registrations_concat]
    cases hregistered : call.registration? with
    | none =>
      rw [Option.toList_none, List.append_nil]
      exact ih hbefore
    | some other =>
      rw [Option.toList_some, Registry.lastOf_concat, if_neg (hspares other hregistered)]
      exact ih hbefore

theorem lastRecord_register (past : List (ServiceCall m Entity)) (entity : EntityId)
    {schema : EntitySchema} {ds : List FilterDescriptor} (h : schema.descriptors = .ok ds)
    (finder : Finder m Entity) :
    lastRecord (past ++ [.register entity schema finder]) entity =
      some ⟨entity, schema.name, ds, finder⟩ := by
  rw [lastRecord, registrations_concat, registration?, h]
  exact (Registry.lastOf_concat _ _ entity).trans (if_pos rfl)

/-- A service that answers searches for entities of a type as their repository does. -/
structure PassesOn [Monad m] (s : SearchService m Entity) (entity : EntityId)
    (ds : List FilterDescriptor) (finder : Finder m Entity) : Prop where
  /-- The page or the error is that of the repository. -/
  search_eq : ∀ name c, s.search entity name c = finder c
  /-- Types that are filled in beforehand change neither what is found nor what is compiled. -/
  find_filled : ∀ c, finder (s.fillInAll entity c) = finder c
  compile_filled : ∀ c, (s.fillInAll entity c).compile ds = c.compile ds
  filled_twice : ∀ c, s.fillInAll entity (s.fillInAll entity c) = s.fillInAll entity c
  filled_given : ∀ f t, f.fieldType = some t → s.fillIn entity f = f

/-- Once a repository over a schema is registered for a type, and until the type is registered
again, searching by way of the service is searching in the repository. -/
theorem search_eq_repository [Monad m] {schema : EntitySchema} {finder : Finder m Entity}
    (h : Serves schema finder) (earlier later : List (ServiceCall m Entity)) (entity : EntityId)
    (hlater : ∀ call ∈ later, Spares entity call) :
    ∃ ds, schema.descriptors = .ok ds ∧
      (after (earlier ++ .register entity schema finder :: later)).PassesOn entity ds finder := by
  obtain ⟨ds, hds, hsame⟩ := h.descriptors
  refine ⟨ds, hds, ?_⟩
  -- The record of the type is the one that this registration made.
  rw [List.append_cons]
  generalize hpast : earlier ++ [.register entity schema finder] ++ later = past
  have hrecord : lastRecord past entity = some ⟨entity, schema.name, ds, finder⟩ := by
    rw [← hpast]
    exact lastRecord_append (lastRecord_register earlier entity hds finder) later hlater
  have hget := get?_after past entity
  rw [hrecord] at hget
  have hfilled (c : Criteria) :
      finder (Registration.resolveCriteria ⟨entity, schema.name, ds, finder⟩ c) = finder c := by
    apply hsame
    exact Registration.sameSearch_resolveCriteria ⟨entity, schema.name, ds, finder⟩ c
  constructor
  case search_eq =>
    intro name c
    -- The repository gets the request with the types filled in, which is all the same to it.
    rw [search_after, hrecord]
    exact hfilled c
  case find_filled =>
    intro c
    rw [fillInAll_eq_resolveCriteria hget]
    exact hfilled c
  case compile_filled =>
    intro c
    rw [fillInAll_eq_resolveCriteria hget]
    exact Registration.compile_resolveCriteria _ c
  case filled_twice => exact fillInAll_fillInAll _ entity
  case filled_given => exact fun f t hf => fillIn_of_fieldType _ entity hf

end SearchService

def articleStore : MemoryStore where
  descriptors := articleDescriptors
  rows := [.object [("published", .boolean true), ("size", .text "A4"), ("pages", .integer 12)]]

def articleFinder : Finder Id Json := articleStore.repository.search

/-- Calls to a service with articles: afterwards another type is registered, with the same name. -/
def articleCalls : List (ServiceCall Id Json) :=
  [.register ⟨0⟩ article articleFinder, .isRegistered ⟨0⟩, .register ⟨1⟩ article articleFinder]

/-- A search that leaves open which of the two types of a size is meant. -/
theorem search_eq_repository_articles :
    Serves article articleFinder ∧
      (∀ call ∈ articleCalls.drop 1, SearchService.Spares ⟨0⟩ call) ∧
      ∀ size, (SearchService.after articleCalls).search ⟨0⟩ "Article"
          ⟨[.withValue "size" .contains size], [], none, .first⟩ =
        articleFinder ⟨[.withValue "size" .contains size], [], none, .first⟩ := by
  have hserves : Serves article articleFinder :=
    .memory (m := Id) ⟨articleDescriptors, []⟩ rfl _
  have hspares : ∀ call ∈ articleCalls.drop 1, SearchService.Spares ⟨0⟩ call := by
    simp only [articleCalls, List.drop_succ_cons, List.drop_zero, List.forall_mem_cons,
      SearchService.Spares, ServiceCall.registration?, reduceCtorEq, false_imp_iff, implies_true,
      List.not_mem_nil, true_and, and_true, Option.map_eq_some_iff, forall_exists_index, and_imp]
    rintro r ds - rfl
    exact (by decide : (⟨1⟩ : EntityId) ≠ ⟨0⟩)
  refine ⟨hserves, hspares, fun size => ?_⟩
  obtain ⟨ds, -, hpasses⟩ :=
    SearchService.search_eq_repository hserves [] (articleCalls.drop 1) ⟨0⟩ hspares
  exact hpasses.search_eq "Article" _

end CriteriaSearch
