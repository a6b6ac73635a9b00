import CriteriaSearch.Documents.Repository
import CriteriaSearch.Proofs.Faults
import CriteriaSearch.Proofs.Paging
import CriteriaSearch.SearchIndex.Repository

namespace CriteriaSearch

namespace Repository

variable {m : Type → Type} {Query Row Entity : Type}

section Stages

variable (r : Repository m Query Row Entity) (c : Criteria)

/-- The page of a request when the store has answered with these rows. -/
structure IsResult (raw : RawPage Row) (p : ResultPage Entity) : Prop where
  content_mapped : List.Forall₂ (fun row entity => r.mapRow row = .ok entity) raw.rows p.content
  sorts_eq : p.sorts = c.sorts
  number_eq : p.number = c.page.number
  size_eq : p.size = c.page.size
  total_eq : p.total = raw.total
  totalPages_isLeast : IsLeast {k | raw.total ≤ k * c.page.size.toNat} p.totalPages
  first_iff : p.first = true ↔ c.page.number = 0
  last_iff : p.last = true ↔ raw.total ≤ (c.page.number.toNat + 1) * c.page.size.toNat
  empty_iff : p.empty = true ↔ raw.rows = []

/-- What a search comes to when the store has answered: the error of the store, that of the first
row that is no entity, or the page. -/
inductive Concludes :
    Except SearchError (RawPage Row) → Except SearchError (ResultPage Entity) → Prop
  | refused (e : SearchError) : Concludes (.error e) (.error e)
  | unmapped (before : List Row) (row : Row) (after : List Row) (total : Nat) (e : SearchError) :
      (∀ other ∈ before, ∃ entity, r.mapRow other = .ok entity) → r.mapRow row = .error e →
      Concludes (.ok ⟨before ++ row :: after, total⟩) (.error e)
  | found (raw : RawPage Row) (p : ResultPage Entity) : r.IsResult c raw p →
      Concludes (.ok raw) (.ok p)

def conclusion : Except SearchError (RawPage Row) → Except SearchError (ResultPage Entity)
  | .error e => .error e
  | .ok raw => r.mapResult c raw

variable {r c}

theorem compile_of_uncompiled {e : SearchError} (h : c.compile r.descriptors = .error e) :
    r.compile c = .error e := by
  rw [compile, h]
  rfl

theorem compile_of_compiled {k : Compiled} (h : c.compile r.descriptors = .ok k) :
    r.compile c = r.lower k := by
  rw [compile, h]
  rfl

theorem isResult_ofRows (hsize : c.page.size ≠ 0) {raw : RawPage Row} {entities : List Entity}
    (h : List.Forall₂ (fun row entity => r.mapRow row = .ok entity) raw.rows entities) :
    r.IsResult c raw (.ofRows entities c.page raw.total c.sorts) where
  content_mapped := h
  sorts_eq := rfl
  number_eq := rfl
  size_eq := rfl
  total_eq := rfl
  totalPages_isLeast := ResultPage.isLeast_pageCount raw.total c.page.size hsize
  first_iff := by
    change (c.page.number == 0) = true ↔ _
    exact beq_iff_eq
  last_iff := by
    change decide (ResultPage.pageCount raw.total c.page.size ≤ _) = true ↔ _
    rw [decide_eq_true_iff, ResultPage.pageCount_le_iff raw.total c.page.size hsize]
  empty_iff := by
    change entities.isEmpty = true ↔ _
    rw [List.isEmpty_iff, ← List.length_eq_zero_iff, ← h.length_eq, List.length_eq_zero_iff]

theorem concludes_conclusion (hsize : c.page.size ≠ 0) (stored : Except SearchError (RawPage Row)) :
    r.Concludes c stored (r.conclusion c stored) := by
  match stored with
  | .error e => exact .refused e
  | .ok ⟨rows, total⟩ =>
    rw [conclusion, mapResult]
    cases hrows : rows.mapM r.mapRow with
    | error e =>
      obtain ⟨before, row, after, rfl, hbefore, hrow⟩ := exists_of_mapM_eq_error hrows
      exact .unmapped before row after total e hbefore hrow
    | ok entities => exact .found _ _ (isResult_ofRows hsize (mapM_eq_ok_iff_forall₂.mp hrows))

end Stages

section Searches

variable [Monad m]

def recorded (r : Repository m Query Row Entity) :
    Repository (StateT (List Query) m) Query Row Entity where
  kind := r.kind
  descriptors := r.descriptors
  lower := r.lower
  execute q := do
    modify (· ++ [q])
    r.execute q
  mapRow := r.mapRow

def Executes (r : Repository m Query Row Entity) (c : Criteria) (queries : List Query) : Prop :=
  ∀ record : List Query,
    (r.recorded.search c).run record = (fun result => (result, record ++ queries)) <$> r.search c

variable {r : Repository m Query Row Entity} {c : Criteria}

theorem search_without_query {e : SearchError} (h : r.compile c = .error e) :
    r.search c = pure (.error e) := by
  rw [search, h]

variable [LawfulMonad m]

theorem search_with_query {q : Query} (h : r.compile c = .ok q) :
    r.search c = r.conclusion c <$> r.execute q := by
  rw [search, h, map_eq_pure_bind]
  refine bind_congr fun stored => ?_
  cases stored <;> rfl

theorem executes_nothing {e : SearchError} (h : r.compile c = .error e) : r.Executes c [] := by
  intro record
  have hrecorded : r.recorded.compile c = .error e := h
  rw [search_without_query h, search_without_query hrecorded, StateT.run_pure, map_pure,
    List.append_nil]

theorem run_execute_recorded (q : Query) (record : List Query) :
    (r.recorded.execute q).run record =
      (fun stored => (stored, record ++ [q])) <$> r.execute q := by
  simp [recorded]

theorem executes_query {q : Query} (h : r.compile c = .ok q) : r.Executes c [q] := by
  intro record
  have hrecorded : r.recorded.compile c = .ok q := h
  rw [search_with_query h, search_with_query hrecorded, StateT.run_map, run_execute_recorded,
    Functor.map_map, Functor.map_map]
  -- The record takes no part in what the answer comes to.
  rfl

end Searches

end Repository

section Adapters

variable {m : Type → Type} [Monad m]

inductive Documents.Request where
  | count (filter : Documents.Document)
  | find (query : Documents.Query)

def Documents.Collection.recorded (collection : Collection m) :
    Collection (StateT (List Request) m) where
  find query := do
    modify (· ++ [.find query])
    collection.find query
  count filter := do
    modify (· ++ [.count filter])
    collection.count filter

def SearchIndex.Index.recorded (index : Index m) : Index (StateT (List Query) m) where
  search query := do
    modify (· ++ [query])
    index.search query

/-- A store with a record of its own keeps it as it is on a request that does not compile. -/
theorem Repository.run_search_of_uncompiled {Note Query Row Entity : Type}
    (r : Repository (StateT (List Note) m) Query Row Entity) (c : Criteria) (e : SearchError)
    (h : c.compile r.descriptors = .error e) (record : List Note) :
    (r.search c).run record = pure (.error e, record) := by
  rw [search_without_query (compile_of_uncompiled h)]
  exact StateT.run_pure _ _

variable [LawfulMonad m]

/-- A collection is asked for the count of what a query finds, and for the page once it is known. -/
theorem Documents.Collection.run_execute_recorded (collection : Collection m) (q : Query)
    (record : List Request) :
    (collection.recorded.execute q).run record =
      (collection.count q.filter >>= fun
        | .error e => pure (.error e, record ++ [.count q.filter])
        | .ok total =>
          (fun found => (found.map (⟨·, total⟩), record ++ [.count q.filter, .find q])) <$>
            collection.find q) := by
  simp only [execute, recorded, StateT.run_bind, StateT.run_modify, liftM, StateT.run_monadLift,
    monadLift_self, bind_assoc, pure_bind]
  refine bind_congr fun counted => ?_
  cases counted with
  | error e => exact StateT.run_pure _ _
  | ok total =>
    simp only [StateT.run_bind, StateT.run_modify, StateT.run_monadLift, monadLift_self, bind_assoc,
      pure_bind, map_eq_pure_bind, List.append_assoc, List.cons_append, List.nil_append]
    refine bind_congr fun found => ?_
    cases found <;> exact StateT.run_pure _ _

theorem SearchIndex.Index.run_execute_recorded (index : Index m) (q : Query)
    (record : List Query) :
    (index.recorded.execute q).run record =
      (fun body => (body.bind parseHits, record ++ [q])) <$> index.search q := by
  simp only [execute, recorded, StateT.run_bind, StateT.run_modify, liftM, StateT.run_monadLift,
    monadLift_self, bind_assoc, pure_bind, map_eq_pure_bind]
  refine bind_congr fun body => ?_
  cases body <;> exact StateT.run_pure _ _

/-- A search is all or nothing. Without a compiled request or its query, it is the error of that
stage and the store is not asked. Otherwise the query is executed once, and the search is what the
answer comes to. Collections and indexes are not asked for requests that do not compile. -/
theorem Repository.search_all_or_nothing {Query Row Entity : Type}
    (r : Repository m Query Row Entity) (c : Criteria) :
    (∀ e, c.compile r.descriptors = .error e →
      r.search c = pure (.error e) ∧ r.Executes c []) ∧
    (∀ k e, c.compile r.descriptors = .ok k → r.lower k = .error e →
      r.search c = pure (.error e) ∧ r.Executes c []) ∧
    (∀ k q, c.compile r.descriptors = .ok k → r.lower k = .ok q →
      r.Executes c [q] ∧ ∃ conclude, r.search c = conclude <$> r.execute q ∧
        ∀ stored, r.Concludes c stored (conclude stored)) ∧
    ∀ ds e, c.compile ds = .error e →
      (∀ (collection : Documents.Collection m)
          (mapRow : Documents.Document → Except SearchError Entity) (record : List _),
        ((collection.recorded.repository ds mapRow).search c).run record =
          pure (.error e, record)) ∧
      ∀ (index : SearchIndex.Index m) (dialect : SearchIndex.Dialect)
          (mapRow : Json → Except SearchError Entity) (record : List _),
        ((index.recorded.repository dialect ds mapRow).search c).run record =
          pure (.error e, record) := by
  refine ⟨?_, ?_, ?_, ?_⟩
  · intro e h
    have hquery := compile_of_uncompiled h
    exact ⟨search_without_query hquery, executes_nothing hquery⟩
  · intro k e h hlower
    have hquery := (compile_of_compiled h).trans hlower
    exact ⟨search_without_query hquery, executes_nothing hquery⟩
  · intro k q h hlower
    have hquery := (compile_of_compiled h).trans hlower
    -- What compiles asks for a page of some size, so that the pages can be counted.
    have hsize := ((Criteria.compile_eq_ok_iff r.descriptors c k).mp h).1
    exact ⟨executes_query hquery, r.conclusion c, search_with_query hquery,
      concludes_conclusion hsize⟩
  · intro ds e h
    constructor
    · intro collection mapRow
      exact run_search_of_uncompiled _ c e h
    · intro index dialect mapRow
      exact run_search_of_uncompiled _ c e h

end Adapters

/-- A store of counts that answers with the same rows to all pages, and cannot sort them. -/
def unsortedCounts : Repository Id PageRequest Json Int where
  kind := .memory
  descriptors := countedRows.descriptors
  lower k := if k.sorts = [] then .ok k.page else .error (.internal "memory" "no order")
  execute _ := .ok ⟨[.integer 7, .text "many", .null, .integer 3], 9⟩
  mapRow row :=
    match row.integer? with
    | some count => .ok count
    | none => .error (.mapping "memory" (row.text?.getD "no count"))

def countsAbove (value : Option String) : Criteria :=
  ⟨[{ Filter.bare "count" .greaterThan with value := value }], [], none, .first⟩

/-- A request without the value of its filter, one with a sort, and one that gets two rows that are
no counts. -/
theorem search_all_or_nothing_counts :
    (unsortedCounts.search (countsAbove none) =
        .error (.missingValue "count" .greaterThan) ∧
      unsortedCounts.Executes (countsAbove none) []) ∧
    (unsortedCounts.search countsDescending = .error (.internal "memory" "no order") ∧
      unsortedCounts.Executes countsDescending []) ∧
    (unsortedCounts.search (countsAbove (some "2")) = .error (.mapping "memory" "many") ∧
      unsortedCounts.Executes (countsAbove (some "2")) [.first]) ∧
    ∀ (collection : Documents.Collection Id) (mapRow : Documents.Document → Except SearchError Int),
      ((collection.recorded.repository unsortedCounts.descriptors mapRow).search
        (countsAbove none)).run [] = (.error (.missingValue "count" .greaterThan), []) := by
  obtain ⟨huncompiled, -, -, hadapters⟩ :=
    Repository.search_all_or_nothing unsortedCounts (countsAbove none)
  obtain ⟨-, hunlowered, -⟩ := Repository.search_all_or_nothing unsortedCounts countsDescending
  obtain ⟨-, -, hasked, -⟩ :=
    Repository.search_all_or_nothing unsortedCounts (countsAbove (some "2"))
  refine ⟨huncompiled _ rfl, hunlowered _ _ rfl rfl, ?_, ?_⟩
  · obtain ⟨hexecutes, -⟩ := hasked _ _ rfl rfl
    exact ⟨rfl, hexecutes⟩
  · intro collection mapRow
    exact (hadapters _ _ rfl).1 collection mapRow []

end CriteriaSearch
