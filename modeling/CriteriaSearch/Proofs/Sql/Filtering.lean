import CriteriaSearch.Proofs.Fields
import CriteriaSearch.Proofs.Sql.BoundValues
import CriteriaSearch.Proofs.Sql.Conditions.Texts
import CriteriaSearch.Sql.Table

namespace CriteriaSearch

namespace Sql

namespace Table

/-- What the table shows of a field of a stored row is what its column makes of the value that the
row has there, which is of the type. -/
def Stores (table : Table) (r : Row) (row : Json) (key : String) (t : FieldType) : Prop :=
  ∃ slot, table.lookup r key = some slot ∧ Slot.Stores t (row.present? key) slot

/-- What the table shows of a name in a row, and an empty slot for a name that it does not have. -/
def slot (table : Table) (r : Row) (name : String) : Slot :=
  (table.lookup r name).getD ⟨.null, none, .binary⟩

theorem Stores.slot {table : Table} {r : Row} {row : Json} {key : String} {t : FieldType}
    (h : table.Stores r row key t) : table.lookup r key = some (table.slot r key) ∧
      Slot.Stores t (row.present? key) (table.slot r key) := by
  obtain ⟨shown, hshown, hstores⟩ := h
  rw [Table.slot, hshown, Option.getD_some]
  exact ⟨rfl, hstores⟩

theorem lookup_newCells (table : Table) (id : Int) (values : List (String × Cell)) (name : String)
    (column : Column) (h : table.columns.find? (fun c => sameName c.name name) = some column)
    (hid : column.isRowId = false) :
    table.lookup ⟨id, table.newCells id values⟩ name =
      some ⟨((givenValue? column values).getD (column.default.eval (.ofParams []))).store
        column.affinity, some column.affinity, column.collation⟩ := by
  have hzip : table.columns.zip (table.newCells id values) =
      table.columns.map fun c => (c, if c.isRowId then .integer id
        else ((givenValue? c values).getD (c.default.eval (.ofParams []))).store c.affinity) := by
    rw [newCells]
    nth_rewrite 1 [← List.map_id table.columns]
    exact List.zip_map'
  have hfound : (table.columns.zip (table.newCells id values)).find?
      (fun c => sameName c.1.name name) =
        some (column, ((givenValue? column values).getD (column.default.eval (.ofParams []))).store
          column.affinity) := by
    rw [hzip, List.find?_map, Function.comp_def, h, Option.map_some, hid, if_neg Bool.false_ne_true]
  rw [lookup, hfound]

/-- A new row is given the value of the one field that names the column. -/
theorem givenValue?_fields (column : Column) (key : String) (fields : List (String × Json))
    (h : ∀ f ∈ fields, sameName f.1 column.name = (key == f.1)) :
    givenValue? column (fields.map fun f => (f.1, (Store.paramOfJson f.2).cell)) =
      (fields.lookup key).map fun stored => (Store.paramOfJson stored).cell := by
  induction fields with
  | nil => rfl
  | cons f fields ih =>
    obtain ⟨name, stored⟩ := f
    have hname := h (name, stored) List.mem_cons_self
    have hrest := ih fun f hf => h f (List.mem_cons_of_mem _ hf)
    rw [givenValue?] at hrest ⊢
    rw [List.map_cons, List.lookup_cons, List.find?_cons, hname]
    cases key == name with
    | true => rfl
    | false => exact hrest

/-- A new row shows the values that it is made of, in columns that suit their types. -/
theorem stores_newCells (table : Table) (id : Int) (fields : List (String × Json)) (key : String)
    (t : FieldType) (column : Column)
    (hcolumn : table.columns.find? (fun c => sameName c.name key) = some column)
    (hid : column.isRowId = false) (hcollation : column.collation = .binary)
    (hsuits : column.affinity.Suits t) (hdefault : column.default.eval (.ofParams []) = .null)
    (hnames : ∀ f ∈ fields, sameName f.1 column.name = (key == f.1))
    (htyped : ∀ stored, (Json.object fields).present? key = some stored → stored.IsTyped t) :
    table.Stores ⟨id, table.newCells id (fields.map fun f => (f.1, (Store.paramOfJson f.2).cell))⟩
      (.object fields) key t := by
  refine ⟨_, table.lookup_newCells id _ key column hcolumn hid, ?_⟩
  have hnull (a : Affinity) : Cell.null.store a = .null := by
    cases a <;> rfl
  rw [givenValue?_fields column key fields hnames, hdefault, hcollation]
  rw [Json.present?, Json.field?] at htyped ⊢
  cases hfield : fields.lookup key with
  | none => exact .missing _ (hnull column.affinity)
  | some stored =>
    rw [hfield] at htyped
    cases stored with
    | null => exact .missing _ (hnull column.affinity)
    | _ => exact .present column.affinity _ hsuits (htyped _ rfl)

end Table

/-- A condition agrees with a predicate on a stored row, and the row has the fields that it
names. -/
def Matching (table : Table) (r : Row) (row : Json) (p : Predicate) : Prop :=
  Matches (table.slot r) row p ∧
    ∀ name ∈ p.leafFields, table.lookup r name = some (table.slot r name)

section Terms

variable (table : Table) (r : Row) (row : Json) (ds : List FilterDescriptor) (c : Criteria)

theorem matching_filter (f : Filter) (q : Predicate)
    (h : f.compile (f.resolvedType ds) = .ok (some q))
    (hstores : table.Stores r row f.key (f.resolvedType ds)) (hkept : q.IsKept row) :
    Matching table r row q := by
  have hterm := f.compile_eq_some _ q h
  obtain ⟨hlookup, hslot⟩ := hstores.slot
  refine ⟨matches_filter _ row f.key _ q hterm hslot hkept, ?_⟩
  intro name hname
  rw [(hterm.mem_leafFields_iff name).mp hname]
  exact hlookup

theorem matching_fullText (query : String) (q : Predicate)
    (h : fullTextPredicate ds query = some q)
    (hstores : ∀ d ∈ ds, d.fieldType = .string → table.Stores r row d.key .string)
    (hkept : q.IsKept row) : Matching table r row q := by
  refine ⟨matches_fullText _ row ds query q h (fun d hd ht => (hstores d hd ht).slot.2) hkept, ?_⟩
  intro name hname
  obtain ⟨d, hd, htype, rfl⟩ := (mem_fullText_leafFields_iff ds query name).mp ⟨q, h, hname⟩
  exact (hstores d hd htype).slot.1

/-- Each of the terms of a request is a filter's or that of the full text. -/
theorem matching_term
    (hfilters : ∀ g ∈ c.filters, g.isDropped ds = false →
      table.Stores r row g.key (g.resolvedType ds))
    (htexts : c.activeQuery? ≠ none → ∀ d ∈ ds, d.fieldType = .string →
      table.Stores r row d.key .string)
    (q : Predicate) (hq : q ∈ c.terms ds) (hkept : q.IsKept row) : Matching table r row q := by
  rcases (Criteria.mem_terms ds c q).mp hq with ⟨g, hg, hterm⟩ | hquery
  · have hgiven : g.isDropped ds = false := by
      rw [Filter.isDropped, hterm]
    exact matching_filter table r row ds g q hterm (hfilters g hg hgiven) hkept
  · obtain ⟨query, hactive, hq⟩ := Option.bind_eq_some_iff.mp hquery
    have hasked : c.activeQuery? ≠ none := by
      rw [hactive]
      exact Option.some_ne_none query
    exact matching_fullText table r row ds query q hq (htexts hasked) hkept

theorem matching_all (ps : List Predicate) (p : Predicate) (h : Predicate.all ps = some p)
    (hkept : p.IsKept row) (hterms : ∀ q ∈ ps, q.IsKept row → Matching table r row q) :
    Matching table r row p := by
  have hall (T : Predicate → Prop) (hand : ∀ ps, T (.and ps) ↔ ∀ p ∈ ps, T p) :
      T p ↔ ∀ q ∈ ps, T q := Predicate.all_eq_some_iff T hand ps p h
  have hparts := (hall (fun p => p.IsKept row) (Predicate.isKept_and row)).mp hkept
  refine ⟨?_, ?_⟩
  · rw [Matches, hall (fun p => conditionTruth _ p = .yes) (conditionTruth_and _),
      hall (fun p => p.holds row = true) (Predicate.holds_and row)]
    exact forall₂_congr fun q hq => (hterms q hq (hparts q hq)).1
  · refine (hall (fun p => ∀ name ∈ p.leafFields, table.lookup r name = some (table.slot r name))
      (Predicate.leafFields_and _)).mpr ?_
    intro q hq
    exact (hterms q hq (hparts q hq)).2

end Terms

/-- The condition that a compiled request is lowered to after any parameters finds a stored row
exactly if the predicate of the request holds of the row in memory. -/
theorem lowered_holds_eq (ds : List FilterDescriptor) (c : Criteria) (k : Compiled)
    (h : c.compile ds = .ok k) (p : Predicate) (hp : k.predicate = some p) (table : Table) (r : Row)
    (row : Json)
    (hfilters : ∀ g ∈ c.filters, g.isDropped ds = false →
      table.Stores r row g.key (g.resolvedType ds))
    (htexts : c.activeQuery? ≠ none → ∀ d ∈ ds, d.fieldType = .string →
      table.Stores r row d.key .string)
    (hkept : p.IsKept row) (f : Fragment) (hnames : namesAreVisible p)
    (hheight : clauseHeight p ≤ greatestHeight)
    (hparams : f.params.length + (params p).length ≤ greatestParam) :
    ∃ e, Expr.ofLexemes (lexemes (f.lower p).1.toList) = .ok (e, []) ∧
      e.holds (table.scope ((f.lower p).2.params.map Param.cell) r) = p.holds row := by
  obtain ⟨-, -, rfl⟩ := (Criteria.compile_eq_ok_iff ds c k).mp h
  obtain ⟨hmatches, hleaves⟩ : Matching table r row p :=
    matching_all table r row _ p hp hkept (matching_term table r row ds c hfilters htexts)
  -- The text is read as an expression that denotes the predicate, whatever the columns hold.
  obtain ⟨e, hread, hdenotes⟩ := ofLexemes_lower f p hnames hheight hparams
  refine ⟨e, hread, ?_⟩
  have hshows : Shows (table.scope ((f.lower p).2.params.map Param.cell) r) (table.slot r)
      f.params.length p.leafFields (params p) := by
    refine ⟨fun name hname => Scope.shown_of_some (hleaves name hname), ?_⟩
    change (params p).map Param.cell <+: ((f.params ++ params p).map Param.cell).drop f.params.length
    rw [List.map_append, List.drop_left' (List.length_map _)]
  rw [Bool.eq_iff_iff, Expr.holds, beq_iff_eq, hdenotes.truth _ (table.slot r) hshows]
  exact hmatches

/-- The fields of a system: its title, its count of seats, the moment of its release and whether it
is supported. -/
def systemFields : List FilterDescriptor := [
  ⟨"title", .string, true, [.contains, .endsWith], by decide, by decide, by decide⟩,
  ⟨"seats", .number, true, [.lessThan, .between], by decide, by decide, by decide⟩,
  ⟨"released", .date, true, [.equals, .blank], by decide, by decide, by decide⟩,
  ⟨"supported", .boolean, true, [.equals, .notBlank], by decide, by decide, by decide⟩]

def systems : Table where
  name := "systems"
  isTemporary := false
  columns := [.plain "title" "TEXT", .plain "seats" "REAL", .plain "released" "DATETIME",
    .plain "supported" "BOOLEAN"]
  indexes := []
  checks := []
  idConflict := .abort
  lastId := none
  order := none
  isStrict := false
  rows := #[]

def debian : List (String × Json) := [("title", .text "Debian"), ("seats", .integer 7),
  ("released", .text "2024-02-29T10:00:00.500Z"), ("supported", .boolean true)]

def debianRow : Row :=
  ⟨1, systems.newCells 1 (debian.map fun f => (f.1, (Store.paramOfJson f.2).cell))⟩

def systemRequest : Criteria :=
  ⟨[.withValue "title" .contains "deb", .withValue "seats" .lessThan "10",
    .withValue "released" .equals "2024-02-29", .withValue "supported" .equals "true"], [], none,
    .first⟩

def leapDay : Date := ⟨2024, 2, 29, by decide, by decide, by decide⟩

def systemTest : Predicate := .and [
  .textMatch "title" .contains "deb",
  .compare "seats" .less (.number (.int 10)),
  .range "released" (.dateTime (.midnight leapDay)) (.dateTime (.endOfDay leapDay)),
  .compare "supported" .equal (.boolean true)]

def releaseTime : DateTime := ⟨leapDay, 36000, 500000000, by decide, by decide⟩

theorem isPlain_releaseTime : releaseTime.IsPlain :=
  ⟨by decide, by decide, by decide, by decide⟩

theorem stores_released : systems.Stores debianRow (.object debian) "released" .date := by
  refine systems.stores_newCells 1 debian "released" .date (.plain "released" "DATETIME") rfl rfl
    rfl (by decide) rfl (by decide) ?_
  intro stored hstored
  cases hstored
  exact .date releaseTime _ (.utc releaseTime) isPlain_releaseTime

/-- The row is found in the table by a request for all its fields, which memory finds it for. -/
theorem lowered_holds_eq_debian :
    ∃ k p, systemRequest.compile systemFields = .ok k ∧ k.predicate = some p ∧
      ∃ e, Expr.ofLexemes (lexemes ((Fragment.mk "" []).lower p).1.toList) = .ok (e, []) ∧
        e.holds (systems.scope (((Fragment.mk "" []).lower p).2.params.map Param.cell) debianRow) =
          true := by
  have htitle : systems.Stores debianRow (.object debian) "title" .string := by
    refine systems.stores_newCells 1 debian "title" .string (.plain "title" "TEXT") rfl rfl rfl
      (by decide) rfl (by decide) ?_
    intro stored hstored
    cases hstored
    exact .string "Debian"
  have hseats : systems.Stores debianRow (.object debian) "seats" .number := by
    refine systems.stores_newCells 1 debian "seats" .number (.plain "seats" "REAL") rfl rfl rfl
      (by decide) rfl (by decide) ?_
    intro stored hstored
    cases hstored
    exact .number (.integer 7) (by decide : (7 : Int).natAbs ≤ 2 ^ 53)
  have hsupported : systems.Stores debianRow (.object debian) "supported" .boolean := by
    refine systems.stores_newCells 1 debian "supported" .boolean (.plain "supported" "BOOLEAN") rfl
      rfl rfl (by decide) rfl (by decide) ?_
    intro stored hstored
    cases hstored
    exact .boolean true
  have hfilters : ∀ g ∈ systemRequest.filters, g.isDropped systemFields = false →
      systems.Stores debianRow (.object debian) g.key (g.resolvedType systemFields) := by
    intro g hg _
    simp only [systemRequest, List.mem_cons, List.not_mem_nil, or_false] at hg
    rcases hg with rfl | rfl | rfl | rfl
    · exact htitle
    · exact hseats
    · exact stores_released
    · exact hsupported
  have htests : ∀ test ∈ systemTest.leaves, test.IsBoundExactly (.object debian) := by
    simp only [systemTest, Predicate.leaves, Predicate.leavesOf, List.forall_mem_cons,
      List.singleton_append, List.not_mem_nil, false_implies, implies_true, and_true]
    refine ⟨⟨by decide, ?_⟩, trivial, ⟨⟨by decide, .inl rfl⟩, by decide, .inr (.inr rfl)⟩, trivial⟩
    intro s hs
    cases hs
    decide
  have hkept : systemTest.IsKept (.object debian) :=
    Criteria.isKept_compiled (c := systemRequest) rfl rfl
      (fun g hg hgiven => (hfilters g hg hgiven).slot.2.isTypedAt) htests
  have hmemory : systemTest.holds (.object debian) = true := by decide +kernel
  refine ⟨_, systemTest, rfl, rfl, ?_⟩
  rw [← hmemory]
  refine lowered_holds_eq systemFields systemRequest _ rfl systemTest rfl systems debianRow _
    hfilters ?_ hkept ⟨"", []⟩ (by decide) (by decide) (by decide)
  intro hquery
  exact absurd rfl hquery

/-- A request for a moment within the millisecond of the release, but after it. -/
def laterRequest : Criteria :=
  ⟨[.withValue "released" .equals "2024-02-29T10:00:00.5001"], [], none, .first⟩

def laterTest : Predicate :=
  .compare "released" .equal (.dateTime ⟨leapDay, 36000, 500100000, by decide, by decide⟩)

/-- The row is found in the table by a request for a later moment of the same millisecond, which
memory does not find it for: dates are compared there in milliseconds. -/
theorem lowered_holds_ne_later :
    systems.Stores debianRow (.object debian) "released" .date ∧
      ∃ k p e, laterRequest.compile systemFields = .ok k ∧ k.predicate = some p ∧
        Expr.ofLexemes (lexemes ((Fragment.mk "" []).lower p).1.toList) = .ok (e, []) ∧
        e.holds (systems.scope (((Fragment.mk "" []).lower p).2.params.map Param.cell) debianRow) =
          true ∧
        p.holds (.object debian) = false := by
  obtain ⟨slot, hlookup, htext⟩ : ∃ slot, systems.lookup debianRow "released" = some slot ∧
      conditionTruth (fun _ => slot) laterTest = .yes := by
    refine ⟨_, rfl, ?_⟩
    decide +kernel
  obtain ⟨e, hread, hdenotes⟩ :=
    ofLexemes_lower ⟨"", []⟩ laterTest (by decide) (by decide) (by decide)
  refine ⟨stores_released, _, laterTest, e, rfl, rfl, hread, ?_, by decide +kernel⟩
  rw [Expr.holds, beq_iff_eq, hdenotes.truth _ (fun _ => slot)]
  · exact htext
  · refine ⟨?_, List.prefix_refl _⟩
    intro name hname
    rw [List.mem_singleton.mp hname]
    exact Scope.shown_of_some hlookup

end Sql

end CriteriaSearch
