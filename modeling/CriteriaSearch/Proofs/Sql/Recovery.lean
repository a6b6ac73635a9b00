import CriteriaSearch.Proofs.Schema
import CriteriaSearch.Proofs.Sql.Inserting
import CriteriaSearch.Proofs.Sql.Ordering

/-!
# Rows read back from a table

A row that is inserted loses the kind of its truth values, which are stored as integers. Reading
tells them from integers by the descriptors alone, so that a row comes back as it was exactly if its
truth values, and no integers, stand in fields that are searched as truth values.
-/

namespace CriteriaSearch

theorem lookup_map_key {α β : Type} (key : α → String) (value : String → β) (xs : List α)
    (name : String) : (xs.map fun x => (key x, value (key x))).lookup name =
      if name ∈ xs.map key then some (value name) else none := by
  induction xs with
  | nil => rfl
  | cons x xs ih =>
    rw [List.map_cons, List.lookup_cons, ih]
    by_cases hname : name = key x
    · rw [hname, beq_self_eq_true]
      exact (if_pos List.mem_cons_self).symm
    · rw [beq_false_of_ne hname]
      simp only [List.map_cons, List.mem_cons, hname, false_or]

theorem lookup_eq_some_iff_mem {β : Type} (fields : List (String × β))
    (h : (fields.map Prod.fst).Nodup) (name : String) (v : β) :
    fields.lookup name = some v ↔ (name, v) ∈ fields := by
  induction fields with
  | nil => exact iff_of_false nofun nofun
  | cons f fields ih =>
    rw [List.map_cons, List.nodup_cons] at h
    rw [List.lookup_cons, List.mem_cons]
    by_cases hname : name = f.1
    · have hrest : (name, v) ∉ fields := fun hmem =>
        h.1 (hname ▸ List.mem_map_of_mem (f := Prod.fst) hmem)
      rw [beq_iff_eq.mpr hname, or_iff_left hrest, Prod.ext_iff, and_iff_right hname]
      exact Option.some_inj.trans eq_comm
    · rw [beq_false_of_ne hname, ih h.2, or_iff_right]
      rintro rfl
      exact hname rfl

namespace Json

/-- The values are equal; binary numbers are compared by value. -/
def Same : Json → Json → Prop
  | .float x, .float y => x.sameValue y = true
  | a, b => a = b

/-- The objects have the same fields, in any order. -/
def SameFields (a b : Json) : Prop := ∀ name, Option.Rel Same (a.field? name) (b.field? name)

/-- What is read back for a stored value, in a field that is searched as a truth value or not. -/
def recovered (isBoolean : Bool) : Json → Json
  | .boolean b => if isBoolean then .boolean b else .integer (if b then 1 else 0)
  | .integer n => if isBoolean then .boolean (n != 0) else .integer n
  | .float x => .float (Sql.Cell.unsignedZero x)
  | v => v

/-- A truth value stands in a field that is searched as one, and an integer in another field. -/
def Suits (isBoolean : Prop) : Json → Prop
  | .boolean _ => isBoolean
  | .integer _ => ¬isBoolean
  | _ => True

instance (isBoolean : Prop) [Decidable isBoolean] (v : Json) : Decidable (v.Suits isBoolean) :=
  match v with
  | .boolean _ => inferInstanceAs (Decidable isBoolean)
  | .integer _ => inferInstanceAs (Decidable ¬isBoolean)
  | .null | .float _ | .text _ | .array _ | .object _ => isTrue trivial

theorem same_unsignedZero (x : Double) (h : x.isFinite = true) :
    (Json.float (Sql.Cell.unsignedZero x)).Same (.float x) := by
  have hx := Sql.ne_nan_of_isFinite x h
  obtain ⟨hdefined, hplace⟩ := Sql.Cell.unsignedZero_place x hx
  change (Sql.Cell.unsignedZero x).sameValue x = true
  rw [Double.sameValue, Double.compare_eq_position _ x hdefined hx, hplace,
    Std.ReflOrd.compare_self]
  rfl

end Json

/-- Some attribute of the schema is searched as a truth value by the key. -/
def EntitySchema.SearchesTruth (s : EntitySchema) (key : String) : Prop :=
  ∃ a ∈ s.attributes, ∃ nullable, a.searchedAs? = some (key, .boolean, nullable)

instance (s : EntitySchema) (key : String) : Decidable (s.SearchesTruth key) :=
  inferInstanceAs <| Decidable <|
    ∃ a ∈ s.attributes, ∃ nullable, a.searchedAs? = some (key, .boolean, nullable)

namespace Sql

/-! ## Values in a column of their type -/

def Affinity.IsTypeOf (a : Affinity) : Json → Prop
  | .null => True
  | .boolean _ => a = .integer
  | .integer n => a = .integer ∧ Cell.fits n = true
  | .float x => a = .real ∧ x.isFinite = true
  | .text _ => a = .text
  | _ => False

namespace Affinity

variable {a : Affinity} {v : Json} (h : a.IsTypeOf v)
include h

theorem jsonOfCell_store (isBoolean : Bool) :
    Store.jsonOfCell isBoolean ((Store.paramOfJson v).cell.store a) = v.recovered isBoolean := by
  cases v with
  | null => cases a <;> rfl
  | text s =>
    obtain rfl : a = .text := h
    rfl
  | boolean b =>
    obtain rfl : a = .integer := h
    cases b <;> cases isBoolean <;> rfl
  | integer n =>
    obtain ⟨rfl, hfits⟩ := h
    rw [Store.paramOfJson, if_pos hfits]
    rfl
  | float x =>
    obtain ⟨rfl, hx⟩ := h
    have hfinite : (Cell.unsignedZero x).isFinite = true := by
      unfold Cell.unsignedZero
      split
      · rfl
      · exact hx
    rw [cell_paramOfFloat x (ne_nan_of_isFinite x hx)]
    exact if_pos hfinite
  | _ => exact absurd h id

/-- A value is read back the same exactly if it suits its field. -/
theorem same_recovered_iff (isBoolean : Bool) :
    (v.recovered isBoolean).Same v ↔ v.Suits (isBoolean = true) := by
  cases v with
  | null => exact iff_of_true rfl trivial
  | text s => exact iff_of_true rfl trivial
  | float x => exact iff_of_true (Json.same_unsignedZero x h.2) trivial
  | boolean b =>
    cases isBoolean with
    | true => exact iff_of_true rfl rfl
    | false => exact iff_of_false nofun nofun
  | integer n =>
    cases isBoolean with
    | true => exact iff_of_false nofun fun hsuits => hsuits rfl
    | false => exact iff_of_true rfl nofun
  | _ => exact absurd h id

end Affinity

/-! ## Rows that fit a table -/

/-- The fields of a row are the columns of a table, with values of their types. -/
structure Table.Fits (t : Table) (fields : List (String × Json)) : Prop where
  nonempty : fields ≠ []
  names : (fields.map Prod.fst).Perm (t.columns.map Column.name)
  types : ∀ c ∈ t.columns, ∀ v, fields.lookup c.name = some v → c.affinity.IsTypeOf v

/-- A table of columns without rules whose names can be written. -/
structure Table.IsPlain (t : Table) : Prop extends t.IsFree, t.IsSound where
  visible : ∀ c ∈ t.columns, c.name.toList.all isVisible = true
  width : t.columns.length ≤ greatestParam

def Store.recovered (store : Store) (columns : List Column) (fields : List (String × Json)) :
    Json :=
  .object <| columns.map fun c =>
    (c.name, ((fields.lookup c.name).getD .null).recovered (store.booleanKeys.contains c.name))

namespace Table.Fits

variable {t : Table} {fields : List (String × Json)} (h : t.Fits fields)
include h

theorem lookup_isSome_iff (name : String) :
    (fields.lookup name).isSome = true ↔ name ∈ t.columns.map Column.name := by
  rw [← h.names.mem_iff, List.lookup_isSome_iff, List.mem_map]
  refine exists_congr fun f => and_congr_right fun _ => ?_
  rw [beq_iff_eq, eq_comm]

theorem nodup_names (hsound : t.IsSound) : (fields.map Prod.fst).Nodup := by
  rw [h.names.nodup_iff, List.nodup_iff_pairwise_ne, List.pairwise_map]
  refine hsound.names.imp fun hname heq => ?_
  rw [heq, sameName_self] at hname
  cases hname

theorem isTypeOf_lookup (name : String) (v : Json) (hv : fields.lookup name = some v) :
    ∃ a : Affinity, a.IsTypeOf v := by
  have hname := (h.lookup_isSome_iff name).mp (by rw [hv]; rfl)
  obtain ⟨c, hc, rfl⟩ := List.mem_map.mp hname
  exact ⟨c.affinity, h.types c hc v hv⟩

theorem field?_recovered (store : Store) (name : String) :
    (store.recovered t.columns fields).field? name =
      (fields.lookup name).map (Json.recovered (store.booleanKeys.contains name)) := by
  have hlookup := lookup_map_key Column.name (fun name =>
    ((fields.lookup name).getD .null).recovered (store.booleanKeys.contains name)) t.columns name
  refine hlookup.trans ?_
  by_cases hname : name ∈ t.columns.map Column.name
  · obtain ⟨v, hv⟩ := Option.isSome_iff_exists.mp ((h.lookup_isSome_iff name).mpr hname)
    rw [if_pos hname, hv]
    rfl
  · have hnone := Option.not_isSome_iff_eq_none.mp (mt (h.lookup_isSome_iff name).mp hname)
    rw [if_neg hname, hnone]
    rfl

/-- A row is read back with the same fields exactly if their values suit them. -/
theorem sameFields_iff (hsound : t.IsSound) (store : Store) :
    (store.recovered t.columns fields).SameFields (.object fields) ↔
      ∀ f ∈ fields, f.2.Suits (f.1 ∈ store.booleanKeys) := by
  have hmem := lookup_eq_some_iff_mem fields (h.nodup_names hsound)
  rw [Prod.forall]
  refine forall_congr' fun name => ?_
  simp only [← hmem]
  rw [h.field?_recovered store name, Json.field?]
  cases hv : fields.lookup name with
  | none => exact iff_of_true .none fun v hv => absurd hv (Option.some_ne_none v).symm
  | some v =>
    obtain ⟨a, ha⟩ := h.isTypeOf_lookup name v hv
    have hsame := Affinity.same_recovered_iff ha (store.booleanKeys.contains name)
    rw [List.contains_iff_mem] at hsame
    rw [Option.map_some, Option.rel_some_some, hsame]
    exact ⟨by rintro h _ ⟨⟩; exact h, fun h => h v rfl⟩

end Table.Fits

/-! ## Rows put into a table -/

namespace Table

def fill (t : Table) (rows : List (List (String × Json))) : Table :=
  rows.foldl (fun t fields => t.append (t.nextRow (givenValues fields))) t

theorem fill_cons (t : Table) (fields : List (String × Json))
    (rows : List (List (String × Json))) :
    t.fill (fields :: rows) = (t.append (t.nextRow (givenValues fields))).fill rows := rfl

theorem columns_fill (t : Table) (rows : List (List (String × Json))) :
    (t.fill rows).columns = t.columns := by
  induction rows generalizing t with
  | nil => rfl
  | cons fields rows ih => rw [fill_cons, ih, append]

theorem size_fill (t : Table) (rows : List (List (String × Json))) :
    (t.fill rows).rows.size = t.rows.size + rows.length := by
  induction rows generalizing t with
  | nil => rfl
  | cons fields rows ih =>
    rw [fill_cons, ih, append, Array.size_push, List.length_cons]
    omega

namespace IsPlain

variable {t : Table} (h : t.IsPlain)
include h

theorem append_nextRow (values : List (String × Cell)) :
    (t.append (t.nextRow values)).IsPlain := by
  refine ⟨h.toIsFree.append _, ⟨h.names, ?_⟩, h.visible, h.width⟩
  intro r hr
  rcases Array.mem_push.mp hr with hr | rfl
  · exact h.widths r hr
  · exact List.length_map _

theorem fill (rows : List (List (String × Json))) : (t.fill rows).IsPlain := by
  induction rows generalizing t with
  | nil => exact h
  | cons fields rows ih => exact ih (h.append_nextRow (givenValues fields))

theorem listed_eq : t.listed = t.rows.toList := by
  rw [listed, h.order]

/-- No other name of a column is the same as that of a column. -/
theorem sameName_iff_eq (c d : Column) (hc : c ∈ t.columns) (hd : d ∈ t.columns) :
    sameName d.name c.name = (c.name == d.name) := by
  by_cases hname : c.name = d.name
  · rw [hname, sameName_self, beq_self_eq_true]
  · have hsymm : Std.Symm fun a b : Column => sameName a.name b.name = false :=
      ⟨fun a b hab => by rwa [sameName_comm]⟩
    rw [beq_false_of_ne hname]
    exact h.names.forall hd hc fun heq => hname (congrArg Column.name heq.symm)

variable {fields : List (String × Json)} (hfits : t.Fits fields)
include hfits

/-- The row that is made of some fields is read back as their values are. -/
theorem rowOfCells_nextRow (store : Store) :
    store.rowOfCells (t.columns.map Column.name) (t.nextRow (givenValues fields)).cells =
      store.recovered t.columns fields := by
  have hzip : (t.columns.map Column.name).zip (t.nextRow (givenValues fields)).cells =
      t.columns.map fun c => (c.name, _) := List.zip_map'
  rw [Store.rowOfCells, hzip, List.map_map]
  refine congrArg Json.object (List.map_congr_left fun c hc => ?_)
  have hid := (h.columns c hc).1
  obtain ⟨v, hv⟩ := Option.isSome_iff_exists.mp
    ((hfits.lookup_isSome_iff c.name).mpr (List.mem_map_of_mem hc))
  -- Only the field of the column's name gives it a value.
  have hgiven := givenValue?_fields c c.name fields fun f hf => by
    obtain ⟨d, hd, hname⟩ := List.mem_map.mp
      (hfits.names.mem_iff.mp (List.mem_map_of_mem (f := Prod.fst) hf))
    rw [← hname]
    exact h.sameName_iff_eq c d hc hd
  rw [hv] at hgiven ⊢
  have hcell := Affinity.jsonOfCell_store (hfits.types c hc v hv)
    (store.booleanKeys.contains c.name)
  dsimp only [Function.comp_apply]
  rw [if_neg (by rw [hid]; exact Bool.false_ne_true), givenValues, hgiven]
  exact congrArg (Prod.mk c.name) hcell

end IsPlain

/-- Rows that are put into a table are read back after those that it has. -/
theorem map_rowOfCells_fill (t : Table) (h : t.IsPlain) (store : Store)
    (rows : List (List (String × Json))) (hfits : ∀ fields ∈ rows, t.Fits fields) :
    ((t.fill rows).rows.toList.map fun r => store.rowOfCells (t.columns.map Column.name) r.cells) =
      (t.rows.toList.map fun r => store.rowOfCells (t.columns.map Column.name) r.cells) ++
        rows.map (store.recovered t.columns) := by
  induction rows generalizing t with
  | nil => exact (List.append_nil _).symm
  | cons fields rows ih =>
    rw [List.forall_mem_cons] at hfits
    have hplain := h.append_nextRow (givenValues fields)
    have hrest := ih (t.append (t.nextRow (givenValues fields))) hplain fun fields hf =>
      ⟨(hfits.2 fields hf).nonempty, (hfits.2 fields hf).names, (hfits.2 fields hf).types⟩
    have hrow := h.rowOfCells_nextRow hfits.1 store
    have hrows : (t.append (t.nextRow (givenValues fields))).rows.toList =
        t.rows.toList ++ [t.nextRow (givenValues fields)] := Array.toList_push
    rw [hrows, List.map_append] at hrest
    rw [fill_cons, List.map_cons, List.append_cons, ← hrow]
    exact hrest

end Table

/-! ## Rows put into a store -/

namespace Store

/-- The table of the store is one that its database has, under a name that can be written. -/
structure Owns (store : Store) (t : Table) : Prop where
  table : store.database.ownTable? (.ofName store.table) = some t
  noCatalog : Database.isCatalog (.ofName store.table) = false
  visible : store.table.toList.all isVisible = true

def insertFields (store : Store) (fields : List (String × Json)) : Except SearchError Store :=
  store.insert (.object fields)

theorem mem_booleanKeys_iff (store : Store) (schema : EntitySchema)
    (h : schema.descriptors = .ok store.descriptors) (key : String) :
    key ∈ store.booleanKeys ↔ schema.SearchesTruth key := by
  rw [EntitySchema.SearchesTruth, ← EntitySchema.exists_descriptor_iff h key .boolean]
  constructor
  · intro hkey
    obtain ⟨d, hd, rfl⟩ := List.mem_map.mp hkey
    obtain ⟨hd, htype⟩ := List.mem_filter.mp hd
    exact ⟨d, hd, rfl, eq_of_beq htype⟩
  · rintro ⟨d, hd, rfl, htype⟩
    exact List.mem_map.mpr ⟨d, List.mem_filter.mpr ⟨hd, beq_iff_eq.mpr htype⟩, rfl⟩

variable (store : Store) (t : Table) (howns : store.Owns t) (hplain : t.IsPlain)
include howns hplain

/-- A row that fits the table of a store is put at its end. -/
theorem insertFields_eq (fields : List (String × Json)) (hfits : t.Fits fields) :
    ∃ db, store.insertFields fields = .ok { store with database := db } ∧
      Owns { store with database := db } (t.append (t.nextRow (givenValues fields))) := by
  have hcolumn (f : String × Json) (hf : f ∈ fields) : ∃ c ∈ t.columns, c.name = f.1 :=
    List.mem_map.mp (hfits.names.mem_iff.mp (List.mem_map_of_mem hf))
  have hlength : fields.length = t.columns.length := by
    have hlength := hfits.names.length_eq
    rwa [List.length_map, List.length_map] at hlength
  have hnames : ∀ f ∈ fields, f.1.toList.all isVisible = true ∧ t.hasOwnColumn f.1 = true := by
    intro f hf
    obtain ⟨c, hc, hname⟩ := hcolumn f hf
    rw [← hname]
    exact ⟨hplain.visible c hc, List.any_eq_true.mpr ⟨c, hc, sameName_self c.name⟩⟩
  obtain ⟨db, hinsert, hdb⟩ := store.insert_eq t hplain.toIsFree howns.noCatalog howns.table
    howns.visible fields hfits.nonempty (hlength ▸ hplain.width) hnames
  exact ⟨db, hinsert, hdb, howns.noCatalog, howns.visible⟩

/-- Rows that fit the table of a store are put into it in order. -/
theorem foldlM_insertFields (rows : List (List (String × Json)))
    (hfits : ∀ fields ∈ rows, t.Fits fields) :
    ∃ db, rows.foldlM insertFields store = .ok { store with database := db } ∧
      Owns { store with database := db } (t.fill rows) := by
  induction rows generalizing store t with
  | nil => exact ⟨store.database, rfl, howns⟩
  | cons fields rows ih =>
    rw [List.forall_mem_cons] at hfits
    obtain ⟨db, hinsert, howns'⟩ := store.insertFields_eq t howns hplain fields hfits.1
    obtain ⟨filled, hfilled, hfinal⟩ := ih _ _ howns' (hplain.append_nextRow _) fun fields hf =>
      ⟨(hfits.2 fields hf).nonempty, (hfits.2 fields hf).names, (hfits.2 fields hf).types⟩
    refine ⟨filled, ?_, hfinal⟩
    rw [List.foldlM_cons]
    exact (bind_ok hinsert _).trans hfilled

/-- A request without filters or sorts gives a page of all rows of a table. -/
theorem search_everything (hsize : t.rows.size ≤ largestInteger) (number size : UInt32)
    (hpage : size ≠ 0) :
    Id.run ((store.repository .ok).search (Criteria.everything.withPage number size)) =
      .ok (.cut (t.rows.toList.map fun r => store.rowOfCells (t.columns.map Column.name) r.cells)
        number size []) := by
  have hcompile : (Criteria.everything.withPage number size).compile store.descriptors =
      .ok ⟨none, [], ⟨number, size⟩, []⟩ := by
    rw [Criteria.compile_eq_ok_iff]
    exact ⟨hpage, List.forall_mem_nil _, rfl⟩
  have htable : store.database.table? (.ofName store.table) = some t := by
    rw [Database.table?, howns.noCatalog, if_neg Bool.false_ne_true, howns.table]
  have hnone {claim : Predicate → Prop} (p : Predicate) (hp : none = some p) : claim p :=
    absurd hp (Option.some_ne_none p).symm
  have hexpressible : Expressible store ⟨none, [], ⟨number, size⟩, []⟩ :=
    ⟨⟨List.forall_mem_nil _, .inl (List.forall_mem_nil _)⟩,
      ⟨howns.visible, hnone, List.forall_mem_nil _, hnone, (by decide : 0 + 2 ≤ greatestParam)⟩,
      hnone⟩
  let mem : MemoryStore := ⟨store.descriptors,
    t.rows.toList.map fun r => store.rowOfCells (t.columns.map Column.name) r.cells⟩
  -- A store in memory that holds what is read back finds all of its rows.
  have hfound : mem.found ⟨none, [], ⟨number, size⟩, []⟩ = mem.rows := by
    rw [mem.found_of_no_sorts _ rfl]
    exact List.filter_eq_self.mpr fun _ _ => rfl
  have hheld : List.Forall₂ (fun r row => store.Holds t .ok r row ∧
      FoundAlike t ⟨none, [], ⟨number, size⟩, []⟩ (fun _ => .text) r row) t.listed mem.rows := by
    rw [hplain.listed_eq, List.forall₂_map_right_iff, List.forall₂_same]
    exact fun r _ => ⟨rfl, hnone, List.forall_mem_nil _⟩
  have hsearch := search_compiled store mem t .ok _ _ mem.rows hheld htable hplain.toIsSound
    hexpressible hsize _ hcompile (mem.found_eq _).symm
  rw [hfound] at hsearch
  exact hsearch

end Store

/-- Rows that are put into a table are found in order after those that it has. A row is read back
with the same fields exactly if all of its truth values, and none of its integers, are in fields
that the schema searches as truth values. -/
theorem search_inserted (schema : EntitySchema) (store : Store) (t : Table)
    (hschema : schema.descriptors = .ok store.descriptors) (howns : store.Owns t)
    (hplain : t.IsPlain) (rows : List (List (String × Json)))
    (hfits : ∀ fields ∈ rows, t.Fits fields) (hsize : t.rows.size + rows.length < 2 ^ 63)
    (number size : UInt32) (hpage : size ≠ 0) :
    ∃ filled, (rows.map Json.object).foldlM Store.insert store = .ok filled ∧
      Id.run ((filled.repository .ok).search (Criteria.everything.withPage number size)) =
        .ok (.cut
          ((t.rows.toList.map fun r => store.rowOfCells (t.columns.map Column.name) r.cells) ++
            rows.map (store.recovered t.columns)) number size []) ∧
      ∀ fields ∈ rows, ((store.recovered t.columns fields).SameFields (.object fields) ↔
        ∀ f ∈ fields, f.2.Suits (schema.SearchesTruth f.1)) := by
  obtain ⟨db, hfilled, hfinal⟩ := store.foldlM_insertFields t howns hplain rows hfits
  have hrows : (t.fill rows).rows.size ≤ largestInteger := by
    rw [t.size_fill]
    exact Nat.le_pred_of_lt hsize
  have hsearch := Store.search_everything _ _ hfinal (hplain.fill rows) hrows number size hpage
  have hread := t.map_rowOfCells_fill hplain { store with database := db } rows hfits
  rw [t.columns_fill, hread] at hsearch
  refine ⟨_, List.foldlM_map.trans hfilled, hsearch, ?_⟩
  intro fields hf
  rw [(hfits fields hf).sameFields_iff hplain.toIsSound store]
  simp only [store.mem_booleanKeys_iff schema hschema]

/-! ### Tools that may be hidden -/

def Table.plain (name : String) (columns : List (String × String)) : Table where
  name := name
  isTemporary := false
  columns := columns.map fun c => .plain c.1 c.2
  indexes := []
  checks := []
  idConflict := .abort
  lastId := none
  order := none
  isStrict := false
  rows := #[]

theorem Table.isPlain_plain (name : String) (columns : List (String × String))
    (hnames : columns.Pairwise fun a b => sameName a.1 b.1 = false)
    (hvisible : ∀ c ∈ columns, c.1.toList.all isVisible = true)
    (hwidth : columns.length ≤ greatestParam) : (Table.plain name columns).IsPlain := by
  have hcolumns (P : Column → Prop) (h : ∀ c ∈ columns, P (.plain c.1 c.2)) :
      ∀ c ∈ (Table.plain name columns).columns, P c := List.forall_mem_map.mpr h
  refine ⟨⟨hcolumns _ fun _ _ => ⟨rfl, rfl⟩, rfl, rfl, rfl, rfl, rfl⟩, ⟨?_, nofun⟩,
    hcolumns _ hvisible, ?_⟩
  · exact List.pairwise_map.mpr hnames
  · rwa [plain, List.length_map]

/-- The schema of tools with a number, a title and a mark, which may be left out of searches. -/
def toolSchema (isExcluded : Bool) : EntitySchema :=
  ⟨⟨"Tool", [.plain "id" .integer, .plain "title" .text,
    { Attribute.plain "hidden" .boolean with isExcluded := isExcluded }]⟩, []⟩

def tools : Table := .plain "tools" [("id", "INTEGER"), ("title", "TEXT"), ("hidden", "INTEGER")]

theorem isBlankText_title : Text.isBlankText "title" = false := by decide

def toolStore (isExcluded : Bool) : Store where
  database := { Database.empty with tables := [tools] }
  table := "tools"
  descriptors :=
    [⟨"id", .number, true, Operator.defaults .number, by decide, by decide, by decide⟩,
      ⟨"title", .string, true, Operator.defaults .string, isBlankText_title, by decide,
        by decide⟩] ++
    if isExcluded then [] else
      [⟨"hidden", .boolean, true, Operator.defaults .boolean, by decide, by decide, by decide⟩]

def saw : List (String × Json) :=
  [("id", .integer 1), ("title", .text "saw"), ("hidden", .boolean true)]

theorem descriptors_toolSchema (isExcluded : Bool) :
    (toolSchema isExcluded).descriptors = .ok (toolStore isExcluded).descriptors := by
  cases isExcluded <;> rfl

theorem owns_toolStore (isExcluded : Bool) : (toolStore isExcluded).Owns tools := by
  have htable : (toolStore isExcluded).table = "tools" := rfl
  refine ⟨rfl, ?_, ?_⟩ <;> rw [htable] <;> decide +kernel

theorem isPlain_tools : tools.IsPlain :=
  Table.isPlain_plain _ _ (by decide +kernel) (by decide +kernel) (by decide +kernel)

theorem fits_saw : tools.Fits saw := by
  refine ⟨nofun, .refl _, ?_⟩
  intro c hc v hv
  simp only [tools, Table.plain, List.map_cons, List.map_nil, List.mem_cons, List.not_mem_nil,
    or_false] at hc
  rcases hc with rfl | rfl | rfl
  · cases hv
    exact ⟨rfl, rfl⟩
  · cases hv
    rfl
  · cases hv
    rfl

/-- A mark that is searched is read back as it was stored. -/
theorem search_inserted_searched :
    ∃ filled page, [Json.object saw].foldlM Store.insert (toolStore false) = .ok filled ∧
      Id.run ((filled.repository .ok).search .everything) = .ok page ∧
      page.content = [(toolStore false).recovered tools.columns saw] ∧
      ((toolStore false).recovered tools.columns saw).SameFields (.object saw) := by
  obtain ⟨filled, hfilled, hsearch, hsame⟩ := search_inserted (toolSchema false) (toolStore false)
    tools (descriptors_toolSchema false) (owns_toolStore false) isPlain_tools [saw]
    (List.forall_mem_singleton.mpr fits_saw) (by decide) 0 100 (by decide)
  refine ⟨filled, _, hfilled, hsearch, rfl, ?_⟩
  rw [hsame saw (List.mem_singleton_self saw)]
  decide

/-- A mark that is left out of searches is read back as a number. -/
theorem search_inserted_excluded :
    (toolSchema true).descriptors = .ok (toolStore true).descriptors ∧
      (toolStore true).Owns tools ∧ tools.Fits saw ∧
      ∃ filled page, (toolStore true).insert (.object saw) = .ok filled ∧
        Id.run ((filled.repository .ok).search .everything) = .ok page ∧
        page.content =
          [.object [("id", .integer 1), ("title", .text "saw"), ("hidden", .integer 1)]] ∧
        ∀ row ∈ page.content, ¬row.SameFields (.object saw) := by
  obtain ⟨db, hfilled, hfinal⟩ := (toolStore true).insertFields_eq tools (owns_toolStore true)
    isPlain_tools saw fits_saw
  have hplain := isPlain_tools.append_nextRow (givenValues saw)
  have hsearch := Store.search_everything _ _ hfinal hplain (by decide) 0 100 (by decide)
  refine ⟨descriptors_toolSchema true, owns_toolStore true, fits_saw, _, _, hfilled, hsearch, rfl,
    ?_⟩
  intro row hrow hsame
  cases List.mem_singleton.mp hrow
  have hhidden : Option.Rel Json.Same (some (.integer 1)) (some (.boolean true)) := hsame "hidden"
  cases hhidden with
  | some h => cases h

end Sql

end CriteriaSearch
