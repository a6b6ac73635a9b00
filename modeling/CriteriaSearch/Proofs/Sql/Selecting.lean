import CriteriaSearch.Proofs.Sql.Columns
import CriteriaSearch.Proofs.Sql.Statements

namespace CriteriaSearch.Sql

namespace Table

/-- The names of the columns differ in more than the case of letters, and every row has a cell in
each of them. -/
structure IsSound (t : Table) : Prop where
  names : t.columns.Pairwise fun a b => sameName a.name b.name = false
  widths : ∀ r ∈ t.rows, r.cells.length = t.columns.length

theorem listed_perm (t : Table) : t.listed.Perm t.rows.toList := by
  rw [listed]
  split
  · exact .refl _
  · exact List.mergeSort_perm _ _

theorem mem_listed (t : Table) (r : Row) : r ∈ t.listed ↔ r ∈ t.rows := by
  rw [t.listed_perm.mem_iff, Array.mem_toList_iff]

theorem length_listed (t : Table) : t.listed.length = t.rows.size := t.listed_perm.length_eq

end Table

theorem sameName_self (name : String) : sameName name name = true := by
  simp [sameName]

theorem sameName_iff (a b : String) : sameName a b = true ↔ foldName a = foldName b := by
  rw [sameName, Bool.or_eq_true, beq_iff_eq, beq_iff_eq, or_iff_right_iff_imp]
  exact congrArg foldName

theorem sameName_comm (a b : String) : sameName a b = sameName b a := by
  rw [Bool.eq_iff_iff, sameName_iff, sameName_iff, eq_comm]

theorem sameName_congr {a b : String} (h : sameName a b = true) (c : String) :
    sameName a c = sameName b c := by
  rw [Bool.eq_iff_iff, sameName_iff, sameName_iff, (sameName_iff a b).mp h]

theorem find?_zip (columns : List Column) (cells : List Cell)
    (h : columns.Pairwise fun a b => sameName a.name b.name = false)
    (hlength : cells.length = columns.length) (i : Nat) (hi : i < columns.length) :
    (columns.zip cells).find? (fun c => sameName c.1.name columns[i].name) =
      some (columns[i], cells[i]) := by
  rw [List.find?_eq_some_iff_getElem]
  refine ⟨sameName_self _, i, by simp [hi, hlength], List.getElem_zip, ?_⟩
  intro j hj
  simp [List.pairwise_iff_getElem.mp h j i (hj.trans hi) hi hj]

/-- What a table shows of a name of a column in a row is the cell of that column. -/
theorem Table.lookup_getElem (t : Table)
    (h : t.columns.Pairwise fun a b => sameName a.name b.name = false) (r : Row)
    (hlength : r.cells.length = t.columns.length) (i : Nat) (hi : i < t.columns.length) :
    t.lookup r t.columns[i].name =
      some ⟨r.cells[i], some t.columns[i].affinity, t.columns[i].collation⟩ := by
  rw [lookup, find?_zip t.columns r.cells h hlength i hi]

/-! ## What a query sees -/

/-- What the query of a selection sees of a row of a table. -/
def rowScope (depth : Nat) (site : Site) (t : Table) (r : Row) : Scope :=
  let inner := site.within ((Frame.ofTable t t.name).column r)
  ⟨inner.outer, site.params, fun q => SelectQuery.reply depth inner q, [], site.counts⟩

theorem Frame.column_ofTable (t : Table) (label : String) (r : Row) (name : String) :
    (ofTable t label).column r none name = t.lookup r name := by
  have hzip : (ofTable t label).headings.zip r.cells =
      (t.columns.zip r.cells).map fun c => (⟨c.1.name, some c.1.affinity, c.1.collation⟩, c.2) := by
    rw [ofTable, List.zip_map_left]
    rfl
  rw [column, hzip, List.find?_map, Function.comp_def, Table.lookup]
  cases (t.columns.zip r.cells).find? fun c => sameName c.1.name name <;> rfl

theorem named?_eq_none (ps : List Projection) (h : ∀ p ∈ ps, p.isNamed = false) (name : String) :
    named? ps name = none := by
  rw [named?, List.find?_eq_none.mpr, Option.map_none]
  intro p hp
  simp [h p hp]

theorem Scope.withNamed_eq (s : Scope) (ps : List Projection) (h : ∀ p ∈ ps, p.isNamed = false) :
    s.withNamed ps = s := by
  have hcolumn : (s.withNamed ps).column = s.column := by
    funext table name
    simp [withNamed, named?_eq_none ps h]
  calc s.withNamed ps = { s with column := (s.withNamed ps).column } := rfl
    _ = s := by rw [hcolumn]

/-! ## Keys of an order -/

theorem AreKeysOf.exists_sort {sorts : List TypedSort} {keys : List OrderKey}
    (h : AreKeysOf sorts keys) (k : OrderKey) (hk : k ∈ keys) :
    ∃ s ∈ sorts, ∃ place, k = sortKeyAt s place := by
  induction h with
  | nil => cases hk
  | @cons s _ sorts _ hkey _ ih =>
    rcases List.mem_cons.mp hk with rfl | hk
    · exact ⟨s, List.mem_cons_self, hkey⟩
    · obtain ⟨s', hs', hplace⟩ := ih hk
      exact ⟨s', List.mem_cons_of_mem s hs', hplace⟩

theorem orderValue_sortKeyAt (ps : List Projection) (h : ∀ p ∈ ps, p.isNamed = false)
    (s : TypedSort) (place : List Char) :
    orderValue ps (sortKeyAt s place).key = .quoted s.key := by
  rw [sortKeyAt, orderValue, named?_eq_none ps h, Option.getD_none]

/-! ## Faults -/

theorem Expr.faultOn?_eq_none (e : Expr) (scopes : List Scope)
    (h : e.isRisky = true → ∀ s ∈ scopes, e.fault? s = none) : e.faultOn? scopes = none := by
  rw [faultOn?]
  split
  · next hrisky => exact List.findSome?_eq_none_iff.mpr (h hrisky)
  · rfl

section Site

variable (depth : Nat) (site : Site) (t : Table)

theorem column_rowScope (houter : site.outer = fun _ _ => none) (r : Row) (name : String) :
    (rowScope depth site t r).column none name = t.lookup r name := by
  change ((Frame.ofTable t t.name).column r none name).or (site.outer none name) = _
  rw [houter, Option.or_none, Frame.column_ofTable]

/-- The rows of a table that satisfy a condition, given what it sees of each row. -/
def selectedRows (scope : Row → Scope) (condition : Option Expr) : List Row :=
  t.listed.filter fun r => condition.all fun e => e.holds (scope r)

def allProjections : List Projection := t.columns.map fun c => ⟨.column none c.name [], c.name, false⟩

/-- What is made of a row of the table: its cells, and the cells that put it in order. -/
def rowOutcome (scope : Row → Scope) (keys : List OrderKey) (r : Row) : Outcome :=
  ⟨r.cells, keys.map (orderCell (scope r) (allProjections t))⟩

theorem frame_table (table : String) (ht : site.table? ⟨none, table⟩ = some t) :
    Source.frame (depth + 1) site (.table ⟨none, table⟩ none none) = .ofTable t t.name := by
  rw [Source.frame, ht]
  rfl

theorem projections_all : (Frame.ofTable t t.name).projections [.all] = allProjections t := by
  rw [Frame.projections, List.flatMap_singleton, Frame.ofTable, List.map_map]
  rfl

theorem isNamed_allProjections : ∀ p ∈ allProjections t, p.isNamed = false := by
  intro p hp
  obtain ⟨c, -, rfl⟩ := List.mem_map.mp hp
  rfl

theorem names_outcomes_page (table : String) (ht : site.table? ⟨none, table⟩ = some t)
    (condition : Option Expr) (keys : List OrderKey) :
    (Selection.outcomes (depth + 2) site keys
      (tableSelection table [.all] condition)).headings.map Heading.name =
        t.columns.map Column.name := by
  rw [tableSelection, Selection.outcomes]
  simp only [frame_table _ _ _ _ ht, projections_all, allProjections, List.map_map]
  rfl

theorem eval_allProjections (hsound : t.IsSound) (houter : site.outer = fun _ _ => none) (r : Row)
    (hr : r ∈ t.listed) :
    (allProjections t).map (fun p => p.value.eval (rowScope depth site t r)) = r.cells := by
  have hlength := hsound.widths r ((t.mem_listed r).mp hr)
  rw [allProjections, List.map_map]
  apply List.ext_getElem
  · rw [List.length_map, hlength]
  · intro i hi hi'
    rw [List.length_map] at hi
    have hshown : (rowScope depth site t r).column none t.columns[i].name =
        some ⟨r.cells[i], some t.columns[i].affinity, t.columns[i].collation⟩ := by
      rw [column_rowScope _ _ _ houter, t.lookup_getElem hsound.names r hlength i hi]
    rw [List.getElem_map, Function.comp_apply]
    simp only [Expr.eval, hshown]

theorem rows_outcomes_page (hsound : t.IsSound) (houter : site.outer = fun _ _ => none)
    (table : String) (ht : site.table? ⟨none, table⟩ = some t) (condition : Option Expr)
    (keys : List OrderKey) :
    (Selection.outcomes (depth + 2) site keys (tableSelection table [.all] condition)).rows =
      (selectedRows t (rowScope (depth + 1) site t) condition).map
        (rowOutcome t (rowScope (depth + 1) site t) keys) := by
  -- No column of the result gathers rows, so that each row stands for itself.
  have hgrouping : ((allProjections t).any fun p => p.value.hasGrouping) = false := by
    rw [List.any_eq_false]
    intro p hp
    obtain ⟨c, -, rfl⟩ := List.mem_map.mp hp
    exact Bool.false_ne_true
  rw [tableSelection, Selection.outcomes]
  simp only [frame_table _ _ _ _ ht, projections_all,
    Scope.withNamed_eq _ _ (isNamed_allProjections t), hgrouping, List.isEmpty_nil, Bool.not_true,
    Bool.or_false, Bool.false_eq_true, ↓reduceIte, Option.all_none, List.filter_true]
  change ((t.listed.map (rowScope (depth + 1) site t)).filter _).map _ = _
  rw [List.filter_map, List.map_map]
  apply List.map_congr_left
  intro r hr
  rw [rowOutcome, ← eval_allProjections (depth + 1) site t hsound houter r (List.mem_filter.mp hr).1]
  rfl

section Faults

variable (table : String) (ht : site.table? ⟨none, table⟩ = some t) (condition : Option Expr)
  (hcondition : ∀ e, condition = some e →
    ∀ r ∈ t.listed, e.fault? (rowScope (depth + 1) site t r) = none)

include hcondition in
theorem faultOn?_condition :
    condition.bind (Expr.faultOn? (t.listed.map (rowScope (depth + 1) site t))) = none := by
  rw [Option.bind_eq_none_iff]
  intro e he
  apply e.faultOn?_eq_none
  rintro - scope hscope
  obtain ⟨r, hr, rfl⟩ := List.mem_map.mp hscope
  exact hcondition e he r hr

include ht hcondition

/-- No fault is met in a query for rows if its condition has none. -/
theorem fault_outcomes_page (keys : List OrderKey) (sorts : List TypedSort)
    (hkeys : AreKeysOf sorts keys) :
    (Selection.outcomes (depth + 2) site keys (tableSelection table [.all] condition)).fault =
      none := by
  rw [tableSelection, Selection.outcomes]
  simp only [frame_table _ _ _ _ ht, projections_all,
    Scope.withNamed_eq _ _ (isNamed_allProjections t)]
  -- Neither columns nor keys of the order can have a fault; only the condition could.
  have hcolumns (scopes : List Scope) :
      ((allProjections t).findSome? fun p => p.value.faultOn? scopes) = none := by
    rw [List.findSome?_eq_none_iff]
    intro p hp
    obtain ⟨c, -, rfl⟩ := List.mem_map.mp hp
    exact Expr.faultOn?_eq_none _ _ nofun
  have horder (scopes : List Scope) :
      (keys.findSome? fun k => (orderValue (allProjections t) k.key).faultOn? scopes) = none := by
    rw [List.findSome?_eq_none_iff]
    intro k hk
    obtain ⟨s, -, place, rfl⟩ := hkeys.exists_sort k hk
    rw [orderValue_sortKeyAt _ (isNamed_allProjections t)]
    exact Expr.faultOn?_eq_none _ _ nofun
  rw [hcolumns, horder]
  simp only [List.findSome?_nil, Option.bind_none, Option.or_none]
  exact faultOn?_condition depth site t condition hcondition

end Faults

/-! ## The count -/

theorem isGrouping_count : Expr.isGrouping "COUNT" 0 = true := by decide +kernel

theorem eval_countCall (place : List Char) (scope : Scope) :
    (countCall place).eval scope = .integer scope.group.length := by
  have hname : foldName "COUNT" = "count" := by decide +kernel
  have hgrouping : Expr.isGrouping "COUNT" ([] : List Expr).length = true := isGrouping_count
  have hall (rows : List Lookup) :
      (rows.map fun _ => ([] : List Cell)).filter (fun row => row.head?.all fun c => !c.isNull) =
        rows.map fun _ => [] := by
    rw [List.filter_eq_self]
    intro row hrow
    obtain ⟨_, -, rfl⟩ := List.mem_map.mp hrow
    rfl
  simp only [countCall, Expr.eval, hgrouping, ↓reduceIte, Bool.false_eq_true, Expr.evalList,
    Cell.gathered, hname, hall, List.length_map]

theorem eval_countCall_groupScopes (place : List Char) (ps : List Projection)
    (extreme : Option (Bool × Expr)) (blank : Scope) (rows : List Scope) :
    (groupScopes ps [] extreme blank rows).map (fun scope => (countCall place).eval scope) =
      [.integer rows.length] := by
  rw [groupScopes, List.isEmpty_nil, if_pos rfl, List.map_singleton, List.map_singleton,
    eval_countCall, List.length_map]

theorem projections_count (t : Table) (place : List Char) (label : String) :
    (Frame.ofTable t t.name).projections [.value (countCall place) label false] =
      [⟨countCall place, label, false⟩] := rfl

theorem isNamed_count (place : List Char) (label : String) :
    ∀ p ∈ [Projection.mk (countCall place) label false], p.isNamed = false := by
  intro p hp
  rw [List.mem_singleton.mp hp]

theorem rows_outcomes_total (table : String) (ht : site.table? ⟨none, table⟩ = some t)
    (condition : Option Expr) (place : List Char) (label : String) :
    (Selection.outcomes (depth + 2) site []
      (tableSelection table [.value (countCall place) label false] condition)).rows =
        [⟨[.integer (selectedRows t (rowScope (depth + 1) site t) condition).length], []⟩] := by
  have hgrouping : (countCall place).hasGrouping = true := by
    rw [countCall, Expr.hasGrouping, List.length_nil, isGrouping_count, Bool.true_or]
  rw [tableSelection, Selection.outcomes]
  simp only [frame_table _ _ _ _ ht, projections_count,
    Scope.withNamed_eq _ _ (isNamed_count place label), List.any_cons,
    hgrouping, Bool.true_or, Bool.or_true, ↓reduceIte, Bool.false_eq_true, Option.all_none,
    List.filter_true]
  change (groupScopes _ [] _ _ ((t.listed.map (rowScope (depth + 1) site t)).filter _)).map
    ((fun c => Outcome.mk [c] []) ∘ fun scope => (countCall place).eval scope) = _
  rw [← List.map_map, eval_countCall_groupScopes, List.filter_map, List.length_map]
  rfl

theorem fault_outcomes_total (table : String) (ht : site.table? ⟨none, table⟩ = some t)
    (condition : Option Expr) (place : List Char) (label : String)
    (hcondition : ∀ e, condition = some e →
      ∀ r ∈ t.listed, e.fault? (rowScope (depth + 1) site t r) = none) :
    (Selection.outcomes (depth + 2) site []
      (tableSelection table [.value (countCall place) label false] condition)).fault = none := by
  have hrisky : (countCall place).isRisky = false := by
    have hfunction : Expr.riskyFunctions.contains (foldName "COUNT") = false := by decide +kernel
    rw [countCall, Expr.isRisky, hfunction]
    rfl
  have hcount (scopes : List Scope) : (countCall place).faultOn? scopes = none := by
    rw [Expr.faultOn?, hrisky, if_neg Bool.false_ne_true]
  rw [tableSelection, Selection.outcomes]
  simp only [frame_table _ _ _ _ ht, projections_count,
    Scope.withNamed_eq _ _ (isNamed_count place label),
    List.findSome?_nil, List.findSome?_cons, hcount, Option.bind_none, Option.or_none]
  exact faultOn?_condition depth site t condition hcondition

end Site

/-! ## Checks -/

theorem forIn_ok {α ε : Type} (xs : List α) (f : α → Unit → Except ε (ForInStep Unit))
    (h : ∀ x ∈ xs, f x () = .ok (.yield ())) : forIn xs () f = .ok () := by
  induction xs with
  | nil => rfl
  | cons x xs ih =>
    rw [List.forIn_cons]
    exact (bind_ok (h x List.mem_cons_self) _).trans
      (ih fun y hy => h y (List.mem_cons_of_mem x hy))

theorem checkOrder_sorts (names : Names) (ps : List Projection)
    (hnamed : ∀ p ∈ ps, p.isNamed = false) (keys : List OrderKey) (sorts : List TypedSort)
    (hkeys : AreKeysOf sorts keys) : checkOrder names ps keys = .ok () := by
  have hsort (x : OrderKey × Nat) (hx : x ∈ keys.zipIdx 1) :
      ∃ (s : TypedSort) (place : List Char) (n : Nat), x = (sortKeyAt s place, n) := by
    obtain ⟨s, -, place, hkey⟩ := hkeys.exists_sort x.1 (List.fst_mem_of_mem_zipIdx hx)
    exact ⟨s, place, x.2, by rw [← hkey]⟩
  refine (bind_ok (forIn_ok (keys.zipIdx 1) _ ?_) _).trans ?_
  · intro x hx
    obtain ⟨s, place, n, rfl⟩ := hsort x hx
    have hnumber : columnNumber? (sortKeyAt s place).key = none := rfl
    simp only [hnumber, orderValue_sortKeyAt ps hnamed]
    rfl
  · refine (bind_ok (forIn_ok (keys.zipIdx 1) _ ?_) _).trans rfl
    intro x hx
    obtain ⟨s, place, n, rfl⟩ := hsort x hx
    have hnumber : columnNumber? (sortKeyAt s place).key = none := rfl
    simp only [hnumber, orderValue_sortKeyAt ps hnamed]
    rfl

theorem checkList_ok (names : Names) (es : List Expr) (h : ∀ e ∈ es, e.check names = .ok ()) :
    Expr.checkList names es = .ok () := by
  induction es with
  | nil => rfl
  | cons e es ih =>
    rw [List.forall_mem_cons] at h
    rw [Expr.checkList]
    exact (bind_ok h.1 _).trans (ih h.2)

section Checks

variable (depth : Nat) (site : NameSite) (t : Table) (table : String)
  (ht : site.table? ⟨none, table⟩ = some t) (condition : Option Expr)
  (hcondition : ∀ e, condition = some e → ∀ names, e.check names = .ok ())
include ht hcondition

theorem check_selection (columns : List ResultColumn) (hcolumns : ∀ name, .allOf name ∉ columns)
    (ps : List Projection) (hps : (Frame.ofTable t t.name).projections columns = ps)
    (hnamed : ∀ p ∈ ps, p.isNamed = false) (bounds : List Expr)
    (hbounds : Expr.checkList Names.none bounds = .ok ())
    (hvalues : ∀ ask, Expr.checkList ⟨fun table name =>
      (Frame.ofTable t t.name).hasColumn table name || site.outer table name, ask, .allowed⟩
        (ps.map Projection.value) = .ok ())
    (keys : List OrderKey) (sorts : List TypedSort) (hkeys : AreKeysOf sorts keys) :
    ∃ names, Selection.check (depth + 2) site keys bounds (tableSelection table columns condition) =
      .ok names := by
  -- The checks are passed in the order in which they are made.
  have hsource : Source.check (depth + 1) site (.table ⟨none, table⟩ none none) =
      .ok { Frame.ofTable t t.name with rows := [] } := by
    rw [Source.check, ht]
    rfl
  have hps' : Frame.projections { Frame.ofTable t t.name with rows := [] } columns = ps := hps
  have hconditions (names : Names) : Expr.checkList names condition.toList = .ok () := by
    apply checkList_ok
    intro e he
    exact hcondition e (Option.mem_toList.mp he) names
  rw [Selection.check, tableSelection]
  refine ⟨ps.map Projection.name, (bind_ok hsource _).trans ?_⟩
  refine (bind_ok (forIn_ok columns _ ?_) _).trans ?_
  · intro column hcolumn
    cases column with
    | allOf name => exact absurd hcolumn (hcolumns name)
    | _ => rfl
  refine (bind_ok hbounds _).trans ?_
  rw [hps']
  refine (bind_ok (hvalues _) _).trans ?_
  refine (bind_ok rfl _).trans ?_
  refine (bind_ok (hconditions _) _).trans ?_
  refine (bind_ok (checkOrder_sorts _ ps hnamed keys sorts hkeys) _).trans ?_
  rfl

theorem check_page (keys : List OrderKey) (sorts : List TypedSort) (hkeys : AreKeysOf sorts keys)
    (k : Nat) :
    ∃ names, SelectQuery.check (depth + 3) site (pageQuery table condition keys k) = .ok names := by
  refine check_selection depth site t table ht condition hcondition [.all] (by simp)
    (allProjections t) (projections_all t) (isNamed_allProjections t) _ rfl ?_ keys sorts hkeys
  intro ask
  apply checkList_ok
  intro e he
  obtain ⟨p, hp, rfl⟩ := List.mem_map.mp he
  obtain ⟨c, hc, rfl⟩ := List.mem_map.mp hp
  have hcolumn : (Frame.ofTable t t.name).hasColumn none c.name = true := by
    have hheading : ((Frame.ofTable t t.name).headings.any fun h => sameName h.name c.name) = true :=
      List.any_eq_true.mpr ⟨_, List.mem_map_of_mem hc, sameName_self c.name⟩
    rw [Frame.hasColumn, hheading]
    rfl
  simp [Expr.check, hcolumn]

theorem check_total (place : List Char) (label : String) :
    ∃ names, SelectQuery.check (depth + 3) site (totalQuery table condition place label) =
      .ok names := by
  refine check_selection depth site t table ht condition hcondition _ (by simp)
    [⟨countCall place, label, false⟩] rfl (by simp) _ rfl ?_ [] [] .nil
  intro ask
  apply checkList_ok
  intro e he
  rw [List.mem_singleton.mp he, countCall]
  rfl

end Checks

/-! ## Answers -/

theorem boundOf_param (params : List Cell) (k : Nat) (n : Int) (h : params[k]? = some (.integer n)) :
    boundOf params (.param (k + 1)) = some n := by
  have hparam : (Expr.param (k + 1)).eval (.ofParams params) = .integer n := by
    rw [Expr.eval, Scope.ofParams, Scope.param, h, Option.getD_some]
  rw [boundOf, hparam]
  rfl

namespace Database

theorem execute_query (db : Database) (sql : String) (params : List Cell) (q : SelectQuery)
    (answer : Answer) (hread : Statement.ofChars db.nameState sql.toList = .ok (some (.query q), []))
    (hcheck : ∃ names, db.checkQuery (fun _ _ => false) q = .ok names)
    (hrun : db.runQuery params q = .ok answer) : db.execute sql params = .ok (answer, db) := by
  obtain ⟨names, hcheck⟩ := hcheck
  have hchecked : db.check (.query q) = .ok () := by
    rw [check, hcheck]
    rfl
  have hanswer : db.run (.query q) params = (db, .ok answer) := by
    rw [run, hchecked]
    exact congrArg (Prod.mk db) hrun
  rw [execute, read, hread]
  dsimp only
  rw [hanswer]

/-- What a query that is run sees of a row of a table. -/
def rowScope (db : Database) (params : List Cell) (t : Table) : Row → Scope :=
  Sql.rowScope (queryDepth - 3) (db.site params) t

theorem column_rowScope (db : Database) (params : List Cell) (t : Table) (r : Row) (name : String) :
    (db.rowScope params t r).column none name = t.lookup r name :=
  Sql.column_rowScope _ _ t rfl r name

theorem runQuery_select (db : Database) (params : List Cell) (s : Selection) (keys : List OrderKey)
    (limit offset : Option Expr)
    (hbounds : (limit.toList ++ offset.toList).all (fun e => (boundOf params e).isSome) = true)
    (hfault : (Selection.outcomes (queryDepth - 2) (db.site params) keys s).fault = none) :
    db.runQuery params ⟨.select s, keys, limit, offset⟩ =
      .ok (.rows
        ((Selection.outcomes (queryDepth - 2) (db.site params) keys s).headings.map Heading.name)
        ((window (limit.bind (boundOf params)) (offset.bind (boundOf params)) (sortOutcomes keys
          (Selection.outcomes (queryDepth - 2) (db.site params) keys s).rows)).map
            Outcome.cells)) := by
  have hresult : SelectQuery.result queryDepth (db.site params) ⟨.select s, keys, limit, offset⟩ =
      ⟨(Selection.outcomes (queryDepth - 2) (db.site params) keys s).headings,
        (window (limit.bind (boundOf params)) (offset.bind (boundOf params)) (sortOutcomes keys
          (Selection.outcomes (queryDepth - 2) (db.site params) keys s).rows)).map Outcome.cells,
        (Selection.outcomes (queryDepth - 2) (db.site params) keys s).fault⟩ := rfl
  rw [runQuery]
  dsimp only
  rw [if_pos hbounds, hresult, hfault]

section Queries

variable (db : Database) (params : List Cell) (t : Table) (table : String)
  (ht : db.table? ⟨none, table⟩ = some t) (condition : Option Expr)
  (hcondition : ∀ e, condition = some e →
    ∀ r ∈ t.listed, e.fault? (db.rowScope params t r) = none)
include ht hcondition

theorem runQuery_page (hsound : t.IsSound) (keys : List OrderKey) (sorts : List TypedSort)
    (hkeys : AreKeysOf sorts keys) (k : Nat) (limit offset : Int)
    (hlimit : params[k]? = some (.integer limit)) (hoffset : params[k + 1]? = some (.integer offset)) :
    db.runQuery params (pageQuery table condition keys k) =
      .ok (.rows (t.columns.map Column.name)
        ((window (some limit) (some offset) (sortOutcomes keys
          ((selectedRows t (db.rowScope params t) condition).map
            (rowOutcome t (db.rowScope params t) keys)))).map Outcome.cells)) := by
  have hfault := fault_outcomes_page _ (db.site params) t table ht condition hcondition keys sorts
    hkeys
  have hlimit := boundOf_param params k limit hlimit
  have hoffset := boundOf_param params (k + 1) offset hoffset
  have hrows : (Selection.outcomes (queryDepth - 2) (db.site params) keys
      (tableSelection table [.all] condition)).rows =
        (selectedRows t (db.rowScope params t) condition).map
          (rowOutcome t (db.rowScope params t) keys) :=
    rows_outcomes_page 996 (db.site params) t hsound rfl table ht condition keys
  have hnames : (Selection.outcomes (queryDepth - 2) (db.site params) keys
      (tableSelection table [.all] condition)).headings.map Heading.name =
        t.columns.map Column.name :=
    names_outcomes_page 996 (db.site params) t table ht condition keys
  refine (db.runQuery_select params _ keys _ _ ?_ hfault).trans ?_
  · simp [hlimit, hoffset]
  · rw [Option.bind_some, Option.bind_some, hlimit, hoffset, hrows, hnames]

theorem runQuery_total (place : List Char) (label : String) :
    ∃ names, db.runQuery params (totalQuery table condition place label) =
      .ok (.rows names
        [[.integer (selectedRows t (db.rowScope params t) condition).length]]) := by
  have hfault := fault_outcomes_total _ (db.site params) t table ht condition place label hcondition
  have hrows : (Selection.outcomes (queryDepth - 2) (db.site params) []
      (tableSelection table [.value (countCall place) label false] condition)).rows =
        [⟨[.integer (selectedRows t (db.rowScope params t) condition).length], []⟩] :=
    rows_outcomes_total 996 (db.site params) t table ht condition place label
  have hanswer := db.runQuery_select params
    (tableSelection table [.value (countCall place) label false] condition) [] none none rfl hfault
  rw [hrows] at hanswer
  exact ⟨_, hanswer⟩

end Queries

end Database

/-! ## Statements of a search -/

namespace Table

/-- What a table shows of a name between double quotes in a row. -/
def shown (t : Table) (r : Row) (name : String) : Slot :=
  (t.lookup r name).getD ⟨.text name, none, .binary⟩

theorem shows_scope (t : Table) (r : Row) (p : Predicate) :
    Shows (t.scope ((params p).map Param.cell) r) (t.shown r) 0 p.leafFields (params p) :=
  ⟨fun _ _ => rfl, List.prefix_refl _⟩

end Table

section Search

variable (db : Database) (t : Table) (cells : List Cell)

theorem shown_rowScope (r : Row) (name : String) :
    (db.rowScope cells t r).shown name = t.shown r name := by
  rw [Scope.shown, db.column_rowScope, Table.shown]

theorem shows_rowScope (r : Row) (p : Predicate) (h : (params p).map Param.cell <+: cells) :
    Shows (db.rowScope cells t r) (t.shown r) 0 p.leafFields (params p) :=
  ⟨fun name _ => shown_rowScope db t cells r name, h⟩

/-- A condition holds of a row in a query as it does on the row alone. -/
theorem holds_rowScope (e f : Expr) (p : Predicate) (he : Denotes e 0 p) (hf : Denotes f 0 p)
    (h : (params p).map Param.cell <+: cells) (r : Row) :
    e.holds (db.rowScope cells t r) = f.holds (t.scope ((params p).map Param.cell) r) := by
  rw [Expr.holds, Expr.holds, he.truth _ _ (shows_rowScope db t cells r p h),
    hf.truth _ _ (t.shows_scope r p)]

theorem IsConditionOf.exists_predicate {c : Compiled} {condition : Option Expr}
    (h : IsConditionOf c condition) (e : Expr) (he : condition = some e) :
    ∃ p, c.predicate = some p ∧ Denotes e 0 p ∧ Query.whereParams c = params p := by
  rw [IsConditionOf, he] at h
  cases hp : c.predicate with
  | none =>
    rw [hp] at h
    cases h
  | some p =>
    rw [hp] at h
    cases h with
    | some hdenotes => exact ⟨p, rfl, hdenotes, by rw [Query.whereParams, hp]⟩

section Compiled

variable (table : String) (c : Compiled) (hwritable : Writable table c)
  (ht : db.table? ⟨none, table⟩ = some t)
  (hpatterns : ∀ p, c.predicate = some p → PatternsFit (patterns p))

include hpatterns in
theorem fault?_condition (condition : Option Expr) (hcondition : IsConditionOf c condition)
    (hcells : (Query.whereParams c).map Param.cell <+: cells) :
    ∀ e, condition = some e → ∀ r ∈ t.listed, e.fault? (db.rowScope cells t r) = none := by
  intro e he r _
  obtain ⟨p, hp, hdenotes, hparams⟩ := hcondition.exists_predicate e he
  rw [hparams] at hcells
  exact hdenotes.fault _ _ (shows_rowScope db t cells r p hcells) (hpatterns p hp)

include hwritable ht hpatterns

/-- The statement for the count is answered with the count of the rows that are selected. -/
theorem execute_count :
    ∃ condition names, IsConditionOf c condition ∧
      db.execute (Query.build table c).count.text ((Query.build table c).count.params.map Param.cell)
        = .ok (.rows names [[.integer (selectedRows t
            (db.rowScope ((Query.whereParams c).map Param.cell) t) condition).length]], db) := by
  obtain ⟨condition, place, label, hcondition, hread⟩ :=
    ofChars_countTokens table c hwritable db.nameState
  have hchecks : ∀ e, condition = some e → ∀ names, e.check names = .ok () := by
    intro e he
    obtain ⟨p, -, hdenotes, -⟩ := hcondition.exists_predicate e he
    exact hdenotes.check
  have hfault := fault?_condition db t _ c hpatterns condition hcondition (List.prefix_refl _)
  obtain ⟨names, hrun⟩ := db.runQuery_total _ t table ht condition hfault place label
  refine ⟨condition, names, hcondition, db.execute_query _ _ _ _ ?_ ?_ hrun⟩
  · rw [Query.build, String.toList_ofList]
    exact hread
  · exact check_total 997 _ t table ht condition hchecks place label

/-- The statement for a page is answered with the rows that are selected, sorted and cut. -/
theorem execute_select (hsound : t.IsSound) :
    ∃ condition keys, IsConditionOf c condition ∧ AreKeysOf c.sorts keys ∧
      db.execute (Query.build table c).select.text
          ((Query.build table c).select.params.map Param.cell) =
        .ok (.rows (t.columns.map Column.name)
          ((window (some c.page.size.toNat) (some (min c.page.offset largestInteger : Nat))
            (sortOutcomes keys ((selectedRows t
              (db.rowScope ((Query.whereParams c ++ Query.pageParams c.page).map Param.cell) t)
                condition).map (rowOutcome t
                  (db.rowScope ((Query.whereParams c ++ Query.pageParams c.page).map Param.cell) t)
                    keys)))).map Outcome.cells), db) := by
  obtain ⟨condition, keys, hcondition, hkeys, hread⟩ :=
    ofChars_selectTokens table c hwritable db.nameState
  have hchecks : ∀ e, condition = some e → ∀ names, e.check names = .ok () := by
    intro e he
    obtain ⟨p, -, hdenotes, -⟩ := hcondition.exists_predicate e he
    exact hdenotes.check
  generalize hcells : (Query.whereParams c ++ Query.pageParams c.page).map Param.cell = cells
  have hprefix : (Query.whereParams c).map Param.cell <+: cells := by
    rw [← hcells, List.map_append]
    exact List.prefix_append _ _
  -- The bounds of the window are the two parameters after those of the condition.
  have hlimit : cells[(Query.whereParams c).length]? = some (.integer c.page.size.toNat) := by
    rw [← hcells]
    simp [Query.pageParams, Param.cell]
  have hoffset : cells[(Query.whereParams c).length + 1]? =
      some (.integer (min c.page.offset largestInteger : Nat)) := by
    rw [← hcells]
    simp [Query.pageParams, Param.cell]
  have hfault := fault?_condition db t cells c hpatterns condition hcondition hprefix
  have hrun := db.runQuery_page cells t table ht condition hfault hsound keys c.sorts hkeys _ _ _
    hlimit hoffset
  have hread : Statement.ofChars db.nameState (Query.build table c).select.text.toList =
      .ok (some (.query (pageQuery table condition keys (Query.whereParams c).length)), []) := by
    rw [Query.build, String.toList_ofList, hread]
  have hparams : (Query.build table c).select.params.map Param.cell = cells := hcells
  have hcheck : ∃ names, db.checkQuery (fun _ _ => false)
      (pageQuery table condition keys (Query.whereParams c).length) = .ok names :=
    check_page 997 _ t table ht condition hchecks keys c.sorts hkeys _
  rw [hparams]
  exact ⟨condition, keys, hcondition, hkeys, db.execute_query _ _ _ _ hread hcheck hrun⟩

end Compiled

end Search

end CriteriaSearch.Sql
