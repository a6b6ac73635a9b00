import CriteriaSearch.Proofs.Sql.Selecting

namespace CriteriaSearch.Sql

theorem Token.joined_cons (group next : List Token) (groups : List (List Token)) :
    joined [.symbol ","] (group :: next :: groups) =
      group ++ .symbol "," :: joined [.symbol ","] (next :: groups) := by
  rw [joined, List.append_assoc]
  · rfl
  · exact List.cons_ne_nil next groups

theorem Token.length_joined_quoted (name : String) (names : List String) :
    (joined [.symbol ","] ((name :: names).map fun n => [.quoted n])).length =
      2 * names.length + 1 := by
  induction names generalizing name with
  | nil => rfl
  | cons next names ih =>
    have hrest := ih next
    rw [List.map_cons] at hrest
    rw [List.map_cons, List.map_cons, joined_cons, List.length_append, List.length_singleton,
      List.length_cons, hrest, List.length_cons]
    omega

theorem readCommaList_names (name : String) (names : List String) (fuel : Nat) (ls : List Lexeme)
    (start after : List Char) (rest : List Lexeme)
    (h : Spells ls (Token.joined [.symbol ","] ((name :: names).map fun n => [.quoted n])))
    (hfuel : names.length + 1 ≤ fuel) :
    readCommaList readName fuel (ls ++ ⟨.symbol ")", start, after⟩ :: rest) =
      .ok (name :: names, rest) := by
  induction names generalizing name fuel ls with
  | nil =>
    obtain ⟨fuel, rfl⟩ := Nat.exists_eq_add_of_le hfuel
    obtain ⟨start', after', more, rfl, -, h⟩ := h.cons_inv
    cases h.nil_inv
    rw [Nat.add_comm]
    rfl
  | cons next names ih =>
    rw [List.length_cons] at hfuel
    obtain ⟨fuel, rfl⟩ : ∃ m, fuel = m + 1 := ⟨fuel - 1, by omega⟩
    rw [List.map_cons, List.map_cons, Token.joined_cons] at h
    obtain ⟨start₁, after₁, more, rfl, -, h⟩ := h.cons_inv
    obtain ⟨start₂, after₂, more, rfl, -, h⟩ := h.cons_inv
    exact bind_ok (ih next fuel more h (by omega)) _

def valuesQuery (n : Nat) : SelectQuery := ⟨.values [paramExprs 0 n], [], none, none⟩

theorem ofLexemes_values (n : Nat) (ls : List Lexeme) (start after start₁ after₁ start₂ after₂ :
    List Char) (h : Spells ls (paramTokens 0 (n + 1))) (hn : n + 1 ≤ greatestParam) :
    SelectQuery.ofLexemes (⟨.keyword "VALUES", start, after⟩ :: ⟨.symbol "(", start₁, after₁⟩ ::
        (ls ++ [⟨.symbol ")", start₂, after₂⟩])) = .ok (valuesQuery (n + 1), []) := by
  have hlength : ls.length = 2 * n + 1 := by
    rw [h.length_eq, length_paramTokens]
  -- Each of the values takes one call more than the one before it.
  obtain ⟨fuel, hfuel⟩ : ∃ fuel, readingDepth (⟨.keyword "VALUES", start, after⟩ ::
      ⟨.symbol "(", start₁, after₁⟩ :: (ls ++ [⟨.symbol ")", start₂, after₂⟩])) = fuel + n + 6 := by
    rw [readingDepth]
    simp only [List.length_cons, List.length_append, List.length_nil, hlength]
    exact ⟨24 * (2 * n + 5) - (n + 6), by omega⟩
  have hrow : readList (fuel + n + 3) (ls ++ [⟨.symbol ")", start₂, after₂⟩]) =
      .ok (paramExprs 0 (n + 1), [⟨.symbol ")", start₂, after₂⟩]) :=
    readList_params n 0 (fuel + n + 3) ls start₂ after₂ [] h (by omega) (by omega)
  have hrows : readRows (fuel + n + 4) none (⟨.symbol "(", start₁, after₁⟩ ::
      (ls ++ [⟨.symbol ")", start₂, after₂⟩])) = .ok ([paramExprs 0 (n + 1)], []) :=
    bind_ok hrow _
  have hpart : readPart (fuel + n + 5) (⟨.keyword "VALUES", start, after⟩ ::
      ⟨.symbol "(", start₁, after₁⟩ :: (ls ++ [⟨.symbol ")", start₂, after₂⟩])) =
        .ok (valuesQuery (n + 1), []) := bind_ok hrows _
  rw [SelectQuery.ofLexemes, hfuel]
  exact bind_ok hpart _

theorem readTarget_quoted (table : String) (start after start' after' : List Char)
    (ls : List Lexeme) :
    Statement.readTarget (⟨.quoted table, start, after⟩ :: ⟨.symbol "(", start', after'⟩ :: ls) =
      .ok ((⟨none, table⟩, none), ⟨.symbol "(", start', after'⟩ :: ls) := rfl

theorem isReadable_insertTokens (table : String) (names : List String)
    (htable : table.toList.all isVisible = true)
    (hnames : ∀ name ∈ names, name.toList.all isVisible = true) (hne : names ≠ []) :
    ∀ t ∈ Store.insertTokens table names, t.isReadable = true := by
  have hlist : ∀ t ∈ Token.joined [.symbol ","] (names.map fun name => [.quoted name]),
      t.isReadable = true := by
    apply Token.isReadable_joined
    intro group hgroup t ht
    obtain ⟨name, hname, rfl⟩ := List.mem_map.mp hgroup
    rw [List.mem_singleton.mp ht]
    exact hnames name hname
  have hparams : ∀ t ∈ paramTokens 0 names.length, t.isReadable = true := by
    obtain ⟨n, hn⟩ := Nat.exists_eq_succ_of_ne_zero (mt List.length_eq_zero_iff.mp hne)
    rw [hn]
    exact isReadable_paramTokens n 0
  rw [Store.insertTokens]
  simp only [List.forall_mem_append, List.forall_mem_cons, List.not_mem_nil, false_implies,
    implies_true, and_true]
  exact ⟨⟨⟨by decide +kernel, by decide +kernel, htable⟩, isReadable_parens _ hlist⟩,
    by decide +kernel, isReadable_parens _ hparams⟩

/-- The insertion of one row of values into the columns of some names. -/
def insertStatement (table : String) (names : List String) : Statement :=
  .insert none ⟨none, table⟩ none (some names) (some (valuesQuery names.length)) [] []

/-- The statement for a new row is read as the insertion of its values. -/
theorem ofChars_insertTokens (table : String) (names : List String)
    (htable : table.toList.all isVisible = true)
    (hnames : ∀ name ∈ names, name.toList.all isVisible = true) (hne : names ≠ [])
    (hlength : names.length ≤ greatestParam)
    (state : TableName → Lexeme → Lexeme → Statement.NameState) :
    Statement.ofChars state (Token.render (Store.insertTokens table names)) =
      .ok (some (insertStatement table names), []) := by
  have hspells := lexemes_render _ (isReadable_insertTokens table names htable hnames hne)
  rw [Statement.ofChars]
  generalize lexemes (Token.render (Store.insertTokens table names)) = ls at hspells
  obtain ⟨name, names, rfl⟩ := List.exists_cons_of_ne_nil hne
  rw [Store.insertTokens, Token.parens, Token.parens] at hspells
  simp only [List.cons_append, List.nil_append, List.append_assoc] at hspells
  -- The lexemes are taken apart as the tokens were put together.
  obtain ⟨start₁, after₁, more, rfl, -, hspells⟩ := hspells.cons_inv
  obtain ⟨start₂, after₂, more, rfl, -, hspells⟩ := hspells.cons_inv
  obtain ⟨start₃, after₃, more, rfl, -, hspells⟩ := hspells.cons_inv
  obtain ⟨start₄, after₄, more, rfl, -, hspells⟩ := hspells.cons_inv
  obtain ⟨listed, more, rfl, hlisted, hspells⟩ := Spells.append_inv hspells
  obtain ⟨start₅, after₅, more, rfl, -, hspells⟩ := hspells.cons_inv
  obtain ⟨start₆, after₆, more, rfl, -, hspells⟩ := hspells.cons_inv
  obtain ⟨start₇, after₇, more, rfl, -, hspells⟩ := hspells.cons_inv
  obtain ⟨given, more, rfl, hgiven, hspells⟩ := Spells.append_inv hspells
  obtain ⟨start₈, after₈, more, rfl, -, hspells⟩ := hspells.cons_inv
  cases hspells.nil_inv
  have hquery := ofLexemes_values names.length given start₆ after₆ start₇ after₇ start₈ after₈
    hgiven hlength
  have hnames (rest : List Lexeme) :
      Statement.readNames (listed ++ ⟨.symbol ")", start₅, after₅⟩ :: rest) =
        .ok (name :: names, rest) := by
    apply readCommaList_names name names _ listed start₅ after₅ rest hlisted
    rw [List.length_append, hlisted.length_eq, Token.length_joined_quoted]
    omega
  have hinsert : Statement.readInsert none (⟨.keyword "INTO", start₂, after₂⟩ ::
      ⟨.quoted table, start₃, after₃⟩ :: ⟨.symbol "(", start₄, after₄⟩ ::
      (listed ++ ⟨.symbol ")", start₅, after₅⟩ :: ⟨.keyword "VALUES", start₆, after₆⟩ ::
        ⟨.symbol "(", start₇, after₇⟩ :: (given ++ [⟨.symbol ")", start₈, after₈⟩]))) =
      .ok (insertStatement table (name :: names), []) := by
    refine (bind_ok rfl _).trans ?_
    refine (bind_ok (readTarget_quoted table start₃ after₃ start₄ after₄ _) _).trans ?_
    refine (bind_ok (hnames _) _).trans ?_
    exact bind_ok hquery _
  exact bind_ok hinsert _

/-- Columns that take any value, and nothing that two rows cannot share but their identifiers, which
have no column. -/
structure Table.IsFree (t : Table) : Prop where
  columns : ∀ c ∈ t.columns, c.isRowId = false ∧ c.notNull = none
  indexes : t.indexes = []
  checks : t.checks = []
  lastId : t.lastId = none
  order : t.order = none
  strict : t.isStrict = false

namespace Table

def append (t : Table) (row : Row) : Table := { t with rows := t.rows.push row }

def nextRow (t : Table) (values : List (String × Cell)) : Row :=
  ⟨t.nextId, t.newCells t.nextId values⟩

variable {t : Table} (h : t.IsFree)
include h

theorem IsFree.append (row : Row) : (t.append row).IsFree :=
  ⟨h.columns, h.indexes, h.checks, h.lastId, h.order, h.strict⟩

theorem IsFree.nextId_gt : t.rows.back?.all (fun last => last.id < t.nextId) = true := by
  rw [nextId, h.lastId]
  cases t.rows.back? with
  | none => rfl
  | some last => exact decide_eq_true (Int.lt_add_one_of_le (Int.le_refl last.id))

theorem IsFree.newRow_eq (values : List (String × Cell))
    (hvalues : ∀ v ∈ values, t.hasOwnColumn v.1 = true) :
    t.newRow values = .ok (t.nextRow values) := by
  -- No name gives the identifier: each one is that of a column, which is not the identifier's.
  have hgives : ∀ v ∈ values, t.givesId v.1 = false := by
    intro v hv
    obtain ⟨c, hc, hname⟩ := List.any_eq_true.mp (hvalues v hv)
    rw [givesId]
    cases hfind : t.columns.find? fun c => sameName c.name v.1 with
    | none => exact absurd hname (List.find?_eq_none.mp hfind c hc)
    | some found => exact (h.columns found (List.mem_of_find?_eq_some hfind)).1
  have hid : t.newId values = .ok t.nextId := by
    have hfilter : (values.filter fun v => t.givesId v.1) = [] := by
      rw [List.filter_eq_nil_iff]
      intro v hv
      rw [hgives v hv]
      exact Bool.false_ne_true
    rw [newId, hfilter]
    rfl
  exact bind_ok hid _

theorem IsFree.put_eq (claimed : Identity → Bool) (values : List (String × Cell)) :
    t.put none [] claimed (t.nextRow values) = .ok (.done (t.append (t.nextRow values))) := by
  have hlength : (t.newCells t.nextId values).length = t.columns.length := List.length_map _
  have hcells (action : Conflict → Conflict) :
      t.withDefaults action (t.newCells t.nextId values) = t.newCells t.nextId values := by
    have hmap : (t.columns.zip (t.newCells t.nextId values)).map Prod.snd =
        t.newCells t.nextId values := List.map_snd_zip hlength.le
    refine Eq.trans ?_ hmap
    apply List.map_congr_left
    rintro ⟨c, cell⟩ hc
    have hnull := (h.columns c (List.of_mem_zip hc).1).2
    simp only [hnull, Option.any_none, Bool.and_false, Bool.false_eq_true, ↓reduceIte]
  -- No rule stops the row: nothing is required, strict, checked or unique but the identifier.
  have hmissing : t.missingColumn? (t.newCells t.nextId values) = none := by
    rw [missingColumn?, List.findSome?_eq_none_iff]
    rintro ⟨c, cell⟩ hc
    simp only [(h.columns c (List.of_mem_zip hc).1).2, Option.map_none, ite_self]
  have hstray : t.strayCell? (t.newCells t.nextId values) = none := by
    rw [strayCell?, h.strict]
    rfl
  have hbroken (row : Row) : t.brokenCheck? row = none := by
    rw [brokenCheck?, h.checks]
    rfl
  have hidentities : t.identities none [] = [(.id, t.idConflict)] := by
    rw [identities, h.indexes]
    simp
  have hplace : t.place (t.nextRow values) = t.append (t.nextRow values) := by
    rw [place, nextRow, if_pos h.nextId_gt]
    rfl
  -- The new identifier is beyond that of the last row, so that no row holds it.
  have hholders : t.holders .id (t.nextRow values) = [] := by
    have hlast := h.nextId_gt
    rw [holders, nextRow]
    cases hback : t.rows.back? with
    | none => rfl
    | some last =>
      rw [hback, Option.all_some, decide_eq_true_iff] at hlast
      rw [Option.any_some, decide_eq_false hlast.not_ge]
      rfl
  have hput : t.put none [] claimed (t.nextRow values) =
      putUnshared claimed (t.nextRow values) [(.id, t.idConflict)] t := by
    rw [put, hidentities]
    dsimp only [nextRow]
    rw [hcells, hmissing, hstray, hbroken]
  rw [hput, putUnshared, hholders]
  exact congrArg (fun t => Except.ok (Placement.done t)) hplace

end Table

theorem check_values (depth n : Nat) (site : NameSite) :
    SelectQuery.check (depth + 2) site (valuesQuery n) =
      .ok ((List.range n).map fun i => "column" ++ toString (i + 1)) := by
  have hhead : [paramExprs 0 n].head?.elim 0 List.length = n := length_paramExprs 0 n
  have hwidth : ([paramExprs 0 n].all fun row => row.length == n) = true := by
    simp [length_paramExprs]
  have hbody : Body.check (depth + 1) site (.values [paramExprs 0 n]) =
      .ok ((List.range n).map fun i => "column" ++ toString (i + 1)) := by
    have hvalues (names : Names) : [paramExprs 0 n].forM (Expr.checkList names) = .ok () :=
      bind_ok (checkList_paramExprs names 0 n) _
    refine (bind_ok (hvalues _) _).trans ?_
    dsimp only
    rw [hhead, if_pos hwidth]
    rfl
  exact bind_ok hbody _

/-- The row that is made of a row of parameters holds their cells. -/
theorem result_values (depth : Nat) (site : Site) :
    SelectQuery.result (depth + 2) site (valuesQuery site.params.length) =
      ⟨(List.range site.params.length).map fun n => ⟨"column" ++ toString (n + 1), none, .binary⟩,
        [site.params], none⟩ := by
  have hhead : [paramExprs 0 site.params.length].head?.elim 0 List.length = site.params.length :=
    length_paramExprs 0 _
  have hvalues (scope : Scope) (h : scope.params = site.params) :
      Expr.evalList scope (paramExprs 0 site.params.length) = site.params := by
    apply evalList_paramExprs
    rw [h]
    exact List.prefix_refl _
  rw [SelectQuery.result, valuesQuery, Body.outcomes]
  simp only [List.map_cons, List.map_nil, List.findSome?_cons, List.findSome?_nil,
    faultAmong?_paramExprs, hhead]
  rw [hvalues _ rfl]
  rfl

namespace Database

theorem ownTable?_replace (db : Database) (name : TableName) (t new : Table)
    (ht : db.ownTable? name = some t) (hname : new.name = t.name)
    (htemporary : new.isTemporary = t.isTemporary) :
    (db.replace new).ownTable? name = some new := by
  let swap (x : Table) : Table :=
    if x.isTemporary == new.isTemporary && sameName x.name new.name then new else x
  -- A table that is swapped is found under the same names as before.
  have hfind (isTemporary : Bool) :
      ((db.tables.map swap).find? fun x =>
          x.isTemporary == isTemporary && sameName x.name name.name) =
        (db.tables.find? fun x =>
          x.isTemporary == isTemporary && sameName x.name name.name).map swap := by
    have hsame :
        (fun x : Table => x.isTemporary == isTemporary && sameName x.name name.name) ∘ swap =
          fun x => x.isTemporary == isTemporary && sameName x.name name.name := by
      funext x
      simp only [Function.comp_apply, swap]
      split
      · next hold =>
        rw [Bool.and_eq_true, beq_iff_eq] at hold
        rw [hold.1, sameName_congr hold.2]
      · rfl
    rw [List.find?_map, hsame]
  have hswap : (db.replace new).ownTable? name = (db.ownTable? name).map swap := by
    have htables : (db.replace new).tables = db.tables.map swap := rfl
    rw [ownTable?, ownTable?, htables]
    simp only [hfind]
    cases name.admits true <;> cases name.admits false <;> simp [Option.map_or]
  rw [hswap, ht, Option.map_some]
  simp [swap, hname, htemporary, sameName_self]

theorem ownTable?_keep (db : Database) (name : TableName) (t : Table) (p : Progress)
    (ht : db.ownTable? name = some t) (hname : p.table.name = t.name)
    (htemporary : p.table.isTemporary = t.isTemporary) :
    (db.keep p).ownTable? name = some p.table :=
  db.ownTable?_replace name t p.table ht hname htemporary

section Insertion

variable (db : Database) (t : Table) (hfree : t.IsFree)

include hfree in
/-- What is done to a table when a row is inserted into it. -/
theorem insertRow_eq (params : List Cell) (label : String) (changed : Nat) (lastId : Option Int)
    (values : List (String × Cell)) (hvalues : ∀ v ∈ values, t.hasOwnColumn v.1 = true) :
    db.insertRow params none label [] ⟨t, changed, lastId⟩ values =
      .ok ((Progress.mk t changed lastId).insert (t.append (t.nextRow values)) t.nextId) := by
  have hrow : (t.newRow values).mapError Table.Refusal.ofFault = .ok (t.nextRow values) := by
    rw [hfree.newRow_eq values hvalues]
    rfl
  have hnoted : t.noteId (t.nextRow values).id = t := by
    have hlast : t.lastId.map (max (t.nextRow values).id) = t.lastId := by
      rw [hfree.lastId]
      rfl
    rw [Table.noteId, hlast]
  refine (bind_ok hrow _).trans ?_
  dsimp only [List.filterMap_nil]
  rw [hnoted]
  exact bind_ok (hfree.put_eq _ values) _

variable (table : String) (names : List String)
  (hnames : ∀ name ∈ names, t.hasOwnColumn name = true)
include hnames

theorem check_insertStatement (hcatalog : isCatalog ⟨none, table⟩ = false)
    (ht : db.ownTable? ⟨none, table⟩ = some t) :
    db.check (insertStatement table names) = .ok () := by
  have hneed : db.needOwnTable ⟨none, table⟩ .modify = .ok t := by
    rw [needOwnTable, hcatalog, ht]
    rfl
  have hcolumns : (names.find? fun name => !t.hasColumn name) = none := by
    rw [List.find?_eq_none]
    intro name hname
    simp [Table.hasColumn, hnames name hname]
  have hquery : db.checkQuery (fun _ _ => false) (valuesQuery names.length) = _ :=
    check_values 998 names.length _
  have hinsert : db.checkInsert t ⟨none, table⟩ none (some names)
      (some (valuesQuery names.length)) = .ok () := by
    rw [checkInsert]
    dsimp only [Option.getD_some]
    rw [hcolumns]
    refine (bind_ok rfl _).trans ?_
    refine (bind_ok hquery _).trans ?_
    simp
    rfl
  refine (bind_ok hneed _).trans ?_
  refine (bind_ok hinsert _).trans ?_
  rfl

include hfree

/-- An insertion into a table without rules puts one row at its end. -/
theorem runInsert_eq (params : List Cell) (label : String)
    (hlength : params.length = names.length) :
    db.runInsert params none t label (some names) (some (valuesQuery names.length)) [] =
      (db.keep ((Progress.mk t 0 none).insert (t.append (t.nextRow (names.zip params))) t.nextId),
        .ok .done) := by
  have hquery : ((db.remove t).checkQuery (fun _ _ => false) (valuesQuery names.length)).isOk =
      true := by
    have hcheck : (db.remove t).checkQuery (fun _ _ => false) (valuesQuery names.length) = _ :=
      check_values 998 names.length _
    rw [hcheck]
    rfl
  -- The values read nothing of the table, so that the row may be made when its turn comes.
  have hmakers : db.rowMakers params t (some (valuesQuery names.length)) =
      .ok [db.makeRow params (paramExprs 0 names.length)] := by
    rw [valuesQuery] at hquery ⊢
    rw [rowMakers, if_pos hquery]
    rfl
  have hmade : db.makeRow params (paramExprs 0 names.length) ⟨t, 0, none⟩ = .ok params := by
    have hresult : SelectQuery.result queryDepth ((db.during ⟨t, 0, none⟩).site params)
        (valuesQuery params.length) = ⟨_, [params], none⟩ := result_values 998 _
    rw [valuesQuery, hlength] at hresult
    rw [makeRow, hresult]
    rfl
  have hvalues : ∀ v ∈ names.zip params, t.hasOwnColumn v.1 = true :=
    fun v hv => hnames v.1 (List.of_mem_zip hv).1
  have hrow := db.insertRow_eq t hfree params label 0 none (names.zip params) hvalues
  have hmapped : (db.makeRow params (paramExprs 0 names.length) ⟨t, 0, none⟩).mapError
      Table.Refusal.ofFault = .ok params := by
    rw [hmade]
    rfl
  have hstep := (bind_ok hmapped fun cells =>
    db.insertRow params none label [] ⟨t, 0, none⟩ (names.zip cells)).trans hrow
  rw [runInsert, hmakers]
  simp only [Option.getD_some, Progress.runAll, hstep]
  rfl

end Insertion

end Database

/-- The values that the fields of a row give to the columns of their names. -/
def givenValues (fields : List (String × Json)) : List (String × Cell) :=
  fields.map fun f => (f.1, (Store.paramOfJson f.2).cell)

/-- A row whose fields have columns is put at the end of a table without rules. -/
theorem Store.insert_eq (store : Store) (t : Table) (hfree : t.IsFree)
    (hcatalog : Database.isCatalog (.ofName store.table) = false)
    (ht : store.database.ownTable? (.ofName store.table) = some t)
    (htable : store.table.toList.all isVisible = true) (fields : List (String × Json))
    (hne : fields ≠ []) (hlength : fields.length ≤ greatestParam)
    (hnames : ∀ f ∈ fields, f.1.toList.all isVisible = true ∧ t.hasOwnColumn f.1 = true) :
    ∃ db, store.insert (.object fields) = .ok { store with database := db } ∧
      db.ownTable? (.ofName store.table) = some (t.append (t.nextRow (givenValues fields))) := by
  have hvisible : ∀ name ∈ fields.map Prod.fst, name.toList.all isVisible = true := by
    intro name hname
    obtain ⟨f, hf, rfl⟩ := List.mem_map.mp hname
    exact (hnames f hf).1
  have hcolumns : ∀ name ∈ fields.map Prod.fst, t.hasOwnColumn name = true := by
    intro name hname
    obtain ⟨f, hf, rfl⟩ := List.mem_map.mp hname
    exact (hnames f hf).2
  -- The statement is read back, passes its checks and runs, in this order.
  have hread := ofChars_insertTokens store.table (fields.map Prod.fst) htable hvisible
    (mt List.map_eq_nil_iff.mp hne) (by rwa [List.length_map]) store.database.nameState
  have hcheck := store.database.check_insertStatement t store.table _ hcolumns hcatalog ht
  have hrun := store.database.runInsert_eq t hfree _ hcolumns
    (fields.map fun f => (paramOfJson f.2).cell) t.name (by rw [List.length_map, List.length_map])
  have hvalues : (fields.map Prod.fst).zip (fields.map fun f => (paramOfJson f.2).cell) =
      givenValues fields := List.zip_map'
  have hneed : store.database.needTable (.ofName store.table) = .ok t := by
    rw [Database.needTable, Database.table?, hcatalog, if_neg Bool.false_ne_true, ht]
  rw [hvalues] at hrun
  have hchecked : store.database.run (insertStatement store.table (fields.map Prod.fst))
      (fields.map fun f => (paramOfJson f.2).cell) =
        (store.database.keep ((Progress.mk t 0 none).insert
          (t.append (t.nextRow (givenValues fields))) t.nextId), .ok .done) := by
    rw [Database.run, hcheck, insertStatement]
    dsimp only [Database.runChecked]
    rw [← TableName.ofName, hneed]
    exact hrun
  have hexecute : store.database.execute
      (String.ofList (Token.render (insertTokens store.table (fields.map Prod.fst))))
      (fields.map fun f => (paramOfJson f.2).cell) =
        .ok (.done, store.database.keep ((Progress.mk t 0 none).insert
          (t.append (t.nextRow (givenValues fields))) t.nextId)) := by
    rw [Database.execute, Database.read, String.toList_ofList, hread]
    dsimp only
    rw [hchecked]
  have hfound := store.database.ownTable?_keep _ t ((Progress.mk t 0 none).insert
    (t.append (t.nextRow (givenValues fields))) t.nextId) ht rfl rfl
  refine ⟨_, ?_, hfound⟩
  rw [insert, hexecute]

end CriteriaSearch.Sql
