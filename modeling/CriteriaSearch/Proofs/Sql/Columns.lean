import CriteriaSearch.Proofs.Sql.Filtering
import CriteriaSearch.Sql.Repository

/-!
# The columns that statements name

Lowering tests the fields of filters against the keys of descriptors, and the keys of sorts against
those and the columns of the table. Keys of descriptors are never tested against the columns, and a
name between double quotes that no column has is read as a text.
-/

namespace CriteriaSearch

namespace Compiled

def testedFields (c : Compiled) : List String := c.predicate.toList.flatMap Predicate.fields

def sortKeys (c : Compiled) : List String := c.sorts.map TypedSort.key

end Compiled

namespace Sql

def Token.quotedName? : Token → Option String
  | .quoted value => some value
  | _ => none

def Token.quotedNames (ts : List Token) : List String := ts.filterMap Token.quotedName?

namespace Token

theorem quotedNames_append (ts us : List Token) :
    quotedNames (ts ++ us) = quotedNames ts ++ quotedNames us :=
  List.filterMap_append

theorem quotedNames_parens (ts : List Token) : quotedNames (parens ts) = quotedNames ts := by
  rw [parens, quotedNames_append]
  exact List.append_nil _

theorem quotedNames_joined (groups : List (List Token)) :
    quotedNames (joined [.symbol ","] groups) = groups.flatMap quotedNames := by
  induction groups with
  | nil => rfl
  | cons group groups ih =>
    cases groups with
    | nil => exact (List.append_nil _).symm
    | cons next groups =>
      rw [joined, quotedNames_append, quotedNames_append, ih]
      · exact congrArg (· ++ _) (List.append_nil _)
      · nofun

end Token

theorem quotedNames_fieldTokens (field : String) (v : FieldValue) :
    Token.quotedNames (fieldTokens field v) = [field] := by
  cases v <;> rfl

theorem quotedNames_paramTokens (k n : Nat) : Token.quotedNames (paramTokens k n) = [] := by
  rw [paramTokens, Token.quotedNames_joined, List.flatMap_map]
  exact List.flatMap_eq_nil_iff.mpr fun _ _ => rfl

mutual

/-- A condition names fields of the tests of its predicate. A test for being among no values is
written without its field. -/
theorem quotedNames_clause (k : Nat) (p : Predicate) :
    Token.quotedNames (clause k p) ⊆ p.leafFields := by
  -- By recursion along with that for chains; only a field is written between double quotes.
  match p with
  | .and [] | .or [] => exact List.nil_subset _
  | .and (p :: ps) | .or (p :: ps) =>
    rw [clause, Token.quotedNames_append, Token.quotedNames_parens]
    exact List.append_subset.mpr
      ⟨List.subset_append_of_subset_left _ (quotedNames_clause k p),
        List.subset_append_of_subset_right _ (quotedNames_clauseRest _ _ ps)⟩
  | .not p =>
    change Token.quotedNames (Token.parens (clause k p)) ⊆ _
    rw [Token.quotedNames_parens]
    exact quotedNames_clause k p
  | .compare field c v | .range field v _ =>
    rw [clause, Token.quotedNames_append, quotedNames_fieldTokens]
    exact List.Subset.refl [field]
  | .oneOf field [] => exact List.nil_subset _
  | .oneOf field (v :: vs) =>
    have hvalues : Token.quotedNames (.keyword "IN" :: Token.parens (paramTokens k (vs.length + 1)))
        = [] := by
      change Token.quotedNames (Token.parens (paramTokens k (vs.length + 1))) = []
      rw [Token.quotedNames_parens, quotedNames_paramTokens]
    rw [clause, Token.quotedNames_append, quotedNames_fieldTokens, hvalues]
    exact List.Subset.refl [field]
  | .textMatch field mode text => exact List.Subset.refl [field]
  | .isNull field => exact List.Subset.refl [field]
  | .isNotNull field => exact List.Subset.refl [field]

theorem quotedNames_clauseRest (word : String) (k : Nat) (ps : List Predicate) :
    Token.quotedNames (clauseRest word k ps) ⊆ Predicate.leafFieldsOf ps := by
  match ps with
  | [] => exact List.nil_subset _
  | p :: ps =>
    have hpart : Token.quotedNames (.keyword word :: Token.parens (clause k p)) ⊆ p.leafFields := by
      change Token.quotedNames (Token.parens (clause k p)) ⊆ _
      rw [Token.quotedNames_parens]
      exact quotedNames_clause k p
    rw [clauseRest, Token.quotedNames_append]
    exact List.append_subset.mpr
      ⟨List.subset_append_of_subset_left _ hpart,
        List.subset_append_of_subset_right _ (quotedNames_clauseRest word _ ps)⟩

end

namespace Query

/-- The names that the condition and the order of a statement write between double quotes. -/
def namedColumns (c : Compiled) : List String :=
  Token.quotedNames (whereTokens c) ++ Token.quotedNames (orderTokens c.sorts)

theorem quotedNames_whereTokens (c : Compiled) :
    Token.quotedNames (whereTokens c) ⊆ c.testedFields := by
  rw [whereTokens, Compiled.testedFields]
  cases c.predicate with
  | none => exact List.nil_subset _
  | some p =>
    intro name hname
    have hleaf : name ∈ p.leafFields := quotedNames_clause 0 p hname
    have hfield : name ∈ p.fields := List.mem_eraseDups.mpr hleaf
    simpa using hfield

theorem quotedNames_orderTokens (sorts : List TypedSort) :
    Token.quotedNames (orderTokens sorts) = sorts.map TypedSort.key := by
  have hsort (s : TypedSort) : Token.quotedNames (sortTokens s) = [s.key] := by
    rw [sortTokens]
    cases s.direction <;> rfl
  rw [orderTokens]
  split
  · next hsorts =>
    rw [hsorts]
    rfl
  · change Token.quotedNames (Token.joined _ _) = _
    rw [Token.quotedNames_joined, List.flatMap_map, List.map_eq_flatMap]
    simp only [hsort]

theorem quotedNames_selectTokens (table : String) (c : Compiled) :
    Token.quotedNames (selectTokens table c) = table :: namedColumns c := by
  rw [selectTokens, Token.quotedNames_append, Token.quotedNames_append, Token.quotedNames_append,
    namedColumns]
  exact List.append_nil _

end Query

namespace Table

/-- A name between double quotes is read as the text that it writes, whatever the row. -/
def ReadsAsText (t : Table) (name : String) : Prop :=
  ∀ params row, (Expr.quoted name).eval (t.scope params row) = .text name

theorem lookup_eq_none (t : Table) (name : String) (h : t.hasColumn name = false) (row : Row) :
    t.lookup row name = none := by
  rw [hasColumn, Bool.or_eq_false_iff, hasOwnColumn, List.any_eq_false] at h
  have hzip : (t.columns.zip row.cells).find? (fun c => sameName c.1.name name) = none := by
    rw [List.find?_eq_none]
    intro c hc
    exact h.1 c.1 (List.of_mem_zip hc).1
  rw [lookup, hzip]
  simp [h.2]

/-- The row in which every column is empty shows nothing under the name of a column. -/
theorem eval_quoted_empty (t : Table) (name : String) (h : t.hasColumn name = true) :
    (Expr.quoted name).eval (t.scope [] ⟨0, t.columns.map fun _ => .null⟩) ≠ .text name := by
  have hscope : (t.scope [] ⟨0, t.columns.map fun _ => .null⟩).column none name =
      t.lookup ⟨0, t.columns.map fun _ => .null⟩ name := rfl
  have hzip : t.columns.zip (t.columns.map fun _ => Cell.null) =
      t.columns.map fun c => (c, Cell.null) := by
    nth_rewrite 1 [← List.map_id t.columns]
    exact List.zip_map'
  rw [Expr.eval, hscope, lookup, hzip, List.find?_map, Function.comp_def]
  cases hfound : t.columns.find? (fun c => sameName c.name name) with
  | some column => simp
  | none =>
    have hown : t.hasOwnColumn name = false := by
      rw [hasOwnColumn, List.any_eq_false]
      exact List.find?_eq_none.mp hfound
    rw [hasColumn, hown, Bool.false_or] at h
    simp [h]

theorem readsAsText_iff (t : Table) (name : String) :
    t.ReadsAsText name ↔ t.hasColumn name = false := by
  constructor
  · intro h
    rw [← Bool.not_eq_true]
    intro hcolumn
    exact t.eval_quoted_empty name hcolumn (h [] _)
  · intro h params row
    have hscope : (t.scope params row).column none name = none := t.lookup_eq_none name h row
    rw [Expr.eval, hscope]

theorem not_readsAsText {t : Table} {name : String} (h : t.hasOwnColumn name = true) :
    ¬t.ReadsAsText name := by
  rw [readsAsText_iff, hasColumn, h]
  exact nofun

end Table

namespace Store

def describes (store : Store) (field : String) : Bool :=
  store.descriptors.any fun d => d.key == field

/-- Criteria are lowered if all the fields that they test have descriptors, and all the keys that
they sort by have descriptors or all of them are columns. -/
def Admits (store : Store) (c : Compiled) : Prop :=
  (∀ field ∈ c.testedFields, store.describes field = true) ∧
    ((∀ key ∈ c.sortKeys, store.describes key = true) ∨
      ∀ key ∈ c.sortKeys, key ∈ store.columnNames)

/-- Lowering passes, or stops at a field that a filter tests or at a key to sort by. -/
theorem lower_cases (store : Store) (c : Compiled) :
    (store.Admits c ∧ store.lower c = .ok (.build store.table c)) ∨
      ∃ field, store.lower c = .error (noSuchColumn field) ∧ ¬store.Admits c ∧
        (field ∈ c.testedFields ∧ store.describes field = false ∨
          field ∈ c.sortKeys ∧ field ∉ store.columnNames) := by
  rw [lower]
  cases htested : c.testedFields.find? fun field => !store.describes field with
  | some field =>
    have hmem : field ∈ c.testedFields := List.mem_of_find?_eq_some htested
    have hfield : store.describes field = false := by
      simpa using List.find?_some htested
    refine .inr ⟨field, ?_, ?_, .inl ⟨hmem, hfield⟩⟩
    · rw [Compiled.testedFields] at htested
      simp only [describes] at htested
      simp only [htested]
    · intro h
      rw [h.1 field hmem] at hfield
      contradiction
  -- The columns are asked for only if some key to sort by has no descriptor, and then for all keys.
  | none =>
    have hall : ∀ field ∈ c.testedFields, store.describes field = true := by
      simpa using htested
    rw [Compiled.testedFields] at htested
    simp only [describes] at htested
    simp only [htested]
    split
    · next hsorts =>
      refine .inl ⟨⟨hall, .inl ?_⟩, rfl⟩
      simpa [Compiled.sortKeys, describes] using hsorts
    · next hsorts =>
      split
      · next s hs =>
        have hmem : s.key ∈ c.sortKeys := List.mem_map_of_mem (List.mem_of_find?_eq_some hs)
        have hkey : s.key ∉ store.columnNames := by
          simpa using List.find?_some hs
        refine .inr ⟨s.key, rfl, ?_, .inr ⟨hmem, hkey⟩⟩
        rintro ⟨-, hknown | hcolumns⟩
        · apply hsorts
          simpa [Compiled.sortKeys, describes] using hknown
        · exact hkey (hcolumns _ hmem)
      · next hs =>
        refine .inl ⟨⟨hall, .inr ?_⟩, rfl⟩
        simpa [Compiled.sortKeys] using hs

theorem lower_eq_ok_iff (store : Store) (c : Compiled) (q : Query) :
    store.lower c = .ok q ↔ store.Admits c ∧ q = .build store.table c := by
  rcases store.lower_cases c with ⟨hadmits, hlower⟩ | ⟨field, hlower, hrefused, -⟩
  · rw [hlower, Except.ok.injEq, eq_comm]
    exact (and_iff_right hadmits).symm
  · rw [hlower]
    exact iff_of_false nofun fun h => hrefused h.1

theorem columnNames_eq (store : Store) (t : Table)
    (ht : store.database.table? (.ofName store.table) = some t) :
    store.columnNames = t.columns.map Column.name := by
  rw [columnNames, Database.columnNames, ht]

/-- What criteria that are lowered name is the key of a descriptor or a column of the table. -/
theorem describes_or_hasOwnColumn (store : Store) (t : Table)
    (ht : store.database.table? (.ofName store.table) = some t) (c : Compiled)
    (h : store.Admits c) (name : String) (hname : name ∈ Query.namedColumns c) :
    store.describes name = true ∨ t.hasOwnColumn name = true := by
  rw [Query.namedColumns, List.mem_append, Query.quotedNames_orderTokens] at hname
  rcases hname with hwhere | horder
  · exact .inl (h.1 name (Query.quotedNames_whereTokens c hwhere))
  · refine h.2.imp (fun hknown => hknown name horder) fun hcolumns => ?_
    have hcolumn := hcolumns name horder
    rw [store.columnNames_eq t ht, List.mem_map] at hcolumn
    obtain ⟨column, hmem, rfl⟩ := hcolumn
    rw [Table.hasOwnColumn, List.any_eq_true]
    exact ⟨column, hmem, by simp [sameName]⟩

/-- Criteria are lowered if they pass the guard and only then. The statements name nothing but
columns, none of which is read as a text, exactly if the keys of descriptors that they name are
columns. A refusal names a field that is tested and is no key of a descriptor, or a key to sort by
that is not the name of a column to the letter. -/
theorem lowered_columns (store : Store) (t : Table)
    (ht : store.database.table? (.ofName store.table) = some t) (c : Compiled) :
    (∀ q, store.lower c = .ok q ↔ store.Admits c ∧ q = .build store.table c) ∧
      Token.quotedNames (Query.selectTokens store.table c) =
        store.table :: Query.namedColumns c ∧
      (store.Admits c →
        ((∀ name ∈ Query.namedColumns c, t.hasOwnColumn name = true ∧ ¬t.ReadsAsText name) ↔
          ∀ d ∈ store.descriptors, d.key ∈ Query.namedColumns c → t.hasOwnColumn d.key = true)) ∧
      ∀ e, store.lower c = .error e → ∃ field, e = noSuchColumn field ∧
        (field ∈ c.testedFields ∧ store.describes field = false ∨
          field ∈ c.sortKeys ∧ field ∉ t.columns.map Column.name) := by
  refine ⟨store.lower_eq_ok_iff c, Query.quotedNames_selectTokens _ c, ?_, ?_⟩
  · intro hadmits
    constructor
    · intro h d _ hkey
      exact (h d.key hkey).1
    · intro h name hname
      suffices hcolumn : t.hasOwnColumn name = true from ⟨hcolumn, Table.not_readsAsText hcolumn⟩
      -- A name that has passed as the key of a descriptor is a column by assumption.
      rcases store.describes_or_hasOwnColumn t ht c hadmits name hname with hknown | hcolumn
      · obtain ⟨d, hd, hkey⟩ := List.any_eq_true.mp hknown
        rw [beq_iff_eq] at hkey
        subst hkey
        exact h d hd hname
      · exact hcolumn
  · intro e he
    rcases store.lower_cases c with ⟨-, hlower⟩ | ⟨field, hlower, -, hfield⟩
    · rw [hlower] at he
      contradiction
    · rw [hlower, Except.error.injEq] at he
      rw [store.columnNames_eq t ht] at hfield
      exact ⟨field, he.symm, hfield⟩

def tools : Table := { systems with name := "tools", columns := [.plain "name" "TEXT"] }

def toolsBy (key : String) (h : Text.isBlankText key = false) : Store where
  database := ⟨[tools], [], [], .start⟩
  table := "tools"
  descriptors := [⟨key, .string, true, [.equals], h, by decide, by decide⟩]

def sortedBy (keys : List String) : Compiled :=
  ⟨none, keys.map fun key => ⟨key, .ascending, .string⟩, .first, []⟩

/-- The key of a descriptor that is a column in other letters passes, and a name of neither does
not. -/
theorem lowered_columns_tools :
    (∀ name ∈ Query.namedColumns (sortedBy ["Name"]),
        tools.hasOwnColumn name = true ∧ ¬tools.ReadsAsText name) ∧
      (toolsBy "Name" (by decide)).lower (sortedBy ["Name", "weight"]) =
        .error (noSuchColumn "Name") ∧
      ∃ field, noSuchColumn "Name" = noSuchColumn field ∧
        (field ∈ (sortedBy ["Name", "weight"]).testedFields ∧
            (toolsBy "Name" (by decide)).describes field = false ∨
          field ∈ (sortedBy ["Name", "weight"]).sortKeys ∧
            field ∉ tools.columns.map Column.name) := by
  have hkey (keys : List String) :=
    lowered_columns (toolsBy "Name" (by decide)) tools rfl (sortedBy keys)
  refine ⟨?_, by decide, ?_⟩
  · refine ((hkey ["Name"]).2.2.1 ⟨by decide, .inl (by decide)⟩).mpr ?_
    decide
  · exact (hkey ["Name", "weight"]).2.2.2 _ (by decide)

/-- The key of a descriptor passes that is no column, and is read as a text. The name of a column in
other letters does not pass. -/
theorem lowered_columns_ne :
    ((toolsBy "label" (by decide)).lower (sortedBy ["label"]) =
        .ok (.build "tools" (sortedBy ["label"])) ∧
      "label" ∈ Query.namedColumns (sortedBy ["label"]) ∧
      tools.hasOwnColumn "label" = false ∧ tools.ReadsAsText "label") ∧
      (toolsBy "label" (by decide)).lower (sortedBy ["NAME"]) = .error (noSuchColumn "NAME") ∧
      tools.hasOwnColumn "NAME" = true := by
  refine ⟨⟨by decide, by decide, by decide, ?_⟩, by decide, by decide⟩
  rw [Table.readsAsText_iff]
  decide

end Store

end Sql

end CriteriaSearch
