import CriteriaSearch.Proofs.Sql.Placeholders

/-!
# Binding of parameters

The texts of statements depend on a request only by its fields and tests and by the types and the
number of its values. The values themselves are bound, each to its own place. A search counts and
selects with one condition, and selects with two more parameters for the page.
-/

namespace CriteriaSearch

def FieldValue.blank : FieldValue → FieldValue
  | .text _ => .text ""
  | .number _ => .number (.int 0)
  | .dateTime _ => .dateTime (.midnight ⟨1970, 1, 1, by decide, by decide, by decide⟩)
  | .boolean _ => .boolean false

namespace Predicate

mutual

def withoutValues : Predicate → Predicate
  | .and parts => .and (withoutValuesOf parts)
  | .or parts => .or (withoutValuesOf parts)
  | .not part => .not (withoutValues part)
  | .compare field c value => .compare field c value.blank
  | .range field lower upper => .range field lower.blank upper.blank
  | .oneOf field values => .oneOf field (values.map FieldValue.blank)
  | .textMatch field mode _ => .textMatch field mode ""
  | .isNull field => .isNull field
  | .isNotNull field => .isNotNull field

def withoutValuesOf : List Predicate → List Predicate
  | [] => []
  | p :: ps => withoutValues p :: withoutValuesOf ps

end

end Predicate

namespace Sql

namespace Piece

def holes (ps : List Piece) : List Piece :=
  ps.map fun
    | .token t => .token t
    | .value _ => .value .null

theorem holes_append (ps qs : List Piece) : holes (ps ++ qs) = holes ps ++ holes qs :=
  List.map_append

theorem holes_parens (ps : List Piece) : holes (parens ps) = parens (holes ps) := by
  change .token (.symbol "(") :: holes (ps ++ [.token (.symbol ")")]) = _
  rw [holes_append]
  rfl

theorem numbered_holes (k : Nat) (ps : List Piece) : numbered k (holes ps) = numbered k ps := by
  induction ps generalizing k with
  | nil => rfl
  | cons p ps ih =>
    cases p with
    | token t => exact congrArg (t :: ·) (ih k)
    | value v => exact congrArg (.param (k + 1) :: ·) (ih (k + 1))

end Piece

theorem fieldTokens_blank (field : String) (v : FieldValue) :
    fieldTokens field v.blank = fieldTokens field v := by
  cases v <;> rfl

theorem holes_listedPieces (vs : List FieldValue) :
    Piece.holes (listedPieces (vs.map FieldValue.blank)) = Piece.holes (listedPieces vs) := by
  induction vs with
  | nil => rfl
  | cons v vs ih =>
    cases vs with
    | nil => rfl
    | cons w vs => exact congrArg (.value .null :: .token (.symbol ",") :: ·) ih

theorem holes_piecesRest (word : String) (ps : List Predicate)
    (hps : ∀ p ∈ ps, Piece.holes (pieces p.withoutValues) = Piece.holes (pieces p)) :
    Piece.holes (piecesRest word (Predicate.withoutValuesOf ps)) =
      Piece.holes (piecesRest word ps) := by
  induction ps with
  | nil => rfl
  | cons p ps ih =>
    rw [List.forall_mem_cons] at hps
    rw [Predicate.withoutValuesOf, piecesRest, piecesRest, Piece.holes_append, Piece.holes_append,
      ih hps.2]
    change .token _ :: Piece.holes (Piece.parens _) ++ _ =
      .token _ :: Piece.holes (Piece.parens _) ++ _
    rw [Piece.holes_parens, Piece.holes_parens, hps.1]

theorem holes_pieces (p : Predicate) :
    Piece.holes (pieces p.withoutValues) = Piece.holes (pieces p) := by
  -- Both connectives are chains of parts between parentheses.
  have hchain (word : String) (p : Predicate) (ps : List Predicate)
      (hps : ∀ q ∈ p :: ps, Piece.holes (pieces q.withoutValues) = Piece.holes (pieces q)) :
      Piece.holes (Piece.parens (pieces p.withoutValues) ++
          piecesRest word (Predicate.withoutValuesOf ps)) =
        Piece.holes (Piece.parens (pieces p) ++ piecesRest word ps) := by
    rw [List.forall_mem_cons] at hps
    rw [Piece.holes_append, Piece.holes_append, Piece.holes_parens, Piece.holes_parens, hps.1,
      holes_piecesRest word ps hps.2]
  induction p using Predicate.inductionOn with
  | and ps ih =>
    cases ps with
    | nil => rfl
    | cons p ps => exact hchain "AND" p ps ih
  | or ps ih =>
    cases ps with
    | nil => rfl
    | cons p ps => exact hchain "OR" p ps ih
  | not p ih =>
    change .token _ :: Piece.holes (Piece.parens _) = .token _ :: Piece.holes (Piece.parens _)
    rw [Piece.holes_parens, Piece.holes_parens, ih]
  | compare field c v =>
    rw [Predicate.withoutValues, pieces, pieces, fieldTokens_blank, Piece.holes_append,
      Piece.holes_append]
    rfl
  | range field v w =>
    rw [Predicate.withoutValues, pieces, pieces, fieldTokens_blank, Piece.holes_append,
      Piece.holes_append]
    rfl
  | oneOf field vs =>
    cases vs with
    | nil => rfl
    | cons v vs =>
      have hlist := holes_listedPieces (v :: vs)
      rw [Predicate.withoutValues, List.map_cons, pieces, pieces, fieldTokens_blank,
        Piece.holes_append, Piece.holes_append]
      congr 1
      change .token _ :: Piece.holes (Piece.parens _) = .token _ :: Piece.holes (Piece.parens _)
      rw [Piece.holes_parens, Piece.holes_parens, ← hlist]
      rfl
  | textMatch field mode text => rfl
  | isNull field => rfl
  | isNotNull field => rfl

theorem clause_withoutValues (k : Nat) (p : Predicate) : clause k p.withoutValues = clause k p := by
  rw [clause_eq_numbered, clause_eq_numbered, ← Piece.numbered_holes, holes_pieces,
    Piece.numbered_holes]

namespace Token

/-- What follows the tokens may stand after a blank, unless they leave a parenthesis just opened. -/
def EndsClosed (ts : List Token) : Prop :=
  ∀ t : Token, t ≠ .symbol "(" → ts.getLastD t ≠ .symbol "("

theorem getLastD_append (ts us : List Token) (t : Token) :
    (ts ++ us).getLastD t = us.getLastD (ts.getLastD t) := by
  induction ts generalizing t with
  | nil => rfl
  | cons u ts ih => rw [List.cons_append, List.getLastD_cons, List.getLastD_cons, ih]

theorem endsClosed_append {ts us : List Token} (hts : EndsClosed ts) (hus : EndsClosed us) :
    EndsClosed (ts ++ us) := by
  intro t ht
  rw [getLastD_append]
  exact hus _ (hts t ht)

theorem endsClosed_joined {separator : List Token} (hseparator : EndsClosed separator)
    (groups : List (List Token)) (hgroups : ∀ group ∈ groups, EndsClosed group) :
    EndsClosed (joined separator groups) := by
  induction groups with
  | nil => exact fun _ h => h
  | cons group groups ih =>
    rw [List.forall_mem_cons] at hgroups
    cases groups with
    | nil => exact hgroups.1
    | cons next groups =>
      exact endsClosed_append (endsClosed_append hgroups.1 hseparator) (ih hgroups.2)

theorem endsClosed_concat (ts : List Token) (t : Token) (h : t ≠ .symbol "(") :
    EndsClosed (ts ++ [t]) := by
  intro u _
  rw [List.getLastD_concat]
  exact h

/-- The text of some tokens and then some more, which are written as after the last one. -/
theorem renderAfter_append (t : Token) (ts us : List Token) :
    t.renderAfter (ts ++ us) = t.renderAfter ts ++ (ts.getLastD t).renderAfter us := by
  induction ts generalizing t with
  | nil => rfl
  | cons u ts ih =>
    rw [List.cons_append, renderAfter, renderAfter, ih, List.getLastD_cons, List.append_assoc,
      List.append_assoc, List.append_assoc]

theorem renderAfter_keyword (t : Token) (h : t ≠ .symbol "(") (w : String) (ts : List Token) :
    t.renderAfter (.keyword w :: ts) = ' ' :: render (.keyword w :: ts) := by
  have htouch : t.touches (.keyword w) = false := by
    unfold touches
    split <;> first | rfl | exact absurd rfl h | contradiction
  rw [renderAfter, htouch]
  rfl

end Token

theorem endsClosed_clauseRest (word : String) (k : Nat) (ps : List Predicate) :
    Token.EndsClosed (clauseRest word k ps) := by
  induction ps generalizing k with
  | nil => exact fun _ h => h
  | cons p ps ih =>
    rw [clauseRest]
    apply Token.endsClosed_append _ (ih _)
    exact Token.endsClosed_concat (.keyword word :: .symbol "(" :: clause k p) _ (by decide)

theorem endsClosed_clause (k : Nat) (p : Predicate) : Token.EndsClosed (clause k p) := by
  -- A condition ends in a parenthesis, a word, a sign or a number, but never in an opening
  -- parenthesis.
  have hparens (ts us : List Token) : Token.EndsClosed (us ++ Token.parens ts) := by
    rw [Token.parens, ← List.append_assoc]
    exact Token.endsClosed_concat _ _ (by decide)
  have hfield (field : String) (v : FieldValue) : Token.EndsClosed (fieldTokens field v) := by
    cases v with
    | dateTime t => exact Token.endsClosed_concat [_, _, _, _, _] _ (by decide)
    | _ => exact Token.endsClosed_concat [] _ (by simp)
  cases p with
  | and ps =>
    cases ps with
    | nil => exact Token.endsClosed_concat [.number "1", .symbol "="] _ (by decide)
    | cons p ps => exact Token.endsClosed_append (hparens _ []) (endsClosed_clauseRest "AND" _ ps)
  | or ps =>
    cases ps with
    | nil => exact Token.endsClosed_concat [.number "0", .symbol "="] _ (by decide)
    | cons p ps => exact Token.endsClosed_append (hparens _ []) (endsClosed_clauseRest "OR" _ ps)
  | not p => exact hparens (clause k p) [.keyword "NOT"]
  | compare field c v =>
    exact Token.endsClosed_append (hfield field v) (Token.endsClosed_concat [_] _ (by simp))
  | range field v w =>
    exact Token.endsClosed_append (hfield field v) (Token.endsClosed_concat [_, _, _] _ (by simp))
  | oneOf field vs =>
    cases vs with
    | nil => exact Token.endsClosed_concat [.number "0", .symbol "="] _ (by decide)
    | cons v vs => exact Token.endsClosed_append (hfield field v) (hparens _ [.keyword "IN"])
  | textMatch field mode text => exact Token.endsClosed_concat [_, _, _, _, _, _, _] _ (by simp)
  | isNull field => exact Token.endsClosed_concat [_, _] _ (by simp)
  | isNotNull field => exact Token.endsClosed_concat [_, _, _] _ (by simp)

theorem renderAfter_clause (word : String) (k : Nat) (p : Predicate) :
    (Token.keyword word).renderAfter (clause k p) = ' ' :: Token.render (clause k p) := by
  have hfield (field : String) (v : FieldValue) (ts : List Token) :
      (Token.keyword word).renderAfter (fieldTokens field v ++ ts) =
        ' ' :: Token.render (fieldTokens field v ++ ts) := by
    cases v <;> rfl
  cases p with
  | and ps => cases ps <;> rfl
  | or ps => cases ps <;> rfl
  | not p => rfl
  | compare field c v => exact hfield field v _
  | range field v w => exact hfield field v _
  | oneOf field vs =>
    cases vs with
    | nil => rfl
    | cons v vs => exact hfield field v _
  | textMatch field mode text => rfl
  | isNull field => rfl
  | isNotNull field => rfl

namespace Query

def filterOf (c : Compiled) : Fragment :=
  match c.predicate with
  | some p => ⟨" WHERE " ++ ((Fragment.mk "" []).lower p).1, ((Fragment.mk "" []).lower p).2.params⟩
  | none => ⟨"", []⟩

def orderText (sorts : List TypedSort) : String :=
  if sorts = [] then "" else " " ++ String.ofList (Token.render (orderTokens sorts))

theorem whereParams_eq (c : Compiled) : whereParams c = (filterOf c).params := by
  rw [whereParams, filterOf]
  cases c.predicate <;> rfl

theorem endsClosed_whereTokens (c : Compiled) : Token.EndsClosed (whereTokens c) := by
  rw [whereTokens]
  cases c.predicate with
  | none => exact fun _ h => h
  | some p =>
    exact Token.endsClosed_append (Token.endsClosed_concat [] (.keyword "WHERE") nofun)
      (endsClosed_clause 0 p)

theorem renderAfter_whereTokens (c : Compiled) (table : String) :
    (Token.quoted table).renderAfter (whereTokens c) = (filterOf c).text.toList := by
  rw [whereTokens, filterOf]
  cases c.predicate with
  | none => rfl
  | some p =>
    simp only
    have hlower : ((Fragment.mk "" []).lower p).1.toList = Token.render (clause 0 p) :=
      String.toList_ofList
    rw [Token.renderAfter_keyword (.quoted table) nofun, Token.render, renderAfter_clause,
      String.toList_append, hlower]
    rfl

theorem endsClosed_orderTokens (sorts : List TypedSort) : Token.EndsClosed (orderTokens sorts) := by
  have hsort (s : TypedSort) : Token.EndsClosed (sortTokens s) := by
    rw [sortTokens]
    cases s.direction <;> exact Token.endsClosed_concat [_, _, _] _ (by simp)
  rw [orderTokens]
  split
  · exact fun _ h => h
  · apply Token.endsClosed_append (Token.endsClosed_concat [.keyword "ORDER"] (.keyword "BY") nofun)
    apply Token.endsClosed_joined (Token.endsClosed_concat [] _ (by decide))
    intro group hgroup
    obtain ⟨s, -, rfl⟩ := List.mem_map.mp hgroup
    exact hsort s

theorem renderAfter_orderTokens (sorts : List TypedSort) (t : Token) (ht : t ≠ .symbol "(") :
    t.renderAfter (orderTokens sorts) = (orderText sorts).toList := by
  rw [orderText]
  split
  · next hsorts =>
    rw [hsorts]
    rfl
  · next hsorts =>
    rw [orderTokens, if_neg hsorts, Token.renderAfter_keyword t ht, String.toList_append,
      String.toList_ofList, String.toList_ofList]
    rfl

theorem count_text (table : String) (c : Compiled) :
    (build table c).count.text =
      "SELECT COUNT(*) FROM " ++ quoteName table ++ (filterOf c).text := by
  have htokens : Token.render (countTokens table c) = "SELECT COUNT(*) FROM ".toList ++
      (enclose '"' table ++ (Token.quoted table).renderAfter (whereTokens c)) := rfl
  rw [← String.toList_inj, build, htokens, renderAfter_whereTokens]
  simp only [String.toList_ofList, String.toList_append, quoteName, List.append_assoc]

theorem select_text (table : String) (c : Compiled) :
    (build table c).select.text =
      "SELECT * FROM " ++ quoteName table ++ (filterOf c).text ++ orderText c.sorts ++
        " LIMIT " ++ String.ofList (placeholder ((filterOf c).params.length + 1)) ++
        " OFFSET " ++ String.ofList (placeholder ((filterOf c).params.length + 2)) := by
  have htokens : Token.render (selectTokens table c) = "SELECT * FROM ".toList ++
      (enclose '"' table ++ (Token.quoted table).renderAfter (whereTokens c ++
        (orderTokens c.sorts ++ [.keyword "LIMIT", .param ((whereParams c).length + 1),
          .keyword "OFFSET", .param ((whereParams c).length + 2)]))) := by
    rw [selectTokens, List.append_assoc, List.append_assoc]
    rfl
  have hwhere : (whereTokens c).getLastD (.quoted table) ≠ .symbol "(" :=
    endsClosed_whereTokens c _ (by simp)
  have horder := endsClosed_orderTokens c.sorts _ hwhere
  -- The text is cut after the table, the condition and the order, with a blank at each cut.
  rw [← String.toList_inj, build, htokens, Token.renderAfter_append, Token.renderAfter_append,
    renderAfter_whereTokens, renderAfter_orderTokens _ _ hwhere, Token.renderAfter_keyword _ horder,
    whereParams_eq]
  simp only [String.toList_ofList, String.toList_append, quoteName, List.append_assoc]
  simp only [Token.render, Token.renderAfter, Token.touches, List.append_nil]
  rfl

theorem isFixed_orderTokens (sorts : List TypedSort) :
    (orderTokens sorts).all Token.isFixed = true := by
  have hjoined (groups : List (List Token)) (h : ∀ group ∈ groups, group.all Token.isFixed = true) :
      (Token.joined [.symbol ","] groups).all Token.isFixed = true := by
    induction groups with
    | nil => rfl
    | cons group groups ih =>
      rw [List.forall_mem_cons] at h
      cases groups with
      | nil => exact h.1
      | cons next groups =>
        rw [Token.joined, List.all_append, List.all_append, h.1, ih h.2]
        · rfl
        · nofun
  rw [orderTokens]
  split
  · rfl
  · apply hjoined
    intro group hgroup
    obtain ⟨s, -, rfl⟩ := List.mem_map.mp hgroup
    rw [sortTokens]
    cases s.direction <;> rfl

theorem isClear_whereTokens (c : Compiled) : (whereTokens c).all Token.isClear = true := by
  rw [whereTokens]
  cases c.predicate with
  | none => rfl
  | some p => exact isClear_clause 0 p

theorem places_whereTokens (c : Compiled) :
    (whereTokens c).filterMap Token.place? = List.range' 1 (whereParams c).length := by
  rw [whereTokens, whereParams]
  cases c.predicate with
  | none => rfl
  | some p => exact places_clause 0 p

theorem placeholders_count (table : String) (c : Compiled) :
    placeholders false (build table c).count.text.toList =
      (List.range' 1 (whereParams c).length).map placeholder := by
  have hclear : (countTokens table c).all Token.isClear = true := isClear_whereTokens c
  have hplaces : (countTokens table c).filterMap Token.place? =
      (whereTokens c).filterMap Token.place? := rfl
  rw [build, String.toList_ofList, Token.placeholders_render _ hclear, hplaces, places_whereTokens]

theorem placeholders_select (table : String) (c : Compiled) :
    placeholders false (build table c).select.text.toList =
      (List.range' 1 ((whereParams c).length + 2)).map placeholder := by
  have horder := isFixed_orderTokens c.sorts
  have hclear : (selectTokens table c).all Token.isClear = true := by
    rw [selectTokens, List.all_append, List.all_append, List.all_append, isClear_whereTokens,
      Token.isClear_of_isFixed _ horder]
    rfl
  have hplaces : (selectTokens table c).filterMap Token.place? =
      List.range' 1 (whereParams c).length ++
        [(whereParams c).length + 1, (whereParams c).length + 2] := by
    rw [selectTokens, List.filterMap_append, List.filterMap_append, List.filterMap_append,
      places_whereTokens, Token.places_of_isFixed _ horder, List.append_nil]
    rfl
  rw [build, String.toList_ofList, Token.placeholders_render _ hclear, hplaces,
    List.range'_1_concat, List.range'_1_concat, List.append_assoc, Nat.add_comm 1,
    Nat.add_comm 1, Nat.add_assoc]
  rfl

end Query

/-- The text is the condition of the predicate with places for its values after those that the
fragment has, and the second fragment is the first one with the values added. -/
structure Fragment.IsLowered (f : Fragment) (p : Predicate) (text : String) (g : Fragment) :
    Prop where
  text_eq : g.text = f.text
  params_eq : g.params = f.params ++ Piece.values (pieces p)
  condition_eq : text = String.ofList (Token.render (Piece.numbered f.params.length (pieces p)))
  placeholders_eq : placeholders false text.toList =
    (List.range' (f.params.length + 1) (Piece.values (pieces p)).length).map placeholder

/-- The statements have one condition and its parameters. That for a page has two more parameters
in its last places, the size of the page and its offset as far as 64 bits hold it. -/
structure Query.IsBuilt (table : String) (c : Compiled) (q : Query) : Prop where
  count_text : q.count.text =
    "SELECT COUNT(*) FROM " ++ quoteName table ++ (Query.filterOf c).text
  count_params : q.count.params = (Query.filterOf c).params
  count_placeholders : placeholders false q.count.text.toList =
    (List.range' 1 q.count.params.length).map placeholder
  select_text : q.select.text =
    "SELECT * FROM " ++ quoteName table ++ (Query.filterOf c).text ++ Query.orderText c.sorts ++
      " LIMIT " ++ String.ofList (placeholder (q.count.params.length + 1)) ++
      " OFFSET " ++ String.ofList (placeholder (q.count.params.length + 2))
  select_params : q.select.params = q.count.params ++
    [.integer c.page.size.toNat, .integer (min c.page.offset largestInteger)]
  select_placeholders : placeholders false q.select.text.toList =
    (List.range' 1 q.select.params.length).map placeholder

theorem Fragment.isLowered (f : Fragment) (p : Predicate) :
    f.IsLowered p (f.lower p).1 (f.lower p).2 := by
  refine ⟨rfl, ?_, ?_, ?_⟩
  · rw [← params_eq_values]
    rfl
  · rw [← clause_eq_numbered]
    rfl
  · rw [lower, String.toList_ofList, Token.placeholders_render _ (isClear_clause _ p),
      places_clause, params_eq_values]

theorem Query.isBuilt (table : String) (c : Compiled) : (build table c).IsBuilt table c := by
  have hparams := whereParams_eq c
  refine ⟨count_text table c, hparams, placeholders_count table c, ?_, rfl, ?_⟩
  · change _ = _ ++ String.ofList (placeholder ((whereParams c).length + 1)) ++ _ ++
      String.ofList (placeholder ((whereParams c).length + 2))
    rw [hparams]
    exact select_text table c
  · rw [placeholders_select]
    change _ = (List.range' 1 (whereParams c ++ [_, _]).length).map placeholder
    rw [List.length_append]
    rfl

/-- A condition has one place for each value of its predicate, numbered from left to right on from
the parameters before it, and binds the values in that order. Its text does not depend on them. The
statements of a search share their condition and its parameters, to which that for a page adds its
size and its offset, or the largest integer of 64 bits for an offset beyond that. -/
theorem values_bind_in_order :
    (∀ (f : Fragment) (p : Predicate), f.IsLowered p (f.lower p).1 (f.lower p).2) ∧
      (∀ (f g : Fragment) (p q : Predicate), f.params.length = g.params.length →
        p.withoutValues = q.withoutValues → (f.lower p).1 = (g.lower q).1) ∧
      ∀ (table : String) (c : Compiled), (Query.build table c).IsBuilt table c := by
  refine ⟨Fragment.isLowered, ?_, Query.isBuilt⟩
  intro f g p q hlength hvalues
  -- Both conditions are that of the one predicate without values.
  rw [Fragment.lower, Fragment.lower, hlength, ← clause_withoutValues, hvalues,
    clause_withoutValues]

def namedCounts (name : String) (counts : List Int32) : Predicate :=
  .and [.compare "name" .equal (.text name),
    .oneOf "count" (counts.map fun n => .number (.int n))]

/-- A text with a quote is bound and not written. -/
theorem values_bind_in_order_quote :
    ((Fragment.mk "" []).lower (namedCounts "' OR 1 = 1 --" [1, 2])).1 =
        ((Fragment.mk "" []).lower (namedCounts "a" [3, 4])).1 ∧
      ((Fragment.mk "" []).lower (namedCounts "a" [3, 4])).1 =
        "(\"name\" = ?1) AND (\"count\" IN (?2, ?3))" := by
  have hsame := values_bind_in_order.2.1 ⟨"", []⟩ ⟨"", []⟩ (namedCounts "' OR 1 = 1 --" [1, 2])
    (namedCounts "a" [3, 4]) rfl rfl
  exact ⟨hsame, by decide⟩

/-- The offset of the last page of the largest size is not bound as it is. -/
theorem build_offset_ne :
    (Query.build "t" ⟨none, [], ⟨4294967295, 4294967295⟩, []⟩).select.params =
        [.integer 4294967295, .integer 9223372036854775807] ∧
      PageRequest.offset ⟨4294967295, 4294967295⟩ = 18446744065119617025 := by
  decide

end Sql

end CriteriaSearch
