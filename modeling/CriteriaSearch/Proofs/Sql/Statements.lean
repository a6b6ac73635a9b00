import CriteriaSearch.Proofs.Sql.Conditions.Texts
import CriteriaSearch.Sql.Execution

namespace CriteriaSearch.Sql

def StartsWith (words : List String) (ls : List Lexeme) : Prop :=
  ls = [] ∨ ∃ w start after more, ls = ⟨.keyword w, start, after⟩ :: more ∧ w ∈ words

theorem StartsWith.mono {words others : List String} {ls : List Lexeme} (h : StartsWith words ls)
    (hsub : words ⊆ others) : StartsWith others ls :=
  h.imp_right fun ⟨w, start, after, more, hls, hw⟩ => ⟨w, start, after, more, hls, hsub hw⟩

theorem StartsWith.halts {ls : List Lexeme} (h : StartsWith ["ORDER", "LIMIT"] ls) :
    halts .or ls = true := by
  rcases h with rfl | ⟨w, start, after, more, rfl, hw⟩
  · rfl
  · refine (Token.haltsAt_keyword .or w).mpr (.inl ?_)
    simp only [List.mem_cons, List.not_mem_nil, or_false] at hw
    rcases hw with rfl | rfl <;> decide

theorem afterKeywords?_cons (w : String) (start after : List Char) (ls : List Lexeme) :
    afterKeywords? [w] (⟨.keyword w, start, after⟩ :: ls) = some ls := by
  rw [afterKeywords?, expectKeywords, expect, if_pos rfl]
  rfl

theorem afterKeywords?_ne (w : String) (l : Lexeme) (ls : List Lexeme) (h : l.token ≠ .keyword w) :
    afterKeywords? [w] (l :: ls) = none := by
  rw [afterKeywords?, expectKeywords, expect, if_neg h]
  rfl

theorem StartsWith.afterKeywords?_eq {words : List String} {ls : List Lexeme}
    (h : StartsWith words ls) (w : String) (hw : w ∉ words) : afterKeywords? [w] ls = none := by
  rcases h with rfl | ⟨v, start, after, more, rfl, hv⟩
  · rfl
  · apply afterKeywords?_ne
    intro heq
    cases heq
    exact hw hv

theorem readAfter_none (fuel : Nat) (word : String) (ls : List Lexeme)
    (h : afterKeywords? [word] ls = none) : readAfter (fuel + 1) word ls = .ok (none, ls) := by
  rw [readAfter, h]

theorem readAfter_some (fuel : Nat) (word : String) (start after : List Char) (ls rest : List Lexeme)
    (e : Expr) (h : readExpr fuel .or ls = .ok (e, rest)) :
    readAfter (fuel + 1) word (⟨.keyword word, start, after⟩ :: ls) = .ok (some e, rest) := by
  rw [readAfter, afterKeywords?_cons]
  exact bind_ok h _

theorem readTableName_quoted (table : String) (start after : List Char) (ls : List Lexeme)
    (h : ∀ place next more, ls ≠ ⟨.symbol ".", place, next⟩ :: more) :
    readTableName (⟨.quoted table, start, after⟩ :: ls) = .ok (⟨none, table⟩, ls) := by
  have hname : readName (⟨.quoted table, start, after⟩ :: ls) = .ok (table, ls) := rfl
  refine (bind_ok hname _).trans ?_
  dsimp only
  split
  · next place next more => exact absurd rfl (h place next more)
  · rfl

theorem readSource_table (fuel : Nat) (table : String) (start after : List Char) (ls : List Lexeme)
    (h : StartsWith ["WHERE", "ORDER", "LIMIT"] ls) :
    readSource (fuel + 1) (⟨.quoted table, start, after⟩ :: ls) =
      .ok (.table ⟨none, table⟩ none none, ls) := by
  have hname : readTableName (⟨.quoted table, start, after⟩ :: ls) = .ok (⟨none, table⟩, ls) := by
    apply readTableName_quoted
    intro place next more hdot
    rcases h with rfl | ⟨w, place', next', more', rfl, -⟩ <;> cases hdot
  refine (bind_ok hname _).trans ?_
  rcases h with rfl | ⟨w, place, next, more, rfl, hw⟩
  · rfl
  · simp only [List.mem_cons, List.not_mem_nil, or_false] at hw
    rcases hw with rfl | rfl | rfl <;> rfl

theorem readColumns_all (fuel : Nat) (start after start' after' : List Char) (ls : List Lexeme) :
    readColumns (fuel + 2)
        (⟨.symbol "*", start, after⟩ :: ⟨.keyword "FROM", start', after'⟩ :: ls) =
      .ok ([.all], ⟨.keyword "FROM", start', after'⟩ :: ls) := rfl

def countCall (place : List Char) : Expr := .call "COUNT" false [] place

theorem readColumns_count (fuel : Nat) (start₁ after₁ start₂ after₂ start₃ after₃ start₄ after₄
    start₅ after₅ : List Char) (ls : List Lexeme) :
    ∃ label, readColumns (fuel + 7) (⟨.name "COUNT", start₁, after₁⟩ ::
        ⟨.symbol "(", start₂, after₂⟩ :: ⟨.symbol "*", start₃, after₃⟩ ::
        ⟨.symbol ")", start₄, after₄⟩ :: ⟨.keyword "FROM", start₅, after₅⟩ :: ls) =
      .ok ([.value (countCall start₁) label false], ⟨.keyword "FROM", start₅, after₅⟩ :: ls) :=
  ⟨_, rfl⟩

theorem readSelection_table (fuel : Nat) (ts tail rest : List Lexeme) (columns : List ResultColumn)
    (table : String) (condition : Option Expr) (start after start' after' : List Char)
    (hdistinct : afterKeywords? ["DISTINCT"] ts = none) (hall : afterKeywords? ["ALL"] ts = none)
    (hcolumns : readColumns (fuel + 1) ts = .ok (columns,
      ⟨.keyword "FROM", start, after⟩ :: ⟨.quoted table, start', after'⟩ :: tail))
    (htail : StartsWith ["WHERE", "ORDER", "LIMIT"] tail)
    (hcondition : readAfter (fuel + 1) "WHERE" tail = .ok (condition, rest))
    (hrest : StartsWith ["ORDER", "LIMIT"] rest) :
    readSelection (fuel + 2) ts =
      .ok (⟨false, columns, .table ⟨none, table⟩ none none, condition, [], none⟩, rest) := by
  have hsource := readSource_table fuel table start' after' tail htail
  have hhaving := readAfter_none fuel "HAVING" rest (hrest.afterKeywords?_eq "HAVING" (by decide))
  have hgroup := hrest.afterKeywords?_eq "GROUP" (by decide)
  rw [readSelection, hdistinct, hall]
  refine (bind_ok hcolumns _).trans ?_
  dsimp only
  rw [afterKeywords?_cons]
  refine (bind_ok hsource _).trans ?_
  refine (bind_ok hcondition _).trans ?_
  dsimp only
  rw [hgroup]
  exact bind_ok hhaving _

/-- The key of an order that a sort asks for, in the place where it stands. -/
def sortKeyAt (s : TypedSort) (place : List Char) : OrderKey :=
  ⟨.quoted s.key, s.direction, s.direction == .ascending, place⟩

def AreKeysOf (sorts : List TypedSort) (keys : List OrderKey) : Prop :=
  List.Forall₂ (fun s key => ∃ place, key = sortKeyAt s place) sorts keys

theorem readOrderKeys_sort (s : TypedSort) (ls : List Lexeme) (h : Spells ls (sortTokens s)) :
    ∃ place,
      (∀ fuel start after more, readOrderKeys (fuel + 4)
          (ls ++ ⟨.keyword "LIMIT", start, after⟩ :: more) =
        .ok ([sortKeyAt s place], ⟨.keyword "LIMIT", start, after⟩ :: more)) ∧
      ∀ fuel start after more keys rest, readOrderKeys (fuel + 3) more = .ok (keys, rest) →
        readOrderKeys (fuel + 4) (ls ++ ⟨.symbol ",", start, after⟩ :: more) =
          .ok (sortKeyAt s place :: keys, rest) := by
  rw [sortTokens] at h
  obtain ⟨start₁, after₁, more, rfl, -, h⟩ := h.cons_inv
  -- A key ends where its direction is told.
  have hkey (fuel : Nat) (w : String) (hw : w ∈ ["ASC", "DESC"]) (start after : List Char)
      (rest : List Lexeme) :
      readExpr (fuel + 3) .or
          (⟨.quoted s.key, start₁, after₁⟩ :: ⟨.keyword w, start, after⟩ :: rest) =
        .ok (.quoted s.key, ⟨.keyword w, start, after⟩ :: rest) := by
    refine readExpr_operand (fuel + 1) .or _ _ _
      (readOperand_quoted fuel s.key start₁ after₁ _ rfl) one_le_greatestHeight ?_
    simp only [List.mem_cons, List.not_mem_nil, or_false] at hw
    rcases hw with rfl | rfl <;> rfl
  refine ⟨start₁, ?_⟩
  cases hdirection : s.direction with
  | ascending =>
    rw [hdirection] at h
    obtain ⟨start₂, after₂, more, rfl, -, h⟩ := h.cons_inv
    obtain ⟨start₃, after₃, more, rfl, -, h⟩ := h.cons_inv
    obtain ⟨start₄, after₄, more, rfl, -, h⟩ := h.cons_inv
    cases h.nil_inv
    rw [sortKeyAt, hdirection]
    constructor
    · intro fuel start after more
      exact bind_ok (hkey fuel "ASC" (by simp) start₂ after₂ _) _
    · intro fuel start after more keys rest hmore
      refine (bind_ok (hkey fuel "ASC" (by simp) start₂ after₂ _) _).trans ?_
      exact bind_ok hmore _
  | descending =>
    rw [hdirection] at h
    obtain ⟨start₂, after₂, more, rfl, -, h⟩ := h.cons_inv
    obtain ⟨start₃, after₃, more, rfl, -, h⟩ := h.cons_inv
    obtain ⟨start₄, after₄, more, rfl, -, h⟩ := h.cons_inv
    cases h.nil_inv
    rw [sortKeyAt, hdirection]
    constructor
    · intro fuel start after more
      exact bind_ok (hkey fuel "DESC" (by simp) start₂ after₂ _) _
    · intro fuel start after more keys rest hmore
      refine (bind_ok (hkey fuel "DESC" (by simp) start₂ after₂ _) _).trans ?_
      exact bind_ok hmore _

theorem readOrderKeys_sorts (s : TypedSort) (sorts : List TypedSort) (ls : List Lexeme)
    (h : Spells ls (Token.joined [.symbol ","] ((s :: sorts).map sortTokens))) :
    ∃ keys, AreKeysOf (s :: sorts) keys ∧ ∀ fuel start after more, ls.length + 4 ≤ fuel →
      readOrderKeys fuel (ls ++ ⟨.keyword "LIMIT", start, after⟩ :: more) =
        .ok (keys, ⟨.keyword "LIMIT", start, after⟩ :: more) := by
  induction sorts generalizing s ls with
  | nil =>
    obtain ⟨place, hlast, -⟩ := readOrderKeys_sort s ls h
    refine ⟨[sortKeyAt s place], .cons ⟨place, rfl⟩ .nil, ?_⟩
    intro fuel start after more hfuel
    obtain ⟨fuel, rfl⟩ : ∃ m, fuel = m + 4 := ⟨fuel - 4, by omega⟩
    exact hlast fuel start after more
  | cons t sorts ih =>
    rw [List.map_cons, List.map_cons, Token.joined] at h
    · obtain ⟨head, rest, rfl, hhead, hrest⟩ := h.append_inv
      obtain ⟨first, comma, rfl, hfirst, hcomma⟩ := hhead.append_inv
      obtain ⟨start', after', more', rfl, -, hcomma⟩ := hcomma.cons_inv
      cases hcomma.nil_inv
      obtain ⟨place, -, hcons⟩ := readOrderKeys_sort s first hfirst
      obtain ⟨keys, hkeys, hread⟩ := ih t rest hrest
      refine ⟨sortKeyAt s place :: keys, .cons ⟨place, rfl⟩ hkeys, ?_⟩
      intro fuel start after more hfuel
      simp only [List.length_append, List.length_cons, List.length_nil] at hfuel
      obtain ⟨fuel, rfl⟩ : ∃ m, fuel = m + 4 := ⟨fuel - 4, by omega⟩
      simp only [List.append_assoc, List.cons_append, List.nil_append]
      exact hcons fuel start' after' _ keys _ (hread (fuel + 3) start after more (by omega))
    · nofun

theorem startsWith_order (sorts : List TypedSort) (ls tail : List Lexeme) (ts : List Token)
    (h : Spells ls (orderTokens sorts)) (htail : Spells tail (.keyword "LIMIT" :: ts)) :
    StartsWith ["ORDER", "LIMIT"] (ls ++ tail) := by
  rw [orderTokens] at h
  split at h
  · cases h.nil_inv
    obtain ⟨start, after, more, rfl, -, -⟩ := htail.cons_inv
    exact .inr ⟨"LIMIT", start, after, more, rfl, by decide⟩
  · obtain ⟨start, after, more, rfl, -, -⟩ := h.cons_inv
    exact .inr ⟨"ORDER", start, after, more ++ tail, rfl, by decide⟩

theorem readAfter_param (fuel n : Nat) (word : String) (start after start' after' : List Char)
    (rest : List Lexeme) (hpos : 0 < n) (hn : n ≤ greatestParam) (hrest : halts .or rest = true) :
    readAfter (fuel + 3) word (⟨.keyword word, start, after⟩ :: ⟨.param n, start', after'⟩ :: rest)
      = .ok (some (.param n), rest) := by
  apply readAfter_some
  exact readExpr_operand fuel .or _ rest _ (readOperand_param fuel n start' after' rest hpos hn)
    one_le_greatestHeight hrest

theorem readPart_page (fuel k : Nat) (s : Selection) (start after : List Char)
    (ts order tail : List Lexeme) (sorts : List TypedSort)
    (hselection : readSelection fuel ts = .ok (s, order ++ tail))
    (horder : Spells order (orderTokens sorts))
    (htail : Spells tail [.keyword "LIMIT", .param (k + 1), .keyword "OFFSET", .param (k + 2)])
    (hk : k + 2 ≤ greatestParam) (hfuel : order.length + 4 ≤ fuel) :
    ∃ keys, AreKeysOf sorts keys ∧
      readPart (fuel + 1) (⟨.keyword "SELECT", start, after⟩ :: ts) =
        .ok (⟨.select s, keys, some (.param (k + 1)), some (.param (k + 2))⟩, []) := by
  obtain ⟨start₁, after₁, more, rfl, -, htail⟩ := htail.cons_inv
  obtain ⟨start₂, after₂, more, rfl, -, htail⟩ := htail.cons_inv
  obtain ⟨start₃, after₃, more, rfl, -, htail⟩ := htail.cons_inv
  obtain ⟨start₄, after₄, more, rfl, -, htail⟩ := htail.cons_inv
  cases htail.nil_inv
  obtain ⟨fuel, rfl⟩ : ∃ m, fuel = m + 3 := ⟨fuel - 3, by omega⟩
  -- The window is read in the same way with and without an order before it.
  have hlimit := readAfter_param fuel (k + 1) "LIMIT" start₁ after₁ start₂ after₂
    [⟨.keyword "OFFSET", start₃, after₃⟩, ⟨.param (k + 2), start₄, after₄⟩] (Nat.succ_pos k)
    (by omega) rfl
  have hoffset := readAfter_param fuel (k + 2) "OFFSET" start₃ after₃ start₄ after₄ []
    (Nat.succ_pos _) hk rfl
  cases sorts with
  | nil =>
    cases horder.nil_inv
    refine ⟨[], .nil, ?_⟩
    refine (bind_ok hselection _).trans ?_
    refine (bind_ok hlimit _).trans ?_
    exact bind_ok hoffset _
  | cons s' sorts =>
    rw [orderTokens, if_neg (List.cons_ne_nil s' sorts)] at horder
    obtain ⟨start₅, after₅, more, rfl, -, horder⟩ := horder.cons_inv
    obtain ⟨start₆, after₆, inner, rfl, -, horder⟩ := horder.cons_inv
    obtain ⟨keys, hkeys, hread⟩ := readOrderKeys_sorts s' sorts inner horder
    simp only [List.length_cons] at hfuel
    refine ⟨keys, hkeys, ?_⟩
    refine (bind_ok hselection _).trans ?_
    refine (bind_ok (hread (fuel + 3) start₁ after₁ _ (by omega)) _).trans ?_
    refine (bind_ok hlimit _).trans ?_
    exact bind_ok hoffset _

/-- A query that is all of a text is read with as many calls as the text may need. -/
theorem readFirst_part (state : TableName → Lexeme → Lexeme → Statement.NameState) (fuel : Nat)
    (start after : List Char) (ts : List Lexeme) (q : SelectQuery)
    (hfuel : readingDepth (⟨.keyword "SELECT", start, after⟩ :: ts) = fuel + 2)
    (h : readPart (fuel + 1) (⟨.keyword "SELECT", start, after⟩ :: ts) = .ok (q, [])) :
    Statement.readFirst state (⟨.keyword "SELECT", start, after⟩ :: ts) =
      .ok (some (.query q), []) := by
  have hquery : SelectQuery.ofLexemes (⟨.keyword "SELECT", start, after⟩ :: ts) = .ok (q, []) := by
    rw [SelectQuery.ofLexemes, hfuel]
    exact bind_ok h _
  have hstatement : Statement.readStatement state (⟨.keyword "SELECT", start, after⟩ :: ts) =
      .ok (.query q, []) := bind_ok hquery _
  exact bind_ok hstatement _

theorem exists_readingDepth (ls : List Lexeme) : ∃ fuel, readingDepth ls = fuel + 10 :=
  ⟨readingDepth ls - 10, by rw [readingDepth]; omega⟩

theorem Token.isReadable_joined (groups : List (List Token))
    (h : ∀ group ∈ groups, ∀ t ∈ group, t.isReadable = true) :
    ∀ t ∈ joined [.symbol ","] groups, t.isReadable = true := by
  induction groups with
  | nil => exact nofun
  | cons group groups ih =>
    rw [List.forall_mem_cons] at h
    cases groups with
    | nil => exact h.1
    | cons next groups =>
      rw [joined]
      · simp only [List.forall_mem_append, List.forall_mem_cons, List.not_mem_nil, false_implies,
          implies_true, and_true]
        exact ⟨⟨h.1, by decide⟩, ih h.2⟩
      · nofun

def statementWords : List String :=
  ["SELECT", "FROM", "WHERE", "ORDER", "BY", "ASC", "DESC", "NULLS", "FIRST", "LAST", "LIMIT",
    "OFFSET"]

theorem isReadable_statementWord (w : String) (h : w ∈ statementWords) :
    (Token.keyword w).isReadable = true := by
  have hall : ∀ w ∈ statementWords, (Token.keyword w).isReadable = true := by decide +kernel
  exact hall w h

/-- Compiled criteria that statements on a table can hold: no name ends a text, and the condition is
neither too high nor has too many parameters. -/
structure Writable (table : String) (c : Compiled) : Prop where
  table : table.toList.all isVisible = true
  fields : ∀ p, c.predicate = some p → namesAreVisible p
  keys : ∀ s ∈ c.sorts, s.key.toList.all isVisible = true
  height : ∀ p, c.predicate = some p → clauseHeight p ≤ greatestHeight
  params : (Query.whereParams c).length + 2 ≤ greatestParam

/-- The expression is that of the condition of compiled criteria, if they have one. -/
def IsConditionOf (c : Compiled) (condition : Option Expr) : Prop :=
  Option.Rel (fun e p => Denotes e 0 p) condition c.predicate

def tableSelection (table : String) (columns : List ResultColumn) (condition : Option Expr) :
    Selection :=
  ⟨false, columns, .table ⟨none, table⟩ none none, condition, [], none⟩

/-- The query for the rows of a page, whose bounds are the parameters after the first `k`. -/
def pageQuery (table : String) (condition : Option Expr) (keys : List OrderKey) (k : Nat) :
    SelectQuery :=
  ⟨.select (tableSelection table [.all] condition), keys, some (.param (k + 1)),
    some (.param (k + 2))⟩

def totalQuery (table : String) (condition : Option Expr) (place : List Char) (label : String) :
    SelectQuery :=
  ⟨.select (tableSelection table [.value (countCall place) label false] condition), [], none, none⟩

section Statements

variable (table : String) (c : Compiled) (hwritable : Writable table c)
include hwritable

theorem isReadable_whereTokens : ∀ t ∈ Query.whereTokens c, t.isReadable = true := by
  rw [Query.whereTokens]
  cases hp : c.predicate with
  | none => exact nofun
  | some p =>
    rw [List.forall_mem_cons]
    exact ⟨isReadable_statementWord "WHERE" (by decide),
      isReadable_clause p (hwritable.fields p hp) 0⟩

theorem readAfter_where (ls : List Lexeme) (h : Spells ls (Query.whereTokens c)) :
    ∃ condition, IsConditionOf c condition ∧
      ∀ fuel rest, 24 * ls.length ≤ fuel → StartsWith ["ORDER", "LIMIT"] rest →
        StartsWith ["WHERE", "ORDER", "LIMIT"] (ls ++ rest) ∧
          readAfter (fuel + 1) "WHERE" (ls ++ rest) = .ok (condition, rest) := by
  rw [Query.whereTokens] at h
  have hparams := hwritable.params
  rw [Query.whereParams] at hparams
  unfold IsConditionOf
  cases hp : c.predicate with
  | none =>
    rw [hp] at h
    cases h.nil_inv
    refine ⟨none, .none, ?_⟩
    intro fuel rest _ hrest
    exact ⟨hrest.mono (by decide),
      readAfter_none fuel "WHERE" rest (hrest.afterKeywords?_eq "WHERE" (by decide))⟩
  | some p =>
    rw [hp] at h hparams
    dsimp only at hparams
    obtain ⟨start, after, inner, rfl, -, h⟩ := h.cons_inv
    obtain ⟨e, hread, hdenotes⟩ := readable p 0 inner h (hwritable.height p hp) (by omega)
    refine ⟨some e, .some hdenotes, ?_⟩
    intro fuel rest hfuel hrest
    rw [List.length_cons] at hfuel
    exact ⟨.inr ⟨"WHERE", start, after, inner ++ rest, rfl, by decide⟩,
      readAfter_some fuel "WHERE" start after _ rest e (hread fuel rest (by omega) hrest.halts)⟩

theorem isReadable_orderTokens : ∀ t ∈ orderTokens c.sorts, t.isReadable = true := by
  have hword (w : String) (hw : w ∈ statementWords) := isReadable_statementWord w hw
  have hsort (s : TypedSort) (hs : s ∈ c.sorts) : ∀ t ∈ sortTokens s, t.isReadable = true := by
    have hkey : (Token.quoted s.key).isReadable = true := hwritable.keys s hs
    rw [sortTokens]
    cases s.direction
    · simp only [List.forall_mem_cons, List.not_mem_nil, false_implies, implies_true, and_true]
      exact ⟨hkey, hword "ASC" (by decide), hword "NULLS" (by decide), hword "FIRST" (by decide)⟩
    · simp only [List.forall_mem_cons, List.not_mem_nil, false_implies, implies_true, and_true]
      exact ⟨hkey, hword "DESC" (by decide), hword "NULLS" (by decide), hword "LAST" (by decide)⟩
  rw [orderTokens]
  split
  · exact nofun
  · rw [List.forall_mem_cons, List.forall_mem_cons]
    refine ⟨hword "ORDER" (by decide), hword "BY" (by decide), ?_⟩
    apply Token.isReadable_joined
    intro group hgroup
    obtain ⟨s, hs, rfl⟩ := List.mem_map.mp hgroup
    exact hsort s hs

theorem isReadable_selectTokens : ∀ t ∈ Query.selectTokens table c, t.isReadable = true := by
  have hparam (n : Nat) : (Token.param (n + 1)).isReadable = true := by
    simp [Token.isReadable]
  have hword (w : String) (hw : w ∈ statementWords) := isReadable_statementWord w hw
  have htable : (Token.quoted table).isReadable = true := hwritable.table
  rw [Query.selectTokens]
  simp only [List.forall_mem_append, List.forall_mem_cons, List.not_mem_nil, false_implies,
    implies_true, and_true]
  exact ⟨⟨⟨⟨hword "SELECT" (by decide), by decide, hword "FROM" (by decide), htable⟩,
    isReadable_whereTokens table c hwritable⟩, isReadable_orderTokens table c hwritable⟩,
    hword "LIMIT" (by decide), hparam _, hword "OFFSET" (by decide), hparam _⟩

theorem isReadable_countTokens : ∀ t ∈ Query.countTokens table c, t.isReadable = true := by
  have hword (w : String) (hw : w ∈ statementWords) := isReadable_statementWord w hw
  have htable : (Token.quoted table).isReadable = true := hwritable.table
  rw [Query.countTokens]
  simp only [List.forall_mem_append, List.forall_mem_cons, List.not_mem_nil, false_implies,
    implies_true, and_true]
  exact ⟨⟨hword "SELECT" (by decide), by decide +kernel, by decide, by decide, by decide,
    hword "FROM" (by decide), htable⟩, isReadable_whereTokens table c hwritable⟩

/-- The statement for a page is read as the query for its rows. -/
theorem ofChars_selectTokens (state : TableName → Lexeme → Lexeme → Statement.NameState) :
    ∃ condition keys, IsConditionOf c condition ∧ AreKeysOf c.sorts keys ∧
      Statement.ofChars state (Token.render (Query.selectTokens table c)) =
        .ok (some (.query (pageQuery table condition keys (Query.whereParams c).length)), []) := by
  have hspells := lexemes_render _ (isReadable_selectTokens table c hwritable)
  rw [Statement.ofChars]
  generalize lexemes (Token.render (Query.selectTokens table c)) = ls at hspells
  -- The lexemes are taken apart as the tokens were put together: the words, the condition, the
  -- order and the window.
  obtain ⟨start₁, after₁, more, rfl, -, hspells⟩ := hspells.cons_inv
  obtain ⟨start₂, after₂, more, rfl, -, hspells⟩ := hspells.cons_inv
  obtain ⟨start₃, after₃, more, rfl, -, hspells⟩ := hspells.cons_inv
  obtain ⟨start₄, after₄, more, rfl, -, hspells⟩ := hspells.cons_inv
  obtain ⟨clauses, tail, rfl, hclauses, htail⟩ := Spells.append_inv hspells
  obtain ⟨filter, order, rfl, hfilter, horder⟩ := Spells.append_inv hclauses
  obtain ⟨condition, hcondition, hread⟩ := readAfter_where table c hwritable filter hfilter
  simp only [List.append_assoc]
  obtain ⟨fuel, hfuel⟩ := exists_readingDepth (⟨.keyword "SELECT", start₁, after₁⟩ ::
    ⟨.symbol "*", start₂, after₂⟩ :: ⟨.keyword "FROM", start₃, after₃⟩ ::
    ⟨.quoted table, start₄, after₄⟩ :: (filter ++ (order ++ tail)))
  have hdepth := hfuel
  rw [readingDepth] at hdepth
  simp only [List.length_cons, List.length_append] at hdepth
  have hend := startsWith_order c.sorts order tail _ horder htail
  obtain ⟨hstarts, hafter⟩ := hread (fuel + 6) (order ++ tail) (by omega) hend
  have hselection := readSelection_table (fuel + 6) _ _ _ [.all] table condition start₃ after₃
    start₄ after₄ rfl rfl (readColumns_all (fuel + 5) start₂ after₂ start₃ after₃ _) hstarts hafter
    hend
  obtain ⟨keys, hkeys, hpart⟩ := readPart_page (fuel + 8) _ _ start₁ after₁ _ order tail c.sorts
    hselection horder htail hwritable.params (by omega)
  exact ⟨condition, keys, hcondition, hkeys, readFirst_part state (fuel + 8) _ _ _ _ hfuel hpart⟩

theorem ofChars_countTokens (state : TableName → Lexeme → Lexeme → Statement.NameState) :
    ∃ condition place label, IsConditionOf c condition ∧
      Statement.ofChars state (Token.render (Query.countTokens table c)) =
        .ok (some (.query (totalQuery table condition place label)), []) := by
  have hspells := lexemes_render _ (isReadable_countTokens table c hwritable)
  rw [Statement.ofChars]
  generalize lexemes (Token.render (Query.countTokens table c)) = ls at hspells
  obtain ⟨start₁, after₁, more, rfl, -, hspells⟩ := hspells.cons_inv
  obtain ⟨start₂, after₂, more, rfl, -, hspells⟩ := hspells.cons_inv
  obtain ⟨start₃, after₃, more, rfl, -, hspells⟩ := hspells.cons_inv
  obtain ⟨start₄, after₄, more, rfl, -, hspells⟩ := hspells.cons_inv
  obtain ⟨start₅, after₅, more, rfl, -, hspells⟩ := hspells.cons_inv
  obtain ⟨start₆, after₆, more, rfl, -, hspells⟩ := hspells.cons_inv
  obtain ⟨start₇, after₇, filter, rfl, -, hfilter⟩ := hspells.cons_inv
  obtain ⟨condition, hcondition, hread⟩ := readAfter_where table c hwritable filter hfilter
  obtain ⟨fuel, hfuel⟩ := exists_readingDepth (⟨.keyword "SELECT", start₁, after₁⟩ ::
    ⟨.name "COUNT", start₂, after₂⟩ :: ⟨.symbol "(", start₃, after₃⟩ ::
    ⟨.symbol "*", start₄, after₄⟩ :: ⟨.symbol ")", start₅, after₅⟩ ::
    ⟨.keyword "FROM", start₆, after₆⟩ :: ⟨.quoted table, start₇, after₇⟩ :: filter)
  have hdepth := hfuel
  rw [readingDepth] at hdepth
  simp only [List.length_cons] at hdepth
  obtain ⟨hstarts, hafter⟩ := hread (fuel + 6) [] (by omega) (.inl rfl)
  rw [List.append_nil] at hstarts hafter
  obtain ⟨label, hcolumns⟩ := readColumns_count fuel start₂ after₂ start₃ after₃ start₄ after₄
    start₅ after₅ start₆ after₆ (⟨.quoted table, start₇, after₇⟩ :: filter)
  have hselection := readSelection_table (fuel + 6) _ _ _ _ table condition start₆ after₆ start₇
    after₇ rfl rfl hcolumns hstarts hafter (.inl rfl)
  have hpart : readPart (fuel + 9) (⟨.keyword "SELECT", start₁, after₁⟩ :: _) =
      .ok (totalQuery table condition start₂ label, []) := bind_ok hselection _
  exact ⟨condition, start₂, label, hcondition, readFirst_part state (fuel + 8) _ _ _ _ hfuel hpart⟩

end Statements

end CriteriaSearch.Sql
