import CriteriaSearch.Proofs.Evaluation
import CriteriaSearch.Proofs.Sql.Conditions.Tests
import CriteriaSearch.Proofs.Sql.Lexing

/-!
# Placeholders

The places for parameters as they are found in the text of a statement, where names between double
quotes may hold anything. A condition numbers its places in the order in which its values would
stand in them, and its parameters are those values in that order.
-/

namespace CriteriaSearch.Sql

/-- The placeholders of a text from left to right, none of which stands between double quotes. -/
def placeholders : Bool → List Char → List (List Char)
  | _, [] => []
  | quoted, c :: cs =>
    if c = '"' then placeholders (!quoted) cs
    else if c = '?' ∧ quoted = false then (c :: cs.takeWhile isDigit) :: placeholders quoted cs
    else placeholders quoted cs

def isPlain (c : Char) : Bool := c != '"' && c != '?'

theorem placeholders_plain (quoted : Bool) (cs rest : List Char) (h : cs.all isPlain = true) :
    placeholders quoted (cs ++ rest) = placeholders quoted rest := by
  induction cs with
  | nil => rfl
  | cons c cs ih =>
    simp only [List.all_cons, isPlain, Bool.and_eq_true, bne_iff_ne] at h
    rw [List.cons_append, placeholders, if_neg h.1.1, if_neg fun hc => h.1.2 hc.1]
    exact ih (by simpa only [isPlain] using h.2)

/-- A quote in a name is written twice, so that what follows it is between quotes again. -/
theorem placeholders_enclose (s : String) (rest : List Char) :
    placeholders false (enclose '"' s ++ rest) = placeholders false rest := by
  have hinside (cs : List Char) :
      placeholders true
        (cs.flatMap (fun c => if c = '"' then ['"', '"'] else [c]) ++ '"' :: rest) =
        placeholders false rest := by
    induction cs with
    | nil => rfl
    | cons c cs ih =>
      rw [List.flatMap_cons, List.append_assoc, ← ih]
      by_cases hc : c = '"'
      · -- The first of the two quotes leaves the name and the second one enters it again.
        rw [if_pos hc]
        rfl
      · rw [if_neg hc, List.singleton_append, placeholders, if_neg hc,
          if_neg fun h => Bool.noConfusion h.2]
  rw [enclose, List.append_assoc, List.cons_append, List.singleton_append, placeholders, if_pos rfl]
  exact hinside s.toList

def placeholder (n : Nat) : List Char := (Token.param n).chars

theorem isPlain_of_isDigit (cs : List Char) (h : cs.all isDigit = true) :
    cs.all isPlain = true := by
  rw [List.all_eq_true] at h ⊢
  intro c hc
  have hbounds := digit_bounds c (h c hc)
  have hquote : c ≠ '"' := by
    rintro rfl
    exact absurd hbounds (by decide)
  have hmark : c ≠ '?' := by
    rintro rfl
    exact absurd hbounds (by decide)
  rw [isPlain, bne_iff_ne.mpr hquote, bne_iff_ne.mpr hmark]
  rfl

theorem placeholders_param (n : Nat) (rest : List Char) (h : Seam rest) :
    placeholders false (placeholder n ++ rest) = placeholder n :: placeholders false rest := by
  have hdigits := all_isDigit_toDigits n
  change placeholders false ('?' :: (Nat.toDigits 10 n ++ rest)) = _
  rw [placeholders, if_neg (by decide), if_pos ⟨rfl, rfl⟩,
    (run_append_seam isDigit _ rest hdigits h (by decide)).1,
    placeholders_plain false _ rest (isPlain_of_isDigit _ hdigits)]
  rfl

namespace Token

def isFixed : Token → Bool
  | .quoted _ => true
  | .param _ => false
  | t => t.chars.all isPlain

def place? : Token → Option Nat
  | .param n => some n
  | _ => none

def isClear (t : Token) : Bool := t.place?.isSome || t.isFixed

theorem isClear_of_isFixed (ts : List Token) (h : ts.all isFixed = true) :
    ts.all isClear = true := by
  rw [List.all_eq_true] at h ⊢
  intro t ht
  rw [isClear, h t ht, Bool.or_true]

theorem places_of_isFixed (ts : List Token) (h : ts.all isFixed = true) :
    ts.filterMap place? = [] := by
  rw [List.filterMap_eq_nil_iff]
  intro t ht
  have hfixed := List.all_eq_true.mp h t ht
  cases t <;> first | rfl | cases hfixed

theorem placeholders_chars (t : Token) (ht : t.isClear = true) (rest : List Char)
    (h : t = .symbol "(" ∨ Seam rest) :
    placeholders false (t.chars ++ rest) =
      (t.place?.map placeholder).toList ++ placeholders false rest := by
  cases t with
  | quoted s => exact placeholders_enclose s rest
  | param n => exact placeholders_param n rest (h.resolve_left nofun)
  | _ => exact placeholders_plain false _ rest ht

theorem placeholders_renderAfter (t : Token) (ts : List Token) (hts : ts.all isClear = true) :
    placeholders false (t.renderAfter ts) = (ts.filterMap place?).map placeholder := by
  induction ts generalizing t with
  | nil => rfl
  | cons u us ih =>
    rw [List.all_cons, Bool.and_eq_true] at hts
    have hblank : (if t.touches u then [] else [' ']).all isPlain = true := by
      split <;> rfl
    -- What is written after a token is no digit, so that a number ends where its token does.
    rw [renderAfter, List.append_assoc, placeholders_plain false _ _ hblank,
      placeholders_chars u hts.1 _ (seam_renderAfter u us), ih u hts.2, List.filterMap_cons]
    cases u.place? <;> rfl

theorem placeholders_render (ts : List Token) (hts : ts.all isClear = true) :
    placeholders false (render ts) = (ts.filterMap place?).map placeholder := by
  cases ts with
  | nil => rfl
  | cons u us =>
    rw [List.all_cons, Bool.and_eq_true] at hts
    rw [render, placeholders_chars u hts.1 _ (seam_renderAfter u us),
      placeholders_renderAfter u us hts.2, List.filterMap_cons]
    cases u.place? <;> rfl

end Token

/-- A piece of a condition in which values stand in place of their numbers. -/
inductive Piece where
  | token (t : Token)
  | value (p : Param)

namespace Piece

def isFixed : Piece → Bool
  | .token t => t.isFixed
  | .value _ => true

def parens (ps : List Piece) : List Piece :=
  .token (.symbol "(") :: ps ++ [.token (.symbol ")")]

/-- The tokens of pieces, where the values are numbered after the first `k`. -/
def numbered (k : Nat) : List Piece → List Token
  | [] => []
  | .token t :: ps => t :: numbered k ps
  | .value _ :: ps => .param (k + 1) :: numbered (k + 1) ps

def values : List Piece → List Param
  | [] => []
  | .token _ :: ps => values ps
  | .value v :: ps => v :: values ps

theorem values_append (ps qs : List Piece) : values (ps ++ qs) = values ps ++ values qs := by
  induction ps with
  | nil => rfl
  | cons p ps ih =>
    cases p with
    | token t => exact ih
    | value v => exact congrArg (v :: ·) ih

theorem values_tokens (ts : List Token) : values (ts.map .token) = [] := by
  induction ts with
  | nil => rfl
  | cons t ts ih => exact ih

theorem values_parens (ps : List Piece) : values (parens ps) = values ps := by
  change values (ps ++ [.token (.symbol ")")]) = _
  rw [values_append]
  exact List.append_nil _

theorem numbered_append (k : Nat) (ps qs : List Piece) :
    numbered k (ps ++ qs) = numbered k ps ++ numbered (k + (values ps).length) qs := by
  induction ps generalizing k with
  | nil => rfl
  | cons p ps ih =>
    cases p with
    | token t => exact congrArg (t :: ·) (ih k)
    | value v =>
      rw [List.cons_append, numbered, ih, numbered, values, List.length_cons, Nat.add_right_comm,
        Nat.add_assoc k]
      rfl

theorem numbered_tokens (k : Nat) (ts : List Token) : numbered k (ts.map .token) = ts := by
  induction ts with
  | nil => rfl
  | cons t ts ih => exact congrArg (t :: ·) ih

theorem numbered_parens (k : Nat) (ps : List Piece) :
    numbered k (parens ps) = Token.parens (numbered k ps) := by
  change .symbol "(" :: numbered k (ps ++ [.token (.symbol ")")]) = _
  rw [numbered_append]
  rfl

theorem isFixed_tokens (ts : List Token) :
    (ts.map Piece.token).all isFixed = ts.all Token.isFixed := by
  rw [List.all_map]
  rfl

theorem isFixed_parens (ps : List Piece) : (parens ps).all isFixed = ps.all isFixed := by
  change (true && (ps ++ [Piece.token (.symbol ")")]).all isFixed) = _
  rw [List.all_append, Bool.true_and]
  exact Bool.and_true _

/-- The places among numbered pieces are numbered on from the first `k`, one for each value. -/
theorem places_numbered (k : Nat) (ps : List Piece) (hps : ps.all isFixed = true) :
    (numbered k ps).filterMap Token.place? = List.range' (k + 1) (values ps).length := by
  induction ps generalizing k with
  | nil => rfl
  | cons p ps ih =>
    rw [List.all_cons, Bool.and_eq_true] at hps
    cases p with
    | token t =>
      have hnone : t.place? = none := by
        cases t <;> first | rfl | cases hps.1
      rw [numbered, List.filterMap_cons, hnone, values]
      exact ih k hps.2
    | value v =>
      rw [numbered, List.filterMap_cons, values, List.length_cons, List.range'_succ, ← ih _ hps.2]
      rfl

theorem isClear_numbered (k : Nat) (ps : List Piece) (hps : ps.all isFixed = true) :
    (numbered k ps).all Token.isClear = true := by
  induction ps generalizing k with
  | nil => rfl
  | cons p ps ih =>
    rw [List.all_cons, Bool.and_eq_true] at hps
    cases p with
    | token t =>
      rw [numbered, List.all_cons, ih k hps.2, Bool.and_true, Token.isClear, Bool.or_eq_true]
      exact .inr hps.1
    | value v => exact ih (k + 1) hps.2

end Piece

def listedPieces : List FieldValue → List Piece
  | [] => []
  | [v] => [.value (.ofValue v)]
  | v :: vs => .value (.ofValue v) :: .token (.symbol ",") :: listedPieces vs

mutual

def pieces : Predicate → List Piece
  | .and [] => trueTokens.map .token
  | .and (p :: ps) => Piece.parens (pieces p) ++ piecesRest "AND" ps
  | .or [] => falseTokens.map .token
  | .or (p :: ps) => Piece.parens (pieces p) ++ piecesRest "OR" ps
  | .not part => .token (.keyword "NOT") :: Piece.parens (pieces part)
  | .compare field c value =>
    (fieldTokens field value).map .token ++
      [.token (.symbol (comparisonSign c)), .value (.ofValue value)]
  | .range field lower upper =>
    (fieldTokens field lower).map .token ++
      [.token (.keyword "BETWEEN"), .value (.ofValue lower), .token (.keyword "AND"),
        .value (.ofValue upper)]
  | .oneOf _ [] => falseTokens.map .token
  | .oneOf field (v :: vs) =>
    (fieldTokens field v).map .token ++
      .token (.keyword "IN") :: Piece.parens (listedPieces (v :: vs))
  | .textMatch field mode text =>
    [.name "unicode_upper", .symbol "(", .quoted field, .symbol ")", .keyword "LIKE"].map .token ++
      [.value (.pattern mode text), .token (.keyword "ESCAPE"), .token (.text "\\")]
  | .isNull field => [.quoted field, .keyword "IS", .keyword "NULL"].map .token
  | .isNotNull field =>
    [.quoted field, .keyword "IS", .keyword "NOT", .keyword "NULL"].map .token

/-- The further conditions of a conjunction or disjunction with their values in place. -/
def piecesRest (word : String) : List Predicate → List Piece
  | [] => []
  | p :: ps => .token (.keyword word) :: Piece.parens (pieces p) ++ piecesRest word ps

end

theorem values_listedPieces (vs : List FieldValue) :
    Piece.values (listedPieces vs) = vs.map .ofValue := by
  induction vs with
  | nil => rfl
  | cons v vs ih =>
    cases vs with
    | nil => rfl
    | cons w vs => exact congrArg (Param.ofValue v :: ·) ih

theorem numbered_listedPieces (k : Nat) (v : FieldValue) (vs : List FieldValue) :
    Piece.numbered k (listedPieces (v :: vs)) = paramTokens k (vs.length + 1) := by
  induction vs generalizing k v with
  | nil => rfl
  | cons w vs ih =>
    rw [List.length_cons, paramTokens_succ, ← ih (k + 1) w]
    rfl

theorem values_piecesRest (word : String) (ps : List Predicate)
    (hps : ∀ p ∈ ps, params p = Piece.values (pieces p)) :
    paramsOfAll ps = Piece.values (piecesRest word ps) := by
  induction ps with
  | nil => rfl
  | cons p ps ih =>
    rw [List.forall_mem_cons] at hps
    rw [paramsOfAll, piecesRest, Piece.values_append, Piece.values, Piece.values_parens, hps.1,
      ih hps.2]

/-- The parameters of a condition are the values in it, from left to right. -/
theorem params_eq_values (p : Predicate) : params p = Piece.values (pieces p) := by
  -- Conjunctions and disjunctions differ only by the word between their parts.
  have hchain (word : String) (p : Predicate) (ps : List Predicate)
      (hps : ∀ q ∈ p :: ps, params q = Piece.values (pieces q)) :
      paramsOfAll (p :: ps) = Piece.values (Piece.parens (pieces p) ++ piecesRest word ps) := by
    rw [List.forall_mem_cons] at hps
    rw [paramsOfAll, Piece.values_append, Piece.values_parens, hps.1,
      values_piecesRest word ps hps.2]
  induction p using Predicate.inductionOn with
  | and ps ih =>
    cases ps with
    | nil => rfl
    | cons p ps => exact hchain "AND" p ps ih
  | or ps ih =>
    cases ps with
    | nil => rfl
    | cons p ps => exact hchain "OR" p ps ih
  | not p ih =>
    rw [params, pieces, Piece.values, Piece.values_parens, ih]
  | compare field c v =>
    rw [pieces, Piece.values_append, Piece.values_tokens]
    rfl
  | range field v w =>
    rw [pieces, Piece.values_append, Piece.values_tokens]
    rfl
  | oneOf field vs =>
    cases vs with
    | nil => rfl
    | cons v vs =>
      rw [pieces, Piece.values_append, Piece.values_tokens, Piece.values, Piece.values_parens,
        values_listedPieces]
      rfl
  | textMatch field mode text => rfl
  | isNull field => rfl
  | isNotNull field => rfl

theorem clauseRest_eq_numbered (word : String) (ps : List Predicate)
    (hps : ∀ p ∈ ps, ∀ k, clause k p = Piece.numbered k (pieces p)) (k : Nat) :
    clauseRest word k ps = Piece.numbered k (piecesRest word ps) := by
  induction ps generalizing k with
  | nil => rfl
  | cons p ps ih =>
    rw [List.forall_mem_cons] at hps
    rw [clauseRest, piecesRest, Piece.numbered_append, Piece.numbered, Piece.numbered_parens,
      ← hps.1, ih hps.2, Piece.values, Piece.values_parens, ← params_eq_values]

/-- A condition numbers the places of its values from left to right, after the parameters before
it. -/
theorem clause_eq_numbered (p : Predicate) (k : Nat) :
    clause k p = Piece.numbered k (pieces p) := by
  have hchain (word : String) (p : Predicate) (ps : List Predicate)
      (hps : ∀ q ∈ p :: ps, ∀ k, clause k q = Piece.numbered k (pieces q)) (k : Nat) :
      Token.parens (clause k p) ++ clauseRest word (k + (params p).length) ps =
        Piece.numbered k (Piece.parens (pieces p) ++ piecesRest word ps) := by
    rw [List.forall_mem_cons] at hps
    -- The further conditions count on from the values of the first one.
    rw [Piece.numbered_append, Piece.numbered_parens, Piece.values_parens, ← hps.1,
      ← params_eq_values, clauseRest_eq_numbered word ps hps.2]
  induction p using Predicate.inductionOn generalizing k with
  | and ps ih =>
    cases ps with
    | nil => rfl
    | cons p ps => exact hchain "AND" p ps ih k
  | or ps ih =>
    cases ps with
    | nil => rfl
    | cons p ps => exact hchain "OR" p ps ih k
  | not p ih =>
    rw [clause, pieces, Piece.numbered, Piece.numbered_parens, ih]
  | compare field c v =>
    rw [pieces, Piece.numbered_append, Piece.values_tokens, Piece.numbered_tokens]
    rfl
  | range field v w =>
    rw [pieces, Piece.numbered_append, Piece.values_tokens, Piece.numbered_tokens]
    rfl
  | oneOf field vs =>
    cases vs with
    | nil => rfl
    | cons v vs =>
      rw [clause, pieces, Piece.numbered_append, Piece.values_tokens, Piece.numbered_tokens,
        Piece.numbered, Piece.numbered_parens, numbered_listedPieces]
      rfl
  | textMatch field mode text => rfl
  | isNull field => rfl
  | isNotNull field => rfl

theorem isFixed_fieldTokens (field : String) (v : FieldValue) :
    (fieldTokens field v).all Token.isFixed = true := by
  cases v <;> rfl

theorem isFixed_listedPieces (vs : List FieldValue) :
    (listedPieces vs).all Piece.isFixed = true := by
  induction vs with
  | nil => rfl
  | cons v vs ih =>
    cases vs with
    | nil => rfl
    | cons w vs => exact ih

theorem isFixed_piecesRest (word : String) (hword : (Token.keyword word).isFixed = true)
    (ps : List Predicate) (hps : ∀ p ∈ ps, (pieces p).all Piece.isFixed = true) :
    (piecesRest word ps).all Piece.isFixed = true := by
  induction ps with
  | nil => rfl
  | cons p ps ih =>
    rw [List.forall_mem_cons] at hps
    rw [piecesRest, List.all_append, List.all_cons, Piece.isFixed_parens, hps.1, ih hps.2,
      Piece.isFixed, hword]
    rfl

theorem isFixed_pieces (p : Predicate) : (pieces p).all Piece.isFixed = true := by
  -- Both connectives are chains, and a single test starts with its field.
  have hchain (word : String) (hword : (Token.keyword word).isFixed = true) (p : Predicate)
      (ps : List Predicate) (hps : ∀ q ∈ p :: ps, (pieces q).all Piece.isFixed = true) :
      (Piece.parens (pieces p) ++ piecesRest word ps).all Piece.isFixed = true := by
    rw [List.forall_mem_cons] at hps
    rw [List.all_append, Piece.isFixed_parens, hps.1, isFixed_piecesRest word hword ps hps.2]
    rfl
  have htest (field : String) (v : FieldValue) (ps : List Piece) :
      ((fieldTokens field v).map Piece.token ++ ps).all Piece.isFixed = ps.all Piece.isFixed := by
    rw [List.all_append, Piece.isFixed_tokens, isFixed_fieldTokens, Bool.true_and]
  induction p using Predicate.inductionOn with
  | and ps ih =>
    cases ps with
    | nil => rfl
    | cons p ps => exact hchain "AND" rfl p ps ih
  | or ps ih =>
    cases ps with
    | nil => rfl
    | cons p ps => exact hchain "OR" rfl p ps ih
  | not p ih =>
    rw [pieces, List.all_cons, Piece.isFixed_parens, ih]
    rfl
  | compare field c v =>
    rw [pieces, htest]
    cases c <;> rfl
  | range field v w => exact htest field v _
  | oneOf field vs =>
    cases vs with
    | nil => rfl
    | cons v vs =>
      rw [pieces, htest, List.all_cons, Piece.isFixed_parens, isFixed_listedPieces]
      rfl
  | textMatch field mode text => rfl
  | isNull field => rfl
  | isNotNull field => rfl

theorem isClear_clause (k : Nat) (p : Predicate) : (clause k p).all Token.isClear = true := by
  rw [clause_eq_numbered]
  exact Piece.isClear_numbered k _ (isFixed_pieces p)

/-- The places in a condition are numbered from left to right, after the parameters before it and as
far as it has values. -/
theorem places_clause (k : Nat) (p : Predicate) :
    (clause k p).filterMap Token.place? = List.range' (k + 1) (params p).length := by
  rw [clause_eq_numbered, Piece.places_numbered k _ (isFixed_pieces p), params_eq_values]

end CriteriaSearch.Sql
