import CriteriaSearch.Proofs.Sql.Lexing
import CriteriaSearch.Sql.Grammar

namespace CriteriaSearch.Sql

theorem bind_ok {α β ε : Type} {x : Except ε α} {a : α} (h : x = .ok a)
    (f : α → Except ε β) : x >>= f = f a := by
  rw [h]
  rfl

theorem Spells.cons_inv {ls : List Lexeme} {t : Token} {ts : List Token} (h : Spells ls (t :: ts)) :
    ∃ start rest more, ls = ⟨t, start, rest⟩ :: more ∧
      Lexeme.source ⟨t, start, rest⟩ = t.chars ∧ Spells more ts := by
  obtain ⟨htokens, hsource⟩ := h
  cases ls with
  | nil => cases htokens
  | cons l more =>
    obtain ⟨token, start, rest⟩ := l
    rw [List.map_cons, List.cons.injEq] at htokens
    obtain ⟨rfl, hmore⟩ := htokens
    exact ⟨start, rest, more, rfl, hsource _ List.mem_cons_self, hmore,
      fun l hl => hsource l (List.mem_cons_of_mem _ hl)⟩

theorem Spells.nil_inv {ls : List Lexeme} (h : Spells ls []) : ls = [] := List.map_eq_nil_iff.mp h.1

theorem Spells.append_inv {ls : List Lexeme} {ts us : List Token} (h : Spells ls (ts ++ us)) :
    ∃ as bs, ls = as ++ bs ∧ Spells as ts ∧ Spells bs us := by
  obtain ⟨htokens, hsource⟩ := h
  obtain ⟨as, bs, rfl, has, hbs⟩ := List.map_eq_append_iff.mp htokens
  exact ⟨as, bs, rfl, ⟨has, fun l hl => hsource l (List.mem_append_left bs hl)⟩,
    hbs, fun l hl => hsource l (List.mem_append_right as hl)⟩

theorem Spells.length_eq {ls : List Lexeme} {ts : List Token} (h : Spells ls ts) :
    ls.length = ts.length := by
  rw [← h.1, List.length_map]

/-- The words that are no signs and end an expression wherever they stand. -/
def endingWords : List String := ["ESCAPE", "FROM", "ORDER", "LIMIT", "OFFSET", "ASC", "DESC"]

/-- No sign that binds as strongly as the level asks for starts with the token. -/
def Token.haltsAt (level : Level) : Token → Bool
  | .symbol s => s == ")" || s == ","
  | .keyword w =>
    endingWords.contains w || (w == "AND" && 2 < level.rank) || (w == "OR" && 1 < level.rank)
  | _ => false

def halts (level : Level) : List Lexeme → Bool
  | [] => true
  | l :: _ => l.token.haltsAt level

def endsName : List Lexeme → Bool
  | [] => true
  | l :: _ => l.token != .symbol "(" && l.token != .symbol "."

theorem Token.haltsAt_symbol (level : Level) (s : String) :
    (symbol s).haltsAt level = true ↔ s = ")" ∨ s = "," := by
  simp only [haltsAt, Bool.or_eq_true, beq_iff_eq]

theorem Token.haltsAt_keyword (level : Level) (w : String) :
    (keyword w).haltsAt level = true ↔
      w ∈ endingWords ∨ (w = "AND" ∧ 2 < level.rank) ∨ (w = "OR" ∧ 1 < level.rank) := by
  simp only [haltsAt, Bool.or_eq_true, Bool.and_eq_true, beq_iff_eq, decide_eq_true_eq, or_assoc,
    List.contains_iff_mem]

theorem endsName_of_halts (level : Level) (rest : List Lexeme) (h : halts level rest = true) :
    endsName rest = true := by
  cases rest with
  | nil => rfl
  | cons l more =>
    obtain ⟨token, start, after⟩ := l
    change token.haltsAt level = true at h
    cases token with
    | symbol s =>
      rcases (Token.haltsAt_symbol level s).mp h with rfl | rfl
      · rfl
      · rfl
    | keyword w => rfl
    | _ => cases h

theorem readExpr_succ (fuel : Nat) (level : Level) (ts : List Lexeme) :
    readExpr (fuel + 1) level ts =
      (readOperand fuel ts >>= fun x => readSigns fuel level x.1 x.2) := rfl

theorem readSigns_halts (fuel : Nat) (level : Level) (a : Expr) (rest : List Lexeme)
    (ha : a.height ≤ greatestHeight) (h : halts level rest = true) :
    readSigns (fuel + 1) level a rest = .ok (a, rest) := by
  refine (if_neg (Nat.not_lt.mpr ha)).trans ?_
  cases rest with
  | nil => rfl
  | cons l more =>
    obtain ⟨token, start, after⟩ := l
    change token.haltsAt level = true at h
    cases token with
    | symbol s =>
      rcases (Token.haltsAt_symbol level s).mp h with rfl | rfl
      · rfl
      · rfl
    | keyword w =>
      rcases (Token.haltsAt_keyword level w).mp h with hw | ⟨rfl, hlevel⟩ | ⟨rfl, hlevel⟩
      · simp only [endingWords, List.mem_cons, List.not_mem_nil, or_false] at hw
        rcases hw with rfl | rfl | rfl | rfl | rfl | rfl | rfl <;> rfl
      · cases level <;> first | rfl | exact absurd hlevel (by decide)
      · cases level <;> first | rfl | exact absurd hlevel (by decide)
    | _ => cases h

theorem readExpr_operand (fuel : Nat) (level : Level) (ts rest : List Lexeme) (a : Expr)
    (h : readOperand (fuel + 1) ts = .ok (a, rest)) (ha : a.height ≤ greatestHeight)
    (hrest : halts level rest = true) : readExpr (fuel + 2) level ts = .ok (a, rest) := by
  rw [readExpr_succ, h]
  exact readSigns_halts fuel level a rest ha hrest

def Token.isEnclosed : Token → Bool
  | .quoted _ | .text _ => true
  | _ => false

theorem readOperand_quoted (fuel : Nat) (s : String) (start after : List Char)
    (rest : List Lexeme) (h : endsName rest = true) :
    readOperand (fuel + 2) (⟨.quoted s, start, after⟩ :: rest) = .ok (.quoted s, rest) := by
  change readNamed (fuel + 1) s ⟨.quoted s, start, after⟩ rest = _
  unfold readNamed
  split
  · simp [endsName] at h
  · simp [endsName] at h
  · rfl

theorem readOperand_param (fuel n : Nat) (start after : List Char) (rest : List Lexeme)
    (hpos : 0 < n) (hle : n ≤ greatestParam) :
    readOperand (fuel + 1) (⟨.param n, start, after⟩ :: rest) = .ok (.param n, rest) := by
  have hbad : (n == 0 || decide (greatestParam < n)) = false := by
    simp only [Bool.or_eq_false_iff, beq_eq_false_iff_ne, decide_eq_false_iff_not]
    omega
  refine if_neg ?_
  simp only [hbad, Bool.and_false, Bool.false_eq_true, not_false_eq_true]

theorem readOperand_text (fuel : Nat) (s : String) (start after : List Char) (rest : List Lexeme)
    (h : endsName rest = true) :
    readOperand (fuel + 1) (⟨.text s, start, after⟩ :: rest) = .ok (.literal (.text s), rest) := by
  unfold readOperand
  simp only
  split
  · simp [endsName] at h
  · rfl

theorem readList_last (fuel : Nat) (ts rest : List Lexeme) (a : Expr) (start after : List Char)
    (h : readExpr fuel .or ts = .ok (a, ⟨.symbol ")", start, after⟩ :: rest)) :
    readList (fuel + 1) ts = .ok ([a], ⟨.symbol ")", start, after⟩ :: rest) := by
  exact bind_ok h _

theorem readList_cons (fuel : Nat) (ts more rest : List Lexeme) (a : Expr) (as : List Expr)
    (start after : List Char)
    (h : readExpr fuel .or ts = .ok (a, ⟨.symbol ",", start, after⟩ :: more))
    (hmore : readList fuel more = .ok (as, rest)) :
    readList (fuel + 1) ts = .ok (a :: as, rest) := by
  refine (bind_ok h _).trans ?_
  exact bind_ok hmore _

theorem readOperand_parens (fuel : Nat) (start after start' after' : List Char)
    (ts rest : List Lexeme) (a : Expr) (hquery : startsWithKeyword ["SELECT", "VALUES"] ts = false)
    (h : readExpr fuel .or ts = .ok (a, ⟨.symbol ")", start', after'⟩ :: rest)) :
    readOperand (fuel + 2) (⟨.symbol "(", start, after⟩ :: ts) = .ok (a, rest) := by
  refine (if_neg (Bool.eq_false_iff.mp hquery)).trans ?_
  exact bind_ok (readList_last fuel ts rest a _ _ h) _

theorem readMembership_list (fuel : Nat) (a : Expr) (start after place next : List Char)
    (n : Nat) (ts : List Lexeme) (items : List Expr) (last last' : List Char)
    (rest : List Lexeme)
    (h : readList fuel (⟨.param n, place, next⟩ :: ts) =
      .ok (items, ⟨.symbol ")", last, last'⟩ :: rest)) :
    readMembership (fuel + 1) a (⟨.symbol "(", start, after⟩ :: ⟨.param n, place, next⟩ :: ts) =
      .ok (.inList a items, rest) := by
  exact bind_ok h _

theorem readOperand_call (fuel : Nat) (w : String) (start after start' after' : List Char)
    (first : Token) (hfirst : first.isEnclosed = true) (place next : List Char) (ts : List Lexeme)
    (arguments : List Expr) (last last' : List Char) (rest : List Lexeme)
    (h : readList fuel (⟨first, place, next⟩ :: ts) =
      .ok (arguments, ⟨.symbol ")", last, last'⟩ :: rest)) :
    readOperand (fuel + 3) (⟨.name w, start, after⟩ :: ⟨.symbol "(", start', after'⟩ ::
        ⟨first, place, next⟩ :: ts) =
      .ok (.call w false arguments start, rest) := by
  have harguments : readArguments (fuel + 1) (⟨first, place, next⟩ :: ts) =
      .ok ((false, arguments), rest) := by
    cases first with
    | quoted s =>
      exact bind_ok h _
    | text s =>
      exact bind_ok h _
    | _ => cases hfirst
  exact bind_ok harguments _

theorem halts_mono (level other : Level) (h : level.rank ≤ other.rank) (rest : List Lexeme)
    (hrest : halts level rest = true) : halts other rest = true := by
  cases rest with
  | nil => rfl
  | cons l more =>
    obtain ⟨token, start, after⟩ := l
    change token.haltsAt level = true at hrest
    change token.haltsAt other = true
    cases token with
    | symbol s => exact hrest
    | keyword w =>
      rw [Token.haltsAt_keyword] at hrest ⊢
      rcases hrest with hw | ⟨hw, hlevel⟩ | ⟨hw, hlevel⟩
      · exact .inl hw
      · exact .inr (.inl ⟨hw, Nat.lt_of_lt_of_le hlevel h⟩)
      · exact .inr (.inr ⟨hw, Nat.lt_of_lt_of_le hlevel h⟩)
    | _ => cases hrest

theorem readSigns_symbol (fuel : Nat) (level : Level) (a : Expr) (s : String)
    (start after : List Char) (rest : List Lexeme) (sign : Infix)
    (hsign : Infix.ofToken? (.symbol s) = some sign) (ha : a.height ≤ greatestHeight)
    (hlevel : level.rank ≤ sign.level.rank) :
    readSigns (fuel + 1) level a (⟨.symbol s, start, after⟩ :: rest) =
      (readAbove fuel sign.level rest >>= fun x =>
        readSigns fuel level (sign.make a x.1) x.2) := by
  refine (if_neg (Nat.not_lt.mpr ha)).trans ?_
  simp only [hsign, hlevel, decide_true, ↓reduceIte]

theorem readSigns_word (fuel : Nat) (level : Level) (a : Expr) (w : String)
    (start after : List Char) (rest : List Lexeme) (sign : Infix)
    (hsign : Infix.ofToken? (.keyword w) = some sign) (ha : a.height ≤ greatestHeight)
    (hlevel : level.rank ≤ sign.level.rank) :
    readSigns (fuel + 1) level a (⟨.keyword w, start, after⟩ :: rest) =
      (readAbove fuel sign.level rest >>= fun x =>
        readSigns fuel level (sign.make a x.1) x.2) := by
  have hw : w = "OR" ∨ w = "AND" := by
    unfold Infix.ofToken? at hsign
    split at hsign <;> first | (cases hsign; done) | simp_all
  refine (if_neg (Nat.not_lt.mpr ha)).trans ?_
  rcases hw with rfl | rfl
  · cases hsign
    exact if_pos (decide_eq_true hlevel)
  · cases hsign
    exact if_pos (decide_eq_true hlevel)

theorem readSigns_test (fuel : Nat) (level : Level) (a : Expr) (w : String)
    (start after : List Char) (rest : List Lexeme) (hw : w ∈ ["BETWEEN", "IN", "LIKE"])
    (ha : a.height ≤ greatestHeight) (hlevel : level.rank ≤ 4) :
    readSigns (fuel + 1) level a (⟨.keyword w, start, after⟩ :: rest) =
      (readTest fuel false a (⟨.keyword w, start, after⟩ :: rest) >>= fun x =>
        readSigns fuel level x.1 x.2) := by
  have hequality : decide (level.rank ≤ Level.equality.rank) = true := decide_eq_true hlevel
  refine (if_neg (Nat.not_lt.mpr ha)).trans ?_
  simp only [List.mem_cons, List.not_mem_nil, or_false] at hw
  rcases hw with rfl | rfl | rfl
  · exact if_pos hequality
  · exact if_pos hequality
  · exact if_pos hequality

theorem readSigns_is (fuel : Nat) (level : Level) (a : Expr) (start after : List Char)
    (rest : List Lexeme) (ha : a.height ≤ greatestHeight) (hlevel : level.rank ≤ 4) :
    readSigns (fuel + 1) level a (⟨.keyword "IS", start, after⟩ :: rest) =
      (readIdentity fuel a rest >>= fun x => readSigns fuel level x.1 x.2) := by
  refine (if_neg (Nat.not_lt.mpr ha)).trans ?_
  exact if_pos (decide_eq_true hlevel)

theorem readAbove_operand (fuel : Nat) (level : Level) (ts rest : List Lexeme) (a : Expr)
    (hlevel : level ≠ .collate) (h : readOperand (fuel + 1) ts = .ok (a, rest))
    (ha : a.height ≤ greatestHeight)
    (hrest : ∀ other : Level, level.rank < other.rank → halts other rest = true) :
    readAbove (fuel + 3) level ts = .ok (a, rest) := by
  have hread (other : Level) (hother : level.rank < other.rank) :
      readExpr (fuel + 2) other ts = .ok (a, rest) :=
    readExpr_operand fuel other ts rest a h ha (hrest other hother)
  cases level with
  | collate => exact absurd rfl hlevel
  | or => exact hread .and (by decide)
  | and => exact hread .not (by decide)
  | not => exact hread .equality (by decide)
  | equality => exact hread .order (by decide)
  | order => exact hread .bits (by decide)
  | bits => exact hread .sum (by decide)
  | sum => exact hread .product (by decide)
  | product => exact hread .concat (by decide)
  | concat => exact hread .collate (by decide)

theorem halts_above (level : Level) (rest : List Lexeme) (h : halts .or rest = true) :
    ∀ other : Level, level.rank < other.rank → halts other rest = true :=
  fun other _ => halts_mono .or other (by cases other <;> decide) rest h

theorem one_le_greatestHeight : 1 ≤ greatestHeight := by decide

theorem readAbove_param (fuel : Nat) (level : Level) (hlevel : level ≠ .collate) (n : Nat)
    (start after : List Char) (rest : List Lexeme) (hpos : 0 < n) (hn : n ≤ greatestParam)
    (hrest : ∀ other : Level, level.rank < other.rank → halts other rest = true) :
    readAbove (fuel + 3) level (⟨.param n, start, after⟩ :: rest) = .ok (.param n, rest) :=
  readAbove_operand fuel level _ rest _ hlevel
    (readOperand_param fuel n start after rest hpos hn) one_le_greatestHeight hrest

theorem readAbove_null (fuel : Nat) (start after : List Char) (rest : List Lexeme)
    (hrest : halts .or rest = true) :
    readAbove (fuel + 3) .equality (⟨.keyword "NULL", start, after⟩ :: rest) =
      .ok (.literal .null, rest) := by
  have hoperand : readOperand (fuel + 1) (⟨.keyword "NULL", start, after⟩ :: rest) =
      .ok (.literal .null, rest) := rfl
  exact readAbove_operand fuel .equality _ rest _ (by decide) hoperand one_le_greatestHeight
    (halts_above .equality rest hrest)

theorem readTest_between (fuel : Nat) (a lower upper : Expr) (start after start' after' : List Char)
    (ts more rest : List Lexeme)
    (hlower : readExpr (fuel + 1) .not ts = .ok (lower, ⟨.keyword "AND", start', after'⟩ :: more))
    (hupper : readAbove (fuel + 1) .equality more = .ok (upper, rest)) :
    readTest (fuel + 2) false a (⟨.keyword "BETWEEN", start, after⟩ :: ts) =
      .ok (.between a lower upper, rest) := by
  have halternatives : readAlternatives (fuel + 1) lower
      (⟨.keyword "AND", start', after'⟩ :: more) =
        .ok (lower, ⟨.keyword "AND", start', after'⟩ :: more) := rfl
  have hexpect : expect (.keyword "AND") (⟨.keyword "AND", start', after'⟩ :: more) =
      .ok more := by
    rw [expect, if_pos rfl]
  refine (bind_ok hlower _).trans ?_
  refine (bind_ok halternatives _).trans ?_
  refine (bind_ok hexpect _).trans ?_
  exact bind_ok hupper _

theorem readTest_in (fuel : Nat) (a e : Expr) (start after : List Char) (ts rest : List Lexeme)
    (h : readMembership fuel a ts = .ok (e, rest)) :
    readTest (fuel + 1) false a (⟨.keyword "IN", start, after⟩ :: ts) = .ok (e, rest) := by
  exact bind_ok h _

theorem readTest_like (fuel : Nat) (a pattern escape : Expr)
    (start after start' after' : List Char) (ts more rest : List Lexeme)
    (hpattern : readAbove fuel .equality ts =
      .ok (pattern, ⟨.keyword "ESCAPE", start', after'⟩ :: more))
    (hescape : readAbove fuel .equality more = .ok (escape, rest)) :
    readTest (fuel + 1) false a (⟨.keyword "LIKE", start, after⟩ :: ts) =
      .ok (.like a pattern escape, rest) := by
  refine (bind_ok hpattern _).trans ?_
  exact bind_ok hescape _

theorem readIdentity_null (fuel : Nat) (a : Expr) (start after : List Char) (rest : List Lexeme)
    (hrest : halts .or rest = true) :
    readIdentity (fuel + 4) a (⟨.keyword "NULL", start, after⟩ :: rest) =
      .ok (.isNull a, rest) := by
  have hmake : Expr.identical a (.literal .null) = .isNull a := by
    cases a <;> rfl
  rw [← hmake]
  exact bind_ok (readAbove_null fuel start after rest hrest) _

theorem readIdentity_notNull (fuel : Nat) (a : Expr) (start after start' after' : List Char)
    (rest : List Lexeme) (hrest : halts .or rest = true) :
    readIdentity (fuel + 4) a
        (⟨.keyword "NOT", start, after⟩ :: ⟨.keyword "NULL", start', after'⟩ :: rest) =
      .ok (.not (.isNull a), rest) := by
  have hmake : Expr.identical a (.literal .null) = .isNull a := by
    cases a <;> rfl
  rw [← hmake]
  exact bind_ok (readAbove_null fuel start' after' rest hrest) _

end CriteriaSearch.Sql
