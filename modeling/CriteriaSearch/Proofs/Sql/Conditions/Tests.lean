import CriteriaSearch.Proofs.Sql.Conditions

namespace CriteriaSearch.Sql

def paramExprs : Nat → Nat → List Expr
  | _, 0 => []
  | k, n + 1 => .param (k + 1) :: paramExprs (k + 1) n

theorem paramTokens_succ (k n : Nat) :
    paramTokens k (n + 2) = .param (k + 1) :: .symbol "," :: paramTokens (k + 1) (n + 1) := by
  have hshift : (fun i => [Token.param (k + i + 1)]) ∘ Nat.succ =
      fun i => [Token.param (k + 1 + i + 1)] := by
    funext i
    simp only [Function.comp_apply, Nat.succ_eq_add_one]
    congr 2
    omega
  rw [paramTokens, paramTokens, List.range_succ_eq_map, List.map_cons, List.map_map, hshift,
    List.range_succ_eq_map, List.map_cons]
  rfl

theorem length_paramTokens (n k : Nat) : (paramTokens k (n + 1)).length = 2 * n + 1 := by
  induction n generalizing k with
  | zero => rfl
  | succ n ih =>
    rw [paramTokens_succ, List.length_cons, List.length_cons, ih]
    omega

theorem paramTokens_cons (n k : Nat) : ∃ ts, paramTokens k (n + 1) = .param (k + 1) :: ts := by
  cases n with
  | zero => exact ⟨[], rfl⟩
  | succ n => exact ⟨_, paramTokens_succ k n⟩

theorem readList_params (n k fuel : Nat) (ls : List Lexeme) (start after : List Char)
    (rest : List Lexeme) (h : Spells ls (paramTokens k (n + 1)))
    (hk : k + n + 1 ≤ greatestParam) (hfuel : n + 3 ≤ fuel) :
    readList fuel (ls ++ ⟨.symbol ")", start, after⟩ :: rest) =
      .ok (paramExprs k (n + 1), ⟨.symbol ")", start, after⟩ :: rest) := by
  induction n generalizing k fuel ls with
  | zero =>
    obtain ⟨fuel, rfl⟩ := Nat.exists_eq_add_of_le hfuel
    obtain ⟨start', after', more, rfl, -, h⟩ := h.cons_inv
    cases h.nil_inv
    rw [Nat.add_comm _ fuel]
    exact readList_last (fuel + 2) _ rest _ start after
      (readExpr_operand fuel .or _ _ _ (readOperand_param fuel (k + 1) start' after' _
        (Nat.succ_pos k) (by omega)) one_le_greatestHeight rfl)
  | succ n ih =>
    obtain ⟨fuel, rfl⟩ : ∃ m, fuel = m + 3 := ⟨fuel - 3, by omega⟩
    rw [paramTokens_succ] at h
    obtain ⟨start₁, after₁, more, rfl, -, h⟩ := h.cons_inv
    obtain ⟨start₂, after₂, more, rfl, -, h⟩ := h.cons_inv
    have hmore := ih (k + 1) (fuel + 2) more h (by omega) (by omega)
    exact readList_cons (fuel + 2) _ _ _ _ _ start₂ after₂
      (readExpr_operand fuel .or _ _ _ (readOperand_param fuel (k + 1) start₁ after₁ _
        (Nat.succ_pos k) (by omega)) one_le_greatestHeight rfl) hmore

theorem length_paramExprs (k n : Nat) : (paramExprs k n).length = n := by
  induction n generalizing k with
  | zero => rfl
  | succ n ih => rw [paramExprs, List.length_cons, ih]

theorem heightOfAll_paramExprs (k n : Nat) : Expr.heightOfAll (paramExprs k n) ≤ 1 := by
  induction n generalizing k with
  | zero => exact Nat.zero_le 1
  | succ n ih =>
    change max 1 (Expr.heightOfAll (paramExprs (k + 1) n)) ≤ 1
    exact Nat.max_le.mpr ⟨Nat.le_refl 1, ih (k + 1)⟩

theorem evalList_paramExprs (scope : Scope) (cells : List Cell) (k : Nat)
    (h : cells <+: scope.params.drop k) :
    Expr.evalList scope (paramExprs k cells.length) = cells := by
  induction cells generalizing k with
  | nil => rfl
  | cons c cs ih =>
    have hrest : cs <+: scope.params.drop (k + 1) := by
      obtain ⟨more, hmore⟩ := h
      exact ⟨more, by rw [← List.drop_drop, ← hmore]; rfl⟩
    rw [List.length_cons, paramExprs, Expr.evalList, ih (k + 1) hrest, Expr.eval_param,
      scope.param_succ k c cs h]

theorem checkList_paramExprs (names : Names) (k n : Nat) :
    Expr.checkList names (paramExprs k n) = .ok () := by
  induction n generalizing k with
  | zero => rfl
  | succ n ih => exact ih (k + 1)

theorem askedNameAmong?_paramExprs (k n : Nat) :
    Expr.askedNameAmong? (paramExprs k n) = none := by
  induction n generalizing k with
  | zero => rfl
  | succ n ih => exact ih (k + 1)

theorem faultAmong?_paramExprs (scope : Scope) (k n : Nat) :
    Expr.faultAmong? scope (paramExprs k n) = none := by
  induction n generalizing k with
  | zero => rfl
  | succ n ih => exact ih (k + 1)

section Leaves

variable (k : Nat) (field : String) (ls : List Lexeme)

theorem exists_fuel (n fuel : Nat) (h : 24 * n ≤ fuel) (hn : 0 < n) : ∃ m, fuel = m + 20 :=
  ⟨fuel - 20, by omega⟩

theorem fieldHeight_succ_le (v : FieldValue) : fieldHeight v + 1 ≤ greatestHeight :=
  Nat.le_trans (Nat.succ_le_succ (fieldHeight_le v)) two_lt_greatestHeight

/-- A test one above its field is short enough to be left as it stands. -/
theorem readSigns_fieldTest (v : FieldValue) (n : Nat) (e : Expr) (rest : List Lexeme)
    (hheight : e.height = fieldHeight v + 1) (hrest : halts .or rest = true) :
    readSigns (n + 18) .or e rest = .ok (e, rest) := by
  apply readSigns_halts (n + 17) .or e rest _ hrest
  rw [hheight]
  exact fieldHeight_succ_le v

def levelOf : Comparison → Level
  | .equal | .notEqual => .equality
  | .less | .greater => .order

theorem ofToken?_comparisonSign (c : Comparison) :
    Infix.ofToken? (.symbol (comparisonSign c)) =
      some (Infix.comparison (levelOf c) (signOf c)) := by
  cases c <;> rfl

theorem reads_compare (c : Comparison) (v : FieldValue)
    (h : Spells ls (clause k (.compare field c v))) (hk : k + 1 ≤ greatestParam) :
    ∃ e, ReadAs ls e ∧ Denotes e k (.compare field c v) := by
  obtain ⟨fs, ts, rfl, hfield, h⟩ := h.append_inv
  obtain ⟨start₁, after₁, more, rfl, -, h⟩ := h.cons_inv
  obtain ⟨start₂, after₂, more, rfl, -, h⟩ := h.cons_inv
  cases h.nil_inv
  obtain ⟨place, hread⟩ := readExpr_field field v fs hfield
  have hheight : (Expr.compare (signOf c) (fieldExpr field v place) (.param (k + 1))).height =
      fieldHeight v + 1 := by
    change max (fieldExpr field v place).height 1 + 1 = _
    rw [height_fieldExpr]
    cases v <;> rfl
  -- A field is not a row of values, so that it is compared as a single one.
  have hmake : Expr.comparison (signOf c) (fieldExpr field v place) (.param (k + 1)) =
      .compare (signOf c) (fieldExpr field v place) (.param (k + 1)) := by
    cases v <;> rfl
  refine ⟨.compare (signOf c) (fieldExpr field v place) (.param (k + 1)), ?_, hheight, rfl, ?_, ?_,
    ?_⟩
  · intro fuel rest hfuel hrest
    obtain ⟨n, rfl⟩ := exists_fuel _ fuel hfuel (by simp)
    have habove := readAbove_param (n + 15) (levelOf c) (by cases c <;> decide) (k + 1) start₂
      after₂ rest (Nat.succ_pos k) hk (halts_above (levelOf c) rest hrest)
    rw [List.append_assoc, hread n _ (by cases c <;> rfl), List.cons_append, List.cons_append,
      List.nil_append, readSigns_symbol (n + 18) .or _ _ _ _ _ _ (ofToken?_comparisonSign c)
        (height_fieldExpr_le field v place) (by cases c <;> decide)]
    dsimp only [Infix.comparison]
    rw [bind_ok habove]
    dsimp only
    rw [hmake]
    exact readSigns_fieldTest v n _ rest hheight hrest
  · intro scope column hshows
    rw [Expr.truth_compare, compareBy_fieldExpr scope field v place (column field)
      (hshows.field field List.mem_cons_self), Expr.eval_param,
      scope.param_succ k _ [] hshows.params]
    rfl
  · intro names
    rw [Expr.check, check_fieldExpr]
    exact checkCollation_fieldExpr field v place [.param (k + 1)] rfl
  · intro scope column _ _
    rw [Expr.fault?, fault?_fieldExpr]
    rfl

theorem reads_range (v w : FieldValue) (h : Spells ls (clause k (.range field v w)))
    (hk : k + 2 ≤ greatestParam) : ∃ e, ReadAs ls e ∧ Denotes e k (.range field v w) := by
  obtain ⟨fs, ts, rfl, hfield, h⟩ := h.append_inv
  obtain ⟨start₁, after₁, more, rfl, -, h⟩ := h.cons_inv
  obtain ⟨start₂, after₂, more, rfl, -, h⟩ := h.cons_inv
  obtain ⟨start₃, after₃, more, rfl, -, h⟩ := h.cons_inv
  obtain ⟨start₄, after₄, more, rfl, -, h⟩ := h.cons_inv
  cases h.nil_inv
  obtain ⟨place, hread⟩ := readExpr_field field v fs hfield
  have hheight : (Expr.between (fieldExpr field v place) (.param (k + 1))
      (.param (k + 2))).height = fieldHeight v + 1 := by
    change max (fieldExpr field v place).height (max 1 1) + 1 = _
    rw [height_fieldExpr]
    cases v <;> rfl
  refine ⟨.between (fieldExpr field v place) (.param (k + 1)) (.param (k + 2)), ?_, hheight,
    rfl, ?_, ?_, ?_⟩
  · intro fuel rest hfuel hrest
    obtain ⟨n, rfl⟩ := exists_fuel _ fuel hfuel (by simp)
    -- The lower end is read up to `AND`, which does not start a sign of its strength.
    have hlower := readExpr_operand (n + 15) .not _ _ _
      (readOperand_param (n + 15) (k + 1) start₂ after₂ (⟨.keyword "AND", start₃, after₃⟩ ::
        ⟨.param (k + 2), start₄, after₄⟩ :: rest) (Nat.succ_pos k) (by omega))
      one_le_greatestHeight rfl
    have hupper := readAbove_param (n + 14) .equality (by decide) (k + 2) start₄ after₄ rest
      (Nat.succ_pos _) hk (halts_above .equality rest hrest)
    rw [List.append_assoc, hread n _ rfl, List.cons_append, List.cons_append, List.cons_append,
      List.cons_append, List.nil_append, readSigns_test (n + 18) .or _ "BETWEEN" _ _ _ (by simp)
        (height_fieldExpr_le field v place) (by decide)]
    rw [bind_ok (readTest_between (n + 16) (fieldExpr field v place) _ _ start₁ after₁ start₃
      after₃ _ _ rest hlower hupper)]
    exact readSigns_fieldTest v n _ rest hheight hrest
  · intro scope column hshows
    have hcolumn := hshows.field field List.mem_cons_self
    have hupper : [(Param.ofValue w).cell] <+: scope.params.drop (k + 1) := by
      obtain ⟨more, hmore⟩ := hshows.params
      exact ⟨more, by rw [← List.drop_drop, ← hmore]; rfl⟩
    rw [Expr.truth_between, compareBy_fieldExpr scope field v place _ hcolumn,
      compareBy_fieldExpr scope field v place _ hcolumn, Expr.eval_param, Expr.eval_param,
      scope.param_succ k _ _ hshows.params, scope.param_succ (k + 1) _ _ hupper]
    rfl
  · intro names
    rw [Expr.check, check_fieldExpr]
    exact checkCollation_fieldExpr field v place [.param (k + 1), .param (k + 2)] rfl
  · intro scope column _ _
    rw [Expr.fault?, fault?_fieldExpr]
    rfl

theorem reads_oneOf (v : FieldValue) (vs : List FieldValue)
    (h : Spells ls (clause k (.oneOf field (v :: vs))))
    (hk : k + (v :: vs).length ≤ greatestParam) :
    ∃ e, ReadAs ls e ∧ Denotes e k (.oneOf field (v :: vs)) := by
  obtain ⟨fs, ts, rfl, hfield, h⟩ := h.append_inv
  obtain ⟨start₁, after₁, more, rfl, -, h⟩ := h.cons_inv
  rw [Token.parens] at h
  obtain ⟨start₂, after₂, more, rfl, -, h⟩ := h.cons_inv
  obtain ⟨items, ts, rfl, hitems, h⟩ := h.append_inv
  obtain ⟨start₃, after₃, more, rfl, -, h⟩ := h.cons_inv
  cases h.nil_inv
  obtain ⟨place, hread⟩ := readExpr_field field v fs hfield
  have hheight : (Expr.inList (fieldExpr field v place) (paramExprs k (vs.length + 1))).height =
      fieldHeight v + 1 := by
    have hitem := heightOfAll_paramExprs k (vs.length + 1)
    change max (fieldExpr field v place).height (Expr.heightOfAll _) + 1 = _
    rw [height_fieldExpr]
    have hone : 1 ≤ fieldHeight v := by
      cases v <;> simp [fieldHeight]
    omega
  refine ⟨.inList (fieldExpr field v place) (paramExprs k (vs.length + 1)), ?_, hheight, rfl, ?_,
    ?_, ?_⟩
  · intro fuel rest hfuel hrest
    have hlength := hitems.length_eq
    rw [length_paramTokens] at hlength
    simp only [List.length_append, List.length_cons, List.length_nil] at hfuel hk
    obtain ⟨n, rfl⟩ := Nat.exists_eq_add_of_le (show 20 ≤ fuel by omega)
    -- The list is read as expressions, for it starts with a parameter and not like a query.
    have hlist := readList_params vs.length k (n + 16) items start₃ after₃ rest hitems
      (by omega) (by omega)
    obtain ⟨ts, hts⟩ := paramTokens_cons vs.length k
    rw [hts] at hitems
    obtain ⟨start₄, after₄, more, rfl, -, -⟩ := hitems.cons_inv
    rw [List.cons_append] at hlist
    have hmembership := readMembership_list (n + 16) (fieldExpr field v place) start₂ after₂
      start₄ after₄ (k + 1) _ _ start₃ after₃ rest hlist
    simp only [List.append_assoc, List.cons_append, List.nil_append, Nat.add_comm 20 n]
    rw [hread n _ rfl, readSigns_test (n + 18) .or (fieldExpr field v place) "IN" _ _ _ (by simp)
      (height_fieldExpr_le field v place) (by decide),
      bind_ok (readTest_in (n + 17) _ _ start₁ after₁ _ rest hmembership)]
    exact readSigns_fieldTest v n _ rest hheight hrest
  · intro scope column hshows
    have hcolumn := hshows.field field List.mem_cons_self
    have hcells := evalList_paramExprs scope _ k hshows.params
    rw [params, List.length_map, List.length_map, List.length_cons] at hcells
    rw [Expr.truth_inList, affinity_fieldExpr scope field v place _ hcolumn,
      collation_fieldExpr scope field v place _ hcolumn,
      eval_fieldExpr scope field v place _ hcolumn, hcells, List.map_map]
    rfl
  · intro names
    rw [Expr.check, check_fieldExpr, checkList_paramExprs]
    exact checkCollation_fieldExpr field v place _ (askedNameAmong?_paramExprs k _)
  · intro scope column _ _
    rw [Expr.fault?, fault?_fieldExpr, faultAmong?_paramExprs]
    rfl

theorem reads_isNull (h : Spells ls (clause k (.isNull field))) :
    ∃ e, ReadAs ls e ∧ Denotes e k (.isNull field) := by
  obtain ⟨start₁, after₁, more, rfl, -, h⟩ := h.cons_inv
  obtain ⟨start₂, after₂, more, rfl, -, h⟩ := h.cons_inv
  obtain ⟨start₃, after₃, more, rfl, -, h⟩ := h.cons_inv
  cases h.nil_inv
  refine ⟨.isNull (.quoted field), ?_, rfl, rfl, ?_, fun _ => rfl, fun _ _ _ _ => rfl⟩
  · intro fuel rest hfuel hrest
    obtain ⟨n, rfl⟩ := exists_fuel _ fuel hfuel (by simp)
    simp only [List.cons_append, List.nil_append]
    rw [readExpr_succ, bind_ok (readOperand_quoted (n + 17) field _ _ _ rfl)]
    dsimp only
    rw [readSigns_is (n + 18) .or (.quoted field) _ _ _ one_le_greatestHeight (by decide),
      bind_ok (readIdentity_null (n + 14) _ start₃ after₃ _ hrest)]
    exact readSigns_halts (n + 17) .or _ rest (Nat.le_of_lt two_lt_greatestHeight) hrest
  · intro scope column hshows
    rw [Expr.truth_isNull, eval_quoted scope field (column field)
      (hshows.field field List.mem_cons_self)]
    rfl

theorem reads_isNotNull (h : Spells ls (clause k (.isNotNull field))) :
    ∃ e, ReadAs ls e ∧ Denotes e k (.isNotNull field) := by
  obtain ⟨start₁, after₁, more, rfl, -, h⟩ := h.cons_inv
  obtain ⟨start₂, after₂, more, rfl, -, h⟩ := h.cons_inv
  obtain ⟨start₃, after₃, more, rfl, -, h⟩ := h.cons_inv
  obtain ⟨start₄, after₄, more, rfl, -, h⟩ := h.cons_inv
  cases h.nil_inv
  refine ⟨.not (.isNull (.quoted field)), ?_, rfl, rfl, ?_, fun _ => rfl, fun _ _ _ _ => rfl⟩
  · intro fuel rest hfuel hrest
    obtain ⟨n, rfl⟩ := exists_fuel _ fuel hfuel (by simp)
    simp only [List.cons_append, List.nil_append]
    rw [readExpr_succ, bind_ok (readOperand_quoted (n + 17) field _ _ _ rfl)]
    dsimp only
    rw [readSigns_is (n + 18) .or (.quoted field) _ _ _ one_le_greatestHeight (by decide),
      bind_ok (readIdentity_notNull (n + 14) _ start₃ after₃ start₄ after₄ _ hrest)]
    exact readSigns_halts (n + 17) .or _ rest two_lt_greatestHeight hrest
  · intro scope column hshows
    rw [Expr.truth_not, Expr.truth_isNull,
      eval_quoted scope field (column field) (hshows.field field List.mem_cons_self)]
    rfl

theorem reads_textMatch (mode : TextMode) (text : String)
    (h : Spells ls (clause k (.textMatch field mode text))) (hk : k + 1 ≤ greatestParam) :
    ∃ e, ReadAs ls e ∧ Denotes e k (.textMatch field mode text) := by
  obtain ⟨start₁, after₁, more, rfl, -, h⟩ := h.cons_inv
  obtain ⟨start₂, after₂, more, rfl, -, h⟩ := h.cons_inv
  obtain ⟨start₃, after₃, more, rfl, -, h⟩ := h.cons_inv
  obtain ⟨start₄, after₄, more, rfl, -, h⟩ := h.cons_inv
  obtain ⟨start₅, after₅, more, rfl, -, h⟩ := h.cons_inv
  obtain ⟨start₆, after₆, more, rfl, -, h⟩ := h.cons_inv
  obtain ⟨start₇, after₇, more, rfl, -, h⟩ := h.cons_inv
  obtain ⟨start₈, after₈, more, rfl, -, h⟩ := h.cons_inv
  cases h.nil_inv
  have htwo : 2 ≤ greatestHeight := Nat.le_of_lt two_lt_greatestHeight
  refine ⟨.like (.call "unicode_upper" false [.quoted field] start₁) (.param (k + 1))
    (.literal (.text "\\")), ?_, rfl, rfl, ?_, fun _ => rfl, ?_⟩
  · intro fuel rest hfuel hrest
    obtain ⟨n, rfl⟩ := exists_fuel _ fuel hfuel (by simp)
    -- The reading goes from the inside out: the name, the call, the pattern and the escape sign.
    have hname := readOperand_quoted (n + 12) field start₃ after₃
      (⟨.symbol ")", start₄, after₄⟩ :: ⟨.keyword "LIKE", start₅, after₅⟩ ::
        ⟨.param (k + 1), start₆, after₆⟩ :: ⟨.keyword "ESCAPE", start₇, after₇⟩ ::
        ⟨.text "\\", start₈, after₈⟩ :: rest) rfl
    have hlist := readList_last (n + 15) _ _ _ start₄ after₄
      (readExpr_operand (n + 13) .or _ _ _ hname one_le_greatestHeight rfl)
    have hcall := readOperand_call (n + 16) "unicode_upper" start₁ after₁ start₂ after₂
      (.quoted field) rfl start₃ after₃ _ _ start₄ after₄ _ hlist
    have hpattern := readAbove_param (n + 14) .equality (by decide) (k + 1) start₆ after₆
      (⟨.keyword "ESCAPE", start₇, after₇⟩ :: ⟨.text "\\", start₈, after₈⟩ :: rest)
      (Nat.succ_pos k) hk fun _ _ => rfl
    have hescape := readAbove_operand (n + 14) .equality _ rest _ (by decide)
      (readOperand_text (n + 14) "\\" start₈ after₈ rest (endsName_of_halts .or rest hrest))
      one_le_greatestHeight (halts_above .equality rest hrest)
    simp only [List.cons_append, List.nil_append]
    rw [readExpr_succ, bind_ok hcall]
    dsimp only
    rw [readSigns_test (n + 18) .or (.call "unicode_upper" false [.quoted field] start₁) "LIKE" _
        _ _ (by simp) htwo (by decide),
      bind_ok (readTest_like (n + 17) _ _ _ start₅ after₅ start₇ after₇ _ _ _ hpattern hescape)]
    exact readSigns_halts (n + 17) .or _ rest two_lt_greatestHeight hrest
  · intro scope column hshows
    have hcolumn := hshows.field field List.mem_cons_self
    rw [Expr.truth_like, eval_upper scope field start₁ (column field) hcolumn, Expr.eval_param,
      Expr.eval_literal, scope.param_succ k _ [] hshows.params]
    rfl
  · intro scope column hshows hpatterns
    have hlength : ¬50000 < (Param.pattern mode text).cell.bytes.length :=
      Nat.not_lt.mpr (hpatterns _ List.mem_cons_self)
    have hpattern : Cell.patternFault? (Param.pattern mode text).cell (some (.text "\\")) = none := by
      rw [Cell.patternFault?, if_neg hlength]
      rfl
    rw [Expr.fault?, Expr.eval_param, Expr.eval_literal, scope.param_succ k _ [] hshows.params,
      hpattern]
    rfl

theorem reads_constant (digit : String) (value : Int) (p : Predicate)
    (hdigit : digit = "0" ∧ value = 0 ∨ digit = "1" ∧ value = 1)
    (h : Spells ls [.number digit, .symbol "=", .number "1"]) (hheight : clauseHeight p = 2)
    (htruth : ∀ column, conditionTruth column p = .ofBool (value == 1)) :
    ∃ e, ReadAs ls e ∧ Denotes e k p := by
  obtain ⟨start₁, after₁, more, rfl, -, h⟩ := h.cons_inv
  obtain ⟨start₂, after₂, more, rfl, -, h⟩ := h.cons_inv
  obtain ⟨start₃, after₃, more, rfl, -, h⟩ := h.cons_inv
  cases h.nil_inv
  refine ⟨.compare .equal (.literal (.integer value)) (.literal (.integer 1)), ?_,
    hheight.symm, rfl, ?_, fun _ => rfl, fun _ _ _ _ => rfl⟩
  · intro fuel rest hfuel hrest
    obtain ⟨n, rfl⟩ := exists_fuel _ fuel hfuel (by simp)
    have hnumber : ∀ fuel rest start after, readOperand (fuel + 1)
        (⟨.number digit, start, after⟩ :: rest) = .ok (.literal (.integer value), rest) := by
      intro fuel rest start after
      rcases hdigit with ⟨rfl, rfl⟩ | ⟨rfl, rfl⟩
      · rfl
      · rfl
    have hone : ∀ fuel rest start after, readOperand (fuel + 1)
        (⟨.number "1", start, after⟩ :: rest) = .ok (.literal (.integer 1), rest) := by
      intro fuel rest start after
      rfl
    have habove := readAbove_operand (n + 15) .equality _ rest _ (by decide)
      (hone (n + 15) rest start₃ after₃) one_le_greatestHeight (halts_above .equality rest hrest)
    simp only [List.cons_append, List.nil_append]
    rw [readExpr_succ, bind_ok (hnumber (n + 18) _ start₁ after₁)]
    dsimp only
    rw [readSigns_symbol (n + 18) .or (.literal (.integer value)) "=" _ _ _
      (Infix.comparison .equality .equal) rfl one_le_greatestHeight (by decide)]
    dsimp only [Infix.comparison]
    rw [bind_ok habove]
    exact readSigns_halts (n + 17) .or _ rest (Nat.le_of_lt two_lt_greatestHeight) hrest
  · intro scope column hshows
    rw [htruth]
    rcases hdigit with ⟨-, rfl⟩ | ⟨-, rfl⟩
    · rfl
    · rfl

end Leaves

end CriteriaSearch.Sql
