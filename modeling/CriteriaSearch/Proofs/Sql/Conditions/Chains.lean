import CriteriaSearch.Proofs.Sql.Conditions.Tests

/-!
# Conditions made of conditions

Conjunctions, disjunctions and negations stand between parentheses, so that the grammar reads each
part on its own. By induction on the predicate, every condition is read back.
-/

namespace CriteriaSearch.Sql

def Readable (p : Predicate) : Prop :=
  ∀ k ls, Spells ls (clause k p) → clauseHeight p ≤ greatestHeight →
    k + (params p).length ≤ greatestParam → ∃ e, ReadAs ls e ∧ Denotes e k p

theorem clause_cons (k : Nat) (p : Predicate) :
    ∃ t ts, clause k p = t :: ts ∧ ∀ w ∈ ["SELECT", "VALUES"], t ≠ .keyword w := by
  have hfield (field : String) (v : FieldValue) (us : List Token) :
      ∃ t ts, fieldTokens field v ++ us = t :: ts ∧ ∀ w ∈ ["SELECT", "VALUES"], t ≠ .keyword w := by
    cases v <;> exact ⟨_, _, rfl, by simp⟩
  cases p with
  | and parts => cases parts <;> exact ⟨_, _, rfl, by simp⟩
  | or parts => cases parts <;> exact ⟨_, _, rfl, by simp⟩
  | not part => exact ⟨_, _, rfl, by simp⟩
  | compare field c v => exact hfield field v _
  | range field v w => exact hfield field v _
  | oneOf field vs =>
    cases vs with
    | nil => exact ⟨_, _, rfl, by simp⟩
    | cons v vs => exact hfield field v _
  | textMatch field mode text => exact ⟨_, _, rfl, by simp⟩
  | isNull field => exact ⟨_, _, rfl, by simp⟩
  | isNotNull field => exact ⟨_, _, rfl, by simp⟩

theorem Readable.parens {p : Predicate} (hp : Readable p) (k : Nat) (ls : List Lexeme)
    (h : Spells ls (Token.parens (clause k p))) (hheight : clauseHeight p ≤ greatestHeight)
    (hk : k + (params p).length ≤ greatestParam) :
    ∃ e, (∀ fuel rest, 24 * ls.length ≤ fuel + 24 →
        readOperand fuel (ls ++ rest) = .ok (e, rest)) ∧
      Denotes e k p := by
  rw [Token.parens] at h
  obtain ⟨start₁, after₁, more, rfl, -, h⟩ := h.cons_inv
  obtain ⟨inner, ts, rfl, hinner, h⟩ := h.append_inv
  obtain ⟨start₂, after₂, more, rfl, -, h⟩ := h.cons_inv
  cases h.nil_inv
  obtain ⟨e, hread, hdenotes⟩ := hp k inner hinner hheight hk
  refine ⟨e, ?_, hdenotes⟩
  intro fuel rest hfuel
  simp only [List.length_append, List.length_cons, List.length_nil] at hfuel
  obtain ⟨fuel, rfl⟩ : ∃ m, fuel = m + 2 := ⟨fuel - 2, by omega⟩
  have hinside := hread fuel (⟨.symbol ")", start₂, after₂⟩ :: rest) (by omega) rfl
  -- What starts like a query would be read as one; no condition does.
  have hquery : startsWithKeyword ["SELECT", "VALUES"]
      (inner ++ ⟨.symbol ")", start₂, after₂⟩ :: rest) = false := by
    obtain ⟨t, ts, hclause, ht⟩ := clause_cons k p
    rw [hclause] at hinner
    obtain ⟨start, after, more, rfl, -, -⟩ := hinner.cons_inv
    rw [List.cons_append]
    cases t with
    | keyword w =>
      have hne : w ≠ "SELECT" ∧ w ≠ "VALUES" := by simpa using ht
      simp [startsWithKeyword, hne]
    | _ => rfl
  simp only [List.append_assoc, List.cons_append, List.nil_append]
  exact readOperand_parens fuel start₁ after₁ start₂ after₂ _ rest e hquery hinside

theorem Readable.not {p : Predicate} (hp : Readable p) : Readable (.not p) := by
  intro k ls h hheight hk
  rw [clause] at h
  rw [clauseHeight] at hheight
  rw [params] at hk
  obtain ⟨start, after, inner, rfl, -, h⟩ := h.cons_inv
  obtain ⟨e, hread, hdenotes⟩ := hp.parens k inner h (Nat.le_of_succ_le hheight) hk
  have hnot : (Expr.not e).height = clauseHeight p + 1 := by
    rw [Expr.height, hdenotes.height]
  refine ⟨.not e, ?_, hnot, rfl, ?_, hdenotes.check, hdenotes.fault⟩
  · intro fuel rest hfuel hrest
    rw [List.length_cons] at hfuel
    obtain ⟨fuel, rfl⟩ : ∃ m, fuel = m + 4 := ⟨fuel - 4, by omega⟩
    -- Negation binds more strongly than the words that may follow the condition.
    have hpart : readExpr (fuel + 2) .not (inner ++ rest) = .ok (e, rest) := by
      rw [readExpr_succ, bind_ok (hread (fuel + 1) rest (by omega))]
      apply readSigns_halts fuel .not e rest
      · rw [hdenotes.height]
        exact Nat.le_of_succ_le hheight
      · exact halts_mono .or .not (by decide) rest hrest
    have hoperand : readOperand (fuel + 3) (⟨.keyword "NOT", start, after⟩ :: (inner ++ rest)) =
        .ok (.not e, rest) := by
      exact bind_ok hpart _
    rw [List.cons_append, readExpr_succ, bind_ok hoperand]
    apply readSigns_halts (fuel + 2) .or _ rest _ hrest
    rw [hnot]
    exact hheight
  · intro scope column hshows
    rw [Expr.truth_not, conditionTruth]
    rw [Predicate.leafFields, params] at hshows
    rw [hdenotes.truth scope column hshows]

/-- A word joins two conditions by a sign, and the sign joins their truth values. -/
structure IsJoint (word : String) (sign : Infix) (join : Truth → Truth → Truth) : Prop where
  token : Infix.ofToken? (.keyword word) = some sign
  admitted : Level.or.rank ≤ sign.level.rank
  level : sign.level ≠ .collate
  halts : ∀ other : Level, sign.level.rank < other.rank → (Token.keyword word).haltsAt other = true
  height : ∀ a b, a.isTest = true → b.isTest = true →
    (sign.make a b).height = max a.height b.height + 1
  isTest : ∀ a b, a.isTest = true → b.isTest = true → (sign.make a b).isTest = true
  truth : ∀ scope a b, a.isTest = true → b.isTest = true →
    ((sign.make a b).eval scope).truth = join (a.eval scope).truth (b.eval scope).truth
  check : ∀ names a b, a.isTest = true → b.isTest = true → a.check names = .ok () →
    b.check names = .ok () → (sign.make a b).check names = .ok ()
  fault : ∀ scope a b, a.isTest = true → b.isTest = true → a.fault? scope = none →
    b.fault? scope = none → (sign.make a b).fault? scope = none

theorem isJoint_or : IsJoint "OR" ⟨.or, .or⟩ Truth.or where
  token := rfl
  admitted := Nat.le_refl _
  level := by decide
  halts := by
    intro other hother
    exact (Token.haltsAt_keyword other "OR").mpr (.inr (.inr ⟨rfl, hother⟩))
  height := by
    intro a b _ _
    rfl
  isTest := by
    intro a b _ _
    rfl
  truth := by
    intro scope a b _ _
    exact Expr.truth_or scope a b
  check := by
    intro names a b _ _ ha hb
    change (Expr.or a b).check names = _
    rw [Expr.check, ha]
    exact hb
  fault := by
    intro scope a b _ _ ha hb
    change (Expr.or a b).fault? scope = _
    rw [Expr.fault?, ha, hb, ite_self]
    rfl

theorem both_eq_and (a b : Expr) (ha : a.isTest = true) (hb : b.isTest = true) :
    a.both b = .and a b := by
  cases a <;> first | (cases ha; done) | skip
  all_goals cases b <;> first | rfl | cases hb

theorem isJoint_and : IsJoint "AND" ⟨.and, .both⟩ Truth.and where
  token := rfl
  admitted := by decide
  level := by decide
  halts := by
    intro other hother
    exact (Token.haltsAt_keyword other "AND").mpr (.inr (.inl ⟨rfl, hother⟩))
  height := by
    intro a b ha hb
    change (a.both b).height = _
    rw [both_eq_and a b ha hb, Expr.height]
  isTest := by
    intro a b ha hb
    change (a.both b).isTest = true
    rw [both_eq_and a b ha hb]
    rfl
  truth := by
    intro scope a b ha hb
    change ((a.both b).eval scope).truth = _
    rw [both_eq_and a b ha hb, Expr.truth_and]
  check := by
    intro names a b ha hb hacheck hbcheck
    change (a.both b).check names = _
    rw [both_eq_and a b ha hb, Expr.check, hacheck]
    exact hbcheck
  fault := by
    intro scope a b ha hb hafault hbfault
    change (a.both b).fault? scope = _
    rw [both_eq_and a b ha hb, Expr.fault?, hafault, hbfault, ite_self]
    rfl

theorem PatternsFit.append {ps qs : List Param} (h : PatternsFit (ps ++ qs)) :
    PatternsFit ps ∧ PatternsFit qs :=
  ⟨fun p hp => h p (List.mem_append_left qs hp), fun q hq => h q (List.mem_append_right ps hq)⟩

theorem Shows.append {scope : Scope} {column : String → Slot} {k : Nat} {fs gs : List String}
    {ps qs : List Param} (h : Shows scope column k (fs ++ gs) (ps ++ qs)) :
    Shows scope column k fs ps ∧ Shows scope column (k + ps.length) gs qs := by
  obtain ⟨hfield, more, hparams⟩ := h
  rw [List.map_append, List.append_assoc] at hparams
  refine ⟨⟨fun f hf => hfield f (List.mem_append_left gs hf), _, hparams⟩,
    ⟨fun g hg => hfield g (List.mem_append_right fs hg), more, ?_⟩⟩
  rw [← List.drop_drop, ← hparams, List.drop_left' (List.length_map Param.cell)]

section Chain

variable {word : String} {sign : Infix} {join : Truth → Truth → Truth}
  (hjoint : IsJoint word sign join)

include hjoint

/-- The part of a chain after its first word is followed by nothing that binds more strongly. -/
theorem halts_clauseRest (k : Nat) (ps : List Predicate) (ls rest : List Lexeme)
    (h : Spells ls (clauseRest word k ps)) (hrest : halts .or rest = true) :
    ∀ other : Level, sign.level.rank < other.rank → halts other (ls ++ rest) = true := by
  intro other hother
  cases ps with
  | nil =>
    rw [clauseRest] at h
    cases h.nil_inv
    exact halts_mono .or other (by cases other <;> decide) rest hrest
  | cons p ps =>
    rw [clauseRest] at h
    obtain ⟨start, after, more, rfl, -, -⟩ := h.cons_inv
    exact hjoint.halts other hother

/-- Reading the rest of a chain joins its conditions to what has been read, from left to right. -/
theorem readSigns_chain (ps : List Predicate) (hps : ∀ p ∈ ps, Readable p) (k : Nat) (a : Expr)
    (ls : List Lexeme) (h : Spells ls (clauseRest word k ps)) (ha : a.isTest = true)
    (hheight : chainHeight a.height ps ≤ greatestHeight)
    (hk : k + (paramsOfAll ps).length ≤ greatestParam) :
    ∃ e, (∀ fuel rest, 24 * ls.length < fuel → halts .or rest = true →
        readSigns fuel .or a (ls ++ rest) = .ok (e, rest)) ∧
      e.height = chainHeight a.height ps ∧ e.isTest = true ∧
      (∀ scope column, Shows scope column k (Predicate.leafFieldsOf ps) (paramsOfAll ps) →
        (e.eval scope).truth =
          ps.foldl (fun t p => join t (conditionTruth column p)) (a.eval scope).truth) ∧
      (∀ names, a.check names = .ok () → e.check names = .ok ()) ∧
      ∀ scope column, Shows scope column k (Predicate.leafFieldsOf ps) (paramsOfAll ps) →
        PatternsFit (patternsOfAll ps) → a.fault? scope = none → e.fault? scope = none := by
  -- The invariant is that `a` is what the parts before have been read as.
  induction ps generalizing k a ls with
  | nil =>
    rw [clauseRest] at h
    cases h.nil_inv
    refine ⟨a, ?_, rfl, ha, fun scope column _ => rfl, fun _ h => h, fun _ _ _ _ h => h⟩
    intro fuel rest hfuel hrest
    obtain ⟨fuel, rfl⟩ : ∃ m, fuel = m + 1 := ⟨fuel - 1, by omega⟩
    exact readSigns_halts fuel .or a rest hheight hrest
  | cons p ps ih =>
    rw [clauseRest] at h
    obtain ⟨start, after, more, rfl, -, h⟩ := h.cons_inv
    obtain ⟨part, tail, rfl, hpart, htail⟩ := h.append_inv
    rw [paramsOfAll, List.length_append] at hk
    rw [chainHeight] at hheight
    have hstep := Nat.le_trans (le_chainHeight _ ps) hheight
    obtain ⟨b, hread, hb⟩ := (hps p List.mem_cons_self).parens k part hpart (by omega) (by omega)
    have hmake := hjoint.height a b ha hb.isTest
    rw [hb.height] at hmake
    obtain ⟨e, htailRead, heheight, hetest, hetruth, hecheck, hefault⟩ :=
      ih (fun q hq => hps q (List.mem_cons_of_mem p hq)) (k + (params p).length)
        (sign.make a b) tail htail (hjoint.isTest a b ha hb.isTest) (by rwa [hmake]) (by omega)
    refine ⟨e, ?_, ?_, hetest, ?_, ?_, ?_⟩
    · intro fuel rest hfuel hrest
      simp only [List.length_append, List.length_cons] at hfuel
      obtain ⟨fuel, rfl⟩ : ∃ m, fuel = m + 4 := ⟨fuel - 4, by omega⟩
      have habove := readAbove_operand fuel sign.level _ (tail ++ rest) b hjoint.level
        (hread (fuel + 1) (tail ++ rest) (by omega)) (by rw [hb.height]; omega)
        (halts_clauseRest hjoint _ ps tail rest htail hrest)
      simp only [List.append_assoc, List.cons_append]
      rw [readSigns_word (fuel + 3) .or a word _ _ _ sign hjoint.token (by omega) hjoint.admitted,
        bind_ok habove]
      exact htailRead (fuel + 3) rest (by omega) hrest
    · rw [heheight, hmake, chainHeight]
    · intro scope column hshows
      rw [Predicate.leafFieldsOf, paramsOfAll] at hshows
      obtain ⟨hfirst, hrest⟩ := hshows.append
      rw [hetruth scope column hrest, hjoint.truth scope a b ha hb.isTest,
        hb.truth scope column hfirst, List.foldl_cons]
    · intro names hacheck
      exact hecheck names (hjoint.check names a b ha hb.isTest hacheck (hb.check names))
    · intro scope column hshows hpatterns hafault
      rw [Predicate.leafFieldsOf, paramsOfAll] at hshows
      rw [patternsOfAll] at hpatterns
      obtain ⟨hfirst, hrest⟩ := hshows.append
      obtain ⟨hpattern, hpatterns⟩ := hpatterns.append
      exact hefault scope column hrest hpatterns
        (hjoint.fault scope a b ha hb.isTest hafault (hb.fault scope column hfirst hpattern))

theorem reads_chain (p : Predicate) (ps : List Predicate) (hps : ∀ q ∈ p :: ps, Readable q)
    (k : Nat) (ls : List Lexeme)
    (h : Spells ls (Token.parens (clause k p) ++ clauseRest word (k + (params p).length) ps))
    (hheight : chainHeight (clauseHeight p) ps ≤ greatestHeight)
    (hk : k + (paramsOfAll (p :: ps)).length ≤ greatestParam) :
    ∃ e, ReadAs ls e ∧ e.height = chainHeight (clauseHeight p) ps ∧ e.isTest = true ∧
      (∀ scope column,
        Shows scope column k (Predicate.leafFieldsOf (p :: ps)) (paramsOfAll (p :: ps)) →
        (e.eval scope).truth =
          ps.foldl (fun t p => join t (conditionTruth column p)) (conditionTruth column p)) ∧
      (∀ names, e.check names = .ok ()) ∧
      ∀ scope column,
        Shows scope column k (Predicate.leafFieldsOf (p :: ps)) (paramsOfAll (p :: ps)) →
        PatternsFit (patternsOfAll (p :: ps)) → e.fault? scope = none := by
  obtain ⟨part, tail, rfl, hpart, htail⟩ := h.append_inv
  rw [paramsOfAll, List.length_append] at hk
  have hfirst := Nat.le_trans (le_chainHeight _ ps) hheight
  obtain ⟨a, hread, ha⟩ := (hps p List.mem_cons_self).parens k part hpart hfirst (by omega)
  obtain ⟨e, htailRead, heheight, hetest, hetruth, hecheck, hefault⟩ := readSigns_chain hjoint ps
    (fun q hq => hps q (List.mem_cons_of_mem p hq)) (k + (params p).length) a tail htail ha.isTest
    (by rwa [ha.height]) (by omega)
  -- The first part has two lexemes at least, which leave fuel for reading the rest of the chain.
  have hpos : 2 ≤ part.length := by
    rw [hpart.length_eq, Token.parens, List.length_append, List.length_cons, List.length_singleton]
    omega
  refine ⟨e, ?_, by rw [heheight, ha.height], hetest, ?_, fun names => hecheck names (ha.check names),
    ?_⟩
  · intro fuel rest hfuel hrest
    rw [List.length_append] at hfuel
    obtain ⟨fuel, rfl⟩ : ∃ m, fuel = m + 1 := ⟨fuel - 1, by omega⟩
    rw [List.append_assoc, readExpr_succ, bind_ok (hread fuel (tail ++ rest) (by omega))]
    exact htailRead fuel rest (by omega) hrest
  · intro scope column hshows
    rw [Predicate.leafFieldsOf, paramsOfAll] at hshows
    obtain ⟨hfirst, hrest⟩ := hshows.append
    rw [hetruth scope column hrest, ha.truth scope column hfirst]
  · intro scope column hshows hpatterns
    rw [Predicate.leafFieldsOf, paramsOfAll] at hshows
    rw [patternsOfAll] at hpatterns
    obtain ⟨hfirst, hrest⟩ := hshows.append
    obtain ⟨hpattern, hpatterns⟩ := hpatterns.append
    exact hefault scope column hrest hpatterns (ha.fault scope column hfirst hpattern)

end Chain

theorem Truth.and_assoc (a b c : Truth) : (a.and b).and c = a.and (b.and c) := by
  cases a <;> cases b <;> cases c <;> rfl

theorem Truth.or_assoc (a b c : Truth) : (a.or b).or c = a.or (b.or c) := by
  cases a <;> cases b <;> cases c <;> rfl

theorem foldl_and (column : String → Slot) (ps : List Predicate) (t : Truth) :
    ps.foldl (fun t p => t.and (conditionTruth column p)) t =
      t.and (conditionTruthAll column ps) := by
  induction ps generalizing t with
  | nil => cases t <;> rfl
  | cons p ps ih => rw [List.foldl_cons, ih, Truth.and_assoc, conditionTruthAll]

theorem foldl_or (column : String → Slot) (ps : List Predicate) (t : Truth) :
    ps.foldl (fun t p => t.or (conditionTruth column p)) t =
      t.or (conditionTruthAny column ps) := by
  induction ps generalizing t with
  | nil => cases t <;> rfl
  | cons p ps ih => rw [List.foldl_cons, ih, Truth.or_assoc, conditionTruthAny]

theorem Readable.and {ps : List Predicate} (hps : ∀ p ∈ ps, Readable p) :
    Readable (.and ps) := by
  intro k ls h hheight hk
  cases ps with
  | nil =>
    rw [clause] at h
    exact reads_constant k ls "1" 1 (.and []) (.inr ⟨rfl, rfl⟩) h rfl fun column => rfl
  | cons p ps =>
    rw [clause] at h
    rw [clauseHeight] at hheight
    rw [params] at hk
    obtain ⟨e, hread, heheight, hetest, hetruth, hecheck, hefault⟩ :=
      reads_chain isJoint_and p ps hps k ls h hheight hk
    refine ⟨e, hread, by rw [heheight, clauseHeight], hetest, ?_, hecheck, hefault⟩
    intro scope column hshows
    rw [Predicate.leafFields, params] at hshows
    rw [hetruth scope column hshows, foldl_and, conditionTruth, conditionTruthAll]

theorem Readable.or {ps : List Predicate} (hps : ∀ p ∈ ps, Readable p) : Readable (.or ps) := by
  intro k ls h hheight hk
  cases ps with
  | nil =>
    rw [clause] at h
    exact reads_constant k ls "0" 0 (.or []) (.inl ⟨rfl, rfl⟩) h rfl fun column => rfl
  | cons p ps =>
    rw [clause] at h
    rw [clauseHeight] at hheight
    rw [params] at hk
    obtain ⟨e, hread, heheight, hetest, hetruth, hecheck, hefault⟩ :=
      reads_chain isJoint_or p ps hps k ls h hheight hk
    refine ⟨e, hread, by rw [heheight, clauseHeight], hetest, ?_, hecheck, hefault⟩
    intro scope column hshows
    rw [Predicate.leafFields, params] at hshows
    rw [hetruth scope column hshows, foldl_or, conditionTruth, conditionTruthAny]

theorem readable (p : Predicate) : Readable p := by
  induction p using Predicate.inductionOn with
  | and ps ih => exact .and ih
  | or ps ih => exact .or ih
  | not p ih => exact ih.not
  | compare field c v => exact fun k ls h _ hk => reads_compare k field ls c v h hk
  | range field v w => exact fun k ls h _ hk => reads_range k field ls v w h hk
  | oneOf field vs =>
    cases vs with
    | nil =>
      intro k ls h _ _
      rw [clause] at h
      exact reads_constant k ls "0" 0 _ (.inl ⟨rfl, rfl⟩) h rfl fun column => rfl
    | cons v vs =>
      intro k ls h _ hk
      rw [params, List.length_map] at hk
      exact reads_oneOf k field ls v vs h hk
  | textMatch field mode text => exact fun k ls h _ hk => reads_textMatch k field ls mode text h hk
  | isNull field => exact fun k ls h _ _ => reads_isNull k field ls h
  | isNotNull field => exact fun k ls h _ _ => reads_isNotNull k field ls h

end CriteriaSearch.Sql
