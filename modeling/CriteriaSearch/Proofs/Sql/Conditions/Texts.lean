import CriteriaSearch.Proofs.Sql.Conditions.Chains

namespace CriteriaSearch.Sql

def namesAreVisible (p : Predicate) : Prop := ∀ f ∈ p.leafFields, f.toList.all isVisible = true

instance (p : Predicate) : Decidable (namesAreVisible p) :=
  inferInstanceAs (Decidable (∀ f ∈ p.leafFields, f.toList.all isVisible = true))

theorem isReadable_word (w : String) (h : w ∈ ["strftime", "unicode_upper"]) :
    (Token.name w).isReadable = true := by
  have hall : ∀ w ∈ ["strftime", "unicode_upper"], (Token.name w).isReadable = true := by
    decide
  exact hall w h

theorem isReadable_fieldTokens (field : String) (v : FieldValue)
    (h : field.toList.all isVisible = true) : ∀ t ∈ fieldTokens field v, t.isReadable = true := by
  cases v with
  | dateTime t =>
    have hformat : (Token.text momentFormat).isReadable = true := by decide
    have hopen : (Token.symbol "(").isReadable = true := by decide
    have hcomma : (Token.symbol ",").isReadable = true := by decide
    have hclose : (Token.symbol ")").isReadable = true := by decide
    simp only [fieldTokens, List.forall_mem_cons, List.not_mem_nil, false_implies, implies_true,
      and_true]
    exact ⟨isReadable_word "strftime" (by simp), hopen, hformat, hcomma, h, hclose⟩
  | _ =>
    simp only [fieldTokens, List.forall_mem_cons, List.not_mem_nil, false_implies, implies_true,
      and_true]
    exact h

theorem isReadable_paramTokens (n k : Nat) :
    ∀ t ∈ paramTokens k (n + 1), t.isReadable = true := by
  have hparam (i : Nat) : (Token.param (i + 1)).isReadable = true := by
    simp [Token.isReadable]
  induction n generalizing k with
  | zero =>
    intro t ht
    rw [List.mem_singleton.mp ht]
    exact hparam k
  | succ n ih =>
    rw [paramTokens_succ, List.forall_mem_cons, List.forall_mem_cons]
    exact ⟨hparam k, by decide, ih (k + 1)⟩

theorem isReadable_parens (ts : List Token) (h : ∀ t ∈ ts, t.isReadable = true) :
    ∀ t ∈ Token.parens ts, t.isReadable = true := by
  intro t ht
  rw [Token.parens, List.mem_append, List.mem_cons, List.mem_singleton] at ht
  rcases ht with (rfl | ht) | rfl
  · decide
  · exact h t ht
  · decide

theorem isReadable_clauseRest (word : String) (hword : word ∈ Token.conditionWords)
    (ps : List Predicate) (hps : ∀ p ∈ ps, ∀ k, ∀ t ∈ clause k p, t.isReadable = true) (k : Nat) :
    ∀ t ∈ clauseRest word k ps, t.isReadable = true := by
  induction ps generalizing k with
  | nil =>
    rw [clauseRest]
    exact List.forall_mem_nil _
  | cons p ps ih =>
    intro t ht
    rw [clauseRest, List.cons_append, List.mem_cons, List.mem_append] at ht
    rcases ht with rfl | ht | ht
    · exact Token.isReadable_keyword word hword
    · exact isReadable_parens _ (hps p List.mem_cons_self k) t ht
    · exact ih (fun q hq => hps q (List.mem_cons_of_mem p hq)) _ t ht

theorem namesAreVisible_of_mem (ps : List Predicate) (p : Predicate) (hp : p ∈ ps)
    (h : ∀ f ∈ Predicate.leafFieldsOf ps, f.toList.all isVisible = true) : namesAreVisible p := by
  induction ps with
  | nil => cases hp
  | cons q ps ih =>
    rw [Predicate.leafFieldsOf] at h
    rcases List.mem_cons.mp hp with rfl | hp
    · exact fun f hf => h f (List.mem_append_left _ hf)
    · exact ih hp fun f hf => h f (List.mem_append_right _ hf)

theorem isReadable_chain (word : String) (hword : word ∈ Token.conditionWords) (k : Nat)
    (p : Predicate) (ps : List Predicate)
    (hps : ∀ q ∈ p :: ps, ∀ k, ∀ t ∈ clause k q, t.isReadable = true) :
    ∀ t ∈ Token.parens (clause k p) ++ clauseRest word (k + (params p).length) ps,
      t.isReadable = true := by
  intro t ht
  rcases List.mem_append.mp ht with ht | ht
  · exact isReadable_parens _ (hps p List.mem_cons_self k) t ht
  · exact isReadable_clauseRest word hword ps
      (fun q hq => hps q (List.mem_cons_of_mem p hq)) _ t ht

theorem isReadable_clause (p : Predicate) (h : namesAreVisible p) (k : Nat) :
    ∀ t ∈ clause k p, t.isReadable = true := by
  have hparam (n : Nat) : (Token.param (n + 1)).isReadable = true := by
    simp [Token.isReadable]
  have hconstant (digit : String) (hdigit : digit ∈ ["0", "1"]) :
      ∀ t ∈ [Token.number digit, .symbol "=", .number "1"], t.isReadable = true := by
    simp only [List.mem_cons, List.not_mem_nil, or_false] at hdigit
    rcases hdigit with rfl | rfl <;> decide
  -- One case for each form of a condition: every word in it is one of those of conditions, and
  -- every name is visible.
  induction p using Predicate.inductionOn generalizing k with
  | and ps ih =>
    cases ps with
    | nil =>
      rw [clause]
      exact hconstant "1" (by simp)
    | cons p ps =>
      rw [clause]
      exact isReadable_chain "AND" (by decide) k p ps fun q hq k =>
        ih q hq (namesAreVisible_of_mem (p :: ps) q hq h) k
  | or ps ih =>
    cases ps with
    | nil =>
      rw [clause]
      exact hconstant "0" (by simp)
    | cons p ps =>
      rw [clause]
      exact isReadable_chain "OR" (by decide) k p ps fun q hq k =>
        ih q hq (namesAreVisible_of_mem (p :: ps) q hq h) k
  | not p ih =>
    rw [clause, List.forall_mem_cons]
    exact ⟨Token.isReadable_keyword "NOT" (by decide), isReadable_parens _ (ih h k)⟩
  | compare field c v =>
    have hsign : (Token.symbol (comparisonSign c)).isReadable = true := by
      cases c <;> decide
    have hfield := isReadable_fieldTokens field v (h field List.mem_cons_self)
    rw [clause, List.forall_mem_append]
    simp only [List.forall_mem_cons, List.not_mem_nil, false_implies, implies_true, and_true]
    exact ⟨hfield, hsign, hparam k⟩
  | range field v w =>
    have hfield := isReadable_fieldTokens field v (h field List.mem_cons_self)
    rw [clause, List.forall_mem_append]
    simp only [List.forall_mem_cons, List.not_mem_nil, false_implies, implies_true, and_true]
    exact ⟨hfield, Token.isReadable_keyword "BETWEEN" (by decide), hparam k,
      Token.isReadable_keyword "AND" (by decide), hparam (k + 1)⟩
  | oneOf field vs =>
    cases vs with
    | nil =>
      rw [clause]
      exact hconstant "0" (by simp)
    | cons v vs =>
      have hfield := isReadable_fieldTokens field v (h field List.mem_cons_self)
      rw [clause, List.forall_mem_append, List.forall_mem_cons]
      exact ⟨hfield, Token.isReadable_keyword "IN" (by decide),
        isReadable_parens _ (isReadable_paramTokens vs.length k)⟩
  | textMatch field mode text =>
    have hopen : (Token.symbol "(").isReadable = true := by decide
    have hclose : (Token.symbol ")").isReadable = true := by decide
    have hescape : (Token.text "\\").isReadable = true := by decide
    rw [clause]
    simp only [List.forall_mem_cons, List.not_mem_nil, false_implies, implies_true, and_true]
    exact ⟨isReadable_word "unicode_upper" (by simp), hopen, h field List.mem_cons_self, hclose,
      Token.isReadable_keyword "LIKE" (by decide), hparam k,
      Token.isReadable_keyword "ESCAPE" (by decide), hescape⟩
  | isNull field =>
    rw [clause]
    simp only [List.forall_mem_cons, List.not_mem_nil, false_implies, implies_true, and_true]
    exact ⟨h field List.mem_cons_self, Token.isReadable_keyword "IS" (by decide),
      Token.isReadable_keyword "NULL" (by decide)⟩
  | isNotNull field =>
    rw [clause]
    simp only [List.forall_mem_cons, List.not_mem_nil, false_implies, implies_true, and_true]
    exact ⟨h field List.mem_cons_self, Token.isReadable_keyword "IS" (by decide),
      Token.isReadable_keyword "NOT" (by decide), Token.isReadable_keyword "NULL" (by decide)⟩

/-- The text that a predicate is lowered to is read as an expression that denotes the predicate. -/
theorem ofLexemes_lower (f : Fragment) (p : Predicate) (hnames : namesAreVisible p)
    (hheight : clauseHeight p ≤ greatestHeight)
    (hparams : f.params.length + (params p).length ≤ greatestParam) :
    ∃ e, Expr.ofLexemes (lexemes (f.lower p).1.toList) = .ok (e, []) ∧
      Denotes e f.params.length p := by
  have hspells := lexemes_render _ (isReadable_clause p hnames f.params.length)
  obtain ⟨e, hread, hdenotes⟩ := readable p f.params.length _ hspells hheight hparams
  refine ⟨e, ?_, hdenotes⟩
  have hall := hread (readingDepth (lexemes (Token.render (clause f.params.length p)))) []
    (by rw [readingDepth]; omega) rfl
  rw [List.append_nil] at hall
  rw [Fragment.lower, String.toList_ofList, Expr.ofLexemes]
  exact hall

end CriteriaSearch.Sql
