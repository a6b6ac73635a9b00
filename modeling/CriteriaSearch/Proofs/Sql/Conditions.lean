import CriteriaSearch.Proofs.Evaluation
import CriteriaSearch.Proofs.Sql.Reading
import CriteriaSearch.Sql.Clause
import CriteriaSearch.Sql.Hazard

/-!
# Conditions read back

The condition of a predicate, read with the grammar of SQL, is an expression with the structure of
the predicate. What it comes to on a row depends only on the cells of the fields and the values of
the parameters. It passes every check, and has no fault unless one of its patterns is too long.
-/

namespace CriteriaSearch.Sql

namespace Slot

/-- What is compared with a value: of a date, its text in milliseconds. -/
def subject (s : Slot) : FieldValue → Slot
  | .dateTime _ => ⟨Moment.formatted (.text momentFormat) [s.cell], none, .binary⟩
  | _ => s

def compare (s : Slot) (sign : Sign) (param : Cell) : Truth :=
  Cell.compareBy sign (s.affinity.getD .blob) s.collation s.cell param

def among (s : Slot) (params : List Cell) : Truth :=
  Cell.among (s.affinity.getD .blob) s.collation s.cell params

end Slot

def signOf : Comparison → Sign
  | .equal => .equal
  | .notEqual => .notEqual
  | .less => .less
  | .greater => .greater

mutual

/-- The truth of the condition of a predicate, given what is stored in its fields. -/
def conditionTruth (column : String → Slot) : Predicate → Truth
  | .and parts => conditionTruthAll column parts
  | .or parts => conditionTruthAny column parts
  | .not part => (conditionTruth column part).not
  | .compare field c v => ((column field).subject v).compare (signOf c) (Param.ofValue v).cell
  | .range field lower upper =>
    (((column field).subject lower).compare .greaterOrEqual (Param.ofValue lower).cell).and
      (((column field).subject lower).compare .lessOrEqual (Param.ofValue upper).cell)
  | .oneOf _ [] => .no
  | .oneOf field (v :: vs) =>
    ((column field).subject v).among ((v :: vs).map fun v => (Param.ofValue v).cell)
  | .textMatch field mode text =>
    Cell.like (column field).cell.upper (Param.pattern mode text).cell (.text "\\")
  | .isNull field => .ofBool (column field).cell.isNull
  | .isNotNull field => (Truth.ofBool (column field).cell.isNull).not

def conditionTruthAll (column : String → Slot) : List Predicate → Truth
  | [] => .yes
  | p :: ps => (conditionTruth column p).and (conditionTruthAll column ps)

def conditionTruthAny (column : String → Slot) : List Predicate → Truth
  | [] => .no
  | p :: ps => (conditionTruth column p).or (conditionTruthAny column ps)

end

def fieldHeight : FieldValue → Nat
  | .dateTime _ => 2
  | _ => 1

mutual

def clauseHeight : Predicate → Nat
  | .and [] | .or [] => 2
  | .and (p :: ps) | .or (p :: ps) => chainHeight (clauseHeight p) ps
  | .not p => clauseHeight p + 1
  | .compare _ _ v => fieldHeight v + 1
  | .range _ v _ => fieldHeight v + 1
  | .oneOf _ [] => 2
  | .oneOf _ (v :: _) => fieldHeight v + 1
  | .textMatch _ _ _ => 3
  | .isNull _ => 2
  | .isNotNull _ => 3

def chainHeight (height : Nat) : List Predicate → Nat
  | [] => height
  | p :: ps => chainHeight (max height (clauseHeight p) + 1) ps

end

theorem le_chainHeight (height : Nat) (ps : List Predicate) : height ≤ chainHeight height ps := by
  induction ps generalizing height with
  | nil => exact Nat.le_refl height
  | cons p ps ih =>
    have hstep := ih (max height (clauseHeight p) + 1)
    rw [chainHeight]
    omega

mutual

def patterns : Predicate → List Param
  | .and parts => patternsOfAll parts
  | .or parts => patternsOfAll parts
  | .not part => patterns part
  | .textMatch _ mode text => [.pattern mode text]
  | .compare _ _ _ | .range _ _ _ | .oneOf _ _ | .isNull _ | .isNotNull _ => []

def patternsOfAll : List Predicate → List Param
  | [] => []
  | p :: ps => patterns p ++ patternsOfAll ps

end

def PatternsFit (ps : List Param) : Prop := ∀ p ∈ ps, p.cell.bytes.length ≤ 50000

instance (ps : List Param) : Decidable (PatternsFit ps) :=
  inferInstanceAs (Decidable (∀ p ∈ ps, p.cell.bytes.length ≤ 50000))

def fieldExpr (field : String) (v : FieldValue) (place : List Char) : Expr :=
  match v with
  | .dateTime _ => .call "strftime" false [.literal (.text momentFormat), .quoted field] place
  | _ => .quoted field

theorem height_fieldExpr (field : String) (v : FieldValue) (place : List Char) :
    (fieldExpr field v place).height = fieldHeight v := by
  cases v <;> rfl

theorem two_lt_greatestHeight : 2 < greatestHeight := by decide

theorem fieldHeight_le (v : FieldValue) : fieldHeight v ≤ 2 := by
  cases v <;> simp [fieldHeight]

theorem height_fieldExpr_le (field : String) (v : FieldValue) (place : List Char) :
    (fieldExpr field v place).height ≤ greatestHeight := by
  rw [height_fieldExpr]
  exact Nat.le_trans (fieldHeight_le v) (Nat.le_of_lt two_lt_greatestHeight)

theorem readOperand_field (field : String) (v : FieldValue) (ls : List Lexeme)
    (h : Spells ls (fieldTokens field v)) :
    ∃ place, ∀ fuel rest, endsName rest = true →
      readOperand (fuel + 8) (ls ++ rest) = .ok (fieldExpr field v place, rest) := by
  have hplain (ls : List Lexeme) (h : Spells ls [.quoted field]) (fuel : Nat) (rest : List Lexeme)
      (hrest : endsName rest = true) :
      readOperand (fuel + 8) (ls ++ rest) = .ok (.quoted field, rest) := by
    obtain ⟨start, after, more, rfl, -, h⟩ := h.cons_inv
    cases h.nil_inv
    exact readOperand_quoted (fuel + 6) field start after rest hrest
  cases v with
  | dateTime t =>
    -- The field stands in a call, whose last argument is the name.
    obtain ⟨start₁, after₁, more, rfl, -, h⟩ := h.cons_inv
    obtain ⟨start₂, after₂, more, rfl, -, h⟩ := h.cons_inv
    obtain ⟨start₃, after₃, more, rfl, -, h⟩ := h.cons_inv
    obtain ⟨start₄, after₄, more, rfl, -, h⟩ := h.cons_inv
    obtain ⟨start₅, after₅, more, rfl, -, h⟩ := h.cons_inv
    obtain ⟨start₆, after₆, more, rfl, -, h⟩ := h.cons_inv
    cases h.nil_inv
    refine ⟨start₁, fun fuel rest _ => ?_⟩
    have hname := readOperand_quoted fuel field start₅ after₅
      (⟨.symbol ")", start₆, after₆⟩ :: rest) rfl
    have hformat := readOperand_text (fuel + 2) momentFormat start₃ after₃
      (⟨.symbol ",", start₄, after₄⟩ :: ⟨.quoted field, start₅, after₅⟩ ::
        ⟨.symbol ")", start₆, after₆⟩ :: rest) rfl
    have hlast := readList_last (fuel + 3) _ rest _ start₆ after₆
      (readExpr_operand (fuel + 1) .or _ _ _ hname one_le_greatestHeight rfl)
    have hlist := readList_cons (fuel + 4) _ _ _ _ _ start₄ after₄
      (readExpr_operand (fuel + 2) .or _ _ _ hformat one_le_greatestHeight rfl) hlast
    exact readOperand_call (fuel + 5) "strftime" start₁ after₁ start₂ after₂ (.text momentFormat)
      rfl start₃ after₃ _ _ start₆ after₆ rest hlist
  | _ => exact ⟨[], hplain ls h⟩

theorem check_fieldExpr (field : String) (v : FieldValue) (place : List Char) (names : Names) :
    (fieldExpr field v place).check names = .ok () := by
  cases v with
  | dateTime t =>
    have hcall : names.checkCall "strftime" false 2 place = .ok () := rfl
    rw [fieldExpr, Expr.check]
    exact bind_ok hcall _
  | _ => rfl

theorem askedName?_fieldExpr (field : String) (v : FieldValue) (place : List Char) :
    (fieldExpr field v place).askedName? = none := by
  cases v <;> rfl

theorem checkCollation_fieldExpr (field : String) (v : FieldValue) (place : List Char)
    (es : List Expr) (h : Expr.askedNameAmong? es = none) :
    Expr.checkCollation (fieldExpr field v place :: es) = .ok () := by
  rw [Expr.checkCollation, Expr.askedNameAmong?, askedName?_fieldExpr, h]
  rfl

theorem fault?_fieldExpr (field : String) (v : FieldValue) (place : List Char) (scope : Scope) :
    (fieldExpr field v place).fault? scope = none := by
  cases v <;> rfl

theorem readExpr_field (field : String) (v : FieldValue) (ls : List Lexeme)
    (h : Spells ls (fieldTokens field v)) :
    ∃ place, ∀ n rest, endsName rest = true →
      readExpr (n + 20) .or (ls ++ rest) =
        readSigns (n + 19) .or (fieldExpr field v place) rest := by
  obtain ⟨place, hread⟩ := readOperand_field field v ls h
  refine ⟨place, fun n rest hrest => ?_⟩
  rw [readExpr_succ (n + 19), bind_ok (hread (n + 11) rest hrest)]

theorem Cell.truth_ofTruth (t : Truth) : (Cell.ofTruth t).truth = t := by
  cases t <;> decide

namespace Expr

variable (scope : Scope) (a b c : Expr)

theorem eval_param (n : Nat) : (param n).eval scope = scope.param n := rfl

theorem eval_literal (cell : Cell) : (literal cell).eval scope = cell := rfl

theorem eval_call (function : String) (arguments : List Expr) (place : List Char)
    (hgrouping : isGrouping function arguments.length = false)
    (hcounts : scope.counts.call? function = none) :
    (call function false arguments place).eval scope =
      .applied (argumentCollation scope arguments) function (evalList scope arguments) := by
  refine (if_neg (Bool.eq_false_iff.mp hgrouping)).trans ?_
  rw [hcounts]
  rfl

theorem truth_or :
    ((or a b).eval scope).truth = (a.eval scope).truth.or (b.eval scope).truth :=
  Cell.truth_ofTruth _

theorem truth_and :
    ((and a b).eval scope).truth = (a.eval scope).truth.and (b.eval scope).truth :=
  Cell.truth_ofTruth _

theorem truth_not : ((not a).eval scope).truth = (a.eval scope).truth.not :=
  Cell.truth_ofTruth _

theorem truth_compare (sign : Sign) :
    ((compare sign a b).eval scope).truth =
      Cell.compareBy sign (commonAffinity scope a b) (commonCollation scope a b)
        (a.eval scope) (b.eval scope) :=
  Cell.truth_ofTruth _

theorem truth_between :
    ((between a b c).eval scope).truth =
      (Cell.compareBy .greaterOrEqual (commonAffinity scope a b) (commonCollation scope a b)
        (a.eval scope) (b.eval scope)).and
      (Cell.compareBy .lessOrEqual (commonAffinity scope a c) (commonCollation scope a c)
        (a.eval scope) (c.eval scope)) :=
  Cell.truth_ofTruth _

theorem truth_inList (items : List Expr) :
    ((inList a items).eval scope).truth =
      Cell.among ((a.affinity scope).getD .blob) (a.collation scope) (a.eval scope)
        (evalList scope items) :=
  Cell.truth_ofTruth _

theorem truth_like :
    ((like a b c).eval scope).truth =
      Cell.like (a.eval scope) (b.eval scope) (c.eval scope) :=
  Cell.truth_ofTruth _

theorem truth_isNull :
    ((isNull a).eval scope).truth = .ofBool (a.eval scope).isNull :=
  Cell.truth_ofTruth _

end Expr

/-- What a name between double quotes shows: the column of the name, or else the text that it is. -/
def Scope.shown (scope : Scope) (name : String) : Slot :=
  (scope.column none name).getD ⟨.text name, none, .binary⟩

theorem Scope.shown_of_some {scope : Scope} {name : String} {slot : Slot}
    (h : scope.column none name = some slot) : scope.shown name = slot := by
  rw [shown, h, Option.getD_some]

section Eval

variable (scope : Scope) (field : String) (v : FieldValue) (place : List Char) (slot : Slot)
  (h : scope.shown field = slot)

include h

theorem eval_quoted : (Expr.quoted field).eval scope = slot.cell := by
  rw [← h, Expr.eval, Scope.shown]
  cases scope.column none field <;> rfl

theorem eval_fieldExpr : (fieldExpr field v place).eval scope = (slot.subject v).cell := by
  cases v with
  | dateTime t =>
    have hgrouping : Expr.isGrouping "strftime" 2 = false := by decide
    refine (Expr.eval_call scope "strftime" _ place hgrouping rfl).trans ?_
    rw [Expr.evalList, Expr.evalList, Expr.evalList, eval_quoted scope field slot h]
    rfl
  | _ => exact eval_quoted scope field slot h

theorem affinity_fieldExpr :
    (fieldExpr field v place).affinity scope = (slot.subject v).affinity := by
  cases v with
  | dateTime t => rfl
  | _ =>
    change ((Expr.quoted field).affinity scope) = slot.affinity
    rw [← h, Expr.affinity, Scope.shown]
    cases scope.column none field <;> rfl

theorem columnCollation_fieldExpr :
    ((fieldExpr field v place).columnCollation? scope).getD .binary =
      (slot.subject v).collation := by
  cases v with
  | dateTime t => rfl
  | _ =>
    change ((Expr.quoted field).columnCollation? scope).getD .binary = slot.collation
    rw [← h, Expr.columnCollation?, Scope.shown]
    cases scope.column none field <;> rfl

theorem collation_fieldExpr :
    (fieldExpr field v place).collation scope = (slot.subject v).collation := by
  rw [Expr.collation, ← columnCollation_fieldExpr scope field v place slot h]
  cases v <;> rfl

theorem eval_upper :
    (Expr.call "unicode_upper" false [.quoted field] place).eval scope = slot.cell.upper := by
  have hgrouping : Expr.isGrouping "unicode_upper" 1 = false := by decide
  rw [Expr.eval_call scope "unicode_upper" _ place hgrouping rfl, Expr.evalList, Expr.evalList,
    eval_quoted scope field slot h]
  rfl

theorem compareBy_fieldExpr (sign : Sign) (n : Nat) (param : Cell) :
    Cell.compareBy sign (Expr.commonAffinity scope (fieldExpr field v place) (.param n))
        (Expr.commonCollation scope (fieldExpr field v place) (.param n))
        ((fieldExpr field v place).eval scope) param =
      (slot.subject v).compare sign param := by
  have haffinity : Expr.commonAffinity scope (fieldExpr field v place) (.param n) =
      (slot.subject v).affinity.getD .blob := by
    have hparam : (Expr.param n).affinity scope = none := rfl
    rw [Expr.commonAffinity, affinity_fieldExpr scope field v place slot h, hparam]
    cases (slot.subject v).affinity <;> rfl
  have hcollation : Expr.commonCollation scope (fieldExpr field v place) (.param n) =
      (slot.subject v).collation := by
    have hparam : (Expr.param n).columnCollation? scope = none := rfl
    rw [← columnCollation_fieldExpr scope field v place slot h, Expr.commonCollation, hparam,
      Option.or_none]
    cases v <;> rfl
  rw [haffinity, hcollation, eval_fieldExpr scope field v place slot h]
  rfl

end Eval

def ReadAs (ls : List Lexeme) (e : Expr) : Prop :=
  ∀ fuel rest, 24 * ls.length ≤ fuel → halts .or rest = true →
    readExpr fuel .or (ls ++ rest) = .ok (e, rest)

/-- The fields and the parameters after the first `k`, as an expression sees them. -/
structure Shows (scope : Scope) (column : String → Slot) (k : Nat) (fields : List String)
    (ps : List Param) : Prop where
  field : ∀ f ∈ fields, scope.shown f = column f
  params : ps.map Param.cell <+: scope.params.drop k

/-- The expression is a test, and neither a literal nor a row of values. -/
def Expr.isTest : Expr → Bool
  | .or _ _ | .and _ _ | .not _ | .compare _ _ _ | .between _ _ _ | .inList _ _ | .like _ _ _
  | .isNull _ => true
  | _ => false

/-- The expression is that of the condition of a predicate after `k` parameters. -/
structure Denotes (e : Expr) (k : Nat) (p : Predicate) : Prop where
  height : e.height = clauseHeight p
  isTest : e.isTest = true
  truth : ∀ scope column, Shows scope column k p.leafFields (params p) →
    (e.eval scope).truth = conditionTruth column p
  check : ∀ names, e.check names = .ok ()
  fault : ∀ scope column, Shows scope column k p.leafFields (params p) →
    PatternsFit (patterns p) → e.fault? scope = none

theorem Scope.param_succ (scope : Scope) (k : Nat) (c : Cell) (cs : List Cell)
    (h : c :: cs <+: scope.params.drop k) : scope.param (k + 1) = c := by
  obtain ⟨rest, hrest⟩ := h
  have hget : scope.params[k]? = some c := by
    rw [← List.head?_drop, ← hrest]
    rfl
  rw [Scope.param, hget]
  rfl

end CriteriaSearch.Sql
