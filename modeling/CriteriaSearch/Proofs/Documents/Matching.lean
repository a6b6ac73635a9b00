import CriteriaSearch.Proofs.Documents.Pattern
import CriteriaSearch.Proofs.TwoValued

/-!
# Documents that a filter finds

The meaning of filters in a store of documents: what the signs of filters and patterns stand for,
while the store decides how two values compare and which texts a pattern finds. What is not among
these signs has no meaning here. The filter of a predicate always has one, and it is the meaning of
the predicate in two truth values.
-/

namespace CriteriaSearch.Documents

/-- What a store decides: the order of a stored value and another one, if they have one, and whether
a pattern finds a stored text in any case of letters. -/
structure Interpretation where
  order : Bson → Bson → Option Ordering
  finds : Pattern → String → Bool

def Document.present? (d : Document) (field : String) : Option Bson :=
  (d.lookup field).filter fun
    | .null => false
    | _ => true

/-- The name is that of a field: it is no operator and no path into a value. -/
def isPlainName (name : String) : Bool :=
  name.toList.head? != some '$' && !name.toList.contains '.'

namespace Interpretation

variable (i : Interpretation)

def hasOrder (orders : List Ordering) (operand value : Bson) : Bool :=
  (i.order value operand).any orders.contains

/-- A value is there and has one of the orders with another one. -/
def compares (stored : Option Bson) (operand : Bson) (orders : List Ordering) : Bool :=
  stored.any (i.hasOrder orders operand)

def equals (stored : Option Bson) : Bson → Bool
  | .null => stored.isNone
  | operand => i.compares stored operand [.eq]

def findsIn (p : Pattern) : Bson → Bool
  | .text s => i.finds p s
  | _ => false

def test? (stored : Option Bson) (operator : String) (operand : Bson) : Option Bool :=
  match operator, operand with
  | "$eq", v => some (i.equals stored v)
  | "$ne", v => some (!i.equals stored v)
  | "$lt", v => some (i.compares stored v [.lt])
  | "$gt", v => some (i.compares stored v [.gt])
  | "$gte", v => some (i.compares stored v [.gt, .eq])
  | "$lte", v => some (i.compares stored v [.lt, .eq])
  | "$in", .array vs => some (vs.any (i.equals stored))
  | _, _ => none

def tests? (stored : Option Bson) : List (String × Bson) → Option Bool
  | [] => some true
  | ("$regex", .text s) :: ("$options", .text "i") :: rest => do
    let p : Pattern ← Text.Parsed.ofText? s
    let others ← tests? stored rest
    return stored.any (i.findsIn p) && others
  | (operator, operand) :: rest => do
    let holds ← i.test? stored operator operand
    let others ← tests? stored rest
    return holds && others

/-- The condition on a field: some tests, or a value that it equals. -/
def fieldHolds? (d : Document) (name : String) (condition : Bson) : Option Bool :=
  if isPlainName name then
    match condition with
    | .document (test :: tests) => i.tests? (d.present? name) (test :: tests)
    | value => some (i.equals (d.present? name) value)
  else none

def join? (name : String) (verdicts : List Bool) : Option Bool :=
  match name, verdicts with
  | _, [] => none
  | "$and", _ => some (verdicts.all id)
  | "$or", _ => some (verdicts.any id)
  | "$nor", _ => some (!verdicts.any id)
  | _, _ => none

mutual

/-- All conditions of a filter hold of a document, if the filter has a meaning. -/
def holds? (d : Document) : List (String × Bson) → Option Bool
  | [] => some true
  | (name, condition) :: rest => do
    let first ← conditionHolds? d name condition
    let others ← holds? d rest
    return first && others

def conditionHolds? (d : Document) (name : String) : Bson → Option Bool
  | .array filters =>
    if name.toList.head? = some '$' then do
      let verdicts ← verdicts? d filters
      join? name verdicts
    else i.fieldHolds? d name (.array filters)
  | condition => i.fieldHolds? d name condition

def verdicts? (d : Document) : List Bson → Option (List Bool)
  | [] => some []
  | .document filter :: rest => do
    let verdict ← holds? d filter
    let others ← verdicts? d rest
    return verdict :: others
  | _ :: _ => none

end

def reading : Reading Bson where
  equal v := i.hasOrder [.eq] (.ofValue v)
  less v := i.hasOrder [.lt] (.ofValue v)
  greater v := i.hasOrder [.gt] (.ofValue v)
  within lower upper stored :=
    i.hasOrder [.gt, .eq] (.ofValue lower) stored && i.hasOrder [.lt, .eq] (.ofValue upper) stored
  among vs stored := vs.any fun v => i.hasOrder [.eq] (.ofValue v) stored
  finds mode text stored := i.findsIn (.ofMode mode text) stored

variable (stored : Option Bson)

/-- No value of a filter is null, so that a missing field equals none of them. -/
theorem equals_ofValue (v : FieldValue) :
    i.equals stored (.ofValue v) = stored.any (i.hasOrder [.eq] (.ofValue v)) := by
  cases v with
  | number n => cases n <;> rfl
  | _ => rfl

theorem any_equals_ofValue (vs : List FieldValue) :
    (vs.map Bson.ofValue).any (i.equals stored) =
      stored.any fun value => vs.any fun v => i.hasOrder [.eq] (.ofValue v) value := by
  simp only [List.any_map, Function.comp_def, equals_ofValue]
  cases stored with
  | none => simp
  | some value => rfl

theorem tests?_cons {operator : String} (h : operator ≠ "$regex") (operand : Bson)
    (rest : List (String × Bson)) :
    i.tests? stored ((operator, operand) :: rest) =
      (i.test? stored operator operand).bind fun holds =>
        (i.tests? stored rest).map (holds && ·) := by
  rw [tests?]
  · cases i.test? stored operator operand with
    | none => rfl
    | some holds => cases i.tests? stored rest <;> rfl
  · intro s rest' _ hoperator
    exact absurd hoperator h

theorem tests?_single {operator : String} (h : operator ≠ "$regex") (operand : Bson) :
    i.tests? stored [(operator, operand)] = i.test? stored operator operand := by
  rw [tests?_cons i stored h, tests?]
  cases i.test? stored operator operand <;> simp

theorem conditionHolds?_field (d : Document) (name : String) (condition : Bson)
    (h : ∀ filters, condition ≠ .array filters) :
    i.conditionHolds? d name condition = i.fieldHolds? d name condition :=
  conditionHolds?.eq_2 i d name condition h

theorem holds?_field (d : Document) {name : String} (h : isPlainName name = true)
    (test : String × Bson) (tests : List (String × Bson)) :
    i.holds? d [(name, .document (test :: tests))] =
      i.tests? (d.present? name) (test :: tests) := by
  have hcondition := i.conditionHolds?_field d name (.document (test :: tests))
    fun filters hfilters => by cases hfilters
  rw [holds?, hcondition, fieldHolds?, if_pos h, holds?]
  cases i.tests? (d.present? name) (test :: tests) <;> simp

theorem holds?_compare (d : Document) {name : String} (h : isPlainName name = true)
    (c : Comparison) (v : FieldValue) :
    i.holds? d (filter (.compare name c v)) =
      some ((Predicate.compare name c v).twoValued i.reading d.present?) := by
  have hoperator : comparisonOperator c ≠ "$regex" := by cases c <;> decide
  rw [filter, holds?_field i d h, tests?_single i _ hoperator]
  cases c with
  | equal => exact congrArg some (i.equals_ofValue _ v)
  | notEqual => exact congrArg (fun b => some (!b)) (i.equals_ofValue _ v)
  | less => rfl
  | greater => rfl

theorem holds?_range (d : Document) {name : String} (h : isPlainName name = true)
    (lower upper : FieldValue) :
    i.holds? d (filter (.range name lower upper)) =
      some ((Predicate.range name lower upper).twoValued i.reading d.present?) := by
  rw [filter, holds?_field i d h, tests?_cons i _ (by decide), tests?_single i _ (by decide)]
  change some (i.compares _ _ [.gt, .eq] && i.compares _ _ [.lt, .eq]) = _
  rw [compares, compares, Predicate.twoValued]
  cases d.present? name <;> rfl

theorem holds?_oneOf (d : Document) {name : String} (h : isPlainName name = true)
    (vs : List FieldValue) :
    i.holds? d (filter (.oneOf name vs)) =
      some ((Predicate.oneOf name vs).twoValued i.reading d.present?) := by
  rw [filter, holds?_field i d h, tests?_single i _ (by decide)]
  exact congrArg some (i.any_equals_ofValue _ vs)

theorem holds?_textMatch (d : Document) {name : String} (h : isPlainName name = true)
    (mode : TextMode) (text : String) :
    i.holds? d (filter (.textMatch name mode text)) =
      some ((Predicate.textMatch name mode text).twoValued i.reading d.present?) := by
  have hpattern := Text.Parsed.ofText?_text (Pattern.ofMode mode text)
  rw [Pattern.ofMode] at hpattern
  rw [filter, holds?_field i d h, tests?, hpattern, tests?]
  exact congrArg some (Bool.and_true _)

theorem holds?_isNull (d : Document) {name : String} (h : isPlainName name = true) :
    i.holds? d (filter (.isNull name)) =
      some ((Predicate.isNull name).twoValued i.reading d.present?) := by
  have hcondition := i.conditionHolds?_field d name .null fun filters hfilters => by
    cases hfilters
  rw [filter, holds?, hcondition, fieldHolds?, if_pos h, holds?]
  · exact congrArg some (Bool.and_true _)
  · intro test tests htests
    cases htests

theorem holds?_isNotNull (d : Document) {name : String} (h : isPlainName name = true) :
    i.holds? d (filter (.isNotNull name)) =
      some ((Predicate.isNotNull name).twoValued i.reading d.present?) := by
  rw [filter, holds?_field i d h, tests?_single i _ (by decide)]
  change some (!(d.present? name).isNone) = some (d.present? name).isSome
  rw [Option.not_isNone]

theorem verdicts?_filters (d : Document) (ps : List Predicate)
    (h : ∀ p ∈ ps, i.holds? d (filter p) = some (p.twoValued i.reading d.present?)) :
    i.verdicts? d (filters ps) = some (ps.map (Predicate.twoValued i.reading d.present?)) := by
  induction ps with
  | nil => rfl
  | cons p ps ih =>
    rw [List.forall_mem_cons] at h
    rw [filters, verdicts?, h.1, ih h.2]
    rfl

theorem holds?_join (d : Document) {name : String} (h : name.toList.head? = some '$')
    (filters : List Bson) {verdicts : List Bool}
    (hverdicts : i.verdicts? d filters = some verdicts) :
    i.holds? d [(name, .array filters)] = join? name verdicts := by
  rw [holds?, conditionHolds?, if_pos h, hverdicts, holds?]
  cases hjoin : join? name verdicts <;> simp [hjoin]

end Interpretation

/-- The filter of a predicate on plain fields has a meaning in every store, and it holds of a
document exactly if the predicate does. -/
theorem filter_holds_eq_twoValued (i : Interpretation) (d : Document) (p : Predicate)
    (h : ∀ field ∈ p.leafFields, isPlainName field = true) :
    i.holds? d (filter p) = some (p.twoValued i.reading d.present?) := by
  induction p using Predicate.inductionOn with
  | and ps ih =>
    have hverdicts := i.verdicts?_filters d ps fun p hp =>
      ih p hp ((Predicate.leafFields_and _ ps).mp h p hp)
    rw [Predicate.twoValued, Predicate.twoValuedAll_eq]
    cases ps with
    | nil =>
      -- The empty filter holds of every document.
      rfl
    | cons p ps =>
      have hsign : "$and".toList.head? = some '$' := by decide
      exact i.holds?_join d hsign _ hverdicts
  | or ps ih =>
    have hverdicts := i.verdicts?_filters d ps fun p hp =>
      ih p hp ((Predicate.leafFields_and _ ps).mp h p hp)
    rw [Predicate.twoValued, Predicate.twoValuedAny_eq]
    cases ps with
    | nil =>
      -- None of the empty filter holds of no document.
      rfl
    | cons p ps =>
      have hsign : "$or".toList.head? = some '$' := by decide
      exact i.holds?_join d hsign _ hverdicts
  | not p ih =>
    have hverdicts := i.verdicts?_filters d [p] fun q hq => by
      cases List.mem_singleton.mp hq
      exact ih h
    have hsign : "$nor".toList.head? = some '$' := by decide
    have hjoin := i.holds?_join d hsign _ hverdicts
    rw [filters, filters] at hjoin
    rw [filter, hjoin, Predicate.twoValued]
    simp [Interpretation.join?]
  | compare field c v => exact i.holds?_compare d (h field (List.mem_singleton_self field)) c v
  | range field lower upper =>
    exact i.holds?_range d (h field (List.mem_singleton_self field)) lower upper
  | oneOf field vs => exact i.holds?_oneOf d (h field (List.mem_singleton_self field)) vs
  | textMatch field mode text =>
    exact i.holds?_textMatch d (h field (List.mem_singleton_self field)) mode text
  | isNull field => exact i.holds?_isNull d (h field (List.mem_singleton_self field))
  | isNotNull field => exact i.holds?_isNotNull d (h field (List.mem_singleton_self field))

def integerStore : Interpretation where
  order
    | .int32 m, .int32 n => some (compare m n)
    | _, _ => none
  finds p text := p.parts == text.toList.map .char

/-- Texts about the programming language, in any number of pages but three, without a tag. -/
def untaggedTexts : Predicate :=
  .and [.and [], .not (.or [.or [], .oneOf "tag" []]),
    .or [.compare "pages" .notEqual (.number (.int 3)), .isNull "title"],
    .textMatch "title" .contains "C++"]

theorem filter_holds_eq_twoValued_untagged :
    (∀ field ∈ untaggedTexts.leafFields, isPlainName field = true) ∧
      integerStore.holds? [("title", .text "C++"), ("pages", .null)] (filter untaggedTexts) =
        some true := by
  have hplain : ∀ field ∈ untaggedTexts.leafFields, isPlainName field = true := by decide
  refine ⟨hplain, (filter_holds_eq_twoValued _ _ _ hplain).trans (congrArg some ?_)⟩
  decide

end CriteriaSearch.Documents
