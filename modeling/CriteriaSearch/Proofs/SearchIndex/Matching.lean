import CriteriaSearch.Proofs.SearchIndex.Clause
import CriteriaSearch.Proofs.TwoValued

/-!
# Documents that a clause finds

The clause of a predicate says what the predicate says in two truth values, and each of its tests
asks for the field that holds the value: texts are compared as a whole, in the field with the
suffix, and all other tests are put to the field itself.
-/

namespace CriteriaSearch

def FieldValue.isText : FieldValue → Bool
  | .text _ => true
  | _ => false

namespace Predicate

mutual

def leaves : Predicate → List Predicate
  | .and parts => leavesOf parts
  | .or parts => leavesOf parts
  | .not part => leaves part
  | test => [test]

def leavesOf : List Predicate → List Predicate
  | [] => []
  | p :: ps => leaves p ++ leavesOf ps

end

theorem leavesOf_eq (ps : List Predicate) : leavesOf ps = ps.flatMap leaves := by
  induction ps with
  | nil => rfl
  | cons p ps ih => rw [leavesOf, List.flatMap_cons, ih]

/-- The values of a set are texts, or none of them is. Other predicates are no sets. -/
def hasPlainSet : Predicate → Bool
  | .oneOf _ values => values.all FieldValue.isText || values.all fun v => !v.isText
  | _ => true

end Predicate

namespace SearchIndex

namespace Interpretation

variable {α : Type} (i : Interpretation α)

/-- The tests of predicates as the index decides them. A test for a text finds texts alone. -/
def reading : Reading α where
  equal v stored := (!v.isText || i.isText stored) && i.term (valueToJson v) stored
  less v stored := i.range [(.below, valueToJson v)] stored
  greater v stored := i.range [(.above, valueToJson v)] stored
  within lower upper stored :=
    i.range [(.atLeast, valueToJson lower), (.atMost, valueToJson upper)] stored
  among vs stored :=
    !vs.isEmpty && (!vs.all FieldValue.isText || i.isText stored) &&
      i.terms (vs.map valueToJson) stored
  finds mode text stored := i.isText stored && i.wildcard (.ofMode mode text) true stored

end Interpretation

inductive TestKind where
  | term
  | terms
  | range
  | wildcard
  | present
  deriving DecidableEq, Repr

def Test.kind : Test → TestKind
  | .term _ => .term
  | .terms _ => .terms
  | .range _ => .range
  | .wildcard _ _ => .wildcard
  | .present => .present

/-- A question to an index: of which kind, for which field, and whether for its whole text. -/
structure Question where
  kind : TestKind
  field : String
  wholeText : Bool
  deriving DecidableEq, Repr

namespace Question

/-- The question of a test. Nothing is asked for a set without values. -/
def of? : Predicate → Option Question
  | .compare field .equal v => some ⟨.term, field, v.isText⟩
  | .compare field .notEqual v => some ⟨.term, field, v.isText⟩
  | .compare field .less _ => some ⟨.range, field, false⟩
  | .compare field .greater _ => some ⟨.range, field, false⟩
  | .range field _ _ => some ⟨.range, field, false⟩
  | .oneOf _ [] => none
  | .oneOf field (v :: vs) => some ⟨.terms, field, (v :: vs).all FieldValue.isText⟩
  | .textMatch field _ _ => some ⟨.wildcard, field, true⟩
  | .isNull field => some ⟨.present, field, false⟩
  | .isNotNull field => some ⟨.present, field, false⟩
  | .and _ => none
  | .or _ => none
  | .not _ => none

def all (p : Predicate) : List Question := p.leaves.filterMap of?

/-- The kind of a question and the field of the index that it is put to. -/
def address (d : Dialect) (q : Question) : TestKind × String :=
  (q.kind, if q.wholeText then d.keyword q.field else q.field)

theorem all_and (ps : List Predicate) : all (.and ps) = ps.flatMap all := by
  have hleaves : (Predicate.and ps).leaves = ps.flatMap Predicate.leaves :=
    Predicate.leavesOf_eq ps
  rw [all, hleaves, List.filterMap_flatMap]
  rfl

theorem all_or (ps : List Predicate) : all (.or ps) = ps.flatMap all := all_and ps

end Question

def Clause.addresses (c : Clause) : List (TestKind × String) :=
  c.tests.map fun (field, test) => (test.kind, field)

section

variable {α : Type} (d : Dialect) (i : Interpretation α) (fields : String → Option α)

/-- The fields that are asked for whole texts have them in the fields with the suffix. -/
def KeepsTexts (p : Predicate) : Prop :=
  ∀ q ∈ Question.all p, q.wholeText = true →
    fields (d.keyword q.field) = (fields q.field).filter i.isText

/-- The clause of a predicate is read as a clause that holds exactly if the predicate does, and that
puts each question of the predicate to the field that answers it. -/
structure Expresses (p : Predicate) (c : Clause) : Prop where
  ofJson?_eq : Clause.ofJson? (d.clause p) = some c
  holds_eq : i.holds fields c = p.twoValued i.reading fields
  addresses_eq : c.addresses = (Question.all p).map (Question.address d)

end

section

variable {α : Type} {d : Dialect} {i : Interpretation α} {fields : String → Option α}

theorem any_filter (stored : Option α) (keeps holds : α → Bool) :
    (stored.filter keeps).any holds = stored.any fun value => keeps value && holds value := by
  cases stored with
  | none => rfl
  | some value =>
    by_cases h : keeps value = true
    · rw [Option.filter_some_pos h, Option.any_some, Option.any_some, h, Bool.true_and]
    · rw [Option.filter_some_neg (Bool.eq_false_iff.mpr h), Option.any_some,
        Bool.eq_false_iff.mpr h, Bool.false_and]
      rfl

/-- A test of the field that a question is put to. It finds texts alone if it asks for them. -/
theorem any_address (wholeText : Bool) (field : String) (holds : α → Bool)
    (h : wholeText = true → fields (d.keyword field) = (fields field).filter i.isText) :
    (fields (if wholeText then d.keyword field else field)).any holds =
      (fields field).any fun value => (!wholeText || i.isText value) && holds value := by
  cases wholeText with
  | true =>
    rw [if_pos rfl, h rfl, any_filter]
    rfl
  | false => rfl

theorem exactField_eq (field : String) (v : FieldValue) :
    d.exactField field v = if v.isText then d.keyword field else field := by
  cases v <;> rfl

theorem KeepsTexts.whole {p : Predicate} {q : Question} (h : KeepsTexts d i fields p)
    (hq : Question.all p = [q]) (hwhole : q.wholeText = true) :
    fields (d.keyword q.field) = (fields q.field).filter i.isText := by
  apply h q _ hwhole
  rw [hq]
  exact List.mem_singleton_self q

theorem expresses_equal (field : String) (v : FieldValue)
    (h : KeepsTexts d i fields (.compare field .equal v)) :
    Expresses d i fields (.compare field .equal v)
      (.leaf (d.exactField field v) (.term (valueToJson v))) where
  ofJson?_eq := rfl
  holds_eq := by
    rw [Interpretation.holds, Interpretation.testHolds, exactField_eq, Predicate.twoValued]
    exact any_address _ _ _ (h.whole rfl)
  addresses_eq := by
    rw [exactField_eq]
    rfl

theorem expresses_notEqual (field : String) (v : FieldValue)
    (h : KeepsTexts d i fields (.compare field .notEqual v)) :
    Expresses d i fields (.compare field .notEqual v)
      (.noneOf [.leaf (d.exactField field v) (.term (valueToJson v))]) where
  ofJson?_eq := rfl
  holds_eq := by
    have hequal := (expresses_equal (d := d) field v h).holds_eq
    rw [Interpretation.holds, Interpretation.anyHolds, Interpretation.anyHolds, hequal,
      Bool.or_false, Predicate.twoValued, Predicate.twoValued]
  addresses_eq := (expresses_equal field v h).addresses_eq

theorem expresses_less (field : String) (v : FieldValue) :
    Expresses d i fields (.compare field .less v)
      (.leaf field (.range [(.below, valueToJson v)])) :=
  ⟨rfl, rfl, rfl⟩

theorem expresses_greater (field : String) (v : FieldValue) :
    Expresses d i fields (.compare field .greater v)
      (.leaf field (.range [(.above, valueToJson v)])) :=
  ⟨rfl, rfl, rfl⟩

theorem expresses_range (field : String) (lower upper : FieldValue) :
    Expresses d i fields (.range field lower upper)
      (.leaf field (.range [(.atLeast, valueToJson lower), (.atMost, valueToJson upper)])) :=
  ⟨rfl, rfl, rfl⟩

theorem expresses_oneOf_nil (field : String) :
    Expresses d i fields (.oneOf field []) .matchNone where
  ofJson?_eq := rfl
  holds_eq := by
    rw [Interpretation.holds, Predicate.twoValued]
    cases fields field <;> rfl
  addresses_eq := rfl

/-- The first value of a set tells whether it is a set of texts. -/
theorem isText_head (field : String) (v : FieldValue) (vs : List FieldValue)
    (h : (Predicate.oneOf field (v :: vs)).hasPlainSet = true) :
    v.isText = (v :: vs).all FieldValue.isText := by
  rw [Predicate.hasPlainSet, Bool.or_eq_true] at h
  rcases h with h | h
  · rw [h]
    exact List.all_eq_true.mp h v List.mem_cons_self
  · have hfirst := List.all_eq_true.mp h v List.mem_cons_self
    rw [Bool.not_eq_true'] at hfirst
    rw [List.all_cons, hfirst, Bool.false_and]

theorem expresses_oneOf_cons (field : String) (v : FieldValue) (vs : List FieldValue)
    (hset : (Predicate.oneOf field (v :: vs)).hasPlainSet = true)
    (h : KeepsTexts d i fields (.oneOf field (v :: vs))) :
    Expresses d i fields (.oneOf field (v :: vs))
      (.leaf (d.exactField field v) (.terms ((v :: vs).map valueToJson))) where
  ofJson?_eq := rfl
  holds_eq := by
    rw [Interpretation.holds, Interpretation.testHolds, exactField_eq,
      isText_head field v vs hset, Predicate.twoValued]
    exact any_address _ _ _ (h.whole rfl)
  addresses_eq := by
    rw [exactField_eq, isText_head field v vs hset]
    rfl

theorem expresses_textMatch (field : String) (mode : TextMode) (text : String)
    (h : KeepsTexts d i fields (.textMatch field mode text)) :
    Expresses d i fields (.textMatch field mode text)
      (.leaf (d.keyword field) (.wildcard (.ofMode mode text) true)) where
  ofJson?_eq := by
    have hpattern := Text.Parsed.ofText?_text (Wildcard.ofMode mode text)
    rw [Wildcard.ofMode] at hpattern
    change (Test.ofJson? "wildcard" _).map (Clause.leaf (d.keyword field)) = _
    rw [Test.ofJson?, hpattern]
    rfl
  holds_eq := any_address true field _ (h.whole rfl)
  addresses_eq := rfl

theorem expresses_isNotNull (field : String) :
    Expresses d i fields (.isNotNull field) (.leaf field .present) :=
  ⟨rfl, rfl, rfl⟩

theorem expresses_isNull (field : String) :
    Expresses d i fields (.isNull field) (.noneOf [.leaf field .present]) where
  ofJson?_eq := rfl
  holds_eq := by
    rw [Interpretation.holds, Interpretation.anyHolds, Interpretation.anyHolds, Bool.or_false,
      Predicate.twoValued]
    exact Option.not_isSome _
  addresses_eq := rfl

theorem expresses_not {p : Predicate} {c : Clause} (h : Expresses d i fields p c) :
    Expresses d i fields (.not p) (.noneOf [c]) where
  ofJson?_eq := by
    have hread : Clause.ofJsons? [d.clause p] = some [c] := by
      rw [Clause.ofJsons?, h.ofJson?_eq]
      rfl
    change (Clause.ofJsons? [d.clause p]).map Clause.noneOf = _
    rw [hread]
    rfl
  holds_eq := by
    rw [Interpretation.holds, Interpretation.anyHolds, Interpretation.anyHolds, Bool.or_false,
      h.holds_eq, Predicate.twoValued]
  addresses_eq := by
    have htests : (Clause.noneOf [c]).tests = c.tests := List.append_nil _
    rw [Clause.addresses, htests]
    exact h.addresses_eq

variable {ps : List Predicate} {cs : List Clause}

theorem ofJsons?_clauses (h : List.Forall₂ (Expresses d i fields) ps cs) :
    Clause.ofJsons? (d.clauses ps) = some cs := by
  induction h with
  | nil => rfl
  | cons hp _ ih =>
    rw [Dialect.clauses, Clause.ofJsons?, hp.ofJson?_eq, ih]
    rfl

theorem allHold_eq (h : List.Forall₂ (Expresses d i fields) ps cs) :
    i.allHold fields cs = Predicate.twoValuedAll i.reading fields ps := by
  induction h with
  | nil => rfl
  | cons hp _ ih => rw [Interpretation.allHold, Predicate.twoValuedAll, hp.holds_eq, ih]

theorem anyHolds_eq (h : List.Forall₂ (Expresses d i fields) ps cs) :
    i.anyHolds fields cs = Predicate.twoValuedAny i.reading fields ps := by
  induction h with
  | nil => rfl
  | cons hp _ ih => rw [Interpretation.anyHolds, Predicate.twoValuedAny, hp.holds_eq, ih]

theorem addresses_testsOf (h : List.Forall₂ (Expresses d i fields) ps cs) :
    (Clause.testsOf cs).map (fun (field, test) => (test.kind, field)) =
      (ps.flatMap Question.all).map (Question.address d) := by
  induction h with
  | nil => rfl
  | cons hp _ ih =>
    rw [Clause.testsOf, List.map_append, List.flatMap_cons, List.map_append, ih]
    exact congrArg (· ++ _) hp.addresses_eq

theorem expresses_and (h : List.Forall₂ (Expresses d i fields) ps cs) :
    ∃ c, Expresses d i fields (.and ps) c := by
  -- Nothing to hold has a clause of its own, since the empty list of clauses is not written.
  cases h with
  | nil => exact ⟨.matchAll, rfl, rfl, rfl⟩
  | @cons p c ps cs hp hps =>
    have hall := List.Forall₂.cons hp hps
    refine ⟨.allOf (c :: cs), ?_, allHold_eq hall, ?_⟩
    · change (Clause.ofJsons? (d.clauses (p :: ps))).map Clause.allOf = _
      rw [ofJsons?_clauses hall]
      rfl
    · rw [Question.all_and]
      exact addresses_testsOf hall

theorem expresses_or (h : List.Forall₂ (Expresses d i fields) ps cs) :
    ∃ c, Expresses d i fields (.or ps) c := by
  cases h with
  | nil => exact ⟨.matchNone, rfl, rfl, rfl⟩
  | @cons p c ps cs hp hps =>
    have hall := List.Forall₂.cons hp hps
    refine ⟨.anyOf (c :: cs), ?_, anyHolds_eq hall, ?_⟩
    · change (Clause.ofJsons? (d.clauses (p :: ps))).map Clause.anyOf = _
      rw [ofJsons?_clauses hall]
      rfl
    · rw [Question.all_or]
      exact addresses_testsOf hall

theorem exists_clauses (h : ∀ p ∈ ps, ∃ c, Expresses d i fields p c) :
    ∃ cs, List.Forall₂ (Expresses d i fields) ps cs := by
  induction ps with
  | nil => exact ⟨[], .nil⟩
  | cons p ps ih =>
    rw [List.forall_mem_cons] at h
    obtain ⟨⟨c, hc⟩, hps⟩ := h
    obtain ⟨cs, hcs⟩ := ih hps
    exact ⟨c :: cs, .cons hc hcs⟩

/-- What holds of the tests and questions of some predicates holds of those of each one. -/
theorem parts_suit {p : Predicate} (hp : p ∈ ps)
    (hsets : ∀ q ∈ (Predicate.and ps).leaves, q.hasPlainSet = true)
    (htexts : KeepsTexts d i fields (.and ps)) :
    (∀ q ∈ p.leaves, q.hasPlainSet = true) ∧ KeepsTexts d i fields p := by
  constructor
  · intro q hq
    apply hsets q
    rw [Predicate.leaves, Predicate.leavesOf_eq]
    exact List.mem_flatMap.mpr ⟨p, hp, hq⟩
  · intro q hq
    apply htexts q
    rw [Question.all_and]
    exact List.mem_flatMap.mpr ⟨p, hp, hq⟩

end

/-- An index that compares integers and whole values, and whose wildcards find whole texts. -/
def plainIndex : Interpretation Json where
  isText stored := stored.text?.isSome
  term v stored := v.same stored
  terms vs stored := vs.any fun v => v.same stored
  range bounds stored := bounds.all fun (bound, v) =>
    match stored, v with
    | .integer m, .integer n =>
      match bound with
      | .below => m < n
      | .above => m > n
      | .atLeast => m ≥ n
      | .atMost => m ≤ n
    | _, _ => false
  wildcard pattern _ stored := stored.text?.any fun text =>
    pattern.parts == WildcardPart.partsOf .contains text.toList

def bookFields (name : String) : Option Json :=
  [("title", .text "C*"), ("title.keyword", .text "C*"), ("pages", .integer 200)].lookup name

/-- Long books with a star in the title, of no author and without a tag. -/
def longBooks : Predicate :=
  .and [.and [], .not (.or [.or [], .oneOf "tag" []]),
    .or [.compare "title" .notEqual (.text "C*"), .oneOf "pages" [.number (.int 200)]],
    .textMatch "title" .contains "C*", .range "pages" (.number (.int 100)) (.number (.int 300)),
    .isNull "author"]

end SearchIndex

end CriteriaSearch
