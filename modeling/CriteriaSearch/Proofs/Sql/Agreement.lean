import CriteriaSearch.Proofs.Sql.Pattern
import CriteriaSearch.Proofs.Sql.Stored

/-!
# Tables and rows in memory

The condition that a compiled request becomes in SQL finds a stored row exactly if its predicate
holds of the row in memory, as long as binding keeps the values of the request on their side of the
stored ones.
-/

namespace CriteriaSearch

namespace Predicate

mutual

/-- The tests of the row come out for the values of a predicate as for what is bound for them, and
its texts can be looked for with patterns. -/
def IsKept (row : Json) : Predicate → Prop
  | .and parts => IsKeptAll row parts
  | .or parts => IsKeptAll row parts
  | .not part => IsKept row part
  | .compare field c v =>
    ∀ stored, row.present? field = some stored → v.IsKept (Sql.signOf c) stored
  | .range field lower upper => ∀ stored, row.present? field = some stored →
    lower.IsKept .greaterOrEqual stored ∧ upper.IsKept .lessOrEqual stored
  | .oneOf field vs =>
    ∀ stored, row.present? field = some stored → ∀ v ∈ vs, v.IsKept .equal stored
  | .textMatch field _ text => Sql.isPatternText text = true ∧
    ∀ s, row.present? field = some (.text s) → Sql.isPatternText s = true
  | .isNull _ => True
  | .isNotNull _ => True

def IsKeptAll (row : Json) : List Predicate → Prop
  | [] => True
  | p :: ps => IsKept row p ∧ IsKeptAll row ps

end

theorem isKeptAll_iff (row : Json) (ps : List Predicate) :
    IsKeptAll row ps ↔ ∀ p ∈ ps, p.IsKept row := by
  induction ps with
  | nil => simp [IsKeptAll]
  | cons p ps ih => rw [IsKeptAll, ih, List.forall_mem_cons]

theorem isKept_and (row : Json) (ps : List Predicate) :
    (Predicate.and ps).IsKept row ↔ ∀ p ∈ ps, p.IsKept row := by
  rw [IsKept, isKeptAll_iff]

theorem isKept_or (row : Json) (ps : List Predicate) :
    (Predicate.or ps).IsKept row ↔ ∀ p ∈ ps, p.IsKept row := by
  rw [IsKept, isKeptAll_iff]

theorem isKept_any (row : Json) (ps : List Predicate) (p : Predicate) (h : any ps = some p) :
    p.IsKept row ↔ ∀ q ∈ ps, q.IsKept row := by
  rcases ps with _ | ⟨a, _ | ⟨b, rest⟩⟩
  · cases h
  · cases h
    simp
  · cases h
    exact isKept_or row (a :: b :: rest)

end Predicate

namespace Sql

namespace Slot

theorem compare_some (slot : Slot) (sign : Sign) (v : FieldValue) (o : Ordering)
    (h : slot.orderWith v = some o) :
    (slot.subject v).compare sign (Param.ofValue v).cell = .ofBool (sign.holds o) := by
  unfold orderWith at h
  rw [compare, Cell.compareBy, h]

theorem compare_none (slot : Slot) (sign : Sign) (v : FieldValue) (h : slot.orderWith v = none) :
    (slot.subject v).compare sign (Param.ofValue v).cell = .unknown := by
  unfold orderWith at h
  rw [compare, Cell.compareBy, h]

theorem subject_congr (slot : Slot) (v w : FieldValue) (h : v.fieldType = w.fieldType) :
    slot.subject v = slot.subject w := by
  cases v <;> cases w <;> first | rfl | cases h

namespace Stores

variable {t : FieldType} {row : Json} {field : String} {slot : Slot}

theorem compare_eq (h : Stores t (row.present? field) slot) (c : Comparison) (v : FieldValue)
    (htype : v.fieldType = t) (hsound : v.IsSound)
    (hkept : ∀ stored, row.present? field = some stored → v.IsKept (signOf c) stored) :
    (slot.subject v).compare (signOf c) (Param.ofValue v).cell =
      Predicate.testField row field fun stored => c.holds (stored.compareWith v) := by
  generalize hfield : row.present? field = j at h
  rw [Predicate.testField, hfield]
  cases h with
  | missing _ hnull => exact slot.compare_none _ v (slot.orderWith_missing hnull v)
  | present a stored ha hstored =>
    obtain ⟨o, o', hmemory, htable, hagree⟩ :=
      orderWith_present (signOf c) a t stored v ha hstored htype hsound (hkept stored hfield)
    have hholds : c.holds (some o) = (signOf c).holds o := by
      cases c <;> cases o <;> rfl
    rw [compare_some _ _ v o' htable, ← hagree, ← hholds, ← hmemory]

theorem range_eq (h : Stores t (row.present? field) slot) (lower upper : FieldValue)
    (hlower : lower.fieldType = t ∧ lower.IsSound) (hupper : upper.fieldType = t ∧ upper.IsSound)
    (hkept : ∀ stored, row.present? field = some stored →
      lower.IsKept .greaterOrEqual stored ∧ upper.IsKept .lessOrEqual stored) :
    ((slot.subject lower).compare .greaterOrEqual (Param.ofValue lower).cell).and
        ((slot.subject lower).compare .lessOrEqual (Param.ofValue upper).cell) =
      Predicate.testField row field (Predicate.withinRange lower upper) := by
  -- The column takes the form for the lower end, which is that for the upper end as well.
  have hsubject : (slot.subject lower).compare .lessOrEqual (Param.ofValue upper).cell =
      (slot.subject upper).compare .lessOrEqual (Param.ofValue upper).cell := by
    rw [slot.subject_congr lower upper (hlower.1.trans hupper.1.symm)]
  rw [hsubject]
  generalize hfield : row.present? field = j at h
  rw [Predicate.testField, hfield]
  cases h with
  | missing _ hnull =>
    rw [slot.compare_none _ lower (slot.orderWith_missing hnull lower),
      slot.compare_none _ upper (slot.orderWith_missing hnull upper)]
    rfl
  | present a stored ha hstored =>
    obtain ⟨o, o', hmemory, htable, hagree⟩ := orderWith_present .greaterOrEqual a t stored lower ha
      hstored hlower.1 hlower.2 (hkept stored hfield).1
    obtain ⟨q, q', hmemory', htable', hagree'⟩ := orderWith_present .lessOrEqual a t stored upper ha
      hstored hupper.1 hupper.2 (hkept stored hfield).2
    rw [compare_some _ _ lower o' htable, compare_some _ _ upper q' htable', ← hagree, ← hagree']
    dsimp only
    rw [Predicate.withinRange, hmemory, hmemory']
    cases o <;> cases q <;> rfl

theorem among_eq (h : Stores t (row.present? field) slot) (v : FieldValue) (vs : List FieldValue)
    (hvs : ∀ w ∈ v :: vs, w.fieldType = t ∧ w.IsSound)
    (hkept : ∀ stored, row.present? field = some stored → ∀ w ∈ v :: vs, w.IsKept .equal stored) :
    (slot.subject v).among ((v :: vs).map fun w => (Param.ofValue w).cell) =
      Predicate.testField row field fun stored =>
        (v :: vs).any fun w => stored.compareWith w == some .eq := by
  -- Membership is the disjunction of single tests, each of which agrees.
  have htests (ws : List FieldValue) (hws : ∀ w ∈ ws, w ∈ v :: vs) :
      (slot.subject v).among (ws.map fun w => (Param.ofValue w).cell) =
        (ws.map fun w => Predicate.testField row field fun stored =>
          stored.compareWith w == some .eq).foldr Truth.or .no := by
    rw [Slot.among, Cell.among, List.map_map]
    congr 1
    apply List.map_congr_left
    intro w hw
    have htype := (hvs w (hws w hw)).1
    rw [Function.comp_apply, slot.subject_congr v w ((hvs v List.mem_cons_self).1.trans htype.symm)]
    exact h.compare_eq .equal w htype (hvs w (hws w hw)).2 fun stored hstored =>
      hkept stored hstored w (hws w hw)
  have hpresent (stored : Json) (ws : List FieldValue) :
      (ws.map fun w => Truth.ofBool (stored.compareWith w == some .eq)).foldr Truth.or .no =
        .ofBool (ws.any fun w => stored.compareWith w == some .eq) := by
    induction ws with
    | nil => rfl
    | cons w ws ih =>
      rw [List.map_cons, List.foldr_cons, ih, List.any_cons]
      cases stored.compareWith w == some .eq <;> rfl
  have hmissing (ws : List FieldValue) :
      ((v :: ws).map fun _ => Truth.unknown).foldr Truth.or .no = .unknown := by
    induction ws with
    | nil => rfl
    | cons w ws ih =>
      rw [List.map_cons, List.foldr_cons] at ih ⊢
      rw [List.map_cons, List.foldr_cons, ih]
      rfl
  rw [htests (v :: vs) fun w hw => hw]
  unfold Predicate.testField
  cases row.present? field with
  | none => exact hmissing vs
  | some stored => exact hpresent stored (v :: vs)

theorem like_eq (h : Stores .string (row.present? field) slot) (mode : TextMode) (text : String)
    (htext : isPatternText text = true)
    (hstored : ∀ s, row.present? field = some (.text s) → isPatternText s = true) :
    Cell.like slot.cell.upper (Param.pattern mode text).cell (.text "\\") =
      Predicate.testField row field (Predicate.textHolds mode text) := by
  generalize hfield : row.present? field = j at h
  rw [Predicate.testField, hfield]
  cases h with
  | missing _ hnull =>
    rw [hnull]
    rfl
  | present a stored ha htyped =>
    cases htyped with
    | string s =>
      have hcell : (Store.paramOfJson (.text s)).cell.store a = .text s := by
        rcases ha with rfl | rfl <;> rfl
      rw [hcell]
      exact like_pattern mode text s htext (hstored s hfield)

theorem isNull_eq (h : Stores t (row.present? field) slot) :
    slot.cell.isNull = (row.present? field).isNone := by
  generalize row.present? field = j at h
  cases h with
  | missing _ hnull =>
    rw [hnull]
    rfl
  | present a stored ha htyped =>
    cases htyped with
    | string s => rcases ha with rfl | rfl <;> rfl
    | date d cs hw hd =>
      change ((Cell.text (String.ofList cs)).store a).isNull = false
      rw [store_writes hw hd a]
      rfl
    | boolean b =>
      exact Cell.IsNumber.isNull_eq (Cell.place_store a ha _ (isExact_boolean b)).1
    | number _ hexact =>
      exact Cell.IsNumber.isNull_eq (Cell.place_store a ha _ (isExact_paramOfJson stored hexact)).1

end Stores

end Slot

section Conditions

variable (column : String → Slot) (row : Json)

theorem conditionTruth_and (ps : List Predicate) :
    conditionTruth column (.and ps) = .yes ↔ ∀ p ∈ ps, conditionTruth column p = .yes := by
  rw [conditionTruth]
  induction ps with
  | nil => simp [conditionTruthAll]
  | cons p ps ih => rw [conditionTruthAll, Truth.and_eq_yes, ih, List.forall_mem_cons]

theorem conditionTruth_or (ps : List Predicate) :
    conditionTruth column (.or ps) = .yes ↔ ∃ p ∈ ps, conditionTruth column p = .yes := by
  rw [conditionTruth]
  induction ps with
  | nil => simp [conditionTruthAny]
  | cons p ps ih =>
    rw [conditionTruthAny, Truth.or_eq_yes, ih]
    simp only [List.mem_cons, exists_eq_or_imp]

/-- The condition of a predicate holds of a stored row if the predicate holds of the row, and only
then. -/
def Matches (p : Predicate) : Prop := conditionTruth column p = .yes ↔ p.holds row = true

variable {column row}

theorem matches_and (ps : List Predicate) (h : ∀ p ∈ ps, Matches column row p) :
    Matches column row (.and ps) := by
  rw [Matches, conditionTruth_and, Predicate.holds_and]
  exact forall₂_congr h

theorem matches_or (ps : List Predicate) (h : ∀ p ∈ ps, Matches column row p) :
    Matches column row (.or ps) := by
  rw [Matches, conditionTruth_or, Predicate.holds_or]
  exact exists_congr fun p => and_congr_right fun hp => h p hp

theorem matches_of_eq (p : Predicate) (h : conditionTruth column p = p.evaluate row) :
    Matches column row p := by
  rw [Matches, h, Predicate.holds_iff]

section Field

variable {t : FieldType} {field : String}
  (h : Slot.Stores t (row.present? field) (column field))
include h

theorem matches_compare (c : Comparison) (v : FieldValue) (hv : v.fieldType = t ∧ v.IsSound)
    (hkept : (Predicate.compare field c v).IsKept row) :
    Matches column row (.compare field c v) := by
  apply matches_of_eq
  exact h.compare_eq c v hv.1 hv.2 hkept

theorem matches_range (lower upper : FieldValue) (hlower : lower.fieldType = t ∧ lower.IsSound)
    (hupper : upper.fieldType = t ∧ upper.IsSound)
    (hkept : (Predicate.range field lower upper).IsKept row) :
    Matches column row (.range field lower upper) := by
  apply matches_of_eq
  exact h.range_eq lower upper hlower hupper hkept

theorem matches_isNull : Matches column row (.isNull field) := by
  apply matches_of_eq
  exact congrArg Truth.ofBool h.isNull_eq

theorem matches_isNotNull : Matches column row (.isNotNull field) := by
  apply matches_of_eq
  rw [conditionTruth, Predicate.evaluate, h.isNull_eq, Truth.ofBool_not, Option.not_isNone]

/-- A negated condition is read beside a test that its field is present, so that it need only agree
where the field is. -/
theorem matches_presentAndNot (p : Predicate)
    (hp : row.present? field ≠ none → conditionTruth column p = p.evaluate row) :
    Matches column row (.presentAndNot field p) := by
  have hpresent := matches_isNotNull h
  by_cases hfield : row.present? field = none
  · -- Neither side finds a row without the field.
    have hmissing : (Predicate.isNotNull field).holds row = false := by
      rw [Predicate.holds, Predicate.evaluate, hfield]
      rfl
    have hcondition : conditionTruth column (.isNotNull field) ≠ .yes := by
      rw [Matches, hmissing] at hpresent
      exact fun hyes => Bool.false_ne_true (hpresent.mp hyes)
    rw [Matches, Predicate.presentAndNot, conditionTruth_and, Predicate.holds_and]
    constructor
    · intro hall
      exact absurd (hall _ List.mem_cons_self) hcondition
    · intro hall
      rw [hall _ List.mem_cons_self] at hmissing
      cases hmissing
  · apply matches_and
    simp only [List.forall_mem_cons, List.not_mem_nil, false_implies, implies_true, and_true]
    refine ⟨hpresent, matches_of_eq _ ?_⟩
    rw [conditionTruth, Predicate.evaluate, hp hfield]

end Field

theorem conditionTruth_textMatch {field : String}
    (h : Slot.Stores .string (row.present? field) (column field)) (mode : TextMode) (text : String)
    (hkept : (Predicate.textMatch field mode text).IsKept row) :
    conditionTruth column (.textMatch field mode text) =
      (Predicate.textMatch field mode text).evaluate row := by
  exact h.like_eq mode text hkept.1 hkept.2

/-- Membership agrees where the field is present. Among no values, a missing one is unknown in
memory, while the condition of SQL is false. -/
theorem conditionTruth_oneOf {t : FieldType} {field : String}
    (h : Slot.Stores t (row.present? field) (column field)) (vs : List FieldValue)
    (hvs : ∀ v ∈ vs, v.fieldType = t ∧ v.IsSound)
    (hkept : (Predicate.oneOf field vs).IsKept row) :
    (row.present? field ≠ none → conditionTruth column (.oneOf field vs) =
      (Predicate.oneOf field vs).evaluate row) ∧ Matches column row (.oneOf field vs) := by
  cases vs with
  -- Nothing is among no values, whether it is there or not; in memory a missing value is unknown.
  | nil =>
    constructor
    · intro hfield
      obtain ⟨stored, hstored⟩ := Option.ne_none_iff_exists'.mp hfield
      rw [conditionTruth, Predicate.evaluate, Predicate.testField, hstored]
      rfl
    · rw [Matches, conditionTruth, Predicate.holds_iff, Predicate.evaluate, Predicate.testField]
      cases row.present? field <;> simp [Truth.ofBool]
  | cons v vs =>
    have heq : conditionTruth column (.oneOf field (v :: vs)) =
        (Predicate.oneOf field (v :: vs)).evaluate row :=
      h.among_eq v vs hvs hkept
    exact ⟨fun _ => heq, matches_of_eq _ heq⟩

end Conditions

theorem wholeDay?_sound (s : String) (first last : DateTime)
    (h : DateTime.wholeDay? s = some (first, last)) :
    (FieldValue.dateTime first).IsSound ∧ (FieldValue.dateTime last).IsSound := by
  unfold DateTime.wholeDay? at h
  split at h
  · obtain ⟨d, -, hd⟩ := Option.map_eq_some_iff.mp h
    cases hd
    have hmidnight : ¬1000000000 ≤ 0 := by decide
    have hend : ¬1000000000 ≤ 999999999 := by decide
    exact ⟨fun hlarge => absurd hlarge hmidnight, fun hlarge => absurd hlarge hend⟩
  · cases h

/-- The condition of a filter holds of a stored row exactly if its predicate holds of the row. -/
theorem matches_filter (column : String → Slot) (row : Json) (key : String) (t : FieldType)
    (p : Predicate) (hp : FilterTerm key t p)
    (hstores : Slot.Stores t (row.present? key) (column key)) (hkept : p.IsKept row) :
    Matches column row p := by
  have hsound := FieldValue.isSound_of_reads t
  -- One case for each form that the predicate of a filter can have.
  cases hp with
  | equal v hv => exact matches_compare hstores .equal v (hsound v hv) hkept
  | wholeDay s first last ht hday =>
    obtain ⟨hfirst, hlast⟩ := wholeDay?_sound s first last hday
    exact matches_range hstores _ _ ⟨ht.symm, hfirst⟩ ⟨ht.symm, hlast⟩ hkept
  | notEqual v hv =>
    rw [Predicate.isKept_and] at hkept
    apply matches_and
    simp only [List.forall_mem_cons, List.not_mem_nil, false_implies, implies_true, and_true]
      at hkept ⊢
    exact ⟨matches_isNotNull hstores, matches_compare hstores .notEqual v (hsound v hv) hkept.2⟩
  | less v ht hv => exact matches_compare hstores .less v (hsound v hv) hkept
  | greater v ht hv => exact matches_compare hstores .greater v (hsound v hv) hkept
  | between lower upper ht hlower hupper =>
    exact matches_range hstores lower upper (hsound lower hlower) (hsound upper hupper) hkept
  | textMatch mode s ht =>
    subst ht
    exact matches_of_eq _ (conditionTruth_textMatch hstores mode s hkept)
  | notContains s ht =>
    subst ht
    rw [Predicate.presentAndNot, Predicate.isKept_and] at hkept
    have hmatch := hkept (.not (.textMatch key .contains s)) (by simp)
    rw [Predicate.IsKept] at hmatch
    exact matches_presentAndNot hstores _ fun _ =>
      conditionTruth_textMatch hstores .contains s hmatch
  | oneOf vs hvs => exact (conditionTruth_oneOf hstores vs (fun v hv => hsound v (hvs v hv)) hkept).2
  | noneOf vs hvs =>
    rw [Predicate.presentAndNot, Predicate.isKept_and] at hkept
    have hmember := hkept (.not (.oneOf key vs)) (by simp)
    rw [Predicate.IsKept] at hmember
    exact matches_presentAndNot hstores _
      (conditionTruth_oneOf hstores vs (fun v hv => hsound v (hvs v hv)) hmember).1
  | blank ht => exact matches_isNull hstores
  | blankText ht =>
    subst ht
    rw [Predicate.isKept_or] at hkept
    apply matches_or
    simp only [List.forall_mem_cons, List.not_mem_nil, false_implies, implies_true, and_true]
      at hkept ⊢
    exact ⟨matches_isNull hstores,
      matches_compare hstores .equal (.text "") ⟨rfl, trivial⟩ hkept.2⟩
  | notBlank ht => exact matches_isNotNull hstores
  | notBlankText ht =>
    subst ht
    rw [Predicate.isKept_and] at hkept
    apply matches_and
    simp only [List.forall_mem_cons, List.not_mem_nil, false_implies, implies_true, and_true]
      at hkept ⊢
    exact ⟨matches_isNotNull hstores,
      matches_compare hstores .notEqual (.text "") ⟨rfl, trivial⟩ hkept.2⟩

/-- The condition of a query over all text fields is that of one of its tests. -/
theorem matches_fullText (column : String → Slot) (row : Json) (ds : List FilterDescriptor)
    (query : String) (p : Predicate) (h : fullTextPredicate ds query = some p)
    (hstores : ∀ d ∈ ds, d.fieldType = .string →
      Slot.Stores .string (row.present? d.key) (column d.key))
    (hkept : p.IsKept row) : Matches column row p := by
  have hcondition := Predicate.any_iff (fun p => conditionTruth column p = .yes)
    (conditionTruth_or column) _ p h
  have hmemory := Predicate.any_iff (fun p => p.holds row = true) (Predicate.holds_or row) _ p h
  have hparts := (Predicate.isKept_any row _ p h).mp hkept
  rw [Matches, hcondition, hmemory]
  refine exists_congr fun q => and_congr_right fun hq => ?_
  have hpart := hparts q hq
  obtain ⟨d, hd, rfl⟩ := List.mem_map.mp hq
  obtain ⟨hd, htype⟩ := List.mem_filter.mp hd
  exact matches_of_eq _
    (conditionTruth_textMatch (hstores d hd (beq_iff_eq.mp htype)) .contains query hpart)

end Sql

end CriteriaSearch
