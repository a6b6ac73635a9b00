import CriteriaSearch.Proofs.TwoValued
import Mathlib.Data.List.Basic

namespace CriteriaSearch

namespace Predicate

/-- The predicate has a test of the field somewhere in it. -/
inductive Tests (field : String) : Predicate → Prop
  | and {ps : List Predicate} (p : Predicate) : p ∈ ps → Tests field p → Tests field (.and ps)
  | or {ps : List Predicate} (p : Predicate) : p ∈ ps → Tests field p → Tests field (.or ps)
  | not {p : Predicate} : Tests field p → Tests field (.not p)
  | compare (c : Comparison) (v : FieldValue) : Tests field (.compare field c v)
  | range (lower upper : FieldValue) : Tests field (.range field lower upper)
  | oneOf (vs : List FieldValue) : Tests field (.oneOf field vs)
  | textMatch (mode : TextMode) (text : String) : Tests field (.textMatch field mode text)
  | isNull : Tests field (.isNull field)
  | isNotNull : Tests field (.isNotNull field)

theorem mem_leafFields_iff (field : String) (p : Predicate) :
    field ∈ p.leafFields ↔ p.Tests field := by
  -- The induction is on the predicate; both sides look into the parts of a connective.
  induction p using inductionOn with
  | and ps ih =>
    rw [leafFields, mem_leafFieldsOf]
    constructor
    · rintro ⟨p, hp, h⟩
      exact .and p hp ((ih p hp).mp h)
    · intro h
      cases h with
      | and p hp h => exact ⟨p, hp, (ih p hp).mpr h⟩
  | or ps ih =>
    rw [leafFields, mem_leafFieldsOf]
    constructor
    · rintro ⟨p, hp, h⟩
      exact .or p hp ((ih p hp).mp h)
    · intro h
      cases h with
      | or p hp h => exact ⟨p, hp, (ih p hp).mpr h⟩
  | not p ih =>
    rw [leafFields, ih]
    constructor
    · exact .not
    · intro h
      cases h with
      | not h => exact h
  | compare | range | oneOf | textMatch | isNull | isNotNull =>
    rw [leafFields, List.mem_singleton]
    constructor
    · rintro rfl
      constructor
    · intro h
      cases h
      rfl

/-- Adds a field to those that have been found, unless it is one of them. -/
def addField (found : List String) (field : String) : List String :=
  if field ∈ found then found else found ++ [field]

mutual

/-- Adds the fields of the tests of a predicate, from left to right, to those that have been
found. -/
def addFields (found : List String) : Predicate → List String
  | .and parts => addFieldsOf found parts
  | .or parts => addFieldsOf found parts
  | .not part => addFields found part
  | .compare field _ _ => addField found field
  | .range field _ _ => addField found field
  | .oneOf field _ => addField found field
  | .textMatch field _ _ => addField found field
  | .isNull field => addField found field
  | .isNotNull field => addField found field

def addFieldsOf (found : List String) : List Predicate → List String
  | [] => found
  | p :: ps => addFieldsOf (addFields found p) ps

end

theorem addFieldsOf_eq_foldl (ps : List Predicate)
    (h : ∀ p ∈ ps, ∀ found, addFields found p = p.leafFields.foldl addField found)
    (found : List String) : addFieldsOf found ps = (leafFieldsOf ps).foldl addField found := by
  induction ps generalizing found with
  | nil => rfl
  | cons p ps ih =>
    rw [List.forall_mem_cons] at h
    rw [addFieldsOf, leafFieldsOf, List.foldl_append, h.1 found, ih h.2]

theorem addFields_eq_foldl (p : Predicate) (found : List String) :
    addFields found p = p.leafFields.foldl addField found := by
  induction p using inductionOn generalizing found with
  | and ps ih => rw [addFields, leafFields, addFieldsOf_eq_foldl ps ih]
  | or ps ih => rw [addFields, leafFields, addFieldsOf_eq_foldl ps ih]
  | not p ih => rw [addFields, leafFields, ih]
  | _ => rfl

/-- The fields that have been found on the way through some tests: those of the tests, in the order
in which they were first met. -/
structure IsFound (met found : List String) : Prop where
  mem_iff : ∀ field, field ∈ found ↔ field ∈ met
  ordered : found.Pairwise fun a b => met.idxOf a < met.idxOf b

theorem IsFound.add {met found : List String} (h : IsFound met found) (field : String) :
    IsFound (met ++ [field]) (addField found field) := by
  have hkeep : found.Pairwise fun a b => (met ++ [field]).idxOf a < (met ++ [field]).idxOf b := by
    refine h.ordered.imp_of_mem ?_
    intro a b ha hb hlt
    rwa [List.idxOf_append_of_mem ((h.mem_iff a).mp ha),
      List.idxOf_append_of_mem ((h.mem_iff b).mp hb)]
  unfold addField
  by_cases hfound : field ∈ found
  · rw [if_pos hfound]
    refine ⟨?_, hkeep⟩
    intro name
    rw [h.mem_iff, List.mem_append, List.mem_singleton]
    constructor
    · exact .inl
    · rintro (hname | rfl)
      · exact hname
      · exact (h.mem_iff name).mp hfound
  · rw [if_neg hfound]
    constructor
    · intro name
      rw [List.mem_append, List.mem_append, h.mem_iff]
    · rw [List.pairwise_append]
      refine ⟨hkeep, List.pairwise_singleton _ _, ?_⟩
      -- A new field is first met now, behind all that have been met before.
      intro name hname new hnew
      obtain rfl := List.mem_singleton.mp hnew
      have hmet := (h.mem_iff name).mp hname
      have hnot : new ∉ met := fun hmem => hfound ((h.mem_iff new).mpr hmem)
      rw [List.idxOf_append_of_mem hmet, List.idxOf_append_of_notMem hnot]
      have := List.idxOf_lt_length_of_mem hmet
      omega

theorem IsFound.foldl (fields : List String) {met found : List String} (h : IsFound met found) :
    IsFound (met ++ fields) (fields.foldl addField found) := by
  induction fields generalizing met found with
  | nil => rwa [List.append_nil]
  | cons field fields ih =>
    rw [List.foldl_cons, List.append_cons]
    exact ih (h.add field)

theorem foldl_addField (fields found : List String) :
    fields.foldl addField found =
      found ++ (fields.filter fun field => !found.contains field).eraseDups := by
  induction fields generalizing found with
  | nil => simp
  | cons field fields ih =>
    rw [List.foldl_cons, ih, addField]
    by_cases hfound : field ∈ found
    · rw [if_pos hfound, List.filter_cons_of_neg (by simpa using hfound)]
    · rw [if_neg hfound, List.filter_cons_of_pos (by simpa using hfound), List.eraseDups_cons,
        List.filter_filter, List.append_assoc, List.singleton_append]
      congr 3
      apply List.filter_congr
      intro name _
      simp only [List.contains_eq_mem, List.mem_append, List.mem_singleton]
      by_cases hname : name = field <;> simp [hname]

/-- The fields of a predicate are those that one walk through it finds. -/
theorem fields_eq_addFields (p : Predicate) : p.fields = addFields [] p := by
  rw [addFields_eq_foldl, foldl_addField, fields]
  simp

theorem isFound_fields (p : Predicate) : IsFound p.leafFields p.fields := by
  have hstart : IsFound [] [] := ⟨fun _ => Iff.rfl, List.Pairwise.nil⟩
  rw [fields_eq_addFields, addFields_eq_foldl]
  exact hstart.foldl p.leafFields

theorem mem_fields_iff (field : String) (p : Predicate) : field ∈ p.fields ↔ p.Tests field := by
  rw [p.isFound_fields.mem_iff, mem_leafFields_iff]

theorem nodup_fields (p : Predicate) : p.fields.Nodup := by
  refine p.isFound_fields.ordered.imp ?_
  rintro a _ hlt rfl
  exact Nat.lt_irrefl _ hlt

section Rows

variable {row row' : Json}

theorem testField_congr (field : String) (test : Json → Bool)
    (h : row.present? field = row'.present? field) :
    testField row field test = testField row' field test := by
  rw [testField, testField, h]

theorem evaluateAll_congr (ps : List Predicate) (h : ∀ p ∈ ps, p.evaluate row = p.evaluate row') :
    evaluateAll row ps = evaluateAll row' ps := by
  induction ps with
  | nil => rfl
  | cons p ps ih =>
    rw [List.forall_mem_cons] at h
    rw [evaluateAll, evaluateAll, h.1, ih h.2]

theorem evaluateAny_congr (ps : List Predicate) (h : ∀ p ∈ ps, p.evaluate row = p.evaluate row') :
    evaluateAny row ps = evaluateAny row' ps := by
  induction ps with
  | nil => rfl
  | cons p ps ih =>
    rw [List.forall_mem_cons] at h
    rw [evaluateAny, evaluateAny, h.1, ih h.2]

/-- Rows that have the same in the fields that a predicate tests are the same to it. -/
theorem evaluate_congr (p : Predicate)
    (h : ∀ field, p.Tests field → row.present? field = row'.present? field) :
    p.evaluate row = p.evaluate row' := by
  -- Each part tests fewer fields than the whole, so that the rows agree on the part as well.
  induction p using inductionOn with
  | and ps ih =>
    rw [evaluate, evaluate]
    exact evaluateAll_congr ps fun p hp => ih p hp fun field hfield => h field (.and p hp hfield)
  | or ps ih =>
    rw [evaluate, evaluate]
    exact evaluateAny_congr ps fun p hp => ih p hp fun field hfield => h field (.or p hp hfield)
  | not p ih => rw [evaluate, evaluate, ih fun field hfield => h field (.not hfield)]
  | compare field c v =>
    rw [evaluate, evaluate, testField_congr field _ (h field (.compare c v))]
  | range field lower upper =>
    rw [evaluate, evaluate, testField_congr field _ (h field (.range lower upper))]
  | oneOf field vs => rw [evaluate, evaluate, testField_congr field _ (h field (.oneOf vs))]
  | textMatch field mode text =>
    rw [evaluate, evaluate, testField_congr field _ (h field (.textMatch mode text))]
  | isNull field => rw [evaluate, evaluate, h field .isNull]
  | isNotNull field => rw [evaluate, evaluate, h field .isNotNull]

end Rows

theorem mem_all_leafFields_iff (field : String) (ps : List Predicate) :
    (∃ p, all ps = some p ∧ field ∈ p.leafFields) ↔ ∃ p ∈ ps, field ∈ p.leafFields := by
  have hand (ps : List Predicate) :
      field ∉ (Predicate.and ps).leafFields ↔ ∀ p ∈ ps, field ∉ p.leafFields := by
    rw [leafFields, mem_leafFieldsOf]
    simp only [not_exists, not_and]
  have hall := all_iff (fun p => field ∉ p.leafFields) hand ps
  rw [← not_iff_not]
  simpa only [not_exists, not_and] using hall

end Predicate

theorem FilterTerm.mem_leafFields_iff {key : String} {t : FieldType} {p : Predicate}
    (h : FilterTerm key t p) (field : String) : field ∈ p.leafFields ↔ field = key := by
  cases h <;>
    simp [Predicate.leafFields, Predicate.leafFieldsOf, Predicate.presentAndNot]

theorem mem_fullText_leafFields_iff (ds : List FilterDescriptor) (query field : String) :
    (∃ p, fullTextPredicate ds query = some p ∧ field ∈ p.leafFields) ↔
      ∃ d ∈ ds, d.fieldType = .string ∧ d.key = field := by
  have hor (ps : List Predicate) :
      field ∈ (Predicate.or ps).leafFields ↔ ∃ p ∈ ps, field ∈ p.leafFields := by
    rw [Predicate.leafFields, Predicate.mem_leafFieldsOf]
  have htests : (∃ p ∈ (ds.filter fun d => d.fieldType == .string).map fun d =>
      Predicate.textMatch d.key .contains query, field ∈ p.leafFields) ↔
        ∃ d ∈ ds, d.fieldType = .string ∧ d.key = field := by
    have hleaf (d : FilterDescriptor) :
        field ∈ (Predicate.textMatch d.key .contains query).leafFields ↔ d.key = field := by
      rw [Predicate.leafFields, List.mem_singleton, eq_comm]
    simp only [List.mem_map, List.mem_filter, beq_iff_eq, and_assoc]
    constructor
    · rintro ⟨_, ⟨d, hd, htype, rfl⟩, hfield⟩
      exact ⟨d, hd, htype, (hleaf d).mp hfield⟩
    · rintro ⟨d, hd, htype, hfield⟩
      exact ⟨_, ⟨d, hd, htype, rfl⟩, (hleaf d).mpr hfield⟩
  rw [← htests]
  constructor
  · rintro ⟨p, hp, hfield⟩
    exact (Predicate.any_iff (fun p => field ∈ p.leafFields) hor _ p hp).mp hfield
  · intro hfield
    cases hp : fullTextPredicate ds query with
    | none =>
      obtain ⟨q, hq, -⟩ := hfield
      rw [(Predicate.any_eq_none_iff _).mp hp] at hq
      cases hq
    | some p =>
      exact ⟨p, rfl, (Predicate.any_iff (fun p => field ∈ p.leafFields) hor _ p hp).mpr hfield⟩

namespace Criteria

variable (ds : List FilterDescriptor) (c : Criteria)

/-- The terms of a request name the keys of the filters that are kept and, for a full-text query,
those of the text fields. -/
theorem mem_terms_leafFields_iff (hall : ∀ f ∈ c.filters, f.Compiles ds) (field : String) :
    (∃ p ∈ c.terms ds, field ∈ p.leafFields) ↔
      (∃ f ∈ c.filters, f.compile (f.resolvedType ds) ≠ .ok none ∧ f.key = field) ∨
      (c.activeQuery? ≠ none ∧ ∃ d ∈ ds, d.fieldType = .string ∧ d.key = field) := by
  simp only [mem_terms, or_and_right, exists_or]
  apply or_congr
  · constructor
    · rintro ⟨p, ⟨f, hf, hp⟩, hfield⟩
      refine ⟨f, hf, by rw [hp]; simp, ?_⟩
      exact (((f.compile_eq_some _ p hp).mem_leafFields_iff field).mp hfield).symm
    · rintro ⟨f, hf, hkept, rfl⟩
      -- A filter that is not dropped is kept, since none is refused.
      obtain ⟨_ | p, hp⟩ := hall f hf
      · exact absurd hp hkept
      · exact ⟨p, ⟨f, hf, hp⟩, ((f.compile_eq_some _ p hp).mem_leafFields_iff f.key).mpr rfl⟩
  · cases c.activeQuery? with
    | none => simp
    | some query => simp [mem_fullText_leafFields_iff]

theorem mem_compiled_fields_iff (k : Compiled) (h : c.compile ds = .ok k) (field : String) :
    (∃ p, k.predicate = some p ∧ field ∈ p.fields) ↔
      (∃ f ∈ c.filters, f.compile (f.resolvedType ds) ≠ .ok none ∧ f.key = field) ∨
      (c.activeQuery? ≠ none ∧ ∃ d ∈ ds, d.fieldType = .string ∧ d.key = field) := by
  obtain ⟨-, hall, rfl⟩ := (compile_eq_ok_iff ds c k).mp h
  rw [← mem_terms_leafFields_iff ds c hall field, ← Predicate.mem_all_leafFields_iff]
  simp only [compiled, Predicate.fields, List.mem_eraseDups]

end Criteria

/-- The fields of a predicate are what a walk through its tests collects: each of them once, in the
order in which they first occur. The predicate is worth the same on rows that have the same in these
fields. The fields of a compiled request are the keys of the filters that are not dropped and, if a
full-text query is asked, those of the text fields. -/
theorem evaluation_reads_fields :
    (∀ p : Predicate, p.fields = Predicate.addFields [] p ∧
      (∀ field, field ∈ p.fields ↔ p.Tests field) ∧ p.fields.Nodup ∧
      (p.fields.Pairwise fun a b => p.leafFields.idxOf a < p.leafFields.idxOf b) ∧
      ∀ row row' : Json, (∀ field ∈ p.fields, row.present? field = row'.present? field) →
        p.evaluate row = p.evaluate row') ∧
    ∀ (ds : List FilterDescriptor) (c : Criteria) (k : Compiled), c.compile ds = .ok k →
      ∀ field, (∃ p, k.predicate = some p ∧ field ∈ p.fields) ↔
        (∃ f ∈ c.filters, f.compile (f.resolvedType ds) ≠ .ok none ∧ f.key = field) ∨
        (c.activeQuery? ≠ none ∧ ∃ d ∈ ds, d.fieldType = .string ∧ d.key = field) := by
  constructor
  · intro p
    refine ⟨p.fields_eq_addFields, fun field => p.mem_fields_iff field, p.nodup_fields,
      p.isFound_fields.ordered, ?_⟩
    intro row row' hsame
    exact p.evaluate_congr fun field hfield => hsame field ((p.mem_fields_iff field).mpr hfield)
  · intro ds c k h field
    exact c.mem_compiled_fields_iff ds k h field

/-- Two filters of the number around one of the text that is dropped, and a full-text query. -/
def usagesWithQuery : Criteria :=
  ⟨[.withValue "usages" .greaterThan "10", .withValue "name" .lessThan "m",
    .withValue "usages" .notEquals "12"], [], some ⟨some "axe"⟩, .first⟩

/-- The number is named once and before the text, which the full-text query brings in; whatever
else the rows have does not count. -/
theorem evaluation_reads_fields_usages :
    ∃ k p, usagesWithQuery.compile nameAndUsages = .ok k ∧ k.predicate = some p ∧
      p.fields = ["usages", "name"] ∧
      (∀ field, field ∈ p.fields ↔
        (∃ f ∈ usagesWithQuery.filters,
          f.compile (f.resolvedType nameAndUsages) ≠ .ok none ∧ f.key = field) ∨
        (usagesWithQuery.activeQuery? ≠ none ∧
          ∃ d ∈ nameAndUsages, d.fieldType = .string ∧ d.key = field)) ∧
      p.evaluate (.object [("name", .text "Saw"), ("usages", .integer 12)]) =
        p.evaluate (.object [("id", .integer 1), ("usages", .integer 12), ("name", .text "Saw"),
          ("note", .null)]) := by
  obtain ⟨hpredicates, hrequests⟩ := evaluation_reads_fields
  refine ⟨_, _, rfl, rfl, by decide, ?_, (hpredicates _).2.2.2.2 _ _ ?_⟩
  · intro field
    have hfields := hrequests nameAndUsages usagesWithQuery _ rfl field
    rw [← hfields]
    constructor
    · intro hfield
      exact ⟨_, rfl, hfield⟩
    · rintro ⟨p, hp, hfield⟩
      cases hp
      exact hfield
  · intro field hfield
    have hmem : field ∈ ["usages", "name"] := hfield
    simp only [List.mem_cons, List.not_mem_nil, or_false] at hmem
    rcases hmem with rfl | rfl <;> rfl

end CriteriaSearch
