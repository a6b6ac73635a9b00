import CriteriaSearch.Descriptor

namespace CriteriaSearch

theorem Text.isBlankText_eq_false_iff (s : String) :
    isBlankText s = false ↔ ∃ c ∈ s.toList, isBlank c = false := by
  rw [isBlankText, List.all_eq_false]
  simp only [Bool.not_eq_true]

namespace Operator

theorem normalize_congr {ops others : List Operator} (h : ∀ op, op ∈ ops ↔ op ∈ others) :
    normalize ops = normalize others := by
  unfold normalize
  congr 1
  funext op
  rw [Bool.eq_iff_iff, List.contains_iff_mem, List.contains_iff_mem]
  exact h op

theorem normalize_ne_nil_iff (ops : List Operator) : normalize ops ≠ [] ↔ ops ≠ [] := by
  rw [ne_eq, ne_eq, List.eq_nil_iff_forall_not_mem, List.eq_nil_iff_forall_not_mem]
  simp only [mem_normalize]

theorem defaults_ne_nil (t : FieldType) : defaults t ≠ [] := by
  cases t <;> exact nofun

end Operator

namespace FilterDescriptor

/-- The descriptor has just these parts, and they are fit for one: the key has a character that is
not blank, and there is an operator. -/
structure HasParts (d : FilterDescriptor) (key : String) (t : FieldType) (nullable : Bool)
    (ops : List Operator) : Prop where
  key_eq : d.key = key
  fieldType_eq : d.fieldType = t
  nullable_eq : d.nullable = nullable
  mem_operators (op : Operator) : op ∈ d.operators ↔ op ∈ ops
  visible : ∃ c ∈ key.toList, Text.isBlank c = false
  offers : ops ≠ []

theorem hasParts_self (d : FilterDescriptor) :
    d.HasParts d.key d.fieldType d.nullable d.operators where
  key_eq := rfl
  fieldType_eq := rfl
  nullable_eq := rfl
  mem_operators _ := Iff.rfl
  visible := (Text.isBlankText_eq_false_iff d.key).mp d.key_not_blank
  offers := d.operators_ne_nil

theorem make_eq_ok_iff (key : String) (t? : Option FieldType) (nullable : Bool)
    (ops : List Operator) (d : FilterDescriptor) :
    make key t? nullable ops = .ok d ↔ ∃ t, t? = some t ∧ d.HasParts key t nullable ops := by
  constructor
  · intro h
    unfold make at h
    split at h
    · next hkey =>
      split at h
      · cases h
      · next t =>
        split at h
        · next hops =>
          cases h
          exact ⟨t, rfl, rfl, rfl, rfl, fun op => Operator.mem_normalize,
            (Text.isBlankText_eq_false_iff key).mp hkey,
            (Operator.normalize_ne_nil_iff ops).mp hops⟩
        · cases h
    · cases h
  · rintro ⟨t, rfl, h⟩
    have hkey := (Text.isBlankText_eq_false_iff key).mpr h.visible
    have hnormal : Operator.normalize ops = d.operators := by
      rw [← d.operators_normal]
      exact (Operator.normalize_congr h.mem_operators).symm
    obtain ⟨rfl, rfl, rfl⟩ := And.intro h.key_eq (And.intro h.fieldType_eq h.nullable_eq)
    unfold make
    rw [dif_pos hkey]
    simp only [hnormal]
    rw [dif_pos d.operators_ne_nil]

theorem withDefaults_eq_ok_iff (key : String) (t : FieldType) (nullable : Bool)
    (d : FilterDescriptor) :
    withDefaults key t nullable = .ok d ↔
      d.HasParts key t nullable (Operator.defaults t) := by
  rw [withDefaults, make_eq_ok_iff]
  constructor
  · rintro ⟨_, htype, h⟩
    cases htype
    exact h
  · intro h
    exact ⟨t, rfl, h⟩

theorem withDefaults_eq_ok {key : String} {t : FieldType} {nullable : Bool} {d : FilterDescriptor}
    (h : withDefaults key t nullable = .ok d) :
    d.key = key ∧ d.fieldType = t ∧ d.operators = Operator.defaults t := by
  have hparts := (withDefaults_eq_ok_iff key t nullable d).mp h
  have hoperators := Operator.normalize_congr hparts.mem_operators
  rw [d.operators_normal, Operator.normalize_defaults] at hoperators
  exact ⟨hparts.key_eq, hparts.fieldType_eq, hoperators⟩

end FilterDescriptor

end CriteriaSearch
