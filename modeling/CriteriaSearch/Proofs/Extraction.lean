import CriteriaSearch.Proofs.Faults
import Mathlib.Data.List.Forall2

namespace CriteriaSearch

/-- The items that are kept correspond one by one to their images if an item has an image just when
it is kept. -/
theorem forall₂_filter_filterMap {α β : Type} {R : α → β → Prop} (p : α → Prop) [DecidablePred p]
    (g : α → Option β) (xs : List α)
    (h : ∀ x ∈ xs, ¬p x ∧ g x = none ∨ p x ∧ ∃ y, g x = some y ∧ R x y) :
    List.Forall₂ R (xs.filter fun x => p x) (xs.filterMap g) := by
  induction xs with
  | nil => exact .nil
  | cons x xs ih =>
    obtain ⟨hx, hxs⟩ := List.forall_mem_cons.mp h
    rcases hx with ⟨hp, hg⟩ | ⟨hp, y, hg, hxy⟩
    · rw [List.filter_cons_of_neg (by simpa using hp), List.filterMap_cons_none hg]
      exact ih hxs
    · rw [List.filter_cons_of_pos (by simpa using hp), List.filterMap_cons_some hg]
      exact .cons hxy (ih hxs)

namespace FilterDescriptor

theorem refusal?_withDefaults (key : String) (t : FieldType) (nullable : Bool) :
    refusal? (withDefaults key t nullable) =
      if Text.isBlankText key = true then some .blankKey else none := by
  cases hkey : Text.isBlankText key with
  | true =>
    rw [if_pos rfl, refusal?_eq_some_iff, withDefaults, make, dif_neg (by rw [hkey]; decide)]
  | false =>
    rw [if_neg (by decide), refusal?_eq_none_iff]
    have hops : Operator.normalize (Operator.defaults t) ≠ [] := by
      rw [Operator.normalize_ne_nil_iff]
      exact Operator.defaults_ne_nil t
    rw [withDefaults, make, dif_pos hkey]
    exact ⟨_, dif_pos hops⟩

end FilterDescriptor

/-- What is said about searching an attribute is a type, a nullability and a name that was given,
which may be empty. -/
theorem Searchable.exists_named (o : Searchable) :
    ∃ name, o = { ofType o.fieldType with nullable := o.nullable }.named name := by
  obtain ⟨t, nullable, given, hne⟩ := o
  cases given with
  | none => exact ⟨"", rfl⟩
  | some name =>
    have hname : name ≠ "" := fun h => hne (congrArg some h)
    exact ⟨name, by simp only [named, ofType, if_neg hname]⟩

namespace Attribute

/-- The attribute is searched: nothing hides it, its values are single, and a type to search it
with is given or detected. -/
def IsEligible (a : Attribute) : Prop :=
  a.isExcluded = false ∧ a.isStatic = false ∧ a.isTransient = false ∧
    a.kind ≠ .collection ∧ a.kind ≠ .map ∧ (a.searchable ≠ none ∨ a.kind.fieldType? ≠ none)

instance : DecidablePred IsEligible := fun a =>
  inferInstanceAs (Decidable (a.isExcluded = false ∧ a.isStatic = false ∧ a.isTransient = false ∧
    a.kind ≠ .collection ∧ a.kind ≠ .map ∧ (a.searchable ≠ none ∨ a.kind.fieldType? ≠ none)))

/-- The key that the attribute is searched by: the name that is given for this, unless it is empty,
or else its own. -/
def key (a : Attribute) : String :=
  match a.searchable.bind Searchable.fieldName with
  | some name => if name = "" then a.name else name
  | none => a.name

/-- The descriptor is that of the attribute: it has its key, the type and nullability that are given
for it, or else the detected type, and the default operators of the type. -/
structure IsDescribedBy (a : Attribute) (d : FilterDescriptor) : Prop where
  key_eq : d.key = a.key
  given (o : Searchable) : a.searchable = some o →
    d.fieldType = o.fieldType ∧ d.nullable = o.nullable
  detected : a.searchable = none → a.kind.fieldType? = some d.fieldType ∧ d.nullable = true
  operators_eq : d.operators = Operator.defaults d.fieldType

theorem isVisible_iff (a : Attribute) :
    a.isVisible = true ↔ a.isExcluded = false ∧ a.isStatic = false ∧ a.isTransient = false ∧
      a.kind ≠ .collection ∧ a.kind ≠ .map := by
  have hkind : a.kind.isComposite = false ↔ a.kind ≠ .collection ∧ a.kind ≠ .map := by
    cases a.kind <;> decide
  simp only [isVisible, Bool.and_eq_true, Bool.not_eq_true', hkind, and_assoc]

theorem key_given {a : Attribute} {o : Searchable} (h : a.searchable = some o) :
    a.key = o.fieldName.getD a.name := by
  rw [key, h, Option.bind_some]
  cases hname : o.fieldName with
  | none => rfl
  | some name =>
    -- No name that is given is empty.
    have hne : name ≠ "" := by
      rintro rfl
      exact o.fieldName_ne_empty hname
    exact if_neg hne

theorem key_detected {a : Attribute} (h : a.searchable = none) : a.key = a.name := by
  rw [key, h]
  rfl

theorem searchedAs?_of_not_isEligible {a : Attribute} (h : ¬a.IsEligible) :
    a.searchedAs? = none := by
  unfold searchedAs?
  split
  · next hvisible =>
    obtain ⟨hexcluded, hstatic, htransient, hcollection, hmap⟩ := a.isVisible_iff.mp hvisible
    split
    · next o hgiven =>
      have hsome : a.searchable ≠ none := by
        rw [hgiven]
        exact nofun
      exact absurd ⟨hexcluded, hstatic, htransient, hcollection, hmap, .inl hsome⟩ h
    · rw [Option.map_eq_none_iff]
      by_contra hdetected
      exact h ⟨hexcluded, hstatic, htransient, hcollection, hmap, .inr hdetected⟩
  · rfl

theorem searchedAs?_of_isEligible {a : Attribute} (h : a.IsEligible) :
    ∃ t nullable, a.searchedAs? = some (a.key, t, nullable) ∧
      (∀ o, a.searchable = some o → t = o.fieldType ∧ nullable = o.nullable) ∧
      (a.searchable = none → a.kind.fieldType? = some t ∧ nullable = true) := by
  obtain ⟨hexcluded, hstatic, htransient, hcollection, hmap, htyped⟩ := h
  have hvisible := a.isVisible_iff.mpr ⟨hexcluded, hstatic, htransient, hcollection, hmap⟩
  rw [searchedAs?, if_pos hvisible]
  -- What is given for the attribute counts before what its kind tells.
  cases hgiven : a.searchable with
  | some o =>
    refine ⟨o.fieldType, o.nullable, ?_, ?_, nofun⟩
    · rw [key_given hgiven]
    · intro _ ho
      cases ho
      exact ⟨rfl, rfl⟩
  | none =>
    obtain ⟨t, ht⟩ := Option.ne_none_iff_exists'.mp (htyped.resolve_left (absurd hgiven))
    refine ⟨t, true, ?_, nofun, fun _ => ⟨ht, rfl⟩⟩
    rw [ht, key_detected hgiven]
    rfl

theorem isDescribedBy_of_withDefaults {a : Attribute} {t : FieldType} {nullable : Bool}
    {d : FilterDescriptor}
    (hgiven : ∀ o, a.searchable = some o → t = o.fieldType ∧ nullable = o.nullable)
    (hdetected : a.searchable = none → a.kind.fieldType? = some t ∧ nullable = true)
    (hmade : FilterDescriptor.withDefaults a.key t nullable = .ok d) : a.IsDescribedBy d := by
  obtain ⟨hkey, rfl, hops⟩ := FilterDescriptor.withDefaults_eq_ok hmade
  obtain rfl := ((FilterDescriptor.withDefaults_eq_ok_iff _ _ _ _).mp hmade).nullable_eq
  exact ⟨hkey, hgiven, hdetected, hops⟩

theorem key_named (a : Attribute) (o : Searchable) (name : String) :
    { a with searchable := some (o.named name) }.key = if name = "" then a.name else name := by
  rw [key_given rfl, Searchable.named]
  split <;> rfl

end Attribute

namespace EntitySchema

/-- The attributes that are searched, own attributes first and those of the farthest ancestor
last. -/
def eligible (s : EntitySchema) : List Attribute :=
  (s.own :: s.ancestors).flatMap fun level => level.attributes.filter fun a => a.IsEligible

theorem eligible_eq (s : EntitySchema) :
    s.eligible = s.attributes.filter fun a => a.IsEligible :=
  (List.filter_flatMap ..).symm

theorem exists_blank_of_descriptors_eq_error {s : EntitySchema} {e : SearchError}
    (h : s.descriptors = .error e) :
    e = .blankKey ∧ ∃ a ∈ s.eligible, Text.isBlankText a.key = true := by
  rw [← refusal?_eq_some_iff, descriptors, refusal?_mapM] at h
  obtain ⟨⟨key, t, nullable⟩, hsearched, hrefused⟩ := List.exists_of_findSome?_eq_some h
  rw [FilterDescriptor.refusal?_withDefaults] at hrefused
  obtain ⟨hblank, he⟩ := Option.ite_none_right_eq_some.mp hrefused
  obtain ⟨a, ha, hsearched⟩ := List.mem_filterMap.mp hsearched
  have heligible : a.IsEligible := by
    by_contra hn
    rw [Attribute.searchedAs?_of_not_isEligible hn] at hsearched
    cases hsearched
  obtain ⟨_, _, hkey, -, -⟩ := Attribute.searchedAs?_of_isEligible heligible
  rw [hkey] at hsearched
  cases hsearched
  refine ⟨(Option.some.inj he).symm, a, ?_, hblank⟩
  rw [eligible_eq]
  exact List.mem_filter.mpr ⟨ha, decide_eq_true heligible⟩

theorem forall₂_isDescribedBy {s : EntitySchema} {ds : List FilterDescriptor}
    (h : s.descriptors = .ok ds) : List.Forall₂ Attribute.IsDescribedBy s.eligible ds := by
  obtain ⟨hall, rfl⟩ := (mapM_eq_ok_iff _ _ _).mp h
  rw [eligible_eq, List.filterMap_filterMap]
  refine forall₂_filter_filterMap Attribute.IsEligible _ _ ?_
  intro a ha
  by_cases heligible : a.IsEligible
  · obtain ⟨t, nullable, hsearched, hgiven, hdetected⟩ :=
      Attribute.searchedAs?_of_isEligible heligible
    obtain ⟨d, hmade⟩ := hall _ (List.mem_filterMap.mpr ⟨a, ha, hsearched⟩)
    refine .inr ⟨heligible, d, ?_, Attribute.isDescribedBy_of_withDefaults hgiven hdetected hmade⟩
    rw [hsearched, Option.bind_some, hmade]
    rfl
  · refine .inl ⟨heligible, ?_⟩
    rw [Attribute.searchedAs?_of_not_isEligible heligible]
    rfl

end EntitySchema

end CriteriaSearch
