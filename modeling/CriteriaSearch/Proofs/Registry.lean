import CriteriaSearch.Registry
import Mathlib.Data.Finset.Card

namespace CriteriaSearch.Registry

variable {Repo : Type}

def lastOf (es : List (Registration Repo)) (entity : EntityId) : Option (Registration Repo) :=
  es.findRev? fun e => e.entity == entity

def announcementsAfter (earlier : List EntityId) : List (Registration Repo) → List RegistryUpdate
  | [] => []
  | e :: es =>
    (if e.entity ∈ earlier then .replaced e.name else .registered e.name) ::
      announcementsAfter (e.entity :: earlier) es

theorem lastOf_concat (es : List (Registration Repo)) (e : Registration Repo) (entity : EntityId) :
    lastOf (es ++ [e]) entity = if e.entity = entity then some e else lastOf es entity := by
  rw [lastOf, lastOf, List.findRev?_eq_find?_reverse, List.findRev?_eq_find?_reverse,
    List.reverse_concat, List.find?_cons]
  by_cases h : e.entity = entity
  · rw [if_pos h, beq_iff_eq.mpr h]
  · rw [if_neg h, beq_eq_false_iff_ne.mpr h]

theorem entity_of_lastOf {es : List (Registration Repo)} {entity : EntityId}
    {e : Registration Repo} (h : lastOf es entity = some e) : e.entity = entity := by
  rw [lastOf, List.findRev?_eq_find?_reverse] at h
  have hsame := List.find?_some h
  exact beq_iff_eq.mp hsame

theorem isSome_lastOf_iff (es : List (Registration Repo)) (entity : EntityId) :
    (lastOf es entity).isSome = true ↔ entity ∈ es.map Registration.entity := by
  rw [lastOf, List.findRev?_eq_find?_reverse, List.find?_isSome, List.mem_map]
  simp only [List.mem_reverse, beq_iff_eq]

theorem announcementsAfter_concat (earlier : List EntityId) (es : List (Registration Repo))
    (e : Registration Repo) :
    announcementsAfter earlier (es ++ [e]) = announcementsAfter earlier es ++
      [if e.entity ∈ earlier ∨ e.entity ∈ es.map Registration.entity then .replaced e.name
        else .registered e.name] := by
  induction es generalizing earlier with
  | nil => simp [announcementsAfter]
  | cons first es ih =>
    rw [List.cons_append, announcementsAfter, announcementsAfter, ih, List.cons_append,
      List.map_cons]
    simp only [List.mem_cons, or_assoc, or_left_comm]

theorem isSome_get?_iff (r : Registry Repo) (entity : EntityId) :
    (r.get? entity).isSome = true ↔ entity ∈ r.entries.map Registration.entity := by
  rw [get?, List.find?_isSome, List.mem_map]
  simp only [beq_iff_eq]

theorem register_fst (r : Registry Repo) (e : Registration Repo) :
    (r.register e).1 = r.get? e.entity := by
  unfold register
  split
  next previous h => exact h.symm
  next h => exact h.symm

theorem announced_register (r : Registry Repo) (e : Registration Repo) :
    (r.register e).2.announced = r.announced ++
      [if (r.get? e.entity).isSome then .replaced e.name else .registered e.name] := by
  unfold register
  split
  next previous h => rw [h]; rfl
  next h => rw [h]; rfl

/-- A registration adds its type to the registered ones, unless it is there. -/
theorem entities_register (r : Registry Repo) (e : Registration Repo) :
    (r.register e).2.entries.map Registration.entity =
      if (r.get? e.entity).isSome then r.entries.map Registration.entity
      else r.entries.map Registration.entity ++ [e.entity] := by
  unfold register
  split
  next previous h =>
    rw [h, if_pos Option.isSome_some, List.map_map]
    apply List.map_congr_left
    intro old _
    by_cases hsame : old.entity = e.entity
    · rw [Function.comp_apply, if_pos (beq_iff_eq.mpr hsame), hsame]
    · rw [Function.comp_apply, if_neg (mt beq_iff_eq.mp hsame)]
  next h =>
    rw [h, List.map_append]
    rfl

/-- A record put in place of the one with its type is found by its type alone. -/
theorem find?_replaced (es : List (Registration Repo)) (e : Registration Repo)
    (entity : EntityId) :
    ((es.map fun old => if old.entity == e.entity then e else old).find?
        fun old => old.entity == entity) =
      (es.find? fun old => old.entity == entity).map fun old =>
        if e.entity = entity then e else old := by
  induction es with
  | nil => rfl
  | cons old es ih =>
    -- A record that is replaced has the type of the new one, so it is found for the same types.
    by_cases hsame : old.entity = e.entity
    · rw [List.map_cons, if_pos (beq_iff_eq.mpr hsame), List.find?_cons, List.find?_cons, ih, hsame]
      by_cases hentity : e.entity = entity
      · rw [beq_iff_eq.mpr hentity, Option.map_some, if_pos hentity]
      · rw [beq_eq_false_iff_ne.mpr hentity]
    · rw [List.map_cons, if_neg (mt beq_iff_eq.mp hsame), List.find?_cons, List.find?_cons, ih]
      by_cases hentity : old.entity = entity
      · have hother : e.entity ≠ entity := fun h => hsame (hentity.trans h.symm)
        rw [beq_iff_eq.mpr hentity, Option.map_some, if_neg hother]
      · rw [beq_eq_false_iff_ne.mpr hentity]

/-- After a registration its type has the record registered, and every other type the one before. -/
theorem get?_register (r : Registry Repo) (e : Registration Repo) (entity : EntityId) :
    (r.register e).2.get? entity = if e.entity = entity then some e else r.get? entity := by
  unfold register
  split
  next previous h =>
    refine (find?_replaced r.entries e entity).trans ?_
    change (r.get? entity).map _ = _
    by_cases hentity : e.entity = entity
    · rw [← hentity, h]
      simp
    · simp only [if_neg hentity, Option.map_id']
  next h =>
    refine List.find?_append.trans ?_
    change (r.get? entity).or ([e].find? fun old => old.entity == entity) = _
    rw [List.find?_singleton]
    by_cases hentity : e.entity = entity
    · rw [← hentity, h, if_pos rfl, if_pos (beq_iff_eq.mpr rfl), Option.none_or]
    · rw [if_neg hentity, if_neg (mt beq_iff_eq.mp hentity), Option.or_none]

/-- A registry is what some registrations, one after another, leave behind. -/
structure Keeps (r : Registry Repo) (es : List (Registration Repo)) : Prop where
  get?_eq : ∀ entity, r.get? entity = lastOf es entity
  nodup : (r.entries.map Registration.entity).Nodup
  announced_eq : r.announced = announcementsAfter [] es

theorem keeps_empty : (empty : Registry Repo).Keeps [] where
  get?_eq _ := rfl
  nodup := List.nodup_nil
  announced_eq := rfl

variable {r : Registry Repo} {es : List (Registration Repo)}

theorem Keeps.register (h : Keeps r es) (e : Registration Repo) :
    Keeps (r.register e).2 (es ++ [e]) where
  get?_eq entity := by rw [get?_register, lastOf_concat, h.get?_eq]
  nodup := by
    rw [entities_register]
    split
    next => exact h.nodup
    next hnew =>
      rw [isSome_get?_iff] at hnew
      exact List.nodup_append.mpr ⟨h.nodup, List.nodup_singleton _, by
        intro entity hentity other hother
        rw [List.mem_singleton.mp hother]
        rintro rfl
        exact hnew hentity⟩
  announced_eq := by
    have hseen : (r.get? e.entity).isSome = true ↔
        e.entity ∈ [] ∨ e.entity ∈ es.map Registration.entity := by
      rw [h.get?_eq, isSome_lastOf_iff]
      simp
    rw [announced_register, h.announced_eq, announcementsAfter_concat]
    simp only [hseen]

/-- The size of a registry is the number of different types that were registered. -/
theorem Keeps.size_eq (h : Keeps r es) :
    r.size = (es.map Registration.entity).toFinset.card := by
  have hentities : (r.entries.map Registration.entity).toFinset =
      (es.map Registration.entity).toFinset := by
    ext entity
    rw [List.mem_toFinset, List.mem_toFinset, ← isSome_get?_iff, ← isSome_lastOf_iff, h.get?_eq]
  rw [← hentities, List.toFinset_card_of_nodup h.nodup, List.length_map]
  rfl

end CriteriaSearch.Registry
