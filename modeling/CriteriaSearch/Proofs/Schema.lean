import CriteriaSearch.Proofs.Compilation
import CriteriaSearch.Proofs.Descriptor
import CriteriaSearch.Schema

namespace CriteriaSearch

namespace EntitySchema

variable {s : EntitySchema} {ds : List FilterDescriptor}

theorem exists_attribute (h : s.descriptors = .ok ds) {d : FilterDescriptor} (hd : d ∈ ds) :
    ∃ a ∈ s.attributes, ∃ key t nullable, a.searchedAs? = some (key, t, nullable) ∧
      FilterDescriptor.withDefaults key t nullable = .ok d := by
  obtain ⟨hall, rfl⟩ := (mapM_eq_ok_iff _ _ _).mp h
  obtain ⟨⟨key, t, nullable⟩, hsearched, hmade⟩ := List.mem_filterMap.mp hd
  obtain ⟨made, hok⟩ := hall _ hsearched
  rw [hok] at hmade
  cases hmade
  obtain ⟨a, ha, hsearched⟩ := List.mem_filterMap.mp hsearched
  exact ⟨a, ha, key, t, nullable, hsearched, hok⟩

/-- There is a descriptor for a key and a type if an attribute is searched with them. -/
theorem exists_descriptor_iff (h : s.descriptors = .ok ds) (key : String) (t : FieldType) :
    (∃ d ∈ ds, d.key = key ∧ d.fieldType = t) ↔
      ∃ a ∈ s.attributes, ∃ nullable, a.searchedAs? = some (key, t, nullable) := by
  constructor
  · rintro ⟨d, hd, rfl, rfl⟩
    obtain ⟨a, ha, key, t, nullable, hsearched, hmade⟩ := exists_attribute h hd
    obtain ⟨rfl, rfl, -⟩ := FilterDescriptor.withDefaults_eq_ok hmade
    exact ⟨a, ha, nullable, hsearched⟩
  · rintro ⟨a, ha, nullable, hsearched⟩
    obtain ⟨hall, rfl⟩ := (mapM_eq_ok_iff _ _ _).mp h
    have hmem := List.mem_filterMap.mpr ⟨a, ha, hsearched⟩
    obtain ⟨d, hd⟩ := hall _ hmem
    obtain ⟨hkey, htype, -⟩ := FilterDescriptor.withDefaults_eq_ok hd
    exact ⟨d, List.mem_filterMap.mpr ⟨_, hmem, by rw [hd]; rfl⟩, hkey, htype⟩

theorem operators_eq_defaults (h : s.descriptors = .ok ds) {d : FilterDescriptor} (hd : d ∈ ds) :
    d.operators = Operator.defaults d.fieldType := by
  obtain ⟨a, ha, key, t, nullable, hsearched, hmade⟩ := exists_attribute h hd
  obtain ⟨-, rfl, hoperators⟩ := FilterDescriptor.withDefaults_eq_ok hmade
  exact hoperators

end EntitySchema

end CriteriaSearch
