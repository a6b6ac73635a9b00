import CriteriaSearch.Proofs.Number.Reading
import CriteriaSearch.Proofs.Schema

namespace CriteriaSearch

namespace Operator

def ordering : List Operator := [.lessThan, .greaterThan, .between]

def textual : List Operator := [.contains, .notContains, .startsWith, .endsWith]

/-- The operator has a meaning for fields of the type. -/
def AppliesTo (op : Operator) (t : FieldType) : Prop :=
  (op ∈ ordering → t = .number ∨ t = .date) ∧ (op ∈ textual → t = .string)

instance (op : Operator) (t : FieldType) : Decidable (op.AppliesTo t) :=
  inferInstanceAs (Decidable (_ ∧ _))

/-- Of the operators that fields of a type are offered with, only those that compare truth values by
an order have no meaning for them. -/
theorem appliesTo_iff_of_mem_defaults {op : Operator} {t : FieldType} (h : op ∈ defaults t) :
    op.AppliesTo t ↔ ¬(t = .boolean ∧ op ∈ ordering) := by
  revert h
  cases t <;> cases op <;> decide

end Operator

namespace Filter

/-- A filter is dropped if its operator has no meaning for the type of its field, and only then. -/
theorem compile_eq_none_iff (f : Filter) (t : FieldType) :
    f.compile t = .ok none ↔ ¬f.operator.AppliesTo t := by
  -- What is tried for a filter that applies ends in a predicate or in an error.
  have hkept (x : Except SearchError Predicate) (g : Predicate → Predicate) :
      x.map (fun p => some (g p)) ≠ .ok none := by
    cases x <;> simp [Except.map]
  unfold compile
  cases hop : f.operator <;> cases t <;>
    simp [Operator.AppliesTo, Operator.ordering, Operator.textual, FieldType.isOrdered, hkept]

theorem isDropped_iff (ds : List FilterDescriptor) (f : Filter) :
    f.isDropped ds = true ↔ ¬f.operator.AppliesTo (f.resolvedType ds) := by
  rw [← compile_eq_none_iff, isDropped]
  split
  · next h => simp only [h]
  · next h => simpa using h

/-- A request notes the filters of it that are dropped and no others: two filters with one note have
the operator and the type in common. -/
theorem note_mem_dropped_iff {ds : List FilterDescriptor} {c : Criteria} {k : Compiled}
    (h : c.compile ds = .ok k) {f : Filter} (hf : f ∈ c.filters) :
    f.note ds ∈ k.dropped ↔ ¬f.operator.AppliesTo (f.resolvedType ds) := by
  obtain ⟨-, -, rfl⟩ := (Criteria.compile_eq_ok_iff ds c k).mp h
  rw [← isDropped_iff]
  constructor
  · intro hnote
    obtain ⟨g, hg, hsame⟩ := List.mem_map.mp hnote
    obtain ⟨-, hoperator, htype⟩ := DroppedFilter.mk.inj hsame
    have hdropped := (isDropped_iff ds g).mp (List.mem_filter.mp hg).2
    rw [hoperator, htype] at hdropped
    exact (isDropped_iff ds f).mpr hdropped
  · intro hdropped
    exact List.mem_map.mpr ⟨f, List.mem_filter.mpr ⟨hf, hdropped⟩, rfl⟩

end Filter

namespace EntitySchema

/-- A filter by an operator that a descriptor of its key offers is dropped exactly if the operator
has no meaning for the type of the first descriptor of the key. Unless that one has another type
than the descriptor which offers the operator, this is so for the orders of truth values alone. -/
theorem offered_dropped_iff (s : EntitySchema) (ds : List FilterDescriptor)
    (h : s.descriptors = .ok ds) (d : FilterDescriptor) (hd : d ∈ ds) (f : Filter)
    (hkey : f.key = d.key) (hoffered : f.operator ∈ d.operators) (htype : f.fieldType = none) :
    ∃ first, ds.find? (fun e => e.key == d.key) = some first ∧
      (f.compile (f.resolvedType ds) = .ok none ↔ ¬f.operator.AppliesTo first.fieldType) ∧
      (f.operator.AppliesTo first.fieldType →
        (∃ p, f.compile (f.resolvedType ds) = .ok (some p)) ∨
          ∃ e, f.compile (f.resolvedType ds) = .error e) ∧
      (first.fieldType = d.fieldType →
        (f.operator.AppliesTo first.fieldType ↔
          ¬(d.fieldType = .boolean ∧ f.operator ∈ Operator.ordering))) ∧
      ∀ (c : Criteria) (k : Compiled), f ∈ c.filters → c.compile ds = .ok k →
        (f.note ds ∈ k.dropped ↔ ¬f.operator.AppliesTo first.fieldType) := by
  -- The key has a descriptor, though it need not be the one that offers the operator.
  have hfound : (ds.find? fun e => e.key == d.key).isSome := by
    rw [List.find?_isSome]
    exact ⟨d, hd, beq_self_eq_true d.key⟩
  obtain ⟨first, hfirst⟩ := Option.isSome_iff_exists.mp hfound
  have hresolved : f.resolvedType ds = first.fieldType := by
    rw [Filter.resolvedType, htype, Option.getD_none, resolveFieldType, hkey, hfirst]
  refine ⟨first, hfirst, ?_, ?_, ?_, ?_⟩
  · rw [hresolved, Filter.compile_eq_none_iff]
  · intro happlies
    have hkept := (f.compile_eq_none_iff first.fieldType).not_left.mpr happlies
    rw [hresolved]
    rcases hcompile : f.compile first.fieldType with e | _ | p
    · exact .inr ⟨e, rfl⟩
    · exact absurd hcompile hkept
    · exact .inl ⟨p, rfl⟩
  · intro hsame
    rw [operators_eq_defaults h hd] at hoffered
    rw [hsame]
    exact Operator.appliesTo_iff_of_mem_defaults hoffered
  · intro c k hf hcompile
    rw [← hresolved]
    exact Filter.note_mem_dropped_iff hcompile hf

end EntitySchema

/-- Articles are documents, whose size is a number, but give it as a text of their own. -/
def article : EntitySchema :=
  ⟨⟨"Article", [.plain "published" .boolean, .plain "size" .text]⟩,
    [⟨"Document", [.plain "size" .integer, .plain "pages" .integer]⟩]⟩

/-- A descriptor of a key with the operators that fields of a type are offered with. -/
def FilterDescriptor.offering (key : String) (t : FieldType)
    (h : Text.isBlankText key = false) : FilterDescriptor where
  key := key
  fieldType := t
  nullable := true
  operators := Operator.defaults t
  key_not_blank := h
  operators_ne_nil := by cases t <;> exact List.cons_ne_nil _ _
  operators_normal := Operator.normalize_defaults t

def articleDescriptors : List FilterDescriptor :=
  [.offering "published" .boolean rfl, .offering "size" .string rfl, .offering "size" .number rfl,
    .offering "pages" .number rfl]

/-- A range of a number is kept if its key has no other descriptor. -/
theorem offered_dropped_iff_pages :
    article.descriptors = .ok articleDescriptors ∧
      (∃ d ∈ articleDescriptors, d.key = "pages" ∧ .between ∈ d.operators) ∧
      (Filter.between "pages" "1" "9").compile
        ((Filter.between "pages" "1" "9").resolvedType articleDescriptors) ≠ .ok none := by
  obtain ⟨first, hfirst, hdropped, -⟩ :=
    EntitySchema.offered_dropped_iff article articleDescriptors rfl articleDescriptors[3]
      (by decide) (.between "pages" "1" "9") rfl (by decide) rfl
  refine ⟨rfl, by decide, ?_⟩
  rw [ne_eq, hdropped, not_not]
  cases hfirst
  decide

/-- A range of truth values is offered and dropped, and so is one of the number that stands behind
the text of the same key. -/
theorem offered_dropped_published :
    article.descriptors = .ok articleDescriptors ∧
      (∃ d ∈ articleDescriptors, d.key = "published" ∧ .between ∈ d.operators ∧
        (Filter.between "published" "false" "true").compile
          ((Filter.between "published" "false" "true").resolvedType articleDescriptors) =
            .ok none) ∧
      ∃ d ∈ articleDescriptors, d.key = "size" ∧ .between ∈ d.operators ∧
        (Filter.between "size" "1" "9").compile
          ((Filter.between "size" "1" "9").resolvedType articleDescriptors) = .ok none := by
  simp only [Filter.compile_eq_none_iff]
  exact ⟨rfl, by decide, by decide⟩

end CriteriaSearch
