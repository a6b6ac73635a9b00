import CriteriaSearch.Descriptor.Draft
import CriteriaSearch.Proofs.Criteria.Document
import CriteriaSearch.Proofs.Schema
import Mathlib.Data.List.Induction

namespace CriteriaSearch

namespace DraftStep

def type? : DraftStep → Option FieldType
  | .fieldType t => some t
  | _ => none

def nullable? : DraftStep → Option Bool
  | .nullable b => some b
  | _ => none

def added : DraftStep → List Operator
  | .operator op => [op]
  | .operators ops => ops
  | _ => []

end DraftStep

namespace DescriptorDraft

/-- The latest type and nullability that steps give are those of the draft after them, and every
operator that they add is among those of the draft. -/
theorem run_eq (d : DescriptorDraft) (steps : List DraftStep) :
    d.run steps = ⟨d.key, (steps.reverse.findSome? DraftStep.type?).or d.fieldType,
      (steps.reverse.findSome? DraftStep.nullable?).getD d.nullable,
      d.operators ++ steps.flatMap DraftStep.added⟩ := by
  -- The last step decides, so steps are taken off from the end.
  induction steps using List.reverseRecOn with
  | nil => simp [run]
  | append_singleton steps step ih =>
    have hrun : d.run (steps ++ [step]) = (d.run steps).apply step := by
      rw [run, List.foldl_concat]
      rfl
    rw [hrun, ih]
    simp only [List.reverse_concat, List.findSome?_cons, List.flatMap_append,
      List.flatMap_singleton]
    cases step with
    | fieldType t => simp [apply, DraftStep.type?, DraftStep.nullable?, DraftStep.added]
    | nullable b => simp [apply, DraftStep.type?, DraftStep.nullable?, DraftStep.added]
    | operator op => simp [apply, DraftStep.type?, DraftStep.nullable?, DraftStep.added]
    | operators ops => simp [apply, DraftStep.type?, DraftStep.nullable?, DraftStep.added]

theorem build_eq_ok_iff (key : String) (steps : List DraftStep) (d : FilterDescriptor) :
    ((start key).run steps).build = .ok d ↔
      ∃ t, steps.reverse.findSome? DraftStep.type? = some t ∧
        d.HasParts key t ((steps.reverse.findSome? DraftStep.nullable?).getD false)
          (steps.flatMap DraftStep.added) := by
  rw [run_eq, build, FilterDescriptor.make_eq_ok_iff]
  simp only [start, Option.or_none, List.nil_append]

end DescriptorDraft

namespace Slot

def value? : Slot → Option Json
  | .given v => some v
  | _ => none

variable {α : Type} {read : Json → Option α}

theorem required_eq_some {slot : Slot} {a : α} (h : slot.required read = some a) :
    ∃ v, slot.value? = some v ∧ read v = some a := by
  cases slot with
  | given v => exact ⟨v, rfl, h⟩
  | _ => cases h

theorem nullable_eq_some {slot : Slot} {a : α} (h : slot.nullable read = some (some a)) :
    ∃ v, slot.value? = some v ∧ read v = some a := by
  unfold nullable at h
  split at h
  · cases h
  · next v _ =>
    obtain ⟨b, hread, hb⟩ := Option.map_eq_some_iff.mp h
    cases hb
    exact ⟨v, rfl, hread⟩
  · cases h
  · cases h

theorem orElse_eq_some {slot : Slot} {default a : α} (h : slot.orElse default read = some a) :
    slot.value? = none ∧ a = default ∨ ∃ v, slot.value? = some v ∧ read v = some a := by
  cases slot with
  | given v => exact .inr ⟨v, rfl, h⟩
  | missing => exact .inl ⟨rfl, (Option.some.inj h).symm⟩
  | cutOff => exact .inl ⟨rfl, (Option.some.inj h).symm⟩

end Slot

namespace Json

/-- What the document of a record says for one of its names: the first field of an object that has
the name, or the item at the place of the name in an array. -/
def said? (names : List String) (name : String) : Json → Option Json
  | .object fields => fields.lookup name
  | .array items => items[names.idxOf name]?
  | _ => none

theorem value?_of_slots? {names : List String} (hnodup : names.Nodup) {j : Json}
    {slots : List Slot} (h : j.slots? names = some slots) :
    slots.map Slot.value? = names.map fun name => j.said? names name := by
  cases j with
  | object fields =>
    obtain ⟨-, hslots⟩ := Option.ite_none_right_eq_some.mp h
    rw [← Option.some.inj hslots, List.map_map]
    apply List.map_congr_left
    intro name _
    rw [Function.comp_apply, slotOf, said?]
    cases fields.lookup name <;> rfl
  | array items =>
    obtain ⟨-, hslots⟩ := Option.ite_none_right_eq_some.mp h
    rw [← Option.some.inj hslots]
    apply List.ext_getElem
    · simp
    · intro i hi hnames
      rw [List.length_map] at hnames
      -- The names differ, so that the place of a name is the place where its slot was made.
      have hplace : names.idxOf names[i] = i := hnodup.idxOf_getElem i hnames
      simp only [List.getElem_map, List.getElem_range, slotAt, said?, hplace]
      cases items[i]? <;> rfl
  | _ => cases h

end Json

namespace FilterDescriptor

def fieldNames : List String := ["key", "fieldType", "nullable", "availableOperators"]

/-- The document says what the descriptor is. It may leave out only the nullability. -/
structure IsReadFrom (d : FilterDescriptor) (j : Json) : Prop where
  key : j.said? fieldNames "key" = some (.text d.key)
  fieldType : ∃ v, j.said? fieldNames "fieldType" = some v ∧
    fieldTypeOfJson? v = some d.fieldType
  nullable : j.said? fieldNames "nullable" = none ∧ d.nullable = false ∨
    j.said? fieldNames "nullable" = some (.boolean d.nullable)
  operators : ∃ items ops, j.said? fieldNames "availableOperators" = some (.array items) ∧
    items.mapM operatorOfJson? = some ops ∧ d.HasParts d.key d.fieldType d.nullable ops

/-- The document says too little for a descriptor: its key is blank, or it has no field type or no
operators. -/
def LacksParts (j : Json) : Prop :=
  (∃ key, j.said? fieldNames "key" = some (.text key) ∧ Text.isBlankText key = true) ∨
    j.said? fieldNames "fieldType" = none ∨ j.said? fieldNames "fieldType" = some .null ∨
    j.said? fieldNames "availableOperators" = none ∨
    j.said? fieldNames "availableOperators" = some (.array [])

theorem isReadFrom_of_ofJson? {j : Json} {d : FilterDescriptor} (h : ofJson? j = some d) :
    d.IsReadFrom j := by
  obtain ⟨slots, hslots, h⟩ := Option.bind_eq_some_iff.mp h
  have hsaid := Json.value?_of_slots? (by decide) hslots
  split at h
  · next keySlot typeSlot nullableSlot operatorSlot =>
    obtain ⟨key, hkey, h⟩ := Option.bind_eq_some_iff.mp h
    obtain ⟨type, htype, h⟩ := Option.bind_eq_some_iff.mp h
    obtain ⟨b, hnullable, h⟩ := Option.bind_eq_some_iff.mp h
    obtain ⟨ops, hops, h⟩ := Option.bind_eq_some_iff.mp h
    -- What was read is fit for a descriptor, since one was made of it.
    have hmade : make key type b ops = .ok d := by
      cases hm : make key type b ops with
      | error e =>
        rw [hm] at h
        cases h
      | ok made =>
        rw [hm] at h
        exact congrArg Except.ok (Option.some.inj h)
    obtain ⟨t, rfl, hparts⟩ := (make_eq_ok_iff key type b ops d).mp hmade
    simp only [List.map_cons, List.map_nil, List.cons.injEq, and_true] at hsaid
    obtain ⟨hkeySaid, htypeSaid, hnullableSaid, hoperatorsSaid⟩ := hsaid
    obtain rfl := hparts.key_eq
    obtain rfl := hparts.fieldType_eq
    obtain rfl := hparts.nullable_eq
    constructor
    case key =>
      obtain ⟨v, hv, hread⟩ := Slot.required_eq_some hkey
      cases v <;> cases hread
      exact hkeySaid.symm.trans hv
    case fieldType =>
      obtain ⟨v, hv, hread⟩ := Slot.nullable_eq_some htype
      exact ⟨v, htypeSaid.symm.trans hv, hread⟩
    case nullable =>
      rcases Slot.orElse_eq_some hnullable with ⟨hv, hfalse⟩ | ⟨v, hv, hread⟩
      · exact .inl ⟨hnullableSaid.symm.trans hv, hfalse⟩
      · cases v <;> cases hread
        exact .inr (hnullableSaid.symm.trans hv)
    case operators =>
      rcases Slot.orElse_eq_some hops with ⟨-, hnone⟩ | ⟨v, hv, hread⟩
      · exact absurd hnone hparts.offers
      · cases v with
        | array items => exact ⟨items, ops, hoperatorsSaid.symm.trans hv, hread, hparts⟩
        | _ => cases hread
  · cases h

theorem ofJson?_of_lacksParts {j : Json} (h : LacksParts j) : ofJson? j = none := by
  rw [Option.eq_none_iff_forall_ne_some]
  intro d hread
  obtain ⟨hkey, ⟨v, hv, htype⟩, -, ⟨items, ops, hitems, hops, hparts⟩⟩ :=
    isReadFrom_of_ofJson? hread
  rcases h with ⟨key, hblank, hkeyBlank⟩ | hmissing | hnull | hmissing | hempty
  · rw [hkey] at hblank
    cases hblank
    rw [d.key_not_blank] at hkeyBlank
    cases hkeyBlank
  · rw [hmissing] at hv
    cases hv
  · rw [hnull] at hv
    cases hv
    cases htype
  · rw [hmissing] at hitems
    cases hitems
  · rw [hempty] at hitems
    cases hitems
    cases hops
    exact hparts.offers rfl

theorem ofJson?_toJson (d : FilterDescriptor) : ofJson? d.toJson = some d := by
  have hslots : d.toJson.slots? ["key", "fieldType", "nullable", "availableOperators"] = _ :=
    Json.slots?_ofFields [("key", some (.text d.key)), ("fieldType", some (.text d.fieldType.name)),
      ("nullable", some (.boolean d.nullable)),
      ("availableOperators", some (.array (d.operators.map fun op : Operator => .text op.name)))]
      rfl (by decide)
  have hops := Json.list?_map (fun op : Operator => .text op.name) operatorOfJson?_name d.operators
  have htype : (Slot.given (.text d.fieldType.name)).nullable fieldTypeOfJson? =
      some (some d.fieldType) := congrArg (Option.map some) (fieldTypeOfJson?_name d.fieldType)
  have hmake : make d.key (some d.fieldType) d.nullable d.operators = .ok d :=
    (make_eq_ok_iff _ _ _ _ d).mpr ⟨d.fieldType, rfl, d.hasParts_self⟩
  rw [ofJson?, hslots]
  simp only [List.map_cons, List.map_nil, Slot.ofOption, Option.bind_eq_bind, Option.bind_some,
    Slot.required, Json.text?, htype, Slot.orElse, Json.boolean?, hops, hmake]
  rfl

theorem isExact_toJson (d : FilterDescriptor) : d.toJson.IsExact := by
  refine .object _ ?_
  simp only [List.forall_mem_cons, List.not_mem_nil, false_imp_iff, implies_true, and_true]
  exact ⟨.text d.key, .text d.fieldType.name, .boolean d.nullable,
    Json.isExact_map (fun op : Operator => .text op.name) d.operators⟩

/-- Whatever a descriptor is made from, parts, a type with its operators, steps, an entity or a
document, was fit for a descriptor and is all that it holds. It is read back from its document and
from the text of that as it was, and a document that lacks a part is refused. -/
theorem made_from_valid_parts :
    (∀ key t nullable ops d,
      make key (some t) nullable ops = .ok d ↔ d.HasParts key t nullable ops) ∧
    (∀ key t nullable d,
      withDefaults key t nullable = .ok d ↔
        d.HasParts key t nullable (Operator.defaults t)) ∧
    (∀ key steps d,
      ((DescriptorDraft.start key).run steps).build = .ok d ↔
        ∃ t, steps.reverse.findSome? DraftStep.type? = some t ∧
          d.HasParts key t ((steps.reverse.findSome? DraftStep.nullable?).getD false)
            (steps.flatMap DraftStep.added)) ∧
    (∀ (s : EntitySchema) ds, s.descriptors = .ok ds → ∀ d ∈ ds,
      ∃ a ∈ s.attributes, ∃ key t nullable, a.searchedAs? = some (key, t, nullable) ∧
        d.HasParts key t nullable (Operator.defaults t)) ∧
    (∀ j d, ofJson? j = some d → d.IsReadFrom j) ∧
    (∀ d, ofJson? d.toJson = some d ∧ (Json.ofText d.toJson.compact).bind ofJson? = some d) ∧
    ∀ j, LacksParts j → ofJson? j = none := by
  refine ⟨?_, withDefaults_eq_ok_iff, DescriptorDraft.build_eq_ok_iff, ?_, ?_, ?_, ?_⟩
  · intro key t nullable ops d
    rw [make_eq_ok_iff]
    simp only [Option.some.injEq, exists_eq_left']
  · intro s ds h d hd
    obtain ⟨a, ha, key, t, nullable, hsearched, hmade⟩ := EntitySchema.exists_attribute h hd
    exact ⟨a, ha, key, t, nullable, hsearched, (withDefaults_eq_ok_iff _ _ _ _).mp hmade⟩
  · intro j d h
    exact isReadFrom_of_ofJson? h
  · intro d
    refine ⟨ofJson?_toJson d, ?_⟩
    rw [d.isExact_toJson.ofText_compact, Option.bind_some, ofJson?_toJson]
  · intro j h
    exact ofJson?_of_lacksParts h

end FilterDescriptor

end CriteriaSearch
