import CriteriaSearch.Criteria.Document
import CriteriaSearch.Proofs.Json.RoundTrip

namespace CriteriaSearch

namespace Slot

/-- The slot of a field that is written with this value, or left out. -/
def ofOption : Option Json → Slot
  | some v => .given v
  | none => .missing

variable {α : Type} {read : Json → Option α}

theorem optional_of_ne_null {v : Json} (h : v ≠ .null) (read : Json → Option α) :
    (given v).optional read = (read v).map some := by
  cases v <;> first | rfl | exact absurd rfl h

theorem orNull_of_ne_null {v : Json} (h : v ≠ .null) (default : α) (read : Json → Option α) :
    (given v).orNull default read = read v := by
  cases v <;> first | rfl | exact absurd rfl h

/-- A value that may be absent is read back if nothing is written as null. -/
theorem optional_ofOption (write : α → Json) (hread : ∀ a, read (write a) = some a)
    (hnull : ∀ a, write a ≠ .null) (o : Option α) :
    (ofOption (o.map write)).optional read = some o := by
  cases o with
  | none => rfl
  | some a =>
    rw [Option.map_some, ofOption, optional_of_ne_null (hnull a), hread]
    rfl

theorem orNull_ofOption (default : α) {a : α} {v : Json} (hread : read v = some a)
    (hnull : v ≠ .null) : (ofOption (some v)).orNull default read = some a := by
  rw [ofOption, orNull_of_ne_null hnull, hread]

end Slot

namespace Json

def writtenFields (fields : List (String × Option Json)) : List (String × Json) :=
  fields.filterMap fun (name, value) => value.map fun v => (name, v)

theorem names_writtenFields (fields : List (String × Option Json)) :
    ((writtenFields fields).map Prod.fst).Sublist (fields.map Prod.fst) := by
  induction fields with
  | nil => exact List.Sublist.refl []
  | cons field fields ih =>
    obtain ⟨name, _ | v⟩ := field
    · exact ih.cons name
    · exact ih.cons_cons name

theorem unique_iff_count_le (fields : List (String × Json)) (name : String) :
    unique fields name = true ↔ (fields.map Prod.fst).count name ≤ 1 := by
  rw [List.count, List.countP_map, List.countP_eq_length_filter]
  exact decide_eq_true_iff

theorem unique_of_nodup {fields : List (String × Json)} (h : (fields.map Prod.fst).Nodup)
    (name : String) : unique fields name = true := by
  rw [unique_iff_count_le]
  exact List.nodup_iff_count.mp h name

theorem lookup_of_not_mem {name : String} {fields : List (String × Json)}
    (h : name ∉ fields.map Prod.fst) : fields.lookup name = none := by
  refine List.lookup_eq_none_iff.mpr fun field hfield => ?_
  rw [bne_iff_ne]
  rintro rfl
  exact h (List.mem_map_of_mem hfield)

theorem lookup_writtenFields {fields : List (String × Option Json)}
    (h : (fields.map Prod.fst).Nodup) {field : String × Option Json} (hfield : field ∈ fields) :
    (writtenFields fields).lookup field.1 = field.2 := by
  induction fields with
  | nil => cases hfield
  | cons first fields ih =>
    rw [List.map_cons, List.nodup_cons] at h
    obtain ⟨hnew, hothers⟩ := h
    obtain ⟨name, value⟩ := first
    rcases List.mem_cons.mp hfield with rfl | hlater
    · cases value with
      | some v => exact List.lookup_cons_self
      | none =>
        -- No field behind has the name of one that is left out.
        refine lookup_of_not_mem fun hmem => hnew ?_
        exact (names_writtenFields fields).subset hmem
    · have hother : field.1 ≠ name := fun hsame =>
        hnew (List.mem_map.mpr ⟨field, hlater, hsame⟩)
      rw [← ih hothers hlater]
      cases value with
      | none => rfl
      | some v =>
        change ((name, v) :: writtenFields fields).lookup field.1 = _
        rw [List.lookup_cons, beq_eq_false_iff_ne.mpr hother]

/-- The document of a record has for each of its names what the record has for it. -/
theorem slots?_ofFields (fields : List (String × Option Json)) {names : List String}
    (hnames : fields.map Prod.fst = names) (h : names.Nodup) :
    (ofFields fields).slots? names = some (fields.map fun field => Slot.ofOption field.2) := by
  subst hnames
  have hunique : (fields.map Prod.fst).all (unique (writtenFields fields)) = true :=
    List.all_eq_true.mpr fun name _ => unique_of_nodup ((names_writtenFields fields).nodup h) name
  change (if (fields.map Prod.fst).all (unique (writtenFields fields)) = true then
    some ((fields.map Prod.fst).map (slotOf (writtenFields fields))) else none) = _
  rw [if_pos hunique, List.map_map]
  congr 1
  apply List.map_congr_left
  intro field hfield
  rw [Function.comp_apply, slotOf, lookup_writtenFields h hfield]
  cases field.2 <;> rfl

theorem list?_map {α : Type} {read : Json → Option α} (write : α → Json)
    (hread : ∀ a, read (write a) = some a) (xs : List α) :
    list? read (.array (xs.map write)) = some xs := by
  have hpure : read ∘ write = fun a => (pure (id a) : Option α) := funext hread
  rw [list?, List.mapM_map, hpure, List.mapM_pure, List.map_id]
  rfl

theorem isExact_ofFields {fields : List (String × Option Json)}
    (h : ∀ field ∈ fields, ∀ v, field.2 = some v → IsExact v) : IsExact (ofFields fields) := by
  refine .object _ fun written hwritten => ?_
  obtain ⟨field, hfield, hvalue⟩ := List.mem_filterMap.mp hwritten
  obtain ⟨v, hv, rfl⟩ := Option.map_eq_some_iff.mp hvalue
  exact h field hfield v hv

variable {α : Type} {write : α → Json} (hwrite : ∀ a, IsExact (write a))
include hwrite

theorem isExact_map (xs : List α) : IsExact (.array (xs.map write)) := by
  refine .array _ fun item hitem => ?_
  obtain ⟨a, -, rfl⟩ := List.mem_map.mp hitem
  exact hwrite a

theorem isExact_of_map {o : Option α} (v : Json) (h : o.map write = some v) : IsExact v := by
  obtain ⟨a, -, rfl⟩ := Option.map_eq_some_iff.mp h
  exact hwrite a

end Json

theorem FilterDescriptor.operatorOfJson?_name (op : Operator) :
    operatorOfJson? (.text op.name) = some op := by
  cases op <;> rfl

theorem FilterDescriptor.fieldTypeOfJson?_name (t : FieldType) :
    fieldTypeOfJson? (.text t.name) = some t := by
  cases t <;> rfl

theorem SortKey.directionOfJson?_name (d : Direction) :
    directionOfJson? (.text d.name) = some d := by
  cases d <;> rfl

namespace PageRequest

theorem numberOfJson?_integer (n : UInt32) : numberOfJson? (.integer n.toNat) = some n := by
  have hlt := n.toNat_lt
  rw [numberOfJson?, Json.natUpTo?, if_pos (by omega), Option.map_some, Int.toNat_natCast,
    UInt32.ofNat_toNat]

theorem ofJson?_toJson (p : PageRequest) : ofJson? p.toJson = some p := by
  have hslots : p.toJson.slots? ["number", "size"] = _ :=
    Json.slots?_ofFields [("number", some (.integer p.number.toNat)),
      ("size", some (.integer p.size.toNat))] rfl (by decide)
  rw [ofJson?, hslots]
  simp only [List.map_cons, List.map_nil, Slot.ofOption, Option.bind_eq_bind, Option.bind_some,
    Slot.orElse, numberOfJson?_integer]

end PageRequest

namespace SortKey

theorem ofJson?_toJson (s : SortKey) : ofJson? s.toJson = some s := by
  have hslots : s.toJson.slots? ["key", "direction"] = _ :=
    Json.slots?_ofFields [("key", some (.text s.key)),
      ("direction", some (.text s.direction.name))] rfl (by decide)
  rw [ofJson?, hslots]
  simp only [List.map_cons, List.map_nil, Slot.ofOption, Option.bind_eq_bind, Option.bind_some,
    Slot.required, Slot.orElse, Json.text?, directionOfJson?_name]

end SortKey

namespace FullText

theorem ofJson?_toJson (f : FullText) : ofJson? f.toJson = some f := by
  have hslots : f.toJson.slots? ["query"] = _ :=
    Json.slots?_ofFields [("query", some (.ofText? f.query))] rfl (by decide)
  have hquery : (Slot.given (.ofText? f.query)).optional Json.text? = some f.query := by
    cases f.query <;> rfl
  rw [ofJson?, hslots]
  simp only [List.map_cons, List.map_nil, Slot.ofOption, Option.bind_eq_bind, Option.bind_some,
    hquery]

end FullText

namespace Filter

theorem ofJson?_toJson (f : Filter) : ofJson? f.toJson = some f := by
  have hslots : f.toJson.slots?
      ["key", "operator", "fieldType", "value", "valueTo", "values"] = _ :=
    Json.slots?_ofFields _ rfl (by decide)
  have htype := Slot.optional_ofOption (fun t : FieldType => .text t.name)
    FilterDescriptor.fieldTypeOfJson?_name (fun _ => nofun) f.fieldType
  have htext (o : Option String) : (Slot.ofOption (o.map .text)).optional Json.text? = some o :=
    Slot.optional_ofOption .text (fun _ => rfl) (fun _ => nofun) o
  have hlist : Json.list? Json.text? (.array (f.values.map .text)) = some f.values :=
    Json.list?_map .text (fun _ => rfl) f.values
  have hvalues : (Slot.ofOption (if f.values = [] then none
      else some (.array (f.values.map .text)))).orNull [] (Json.list? Json.text?) =
        some f.values := by
    by_cases hnil : f.values = []
    · rw [if_pos hnil, hnil]
      rfl
    · rw [if_neg hnil]
      exact Slot.orNull_ofOption [] hlist nofun
  rw [ofJson?, hslots]
  simp only [List.map_cons, List.map_nil, Option.bind_eq_bind, Option.bind_some, htype, htext,
    hvalues]
  simp only [Slot.ofOption, Slot.required, Json.text?, FilterDescriptor.operatorOfJson?_name,
    Option.bind_some]

end Filter

namespace Criteria

theorem ofJson?_toJson (c : Criteria) : ofJson? c.toJson = some c := by
  have hslots : c.toJson.slots? ["filters", "sorts", "fullText", "page"] = _ :=
    Json.slots?_ofFields _ rfl (by decide)
  have hfilters := Slot.orNull_ofOption []
    (Json.list?_map Filter.toJson Filter.ofJson?_toJson c.filters) nofun
  have hsorts := Slot.orNull_ofOption []
    (Json.list?_map SortKey.toJson SortKey.ofJson?_toJson c.sorts) nofun
  have hfullText :=
    Slot.optional_ofOption FullText.toJson FullText.ofJson?_toJson (fun _ => nofun) c.fullText
  have hpage := Slot.orNull_ofOption .first (PageRequest.ofJson?_toJson c.page) nofun
  rw [ofJson?, hslots]
  simp only [List.map_cons, List.map_nil, Option.bind_eq_bind, Option.bind_some, hfilters, hsorts,
    hfullText, hpage]

end Criteria

theorem PageRequest.isExact_toJson (p : PageRequest) : p.toJson.IsExact := by
  have hword (n : UInt32) : (Json.integer n.toNat).IsExact := by
    have hlt := n.toNat_lt
    exact .integer _ (by omega) (by omega)
  refine .object _ ?_
  simp only [List.forall_mem_cons, List.not_mem_nil, false_imp_iff, implies_true, and_true]
  exact ⟨hword p.number, hword p.size⟩

theorem SortKey.isExact_toJson (s : SortKey) : s.toJson.IsExact := by
  refine .object _ ?_
  simp only [List.forall_mem_cons, List.not_mem_nil, false_imp_iff, implies_true, and_true]
  exact ⟨.text s.key, .text s.direction.name⟩

theorem FullText.isExact_toJson (f : FullText) : f.toJson.IsExact := by
  refine .object _ ?_
  simp only [List.forall_mem_cons, List.not_mem_nil, false_imp_iff, implies_true, and_true]
  cases f.query with
  | none => exact .null
  | some query => exact .text query

theorem Filter.isExact_toJson (f : Filter) : f.toJson.IsExact := by
  refine Json.isExact_ofFields ?_
  simp only [List.forall_mem_cons, List.not_mem_nil, false_imp_iff, implies_true, and_true,
    Option.some.injEq, forall_eq']
  refine ⟨.text f.key, .text f.operator.name, ?_, ?_, ?_, ?_⟩
  · exact Json.isExact_of_map fun t : FieldType => .text t.name
  · exact Json.isExact_of_map .text
  · exact Json.isExact_of_map .text
  · -- The values are written unless there are none.
    intro v hv
    by_cases hnil : f.values = []
    · rw [if_pos hnil] at hv
      cases hv
    · rw [if_neg hnil] at hv
      cases hv
      exact Json.isExact_map .text f.values

namespace Criteria

theorem isExact_toJson (c : Criteria) : c.toJson.IsExact := by
  refine Json.isExact_ofFields ?_
  simp only [List.forall_mem_cons, List.not_mem_nil, false_imp_iff, implies_true, and_true,
    Option.some.injEq, forall_eq']
  exact ⟨Json.isExact_map Filter.isExact_toJson c.filters,
    Json.isExact_map SortKey.isExact_toJson c.sorts,
    Json.isExact_of_map FullText.isExact_toJson, c.page.isExact_toJson⟩

/-- A request is read back as it was from its document, and from the text of its document. -/
theorem survives_json (c : Criteria) :
    ofJson? c.toJson = some c ∧ (Json.ofText c.toJson.compact).bind ofJson? = some c := by
  refine ⟨ofJson?_toJson c, ?_⟩
  rw [c.isExact_toJson.ofText_compact, Option.bind_some, ofJson?_toJson]

end Criteria

end CriteriaSearch
