import CriteriaSearch.Proofs.Criteria.Document
import Mathlib.Data.List.Forall2

/-!
# Members that can be left out

Members of other names, and members that are null where this stands for the default, can be left out
of the objects of a criteria document, and the same is read from it. The one exception is an object
that has a known member twice: it is refused, while the rest may be readable.
-/

namespace CriteriaSearch

namespace Slot

/-- What two objects say about a field of a record: the same up to `R`, or else the first says null
and the second nothing. -/
inductive Alike (omissible : Prop) (R : Json → Json → Prop) : Slot → Slot → Prop
  | missing : Alike omissible R .missing .missing
  | given {v w : Json} (h : R v w) : Alike omissible R (.given v) (.given w)
  | omitted (h : omissible) : Alike omissible R (.given .null) .missing

variable {α : Type} {read : Json → Option α} {omissible : Prop} {R : Json → Json → Prop}
  {s t : Slot}

theorem Alike.eq (h : Alike omissible Eq s t) (hneeded : ¬omissible) : s = t := by
  cases h with
  | missing => rfl
  | given h => rw [h]
  | omitted h => exact absurd h hneeded

/-- A reader for which null stands for a default reads the same from both slots. -/
theorem Alike.congr {β : Type} {reader : Slot → β} (result : Option α → β)
    (h : Alike omissible R s t)
    (hread : ∀ v w, R v w → (v = .null ↔ w = .null) ∧ read v = read w)
    (hgiven : ∀ v, v ≠ .null → reader (.given v) = result (read v))
    (hnull : reader (.given .null) = reader .missing) : reader s = reader t := by
  cases h with
  | missing => rfl
  | omitted h => exact hnull
  | @given v w h =>
    obtain ⟨hboth, heq⟩ := hread v w h
    by_cases hv : v = .null
    · rw [hv, hboth.mp hv]
    · rw [hgiven v hv, hgiven w (mt hboth.mpr hv), heq]

theorem Alike.optional_eq (h : Alike omissible R s t)
    (hread : ∀ v w, R v w → (v = .null ↔ w = .null) ∧ read v = read w) :
    s.optional read = t.optional read :=
  h.congr (Option.map some) hread (fun _ hv => optional_of_ne_null hv read) rfl

theorem Alike.orNull_eq (h : Alike omissible R s t) (default : α)
    (hread : ∀ v w, R v w → (v = .null ↔ w = .null) ∧ read v = read w) :
    s.orNull default read = t.orNull default read :=
  h.congr id hread (fun _ hv => orNull_of_ne_null hv default read) rfl

end Slot

namespace Json

theorem slotOf_cons_self (name : String) (v : Json) (fields : List (String × Json)) :
    slotOf ((name, v) :: fields) name = .given v := by
  rw [slotOf, List.lookup_cons_self]

theorem slotOf_cons_of_ne {name other : String} (h : name ≠ other) (v : Json)
    (fields : List (String × Json)) : slotOf ((other, v) :: fields) name = slotOf fields name := by
  rw [slotOf, slotOf, List.lookup_cons, beq_eq_false_iff_ne.mpr h]

theorem slotOf_of_not_mem {name : String} {fields : List (String × Json)}
    (h : name ∉ fields.map Prod.fst) : slotOf fields name = .missing := by
  rw [slotOf, lookup_of_not_mem h]

/-- The second list has the fields of the first but for some of other names than the given ones, and
some that are null and nullable. The values of the others may differ by `R`. -/
inductive Thinned (names nullable : List String) (R : String → Json → Json → Prop) :
    List (String × Json) → List (String × Json) → Prop
  | nil : Thinned names nullable R [] []
  | keep {name : String} {v w : Json} {fs gs : List (String × Json)}
      (h : name ∈ names → R name v w) (rest : Thinned names nullable R fs gs) :
      Thinned names nullable R ((name, v) :: fs) ((name, w) :: gs)
  | ignored {name : String} (v : Json) {fs gs : List (String × Json)}
      (h : name ∉ names) (rest : Thinned names nullable R fs gs) :
      Thinned names nullable R ((name, v) :: fs) gs
  | null {name : String} {fs gs : List (String × Json)}
      (h : name ∈ nullable) (rest : Thinned names nullable R fs gs) :
      Thinned names nullable R ((name, .null) :: fs) gs

/-- The second document is the first, or an object with some of its fields left out. No name of the
record is repeated in the first object only. -/
inductive Pruned (names nullable : List String) (R : String → Json → Json → Prop) :
    Json → Json → Prop
  | same (j : Json) : Pruned names nullable R j j
  | object {fs gs : List (String × Json)} (h : Thinned names nullable R fs gs)
      (hrepeated : ∀ name ∈ names, unique gs name = true → unique fs name = true) :
      Pruned names nullable R (.object fs) (.object gs)

/-- The second document is the first, or an array with items that differ by `R`. -/
inductive PrunedItems (R : Json → Json → Prop) : Json → Json → Prop
  | same (j : Json) : PrunedItems R j j
  | array {js ks : List Json} (h : List.Forall₂ R js ks) : PrunedItems R (.array js) (.array ks)

variable {names nullable : List String} {R : String → Json → Json → Prop}

theorem Thinned.names_sublist {fs gs : List (String × Json)} (h : Thinned names nullable R fs gs) :
    (gs.map Prod.fst).Sublist (fs.map Prod.fst) := by
  induction h with
  | nil => exact List.Sublist.refl []
  | keep _ _ ih => exact ih.cons_cons _
  | ignored _ _ _ ih => exact ih.cons _
  | null _ _ ih => exact ih.cons _

theorem Thinned.unique {fs gs : List (String × Json)} (h : Thinned names nullable R fs gs)
    {name : String} (hunique : Json.unique fs name = true) : Json.unique gs name = true := by
  rw [unique_iff_count_le] at hunique ⊢
  exact (h.names_sublist.count_le name).trans hunique

/-- A field with one of the names that stands once is found in both lists, or it is null. -/
theorem Thinned.alike {fs gs : List (String × Json)} (h : Thinned names nullable R fs gs)
    {name : String} (hname : name ∈ names) (honce : (fs.map Prod.fst).count name ≤ 1) :
    Slot.Alike (name ∈ nullable) (R name) (slotOf fs name) (slotOf gs name) := by
  induction h with
  | nil => exact .missing
  | @keep other v w fs gs h _ ih =>
    by_cases hsame : name = other
    · subst hsame
      rw [slotOf_cons_self, slotOf_cons_self]
      exact .given (h hname)
    · rw [slotOf_cons_of_ne hsame, slotOf_cons_of_ne hsame]
      rw [List.map_cons, List.count_cons_of_ne (Ne.symm hsame)] at honce
      exact ih honce
  | @ignored other v fs gs h _ ih =>
    have hother : name ≠ other := fun hsame => h (hsame ▸ hname)
    rw [slotOf_cons_of_ne hother]
    rw [List.map_cons, List.count_cons_of_ne hother.symm] at honce
    exact ih honce
  | @null other fs gs h rest ih =>
    by_cases hsame : name = other
    · subst hsame
      rw [List.map_cons, List.count_cons_self] at honce
      -- The null was the only field of its name.
      have hgone : name ∉ gs.map Prod.fst := by
        intro hmem
        have hpos := List.count_pos_iff.mpr (rest.names_sublist.subset hmem)
        omega
      rw [slotOf_cons_self, slotOf_of_not_mem hgone]
      exact .omitted h
    · rw [slotOf_cons_of_ne hsame]
      rw [List.map_cons, List.count_cons_of_ne (Ne.symm hsame)] at honce
      exact ih honce

/-- What is made of the slots of a record is the same for both documents if it is the same for slots
that are alike. -/
theorem Pruned.bind_slots? {α : Type} {f : List Slot → Option α} {j k : Json}
    (h : Pruned names nullable R j k)
    (hf : ∀ s t : String → Slot,
      (∀ name ∈ names, Slot.Alike (name ∈ nullable) (R name) (s name) (t name)) →
        f (names.map s) = f (names.map t)) :
    (j.slots? names).bind f = (k.slots? names).bind f := by
  cases h with
  | same => rfl
  | @object fs gs h hrepeated =>
    have hall : names.all (unique gs) = names.all (unique fs) := by
      rw [Bool.eq_iff_iff, List.all_eq_true, List.all_eq_true]
      exact ⟨fun hgs name hname => hrepeated name hname (hgs name hname),
        fun hfs name hname => h.unique (hfs name hname)⟩
    rw [slots?, slots?, hall]
    split
    · next hunique =>
      refine hf _ _ fun name hname => h.alike hname ?_
      rw [← unique_iff_count_le]
      exact List.all_eq_true.mp hunique name hname
    · rfl

theorem Pruned.slots?_eq {j k : Json} (h : Pruned names [] (fun _ => Eq) j k) :
    j.slots? names = k.slots? names := by
  have hbind := h.bind_slots? (f := some) fun s t halike => by
    rw [List.map_congr_left fun name hname => (halike name hname).eq (List.not_mem_nil)]
  rwa [Option.bind_fun_some, Option.bind_fun_some] at hbind

theorem Pruned.null_iff {j k : Json} (h : Pruned names nullable R j k) : j = .null ↔ k = .null := by
  cases h with
  | same => exact Iff.rfl
  | object => exact ⟨nofun, nofun⟩

namespace PrunedItems

variable {P : Json → Json → Prop} {j k : Json}

theorem null_iff (h : PrunedItems P j k) : j = .null ↔ k = .null := by
  cases h with
  | same => exact Iff.rfl
  | array => exact ⟨nofun, nofun⟩

theorem list?_eq {α : Type} {read : Json → Option α} (h : PrunedItems P j k)
    (hread : ∀ v w, P v w → read v = read w) : list? read j = list? read k := by
  cases h with
  | same => rfl
  | @array js ks h =>
    rw [list?, list?]
    induction h with
    | nil => rfl
    | cons hvw _ ih => rw [List.mapM_cons, List.mapM_cons, hread _ _ hvw, ih]

end PrunedItems

end Json

/-!
## Parts of a request

For each part, `Pruned` says that the second document is the first with members left out.
-/

def PageRequest.Pruned : Json → Json → Prop := Json.Pruned ["number", "size"] [] fun _ => Eq

theorem PageRequest.ofJson?_congr {j k : Json} (h : Pruned j k) : ofJson? j = ofJson? k := by
  rw [ofJson?, ofJson?, Json.Pruned.slots?_eq h]

def SortKey.Pruned : Json → Json → Prop := Json.Pruned ["key", "direction"] [] fun _ => Eq

theorem SortKey.ofJson?_congr {j k : Json} (h : Pruned j k) : ofJson? j = ofJson? k := by
  rw [ofJson?, ofJson?, Json.Pruned.slots?_eq h]

def FullText.Pruned : Json → Json → Prop := Json.Pruned ["query"] [] fun _ => Eq

theorem FullText.ofJson?_congr {j k : Json} (h : Pruned j k) : ofJson? j = ofJson? k := by
  rw [ofJson?, ofJson?, Json.Pruned.slots?_eq h]

namespace Filter

def Pruned : Json → Json → Prop :=
  Json.Pruned ["key", "operator", "fieldType", "value", "valueTo", "values"]
    ["fieldType", "value", "valueTo", "values"] fun _ => Eq

theorem ofJson?_congr {j k : Json} (h : Pruned j k) : ofJson? j = ofJson? k := by
  refine Json.Pruned.bind_slots? h ?_
  intro s t halike
  simp only [List.forall_mem_cons] at halike
  obtain ⟨hkey, hoperator, htype, hvalue, hvalueTo, hvalues, -⟩ := halike
  have hread {α : Type} (read : Json → Option α) (v w : Json) (h : v = w) :
      (v = .null ↔ w = .null) ∧ read v = read w := by
    rw [h]
    exact ⟨Iff.rfl, rfl⟩
  simp only [List.map_cons, List.map_nil]
  rw [hkey.eq (by decide), hoperator.eq (by decide), htype.optional_eq (hread _),
    hvalue.optional_eq (hread _), hvalueTo.optional_eq (hread _), hvalues.orNull_eq [] (hread _)]

end Filter

namespace Criteria

/-- The values of a member of a request that differ by members left out further inside. -/
def PrunedPart : String → Json → Json → Prop
  | "filters" => Json.PrunedItems Filter.Pruned
  | "sorts" => Json.PrunedItems SortKey.Pruned
  | "fullText" => FullText.Pruned
  | "page" => PageRequest.Pruned
  | _ => Eq

/-- The second document is that of a request with members left out, at any level. -/
def Pruned : Json → Json → Prop :=
  Json.Pruned ["filters", "sorts", "fullText", "page"] ["filters", "sorts", "fullText", "page"]
    PrunedPart

/-- The same request is read, or none, when members are left out of its document that have other
names or are null for a default, as long as no object repeats a known member before and does not
afterwards. -/
theorem ofJson?_eq_of_pruned {j k : Json} (h : Pruned j k) : ofJson? j = ofJson? k := by
  refine Json.Pruned.bind_slots? h ?_
  intro s t halike
  simp only [List.forall_mem_cons] at halike
  obtain ⟨hfilters, hsorts, hfullText, hpage, -⟩ := halike
  simp only [List.map_cons, List.map_nil]
  rw [hfilters.orNull_eq [] fun v w h => ⟨h.null_iff, h.list?_eq fun _ _ => Filter.ofJson?_congr⟩,
    hsorts.orNull_eq [] fun v w h => ⟨h.null_iff, h.list?_eq fun _ _ => SortKey.ofJson?_congr⟩,
    hfullText.optional_eq fun v w h => ⟨h.null_iff, FullText.ofJson?_congr h⟩,
    hpage.orNull_eq .first fun v w h => ⟨h.null_iff, PageRequest.ofJson?_congr h⟩]

/-- A request with nulls and with members of other names at each level. -/
def wordy : Json :=
  .object [
    ("filters", .array [.object [("key", .text "age"), ("value", .null),
      ("operator", .text "BLANK"), ("values", .null), ("note", .text "unknown")]]),
    ("sorts", .null),
    ("language", .text "en"),
    ("page", .object [("of", .null), ("size", .integer 5)])]

def terse : Json :=
  .object [
    ("filters", .array [.object [("key", .text "age"), ("operator", .text "BLANK")]]),
    ("page", .object [("size", .integer 5)])]

theorem ofJson?_wordy_eq_terse :
    Pruned wordy terse ∧ ofJson? wordy = ofJson? terse ∧
      ofJson? terse = some ⟨[.bare "age" .blank], [], none, ⟨0, 5⟩⟩ := by
  have hfilter : Filter.Pruned
      (.object [("key", .text "age"), ("value", .null), ("operator", .text "BLANK"),
        ("values", .null), ("note", .text "unknown")])
      (.object [("key", .text "age"), ("operator", .text "BLANK")]) :=
    .object (.keep (fun _ => rfl) (.null (by decide) (.keep (fun _ => rfl) (.null (by decide)
      (.ignored _ (by decide) .nil))))) (by decide)
  have hpage : PageRequest.Pruned (.object [("of", .null), ("size", .integer 5)])
      (.object [("size", .integer 5)]) :=
    .object (.ignored _ (by decide) (.keep (fun _ => rfl) .nil)) (by decide)
  have hpruned : Pruned wordy terse :=
    .object (.keep (fun _ => .array (.cons hfilter .nil)) (.null (by decide)
      (.ignored _ (by decide) (.keep (fun _ => hpage) .nil)))) (by decide)
  exact ⟨hpruned, ofJson?_eq_of_pruned hpruned, rfl⟩

/-- A null that repeats a known member cannot be left out, and neither can a second member of an
object that names an operator: the request is refused with it and read without it. -/
theorem refused_for_repeated_null_or_operator_member :
    (Json.Thinned ["filters", "sorts", "fullText", "page"] ["filters", "sorts", "fullText", "page"]
        PrunedPart [("filters", .null), ("filters", .array [])] [("filters", .array [])] ∧
      ofJson? (.object [("filters", .null), ("filters", .array [])]) = none ∧
      ofJson? (.object [("filters", .array [])]) = some .everything) ∧
    ofJson? (.object [("filters", .array [.object [("key", .text "age"),
      ("operator", .object [("BLANK", .null), ("note", .null)])]])]) = none ∧
    ofJson? (.object [("filters", .array [.object [("key", .text "age"),
      ("operator", .object [("BLANK", .null)])]])]) =
        some ⟨[.bare "age" .blank], [], none, .first⟩ := by
  have hthinned : Json.Thinned ["filters", "sorts", "fullText", "page"]
      ["filters", "sorts", "fullText", "page"] PrunedPart
      [("filters", .null), ("filters", .array [])] [("filters", .array [])] :=
    .null (by decide) (.keep (fun _ => .same _) .nil)
  exact ⟨⟨hthinned, rfl, rfl⟩, rfl, rfl⟩

end Criteria

end CriteriaSearch
