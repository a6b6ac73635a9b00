import CriteriaSearch.Proofs.Evaluation
import CriteriaSearch.Proofs.RowOrder
import Mathlib.Data.List.Basic

/-!
# Stable sorting

What it is to sort a list and to keep the places of equal items, for a comparison that is only known
to be an order on the items of the list. There is one such list, and it is the one that a query on
rows in memory cuts its page from.
-/

namespace CriteriaSearch

/-- The items of a list that the comparison does not tell from one item. -/
def tied {α : Type} (cmp : α → α → Ordering) (x : α) (xs : List α) : List α :=
  xs.filter fun y => cmp y x == .eq

theorem tied_cons {α : Type} (cmp : α → α → Ordering) (x y : α) (ys : List α) :
    tied cmp x (y :: ys) = if cmp y x = .eq then y :: tied cmp x ys else tied cmp x ys := by
  rw [tied, List.filter_cons]
  simp only [beq_iff_eq]
  rfl

/-- The second list holds the items of the first one in order, and items that are equal in that
order keep their places among each other. -/
structure IsStableSort {α : Type} (cmp : α → α → Ordering) (xs ys : List α) : Prop where
  perm : ys.Perm xs
  ordered : ys.Pairwise fun a b => (cmp a b).isLE
  ties : ∀ x ∈ xs, tied cmp x ys = tied cmp x xs

/-- The order of two rows by a key: that of the values under it, or the other way round. -/
def SortKey.compareRows (s : SortKey) (a b : Json) : Ordering :=
  match s.direction with
  | .ascending => Json.compareOptional (a.field? s.key) (b.field? s.key)
  | .descending => Json.compareOptional (b.field? s.key) (a.field? s.key)

/-- The order that a request asks for: the first key that tells two rows apart decides. -/
def requestedOrder (sorts : List SortKey) (a b : Json) : Ordering :=
  ((sorts.map fun s => s.compareRows a b).find? fun o => o != .eq).getD .eq

theorem Json.compareOptional_swap (a b : Option Json) :
    compareOptional a b = (compareOptional b a).swap := by
  rw [compareOptional_eq, compareOptional_eq, comparePresent_swap]

theorem SortKey.compareRows_typed (s : SortKey) (t : FieldType) (a b : Json) :
    (⟨s.key, s.direction, t⟩ : TypedSort).compareRows a b = s.compareRows a b := by
  rw [compareRows, TypedSort.compareRows]
  cases s.direction with
  | ascending => rfl
  | descending => exact (Json.compareOptional_swap _ _).symm

/-- Compiling a request leaves the order that it asks for as it is. -/
theorem compareRows_typedSorts (ds : List FilterDescriptor) (c : Criteria) :
    compareRows (c.typedSorts ds) = requestedOrder c.sorts := by
  funext a b
  rw [Criteria.typedSorts]
  induction c.sorts with
  | nil => rfl
  | cons s sorts ih =>
    rw [List.map_cons, CriteriaSearch.compareRows, s.compareRows_typed, ih, requestedOrder,
      requestedOrder, List.map_cons, List.find?_cons]
    cases s.compareRows a b <;> rfl

def IsTransitiveOn {α : Type} (cmp : α → α → Ordering) (xs : List α) : Prop :=
  ∀ a ∈ xs, ∀ b ∈ xs, ∀ c ∈ xs, (cmp a b).isLE → (cmp b c).isLE → (cmp a c).isLE

namespace IsStableSort

variable {α : Type} {cmp : α → α → Ordering} [Std.OrientedCmp cmp]

theorem isLE_swap_iff (a b : α) : (cmp a b).isLE ↔ cmp b a ≠ .lt := by
  have hswap : cmp a b = (cmp b a).swap := Std.OrientedCmp.eq_swap
  rw [hswap]
  cases cmp b a <;> decide

/-- Ordered lists with the same items are the same if equal items stand in the same order. -/
theorem eq_of_ties (ys zs : List α) (hys : ys.Pairwise fun a b => (cmp a b).isLE)
    (hzs : zs.Pairwise fun a b => (cmp a b).isLE) (hperm : ys.Perm zs)
    (hties : ∀ x ∈ ys, tied cmp x ys = tied cmp x zs) : ys = zs := by
  induction ys generalizing zs with
  | nil => exact hperm.nil_eq
  | cons y ys ih =>
    cases zs with
    | nil => exact absurd hperm.eq_nil (List.cons_ne_nil y ys)
    | cons z zs =>
      have hself (x : α) : cmp x x = .eq := Std.ReflCmp.compare_self
      rw [List.pairwise_cons] at hys hzs
      -- Each of the two heads stands before the other one, so that they are equal in the order.
      have hyz : (cmp y z).isLE := by
        rcases List.mem_cons.mp (hperm.mem_iff.mpr List.mem_cons_self) with rfl | hz
        · rw [hself]
          rfl
        · exact hys.1 z hz
      have hzy : (cmp z y).isLE := by
        rcases List.mem_cons.mp (hperm.mem_iff.mp List.mem_cons_self) with rfl | hy
        · rw [hself]
          rfl
        · exact hzs.1 y hy
      have htie : cmp z y = .eq := by
        rw [isLE_swap_iff] at hyz
        cases hcmp : cmp z y with
        | lt => exact absurd hcmp hyz
        | eq => rfl
        | gt =>
          rw [hcmp] at hzy
          cases hzy
      -- Both are the first of the items that are equal to them, which stand in one order.
      have hhead := hties y List.mem_cons_self
      rw [tied_cons, tied_cons, if_pos (hself y), if_pos htie] at hhead
      obtain rfl := (List.cons.inj hhead).1
      congr 1
      apply ih zs hys.2 hzs.2 hperm.cons_inv
      intro x hx
      have hrest := hties x (List.mem_cons_of_mem y hx)
      rw [tied_cons, tied_cons] at hrest
      split at hrest
      · exact (List.cons.inj hrest).2
      · exact hrest

theorem unique {xs ys zs : List α} (hys : IsStableSort cmp xs ys) (hzs : IsStableSort cmp xs zs) :
    ys = zs := by
  apply eq_of_ties ys zs hys.ordered hzs.ordered (hys.perm.trans hzs.perm.symm)
  intro x hx
  have hmem : x ∈ xs := hys.perm.mem_iff.mp hx
  rw [hys.ties x hmem, hzs.ties x hmem]

/-- No item stands before one that another relation puts before it exactly if the comparison agrees
with the relation, as long as it tells apart what the relation does. -/
theorem pairwise_not_iff {xs ys : List α} (h : IsStableSort cmp xs ys) (before : α → α → Prop)
    (hne : ∀ a ∈ xs, ∀ b ∈ xs, before a b → cmp a b ≠ .eq) :
    (ys.Pairwise fun a b => ¬before b a) ↔ ∀ a ∈ xs, ∀ b ∈ xs, before a b → cmp a b = .lt := by
  constructor
  · intro hys a ha b hb hbefore
    obtain ⟨i, hi, rfl⟩ := List.getElem_of_mem (h.perm.mem_iff.mpr ha)
    obtain ⟨j, hj, rfl⟩ := List.getElem_of_mem (h.perm.mem_iff.mpr hb)
    have hdiffer := hne _ ha _ hb hbefore
    have hle := List.pairwise_iff_getElem.mp h.ordered
    have hnot := List.pairwise_iff_getElem.mp hys
    -- The first item stands before the second one, since otherwise it would stand wrongly after it.
    rcases Nat.lt_trichotomy i j with hij | rfl | hji
    · cases hcmp : cmp ys[i] ys[j] with
      | lt => rfl
      | eq => exact absurd hcmp hdiffer
      | gt =>
        have := hle i j hi hj hij
        rw [hcmp] at this
        cases this
    · exact absurd Std.ReflCmp.compare_self hdiffer
    · exact absurd hbefore (hnot j i hj hi hji)
  · intro hcmp
    apply h.ordered.imp_of_mem
    intro a b ha hb hle hbefore
    have hlt := hcmp b (h.perm.mem_iff.mp hb) a (h.perm.mem_iff.mp ha) hbefore
    exact (isLE_swap_iff a b).mp hle hlt

/-- Sorting by merging is stable, also where the comparison is no order beyond the list. -/
theorem of_mergeSort (xs : List α) (htrans : IsTransitiveOn cmp xs) :
    IsStableSort cmp xs (xs.mergeSort fun a b => (cmp a b).isLE) := by
  -- The comparison is an order on the items as members of the list.
  have hle (a b c : {x // x ∈ xs}) (hab : (cmp a.1 b.1).isLE = true)
      (hbc : (cmp b.1 c.1).isLE = true) : (cmp a.1 c.1).isLE = true :=
    htrans a.1 a.2 b.1 b.2 c.1 c.2 hab hbc
  have htotal (a b : {x // x ∈ xs}) : ((cmp a.1 b.1).isLE || (cmp b.1 a.1).isLE) = true := by
    have hswap : cmp b.1 a.1 = (cmp a.1 b.1).swap := Std.OrientedCmp.eq_swap
    rw [hswap]
    cases cmp a.1 b.1 <;> rfl
  have hsort : xs.mergeSort (fun a b => (cmp a b).isLE) =
      (xs.attach.mergeSort fun a b => (cmp a.1 b.1).isLE).map Subtype.val := by
    rw [List.map_mergeSort (f := Subtype.val) (s := fun a b => (cmp a b).isLE) fun a _ b _ => rfl,
      List.attach_map_subtype_val]
  refine ⟨List.mergeSort_perm xs _, ?_, ?_⟩
  · rw [hsort, List.pairwise_map]
    exact List.pairwise_mergeSort hle htotal xs.attach
  · intro x hx
    -- Equal items are in order as they stand, so that sorting keeps them as they are.
    have hattach :
        (xs.attach.filter fun y => cmp y.1 x == .eq).map Subtype.val = tied cmp x xs := by
      have hcomp : (fun y : {y // y ∈ xs} => cmp y.1 x == .eq) =
          (fun y => cmp y x == .eq) ∘ Subtype.val := rfl
      rw [hcomp, ← List.filter_map, List.attach_map_subtype_val, tied]
    have hordered : (xs.attach.filter fun y => cmp y.1 x == .eq).Pairwise
        fun a b => (cmp a.1 b.1).isLE = true := by
      apply List.pairwise_of_forall_mem_list
      intro a ha b hb
      have hax : cmp a.1 x = .eq := beq_iff_eq.mp (List.mem_filter.mp ha).2
      have hbx : cmp b.1 x = .eq := beq_iff_eq.mp (List.mem_filter.mp hb).2
      apply htrans a.1 a.2 x hx b.1 b.2
      · rw [hax]
        rfl
      · rw [isLE_swap_iff, hbx]
        decide
    have hsub : (tied cmp x xs).Sublist (xs.mergeSort fun a b => (cmp a b).isLE) := by
      rw [hsort, ← hattach]
      exact (List.sublist_mergeSort hle htotal hordered List.filter_sublist).map Subtype.val
    have hlength : (tied cmp x (xs.mergeSort fun a b => (cmp a b).isLE)).length =
        (tied cmp x xs).length := ((List.mergeSort_perm xs _).filter _).length_eq
    have htwice : tied cmp x (tied cmp x xs) = tied cmp x xs := by
      simp only [tied, List.filter_filter, Bool.and_self]
    have htied : (tied cmp x (tied cmp x xs)).Sublist _ := hsub.filter fun y => cmp y x == .eq
    rw [htwice] at htied
    exact (htied.eq_of_length hlength.symm).symm

end IsStableSort

instance (sorts : List TypedSort) : Std.OrientedCmp (compareRows sorts) :=
  ⟨compareRows_swap sorts _ _⟩

namespace MemoryStore

/-- The rows that satisfy the predicate of a compiled request, in the order of their insertion. -/
def matching (store : MemoryStore) (k : Compiled) : List Json :=
  store.rows.filter fun row => satisfies k.predicate row

/-- The rows that a compiled request finds, in the order of its sorts. -/
def found (store : MemoryStore) (k : Compiled) : List Json :=
  (MemoryQuery.mk k.predicate k.sorts k.page).found store.rows

theorem found_eq (store : MemoryStore) (k : Compiled) :
    store.found k = (store.matching k).mergeSort fun a b => (compareRows k.sorts a b).isLE := by
  have hkeeps : (MemoryQuery.mk k.predicate k.sorts k.page).keeps =
      fun row => satisfies k.predicate row := by
    funext row
    exact keeps_eq_satisfies _ row
  rw [found, MemoryQuery.found, hkeeps, matching]

theorem isStableSort_found (store : MemoryStore) (k : Compiled)
    (htrans : IsTransitiveOn (compareRows k.sorts) (store.matching k)) :
    IsStableSort (compareRows k.sorts) (store.matching k) (store.found k) := by
  rw [found_eq]
  exact .of_mergeSort (store.matching k) htrans

theorem found_of_no_sorts (store : MemoryStore) (k : Compiled) (h : k.sorts = []) :
    store.found k = store.matching k := by
  rw [found_eq, h]
  apply List.mergeSort_of_pairwise
  exact List.pairwise_of_forall fun _ _ => rfl

end MemoryStore

end CriteriaSearch
