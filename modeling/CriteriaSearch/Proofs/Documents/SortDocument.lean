import CriteriaSearch.Documents.Query
import CriteriaSearch.Memory.Order
import Mathlib.Data.List.Induction

/-!
# Sort documents

A sort document holds a key once, at the place where it comes first among the sorts and with the
direction with which it comes last. All other stores take the direction with which a key comes
first, since nothing that comes later tells apart what the key does not. So the document has the
order of the sorts exactly if no key comes first and last with different directions.
-/

namespace CriteriaSearch

namespace Direction

theorem apply_eq_eq (direction : Direction) : direction.apply .eq = .eq := by
  cases direction <;> rfl

theorem apply_ne_eq (direction : Direction) (o : Ordering) (h : o ≠ .eq) :
    direction.apply o ≠ .eq := by
  cases o with
  | lt => cases direction <;> decide
  | eq => exact absurd rfl h
  | gt => cases direction <;> decide

theorem apply_lt_inj (a b : Direction) (h : a.apply .lt = b.apply .lt) : a = b := by
  cases a <;> cases b <;> first | rfl | cases h

end Direction

abbrev SortEntry := String × Direction

def TypedSort.entry (s : TypedSort) : SortEntry := (s.key, s.direction)

/-- The order by keys with directions, each of which counts where those before it are equal. -/
def compareBy {α : Type} (order : String → α → α → Ordering) : List SortEntry → α → α → Ordering
  | [], _, _ => .eq
  | (key, direction) :: es, a, b => (direction.apply (order key a b)).then (compareBy order es a b)

def storedOrder (key : String) (a b : Json) : Ordering :=
  Json.compareOptional (a.field? key) (b.field? key)

theorem compareBy_storedOrder (sorts : List TypedSort) (a b : Json) :
    compareBy storedOrder (sorts.map TypedSort.entry) a b = compareRows sorts a b := by
  induction sorts with
  | nil => rfl
  | cons s sorts ih =>
    rw [List.map_cons, TypedSort.entry, compareBy, compareRows, ih]
    rfl

section

variable {α : Type} (order : String → α → α → Ordering) (a b : α)

/-- Two items are told apart by the first key that tells them apart. -/
theorem compareBy_eq_find? (es : List SortEntry) :
    compareBy order es a b = ((es.find? fun e => order e.1 a b != .eq).map fun e =>
      e.2.apply (order e.1 a b)).getD .eq := by
  induction es with
  | nil => rfl
  | cons e es ih =>
    rw [compareBy, List.find?_cons]
    by_cases heq : order e.1 a b = .eq
    · -- A key that does not tell the items apart leaves it to those after it.
      rw [heq, Direction.apply_eq_eq, ih]
      rfl
    · have hne := Direction.apply_ne_eq e.2 _ heq
      rw [bne_iff_ne.mpr heq, Option.map_some, Option.getD_some]
      cases happly : e.2.apply (order e.1 a b) with
      | lt => rfl
      | eq => exact absurd happly hne
      | gt => rfl

end

theorem find?_entries (sorts : List TypedSort) (p : String → Bool) :
    (sorts.map TypedSort.entry).find? (fun e => p e.1) =
      (sorts.find? fun s => p s.key).map TypedSort.entry := List.find?_map

def directionOf (sorts : List TypedSort) (key : String) : Option Direction :=
  (sorts.find? fun s => s.key == key).map TypedSort.direction

/-- No key comes first with one direction and last with another. -/
def IsSettled (sorts : List TypedSort) : Prop :=
  ∀ key, directionOf sorts.reverse key = directionOf sorts key

def lastEntry (sorts : List TypedSort) (key : String) : SortEntry :=
  (key, (directionOf sorts.reverse key).getD .ascending)

/-- The keys of sorts at the places where they come first, with the directions with which they come
last. -/
def settled (sorts : List TypedSort) : List SortEntry :=
  (sorts.map TypedSort.key).eraseDups.map (lastEntry sorts)

theorem lastEntry_concat (sorts : List TypedSort) (s : TypedSort) (key : String) :
    lastEntry (sorts ++ [s]) key = if key = s.key then s.entry else lastEntry sorts key := by
  rw [lastEntry, List.reverse_append, List.reverse_singleton, List.singleton_append, directionOf,
    List.find?_cons]
  by_cases hkey : key = s.key
  · rw [if_pos hkey, hkey, beq_self_eq_true]
    rfl
  · rw [if_neg hkey, beq_eq_false_iff_ne.mpr (Ne.symm hkey)]
    rfl

theorem directionOf_eq_none (sorts : List TypedSort) (key : String) :
    directionOf sorts key = none ↔ key ∉ sorts.map TypedSort.key := by
  rw [directionOf, Option.map_eq_none_iff, List.find?_eq_none, List.mem_map]
  constructor
  · rintro h ⟨s, hs, hkey⟩
    exact h s hs (beq_iff_eq.mpr hkey)
  · intro h s hs hkey
    exact h ⟨s, hs, beq_iff_eq.mp hkey⟩

theorem eraseDups_concat (keys : List String) (key : String) :
    (keys ++ [key]).eraseDups = if key ∈ keys then keys.eraseDups else keys.eraseDups ++ [key] := by
  rw [List.eraseDups_append]
  split
  · next hmem =>
    have hnone : [key].removeAll keys = [] := by simp [List.removeAll, hmem]
    rw [hnone, List.eraseDups_nil, List.append_nil]
  · next hmem =>
    have hsame : [key].removeAll keys = [key] := by simp [List.removeAll, hmem]
    rw [hsame]
    rfl

theorem find?_eraseDups (p : String → Bool) (keys : List String) :
    keys.eraseDups.find? p = keys.find? p := by
  induction keys using List.reverseRecOn with
  | nil => rfl
  | append_singleton keys key ih =>
    rw [eraseDups_concat, List.find?_append]
    split
    · next hmem =>
      rw [ih]
      cases hfind : keys.find? p with
      | some found => rfl
      | none =>
        -- The key would have been found where it came first.
        have hp : p key = false := by simpa using List.find?_eq_none.mp hfind key hmem
        rw [List.find?_cons, hp]
        rfl
    · rw [List.find?_append, ih]

/-- The first sort that tells two items apart is the first one of its key. -/
theorem directionOf_of_find? {sorts : List TypedSort} {p : String → Bool} {s : TypedSort}
    (h : (sorts.find? fun s => p s.key) = some s) : directionOf sorts s.key = some s.direction := by
  obtain ⟨hs, before, after, rfl, hbefore⟩ := List.find?_eq_some_iff_append.mp h
  have hfirst : ((before ++ s :: after).find? fun r => r.key == s.key) = some s := by
    refine List.find?_eq_some_iff_append.mpr ⟨beq_self_eq_true _, before, after, rfl, ?_⟩
    intro r hr
    rw [Bool.not_eq_true', beq_eq_false_iff_ne]
    intro hkey
    have hnot := hbefore r hr
    rw [hkey, hs] at hnot
    cases hnot
  rw [directionOf, hfirst]
  rfl

/-- The first key that tells two items apart is the same, but with the direction with which it comes
last. -/
theorem find?_settled (sorts : List TypedSort) (p : String → Bool) :
    (settled sorts).find? (fun e => p e.1) =
      (sorts.find? fun s => p s.key).map fun s => lastEntry sorts s.key := by
  rw [settled, List.find?_map]
  have hkeys : ((sorts.map TypedSort.key).eraseDups.find? fun key => p key) =
      (sorts.find? fun s => p s.key).map TypedSort.key := by
    rw [find?_eraseDups, List.find?_map]
    rfl
  change Option.map _ ((sorts.map TypedSort.key).eraseDups.find? fun key => p key) = _
  rw [hkeys, Option.map_map]
  rfl

theorem compareBy_settled {sorts : List TypedSort} (h : IsSettled sorts) {α : Type}
    (order : String → α → α → Ordering) (a b : α) :
    compareBy order (settled sorts) a b = compareBy order (sorts.map TypedSort.entry) a b := by
  rw [compareBy_eq_find?, compareBy_eq_find?, find?_entries sorts fun key => order key a b != .eq,
    find?_settled sorts fun key => order key a b != .eq]
  cases hfind : sorts.find? fun s => order s.key a b != .eq with
  | none => rfl
  | some s =>
    have hfirst := directionOf_of_find? (p := fun key => order key a b != .eq) hfind
    have hlast := (h s.key).trans hfirst
    rw [Option.map_some, lastEntry, hlast]
    rfl

def keyRow (key : String) (value : Bool) : Json := .object [(key, .boolean value)]

theorem storedOrder_keyRow (key other : String) :
    storedOrder other (keyRow key false) (keyRow key true) = if other == key then .lt else .eq := by
  have hfield (value : Bool) :
      (keyRow key value).field? other = if other == key then some (.boolean value) else none := by
    rw [keyRow, Json.field?, List.lookup_cons]
    cases other == key <;> rfl
  rw [storedOrder, hfield, hfield]
  cases other == key <;> rfl

/-- Sorts that have the order of their keys on rows are settled, since a row may be told from others
by any one key. -/
theorem isSettled_of_compareBy {sorts : List TypedSort}
    (h : ∀ a b, compareBy storedOrder (settled sorts) a b =
      compareBy storedOrder (sorts.map TypedSort.entry) a b) : IsSettled sorts := by
  intro key
  -- Only this key tells the two rows apart, so that their order shows its direction.
  have hpicks (other : String) :
      (storedOrder other (keyRow key false) (keyRow key true) != .eq) = (other == key) := by
    rw [storedOrder_keyRow]
    cases other == key <;> rfl
  have horder := h (keyRow key false) (keyRow key true)
  rw [compareBy_eq_find?, compareBy_eq_find?] at horder
  simp only [hpicks] at horder
  rw [find?_entries sorts fun other => other == key,
    find?_settled sorts fun other => other == key] at horder
  cases hfirst : sorts.find? fun s => s.key == key with
  | none =>
    have hnone : directionOf sorts key = none := by
      rw [directionOf, hfirst]
      rfl
    have hmem := (directionOf_eq_none sorts key).mp hnone
    rw [hnone, directionOf_eq_none, List.map_reverse, List.mem_reverse]
    exact hmem
  | some s =>
    have hkey : s.key = key := by simpa using List.find?_some hfirst
    have hdirection : directionOf sorts key = some s.direction := by
      rw [directionOf, hfirst]
      rfl
    rw [hfirst, Option.map_some, hkey] at horder
    change ((directionOf sorts.reverse key).getD .ascending).apply
      (storedOrder key (keyRow key false) (keyRow key true)) =
        s.direction.apply (storedOrder s.key (keyRow key false) (keyRow key true)) at horder
    rw [hkey, storedOrder_keyRow, if_pos (beq_self_eq_true key)] at horder
    have hsame := Direction.apply_lt_inj _ _ horder
    rw [hdirection]
    cases hlast : directionOf sorts.reverse key with
    | none =>
      -- A key that comes first comes last.
      rw [directionOf_eq_none, List.map_reverse, List.mem_reverse, ← directionOf_eq_none,
        hdirection] at hlast
      cases hlast
    | some direction =>
      rw [hlast] at hsame
      rw [← hsame]
      rfl

namespace Documents

def Bson.direction? : Bson → Option Direction
  | .int32 n => if n = 1 then some .ascending else if n = -1 then some .descending else none
  | _ => none

theorem direction?_directionSign (direction : Direction) :
    (directionSign direction).direction? = some direction := by
  cases direction <;> rfl

def Document.sortEntries (d : Document) : List SortEntry :=
  d.filterMap fun field => field.2.direction?.map fun direction => (field.1, direction)

def sortField (e : SortEntry) : String × Bson := (e.1, directionSign e.2)

theorem sortEntries_map (es : List SortEntry) : Document.sortEntries (es.map sortField) = es := by
  rw [Document.sortEntries, List.filterMap_map]
  have hfield : (fun field : String × Bson =>
      field.2.direction?.map fun direction => (field.1, direction)) ∘ sortField = some := by
    funext e
    rw [Function.comp_apply, sortField, direction?_directionSign]
    rfl
  rw [hfield, List.filterMap_some]

theorem set_settled (sorts : List TypedSort) (s : TypedSort) :
    Document.set ((settled sorts).map sortField) s.key (directionSign s.direction) =
      (settled (sorts ++ [s])).map sortField := by
  have hany : ((settled sorts).map sortField).any (fun field => field.1 == s.key) = true ↔
      s.key ∈ sorts.map TypedSort.key := by
    rw [settled, List.any_map, List.any_map, List.any_eq_true, ← List.mem_eraseDups]
    constructor
    · rintro ⟨key, hmem, hkey⟩
      obtain rfl : key = s.key := beq_iff_eq.mp hkey
      exact hmem
    · intro hmem
      exact ⟨s.key, hmem, beq_self_eq_true s.key⟩
  have hkeys : settled (sorts ++ [s]) =
      (if s.key ∈ sorts.map TypedSort.key then (sorts.map TypedSort.key).eraseDups
        else (sorts.map TypedSort.key).eraseDups ++ [s.key]).map (lastEntry (sorts ++ [s])) := by
    rw [settled, List.map_append, List.map_singleton, eraseDups_concat]
  rw [Document.set, hkeys]
  by_cases hmem : s.key ∈ sorts.map TypedSort.key
  · -- A key that is there keeps its place and takes the new direction.
    rw [if_pos (hany.mpr hmem), if_pos hmem, settled, List.map_map, List.map_map, List.map_map]
    apply List.map_congr_left
    intro key _
    simp only [Function.comp_apply]
    by_cases hkey : key = s.key
    · rw [lastEntry_concat, if_pos hkey]
      exact if_pos (beq_iff_eq.mpr hkey)
    · rw [lastEntry_concat, if_neg hkey]
      exact if_neg fun h => hkey (beq_iff_eq.mp h)
  · -- A new key comes last, and the entries of the other keys stay as they are.
    have hlast : lastEntry (sorts ++ [s]) s.key = s.entry := by
      rw [lastEntry_concat, if_pos rfl]
    rw [if_neg fun h => hmem (hany.mp h), if_neg hmem, List.map_append, List.map_append,
      List.map_singleton, List.map_singleton, hlast, settled]
    congr 2
    apply List.map_congr_left
    intro key hkey
    rw [lastEntry_concat, if_neg]
    rintro rfl
    exact hmem (List.mem_eraseDups.mp hkey)

theorem sortDocument_eq (sorts : List TypedSort) :
    sortDocument sorts = (settled sorts).map sortField := by
  induction sorts using List.reverseRecOn with
  | nil => rfl
  | append_singleton sorts s ih =>
    rw [← set_settled, ← ih, sortDocument, List.foldl_append]
    rfl

/-- A sort document lists each key once, at its first place and with its last direction. So it has
the order of the sorts exactly if no key comes first with one direction and last with another, and
this is so already for the order of rows in memory. -/
theorem sortDocument_orders_iff (sorts : List TypedSort) :
    (sortDocument sorts).sortEntries = settled sorts ∧
      (sortDocument sorts).length = (settled sorts).length ∧
      ((∀ (α : Type) (order : String → α → α → Ordering) (a b : α),
        compareBy order (sortDocument sorts).sortEntries a b =
          compareBy order (sorts.map TypedSort.entry) a b) ↔ IsSettled sorts) ∧
      ((∀ a b : Json, compareBy storedOrder (sortDocument sorts).sortEntries a b =
        compareRows sorts a b) ↔ IsSettled sorts) := by
  -- Both orders are compared with that of the settled sorts, which the document lists.
  have hentries : (sortDocument sorts).sortEntries = settled sorts := by
    rw [sortDocument_eq, sortEntries_map]
  have hlength : (sortDocument sorts).length = (settled sorts).length := by
    rw [sortDocument_eq, List.length_map]
  have hrows (a b : Json) := compareBy_storedOrder sorts a b
  refine ⟨hentries, hlength, ⟨?_, ?_⟩, ?_, ?_⟩
  · intro h
    apply isSettled_of_compareBy
    intro a b
    rw [← hentries]
    exact h Json storedOrder a b
  · intro h α order a b
    rw [hentries]
    exact compareBy_settled h order a b
  · intro h
    apply isSettled_of_compareBy
    intro a b
    rw [← hentries, hrows]
    exact h a b
  · intro h a b
    rw [hentries, ← hrows]
    exact compareBy_settled h storedOrder a b

/-- A key that is sorted by in both directions has the last one in the sort document, while rows in
memory are in the order of the first. -/
theorem sortDocument_ne_of_both_directions :
    compareRows [⟨"name", .ascending, .string⟩, ⟨"name", .descending, .string⟩]
        (.object [("name", .text "a")]) (.object [("name", .text "b")]) = .lt ∧
      compareBy storedOrder (sortDocument [⟨"name", .ascending, .string⟩,
        ⟨"name", .descending, .string⟩]).sortEntries
        (.object [("name", .text "a")]) (.object [("name", .text "b")]) = .gt := by
  decide

end Documents

end CriteriaSearch
