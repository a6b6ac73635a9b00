import CriteriaSearch.Proofs.Compilation
import CriteriaSearch.Proofs.Sorting
import Mathlib.Order.Bounds.Basic

namespace CriteriaSearch

theorem flatMap_windows {α : Type} (xs : List α) (size count : Nat) :
    ((List.range count).flatMap fun n => (xs.drop (n * size)).take size) =
      xs.take (count * size) := by
  induction count with
  | zero => simp
  | succ count ih =>
    rw [List.range_succ, List.flatMap_append, ih, Nat.succ_mul, List.take_add,
      List.flatMap_singleton]

namespace ResultPage

/-- The count of pages is the least one whose pages hold all rows. -/
theorem isLeast_pageCount (total : Nat) (size : UInt32) (hsize : size ≠ 0) :
    IsLeast {k | total ≤ k * size.toNat} (pageCount total size) := by
  have hpos : 0 < size.toNat := Nat.pos_of_ne_zero fun h => hsize (UInt32.toNat_inj.mp h)
  rw [pageCount, if_neg hsize]
  constructor
  · have hdiv := Nat.lt_div_mul_add (a := total + size.toNat - 1) hpos
    change total ≤ _
    omega
  · intro k hk
    have hk : total ≤ k * size.toNat := hk
    have hlt : total + size.toNat - 1 < (k + 1) * size.toNat := by
      rw [Nat.succ_mul]
      omega
    exact Nat.lt_succ_iff.mp ((Nat.div_lt_iff_lt_mul hpos).mpr hlt)

/-- A count reaches that of the pages when so many pages hold all rows. -/
theorem pageCount_le_iff (total : Nat) (size : UInt32) (hsize : size ≠ 0) (k : Nat) :
    pageCount total size ≤ k ↔ total ≤ k * size.toNat := by
  have hleast := isLeast_pageCount total size hsize
  constructor
  · intro hk
    exact hleast.1.trans (Nat.mul_le_mul_right _ hk)
  · intro htotal
    exact hleast.2 htotal

/-- The count of pages in words of 64 bits: a quotient, and one more if anything is left. -/
def wordPageCount (total size : UInt64) : UInt64 :=
  if total % size = 0 then total / size else total / size + 1

theorem toNat_wordPageCount (total : Nat) (size : UInt32) (hsize : size ≠ 0)
    (htotal : total < 2 ^ 64) :
    (wordPageCount (.ofNat total) size.toUInt64).toNat = pageCount total size := by
  have hpos : 0 < size.toNat := Nat.pos_of_ne_zero fun h => hsize (UInt32.toNat_inj.mp h)
  have hword : (UInt64.ofNat total).toNat = total := by
    rw [UInt64.toNat_ofNat', Nat.mod_eq_of_lt htotal]
  have hmod : UInt64.ofNat total % size.toUInt64 = 0 ↔ total % size.toNat = 0 := by
    rw [← UInt64.toNat_inj, UInt64.toNat_mod, hword, UInt32.toNat_toUInt64]
    rfl
  have hdiv : (UInt64.ofNat total / size.toUInt64).toNat = total / size.toNat := by
    rw [UInt64.toNat_div, hword, UInt32.toNat_toUInt64]
  have hsplit := Nat.div_add_mod' total size.toNat
  have hrest := Nat.mod_lt total hpos
  have hle : total / size.toNat ≤ total / size.toNat * size.toNat := Nat.le_mul_of_pos_right _ hpos
  rw [pageCount, if_neg hsize, wordPageCount]
  by_cases hzero : total % size.toNat = 0
  · rw [if_pos (hmod.mpr hzero), hdiv]
    symm
    apply Nat.div_eq_of_lt_le
    · omega
    · rw [Nat.succ_mul]
      omega
  · -- Something is left, so that the quotient is less than the count of rows and one can be added.
    rw [if_neg fun h => hzero (hmod.mp h), UInt64.toNat_add, hdiv, UInt64.toNat_one,
      Nat.mod_eq_of_lt (by omega)]
    symm
    apply Nat.div_eq_of_lt_le
    · rw [Nat.succ_mul]
      omega
    · rw [Nat.succ_mul, Nat.succ_mul]
      omega

/-- The page is the one with this number and size of the rows that were found. -/
structure IsPageOf (found : List Json) (number size : UInt32) (p : ResultPage Json) : Prop where
  number_eq : p.number = number
  size_eq : p.size = size
  content_eq : p.content = (found.drop (number.toNat * size.toNat)).take size.toNat
  length_eq : p.content.length =
    min size.toNat (found.length - min found.length (number.toNat * size.toNat))
  total_eq : p.total = found.length
  totalPages_isLeast : IsLeast {k | found.length ≤ k * size.toNat} p.totalPages
  first_iff : p.first = true ↔ number = 0
  last_iff : p.last = true ↔ found.drop ((number.toNat + 1) * size.toNat) = []
  empty_iff : p.empty = true ↔ p.content = []

/-- The numbers of a page are those that words of 64 bits hold, none of which wraps around. -/
structure IsComputedInWords (number size : UInt32) (p : ResultPage Json) : Prop where
  offset_eq : (number.toUInt64 * size.toUInt64).toNat = number.toNat * size.toNat
  next_eq : (number.toUInt64 + 1).toNat = number.toNat + 1
  totalPages_eq : p.total < 2 ^ 64 →
    (wordPageCount (.ofNat p.total) size.toUInt64).toNat = p.totalPages
  last_iff : p.total < 2 ^ 64 →
    (p.last = true ↔ wordPageCount (.ofNat p.total) size.toUInt64 ≤ number.toUInt64 + 1)

variable (found : List Json) (number size : UInt32) (sorts : List SortKey)

def cut : ResultPage Json :=
  .ofRows ((found.drop (number.toNat * size.toNat)).take size.toNat) ⟨number, size⟩ found.length
    sorts

theorem isPageOf_cut (hsize : size ≠ 0) :
    IsPageOf found number size (cut found number size sorts) := by
  refine ⟨rfl, rfl, rfl, ?_, rfl, isLeast_pageCount found.length size hsize, ?_, ?_, ?_⟩
  · change ((found.drop _).take _).length = _
    rw [List.length_take, List.length_drop]
    omega
  · change (number == 0) = true ↔ _
    exact beq_iff_eq
  · change decide (pageCount found.length size ≤ number.toNat + 1) = true ↔ _
    rw [decide_eq_true_iff, pageCount_le_iff found.length size hsize, List.drop_eq_nil_iff]
  · change ((found.drop _).take _).isEmpty = true ↔ _
    exact List.isEmpty_iff

theorem isComputedInWords_cut (hsize : size ≠ 0) :
    IsComputedInWords number size (cut found number size sorts) := by
  have hnumber := number.toNat_lt
  have hnext : (number.toUInt64 + 1).toNat = number.toNat + 1 := by
    rw [UInt64.toNat_add, UInt32.toNat_toUInt64, UInt64.toNat_one, Nat.mod_eq_of_lt (by omega)]
  have hpages := toNat_wordPageCount found.length size hsize
  refine ⟨?_, hnext, hpages, ?_⟩
  · -- A product of two numbers below 2³² is below 2⁶⁴.
    have hlt : number.toNat * size.toNat < 2 ^ 32 * 2 ^ 32 :=
      Nat.mul_lt_mul'' hnumber size.toNat_lt
    rw [← Nat.pow_add] at hlt
    rw [UInt64.toNat_mul, UInt32.toNat_toUInt64, UInt32.toNat_toUInt64, Nat.mod_eq_of_lt hlt]
  · intro htotal
    change decide (pageCount found.length size ≤ number.toNat + 1) = true ↔ _
    rw [decide_eq_true_iff, ← hpages htotal, ← hnext, ← UInt64.le_iff_toNat_le]
    rfl

end ResultPage

namespace MemoryStore

theorem repository_compile (store : MemoryStore) (c : Criteria) (k : Compiled)
    (h : c.compile store.descriptors = .ok k) :
    store.repository.compile c = .ok ⟨k.predicate, k.sorts, k.page⟩ := by
  change (c.compile store.descriptors).bind _ = _
  rw [h]
  rfl

theorem repository_search (store : MemoryStore) (c : Criteria) (k : Compiled)
    (h : c.compile store.descriptors = .ok k) :
    Id.run (store.repository.search c) =
      .ok (.cut (store.found k) c.page.number c.page.size c.sorts) := by
  obtain ⟨-, -, hk⟩ := (Criteria.compile_eq_ok_iff _ c k).mp h
  have hpage : k.page = c.page := by rw [hk]; rfl
  rw [Repository.search, repository_compile store c k h]
  change Repository.mapResult store.repository c
    ⟨((store.found k).drop k.page.offset).take k.page.size.toNat, (store.found k).length⟩ = _
  -- The entities of a store are its rows as they are.
  have hrows (rows : List Json) : rows.mapM store.repository.mapRow = .ok rows := by
    rw [mapM_eq_ok_iff]
    refine ⟨fun row _ => ⟨row, rfl⟩, ?_⟩
    exact List.filterMap_some.symm
  rw [Repository.mapResult, hrows, hpage]
  rfl

/-- Only the page is another one when a request is made for another page. -/
theorem compile_withPage (ds : List FilterDescriptor) (c : Criteria) (k : Compiled)
    (h : c.compile ds = .ok k) (number size : UInt32) (hsize : size ≠ 0) :
    (c.withPage number size).compile ds = .ok { k with page := ⟨number, size⟩ } := by
  obtain ⟨-, hfilters, rfl⟩ := (Criteria.compile_eq_ok_iff ds c k).mp h
  exact (Criteria.compile_eq_ok_iff ds (c.withPage number size) _).mpr ⟨hsize, hfilters, rfl⟩

/-- So many pages put together are as many rows as they have room for. -/
theorem flatMap_pages (store : MemoryStore) (k : Compiled) (size : UInt32) (sorts : List SortKey)
    (count : Nat) (hcount : count ≤ 2 ^ 32) :
    ((List.range count).flatMap fun n =>
        (ResultPage.cut (store.found k) (.ofNat n) size sorts).content) =
      (store.found k).take (count * size.toNat) := by
  rw [← flatMap_windows]
  apply List.flatMap_congr
  intro n hn
  -- The number of each of the pages is held by 32 bits.
  have hlt : n < 2 ^ 32 := (List.mem_range.mp hn).trans_le hcount
  change ((store.found k).drop ((UInt32.ofNat n).toNat * size.toNat)).take size.toNat = _
  rw [UInt32.toNat_ofNat_of_lt' hlt]

end MemoryStore

/-- The pages of one size partition the rows that match. There is one stable sort of these rows by
the keys of the request, the order of their insertion if there are none, and every page of every
size is cut from it and tells where it lies. So many pages put together are as many rows of it, and
all pages are all of it. -/
theorem pages_partition (store : MemoryStore) (c : Criteria) (k : Compiled)
    (h : c.compile store.descriptors = .ok k)
    (htrans : IsTransitiveOn (requestedOrder c.sorts) (store.matching k)) :
    ∃ found : List Json, IsStableSort (requestedOrder c.sorts) (store.matching k) found ∧
      (∀ rows, IsStableSort (requestedOrder c.sorts) (store.matching k) rows → rows = found) ∧
      (c.sorts = [] → found = store.matching k) ∧
      ∀ size : UInt32, size ≠ 0 → ∃ pages : UInt32 → ResultPage Json,
        (∀ number, Id.run (store.repository.search (c.withPage number size)) = .ok (pages number) ∧
          (pages number).IsPageOf found number size ∧
          (pages number).IsComputedInWords number size) ∧
        (∀ count ≤ 2 ^ 32, ((List.range count).flatMap fun n => (pages (.ofNat n)).content) =
          found.take (count * size.toNat)) ∧
        ((pages 0).totalPages ≤ 2 ^ 32 →
          ((List.range (pages 0).totalPages).flatMap fun n => (pages (.ofNat n)).content) =
            found) := by
  -- The compiled sorts have the order of the requested ones, which the rest is about.
  have hsorts := Criteria.sorts_of_compile h
  rw [← compareRows_typedSorts store.descriptors c, ← hsorts] at htrans ⊢
  have hsort := store.isStableSort_found k htrans
  refine ⟨store.found k, hsort, fun rows hrows => hrows.unique hsort, ?_, ?_⟩
  · intro hnone
    apply store.found_of_no_sorts k
    rw [hsorts, Criteria.typedSorts, hnone]
    rfl
  intro size hsize
  refine ⟨fun number => .cut (store.found k) number size c.sorts, ?_, ?_, ?_⟩
  · intro number
    refine ⟨?_, ResultPage.isPageOf_cut _ number size c.sorts hsize,
      ResultPage.isComputedInWords_cut _ number size c.sorts hsize⟩
    have hcompile := MemoryStore.compile_withPage store.descriptors c k h number size hsize
    exact store.repository_search (c.withPage number size) { k with page := ⟨number, size⟩ }
      hcompile
  · exact store.flatMap_pages k size c.sorts
  · intro htotal
    have hleast := ResultPage.isLeast_pageCount (store.found k).length size hsize
    exact (store.flatMap_pages k size c.sorts _ htotal).trans (List.take_of_length_le hleast.1)

def countedRow (name : String) (count : Int) : Json :=
  .object [("name", .text name), ("count", .integer count)]

def countedRows : MemoryStore where
  descriptors := [⟨"count", .number, true, [.greaterThan], by decide, by decide, by decide⟩]
  rows := [countedRow "a" 7, countedRow "b" 1, countedRow "c" 3, countedRow "d" 7, countedRow "e" 3]

def countsDescending : Criteria :=
  ⟨[.withValue "count" .greaterThan "2"], [⟨"count", .descending⟩], none, .first⟩

/-- The larger counts come first: of the four rows that are found the third one inserted stands on
the first page, and the second page, which is the last one, holds the rows with the smaller
count. -/
theorem pages_partition_of_counts :
    ∃ first second,
      Id.run (countedRows.repository.search (countsDescending.withPage 0 2)) = .ok first ∧
      Id.run (countedRows.repository.search (countsDescending.withPage 1 2)) = .ok second ∧
      first.content = [countedRow "a" 7, countedRow "d" 7] ∧ first.last = false ∧
      second.content = [countedRow "c" 3, countedRow "e" 3] ∧ second.last = true ∧
      second.total = 4 := by
  obtain ⟨k, hk⟩ : ∃ k, countsDescending.compile countedRows.descriptors = .ok k := ⟨_, rfl⟩
  have hmatching : countedRows.matching k =
      [countedRow "a" 7, countedRow "c" 3, countedRow "d" 7, countedRow "e" 3] := by
    cases hk
    rfl
  have htrans : IsTransitiveOn (requestedOrder countsDescending.sorts) (countedRows.matching k) := by
    rw [hmatching]
    unfold IsTransitiveOn
    decide
  obtain ⟨found, -, hunique, -, hpages⟩ := pages_partition countedRows countsDescending k hk htrans
  have hfound :
      [countedRow "a" 7, countedRow "d" 7, countedRow "c" 3, countedRow "e" 3] = found := by
    apply hunique
    rw [hmatching]
    refine ⟨(List.Perm.swap _ _ _).cons _, ?_, ?_⟩
    · decide
    · intro x hx
      simp only [List.mem_cons, List.not_mem_nil, or_false] at hx
      rcases hx with rfl | rfl | rfl | rfl <;> rfl
  obtain ⟨pages, hsearch, -⟩ := hpages 2 (by decide)
  obtain ⟨hfirst, hfirstPage, -⟩ := hsearch 0
  obtain ⟨hsecond, hsecondPage, -⟩ := hsearch 1
  refine ⟨pages 0, pages 1, hfirst, hsecond, ?_, ?_, ?_, ?_, ?_⟩
  · rw [hfirstPage.content_eq, ← hfound]
    rfl
  · rw [← Bool.not_eq_true, hfirstPage.last_iff, ← hfound]
    decide
  · rw [hsecondPage.content_eq, ← hfound]
    rfl
  · rw [hsecondPage.last_iff, ← hfound]
    rfl
  · rw [hsecondPage.total_eq, ← hfound]
    rfl

end CriteriaSearch
