import CriteriaSearch.Proofs.Paging
import CriteriaSearch.Proofs.Sql.Selecting
import CriteriaSearch.Proofs.Sql.Stored
import Mathlib.Data.List.Pairwise

/-!
# Pages of tables and of rows in memory

A table and a store in memory that hold the same rows give the same pages. The cells of a key sort
as the values in memory do where these are of one kind, the two sorts move rows alike, and an offset
beyond 64 bits skips all rows as the largest one does.
-/

namespace CriteriaSearch

/-! ## Lists of related items -/

theorem exists_of_mem_right {α β : Type} {R : α → β → Prop} {xs : List α} {ys : List β}
    (h : List.Forall₂ R xs ys) : ∀ y ∈ ys, ∃ x, R x y := by
  induction h with
  | nil => exact nofun
  | cons hxy _ ih => exact List.forall_mem_cons.mpr ⟨⟨_, hxy⟩, ih⟩

theorem forall₂_mergeSort {α β : Type} {R : α → β → Prop} {r : α → α → Bool} {s : β → β → Bool}
    (hrs : ∀ a b c d, R a c → R b d → r a b = s c d) {xs : List α} {ys : List β}
    (h : List.Forall₂ R xs ys) : List.Forall₂ R (xs.mergeSort r) (ys.mergeSort s) := by
  have hlength := h.length_eq
  have hzip := List.forall₂_iff_zip.mp h
  -- Both lists are sorted like the list of their pairs.
  have hleft : (xs.zip ys).map Prod.fst = xs := List.map_fst_zip hlength.le
  have hright : (xs.zip ys).map Prod.snd = ys := List.map_snd_zip hlength.ge
  have hpairs : ∀ p ∈ xs.zip ys, ∀ q ∈ xs.zip ys, r p.1 q.1 = s p.2 q.2 :=
    fun p hp q hq => hrs p.1 q.1 p.2 q.2 (hzip.2 hp) (hzip.2 hq)
  have hxs : xs.mergeSort r = ((xs.zip ys).mergeSort fun p q => r p.1 q.1).map Prod.fst := by
    rw [List.map_mergeSort (s := r) fun p _ q _ => rfl, hleft]
  have hys : ys.mergeSort s = ((xs.zip ys).mergeSort fun p q => r p.1 q.1).map Prod.snd := by
    rw [List.map_mergeSort (s := s) hpairs, hright]
  rw [hxs, hys, List.forall₂_map_left_iff, List.forall₂_map_right_iff, List.forall₂_same]
  intro p hp
  exact hzip.2 (List.mem_mergeSort.mp hp)

/-- A sort without ties does not depend on the order in which the items are given. -/
theorem mergeSort_eq_of_perm {α : Type} {cmp : α → α → Ordering} [Std.OrientedCmp cmp]
    {xs ys : List α} (hperm : xs.Perm ys) (htrans : IsTransitiveOn cmp ys)
    (hties : ys.Pairwise fun a b => cmp a b ≠ .eq) :
    (xs.mergeSort fun a b => (cmp a b).isLE) = ys.mergeSort fun a b => (cmp a b).isLE := by
  have hys := IsStableSort.of_mergeSort ys htrans
  have hxs := IsStableSort.of_mergeSort xs fun a ha b hb c hc =>
    htrans a (hperm.mem_iff.mp ha) b (hperm.mem_iff.mp hb) c (hperm.mem_iff.mp hc)
  -- Two ordered lists of the same items are the same if no two different items are equal in the
  -- order.
  refine List.Perm.eq_of_pairwise ?_ hxs.ordered hys.ordered
    (hxs.perm.trans (hperm.trans hys.perm.symm))
  intro a b ha hb hab hba
  by_contra hne
  have : Std.Symm fun a b : α => cmp a b ≠ .eq := by
    refine ⟨fun a b h heq => h ?_⟩
    have hswap : cmp a b = (cmp b a).swap := Std.OrientedCmp.eq_swap
    rw [hswap, heq]
    rfl
  have hdiffer := hties.forall (hperm.mem_iff.mp (hxs.perm.mem_iff.mp ha))
    (hys.perm.mem_iff.mp hb) hne
  rw [IsStableSort.isLE_swap_iff] at hba
  cases hcmp : cmp a b with
  | lt => exact hba hcmp
  | eq => exact hdiffer hcmp
  | gt =>
    rw [hcmp] at hab
    cases hab

/-! ## Values of a key -/

namespace Json

attribute [local irreducible] unitsPerOne Double.limitUnits

theorem place_long (i : Int64) (h : i.toInt.natAbs ≤ 2 ^ 53) :
    (NumberValue.long i).place = i.toInt * unitsPerOne := Double.position_ofInt i.toInt h

/-- An exact number is an integer of at most 53 bits or a binary number, here and in its cell. -/
theorem number?_exact (stored : Json) (h : stored.IsExactNumber) :
    (∃ i : Int64, i.toInt.natAbs ≤ 2 ^ 53 ∧ stored.number? = some (.long i) ∧
      (Sql.Store.paramOfJson stored).cell = .integer i.toInt) ∨
    ∃ x, x ≠ .nan ∧ stored.number? = some (.double x) ∧
      (Sql.Store.paramOfJson stored).cell = .real x := by
  cases stored with
  | integer n =>
    have hn : n.natAbs ≤ 2 ^ 53 := h
    have hfits : int64? n = some (Int64.ofInt n) := if_pos (by omega)
    have hsame : (Int64.ofInt n).toInt = n := Int64.toInt_ofInt_of_le (by omega) (by omega)
    refine .inl ⟨Int64.ofInt n, by rwa [hsame], ?_, ?_⟩
    · rw [number?, hfits]
    · rw [hsame, Sql.cell_paramOfInteger n hn]
  | float x =>
    have hx := Sql.ne_nan_of_isFinite x h
    exact .inr ⟨x, hx, rfl, Sql.cell_paramOfFloat x hx⟩
  | _ => exact absurd h id

theorem comparePresent_exact (a b : Json) (ha : a.IsExactNumber) (hb : b.IsExactNumber) :
    a.comparePresent b =
      Ord.compare (Sql.Store.paramOfJson a).cell.place (Sql.Store.paramOfJson b).cell.place := by
  rcases a.number?_exact ha with ⟨i, hi, ha, hacell⟩ | ⟨x, hx, ha, hacell⟩
  · have hdefined := NumberValue.toDouble_long_ne_nan i
    rcases b.number?_exact hb with ⟨j, hj, hb, hbcell⟩ | ⟨y, hy, hb, hbcell⟩
    · rw [comparePresent_number a b _ _ ha hb, NumberValue.stored_long_long, hacell, hbcell]
      exact (Sql.Cell.compare_mul_unitsPerOne _ _).symm
    · rw [comparePresent_number a b _ _ ha hb, NumberValue.stored_double_right _ y hdefined hy,
        place_long i hi, hacell, hbcell]
      rfl
  · rcases b.number?_exact hb with ⟨j, hj, hb, hbcell⟩ | ⟨y, hy, hb, hbcell⟩
    · rw [comparePresent_number a b _ _ ha hb,
        NumberValue.stored_double_left x _ hx (NumberValue.toDouble_long_ne_nan j), place_long j hj,
        hacell, hbcell]
      rfl
    · rw [comparePresent_number a b _ _ ha hb, NumberValue.stored_double_left x (.double y) hx hy,
        hacell, hbcell]
      rfl

/-- A value that is no number is not part of a clash, nor is an integer of at most 53 bits. -/
theorem not_clash (a b c : Json) (ha : a.kindRank = 1 → a.IsExactNumber)
    (hb : b.kindRank = 1 → b.IsExactNumber) (hc : c.IsDefined) : ¬Clash a b c := by
  rintro ⟨x, y, z, hx, hy, hz, i, j, w, rfl, rfl, rfl, hne, hiw, hjw⟩
  -- Both integers would be at the place of the third number.
  have hplace (d : Json) (k : Int64) (hd : d.kindRank = 1 → d.IsExactNumber)
      (hk : d.number? = some (.long k)) (heq : (NumberValue.long k).compare (.double w) = some .eq) :
      k.toInt * unitsPerOne = (NumberValue.double w).place := by
    rcases d.number?_exact (hd (d.kindRank_of_number? _ hk)) with ⟨k', hk', hd', -⟩ | ⟨v, -, hd', -⟩
    · rw [hk, Option.some.injEq, NumberValue.long.injEq] at hd'
      subst hd'
      have hw : (NumberValue.double w).toDouble ≠ .nan := number?_toDouble c hc _ hz
      have hstored := NumberValue.stored_double_right _ w (NumberValue.toDouble_long_ne_nan k) hw
      rw [NumberValue.stored, heq, Option.getD_some, place_long k hk', eq_comm,
        compare_eq_iff_eq] at hstored
      exact hstored
    · rw [hk] at hd'
      cases hd'
  apply hne
  have hsame := (hplace a i ha hx hiw).trans (hplace b j hb hy hjw).symm
  have hne : (unitsPerOne : Int) ≠ 0 := Int.natCast_ne_zero.mpr Double.unitsPerOne_pos.ne'
  exact Int64.toInt_inj.mp (Int.eq_of_mul_eq_mul_right hne hsame)

end Json

namespace Sql

/-! ## Cells of a key -/

inductive SortKind where
  | text
  | boolean
  | number
  deriving DecidableEq, Repr

namespace Slot

/-- The cell of a key is missing where the value is missing or null, and otherwise that of a value
of the kind. Texts are in binary order, and numbers may be stored in any way that keeps their
place. -/
inductive SortsAs : SortKind → Option Json → Slot → Prop
  | missing (kind : SortKind) (slot : Slot) : slot.cell = .null → SortsAs kind none slot
  | text (s : String) (slot : Slot) : slot.cell = .text s → slot.collation = .binary →
      SortsAs .text (some (.text s)) slot
  | boolean (b : Bool) (slot : Slot) : slot.cell.IsNumber →
      slot.cell.place = (Store.paramOfJson (.boolean b)).cell.place →
      SortsAs .boolean (some (.boolean b)) slot
  | number (stored : Json) (slot : Slot) : stored.IsExactNumber → slot.cell.IsNumber →
      slot.cell.place = (Store.paramOfJson stored).cell.place →
      SortsAs .number (some stored) slot

variable {kind : SortKind} {v w : Option Json} {x y : Slot}

theorem SortsAs.isNull_eq (h : SortsAs kind v x) : x.cell.isNull = v.isNone := by
  cases h with
  | missing _ _ hcell => rw [hcell]; rfl
  | text _ _ hcell _ => rw [hcell]; rfl
  | boolean _ _ hnumber _ => exact hnumber.isNull_eq
  | number _ _ _ hnumber _ => exact hnumber.isNull_eq

theorem SortsAs.orderBy_eq {a b : Json} (hx : SortsAs kind (some a) x)
    (hy : SortsAs kind (some b) y) : x.cell.orderBy x.collation y.cell = a.comparePresent b := by
  cases hx with
  | text s _ hs hcollation =>
    cases hy with
    | text u _ hu _ =>
      rw [hs, hu, hcollation]
      rfl
  | boolean b _ hx hbx =>
    cases hy with
    | boolean c _ hy hcy =>
      rw [Cell.orderBy_eq_place _ _ _ hx hy, hbx, hcy]
      change Ord.compare ((if b then 1 else 0) * (unitsPerOne : Int))
        ((if c then 1 else 0) * (unitsPerOne : Int)) = _
      rw [Cell.compare_mul_unitsPerOne]
      cases b <;> cases c <;> rfl
  | number stored _ hstored hx hsx =>
    cases hy with
    | number other _ hother hy hoy =>
      rw [Cell.orderBy_eq_place _ _ _ hx hy, hsx, hoy, Json.comparePresent_exact _ _ hstored hother]

/-- The integers among values that are sorted have at most 53 bits, and no number is undefined. -/
theorem SortsAs.isExact (h : SortsAs kind v x) :
    ((v.getD .null).kindRank = 1 → (v.getD .null).IsExactNumber) ∧ (v.getD .null).IsDefined := by
  cases h with
  | number stored _ hexact _ _ =>
    refine ⟨fun _ => hexact, ?_⟩
    rintro rfl
    exact Bool.false_ne_true hexact
  | _ => exact ⟨nofun, nofun⟩

end Slot

/-! ## Keys of an order -/

/-- Rows are sorted by the values under a key that are present, the other rows first. -/
theorem compareRows_present (s : TypedSort) (a b : Json) :
    s.compareRows a b = s.direction.apply
      ((a.present? s.key).elim ((b.present? s.key).elim .eq fun _ => .lt) fun v =>
        (b.present? s.key).elim .gt fun w => v.comparePresent w) := by
  apply congrArg s.direction.apply
  rw [Json.compareOptional]
  dsimp only
  split
  next ha hb =>
    have ha : a.present? s.key = none := ha
    have hb : b.present? s.key = none := hb
    rw [ha, hb, Option.elim_none, Option.elim_none]
  next v ha hb =>
    have ha : a.present? s.key = none := ha
    have hb : b.present? s.key = some v := hb
    rw [ha, hb, Option.elim_none, Option.elim_some]
  next v ha hb =>
    have ha : a.present? s.key = some v := ha
    have hb : b.present? s.key = none := hb
    rw [ha, hb, Option.elim_some, Option.elim_none]
  next v w ha hb =>
    have ha : a.present? s.key = some v := ha
    have hb : b.present? s.key = some w := hb
    rw [ha, hb, Option.elim_some, Option.elim_some]

/-- A missing value comes before others in memory, and is put before them in a query where the sort
ascends and after them where it descends. -/
theorem compareKey_sortKeyAt (s : TypedSort) (place : List Char) (kind : SortKind) (a b : Json)
    (x y : Slot) (hx : x.SortsAs kind (a.present? s.key)) (hy : y.SortsAs kind (b.present? s.key)) :
    compareKey (sortKeyAt s place) x.collation x.cell y.cell = s.compareRows a b := by
  rw [compareRows_present, compareKey, hx.isNull_eq, hy.isNull_eq, sortKeyAt]
  cases ha : a.present? s.key with
  | none => cases b.present? s.key <;> cases s.direction <;> rfl
  | some v =>
    cases hb : b.present? s.key with
    | none => cases s.direction <;> rfl
    | some w =>
      rw [ha] at hx
      rw [hb] at hy
      exact congrArg s.direction.apply (hx.orderBy_eq hy)

theorem orderCell_sortKeyAt (scope : Scope) (ps : List Projection)
    (h : ∀ p ∈ ps, p.isNamed = false) (s : TypedSort) (place : List Char) :
    orderCell scope ps (sortKeyAt s place) =
      ((scope.shown s.key).cell, (scope.shown s.key).collation) := by
  rw [orderCell, orderValue_sortKeyAt ps h, Expr.eval, Expr.collation, Expr.columnCollation?,
    Expr.askedCollation?, Expr.askedName?, Scope.shown]
  cases scope.column none s.key <;> rfl

theorem compareByKeys_eq (ps : List Projection) (h : ∀ p ∈ ps, p.isNamed = false)
    (kinds : String → SortKind) (sorts : List TypedSort) (keys : List OrderKey)
    (hkeys : AreKeysOf sorts keys) (x y : Scope) (a b : Json)
    (hx : ∀ s ∈ sorts, (x.shown s.key).SortsAs (kinds s.key) (a.present? s.key))
    (hy : ∀ s ∈ sorts, (y.shown s.key).SortsAs (kinds s.key) (b.present? s.key)) :
    compareByKeys keys (keys.map (orderCell x ps)) (keys.map (orderCell y ps)) =
      compareRows sorts a b := by
  induction hkeys with
  | nil => rfl
  | @cons s _ sorts keys hkey _ ih =>
    obtain ⟨place, rfl⟩ := hkey
    rw [List.forall_mem_cons] at hx hy
    rw [List.map_cons, List.map_cons, compareByKeys, compareRows, ih hx.2 hy.2,
      orderCell_sortKeyAt x ps h, orderCell_sortKeyAt y ps h,
      compareKey_sortKeyAt s place (kinds s.key) a b _ _ hx.1 hy.1]

/-! ## Rows of a table and rows in memory -/

/-- The condition that a predicate is lowered to finds a row of a table exactly if the predicate
holds of the row in memory. -/
def Table.SelectsAs (t : Table) (p : Predicate) (r : Row) (row : Json) : Prop :=
  ∃ e, Expr.ofLexemes (lexemes ((Fragment.mk "" []).lower p).1.toList) = .ok (e, []) ∧
    e.holds (t.scope ((params p).map Param.cell) r) = p.holds row

/-- Only what the table shows of a row decides whether the condition finds it. -/
theorem Table.selectsAs_of_truth (t : Table) (p : Predicate) (r : Row) (row : Json)
    (hnames : namesAreVisible p) (hheight : clauseHeight p ≤ greatestHeight)
    (hparams : (params p).length ≤ greatestParam)
    (htruth : (conditionTruth (t.shown r) p == .yes) = p.holds row) : t.SelectsAs p r row := by
  obtain ⟨e, hread, hdenotes⟩ := ofLexemes_lower ⟨"", []⟩ p hnames hheight
    (by rwa [List.length_nil, Nat.zero_add])
  refine ⟨e, hread, ?_⟩
  rw [Expr.holds, hdenotes.truth _ _ (t.shows_scope r p), htruth]

/-- A compiled request can be expressed on a table: its fields and keys are known, and it is within
the limits of statements. -/
structure Expressible (store : Store) (k : Compiled) : Prop where
  admitted : store.Admits k
  writable : Writable store.table k
  patterns : ∀ p, k.predicate = some p → PatternsFit (Sql.patterns p)

/-- A row of a table and a row in memory are selected alike and sorted alike. -/
structure FoundAlike (t : Table) (k : Compiled) (kinds : String → SortKind) (r : Row) (row : Json) :
    Prop where
  selected : ∀ p, k.predicate = some p → t.SelectsAs p r row
  sorted : ∀ s ∈ k.sorts, (t.shown r s.key).SortsAs (kinds s.key) (row.present? s.key)

/-- Rows whose keys hold values of one kind are sorted by an order. -/
theorem isTransitiveOn_of_sortsAs (t : Table) (k : Compiled) (kinds : String → SortKind)
    (rows : List Json) (h : ∀ row ∈ rows, ∃ r, FoundAlike t k kinds r row) :
    IsTransitiveOn (compareRows k.sorts) rows := by
  have hvalue (s : TypedSort) (hs : s ∈ k.sorts) (row : Json) (hrow : row ∈ rows) :
      ((row.valueAt s.key).kindRank = 1 → (row.valueAt s.key).IsExactNumber) ∧
        (row.valueAt s.key).IsDefined := by
    obtain ⟨r, hr⟩ := h row hrow
    have hexact := (hr.sorted s hs).isExact
    have hsame : (row.present? s.key).getD .null = row.valueAt s.key := by
      rw [Json.present?, Json.valueAt]
      cases row.field? s.key with
      | none => rfl
      | some v => cases v <;> rfl
    rwa [hsame] at hexact
  intro a ha b hb c hc
  refine compareRows_trans k.sorts (· ∈ rows) ?_ a b c ha hb hc
  intro s hs
  refine s.compareRows_trans (· ∈ rows) (fun row hrow => (hvalue s hs row hrow).2) ?_
  rintro ⟨a, b, c, ha, hb, hc, hclash⟩
  exact Json.not_clash _ _ _ (hvalue s hs a ha).1 (hvalue s hs b hb).1 (hvalue s hs c hc).2 hclash

theorem holds_condition (db : Database) (t : Table) (table : String) (k : Compiled)
    (hwritable : Writable table k) (kinds : String → SortKind) (condition : Option Expr)
    (hcondition : IsConditionOf k condition) (cells : List Cell)
    (hcells : (Query.whereParams k).map Param.cell <+: cells) (r : Row) (row : Json)
    (h : FoundAlike t k kinds r row) :
    (condition.all fun e => e.holds (db.rowScope cells t r)) = satisfies k.predicate row := by
  have hselected := h.selected
  have hparams := hwritable.params
  rw [Query.whereParams] at hcells hparams
  rw [IsConditionOf] at hcondition
  cases hp : k.predicate with
  | none =>
    rw [hp] at hcondition
    cases hcondition
    rfl
  | some p =>
    rw [hp] at hcondition hcells hparams
    cases hcondition with
    | @some e _ hdenotes =>
      -- The condition alone is read as an expression that denotes the same predicate.
      have hcount : ([] : List Param).length + (params p).length ≤ greatestParam := by
        rw [List.length_nil, Nat.zero_add]
        exact Nat.le_of_add_right_le hparams
      obtain ⟨f, hread, hholds⟩ := hselected p hp
      obtain ⟨f', hread', hdenotes'⟩ := ofLexemes_lower ⟨"", []⟩ p (hwritable.fields p hp)
        (hwritable.height p hp) hcount
      rw [hread] at hread'
      cases hread'
      rw [Option.all_some, holds_rowScope db t cells e f p hdenotes hdenotes' hcells r, hholds]
      rfl

theorem window_eq {α : Type} (rows : List α) (size offset : Nat) (h : rows.length ≤ largestInteger) :
    window (some (size : Int)) (some (min offset largestInteger : Nat)) rows =
      (rows.drop offset).take size := by
  have hlimit : ¬(size : Int) < 0 := by omega
  rw [window, if_neg hlimit, Option.getD_some, Int.toNat_natCast, Int.toNat_natCast]
  rcases Nat.le_total offset largestInteger with hle | hle
  · rw [Nat.min_eq_left hle]
  · -- The offset is cut only where it skips all rows anyway.
    rw [Nat.min_eq_right hle, List.drop_of_length_le h, List.drop_of_length_le (h.trans hle)]

theorem sortOutcomes_eq (keys : List OrderKey) (rows : List Outcome) :
    sortOutcomes keys rows = rows.mergeSort fun a b => (compareByKeys keys a.keys b.keys).isLE := by
  rw [sortOutcomes]
  cases keys with
  | nil => exact (List.mergeSort_of_pairwise (List.pairwise_of_forall fun _ _ => rfl)).symm
  | cons k keys => rfl

/-! ## Searches -/

section Search

variable (store : Store) (mem : MemoryStore) (t : Table) (mapRow : Json → Except SearchError Json)

/-- A row of the table is read back as the row in memory. -/
def Store.Holds (r : Row) (row : Json) : Prop :=
  mapRow (store.rowOfCells (t.columns.map Column.name) r.cells) = .ok row

variable (k : Compiled) (kinds : String → SortKind) (held : List Json)
  (hheld : List.Forall₂ (fun r row => store.Holds t mapRow r row ∧ FoundAlike t k kinds r row)
    t.listed held)
  (ht : store.database.table? (.ofName store.table) = some t) (hsound : t.IsSound)
  (hexpressible : Expressible store k)

include hheld hexpressible in
theorem forall₂_selectedRows (condition : Option Expr) (hcondition : IsConditionOf k condition)
    (cells : List Cell) (hcells : (Query.whereParams k).map Param.cell <+: cells) :
    List.Forall₂ (fun r row => store.Holds t mapRow r row ∧ FoundAlike t k kinds r row)
      (selectedRows t (store.database.rowScope cells t) condition)
      (held.filter fun row => satisfies k.predicate row) := by
  refine List.rel_filter ?_ hheld
  intro r row h
  dsimp only
  rw [holds_condition store.database t store.table k hexpressible.writable kinds condition hcondition
    cells hcells r row h.2]

theorem forall₂_sortOutcomes (cells : List Cell) (keys : List OrderKey)
    (hkeys : AreKeysOf k.sorts keys) {rows : List Row} {matching : List Json}
    (h : List.Forall₂ (fun r row => store.Holds t mapRow r row ∧ FoundAlike t k kinds r row) rows
      matching) :
    List.Forall₂ (fun outcome row => ∃ r, (store.Holds t mapRow r row ∧ FoundAlike t k kinds r row) ∧
        outcome = rowOutcome t (store.database.rowScope cells t) keys r)
      (sortOutcomes keys (rows.map (rowOutcome t (store.database.rowScope cells t) keys)))
      (matching.mergeSort fun a b => (compareRows k.sorts a b).isLE) := by
  rw [sortOutcomes_eq]
  apply forall₂_mergeSort
  · rintro _ _ a b ⟨r, ⟨-, hr⟩, rfl⟩ ⟨r', ⟨-, hr'⟩, rfl⟩
    rw [rowOutcome, rowOutcome, compareByKeys_eq _ (isNamed_allProjections t) kinds k.sorts keys hkeys
      _ _ a b]
    · intro s hs
      rw [shown_rowScope]
      exact hr.sorted s hs
    · intro s hs
      rw [shown_rowScope]
      exact hr'.sorted s hs
  · rw [List.forall₂_map_left_iff]
    exact h.imp fun r row hrow => ⟨r, hrow, rfl⟩

include hheld ht hexpressible

/-- The statement for the count gives that of the rows that match in memory. -/
theorem ask_count :
    ∃ names, store.ask (Query.build store.table k).count = .ok (.rows names
      [[.integer (held.filter fun row => satisfies k.predicate row).length]]) := by
  obtain ⟨condition, names, hcondition, hexecute⟩ := execute_count store.database t store.table k
    hexpressible.writable ht hexpressible.patterns
  have hrows := forall₂_selectedRows store t mapRow k kinds held hheld hexpressible condition
    hcondition _ (List.prefix_refl _)
  refine ⟨names, ?_⟩
  rw [Store.ask, hexecute, hrows.length_eq]

include hsound

/-- The statement for a page gives the rows of the page in memory. -/
theorem ask_select (hsize : t.rows.size ≤ largestInteger) :
    ∃ rows, store.ask (Query.build store.table k).select =
        .ok (.rows (t.columns.map Column.name) rows) ∧
      List.Forall₂ (fun cells row =>
          mapRow (store.rowOfCells (t.columns.map Column.name) cells) = .ok row) rows
        ((((held.filter fun row => satisfies k.predicate row).mergeSort fun a b =>
          (compareRows k.sorts a b).isLE).drop k.page.offset).take k.page.size.toNat) := by
  obtain ⟨condition, keys, hcondition, hkeys, hexecute⟩ := execute_select store.database t
    store.table k hexpressible.writable ht hexpressible.patterns hsound
  generalize hcells : (Query.whereParams k ++ Query.pageParams k.page).map Param.cell = cells
    at hexecute
  have hprefix : (Query.whereParams k).map Param.cell <+: cells := by
    rw [← hcells, List.map_append]
    exact List.prefix_append _ _
  have hrows := forall₂_selectedRows store t mapRow k kinds held hheld hexpressible condition
    hcondition cells hprefix
  have hsorted := forall₂_sortOutcomes store t mapRow k kinds cells keys hkeys hrows
  have hlength : (sortOutcomes keys ((selectedRows t (store.database.rowScope cells t) condition).map
      (rowOutcome t (store.database.rowScope cells t) keys))).length ≤ largestInteger := by
    rw [sortOutcomes_eq, List.length_mergeSort, List.length_map]
    exact (List.length_filter_le _ _).trans (t.length_listed ▸ hsize)
  rw [Store.ask, hexecute, window_eq _ _ _ hlength]
  refine ⟨_, rfl, ?_⟩
  rw [List.forall₂_map_left_iff]
  refine List.forall₂_take _ (List.forall₂_drop _ (hsorted.imp ?_))
  rintro outcome row ⟨r, ⟨hholds, -⟩, rfl⟩
  exact hholds

theorem search_compiled (hsize : t.rows.size ≤ largestInteger) (c : Criteria)
    (hcompile : c.compile store.descriptors = .ok k)
    (hfound : (held.filter fun row => satisfies k.predicate row).mergeSort
      (fun a b => (compareRows k.sorts a b).isLE) = mem.found k) :
    Id.run ((store.repository mapRow).search c) =
      .ok (.cut (mem.found k) c.page.number c.page.size c.sorts) := by
  obtain ⟨names, hcount⟩ := ask_count store t mapRow k kinds held hheld ht hexpressible
  obtain ⟨rows, hselect, hrows⟩ := ask_select store t mapRow k kinds held hheld ht hsound hexpressible
    hsize
  have htotal : (held.filter fun row => satisfies k.predicate row).length = (mem.found k).length := by
    rw [← hfound, List.length_mergeSort]
  have hpage : k.page = c.page := by
    obtain ⟨-, -, hk⟩ := (Criteria.compile_eq_ok_iff _ c k).mp hcompile
    rw [hk]
    rfl
  rw [htotal] at hcount
  rw [hfound, hpage] at hrows
  -- The stages of the search one after another: lowering, running both statements and reading the
  -- rows.
  have hlower : (store.repository mapRow).compile c = .ok (.build store.table k) :=
    (bind_ok hcompile _).trans ((store.lower_eq_ok_iff k _).mpr ⟨hexpressible.admitted, rfl⟩)
  have hexecute : store.execute (.build store.table k) =
      .ok ⟨rows.map (store.rowOfCells (t.columns.map Column.name)), (mem.found k).length⟩ := by
    refine (bind_ok hcount _).trans ?_
    refine (bind_ok hselect _).trans ?_
    rfl
  have hmap : (rows.map (store.rowOfCells (t.columns.map Column.name))).mapM mapRow =
      .ok (((mem.found k).drop c.page.offset).take c.page.size.toNat) :=
    mapM_eq_ok_iff_forall₂.mpr (List.forall₂_map_left_iff.mpr hrows)
  have hexecute' : (store.repository mapRow).execute (.build store.table k) =
      .ok ⟨rows.map (store.rowOfCells (t.columns.map Column.name)), (mem.found k).length⟩ := hexecute
  rw [Repository.search, hlower]
  dsimp only
  rw [hexecute']
  exact bind_ok hmap _

end Search

/-- A table and a store in memory that hold the same rows give the same page for every request that
selects the same rows in both, whatever the window. The values of a key that is sorted by are of one
kind. The rows are listed in the order of their insertion, or no two rows that match are equal in
all keys. -/
theorem search_eq_memory (store : Store) (mem : MemoryStore)
    (mapRow : Json → Except SearchError Json) (t : Table) (c : Criteria)
    (ht : store.database.table? (.ofName store.table) = some t) (hsound : t.IsSound)
    (hsize : t.rows.size < 2 ^ 63) (hdescriptors : mem.descriptors = store.descriptors)
    (rows : List Row) (hinserted : rows.Perm t.rows.toList)
    (hheld : List.Forall₂ (store.Holds t mapRow) rows mem.rows)
    (hfound : ∀ k, c.compile store.descriptors = .ok k → Expressible store k ∧
      (∃ kinds, List.Forall₂ (FoundAlike t k kinds) rows mem.rows) ∧
      (rows = t.listed ∨
        (mem.matching k).Pairwise fun a b => compareRows k.sorts a b ≠ .eq)) :
    Id.run ((store.repository mapRow).search c) = Id.run (mem.repository.search c) ∧
      ∀ k, c.compile store.descriptors = .ok k →
        Id.run ((store.repository mapRow).search c) =
          .ok (.cut (mem.found k) c.page.number c.page.size c.sorts) := by
  have hpages : ∀ k, c.compile store.descriptors = .ok k →
      Id.run ((store.repository mapRow).search c) =
        .ok (.cut (mem.found k) c.page.number c.page.size c.sorts) := by
    intro k hcompile
    obtain ⟨hexpressible, ⟨kinds, halike⟩, horder⟩ := hfound k hcompile
    have hboth : List.Forall₂ (fun r row => store.Holds t mapRow r row ∧ FoundAlike t k kinds r row)
        rows mem.rows := hheld.mp (fun _ _ h h' => ⟨h, h'⟩) halike
    rcases horder with rfl | hties
    · exact search_compiled store mem t mapRow k kinds mem.rows hboth ht hsound hexpressible
        (Nat.le_pred_of_lt hsize) c hcompile (mem.found_eq k).symm
    · -- Another order in the table is one of the rows in memory, and the sort undoes it.
      obtain ⟨held, hlisted, hperm⟩ :=
        List.perm_comp_forall₂ (t.listed_perm.trans hinserted.symm) hboth
      refine search_compiled store mem t mapRow k kinds held hlisted ht hsound hexpressible
        (Nat.le_pred_of_lt hsize) c hcompile ?_
      rw [mem.found_eq k]
      refine mergeSort_eq_of_perm (hperm.filter _) ?_ hties
      apply isTransitiveOn_of_sortsAs t k kinds
      intro row hrow
      exact exists_of_mem_right halike row (List.mem_filter.mp hrow).1
  refine ⟨?_, hpages⟩
  cases hcompile : c.compile store.descriptors with
  | ok k =>
    rw [hpages k hcompile]
    rw [← hdescriptors] at hcompile
    exact (mem.repository_search c k hcompile).symm
  | error e =>
    have htable : (store.repository mapRow).compile c = .error e := by
      change (c.compile store.descriptors).bind _ = _
      rw [hcompile]
      rfl
    have hmemory : mem.repository.compile c = .error e := by
      change (c.compile mem.descriptors).bind _ = _
      rw [hdescriptors, hcompile]
      rfl
    rw [Repository.search, Repository.search, htable, hmemory]

def countedCells (c : String × Int) : Row := ⟨c.2, [.text c.1, .integer c.2]⟩

def counts : List (String × Int) := [("a", 7), ("b", 1), ("c", 3), ("d", 7), ("e", 3)]

/-- A table that lists the counted rows in another order than that of their insertion. -/
def countedTable : Table where
  name := "counted"
  isTemporary := false
  columns := [.plain "name" "TEXT", .plain "count" "INTEGER"]
  indexes := []
  checks := []
  idConflict := .abort
  lastId := none
  order := none
  isStrict := false
  rows := (counts.map countedCells).reverse.toArray

def countedStore : Store :=
  ⟨{ Database.empty with tables := [countedTable] }, "counted", countedRows.descriptors⟩

/-- A request for the second two rows of a count above two, the largest count first and then by
name. -/
def countsByName : Criteria :=
  ⟨[.withValue "count" .greaterThan "2"], [⟨"count", .descending⟩, ⟨"name", .ascending⟩], none, ⟨1, 2⟩⟩

def countTest : Predicate := .compare "count" .greater (.number (.int 2))

def countsCompiled : Compiled :=
  ⟨some countTest, [⟨"count", .descending, .number⟩, ⟨"name", .ascending, .string⟩], ⟨1, 2⟩, []⟩

def countedKinds (key : String) : SortKind := if key = "name" then .text else .number

theorem foundAlike_counted :
    List.Forall₂ (FoundAlike countedTable countsCompiled countedKinds) (counts.map countedCells)
      (counts.map fun c => countedRow c.1 c.2) := by
  have htruth : ∀ c ∈ counts,
      (conditionTruth (countedTable.shown (countedCells c)) countTest == .yes) =
        countTest.holds (countedRow c.1 c.2) := by decide +kernel
  have hsmall : ∀ c ∈ counts, c.2.natAbs ≤ 2 ^ 53 := by decide
  rw [List.forall₂_map_left_iff, List.forall₂_map_right_iff, List.forall₂_same]
  intro c hc
  refine ⟨?_, ?_⟩
  · rintro p ⟨⟩
    exact countedTable.selectsAs_of_truth countTest _ _ (by decide) (by decide) (by decide)
      (htruth c hc)
  · intro s hs
    simp only [countsCompiled, List.mem_cons, List.not_mem_nil, or_false] at hs
    rcases hs with rfl | rfl
    · have hshown : countedTable.shown (countedCells c) "count" =
          ⟨.integer c.2, some .integer, .binary⟩ :=
        congrArg (Option.getD · _) (countedTable.lookup_getElem (by decide) (countedCells c) rfl 1
          (by decide))
      have hnumber : (Cell.integer c.2).IsNumber := Cell.IsExact.isNumber (hsmall c hc)
      rw [hshown]
      exact .number (.integer c.2) _ (hsmall c hc) hnumber
        (congrArg Cell.place (cell_paramOfInteger c.2 (hsmall c hc)).symm)
    · exact .text c.1 _ rfl rfl

/-- The page of the table is that of the rows in memory. -/
theorem search_eq_memory_counts :
    ∃ page, Id.run ((countedStore.repository .ok).search countsByName) = .ok page ∧
      Id.run (countedRows.repository.search countsByName) = .ok page ∧
      page.content = [countedRow "c" 3, countedRow "e" 3] ∧ page.total = 4 := by
  have hcompile : countsByName.compile countedStore.descriptors = .ok countsCompiled := rfl
  have hexpressible : Expressible countedStore countsCompiled := by
    refine ⟨⟨by decide, .inr (by decide)⟩, ⟨by decide, ?_, by decide, ?_, by decide⟩, ?_⟩
    · rintro p ⟨⟩
      decide
    · rintro p ⟨⟩
      decide
    · rintro p ⟨⟩
      decide
  have hties : (countedRows.matching countsCompiled).Pairwise
      fun a b => compareRows countsCompiled.sorts a b ≠ .eq := by decide
  have hheld : List.Forall₂ (countedStore.Holds countedTable .ok) (counts.map countedCells)
      (counts.map fun c => countedRow c.1 c.2) := by
    rw [List.forall₂_map_left_iff, List.forall₂_map_right_iff, List.forall₂_same]
    exact fun _ _ => rfl
  obtain ⟨hsame, hpage⟩ := search_eq_memory countedStore countedRows .ok countedTable countsByName
    rfl ⟨by decide, by decide⟩ (by decide) rfl (counts.map countedCells)
    (List.reverse_perm (counts.map countedCells)).symm hheld
    (by
      rintro k ⟨⟩
      exact ⟨hexpressible, ⟨countedKinds, foundAlike_counted⟩, .inr hties⟩)
  have hpage := hpage countsCompiled hcompile
  -- The rows that match are sorted as they are once they stand in order.
  have hfound : countedRows.found countsCompiled =
      [countedRow "a" 7, countedRow "d" 7, countedRow "c" 3, countedRow "e" 3] := by
    have hperm : [countedRow "a" 7, countedRow "d" 7, countedRow "c" 3, countedRow "e" 3].Perm
        (countedRows.matching countsCompiled) := (List.Perm.swap _ _ _).cons _
    have htrans : IsTransitiveOn (compareRows countsCompiled.sorts)
        (countedRows.matching countsCompiled) := by
      unfold IsTransitiveOn
      decide
    rw [countedRows.found_eq, ← mergeSort_eq_of_perm hperm htrans hties]
    exact List.mergeSort_of_pairwise (by decide)
  rw [hfound] at hpage
  exact ⟨_, hpage, hsame.symm.trans hpage, rfl, rfl⟩

end Sql

end CriteriaSearch
