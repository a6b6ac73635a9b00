import CriteriaSearch.Memory.Order
import CriteriaSearch.Proofs.Number.Order
import Mathlib.Data.String.Basic

/-!
# Whether the order of rows is an order

The order of rows is always reflexive and turns around with its arguments. It is not always
transitive: two integers are compared exactly with each other but after rounding with a binary
number, so that a number between them may be equal to both. That is the only obstacle, and so
rows without such numbers are ordered.
-/

namespace CriteriaSearch

namespace NumberValue

def place (n : NumberValue) : Int := n.toDouble.position

/-- The order of two stored numbers, which is that of equal numbers if they have none. -/
def stored (a b : NumberValue) : Ordering := (a.compare b).getD .eq

theorem stored_long_long (i j : Int64) :
    stored (long i) (long j) = Ord.compare i.toInt j.toInt := by
  rw [stored, compare_integers (long i) (long j) i.toInt j.toInt rfl rfl, Option.getD_some]

theorem place_long_mono (i j : Int64) (h : i.toInt ≤ j.toInt) : (long i).place ≤ (long j).place :=
  Double.position_ofInt_mono _ _ h

theorem toDouble_long_ne_nan (i : Int64) : (long i).toDouble ≠ .nan := Double.ofInt_ne_nan _

theorem stored_double_right (a : NumberValue) (y : Double) (ha : a.toDouble ≠ .nan)
    (hy : (double y).toDouble ≠ .nan) : stored a (double y) = Ord.compare a.place (double y).place := by
  rw [stored, compare_double_right, Double.compare_eq_position _ y ha hy, Option.getD_some]
  rfl

theorem stored_double_left (x : Double) (b : NumberValue) (hx : (double x).toDouble ≠ .nan)
    (hb : b.toDouble ≠ .nan) : stored (double x) b = Ord.compare (double x).place b.place := by
  rw [stored, compare_double_left, Double.compare_eq_position x _ hx hb, Option.getD_some]
  rfl

/-- A number of one of the two kinds that are stored. -/
inductive IsStored : NumberValue → Prop
  | long (i : Int64) : IsStored (.long i)
  | double (x : Double) : IsStored (.double x)

theorem stored_nan_left (b : NumberValue) : stored (double .nan) b = .eq := by
  rw [stored, compare_double_left, Double.compare]
  rfl

theorem stored_nan_right (a : NumberValue) : stored a (double .nan) = .eq := by
  rw [stored, compare_double_right]
  cases a.toDouble <;> rfl

theorem stored_swap (a b : NumberValue) (ha : a.IsStored) (hb : b.IsStored) :
    stored a b = (stored b a).swap := by
  rcases ha with i | x
  · rcases hb with j | y
    · rw [stored_long_long, stored_long_long, Std.OrientedOrd.eq_swap]
    · by_cases hy : y = .nan
      · rw [hy, stored_nan_left, stored_nan_right]
        rfl
      · rw [stored_double_right _ _ (toDouble_long_ne_nan i) hy,
          stored_double_left _ _ hy (toDouble_long_ne_nan i), Std.OrientedOrd.eq_swap]
  · by_cases hx : x = .nan
    · rw [hx, stored_nan_left, stored_nan_right]
      rfl
    · rcases hb with j | y
      · rw [stored_double_left _ _ hx (toDouble_long_ne_nan j),
          stored_double_right _ _ (toDouble_long_ne_nan j) hx, Std.OrientedOrd.eq_swap]
      · by_cases hy : y = .nan
        · rw [hy, stored_nan_left, stored_nan_right]
          rfl
        · rw [stored_double_right (double x) y hx hy, stored_double_right (double y) x hy hx,
            Std.OrientedOrd.eq_swap]

def Clash (a b x : NumberValue) : Prop :=
  ∃ (i j : Int64) (y : Double), a = long i ∧ b = long j ∧ x = double y ∧ i ≠ j ∧
    a.compare x = some .eq ∧ b.compare x = some .eq

theorem compare_long_double (i : Int64) (y : Double) (hy : (double y).toDouble ≠ .nan)
    (h : (long i).place = (double y).place) : (long i).compare (double y) = some .eq := by
  rw [compare_double_right, Double.compare_eq_position _ y (toDouble_long_ne_nan i) hy]
  exact congrArg some (compare_eq_iff_eq.mpr h)

theorem isLE_compare (i j : Int) : (Ord.compare i j).isLE ↔ i ≤ j := by
  rw [Std.isLE_compare]

/-- The order of stored numbers is transitive where no number stands between two integers that it
cannot tell apart. -/
theorem stored_trans (a b c : NumberValue) (ha : a.IsStored) (hb : b.IsStored) (hc : c.IsStored)
    (hna : a.toDouble ≠ .nan) (hnb : b.toDouble ≠ .nan) (hnc : c.toDouble ≠ .nan)
    (hclash : ¬ Clash a c b) (hab : (stored a b).isLE) (hbc : (stored b c).isLE) :
    (stored a c).isLE := by
  -- Apart from two integers, numbers are compared by places, which respect the exact order.
  have hplace (p q : NumberValue) (hp : p.IsStored) (hq : q.IsStored) (hnp : p.toDouble ≠ .nan)
      (hnq : q.toDouble ≠ .nan) (h : (stored p q).isLE) : p.place ≤ q.place := by
    rcases hp with i | x
    · rcases hq with j | y
      · rw [stored_long_long, isLE_compare] at h
        exact place_long_mono i j h
      · rwa [stored_double_right _ _ hnp hnq, isLE_compare] at h
    · rwa [stored_double_left _ _ hnp hnq, isLE_compare] at h
  have hac := (hplace a b ha hb hna hnb hab).trans (hplace b c hb hc hnb hnc hbc)
  rcases ha with i | x
  · rcases hc with j | z
    · rcases hb with k | y
      · rw [stored_long_long, isLE_compare] at hab hbc ⊢
        exact hab.trans hbc
      · rw [stored_long_long, isLE_compare]
        by_contra hlt
        have hle : j.toInt ≤ i.toInt := by omega
        have hji := place_long_mono j i hle
        have hik := hplace _ _ (.long i) (.double y) hna hnb hab
        have hkj := hplace _ _ (.double y) (.long j) hnb hnc hbc
        apply hclash
        refine ⟨i, j, y, rfl, rfl, rfl, ?_, ?_, ?_⟩
        · rintro rfl
          exact hlt le_rfl
        · exact compare_long_double i y hnb (by omega)
        · exact compare_long_double j y hnb (by omega)
    · rw [stored_double_right _ _ hna hnc, isLE_compare]
      exact hac
  · rw [stored_double_left _ _ hna hnc, isLE_compare]
    exact hac

end NumberValue

namespace Json

def valueAt (key : String) (row : Json) : Json := (row.field? key).getD .null

def compareAlike : Json → Json → Ordering
  | .text a, .text b => Ord.compare a b
  | .boolean a, .boolean b => Ord.compare a b
  | a, b =>
    match a.number?, b.number? with
    | some x, some y => x.stored y
    | _, _ => .eq

def integerNumber (n : Int) : NumberValue :=
  match int64? n with
  | some i => .long i
  | none => .double (.ofInt n)

theorem number?_integer (n : Int) : (integer n).number? = some (integerNumber n) := by
  cases h : int64? n <;> simp only [number?, integerNumber, h]

theorem number?_stored (a : Json) (x : NumberValue) (h : a.number? = some x) : x.IsStored := by
  cases a with
  | integer n =>
    rw [number?_integer, Option.some.injEq] at h
    rw [← h, integerNumber]
    split
    · exact .long _
    · exact .double _
  | float y =>
    cases h
    exact .double _
  | _ => cases h

theorem comparePresent_eq (a b : Json) :
    comparePresent a b = (Ord.compare a.kindRank b.kindRank).then (compareAlike a b) := by
  cases a <;> cases b <;> simp only [comparePresent, compareAlike, number?_integer] <;> rfl

theorem compareOptional_eq (a b : Option Json) :
    compareOptional a b = comparePresent (a.getD .null) (b.getD .null) := by
  rcases a with _ | a <;> rcases b with _ | b
  · rfl
  · cases b <;> rfl
  · cases a <;> simp only [Option.getD, comparePresent, number?_integer] <;> rfl
  · cases a <;> cases b <;>
      first | rfl | (simp only [Option.getD, comparePresent, number?_integer]; rfl)

theorem compareAlike_swap (a b : Json) : compareAlike a b = (compareAlike b a).swap := by
  have hnumber : (match a.number?, b.number? with
      | some x, some y => x.stored y
      | _, _ => .eq) = (match b.number?, a.number? with
      | some y, some x => y.stored x
      | _, _ => Ordering.eq).swap := by
    cases ha : a.number? with
    | none => cases b.number? <;> rfl
    | some x =>
      cases hb : b.number? with
      | none => rfl
      | some y => exact NumberValue.stored_swap x y (number?_stored a x ha) (number?_stored b y hb)
  cases a <;> cases b <;> first
    | exact hnumber
    | exact Std.OrientedOrd.eq_swap

theorem comparePresent_swap (a b : Json) : comparePresent a b = (comparePresent b a).swap := by
  rw [comparePresent_eq, comparePresent_eq, Ordering.swap_then, ← compareAlike_swap,
    ← Std.OrientedOrd.eq_swap]

def IsDefined (a : Json) : Prop := a ≠ .float .nan

theorem number?_toDouble (a : Json) (ha : a.IsDefined) (x : NumberValue) (h : a.number? = some x) :
    x.toDouble ≠ .nan := by
  cases a with
  | integer n =>
    rw [number?_integer, Option.some.injEq] at h
    rw [← h, integerNumber]
    split <;> exact Double.ofInt_ne_nan _
  | float y =>
    cases h
    rintro rfl
    exact ha rfl
  | _ => cases h

def Clash (a b c : Json) : Prop :=
  ∃ x y z, a.number? = some x ∧ b.number? = some y ∧ c.number? = some z ∧ x.Clash y z

theorem number?_of_kindRank (a : Json) (h : a.kindRank = 1) : ∃ x, a.number? = some x := by
  cases a with
  | integer n => exact ⟨_, number?_integer n⟩
  | float x => exact ⟨_, rfl⟩
  | _ => cases h

theorem compareAlike_number (a b : Json) (x y : NumberValue) (hx : a.number? = some x)
    (hy : b.number? = some y) : compareAlike a b = x.stored y := by
  unfold compareAlike
  split
  · cases hx
  · cases hx
  · rw [hx, hy]

theorem compareAlike_number_trans (a b c : Json) (ha : a.IsDefined) (hb : b.IsDefined)
    (hc : c.IsDefined) (hclash : ¬ Clash a c b) (hka : a.kindRank = 1) (hkb : b.kindRank = 1)
    (hkc : c.kindRank = 1) (hab : (compareAlike a b).isLE) (hbc : (compareAlike b c).isLE) :
    (compareAlike a c).isLE := by
  obtain ⟨x, hx⟩ := number?_of_kindRank a hka
  obtain ⟨y, hy⟩ := number?_of_kindRank b hkb
  obtain ⟨z, hz⟩ := number?_of_kindRank c hkc
  rw [compareAlike_number a b x y hx hy] at hab
  rw [compareAlike_number b c y z hy hz] at hbc
  rw [compareAlike_number a c x z hx hz]
  apply NumberValue.stored_trans x y z (number?_stored a x hx) (number?_stored b y hy)
    (number?_stored c z hz) (number?_toDouble a ha x hx) (number?_toDouble b hb y hy)
    (number?_toDouble c hc z hz) _ hab hbc
  intro h
  exact hclash ⟨x, z, y, hx, hz, hy, h⟩

theorem compareAlike_trans (a b c : Json) (ha : a.IsDefined) (hb : b.IsDefined)
    (hc : c.IsDefined) (hclash : ¬ Clash a c b) (hkab : a.kindRank = b.kindRank)
    (hkbc : b.kindRank = c.kindRank) (hab : (compareAlike a b).isLE)
    (hbc : (compareAlike b c).isLE) : (compareAlike a c).isLE := by
  have hnumber (hka : a.kindRank = 1) : (compareAlike a c).isLE :=
    compareAlike_number_trans a b c ha hb hc hclash hka (hkab.symm.trans hka)
      (hkbc.symm.trans (hkab.symm.trans hka)) hab hbc
  cases a with
  | integer m => exact hnumber rfl
  | float x => exact hnumber rfl
  | text s =>
    cases b <;> cases hkab
    cases c <;> cases hkbc
    exact Std.TransOrd.isLE_trans hab hbc
  | boolean x =>
    cases b <;> cases hkab
    cases c <;> cases hkbc
    exact Std.TransOrd.isLE_trans hab hbc
  | _ =>
    cases b <;> cases hkab
    cases c <;> cases hkbc
    rfl

theorem kindRank_of_number? (a : Json) (x : NumberValue) (h : a.number? = some x) :
    a.kindRank = 1 := by
  cases a with
  | integer n => rfl
  | float y => rfl
  | _ => cases h

theorem comparePresent_number (a b : Json) (x y : NumberValue) (hx : a.number? = some x)
    (hy : b.number? = some y) : comparePresent a b = x.stored y := by
  rw [comparePresent_eq, kindRank_of_number? a x hx, kindRank_of_number? b y hy,
    compareAlike_number a b x y hx hy]
  rfl

/-- The order of values is transitive unless the second does not tell the other two apart. -/
theorem comparePresent_trans (a b c : Json) (ha : a.IsDefined) (hb : b.IsDefined)
    (hc : c.IsDefined) (hclash : ¬ Clash a c b) (hab : (comparePresent a b).isLE)
    (hbc : (comparePresent b c).isLE) : (comparePresent a c).isLE := by
  rw [comparePresent_eq, Ordering.isLE_then_iff_or, compare_lt_iff_lt,
    compare_eq_iff_eq] at hab hbc ⊢
  rcases hab with hab | ⟨hkab, hab⟩ <;> rcases hbc with hbc | ⟨hkbc, hbc⟩
  · exact .inl (hab.trans hbc)
  · exact .inl (hkbc ▸ hab)
  · exact .inl (hkab ▸ hbc)
  · exact .inr ⟨hkab.trans hkbc, compareAlike_trans a b c ha hb hc hclash hkab hkbc hab hbc⟩

end Json

theorem TypedSort.compareRows_eq (s : TypedSort) (a b : Json) :
    s.compareRows a b =
      s.direction.apply ((a.valueAt s.key).comparePresent (b.valueAt s.key)) := by
  rw [TypedSort.compareRows, Json.compareOptional_eq]
  rfl

theorem TypedSort.compareRows_swap (s : TypedSort) (a b : Json) :
    s.compareRows a b = (s.compareRows b a).swap := by
  rw [s.compareRows_eq, s.compareRows_eq, Json.comparePresent_swap]
  cases s.direction <;> rfl

/-- Some of the rows hold two integers under a key that a third does not tell apart. -/
def HasClash (R : Json → Prop) (key : String) : Prop :=
  ∃ a b c, R a ∧ R b ∧ R c ∧ (a.valueAt key).Clash (b.valueAt key) (c.valueAt key)

theorem TypedSort.compareRows_trans (s : TypedSort) (R : Json → Prop)
    (hdefined : ∀ a, R a → (a.valueAt s.key).IsDefined) (hclash : ¬ HasClash R s.key)
    (a b c : Json) (ha : R a) (hb : R b) (hc : R c) (hab : (s.compareRows a b).isLE)
    (hbc : (s.compareRows b c).isLE) : (s.compareRows a c).isLE := by
  rw [s.compareRows_eq] at hab hbc ⊢
  cases hd : s.direction with
  | ascending =>
    rw [hd] at hab hbc
    apply Json.comparePresent_trans _ (b.valueAt s.key) _ (hdefined a ha) (hdefined b hb)
      (hdefined c hc) _ hab hbc
    intro h
    exact hclash ⟨a, c, b, ha, hc, hb, h⟩
  | descending =>
    rw [hd, Direction.apply, ← Json.comparePresent_swap] at hab hbc
    rw [Direction.apply, ← Json.comparePresent_swap]
    apply Json.comparePresent_trans _ (b.valueAt s.key) _ (hdefined c hc) (hdefined b hb)
      (hdefined a ha) _ hbc hab
    intro h
    exact hclash ⟨c, a, b, hc, ha, hb, h⟩

theorem compareRows_swap (sorts : List TypedSort) (a b : Json) :
    compareRows sorts a b = (compareRows sorts b a).swap := by
  induction sorts with
  | nil => rfl
  | cons s sorts ih =>
    rw [compareRows, compareRows, Ordering.swap_then, ← s.compareRows_swap, ← ih]

theorem compareRows_self (sorts : List TypedSort) (a : Json) : compareRows sorts a a = .eq := by
  have h := compareRows_swap sorts a a
  revert h
  cases compareRows sorts a a <;> decide

/-- The order by several sorts is transitive if that by each of them is. -/
theorem compareRows_trans (sorts : List TypedSort) (R : Json → Prop)
    (h : ∀ s ∈ sorts, ∀ a b c, R a → R b → R c → (s.compareRows a b).isLE →
      (s.compareRows b c).isLE → (s.compareRows a c).isLE)
    (a b c : Json) (ha : R a) (hb : R b) (hc : R c) (hab : (compareRows sorts a b).isLE)
    (hbc : (compareRows sorts b c).isLE) : (compareRows sorts a c).isLE := by
  -- Lexicographic orders of rows that satisfy `R` are transitive by an instance of the library.
  have hcmp : Std.TransCmp fun x y : {row // R row} => compareRows sorts x.1 y.1 := by
    clear hab hbc
    induction sorts with
    | nil =>
      refine { eq_swap := rfl, isLE_trans := fun _ _ => rfl }
    | cons s sorts ih =>
      have := ih fun t ht => h t (List.mem_cons_of_mem s ht)
      have : Std.TransCmp fun x y : {row // R row} => s.compareRows x.1 y.1 := by
        refine { eq_swap := ?_, isLE_trans := ?_ }
        · exact s.compareRows_swap _ _
        · exact fun {x y z} => h s List.mem_cons_self x y z x.2 y.2 z.2
      exact inferInstanceAs (Std.TransCmp (compareLex
        (fun x y : {row // R row} => s.compareRows x.1 y.1)
        (fun x y : {row // R row} => compareRows sorts x.1 y.1)))
  exact hcmp.isLE_trans (a := ⟨a, ha⟩) (b := ⟨b, hb⟩) (c := ⟨c, hc⟩) hab hbc

/-- The greater of two integers that a third number does not tell apart is out of order. -/
theorem comparePresent_not_trans (a b c : Json) (i j : Int64) (z : NumberValue)
    (ha : a.number? = some (.long i)) (hb : b.number? = some (.long j)) (hc : c.number? = some z)
    (hi : (NumberValue.long i).compare z = some .eq) (hj : (NumberValue.long j).compare z = some .eq)
    (hlt : i.toInt < j.toInt) :
    (b.comparePresent c).isLE ∧ (c.comparePresent a).isLE ∧ ¬ (b.comparePresent a).isLE := by
  refine ⟨?_, ?_, ?_⟩
  · rw [Json.comparePresent_number b c _ z hb hc, NumberValue.stored, hj]
    rfl
  · rw [Json.comparePresent_swap, Json.comparePresent_number a c _ z ha hc, NumberValue.stored, hi]
    rfl
  · rw [Json.comparePresent_number b a _ _ hb ha, NumberValue.stored_long_long,
      NumberValue.isLE_compare]
    exact hlt.not_ge

theorem compareRows_not_trans_of_clash (R : Json → Prop) (key : String) (h : HasClash R key) :
    ∃ s : TypedSort, s.key = key ∧ ∃ a b c, R a ∧ R b ∧ R c ∧ (compareRows [s] a b).isLE ∧
      (compareRows [s] b c).isLE ∧ ¬ (compareRows [s] a c).isLE := by
  obtain ⟨a, b, c, ha, hb, hc, _, _, z, hx, hy, hz, i, j, y, rfl, rfl, rfl, hne, hi, hj⟩ := h
  have hsingle (p q : Json) : compareRows [⟨key, .ascending, .number⟩] p q =
      (p.valueAt key).comparePresent (q.valueAt key) := by
    rw [compareRows, compareRows, Ordering.then_eq, TypedSort.compareRows_eq]
    rfl
  refine ⟨⟨key, .ascending, .number⟩, rfl, ?_⟩
  simp only [hsingle]
  rcases lt_trichotomy i.toInt j.toInt with hlt | heq | hlt
  · exact ⟨b, c, a, hb, hc, ha, comparePresent_not_trans _ _ _ i j _ hx hy hz hi hj hlt⟩
  · exact absurd (Int64.toInt_inj.mp heq) hne
  · exact ⟨a, c, b, ha, hc, hb, comparePresent_not_trans _ _ _ j i _ hy hx hz hj hi hlt⟩

/-- The order of rows is reflexive and turns around with its arguments, and it is transitive on
some rows and for all sorts by some keys exactly if no row holds a number under one of the keys
that two different integers under it in other rows both equal. -/
theorem compareRows_preorder_iff (R : Json → Prop) (K : String → Prop)
    (hdefined : ∀ row, R row → ∀ key, K key → (row.valueAt key).IsDefined) :
    (∀ (sorts : List TypedSort) (a b : Json), compareRows sorts a a = .eq ∧
      compareRows sorts a b = (compareRows sorts b a).swap) ∧
    ((∀ sorts : List TypedSort, (∀ s ∈ sorts, K s.key) → ∀ a b c, R a → R b → R c →
      (compareRows sorts a b).isLE → (compareRows sorts b c).isLE →
        (compareRows sorts a c).isLE) ↔ ∀ key, K key → ¬ HasClash R key) := by
  refine ⟨fun sorts a b => ⟨compareRows_self sorts a, compareRows_swap sorts a b⟩, ?_, ?_⟩
  · -- A clash under a key breaks already the order by that key alone.
    intro htrans key hkey hclash
    obtain ⟨s, hs, a, b, c, ha, hb, hc, hab, hbc, hac⟩ :=
      compareRows_not_trans_of_clash R key hclash
    apply hac
    apply htrans [s] _ a b c ha hb hc hab hbc
    intro t ht
    rw [List.mem_singleton.mp ht, hs]
    exact hkey
  · intro hclash sorts hsorts
    apply compareRows_trans
    intro s hs
    exact s.compareRows_trans R (fun a ha => hdefined a ha s.key (hsorts s hs))
      (hclash s.key (hsorts s hs))

def numberRow (value : Json) : Json := .object [("n", value)]

theorem valueAt_numberRow (value : Json) : (numberRow value).valueAt "n" = value := rfl

/-- Rows around 2⁵³, which is stored as an integer and as a binary number. -/
def neighbours : List Json :=
  [numberRow (.integer 9007199254740993), numberRow (.float (.ofInt 9007199254740992)),
    numberRow (.integer 9007199254740992)]

/-- The order of the neighbours of 2⁵³ shows that one of them equals two integers. -/
theorem hasClash_neighbours : HasClash (· ∈ neighbours) "n" := by
  have hdefined : ∀ row ∈ neighbours, ∀ key, key = "n" → (row.valueAt key).IsDefined := by
    rintro row hrow key rfl
    simp only [neighbours, List.mem_cons, List.not_mem_nil, or_false] at hrow
    rcases hrow with rfl | rfl | rfl <;> rw [valueAt_numberRow]
    · exact nofun
    · intro h
      exact Double.ofInt_ne_nan _ (Json.float.inj h)
    · exact nofun
  have h := (compareRows_preorder_iff (· ∈ neighbours) (· = "n") hdefined).2
  by_contra hno
  have htrans := h.mpr (fun key hkey => hkey ▸ hno) [⟨"n", .ascending, .number⟩]
    (fun s hs => by rw [List.mem_singleton.mp hs]) _ _ _
    (List.mem_cons_self) (List.mem_cons_of_mem _ List.mem_cons_self)
    (List.mem_cons_of_mem _ (List.mem_cons_of_mem _ List.mem_cons_self))
  revert htrans
  decide +kernel

/-- The first integer above 2⁵³ equals 2⁵³ as a binary number, which equals it as an integer, but
comes after that integer. -/
theorem compareRows_neighbours_not_trans :
    ∃ (sorts : List TypedSort) (a b c : Json), neighbours = [a, b, c] ∧
      (compareRows sorts a b).isLE ∧ (compareRows sorts b c).isLE ∧
      ¬ (compareRows sorts a c).isLE := by
  refine ⟨[⟨"n", .ascending, .number⟩], _, _, _, rfl, ?_, ?_, ?_⟩
  · decide +kernel
  · decide +kernel
  · decide +kernel

end CriteriaSearch
