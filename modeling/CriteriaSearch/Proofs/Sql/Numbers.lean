import CriteriaSearch.Proofs.Number.Comparison
import CriteriaSearch.Sql.Clause
import CriteriaSearch.Sql.Repository

/-!
# Numbers in cells

Number cells are compared by their places on the line of binary numbers, on which an integer has the
place of its exact value. A column of numbers may change the kind of a number that it stores, but not
its place. In memory an integer is rounded before it is compared with a binary number, and a decimal
is bound as a binary number, so that the two orders differ where rounding leads past a stored value.
-/

namespace CriteriaSearch

namespace Double

attribute [local irreducible] unitsPerOne limitUnits

theorem mul_unitsPerOne_bounds (n : Int) (h : n.natAbs ≤ 2 ^ 64) :
    signed true limitUnits < n * unitsPerOne ∧ n * unitsPerOne < signed false limitUnits := by
  have hlt := mul_unitsPerOne_lt n.natAbs h
  rw [← signed_natAbs]
  unfold signed
  by_cases hn : n < 0 <;> simp only [hn, decide_true, decide_false, Bool.false_eq_true, ↓reduceIte]
    <;> omega

theorem compareInt_eq_position (n : Int) (y : Double) (h : n.natAbs ≤ 2 ^ 64) (hy : y ≠ .nan) :
    compareInt n y = some (Ord.compare (n * unitsPerOne) y.position) := by
  have hbounds := mul_unitsPerOne_bounds n h
  rcases y with _ | negative | y
  · exact absurd rfl hy
  · cases negative <;> rw [compareInt, position]
    · rw [compare_lt_iff_lt.mpr hbounds.2, if_neg Bool.false_ne_true]
    · rw [compare_gt_iff_gt.mpr hbounds.1, if_pos rfl]
  · rfl

end Double

namespace Sql.Cell

open Double

attribute [local irreducible] unitsPerOne limitUnits

def place : Cell → Int
  | .integer n => n * unitsPerOne
  | .real x => x.position
  | _ => 0

def IsNumber : Cell → Prop
  | .integer n => n.natAbs ≤ 2 ^ 64
  | .real x => x ≠ .nan
  | _ => False

/-- A cell of a number that has the same place as a binary number. -/
def IsExact : Cell → Prop
  | .integer n => n.natAbs ≤ 2 ^ 53
  | .real x => x ≠ .nan
  | _ => False

theorem IsExact.isNumber {c : Cell} (h : c.IsExact) : c.IsNumber := by
  cases c with
  | integer n => exact Nat.le_trans h (by decide)
  | real x => exact h
  | _ => exact h

theorem compare_mul_unitsPerOne (a b : Int) :
    Ord.compare (a * unitsPerOne) (b * unitsPerOne) = Ord.compare a b := by
  have hpos : (0 : Int) < unitsPerOne := Int.natCast_pos.mpr unitsPerOne_pos
  rcases Int.lt_trichotomy a b with h | rfl | h
  · rw [compare_lt_iff_lt.mpr h, compare_lt_iff_lt.mpr (Int.mul_lt_mul_of_pos_right h hpos)]
  · rw [Std.ReflOrd.compare_self, Std.ReflOrd.compare_self]
  · rw [compare_gt_iff_gt.mpr h, compare_gt_iff_gt.mpr (Int.mul_lt_mul_of_pos_right h hpos)]

theorem compareNumbers_eq_place (x y : Cell) (hx : x.IsNumber) (hy : y.IsNumber) :
    compareNumbers x y = some (Ord.compare x.place y.place) := by
  cases x with
  | integer a =>
    cases y with
    | integer b => rw [compareNumbers, place, place, compare_mul_unitsPerOne]
    | real b => exact compareInt_eq_position a b hx hy
    | _ => exact absurd hy id
  | real a =>
    cases y with
    | integer b =>
      rw [compareNumbers, compareInt_eq_position b a hy hx, Option.map_some, place, place,
        Std.OrientedOrd.eq_swap (a := a.position)]
    | real b => exact compare_eq_position a b hx hy
    | _ => exact absurd hy id
  | _ => exact absurd hx id

theorem IsNumber.isNull_eq {c : Cell} (h : c.IsNumber) : c.isNull = false := by
  cases c with
  | null => exact absurd h id
  | _ => rfl

theorem orderBy_eq_place (collation : Collation) (x y : Cell) (hx : x.IsNumber)
    (hy : y.IsNumber) : x.orderBy collation y = Ord.compare x.place y.place := by
  have hnumbers := compareNumbers_eq_place x y hx hy
  unfold orderBy
  split
  · exact absurd hx id
  · exact absurd hx id
  · rw [hnumbers, Option.getD_some]

theorem compareIn_eq_place (a : Affinity) (ha : a ≠ .text) (x y : Cell) (hx : x.IsNumber)
    (hy : y.IsNumber) :
    compareIn a .binary x y = some (Ord.compare x.place y.place) := by
  have hnumber (c : Cell) (hc : c.IsNumber) : c.asNumber = c := by
    cases c with
    | text s => exact absurd hc id
    | _ => rfl
  have hmatched : matched a x y = (x, y) := by
    cases a with
    | text => exact absurd rfl ha
    | blob => rfl
    | _ => rw [matched, hnumber x hx, hnumber y hy]
  rw [compareIn, hx.isNull_eq, hy.isNull_eq, hmatched]
  exact congrArg some (orderBy_eq_place .binary x y hx hy)

theorem unsignedZero_place (x : Double) (h : x ≠ .nan) :
    unsignedZero x ≠ .nan ∧ (unsignedZero x).position = x.position := by
  unfold unsignedZero
  split
  · next hsame =>
    have hzero : Double.zero false ≠ .nan := nofun
    rw [sameValue, compare_eq_position x _ h hzero, beq_iff_eq, Option.some.injEq,
      compare_eq_iff_eq] at hsame
    exact ⟨hzero, hsame.symm⟩
  · exact ⟨h, rfl⟩

theorem wholeOfReal_place (x : Double) (h : x ≠ .nan) :
    (wholeOfReal x).IsNumber ∧ (wholeOfReal x).place = x.position := by
  unfold wholeOfReal
  split
  · next n hn =>
    split
    · next hfits =>
      refine ⟨?_, ?_⟩
      · unfold IsNumber
        omega
      · cases x with
        | finite x =>
          rw [whole?] at hn
          split at hn
          · next hdvd =>
            have hdvd' : (unitsPerOne : Int) ∣ x.signedUnits := by
              rw [signedUnits_eq, signed]
              split
              · exact Int.dvd_neg.mpr (Int.natCast_dvd_natCast.mpr (Nat.dvd_of_mod_eq_zero hdvd))
              · exact Int.natCast_dvd_natCast.mpr (Nat.dvd_of_mod_eq_zero hdvd)
            rw [Option.some.injEq] at hn
            rw [place, position, ← hn, Int.ediv_mul_cancel hdvd']
          · cases hn
        | _ => cases hn
    · exact ⟨h, rfl⟩
  · exact ⟨h, rfl⟩

/-- A column that is not one of texts stores a number at its place. -/
theorem place_store (a : Affinity) (ha : a ≠ .text) (c : Cell) (h : c.IsExact) :
    (c.store a).IsNumber ∧ (c.store a).place = c.place := by
  cases c with
  | integer n =>
    cases a with
    | text => exact absurd rfl ha
    | real => exact ⟨ofInt_ne_nan n, position_ofInt n h⟩
    | _ => exact ⟨IsExact.isNumber h, rfl⟩
  | real x =>
    cases a with
    | text => exact absurd rfl ha
    | blob => exact ⟨h, rfl⟩
    | real => exact unsignedZero_place x h
    | _ => exact wholeOfReal_place x h
  | _ => exact absurd h id

end Sql.Cell

namespace Json

/-- A number that is stored as it is: an integer of at most 53 bits, or a finite binary number. -/
def IsExactNumber : Json → Prop
  | .integer n => n.natAbs ≤ 2 ^ 53
  | .float x => x.isFinite = true
  | _ => False

end Json

def Decimal.compareInt (n : Int) (d : Decimal) : Ordering :=
  Ord.compare (n * tenTo d.scale) d.signedMantissa

namespace NumberValue

/-- A test of a stored value comes out for the number as for what is bound for it. A decimal is
bound as a binary number, and an integer is rounded in memory where the stored value is a binary
number. -/
def IsKept (sign : Sql.Sign) (stored : Json) : NumberValue → Prop
  | .int _ | .double _ => True
  | .long m => ∀ x, stored = .float x →
      (x.compare (.ofInt m.toInt)).any sign.holds =
        (Double.compareInt m.toInt x).any fun o => sign.holds o.swap
  | .decimal d => ∀ n, stored = .integer n →
      sign.holds (d.compareInt n) = (Double.compareInt n d.toDouble).any sign.holds

attribute [local irreducible] unitsPerOne Double.limitUnits in
/-- An integer of at most 53 bits is bound as memory sees it. -/
theorem isKept_long (sign : Sql.Sign) (stored : Json) (m : Int64) (h : m.toInt.natAbs ≤ 2 ^ 53) :
    (long m).IsKept sign stored := by
  intro x _
  by_cases hx : x = .nan
  · rw [hx]
    rfl
  · rw [Double.compareInt_eq_position _ x (h.trans (by decide)) hx,
      Double.compare_eq_position x _ hx (Double.ofInt_ne_nan _), Option.any_some, Option.any_some,
      ← Std.OrientedOrd.eq_swap (a := x.position), Double.position_ofInt _ h]

theorem compare_decimal (a : NumberValue) (n : Int) (d : Decimal) (h : a.toInt? = some n) :
    a.compare (decimal d) = some (d.compareInt n) := by
  obtain ⟨x, hx, hmantissa, hscale⟩ := a.toDecimal?_of_toInt? n h
  unfold compare
  rw [hx]
  simp only [toDecimal?, Decimal.compare, hmantissa, hscale, Decimal.compareInt]
  simp [tenTo]

end NumberValue

namespace Sql

open Double

attribute [local irreducible] unitsPerOne limitUnits

theorem cell_integer (v : NumberValue) (n : Int) (h : v.toInt? = some n) :
    (Param.ofValue (.number v)).cell = .integer n := by
  rw [Param.ofValue, h]
  rfl

theorem cell_real (v : NumberValue) (h : v.toInt? = none) (hv : v.IsDefined) :
    (Param.ofValue (.number v)).cell = .real v.toDouble := by
  rw [Param.ofValue, h]
  cases hx : v.toDouble with
  | nan => exact absurd hx hv
  | _ => rfl

theorem Cell.isNumber_ofValue (v : NumberValue) (hv : v.IsDefined) :
    (Param.ofValue (.number v)).cell.IsNumber := by
  cases v with
  | int m =>
    have hle := Int32.le_toInt m
    have hlt := Int32.toInt_lt m
    rw [cell_integer _ m.toInt rfl, IsNumber]
    omega
  | long m =>
    have hle := Int64.le_toInt m
    have hlt := Int64.toInt_lt m
    rw [cell_integer _ m.toInt rfl, IsNumber]
    omega
  | _ =>
    rw [cell_real _ rfl hv]
    exact hv

/-- A stored integer is tested in memory as by the place of what is bound. -/
theorem compareWith_integer (sign : Sign) (n : Int) (hn : n.natAbs ≤ 2 ^ 53) (v : NumberValue)
    (hv : v.IsDefined) (hkept : v.IsKept sign (.integer n)) :
    ∃ o, (Json.integer n).compareWith (.number v) = some o ∧ sign.holds o =
      sign.holds (Ord.compare (n * unitsPerOne) (Param.ofValue (.number v)).cell.place) := by
  obtain ⟨i, hi, hstored⟩ : ∃ i : Int64, i.toInt = n ∧
      (Json.integer n).compareWith (.number v) = (NumberValue.long i).compare v := by
    refine ⟨Int64.ofInt n, Int64.toInt_ofInt_of_le (by omega) (by omega), ?_⟩
    have hfits : int64? n = some (Int64.ofInt n) := if_pos (by omega)
    rw [Json.compareWith, Json.asKindOf?, Json.number?, hfits]
    rfl
  -- Integers are compared exactly on both sides, and only other kinds need that binding keeps them.
  have hinteger (m : Int) (hm : v.toInt? = some m) :
      (NumberValue.long i).compare v =
        some (Ord.compare (n * unitsPerOne) (Param.ofValue (.number v)).cell.place) := by
    rw [cell_integer v m hm, Cell.place, Cell.compare_mul_unitsPerOne, ← hi]
    exact NumberValue.compare_integers _ v i.toInt m rfl hm
  rw [hstored]
  cases v with
  | int m => exact ⟨_, hinteger m.toInt rfl, rfl⟩
  | long m => exact ⟨_, hinteger m.toInt rfl, rfl⟩
  | double y =>
    have hne : (NumberValue.long i).toDouble ≠ .nan := ofInt_ne_nan i.toInt
    have hplace : (NumberValue.long i).toDouble.position = n * unitsPerOne := by
      rw [NumberValue.toDouble, hi, position_ofInt n hn]
    refine ⟨_, NumberValue.compare_double_right _ y ▸ compare_eq_position _ y hne hv, ?_⟩
    rw [hplace, cell_real _ rfl hv]
    rfl
  | decimal d =>
    refine ⟨_, NumberValue.compare_decimal _ n d (by rw [← hi]; rfl), ?_⟩
    rw [hkept n rfl, compareInt_eq_position n d.toDouble (hn.trans (by decide)) hv, Option.any_some,
      cell_real _ rfl hv]
    rfl

/-- A stored binary number is tested in memory as by the place of what is bound. -/
theorem compareWith_float (sign : Sign) (x : Double) (hx : x ≠ .nan) (v : NumberValue)
    (hv : v.IsDefined) (hkept : v.IsKept sign (.float x)) :
    ∃ o, (Json.float x).compareWith (.number v) = some o ∧ sign.holds o =
      sign.holds (Ord.compare x.position (Param.ofValue (.number v)).cell.place) := by
  have hstored : (Json.float x).compareWith (.number v) = x.compare v.toDouble := rfl
  have hreal (h : v.toInt? = none) :
      (Param.ofValue (.number v)).cell.place = v.toDouble.position := by
    rw [cell_real v h hv]
    rfl
  rw [hstored]
  refine ⟨_, compare_eq_position x _ hx hv, ?_⟩
  cases v with
  | int m =>
    have hle := Int32.le_toInt m
    have hlt := Int32.toInt_lt m
    rw [cell_integer _ m.toInt rfl, Cell.place, NumberValue.toDouble,
      position_ofInt m.toInt (by omega)]
  -- In memory the integer is rounded, and in the table it is not; being kept says that this does
  -- not show.
  | long m =>
    have hle := Int64.le_toInt m
    have hlt := Int64.toInt_lt m
    have hbound := hkept x rfl
    rw [compareInt_eq_position _ x (by omega) hx, compare_eq_position x (.ofInt m.toInt) hx hv,
      Option.any_some, Option.any_some, ← Std.OrientedOrd.eq_swap (a := x.position)] at hbound
    rw [cell_integer _ m.toInt rfl]
    exact hbound
  | double y => rw [hreal rfl]
  | decimal d => rw [hreal rfl]

theorem cell_paramOfInteger (n : Int) (hn : n.natAbs ≤ 2 ^ 53) :
    (Store.paramOfJson (.integer n)).cell = .integer n := by
  have hfits : Cell.fits n = true := by
    rw [Cell.fits, Bool.and_eq_true, decide_eq_true_eq, decide_eq_true_eq]
    omega
  rw [Store.paramOfJson, if_pos hfits]
  rfl

theorem cell_paramOfFloat (x : Double) (hx : x ≠ .nan) :
    (Store.paramOfJson (.float x)).cell = .real x := by
  cases x with
  | nan => exact absurd rfl hx
  | _ => rfl

theorem ne_nan_of_isFinite (x : Double) (h : x.isFinite = true) : x ≠ .nan := by
  rintro rfl
  exact Bool.false_ne_true h

theorem isExact_paramOfJson (stored : Json) (h : stored.IsExactNumber) :
    (Store.paramOfJson stored).cell.IsExact := by
  cases stored with
  | integer n =>
    rw [cell_paramOfInteger n h]
    exact h
  | float x =>
    rw [cell_paramOfFloat x (ne_nan_of_isFinite x h)]
    exact ne_nan_of_isFinite x h
  | _ => exact absurd h id

/-- A test of a stored number and a bound one comes out as in memory, in every column but one of
texts. -/
theorem compareIn_number (sign : Sign) (a : Affinity) (ha : a ≠ .text) (stored : Json)
    (hstored : stored.IsExactNumber) (v : NumberValue) (hv : v.IsDefined)
    (hkept : v.IsKept sign stored) :
    ∃ o o', stored.compareWith (.number v) = some o ∧
      Cell.compareIn a .binary ((Store.paramOfJson stored).cell.store a)
        (Param.ofValue (.number v)).cell = some o' ∧ sign.holds o = sign.holds o' := by
  obtain ⟨hstore, hplace⟩ := Cell.place_store a ha _ (isExact_paramOfJson stored hstored)
  have horder := Cell.compareIn_eq_place a ha _ _ hstore (Cell.isNumber_ofValue v hv)
  rw [hplace] at horder
  cases stored with
  | integer n =>
    rw [cell_paramOfInteger n hstored] at horder ⊢
    obtain ⟨o, hmemory, htest⟩ := compareWith_integer sign n hstored v hv hkept
    exact ⟨o, _, hmemory, horder, htest⟩
  | float x =>
    have hx := ne_nan_of_isFinite x hstored
    rw [cell_paramOfFloat x hx] at horder ⊢
    obtain ⟨o, hmemory, htest⟩ := compareWith_float sign x hx v hv hkept
    exact ⟨o, _, hmemory, horder, htest⟩
  | _ => exact absurd hstored id

end Sql

end CriteriaSearch
