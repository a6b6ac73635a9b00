import CriteriaSearch.Proofs.Fields
import CriteriaSearch.Proofs.Sql.Agreement
import CriteriaSearch.Proofs.ValueTypes

/-!
# Values that are bound exactly

Which values of a request are kept when they are bound, whatever a row holds: all texts, truth values
and binary numbers, integers of at most 53 bits, decimals that are binary numbers, and date-times in
whole milliseconds. Any date-time will do as an upper bound, so that whole days are kept as well.
-/

namespace CriteriaSearch

namespace Decimal

attribute [local irreducible] unitsPerOne

/-- The binary number computed for a decimal is the decimal itself. -/
def IsBinary (d : Decimal) : Prop :=
  d.toDouble.position * tenTo d.scale = d.signedMantissa * unitsPerOne

instance (d : Decimal) : Decidable d.IsBinary := inferInstanceAs (Decidable (_ = _))

theorem IsBinary.isAt {d : Decimal} (h : d.IsBinary) : d.toDouble.IsAt d.value := by
  have hunits : (unitsPerOne : ℚ) ≠ 0 := Nat.cast_ne_zero.mpr Double.unitsPerOne_pos.ne'
  have hten : (10 : ℚ) ^ d.scale ≠ 0 := by positivity
  refine ⟨d.toDouble_ne_nan, ?_⟩
  rw [value, div_eq_div_iff hunits hten]
  exact_mod_cast h

example : IsBinary ⟨false, 15, 1, by decide, by decide⟩ := by decide +kernel

theorem compareInt_eq_cmp (n : Int) (d : Decimal) : d.compareInt n = cmp (n : ℚ) d.value := by
  have hpos : (0 : ℚ) < 10 ^ d.scale := by positivity
  have hvalue : ((n * tenTo d.scale : Int) : ℚ) / 10 ^ d.scale = n := by
    rw [div_eq_iff hpos.ne']
    norm_cast
  rw [compareInt, compare_eq_cmp_div _ _ hpos, hvalue, value]

end Decimal

theorem Double.IsAt.compareInt_eq {x : Double} {v : ℚ} (h : x.IsAt v) (n : Int)
    (hn : n.natAbs ≤ 2 ^ 64) : Double.compareInt n x = some (cmp (n : ℚ) v) := by
  obtain ⟨hnan, rfl⟩ := h
  have hpos : (0 : ℚ) < unitsPerOne := Nat.cast_pos.mpr unitsPerOne_pos
  rw [compareInt_eq_position n x hn hnan, compare_eq_cmp_div _ _ hpos, Int.cast_mul,
    Int.cast_natCast, mul_div_cancel_right₀ _ hpos.ne']

namespace NumberValue

/-- What is bound for the number has its exact value, and so has what memory compares. -/
def IsBoundExactly : NumberValue → Prop
  | .int _ | .double _ => True
  | .long m => m.toInt.natAbs ≤ 2 ^ 53
  | .decimal d => d.IsBinary

/-- A decimal that is a binary number is compared with integers as the binary number is. -/
theorem isKept_decimal (sign : Sql.Sign) {stored : Json} (hstored : stored.IsExactNumber)
    {d : Decimal} (h : d.IsBinary) : (decimal d).IsKept sign stored := by
  intro n hn
  subst hn
  have hbound : n.natAbs ≤ 2 ^ 64 := Nat.le_trans hstored (by decide)
  rw [h.isAt.compareInt_eq n hbound, Option.any_some, d.compareInt_eq_cmp]

theorem IsBoundExactly.isKept {v : NumberValue} (h : v.IsBoundExactly) (sign : Sql.Sign)
    {stored : Json} (hstored : stored.IsExactNumber) : v.IsKept sign stored := by
  cases v with
  | int | double => trivial
  | long m => exact isKept_long sign stored m h
  | decimal d => exact isKept_decimal sign hstored h

end NumberValue

/-- What the row holds in the field, if anything, is of the type. -/
def Json.IsTypedAt (row : Json) (field : String) (t : FieldType) : Prop :=
  ∀ stored, row.present? field = some stored → stored.IsTyped t

theorem Sql.Slot.Stores.isTypedAt {t : FieldType} {row : Json} {field : String} {slot : Slot}
    (h : Stores t (row.present? field) slot) : row.IsTypedAt field t := by
  intro stored hstored
  rw [hstored] at h
  cases h with
  | present a _ _ htyped => exact htyped

namespace FieldValue

def IsBoundExactly (sign : Sql.Sign) : FieldValue → Prop
  | .text _ | .boolean _ => True
  | .number n => n.IsBoundExactly
  | .dateTime l => l.date.year ≤ 9999 ∧
    (l.nano % 1000000 = 0 ∨ sign = .greater ∨ sign = .lessOrEqual)

theorem IsBoundExactly.isKept {sign : Sql.Sign} {v : FieldValue} (h : v.IsBoundExactly sign)
    {stored : Json} (hstored : stored.IsTyped v.fieldType) : v.IsKept sign stored := by
  cases v with
  | text | boolean => trivial
  | number n =>
    cases hstored with
    | number _ hexact => exact NumberValue.IsBoundExactly.isKept h sign hexact
  | dateTime l =>
    obtain ⟨hyear, hmillis | hsign⟩ := h
    · exact isKept_wholeMillis sign stored l hyear hmillis
    · cases hstored with
      | date t cs hw ht => exact isKept_upper sign hsign t cs hw ht l hyear

end FieldValue

namespace Predicate

/-- A single test whose values are bound exactly, or which looks for a text that patterns can find
in what the row holds. -/
def IsBoundExactly (row : Json) : Predicate → Prop
  | .compare _ c v => v.IsBoundExactly (Sql.signOf c)
  | .range _ lower upper =>
    lower.IsBoundExactly .greaterOrEqual ∧ upper.IsBoundExactly .lessOrEqual
  | .oneOf _ vs => ∀ v ∈ vs, v.IsBoundExactly .equal
  | .textMatch field _ text => Sql.isPatternText text = true ∧
    ∀ s, row.present? field = some (.text s) → Sql.isPatternText s = true
  | .isNull _ | .isNotNull _ => True
  | .and _ | .or _ | .not _ => False

theorem IsBoundExactly.isKept {row : Json} {test : Predicate} (h : test.IsBoundExactly row)
    {t : FieldType} (hsuits : test.Suits t)
    (htyped : ∀ field ∈ test.leafFields, row.IsTypedAt field t) : test.IsKept row := by
  have hvalue {sign : Sql.Sign} {v : FieldValue} {field : String} {stored : Json}
      (hv : v ∈ test.literals) (hbound : v.IsBoundExactly sign) (hfield : field ∈ test.leafFields)
      (hstored : row.present? field = some stored) : v.IsKept sign stored := by
    apply hbound.isKept
    rw [hsuits.literals_typed v hv]
    exact htyped field hfield stored hstored
  cases test with
  | compare field c v =>
    exact fun stored hstored => hvalue List.mem_cons_self h List.mem_cons_self hstored
  | range field lower upper =>
    intro stored hstored
    exact ⟨hvalue List.mem_cons_self h.1 List.mem_cons_self hstored,
      hvalue (List.mem_cons_of_mem _ List.mem_cons_self) h.2 List.mem_cons_self hstored⟩
  | oneOf field vs =>
    exact fun stored hstored v hv => hvalue hv (h v hv) List.mem_cons_self hstored
  | textMatch => exact h
  | isNull | isNotNull => trivial
  | and | or | not => exact absurd h id

theorem isKept_iff_leaves (row : Json) (p : Predicate) :
    p.IsKept row ↔ ∀ test ∈ p.leaves, test.IsKept row := by
  induction p using inductionOn with
  | and ps ih =>
    rw [isKept_and, leaves, leavesOf_eq, List.forall_mem_flatMap]
    exact forall₂_congr ih
  | or ps ih =>
    rw [isKept_or, leaves, leavesOf_eq, List.forall_mem_flatMap]
    exact forall₂_congr ih
  | not p ih => rw [IsKept, leaves, ih]
  | _ => exact List.forall_mem_singleton.symm

theorem mem_leafFields_of_leaf {p test : Predicate} (htest : test ∈ p.leaves) {field : String}
    (hfield : field ∈ test.leafFields) : field ∈ p.leafFields := by
  induction p using inductionOn with
  | and ps ih | or ps ih =>
    rw [leaves, leavesOf_eq, List.mem_flatMap] at htest
    obtain ⟨p, hp, htest⟩ := htest
    exact (mem_leafFieldsOf field ps).mpr ⟨p, hp, ih p hp htest⟩
  | not p ih => exact ih htest
  | _ =>
    obtain rfl := List.mem_singleton.mp htest
    exact hfield

end Predicate

/-- Binding keeps the values of a compiled request on every row with fields of its types, if all of
its tests are bound exactly. -/
theorem Criteria.isKept_compiled {ds : List FilterDescriptor} {c : Criteria} {k : Compiled}
    (h : c.compile ds = .ok k) {p : Predicate} (hp : k.predicate = some p) {row : Json}
    (hfilters : ∀ g ∈ c.filters, g.isDropped ds = false → row.IsTypedAt g.key (g.resolvedType ds))
    (htests : ∀ test ∈ p.leaves, test.IsBoundExactly row) : p.IsKept row := by
  rw [Predicate.isKept_iff_leaves]
  intro test htest
  have hbound := htests test htest
  rcases (mem_compiled_leaves_iff h hp test).mp htest with ⟨f, hf, q, hq, hleaf⟩ | hquery
  · have hterm := f.compile_eq_some _ q hq
    have hkept : f.isDropped ds = false := by
      rw [Filter.isDropped, hq]
    refine hbound.isKept (hterm.leaves_suit test hleaf) fun field hfield => ?_
    rw [(hterm.mem_leafFields_iff field).mp (Predicate.mem_leafFields_of_leaf hleaf hfield)]
    exact hfilters f hf hkept
  · obtain ⟨query, -, d, -, -, rfl⟩ := hquery
    exact hbound

end CriteriaSearch
