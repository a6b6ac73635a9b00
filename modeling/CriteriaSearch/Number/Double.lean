import CriteriaSearch.Number.Power

/-!
# Binary floating-point numbers

Numbers of the 64-bit binary format, kept by their value: a finite one is a significand of at most
53 bits times a power of two, counted in units of 2⁻¹⁰⁷⁴, the least positive value. Two finite
numbers with the same sign, significand and exponent are equal, and every number has one such form.
-/

namespace CriteriaSearch

/-- A finite number: ± `significand` · 2 ^ (`exponent` − 1074). The significand is less than 2⁵³,
and at least 2⁵² unless the exponent is the least. -/
structure FiniteDouble where
  negative : Bool
  significand : Nat
  exponent : Nat
  significand_lt : significand < 9007199254740992
  exponent_le : exponent ≤ 2045
  normal : exponent = 0 ∨ 4503599627370496 ≤ significand
  deriving DecidableEq, Repr

inductive Double where
  | nan
  | infinite (negative : Bool)
  | finite (value : FiniteDouble)
  deriving DecidableEq, Repr

/-- How many units of 2⁻¹⁰⁷⁴ make one. -/
def unitsPerOne : Nat := twoTo 1074

namespace FiniteDouble

def units (x : FiniteDouble) : Nat := x.significand * twoTo x.exponent

def signedUnits (x : FiniteDouble) : Int := if x.negative then -(x.units : Int) else x.units

def zero (negative : Bool) : FiniteDouble :=
  ⟨negative, 0, 0, by decide, by decide, .inl rfl⟩

def isZero (x : FiniteDouble) : Bool := x.significand == 0

end FiniteDouble

namespace Double

def zero (negative : Bool) : Double := .finite (.zero negative)

def isFinite : Double → Bool
  | .finite _ => true
  | _ => false

/-- The order of two numbers by value. The undefined number has no order with any number, itself
included, and both zeros are equal. -/
def compare : Double → Double → Option Ordering
  | .nan, _ | _, .nan => none
  | .infinite a, .infinite b => some (Ord.compare (!a) (!b))
  | .infinite a, .finite _ => some (if a then .lt else .gt)
  | .finite _, .infinite b => some (if b then .gt else .lt)
  | .finite x, .finite y => some (Ord.compare x.signedUnits y.signedUnits)

def sameValue (x y : Double) : Bool := x.compare y == some .eq

/-- The number ± `m` · 2 ^ (`e` − 1074) for a rounded significand `m`, which may have reached 2⁵³;
beyond the largest finite number it is infinite. -/
def ofParts (negative : Bool) (m e : Nat) : Double :=
  if h : m < 9007199254740992 ∧ e ≤ 2045 ∧ (e = 0 ∨ 4503599627370496 ≤ m) then
    .finite ⟨negative, m, e, h.1, h.2.1, h.2.2⟩
  -- Rounded up to the next power of two.
  else if h : m = 9007199254740992 ∧ e + 1 ≤ 2045 then
    .finite ⟨negative, 4503599627370496, e + 1, by decide, h.2, .inr (Nat.le_refl _)⟩
  else
    .infinite negative

/-- The number nearest to ± `num` / `den`; of two equally near ones, that with an even
significand. -/
def roundQuotient (negative : Bool) (num den : Nat) : Double :=
  let scaled := num * unitsPerOne
  -- In units of this exponent the quotient has 53 bits, unless the exponent is the least one.
  let exponent := (scaled / den).log2 - 52
  let unit := den * twoTo exponent
  let q := scaled / unit
  let r := scaled % unit
  ofParts negative (if unit < 2 * r ∨ (2 * r = unit ∧ q % 2 = 1) then q + 1 else q) exponent

def ofInt (n : Int) : Double := roundQuotient (n < 0) n.natAbs 1

def ofScientific (negative : Bool) (digits : Nat) (exponent : Int) : Double :=
  if digits = 0 then zero negative
  -- Far from all finite numbers no power is worked out.
  else if 400 < exponent then .infinite negative
  else if exponent < -(401 + digits.log2 : Int) then zero negative
  else if 0 ≤ exponent then roundQuotient negative (digits * tenTo exponent.toNat) 1
  else roundQuotient negative digits (tenTo (-exponent).toNat)

def add : Double → Double → Double
  | .nan, _ | _, .nan => .nan
  | .infinite a, .infinite b => if a = b then .infinite a else .nan
  | .infinite a, .finite _ | .finite _, .infinite a => .infinite a
  | .finite x, .finite y =>
    let sum := x.signedUnits + y.signedUnits
    -- A sum of zero is negative only if both terms are.
    if sum = 0 then zero (x.negative && y.negative)
    else roundQuotient (sum < 0) sum.natAbs unitsPerOne

def mul : Double → Double → Double
  | .nan, _ | _, .nan => .nan
  | .infinite a, .infinite b => .infinite (a != b)
  | .infinite a, .finite x | .finite x, .infinite a =>
    if x.isZero then .nan else .infinite (a != x.negative)
  | .finite x, .finite y =>
    roundQuotient (x.negative != y.negative) (x.units * y.units) (unitsPerOne * unitsPerOne)

def div : Double → Double → Double
  | .nan, _ | _, .nan => .nan
  | .infinite _, .infinite _ => .nan
  | .infinite a, .finite y => .infinite (a != y.negative)
  | .finite x, .infinite b => zero (x.negative != b)
  | .finite x, .finite y =>
    if y.isZero then
      if x.isZero then .nan else .infinite (x.negative != y.negative)
    else roundQuotient (x.negative != y.negative) x.units y.units

/-- The nearest integer as a number, halves away from zero. -/
def roundToWhole : Double → Double
  | .finite x =>
    roundQuotient x.negative ((2 * x.units + unitsPerOne) / (2 * unitsPerOne)) 1
  | x => x

def neg : Double → Double
  | .nan => .nan
  | .infinite a => .infinite (!a)
  | .finite x => .finite { x with negative := !x.negative }

def whole? : Double → Option Int
  | .finite x =>
    if x.units % unitsPerOne = 0 then some (x.signedUnits / unitsPerOne) else none
  | _ => none

/-- The integer part of a finite number; zero for other numbers. -/
def integerPart : Double → Int
  | .finite x => x.signedUnits.tdiv unitsPerOne
  | _ => 0

def compareInt (n : Int) : Double → Option Ordering
  | .nan => none
  | .infinite b => some (if b then .gt else .lt)
  | .finite x => some (Ord.compare (n * unitsPerOne) x.signedUnits)

end Double

end CriteriaSearch
