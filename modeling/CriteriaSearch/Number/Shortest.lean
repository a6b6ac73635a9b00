import CriteriaSearch.Number.Double

/-!
# Decimal digits of a binary number

`shortest` gives the decimal number with the fewest digits among those that round to a given
binary number, and of these the one nearest to it; which of two equally near ones is taken is for
the caller to say.
-/

namespace CriteriaSearch

inductive Tie where
  | away
  | even
  deriving DecidableEq, Repr

/-- The decimal number `coefficient` · 10 ^ `exponent`. -/
structure DecimalDigits where
  coefficient : Nat
  exponent : Int
  deriving DecidableEq, Repr

/-- Of two neighbours `d` and `d` + 1, both allowed, the one to take for a value that lies as given
to the middle between them. -/
def Tie.choose (tie : Tie) (side : Ordering) (d : Nat) : Nat :=
  match side, tie with
  | .lt, _ => d
  | .eq, .even => if d % 2 = 0 then d else d + 1
  | _, _ => d + 1

namespace DecimalDigits

def dropZeros : Nat → DecimalDigits → DecimalDigits
  | 0, d => d
  | fuel + 1, d =>
    if d.coefficient ≠ 0 ∧ d.coefficient % 10 = 0 then
      dropZeros fuel ⟨d.coefficient / 10, d.exponent + 1⟩
    else d

end DecimalDigits

namespace FiniteDouble

def atLeastPowerOfTen (x : FiniteDouble) (k : Int) : Bool :=
  if 0 ≤ k then unitsPerOne * tenTo k.toNat ≤ x.units
  else unitsPerOne ≤ x.units * tenTo (-k).toNat

/-- The exponent `p` with 10 ^ `p` ≤ |`x`| < 10 ^ (`p` + 1), for `x` other than zero. The first
guess comes from the binary length and is at most two too small. -/
def decimalExponent (x : FiniteDouble) : Int :=
  let guess := (((x.units.log2 : Int) - 1074) * 30103).fdiv 100000 - 1
  if x.atLeastPowerOfTen (guess + 2) then guess + 2
  else if x.atLeastPowerOfTen (guess + 1) then guess + 1
  else guess

/-- Four times the magnitude in units; quarters keep the bounds of `roundingInterval` whole. -/
def quarters (x : FiniteDouble) : Nat := 4 * x.units

/-- The ends of the interval of magnitudes that round to `x`, in quarters of a unit. -/
def roundingInterval (x : FiniteDouble) : Nat × Nat :=
  let half := 2 * twoTo x.exponent
  let below := if x.significand = 4503599627370496 ∧ x.exponent ≠ 0 then twoTo x.exponent else half
  (x.quarters - below, x.quarters + half)

/-- The multiple of 10 ^ `k` nearest to |`x`| among those that round to `x`, as its factor. -/
def onGrid? (tie : Tie) (x : FiniteDouble) (k : Int) : Option Nat :=
  let scale := tenTo (-k).toNat
  let step := 4 * unitsPerOne * tenTo k.toNat
  let value := x.quarters * scale
  let (low, high) := x.roundingInterval
  let inside (d : Nat) : Bool :=
    if x.significand % 2 = 0 then low * scale ≤ d * step && d * step ≤ high * scale
    else low * scale < d * step && d * step < high * scale
  let d := value / step
  match inside d, inside (d + 1) with
  | true, true => some (tie.choose (compare (2 * value) ((2 * d + 1) * step)) d)
  | true, false => some d
  | false, true => some (d + 1)
  | false, false => none

/-- The shortest decimal that rounds to `x`, and of those the nearest. Seventeen digits are always
enough. -/
def shortest (tie : Tie) (x : FiniteDouble) : DecimalDigits :=
  if x.isZero then ⟨0, 0⟩
  else
    let p := x.decimalExponent
    let found := (List.range 17).findSome? fun (n : Nat) =>
      (x.onGrid? tie (p - n)).map fun d => DecimalDigits.mk d (p - n)
    (found.getD ⟨0, 0⟩).dropZeros 20

end FiniteDouble

end CriteriaSearch
