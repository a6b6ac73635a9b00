import CriteriaSearch.Number.Double

/-!
# Pairs of binary numbers

A pair stands for the sum of its parts, of which the second is small beside the first and keeps the
bits that the first cannot hold. A product of pairs is worked out by cutting each factor into two
halves, whose products are exact.
-/

namespace CriteriaSearch

namespace Double

def sub (x y : Double) : Double := x.add y.neg

/-- The number with the last 26 bits of its significand cleared. -/
def upperHalf : Double → Double
  | .finite x => ofParts x.negative (x.significand / 67108864 * 67108864) x.exponent
  | x => x

def less (x y : Double) : Bool := x.compare y == some .lt

end Double

structure DoublePair where
  head : Double
  tail : Double
  deriving DecidableEq, Repr

namespace DoublePair

/-- The product with `y` + `z`, where `z` is small beside `y`. -/
def mul (x : DoublePair) (y z : Double) : DoublePair :=
  let upperX := x.head.upperHalf
  let lowerX := x.head.sub upperX
  let upperY := y.upperHalf
  let lowerY := y.sub upperY
  let p := upperX.mul upperY
  let q := (upperX.mul lowerY).add (lowerX.mul upperY)
  let c := p.add q
  let error := ((p.sub c).add q).add (lowerX.mul lowerY)
  let rest := ((x.head.mul z).add (x.tail.mul y)).add error
  let head := c.add rest
  ⟨head, (c.sub head).add rest⟩

def sum (x : DoublePair) : Double := x.head.add x.tail

end DoublePair

/-- A step of ten, given by the exponent of its power and by that power as a pair. -/
structure PowerStep where
  exponent : Nat
  value : Double
  excess : Double

namespace PowerStep

def up : List PowerStep := [
  ⟨100, .ofScientific false 1 100, .ofScientific true 15902891109759918046 64⟩,
  ⟨10, .ofScientific false 1 10, .zero false⟩,
  ⟨1, .ofScientific false 1 1, .zero false⟩]

def down : List PowerStep := [
  ⟨100, .ofScientific false 1 (-100), .ofScientific true 199918998026028836196 (-137)⟩,
  ⟨10, .ofScientific false 1 (-10), .ofScientific true 36432197315497741579 (-46)⟩,
  ⟨1, .ofScientific false 1 (-1), .ofScientific true 55511151231257827021 (-37)⟩]

def apply (s : PowerStep) (x : DoublePair) : DoublePair := x.mul s.value s.excess

end PowerStep

/-- Takes the steps, each as often as it fits into the `n` powers of ten that are left. -/
def DoublePair.scale (x : DoublePair) (n : Nat) : List PowerStep → DoublePair
  | [] => x
  | s :: ss => scale (Nat.repeat s.apply (n / s.exponent) x) (n % s.exponent) ss

end CriteriaSearch
