import CriteriaSearch.Number.Notation
import CriteriaSearch.Number.Pair
import CriteriaSearch.Number.Reader

/-!
# Numbers in texts

How a table reads the number at the start of a text, and how it writes a floating-point number with
fifteen digits. Both ways go through pairs of binary numbers, nineteen digits at a time, so that the
result may miss the nearest one in its last place.
-/

namespace CriteriaSearch.Sql

inductive NumeralForm where
  /-- There is no number, or an integer with more text after it. -/
  | other
  /-- A number with a point or an exponent and more text after it. -/
  | realStart
  | integer
  | real
  deriving DecidableEq, Repr

structure Numeral where
  form : NumeralForm
  value : Double
  deriving DecidableEq, Repr

def isNumberSpace (c : Char) : Bool := c == ' ' || (9 ≤ c.toNat && c.toNat ≤ 13)

/-- The digits of a number as far as they count, and the power of ten of the last of them. -/
structure ScannedDigits where
  digits : Nat
  exponent : Int

namespace ScannedDigits

def enough : Nat := 1844674407370955160

/-- Takes the digits before a point; those that no longer count raise the exponent. -/
def takeWhole (s : ScannedDigits) (cs : List Char) : ScannedDigits :=
  cs.foldl (fun s c =>
    if s.digits < enough then { s with digits := s.digits * 10 + (c.toNat - '0'.toNat) }
    else { s with exponent := s.exponent + 1 }) s

def takeFraction (s : ScannedDigits) (cs : List Char) : ScannedDigits :=
  cs.foldl (fun s c =>
    if s.digits < enough then ⟨s.digits * 10 + (c.toNat - '0'.toNat), s.exponent - 1⟩ else s) s

/-- Moves powers of ten into the digits while they fit, up to `fuel` of them. -/
def raise : Nat → ScannedDigits → ScannedDigits
  | 0, s => s
  | fuel + 1, s =>
    if 0 < s.exponent ∧ s.digits < 1844674407370954956 then
      raise fuel ⟨s.digits * 10, s.exponent - 1⟩
    else s

/-- Drops zeros at the end of the digits while the exponent is negative, up to `fuel` of them. -/
def trim : Nat → ScannedDigits → ScannedDigits
  | 0, s => s
  | fuel + 1, s =>
    if s.exponent < 0 ∧ s.digits % 10 = 0 then trim fuel ⟨s.digits / 10, s.exponent + 1⟩ else s

def pair (s : ScannedDigits) : DoublePair :=
  let head := Double.ofInt s.digits
  let rest := (s.digits : Int) - head.integerPart
  ⟨head, if head.integerPart < 18446744073709551616 then .ofInt rest else .zero false⟩

def value (s : ScannedDigits) : Double :=
  if s.digits = 0 then .zero false
  else
    let s := trim 20 (raise 20 s)
    let scaled := if 0 ≤ s.exponent then s.pair.scale s.exponent.toNat PowerStep.up
      else s.pair.scale (-s.exponent).toNat PowerStep.down
    match scaled.sum with
    | .nan => .infinite false
    | x => x

end ScannedDigits

def boundedExponent (cs : List Char) : Nat :=
  cs.foldl (fun e c => if e < 10000 then e * 10 + (c.toNat - '0'.toNat) else 10000) 0

namespace Numeral

def ofUnsigned (negative : Bool) (cs : List Char) : Numeral :=
  let whole := cs.takeWhile isDigit
  let rest := cs.dropWhile isDigit
  let (point, fraction, rest) := match rest with
    | '.' :: more => (true, more.takeWhile isDigit, more.dropWhile isDigit)
    | rest => (false, [], rest)
  let (mark, exponent, hasExponent, rest) := match rest with
    | c :: more =>
      if c = 'e' ∨ c = 'E' then
        let (negative, more) := splitSign more
        let n : Int := boundedExponent (more.takeWhile isDigit)
        (true, if negative then -n else n, more.takeWhile isDigit != [], more.dropWhile isDigit)
      else (false, 0, true, c :: more)
    | [] => (false, 0, true, [])
  let scanned := (ScannedDigits.mk 0 0).takeWhole whole |>.takeFraction fraction
  let magnitude := ScannedDigits.value { scanned with exponent := scanned.exponent + exponent }
  let ended := rest.all isNumberSpace
  let form : NumeralForm :=
    if whole = [] ∧ fraction = [] then .other
    else if ended && hasExponent then if point || mark then .real else .integer
    else if point || (mark && hasExponent) then .realStart
    else .other
  ⟨form, if negative then magnitude.neg else magnitude⟩

def ofChars (cs : List Char) : Numeral :=
  let (negative, rest) := splitSign (cs.dropWhile isNumberSpace)
  ofUnsigned negative rest

/-- The integer of 64 bits at the start of a text, cut off at its bounds, and whether it is cut off;
zero if there is none. -/
def integerPrefix (cs : List Char) : Int × Bool :=
  let (negative, rest) := splitSign (cs.dropWhile isNumberSpace)
  let n : Int := digitsValue 0 (rest.takeWhile isDigit)
  let n := if negative then -n else n
  if n < -9223372036854775808 then (-9223372036854775808, true)
  else if 9223372036854775807 < n then (9223372036854775807, true)
  else (n, false)

end Numeral

def nineteenDigits (exponent : Int) : Double := .ofScientific false 9223372036854774784 exponent

/-- Takes a step while the pair is too large, up to `fuel` times, and counts the powers of ten. -/
def reduceBy (s : PowerStep) (limit : Double) : Nat → DoublePair → Int → DoublePair × Int
  | 0, x, e => (x, e)
  | fuel + 1, x, e =>
    if limit.less x.head then reduceBy s limit fuel (s.apply x) (e + s.exponent) else (x, e)

def enlargeBy (s : PowerStep) (limit : Double) : Nat → DoublePair → Int → DoublePair × Int
  | 0, x, e => (x, e)
  | fuel + 1, x, e =>
    if x.head.less limit then enlargeBy s limit fuel (s.apply x) (e - s.exponent) else (x, e)

/-- The digits of a positive number, eighteen or nineteen of them. -/
def longDigits (x : Double) : DecimalDigits :=
  let start : DoublePair × Int := (⟨x, .zero false⟩, 0)
  let (scaled, e) :=
    if (nineteenDigits 0).less x then
      (PowerStep.down.zip [nineteenDigits 100, nineteenDigits 10, nineteenDigits 0]).foldl
        (fun (y, e) (s, limit) => reduceBy s limit 30 y e) start
    else
      (PowerStep.up.zip [nineteenDigits (-101), nineteenDigits (-11), nineteenDigits (-1)]).foldl
        (fun (y, e) (s, limit) => enlargeBy s limit 30 y e) start
  ⟨(scaled.head.integerPart + scaled.tail.integerPart).toNat, e⟩

def roundedDigits (n : Nat) (x : Double) : DecimalDigits :=
  let d := longDigits x
  let excess := (Nat.toDigits 10 d.coefficient).length - n
  let unit := tenTo excess
  DecimalDigits.dropZeros (n + 1) ⟨(2 * d.coefficient + unit) / (2 * unit), d.exponent + excess⟩

/-- A number that is not negative in units of `n` places after the point, rounded. -/
def inPlaces (n : Nat) (x : Double) : Nat :=
  if x.sameValue (.zero false) then 0
  else
    let d := longDigits x
    let e := d.exponent + n
    if 0 ≤ e then d.coefficient * tenTo e.toNat
    else
      let unit := tenTo (-e).toNat
      (2 * d.coefficient + unit) / (2 * unit)

/-- The text that a number becomes in a text column: fifteen digits. -/
def realText : Double → String
  | .nan => "NaN"
  | .infinite negative => if negative then "-Inf" else "Inf"
  | .finite x =>
    let magnitude := Double.finite { x with negative := false }
    let digits := if x.isZero then ⟨0, 0⟩ else roundedDigits 15 magnitude
    String.ofList (NumberStyle.sql.finiteChars x digits)

end CriteriaSearch.Sql
