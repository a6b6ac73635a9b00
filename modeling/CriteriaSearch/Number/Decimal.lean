import CriteriaSearch.Number.Double
import CriteriaSearch.Number.Reader

/-!
# Scaled decimals

Exact decimal numbers of at most 96 bits and 28 fraction digits. A text with more fraction digits
than fit is rounded at the last digit that fits: up if the next digit is five or more. The further
digits do not count, but nothing else may stand among them.
-/

namespace CriteriaSearch

/-- The number ± `mantissa` / 10 ^ `scale`; the scale is the count of fraction digits shown, and the
mantissa is less than 2⁹⁶. -/
structure Decimal where
  negative : Bool
  mantissa : Nat
  scale : Nat
  mantissa_lt : mantissa < 79228162514264337593543950336
  scale_le : scale ≤ 28
  deriving DecidableEq, Repr

namespace Decimal

/-- The decimal with the given parts, if they fit. Zero has no sign. -/
def ofParts? (negative : Bool) (mantissa scale : Nat) : Option Decimal :=
  if h : mantissa < 79228162514264337593543950336 ∧ scale ≤ 28 then
    some ⟨negative && mantissa != 0, mantissa, scale, h.1, h.2⟩
  else none

def signedMantissa (d : Decimal) : Int := if d.negative then -(d.mantissa : Int) else d.mantissa

def compare (a b : Decimal) : Ordering :=
  Ord.compare (a.signedMantissa * tenTo b.scale) (b.signedMantissa * tenTo a.scale)

def chars (d : Decimal) : List Char :=
  let digits := Nat.toDigits 10 d.mantissa
  let padded := List.replicate (d.scale + 1 - digits.length) '0' ++ digits
  let whole := padded.take (padded.length - d.scale)
  let fraction := padded.drop (padded.length - d.scale)
  (if d.negative then ['-'] else []) ++ whole ++
    (if d.scale = 0 then [] else '.' :: fraction)

def display (d : Decimal) : String := String.ofList d.chars

/-- The decimal left when reading stops before a further digit: one more in the last place if that
digit is five or more, and one place less if the mantissa then no longer fits. -/
def roundAt? (negative : Bool) (mantissa scale digit : Nat) : Option Decimal :=
  if digit < 5 then ofParts? negative mantissa scale
  else if mantissa + 1 < 79228162514264337593543950336 then ofParts? negative (mantissa + 1) scale
  else if scale = 0 then none
  else ofParts? negative ((mantissa + 5) / 10) (scale - 1)

/-- The decimal left when reading stops before the rest of a text, which may hold only digits and
separators; its first digit decides the rounding. -/
def roundRest? (negative : Bool) (mantissa scale : Nat) (rest : List Char) : Option Decimal :=
  if rest.all fun c => isDigit c || c == '_' then
    roundAt? negative mantissa scale ((rest.filterMap digit?).headD 0)
  else none

/-- Reads digits, separators and one point from a mantissa read so far. `started` tells whether a
digit was read and separators are allowed. -/
def readFrom? (negative afterPoint started : Bool) (mantissa scale : Nat) :
    List Char → Option Decimal
  | [] => if started then ofParts? negative mantissa scale else none
  | c :: rest =>
    -- There is no place for a further digit, which decides the rounding.
    if afterPoint && scale ≥ 28 && started then
      roundRest? negative mantissa scale (c :: rest)
    else if c = '.' then
      if afterPoint then none else readFrom? negative true started mantissa scale rest
    else if c = '_' then
      if started then readFrom? negative afterPoint true mantissa scale rest else none
    else
      match digit? c with
      | none => none
      | some d =>
        if mantissa * 10 + d < 79228162514264337593543950336 then
          readFrom? negative afterPoint true (mantissa * 10 + d)
            (if afterPoint then scale + 1 else scale) rest
        -- The mantissa is full: digits after the point are rounded off, and others do not fit.
        else if afterPoint then roundRest? negative mantissa scale (c :: rest)
        else none

def ofChars? (cs : List Char) : Option Decimal :=
  let (negative, rest) := splitSign cs
  readFrom? negative false false 0 0 rest

/-- The decimal with its point moved `e` places: right where the scale allows it, else by a
product that must be a whole number of at most 96 bits. -/
def scaleUp? (d : Decimal) (e : Nat) : Option Decimal :=
  if e ≤ d.scale then ofParts? d.negative d.mantissa (d.scale - e)
  else if e ≤ 28 then ofParts? d.negative (d.mantissa * tenTo (e - d.scale)) 0
  else none

/-- What happens to the digits of a number that lie beyond the 28th place. -/
inductive Excess where
  | refused
  /-- They are rounded off, halves away from zero. A number that rounds to zero keeps its sign. -/
  | rounded
  deriving DecidableEq, Repr

def roundPlaces? (d : Decimal) (places : Nat) : Option Decimal :=
  let unit := tenTo (places - 28)
  (ofParts? false ((2 * d.mantissa + unit) / (2 * unit)) 28).map fun rounded =>
    { rounded with negative := d.negative }

def scaleDown? (excess : Excess) (d : Decimal) (e : Nat) : Option Decimal :=
  if 28 < e then none
  else if d.scale + e ≤ 28 then ofParts? d.negative d.mantissa (d.scale + e)
  else
    match excess with
    | .refused => none
    | .rounded => d.roundPlaces? (d.scale + e)

def skipPlus : List Char → List Char
  | '+' :: rest => rest
  | cs => cs

def isExponentMark (c : Char) : Bool := c == 'e' || c == 'E'

def ofScientificChars? (excess : Excess) (cs : List Char) : Option Decimal :=
  match cs.dropWhile (fun c => !isExponentMark c) with
  | [] => none
  | _ :: exponent =>
    (ofChars? (cs.takeWhile fun c => !isExponentMark c)).bind fun base =>
      match exponent with
      | '-' :: digits => (readNat? (skipPlus digits)).bind (base.scaleDown? excess)
      | digits => (readNat? (skipPlus digits)).bind base.scaleUp?

def ofInt? (n : Int) : Option Decimal := ofParts? (n < 0) n.natAbs 0

/-- Ten to the power `n` by repeated squaring: `result` is multiplied with `base` for each bit of
`n` that is set, from the lowest on. -/
def powerOfTen (fuel n : Nat) (base result : Double) : Double :=
  match fuel with
  | 0 => result
  | fuel + 1 =>
    if n = 0 then result
    else powerOfTen fuel (n / 2) (base.mul base) (if n % 2 = 1 then result.mul base else result)

/-- The binary number computed for a decimal: the whole part and the fraction are rounded on their
own, and their sum is rounded again to the decimal's own count of fraction digits. -/
def toDouble (d : Decimal) : Double :=
  let unsigned : Double :=
    if d.scale = 0 then .ofInt d.mantissa
    else
      let whole := d.mantissa / tenTo d.scale
      let rest := d.mantissa % tenTo d.scale
      if rest = 0 then .ofInt whole
      else
        let value := (Double.ofInt whole).add ((Double.ofInt rest).div (.ofInt (tenTo d.scale)))
        let power := powerOfTen 6 d.scale (.ofInt 10) (.ofInt 1)
        ((value.mul power).roundToWhole).div power
  if d.negative then unsigned.neg else unsigned

end Decimal

end CriteriaSearch
