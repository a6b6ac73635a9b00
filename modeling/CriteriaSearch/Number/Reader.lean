import CriteriaSearch.Number.Double

namespace CriteriaSearch

def digit? (c : Char) : Option Nat :=
  if '0' ≤ c ∧ c ≤ '9' then some (c.toNat - '0'.toNat) else none

def isDigit (c : Char) : Bool := '0' ≤ c && c ≤ '9'

def hexDigit? (c : Char) : Option Nat :=
  if isDigit c then some (c.toNat - '0'.toNat)
  else if 'a' ≤ c ∧ c ≤ 'f' then some (c.toNat - 'a'.toNat + 10)
  else if 'A' ≤ c ∧ c ≤ 'F' then some (c.toNat - 'A'.toNat + 10)
  else none

def isHexDigit (c : Char) : Bool := (hexDigit? c).isSome

/-- The number that digits write, continuing from `start`. -/
def digitsValue (start : Nat) (cs : List Char) : Nat :=
  cs.foldl (fun n c => n * 10 + (c.toNat - '0'.toNat)) start

def readNat? (cs : List Char) : Option Nat :=
  if cs ≠ [] ∧ cs.all isDigit = true then some (digitsValue 0 cs) else none

def splitSign : List Char → Bool × List Char
  | '-' :: rest => (true, rest)
  | '+' :: rest => (false, rest)
  | cs => (false, cs)

def readInt? (cs : List Char) : Option Int :=
  let (negative, rest) := splitSign cs
  (readNat? rest).map fun n => if negative then -(n : Int) else n

def readExponent? : List Char → Option Int
  | [] => some 0
  | c :: rest => if c = 'e' ∨ c = 'E' then readInt? rest else none

/-- Digits, at most one point among them, and an exponent: the digits as one number, the power of
ten to multiply it with, and the rest must be empty. -/
def readDecimalParts? (cs : List Char) : Option (Nat × Int) :=
  let whole := cs.takeWhile isDigit
  let afterWhole := cs.dropWhile isDigit
  let (fraction, afterFraction) :=
    match afterWhole with
    | '.' :: rest => (rest.takeWhile isDigit, rest.dropWhile isDigit)
    | rest => ([], rest)
  if whole = [] ∧ fraction = [] then none
  else (readExponent? afterFraction).map fun e =>
    (digitsValue (digitsValue 0 whole) fraction, e - fraction.length)

def wordDouble? (negative : Bool) (cs : List Char) : Option Double :=
  let word := String.ofList (cs.map Char.toLower)
  if word = "inf" ∨ word = "infinity" then some (.infinite negative)
  else if word = "nan" then some .nan
  else none

def Double.ofChars? (cs : List Char) : Option Double :=
  let (negative, rest) := splitSign cs
  match readDecimalParts? rest with
  | some (digits, exponent) => some (.ofScientific negative digits exponent)
  | none => wordDouble? negative rest

def Double.ofText? (s : String) : Option Double := Double.ofChars? s.toList

end CriteriaSearch
