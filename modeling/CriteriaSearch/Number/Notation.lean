import CriteriaSearch.Number.Shortest

namespace CriteriaSearch

structure NumberStyle where
  /-- The least decimal exponent that is written in places. -/
  leastExponent : Int
  greatestExponent : Int
  /-- A whole number in places ends in a point and a zero. -/
  wholePoint : Bool
  /-- A one-digit number before an exponent has a point and a zero. -/
  mantissaPoint : Bool
  exponentPlus : Bool
  exponentWidth : Nat
  signedZero : Bool
  tie : Tie

namespace NumberStyle

def display : NumberStyle := ⟨-4, 15, true, false, false, 1, true, .away⟩

def json : NumberStyle := ⟨-5, 15, true, false, true, 1, true, .even⟩

def plain : NumberStyle := ⟨-400, 400, false, false, false, 1, true, .away⟩

def sql : NumberStyle := ⟨-4, 14, true, true, true, 2, false, .away⟩

def exponentChars (style : NumberStyle) (e : Int) : List Char :=
  let digits := Nat.toDigits 10 e.natAbs
  let sign := if e < 0 then ['-'] else if style.exponentPlus then ['+'] else []
  sign ++ List.replicate (style.exponentWidth - digits.length) '0' ++ digits

/-- The digits of a decimal whose last digit is not zero, in places or with an exponent. -/
def digitChars (style : NumberStyle) (d : DecimalDigits) : List Char :=
  let digits := Nat.toDigits 10 d.coefficient
  if d.coefficient = 0 then
    if style.wholePoint then ['0', '.', '0'] else ['0']
  else
    let point : Int := digits.length + d.exponent
    if style.leastExponent ≤ point - 1 ∧ point - 1 ≤ style.greatestExponent then
      if point ≤ 0 then
        '0' :: '.' :: (List.replicate (-point).toNat '0' ++ digits)
      else if digits.length ≤ point.toNat then
        digits ++ List.replicate (point.toNat - digits.length) '0' ++
          (if style.wholePoint then ['.', '0'] else [])
      else
        digits.take point.toNat ++ '.' :: digits.drop point.toNat
    else
      let mantissa :=
        match digits with
        | [c] => if style.mantissaPoint then [c, '.', '0'] else [c]
        | c :: rest => c :: '.' :: rest
        | [] => []
      mantissa ++ 'e' :: style.exponentChars (point - 1)

def finiteChars (style : NumberStyle) (x : FiniteDouble) (d : DecimalDigits) : List Char :=
  if x.negative && (style.signedZero || !x.isZero) then '-' :: style.digitChars d
  else style.digitChars d

end NumberStyle

namespace Double

/-- The number in the given style, with the fewest digits that read back. -/
def chars (style : NumberStyle) : Double → List Char
  | .nan => "NaN".toList
  | .infinite negative => if negative then "-inf".toList else "inf".toList
  | .finite x => style.finiteChars x (x.shortest style.tie)

def display (x : Double) : String := String.ofList (x.chars .display)

def plain (x : Double) : String := String.ofList (x.chars .plain)

end Double

end CriteriaSearch
