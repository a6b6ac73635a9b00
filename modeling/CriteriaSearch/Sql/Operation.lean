import CriteriaSearch.Sql.Expression
import CriteriaSearch.Sql.Like
import CriteriaSearch.Text.Upper

namespace CriteriaSearch.Sql

namespace Sign

def holds (sign : Sign) (o : Ordering) : Bool :=
  match sign with
  | .equal => o == .eq
  | .notEqual => o != .eq
  | .less => o == .lt
  | .lessOrEqual => o != .gt
  | .greater => o == .gt
  | .greaterOrEqual => o != .lt

end Sign

namespace Cell

def compareBy (sign : Sign) (a : Affinity) (collation : Collation) (x y : Cell) : Truth :=
  match compareIn a collation x y with
  | some o => .ofBool (sign.holds o)
  | none => .unknown

def isSame (a : Affinity) (collation : Collation) (x y : Cell) : Bool :=
  if x.isNull || y.isNull then x.isNull && y.isNull
  else compareIn a collation x y == some .eq

/-- A cell equals one of some others. Nothing is among none, not even a missing value. -/
def among (a : Affinity) (collation : Collation) (x : Cell) (items : List Cell) : Truth :=
  (items.map fun y => compareBy .equal a collation x y).foldr Truth.or .no

/-- The number that a cell counts as in a calculation: a number is itself, and a text is the number
at its start. -/
def numeral : Cell → Cell
  | .text s => ofChars s.toList
  | .blob bytes => ofChars (Text.decode bytes).toList
  | c => c
where
  ofChars (cs : List Char) : Cell :=
    let numeral := Numeral.ofChars cs
    match numeral.form, Numeral.integerPrefix cs with
    | .integer, (n, false) | .other, (n, false) => .integer n
    | _, _ => .real numeral.value

/-- A calculation with integers, unless its result does not fit. -/
def ofIntegers? (operation : Arithmetic) (a b : Int) : Option Cell :=
  let fitted (n : Int) : Option Cell := if fits n then some (.integer n) else none
  match operation with
  | .add => fitted (a + b)
  | .subtract => fitted (a - b)
  | .multiply => fitted (a * b)
  | .divide => if b = 0 then some .null else fitted (a.tdiv b)
  | .remainder => if b = 0 then some .null else fitted (a.tmod b)
  | .both | .either | .shiftLeft | .shiftRight => none

def ofReals (operation : Arithmetic) (a b : Cell) : Cell :=
  let x := a.toReal
  let y := b.toReal
  match operation with
  | .add => ofDouble (x.add y)
  | .subtract => ofDouble (x.sub y)
  | .multiply => ofDouble (x.mul y)
  | .divide => if y.sameValue (.zero false) then .null else ofDouble (x.div y)
  | .remainder => if b.toInt = 0 then .null else .real (.ofInt (a.toInt.tmod b.toInt))
  | .both | .either | .shiftLeft | .shiftRight => .null

/-- An integer shifted to the left, or to the right by less than nothing. -/
def shiftLeft (a n : Int) : Int :=
  if 64 ≤ n then 0
  else if 0 ≤ n then (a * (twoTo n.toNat : Int)).bmod 18446744073709551616
  else if n ≤ -64 then (if a < 0 then -1 else 0)
  else a.fdiv (twoTo (-n).toNat)

def ofBits? (operation : Arithmetic) (a b : Int) : Option Int :=
  match operation with
  | .both => some (Int64.ofInt a &&& Int64.ofInt b).toInt
  | .either => some (Int64.ofInt a ||| Int64.ofInt b).toInt
  | .shiftLeft => some (shiftLeft a b)
  | .shiftRight => some (shiftLeft a (-b))
  | _ => none

def reckon (operation : Arithmetic) (a b : Cell) : Cell :=
  if a.isNull || b.isNull then .null
  else
    match ofBits? operation a.toInt b.toInt with
    | some n => .integer n
    | none =>
      match a.numeral, b.numeral with
      | .integer x, .integer y => (ofIntegers? operation x y).getD (ofReals operation a b)
      | _, _ => ofReals operation a b

def complement : Cell → Cell
  | .null => .null
  | c => .integer (-c.toInt - 1)

def concat (a b : Cell) : Cell :=
  if a.isNull || b.isNull then .null else .text (String.ofList (a.chars ++ b.chars))

def longest : Nat := 1000000000

def visible (c : Cell) : List Char := c.chars.takeWhile fun c => c.toNat != 0

def bytes : Cell → List UInt8
  | .blob bytes => bytes
  | c => Text.encode (String.ofList c.chars)

/-- A cell as the number it is or starts with; a whole number is an integer. -/
def castNumber (c : Cell) : Cell :=
  match c with
  | .text _ | .blob _ =>
    let cs := c.chars
    let numeral := Numeral.ofChars cs
    match numeral.form, Numeral.integerPrefix cs with
    | .integer, (n, false) | .other, (n, false) => .integer n
    | _, _ =>
      match numeral.value.whole? with
      | some n =>
        if -2251799813685248 ≤ n ∧ n < 2251799813685248 then .integer n else .real numeral.value
      | none => .real numeral.value
  | c => c

def castTo (a : Affinity) (c : Cell) : Cell :=
  if c.isNull then .null
  else
    match a with
    | .text => .text (String.ofList c.chars)
    | .blob => .blob c.bytes
    | .integer => .integer c.toInt
    | .real => .real c.toReal
    | .numeric => c.castNumber

def upper : Cell → Cell
  | .text s => .text (Text.upper s)
  | .integer n => .text (toString n)
  | .real x => .text x.plain
  | .null | .blob _ => .null

def like (text pattern escape : Cell) : Truth :=
  if text.isNull || pattern.isNull || escape.isNull then .unknown
  else .ofBool (isLike escape.chars.head? pattern.chars text.chars)

def glob (text pattern : Cell) : Truth :=
  if text.isNull || pattern.isNull then .unknown
  else .ofBool (isGlob pattern.chars text.chars)

end Cell

end CriteriaSearch.Sql
