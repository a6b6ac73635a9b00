import CriteriaSearch.Sql.Numeral
import CriteriaSearch.Text.Part
import CriteriaSearch.Text.Utf8
import CriteriaSearch.Truth
import CriteriaSearch.Value

namespace CriteriaSearch.Sql

inductive Cell where
  | null
  | integer (value : Int)
  | real (value : Double)
  | text (value : String)
  | blob (bytes : List UInt8)
  deriving DecidableEq, Repr

inductive Affinity where
  | text
  | numeric
  | integer
  | real
  | blob
  deriving DecidableEq, Repr

inductive Collation where
  | binary
  | noCase
  | trimEnd
  deriving DecidableEq, Repr

def foldName (s : String) : String := String.ofList (s.toList.map Char.toLower)

/-- Names of tables and columns are the same in any case of ASCII letters. -/
def sameName (a b : String) : Bool := a == b || foldName a == foldName b

namespace Affinity

def ofDeclaration (declared : String) : Affinity :=
  let type := declared.toList.map Char.toUpper
  let names (part : String) : Bool := Text.occursIn part.toList type
  if names "INT" then .integer
  else if names "CHAR" || names "CLOB" || names "TEXT" then .text
  else if names "BLOB" || type.isEmpty then .blob
  else if names "REAL" || names "FLOA" || names "DOUB" then .real
  else .numeric

def isNumeric : Affinity → Bool
  | .numeric | .integer | .real => true
  | .text | .blob => false

/-- The affinity of a comparison between two sides, of which each may have one: numbers if a side
prefers them, and nothing if both have one and neither does. -/
def common : Option Affinity → Option Affinity → Affinity
  | none, none => .blob
  | some a, none | none, some a => a
  | some a, some b => if a.isNumeric || b.isNumeric then .numeric else .blob

end Affinity

namespace Collation

def ofName? (name : String) : Option Collation :=
  match foldName name with
  | "binary" => some .binary
  | "nocase" => some .noCase
  | "rtrim" => some .trimEnd
  | _ => none

def fold (c : Collation) (s : String) : String :=
  match c with
  | .binary => s
  | .noCase => foldName s
  | .trimEnd => String.ofList (s.toList.reverse.dropWhile (· == ' ')).reverse

end Collation

namespace Cell

def fits (n : Int) : Bool := -9223372036854775808 ≤ n && n ≤ 9223372036854775807

/-- The number that a text writes, if it writes nothing else: an integer of 64 bits if it has
neither a point nor an exponent, and a binary floating-point number otherwise. -/
def numberOfText? (s : String) : Option Cell :=
  let numeral := Numeral.ofChars s.toList
  match numeral.form with
  | .integer =>
    match Numeral.integerPrefix s.toList with
    | (n, false) => some (.integer n)
    | (_, true) => some (.real numeral.value)
  | .real => some (.real numeral.value)
  | .realStart | .other => none

def wholeOfReal (x : Double) : Cell :=
  match x.whole? with
  | some n => if -9223372036854775808 < n ∧ n < 9223372036854775807 then .integer n else .real x
  | none => .real x

def asText : Cell → Cell
  | .integer n => .text (toString n)
  | .real x => .text (realText x)
  | c => c

def asNumber : Cell → Cell
  | .text s => (numberOfText? s).getD (.text s)
  | c => c

def asWhole : Cell → Cell
  | .real x => wholeOfReal x
  | c => c

def unsignedZero (x : Double) : Double :=
  if x.sameValue (.zero false) then .zero false else x

def store (a : Affinity) (c : Cell) : Cell :=
  match a with
  | .blob => c
  | .text => c.asText
  | .numeric | .integer => c.asNumber.asWhole
  | .real =>
    match c.asNumber with
    | .integer n => .real (.ofInt n)
    | .real x => .real (unsignedZero x)
    | c => c

def compareNumbers : Cell → Cell → Option Ordering
  | .integer a, .integer b => some (Ord.compare a b)
  | .integer a, .real b => Double.compareInt a b
  | .real a, .integer b => (Double.compareInt b a).map Ordering.swap
  | .real a, .real b => a.compare b
  | _, _ => none

def compareBytes : List UInt8 → List UInt8 → Ordering
  | [], [] => .eq
  | [], _ :: _ => .lt
  | _ :: _, [] => .gt
  | a :: as, b :: bs => (Ord.compare a.toNat b.toNat).then (compareBytes as bs)

def rank : Cell → Nat
  | .null => 0
  | .integer _ | .real _ => 1
  | .text _ => 2
  | .blob _ => 3

def orderBy (collation : Collation) (a b : Cell) : Ordering :=
  match a, b with
  | .text a, .text b => compareText (collation.fold a) (collation.fold b)
  | .blob a, .blob b => compareBytes a b
  | a, b => (compareNumbers a b).getD (Ord.compare a.rank b.rank)

def order (a b : Cell) : Ordering := a.orderBy .binary b

def isNull : Cell → Bool
  | .null => true
  | _ => false

/-- Two cells as a comparison sees them. Numbers are preferred to texts that write them, and a
comparison of texts turns a number into a text if the other side is one. -/
def matched (a : Affinity) (x y : Cell) : Cell × Cell :=
  match a with
  | .blob => (x, y)
  | .numeric | .integer | .real => (x.asNumber, y.asNumber)
  | .text =>
    match x, y with
    | .text _, _ => (x, y.asText)
    | _, .text _ => (x.asText, y)
    | _, _ => (x, y)

def compareIn (a : Affinity) (collation : Collation) (x y : Cell) : Option Ordering :=
  if x.isNull || y.isNull then none
  else
    let (x, y) := matched a x y
    some (x.orderBy collation y)

def chars : Cell → List Char
  | .text s => s.toList
  | .blob bytes => (Text.decode bytes).toList
  | .integer n => (toString n).toList
  | .real x => (realText x).toList
  | .null => []

def toReal : Cell → Double
  | .integer n => .ofInt n
  | .real x => x
  | .null => .zero false
  | c => (Numeral.ofChars c.chars).value

def clamp (n : Int) : Int :=
  if n < -9223372036854775808 then -9223372036854775808
  else if 9223372036854775807 < n then 9223372036854775807
  else n

/-- The cell as an integer: without its fraction, and for a text the integer at its start. -/
def toInt : Cell → Int
  | .integer n => n
  | .real (.infinite negative) =>
    if negative then -9223372036854775808 else 9223372036854775807
  | .real x => clamp x.integerPart
  | .null => 0
  | c => (Numeral.integerPrefix c.chars).1

/-- The truth of a cell: numbers other than zero hold. -/
def truth : Cell → Truth
  | .null => .unknown
  | .integer n => .ofBool (n != 0)
  | c => .ofBool (!c.toReal.sameValue (.zero false))

def ofTruth : Truth → Cell
  | .yes => .integer 1
  | .no => .integer 0
  | .unknown => .null

def ofBool (b : Bool) : Cell := ofTruth (.ofBool b)

/-- The cell of a number; the undefined number is missing. -/
def ofDouble : Double → Cell
  | .nan => .null
  | x => .real x

end Cell

end CriteriaSearch.Sql
