import CriteriaSearch.Calendar.Layout
import CriteriaSearch.SearchError
import CriteriaSearch.Text.Part
import CriteriaSearch.Value

/-!
# Reading the values of filters

A filter gives its values as texts, and the type of the field decides how they are read. Texts are
kept as they are. A boolean is true for the word true and false for anything else. A number is read
as the first of four kinds that holds it: small integer, integer, binary floating-point number of
at most seventeen digits, exact decimal; what none of them holds is the nearest floating-point
number, if there is one. Blank characters around a number, a date or a boolean do not count.
-/

namespace CriteriaSearch

def int32? (n : Int) : Option Int32 :=
  if -2147483648 ≤ n ∧ n ≤ 2147483647 then some (Int32.ofInt n) else none

def int64? (n : Int) : Option Int64 :=
  if -9223372036854775808 ≤ n ∧ n ≤ 9223372036854775807 then some (Int64.ofInt n) else none

namespace NumberValue

def doubleDigits : Nat := 17

/-- The count of digits before the exponent, without the zeros at both ends. -/
def significantDigits (cs : List Char) : Nat :=
  let digits := (cs.takeWhile fun c => !Decimal.isExponentMark c).filter isDigit
  (((digits.dropWhile (· == '0')).reverse).dropWhile (· == '0')).length

def integer? (cs : List Char) : Option NumberValue :=
  if cs.contains '.' then none
  else (readInt? cs).bind fun n => ((int32? n).map int).or ((int64? n).map long)

def finiteDouble? (cs : List Char) : Option Double :=
  (Double.ofChars? cs).filter Double.isFinite

def decimal? (excess : Decimal.Excess) (cs : List Char) : Option Decimal :=
  if cs.any Decimal.isExponentMark then Decimal.ofScientificChars? excess cs
  else Decimal.ofChars? cs

def ofChars? (cs : List Char) : Option NumberValue :=
  (integer? cs).or <|
    -- A binary number is taken before a decimal only if no digit can get lost in it.
    let exact := (finiteDouble? cs).filter fun _ => significantDigits cs ≤ doubleDigits
    (exact.map double).or (((decimal? .refused cs).map decimal).or ((finiteDouble? cs).map double))

def ofText (s : String) : Except SearchError NumberValue :=
  match ofChars? (Text.trimChars s.toList) with
  | some n => .ok n
  | none => .error (.invalidNumber s)

end NumberValue

namespace DateTime

/-- The date-time that a text writes; a date alone is its midnight. -/
def ofText (s : String) : Except SearchError DateTime :=
  match ofText? s with
  | some t => .ok t
  | none => .error (.invalidDate s)

/-- The text is ten characters that look like a date: digits, and hyphens after the fourth and the
sixth of them. -/
def looksLikeDate (s : String) : Bool :=
  match s.toList with
  | [a, b, c, d, '-', e, f, '-', g, h] => [a, b, c, d, e, f, g, h].all isDigit
  | _ => false

/-- The first and the last moment of the day that a text names, if it names a date alone. -/
def wholeDay? (s : String) : Option (DateTime × DateTime) :=
  if looksLikeDate s then
    (Layout.isoDate.date? s.toList).map fun date => (midnight date, endOfDay date)
  else none

end DateTime

/-- The boolean that a text stands for: true for the word true in any case, else false. -/
def readBoolean (s : String) : Bool :=
  (Text.trimChars s.toList).map Char.toLower == ['t', 'r', 'u', 'e']

def FieldValue.ofText (s : String) : FieldType → Except SearchError FieldValue
  | .string => .ok (.text s)
  | .boolean => .ok (.boolean (readBoolean s))
  | .date => (DateTime.ofText s).map .dateTime
  | .number => (NumberValue.ofText s).map .number

end CriteriaSearch
