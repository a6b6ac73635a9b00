import CriteriaSearch.Calendar.DateTime
import CriteriaSearch.Field
import CriteriaSearch.Number.Decimal
import CriteriaSearch.Number.Notation

/-!
# Values of filters

A filter compares a field with texts, numbers, date-times and booleans. A number remembers which of
four kinds it was read as. Numbers of any two kinds are compared by value: exactly if neither is a
binary floating-point number, and as such numbers otherwise.
-/

namespace CriteriaSearch

inductive NumberValue where
  | int (value : Int32)
  | long (value : Int64)
  | double (value : Double)
  | decimal (value : Decimal)
  deriving DecidableEq, Repr

inductive FieldValue where
  | text (value : String)
  | number (value : NumberValue)
  | dateTime (value : DateTime)
  | boolean (value : Bool)
  deriving DecidableEq, Repr

def compareText (a b : String) : Ordering :=
  if a < b then .lt else if a = b then .eq else .gt

def compareBool (a b : Bool) : Ordering :=
  match a, b with
  | false, true => .lt
  | true, false => .gt
  | _, _ => .eq

namespace NumberValue

def toDouble : NumberValue → Double
  | .int n => .ofInt n.toInt
  | .long n => .ofInt n.toInt
  | .double x => x
  | .decimal d => d.toDouble

def toInt? : NumberValue → Option Int
  | .int n => some n.toInt
  | .long n => some n.toInt
  | .double _ | .decimal _ => none

def toDecimal? : NumberValue → Option Decimal
  | .int n => Decimal.ofInt? n.toInt
  | .long n => Decimal.ofInt? n.toInt
  | .decimal d => some d
  | .double _ => none

/-- The order of two numbers, of which both are rounded first if one is a binary floating-point
number. -/
def compare (a b : NumberValue) : Option Ordering :=
  match a.toDecimal?, b.toDecimal? with
  | some x, some y => some (x.compare y)
  | _, _ => a.toDouble.compare b.toDouble

def sameAs : NumberValue → NumberValue → Bool
  | .int a, .int b => a == b
  | .long a, .long b => a == b
  | .double a, .double b => a.sameValue b
  | .decimal a, .decimal b => a.compare b == .eq
  | _, _ => false

/-- The text of a number; a binary floating-point number always shows a fraction or an exponent. -/
def display : NumberValue → String
  | .int n => toString n.toInt
  | .long n => toString n.toInt
  | .double x => x.display
  | .decimal d => d.display

end NumberValue

namespace FieldValue

def fieldType : FieldValue → FieldType
  | .text _ => .string
  | .number _ => .number
  | .dateTime _ => .date
  | .boolean _ => .boolean

def text? : FieldValue → Option String
  | .text s => some s
  | _ => none

/-- The order of two values of one type; values of different types have none. -/
def compare : FieldValue → FieldValue → Option Ordering
  | .text a, .text b => some (compareText a b)
  | .number a, .number b => a.compare b
  | .dateTime a, .dateTime b => some (a.compare b)
  | .boolean a, .boolean b => some (compareBool a b)
  | _, _ => none

def sameAs : FieldValue → FieldValue → Bool
  | .text a, .text b => a == b
  | .number a, .number b => a.sameAs b
  | .dateTime a, .dateTime b => a == b
  | .boolean a, .boolean b => a == b
  | _, _ => false

def display : FieldValue → String
  | .text s => s
  | .number n => n.display
  | .dateTime t => t.display
  | .boolean b => if b then "true" else "false"

end FieldValue

end CriteriaSearch
