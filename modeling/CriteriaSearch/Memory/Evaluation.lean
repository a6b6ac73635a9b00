import CriteriaSearch.Calendar.Zoned
import CriteriaSearch.Json.Basic
import CriteriaSearch.Truth
import CriteriaSearch.Predicate
import CriteriaSearch.Text.Part
import CriteriaSearch.Text.Upper
import CriteriaSearch.Value.Reader

/-!
# Evaluation of predicates on rows

The meaning of a predicate on a JSON row, in three truth values. A test of a field that is missing
or null is unknown, save for the two tests that ask for that. A stored value of another kind than
the value it is compared with has no order with it, so that no comparison of the two holds.
-/

namespace CriteriaSearch

namespace Json

def present? (row : Json) (field : String) : Option Json :=
  (row.field? field).filter fun
    | .null => false
    | _ => true

/-- The number that a stored value holds: an integer of 64 bits, or else the nearest binary
floating-point number. -/
def number? : Json → Option NumberValue
  | .integer n =>
    match int64? n with
    | some i => some (.long i)
    | none => some (.double (.ofInt n))
  | .float x => some (.double x)
  | _ => none

/-- The date-time that a stored text names; one with a zone is taken in universal time. -/
def dateTime? (s : String) : Option DateTime := (DateTime.ofZoned? s.toList).or (DateTime.ofText? s)

def asKindOf? (stored : Json) (value : FieldValue) : Option FieldValue :=
  match value with
  | .text _ => stored.text?.map .text
  | .number _ => stored.number?.map .number
  | .dateTime _ => (stored.text?.bind dateTime?).map .dateTime
  | .boolean _ => stored.boolean?.map .boolean

def compareWith (stored : Json) (value : FieldValue) : Option Ordering :=
  (stored.asKindOf? value).bind fun v => v.compare value

end Json

namespace Comparison

def holds (c : Comparison) (o : Option Ordering) : Bool :=
  match c with
  | .equal => o == some .eq
  | .notEqual => o == some .lt || o == some .gt
  | .less => o == some .lt
  | .greater => o == some .gt

end Comparison

namespace TextMode

def finds (mode : TextMode) (needle text : List Char) : Bool :=
  match mode with
  | .contains => Text.occursIn needle text
  | .startsWith => Text.startsWith needle text
  | .endsWith => Text.endsWith needle text

end TextMode

namespace Predicate

/-- A stored text holds another one, whatever the case of letters; other values hold no text. -/
def textHolds (mode : TextMode) (needle : String) (stored : Json) : Bool :=
  match stored with
  | .text s => mode.finds (Text.upperChars needle.toList) (Text.upperChars s.toList)
  | _ => false

def withinRange (lower upper : FieldValue) (stored : Json) : Bool :=
  let above := stored.compareWith lower
  let below := stored.compareWith upper
  (above == some .gt || above == some .eq) && (below == some .lt || below == some .eq)

/-- A test of the value of a field, which is unknown if there is none. -/
def testField (row : Json) (field : String) (test : Json → Bool) : Truth :=
  match row.present? field with
  | some stored => .ofBool (test stored)
  | none => .unknown

mutual

def evaluate (row : Json) : Predicate → Truth
  | .and parts => evaluateAll row parts
  | .or parts => evaluateAny row parts
  | .not part => (evaluate row part).not
  | .compare field c value =>
    testField row field fun stored => c.holds (stored.compareWith value)
  | .range field lower upper => testField row field (withinRange lower upper)
  | .oneOf field values =>
    testField row field fun stored => values.any fun v => stored.compareWith v == some .eq
  | .textMatch field mode text => testField row field (textHolds mode text)
  | .isNull field => .ofBool (row.present? field).isNone
  | .isNotNull field => .ofBool (row.present? field).isSome

def evaluateAll (row : Json) : List Predicate → Truth
  | [] => .yes
  | p :: ps => (evaluate row p).and (evaluateAll row ps)

def evaluateAny (row : Json) : List Predicate → Truth
  | [] => .no
  | p :: ps => (evaluate row p).or (evaluateAny row ps)

end

/-- The predicate holds of the row for certain. -/
def holds (p : Predicate) (row : Json) : Bool := p.evaluate row == .yes

end Predicate

end CriteriaSearch
