import CriteriaSearch.Calendar.Layout

namespace CriteriaSearch

namespace Zoned

/-- Reads exactly `width` digits that write a number of at most `most`. -/
def fixed? (width most : Nat) (cs : List Char) : Option (Nat × List Char) :=
  let run := cs.take width
  if run.length = width ∧ run.all isDigit = true ∧ digitsValue 0 run ≤ most then
    some (digitsValue 0 run, cs.drop width)
  else none

def char? (accept : Char → Bool) : List Char → Option (List Char)
  | c :: rest => if accept c then some rest else none
  | [] => none

/-- Reads the distance from universal time, in seconds. -/
def offset? : List Char → Option Int
  | ['Z'] | ['z'] => some 0
  | sign :: rest => do
    let negative ← if sign = '+' then some false
      else if sign = '-' ∨ sign = '\u2212' then some true else none
    let (hours, rest) ← fixed? 2 23 rest
    let rest ← char? (· == ':') rest
    let (minutes, rest) ← fixed? 2 59 rest
    if rest = [] then
      let seconds : Int := hours * 3600 + minutes * 60
      some (if negative then -seconds else seconds)
    else none
  | [] => none

def local? (cs : List Char) : Option (DateTime × List Char) := do
  let (year, rest) ← fixed? 4 9999 cs
  let rest ← char? (· == '-') rest
  let (month, rest) ← fixed? 2 12 rest
  let rest ← char? (· == '-') rest
  let (day, rest) ← fixed? 2 31 rest
  let rest ← char? (fun c => c == 'T' || c == 't' || c == ' ') rest
  let (hour, rest) ← fixed? 2 23 rest
  let rest ← char? (· == ':') rest
  let (minute, rest) ← fixed? 2 59 rest
  let rest ← char? (· == ':') rest
  let (second, rest) ← fixed? 2 60 rest
  let (nano, rest) ←
    match rest with
    | '.' :: rest => LayoutItem.nanos? rest
    | rest => some (0, rest)
  let t ← DateParts.dateTime?
    ⟨some year, some month, some day, some hour, some minute, some second, some nano⟩
  some (t, rest)

end Zoned

namespace DateTime

/-- The date-time in universal time that a text with a zone names. -/
def ofZoned? (cs : List Char) : Option DateTime := do
  let (t, rest) ← Zoned.local? cs
  let offset ← Zoned.offset? rest
  t.addSeconds? (-offset)

end DateTime

end CriteriaSearch
