import CriteriaSearch.Json.Basic
import CriteriaSearch.Number.Reader

/-!
# Reading JSON texts

A strict reader: no comments, no trailing commas, no control characters in texts, no leading zeros,
and nothing but white space after the value. A number with a point or an exponent, a negative zero,
and an integer of more than 64 bits are read as floats. A text may hold an escape for half of a
pair as long as nobody asks for the text: it is read as a value that fits no field of any record.
-/

namespace CriteriaSearch.Json

def isSpace (c : Char) : Bool := c == ' ' || c == '\n' || c == '\t' || c == '\r'

def skipSpace (cs : List Char) : List Char := cs.dropWhile isSpace

def hex4? : List Char → Option (Nat × List Char)
  | a :: b :: c :: d :: rest => do
    let a ← hexDigit? a
    let b ← hexDigit? b
    let c ← hexDigit? c
    let d ← hexDigit? d
    some (((a * 16 + b) * 16 + c) * 16 + d, rest)
  | _ => none

/-- The value of a text that is not a sequence of characters, and of an object with such a name. -/
def unreadable : Json := .float .nan

/-- The character of an escape with hexadecimal digits, or nothing for half of a pair that stands
alone; characters beyond 16 bits take two escapes. -/
def unicodeEscape? (cs : List Char) : Option (Option Char × List Char) := do
  let (first, rest) ← hex4? cs
  if first < 0xD800 ∨ 0xDFFF < first then some (some (Char.ofNat first), rest)
  -- The second half of a pair without the first.
  else if 0xDBFF < first then some (none, rest)
  else
    match rest with
    | '\\' :: 'u' :: afterMark =>
      let (second, afterPair) ← hex4? afterMark
      if 0xDC00 ≤ second ∧ second ≤ 0xDFFF then
        some (some (Char.ofNat (0x10000 + (first - 0xD800) * 1024 + (second - 0xDC00))), afterPair)
      else some (none, rest)
    | _ => some (none, rest)

def letterEscape? (c : Char) : Option Char :=
  match c with
  | '"' => some '"'
  | '\\' => some '\\'
  | '/' => some '/'
  | 'b' => some '\x08'
  | 'f' => some '\x0c'
  | 'n' => some '\n'
  | 'r' => some '\r'
  | 't' => some '\t'
  | _ => none

/-- The characters of a text up to its closing quote, collected in reverse as long as each escape
writes a character. -/
def readText? : Nat → Option (List Char) → List Char → Option (Option String × List Char)
  | 0, _, _ => none
  | _ + 1, _, [] => none
  | fuel + 1, seen, '\\' :: rest =>
    match rest with
    | 'u' :: rest => (unicodeEscape? rest).bind fun (c, rest) =>
      readText? fuel (seen.bind fun cs => c.map fun c => c :: cs) rest
    | c :: rest => (letterEscape? c).bind fun c =>
      readText? fuel (seen.map fun cs => c :: cs) rest
    | [] => none
  | fuel + 1, seen, c :: rest =>
    if c = '"' then some (seen.map fun cs => String.ofList cs.reverse, rest)
    else if c.toNat < 0x20 then none
    else readText? fuel (seen.map fun cs => c :: cs) rest

def ofReadText (s : Option String) : Json :=
  match s with
  | some s => .text s
  | none => unreadable

def ofReadFields (fields : List (Option String × Json)) : Json :=
  match fields.mapM fun (name, value) => name.map fun name => (name, value) with
  | some fields => .object fields
  | none => unreadable

def readFraction? : List Char → Option (List Char × List Char)
  | '.' :: rest =>
    let run := rest.takeWhile isDigit
    if run = [] then none else some (run, rest.dropWhile isDigit)
  | rest => some ([], rest)

def readExponent? : List Char → Option (Option Int × List Char)
  | c :: rest =>
    if c = 'e' ∨ c = 'E' then
      let (negative, digits) := splitSign rest
      let run := digits.takeWhile isDigit
      if run = [] then none
      else
        let n : Int := digitsValue 0 run
        some (some (if negative then -n else n), digits.dropWhile isDigit)
    else some (none, c :: rest)
  | [] => some (none, [])

def numberOf (negative : Bool) (whole fraction : List Char) (exponent : Option Int) : Json :=
  let digits := digitsValue (digitsValue 0 whole) fraction
  let signed : Int := if negative then -(digits : Int) else digits
  -- A negative zero is no integer, since its sign would be lost.
  if fraction = [] ∧ exponent = none ∧ ¬(negative = true ∧ digits = 0) ∧
      -9223372036854775808 ≤ signed ∧ signed ≤ 18446744073709551615 then
    .integer signed
  else .float (.ofScientific negative digits (exponent.getD 0 - fraction.length))

def readNumber? (cs : List Char) : Option (Json × List Char) := do
  let (negative, cs) := match cs with
    | '-' :: rest => (true, rest)
    | cs => (false, cs)
  let whole := cs.takeWhile isDigit
  -- No zero stands before other digits.
  if whole = [] ∨ (1 < whole.length ∧ whole.head? = some '0') then none
  else
    let (fraction, rest) ← readFraction? (cs.dropWhile isDigit)
    let (exponent, rest) ← readExponent? rest
    some (numberOf negative whole fraction exponent, rest)

def afterWord? (word cs : List Char) : Option (List Char) :=
  if word.isPrefixOf cs then some (cs.drop word.length) else none

mutual

def readValue? : Nat → List Char → Option (Json × List Char)
  | 0, _ => none
  | fuel + 1, cs =>
    match skipSpace cs with
    | '"' :: rest =>
      (readText? (rest.length + 1) (some []) rest).map fun (s, rest) => (ofReadText s, rest)
    | '[' :: rest =>
      match skipSpace rest with
      | ']' :: rest => some (.array [], rest)
      | _ => (readItems? fuel rest).map fun (items, rest) => (.array items, rest)
    | '{' :: rest =>
      match skipSpace rest with
      | '}' :: rest => some (.object [], rest)
      | _ => (readFields? fuel rest).map fun (fields, rest) => (ofReadFields fields, rest)
    | 'n' :: rest => (afterWord? ['u', 'l', 'l'] rest).map fun rest => (.null, rest)
    | 't' :: rest => (afterWord? ['r', 'u', 'e'] rest).map fun rest => (.boolean true, rest)
    | 'f' :: rest => (afterWord? ['a', 'l', 's', 'e'] rest).map fun rest => (.boolean false, rest)
    | cs => readNumber? cs

def readItems? : Nat → List Char → Option (List Json × List Char)
  | 0, _ => none
  | fuel + 1, cs => do
    let (item, rest) ← readValue? fuel cs
    match skipSpace rest with
    | ',' :: rest => (readItems? fuel rest).map fun (items, rest) => (item :: items, rest)
    | ']' :: rest => some ([item], rest)
    | _ => none

def readFields? : Nat → List Char → Option (List (Option String × Json) × List Char)
  | 0, _ => none
  | fuel + 1, cs =>
    match skipSpace cs with
    | '"' :: rest => do
      let (name, rest) ← readText? (rest.length + 1) (some []) rest
      match skipSpace rest with
      | ':' :: rest =>
        let (value, rest) ← readValue? fuel rest
        match skipSpace rest with
        | ',' :: rest =>
          (readFields? fuel rest).map fun (fields, rest) => ((name, value) :: fields, rest)
        | '}' :: rest => some ([(name, value)], rest)
        | _ => none
      | _ => none
    | _ => none

end

def ofText (s : String) : Option Json := do
  let cs := s.toList
  let (value, rest) ← readValue? (cs.length + 1) cs
  if skipSpace rest = [] then some value else none

end CriteriaSearch.Json
