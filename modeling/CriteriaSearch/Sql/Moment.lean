import CriteriaSearch.Calendar.Date
import CriteriaSearch.Sql.Cell

/-!
# Moments in cells

Cells as moments of time. A text gives a date, a time of day or both, with an optional distance from
universal time; a number counts days since noon of the twenty-fourth of November of the year 4714
before our era. A moment is kept as it was written until a question needs another form of it.
-/

namespace CriteriaSearch.Sql

structure ClockReading where
  hour : Int
  minute : Int
  seconds : Double
  deriving DecidableEq, Repr

structure Moment where
  /-- Milliseconds since the noon from which days are counted. -/
  instant : Option Int
  /-- Year, month and day; the day may lie beyond the end of its month. -/
  date : Option (Int × Int × Int)
  clock : Option ClockReading
  /-- A number whose meaning is still open. -/
  number : Option Double
  /-- Minutes ahead of universal time. -/
  offset : Int
  excess : Int
  fine : Bool
  deriving DecidableEq, Repr

namespace ClockReading

def midnight : ClockReading := ⟨0, 0, .zero false⟩

/-- A number of seconds in milliseconds; more than half a millisecond counts as one. -/
def roundedMillis (seconds : Double) : Int :=
  ((seconds.mul (.ofInt 1000)).add (.ofScientific false 5 (-1))).integerPart

def millis (c : ClockReading) : Int :=
  c.hour * 3600000 + c.minute * 60000 + roundedMillis c.seconds

end ClockReading

namespace Moment

/-- Milliseconds from the noon from which days are counted to the start of 1970. -/
def originMillis : Int := 210866760000000

/-- The days that are counted end with the year 9999. -/
def isCovered (instant : Int) : Bool := 0 ≤ instant && instant ≤ 464269060799999

def blank : Moment := ⟨none, none, none, none, 0, 0, false⟩

def atInstant (instant : Int) : Moment := { blank with instant := some instant }

def present : Moment := atInstant (originMillis + 1735689600000)

def instantOfDate? (year month day : Int) : Option Int :=
  if year < -4713 ∨ 9999 < year then none
  else (Date.ofParts? year month.toNat 1).map fun first =>
    (first.dayNumber + day - 1) * 86400000 + originMillis

def dateOfInstant? (instant : Int) : Option (Int × Int × Int) :=
  if isCovered instant then
    (Date.ofDayNumber? ((instant - originMillis).fdiv 86400000)).map fun d =>
      (d.year, (d.month : Int), (d.day : Int))
  else none

def clockOfInstant (instant : Int) : ClockReading :=
  let rest := (instant - originMillis).fmod 86400000
  ⟨rest / 3600000, rest / 60000 % 60, (Double.ofInt (rest % 60000)).div (.ofInt 1000)⟩

/-- The moment with its instant worked out. A moment that lies ahead of universal time is known by
its instant alone. -/
def placed? (m : Moment) : Option Moment :=
  match m.instant, m.number with
  | some _, _ => some m
  | none, some _ => none
  | none, none => do
    let (year, month, day) := m.date.getD (2000, 1, 1)
    let start ← instantOfDate? year month day
    match m.clock with
    | none => some { m with instant := some start }
    | some clock =>
      let instant := start + clock.millis - m.offset * 60000
      if m.offset = 0 then some { m with instant := some instant }
      else some { m with instant := some instant, date := none, clock := none, offset := 0 }

def dated? (m : Moment) : Option Moment :=
  match m.date, m.instant with
  | some _, _ => some m
  | none, some instant => do some { m with date := some (← dateOfInstant? instant) }
  | none, none => some { m with date := some (2000, 1, 1) }

def timed? (m : Moment) : Option Moment :=
  match m.clock with
  | some _ => some m
  | none => do
    let m ← m.placed?
    some { m with clock := m.instant.map clockOfInstant, number := none }

def shown? (m : Moment) : Option Moment := do (← m.dated?).timed?

def bare (m : Moment) : Moment := { m with date := none, clock := none, offset := 0 }

/-- The days by which a day lies beyond the end of its month, at most three. -/
def excessOf (year month day : Int) : Int :=
  if day ≤ 28 then 0
  else
    let length : Int := daysInMonth year month.toNat
    if day ≤ length then 0 else day - length

/-- The moment on a date, of which the instant is to be worked out again. -/
def onDate (m : Moment) (year month day : Int) : Moment :=
  { m with date := some (year, month, day), instant := none, excess := excessOf year month day }

def digits? (width least most : Nat) (cs : List Char) : Option (Nat × List Char) :=
  let run := cs.take width
  let n := digitsValue 0 run
  if run.length = width ∧ run.all isDigit = true ∧ least ≤ n ∧ n ≤ most then
    some (n, cs.drop width)
  else none

def sign? (c : Char) : List Char → Option (List Char)
  | d :: rest => if c = d then some rest else none
  | [] => none

def skipSpaces (cs : List Char) : List Char := cs.dropWhile isNumberSpace

def offset? (cs : List Char) : Option Int :=
  match skipSpaces cs with
  | [] => some 0
  | c :: rest =>
    if c = 'Z' ∨ c = 'z' then
      if skipSpaces rest = [] then some 0 else none
    else if c = '+' ∨ c = '-' then do
      let (hours, rest) ← digits? 2 0 14 rest
      let rest ← sign? ':' rest
      let (minutes, rest) ← digits? 2 0 59 rest
      if skipSpaces rest = [] then
        let n : Int := minutes + hours * 60
        some (if c = '-' then -n else n)
      else none
    else none

def fraction (digits : List Char) : Double :=
  let sum := digits.foldl (fun (x, scale) c =>
    ((x.mul (.ofInt 10)).add (.ofInt (c.toNat - '0'.toNat)), scale.mul (.ofInt 10)))
    ((.zero false : Double), Double.ofInt 1)
  sum.1.div sum.2

def seconds? : List Char → Option (Double × List Char)
  | ':' :: rest => do
    let (s, rest) ← digits? 2 0 59 rest
    match rest with
    | '.' :: d :: more =>
      if isDigit d then
        some ((Double.ofInt s).add (fraction ((d :: more).takeWhile isDigit)),
          (d :: more).dropWhile isDigit)
      else some (.ofInt s, rest)
    | _ => some (.ofInt s, rest)
  | rest => some (.zero false, rest)

def clock? (cs : List Char) : Option (ClockReading × Int) := do
  let (hour, rest) ← digits? 2 0 24 cs
  let rest ← sign? ':' rest
  let (minute, rest) ← digits? 2 0 59 rest
  let (seconds, rest) ← seconds? rest
  some (⟨hour, minute, seconds⟩, ← offset? rest)

def ofDateChars? (cs : List Char) : Option Moment := do
  let (negative, cs) := match cs with
    | '-' :: rest => (true, rest)
    | cs => (false, cs)
  let (year, rest) ← digits? 4 0 9999 cs
  let rest ← sign? '-' rest
  let (month, rest) ← digits? 2 1 12 rest
  let rest ← sign? '-' rest
  let (day, rest) ← digits? 2 1 31 rest
  let m := blank.onDate (if negative then -(year : Int) else year) month day
  let rest := rest.dropWhile fun c => isNumberSpace c || c == 'T'
  match clock? rest with
  | some (clock, offset) =>
    let m := { m with clock := some clock, offset := offset }
    if offset = 0 then some m else m.placed?
  | none => if rest = [] then some m else none

/-- The moment of a number: a count of days, if there are that many. -/
def ofNumber (x : Double) : Moment :=
  let inRange := x.compare (.zero false) != some .lt && x.isFinite &&
    x.less (.ofScientific false 53734845 (-1))
  let instant := ((x.mul (.ofInt 86400000)).add (.ofScientific false 5 (-1))).integerPart
  { blank with number := some x, instant := if inRange then some instant else none }

def folded (cs : List Char) : List Char := cs.map Char.toLower

def ofChars? (cs : List Char) : Option Moment :=
  match ofDateChars? cs with
  | some m => some m
  | none =>
    match clock? cs with
    | some (clock, offset) => some { blank with clock := some clock, offset := offset }
    | none =>
      let word := String.ofList (folded cs)
      if word = "now" then some present
      else
        let numeral := Numeral.ofChars cs
        match numeral.form with
        | .integer | .real => some (ofNumber numeral.value)
        | .realStart | .other =>
          if word = "subsec" ∨ word = "subsecond" then some { present with fine := true }
          else none

/-- The moment that a cell holds; a text ends before the character with the code zero. -/
def ofCell? : Cell → Option Moment
  | .null => none
  | .integer n => some (ofNumber (.ofInt n))
  | .real x => some (ofNumber x)
  | c => ofChars? (c.chars.takeWhile fun c => c.toNat != 0)

end Moment

end CriteriaSearch.Sql
