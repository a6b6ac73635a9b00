import CriteriaSearch.Sql.Moment.Change

namespace CriteriaSearch.Sql

structure MomentParts where
  instant : Int
  year : Int
  month : Int
  day : Int
  clock : ClockReading
  fine : Bool

namespace MomentParts

def ofMoment? (m : Moment) : Option MomentParts := do
  let m ← m.shown?
  let (year, month, day) ← m.date
  some ⟨(← m.placed?).instant.getD 0, year, month, day, ← m.clock, m.fine⟩

def ofArguments? (arguments : List Cell) : Option MomentParts := do
  ofMoment? (← Moment.ofArguments? arguments)

def padded (width : Nat) (n : Int) : List Char :=
  if n < 0 then '-' :: Date.padded (width - 1) n.natAbs else Date.padded width n.natAbs

def blankPadded (n : Int) : List Char :=
  match padded 1 n with
  | [c] => [' ', c]
  | cs => cs

def wholeSeconds (m : MomentParts) : Int := m.clock.seconds.integerPart

def fineSeconds (m : MomentParts) : List Char :=
  let most : Double := .ofScientific false 59999 (-3)
  let s := if most.less m.clock.seconds then most else m.clock.seconds
  let millis := inPlaces 3 s
  padded 2 (millis / 1000 : Nat) ++ '.' :: padded 3 (millis % 1000 : Nat)

def epochSeconds (m : MomentParts) : Int := m.instant.tdiv 1000 - 210866760000

def dayOfYear (year instant : Int) (clock : ClockReading) : Int :=
  match Moment.instantOfDate? year 1 1 with
  | some start => (instant - (start + clock.millis) + 43200000).tdiv 86400000
  | none => 0

def sinceMonday (m : MomentParts) : Int := (m.instant + 43200000).tdiv 86400000 % 7

def sinceSunday (m : MomentParts) : Int := (m.instant + 129600000).tdiv 86400000 % 7

/-- The year of the Thursday of the week, and the days from its first of January to that day. -/
def thursday (m : MomentParts) : Int × Int :=
  let instant := m.instant + (3 - m.sinceMonday) * 86400000
  match Moment.dateOfInstant? instant with
  | some (year, _, _) => (year, dayOfYear year instant m.clock)
  | none => (m.year, 0)

def halfDayHour (m : MomentParts) : Int :=
  let h := if 12 < m.clock.hour then m.clock.hour - 12 else m.clock.hour
  if h = 0 then 12 else h

def dateChars (m : MomentParts) : List Char :=
  padded 4 m.year ++ '-' :: padded 2 m.month ++ '-' :: padded 2 m.day

def minuteChars (m : MomentParts) : List Char :=
  padded 2 m.clock.hour ++ ':' :: padded 2 m.clock.minute

def clockChars (m : MomentParts) : List Char :=
  m.minuteChars ++ ':' :: padded 2 m.wholeSeconds

/-- The days since the noon from which they are counted. -/
def dayNumber (m : MomentParts) : Double := (Double.ofInt m.instant).div (.ofInt 86400000)

def longText : Double → List Char
  | .finite x =>
    let style : NumberStyle := ⟨-4, 15, false, false, true, 2, false, .away⟩
    style.finiteChars x
      (if x.isZero then ⟨0, 0⟩ else roundedDigits 16 (.finite { x with negative := false }))
  | _ => []

def letter? (m : MomentParts) (c : Char) : Option (List Char) :=
  let week (n : Int) := padded 2 (n.tdiv 7)
  let day := dayOfYear m.year m.instant m.clock
  match c with
  | 'd' => some (padded 2 m.day)
  | 'e' => some (blankPadded m.day)
  | 'f' => some m.fineSeconds
  | 'F' => some m.dateChars
  | 'G' => some (padded 4 m.thursday.1)
  | 'g' => some (padded 2 (m.thursday.1.tmod 100))
  | 'H' => some (padded 2 m.clock.hour)
  | 'k' => some (blankPadded m.clock.hour)
  | 'I' => some (padded 2 m.halfDayHour)
  | 'l' => some (blankPadded m.halfDayHour)
  | 'j' => some (padded 3 (day + 1))
  | 'J' => some (longText m.dayNumber)
  | 'm' => some (padded 2 m.month)
  | 'M' => some (padded 2 m.clock.minute)
  | 'p' => some (if 12 ≤ m.clock.hour then ['P', 'M'] else ['A', 'M'])
  | 'P' => some (if 12 ≤ m.clock.hour then ['p', 'm'] else ['a', 'm'])
  | 'R' => some m.minuteChars
  | 's' =>
    if m.fine then
      let millis := m.instant - Moment.originMillis
      some ((if millis < 0 then ['-'] else []) ++ padded 1 (millis.natAbs / 1000 : Nat) ++
        '.' :: padded 3 (millis.natAbs % 1000 : Nat))
    else some (padded 1 m.epochSeconds)
  | 'S' => some (padded 2 m.wholeSeconds)
  | 'T' => some m.clockChars
  | 'u' => some (padded 1 (if m.sinceSunday = 0 then 7 else m.sinceSunday))
  | 'w' => some (padded 1 m.sinceSunday)
  | 'U' => some (week (day - m.sinceSunday + 7))
  | 'V' => some (padded 2 (m.thursday.2.tdiv 7 + 1))
  | 'W' => some (week (day - m.sinceMonday + 7))
  | 'Y' => some (padded 4 m.year)
  | '%' => some ['%']
  | _ => none

/-- The moment in a format; a letter that stands for nothing spoils all of it. -/
def format? (m : MomentParts) : List Char → Option (List Char)
  | [] => some []
  | '%' :: c :: rest => do some ((← m.letter? c) ++ (← format? m rest))
  | c :: rest => if c = '%' then none else do some (c :: (← format? m rest))

end MomentParts

def Cell.ofChars? : Option (List Char) → Cell
  | some cs => .text (String.ofList cs)
  | none => .null

namespace Moment

/-- The moment that cells tell as a text of the given format; missing if there is none. -/
def formatted (format : Cell) (arguments : List Cell) : Cell :=
  if format.isNull then .null
  else
    .ofChars? <| (MomentParts.ofArguments? arguments).bind fun m =>
      m.format? (format.chars.takeWhile fun c => c.toNat != 0)

def dateText (arguments : List Cell) : Cell :=
  .ofChars? <| (MomentParts.ofArguments? arguments).map fun m =>
    (if m.year < 0 then ['-'] else []) ++ MomentParts.padded 4 m.year.natAbs ++
      '-' :: MomentParts.padded 2 m.month ++ '-' :: MomentParts.padded 2 m.day

def clockChars (m : MomentParts) : List Char :=
  if m.fine then
    let millis := ClockReading.roundedMillis m.clock.seconds
    m.minuteChars ++ ':' :: MomentParts.padded 2 (millis / 1000) ++
      '.' :: MomentParts.padded 3 (millis % 1000)
  else m.clockChars

def clockText (arguments : List Cell) : Cell :=
  .ofChars? ((MomentParts.ofArguments? arguments).map clockChars)

def fullText (arguments : List Cell) : Cell :=
  match dateText arguments, clockText arguments with
  | .text date, .text clock => .text (date ++ " " ++ clock)
  | _, _ => .null

def dayCell (arguments : List Cell) : Cell :=
  match ofArguments? arguments with
  | some m => .real ((Double.ofInt (m.instant.getD 0)).div (.ofInt 86400000))
  | none => .null

def secondsCell (arguments : List Cell) : Cell :=
  match ofArguments? arguments with
  | some m =>
    let millis := m.instant.getD 0 - originMillis
    if m.fine then .real ((Double.ofInt millis).div (.ofInt 1000))
    else .integer ((m.instant.getD 0).tdiv 1000 - 210866760000)
  | none => .null

end Moment

end CriteriaSearch.Sql
