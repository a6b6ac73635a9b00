import CriteriaSearch.Calendar.Date

/-!
# Date-times

A date-time is a date, a second of that day and a fraction in nanoseconds. A leap second is kept as
the second before it with a fraction of one second or more. Date-times have no zone.
-/

namespace CriteriaSearch

def nanosPerSecond : Nat := 1000000000

def secondsPerDay : Nat := 86400

structure DateTime where
  date : Date
  second : Nat
  nano : Nat
  second_lt : second < 86400
  nano_lt : nano < 2000000000
  deriving DecidableEq, Repr

namespace DateTime

def ofParts? (date : Date) (second nano : Nat) : Option DateTime :=
  if h : second < 86400 ∧ nano < 2000000000 then some ⟨date, second, nano, h.1, h.2⟩ else none

def midnight (date : Date) : DateTime := ⟨date, 0, 0, by decide, by decide⟩

/-- The last nanosecond of a date that has no leap second. -/
def endOfDay (date : Date) : DateTime := ⟨date, 86399, 999999999, by decide, by decide⟩

def compare (a b : DateTime) : Ordering :=
  (a.date.compare b.date).then
    ((Ord.compare a.second b.second).then (Ord.compare a.nano b.nano))

/-- Milliseconds since the start of 1970; a leap second counts as the next second. -/
def epochMillis (t : DateTime) : Int :=
  (t.date.dayNumber * secondsPerDay + t.second) * 1000 + (t.nano / 1000000 : Nat)

/-- Moves a date-time by whole seconds and keeps its fraction. -/
def addSeconds? (t : DateTime) (seconds : Int) : Option DateTime :=
  let total := t.date.dayNumber * secondsPerDay + t.second + seconds
  (Date.ofDayNumber? (total.fdiv secondsPerDay)).bind fun date =>
    ofParts? date (total.fmod secondsPerDay).toNat t.nano

/-- The fraction of a second that is printed, without the second that a leap second holds. -/
def shownNano (t : DateTime) : Nat := t.nano % nanosPerSecond

/-- Hours, minutes and seconds with colons between them; a leap second shows as sixty. -/
def clockChars (t : DateTime) : List Char :=
  Date.padded 2 (t.second / 3600) ++ ':' :: Date.padded 2 (t.second / 60 % 60) ++
    ':' :: Date.padded 2 (t.second % 60 + t.nano / nanosPerSecond)

/-- A fraction of a second in three, six or nine digits, whichever is the fewest that shows all of
it; nothing for zero. -/
def fractionChars (nano : Nat) : List Char :=
  if nano = 0 then []
  else if nano % 1000000 = 0 then '.' :: Date.padded 3 (nano / 1000000)
  else if nano % 1000 = 0 then '.' :: Date.padded 6 (nano / 1000)
  else '.' :: Date.padded 9 nano

def chars (t : DateTime) : List Char :=
  t.date.chars ++ 'T' :: t.clockChars ++ fractionChars t.shownNano

def display (t : DateTime) : String := String.ofList t.chars

/-- The date, the letter T and the clock with three digits of the fraction; the rest is cut off. -/
def millisChars (t : DateTime) : List Char :=
  t.date.chars ++ 'T' :: t.clockChars ++ '.' :: Date.padded 3 (t.shownNano / 1000000)

def millisText (t : DateTime) : String := String.ofList t.millisChars

end DateTime

end CriteriaSearch
