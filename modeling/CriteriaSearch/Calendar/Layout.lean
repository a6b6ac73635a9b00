import CriteriaSearch.Calendar.DateTime
import CriteriaSearch.Number.Reader
import CriteriaSearch.Text.Blank

/-!
# Layouts of written dates

A layout is a list of items, and a text has the layout when the items read all of it in turn.
A number skips blank characters before it. Numbers that are read must name a day that exists and
a time of that day.
-/

namespace CriteriaSearch

inductive LayoutItem where
  | year
  | month
  | day
  | hour
  | minute
  | second
  /-- A point and digits, or nothing. -/
  | fraction
  | blank
  | literal (c : Char)
  deriving DecidableEq, Repr

abbrev Layout := List LayoutItem

structure DateParts where
  year : Option Int
  month : Option Nat
  day : Option Nat
  hour : Option Nat
  minute : Option Nat
  second : Option Nat
  nano : Option Nat

namespace DateParts

def empty : DateParts := ⟨none, none, none, none, none, none, none⟩

def date? (p : DateParts) : Option Date := do
  Date.ofParts? (← p.year) (← p.month) (← p.day)

/-- The date-time that the numbers name; a second that was not given is zero, and second sixty is
kept as a leap second. -/
def dateTime? (p : DateParts) : Option DateTime := do
  let date ← p.date?
  let hour ← p.hour
  let minute ← p.minute
  let second := p.second.getD 0
  let nano := p.nano.getD 0
  if second = 60 then
    DateTime.ofParts? date (hour * 3600 + minute * 60 + 59) (nano + nanosPerSecond)
  else
    DateTime.ofParts? date (hour * 3600 + minute * 60 + second) nano

end DateParts

namespace LayoutItem

def digits? (width : Nat) (cs : List Char) : Option (Nat × List Char) :=
  let run := (cs.take width).takeWhile isDigit
  if run = [] then none else some (digitsValue 0 run, cs.drop run.length)

def upTo? (most : Nat) (cs : List Char) : Option (Nat × List Char) :=
  (digits? 2 (Text.skipBlank cs)).bind fun (n, rest) => if n ≤ most then some (n, rest) else none

/-- Reads a year: one to four digits, or any number of digits after a sign. -/
def year? (cs : List Char) : Option (Int × List Char) :=
  match Text.skipBlank cs with
  | '-' :: rest => (digits? rest.length rest).map fun (n, rest) => (-(n : Int), rest)
  | '+' :: rest => (digits? rest.length rest).map fun (n, rest) => ((n : Int), rest)
  | cs => (digits? 4 cs).map fun (n, rest) => ((n : Int), rest)

/-- Reads the digits of a fraction of a second: nine of them count and the others are skipped. -/
def nanos? (cs : List Char) : Option (Nat × List Char) :=
  let run := cs.takeWhile isDigit
  let kept := run.take 9
  if run = [] then none
  else some (digitsValue 0 kept * tenTo (9 - kept.length), cs.drop run.length)

def read? (item : LayoutItem) (p : DateParts) (cs : List Char) : Option (DateParts × List Char) :=
  match item with
  | .year => (year? cs).map fun (n, rest) => ({ p with year := some n }, rest)
  | .month => (upTo? 12 cs).map fun (n, rest) => ({ p with month := some n }, rest)
  | .day => (upTo? 31 cs).map fun (n, rest) => ({ p with day := some n }, rest)
  | .hour => (upTo? 23 cs).map fun (n, rest) => ({ p with hour := some n }, rest)
  | .minute => (upTo? 59 cs).map fun (n, rest) => ({ p with minute := some n }, rest)
  | .second => (upTo? 60 cs).map fun (n, rest) => ({ p with second := some n }, rest)
  | .fraction =>
    match cs with
    | '.' :: rest => (nanos? rest).map fun (n, rest) => ({ p with nano := some n }, rest)
    | cs => some (p, cs)
  | .blank => some (p, Text.skipBlank cs)
  | .literal c =>
    match cs with
    | d :: rest => if c = d then some (p, rest) else none
    | [] => none

end LayoutItem

namespace Layout

/-- Reads the items in turn; nothing may be left over. -/
def parts? : Layout → DateParts → List Char → Option DateParts
  | [], p, [] => some p
  | [], _, _ :: _ => none
  | item :: items, p, cs => (item.read? p cs).bind fun (p, rest) => parts? items p rest

def dateTime? (layout : Layout) (cs : List Char) : Option DateTime :=
  (layout.parts? .empty cs).bind DateParts.dateTime?

def date? (layout : Layout) (cs : List Char) : Option Date :=
  (layout.parts? .empty cs).bind DateParts.date?

def isoDate : Layout := [.year, .literal '-', .month, .literal '-', .day]

def clock : Layout := [.hour, .literal ':', .minute, .literal ':', .second]

def dayFirst (separator : Char) : Layout :=
  [.day, .literal separator, .month, .literal separator, .year, .blank] ++ clock

def dateTimes : List Layout := [
  isoDate ++ [.literal 'T'] ++ clock ++ [.fraction],
  isoDate ++ [.literal 'T', .hour, .literal ':', .minute],
  isoDate ++ [.blank] ++ clock,
  dayFirst '-',
  dayFirst '/']

/-- A date as a document gives it: blank characters may stand before the hyphens and at the end. -/
def looseDate : Layout :=
  [.year, .blank, .literal '-', .month, .blank, .literal '-', .day, .blank]

def looseDateTime : Layout :=
  [.year, .blank, .literal '-', .month, .blank, .literal '-', .day, .blank, .literal 'T', .hour,
    .blank, .literal ':', .minute, .blank, .literal ':', .second, .fraction, .blank]

end Layout

namespace DateTime

/-- The date-time of the first layout that the trimmed text has, or midnight of the date it
names. -/
def ofText? (s : String) : Option DateTime :=
  let cs := Text.trimChars s.toList
  (Layout.dateTimes.findSome? fun layout => layout.dateTime? cs).or
    ((Layout.isoDate.date? cs).map midnight)

end DateTime

end CriteriaSearch
