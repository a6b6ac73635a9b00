import CriteriaSearch.Sql.Moment

namespace CriteriaSearch.Sql

structure TimeUnit where
  name : String
  limit : Double
  seconds : Int

namespace Moment

def fixedUnits : List TimeUnit := [
  ⟨"second", .ofScientific false 46427 10, 1⟩,
  ⟨"minute", .ofScientific false 77379 7, 60⟩,
  ⟨"hour", .ofScientific false 12897 7, 3600⟩,
  ⟨"day", .ofInt 5373485, 86400⟩]

/-- Months, which are moved by as numbers of the calendar; a fraction counts thirty days. -/
def monthUnit : TimeUnit := ⟨"month", .ofInt 176546, 2592000⟩

/-- Years, which are moved by as numbers of the calendar; a fraction counts 365 days. -/
def yearUnit : TimeUnit := ⟨"year", .ofInt 14713, 31536000⟩

/-- A year and a month counted from its start, as a year and a month of it. -/
def normalMonth (year month : Int) : Int × Int :=
  let years := if 0 < month then (month - 1).tdiv 12 else (month - 12).tdiv 12
  (year + years, month - years * 12)

def later? (m : Moment) (millis : Int) : Option Moment := do
  let m ← m.placed?
  some { m with instant := m.instant.map (· + millis) }.bare

def unitMillis (u : TimeUnit) (amount : Double) (negative : Bool) : Int :=
  let half : Double := .ofScientific negative 5 (-1)
  (((amount.mul (.ofInt 1000)).mul (.ofInt u.seconds)).add half).integerPart

def admits (u : TimeUnit) (amount : Double) : Bool :=
  u.limit.neg.less amount && amount.less u.limit

def shift? (m : Moment) (word : String) (amount : Double) : Option Moment := do
  let negative := amount.less (.zero false)
  let m ← m.placed?
  let m := { m with excess := 0 }
  let whole := amount.integerPart
  let rest := amount.sub (.ofInt whole)
  if word = monthUnit.name ∧ admits monthUnit amount = true then
    let m ← m.shown?
    let (year, month, day) := m.date.getD (2000, 1, 1)
    let (year, month) := normalMonth year (month + whole)
    (m.onDate year month day).later? (unitMillis monthUnit rest negative)
  else if word = yearUnit.name ∧ admits yearUnit amount = true then
    let m ← m.shown?
    let (year, month, day) := m.date.getD (2000, 1, 1)
    (m.onDate (year + whole) month day).later? (unitMillis yearUnit rest negative)
  else
    match fixedUnits.find? fun u => u.name == word && admits u amount with
    | some u => m.later? (unitMillis u amount negative)
    | none => none

def shiftByClock? (m : Moment) (negative : Bool) (cs : List Char) : Option Moment := do
  let (clock, offset) ← clock? cs
  let t ← { blank with clock := some clock, offset := offset }.placed?
  let instant : Int := t.instant.getD 0 - 43200000
  let millis := instant.tmod 86400000
  m.later? (if negative then -millis else millis)

def shiftByDate? (m : Moment) (negative : Bool) (width : Nat) (cs : List Char) :
    Option Moment := do
  let (years, rest) ← digits? width 0 14712 cs
  let rest ← sign? '-' rest
  let (months, rest) ← digits? 2 0 11 rest
  let rest ← sign? '-' rest
  let (days, rest) ← digits? 2 0 30 rest
  let m ← m.shown?
  let (year, month, day) := m.date.getD (2000, 1, 1)
  let sign : Int := if negative then -1 else 1
  let (year, month) := normalMonth (year + sign * years) (month + sign * months)
  let m ← (m.onDate year month day).placed?
  let m := { m with
    instant := m.instant.map (· + sign * days * 86400000), date := none, clock := none }
  match rest with
  | [] => some m
  | c :: rest => if isNumberSpace c then m.shiftByClock? negative rest else none

/-- The count at the start of a change, given in reverse, ends before a character. A hyphen ends a
year of four or five digits. -/
def endsCount (seen : List Char) (c : Char) : Bool :=
  c == ':' || isNumberSpace c ||
    (c == '-' && (seen.length == 5 || seen.length == 6) && seen.dropLast.all isDigit)

def splitCount (seen : List Char) : List Char → List Char × List Char
  | [] => (seen, [])
  | c :: rest => if endsCount seen c then (seen, c :: rest) else splitCount (c :: seen) rest

def shiftByCount? (m : Moment) (cs : List Char) : Option Moment := do
  let first := cs.head?.getD ' '
  let (seen, rest) := splitCount (cs.take 1).reverse (cs.drop 1)
  let count := Numeral.ofChars seen.reverse
  if count.form = .integer ∨ count.form = .real then
    let unsigned := if isDigit first then cs else cs.drop 1
    match rest with
    | '-' :: _ =>
      if isDigit first then none
      else m.shiftByDate? (first == '-') (seen.length - 1) unsigned
    | ':' :: _ => m.shiftByClock? (first == '-') unsigned
    | rest =>
      let word := folded (skipSpaces rest)
      if word.length < 3 ∨ 10 < word.length then none
      else
        let word := if word.getLast? = some 's' then word.dropLast else word
        m.shift? (String.ofList word) count.value
  else none

def startOf? (m : Moment) (word : List Char) : Option Moment := do
  if m.instant.isNone && m.date.isNone && m.clock.isNone then none
  else
    let m ← m.dated?
    let (year, month, day) := m.date.getD (2000, 1, 1)
    let m := { m with clock := some .midnight, number := none, offset := 0, instant := none }
    match String.ofList word with
    | "month" => some { m with date := some (year, month, 1) }
    | "year" => some { m with date := some (year, 1, 1) }
    | "day" => some { m with date := some (year, month, day) }
    | _ => none

/-- The first moment from now on that is on a day of the week; Sunday is zero. -/
def weekday? (m : Moment) (cs : List Char) : Option Moment := do
  let numeral := Numeral.ofChars cs
  let n := numeral.value.integerPart
  if (numeral.form = .integer ∨ numeral.form = .real) ∧ numeral.value.sameValue (.ofInt n) ∧
      0 ≤ n ∧ n < 7 then
    let m ← { (← m.shown?) with offset := 0, instant := none }.placed?
    let today := ((m.instant.getD 0 + 129600000) / 86400000) % 7
    let back := if n < today then today - 7 else today
    m.later? ((n - back) * 86400000)
  else none

def instantOfSeconds (x : Double) : Double :=
  (x.mul (.ofInt 1000)).add (.ofInt originMillis)

def fromSeconds? (m : Moment) (x : Double) : Option Moment :=
  let r := instantOfSeconds x
  if r.less (.zero false) || !r.less (.ofInt 464269060800000) then none
  else
    let instant := (r.add (.ofScientific false 5 (-1))).integerPart
    some { m.bare with instant := some instant, number := none }

/-- The number of the moment counts days, if there are that many, and otherwise seconds. -/
def guessed (m : Moment) : Moment :=
  match m.number, m.instant with
  | some x, none =>
    let most : Double := .ofScientific false 253402300799 0
    if x.less (.ofInt (-210866760000)) || most.less x then m
    else
      let instant := ((instantOfSeconds x).add (.ofScientific false 5 (-1))).integerPart
      { m.bare with instant := some instant, number := none }
  | _, _ => { m with number := none }

/-- The moment after a change; `isFirst` tells that no other change was before it. -/
def change? (m : Moment) (isFirst : Bool) (cs : List Char) : Option Moment :=
  let word := folded cs
  match String.ofList word with
  | "auto" => if isFirst then some m.guessed else none
  | "ceiling" => do
    let m ← m.placed?
    some { m.bare with excess := 0 }
  | "floor" => do
    let m ← m.placed?
    some { m with instant := m.instant.map (· - m.excess * 86400000) }.bare
  | "julianday" =>
    if isFirst && m.instant.isSome && m.number.isSome then some { m with number := none }
    else none
  | "localtime" | "utc" => do some (← m.placed?).bare
  | "unixepoch" =>
    match m.number with
    | some x => if isFirst then m.fromSeconds? x else none
    | none => none
  | "subsec" | "subsecond" => some { m with fine := true }
  | _ =>
    if Text.startsWith "weekday ".toList word then m.weekday? (word.drop 8)
    else if Text.startsWith "start of ".toList word then m.startOf? (word.drop 9)
    else
      match cs with
      | c :: _ => if c = '+' ∨ c = '-' ∨ isDigit c = true then m.shiftByCount? cs else none
      | [] => none

def changeAll? (m : Moment) (isFirst : Bool) : List Cell → Option Moment
  | [] => some m
  | .null :: _ => none
  | c :: cs => do
    let m ← m.change? isFirst (c.chars.takeWhile fun c => c.toNat != 0)
    m.changeAll? false cs

/-- The moment that the arguments of a function tell: a cell and changes of it, or the present. It
has an instant, and a day beyond the end of its month is moved to the next. -/
def ofArguments? (arguments : List Cell) : Option Moment := do
  let m ← match arguments with
    | [] => some present
    | c :: changes => do (← ofCell? c).changeAll? true changes
  let m ← m.placed?
  if isCovered (m.instant.getD (-1)) then
    if arguments.length = 1 ∧ m.date.any (fun d => 28 < d.2.2) = true then
      some { m with date := none }
    else some m
  else none

end Moment

end CriteriaSearch.Sql
