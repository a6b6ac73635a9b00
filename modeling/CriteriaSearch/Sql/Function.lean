import CriteriaSearch.Sql.Lexer
import CriteriaSearch.Sql.Moment.Format
import CriteriaSearch.Sql.Template

namespace CriteriaSearch.Sql

structure FunctionForm where
  name : String
  least : Nat
  /-- There may be any count of arguments from the least one on. -/
  greatest : Option Nat
  deriving DecidableEq, Repr

namespace FunctionForm

def admits (f : FunctionForm) (count : Nat) : Bool :=
  f.least ≤ count && f.greatest.all (count ≤ ·)

def ofRows : List FunctionForm := [
  ⟨"unicode_upper", 1, some 1⟩, ⟨"abs", 1, some 1⟩, ⟨"changes", 0, some 0⟩, ⟨"char", 0, none⟩,
  ⟨"coalesce", 2, none⟩, ⟨"concat", 1, none⟩, ⟨"concat_ws", 2, none⟩, ⟨"date", 0, none⟩,
  ⟨"datetime", 0, none⟩, ⟨"format", 0, none⟩, ⟨"glob", 2, some 2⟩, ⟨"hex", 1, some 1⟩,
  ⟨"if", 2, some 3⟩, ⟨"ifnull", 2, some 2⟩, ⟨"iif", 2, some 3⟩, ⟨"instr", 2, some 2⟩,
  ⟨"julianday", 0, none⟩, ⟨"last_insert_rowid", 0, some 0⟩, ⟨"length", 1, some 1⟩,
  ⟨"like", 2, some 3⟩, ⟨"likelihood", 2, some 2⟩, ⟨"likely", 1, some 1⟩, ⟨"lower", 1, some 1⟩,
  ⟨"ltrim", 1, some 2⟩, ⟨"max", 2, none⟩, ⟨"min", 2, none⟩, ⟨"nullif", 2, some 2⟩,
  ⟨"octet_length", 1, some 1⟩, ⟨"printf", 0, none⟩, ⟨"quote", 1, some 1⟩,
  ⟨"random", 0, some 0⟩, ⟨"replace", 3, some 3⟩, ⟨"round", 1, some 2⟩, ⟨"rtrim", 1, some 2⟩,
  ⟨"sign", 1, some 1⟩, ⟨"soundex", 1, some 1⟩, ⟨"sqlite_version", 0, some 0⟩,
  ⟨"strftime", 0, none⟩, ⟨"substr", 2, some 3⟩, ⟨"substring", 2, some 3⟩, ⟨"time", 0, none⟩,
  ⟨"total_changes", 0, some 0⟩, ⟨"trim", 1, some 2⟩, ⟨"typeof", 1, some 1⟩,
  ⟨"unhex", 1, some 2⟩, ⟨"unicode", 1, some 1⟩, ⟨"unixepoch", 0, none⟩,
  ⟨"unlikely", 1, some 1⟩, ⟨"upper", 1, some 1⟩, ⟨"zeroblob", 1, some 1⟩]

def ofGroups : List FunctionForm := [
  ⟨"avg", 1, some 1⟩, ⟨"count", 0, some 1⟩, ⟨"group_concat", 1, some 2⟩, ⟨"max", 1, some 1⟩,
  ⟨"min", 1, some 1⟩, ⟨"string_agg", 2, some 2⟩, ⟨"sum", 1, some 1⟩, ⟨"total", 1, some 1⟩]

def named (forms : List FunctionForm) (name : String) : Bool :=
  forms.any fun f => sameName f.name name

def fitting (forms : List FunctionForm) (name : String) (count : Nat) : Bool :=
  forms.any fun f => sameName f.name name && f.admits count

end FunctionForm

namespace Cell

def unlessNull (c : Cell) (f : Cell → Cell) : Cell := if c.isNull then .null else f c

def ofChars (cs : List Char) : Cell := .text (String.ofList cs)

def magnitude : Cell → Cell
  | .null => .null
  | .integer n => .integer (if n < 0 then -n else n)
  | c =>
    let x := c.toReal
    ofDouble (if x.less (.zero false) then x.neg else x)

def length : Cell → Cell
  | .null => .null
  | .blob bytes => .integer bytes.length
  | c => .integer c.visible.length

def kindName : Cell → String
  | .null => "null"
  | .integer _ => "integer"
  | .real _ => "real"
  | .text _ => "text"
  | .blob _ => "blob"

def signCell (c : Cell) : Cell :=
  match c.asNumber with
  | .integer n => .integer n.sign
  | .real x =>
    .integer (if x.less (.zero false) then -1 else if (Double.zero false).less x then 1 else 0)
  | _ => .null

/-- The place of a part in some elements, counted from one; zero if it does not occur. -/
def placeOf {α : Type} [BEq α] (part : List α) : Nat → List α → Int
  | n, [] => if part.isEmpty then n + 1 else 0
  | n, x :: xs => if part.isPrefixOf (x :: xs) then n + 1 else placeOf part (n + 1) xs

def instr (whole part : Cell) : Cell :=
  match whole, part with
  | .null, _ | _, .null => .null
  | .blob a, .blob b => .integer (placeOf b 0 a)
  | a, b => .integer (placeOf b.chars 0 a.chars)

/-- The start and the count of a part that begins at a place, counted from one or from the end, and
has a length; a length below zero counts back from the place. -/
def bounds (size start : Int) (length : Option Int) : Nat × Nat :=
  let most : Int := 1000000000
  let negative := length.any (· < 0)
  let count : Int := match length with
    | some n => n.natAbs
    | none => most
  let (start, count) :=
    if start < 0 then
      let start := start + size
      if start < 0 then (0, max 0 (count + start)) else (start, count)
    else if 0 < start then (start - 1, count)
    else (0, if 0 < count then count - 1 else count)
  let (start, count) :=
    if negative then
      let first := start - count
      if first < 0 then (0, count + first) else (first, count)
    else (start, count)
  (start.toNat, count.toNat)

def part (c start : Cell) (length : Option Cell) : Cell :=
  if c.isNull || start.isNull || length.any isNull then .null
  else
    match c with
    | .blob [] => .null
    | .blob bytes =>
      let (first, count) := bounds bytes.length start.toInt (length.map toInt)
      .blob ((bytes.drop first).take count)
    | c =>
      let cs := c.visible
      let (first, count) := bounds cs.length start.toInt (length.map toInt)
      ofChars ((cs.drop first).take count)

def dropStart (set cs : List Char) : List Char := cs.dropWhile set.contains

def dropEnd (set cs : List Char) : List Char := (dropStart set cs.reverse).reverse

def trimmed (drop : List Char → List Char → List Char) : List Cell → Cell
  | [c] => c.unlessNull fun c => ofChars (drop [' '] c.chars)
  | [c, set] => if c.isNull || set.isNull then .null else ofChars (drop set.chars c.chars)
  | _ => .null

def replaceIn (part other : List Char) : Nat → List Char → List Char
  | 0, cs => cs
  | _, [] => []
  | fuel + 1, c :: cs =>
    if part.isPrefixOf (c :: cs) then
      other ++ replaceIn part other fuel ((c :: cs).drop part.length)
    else c :: replaceIn part other fuel cs

def replaced (c part other : Cell) : Cell :=
  if c.isNull || part.isNull then .null
  else if part.visible.isEmpty then ofChars c.chars
  else if other.isNull then .null
  else ofChars (replaceIn part.chars other.chars (c.chars.length + 1) c.chars)

def rounded (c : Cell) (places : Cell) : Cell :=
  if c.isNull || places.isNull then .null
  else
    let x := c.toReal
    let n := (min (max places.toInt 0) 30).toNat
    let negative := x.less (.zero false)
    let magnitude := if negative then x.neg else x
    if (Double.ofInt 4503599627370496).less magnitude || !x.isFinite then ofDouble x
    else if n = 0 then
      let half : Double := .ofScientific negative 5 (-1)
      .real (.ofInt (x.add half).integerPart)
    else
      let units := inPlaces n magnitude
      let written := Nat.toDigits 10 (units / tenTo n) ++ '.' :: Date.padded n (units % tenTo n)
      let value := (Numeral.ofChars written).value
      .real (if negative then value.neg else value)

def ofCodes (cells : List Cell) : Cell :=
  ofChars <| cells.map fun c =>
    let n := c.toInt
    if n < 0 ∨ 1114111 < n then Text.replacement else Char.ofNat n.toNat

def longRealText (x : Double) : String :=
  let short := realText x
  if (Numeral.ofChars short.toList).value.sameValue x then short
  else
    let negative := x.less (.zero false)
    let d := DecimalDigits.dropZeros 20 (longDigits (if negative then x.neg else x))
    let style : NumberStyle := ⟨1, 0, false, true, true, 2, false, .away⟩
    (if negative then "-" else "") ++ String.ofList (style.digitChars d)

def literalText : Cell → String
  | .null => "NULL"
  | .integer n => toString n
  | .real (.infinite negative) => if negative then "-9.0e+999" else "9.0e+999"
  | .real x => longRealText x
  | .text s => String.ofList (enclose '\'' (String.ofList (Cell.text s).visible))
  | .blob bytes => "X'" ++ Token.hexText bytes ++ "'"

/-- The bytes that pairs of digits of base sixteen write, between which characters of a set may
stand. -/
def unhexed? (set : List Char) : List Char → Option (List UInt8)
  | [] => some []
  | [c] => if !isHexDigit c && set.contains c then some [] else none
  | c :: d :: rest =>
    if isHexDigit c then
      if isHexDigit d then (unhexed? set rest).map (hexBytes [c, d] ++ ·) else none
    else if set.contains c then unhexed? set (d :: rest)
    else none

def unhexed (c set : Cell) : Cell :=
  if c.isNull || set.isNull then .null
  else ((unhexed? set.chars c.visible).map Cell.blob).getD .null

/-- The cell that comes first in an order; of equal cells the last one if `later` says so. -/
def choose (precedes : Ordering → Bool) (collation : Collation) : List Cell → Cell
  | [] => .null
  | c :: cs =>
    if (c :: cs).any isNull then .null
    else cs.foldl (fun best c => if precedes (best.orderBy collation c) then c else best) c

def joinTexts (separator : List Char) (cells : List Cell) : Cell :=
  ofChars (List.intercalate separator ((cells.filter fun c => !c.isNull).map chars))

def soundOf (b : UInt8) : Nat :=
  let letters : List (List Char) := [['B', 'F', 'P', 'V'], ['C', 'G', 'J', 'K', 'Q', 'S', 'X', 'Z'],
    ['D', 'T'], ['L'], ['M', 'N'], ['R']]
  let c := (Char.ofNat (b.toNat % 128)).toUpper
  ((letters.findIdx? fun group => group.contains c).map (· + 1)).getD 0

/-- The digits of sounds, of which one that follows itself counts once. -/
def soundDigits : Nat → List UInt8 → List Char
  | _, [] => []
  | last, b :: bs =>
    let sound := soundOf b
    if sound = 0 ∨ sound = last then soundDigits sound bs
    else Nat.digitChar sound :: soundDigits sound bs

def sounds (c : Cell) : String :=
  let isLetter (b : UInt8) : Bool := b < 128 && (Char.ofNat b.toNat).isAlpha
  match (Text.encode (String.ofList c.visible)).dropWhile fun b => !isLetter b with
  | [] => "?000"
  | b :: bs =>
    let digits := (soundDigits (soundOf b) bs).take 3
    String.ofList <|
      (Char.ofNat b.toNat).toUpper :: digits ++ List.replicate (3 - digits.length) '0'

def applied (collation : Collation) (function : String) (arguments : List Cell) : Cell :=
  match foldName function, arguments with
  | "unicode_upper", [c] => c.upper
  | "strftime", format :: rest => Moment.formatted format rest
  | "abs", [c] => c.magnitude
  | "char", cs => ofCodes cs
  | "coalesce", cs | "ifnull", cs => (cs.find? fun c => !c.isNull).getD .null
  | "concat", cs => joinTexts [] cs
  | "concat_ws", separator :: cs => separator.unlessNull fun s => joinTexts s.chars cs
  | "date", cs => Moment.dateText cs
  | "datetime", cs => Moment.fullText cs
  | "time", cs => Moment.clockText cs
  | "julianday", cs => Moment.dayCell cs
  | "unixepoch", cs => Moment.secondsCell cs
  | "format", template :: cs | "printf", template :: cs => Template.fill template cs
  | "glob", [pattern, c] => ofTruth (c.glob pattern)
  | "like", [pattern, c] => ofTruth (c.like pattern (.text ""))
  | "like", [pattern, c, escape] => ofTruth (c.like pattern escape)
  | "hex", [c] => .text (Token.hexText c.bytes)
  | "if", [test, c] | "iif", [test, c] => if test.truth == .yes then c else .null
  | "if", [test, a, b] | "iif", [test, a, b] => if test.truth == .yes then a else b
  | "instr", [a, b] => a.instr b
  | "length", [c] => c.length
  | "octet_length", [c] => c.unlessNull fun c => .integer c.bytes.length
  | "likely", [c] | "unlikely", [c] | "likelihood", [c, _] => c
  | "lower", [c] => c.unlessNull fun c => ofChars (c.chars.map Char.toLower)
  | "upper", [c] => c.unlessNull fun c => ofChars (c.chars.map Char.toUpper)
  | "ltrim", cs => trimmed dropStart cs
  | "rtrim", cs => trimmed dropEnd cs
  | "trim", cs => trimmed (fun set cs => dropEnd set (dropStart set cs)) cs
  | "max", cs => choose (· == .lt) collation cs
  | "min", cs => choose (· != .lt) collation cs
  | "nullif", [a, b] => if a.orderBy collation b == .eq then .null else a
  | "quote", [c] => .text c.literalText
  | "replace", [c, part, other] => c.replaced part other
  | "round", [c] => c.rounded (.integer 0)
  | "round", [c, places] => c.rounded places
  | "sign", [c] => c.signCell
  | "soundex", [c] => .text c.sounds
  | "sqlite_version", [] => .text "3.48.0"
  | "substr", [c, start] | "substring", [c, start] => c.part start none
  | "substr", [c, start, length] | "substring", [c, start, length] => c.part start (some length)
  | "typeof", [c] => .text c.kindName
  | "unhex", [c] => c.unhexed (.text "")
  | "unhex", [c, set] => c.unhexed set
  | "unicode", [c] =>
    (c.visible.head?.map fun c => Cell.integer c.toNat).getD .null
  | "zeroblob", [c] => .blob (if longest < c.toInt then [] else List.replicate c.toInt.toNat 0)
  | "random", _ => .integer 0
  | _, _ => .null

/-- A running sum with the error that rounding has left so far. -/
def addCompensated (s : DoublePair) (x : Double) : DoublePair :=
  let t := s.head.add x
  let magnitude (y : Double) := if y.less (.zero false) then y.neg else y
  let error := if (magnitude x).less (magnitude s.head) then (s.head.sub t).add x
    else (x.sub t).add s.head
  ⟨t, s.tail.add error⟩

def realSum (cells : List Cell) : Double :=
  (cells.foldl (fun s c => addCompensated s c.toReal) ⟨.zero false, .zero false⟩).sum

/-- The sum of cells: an integer if all of them are. -/
def sumOf (cells : List Cell) : Cell :=
  if cells.isEmpty then .null
  else
    let numbers := cells.map numeral
    let whole? (c : Cell) : Option Int := match c with
      | .integer n => some n
      | _ => none
    match numbers.mapM whole? with
    | some ns => .integer (ns.foldl (· + ·) 0)
    | none => ofDouble (realSum numbers)

/-- The value of a function of groups. Each row gives the cells of its arguments, and rows whose
first one is missing do not count. -/
def gathered (collation : Collation) (function : String) (rows : List (List Cell)) : Cell :=
  let present := rows.filter fun row => row.head?.all fun c => !c.isNull
  let cells := present.filterMap List.head?
  match foldName function with
  | "count" => .integer present.length
  | "sum" => sumOf cells
  | "total" => ofDouble (realSum cells)
  | "avg" =>
    if cells.isEmpty then .null else ofDouble ((realSum cells).div (.ofInt cells.length))
  | "max" => choose (· == .lt) collation cells
  | "min" => choose (· == .gt) collation cells
  | "group_concat" | "string_agg" =>
    match present with
    | [] => .null
    | first :: rest =>
      let separator (row : List Cell) := match row with
        | _ :: s :: _ => s.chars
        | _ => [',']
      ofChars ((first.head?.getD .null).chars ++
        rest.flatMap fun row => separator row ++ (row.head?.getD .null).chars)
  | _ => .null

end Cell

end CriteriaSearch.Sql
