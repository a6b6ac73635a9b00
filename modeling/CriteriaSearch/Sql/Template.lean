import CriteriaSearch.Calendar.Date
import CriteriaSearch.Sql.Operation

/-!
# Templates

A template is a text with directives. A directive starts with a percent sign, ends in a letter and
stands for the next argument, written in the way that the letter names. Between the two there may be
flags, a width and a precision, and an asterisk takes one of these two from the arguments.
-/

namespace CriteriaSearch.Sql

inductive Conversion where
  | decimal (isSigned : Bool)
  | ordinal
  /-- The bits of an integer in a base, after a mark if there is the flag for it. -/
  | bits (base : Nat) (isUpper : Bool) (mark : List Char)
  | places
  | exponent (letter : Char)
  /-- Places or an exponent, whichever suits the number. -/
  | general (letter : Char)
  | text
  | character
  /-- A text in which a sign is written twice, and which may stand between two of them. -/
  | quoted (sign : Char) (isEnclosed : Bool)
  | percent
  | nothing
  deriving DecidableEq, Repr

inductive Amount where
  | fixed (n : Nat)
  | argument
  deriving DecidableEq, Repr

/-- A directive. It has no conversion if its letter names none. -/
structure Directive where
  flags : List Char
  width : Amount
  precision : Option Amount
  conversion : Option Conversion
  deriving DecidableEq, Repr

inductive TemplatePart where
  | plain (c : Char)
  | directive (d : Directive)
  deriving DecidableEq, Repr

/-! ## Reading -/

namespace Conversion

def ofLetter? : Char → Option Conversion
  | 'd' | 'i' => some (.decimal true)
  | 'u' => some (.decimal false)
  | 'r' => some .ordinal
  | 'o' => some (.bits 8 false ['0'])
  | 'x' => some (.bits 16 false ['0', 'x'])
  | 'X' => some (.bits 16 true ['0', 'X'])
  | 'p' => some (.bits 16 true ['0', 'x'])
  | 'f' => some .places
  | 'e' => some (.exponent 'e')
  | 'E' => some (.exponent 'E')
  | 'g' => some (.general 'e')
  | 'G' => some (.general 'E')
  | 's' | 'z' => some .text
  | 'c' => some .character
  | 'q' => some (.quoted '\'' false)
  | 'Q' => some (.quoted '\'' true)
  | 'w' => some (.quoted '"' false)
  | '%' => some .percent
  | 'n' => some .nothing
  | _ => none

end Conversion

namespace Amount

/-- Reads an asterisk or digits; no digits are zero. -/
def read : List Char → Amount × List Char
  | '*' :: rest => (.argument, rest)
  | cs => (.fixed (digitsValue 0 (cs.takeWhile isDigit) % 2147483648), cs.dropWhile isDigit)

def take (arguments : List Cell) : Amount → Int × List Cell
  | .fixed n => (n, arguments)
  | .argument => ((arguments.headD .null).toInt.bmod 4294967296, arguments.drop 1)

end Amount

namespace Directive

def isFlag (c : Char) : Bool := ['-', '+', ' ', '#', '!', '0', ','].contains c

/-- The characters after a letter for the size of an integer, which does not matter. -/
def dropSize : List Char → List Char
  | 'l' :: 'l' :: rest => rest
  | 'l' :: rest => rest
  | cs => cs

def read (cs : List Char) : Directive × List Char :=
  let (width, afterWidth) := Amount.read (cs.dropWhile isFlag)
  let (precision, rest) := match afterWidth with
    | '.' :: more =>
      let (amount, rest) := Amount.read more
      (some amount, rest)
    | rest => (none, rest)
  match dropSize rest with
  | c :: rest => (⟨cs.takeWhile isFlag, width, precision, Conversion.ofLetter? c⟩, rest)
  | [] => (⟨cs.takeWhile isFlag, width, precision, none⟩, [])

end Directive

namespace TemplatePart

/-- The parts of a template, up to `fuel` of them. A percent sign at the end stands for itself. -/
def readAll : Nat → List Char → List TemplatePart
  | 0, _ | _, [] => []
  | _, ['%'] => [.plain '%']
  | fuel + 1, '%' :: cs =>
    let (d, rest) := Directive.read cs
    .directive d :: readAll fuel rest
  | fuel + 1, c :: cs => .plain c :: readAll fuel cs

end TemplatePart

/-! ## Writing -/

structure Layout where
  flags : List Char
  isLeft : Bool
  width : Nat
  precision : Option Nat
  deriving DecidableEq, Repr

/-- An argument as it is written, and the width that this counts as. -/
structure Written where
  chars : List Char
  size : Nat
  deriving DecidableEq, Repr

structure PointedDigits where
  digits : List Char
  point : Int
  deriving DecidableEq, Repr

namespace Directive

def layout (d : Directive) (arguments : List Cell) : Layout × List Cell :=
  let (width, arguments) := d.width.take arguments
  let (precision, arguments) := match d.precision with
    | some amount => ((amount.take arguments).map some id)
    | none => (none, arguments)
  let known (n : Int) : Option Nat := if n = -2147483648 then none else some n.natAbs
  (⟨d.flags, d.flags.contains '-' || width < 0, (known width).getD 0, precision.bind known⟩,
    arguments)

end Directive

namespace Written

def ofChars (cs : List Char) : Written := ⟨cs, cs.length⟩

def aligned (w : Written) (l : Layout) : List Char :=
  let blanks := List.replicate (l.width - w.size) ' '
  if l.isLeft then w.chars ++ blanks else blanks ++ w.chars

end Written

namespace PointedDigits

/-- The digits of a number that is not negative, rounded to so many of them, or to so many places
after the point if that is less than one. At most `most` digits are kept. -/
def ofRounded (wanted : Int) (most : Nat) (x : Double) : PointedDigits :=
  if x.sameValue (.zero false) then ⟨['0'], 1⟩
  else
    let long := longDigits x
    let digits := Nat.toDigits 10 long.coefficient
    let point : Int := digits.length + long.exponent
    let keep := if wanted ≤ 0 then point - wanted else wanted
    let kept := (min keep most).toNat
    let unit := tenTo (digits.length - kept)
    let rounded := (2 * long.coefficient + unit) / (2 * unit)
    let (digits, point) :=
      if 0 ≤ keep ∧ (keep < digits.length ∨ most < digits.length) ∧ rounded ≠ 0 then
        let digits := Nat.toDigits 10 rounded
        (digits, point + (digits.length - kept : Int))
      else (digits, point)
    ⟨(digits.reverse.dropWhile (· == '0')).reverse, point⟩

end PointedDigits

namespace Layout

def has (l : Layout) (flag : Char) : Bool := l.flags.contains flag

def sign (l : Layout) : List Char :=
  ((l.flags.reverse.find? fun c => c == '+' || c == ' ').map fun c => [c]).getD []

def grouped (digits : List Char) : List Char :=
  (digits.zipIdx.map fun (c, i) =>
    if 0 < i ∧ (digits.length - i) % 3 = 0 then [',', c] else [c]).flatten

def integerChars (l : Layout) (sign mark digits : List Char) (isGrouped : Bool) : List Char :=
  let least := max (l.precision.getD 0) (if l.has '0' then l.width - sign.length else 0)
  let padded := List.replicate (least - digits.length) '0' ++ digits
  mark ++ sign ++ (if isGrouped then grouped padded else padded)

def ordinalEnd (n : Nat) : List Char :=
  if n / 10 % 10 = 1 then ['t', 'h']
  else
    match n % 10 with
    | 1 => ['s', 't']
    | 2 => ['n', 'd']
    | 3 => ['r', 'd']
    | _ => ['t', 'h']

def signOf (l : Layout) (n : Int) : List Char := if n < 0 then ['-'] else l.sign

def bitsOf (n : Int) : Nat := (n % 18446744073709551616).toNat

def bitChars (l : Layout) (base : Nat) (isUpper : Bool) (mark : List Char) (n : Int) :
    List Char :=
  let digits := Nat.toDigits base (bitsOf n)
  l.integerChars [] (if l.has '#' && n != 0 then mark else [])
    (if isUpper then digits.map Char.toUpper else digits) false

def wholeChars (l : Layout) (digits : List Char) (most : Int) : List Char :=
  if most < 0 then ['0']
  else
    let count := most.toNat + 1
    let digits := digits.take count ++ List.replicate (count - digits.length) '0'
    if l.has ',' then grouped digits else digits

def fractionChars (digits : List Char) (most : Int) (places : Nat) (isFilled : Bool) :
    List Char :=
  let rest := if most < 0 then List.replicate (-1 - most).toNat '0' ++ digits
    else digits.drop (most.toNat + 1)
  let shown := rest.take places
  if isFilled then shown ++ List.replicate (places - shown.length) '0' else shown

def exponentChars (letter : Char) (e : Int) : List Char :=
  letter :: (if e < 0 then '-' else '+') :: Date.padded 2 e.natAbs

/-- A number without its sign, in places or with an exponent after `letter`. Zeros at its end are
dropped if it is `trimmed`. -/
def realDigits (l : Layout) (d : PointedDigits) (places : Nat) (letter : Option Char)
    (trimmed : Bool) : List Char :=
  let most := if letter.isSome then 0 else d.point - 1
  let hasPoint := 0 < places || l.has '#' || l.has '!'
  let fraction := fractionChars d.digits most places (!trimmed)
  let fraction := if trimmed then (fraction.reverse.dropWhile (· == '0')).reverse else fraction
  let fraction := if fraction.isEmpty && trimmed && l.has '!' then ['0'] else fraction
  l.wholeChars d.digits most ++
    (if hasPoint && !(fraction.isEmpty && trimmed) then '.' :: fraction else fraction) ++
    letter.elim [] fun c => exponentChars c (d.point - 1)

/-- A number between its sign and its exponent. Zeros may fill its width after the sign. -/
def realChars (l : Layout) (sign digits : List Char) : List Char :=
  let missing := l.width - sign.length - digits.length
  sign ++ (if l.has '0' && !l.isLeft then List.replicate missing '0' else []) ++ digits

def ofReal (l : Layout) (conversion : Conversion) (x : Double) : List Char :=
  let isNegative := x.less (.zero false)
  let magnitude := if isNegative then x.neg else x
  let given := l.precision.getD 6
  let precision : Nat := match conversion with
    | .general _ => max given 1
    | _ => given
  let wanted : Int := match conversion with
    | .places => -precision
    | .general _ => precision
    | _ => precision + 1
  let sign := if isNegative then ['-'] else l.sign
  if !x.isFinite && !l.has '0' then sign ++ ['I', 'n', 'f']
  else
    let d := if x.isFinite then
        PointedDigits.ofRounded wanted (if l.has '!' then 26 else 16) magnitude
      else ⟨['9'], 1000⟩
    let e := d.point - 1
    match conversion with
    | .exponent c => l.realChars sign (l.realDigits d precision (some c) (l.has '!'))
    | .general c =>
      l.realChars sign <|
        if e < -4 ∨ (precision : Int) - 1 < e then
          l.realDigits d (precision - 1) (some c) (!l.has '#')
        else l.realDigits d (precision - 1 - e).toNat none (!l.has '#')
    | _ =>
      let isZero := l.has '#' && l.sign.isEmpty && d.point ≤ wanted
      l.realChars (if isNegative && isZero then [] else sign)
        (l.realDigits d precision none (l.has '!'))

/-- The characters that a text begins with, as far as the precision goes, which counts bytes unless
a flag says otherwise. -/
def cut (l : Layout) (cs : List Char) : List Char :=
  match l.precision with
  | none => cs
  | some n =>
    if l.has '!' then cs.take n
    else (Text.decode ((Text.encode (String.ofList cs)).take n)).toList

def textWritten (l : Layout) (cs : List Char) : Written :=
  ⟨cs, if l.has '!' then cs.length else (String.ofList cs).utf8ByteSize⟩

def quotedChars (l : Layout) (sign : Char) (isEnclosed : Bool) (c : Cell) : List Char :=
  let inner := match c with
    | .null => l.cut (if isEnclosed then "NULL".toList else "(NULL)".toList)
    | c => l.cut c.visible
  let doubled := inner.flatMap fun c => if c == sign then [c, c] else [c]
  if isEnclosed && !c.isNull then sign :: doubled ++ [sign] else doubled

def written (l : Layout) (conversion : Conversion) (c : Cell) : Written :=
  match conversion with
  | .decimal true =>
    .ofChars (l.integerChars (l.signOf c.toInt) [] (Nat.toDigits 10 c.toInt.natAbs) (l.has ','))
  | .decimal false =>
    .ofChars (l.integerChars [] [] (Nat.toDigits 10 (bitsOf c.toInt)) (l.has ','))
  | .ordinal =>
    let n := c.toInt.natAbs
    .ofChars (l.integerChars (l.signOf c.toInt) [] (Nat.toDigits 10 n ++ ordinalEnd n) false)
  | .bits base isUpper mark => .ofChars (l.bitChars base isUpper mark c.toInt)
  | .places | .exponent _ | .general _ => .ofChars (l.ofReal conversion c.toReal)
  | .text => l.textWritten (l.cut c.visible)
  | .character =>
    let shown := c.visible.headD (Char.ofNat 0)
    .ofChars (List.replicate (max (l.precision.getD 1) 1) shown)
  | .quoted sign isEnclosed => l.textWritten (l.quotedChars sign isEnclosed c)
  | .percent => .ofChars ['%']
  | .nothing => ⟨[], l.width⟩

end Layout

namespace Conversion

def takesArgument : Conversion → Bool
  | .percent | .nothing => false
  | _ => true

end Conversion

namespace Template

def isExcessive (l : Layout) : Conversion → Bool
  | .text | .quoted .. | .percent => Cell.longest < l.width
  | .nothing => false
  | _ => Cell.longest < l.width || l.precision.any (Cell.longest < ·)

/-- The pieces of a text that parts of a template make of arguments, unless it would be too long. A
directive that names no conversion ends the text. -/
def pieces? : List TemplatePart → List Cell → Option (List (List Char))
  | [], _ => some []
  | .plain c :: parts, arguments => (pieces? parts arguments).map ([c] :: ·)
  | .directive d :: parts, arguments =>
    match d.conversion with
    | none => some []
    | some conversion =>
      let (l, arguments) := d.layout arguments
      let rest := if conversion.takesArgument then arguments.drop 1 else arguments
      if isExcessive l conversion then none
      else
        let piece := (l.written conversion (arguments.headD .null)).aligned l
        (pieces? parts rest).map (piece :: ·)

/-- The text that a template makes of arguments; one that makes no pieces is missing. -/
def fill (template : Cell) (arguments : List Cell) : Cell :=
  let cs := template.visible
  match pieces? (TemplatePart.readAll cs.length cs) arguments with
  | none | some [] => .null
  | some ps => .text (String.ofList ps.flatten)

end Template

end CriteriaSearch.Sql
