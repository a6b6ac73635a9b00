import CriteriaSearch.Number.Reader
import CriteriaSearch.Sql.Token

namespace CriteriaSearch.Sql

/-- A token with the text from its first character on and the text after it. -/
structure Lexeme where
  token : Token
  start : List Char
  rest : List Char
  deriving Repr

namespace Lexeme

def source (l : Lexeme) : List Char := l.start.take (l.start.length - l.rest.length)

end Lexeme

def isEnd (c : Char) : Bool := c.toNat == 0

/-- White space between tokens; a mark of byte order counts as such. -/
def isSpace (c : Char) : Bool :=
  c == ' ' || (9 ≤ c.toNat && c.toNat ≤ 13 && c.toNat != 11) || c.toNat == 0xFEFF

def isNameStart (c : Char) : Bool := c.isAlpha || c == '_' || 128 ≤ c.toNat

def isNamePart (c : Char) : Bool := isNameStart c || isDigit c || c == '$'

/-- The bytes that digits of base sixteen write, two each; an odd digit at the end is dropped. -/
def hexBytes : List Char → List UInt8
  | a :: b :: rest =>
    UInt8.ofNat ((hexDigit? a).getD 0 * 16 + (hexDigit? b).getD 0) :: hexBytes rest
  | _ => []

/-- The text after a comment of several lines, which may be left open. -/
def skipComment : List Char → List Char
  | '*' :: '/' :: rest => rest
  | c :: rest => if isEnd c then [] else skipComment rest
  | [] => []

def readEnclosed? (quote : Char) (seen : List Char) : List Char → Option (String × List Char)
  | [] => none
  | [c] => if c = quote then some (String.ofList seen.reverse, []) else none
  | c :: d :: rest =>
    if c = quote then
      if d = quote then readEnclosed? quote (quote :: seen) rest
      else some (String.ofList seen.reverse, d :: rest)
    else if isEnd c then none
    else readEnclosed? quote (c :: seen) (d :: rest)

/-- A token between quotes; all of the text is broken if the quotes are not closed. -/
def readQuotes (quote : Char) (make : String → Token) (rest : List Char) : Token × List Char :=
  match readEnclosed? quote [] rest with
  | some (s, after) => (make s, after)
  | none => (.broken (String.ofList ((quote :: rest).takeWhile fun c => !isEnd c)), [])

def readBrackets (rest : List Char) : Token × List Char :=
  let name := rest.takeWhile fun c => c != ']' && !isEnd c
  match rest.drop name.length with
  | ']' :: after => (.name (String.ofList name), after)
  | _ => (.broken (String.ofList ('[' :: name)), [])

def readBlob (letter : Char) (rest : List Char) : Token × List Char :=
  let digits := rest.takeWhile isHexDigit
  match rest.drop digits.length with
  | '\'' :: after =>
    if digits.length % 2 = 0 then (.blob (hexBytes digits), after)
    else (.broken (String.ofList (letter :: '\'' :: digits ++ ['\''])), after)
  | _ =>
    let all := rest.takeWhile fun c => c != '\'' && !isEnd c
    let after := rest.drop all.length
    let closed := after.takeWhile (· == '\'') |>.take 1
    (.broken (String.ofList (letter :: '\'' :: all ++ closed)), after.drop closed.length)

def spanDigits (isOne : Char → Bool) : List Char → List Char × List Char
  | [] => ([], [])
  | c :: rest =>
    if isOne c then
      let (more, after) := spanDigits isOne rest
      (c :: more, after)
    else
      match rest with
      | d :: _ =>
        if c = '_' ∧ isOne d = true then
          let (more, after) := spanDigits isOne rest
          (c :: more, after)
        else ([], c :: rest)
      | [] => ([], [c])

def spanFraction : List Char → List Char × List Char
  | '.' :: rest =>
    match rest with
    | c :: _ =>
      if isDigit c then
        let (digits, after) := spanDigits isDigit rest
        ('.' :: digits, after)
      else (['.'], rest)
    | [] => (['.'], [])
  | rest => ([], rest)

def spanExponent : List Char → List Char × List Char
  | e :: rest =>
    if e = 'e' ∨ e = 'E' then
      let sign := (rest.take 1).filter fun c => c == '+' || c == '-'
      match rest.drop sign.length with
      | c :: _ =>
        if isDigit c then
          let (digits, after) := spanDigits isDigit (rest.drop sign.length)
          (e :: sign ++ digits, after)
        else ([], e :: rest)
      | [] => ([], e :: rest)
    else ([], e :: rest)
  | [] => ([], [])

def spanNumber (cs : List Char) : List Char × List Char :=
  match cs with
  | '0' :: x :: d :: rest =>
    if (x = 'x' ∨ x = 'X') ∧ isHexDigit d = true then
      let (digits, after) := spanDigits isHexDigit (d :: rest)
      ('0' :: x :: digits, after)
    else spanDecimal cs
  | cs => spanDecimal cs
where
  spanDecimal (cs : List Char) : List Char × List Char :=
    let (whole, rest) := if cs.head?.any isDigit then spanDigits isDigit cs else ([], cs)
    let (fraction, rest) := spanFraction rest
    let (exponent, rest) := spanExponent rest
    (whole ++ fraction ++ exponent, rest)

def readNumber (cs : List Char) : Token × List Char :=
  let (digits, rest) := spanNumber cs
  let joined := rest.takeWhile isNamePart
  -- No name may follow a number at once.
  if joined = [] then (.number (String.ofList (digits.filter (· != '_'))), rest)
  else (.broken (String.ofList (digits ++ joined)), rest.drop joined.length)

def longSigns : List String := ["->>", "->", "<>", "<=", "<<", ">=", ">>", "!=", "==", "||"]

def shortSigns : List Char :=
  ['(', ')', ',', ';', '=', '<', '>', '*', '+', '-', '/', '.', '%', '&', '|', '~']

def readSign (c : Char) (rest : List Char) : Token × List Char :=
  match longSigns.find? fun sign => sign.toList.isPrefixOf (c :: rest) with
  | some sign => (.symbol sign, (c :: rest).drop sign.length)
  | none =>
    if shortSigns.contains c then (.symbol (String.singleton c), rest)
    else (.broken (String.singleton c), rest)

/-- A parameter with a name, which is given no value. A number after `#` is no name. -/
def readNamedParam (c : Char) (rest : List Char) : Token × List Char :=
  let name := rest.takeWhile isNamePart
  let sign := String.ofList (c :: name)
  if name = [] then (.broken sign, rest)
  else if c == '#' && name.head?.any isDigit then (.symbol sign, rest.drop name.length)
  else (.param 0, rest.drop name.length)

def readToken (c : Char) (rest : List Char) : Token × List Char :=
  if c = '"' then readQuotes '"' .quoted rest
  else if c = '\'' then readQuotes '\'' .text rest
  -- The third sign that encloses names, a grave accent.
  else if c.toNat = 96 then readQuotes c .name rest
  else if c = '[' then readBrackets rest
  else if c = '?' then
    (.param (digitsValue 0 (rest.takeWhile isDigit)), rest.dropWhile isDigit)
  else if c = ':' ∨ c = '@' ∨ c = '$' ∨ c = '#' then readNamedParam c rest
  else if isDigit c || (c == '.' && rest.head?.any isDigit) then readNumber (c :: rest)
  else
    match rest with
    | '\'' :: digits =>
      if c = 'x' ∨ c = 'X' then readBlob c digits
      else if isNameStart c then (.ofWord (String.singleton c), rest)
      else readSign c rest
    | rest =>
      if isNameStart c then
        (.ofWord (String.ofList ((c :: rest).takeWhile isNamePart)),
          (c :: rest).dropWhile isNamePart)
      else readSign c rest

def Token.isBroken : Token → Bool
  | .broken _ => true
  | _ => false

/-- The lexemes of a text up to its end or to a broken token. -/
def lex : Nat → List Char → List Lexeme
  | 0, _ => []
  | _ + 1, [] => []
  | fuel + 1, '-' :: '-' :: rest => lex fuel (rest.dropWhile fun c => c != '\n' && !isEnd c)
  | fuel + 1, '/' :: '*' :: c :: rest => lex fuel (skipComment (c :: rest))
  | fuel + 1, c :: rest =>
    if isEnd c then []
    else if isSpace c then lex fuel rest
    else
      let (token, after) := readToken c rest
      ⟨token, c :: rest, after⟩ :: if token.isBroken then [] else lex fuel after

def lexemes (cs : List Char) : List Lexeme := lex (cs.length + 1) cs

end CriteriaSearch.Sql
