import CriteriaSearch.Json.Basic
import CriteriaSearch.Number.Notation

namespace CriteriaSearch.Json

def hexDigit (n : Nat) : Char := Nat.digitChar (n % 16)

def escapeChar (c : Char) : List Char :=
  match c with
  | '"' => ['\\', '"']
  | '\\' => ['\\', '\\']
  | '\x08' => ['\\', 'b']
  | '\x0c' => ['\\', 'f']
  | '\n' => ['\\', 'n']
  | '\r' => ['\\', 'r']
  | '\t' => ['\\', 't']
  | c =>
    if c.toNat < 0x20 then ['\\', 'u', '0', '0', hexDigit (c.toNat / 16), hexDigit c.toNat]
    else [c]

def quoted (s : String) : List Char := '"' :: s.toList.flatMap escapeChar ++ ['"']

def floatChars (x : Double) : List Char :=
  if x.isFinite then x.chars .json else ['n', 'u', 'l', 'l']

mutual

def chars : Json → List Char
  | .null => ['n', 'u', 'l', 'l']
  | .boolean true => ['t', 'r', 'u', 'e']
  | .boolean false => ['f', 'a', 'l', 's', 'e']
  | .integer n => (toString n).toList
  | .float x => floatChars x
  | .text s => quoted s
  | .array [] => ['[', ']']
  | .array (item :: items) => '[' :: chars item ++ itemChars items ++ [']']
  | .object [] => ['{', '}']
  | .object ((name, value) :: fields) =>
    '{' :: quoted name ++ ':' :: chars value ++ fieldChars fields ++ ['}']

def itemChars : List Json → List Char
  | [] => []
  | item :: items => ',' :: chars item ++ itemChars items

def fieldChars : List (String × Json) → List Char
  | [] => []
  | (name, value) :: fields =>
    ',' :: quoted name ++ ':' :: chars value ++ fieldChars fields

end

def compact (j : Json) : String := String.ofList j.chars

def newLine (depth : Nat) : List Char := '\n' :: List.replicate (2 * depth) ' '

mutual

/-- A value with one item or field a line, `depth` levels deep. -/
def prettyChars (depth : Nat) : Json → List Char
  | .array (item :: items) =>
    '[' :: newLine (depth + 1) ++ prettyChars (depth + 1) item ++
      prettyItems (depth + 1) items ++ newLine depth ++ [']']
  | .object ((name, value) :: fields) =>
    '{' :: newLine (depth + 1) ++ quoted name ++ [':', ' '] ++ prettyChars (depth + 1) value ++
      prettyFields (depth + 1) fields ++ newLine depth ++ ['}']
  | j => chars j

def prettyItems (depth : Nat) : List Json → List Char
  | [] => []
  | item :: items =>
    ',' :: newLine depth ++ prettyChars depth item ++ prettyItems depth items

def prettyFields (depth : Nat) : List (String × Json) → List Char
  | [] => []
  | (name, value) :: fields =>
    ',' :: newLine depth ++ quoted name ++ [':', ' '] ++ prettyChars depth value ++
      prettyFields depth fields

end

def pretty (j : Json) : String := String.ofList (prettyChars 0 j)

end CriteriaSearch.Json
