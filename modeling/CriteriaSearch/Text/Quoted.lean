import CriteriaSearch.Text.UnprintedTable

namespace CriteriaSearch.Text

def inRuns (runs : List (Nat × Nat)) (n : Nat) : Bool :=
  runs.any fun (first, last) => first ≤ n && n ≤ last

def isUnprinted (n : Nat) : Bool :=
  if n < 0x20 then true
  else if n < 0x7F then false
  else if n < 0x1000 then inRuns unprintedLow n
  else if n < 0x10000 then inRuns unprintedMiddle n
  else inRuns unprintedHigh n

def quotedChar (c : Char) : List Char :=
  match c with
  | '"' => ['\\', '"']
  | '\\' => ['\\', '\\']
  | '\n' => ['\\', 'n']
  | '\r' => ['\\', 'r']
  | '\t' => ['\\', 't']
  | c =>
    if c.toNat = 0 then ['\\', '0']
    else if isUnprinted c.toNat then ['\\', 'u', '{'] ++ Nat.toDigits 16 c.toNat ++ ['}']
    else [c]

def quoted (s : String) : String :=
  String.ofList ('"' :: s.toList.flatMap quotedChar ++ ['"'])

end CriteriaSearch.Text
