namespace CriteriaSearch.Text

def encode (s : String) : List UInt8 := s.toUTF8.toList

def replacement : Char := Char.ofNat 0xFFFD

/-- The bounds of the second byte of a form and how many bytes follow the first, by the first. -/
def formOf? (first : UInt8) : Option (UInt8 × UInt8 × Nat) :=
  if 0xC2 ≤ first ∧ first ≤ 0xDF then some (0x80, 0xBF, 1)
  else if first = 0xE0 then some (0xA0, 0xBF, 2)
  else if first = 0xED then some (0x80, 0x9F, 2)
  else if 0xE1 ≤ first ∧ first ≤ 0xEF then some (0x80, 0xBF, 2)
  else if first = 0xF0 then some (0x90, 0xBF, 3)
  else if 0xF1 ≤ first ∧ first ≤ 0xF3 then some (0x80, 0xBF, 3)
  else if first = 0xF4 then some (0x80, 0x8F, 3)
  else none

/-- The bytes that continue a form, at most `count` of them, of which the first has bounds of its
own. -/
def continuations (low high : UInt8) : Nat → List UInt8 → List UInt8
  | 0, _ => []
  | _, [] => []
  | count + 1, b :: bs =>
    if low ≤ b ∧ b ≤ high then b :: continuations 0x80 0xBF count bs else []

def charOf (first : UInt8) (rest : List UInt8) (count : Nat) : Char :=
  let start := first.toNat % (match count with | 1 => 32 | 2 => 16 | _ => 8)
  Char.ofNat (rest.foldl (fun n b => n * 64 + b.toNat % 64) start)

def decodeChars : Nat → List UInt8 → List Char
  | 0, _ => []
  | _, [] => []
  | fuel + 1, b :: bs =>
    if b < 0x80 then Char.ofNat b.toNat :: decodeChars fuel bs
    else
      match formOf? b with
      | none => replacement :: decodeChars fuel bs
      | some (low, high, count) =>
        let rest := continuations low high count bs
        (if rest.length = count then charOf b rest count else replacement) ::
          decodeChars fuel (bs.drop rest.length)

def decode (bytes : List UInt8) : String := String.ofList (decodeChars bytes.length bytes)

end CriteriaSearch.Text
