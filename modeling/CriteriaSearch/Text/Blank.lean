namespace CriteriaSearch.Text

def isBlank (c : Char) : Bool :=
  let n := c.toNat
  (9 ≤ n && n ≤ 13) || n == 0x20 || n == 0x85 || n == 0xA0 || n == 0x1680 ||
    (0x2000 ≤ n && n ≤ 0x200A) || n == 0x2028 || n == 0x2029 || n == 0x202F ||
    n == 0x205F || n == 0x3000

def skipBlank (cs : List Char) : List Char := cs.dropWhile isBlank

def trimChars (cs : List Char) : List Char := (skipBlank (skipBlank cs).reverse).reverse

def trim (s : String) : String := String.ofList (trimChars s.toList)

/-- A text is blank when all of its characters are; the empty text is blank. -/
def isBlankText (s : String) : Bool := s.toList.all isBlank

theorem skipBlank_cons_of_not_blank {c : Char} {cs : List Char} (h : isBlank c = false) :
    skipBlank (c :: cs) = c :: cs := by
  simp [skipBlank, h]

end CriteriaSearch.Text
