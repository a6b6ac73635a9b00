import CriteriaSearch.Sql.Token

/-!
# Patterns of texts

A pattern is a text in which one sign stands for any characters, another for any one character, and
an escape sign takes away the meaning of the next. Letters of ASCII match in both cases. A second
kind of patterns has sets of characters instead of an escape sign and tells letters apart.
-/

namespace CriteriaSearch.Sql

inductive PatternItem where
  | anyText
  | anyChar
  | char (c : Char)
  | oneOf (negated : Bool) (ranges : List (Char × Char))
  deriving DecidableEq, Repr

/-- A text as patterns see it: it ends before the character with the code zero, and the two codes
that are no characters look like the replacement character. -/
def visibleChars (cs : List Char) : List Char :=
  (cs.takeWhile fun c => c.toNat != 0).map fun c =>
    if c.toNat = 0xFFFE ∨ c.toNat = 0xFFFF then Char.ofNat 0xFFFD else c

namespace PatternItem

/-- The parts of a written pattern. An escape sign at its end stands for nothing that could be
matched. -/
def ofChars? (escape : Option Char) : List Char → Option (List PatternItem)
  | [] => some []
  | c :: rest =>
    if some c = escape then
      match rest with
      | [] => none
      | d :: rest => (ofChars? escape rest).map (.char d :: ·)
    else if c = '%' then (ofChars? escape rest).map (.anyText :: ·)
    else if c = '_' then (ofChars? escape rest).map (.anyChar :: ·)
    else (ofChars? escape rest).map (.char c :: ·)

/-- The ranges of a set up to its closing bracket, and the rest. A hyphen between two characters
makes a range of them; `previous` is the character that may start one. -/
def rangesOfChars? (previous : Option Char) :
    List Char → Option (List (Char × Char) × List Char)
  | [] => none
  | ']' :: rest => some ([], rest)
  | c :: d :: rest =>
    match previous with
    | some first =>
      if c = '-' ∧ d ≠ ']' then (rangesOfChars? none rest).map fun (rs, r) => ((first, d) :: rs, r)
      else (rangesOfChars? (some c) (d :: rest)).map fun (rs, r) => ((c, c) :: rs, r)
    | none => (rangesOfChars? (some c) (d :: rest)).map fun (rs, r) => ((c, c) :: rs, r)
  | [_] => none

/-- A set after its opening bracket, and the rest. A closing bracket at its start is one of its
characters. -/
def setOfChars? (cs : List Char) : Option (PatternItem × List Char) :=
  let (negated, cs) := match cs with
    | '^' :: rest => (true, rest)
    | cs => (false, cs)
  let (first, cs) := match cs with
    | ']' :: rest => ([(']', ']')], rest)
    | cs => ([], cs)
  (rangesOfChars? none cs).map fun (ranges, rest) => (.oneOf negated (first ++ ranges), rest)

/-- The parts of a written pattern with sets. A set that is not closed matches nothing. -/
def ofSetChars? : Nat → List Char → Option (List PatternItem)
  | 0, _ => none
  | _, [] => some []
  | fuel + 1, c :: rest =>
    if c = '*' then (ofSetChars? fuel rest).map (.anyText :: ·)
    else if c = '?' then (ofSetChars? fuel rest).map (.anyChar :: ·)
    else if c = '[' then do
      let (item, rest) ← setOfChars? rest
      (ofSetChars? fuel rest).map (item :: ·)
    else (ofSetChars? fuel rest).map (.char c :: ·)

def isIn (negated : Bool) (ranges : List (Char × Char)) (c : Char) : Bool :=
  ranges.any (fun r => r.1 ≤ c && c ≤ r.2) != negated

/-- The text as a whole has the form of the pattern, in which characters are compared in the form
that `fold` gives them. -/
def fits (fold : Char → Char) : List PatternItem → List Char → Bool
  | [], cs => cs.isEmpty
  | .anyText :: ps, [] => fits fold ps []
  -- Either nothing is taken, or a character and perhaps more.
  | .anyText :: ps, c :: cs => fits fold ps (c :: cs) || fits fold (.anyText :: ps) cs
  | .anyChar :: _, [] => false
  | .anyChar :: ps, _ :: cs => fits fold ps cs
  | .char _ :: _, [] => false
  | .char p :: ps, c :: cs => fold p == fold c && fits fold ps cs
  | .oneOf _ _ :: _, [] => false
  | .oneOf negated ranges :: ps, c :: cs => isIn negated ranges c && fits fold ps cs
  termination_by ps cs => ps.length + cs.length

end PatternItem

def isLike (escape : Option Char) (pattern text : List Char) : Bool :=
  match PatternItem.ofChars? escape (visibleChars pattern) with
  | some items => PatternItem.fits Char.toLower items (visibleChars text)
  | none => false

def isGlob (pattern text : List Char) : Bool :=
  let pattern := visibleChars pattern
  match PatternItem.ofSetChars? (pattern.length + 1) pattern with
  | some items => PatternItem.fits id items (visibleChars text)
  | none => false

def escapePattern (cs : List Char) : List Char :=
  cs.flatMap fun c => if c = '\\' ∨ c = '%' ∨ c = '_' then ['\\', c] else [c]

def escapeLike (s : String) : String := String.ofList (escapePattern s.toList)

end CriteriaSearch.Sql
