import CriteriaSearch.Text.UpperTable

namespace CriteriaSearch.Text

def upperChar (c : Char) : List Char :=
  if c.toNat < 128 then
    [c.toUpper]
  else
    match upperTexts.find? (fun entry => entry.1 == c.toNat) with
    | some entry => entry.2.map Char.ofNat
    | none =>
      match upperRuns.find? (fun run => run.covers c.toNat) with
      | some run => [Char.ofNat (c.toNat + run.shift).toNat]
      | none => [c]

def upperChars (cs : List Char) : List Char := cs.flatMap upperChar

def upper (s : String) : String := String.ofList (upperChars s.toList)

@[simp] theorem upperChars_nil : upperChars [] = [] := rfl

@[simp] theorem upperChars_cons (c : Char) (cs : List Char) :
    upperChars (c :: cs) = upperChar c ++ upperChars cs := by
  simp [upperChars]

theorem upperChars_append (as bs : List Char) :
    upperChars (as ++ bs) = upperChars as ++ upperChars bs := by
  simp [upperChars]

end CriteriaSearch.Text
