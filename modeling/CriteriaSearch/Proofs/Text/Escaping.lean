import Mathlib.Data.List.Basic

namespace CriteriaSearch.Text

variable {α : Type}

/-- A reader that reads what is written for each character reads what is written for a text. -/
theorem read_flatMap_append (read? : List Char → Option (List α)) (write : Char → List Char)
    (part : Char → α)
    (hread : ∀ c rest, read? (write c ++ rest) = (read? rest).map (part c :: ·))
    (cs rest : List Char) :
    read? (cs.flatMap write ++ rest) = (read? rest).map (cs.map part ++ ·) := by
  induction cs with
  | nil =>
    change read? rest = (read? rest).map ([] ++ ·)
    cases read? rest <;> rfl
  | cons c cs ih =>
    rw [List.flatMap_cons, List.append_assoc, hread, ih, Option.map_map]
    rfl

structure Parsed (read? : List Char → Option (List α)) where
  text : String
  parts : List α
  read_eq : read? text.toList = some parts

namespace Parsed

variable {read? : List Char → Option (List α)}

def ofText? (text : String) : Option (Parsed read?) :=
  match h : read? text.toList with
  | some parts => some ⟨text, parts, h⟩
  | none => none

theorem ofText?_text (p : Parsed read?) : ofText? p.text = some p := by
  unfold ofText?
  split
  next parts h =>
    have hparts : parts = p.parts := Option.some.inj (h.symm.trans p.read_eq)
    subst hparts
    rfl
  next h =>
    rw [p.read_eq] at h
    nomatch h

end Parsed

end CriteriaSearch.Text
