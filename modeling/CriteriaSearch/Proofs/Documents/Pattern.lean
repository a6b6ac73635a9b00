import CriteriaSearch.Documents.Query
import CriteriaSearch.Proofs.Text.Escaping

namespace CriteriaSearch.Documents

/-- A part of a pattern: one of the two places that can be asked for, or a character. -/
inductive PatternPart where
  | start
  | finish
  | char (c : Char)
  deriving DecidableEq, Repr

namespace PatternPart

/-- The signs of patterns besides the two places and the sign that takes away a meaning. -/
def otherSigns : List Char := "\\.[|()?*+\x7b".toList

/-- The parts of a written pattern. A letter or digit after a backslash is a sign, and any other
character after it stands for itself. -/
def ofChars? : List Char → Option (List PatternPart)
  | [] => some []
  | '\\' :: c :: rest =>
    if c.isAlphanum then none else (ofChars? rest).map (.char c :: ·)
  | c :: rest =>
    if c = '^' then (ofChars? rest).map (.start :: ·)
    else if c = '$' then (ofChars? rest).map (.finish :: ·)
    else if otherSigns.contains c then none
    else (ofChars? rest).map (.char c :: ·)

/-- The parts of the pattern that finds a text at the place that a mode tells. -/
def partsOf (mode : TextMode) (cs : List Char) : List PatternPart :=
  match mode with
  | .contains => cs.map .char
  | .startsWith => .start :: cs.map .char
  | .endsWith => cs.map .char ++ [.finish]

theorem isAlphanum_of_mem_patternSigns {c : Char} (h : c ∈ patternSigns) :
    c.isAlphanum = false := by
  have hsigns : patternSigns.all (fun c => !c.isAlphanum) = true := by decide
  have hc := List.all_eq_true.mp hsigns c h
  rwa [Bool.not_eq_true'] at hc

theorem mem_patternSigns {c : Char} (h : c = '^' ∨ c = '$' ∨ c ∈ otherSigns) :
    c ∈ patternSigns := by
  have hsigns : otherSigns.all patternSigns.contains = true := by decide
  rcases h with rfl | rfl | h
  · decide
  · decide
  · exact List.contains_iff_mem.mp (List.all_eq_true.mp hsigns c h)

theorem ofChars?_plain {c : Char} (h : c ∉ patternSigns) (rest : List Char) :
    ofChars? (c :: rest) = (ofChars? rest).map (.char c :: ·) := by
  have hsigns := mt mem_patternSigns h
  simp only [not_or] at hsigns
  obtain ⟨hstart, hfinish, hother⟩ := hsigns
  have hescape : c ≠ '\\' := by
    rintro rfl
    exact hother (by decide)
  rw [ofChars?.eq_3 _ _ (by rintro d r rfl; exact absurd rfl hescape)]
  rw [if_neg hstart, if_neg hfinish, if_neg (by simpa using hother)]

theorem ofChars?_escapePattern (cs rest : List Char) :
    ofChars? (escapePattern cs ++ rest) = (ofChars? rest).map (cs.map PatternPart.char ++ ·) := by
  apply Text.read_flatMap_append
  intro c rest
  by_cases hsign : c ∈ patternSigns
  · rw [if_pos (List.contains_iff_mem.mpr hsign), List.cons_append, List.singleton_append,
      ofChars?, isAlphanum_of_mem_patternSigns hsign]
    rfl
  · rw [if_neg (mt List.contains_iff_mem.mp hsign), List.singleton_append, ofChars?_plain hsign]

/-- A pattern is read as the text that it looks for, at the place that its mode tells. -/
theorem ofChars?_pattern (mode : TextMode) (text : String) :
    ofChars? (pattern mode text).toList = some (partsOf mode text.toList) := by
  -- The text itself is read alike in all modes; they differ in a sign before or after it.
  have hescaped := ofChars?_escapePattern text.toList []
  rw [List.append_nil, ofChars?, Option.map_some, List.append_nil] at hescaped
  unfold pattern
  rw [String.toList_ofList]
  cases mode with
  | contains => exact hescaped
  | startsWith =>
    have hstart : ofChars? ('^' :: escapePattern text.toList) =
        (ofChars? (escapePattern text.toList)).map (.start :: ·) := by
      apply ofChars?.eq_3
      intro c rest hescape
      cases hescape
    change ofChars? ('^' :: escapePattern text.toList) = _
    rw [hstart, hescaped]
    rfl
  | endsWith =>
    change ofChars? (escapePattern text.toList ++ ['$']) = _
    rw [ofChars?_escapePattern]
    rfl

end PatternPart

abbrev Pattern : Type := Text.Parsed PatternPart.ofChars?

/-- The pattern that finds a text at the place that a mode tells. -/
def Pattern.ofMode (mode : TextMode) (text : String) : Pattern where
  text := pattern mode text
  parts := PatternPart.partsOf mode text.toList
  read_eq := PatternPart.ofChars?_pattern mode text

end CriteriaSearch.Documents
