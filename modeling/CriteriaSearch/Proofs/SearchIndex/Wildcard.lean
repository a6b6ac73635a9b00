import CriteriaSearch.Proofs.Text.Escaping
import CriteriaSearch.Proofs.Text.Part
import CriteriaSearch.SearchIndex.Query

namespace CriteriaSearch.SearchIndex

inductive WildcardPart where
  | anyRun
  | anyChar
  | char (c : Char)
  deriving DecidableEq, Repr

namespace WildcardPart

/-- The parts of a written pattern. A character after a backslash stands for itself. -/
def ofChars? : List Char → Option (List WildcardPart)
  | [] => some []
  | ['\\'] => none
  | '\\' :: c :: rest => (ofChars? rest).map (.char c :: ·)
  | '*' :: rest => (ofChars? rest).map (.anyRun :: ·)
  | '?' :: rest => (ofChars? rest).map (.anyChar :: ·)
  | c :: rest => (ofChars? rest).map (.char c :: ·)

/-- The parts of the pattern that finds a text at the place that a mode tells. -/
def partsOf (mode : TextMode) (cs : List Char) : List WildcardPart :=
  match mode with
  | .contains => .anyRun :: (cs.map .char ++ [.anyRun])
  | .startsWith => cs.map .char ++ [.anyRun]
  | .endsWith => .anyRun :: cs.map .char

theorem ofChars?_escapeWildcardChars (cs rest : List Char) :
    ofChars? (escapeWildcardChars cs ++ rest) = (ofChars? rest).map (cs.map char ++ ·) := by
  apply Text.read_flatMap_append
  intro c rest
  by_cases hsign : c = '\\' ∨ c = '*' ∨ c = '?'
  · rw [if_pos hsign, List.cons_append, List.singleton_append, ofChars?]
  · rw [if_neg hsign, List.singleton_append]
    simp only [not_or] at hsign
    obtain ⟨hescape, hrun, hchar⟩ := hsign
    apply ofChars?.eq_6
    · exact fun hc _ => hescape hc
    · exact fun _ _ hc _ => hescape hc
    · exact hrun
    · exact hchar

theorem ofChars?_anyRun (cs : List Char) :
    ofChars? ('*' :: cs) = (ofChars? cs).map (.anyRun :: ·) := by
  rw [ofChars?]

/-- A pattern is read as the text that it looks for, at the place that its mode tells. -/
theorem ofChars?_pattern (mode : TextMode) (text : String) :
    ofChars? (pattern mode text).toList = some (partsOf mode text.toList) := by
  have hlast : ofChars? ['*'] = some [.anyRun] := rfl
  unfold pattern
  rw [String.toList_ofList]
  cases mode with
  | contains =>
    change ofChars? ('*' :: (escapeWildcardChars text.toList ++ ['*'])) = _
    rw [ofChars?_anyRun, ofChars?_escapeWildcardChars, hlast]
    rfl
  | startsWith =>
    change ofChars? (escapeWildcardChars text.toList ++ ['*']) = _
    rw [ofChars?_escapeWildcardChars, hlast]
    rfl
  | endsWith =>
    have hescaped := ofChars?_escapeWildcardChars text.toList []
    rw [List.append_nil, ofChars?, Option.map_some, List.append_nil] at hescaped
    change ofChars? ('*' :: escapeWildcardChars text.toList) = _
    rw [ofChars?_anyRun, hescaped]
    rfl

inductive Spans : List WildcardPart → List Char → Prop
  | nil : Spans [] []
  | anyRun (run : List Char) {ps : List WildcardPart} {cs : List Char} (h : Spans ps cs) :
    Spans (.anyRun :: ps) (run ++ cs)
  | anyChar (c : Char) {ps : List WildcardPart} {cs : List Char} (h : Spans ps cs) :
    Spans (.anyChar :: ps) (c :: cs)
  | char (c : Char) {ps : List WildcardPart} {cs : List Char} (h : Spans ps cs) :
    Spans (.char c :: ps) (c :: cs)

theorem spans_nil_iff (cs : List Char) : Spans [] cs ↔ cs = [] := by
  constructor
  · rintro ⟨⟩
    rfl
  · rintro rfl
    exact .nil

theorem spans_anyRun_iff (ps : List WildcardPart) (cs : List Char) :
    Spans (.anyRun :: ps) cs ↔ ∃ run rest, run ++ rest = cs ∧ Spans ps rest := by
  constructor
  · rintro (_ | ⟨run, h⟩)
    exact ⟨run, _, rfl, h⟩
  · rintro ⟨run, rest, rfl, h⟩
    exact .anyRun run h

theorem spans_chars_iff (part : List Char) (ps : List WildcardPart) (cs : List Char) :
    Spans (part.map .char ++ ps) cs ↔ ∃ rest, part ++ rest = cs ∧ Spans ps rest := by
  induction part generalizing cs with
  | nil => simp
  | cons c part ih =>
    rw [List.map_cons, List.cons_append]
    constructor
    · rintro (_ | _ | _ | ⟨_, h⟩)
      obtain ⟨rest, rfl, hrest⟩ := (ih _).mp h
      exact ⟨rest, rfl, hrest⟩
    · rintro ⟨rest, rfl, hrest⟩
      exact .char c ((ih _).mpr ⟨rest, rfl, hrest⟩)

theorem spans_anyRun_last (cs : List Char) : Spans [.anyRun] cs :=
  (spans_anyRun_iff [] cs).mpr ⟨cs, [], List.append_nil cs, .nil⟩

/-- The parts that look for a text span the texts that have it at the place of the mode. -/
theorem spans_partsOf_iff (mode : TextMode) (part cs : List Char) :
    Spans (partsOf mode part) cs ↔ mode.Locates part cs := by
  have hstarts (rest : List Char) :
      Spans (part.map .char ++ [.anyRun]) rest ↔ part <+: rest := by
    rw [spans_chars_iff]
    constructor
    · rintro ⟨more, hmore, -⟩
      exact ⟨more, hmore⟩
    · rintro ⟨more, hmore⟩
      exact ⟨more, hmore, spans_anyRun_last more⟩
  cases mode with
  | contains =>
    change Spans (.anyRun :: (part.map .char ++ [.anyRun])) cs ↔ part <:+: cs
    rw [spans_anyRun_iff]
    constructor
    · rintro ⟨run, rest, rfl, hrest⟩
      exact ((hstarts rest).mp hrest).isInfix.trans (List.suffix_append run rest).isInfix
    · rintro ⟨run, more, rfl⟩
      refine ⟨run, part ++ more, (List.append_assoc run part more).symm, ?_⟩
      exact (hstarts _).mpr (List.prefix_append part more)
  | startsWith => exact hstarts cs
  | endsWith =>
    change Spans (.anyRun :: part.map .char) cs ↔ part <:+ cs
    -- Nothing may follow the text, so that it is all of the rest.
    have hall (rest : List Char) : Spans (part.map .char) rest ↔ part = rest := by
      rw [← List.append_nil (part.map WildcardPart.char), spans_chars_iff]
      simp only [spans_nil_iff, exists_eq_right, List.append_nil]
    simp only [spans_anyRun_iff, hall, exists_eq_right']
    rfl

end WildcardPart

abbrev Wildcard : Type := Text.Parsed WildcardPart.ofChars?

/-- The pattern that finds a text at the place that a mode tells. -/
def Wildcard.ofMode (mode : TextMode) (text : String) : Wildcard where
  text := pattern mode text
  parts := WildcardPart.partsOf mode text.toList
  read_eq := WildcardPart.ofChars?_pattern mode text

end CriteriaSearch.SearchIndex
