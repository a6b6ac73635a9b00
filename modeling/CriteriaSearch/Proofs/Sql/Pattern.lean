import CriteriaSearch.Proofs.Text.Part
import CriteriaSearch.Proofs.Text.Upper
import CriteriaSearch.Sql.Clause
import CriteriaSearch.Sql.Operation
import Mathlib.Data.List.TakeWhile

namespace CriteriaSearch

namespace Sql

def IsUpperText (cs : List Char) : Prop := ∀ c ∈ cs, ¬(0x61 ≤ c.toNat ∧ c.toNat ≤ 0x7A)

theorem isUpperText_upperChars (cs : List Char) : IsUpperText (Text.upperChars cs) := by
  intro d hd
  obtain ⟨c, -, hd⟩ := List.mem_flatMap.mp hd
  exact (Text.isUpperOf_of_mem c d hd).not_small

theorem toNat_toLower (c : Char) :
    c.toLower.toNat = if 0x41 ≤ c.toNat ∧ c.toNat ≤ 0x5A then c.toNat + 32 else c.toNat := by
  have hbounds : (c.val ≥ 'A'.val ∧ c.val ≤ 'Z'.val) ↔ (0x41 ≤ c.toNat ∧ c.toNat ≤ 0x5A) := by
    simp only [ge_iff_le, UInt32.le_iff_toNat_le]
    rfl
  unfold Char.toLower
  split
  · next h =>
    have hnat := hbounds.mp h
    rw [if_pos hnat]
    have hsum : (c.val + ('a'.val - 'A'.val)).toNat = c.val.toNat + 32 := by
      rw [UInt32.toNat_add]
      exact Nat.mod_eq_of_lt (by change c.toNat + 32 < _; omega)
    exact hsum
  · next h => rw [if_neg fun hc => h (hbounds.mpr hc)]

/-- Characters that are no small letters are told apart by their small forms. -/
theorem toLower_eq_iff (c d : Char) (hc : ¬(0x61 ≤ c.toNat ∧ c.toNat ≤ 0x7A))
    (hd : ¬(0x61 ≤ d.toNat ∧ d.toNat ≤ 0x7A)) : c.toLower = d.toLower ↔ c = d := by
  constructor
  · intro h
    have hcode := congrArg Char.toNat h
    rw [toNat_toLower, toNat_toLower] at hcode
    apply Char.toNat_inj.mp
    split at hcode <;> split at hcode <;> omega
  · intro h
    rw [h]

namespace PatternItem

theorem fits_anyText_iff (fold : Char → Char) (ps : List PatternItem) (cs : List Char) :
    fits fold (.anyText :: ps) cs = true ↔ ∃ rest, rest <:+ cs ∧ fits fold ps rest = true := by
  induction cs with
  | nil =>
    rw [fits]
    constructor
    · intro h
      exact ⟨[], List.suffix_refl [], h⟩
    · rintro ⟨rest, hrest, h⟩
      rwa [List.suffix_nil.mp hrest] at h
  | cons c cs ih =>
    rw [fits, Bool.or_eq_true, ih]
    constructor
    · rintro (h | ⟨rest, hrest, h⟩)
      · exact ⟨c :: cs, List.suffix_refl _, h⟩
      · exact ⟨rest, hrest.trans (List.suffix_cons c cs), h⟩
    · rintro ⟨rest, hrest, h⟩
      rcases List.suffix_cons_iff.mp hrest with rfl | hrest
      · exact .inl h
      · exact .inr ⟨rest, hrest, h⟩

theorem fits_chars_iff (part : List Char) (ps : List PatternItem) (cs : List Char)
    (hpart : IsUpperText part) (hcs : IsUpperText cs) :
    fits Char.toLower (part.map .char ++ ps) cs = true ↔
      ∃ rest, part ++ rest = cs ∧ fits Char.toLower ps rest = true := by
  -- The induction is on the text; each of its characters takes one of the other text.
  induction part generalizing cs with
  | nil =>
    simp only [List.map_nil, List.nil_append, exists_eq_left]
  | cons p part ih =>
    rw [List.map_cons, List.cons_append]
    cases cs with
    | nil =>
      rw [fits]
      constructor
      · intro h
        cases h
      · rintro ⟨rest, hrest, -⟩
        cases hrest
    | cons c cs =>
      have hsame := toLower_eq_iff p c (hpart p List.mem_cons_self) (hcs c List.mem_cons_self)
      have hrest := ih cs (fun d hd => hpart d (List.mem_cons_of_mem p hd))
        (fun d hd => hcs d (List.mem_cons_of_mem c hd))
      rw [fits, Bool.and_eq_true, beq_iff_eq, hsame, hrest]
      simp only [List.cons_append, List.cons.injEq]
      constructor
      · rintro ⟨rfl, rest, hrest, h⟩
        exact ⟨rest, ⟨rfl, hrest⟩, h⟩
      · rintro ⟨rest, ⟨hpc, hrest⟩, h⟩
        exact ⟨hpc, rest, hrest, h⟩

theorem fits_nil_iff (fold : Char → Char) (cs : List Char) :
    fits fold [] cs = true ↔ cs = [] := by
  rw [fits, List.isEmpty_iff]

theorem fits_anyText_last (fold : Char → Char) (cs : List Char) : fits fold [.anyText] cs = true :=
  (fits_anyText_iff fold [] cs).mpr ⟨[], List.nil_suffix, (fits_nil_iff fold []).mpr rfl⟩

/-- The items of a pattern that finds a text as a mode tells. -/
def itemsOf (mode : TextMode) (part : List Char) : List PatternItem :=
  match mode with
  | .contains => .anyText :: (part.map .char ++ [.anyText])
  | .startsWith => part.map .char ++ [.anyText]
  | .endsWith => .anyText :: part.map .char

theorem fits_itemsOf (mode : TextMode) (part cs : List Char) (hpart : IsUpperText part)
    (hcs : IsUpperText cs) :
    fits Char.toLower (itemsOf mode part) cs = mode.finds part cs := by
  have hsuffix (rest : List Char) (h : rest <:+ cs) : IsUpperText rest :=
    fun c hc => hcs c (h.subset hc)
  -- A text and then anything is a beginning. The other modes look at the ends of the text in this
  -- way.
  have hstarts (rest : List Char) (h : IsUpperText rest) :
      fits Char.toLower (part.map .char ++ [.anyText]) rest = true ↔ part <+: rest := by
    rw [fits_chars_iff part _ rest hpart h]
    constructor
    · rintro ⟨more, hmore, -⟩
      exact ⟨more, hmore⟩
    · rintro ⟨more, hmore⟩
      exact ⟨more, hmore, fits_anyText_last _ more⟩
  rw [Bool.eq_iff_iff, TextMode.finds_iff]
  cases mode with
  | contains =>
    change _ ↔ part <:+: cs
    rw [itemsOf, fits_anyText_iff, List.infix_iff_prefix_suffix]
    constructor
    · rintro ⟨rest, hrest, h⟩
      exact ⟨rest, (hstarts rest (hsuffix rest hrest)).mp h, hrest⟩
    · rintro ⟨rest, h, hrest⟩
      exact ⟨rest, hrest, (hstarts rest (hsuffix rest hrest)).mpr h⟩
  | startsWith => exact hstarts cs hcs
  | endsWith =>
    change _ ↔ part <:+ cs
    rw [itemsOf, fits_anyText_iff]
    have hall (rest : List Char) (h : IsUpperText rest) :
        fits Char.toLower (part.map .char) rest = true ↔ part = rest := by
      rw [← List.append_nil (part.map PatternItem.char), fits_chars_iff part [] rest hpart h]
      simp only [fits_nil_iff, exists_eq_right, List.append_nil]
    constructor
    · rintro ⟨rest, hrest, h⟩
      rwa [(hall rest (hsuffix rest hrest)).mp h]
    · intro h
      exact ⟨part, h, (hall part hpart).mpr rfl⟩

/-- What is written before other characters without a sign is read as itself. -/
theorem ofChars?_plain (cs rest : List Char) (h : ∀ c ∈ cs, c ≠ '\\' ∧ c ≠ '%' ∧ c ≠ '_') :
    ofChars? (some '\\') (cs ++ rest) =
      (ofChars? (some '\\') rest).map (cs.map PatternItem.char ++ ·) := by
  induction cs with
  | nil =>
    rw [List.nil_append]
    cases ofChars? (some '\\') rest <;> rfl
  | cons c cs ih =>
    obtain ⟨hescape, htext, hchar⟩ := h c List.mem_cons_self
    have hstep : ofChars? (some '\\') (c :: (cs ++ rest)) =
        (ofChars? (some '\\') (cs ++ rest)).map (.char c :: ·) := by
      conv_lhs => unfold ofChars?
      rw [if_neg fun hc => hescape (Option.some.inj hc), if_neg htext, if_neg hchar]
    rw [List.cons_append, hstep, ih fun d hd => h d (List.mem_cons_of_mem c hd), Option.map_map]
    rfl

/-- The upper-case form of an escaped text is read as the characters of the upper-case form. -/
theorem ofChars?_escaped (cs rest : List Char) :
    ofChars? (some '\\') (Text.upperChars (escapePattern cs) ++ rest) =
      (ofChars? (some '\\') rest).map ((Text.upperChars cs).map PatternItem.char ++ ·) := by
  induction cs with
  | nil =>
    change ofChars? (some '\\') rest = (ofChars? (some '\\') rest).map ([] ++ ·)
    cases ofChars? (some '\\') rest <;> rfl
  | cons c cs ih =>
    have hcons : escapePattern (c :: cs) =
        (if c = '\\' ∨ c = '%' ∨ c = '_' then ['\\', c] else [c]) ++ escapePattern cs := by
      rw [escapePattern, List.flatMap_cons]
      rfl
    rw [hcons, Text.upperChars_append, List.append_assoc, Text.upperChars_cons, List.map_append]
    split
    · next hsign =>
      have hupper : Text.upperChars ['\\', c] = ['\\', c] ∧ Text.upperChar c = [c] := by
        rcases hsign with rfl | rfl | rfl <;> decide
      rw [hupper.1, hupper.2, List.cons_append, List.cons_append, List.nil_append, ofChars?,
        if_pos rfl, ih, Option.map_map]
      rfl
    · next hsign =>
      -- The upper-case form of any other character has no sign in it.
      have hplain : ∀ d ∈ Text.upperChar c, d ≠ '\\' ∧ d ≠ '%' ∧ d ≠ '_' := by
        intro d hd
        have hupper := (Text.isUpperOf_of_mem c d hd).sign_eq
        refine ⟨?_, ?_, ?_⟩
        all_goals
          rintro rfl
          have := hupper (by decide)
          subst this
          exact hsign (by simp)
      rw [Text.upperChars_cons, Text.upperChars_nil, List.append_nil, ofChars?_plain _ _ hplain, ih,
        Option.map_map]
      congr 1
      funext items
      exact (List.append_assoc _ _ _).symm

/-- The characters of the pattern that finds an escaped text as a mode tells. -/
def patternChars (mode : TextMode) (escaped : List Char) : List Char :=
  match mode with
  | .contains => '%' :: escaped ++ ['%']
  | .startsWith => escaped ++ ['%']
  | .endsWith => '%' :: escaped

theorem ofChars?_percent (cs : List Char) :
    ofChars? (some '\\') ('%' :: cs) = (ofChars? (some '\\') cs).map (.anyText :: ·) := by
  cases cs <;> rfl

theorem ofChars?_patternChars (mode : TextMode) (cs : List Char) :
    ofChars? (some '\\') (patternChars mode (Text.upperChars (escapePattern cs))) =
      some (itemsOf mode (Text.upperChars cs)) := by
  have hlast : ofChars? (some '\\') ['%'] = some [.anyText] := rfl
  cases mode with
  | contains =>
    rw [patternChars, List.cons_append, ofChars?_percent, ofChars?_escaped, hlast]
    rfl
  | startsWith =>
    rw [patternChars, ofChars?_escaped, hlast]
    rfl
  | endsWith =>
    have hend := ofChars?_escaped cs []
    rw [List.append_nil] at hend
    rw [patternChars, ofChars?_percent, hend, ofChars?, Option.map_some, Option.map_some,
      List.append_nil]
    rfl

end PatternItem

def seenChar (c : Char) : Char :=
  if c.toNat = 0xFFFE ∨ c.toNat = 0xFFFF then Char.ofNat 0xFFFD else c

theorem seenChar_of_ne {c : Char} (hfirst : c.toNat ≠ 0xFFFE) (hlast : c.toNat ≠ 0xFFFF) :
    seenChar c = c :=
  if_neg fun hcode => hcode.elim hfirst hlast

/-- Two characters that look alike are the same, or both look like the replacement character. -/
theorem seenChar_eq {c d : Char} (h : seenChar c = seenChar d) :
    c = d ∨ c.toNat ∈ [0xFFFD, 0xFFFE, 0xFFFF] ∧ d.toNat ∈ [0xFFFD, 0xFFFE, 0xFFFF] := by
  have hreplacement : (Char.ofNat 0xFFFD).toNat = 0xFFFD := by decide
  simp only [List.mem_cons, List.not_mem_nil, or_false]
  unfold seenChar at h
  split at h <;> split at h
  · next hc hd => omega
  · next hc hd =>
    rw [← h, hreplacement]
    omega
  · next hc hd =>
    rw [h, hreplacement]
    omega
  · exact .inl h

theorem visibleChars_eq_map (cs : List Char) (h : ∀ c ∈ cs, c.toNat ≠ 0) :
    visibleChars cs = cs.map seenChar := by
  have hkept : cs.takeWhile (fun c => c.toNat != 0) = cs := by
    rw [List.takeWhile_eq_self_iff]
    intro c hc
    exact bne_iff_ne.mpr (h c hc)
  rw [visibleChars, hkept]
  rfl

theorem upperChar_seenChar (c : Char) :
    Text.upperChar (seenChar c) = (Text.upperChar c).map seenChar := by
  by_cases hcode : c.toNat = 0xFFFE ∨ c.toNat = 0xFFFF
  · rcases hcode with hcode | hcode
    all_goals
      rw [← Char.ofNat_toNat c, hcode]
      decide +kernel
  · -- The two codes stand in the upper-case forms of themselves alone.
    have hself : ∀ d ∈ Text.upperChar c, seenChar d = d := by
      intro d hd
      have hsign := (Text.isUpperOf_of_mem c d hd).sign_eq
      apply if_neg
      rintro (hd' | hd')
      · have hdc := hsign (by rw [hd']; decide)
        exact hcode (.inl (hdc ▸ hd'))
      · have hdc := hsign (by rw [hd']; decide)
        exact hcode (.inr (hdc ▸ hd'))
    rw [seenChar, if_neg hcode, List.map_congr_left hself, List.map_id']

theorem upperChars_map_seenChar (cs : List Char) :
    Text.upperChars (cs.map seenChar) = (Text.upperChars cs).map seenChar := by
  rw [Text.upperChars, Text.upperChars, List.flatMap_map, List.map_flatMap]
  congr 1
  funext c
  exact upperChar_seenChar c

theorem seenChar_eq_sign_iff (c d : Char) (h : d = '\\' ∨ d = '%' ∨ d = '_') :
    seenChar c = d ↔ c = d := by
  have hsign : seenChar d = d ∧ d.toNat ∉ [0xFFFD, 0xFFFE, 0xFFFF] := by
    rcases h with rfl | rfl | rfl <;> decide
  constructor
  · intro hc
    exact (seenChar_eq (hc.trans hsign.1.symm)).resolve_right fun hboth => hsign.2 hboth.2
  · rintro rfl
    exact hsign.1

theorem escapePattern_map_seenChar (cs : List Char) :
    escapePattern (cs.map seenChar) = (escapePattern cs).map seenChar := by
  rw [escapePattern, escapePattern, List.flatMap_map, List.map_flatMap]
  congr 1
  funext c
  simp only [seenChar_eq_sign_iff c _ (.inl rfl), seenChar_eq_sign_iff c _ (.inr (.inl rfl)),
    seenChar_eq_sign_iff c _ (.inr (.inr rfl))]
  split <;> rfl

theorem patternChars_map_seenChar (mode : TextMode) (cs : List Char) :
    PatternItem.patternChars mode (cs.map seenChar) =
      (PatternItem.patternChars mode cs).map seenChar := by
  have hpercent : seenChar '%' = '%' := by decide
  cases mode <;> simp [PatternItem.patternChars, hpercent]

section Characters

variable {P : Char → Prop} {cs : List Char}

theorem forall_mem_escapePattern (hsign : P '\\') (h : ∀ c ∈ cs, P c) :
    ∀ d ∈ escapePattern cs, P d := by
  intro d hd
  obtain ⟨c, hc, hd⟩ := List.mem_flatMap.mp hd
  split at hd
  · simp only [List.mem_cons, List.not_mem_nil, or_false] at hd
    rcases hd with rfl | rfl
    · exact hsign
    · exact h d hc
  · rw [List.mem_singleton.mp hd]
    exact h c hc

theorem forall_mem_patternChars (mode : TextMode) (hpercent : P '%') (h : ∀ c ∈ cs, P c) :
    ∀ d ∈ PatternItem.patternChars mode cs, P d := by
  cases mode with
  | contains =>
    simp only [PatternItem.patternChars, List.cons_append, List.forall_mem_cons,
      List.forall_mem_append, List.not_mem_nil, false_implies, implies_true, and_true]
    exact ⟨hpercent, h, hpercent⟩
  | startsWith =>
    simp only [PatternItem.patternChars, List.forall_mem_append, List.forall_mem_cons,
      List.not_mem_nil, false_implies, implies_true, and_true]
    exact ⟨h, hpercent⟩
  | endsWith =>
    simp only [PatternItem.patternChars, List.forall_mem_cons]
    exact ⟨hpercent, h⟩

end Characters

theorem upperChars_ne_zero (cs : List Char) (h : ∀ c ∈ cs, c.toNat ≠ 0) :
    ∀ d ∈ Text.upperChars cs, d.toNat ≠ 0 := by
  intro d hd hzero
  obtain ⟨c, hc, hd⟩ := List.mem_flatMap.mp hd
  have hdc : d = c := (Text.isUpperOf_of_mem c d hd).sign_eq (by rw [hzero]; decide)
  exact h c hc (hdc ▸ hzero)

theorem pattern_cell (mode : TextMode) (part : String) :
    (Param.pattern mode part).cell = .text (String.ofList
      (PatternItem.patternChars mode (Text.upperChars (escapePattern part.toList)))) := by
  cases mode <;> rfl

/-- The pattern of a text finds in upper-cased texts what a search for the text finds, as both look
to patterns. -/
theorem like_pattern_seen (mode : TextMode) (part s : String)
    (hpart : ∀ c ∈ part.toList, c.toNat ≠ 0) (hs : ∀ c ∈ s.toList, c.toNat ≠ 0) :
    Cell.like (Cell.text s).upper (Param.pattern mode part).cell (.text "\\") =
      .ofBool (mode.finds (Text.upperChars (part.toList.map seenChar))
        (Text.upperChars (s.toList.map seenChar))) := by
  -- To look at a text in upper case, or at an escaped one with signs around it, is the same as to
  -- write the text so after it was looked at.
  have htext : visibleChars (Text.upperChars s.toList) =
      Text.upperChars (s.toList.map seenChar) := by
    rw [visibleChars_eq_map _ (upperChars_ne_zero _ hs), upperChars_map_seenChar]
  have hescaped := forall_mem_escapePattern (by decide) hpart
  have hpattern : visibleChars (PatternItem.patternChars mode
      (Text.upperChars (escapePattern part.toList))) = PatternItem.patternChars mode
        (Text.upperChars (escapePattern (part.toList.map seenChar))) := by
    rw [visibleChars_eq_map _
        (forall_mem_patternChars mode (by decide) (upperChars_ne_zero _ hescaped)),
      escapePattern_map_seenChar, upperChars_map_seenChar, patternChars_map_seenChar]
  rw [pattern_cell, ← PatternItem.fits_itemsOf mode _ _ (isUpperText_upperChars _)
    (isUpperText_upperChars _)]
  change Truth.ofBool (isLike (some '\\') (String.ofList _).toList (String.ofList _).toList) = _
  rw [String.toList_ofList, String.toList_ofList, isLike, hpattern,
    PatternItem.ofChars?_patternChars, htext]

/-- A search finds the same among what patterns see, unless a character of one text looks like
another one of the other. -/
theorem finds_map_seenChar (mode : TextMode) (part whole : List Char)
    (h : ∀ c ∈ part, ∀ d ∈ whole, seenChar c = seenChar d → c = d) :
    mode.finds (Text.upperChars (part.map seenChar)) (Text.upperChars (whole.map seenChar)) =
      mode.finds (Text.upperChars part) (Text.upperChars whole) := by
  rw [upperChars_map_seenChar, upperChars_map_seenChar, Bool.eq_iff_iff, TextMode.finds_iff,
    TextMode.finds_iff]
  apply TextMode.locates_map_iff
  intro u hu v hv hseen
  rcases seenChar_eq hseen with heq | ⟨hucode, hvcode⟩
  · exact heq
  · -- Characters that look like the replacement character are no upper-case forms of others.
    have hsigns : [0xFFFD, 0xFFFE, 0xFFFF] ⊆ Text.signCodes := by decide
    obtain ⟨c, hc, huc⟩ := List.mem_flatMap.mp hu
    obtain ⟨d, hd, hvd⟩ := List.mem_flatMap.mp hv
    obtain rfl := (Text.isUpperOf_of_mem c u huc).sign_eq (hsigns hucode)
    obtain rfl := (Text.isUpperOf_of_mem d v hvd).sign_eq (hsigns hvcode)
    exact h u hc v hd hseen

def isPatternChar (c : Char) : Bool := c.toNat != 0 && c.toNat != 0xFFFE && c.toNat != 0xFFFF

def isPatternText (s : String) : Bool := s.toList.all isPatternChar

theorem map_seenChar_of_isPatternText (s : String) (h : isPatternText s = true) :
    (∀ c ∈ s.toList, c.toNat ≠ 0) ∧ s.toList.map seenChar = s.toList := by
  simp only [isPatternText, List.all_eq_true, isPatternChar, Bool.and_eq_true, bne_iff_ne] at h
  constructor
  · exact fun c hc => (h c hc).1.1
  · conv_rhs => rw [← List.map_id s.toList]
    apply List.map_congr_left
    exact fun c hc => seenChar_of_ne (h c hc).1.2 (h c hc).2

/-- The pattern of a text finds in upper-cased texts what a search for the text finds. -/
theorem like_pattern (mode : TextMode) (part s : String) (hpart : isPatternText part = true)
    (hs : isPatternText s = true) :
    Cell.like (Cell.text s).upper (Param.pattern mode part).cell (.text "\\") =
      .ofBool (mode.finds (Text.upperChars part.toList) (Text.upperChars s.toList)) := by
  obtain ⟨hpart, hpartSeen⟩ := map_seenChar_of_isPatternText part hpart
  obtain ⟨hs, hsSeen⟩ := map_seenChar_of_isPatternText s hs
  rw [like_pattern_seen mode part s hpart hs, hpartSeen, hsSeen]

end Sql

end CriteriaSearch
