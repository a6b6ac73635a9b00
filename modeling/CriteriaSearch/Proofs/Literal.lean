import CriteriaSearch.Proofs.Evaluation
import CriteriaSearch.Proofs.SearchIndex.Wildcard
import CriteriaSearch.Proofs.Sql.Lexing
import CriteriaSearch.Proofs.Sql.Pattern
import CriteriaSearch.Sql.Hazard

namespace CriteriaSearch

theorem Text.length_toList_loop (bs : ByteArray) (i : Nat) (seen : List UInt8) :
    (ByteArray.toList.loop bs i seen).length = seen.length + (bs.size - i) := by
  -- The loop has read the bytes before the place `i`.
  fun_induction ByteArray.toList.loop bs i seen with
  | case1 i seen hmore ih =>
    rw [ih, List.length_cons]
    omega
  | case2 i seen hdone =>
    rw [List.length_reverse]
    omega

theorem Text.length_encode_ofList (cs : List Char) :
    (encode (String.ofList cs)).length = (cs.flatMap String.utf8EncodeChar).length := by
  rw [encode, ByteArray.toList, length_toList_loop, String.toUTF8_eq_toByteArray,
    String.toByteArray_ofList, List.utf8Encode, List.size_toByteArray, List.length_nil,
    Nat.zero_add, Nat.sub_zero]

namespace Sql

def seenText (s : String) : String := String.ofList (s.toList.map seenChar)

theorem patternFault?_pattern (mode : TextMode) (t : String) :
    Cell.patternFault? (Param.pattern mode t).cell (some (.text "\\")) =
      if 50000 < (Param.pattern mode t).cell.bytes.length then some .patternLength else none := by
  have hescape : (some (Cell.text "\\")).all (fun c => c.isNull || c.visible.length == 1) := by
    decide
  rw [Cell.patternFault?, if_pos hescape]

/-- What stands between the quotes of a name: each quote of the name is written twice. -/
inductive QuotedBody : List Char → List Char → Prop
  | nil : QuotedBody [] []
  | plain {c : Char} {written name : List Char} (hc : c ≠ '"') (h : QuotedBody written name) :
    QuotedBody (c :: written) (c :: name)
  | doubled {written name : List Char} (h : QuotedBody written name) :
    QuotedBody ('"' :: '"' :: written) ('"' :: name)

/-- A text starts with a name between quotes, which ends at a quote that no other one follows. -/
def StartsWithName (text name rest : List Char) : Prop :=
  ∃ written, QuotedBody written name ∧ text = '"' :: (written ++ '"' :: rest) ∧
    rest.head? ≠ some '"'

theorem quotedBody_flatMap (name : List Char) :
    QuotedBody (name.flatMap fun c => if c = '"' then ['"', '"'] else [c]) name := by
  induction name with
  | nil => exact .nil
  | cons c name ih =>
    rw [List.flatMap_cons]
    by_cases hc : c = '"'
    · subst hc
      exact .doubled ih
    · rw [if_neg hc]
      exact .plain hc ih

/-- What stands between the quotes ends at the first single quote, so that it is read in one way. -/
theorem QuotedBody.unique {written name written' name' rest rest' : List Char}
    (h : QuotedBody written name) (h' : QuotedBody written' name') (hrest : rest.head? ≠ some '"')
    (hrest' : rest'.head? ≠ some '"') (heq : written ++ '"' :: rest = written' ++ '"' :: rest') :
    name = name' ∧ rest = rest' := by
  -- Where one of the two bodies ends and the other one goes on, it goes on with a quote. Only a
  -- doubled quote can stand there, and its second half would stand at the start of the rest.
  induction h generalizing written' name' with
  | nil =>
    cases h' with
    | nil => exact ⟨rfl, (List.cons.inj heq).2⟩
    | plain hc h' => exact absurd (List.cons.inj heq).1.symm hc
    | doubled h' =>
      rw [(List.cons.inj heq).2] at hrest
      exact absurd rfl hrest
  | plain hc h ih =>
    cases h' with
    | nil => exact absurd (List.cons.inj heq).1 hc
    | plain hc' h' =>
      obtain ⟨rfl, hmore⟩ := List.cons.inj heq
      obtain ⟨rfl, hrests⟩ := ih h' hmore
      exact ⟨rfl, hrests⟩
    | doubled h' => exact absurd (List.cons.inj heq).1 hc
  | doubled h ih =>
    cases h' with
    | nil =>
      rw [← (List.cons.inj heq).2] at hrest'
      exact absurd rfl hrest'
    | plain hc' h' => exact absurd (List.cons.inj heq).1.symm hc'
    | doubled h' =>
      obtain ⟨rfl, hrests⟩ := ih h' (List.cons.inj (List.cons.inj heq).2).2
      exact ⟨rfl, hrests⟩

theorem toList_quoteName_append (name : String) (rest : List Char) :
    (quoteName name).toList ++ rest = '"' ::
      ((name.toList.flatMap fun c => if c = '"' then ['"', '"'] else [c]) ++ '"' :: rest) := by
  rw [quoteName, String.toList_ofList, enclose, List.append_assoc, List.cons_append]
  rfl

theorem startsWithName_quoteName_iff (name : String) (rest : List Char)
    (hrest : rest.head? ≠ some '"') (n r : List Char) :
    StartsWithName ((quoteName name).toList ++ rest) n r ↔ n = name.toList ∧ r = rest := by
  rw [toList_quoteName_append]
  constructor
  · rintro ⟨written, hwritten, htext, hr⟩
    exact hwritten.unique (quotedBody_flatMap name.toList) hr hrest (List.cons.inj htext).2.symm
  · rintro ⟨rfl, rfl⟩
    exact ⟨_, quotedBody_flatMap name.toList, rfl, hrest⟩

/-- The reader of tokens reads a quoted name so, unless the name holds the end of a text. -/
theorem readToken_quoteName (name : String) (rest : List Char) (hrest : rest.head? ≠ some '"')
    (hname : name.toList.all isVisible = true) :
    ∃ written, (quoteName name).toList ++ rest = '"' :: written ∧
      readToken '"' written = (.quoted name, rest) := by
  have hnext : ∀ more, rest ≠ '"' :: more := by
    rintro more rfl
    exact hrest rfl
  have hread := readEnclosed?_enclose '"' (by decide) name.toList [] rest hname hnext
  rw [List.reverse_nil, List.nil_append, String.ofList_toList] at hread
  refine ⟨_, toList_quoteName_append name rest, ?_⟩
  unfold readToken
  rw [if_pos rfl, readQuotes, hread]

/-- No character of the one text looks to patterns like another one of the other. -/
def ToldApart (t s : String) : Prop :=
  ∀ c ∈ t.toList, ∀ d ∈ s.toList, seenChar c = seenChar d → c = d

/-- Texts without the replacement character and its likes are told apart from all others. -/
theorem toldApart_of_all (t s : String)
    (h : (t.toList.all fun c => decide (c.toNat ∉ [0xFFFD, 0xFFFE, 0xFFFF])) = true) :
    ToldApart t s := by
  intro c hc d _ hseen
  have hnot := of_decide_eq_true (List.all_eq_true.mp h c hc)
  exact (seenChar_eq hseen).resolve_right fun hboth => hnot hboth.1

end Sql

theorem Predicate.evaluate_textMatch {row : Json} {field s : String} (mode : TextMode) (t : String)
    (h : row.present? field = some (.text s)) :
    (Predicate.textMatch field mode t).evaluate row =
      .ofBool (mode.finds (Text.upperChars t.toList) (Text.upperChars s.toList)) := by
  rw [evaluate, testField, h]
  rfl

theorem Json.present?_single (field s : String) :
    (Json.object [(field, .text s)]).present? field = some (.text s) := by
  simp [present?, field?]

section

open Sql SearchIndex

/-- Texts and names are taken literally, whatever signs they hold. The pattern that SQL is given for
a text is refused for its length alone, and else fits the upper-case form of a stored text if a
search of rows for the text finds it, where both texts have the replacement character for the two
codes that are no characters; nothing changes by that unless the texts hold different ones of the
three. The wildcard pattern of a text spans the texts that have the text at the place of the mode. A
quoted name is read as the name and up to its end, whatever follows it but another quote. -/
theorem texts_taken_literally :
    (∀ (mode : TextMode) (t s : String), t.toList.all isVisible = true →
      s.toList.all isVisible = true →
      ∀ (field : String) (row : Json), row.present? field = some (.text s) →
        Sql.params (.textMatch field mode t) = [Param.pattern mode t] ∧
        Cell.patternFault? (Param.pattern mode t).cell (some (.text "\\")) =
          (if 50000 < (Param.pattern mode t).cell.bytes.length then some .patternLength
            else none) ∧
        Cell.like (Cell.text s).upper (Param.pattern mode t).cell (.text "\\") =
          (Predicate.textMatch field mode (seenText t)).evaluate
            (.object [(field, .text (seenText s))]) ∧
        (ToldApart t s →
          Cell.like (Cell.text s).upper (Param.pattern mode t).cell (.text "\\") =
            (Predicate.textMatch field mode t).evaluate row)) ∧
    (∀ (d : Dialect) (field : String) (mode : TextMode) (t : String),
      d.clause (.textMatch field mode t) = single "wildcard" (single (d.keyword field) (.object [
        ("value", .text (pattern mode t)), ("case_insensitive", .boolean true)])) ∧
      ∃ parts, WildcardPart.ofChars? (pattern mode t).toList = some parts ∧
        ∀ s, WildcardPart.Spans parts s ↔ mode.Locates t.toList s) ∧
    ∀ (name : String) (rest : List Char), rest.head? ≠ some '"' →
      (∀ n r, StartsWithName ((quoteName name).toList ++ rest) n r ↔
        n = name.toList ∧ r = rest) ∧
      (name.toList.all isVisible = true →
        ∃ written, (quoteName name).toList ++ rest = '"' :: written ∧
          readToken '"' written = (.quoted name, rest)) := by
  refine ⟨?_, ?_, ?_⟩
  · intro mode t s ht hs field row hrow
    -- A text that holds no character with the code zero is seen to its end.
    have hvisible (u : String) (hu : u.toList.all isVisible = true) : ∀ c ∈ u.toList, c.toNat ≠ 0 :=
      fun c hc => bne_iff_ne.mp (List.all_eq_true.mp hu c hc)
    have hlike := like_pattern_seen mode t s (hvisible t ht) (hvisible s hs)
    refine ⟨rfl, patternFault?_pattern mode t, ?_, ?_⟩
    · rw [hlike, Predicate.evaluate_textMatch mode (seenText t) (Json.present?_single field (seenText s)),
        seenText, seenText, String.toList_ofList, String.toList_ofList]
    · intro happart
      rw [hlike, Predicate.evaluate_textMatch mode t hrow, finds_map_seenChar mode _ _ happart]
  · intro d field mode t
    refine ⟨rfl, _, WildcardPart.ofChars?_pattern mode t, ?_⟩
    exact WildcardPart.spans_partsOf_iff mode t.toList
  · intro name rest hrest
    exact ⟨startsWithName_quoteName_iff name rest hrest, readToken_quoteName name rest hrest⟩

end

/-- A text with percent signs and backslashes, looked for in a text that holds it, and a name with a
quote before a blank. -/
theorem texts_taken_literally_signs :
    Sql.Cell.like (Sql.Cell.text "100%\\ straße").upper
        (Sql.Param.pattern .endsWith "%\\ STRASSE").cell (.text "\\") =
      (Predicate.textMatch "name" .endsWith "%\\ STRASSE").evaluate
        (.object [("name", .text "100%\\ straße")]) ∧
    ∀ n r, Sql.StartsWithName ((Sql.quoteName "a\"b").toList ++ [' ']) n r ↔
      n = ['a', '"', 'b'] ∧ r = [' '] := by
  obtain ⟨hsql, -, hnames⟩ := texts_taken_literally
  have happart : Sql.ToldApart "%\\ STRASSE" "100%\\ straße" :=
    Sql.toldApart_of_all _ _ (by decide +kernel)
  obtain ⟨-, -, -, hlike⟩ := hsql .endsWith "%\\ STRASSE" "100%\\ straße" (by decide +kernel)
    (by decide +kernel) "name" _ (Json.present?_single _ _)
  exact ⟨hlike happart, (hnames "a\"b" [' '] (by decide)).1⟩

namespace Sql

theorem flatMap_replicate {α β : Type} {f : α → List β} {a : α} {b : β} (h : f a = [b]) (n : Nat) :
    (List.replicate n a).flatMap f = List.replicate n b := by
  induction n with
  | zero => rfl
  | succ n ih =>
    rw [List.replicate_succ, List.flatMap_cons, h, ih, List.singleton_append, List.replicate_succ]

def letters (n : Nat) : String := String.ofList (List.replicate n 'A')

theorem length_bytes_pattern_letters (n : Nat) :
    (Param.pattern .startsWith (letters n)).cell.bytes.length = n + 1 := by
  have hescape : escapePattern (List.replicate n 'A') = List.replicate n 'A' :=
    flatMap_replicate (by decide) n
  have hupper : Text.upperChars (List.replicate n 'A') = List.replicate n 'A' :=
    flatMap_replicate (by decide) n
  have hbytes : (List.replicate n 'A').flatMap String.utf8EncodeChar = List.replicate n 65 :=
    flatMap_replicate (by decide) n
  rw [pattern_cell, letters, String.toList_ofList, hescape, hupper]
  change (Text.encode (String.ofList (String.ofList _).toList)).length = _
  rw [String.toList_ofList, Text.length_encode_ofList, PatternItem.patternChars,
    List.flatMap_append, hbytes, List.length_append, List.length_replicate]
  rfl

/-- Patterns take the two codes that are no characters for one another, and a pattern that is too
long has a fault, where a search of rows finds what it should. -/
theorem like_pattern_not_literal :
    (Cell.like (Cell.text "\uFFFE").upper (Param.pattern .contains "\uFFFF").cell (.text "\\") =
        .yes ∧
      (Predicate.textMatch "name" .contains "\uFFFF").evaluate
        (.object [("name", .text "\uFFFE")]) = .no) ∧
    Cell.patternFault? (Param.pattern .startsWith (letters 50000)).cell (some (.text "\\")) =
        some .patternLength ∧
      (Predicate.textMatch "name" .startsWith (letters 50000)).evaluate
        (.object [("name", .text (letters 50000))]) = .yes := by
  refine ⟨by decide +kernel, ?_, ?_⟩
  · rw [patternFault?_pattern, length_bytes_pattern_letters]
    rfl
  · have hstored := Json.present?_single "name" (letters 50000)
    rw [Predicate.evaluate_textMatch .startsWith (letters 50000) hstored, Truth.ofBool_eq_yes,
      TextMode.finds_iff]
    exact List.prefix_refl _

end Sql

end CriteriaSearch
