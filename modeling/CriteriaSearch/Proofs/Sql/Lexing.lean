import CriteriaSearch.Proofs.Digits
import CriteriaSearch.Sql.Lexer
import Mathlib.Data.List.Basic

namespace CriteriaSearch.Sql

/-- The text after a token, if it cannot be taken for a part of the token. -/
def Seam (rest : List Char) : Prop :=
  rest = [] ∨ ∃ c more, rest = c :: more ∧ c ∈ [' ', ')', ',', '(']

def isWord (cs : List Char) : Bool :=
  cs.head?.any isNameStart && cs.all fun c => isNamePart c && decide (c.toNat < 128)

/-- What holds of the first 128 characters holds of a character of ASCII. -/
theorem ascii_all (p : Char → Bool) (h : ((List.range 128).all fun n => p (Char.ofNat n)) = true)
    (c : Char) (hc : c.toNat < 128) : p c = true := by
  have hp := List.all_eq_true.mp h c.toNat (List.mem_range.mpr hc)
  rwa [Char.ofNat_toNat] at hp

def isVisible (c : Char) : Bool := c.toNat != 0

namespace Token

def isReadable : Token → Bool
  | .keyword w => isWord w.toList && ofWord w == .keyword w
  | .name w => isWord w.toList && ofWord w == .name w
  | .quoted s | .text s => s.toList.all isVisible
  | .number d => d == "0" || d == "1"
  | .param n => 0 < n
  | .symbol s => ["(", ")", ",", "=", "<>", "<", ">", "*"].contains s
  | .blob _ | .broken _ => false

def conditionWords : List String :=
  ["AND", "BETWEEN", "ESCAPE", "IN", "IS", "LIKE", "NOT", "NULL", "OR"]

theorem isReadable_keyword (w : String) (h : w ∈ conditionWords) :
    (keyword w).isReadable = true := by
  have hall : ∀ w ∈ conditionWords, (keyword w).isReadable = true := by decide +kernel
  exact hall w h

end Token

theorem seam_cons (c : Char) (more : List Char) (h : c ∈ [' ', ')', ',', '(']) :
    Seam (c :: more) := .inr ⟨c, more, rfl, h⟩

theorem Seam.not_of (rest : List Char) (h : Seam rest) (p : Char → Bool)
    (hp : [' ', ')', ',', '('].all fun c => !p c) : ∀ c ∈ rest.head?, p c = false := by
  intro c hc
  rcases h with rfl | ⟨d, more, rfl, hd⟩
  · cases hc
  · cases hc
    simpa using List.all_eq_true.mp hp _ hd

theorem run_append_seam (p : Char → Bool) (cs rest : List Char) (hcs : cs.all p = true)
    (h : Seam rest) (hp : [' ', ')', ',', '('].all fun c => !p c) :
    (cs ++ rest).takeWhile p = cs ∧ (cs ++ rest).dropWhile p = rest :=
  takeWhile_run p cs rest hcs (h.not_of rest p hp)

/-- The characters at which another token than a name starts, and those between tokens. -/
def startsNoWord (c : Char) : Bool :=
  ['"', '\'', '[', '?', ':', '@', '$', '#', '-', '/'].contains c || c.toNat == 96 ||
    isDigit c || c == '.' || isEnd c || isSpace c

theorem isNameStart_startsNoWord (c : Char) (hascii : c.toNat < 128) (hc : isNameStart c = true) :
    startsNoWord c = false := by
  have h := ascii_all (fun c => !isNameStart c || !startsNoWord c) (by decide +kernel) c hascii
  simpa [hc] using h

theorem readToken_word (c : Char) (cs rest : List Char) (hword : isWord (c :: cs) = true)
    (h : Seam rest) :
    readToken c (cs ++ rest) = (.ofWord (String.ofList (c :: cs)), rest) := by
  simp only [isWord, List.head?_cons, Option.any_some, Bool.and_eq_true, List.all_cons,
    decide_eq_true_eq, List.all_eq_true] at hword
  obtain ⟨hc, ⟨hpart, hascii⟩, hcs⟩ := hword
  have hnone := isNameStart_startsNoWord c hascii hc
  simp only [startsNoWord, Bool.or_eq_false_iff, beq_eq_false_iff_ne, List.contains_cons,
    List.contains_nil, ne_eq, and_assoc] at hnone
  obtain ⟨h1, h2, h3, h4, h5, h6, h7, h8, -, -, -, h9, h10, h11, -, -⟩ := hnone
  have hall : (c :: cs).all isNamePart = true := by
    simp only [List.all_cons, hpart, Bool.true_and, List.all_eq_true]
    exact fun d hd => (hcs d hd).1
  obtain ⟨htake, hdrop⟩ := run_append_seam isNamePart (c :: cs) rest hall h (by decide)
  -- No quote follows the first character, as it does in a run of bytes.
  have hquote : ∀ more, cs ++ rest ≠ '\'' :: more := by
    intro more hmore
    cases cs with
    | nil =>
      rw [List.nil_append] at hmore
      have hnot := h.not_of rest (· == '\'') (by decide) '\''
      rw [hmore] at hnot
      exact absurd (hnot rfl) (by decide)
    | cons d ds =>
      rw [List.cons_append, List.cons.injEq] at hmore
      have hd := (hcs d List.mem_cons_self).1
      rw [hmore.1] at hd
      exact absurd hd (by decide)
  simp only [readToken, h1, h2, h3, h4, h5, h6, h7, h8, h9, h10, hc, or_self, Bool.false_or,
    beq_eq_false_iff_ne.mpr h11, Bool.false_and, if_neg Bool.false_ne_true, ↓reduceIte]
  rw [← List.cons_append, htake, hdrop]

theorem readEnclosed?_enclose (quote : Char) (hquote : isEnd quote = false) (cs seen rest : List Char)
    (hcs : cs.all isVisible = true) (h : ∀ more, rest ≠ quote :: more) :
    readEnclosed? quote seen
        (cs.flatMap (fun c => if c = quote then [quote, quote] else [c]) ++ quote :: rest) =
      some (String.ofList (seen.reverse ++ cs), rest) := by
  -- The induction is on the enclosed text; `seen` has in reverse what was read of it.
  induction cs generalizing seen with
  | nil =>
    cases rest with
    | nil => simp [readEnclosed?]
    | cons d more =>
      have hd : d ≠ quote := by
        rintro rfl
        exact h more rfl
      simp [readEnclosed?, hd]
  | cons c cs ih =>
    rw [List.all_cons, Bool.and_eq_true] at hcs
    have hend : isEnd c = false := by simpa [isVisible, isEnd, bne] using hcs.1
    have hseen : (c :: seen).reverse ++ cs = seen.reverse ++ c :: cs := by simp
    rw [List.flatMap_cons, List.append_assoc]
    by_cases hc : c = quote
    · subst hc
      rw [if_pos rfl, ← hseen, ← ih (c :: seen) hcs.2]
      simp [readEnclosed?]
    · rw [if_neg hc, ← hseen, ← ih (c :: seen) hcs.2]
      cases htail : cs.flatMap (fun c => if c = quote then [quote, quote] else [c]) ++
          quote :: rest with
      | nil => simp at htail
      | cons d more => simp [readEnclosed?, hc, hend]

theorem readQuotes_enclose (quote : Char) (hquote : [' ', ')', ',', '('].all (· != quote) = true)
    (hend : isEnd quote = false) (make : String → Token) (s : String) (rest : List Char)
    (hs : s.toList.all isVisible = true) (h : Seam rest) :
    ∃ cs, enclose quote s = quote :: cs ∧ readQuotes quote make (cs ++ rest) = (make s, rest) := by
  have hnext : ∀ more, rest ≠ quote :: more := by
    intro more hmore
    have hnot := h.not_of rest (· == quote) hquote quote
    rw [hmore] at hnot
    exact absurd (hnot rfl) (by simp)
  have hread := readEnclosed?_enclose quote hend s.toList [] rest hs hnext
  rw [List.reverse_nil, List.nil_append, String.ofList_toList] at hread
  refine ⟨s.toList.flatMap (fun c => if c = quote then [quote, quote] else [c]) ++ [quote], rfl, ?_⟩
  rw [List.append_assoc, List.singleton_append, readQuotes, hread]

theorem readToken_param (n : Nat) (rest : List Char) (h : Seam rest) :
    readToken '?' (Nat.toDigits 10 n ++ rest) = (.param n, rest) := by
  obtain ⟨htake, hdrop⟩ := run_append_seam isDigit _ rest (all_isDigit_toDigits n) h (by decide)
  unfold readToken
  rw [if_neg (by decide), if_neg (by decide), if_neg (by decide), if_neg (by decide), if_pos rfl,
    htake, hdrop, digitsValue_toDigits]

theorem readToken_number (d : Char) (hd : d = '0' ∨ d = '1') (rest : List Char) (h : Seam rest) :
    readToken d rest = (.number (String.singleton d), rest) := by
  rcases hd with rfl | rfl <;> rcases h with rfl | ⟨c, more, rfl, hc⟩
  · rfl
  · simp only [List.mem_cons, List.not_mem_nil, or_false] at hc
    rcases hc with rfl | rfl | rfl | rfl <;> rcases more with _ | ⟨e, more⟩ <;> rfl
  · rfl
  · simp only [List.mem_cons, List.not_mem_nil, or_false] at hc
    rcases hc with rfl | rfl | rfl | rfl <;> rcases more with _ | ⟨e, more⟩ <;> rfl

theorem readToken_sign (c : Char) (rest : List Char)
    (hc : c ∈ ['(', ')', ',', '=', '<', '>', '*']) : readToken c rest = readSign c rest := by
  obtain ⟨hname, hdigit, hne⟩ : isNameStart c = false ∧ isDigit c = false ∧
      ∀ e ∈ ['"', '\'', Char.ofNat 96, '[', '?', ':', '@', '$', '#', '.', 'x', 'X'], c ≠ e := by
    have hall : (['(', ')', ',', '=', '<', '>', '*'].all fun d => !isNameStart d && (!isDigit d &&
        ['"', '\'', Char.ofNat 96, '[', '?', ':', '@', '$', '#', '.', 'x', 'X'].all fun e =>
          d != e)) = true := by
      decide +kernel
    simpa only [Bool.and_eq_true, Bool.not_eq_true', List.all_eq_true, bne_iff_ne, ne_eq] using
      List.all_eq_true.mp hall c hc
  have h96 : c.toNat ≠ 96 := by
    intro h96
    apply hne (Char.ofNat 96) (by simp)
    rw [← h96, Char.ofNat_toNat]
  simp only [List.mem_cons, List.not_mem_nil, or_false, forall_eq_or_imp, forall_eq] at hne
  obtain ⟨h1, h2, -, h4, h5, h6, h7, h8, h9, h10, h11, h12⟩ := hne
  unfold readToken
  simp only [h1, h2, h96, h4, h5, h6, h7, h8, h9, h11, h12, hname, hdigit, or_self,
    Bool.false_or, beq_eq_false_iff_ne.mpr h10, Bool.false_and, Bool.false_eq_true, ↓reduceIte]
  split <;> rfl

theorem readToken_symbol (s : String) (hs : (Token.symbol s).isReadable = true) (rest : List Char)
    (h : s = "(" ∨ Seam rest) :
    ∃ c cs, s.toList = c :: cs ∧ readToken c (cs ++ rest) = (.symbol s, rest) := by
  simp only [Token.isReadable, List.contains_cons, List.contains_nil, Bool.or_false,
    Bool.or_eq_true, beq_iff_eq] at hs
  -- Only the signs that start longer ones depend on what follows.
  have hseam (c : Char) (hc : c ∈ ['(', ')', ',', '=', '<', '>', '*'])
      (hs : s ≠ "(") (hsign : ∀ d ∈ [' ', ')', ',', '('], ∀ more,
        readSign c (d :: more) = (.symbol s, d :: more)) (hend : readSign c [] = (.symbol s, [])) :
      readToken c rest = (.symbol s, rest) := by
    rw [readToken_sign c rest hc]
    rcases h with rfl | rfl | ⟨d, more, rfl, hd⟩
    · exact absurd rfl hs
    · exact hend
    · exact hsign d hd more
  rcases hs with rfl | rfl | rfl | rfl | rfl | rfl | rfl | rfl
  · exact ⟨'(', [], rfl, readToken_sign '(' rest (by simp)⟩
  · exact ⟨')', [], rfl, readToken_sign ')' rest (by simp)⟩
  · exact ⟨',', [], rfl, readToken_sign ',' rest (by simp)⟩
  · refine ⟨'=', [], rfl, hseam '=' (by simp) (by decide) ?_ rfl⟩
    simp only [List.mem_cons, List.not_mem_nil, or_false, forall_eq_or_imp, forall_eq]
    exact ⟨fun _ => rfl, fun _ => rfl, fun _ => rfl, fun _ => rfl⟩
  · exact ⟨'<', ['>'], rfl, readToken_sign '<' ('>' :: rest) (by simp)⟩
  · refine ⟨'<', [], rfl, hseam '<' (by simp) (by decide) ?_ rfl⟩
    simp only [List.mem_cons, List.not_mem_nil, or_false, forall_eq_or_imp, forall_eq]
    exact ⟨fun _ => rfl, fun _ => rfl, fun _ => rfl, fun _ => rfl⟩
  · refine ⟨'>', [], rfl, hseam '>' (by simp) (by decide) ?_ rfl⟩
    simp only [List.mem_cons, List.not_mem_nil, or_false, forall_eq_or_imp, forall_eq]
    exact ⟨fun _ => rfl, fun _ => rfl, fun _ => rfl, fun _ => rfl⟩
  · exact ⟨'*', [], rfl, readToken_sign '*' rest (by simp)⟩

/-- A character at which a token starts that is neither a blank nor the start of a comment. -/
def startsToken (c : Char) : Bool := !isEnd c && !isSpace c && c != '-' && c != '/'

theorem startsToken_of_startsNoWord (c : Char) (h : startsNoWord c = false) :
    startsToken c = true := by
  simp only [startsNoWord, Bool.or_eq_false_iff, List.contains_cons, List.contains_nil,
    beq_eq_false_iff_ne, ne_eq, and_assoc] at h
  obtain ⟨-, -, -, -, -, -, -, -, hminus, hslash, -, -, -, -, hend, hspace⟩ := h
  simp [startsToken, hend, hspace, hminus, hslash]

theorem readToken_chars (t : Token) (ht : t.isReadable = true) (rest : List Char)
    (h : t = .symbol "(" ∨ Seam rest) :
    ∃ c cs, t.chars = c :: cs ∧ startsToken c = true ∧ readToken c (cs ++ rest) = (t, rest) := by
  -- Keywords and plain names are read alike, up to the seam.
  have hword (w : String) (hw : isWord w.toList = true) (hseam : Seam rest) :
      ∃ c cs, w.toList = c :: cs ∧ startsToken c = true ∧
        readToken c (cs ++ rest) = (.ofWord w, rest) := by
    cases hcs : w.toList with
    | nil =>
      rw [hcs] at hw
      cases hw
    | cons c cs =>
      rw [hcs] at hw
      have hread := readToken_word c cs rest hw hseam
      rw [← hcs, String.ofList_toList] at hread
      refine ⟨c, cs, rfl, ?_, hread⟩
      simp only [isWord, List.head?_cons, Option.any_some, Bool.and_eq_true, List.all_cons,
        decide_eq_true_eq] at hw
      exact startsToken_of_startsNoWord c (isNameStart_startsNoWord c hw.2.1.2 hw.1)
  cases t with
  | keyword w =>
    simp only [Token.isReadable, Bool.and_eq_true, beq_iff_eq] at ht
    have := hword w ht.1 (h.resolve_left nofun)
    rwa [ht.2] at this
  | name w =>
    simp only [Token.isReadable, Bool.and_eq_true, beq_iff_eq] at ht
    have := hword w ht.1 (h.resolve_left nofun)
    rwa [ht.2] at this
  | quoted s =>
    obtain ⟨cs, hcs, hread⟩ := readQuotes_enclose '"' (by decide) (by decide) .quoted s rest ht
      (h.resolve_left nofun)
    exact ⟨'"', cs, hcs, by decide, hread⟩
  | text s =>
    obtain ⟨cs, hcs, hread⟩ := readQuotes_enclose '\'' (by decide) (by decide) .text s rest ht
      (h.resolve_left nofun)
    exact ⟨'\'', cs, hcs, by decide, hread⟩
  | blob bytes => cases ht
  | number d =>
    simp only [Token.isReadable, Bool.or_eq_true, beq_iff_eq] at ht
    rcases ht with rfl | rfl
    · exact ⟨'0', [], rfl, by decide, readToken_number '0' (.inl rfl) rest (h.resolve_left nofun)⟩
    · exact ⟨'1', [], rfl, by decide, readToken_number '1' (.inr rfl) rest (h.resolve_left nofun)⟩
  | param n =>
    exact ⟨'?', _, rfl, by decide, readToken_param n rest (h.resolve_left nofun)⟩
  | symbol s =>
    have h' : s = "(" ∨ Seam rest := h.imp_left fun h => Token.symbol.inj h
    obtain ⟨c, cs, hcs, hread⟩ := readToken_symbol s ht rest h'
    refine ⟨c, cs, hcs, ?_, hread⟩
    simp only [Token.isReadable, List.contains_cons, List.contains_nil, Bool.or_false,
      Bool.or_eq_true, beq_iff_eq] at ht
    rcases ht with rfl | rfl | rfl | rfl | rfl | rfl | rfl | rfl <;> cases hcs <;> decide
  | broken source => cases ht

theorem seam_renderAfter (t : Token) (ts : List Token) :
    t = .symbol "(" ∨ Seam (t.renderAfter ts) := by
  cases ts with
  | nil => exact .inr (.inl rfl)
  | cons u us =>
    rw [Token.renderAfter]
    by_cases htouch : t.touches u = true
    · rw [if_pos htouch, List.nil_append]
      unfold Token.touches at htouch
      split at htouch
      · exact .inl rfl
      · exact .inr (seam_cons ')' _ (by simp))
      · exact .inr (seam_cons ',' _ (by simp))
      · exact .inr (seam_cons '(' _ (by simp))
      · cases htouch
    · rw [if_neg htouch]
      exact .inr (seam_cons ' ' _ (by simp))

theorem lex_blank (fuel : Nat) (rest : List Char) : lex (fuel + 1) (' ' :: rest) = lex fuel rest := by
  rw [lex.eq_def]
  rfl

theorem lex_cons (fuel : Nat) (c : Char) (more : List Char) (hminus : c ≠ '-') (hslash : c ≠ '/') :
    lex (fuel + 1) (c :: more) =
      if isEnd c then []
      else if isSpace c then lex fuel more
      else ⟨(readToken c more).1, c :: more, (readToken c more).2⟩ ::
        if (readToken c more).1.isBroken then [] else lex fuel (readToken c more).2 := by
  rw [lex]
  · intro rest h
    exact absurd h hminus
  · intro d rest h
    exact absurd h hslash

theorem lex_token (fuel : Nat) (c : Char) (cs rest : List Char) (t : Token)
    (hc : startsToken c = true) (ht : t.isBroken = false)
    (hread : readToken c (cs ++ rest) = (t, rest)) :
    lex (fuel + 1) (c :: cs ++ rest) = ⟨t, c :: cs ++ rest, rest⟩ :: lex fuel rest := by
  simp only [startsToken, Bool.and_eq_true, Bool.not_eq_true', bne_iff_ne] at hc
  obtain ⟨⟨⟨hend, hspace⟩, hminus⟩, hslash⟩ := hc
  rw [List.cons_append, lex_cons fuel c _ hminus hslash, hread, hend, hspace, ht]
  simp only [Bool.false_eq_true, ↓reduceIte]

theorem isBroken_of_isReadable (t : Token) (h : t.isReadable = true) : t.isBroken = false := by
  cases t <;> first | rfl | cases h

def Spells (ls : List Lexeme) (ts : List Token) : Prop :=
  ls.map Lexeme.token = ts ∧ ∀ l ∈ ls, l.source = l.token.chars

theorem lex_chars (t : Token) (ts : List Token) (ht : t.isReadable = true) (fuel : Nat)
    (ih : Spells (lex fuel (t.renderAfter ts)) ts) :
    Spells (lex (fuel + 1) (t.chars ++ t.renderAfter ts)) (t :: ts) := by
  obtain ⟨c, cs, hcs, hc, hread⟩ := readToken_chars t ht _ (seam_renderAfter t ts)
  rw [hcs, lex_token fuel c cs _ t hc (isBroken_of_isReadable t ht) hread]
  refine ⟨by rw [List.map_cons, ih.1], ?_⟩
  intro l hl
  rcases List.mem_cons.mp hl with rfl | hl
  · rw [Lexeme.source, List.length_append, Nat.add_sub_cancel, List.take_left', hcs]
    rfl
  · exact ih.2 l hl

theorem lex_renderAfter (t : Token) (ts : List Token) (hts : ∀ u ∈ ts, u.isReadable = true)
    (fuel : Nat) (hfuel : (t.renderAfter ts).length < fuel) :
    Spells (lex fuel (t.renderAfter ts)) ts := by
  induction ts generalizing t fuel with
  | nil =>
    obtain ⟨fuel, rfl⟩ := Nat.exists_eq_add_of_lt hfuel
    exact ⟨rfl, nofun⟩
  | cons u us ih =>
    have hu := hts u List.mem_cons_self
    have hus : ∀ v ∈ us, v.isReadable = true := fun v hv => hts v (List.mem_cons_of_mem u hv)
    obtain ⟨c, cs, hcs, -⟩ := readToken_chars u hu _ (seam_renderAfter u us)
    -- Each token takes at least one character, so that the fuel lasts.
    have hpos : 0 < u.chars.length := by
      rw [hcs]
      exact Nat.succ_pos _
    rw [Token.renderAfter] at hfuel ⊢
    split at hfuel
    · next htouch =>
      rw [if_pos htouch]
      simp only [List.nil_append, List.length_append] at hfuel ⊢
      obtain ⟨fuel, rfl⟩ : ∃ n, fuel = n + 1 := ⟨fuel - 1, by omega⟩
      exact lex_chars u us hu fuel (ih u hus fuel (by omega))
    · next htouch =>
      rw [if_neg htouch]
      simp only [List.length_append, List.length_cons, List.cons_append, List.nil_append] at hfuel ⊢
      obtain ⟨fuel, rfl⟩ : ∃ n, fuel = n + 1 + 1 := ⟨fuel - 2, by omega⟩
      rw [lex_blank]
      exact lex_chars u us hu fuel (ih u hus fuel (by omega))

theorem lexemes_render (ts : List Token) (hts : ∀ t ∈ ts, t.isReadable = true) :
    Spells (lexemes (Token.render ts)) ts := by
  cases ts with
  | nil => exact ⟨rfl, nofun⟩
  | cons t ts =>
    have ht := hts t List.mem_cons_self
    obtain ⟨c, cs, hcs, -⟩ := readToken_chars t ht _ (seam_renderAfter t ts)
    have hpos : 0 < t.chars.length := by
      rw [hcs]
      exact Nat.succ_pos _
    rw [lexemes, Token.render]
    apply lex_chars t ts ht
    apply lex_renderAfter t ts (fun u hu => hts u (List.mem_cons_of_mem t hu))
    rw [List.length_append]
    omega

end CriteriaSearch.Sql
