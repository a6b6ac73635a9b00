import CriteriaSearch.Json.Reader
import CriteriaSearch.Json.Writer
import CriteriaSearch.Proofs.Number.Display

namespace CriteriaSearch

/-- The digits of a number of more than one digit do not start with a zero. -/
theorem head?_toDigits (n : Nat) (h : 1 < (Nat.toDigits 10 n).length) :
    (Nat.toDigits 10 n).head? ≠ some '0' := by
  intro hzero
  have hdigits := all_isDigit_toDigits n
  have hvalue := digitsValue_toDigits n
  cases htext : Nat.toDigits 10 n with
  | nil =>
    rw [htext] at h
    cases h
  | cons c ds =>
    rw [htext] at h hzero hdigits hvalue
    cases hzero
    rw [List.all_cons, Bool.and_eq_true] at hdigits
    -- The digits behind the zero are enough to write the number.
    have hlt := digitsValue_lt 0 ds hdigits.2
    have hsame : digitsValue 0 ('0' :: ds) = digitsValue 0 ds := rfl
    rw [Nat.zero_add, Nat.one_mul, ← hsame, hvalue] at hlt
    have hshort := (Nat.length_toDigits_le_iff (by decide) (Nat.succ_lt_succ_iff.mp h)).mpr hlt
    rw [htext, List.length_cons] at hshort
    omega

namespace Json

/-- A value ends where a text ends or goes on with a comma or a closing bracket. -/
def EndsValue (rest : List Char) : Prop := ∀ c ∈ rest.head?, c ∈ [',', ']', '\x7d']

theorem endsValue_nil : EndsValue [] := by
  rintro _ ⟨⟩

theorem endsValue_cons (c : Char) (rest : List Char) (h : c ∈ [',', ']', '\x7d']) :
    EndsValue (c :: rest) := by
  rintro _ ⟨⟩
  exact h

theorem EndsValue.noNumber {rest : List Char} (h : EndsValue rest) :
    (∀ c ∈ rest.head?, isDigit c = false) ∧ readFraction? rest = some ([], rest) ∧
      readExponent? rest = some (none, rest) := by
  cases rest with
  | nil => exact ⟨by rintro _ ⟨⟩, rfl, rfl⟩
  | cons c rest =>
    have hc := h c rfl
    simp only [List.mem_cons, List.not_mem_nil, or_false] at hc
    -- None of the three characters is a digit, a point or the mark of an exponent.
    have hdigit (hc : isDigit c = false) : ∀ first ∈ (c :: rest).head?, isDigit first = false := by
      rintro _ ⟨⟩
      exact hc
    rcases hc with rfl | rfl | rfl
    · exact ⟨hdigit rfl, rfl, rfl⟩
    · exact ⟨hdigit rfl, rfl, rfl⟩
    · exact ⟨hdigit rfl, rfl, rfl⟩

theorem hexDigit?_digitChar : ∀ n < 16, hexDigit? (Nat.digitChar n) = some n := by decide

theorem hexDigit?_hexDigit (n : Nat) : hexDigit? (hexDigit n) = some (n % 16) :=
  hexDigit?_digitChar (n % 16) (Nat.mod_lt n (by decide))

theorem unicodeEscape?_control (c : Char) (h : c.toNat < 0x20) (rest : List Char) :
    unicodeEscape? ('0' :: '0' :: hexDigit (c.toNat / 16) :: hexDigit c.toNat :: rest) =
      some (some c, rest) := by
  have hzero : hexDigit? '0' = some 0 := rfl
  have hcode : ((0 * 16 + 0) * 16 + c.toNat / 16 % 16) * 16 + c.toNat % 16 = c.toNat := by omega
  have hfour : hex4? ('0' :: '0' :: hexDigit (c.toNat / 16) :: hexDigit c.toNat :: rest) =
      some (c.toNat, rest) := by
    simp only [hex4?, hzero, hexDigit?_hexDigit, Option.bind_eq_bind, Option.bind_some, hcode]
  rw [unicodeEscape?, hfour]
  -- A control character is no half of a pair.
  have hplain : c.toNat < 0xD800 ∨ 0xDFFF < c.toNat := by omega
  simp only [Option.bind_eq_bind, Option.bind_some, if_pos hplain, Char.ofNat_toNat]

theorem readText?_escapeChar (fuel : Nat) (seen : List Char) (c : Char) (rest : List Char) :
    readText? (fuel + 1) (some seen) (escapeChar c ++ rest) =
      readText? fuel (some (c :: seen)) rest := by
  unfold escapeChar
  split
  case h_8 hquote hbackslash _ _ _ _ _ =>
    split
    · next hcontrol =>
      -- A control character without a letter of its own is written by its code.
      have hescape := unicodeEscape?_control c hcontrol rest
      change (unicodeEscape? ('0' :: '0' :: hexDigit (c.toNat / 16) :: hexDigit c.toNat ::
        rest)).bind _ = _
      rw [hescape]
      rfl
    · next hvisible =>
      rw [List.singleton_append, readText?]
      · rw [if_neg hquote, if_neg hvisible]
        rfl
      · exact hbackslash
  all_goals rfl

theorem readText?_flatMap (cs : List Char) (fuel : Nat) (seen rest : List Char)
    (hfuel : cs.length < fuel) :
    readText? fuel (some seen) (cs.flatMap escapeChar ++ '"' :: rest) =
      some (some (String.ofList (seen.reverse ++ cs)), rest) := by
  induction cs generalizing fuel seen with
  | nil =>
    obtain ⟨fuel, rfl⟩ := Nat.exists_eq_add_one_of_ne_zero (Nat.ne_zero_of_lt hfuel)
    rw [List.append_nil]
    rfl
  | cons c cs ih =>
    obtain ⟨fuel, rfl⟩ := Nat.exists_eq_add_one_of_ne_zero (Nat.ne_zero_of_lt hfuel)
    rw [List.length_cons] at hfuel
    have hlater := ih fuel (c :: seen) (Nat.lt_of_succ_lt_succ hfuel)
    rw [List.flatMap_cons, List.append_assoc, readText?_escapeChar, hlater, List.reverse_cons,
      List.append_assoc]
    rfl

theorem length_le_flatMap_escapeChar (cs : List Char) :
    cs.length ≤ (cs.flatMap escapeChar).length := by
  have hwritten (c : Char) : 1 ≤ (escapeChar c).length := by
    unfold escapeChar
    split
    case h_8 => split <;> simp
    all_goals simp
  induction cs with
  | nil => exact Nat.le_refl 0
  | cons c cs ih =>
    rw [List.flatMap_cons, List.length_append, List.length_cons]
    have hc := hwritten c
    omega

theorem quoted_append (s : String) (rest : List Char) :
    quoted s ++ rest = '"' :: (s.toList.flatMap escapeChar ++ '"' :: rest) := by
  simp [quoted]

/-- A text between quotes is read to its end, with as much fuel as it has characters. -/
theorem readText?_quoted (s : String) (rest : List Char) :
    readText? ((s.toList.flatMap escapeChar ++ '"' :: rest).length + 1) (some [])
      (s.toList.flatMap escapeChar ++ '"' :: rest) = some (some s, rest) := by
  have hlength := length_le_flatMap_escapeChar s.toList
  rw [readText?_flatMap]
  · rw [List.reverse_nil, List.nil_append, String.ofList_toList]
  · rw [List.length_append]
    omega

theorem numberOf_integer (n : Int) (hmin : -9223372036854775808 ≤ n)
    (hmax : n ≤ 18446744073709551615) :
    numberOf (decide (n < 0)) (Nat.toDigits 10 n.natAbs) [] none = .integer n := by
  have hdigits : digitsValue (digitsValue 0 (Nat.toDigits 10 n.natAbs)) [] = n.natAbs :=
    digitsValue_toDigits n.natAbs
  have hsigned : (if decide (n < 0) = true then -(n.natAbs : Int) else n.natAbs) = n := by
    simp only [decide_eq_true_eq]
    split <;> omega
  have hzero : ¬(decide (n < 0) = true ∧ n.natAbs = 0) := by
    rw [decide_eq_true_eq]
    omega
  unfold numberOf
  simp only [hdigits, hsigned]
  rw [if_pos ⟨trivial, trivial, hzero, hmin, hmax⟩]

/-- The digits of an integer are read as the integer, up to where its value ends. -/
theorem readNumber?_integer (n : Int) (hmin : -9223372036854775808 ≤ n)
    (hmax : n ≤ 18446744073709551615) (rest : List Char) (hrest : EndsValue rest) :
    readNumber? ((toString n).toList ++ rest) = some (.integer n, rest) := by
  obtain ⟨hdigit, hfraction, hexponent⟩ := hrest.noNumber
  obtain ⟨htake, hdrop⟩ := takeWhile_run isDigit (Nat.toDigits 10 n.natAbs) rest
    (all_isDigit_toDigits n.natAbs) hdigit
  have hwhole : ¬(Nat.toDigits 10 n.natAbs = [] ∨ 1 < (Nat.toDigits 10 n.natAbs).length ∧
      (Nat.toDigits 10 n.natAbs).head? = some '0') := by
    rintro (hnil | ⟨hlong, hzero⟩)
    · exact Nat.toDigits_ne_nil hnil
    · exact head?_toDigits n.natAbs hlong hzero
  have hnumber := numberOf_integer n hmin hmax
  rw [Numeral.toList_toString, Numeral.chars_ofInt]
  by_cases hn : n < 0
  · rw [decide_eq_true hn] at hnumber
    rw [if_pos hn, List.append_assoc, List.singleton_append, readNumber?]
    simp only [htake, hdrop, if_neg hwhole, hfraction, hexponent, Option.bind_eq_bind,
      Option.bind_some, hnumber]
  · rw [decide_eq_false hn] at hnumber
    rw [if_neg hn, List.nil_append, readNumber?]
    · simp only [htake, hdrop, if_neg hwhole, hfraction, hexponent, Option.bind_eq_bind,
        Option.bind_some, hnumber]
    · -- The first digit is no sign.
      obtain ⟨c, ds, hdigits, hc⟩ := (Numeral.ofInt n).exists_whole
      have hdigits : Nat.toDigits 10 n.natAbs = c :: ds := hdigits
      rintro _ heq
      rw [hdigits] at heq
      cases heq
      cases hc

/-- Values without floats, all of whose integers have at most 64 bits. -/
inductive IsExact : Json → Prop
  | null : IsExact .null
  | boolean (b : Bool) : IsExact (.boolean b)
  | text (s : String) : IsExact (.text s)
  | integer (n : Int) (hmin : -9223372036854775808 ≤ n) (hmax : n ≤ 18446744073709551615) :
      IsExact (.integer n)
  | array (items : List Json) (h : ∀ item ∈ items, IsExact item) : IsExact (.array items)
  | object (fields : List (String × Json)) (h : ∀ field ∈ fields, IsExact field.2) :
      IsExact (.object fields)

/-- A value starts with a character that neither is white space nor closes an array. -/
def IsStart (c : Char) : Prop := isSpace c = false ∧ c ≠ ']'

instance (c : Char) : Decidable (IsStart c) := inferInstanceAs (Decidable (_ ∧ _))

theorem toString_start (n : Int) :
    ∃ c cs, (toString n).toList = c :: cs ∧ (c = '-' ∨ isDigit c = true) := by
  obtain ⟨c, ds, hwhole, hc⟩ := (Numeral.ofInt n).exists_whole
  have hwhole : Nat.toDigits 10 n.natAbs = c :: ds := hwhole
  rw [Numeral.toList_toString, Numeral.chars_ofInt, hwhole]
  by_cases hn : n < 0
  · rw [if_pos hn]
    exact ⟨'-', c :: ds, rfl, .inl rfl⟩
  · rw [if_neg hn]
    exact ⟨c, ds, rfl, .inr hc⟩

theorem isStart_of_number (c : Char) (h : c = '-' ∨ isDigit c = true) : IsStart c := by
  rcases h with rfl | hc
  · decide
  · constructor
    · rw [Bool.eq_false_iff]
      intro hspace
      simp only [isSpace, Bool.or_eq_true, beq_iff_eq] at hspace
      rcases hspace with ((rfl | rfl) | rfl) | rfl <;> cases hc
    · rintro rfl
      cases hc

theorem IsExact.start {j : Json} (h : IsExact j) : ∃ c cs, j.chars = c :: cs ∧ IsStart c := by
  cases h with
  | null => exact ⟨_, _, rfl, by decide⟩
  | boolean b => cases b <;> exact ⟨_, _, rfl, by decide⟩
  | text s => exact ⟨_, _, rfl, by decide⟩
  | integer n hmin hmax =>
    obtain ⟨c, cs, htext, hc⟩ := toString_start n
    exact ⟨c, cs, htext, isStart_of_number c hc⟩
  | array items h => cases items <;> exact ⟨_, _, rfl, by decide⟩
  | object fields h => cases fields <;> exact ⟨_, _, rfl, by decide⟩

theorem IsExact.exists_fuel {j : Json} (h : IsExact j) {fuel : Nat}
    (hfuel : j.chars.length ≤ fuel) : ∃ n, fuel = n + 1 := by
  obtain ⟨c, cs, htext, -⟩ := h.start
  rw [htext, List.length_cons] at hfuel
  exact Nat.exists_eq_add_one_of_ne_zero (Nat.ne_zero_of_lt hfuel)

theorem skipSpace_start (c : Char) (cs : List Char) (h : IsStart c) :
    skipSpace (c :: cs) = c :: cs := by
  rw [skipSpace, List.dropWhile_cons, h.1]
  rfl

/-- The value is read back wherever it is written, with as much fuel as it has characters. -/
def IsReadBack (j : Json) : Prop :=
  ∀ fuel rest, j.chars.length ≤ fuel → EndsValue rest →
    readValue? fuel (j.chars ++ rest) = some (j, rest)

theorem readValue?_number (fuel : Nat) (c : Char) (cs : List Char)
    (h : c = '-' ∨ isDigit c = true) : readValue? (fuel + 1) (c :: cs) = readNumber? (c :: cs) := by
  rw [readValue?, skipSpace_start c cs (isStart_of_number c h)]
  -- No other value starts with a sign or a digit.
  split <;> first
    | rfl
    | next heq =>
      cases heq
      rcases h with hc | hc <;> cases hc

theorem readValue?_text (fuel : Nat) (s : String) (rest : List Char) :
    readValue? (fuel + 1) (quoted s ++ rest) = some (.text s, rest) := by
  have hread := readText?_quoted s rest
  rw [quoted_append, readValue?]
  change (readText? _ (some []) _).map _ = _
  rw [hread]
  rfl

/-- What follows an opening bracket is read as items if it is the start of a value. -/
theorem readValue?_bracket (fuel : Nat) (rest : List Char) :
    readValue? (fuel + 1) ('[' :: rest) =
      match skipSpace rest with
      | ']' :: rest => some (.array [], rest)
      | _ => (readItems? fuel rest).map fun (items, rest) => (.array items, rest) := by
  rw [readValue?]
  rfl

theorem readValue?_array (fuel : Nat) (c : Char) (cs : List Char) (h : IsStart c) :
    readValue? (fuel + 1) ('[' :: c :: cs) =
      (readItems? fuel (c :: cs)).map fun (items, rest) => (.array items, rest) := by
  rw [readValue?_bracket, skipSpace_start c cs h]
  split
  · next heq =>
    cases heq
    exact absurd rfl h.2
  · rfl

/-- One item is read, and then what stands behind it decides whether another one follows. -/
theorem readItems?_item (item : Json) (h : IsReadBack item) (fuel : Nat) (rest : List Char)
    (hfuel : item.chars.length ≤ fuel) (hrest : EndsValue rest) :
    readItems? (fuel + 1) (item.chars ++ rest) =
      match skipSpace rest with
      | ',' :: rest => (readItems? fuel rest).map fun (items, rest) => (item :: items, rest)
      | ']' :: rest => some ([item], rest)
      | _ => none := by
  rw [readItems?, h fuel rest hfuel hrest]
  rfl

theorem readItems?_items (item : Json) (items : List Json) (hitem : IsReadBack item)
    (hitems : ∀ other ∈ items, IsReadBack other) (fuel : Nat) (rest : List Char)
    (hfuel : (item.chars ++ itemChars items).length < fuel) :
    readItems? fuel (item.chars ++ (itemChars items ++ ']' :: rest)) =
      some (item :: items, rest) := by
  induction items generalizing item fuel with
  | nil =>
    obtain ⟨fuel, rfl⟩ := Nat.exists_eq_add_one_of_ne_zero (Nat.ne_zero_of_lt hfuel)
    rw [itemChars, List.append_nil] at hfuel
    rw [itemChars, List.nil_append, readItems?_item item hitem fuel _ (Nat.lt_succ_iff.mp hfuel)
      (endsValue_cons _ _ (by decide))]
    rfl
  | cons next items ih =>
    -- An item takes one unit of fuel, and the comma before the next one makes up for it.
    obtain ⟨fuel, rfl⟩ := Nat.exists_eq_add_one_of_ne_zero (Nat.ne_zero_of_lt hfuel)
    rw [List.forall_mem_cons] at hitems
    rw [itemChars, List.cons_append] at hfuel ⊢
    simp only [List.length_append, List.length_cons] at hfuel
    have hlater := ih next hitems.1 hitems.2 fuel (by
      rw [List.length_append]
      omega)
    rw [List.cons_append, readItems?_item item hitem fuel _ (by omega)
      (endsValue_cons _ _ (by decide)), List.append_assoc]
    change (readItems? fuel _).map _ = _
    rw [hlater]
    rfl

theorem ofReadFields_some (fields : List (String × Json)) :
    ofReadFields (fields.map fun field => (some field.1, field.2)) = .object fields := by
  have hfields (put : Option String × Json → Option (String × Json))
      (hput : ∀ field : String × Json, put (some field.1, field.2) = some field) :
      (fields.map fun field => (some field.1, field.2)).mapM put = some fields := by
    have hkept : (put ∘ fun field => (some field.1, field.2)) = some := funext hput
    rw [List.mapM_map, hkept]
    have hpure := List.mapM_pure (m := Option) (l := fields) (f := id)
    rw [List.map_id] at hpure
    exact hpure
  rw [ofReadFields, hfields _ fun _ => rfl]

/-- One field is read, and then what stands behind it decides whether another one follows. -/
theorem readFields?_field (name : String) (value : Json) (h : IsReadBack value) (fuel : Nat)
    (rest : List Char) (hfuel : value.chars.length ≤ fuel) (hrest : EndsValue rest) :
    readFields? (fuel + 1) (quoted name ++ ':' :: (value.chars ++ rest)) =
      match skipSpace rest with
      | ',' :: rest =>
        (readFields? fuel rest).map fun (fields, rest) => ((some name, value) :: fields, rest)
      | '\x7d' :: rest => some ([(some name, value)], rest)
      | _ => none := by
  have hname := readText?_quoted name (':' :: (value.chars ++ rest))
  rw [quoted_append, readFields?]
  change (readText? _ (some []) _).bind _ = _
  rw [hname, Option.bind_some]
  change (readValue? fuel _).bind _ = _
  rw [h fuel rest hfuel hrest]
  rfl

theorem readFields?_fields (name : String) (value : Json) (fields : List (String × Json))
    (hvalue : IsReadBack value) (hfields : ∀ field ∈ fields, IsReadBack field.2) (fuel : Nat)
    (rest : List Char) (hfuel : (value.chars ++ fieldChars fields).length < fuel) :
    readFields? fuel
        (quoted name ++ ':' :: (value.chars ++ (fieldChars fields ++ '\x7d' :: rest))) =
      some (((name, value) :: fields).map (fun field => (some field.1, field.2)), rest) := by
  induction fields generalizing name value fuel with
  | nil =>
    obtain ⟨fuel, rfl⟩ := Nat.exists_eq_add_one_of_ne_zero (Nat.ne_zero_of_lt hfuel)
    rw [fieldChars, List.append_nil] at hfuel
    rw [fieldChars, List.nil_append, readFields?_field name value hvalue fuel _
      (Nat.lt_succ_iff.mp hfuel) (endsValue_cons _ _ (by decide))]
    rfl
  | cons next fields ih =>
    obtain ⟨fuel, rfl⟩ := Nat.exists_eq_add_one_of_ne_zero (Nat.ne_zero_of_lt hfuel)
    obtain ⟨nextName, nextValue⟩ := next
    rw [List.forall_mem_cons] at hfields
    rw [fieldChars] at hfuel ⊢
    simp only [List.length_append, List.length_cons, List.cons_append, List.append_assoc]
      at hfuel ⊢
    -- The field read first takes at least one character, which is one step of the fuel.
    have hlater := ih nextName nextValue hfields.1 hfields.2 fuel (by
      rw [List.length_append]
      omega)
    rw [readFields?_field name value hvalue fuel _ (by omega) (endsValue_cons _ _ (by decide))]
    change (readFields? fuel _).map _ = _
    rw [hlater]
    rfl

theorem IsExact.isReadBack {j : Json} (h : IsExact j) : IsReadBack j := by
  -- The fuel is taken apart first, since a reader looks at nothing without it.
  induction h with
  | null =>
    intro fuel rest hfuel _
    obtain ⟨fuel, rfl⟩ := IsExact.null.exists_fuel hfuel
    rfl
  | boolean b =>
    intro fuel rest hfuel _
    obtain ⟨fuel, rfl⟩ := (IsExact.boolean b).exists_fuel hfuel
    cases b <;> rfl
  | text s =>
    intro fuel rest hfuel _
    obtain ⟨fuel, rfl⟩ := (IsExact.text s).exists_fuel hfuel
    exact readValue?_text fuel s rest
  | integer n hmin hmax =>
    intro fuel rest hfuel hrest
    obtain ⟨fuel, rfl⟩ := (IsExact.integer n hmin hmax).exists_fuel hfuel
    obtain ⟨c, cs, htext, hc⟩ := toString_start n
    have hnumber := readNumber?_integer n hmin hmax rest hrest
    rw [htext, List.cons_append] at hnumber
    rw [chars, htext, List.cons_append, readValue?_number fuel c _ hc, hnumber]
  | array items h ih =>
    intro fuel rest hfuel _
    obtain ⟨fuel, rfl⟩ := (IsExact.array items h).exists_fuel hfuel
    cases items with
    | nil => rfl
    | cons item items =>
      obtain ⟨c, cs, htext, hc⟩ := (h item List.mem_cons_self).start
      rw [chars] at hfuel ⊢
      simp only [List.length_append, List.length_cons, List.cons_append, List.append_assoc,
        List.nil_append, List.length_nil] at hfuel ⊢
      rw [List.forall_mem_cons] at ih
      have hitems := readItems?_items item items ih.1 ih.2 fuel rest (by
        rw [List.length_append]
        omega)
      rw [htext, List.cons_append] at hitems ⊢
      rw [readValue?_array fuel c _ hc, hitems]
      rfl
  | object fields h ih =>
    intro fuel rest hfuel _
    obtain ⟨fuel, rfl⟩ := (IsExact.object fields h).exists_fuel hfuel
    cases fields with
    | nil => rfl
    | cons field fields =>
      obtain ⟨name, value⟩ := field
      rw [chars] at hfuel ⊢
      simp only [List.length_append, List.length_cons, List.cons_append, List.append_assoc,
        List.nil_append, List.length_nil] at hfuel ⊢
      rw [List.forall_mem_cons] at ih
      have hfields := readFields?_fields name value fields ih.1 ih.2 fuel rest (by
        rw [List.length_append]
        omega)
      rw [quoted_append] at hfields ⊢
      rw [readValue?]
      change (readFields? fuel _).map _ = _
      rw [hfields]
      exact congrArg (fun j => some (j, rest)) (ofReadFields_some _)

/-- The compact text of a value without floats and oversized integers is read as the value. -/
theorem IsExact.ofText_compact {j : Json} (h : IsExact j) : ofText j.compact = some j := by
  have hread := h.isReadBack (j.chars.length + 1) [] (Nat.le_succ _) endsValue_nil
  rw [List.append_nil] at hread
  rw [ofText, compact, String.toList_ofList, hread]
  rfl

end Json

end CriteriaSearch
