import CriteriaSearch.Proofs.Calendar.Leap
import CriteriaSearch.Proofs.Calendar.Order
import CriteriaSearch.Proofs.Calendar.Reading
import CriteriaSearch.Proofs.FilterTerm
import CriteriaSearch.Proofs.Sql.Conditions
import CriteriaSearch.Proofs.Sql.Moment.Shown
import CriteriaSearch.Proofs.Sql.Numbers

/-!
# Stored values

What the columns of a table make of the values of a row, and how their cells are compared with the
values of filters. A column may change the kind of a number, but leaves texts and dates alone, so
that a comparison in the table comes out as in memory.
-/

namespace CriteriaSearch

namespace Sql

namespace Numeral

theorem form_hyphen (negative : Bool) (ds more : List Char) (hne : ds ≠ [])
    (h : ds.all isDigit = true) : (ofUnsigned negative (ds ++ '-' :: more)).form = .other := by
  have hwhole : (ds ++ '-' :: more).takeWhile isDigit = ds := by
    rw [List.takeWhile_append_of_pos (List.all_eq_true.mp h), List.takeWhile_cons_of_neg (by decide),
      List.append_nil]
  have hrest : (ds ++ '-' :: more).dropWhile isDigit = '-' :: more := by
    rw [List.dropWhile_append_of_pos (List.all_eq_true.mp h), List.dropWhile_cons_of_neg (by decide)]
  have hform : (ofUnsigned negative (ds ++ '-' :: more)).form =
      if ds = [] ∧ ([] : List Char) = [] then .other
      else if ('-' :: more).all isNumberSpace && true then
        if false || false then .real else .integer
      else if false || (false && true) then .realStart
      else .other := by
    rw [ofUnsigned, hwhole, hrest]
    rfl
  rw [hform, if_neg fun h => hne h.1]
  rfl

end Numeral

theorem exists_year {t : DateTime} {cs : List Char} (hw : t.Writes cs) (ht : t.IsPlain) :
    ∃ more, cs = Date.padded 4 t.date.year.toNat ++ '-' :: more := by
  have hdate := t.date.chars_eq ht.year_nonneg ht.year_le
  cases hw with
  | date d => exact ⟨_, d.chars_eq ht.year_nonneg ht.year_le⟩
  | clock => exact ⟨_, by rw [ht.chars_eq, hdate, List.append_assoc, List.cons_append]⟩
  | utc =>
    exact ⟨_, by rw [ht.chars_eq, hdate, List.append_assoc, List.append_assoc, List.cons_append]⟩

theorem numberOfText?_writes {t : DateTime} {cs : List Char} (hw : t.Writes cs) (ht : t.IsPlain) :
    Cell.numberOfText? (String.ofList cs) = none := by
  obtain ⟨more, rfl⟩ := exists_year hw ht
  obtain ⟨c, ds, hpadded, hdigit⟩ := Date.padded_eq_cons 4 t.date.year.toNat
  have hdigits := Date.all_isDigit_padded 4 t.date.year.toNat
  -- A number would end at the hyphen after the year, with more text behind it.
  have hform : (Numeral.ofChars (Date.padded 4 t.date.year.toNat ++ '-' :: more)).form = .other := by
    have hbounds := digit_bounds c hdigit
    have hspace : isNumberSpace c = false := by
      have hblank : c ≠ ' ' := by
        rintro rfl
        exact absurd hdigit (by decide)
      rw [isNumberSpace, Bool.or_eq_false_iff, beq_eq_false_iff_ne, Bool.and_eq_false_iff]
      exact ⟨hblank, .inr (decide_eq_false (by omega))⟩
    have hsign : splitSign (c :: (ds ++ '-' :: more)) = (false, c :: (ds ++ '-' :: more)) := by
      unfold splitSign
      split
      · next heq =>
        cases heq
        exact absurd hdigit (by decide)
      · next heq =>
        cases heq
        exact absurd hdigit (by decide)
      · rfl
    rw [Numeral.ofChars, hpadded, List.cons_append,
      List.dropWhile_cons_of_neg (by rw [hspace]; exact Bool.false_ne_true), hsign]
    exact Numeral.form_hyphen false (c :: ds) more (List.cons_ne_nil c ds) (hpadded ▸ hdigits)
  unfold Cell.numberOfText?
  rw [String.toList_ofList]
  simp only [hform]

theorem store_writes {t : DateTime} {cs : List Char} (hw : t.Writes cs) (ht : t.IsPlain)
    (a : Affinity) :
    (Cell.text (String.ofList cs)).store a = .text (String.ofList cs) := by
  have hnumber : (Cell.text (String.ofList cs)).asNumber = .text (String.ofList cs) := by
    rw [Cell.asNumber, numberOfText?_writes hw ht, Option.getD_none]
  cases a with
  | text => rfl
  | blob => rfl
  | numeric => rw [Cell.store, hnumber]; rfl
  | integer => rw [Cell.store, hnumber]; rfl
  | real => rw [Cell.store, hnumber]

end Sql

namespace Json

/-- The value is one that rows hold in fields of the type. -/
inductive IsTyped : FieldType → Json → Prop
  | string (s : String) : IsTyped .string (.text s)
  | number (stored : Json) : stored.IsExactNumber → IsTyped .number stored
  | boolean (b : Bool) : IsTyped .boolean (.boolean b)
  | date (t : DateTime) (cs : List Char) : t.Writes cs → t.IsPlain →
      IsTyped .date (.text (String.ofList cs))

end Json

namespace FieldValue

/-- The value is no undefined number, and a leap second only in the last second of a minute. -/
def IsSound : FieldValue → Prop
  | .number n => n.IsDefined
  | .dateTime l => 1000000000 ≤ l.nano → l.second % 60 = 59
  | _ => True

theorem isSound_of_reads (t : FieldType) (v : FieldValue) (h : t.Reads v) :
    v.fieldType = t ∧ v.IsSound := by
  obtain ⟨s, hs⟩ := h
  obtain ⟨htype, hdefined⟩ := ofText_eq_ok s t v hs
  refine ⟨htype, ?_⟩
  cases v with
  | number n => exact hdefined
  | dateTime l =>
    subst htype
    obtain ⟨l', hl, heq⟩ := (map_eq_ok_iff _ _ _).mp hs
    cases heq
    unfold DateTime.ofText at hl
    split at hl
    · next hread =>
      cases hl
      exact DateTime.ofText?_leap s l hread
    · cases hl
  | _ => trivial

/-- A test of a stored value comes out for the value as for what is bound for it: of a date-time,
its text in milliseconds. -/
def IsKept (sign : Sql.Sign) (stored : Json) : FieldValue → Prop
  | .text _ | .boolean _ => True
  | .number n => n.IsKept sign stored
  | .dateTime l => ∀ t, stored.text?.bind Json.dateTime? = some t →
      sign.holds (t.compare l) = sign.holds (t.compareShown l)

/-- A date-time in whole milliseconds is kept, if its year has at most four digits. -/
theorem isKept_wholeMillis (sign : Sql.Sign) (stored : Json) (l : DateTime)
    (hyear : l.date.year ≤ 9999) (h : l.nano % 1000000 = 0) :
    (dateTime l).IsKept sign stored := by
  intro t _
  have hcut : l.cut = l := by
    have hnano : l.nano / 1000000 * 1000000 = l.nano := by omega
    cases l
    simpa [DateTime.cut] using hnano
  rw [DateTime.compareShown, if_neg (not_lt.mpr hyear), hcut]

/-- Any fraction is kept where a stored date is asked to be greater or at most equal. -/
theorem isKept_upper (sign : Sql.Sign) (hsign : sign = .greater ∨ sign = .lessOrEqual) (t : DateTime)
    (cs : List Char) (hw : t.Writes cs) (ht : t.IsPlain) (l : DateTime)
    (hyear : l.date.year ≤ 9999) : (dateTime l).IsKept sign (.text (String.ofList cs)) := by
  intro t' ht'
  rw [Json.text?, Option.bind_some, Json.dateTime?_writes hw ht, Option.some.injEq] at ht'
  subst ht'
  rw [DateTime.compareShown, if_neg (not_lt.mpr hyear)]
  rcases DateTime.compare_cut t l ht with heq | ⟨hcut, hlt⟩
  · rw [heq]
  · rw [hcut, hlt]
    rcases hsign with rfl | rfl <;> rfl

end FieldValue

namespace Sql

def Affinity.Suits (a : Affinity) : FieldType → Prop
  | .string => a = .text ∨ a = .blob
  | .number | .boolean => a ≠ .text
  | .date => True

instance (a : Affinity) (t : FieldType) : Decidable (a.Suits t) :=
  match t with
  | .string => inferInstanceAs (Decidable (a = .text ∨ a = .blob))
  | .number | .boolean => inferInstanceAs (Decidable (a ≠ .text))
  | .date => inferInstanceAs (Decidable True)

theorem compareIn_text (a : Affinity) (ha : a.Suits .string) (s u : String) :
    Cell.compareIn a .binary ((Cell.text s).store a) (.text u) = some (compareText s u) := by
  rcases ha with rfl | rfl
  · rfl
  · rfl

theorem isExact_boolean (b : Bool) : (Cell.integer (if b then 1 else 0)).IsExact := by
  rw [Cell.IsExact]
  cases b <;> decide

theorem compareIn_boolean (a : Affinity) (ha : a ≠ .text) (b c : Bool) :
    Cell.compareIn a .binary ((Store.paramOfJson (.boolean b)).cell.store a)
      (Param.ofValue (.boolean c)).cell = some (compareBool b c) := by
  obtain ⟨hstore, hplace⟩ := Cell.place_store a ha _ (isExact_boolean b)
  change Cell.compareIn a .binary ((Cell.integer (if b then 1 else 0)).store a)
    (.integer (if c then 1 else 0)) = _
  rw [Cell.compareIn_eq_place a ha _ _ hstore (isExact_boolean c).isNumber, hplace, Cell.place, Cell.place,
    Cell.compare_mul_unitsPerOne]
  cases b <;> cases c <;> rfl

theorem compareIn_date {t : DateTime} {cs : List Char} (hw : t.Writes cs) (ht : t.IsPlain)
    (a : Affinity) (l : DateTime) (hleap : 1000000000 ≤ l.nano → l.second % 60 = 59) :
    Cell.compareIn .blob .binary
      (Moment.formatted (.text momentFormat) [(Cell.text (String.ofList cs)).store a])
      (.text l.millisText) = some (t.compareShown l) := by
  rw [store_writes hw ht a, Moment.formatted_writes hw ht,
    ← DateTime.compareText_millisText t l ht hleap]
  rfl

namespace Slot

/-- The cell of a column for the value of a field, which is of the type if it is there. -/
inductive Stores (t : FieldType) : Option Json → Slot → Prop
  | missing (slot : Slot) : slot.cell = .null → Stores t none slot
  | present (a : Affinity) (stored : Json) : a.Suits t → stored.IsTyped t →
      Stores t (some stored) ⟨(Store.paramOfJson stored).cell.store a, some a, .binary⟩

def orderWith (slot : Slot) (v : FieldValue) : Option Ordering :=
  Cell.compareIn ((slot.subject v).affinity.getD .blob) (slot.subject v).collation
    (slot.subject v).cell (Param.ofValue v).cell

theorem orderWith_missing (slot : Slot) (h : slot.cell = .null) (v : FieldValue) :
    slot.orderWith v = none := by
  have hcell : (slot.subject v).cell = .null := by
    cases v with
    | dateTime l =>
      rw [subject, h]
      rfl
    | _ => exact h
  rw [orderWith, hcell]
  rfl

/-- A test of a stored value and a parameter comes out as in memory, if binding keeps the value. -/
theorem orderWith_present (sign : Sign) (a : Affinity) (t : FieldType) (stored : Json)
    (v : FieldValue) (ha : a.Suits t) (hstored : stored.IsTyped t) (htype : v.fieldType = t)
    (hsound : v.IsSound) (hkept : v.IsKept sign stored) :
    ∃ o o', stored.compareWith v = some o ∧
      orderWith ⟨(Store.paramOfJson stored).cell.store a, some a, .binary⟩ v = some o' ∧
      sign.holds o = sign.holds o' := by
  -- Value and stored value are of one type, so that only four pairs are left.
  cases hstored with
  | string s =>
    cases v with
    | text u => exact ⟨_, _, rfl, compareIn_text a ha s u, rfl⟩
    | _ => cases htype
  | boolean b =>
    cases v with
    | boolean c => exact ⟨_, _, rfl, compareIn_boolean a ha b c, rfl⟩
    | _ => cases htype
  | number stored hexact =>
    cases v with
    | number n => exact compareIn_number sign a ha stored hexact n hsound hkept
    | _ => cases htype
  | date d cs hw hd =>
    cases v with
    | dateTime l =>
      have hread : (Json.text (String.ofList cs)).text?.bind Json.dateTime? = some d := by
        rw [Json.text?, Option.bind_some, Json.dateTime?_writes hw hd]
      have hmemory : (Json.text (String.ofList cs)).compareWith (.dateTime l) =
          some (d.compare l) := by
        rw [Json.compareWith, Json.asKindOf?, hread]
        rfl
      exact ⟨_, _, hmemory, compareIn_date hw hd a l hsound, hkept d hread⟩
    | _ => cases htype

end Slot

end Sql

end CriteriaSearch
