import CriteriaSearch.Calendar.Date
import CriteriaSearch.Number.Reader
import Mathlib.Algebra.Group.Nat.Defs
import Mathlib.Data.List.Basic

namespace CriteriaSearch

/-- A run of characters of a kind ends before the first one of another kind. -/
theorem takeWhile_run (p : Char → Bool) (cs rest : List Char) (hcs : cs.all p = true)
    (hrest : ∀ c ∈ rest.head?, p c = false) :
    (cs ++ rest).takeWhile p = cs ∧ (cs ++ rest).dropWhile p = rest := by
  have hcs := List.all_eq_true.mp hcs
  rw [List.takeWhile_append_of_pos hcs, List.dropWhile_append_of_pos hcs]
  cases rest with
  | nil => exact ⟨List.append_nil cs, rfl⟩
  | cons c rest =>
    have hc := hrest c rfl
    rw [List.takeWhile_cons, List.dropWhile_cons, hc]
    exact ⟨List.append_nil cs, rfl⟩

theorem isDigit_eq (c : Char) : isDigit c = c.isDigit := by
  simp only [isDigit, Char.isDigit, Char.le_def]

theorem digit_bounds (c : Char) (h : isDigit c = true) : 48 ≤ c.toNat ∧ c.toNat ≤ 57 := by
  simpa [isDigit, Char.le_def, UInt32.le_iff_toNat_le] using h

theorem all_isDigit_toDigits (n : Nat) : (Nat.toDigits 10 n).all isDigit = true := by
  rw [List.all_eq_true]
  intro c hc
  rw [isDigit_eq]
  exact Nat.isDigit_of_mem_toDigits (by decide) (by decide) hc

theorem all_isDigit_replicate (n : Nat) : (List.replicate n '0').all isDigit = true := by
  rw [List.all_eq_true]
  intro c hc
  rw [List.eq_of_mem_replicate hc]
  decide

theorem digitsValue_eq (start : Nat) (cs : List Char) :
    digitsValue start cs = Nat.ofDigitChars 10 cs start := by
  unfold digitsValue Nat.ofDigitChars
  congr 1
  funext n c
  rw [Nat.mul_comm]

theorem digitsValue_toDigits (n : Nat) : digitsValue 0 (Nat.toDigits 10 n) = n := by
  rw [digitsValue_eq, Nat.ofDigitChars_ten_toDigits]

theorem digitsValue_append (start : Nat) (as bs : List Char) :
    digitsValue start (as ++ bs) = digitsValue (digitsValue start as) bs := by
  unfold digitsValue
  rw [List.foldl_append]

theorem digitsValue_zeros (n : Nat) : digitsValue 0 (List.replicate n '0') = 0 := by
  induction n with
  | zero => rfl
  | succ n ih => exact ih

theorem digitsValue_append_zeros (start : Nat) (cs : List Char) (n : Nat) :
    digitsValue start (cs ++ List.replicate n '0') = digitsValue start cs * 10 ^ n := by
  rw [digitsValue_append]
  generalize digitsValue start cs = value
  induction n generalizing value with
  | zero => rw [Nat.pow_zero, Nat.mul_one]; rfl
  | succ n ih =>
    have hstep : digitsValue value (List.replicate (n + 1) '0') =
        digitsValue (value * 10) (List.replicate n '0') := rfl
    rw [hstep, ih, Nat.pow_succ', Nat.mul_assoc]

theorem digitsValue_lt (start : Nat) (cs : List Char) (h : cs.all isDigit = true) :
    digitsValue start cs < (start + 1) * 10 ^ cs.length := by
  induction cs generalizing start with
  | nil => exact Nat.lt_of_lt_of_le (Nat.lt_succ_self start) (Nat.le_of_eq (Nat.mul_one _).symm)
  | cons c cs ih =>
    rw [List.all_cons, Bool.and_eq_true] at h
    obtain ⟨hlow, hhigh⟩ := digit_bounds c h.1
    have hzero : '0'.toNat = 48 := rfl
    have hnext := ih (start * 10 + (c.toNat - '0'.toNat)) h.2
    have hle : (start * 10 + (c.toNat - '0'.toNat) + 1) * 10 ^ cs.length ≤
        (start + 1) * 10 * 10 ^ cs.length := Nat.mul_le_mul_right _ (by omega)
    calc digitsValue start (c :: cs)
        = digitsValue (start * 10 + (c.toNat - '0'.toNat)) cs := rfl
      _ < (start + 1) * 10 * 10 ^ cs.length := Nat.lt_of_lt_of_le hnext hle
      _ = (start + 1) * 10 ^ (c :: cs).length := by
        rw [List.length_cons, Nat.pow_succ, Nat.mul_assoc, Nat.mul_comm 10]

theorem mul_pow_le_digitsValue (start : Nat) (cs : List Char) :
    start * 10 ^ cs.length ≤ digitsValue start cs := by
  induction cs generalizing start with
  | nil => exact Nat.le_of_eq (Nat.mul_one start)
  | cons c cs ih =>
    calc start * 10 ^ (c :: cs).length
        = start * 10 * 10 ^ cs.length := by rw [List.length_cons, Nat.pow_succ', Nat.mul_assoc]
      _ ≤ (start * 10 + (c.toNat - '0'.toNat)) * 10 ^ cs.length :=
        Nat.mul_le_mul_right _ (Nat.le_add_right _ _)
      _ ≤ digitsValue start (c :: cs) := ih _

namespace Date

theorem all_isDigit_padded (width n : Nat) : (padded width n).all isDigit = true := by
  rw [padded, List.all_append, all_isDigit_toDigits, all_isDigit_replicate]
  rfl

theorem digitsValue_padded (width n : Nat) : digitsValue 0 (padded width n) = n := by
  rw [padded, digitsValue_append, digitsValue_zeros, digitsValue_toDigits]

theorem length_padded (width n : Nat) (hwidth : 0 < width) (h : n < 10 ^ width) :
    (padded width n).length = width := by
  have hle := (Nat.length_toDigits_le_iff (by decide : 1 < 10) hwidth).mpr h
  rw [padded, List.length_append, List.length_replicate]
  omega

theorem take_padded (width n : Nat) (rest : List Char) (hwidth : 0 < width) (h : n < 10 ^ width) :
    (padded width n ++ rest).take width = padded width n :=
  List.take_left' (length_padded width n hwidth h)

theorem drop_padded (width n : Nat) (rest : List Char) (hwidth : 0 < width) (h : n < 10 ^ width) :
    (padded width n ++ rest).drop width = rest :=
  List.drop_left' (length_padded width n hwidth h)

theorem padded_ne_nil (width n : Nat) : padded width n ≠ [] := by
  intro hnil
  rw [padded, List.append_eq_nil_iff] at hnil
  exact Nat.toDigits_ne_nil hnil.2

theorem padded_eq_cons (width n : Nat) :
    ∃ c cs, padded width n = c :: cs ∧ isDigit c = true := by
  have hdigits := all_isDigit_padded width n
  obtain ⟨c, cs, hcons⟩ := List.exists_cons_of_ne_nil (padded_ne_nil width n)
  rw [hcons, List.all_cons, Bool.and_eq_true] at hdigits
  exact ⟨c, cs, hcons, hdigits.1⟩

end Date

end CriteriaSearch
