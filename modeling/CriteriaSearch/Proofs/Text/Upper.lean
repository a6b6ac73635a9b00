import CriteriaSearch.Text.Upper
import Mathlib.Data.List.Basic

namespace CriteriaSearch.Text

/-- The codes of the signs of patterns, of the end of a text, of the replacement character, and of
the two codes that are no characters and look like it. -/
def signCodes : List Nat := [0x25, 0x5C, 0x5F, 0, 0xFFFD, 0xFFFE, 0xFFFF]

def isUpperCode (n : Nat) : Bool := !(0x61 ≤ n && n ≤ 0x7A) && !signCodes.contains n

/-- All codes between two are those of characters that can stand in upper-case forms. -/
def areUpperCodes (first last : Int) : Bool :=
  [((0x41 : Int), (0x5A : Int)), (0x80, 0xD7FF), (0xE000, 0xFFFC), (0x10000, 0x10FFFF)].any
    fun block => block.1 ≤ first && last ≤ block.2

theorem isUpperCode_of_mem (first last n : Int) (h : areUpperCodes first last = true)
    (hfirst : first ≤ n) (hlast : n ≤ last) :
    isUpperCode (Char.ofNat n.toNat).toNat = true := by
  obtain ⟨block, hblock, hbounds⟩ := List.any_eq_true.mp h
  simp only [Bool.and_eq_true, decide_eq_true_eq] at hbounds
  -- The codes of a run lie within one block, in which no code is a sign.
  have hcases : (0x41 ≤ n ∧ n ≤ 0x5A) ∨ (0x80 ≤ n ∧ n ≤ 0xD7FF) ∨ (0xE000 ≤ n ∧ n ≤ 0xFFFC) ∨
      (0x10000 ≤ n ∧ n ≤ 0x10FFFF) := by
    simp only [List.mem_cons, List.not_mem_nil, or_false] at hblock
    rcases hblock with rfl | rfl | rfl | rfl <;> dsimp only at hbounds <;> omega
  have hvalid : n.toNat.isValidChar := by
    unfold Nat.isValidChar
    omega
  have hcode : (Char.ofNat n.toNat).toNat = n.toNat := by
    rw [Char.ofNat, dif_pos hvalid]
    rfl
  rw [hcode]
  simp only [isUpperCode, signCodes, Bool.and_eq_true, Bool.not_eq_true', Bool.and_eq_false_iff,
    decide_eq_false_iff_not, List.contains_eq_mem, List.mem_cons, List.not_mem_nil, or_false]
  omega

/-- The upper-case form of a character has no small letter of ASCII, and no sign but the character
itself. -/
structure IsUpperOf (c d : Char) : Prop where
  not_small : ¬(0x61 ≤ d.toNat ∧ d.toNat ≤ 0x7A)
  sign_eq : d.toNat ∈ signCodes → d = c

theorem isUpperOf_of_code (c d : Char) (h : isUpperCode d.toNat = true) : IsUpperOf c d := by
  simp only [isUpperCode, Bool.and_eq_true, Bool.not_eq_true', Bool.and_eq_false_iff,
    decide_eq_false_iff_not, List.contains_eq_mem] at h
  constructor
  · omega
  · intro hsign
    exact absurd hsign h.2

/-- Whether what is shown of upper-case forms holds of a character of ASCII. -/
def isUpperOfAscii (c : Char) : Bool :=
  !(0x61 ≤ c.toUpper.toNat && c.toUpper.toNat ≤ 0x7A) &&
    (!signCodes.contains c.toUpper.toNat || c.toUpper == c)

theorem isUpperOf_ascii (c : Char) (h : c.toNat < 128) : IsUpperOf c c.toUpper := by
  have hall : ((List.range 128).all fun n => isUpperOfAscii (Char.ofNat n)) = true := by
    decide +kernel
  have hc := List.all_eq_true.mp hall c.toNat (List.mem_range.mpr h)
  rw [Char.ofNat_toNat] at hc
  simp only [isUpperOfAscii, Bool.and_eq_true, Bool.not_eq_true', Bool.and_eq_false_iff,
    decide_eq_false_iff_not, Bool.or_eq_true, List.contains_eq_mem, beq_iff_eq] at hc
  constructor
  · omega
  · intro hsign
    exact hc.2.resolve_left fun hnot => hnot hsign

theorem upperTexts_codes :
    ∀ entry ∈ upperTexts, ∀ n ∈ entry.2, isUpperCode (Char.ofNat n).toNat = true := by
  decide +kernel

theorem upperRuns_codes :
    ∀ run ∈ upperRuns, areUpperCodes (run.first + run.shift) (run.last + run.shift) = true := by
  decide +kernel

theorem isUpperOf_of_mem (c d : Char) (h : d ∈ upperChar c) : IsUpperOf c d := by
  unfold upperChar at h
  split at h
  · next hascii =>
    rw [List.mem_singleton] at h
    rw [h]
    exact isUpperOf_ascii c hascii
  · next hascii =>
    split at h
    · next entry hentry =>
      obtain ⟨n, hn, rfl⟩ := List.mem_map.mp h
      exact isUpperOf_of_code c _ (upperTexts_codes entry (List.mem_of_find?_eq_some hentry) n hn)
    · split at h
      · next run hrun =>
        rw [List.mem_singleton] at h
        have hcovers := List.find?_some hrun
        simp only [CaseRun.covers, Bool.and_eq_true, decide_eq_true_eq] at hcovers
        rw [h]
        apply isUpperOf_of_code
        exact isUpperCode_of_mem _ _ _ (upperRuns_codes run (List.mem_of_find?_eq_some hrun))
          (by omega) (by omega)
      · rw [List.mem_singleton] at h
        subst h
        exact ⟨by omega, fun _ => rfl⟩

end CriteriaSearch.Text
