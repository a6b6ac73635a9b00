import CriteriaSearch.Memory.Evaluation
import Mathlib.Data.List.Infix

namespace CriteriaSearch

namespace Text

theorem startsWith_iff (part whole : List Char) :
    startsWith part whole = true ↔ part <+: whole := List.isPrefixOf_iff_prefix

theorem endsWith_iff (part whole : List Char) : endsWith part whole = true ↔ part <:+ whole := by
  rw [endsWith, List.isPrefixOf_iff_prefix, List.reverse_prefix]

theorem occursIn_iff (part whole : List Char) : occursIn part whole = true ↔ part <:+: whole := by
  induction whole with
  | nil => rw [occursIn, List.isEmpty_iff, List.infix_nil]
  | cons c whole ih =>
    rw [occursIn, Bool.or_eq_true, startsWith_iff, ih, List.infix_cons_iff]

/-- Lists that a map takes to the same list are equal, if the map tells their members apart. -/
theorem eq_of_map_eq_map {α β : Type} (f : α → β) (as bs : List α)
    (h : ∀ a ∈ as, ∀ b ∈ bs, f a = f b → a = b) (hmap : as.map f = bs.map f) : as = bs := by
  induction as generalizing bs with
  | nil => exact (List.map_eq_nil_iff.mp hmap.symm).symm
  | cons a as ih =>
    cases bs with
    | nil => cases hmap
    | cons b bs =>
      rw [List.map_cons, List.map_cons, List.cons.injEq] at hmap
      have hhead := h a List.mem_cons_self b List.mem_cons_self hmap.1
      have htail := ih bs
        (fun a ha b hb => h a (List.mem_cons_of_mem _ ha) b (List.mem_cons_of_mem _ hb)) hmap.2
      rw [hhead, htail]

end Text

namespace TextMode

variable {mode : TextMode} {part whole : List Char}

def Locates (mode : TextMode) (part whole : List Char) : Prop :=
  match mode with
  | .contains => part <:+: whole
  | .startsWith => part <+: whole
  | .endsWith => part <:+ whole

theorem finds_iff : mode.finds part whole = true ↔ mode.Locates part whole := by
  cases mode with
  | contains => exact Text.occursIn_iff part whole
  | startsWith => exact Text.startsWith_iff part whole
  | endsWith => exact Text.endsWith_iff part whole

theorem Locates.subset (h : mode.Locates part whole) : part ⊆ whole := by
  cases mode with
  | contains => exact List.IsInfix.subset h
  | startsWith => exact List.IsPrefix.subset h
  | endsWith => exact List.IsSuffix.subset h

theorem locates_map_right_iff (f : Char → Char) :
    mode.Locates part (whole.map f) ↔ ∃ piece, mode.Locates piece whole ∧ part = piece.map f := by
  cases mode with
  | contains => exact List.infix_map_iff
  | startsWith => exact List.prefix_map_iff
  | endsWith => exact List.suffix_map_iff

theorem locates_map_iff (f : Char → Char) (h : ∀ c ∈ part, ∀ d ∈ whole, f c = f d → c = d) :
    mode.Locates (part.map f) (whole.map f) ↔ mode.Locates part whole := by
  rw [locates_map_right_iff]
  constructor
  · rintro ⟨piece, hpiece, hmap⟩
    have hpart := Text.eq_of_map_eq_map f part piece
      (fun c hc d hd => h c hc d (hpiece.subset hd)) hmap
    exact hpart ▸ hpiece
  · intro hpart
    exact ⟨part, hpart, rfl⟩

end TextMode

end CriteriaSearch
