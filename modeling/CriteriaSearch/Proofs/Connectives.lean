import CriteriaSearch.Proofs.Evaluation
import Mathlib.Data.List.Basic

/-!
# Connectives of three truth values

A conjunction fails if one of its parts does, is unknown if else one of them is, and holds
otherwise; a disjunction is the same with the two decided values exchanged. Both follow from the set
of the values of the parts alone, so that neither the order of the parts nor the place where a loop
stops counts, and parts that are joined in groups first are joined to the same.
-/

namespace CriteriaSearch

namespace Truth

theorem not_not (t : Truth) : t.not.not = t := by
  cases t <;> rfl

/-- The truth of several tests of which one with the value `stop` settles the matter, and else one
that is unknown leaves it open. -/
def joined (stop : Truth) (ts : List Truth) : Truth :=
  if stop ∈ ts then stop else if .unknown ∈ ts then .unknown else stop.not

/-- The same as a loop finds it, which returns at the first test that settles the matter and keeps
in mind whether a test before it was unknown. -/
def scan (stop : Truth) (seen : Bool) : List Truth → Truth
  | [] => if seen then .unknown else stop.not
  | t :: ts => if t = stop then stop else scan stop (seen || t == .unknown) ts

theorem scan_eq (stop : Truth) (seen : Bool) (ts : List Truth) :
    scan stop seen ts =
      if stop ∈ ts then stop else if seen = true ∨ .unknown ∈ ts then .unknown else stop.not := by
  -- The induction is on the tests that are left, for whatever has been seen before them.
  induction ts generalizing seen with
  | nil => simp [scan]
  | cons t ts ih =>
    rw [scan]
    by_cases ht : t = stop
    · rw [if_pos ht, if_pos (ht ▸ List.mem_cons_self)]
    · have hstop : stop ∈ t :: ts ↔ stop ∈ ts := by simp [Ne.symm ht]
      have hseen : ((seen || t == .unknown) = true ∨ .unknown ∈ ts) ↔
          (seen = true ∨ .unknown ∈ t :: ts) := by
        rw [Bool.or_eq_true, beq_iff_eq, List.mem_cons, or_assoc, @eq_comm _ t]
      rw [if_neg ht, ih]
      simp only [hstop, hseen]

theorem scan_eq_joined (stop : Truth) (ts : List Truth) : scan stop false ts = joined stop ts := by
  rw [scan_eq, joined]
  simp only [Bool.false_eq_true, false_or]

theorem joined_perm (stop : Truth) {ss ts : List Truth} (h : ss.Perm ts) :
    joined stop ss = joined stop ts := by
  simp only [joined, h.mem_iff]

theorem joined_singleton (stop t : Truth) (h : stop ≠ .unknown) : joined stop [t] = t := by
  cases stop
  case unknown => exact absurd rfl h
  all_goals cases t <;> rfl

theorem joined_eq_stop_iff {stop : Truth} (h : stop ≠ .unknown) (ts : List Truth) :
    joined stop ts = stop ↔ stop ∈ ts := by
  have hnot : stop.not ≠ stop := by
    cases stop
    case unknown => exact absurd rfl h
    all_goals decide
  unfold joined
  split_ifs with hstop hunknown
  · exact iff_of_true rfl hstop
  · exact iff_of_false h.symm hstop
  · exact iff_of_false hnot hstop

theorem joined_eq_unknown_iff {stop : Truth} (h : stop ≠ .unknown) (ts : List Truth) :
    joined stop ts = .unknown ↔ stop ∉ ts ∧ .unknown ∈ ts := by
  have hnot : stop.not ≠ .unknown := by
    cases stop
    case unknown => exact absurd rfl h
    all_goals decide
  unfold joined
  split_ifs with hstop hunknown
  · exact iff_of_false h fun hboth => hboth.1 hstop
  · exact iff_of_true rfl ⟨hstop, hunknown⟩
  · exact iff_of_false hnot fun hboth => hunknown hboth.2

theorem joined_flatten {stop : Truth} (h : stop ≠ .unknown) (groups : List (List Truth)) :
    joined stop groups.flatten = joined stop (groups.map (joined stop)) := by
  have hstop : stop ∈ groups.flatten ↔ stop ∈ groups.map (joined stop) := by
    rw [List.mem_flatten, List.mem_map]
    apply exists_congr
    intro ts
    rw [joined_eq_stop_iff h]
  -- A group that settles nothing is unknown exactly if one of its tests is.
  have hunknown (hnone : stop ∉ groups.flatten) :
      .unknown ∈ groups.flatten ↔ .unknown ∈ groups.map (joined stop) := by
    rw [List.mem_flatten, List.mem_map]
    apply exists_congr
    intro ts
    apply and_congr_right
    intro hts
    have hquiet : stop ∉ ts := fun hmem => hnone (List.mem_flatten.mpr ⟨ts, hts, hmem⟩)
    rw [joined_eq_unknown_iff h, and_iff_right hquiet]
  by_cases hsettled : stop ∈ groups.flatten
  · rw [(joined_eq_stop_iff h _).mpr hsettled, (joined_eq_stop_iff h _).mpr (hstop.mp hsettled)]
  · rw [joined, joined, if_neg hsettled, if_neg (mt hstop.mpr hsettled)]
    simp only [hunknown hsettled]

theorem not_joined (stop : Truth) (ts : List Truth) :
    (joined stop ts).not = joined stop.not (ts.map not) := by
  have hmem (t : Truth) : t.not ∈ ts.map not ↔ t ∈ ts := by
    constructor
    · intro h
      obtain ⟨s, hs, hsame⟩ := List.mem_map.mp h
      rwa [← not_not t, ← hsame, not_not]
    · exact List.mem_map_of_mem
  have hunknown : .unknown ∈ ts.map not ↔ .unknown ∈ ts := hmem .unknown
  unfold joined
  simp only [hmem, hunknown]
  split_ifs <;> rfl

theorem joined_no_cons (t : Truth) (ts : List Truth) :
    joined .no (t :: ts) = t.and (joined .no ts) := by
  unfold joined
  cases t <;> simp only [List.mem_cons, reduceCtorEq, false_or, true_or, if_true] <;>
    split_ifs <;> rfl

theorem joined_yes_cons (t : Truth) (ts : List Truth) :
    joined .yes (t :: ts) = t.or (joined .yes ts) := by
  unfold joined
  cases t <;> simp only [List.mem_cons, reduceCtorEq, false_or, true_or, if_true] <;>
    split_ifs <;> rfl

end Truth

namespace Predicate

variable (row : Json)

theorem evaluate_and (ps : List Predicate) :
    evaluate row (.and ps) = Truth.joined .no (ps.map (evaluate row)) := by
  rw [evaluate]
  induction ps with
  | nil => rfl
  | cons p ps ih => rw [evaluateAll, List.map_cons, Truth.joined_no_cons, ih]

theorem evaluate_or (ps : List Predicate) :
    evaluate row (.or ps) = Truth.joined .yes (ps.map (evaluate row)) := by
  rw [evaluate]
  induction ps with
  | nil => rfl
  | cons p ps ih => rw [evaluateAny, List.map_cons, Truth.joined_yes_cons, ih]

theorem evaluate_not (p : Predicate) : evaluate row (.not p) = (evaluate row p).not := by
  rw [evaluate]

theorem evaluate_and_flatten (groups : List (List Predicate)) :
    evaluate row (.and groups.flatten) = evaluate row (.and (groups.map .and)) := by
  have hgroups : (groups.map .and).map (evaluate row) =
      (groups.map fun ps => ps.map (evaluate row)).map (Truth.joined .no) := by
    rw [List.map_map, List.map_map]
    exact List.map_congr_left fun ps _ => evaluate_and row ps
  calc
    _ = Truth.joined .no (groups.map fun ps => ps.map (evaluate row)).flatten := by
      rw [evaluate_and, List.map_flatten]
    _ = _ := by rw [Truth.joined_flatten (by decide), evaluate_and, hgroups]

theorem evaluate_and_singleton (p : Predicate) : evaluate row (.and [p]) = evaluate row p := by
  rw [evaluate_and]
  exact Truth.joined_singleton .no _ (by decide)

theorem evaluate_or_singleton (p : Predicate) : evaluate row (.or [p]) = evaluate row p := by
  rw [evaluate_or]
  exact Truth.joined_singleton .yes _ (by decide)

theorem evaluate_and_splice (before parts after : List Predicate) :
    evaluate row (.and (before ++ .and parts :: after)) =
      evaluate row (.and (before ++ parts ++ after)) := by
  have hsingle : evaluate row (.and [.and parts]) = evaluate row (.and parts) :=
    evaluate_and_singleton row _
  -- Both sides are three groups, of which only the one in the middle is written differently.
  have hleft := evaluate_and_flatten row [before, [.and parts], after]
  have hright := evaluate_and_flatten row [before, parts, after]
  simp only [List.flatten_cons, List.flatten_nil, List.append_nil, List.singleton_append,
    List.map_cons, List.map_nil] at hleft hright
  rw [hleft, List.append_assoc, hright, evaluate_and, evaluate_and]
  simp only [List.map_cons, List.map_nil, hsingle]

theorem evaluate_and_conjuncts (p : Predicate) :
    evaluate row (.and p.conjuncts) = evaluate row p := by
  cases p with
  | and parts => rfl
  | _ => exact evaluate_and_singleton row _

/-- Conjunctions that are taken apart, and a single term that stands for itself, have the value of
the conjunction. -/
theorem evaluate_all (ps : List Predicate) :
    (all ps).elim .yes (evaluate row) = evaluate row (.and ps) := by
  have hflat : evaluate row (.and (ps.flatMap conjuncts)) = evaluate row (.and ps) := by
    rw [List.flatMap_def, evaluate_and_flatten, evaluate_and, evaluate_and, List.map_map,
      List.map_map]
    congr 1
    exact List.map_congr_left fun p _ => evaluate_and_conjuncts row p
  rw [← hflat, all]
  rcases ps.flatMap conjuncts with _ | ⟨p, _ | ⟨q, rest⟩⟩
  · rfl
  · exact (evaluate_and_singleton row p).symm
  · rfl

theorem evaluate_any (ps : List Predicate) :
    (any ps).map (evaluate row) = if ps = [] then none else some (evaluate row (.or ps)) := by
  rcases ps with _ | ⟨p, _ | ⟨q, rest⟩⟩
  · rfl
  · rw [if_neg (List.cons_ne_nil _ _), evaluate_or_singleton]
    rfl
  · rfl

/-- Evaluation is the three-valued logic in which the unknown stands between the decided values. The
parts of a connective count by their values alone, in any order and however a loop over them stops;
negation exchanges the connectives and undoes itself; and conjunctions and disjunctions that are put
together from predicates have the value of all or any of them. -/
theorem evaluate_connectives (ps : List Predicate) :
    evaluate row (.and ps) =
      (if ∃ p ∈ ps, evaluate row p = .no then .no
        else if ∃ p ∈ ps, evaluate row p = .unknown then .unknown else .yes) ∧
    evaluate row (.or ps) =
      (if ∃ p ∈ ps, evaluate row p = .yes then .yes
        else if ∃ p ∈ ps, evaluate row p = .unknown then .unknown else .no) ∧
    evaluate row (.and ps) = Truth.scan .no false (ps.map (evaluate row)) ∧
    evaluate row (.or ps) = Truth.scan .yes false (ps.map (evaluate row)) ∧
    (∀ qs, qs.Perm ps → evaluate row (.and qs) = evaluate row (.and ps) ∧
      evaluate row (.or qs) = evaluate row (.or ps)) ∧
    evaluate row (.not (.and ps)) = evaluate row (.or (ps.map .not)) ∧
    evaluate row (.not (.or ps)) = evaluate row (.and (ps.map .not)) ∧
    (∀ p, evaluate row (.not (.not p)) = evaluate row p) ∧
    (∀ before after, evaluate row (.and (before ++ .and ps :: after)) =
      evaluate row (.and (before ++ ps ++ after))) ∧
    (all ps).elim .yes (evaluate row) = evaluate row (.and ps) ∧
    (any ps).map (evaluate row) = if ps = [] then none else some (evaluate row (.or ps)) := by
  -- The values of the negated parts are the negated values of the parts.
  have hnegated : (ps.map .not).map (evaluate row) = (ps.map (evaluate row)).map Truth.not := by
    rw [List.map_map, List.map_map]
    exact List.map_congr_left fun p _ => evaluate_not row p
  refine ⟨?_, ?_, ?_, ?_, ?_, ?_, ?_, ?_, ?_, evaluate_all row ps, evaluate_any row ps⟩
  · rw [evaluate_and, Truth.joined]
    simp only [List.mem_map]
    rfl
  · rw [evaluate_or, Truth.joined]
    simp only [List.mem_map]
    rfl
  · rw [Truth.scan_eq_joined, evaluate_and]
  · rw [Truth.scan_eq_joined, evaluate_or]
  · intro qs hperm
    simp only [evaluate_and, evaluate_or, Truth.joined_perm _ (hperm.map (evaluate row)), and_self]
  · rw [evaluate_not, evaluate_and, evaluate_or, hnegated, Truth.not_joined]
    rfl
  · rw [evaluate_not, evaluate_and, evaluate_or, hnegated, Truth.not_joined]
    rfl
  · intro p
    rw [evaluate_not, evaluate_not, Truth.not_not]
  · intro before after
    exact evaluate_and_splice row before ps after

/-- A test that fails on a row with nothing but a name, and one of a field that is missing there. -/
def nameTests : List Predicate := [.isNull "name", .compare "usages" .greater (.text "1")]

/-- The failing test settles the conjunction from either side, and leaves the disjunction open. -/
theorem evaluate_connectives_swapped :
    nameTests.reverse.Perm nameTests ∧
      evaluate (.object [("name", .text "linux")]) (.and nameTests.reverse) =
        evaluate (.object [("name", .text "linux")]) (.and nameTests) ∧
      evaluate (.object [("name", .text "linux")]) (.or nameTests.reverse) =
        evaluate (.object [("name", .text "linux")]) (.or nameTests) ∧
      evaluate (.object [("name", .text "linux")]) (.and nameTests) = .no ∧
      evaluate (.object [("name", .text "linux")]) (.or nameTests) = .unknown := by
  obtain ⟨-, -, -, -, hperm, -⟩ :=
    evaluate_connectives (.object [("name", .text "linux")]) nameTests
  have hswap : nameTests.reverse.Perm nameTests := List.reverse_perm nameTests
  exact ⟨hswap, (hperm _ hswap).1, (hperm _ hswap).2, rfl, rfl⟩

end Predicate

end CriteriaSearch
