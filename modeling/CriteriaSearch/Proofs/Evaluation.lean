import CriteriaSearch.Memory.Repository

namespace CriteriaSearch

namespace Truth

theorem and_eq_yes (s t : Truth) : s.and t = .yes ↔ s = .yes ∧ t = .yes := by
  cases s <;> cases t <;> decide

theorem or_eq_yes (s t : Truth) : s.or t = .yes ↔ s = .yes ∨ t = .yes := by
  cases s <;> cases t <;> decide

theorem ofBool_eq_yes (b : Bool) : ofBool b = .yes ↔ b = true := by
  cases b <;> decide

theorem ofBool_not (b : Bool) : (ofBool b).not = ofBool (!b) := by
  cases b <;> rfl

end Truth

namespace Predicate

/-- What holds of each test, and of a predicate if it holds of its parts, holds of all
predicates. -/
@[elab_as_elim]
theorem inductionOn {motive : Predicate → Prop} (p : Predicate)
    (and : ∀ ps, (∀ p ∈ ps, motive p) → motive (.and ps))
    (or : ∀ ps, (∀ p ∈ ps, motive p) → motive (.or ps))
    (not : ∀ p, motive p → motive (.not p))
    (compare : ∀ field c v, motive (.compare field c v))
    (range : ∀ field v w, motive (.range field v w))
    (oneOf : ∀ field vs, motive (.oneOf field vs))
    (textMatch : ∀ field mode text, motive (.textMatch field mode text))
    (isNull : ∀ field, motive (.isNull field))
    (isNotNull : ∀ field, motive (.isNotNull field)) : motive p := by
  cases p with
  | and ps =>
    exact and ps fun p hp =>
      inductionOn p and or not compare range oneOf textMatch isNull isNotNull
  | or ps =>
    exact or ps fun p hp =>
      inductionOn p and or not compare range oneOf textMatch isNull isNotNull
  | not p =>
    exact not p (inductionOn p and or not compare range oneOf textMatch isNull isNotNull)
  | compare field c v => exact compare field c v
  | range field v w => exact range field v w
  | oneOf field vs => exact oneOf field vs
  | textMatch field mode text => exact textMatch field mode text
  | isNull field => exact isNull field
  | isNotNull field => exact isNotNull field
termination_by p

theorem holds_iff (p : Predicate) (row : Json) :
    p.holds row = true ↔ p.evaluate row = .yes := by
  simp only [holds, beq_iff_eq]

theorem evaluateAll_eq_yes (row : Json) (ps : List Predicate) :
    evaluateAll row ps = .yes ↔ ∀ p ∈ ps, p.holds row = true := by
  induction ps with
  | nil => simp [evaluateAll]
  | cons p ps ih =>
    rw [evaluateAll, Truth.and_eq_yes, ih, ← holds_iff, List.forall_mem_cons]

theorem evaluateAny_eq_yes (row : Json) (ps : List Predicate) :
    evaluateAny row ps = .yes ↔ ∃ p ∈ ps, p.holds row = true := by
  induction ps with
  | nil => simp [evaluateAny]
  | cons p ps ih =>
    rw [evaluateAny, Truth.or_eq_yes, ih, ← holds_iff]
    simp only [List.mem_cons, exists_eq_or_imp]

theorem holds_and (row : Json) (ps : List Predicate) :
    (Predicate.and ps).holds row = true ↔ ∀ p ∈ ps, p.holds row = true := by
  rw [holds_iff, evaluate, evaluateAll_eq_yes]

theorem holds_or (row : Json) (ps : List Predicate) :
    (Predicate.or ps).holds row = true ↔ ∃ p ∈ ps, p.holds row = true := by
  rw [holds_iff, evaluate, evaluateAny_eq_yes]

section Meaning

variable (T : Predicate → Prop)

/-- A predicate means the conjunction of the terms that it adds to one. -/
theorem forall_conjuncts_iff (hand : ∀ ps, T (.and ps) ↔ ∀ p ∈ ps, T p) (p : Predicate) :
    (∀ q ∈ p.conjuncts, T q) ↔ T p := by
  cases p with
  | and parts => exact (hand parts).symm
  | _ => simp only [conjuncts, List.mem_singleton, forall_eq]

/-- Taking conjunctions apart changes nothing, whatever predicates mean, as long as a conjunction
means that its parts hold. -/
theorem all_iff (hand : ∀ ps, T (.and ps) ↔ ∀ p ∈ ps, T p) (ps : List Predicate) :
    (∀ p, all ps = some p → T p) ↔ ∀ p ∈ ps, T p := by
  have hflat : (∀ q ∈ ps.flatMap conjuncts, T q) ↔ ∀ p ∈ ps, T p := by
    simp only [List.mem_flatMap, forall_exists_index, and_imp]
    constructor
    · intro h p hp
      exact (forall_conjuncts_iff T hand p).mp fun q hq => h q p hp hq
    · intro h q p hp hq
      exact (forall_conjuncts_iff T hand p).mpr (h p hp) q hq
  rw [← hflat, all]
  rcases ps.flatMap conjuncts with _ | ⟨p, _ | ⟨q, rest⟩⟩
  · simp
  · simp
  · simp only [Option.some.injEq, forall_eq']
    exact hand (p :: q :: rest)

theorem all_eq_some_iff (hand : ∀ ps, T (.and ps) ↔ ∀ p ∈ ps, T p) (ps : List Predicate)
    (p : Predicate) (h : all ps = some p) : T p ↔ ∀ q ∈ ps, T q := by
  rw [← all_iff T hand ps, h]
  simp only [Option.some.injEq, forall_eq']

theorem any_iff (hor : ∀ ps, T (.or ps) ↔ ∃ p ∈ ps, T p) (ps : List Predicate) (p : Predicate)
    (h : any ps = some p) : T p ↔ ∃ q ∈ ps, T q := by
  rcases ps with _ | ⟨a, _ | ⟨b, rest⟩⟩
  · cases h
  · cases h
    simp
  · cases h
    exact hor (a :: b :: rest)

end Meaning

theorem mem_leafFieldsOf (field : String) (ps : List Predicate) :
    field ∈ leafFieldsOf ps ↔ ∃ p ∈ ps, field ∈ p.leafFields := by
  induction ps with
  | nil => simp [leafFieldsOf]
  | cons p ps ih =>
    rw [leafFieldsOf, List.mem_append, ih]
    simp only [List.mem_cons, exists_eq_or_imp]

theorem leafFields_and (names : String → Prop) (ps : List Predicate) :
    (∀ name ∈ (and ps).leafFields, names name) ↔ ∀ p ∈ ps, ∀ name ∈ p.leafFields, names name := by
  rw [leafFields]
  simp only [mem_leafFieldsOf]
  constructor
  · intro h p hp name hname
    exact h name ⟨p, hp, hname⟩
  · intro h name hname
    obtain ⟨p, hp, hname⟩ := hname
    exact h p hp name hname

theorem any_eq_none_iff (ps : List Predicate) : any ps = none ↔ ps = [] := by
  rcases ps with _ | ⟨a, _ | ⟨b, rest⟩⟩ <;> simp [any]

end Predicate

def satisfies (p : Option Predicate) (row : Json) : Bool := p.all fun p => p.holds row

theorem keeps_eq_satisfies (q : MemoryQuery) (row : Json) :
    q.keeps row = satisfies q.predicate row := by
  unfold MemoryQuery.keeps satisfies
  cases q.predicate <;> rfl

/-- A row satisfies all of some predicates together when it satisfies each of them. -/
theorem satisfies_all (ps : List Predicate) (row : Json) :
    satisfies (Predicate.all ps) row = true ↔ ∀ p ∈ ps, p.holds row = true := by
  rw [satisfies, Option.all_eq_true]
  exact Predicate.all_iff (fun p => p.holds row = true) (Predicate.holds_and row) ps

end CriteriaSearch
