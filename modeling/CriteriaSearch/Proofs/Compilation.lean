import CriteriaSearch.Proofs.Evaluation
import Mathlib.Data.List.Basic
import Mathlib.Data.List.Forall2

namespace CriteriaSearch

/-- Trying a list succeeds when each of its items does, with their results in order. -/
theorem mapM_eq_ok_iff {α β ε : Type} (f : α → Except ε β) (xs : List α) (ys : List β) :
    xs.mapM f = .ok ys ↔
      (∀ x ∈ xs, ∃ y, f x = .ok y) ∧ ys = xs.filterMap fun x => (f x).toOption := by
  induction xs generalizing ys with
  | nil =>
    simp only [List.mapM_nil, List.not_mem_nil, false_implies, implies_true, List.filterMap_nil,
      true_and]
    exact ⟨fun h => (Except.ok.inj h).symm, fun h => congrArg Except.ok h.symm⟩
  | cons x xs ih =>
    rw [List.mapM_cons, List.forall_mem_cons]
    cases hx : f x with
    | error e =>
      constructor
      · intro h
        cases h
      · rintro ⟨⟨⟨y, hy⟩, _⟩, _⟩
        cases hy
    | ok y =>
      rw [List.filterMap_cons_some (b := y) (by rw [hx]; rfl)]
      cases hxs : xs.mapM f with
      | error e =>
        constructor
        · intro h
          cases h
        · rintro ⟨⟨_, hall⟩, _⟩
          have hok := (ih _).mpr ⟨hall, rfl⟩
          rw [hxs] at hok
          cases hok
      | ok zs =>
        obtain ⟨hall, rfl⟩ := (ih zs).mp hxs
        constructor
        · intro h
          exact ⟨⟨⟨y, rfl⟩, hall⟩, (Except.ok.inj h).symm⟩
        · rintro ⟨_, rfl⟩
          rfl

theorem mapM_eq_ok_iff_forall₂ {α β ε : Type} {f : α → Except ε β} {xs : List α} {ys : List β} :
    xs.mapM f = .ok ys ↔ List.Forall₂ (fun x y => f x = .ok y) xs ys := by
  constructor
  · intro h
    obtain ⟨hall, rfl⟩ := (mapM_eq_ok_iff f xs ys).mp h
    clear h
    induction xs with
    | nil => exact .nil
    | cons x xs ih =>
      obtain ⟨⟨y, hy⟩, hrest⟩ := List.forall_mem_cons.mp hall
      rw [List.filterMap_cons_some (by rw [hy]; rfl)]
      exact .cons hy (ih hrest)
  · intro h
    induction h with
    | nil => rfl
    | cons hxy _ ih =>
      rw [List.mapM_cons, hxy, ih]
      rfl

namespace Filter

/-- The predicate that a filter contributes: its own one, unless it is dropped. -/
def term? (ds : List FilterDescriptor) (f : Filter) : Option Predicate :=
  (f.compile (f.resolvedType ds)).toOption.join

/-- The operator of the filter does not apply to the type of its field. -/
def isDropped (ds : List FilterDescriptor) (f : Filter) : Bool :=
  match f.compile (f.resolvedType ds) with
  | .ok none => true
  | _ => false

def note (ds : List FilterDescriptor) (f : Filter) : DroppedFilter :=
  ⟨f.key, f.operator, f.resolvedType ds⟩

/-- The filter has a meaning: it is kept or dropped, but not refused. -/
def Compiles (ds : List FilterDescriptor) (f : Filter) : Prop :=
  ∃ p, f.compile (f.resolvedType ds) = .ok p

theorem term?_eq_some_iff (ds : List FilterDescriptor) (f : Filter) (p : Predicate) :
    f.term? ds = some p ↔ f.compile (f.resolvedType ds) = .ok (some p) := by
  unfold term?
  rcases f.compile (f.resolvedType ds) with e | _ | q <;> simp [Except.toOption]

theorem term?_of_isDropped (ds : List FilterDescriptor) (f : Filter) (h : f.isDropped ds = true) :
    f.term? ds = none := by
  unfold isDropped at h
  unfold term?
  split at h
  · next hc => rw [hc]; rfl
  · cases h

theorem outcome_isOk_iff (ds : List FilterDescriptor) (f : Filter) :
    (∃ o, f.outcome ds = .ok o) ↔ f.Compiles ds := by
  unfold outcome Compiles
  rcases f.compile (f.resolvedType ds) with e | p <;> simp [Except.map]

theorem outcome_term? (ds : List FilterDescriptor) (f : Filter) :
    (f.outcome ds).toOption.bind FilterOutcome.term? = f.term? ds := by
  unfold outcome term?
  rcases f.compile (f.resolvedType ds) with e | _ | p <;> rfl

theorem outcome_dropped? (ds : List FilterDescriptor) (f : Filter) :
    (f.outcome ds).toOption.bind FilterOutcome.dropped? =
      if f.isDropped ds then some (f.note ds) else none := by
  unfold outcome isDropped note
  rcases f.compile (f.resolvedType ds) with e | _ | p <;> rfl

end Filter

namespace Criteria

/-- The terms of a request: those of its filters in order, then the test of its full-text query. -/
def terms (ds : List FilterDescriptor) (c : Criteria) : List Predicate :=
  c.filters.filterMap (Filter.term? ds) ++ c.fullTextTerm ds

def notes (ds : List FilterDescriptor) (c : Criteria) : List DroppedFilter :=
  (c.filters.filter (Filter.isDropped ds)).map (Filter.note ds)

def compiled (ds : List FilterDescriptor) (c : Criteria) : Compiled :=
  ⟨Predicate.all (c.terms ds), c.typedSorts ds, c.page, c.notes ds⟩

/-- A request compiles when its page is not empty and all of its filters have a meaning. -/
theorem compile_eq_ok_iff (ds : List FilterDescriptor) (c : Criteria) (k : Compiled) :
    c.compile ds = .ok k ↔
      c.page.size ≠ 0 ∧ (∀ f ∈ c.filters, f.Compiles ds) ∧ k = c.compiled ds := by
  unfold compile
  by_cases hsize : c.page.size = 0
  · simp only [hsize, ↓reduceIte, ne_eq, not_true_eq_false, false_and, iff_false]
    intro h
    cases h
  simp only [hsize, ↓reduceIte, ne_eq, not_false_eq_true, true_and]
  -- The terms and the notes of all outcomes are those of the filters one by one.
  have hterms : (c.filters.filterMap fun f => (f.outcome ds).toOption).filterMap
      FilterOutcome.term? = c.filters.filterMap (Filter.term? ds) := by
    rw [List.filterMap_filterMap]
    exact List.filterMap_congr fun f _ => Filter.outcome_term? ds f
  have hnotes : (c.filters.filterMap fun f => (f.outcome ds).toOption).filterMap
      FilterOutcome.dropped? = c.notes ds := by
    rw [List.filterMap_filterMap, notes, ← List.filterMap_eq_map, List.filterMap_filter]
    exact List.filterMap_congr fun f _ => Filter.outcome_dropped? ds f
  have hok : (∀ f ∈ c.filters, f.Compiles ds) ↔ ∀ f ∈ c.filters, ∃ o, f.outcome ds = .ok o := by
    simp only [Filter.outcome_isOk_iff]
  rw [hok]
  cases houtcomes : c.filters.mapM (Filter.outcome ds) with
  | error e =>
    constructor
    · intro h
      cases h
    · rintro ⟨hall, _⟩
      have h := (mapM_eq_ok_iff _ _ _).mpr ⟨hall, rfl⟩
      rw [houtcomes] at h
      cases h
  | ok outcomes =>
    obtain ⟨hall, rfl⟩ := (mapM_eq_ok_iff _ _ _).mp houtcomes
    have hk : Compiled.mk (Predicate.all
        ((c.filters.filterMap fun f => (f.outcome ds).toOption).filterMap FilterOutcome.term? ++
          c.fullTextTerm ds)) (c.typedSorts ds) c.page
        ((c.filters.filterMap fun f => (f.outcome ds).toOption).filterMap
          FilterOutcome.dropped?) = c.compiled ds := by
      rw [hterms, hnotes]
      rfl
    constructor
    · intro h
      exact ⟨hall, (Except.ok.inj h).symm.trans hk⟩
    · rintro ⟨_, rfl⟩
      exact congrArg Except.ok hk

theorem sorts_of_compile {ds : List FilterDescriptor} {c : Criteria} {k : Compiled}
    (h : c.compile ds = .ok k) : k.sorts = c.typedSorts ds := by
  obtain ⟨-, -, rfl⟩ := (compile_eq_ok_iff ds c k).mp h
  rfl

theorem mem_terms (ds : List FilterDescriptor) (c : Criteria) (p : Predicate) :
    p ∈ c.terms ds ↔
      (∃ f ∈ c.filters, f.compile (f.resolvedType ds) = .ok (some p)) ∨
      (c.activeQuery?).bind (fullTextPredicate ds) = some p := by
  simp only [terms, fullTextTerm, List.mem_append, List.mem_filterMap, Filter.term?_eq_some_iff,
    Option.mem_toList]

/-- A request compiles in the same way without the filters that are dropped. -/
theorem compile_kept (ds : List FilterDescriptor) (c : Criteria) (k : Compiled)
    (h : c.compile ds = .ok k) :
    compile ds { c with filters := c.filters.filter fun f => !f.isDropped ds } =
      .ok { k with dropped := [] } := by
  obtain ⟨hsize, hall, rfl⟩ := (compile_eq_ok_iff ds c k).mp h
  refine (compile_eq_ok_iff ds _ _).mpr ⟨hsize, ?_, ?_⟩
  · intro f hf
    exact hall f (List.mem_filter.mp hf).1
  · have hterms : (c.filters.filter fun f => !f.isDropped ds).filterMap (Filter.term? ds) =
        c.filters.filterMap (Filter.term? ds) := by
      rw [List.filterMap_filter]
      apply List.filterMap_congr
      intro f _
      cases hf : f.isDropped ds with
      | true => rw [Filter.term?_of_isDropped ds f hf]; rfl
      | false => rfl
    have hnotes : (c.filters.filter fun f => !f.isDropped ds).filter (Filter.isDropped ds) = [] := by
      simp [List.filter_filter]
    simp only [compiled, terms, notes, hterms, hnotes, List.map_nil]
    rfl

/-- The order of the filters decides neither whether a request compiles nor which rows it finds. -/
theorem compile_perm (ds : List FilterDescriptor) (c : Criteria) (k : Compiled)
    (h : c.compile ds = .ok k) (filters : List Filter) (hperm : filters.Perm c.filters) :
    ∃ k', compile ds { c with filters := filters } = .ok k' ∧
      ∀ row, satisfies k'.predicate row = satisfies k.predicate row := by
  obtain ⟨hsize, hall, rfl⟩ := (compile_eq_ok_iff ds c k).mp h
  refine ⟨_, (compile_eq_ok_iff ds _ _).mpr ⟨hsize, ?_, rfl⟩, ?_⟩
  · intro f hf
    exact hall f (hperm.mem_iff.mp hf)
  · intro row
    have hterms : (terms ds { c with filters := filters }).Perm (c.terms ds) :=
      (hperm.filterMap _).append_right _
    rw [Bool.eq_iff_iff]
    simp only [compiled, satisfies_all, hterms.mem_iff]

end Criteria

/-- The test of a full-text query holds when a text field holds the query; it is there when there is
a text field. -/
theorem fullTextPredicate_holds (ds : List FilterDescriptor) (query : String) (row : Json) :
    satisfies (fullTextPredicate ds query) row = true ↔
      ((∃ d ∈ ds, d.fieldType = .string) → ∃ d ∈ ds, d.fieldType = .string ∧
        (Predicate.textMatch d.key .contains query).holds row = true) := by
  -- There is no test just when there is no text field, and then every row passes.
  cases hp : fullTextPredicate ds query with
  | none =>
    have hnil := (Predicate.any_eq_none_iff _).mp hp
    simp only [List.map_eq_nil_iff, List.filter_eq_nil_iff, beq_iff_eq] at hnil
    constructor
    · rintro - ⟨d, hd, ht⟩
      exact absurd ht (hnil d hd)
    · intro _
      rfl
  | some p =>
    have hany := Predicate.any_iff (fun p => p.holds row = true) (Predicate.holds_or row) _ p hp
    simp only [List.mem_map, List.mem_filter, beq_iff_eq] at hany
    rw [satisfies, Option.all_some, hany]
    constructor
    · rintro ⟨_, ⟨d, ⟨hd, ht⟩, rfl⟩, hq⟩ _
      exact ⟨d, hd, ht, hq⟩
    · intro h
      have hne : ds.filter (fun d => d.fieldType == .string) ≠ [] := by
        intro hnil
        rw [fullTextPredicate, hnil] at hp
        cases hp
      obtain ⟨d, hd⟩ := List.exists_mem_of_ne_nil _ hne
      rw [List.mem_filter, beq_iff_eq] at hd
      obtain ⟨d', hd', ht', hq⟩ := h ⟨d, hd.1, hd.2⟩
      exact ⟨_, ⟨d', ⟨hd', ht'⟩, rfl⟩, hq⟩

/-- A test for a part of a text asks for a text that holds the part in upper case. -/
theorem textMatch_contains_holds (field query : String) (row : Json) :
    (Predicate.textMatch field .contains query).holds row = true ↔
      ∃ s, row.present? field = some (.text s) ∧
        Text.occursIn (Text.upperChars query.toList) (Text.upperChars s.toList) = true := by
  rw [Predicate.holds_iff, Predicate.evaluate, Predicate.testField]
  rcases row.present? field with _ | stored
  · simp
  · cases stored <;> simp [Predicate.textHolds, TextMode.finds, Truth.ofBool_eq_yes]

/-- The compiled form of a request is the conjunction of its parts. A row satisfies it when it
satisfies the predicate of every filter that is kept and, if the entity has text fields, one of them
holds the full-text query in any case of letters. The dropped filters are noted in order and can be
left out, and the order of the filters does not count. -/
theorem compiled_conjunction (ds : List FilterDescriptor) (c : Criteria) (k : Compiled)
    (h : c.compile ds = .ok k) :
    (∀ row, satisfies k.predicate row = true ↔
      (∀ f ∈ c.filters, ∀ p, f.compile (f.resolvedType ds) = .ok (some p) →
        p.holds row = true) ∧
      ∀ query, c.activeQuery? = some query → (∃ d ∈ ds, d.fieldType = .string) →
        ∃ d ∈ ds, d.fieldType = .string ∧ ∃ s, row.present? d.key = some (.text s) ∧
          Text.occursIn (Text.upperChars query.toList) (Text.upperChars s.toList) = true) ∧
    k.dropped = (c.filters.filter fun f => f.isDropped ds).map
      (fun f => ⟨f.key, f.operator, f.resolvedType ds⟩) ∧
    Criteria.compile ds { c with filters := c.filters.filter fun f => !f.isDropped ds } =
      .ok { k with dropped := [] } ∧
    ∀ filters : List Filter, filters.Perm c.filters →
      ∃ k', Criteria.compile ds { c with filters := filters } = .ok k' ∧
        ∀ row, satisfies k'.predicate row = satisfies k.predicate row := by
  have hkept := Criteria.compile_kept ds c k h
  have hperm := Criteria.compile_perm ds c k h
  obtain ⟨_, _, rfl⟩ := (Criteria.compile_eq_ok_iff ds c k).mp h
  refine ⟨?_, rfl, hkept, hperm⟩
  intro row
  -- A full-text query adds a term only where there is a text field to look in.
  have hquery : (∀ p, (c.activeQuery?).bind (fullTextPredicate ds) = some p →
      p.holds row = true) ↔
      ∀ query, c.activeQuery? = some query →
        satisfies (fullTextPredicate ds query) row = true := by
    cases c.activeQuery? with
    | none => simp
    | some query => simp [satisfies, Option.all_eq_true]
  simp only [Criteria.compiled, satisfies_all, Criteria.mem_terms, or_imp, forall_and,
    forall_exists_index, and_imp, hquery, fullTextPredicate_holds, textMatch_contains_holds]
  constructor
  · rintro ⟨hfilters, hfull⟩
    exact ⟨fun f hf p hp => hfilters p f hf hp, hfull⟩
  · rintro ⟨hfilters, hfull⟩
    exact ⟨fun p f hf hp => hfilters f hf p hp, hfull⟩

/-- A comparison of a text field is dropped, so that the request compiles as if it were not
there. -/
theorem compiled_conjunction_of_dropped :
    ∃ k, Criteria.compile
        [⟨"name", .string, true, [.equals], by decide, by decide, by decide⟩,
          ⟨"usages", .number, true, [.greaterThan], by decide, by decide, by decide⟩]
        ⟨[.withValue "name" .lessThan "m", .withValue "usages" .greaterThan "10"], [],
          some ⟨some "linux"⟩, .first⟩ = .ok k ∧
      k.dropped = [⟨"name", .lessThan, .string⟩] ∧
      Criteria.compile
        [⟨"name", .string, true, [.equals], by decide, by decide, by decide⟩,
          ⟨"usages", .number, true, [.greaterThan], by decide, by decide, by decide⟩]
        ⟨[.withValue "usages" .greaterThan "10"], [], some ⟨some "linux"⟩, .first⟩ =
          .ok { k with dropped := [] } := by
  have h := compiled_conjunction
    [⟨"name", .string, true, [.equals], by decide, by decide, by decide⟩,
      ⟨"usages", .number, true, [.greaterThan], by decide, by decide, by decide⟩]
    ⟨[.withValue "name" .lessThan "m", .withValue "usages" .greaterThan "10"], [],
      some ⟨some "linux"⟩, .first⟩ _ rfl
  exact ⟨_, rfl, h.2.1, h.2.2.1⟩

end CriteriaSearch
