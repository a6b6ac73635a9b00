import CriteriaSearch.Proofs.FilterTerm
import CriteriaSearch.Proofs.Repository
import CriteriaSearch.SearchIndex.Hits

namespace CriteriaSearch

namespace Json

def at? (j : Json) : List String → Option Json
  | [] => some j
  | name :: path => (j.field? name).bind fun value => value.at? path

theorem at?_concat (j : Json) (path : List String) (name : String) :
    j.at? (path ++ [name]) = (j.at? path).bind (·.field? name) := by
  induction path generalizing j with
  | nil => exact Option.bind_fun_some (j.field? name)
  | cons first path ih =>
    rw [List.cons_append, at?, at?, Option.bind_assoc]
    exact congrArg (j.field? first).bind (funext ih)

theorem at?_pair (j : Json) (first second : String) :
    j.at? [first, second] = (j.field? first).bind (·.field? second) := by
  have hfirst : j.at? [first] = j.field? first := Option.bind_fun_some _
  rw [← hfirst]
  exact j.at?_concat [first] second

theorem natUpTo?_eq_some_iff (most : Nat) (j : Json) (n : Nat) :
    j.natUpTo? most = some n ↔ j = .integer n ∧ n ≤ most := by
  constructor
  · intro h
    cases j with
    | integer i =>
      obtain ⟨⟨hi, hmost⟩, hn⟩ := Option.ite_none_right_eq_some.mp h
      obtain rfl := Option.some.inj hn
      rw [Int.toNat_of_nonneg hi, Int.toNat_le]
      exact ⟨rfl, hmost⟩
    | _ => cases h
  · rintro ⟨rfl, hmost⟩
    rw [natUpTo?, if_pos ⟨Int.natCast_nonneg n, Int.ofNat_le.mpr hmost⟩, Int.toNat_natCast]

end Json

namespace SearchIndex

/-- The answer has these hits. It has none if there is no list of them. -/
def HasHits (body : Json) (hits : List Json) : Prop :=
  body.at? ["hits", "hits"] = some (.array hits) ∨
    hits = [] ∧ ∀ items, body.at? ["hits", "hits"] ≠ some (.array items)

/-- The answer counts so many hits, with a word of 64 bits that stands alone or in an object. -/
def CountsHits (body : Json) (n : Nat) : Prop :=
  n < 2 ^ 64 ∧ (body.at? ["hits", "total"] = some (.integer n) ∨
    body.at? ["hits", "total", "value"] = some (.integer n))

variable {body : Json}

theorem hasHits_iff {hits : List Json} : HasHits body hits ↔ hitsOf body = hits := by
  rw [hitsOf, ← Json.at?_pair, HasHits]
  rcases body.at? ["hits", "hits"] with _ | value
  · simp [eq_comm]
  · cases value <;> simp [Json.array?, eq_comm]

theorem totalOf?_eq_some_iff {n : Nat} : totalOf? body = some n ↔ CountsHits body n := by
  have hword : n ≤ 18446744073709551615 ↔ n < 2 ^ 64 := Nat.lt_succ_iff.symm
  have hvalue : body.at? ["hits", "total", "value"] =
      (body.at? ["hits", "total"]).bind (·.field? "value") :=
    body.at?_concat ["hits", "total"] "value"
  rw [totalOf?, ← Json.at?_pair, CountsHits, hvalue]
  rcases body.at? ["hits", "total"] with _ | total
  · simp
  · rw [Option.bind_some]
    cases hfield : total.field? "value" with
    | none => simp [Json.natUpTo?_eq_some_iff, hword, and_comm]
    | some value =>
      -- What has a field is an object and no number.
      have hobject : total ≠ .integer n := by
        rintro rfl
        cases hfield
      simp [Json.natUpTo?_eq_some_iff, hword, hobject, and_comm]

theorem rowOf_eq_ok_iff {hit row : Json} :
    rowOf hit = .ok row ↔ hit.field? "_source" = some row := by
  rw [rowOf]
  cases hit.field? "_source" <;> simp

theorem rowOf_error {hit : Json} {e : SearchError} (h : rowOf hit = .error e) :
    e = .mapping "elasticsearch" "search hit without _source" := by
  rw [rowOf] at h
  split at h
  · cases h
  · exact (Except.error.inj h).symm

theorem parseHits_eq_ok_iff {page : RawPage Json} :
    parseHits body = .ok page ↔
      (hitsOf body).mapM rowOf = .ok page.rows ∧
        page.total = (totalOf? body).getD page.rows.length := by
  rw [parseHits, bind_eq_ok_iff]
  constructor
  · rintro ⟨rows, hrows, hpage⟩
    cases hpage
    exact ⟨hrows, rfl⟩
  · rintro ⟨hrows, htotal⟩
    refine ⟨page.rows, hrows, ?_⟩
    rw [← htotal]
    rfl

theorem exists_page_iff :
    (∃ page, parseHits body = .ok page) ↔
      ∀ hit ∈ hitsOf body, ∃ row, hit.field? "_source" = some row := by
  simp only [parseHits_eq_ok_iff, ← rowOf_eq_ok_iff]
  constructor
  · rintro ⟨page, hrows, -⟩
    exact ((mapM_eq_ok_iff _ _ _).mp hrows).1
  · intro hall
    obtain ⟨rows, hrows⟩ : ∃ rows, (hitsOf body).mapM rowOf = .ok rows :=
      ⟨_, (mapM_eq_ok_iff _ _ _).mpr ⟨hall, rfl⟩⟩
    exact ⟨⟨rows, (totalOf? body).getD rows.length⟩, hrows, rfl⟩

theorem parseHits_error {e : SearchError} (h : parseHits body = .error e) :
    e = .mapping "elasticsearch" "search hit without _source" := by
  rw [parseHits] at h
  cases hrows : (hitsOf body).mapM rowOf with
  | error cause =>
    obtain ⟨_, hit, _, -, -, hhit⟩ := exists_of_mapM_eq_error hrows
    rw [hrows] at h
    cases h
    exact rowOf_error hhit
  | ok rows =>
    rw [hrows] at h
    cases h

/-- The page has the rows of the hits, and the count of the answer if it has one. -/
structure IsPageOf (body : Json) (hits : List Json) (page : RawPage Json) : Prop where
  rows_eq : List.Forall₂ (fun hit row => hit.field? "_source" = some row) hits page.rows
  length_eq : page.rows.length = hits.length
  total_counted : ∀ n, CountsHits body n → page.total = n
  total_uncounted : (∀ n, ¬CountsHits body n) → page.total = page.rows.length

theorem isPageOf_parseHits {page : RawPage Json} (h : parseHits body = .ok page) :
    IsPageOf body (hitsOf body) page := by
  obtain ⟨hrows, htotal⟩ := parseHits_eq_ok_iff.mp h
  have hsources := (mapM_eq_ok_iff_forall₂.mp hrows).imp fun _ _ => rowOf_eq_ok_iff.mp
  refine ⟨hsources, hsources.length_eq.symm, ?_, ?_⟩
  · intro n hcounts
    rw [htotal, totalOf?_eq_some_iff.mpr hcounts, Option.getD_some]
  · intro hnone
    have huncounted : totalOf? body = none := by
      rw [Option.eq_none_iff_forall_ne_some]
      exact fun n hn => hnone n (totalOf?_eq_some_iff.mp hn)
    rw [htotal, huncounted, Option.getD_none]

theorem parseHits_congr {other : Json} {n : Nat} (hhits : HasHits other (hitsOf body))
    (hbody : CountsHits body n) (hother : CountsHits other n) :
    parseHits other = parseHits body := by
  rw [parseHits, parseHits, hasHits_iff.mp hhits, totalOf?_eq_some_iff.mpr hbody,
    totalOf?_eq_some_iff.mpr hother]

/-- An answer of any shape is read just if all of its hits have rows, and otherwise refused for
that. The rows are those of the hits in order. Answers with the same hits and the same count are the
same page wherever the count stands, and any other count gives way to the number of rows. -/
theorem parseHits_keeps_hits (body : Json) :
    ∃ hits, HasHits body hits ∧
      ((∃ page, parseHits body = .ok page) ↔
        ∀ hit ∈ hits, ∃ row, hit.field? "_source" = some row) ∧
      (∀ page, parseHits body = .ok page → IsPageOf body hits page) ∧
      (∀ e, parseHits body = .error e →
        e = .mapping "elasticsearch" "search hit without _source") ∧
      ∀ (other : Json) (n : Nat), HasHits other hits → CountsHits body n → CountsHits other n →
        parseHits other = parseHits body := by
  refine ⟨hitsOf body, hasHits_iff.mpr rfl, exists_page_iff, ?_, ?_, ?_⟩
  · intro page
    exact isPageOf_parseHits
  · intro e
    exact parseHits_error
  · intro other n
    exact parseHits_congr

def answerCounting (total : Json) : Json :=
  .object [("took", .integer 3), ("hits", .object [("total", total),
    ("hits", .array [.object [("_id", .text "7"), ("_source", .null)]])])]

def countedAlone : Json := answerCounting (.integer 18446744073709551615)

def countedWithNote : Json :=
  answerCounting (.object [("relation", .text "gte"), ("value", .integer 18446744073709551615)])

def countedBelowZero : Json := answerCounting (.object [("value", .integer (-1))])

theorem parseHits_keeps_hits_null :
    CountsHits countedAlone 18446744073709551615 ∧
      CountsHits countedWithNote 18446744073709551615 ∧
      parseHits countedWithNote = parseHits countedAlone ∧
      (∀ n, ¬CountsHits countedBelowZero n) ∧
      ∃ page, parseHits countedBelowZero = .ok page ∧ page.total = page.rows.length := by
  have halone : CountsHits countedAlone 18446744073709551615 := ⟨by decide, .inl rfl⟩
  have hnote : CountsHits countedWithNote 18446744073709551615 := ⟨by decide, .inr rfl⟩
  have hbelow : ∀ n, ¬CountsHits countedBelowZero n := by
    rintro n ⟨-, hcount | hcount⟩
    · cases hcount
    · cases hcount
  obtain ⟨hits, hhits, -, -, -, hsame⟩ := parseHits_keeps_hits countedAlone
  obtain ⟨_, -, -, hpage, -⟩ := parseHits_keeps_hits countedBelowZero
  refine ⟨halone, hnote, hsame _ _ ?_ halone hnote, hbelow, _, rfl,
    (hpage _ rfl).total_uncounted hbelow⟩
  rw [hasHits_iff] at hhits ⊢
  exact hhits

end SearchIndex

end CriteriaSearch
