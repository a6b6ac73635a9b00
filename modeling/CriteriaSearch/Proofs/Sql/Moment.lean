import CriteriaSearch.Proofs.Calendar
import CriteriaSearch.Proofs.Calendar.Written
import CriteriaSearch.Proofs.Number.Exact
import CriteriaSearch.Proofs.Number.Scaling
import CriteriaSearch.Sql.Clause
import CriteriaSearch.Sql.Moment.Format

/-!
# Moments of stored dates

A stored date or date-time is read as its moment and shown in milliseconds as it was written: the
seconds pass through rounded arithmetic, which never moves them by half a millisecond.
-/

namespace CriteriaSearch.Sql

open DateTime (millisFraction clockOf)

attribute [local irreducible] unitsPerOne Double.limitUnits

namespace Moment

theorem digits?_padded (width least most n : Nat) (rest : List Char) (hwidth : 0 < width)
    (hn : n < 10 ^ width) (hleast : least ≤ n) (hmost : n ≤ most) :
    digits? width least most (Date.padded width n ++ rest) = some (n, rest) := by
  have hlength := Date.length_padded width n hwidth hn
  have hvalue := Date.digitsValue_padded width n
  have hall := Date.all_isDigit_padded width n
  unfold digits?
  dsimp only
  rw [Date.take_padded width n rest hwidth hn, Date.drop_padded width n rest hwidth hn, hvalue]
  exact if_pos ⟨hlength, hall, hleast, hmost⟩

theorem sign?_cons (c : Char) (rest : List Char) : sign? c (c :: rest) = some rest :=
  if_pos rfl

def IsZone (cs : List Char) : Prop := cs = [] ∨ cs = ['Z']

theorem offset?_zone (zone : List Char) (h : IsZone zone) : offset? zone = some 0 := by
  rcases h with rfl | rfl <;> rfl

def secondsOf (s m : Nat) : Double :=
  if m = 0 then .ofInt s else (Double.ofInt s).add (fraction (Date.padded 3 m))

theorem seconds?_clock (s m : Nat) (hs : s < 60) (zone : List Char) (hzone : IsZone zone) :
    seconds? (':' :: (Date.padded 2 s ++ (millisFraction m ++ zone))) =
      some (secondsOf s m, zone) := by
  have hread := digits?_padded 2 0 59 s (millisFraction m ++ zone) (by decide) (by omega)
    (Nat.zero_le s) (by omega)
  rw [seconds?, hread]
  unfold millisFraction secondsOf
  by_cases hzero : m = 0
  · rw [if_pos hzero, if_pos hzero]
    rcases hzone with rfl | rfl <;> rfl
  · rw [if_neg hzero, if_neg hzero]
    obtain ⟨d, ds, hcons, hdigit⟩ := Date.padded_eq_cons 3 m
    have hall := Date.all_isDigit_padded 3 m
    have hstop : zone.takeWhile isDigit = [] ∧ zone.dropWhile isDigit = zone := by
      rcases hzone with rfl | rfl <;> exact ⟨rfl, rfl⟩
    rw [List.all_eq_true] at hall
    have htake : (Date.padded 3 m ++ zone).takeWhile isDigit = Date.padded 3 m := by
      rw [List.takeWhile_append_of_pos hall, hstop.1, List.append_nil]
    have hdrop : (Date.padded 3 m ++ zone).dropWhile isDigit = zone := by
      rw [List.dropWhile_append_of_pos hall, hstop.2]
    rw [hcons, List.cons_append] at htake hdrop
    rw [hcons, List.cons_append, List.cons_append]
    change (if isDigit d = true then _ else _) = _
    rw [if_pos hdigit, htake, hdrop]

theorem clock?_clockOf (h i s m : Nat) (hh : h < 24) (hi : i < 60) (hs : s < 60)
    (zone : List Char) (hzone : IsZone zone) :
    clock? (clockOf h i s ++ (millisFraction m ++ zone)) =
      some (⟨h, i, secondsOf s m⟩, 0) := by
  have hhour := digits?_padded 2 0 24 h
    (':' :: (Date.padded 2 i ++ ':' :: (Date.padded 2 s ++ (millisFraction m ++ zone))))
    (by decide) (by omega) (Nat.zero_le h) (by omega)
  have hminute := digits?_padded 2 0 59 i (':' :: (Date.padded 2 s ++ (millisFraction m ++ zone)))
    (by decide) (by omega) (Nat.zero_le i) (by omega)
  have hcs : clockOf h i s ++ (millisFraction m ++ zone) =
      Date.padded 2 h ++
        (':' :: (Date.padded 2 i ++ ':' :: (Date.padded 2 s ++ (millisFraction m ++ zone)))) := by
    simp only [clockOf, List.append_assoc, List.cons_append]
  rw [hcs, clock?, hhour]
  simp only [Option.bind_eq_bind, Option.bind_some, sign?_cons, hminute,
    seconds?_clock s m hs zone hzone, offset?_zone zone hzone]

def ofDate (d : Date) : Moment := blank.onDate d.year d.month d.day

def withClock? (m : Moment) (rest : List Char) : Option Moment :=
  match clock? rest with
  | some (clock, offset) =>
    let m := { m with clock := some clock, offset := offset }
    if offset = 0 then some m else m.placed?
  | none => if rest = [] then some m else none

theorem ofDateChars?_cons (c : Char) (cs : List Char) (h : c ≠ '-') :
    ofDateChars? (c :: cs) = (do
      let (year, rest) ← digits? 4 0 9999 (c :: cs)
      let rest ← sign? '-' rest
      let (month, rest) ← digits? 2 1 12 rest
      let rest ← sign? '-' rest
      let (day, rest) ← digits? 2 1 31 rest
      withClock? (blank.onDate year month day)
        (rest.dropWhile fun c => isNumberSpace c || c == 'T')) := by
  unfold ofDateChars?
  split
  next negative rest hsplit =>
    split at hsplit
    · next hminus => exact absurd (List.cons.inj hminus).1 h
    · obtain ⟨rfl, rfl⟩ := Prod.mk.inj hsplit
      rfl

theorem ofDateChars?_date (d : Date) (hnonneg : 0 ≤ d.year) (hle : d.year ≤ 9999)
    (rest : List Char) :
    ofDateChars? (d.chars ++ rest) =
      withClock? (ofDate d) (rest.dropWhile fun c => isNumberSpace c || c == 'T') := by
  have hmonth := d.month_bounds
  have hday := d.day_bounds
  have hdayle := d.day_le
  have hcast : (d.year.toNat : Int) = d.year := Int.toNat_of_nonneg hnonneg
  have hcs : d.chars ++ rest = Date.padded 4 d.year.toNat ++
      ('-' :: (Date.padded 2 d.month ++ '-' :: (Date.padded 2 d.day ++ rest))) := by
    rw [d.chars_eq hnonneg hle]
    simp only [List.append_assoc, List.cons_append]
  -- The year starts with a digit, so that the text has no sign.
  obtain ⟨c, cs, hcons, hdigit⟩ := Date.padded_eq_cons 4 d.year.toNat
  have hsign : c ≠ '-' := by
    rintro rfl
    exact absurd hdigit (by decide)
  rw [hcs, hcons, List.cons_append, ofDateChars?_cons c _ hsign, ← List.cons_append, ← hcons,
    digits?_padded 4 0 9999 _ _ (by decide) (by omega) (Nat.zero_le _) (by omega)]
  simp only [Option.bind_eq_bind, Option.bind_some, sign?_cons]
  rw [digits?_padded 2 1 12 _ _ (by decide) (by omega) hmonth.1 hmonth.2]
  simp only [Option.bind_some, sign?_cons]
  rw [digits?_padded 2 1 31 _ _ (by decide) (by omega) hday.1 hdayle]
  simp only [Option.bind_some, hcast]
  rfl

theorem ofDateChars?_dateChars (d : Date) (hnonneg : 0 ≤ d.year) (hle : d.year ≤ 9999) :
    ofDateChars? d.chars = some (ofDate d) := by
  have h := ofDateChars?_date d hnonneg hle []
  rw [List.append_nil] at h
  rw [h]
  rfl

theorem not_skipped (c : Char) (h : isDigit c = true) : ¬(isNumberSpace c || c == 'T') = true := by
  obtain ⟨hlow, hhigh⟩ := digit_bounds c h
  intro hskip
  simp only [isNumberSpace, Bool.or_eq_true, Bool.and_eq_true, beq_iff_eq, decide_eq_true_eq] at hskip
  rcases hskip with (rfl | hcontrol) | rfl
  · exact absurd h (by decide)
  · omega
  · exact absurd h (by decide)

theorem ofDateChars?_clock (t : DateTime) (ht : t.IsPlain) (zone : List Char)
    (hzone : IsZone zone) :
    ofDateChars? (t.chars ++ zone) = some { ofDate t.date with
      clock := some ⟨(t.second / 3600 : Nat), (t.second / 60 % 60 : Nat),
        secondsOf (t.second % 60) t.millis⟩ } := by
  have hsecond := t.second_lt
  have hread := clock?_clockOf (t.second / 3600) (t.second / 60 % 60) (t.second % 60) t.millis
    (by omega) (by omega) (by omega) zone hzone
  obtain ⟨c, cs, hcons, hdigit⟩ := Date.padded_eq_cons 2 (t.second / 3600)
  have hstop : (clockOf (t.second / 3600) (t.second / 60 % 60) (t.second % 60) ++
      (millisFraction t.millis ++ zone)).dropWhile (fun c => isNumberSpace c || c == 'T') =
      clockOf (t.second / 3600) (t.second / 60 % 60) (t.second % 60) ++
        (millisFraction t.millis ++ zone) := by
    rw [clockOf, hcons]
    simp only [List.append_assoc, List.cons_append]
    exact List.dropWhile_cons_of_neg (not_skipped c hdigit)
  rw [ht.chars_eq, List.append_assoc, ofDateChars?_date t.date ht.year_nonneg ht.year_le,
    List.cons_append, List.append_assoc, List.dropWhile_cons_of_pos (by decide), hstop, withClock?,
    hread]
  rfl

end Moment

end CriteriaSearch.Sql
