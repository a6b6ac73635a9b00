import CriteriaSearch.Calendar.DateTime
import Mathlib.Data.Int.Order.Basic
import Mathlib.Data.Nat.Basic
import Mathlib.Order.Compare

namespace CriteriaSearch

theorem daysBeforeYear_eq (year : Int) :
    daysBeforeYear year =
      365 * (year - 1) + (year - 1) / 4 - (year - 1) / 100 + (year - 1) / 400 := by
  have hfdiv (n : Int) (k : Int) (hk : 0 ≤ k) : n.fdiv k = n / k :=
    Int.fdiv_eq_ediv_of_nonneg n hk
  unfold daysBeforeYear
  dsimp only
  rw [hfdiv _ 4 (by decide), hfdiv _ 100 (by decide), hfdiv _ 400 (by decide)]

/-- A year has a day more than 365 if it is a leap year. -/
theorem daysBeforeYear_succ (year : Int) :
    daysBeforeYear (year + 1) = daysBeforeYear year + (if isLeapYear year then 366 else 365) := by
  rw [daysBeforeYear_eq, daysBeforeYear_eq]
  have hleap : isLeapYear year = true ↔ year % 4 = 0 ∧ (year % 100 ≠ 0 ∨ year % 400 = 0) := by
    simp [isLeapYear]
  split
  · next h =>
    have := hleap.mp h
    omega
  · next h =>
    have : ¬(year % 4 = 0 ∧ (year % 100 ≠ 0 ∨ year % 400 = 0)) := fun hyear => h (hleap.mpr hyear)
    omega

/-- Years have 146097 days in 400, up to what the leap years between shift. -/
theorem daysBeforeYear_bounds (year : Int) :
    146097 * year - 146700 ≤ 400 * daysBeforeYear year ∧
      400 * daysBeforeYear year ≤ 146097 * year - 145700 := by
  rw [daysBeforeYear_eq]
  omega

theorem daysBeforeYear_mono {y z : Int} (h : y ≤ z) : daysBeforeYear y ≤ daysBeforeYear z := by
  rw [daysBeforeYear_eq, daysBeforeYear_eq]
  omega

theorem yearOfDay_eq (year n : Int) (hlower : daysBeforeYear year ≤ n)
    (hupper : n < daysBeforeYear (year + 1)) : Date.yearOfDay n = year := by
  unfold Date.yearOfDay
  rw [Int.fdiv_eq_ediv_of_nonneg _ (by decide : (0 : Int) ≤ 146097)]
  dsimp only
  have hthis := (daysBeforeYear_bounds year).1
  have hnext := (daysBeforeYear_bounds (year + 1)).2
  -- The guess is the year, the one before it or the one after it.
  have hguess : n * 400 / 146097 + 1 = year - 1 ∨ n * 400 / 146097 + 1 = year ∨
      n * 400 / 146097 + 1 = year + 1 := by omega
  rcases hguess with hguess | hguess | hguess
  · have hbefore := daysBeforeYear_succ (year - 1)
    rw [Int.sub_add_cancel] at hbefore
    have hless : daysBeforeYear (year - 1) ≤ daysBeforeYear year := by
      split at hbefore <;> omega
    rw [hguess, if_neg (by omega), Int.sub_add_cancel, if_pos hlower]
  · rw [hguess, if_neg (by omega), if_neg (by omega)]
  · rw [hguess, if_pos hupper]
    omega

theorem daysBeforeMonth_succ (year : Int) (month : Nat) (h : 1 ≤ month) :
    daysBeforeMonth year (month + 1) = daysBeforeMonth year month + daysInMonth year month := by
  obtain ⟨m, rfl⟩ : ∃ m, month = m + 1 := ⟨month - 1, by omega⟩
  rw [daysBeforeMonth]

theorem daysBeforeMonth_mono (year : Int) (month n : Nat) (h : 1 ≤ month) :
    daysBeforeMonth year month ≤ daysBeforeMonth year (month + n) := by
  induction n with
  | zero => exact Nat.le_refl _
  | succ n ih =>
    have hstep := daysBeforeMonth_succ year (month + n) (by omega)
    rw [Nat.add_assoc] at hstep
    omega

theorem daysBeforeMonth_thirteen (year : Int) :
    daysBeforeMonth year 13 = if isLeapYear year then 366 else 365 := by
  simp only [daysBeforeMonth, daysInMonth]
  cases isLeapYear year <;> rfl

/-- A day of a month is found from the days of the year before it. -/
theorem monthAndDay_eq (year : Int) (fuel start month day : Nat) (hstart : 1 ≤ start)
    (hmonth : start ≤ month) (hfuel : month ≤ start + fuel) (hday : 1 ≤ day)
    (hlength : day ≤ daysInMonth year month) :
    Date.monthAndDay year fuel start
        (daysBeforeMonth year month - daysBeforeMonth year start + (day - 1)) = (month, day) := by
  induction fuel generalizing start with
  | zero =>
    obtain rfl : month = start := by omega
    rw [Date.monthAndDay, Nat.sub_self, Nat.zero_add, Nat.sub_add_cancel hday]
  | succ fuel ih =>
    rw [Date.monthAndDay]
    by_cases hsame : month = start
    · subst hsame
      rw [if_pos (by omega), Nat.sub_self, Nat.zero_add, Nat.sub_add_cancel hday]
    · -- The day lies beyond the first month, whose days are taken off the rest.
      have hstep := daysBeforeMonth_succ year start hstart
      obtain ⟨n, rfl⟩ : ∃ n, month = start + 1 + n := ⟨month - (start + 1), by omega⟩
      have hmono := daysBeforeMonth_mono year (start + 1) n (by omega)
      rw [if_neg (by omega)]
      have hrest : daysBeforeMonth year (start + 1 + n) - daysBeforeMonth year start + (day - 1) -
          daysInMonth year start =
          daysBeforeMonth year (start + 1 + n) - daysBeforeMonth year (start + 1) + (day - 1) := by
        omega
      rw [hrest]
      exact ih (start + 1) (by omega) (by omega) (by omega)

namespace Date

/-- The days of the year before a date are fewer than those of the year. -/
theorem dayOfYear_lt (d : Date) :
    daysBeforeMonth d.year d.month + (d.day - 1) < if isLeapYear d.year then 366 else 365 := by
  have hmonth := d.month_bounds
  have hday := d.day_bounds
  have hstep := daysBeforeMonth_succ d.year d.month hmonth.1
  have hmono := daysBeforeMonth_mono d.year (d.month + 1) (12 - d.month) (by omega)
  rw [show d.month + 1 + (12 - d.month) = 13 from by omega, daysBeforeMonth_thirteen] at hmono
  omega

theorem ofParts?_self (d : Date) : ofParts? d.year d.month d.day = some d := by
  rw [ofParts?, dif_pos ⟨d.year_bounds, d.month_bounds, d.day_bounds⟩]

theorem dayNumber_lt (d e : Date) (h : d.compare e = .lt) : d.dayNumber < e.dayNumber := by
  have hdday := d.day_bounds
  have heday := e.day_bounds
  rw [compare, Ordering.then_eq_lt, Ordering.then_eq_lt, compare_lt_iff_lt, compare_lt_iff_lt,
    compare_lt_iff_lt, compare_eq_iff_eq, compare_eq_iff_eq] at h
  unfold dayNumber
  rcases h with hyear | ⟨hyear, hmonth | ⟨hmonth, hday⟩⟩
  · -- The days of the earlier year lie before the first day of the next one.
    have hlast := d.dayOfYear_lt
    have hnext : daysBeforeYear (d.year + 1) =
        daysBeforeYear d.year + ((if isLeapYear d.year then 366 else 365 : Nat) : Int) := by
      rw [daysBeforeYear_succ]
      split <;> rfl
    have hmono := daysBeforeYear_mono (Int.add_one_le_of_lt hyear)
    omega
  · obtain ⟨n, hn⟩ : ∃ n, e.month = d.month + 1 + n := ⟨e.month - (d.month + 1), by omega⟩
    have hstep := daysBeforeMonth_succ d.year d.month d.month_bounds.1
    have hmono := daysBeforeMonth_mono d.year (d.month + 1) n (by omega)
    rw [← hn] at hmono
    rw [← hyear]
    omega
  · rw [← hyear, ← hmonth]
    omega

theorem ofDayNumber?_dayNumber (d : Date) : ofDayNumber? d.dayNumber = some d := by
  have hlt := dayOfYear_lt d
  have hsucc := daysBeforeYear_succ d.year
  have hdays : d.dayNumber + epochDay =
      daysBeforeYear d.year + (daysBeforeMonth d.year d.month + (d.day - 1) : Nat) := by
    rw [dayNumber]
    push_cast
    omega
  -- Less than a year lies between the first day of the year and the date.
  have hyear : yearOfDay (d.dayNumber + epochDay) = d.year := by
    apply yearOfDay_eq
    · omega
    · split at hlt <;> split at hsucc <;> simp_all <;> omega
  have hrest : (d.dayNumber + epochDay - daysBeforeYear d.year).toNat =
      daysBeforeMonth d.year d.month - daysBeforeMonth d.year 1 + (d.day - 1) := by
    rw [hdays, daysBeforeMonth]
    omega
  have hmonth := monthAndDay_eq d.year 11 1 d.month d.day (by decide) d.month_bounds.1
    (by have := d.month_bounds.2; omega) d.day_bounds.1 d.day_bounds.2
  unfold ofDayNumber?
  dsimp only
  rw [hyear, hrest, hmonth]
  exact ofParts?_self d

end Date

end CriteriaSearch
