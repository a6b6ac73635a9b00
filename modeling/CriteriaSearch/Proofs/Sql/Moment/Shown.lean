import CriteriaSearch.Proofs.Sql.Moment
import Mathlib.Data.List.TakeWhile

namespace CriteriaSearch

namespace Double

attribute [local irreducible] unitsPerOne limitUnits

theorem integerPart_eq (x : FiniteDouble) (n : Nat) (hle : (n : ℚ) ≤ x.value)
    (hlt : x.value < n + 1) : (finite x).integerPart = n := by
  have hUpos : (0 : ℚ) < unitsPerOne := lt_of_lt_of_le (by positivity) unitsPerOne_large
  rw [FiniteDouble.value, le_div_iff₀ hUpos] at hle
  rw [FiniteDouble.value, div_lt_iff₀ hUpos] at hlt
  have hle' : (n : Int) * unitsPerOne ≤ x.signedUnits := by exact_mod_cast hle
  have hlt' : x.signedUnits < ((n : Int) + 1) * unitsPerOne := by exact_mod_cast hlt
  have hnonneg : 0 ≤ x.signedUnits :=
    (Int.mul_nonneg (Int.natCast_nonneg n) (Int.natCast_nonneg _)).trans hle'
  rw [integerPart, Int.tdiv_eq_ediv_of_nonneg hnonneg]
  apply le_antisymm
  · exact Int.lt_add_one_iff.mp
      (Int.ediv_lt_of_lt_mul (by exact_mod_cast unitsPerOne_pos) hlt')
  · exact Int.le_ediv_of_mul_le (by exact_mod_cast unitsPerOne_pos) hle'

theorem isBound_of (n : Nat) (hpos : 0 < n) (h : n ≤ 2 ^ 64) : IsBound n := by
  have hpos' : (1 : ℚ) ≤ n := by exact_mod_cast hpos
  have hle : (n : ℚ) ≤ 2 ^ 64 := by exact_mod_cast h
  constructor
  · linarith
  · linarith

end Double

namespace Sql

open Double

attribute [local irreducible] unitsPerOne limitUnits

namespace Moment

theorem secondsOf_near (s m : Nat) (hs : s < 60) (hm : m < 1000) :
    (secondsOf s m).Near ((s * 1000 + m : Nat) / 1000) (1 / 2 ^ 40) := by
  have hs' : (s : ℚ) + 1 ≤ 60 := by exact_mod_cast hs
  have hm' : (m : ℚ) + 1 ≤ 1000 := by exact_mod_cast hm
  have hspos : (0 : ℚ) ≤ s := Nat.cast_nonneg s
  have hmpos : (0 : ℚ) ≤ m := Nat.cast_nonneg m
  obtain ⟨x, hx, hvalue⟩ := ofInt_value s (by omega)
  have hwhole : (ofInt s).Near s 0 := by
    rw [hx, ← hvalue]
    exact near_self x
  unfold secondsOf
  split
  · next hzero =>
    have hsame : (((s * 1000 + m : Nat) : ℚ) / 1000) = s := by
      rw [hzero]
      push_cast
      ring
    rw [hsame]
    exact hwhole.mono (by norm_num)
  · -- The fraction is the number nearest to it, and the sum is rounded once more.
    have hlength := Date.length_padded 3 m (by decide) (by omega)
    have hfraction : fraction (Date.padded 3 m) = roundQuotient false m 1000 := by
      rw [fraction_eq _ (by omega) (Date.all_isDigit_padded 3 m), Date.digitsValue_padded, hlength,
        show 10 ^ 3 = 1000 from rfl]
    have hnear := roundQuotient_near false m 1000 (by decide) 1
      (by exact_mod_cast isBound_of 1 (by decide) (by decide)) (by push_cast; linarith)
    rw [hfraction]
    refine hwhole.add hnear (M := 64) (by exact_mod_cast isBound_of 64 (by decide) (by decide))
      ?_ ?_ ?_ (by norm_num)
    · simp only [signedValue, Bool.false_eq_true, ↓reduceIte]
      push_cast
      ring
    · push_cast
      linarith
    · push_cast
      linarith

theorem roundedMillis_secondsOf (s m : Nat) (hs : s < 60) (hm : m < 1000) :
    ClockReading.roundedMillis (secondsOf s m) = (s * 1000 + m : Nat) := by
  have hs' : (s : ℚ) + 1 ≤ 60 := by exact_mod_cast hs
  have hm' : (m : ℚ) + 1 ≤ 1000 := by exact_mod_cast hm
  obtain ⟨k, hk⟩ : ∃ k, s * 1000 + m = k := ⟨_, rfl⟩
  have hkpos : (0 : ℚ) ≤ k := Nat.cast_nonneg k
  have hkle : (k : ℚ) ≤ 60000 := by
    rw [← hk]
    push_cast
    linarith
  have hseconds := secondsOf_near s m hs hm
  rw [hk] at hseconds ⊢
  obtain ⟨y, hy, hyvalue⟩ := ofInt_value 1000 (by decide)
  have hthousand : (y.value : ℚ) = 1000 := by
    rw [hyvalue]
    norm_num
  -- Seconds in milliseconds are off by far less than the half that is added before the rest is cut
  -- off.
  have hmul : ((secondsOf s m).mul (.ofInt 1000)).Near k (1 / 2 ^ 20) := by
    rw [show (1000 : Int) = (1000 : Nat) from rfl, hy]
    refine hseconds.mul y (M := 2 ^ 17)
      (by exact_mod_cast isBound_of (2 ^ 17) (by decide) (by decide)) ?_ ?_ ?_ ?_ ?_
    all_goals rw [hthousand]
    · norm_num
    · ring
    · linarith
    · linarith
    · norm_num
  have hhalf : ofScientific false 5 (-1) = roundQuotient false 5 10 := by decide +kernel
  have hhalfNear := roundQuotient_near false 5 10 (by decide) 1
    (by exact_mod_cast isBound_of 1 (by decide) (by decide)) (by norm_num)
  rw [← hhalf] at hhalfNear
  have hsum := hmul.add hhalfNear (M := 2 ^ 17) (c := k + 1 / 2) (η := 1 / 4)
    (by exact_mod_cast isBound_of (2 ^ 17) (by decide) (by decide))
    (by simp only [signedValue, Bool.false_eq_true, ↓reduceIte]; norm_num)
    (by linarith) (by linarith) (by norm_num)
  obtain ⟨z, hz, herror⟩ := hsum
  obtain ⟨hlower, hupper⟩ := abs_le.mp herror
  rw [ClockReading.roundedMillis, hz]
  exact integerPart_eq z k (by linarith) (by linarith)

def instantOf (t : DateTime) : Int :=
  t.date.dayNumber * 86400000 + originMillis + (t.second * 1000 + t.millis : Nat)

def clockOfTime (t : DateTime) : ClockReading :=
  ⟨(t.second / 3600 : Nat), (t.second / 60 % 60 : Nat), secondsOf (t.second % 60) t.millis⟩

/-- A date-time as it is read, with the clock that the text gives. -/
def readOf (t : DateTime) (clock : Option ClockReading) : Moment :=
  { ofDate t.date with clock := clock }

/-- The text of a date alone gives no clock, and the others that of the date-time. -/
def IsClockOf (t : DateTime) (clock : Option ClockReading) : Prop :=
  (t = DateTime.midnight t.date ∧ clock = none) ∨ clock = some (clockOfTime t)

theorem instantOfDate?_date (d : Date) (hnonneg : 0 ≤ d.year) (hle : d.year ≤ 9999) :
    instantOfDate? d.year d.month d.day = some (d.dayNumber * 86400000 + originMillis) := by
  have hmonth := d.month_bounds
  have hday := d.day_bounds
  have hfirst : Date.ofParts? d.year d.month 1 = some ⟨d.year, d.month, 1, d.year_bounds,
      d.month_bounds, Nat.le_refl 1, hday.1.trans hday.2⟩ := by
    rw [Date.ofParts?, dif_pos ⟨d.year_bounds, d.month_bounds, Nat.le_refl 1, hday.1.trans hday.2⟩]
  rw [instantOfDate?, if_neg (by omega), Int.toNat_natCast, hfirst]
  simp only [Option.map_some, Option.some.injEq, Date.dayNumber]
  have : ((d.day - 1 : Nat) : Int) = (d.day : Int) - 1 := by omega
  rw [this]
  push_cast
  ring

theorem clockOfTime_millis (t : DateTime) (ht : t.IsPlain) :
    (clockOfTime t).millis = (t.second * 1000 + t.millis : Nat) := by
  have hsecond := t.second_lt
  have hmillis := ht.millis_lt
  have hrounded := roundedMillis_secondsOf (t.second % 60) t.millis (by omega) hmillis
  rw [ClockReading.millis, clockOfTime]
  dsimp only
  rw [hrounded]
  push_cast
  omega

theorem placed?_readOf (t : DateTime) (ht : t.IsPlain) (clock : Option ClockReading)
    (hclock : IsClockOf t clock) :
    (readOf t clock).placed? = some { readOf t clock with instant := some (instantOf t) } := by
  have hstart := instantOfDate?_date t.date ht.year_nonneg ht.year_le
  rcases hclock with ⟨hmidnight, rfl⟩ | rfl
  · have hplaced : (readOf t none).placed? =
        (instantOfDate? t.date.year t.date.month t.date.day).bind fun start =>
          some { readOf t none with instant := some start } := rfl
    have hinstant : instantOf t = t.date.dayNumber * 86400000 + originMillis := by
      rw [hmidnight]
      simp [instantOf, DateTime.midnight, DateTime.millis]
    rw [hplaced, hstart, hinstant]
    rfl
  · have hplaced : (readOf t (some (clockOfTime t))).placed? =
        (instantOfDate? t.date.year t.date.month t.date.day).bind fun start =>
          some { readOf t (some (clockOfTime t)) with
            instant := some (start + (clockOfTime t).millis - 0 * 60000) } := rfl
    have hinstant : instantOf t =
        t.date.dayNumber * 86400000 + originMillis + (clockOfTime t).millis - 0 * 60000 := by
      rw [clockOfTime_millis t ht, instantOf]
      ring
    rw [hplaced, hstart, hinstant]
    rfl

theorem dayNumber_bounds (d : Date) (hnonneg : 0 ≤ d.year) (hle : d.year ≤ 9999) :
    -719528 ≤ d.dayNumber ∧ d.dayNumber < 2932897 := by
  have hlt := d.dayOfYear_lt
  have hsucc := daysBeforeYear_succ d.year
  have heq := daysBeforeYear_eq d.year
  have hnext := daysBeforeYear_eq (d.year + 1)
  have hnumber : d.dayNumber =
      daysBeforeYear d.year + (daysBeforeMonth d.year d.month + (d.day - 1) : Nat) - 719162 := by
    rw [Date.dayNumber, epochDay]
    push_cast
    omega
  have hupper : daysBeforeYear (d.year + 1) ≤ 3652059 := by omega
  constructor
  · omega
  · split at hlt <;> split at hsucc <;> simp_all <;> omega

theorem isCovered_instantOf (t : DateTime) (ht : t.IsPlain) : isCovered (instantOf t) = true := by
  obtain ⟨hlower, hupper⟩ := dayNumber_bounds t.date ht.year_nonneg ht.year_le
  have hsecond := t.second_lt
  have hmillis := ht.millis_lt
  have hinstant : instantOf t =
      t.date.dayNumber * 86400000 + 210866760000000 + (t.second * 1000 + t.millis : Nat) := rfl
  rw [isCovered, Bool.and_eq_true, decide_eq_true_iff, decide_eq_true_iff, hinstant]
  push_cast
  omega

theorem dateOfInstant?_instantOf (t : DateTime) (ht : t.IsPlain) :
    dateOfInstant? (instantOf t) = some (t.date.year, (t.date.month : Int), (t.date.day : Int)) := by
  have hsecond := t.second_lt
  have hmillis := ht.millis_lt
  have hday : (instantOf t - originMillis).fdiv 86400000 = t.date.dayNumber := by
    rw [Int.fdiv_eq_ediv_of_nonneg _ (by decide), instantOf]
    push_cast
    omega
  rw [dateOfInstant?, if_pos (isCovered_instantOf t ht), hday, Date.ofDayNumber?_dayNumber]
  rfl

theorem clockOfInstant_midnight (d : Date) :
    clockOfInstant (instantOf (DateTime.midnight d)) = clockOfTime (DateTime.midnight d) := by
  have hrest : (instantOf (DateTime.midnight d) - originMillis).fmod 86400000 = 0 := by
    have hinstant : instantOf (DateTime.midnight d) - originMillis = d.dayNumber * 86400000 := by
      simp [instantOf, DateTime.midnight, DateTime.millis]
    rw [hinstant, Int.fmod_eq_emod_of_nonneg _ (by decide)]
    exact Int.mul_emod_left _ _
  have hzero : (Double.ofInt (0 % 60000)).div (.ofInt 1000) = .ofInt 0 := by decide +kernel
  have hsecond : (DateTime.midnight d).second = 0 := rfl
  have hmillis : (DateTime.midnight d).millis = 0 := Nat.zero_div 1000000
  have hclock : clockOfTime (DateTime.midnight d) = ⟨0, 0, secondsOf 0 0⟩ := by
    rw [clockOfTime, hsecond, hmillis]
    rfl
  have hseconds : secondsOf 0 0 = .ofInt 0 := if_pos rfl
  rw [clockOfInstant, hrest, hzero, hclock, hseconds]
  rfl

def partsOf (t : DateTime) : MomentParts :=
  ⟨instantOf t, t.date.year, t.date.month, t.date.day, clockOfTime t, false⟩

/-- The parts of a moment do not depend on whether its date was kept or is found again. -/
theorem ofMoment?_readOf (t : DateTime) (ht : t.IsPlain) (clock : Option ClockReading)
    (hclock : IsClockOf t clock) (date : Option (Int × Int × Int))
    (hdate : date = none ∨ date = some (t.date.year, (t.date.month : Int), (t.date.day : Int))) :
    MomentParts.ofMoment? { readOf t clock with instant := some (instantOf t), date := date } =
      some (partsOf t) := by
  -- A date that was dropped is found again from the instant.
  have hdated : ({ readOf t clock with instant := some (instantOf t), date := date } : Moment).dated? =
      some { readOf t clock with instant := some (instantOf t) } := by
    rcases hdate with rfl | rfl
    · unfold dated?
      dsimp only
      rw [dateOfInstant?_instantOf t ht]
      rfl
    · rfl
  unfold MomentParts.ofMoment? shown?
  rw [hdated]
  rcases hclock with ⟨hmidnight, rfl⟩ | rfl
  · have hshown : clockOfInstant (instantOf t) = clockOfTime t := by
      rw [hmidnight]
      exact clockOfInstant_midnight t.date
    change some (⟨instantOf t, t.date.year, t.date.month, t.date.day,
      clockOfInstant (instantOf t), false⟩ : MomentParts) = _
    rw [hshown]
    rfl
  · rfl

theorem ofDateChars?_writes {t : DateTime} {cs : List Char} (hw : t.Writes cs) (ht : t.IsPlain) :
    ∃ clock, IsClockOf t clock ∧ ofDateChars? cs = some (readOf t clock) := by
  cases hw with
  | date d =>
    exact ⟨none, .inl ⟨rfl, rfl⟩, ofDateChars?_dateChars d ht.year_nonneg ht.year_le⟩
  | clock =>
    have hread := ofDateChars?_clock t ht [] (.inl rfl)
    rw [List.append_nil] at hread
    exact ⟨_, .inr rfl, hread⟩
  | utc => exact ⟨_, .inr rfl, ofDateChars?_clock t ht ['Z'] (.inr rfl)⟩

theorem ofCell?_writes {t : DateTime} {cs : List Char} (hw : t.Writes cs) (ht : t.IsPlain) :
    ofCell? (.text (String.ofList cs)) = ofChars? cs := by
  have hvisible : ∀ c ∈ cs, (c.toNat != 0) = true := by
    intro c hc
    rw [bne_iff_ne]
    exact Date.toNat_ne_zero_of_isWritten c (List.all_eq_true.mp (hw.all_isWritten ht) c hc)
  change ofChars? ((String.ofList cs).toList.takeWhile fun c => c.toNat != 0) = ofChars? cs
  rw [String.toList_ofList, List.takeWhile_eq_self_iff.mpr hvisible]

theorem ofArguments?_writes {t : DateTime} {cs : List Char} (hw : t.Writes cs) (ht : t.IsPlain) :
    MomentParts.ofArguments? [.text (String.ofList cs)] = some (partsOf t) := by
  obtain ⟨clock, hclock, hread⟩ := ofDateChars?_writes hw ht
  have hcell : ofCell? (.text (String.ofList cs)) = some (readOf t clock) := by
    rw [ofCell?_writes hw ht, ofChars?, hread]
  have harguments : ofArguments? [.text (String.ofList cs)] =
      (ofCell? (.text (String.ofList cs))).bind fun m => m.placed?.bind fun m =>
        if isCovered (m.instant.getD (-1)) then
          if m.date.any (fun d => 28 < d.2.2) = true then some { m with date := none } else some m
        else none := by
    rw [ofArguments?]
    cases ofCell? (.text (String.ofList cs)) with
    | none => rfl
    | some m =>
      simp only [Option.bind_eq_bind, Option.bind_some, changeAll?, List.length_singleton, true_and]
  rw [MomentParts.ofArguments?, harguments, hcell, Option.bind_some,
    placed?_readOf t ht clock hclock, Option.bind_some]
  dsimp only [Option.getD_some]
  rw [if_pos (isCovered_instantOf t ht)]
  -- A day late in its month is forgotten and found again from the instant.
  split
  · exact ofMoment?_readOf t ht clock hclock none (.inl rfl)
  · exact ofMoment?_readOf t ht clock hclock _ (.inr rfl)

theorem padded_natCast (width n : Nat) : MomentParts.padded width n = Date.padded width n := by
  rw [MomentParts.padded, if_neg (by omega), Int.natAbs_natCast]

/-- Seconds are written in as many thousandths as they were read from. The greatest number of
seconds that is written cuts none of them off. -/
theorem inPlaces_secondsOf (s m : Nat) (hs : s < 60) (hm : m < 1000) :
    inPlaces 3 (if (Double.ofScientific false 59999 (-3)).less (secondsOf s m) then
      .ofScientific false 59999 (-3) else secondsOf s m) = s * 1000 + m := by
  obtain ⟨k, hk⟩ : ∃ k, s * 1000 + m = k := ⟨_, rfl⟩
  have hkle : (k : ℚ) ≤ 59999 := by
    have : k ≤ 59999 := by omega
    exact_mod_cast this
  have hmost : ofScientific false 59999 (-3) = roundQuotient false 59999 1000 := by decide +kernel
  have hmostNear := roundQuotient_near false 59999 1000 (by decide) 64
    (by exact_mod_cast isBound_of 64 (by decide) (by decide)) (by norm_num)
  obtain ⟨y, hy, hyerror⟩ := hmostNear
  simp only [signedValue, Bool.false_eq_true, ↓reduceIte] at hyerror
  push_cast at hyerror
  obtain ⟨hylower, hyupper⟩ := abs_le.mp hyerror
  rcases Nat.eq_zero_or_pos k with hzero | hpos
  · obtain rfl : s = 0 := by omega
    obtain rfl : m = 0 := by omega
    have hseconds : secondsOf 0 0 = .ofInt 0 := if_pos rfl
    rw [hseconds]
    decide +kernel
  obtain ⟨x, hx, herror⟩ := secondsOf_near s m hs hm
  rw [hk] at herror ⊢
  obtain ⟨hlower, hupper⟩ := abs_le.mp herror
  rw [hmost, hy, hx]
  split
  · next hless =>
    rw [less_iff] at hless
    -- Only the greatest number of thousandths can be beyond its own nearest number.
    have hgreatest : k = 59999 := by
      have hgt : (59998 : ℚ) < k := by linarith
      have hgt' : 59998 < k := by exact_mod_cast hgt
      omega
    rw [hgreatest]
    apply inPlaces_three y 59999 (by decide) (by decide)
    push_cast
    exact abs_le.mpr ⟨by linarith, by linarith⟩
  · apply inPlaces_three x k hpos (by omega)
    exact abs_le.mpr ⟨by linarith, by linarith⟩

theorem fineSeconds_partsOf (t : DateTime) (ht : t.IsPlain) :
    (partsOf t).fineSeconds = Date.padded 2 (t.second % 60) ++ '.' :: Date.padded 3 t.millis := by
  have hsecond := t.second_lt
  have hmillis := ht.millis_lt
  have hplaces := inPlaces_secondsOf (t.second % 60) t.millis (by omega) hmillis
  have hwhole : (t.second % 60 * 1000 + t.millis) / 1000 = t.second % 60 := by omega
  have hrest : (t.second % 60 * 1000 + t.millis) % 1000 = t.millis := by omega
  have hseconds : (partsOf t).clock.seconds = secondsOf (t.second % 60) t.millis := rfl
  rw [MomentParts.fineSeconds, hseconds, hplaces, hwhole, hrest, padded_natCast, padded_natCast]

/-- The parts of a date-time in the format of comparisons are its text in milliseconds. -/
theorem format?_partsOf (t : DateTime) (ht : t.IsPlain) :
    (partsOf t).format? momentFormat.toList = some t.millisChars := by
  have hyear : MomentParts.padded 4 t.date.year = Date.padded 4 t.date.year.toNat := by
    rw [← padded_natCast, Int.toNat_of_nonneg ht.year_nonneg]
  have hformat : (partsOf t).format? momentFormat.toList =
      some (MomentParts.padded 4 t.date.year ++ ('-' :: (MomentParts.padded 2 t.date.month ++
        ('-' :: (MomentParts.padded 2 t.date.day ++ ('T' :: (MomentParts.padded 2
          (t.second / 3600 : Nat) ++ (':' :: (MomentParts.padded 2 (t.second / 60 % 60 : Nat) ++
            (':' :: ((partsOf t).fineSeconds ++ []))))))))))) := rfl
  rw [hformat, hyear, fineSeconds_partsOf t ht, ht.millisChars_eq,
    t.date.chars_eq ht.year_nonneg ht.year_le]
  simp only [padded_natCast, DateTime.clockOf, List.append_assoc, List.cons_append, List.append_nil]

theorem formatted_writes {t : DateTime} {cs : List Char} (hw : t.Writes cs) (ht : t.IsPlain) :
    formatted (.text momentFormat) [.text (String.ofList cs)] = .text t.millisText := by
  have hformat : (Cell.text momentFormat).chars.takeWhile (fun c => c.toNat != 0) =
      momentFormat.toList := by decide
  rw [formatted, hformat, ofArguments?_writes hw ht, Option.bind_some, format?_partsOf t ht]
  rfl

end Moment

end Sql

end CriteriaSearch
