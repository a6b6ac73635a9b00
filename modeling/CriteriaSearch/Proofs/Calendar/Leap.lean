import CriteriaSearch.Calendar.Zoned
import CriteriaSearch.Proofs.Calendar.Order
import CriteriaSearch.Value.Reader

/-!
# Leap seconds that are read

A fraction that is read is less than one second. Only the second sixty of a minute gives a date-time
more than that, so that every leap second is the last of its minute.
-/

namespace CriteriaSearch

namespace LayoutItem

theorem nanos?_lt (cs rest : List Char) (n : Nat) (h : nanos? cs = some (n, rest)) :
    n < 1000000000 := by
  unfold nanos? at h
  dsimp only at h
  split at h
  · cases h
  · obtain ⟨rfl, -⟩ := Prod.mk.inj (Option.some.inj h)
    obtain ⟨kept, hkept⟩ : ∃ kept, (cs.takeWhile isDigit).take 9 = kept := ⟨_, rfl⟩
    have hlength : kept.length ≤ 9 := by
      rw [← hkept, List.length_take]
      omega
    have hdigits : kept.all isDigit = true := by
      rw [List.all_eq_true]
      intro c hc
      rw [← hkept] at hc
      exact List.all_eq_true.mp (List.all_takeWhile) c (List.mem_of_mem_take hc)
    have hlt := digitsValue_lt 0 kept hdigits
    rw [Nat.zero_add, Nat.one_mul] at hlt
    -- As many zeros as digits are missing to nine bring every fraction to nanoseconds.
    have hscale : 10 ^ kept.length * tenTo (9 - kept.length) = 1000000000 := by
      change 10 ^ kept.length * 10 ^ (9 - kept.length) = 10 ^ 9
      rw [← Nat.pow_add, Nat.add_sub_cancel' hlength]
    rw [hkept, ← hscale]
    exact Nat.mul_lt_mul_of_pos_right hlt (Nat.pow_pos (by decide))

end LayoutItem

namespace DateParts

/-- The fraction that has been read, if there is one, is less than a second. -/
def IsFraction (p : DateParts) : Prop := p.nano.getD 0 < 1000000000

theorem isFraction_read (item : LayoutItem) (p q : DateParts) (cs rest : List Char)
    (h : item.read? p cs = some (q, rest)) (hp : p.IsFraction) : q.IsFraction := by
  cases item with
  | fraction =>
    unfold LayoutItem.read? at h
    dsimp only at h
    split at h
    · next digits =>
      obtain ⟨⟨n, rest'⟩, hread, hq⟩ := Option.map_eq_some_iff.mp h
      obtain ⟨rfl, -⟩ := Prod.mk.inj hq
      exact LayoutItem.nanos?_lt digits rest' n hread
    · obtain ⟨rfl, -⟩ := Prod.mk.inj (Option.some.inj h)
      exact hp
  | blank =>
    obtain ⟨rfl, -⟩ := Prod.mk.inj (Option.some.inj h)
    exact hp
  | literal c =>
    unfold LayoutItem.read? at h
    dsimp only at h
    split at h
    · split at h
      · obtain ⟨rfl, -⟩ := Prod.mk.inj (Option.some.inj h)
        exact hp
      · cases h
    · cases h
  | year | month | day | hour | minute | second =>
    -- The fraction is not changed by the other numbers.
    obtain ⟨n, -, hq⟩ := Option.map_eq_some_iff.mp h
    obtain ⟨rfl, -⟩ := Prod.mk.inj hq
    exact hp

theorem isFraction_parts (layout : Layout) (p q : DateParts) (cs : List Char)
    (h : layout.parts? p cs = some q) (hp : p.IsFraction) : q.IsFraction := by
  induction layout generalizing p cs with
  | nil =>
    cases cs with
    | nil =>
      cases h
      exact hp
    | cons c cs => cases h
  | cons item layout ih =>
    rw [Layout.parts?] at h
    obtain ⟨⟨r, rest⟩, hread, hrest⟩ := Option.bind_eq_some_iff.mp h
    exact ih r rest hrest (isFraction_read item p r cs rest hread hp)

/-- The date-time of numbers that were read is a leap second only in the last second of a minute. -/
theorem dateTime?_leap (p : DateParts) (t : DateTime) (h : p.dateTime? = some t)
    (hp : p.IsFraction) : 1000000000 ≤ t.nano → t.second % 60 = 59 := by
  obtain ⟨date, -, h⟩ := Option.bind_eq_some_iff.mp h
  obtain ⟨hour, -, h⟩ := Option.bind_eq_some_iff.mp h
  obtain ⟨minute, -, h⟩ := Option.bind_eq_some_iff.mp h
  have hparts (second nano : Nat) (hread : DateTime.ofParts? date second nano = some t) :
      t.second = second ∧ t.nano = nano := by
    rw [DateTime.ofParts?] at hread
    split at hread
    · cases hread
      exact ⟨rfl, rfl⟩
    · cases hread
  unfold IsFraction at hp
  dsimp only at h
  split at h
  · obtain ⟨hsecond, -⟩ := hparts _ _ h
    intro
    rw [hsecond]
    omega
  · -- No second sixty was read, so that the fraction is that of the text.
    obtain ⟨-, hnano⟩ := hparts _ _ h
    intro hlarge
    omega

end DateParts

namespace DateTime

theorem layout_leap (layout : Layout) (cs : List Char) (t : DateTime)
    (h : layout.dateTime? cs = some t) : 1000000000 ≤ t.nano → t.second % 60 = 59 := by
  obtain ⟨p, hp, ht⟩ := Option.bind_eq_some_iff.mp h
  exact p.dateTime?_leap t ht (DateParts.isFraction_parts layout .empty p cs hp
    (by decide : 0 < 1000000000))

/-- A date-time that is read as the value of a filter is a leap second only in the last second of a
minute. -/
theorem ofText?_leap (s : String) (t : DateTime) (h : ofText? s = some t) :
    1000000000 ≤ t.nano → t.second % 60 = 59 := by
  rcases Option.or_eq_some_iff.mp h with h | ⟨-, h⟩
  · obtain ⟨layout, -, h⟩ := List.exists_of_findSome?_eq_some h
    exact layout_leap layout _ t h
  · obtain ⟨d, -, rfl⟩ := Option.map_eq_some_iff.mp h
    intro hlarge
    exact absurd hlarge (by decide : ¬1000000000 ≤ 0)

end DateTime

namespace Zoned

theorem offset?_minutes (cs : List Char) (offset : Int) (h : offset? cs = some offset) :
    offset % 60 = 0 := by
  unfold offset? at h
  split at h
  · cases h
    rfl
  · cases h
    rfl
  · next sign rest _ _ =>
    dsimp only at h
    split at h
    on_goal 2 => split at h
    on_goal 3 => cases h
    -- Whatever the sign, what follows it is in hours and minutes.
    all_goals
      obtain ⟨negative, -, h⟩ := Option.bind_eq_some_iff.mp h
      obtain ⟨⟨hours, rest⟩, -, h⟩ := Option.bind_eq_some_iff.mp h
      obtain ⟨rest, -, h⟩ := Option.bind_eq_some_iff.mp h
      obtain ⟨⟨minutes, rest⟩, -, h⟩ := Option.bind_eq_some_iff.mp h
      split at h
      · cases h
        split <;> omega
      · cases h
  · cases h

theorem local?_leap (cs rest : List Char) (t : DateTime) (h : local? cs = some (t, rest)) :
    1000000000 ≤ t.nano → t.second % 60 = 59 := by
  unfold local? at h
  obtain ⟨⟨year, _⟩, -, h⟩ := Option.bind_eq_some_iff.mp h
  obtain ⟨_, -, h⟩ := Option.bind_eq_some_iff.mp h
  obtain ⟨⟨month, _⟩, -, h⟩ := Option.bind_eq_some_iff.mp h
  obtain ⟨_, -, h⟩ := Option.bind_eq_some_iff.mp h
  obtain ⟨⟨day, _⟩, -, h⟩ := Option.bind_eq_some_iff.mp h
  obtain ⟨_, -, h⟩ := Option.bind_eq_some_iff.mp h
  obtain ⟨⟨hour, _⟩, -, h⟩ := Option.bind_eq_some_iff.mp h
  obtain ⟨_, -, h⟩ := Option.bind_eq_some_iff.mp h
  obtain ⟨⟨minute, _⟩, -, h⟩ := Option.bind_eq_some_iff.mp h
  obtain ⟨_, -, h⟩ := Option.bind_eq_some_iff.mp h
  obtain ⟨⟨second, afterSecond⟩, -, h⟩ := Option.bind_eq_some_iff.mp h
  have hparts (nano : Nat) (hnano : nano < 1000000000) (rest' : List Char)
      (h : (DateParts.dateTime? ⟨some year, some month, some day, some hour, some minute,
        some second, some nano⟩).bind (fun t => some (t, rest')) = some (t, rest)) :
      1000000000 ≤ t.nano → t.second % 60 = 59 := by
    obtain ⟨u, hu, h⟩ := Option.bind_eq_some_iff.mp h
    obtain ⟨rfl, -⟩ := Prod.mk.inj (Option.some.inj h)
    exact DateParts.dateTime?_leap _ u hu hnano
  dsimp only at h
  -- The fraction is read as one, or there is none.
  split at h
  · obtain ⟨⟨nano, after⟩, hnano, h⟩ := Option.bind_eq_some_iff.mp h
    exact hparts nano (LayoutItem.nanos?_lt _ after nano hnano) after h
  · exact hparts 0 (by decide) afterSecond h

end Zoned

namespace DateTime

theorem addSeconds?_leap (t u : DateTime) (seconds : Int) (hseconds : seconds % 60 = 0)
    (h : t.addSeconds? seconds = some u) (ht : 1000000000 ≤ t.nano → t.second % 60 = 59) :
    1000000000 ≤ u.nano → u.second % 60 = 59 := by
  unfold addSeconds? at h
  obtain ⟨date, -, h⟩ := Option.bind_eq_some_iff.mp h
  rw [ofParts?] at h
  split at h
  · cases h
    intro hlarge
    have hsecond := ht hlarge
    have hday : secondsPerDay = 86400 := rfl
    have hmod (n : Int) : n.fmod (86400 : Nat) = n % 86400 :=
      Int.fmod_eq_emod_of_nonneg n (by decide)
    change ((t.date.dayNumber * secondsPerDay + t.second + seconds).fmod
      secondsPerDay).toNat % 60 = 59
    rw [hday, hmod]
    omega
  · cases h

theorem ofZoned?_leap (cs : List Char) (t : DateTime) (h : ofZoned? cs = some t) :
    1000000000 ≤ t.nano → t.second % 60 = 59 := by
  obtain ⟨⟨u, rest⟩, hlocal, h⟩ := Option.bind_eq_some_iff.mp h
  obtain ⟨offset, hoffset, h⟩ := Option.bind_eq_some_iff.mp h
  have hminutes := Zoned.offset?_minutes rest offset hoffset
  exact addSeconds?_leap u t (-offset) (by omega) h (Zoned.local?_leap cs rest u hlocal)

end DateTime

end CriteriaSearch
