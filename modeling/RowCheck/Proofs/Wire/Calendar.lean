import RowCheck.Wire.Calendar
import Mathlib.Tactic.IntervalCases

/-!
# The calendar day by day

Which days there are, and which day follows which: months have their lengths, and every fourth year
has a leap day, except for three years in four centuries. Main statement: the day with a number is
found by going from one day to the next, so the days that are computed by dividing are those of the
Gregorian calendar, in both directions and without end.
-/

namespace RowCheck.Wire

/-! ## Days -/

/-- A year with a leap day. -/
def IsLeapYear (year : Int) : Prop := year % 4 = 0 ∧ (year % 100 ≠ 0 ∨ year % 400 = 0)

instance : DecidablePred IsLeapYear := fun _ => inferInstanceAs (Decidable (_ ∧ _))

/-- How many days a month of a year has. -/
def monthLength (year : Int) : Nat → Nat
  | 2 => if IsLeapYear year then 29 else 28
  | 4 | 6 | 9 | 11 => 30
  | _ => 31

theorem monthLength_bounds (year : Int) (month : Nat) :
    28 ≤ monthLength year month ∧ monthLength year month ≤ 31 := by
  unfold monthLength
  split
  · split <;> decide
  all_goals decide

namespace Date

/-- A day that there is. -/
structure IsValid (d : Date) : Prop where
  month_pos : 1 ≤ d.month
  month_le : d.month ≤ 12
  day_pos : 1 ≤ d.day
  day_le : d.day ≤ monthLength d.year d.month

/-- The day after a day. -/
def next (d : Date) : Date :=
  if d.day < monthLength d.year d.month then { d with day := d.day + 1 }
  else if d.month < 12 then ⟨d.year, d.month + 1, 1⟩
  else ⟨d.year + 1, 1, 1⟩

variable {d : Date}

theorem IsValid.day_le_31 (h : d.IsValid) : d.day ≤ 31 :=
  Nat.le_trans h.day_le (monthLength_bounds d.year d.month).2

theorem isValid_first {year : Int} {month : Nat} (pos : 1 ≤ month) (le : month ≤ 12) :
    IsValid ⟨year, month, 1⟩ where
  month_pos := pos
  month_le := le
  day_pos := Nat.le_refl 1
  day_le := Nat.le_trans (by decide : 1 ≤ 28) (monthLength_bounds year month).1

theorem IsValid.next (h : d.IsValid) : d.next.IsValid := by
  unfold Date.next
  split
  · next more => exact ⟨h.month_pos, h.month_le, Nat.succ_pos _, more⟩
  · split
    · next more => exact isValid_first (Nat.succ_pos _) more
    · exact isValid_first (by decide) (by decide)

/-! ## Years that begin in March -/

/-- The year of a day, if years begin in March. -/
def marchYear (d : Date) : Int := if d.month ≤ 2 then d.year - 1 else d.year

/-- The months since March. -/
def marchMonth (d : Date) : Nat := if 2 < d.month then d.month - 3 else d.month + 9

/-- The days since the first of March. -/
def marchDay (d : Date) : Nat := (153 * d.marchMonth + 2) / 5 + d.day - 1

/-- The days in front of a year of a cycle. -/
def daysBefore (yearOfCycle : Nat) : Nat := yearOfCycle * 365 + yearOfCycle / 4 - yearOfCycle / 100

theorem dayNumber_eq_cycle (d : Date) :
    d.dayNumber = d.marchYear / 400 * 146097
      + (daysBefore (d.marchYear % 400).toNat + d.marchDay : Nat) - 730425 :=
  rfl

/-- Days are counted through all years, each fourth of which has one day more. -/
theorem dayNumber_eq (d : Date) :
    d.dayNumber = 365 * d.marchYear + d.marchYear / 4 - d.marchYear / 100 + d.marchYear / 400
      + d.marchDay - 730425 := by
  rw [dayNumber_eq_cycle]
  generalize d.marchYear = year
  have cycle : year = 400 * (year / 400) + (year % 400).toNat := by omega
  have bound : (year % 400).toNat < 400 := by omega
  generalize (year % 400).toNat = y at *
  generalize year / 400 = c at *
  subst cycle
  unfold daysBefore
  omega

/-- The days of the months since March, but for the last one, do not depend on the year. -/
theorem dayNumber_next_month {year : Int} {month : Nat} (pos : 1 ≤ month) (le : month ≤ 12)
    (other : month ≠ 2) :
    dayNumber (if month < 12 then ⟨year, month + 1, 1⟩ else ⟨year + 1, 1, 1⟩)
      = dayNumber ⟨year, month, monthLength year month⟩ + 1 := by
  rw [dayNumber_eq, dayNumber_eq]
  interval_cases month
  case «2» => exact absurd rfl other
  all_goals
    simp only [marchYear, marchMonth, marchDay, monthLength]
    simp
    omega

/-- A leap day is the last day of a year that begins in March. -/
theorem dayNumber_next_february (year : Int) :
    dayNumber ⟨year, 3, 1⟩ = dayNumber ⟨year, 2, monthLength year 2⟩ + 1 := by
  rw [dayNumber_eq, dayNumber_eq]
  simp only [marchYear, marchMonth, marchDay]
  by_cases leap : IsLeapYear year
  · have length : monthLength year 2 = 29 := if_pos leap
    unfold IsLeapYear at leap
    simp [length]
    omega
  · have length : monthLength year 2 = 28 := if_neg leap
    unfold IsLeapYear at leap
    simp [length]
    omega

/-- The numbers of the days go up by one from each day to the next. -/
theorem dayNumber_next (h : d.IsValid) : d.next.dayNumber = d.dayNumber + 1 := by
  unfold Date.next
  split
  · have pos := h.day_pos
    rw [dayNumber_eq, dayNumber_eq]
    simp only [marchYear, marchMonth, marchDay]
    omega
  · next last =>
    obtain ⟨year, month, day⟩ := d
    obtain ⟨pos, le, -, within⟩ := h
    obtain rfl : day = monthLength year month := Nat.le_antisymm within (Nat.not_lt.mp last)
    by_cases february : month = 2
    · subst february
      exact dayNumber_next_february year
    · exact dayNumber_next_month pos le february

/-! ## Days found by dividing -/

/-- A year of a cycle has a day with a number; its first day has the number zero. -/
structure HasDay (yearOfCycle dayOfYear : Nat) : Prop where
  year_lt : yearOfCycle < 400
  day_le : dayOfYear ≤ 365
  leap : dayOfYear = 365 → IsLeapYear (yearOfCycle + 1)

theorem IsValid.leap_of_february {year : Int} {day : Nat} (h : IsValid ⟨year, 2, day⟩) :
    day ≤ 29 ∧ (day = 29 → IsLeapYear year) := by
  have within : day ≤ monthLength year 2 := h.day_le
  by_cases leap : IsLeapYear year
  · have length : monthLength year 2 = 29 := if_pos leap
    exact ⟨length ▸ within, fun _ => leap⟩
  · have length : monthLength year 2 = 28 := if_neg leap
    omega

theorem IsValid.hasDay (h : d.IsValid) : HasDay (d.marchYear % 400).toNat d.marchDay := by
  have bound := h.day_le_31
  obtain ⟨year, month, day⟩ := d
  obtain ⟨pos, le, -, -⟩ := id h
  simp only [marchYear, marchMonth, marchDay] at *
  have cycle : ((if month ≤ 2 then year - 1 else year) % 400).toNat < 400 := by omega
  by_cases february : month = 2
  · subst february
    obtain ⟨within, leap⟩ := h.leap_of_february
    unfold IsLeapYear at leap
    constructor
    · exact cycle
    · simp
      omega
    · unfold IsLeapYear
      simp
      omega
  · have short : (153 * (if 2 < month then month - 3 else month + 9) + 2) / 5 + day - 1 < 365 := by
      split <;> omega
    exact ⟨cycle, Nat.le_of_lt short, fun last => absurd last (Nat.ne_of_lt short)⟩

/-- A day of a cycle tells its year. -/
theorem yearOfCycle_eq {y doy n : Nat} (h : HasDay y doy) (number : n = daysBefore y + doy) :
    (n - n / 1460 + n / 36524 - n / 146096) / 365 = y := by
  obtain ⟨yearLt, dayLe, leap⟩ := h
  unfold daysBefore at number
  unfold IsLeapYear at leap
  -- Centuries, four years of each, and single years of these.
  obtain ⟨c, q, r, rfl, hc, hq, hr⟩ : ∃ c q r, y = 100 * c + 4 * q + r ∧ c < 4 ∧ q < 25 ∧ r < 4 :=
    ⟨y / 100, y % 100 / 4, y % 4, by omega⟩
  have fours : (100 * c + 4 * q + r) / 4 = 25 * c + q := by omega
  have hundreds : (100 * c + 4 * q + r) / 100 = c := by omega
  have leap : doy = 365 → r = 3 ∧ (q = 24 → c = 3) := by omega
  rw [fours, hundreds] at number
  clear fours hundreds yearLt
  have number : n = 36524 * c + 1461 * q + 365 * r + doy := by omega
  have centuries : n / 36524 = c + n / 146096 := by
    by_cases last : n = 146096
    · omega
    · have : n < 36524 * (c + 1) := by omega
      omega
  have leapDays : n / 1460 = 25 * c + q + if 1460 ≤ 24 * c + q + 365 * r + doy then 1 else 0 := by
    split <;> omega
  split at leapDays <;> omega

/-- A day of a year tells its month, of which it tells the day. -/
theorem marchMonth_eq {month day : Nat} (le : month ≤ 11) (pos : 1 ≤ day)
    (within : (153 * month + 2) / 5 + day ≤ (153 * (month + 1) + 2) / 5) :
    (5 * ((153 * month + 2) / 5 + day - 1) + 2) / 153 = month := by
  interval_cases month <;> omega

theorem IsValid.marchDay_le (h : d.IsValid) :
    (153 * d.marchMonth + 2) / 5 + d.day ≤ (153 * (d.marchMonth + 1) + 2) / 5 := by
  have within := h.day_le
  obtain ⟨year, month, day⟩ := d
  obtain ⟨pos, le, -, -⟩ := id h
  simp only [marchMonth] at *
  by_cases february : month = 2
  · subst february
    have := h.leap_of_february
    simp
    omega
  · interval_cases month <;> simp_all [monthLength] <;> omega

theorem HasDay.lt_cycle {y doy : Nat} (h : HasDay y doy) : daysBefore y + doy < 146097 := by
  obtain ⟨yearLt, dayLe, -⟩ := h
  unfold daysBefore
  omega

/-- The twelve months in the order from March on. -/
theorem IsValid.marchMonth_cases (h : d.IsValid) :
    2 < d.month ∧ d.month = d.marchMonth + 3 ∧ d.marchMonth < 10 ∨
      d.month ≤ 2 ∧ d.month + 9 = d.marchMonth ∧ 10 ≤ d.marchMonth ∧ d.marchMonth ≤ 11 := by
  have pos := h.month_pos
  have le := h.month_le
  unfold marchMonth
  split <;> omega

theorem cycle_eq {c n : Int} {dayOfCycle : Nat} (lt : dayOfCycle < 146097)
    (number : n = c * 146097 + dayOfCycle - 730425) :
    (n + 730425) / 146097 = c ∧ ((n + 730425) % 146097).toNat = dayOfCycle := by
  omega

/-- A day is found from its number. -/
theorem ofDayNumber_dayNumber (h : d.IsValid) : ofDayNumber d.dayNumber = d := by
  have hasDay := h.hasDay
  obtain ⟨cycle, dayOfCycle⟩ := cycle_eq hasDay.lt_cycle (dayNumber_eq_cycle d)
  have year := yearOfCycle_eq hasDay dayOfCycle
  have dayOfYear : ((d.dayNumber + 730425) % 146097).toNat - (365 * (d.marchYear % 400).toNat
      + (d.marchYear % 400).toNat / 4 - (d.marchYear % 400).toNat / 100) = d.marchDay := by
    rw [dayOfCycle, daysBefore, Nat.mul_comm 365, Nat.add_sub_cancel_left]
  have marchYear : d.marchYear / 400 * 400 + ((d.marchYear % 400).toNat : Int) = d.marchYear := by
    omega
  have months := h.marchMonth_cases
  have month : (5 * d.marchDay + 2) / 153 = d.marchMonth :=
    marchMonth_eq (by omega) h.day_pos h.marchDay_le
  have january : (if d.marchMonth < 10 then d.marchMonth + 3 else d.marchMonth - 9) = d.month := by
    split <;> omega
  have dayOfMonth : d.marchDay - (153 * d.marchMonth + 2) / 5 + 1 = d.day := by
    have pos := h.day_pos
    unfold marchDay
    omega
  unfold ofDayNumber
  simp only [cycle, year, dayOfYear, month, dayOfMonth, january, marchYear]
  unfold Date.marchYear
  split <;> simp

/-- Every number is that of a day. The days of a whole number of cycles from the first of January
2000 are known, and the others follow them. -/
theorem exists_dayNumber_eq (n : Int) : ∃ d : Date, d.IsValid ∧ d.dayNumber = n := by
  have follow (k : Nat) : ∃ d : Date, d.IsValid ∧ d.dayNumber = n / 146097 * 146097 + k := by
    induction k with
    | zero =>
      refine ⟨⟨2000 + 400 * (n / 146097), 1, 1⟩, isValid_first (by decide) (by decide), ?_⟩
      rw [dayNumber_eq]
      simp [marchYear, marchMonth, marchDay]
      omega
    | succ k ih =>
      obtain ⟨d, valid, number⟩ := ih
      exact ⟨d.next, valid.next, by rw [dayNumber_next valid, number]; omega⟩
  obtain ⟨d, valid, number⟩ := follow (n % 146097).toNat
  exact ⟨d, valid, by omega⟩

theorem isValid_ofDayNumber (n : Int) : (ofDayNumber n).IsValid := by
  obtain ⟨d, valid, rfl⟩ := exists_dayNumber_eq n
  rwa [ofDayNumber_dayNumber valid]

/-- The number of a day that was found by dividing is the number it was found from. -/
@[simp]
theorem dayNumber_ofDayNumber (n : Int) : (ofDayNumber n).dayNumber = n := by
  obtain ⟨d, valid, rfl⟩ := exists_dayNumber_eq n
  rw [ofDayNumber_dayNumber valid]

/-- Number zero is the first of January 2000. -/
theorem ofDayNumber_zero : ofDayNumber 0 = ⟨2000, 1, 1⟩ := rfl

/-- The day with the number after that of a day is the day after it. -/
theorem ofDayNumber_add_one (n : Int) : ofDayNumber (n + 1) = (ofDayNumber n).next := by
  have valid := isValid_ofDayNumber n
  rw [← ofDayNumber_dayNumber valid.next, dayNumber_next valid, dayNumber_ofDayNumber]

end Date

end RowCheck.Wire
