import AdMonitor.Instant.Calendar
import Mathlib.Tactic.IntervalCases

/-!
# Days and dates

A date taken from a number of days exists in the calendar, and leads back to
that number.  The year of an era is computed by a formula that spreads the
leap days evenly; it is compared with the plain count of centuries, of groups
of four years and of years.
-/

namespace AdMonitor.Date

variable {day century four year dayOfYear yearFromMarch : Int}

/--
A day of an era of 400 years: its century, the group of four years of the
century, the year of the group and the day of the year, all counted from
March.  Only a leap year has a day 365.
-/
structure InEra (day century four year dayOfYear : Int) : Prop where
  century_bounds : 0 ≤ century ∧ century ≤ 3
  four_bounds : 0 ≤ four ∧ four ≤ 24
  year_bounds : 0 ≤ year ∧ year ≤ 3
  day_bounds : 0 ≤ dayOfYear ∧ dayOfYear ≤ 365
  leap : dayOfYear = 365 → year = 3 ∧ (four < 24 ∨ century = 3)
  day_eq : day = 36524 * century + 1461 * four + 365 * year + dayOfYear

theorem exists_inEra (isDay : 0 ≤ day ∧ day < 146097) :
    ∃ century four year dayOfYear, InEra day century four year dayOfYear := by
  obtain ⟨century, isCentury⟩ : ∃ c, c = min (day / 36524) 3 := ⟨_, rfl⟩
  obtain ⟨four, isFour⟩ : ∃ q, q = (day - 36524 * century) / 1461 := ⟨_, rfl⟩
  obtain ⟨year, isYear⟩ : ∃ y, y = min ((day - 36524 * century - 1461 * four) / 365) 3 :=
    ⟨_, rfl⟩
  refine ⟨century, four, year, day - 36524 * century - 1461 * four - 365 * year,
    ⟨?_, ?_, ?_, ?_, ?_, ?_⟩⟩ <;> omega

namespace InEra

/-- The year of the era. -/
theorem year_eq (h : InEra day century four year dayOfYear) :
    (day - day / 1460 + day / 36524 - day / 146096) / 365 =
      100 * century + 4 * four + year := by
  obtain ⟨_, _, _, _, _, _⟩ := h
  -- The three quotients count leap days; each is off by one at the end of its cycle only.
  have fours : day / 1460 = 25 * century + four ∨
      day / 1460 = 25 * century + four + 1 ∧ year = 3 ∧ 0 < dayOfYear := by omega
  have centuries : (day / 36524 = century ∧ day / 146096 = 0) ∨
      (day / 36524 = century + 1 ∧ day / 146096 = 1) := by omega
  have last : dayOfYear = 365 → day / 1460 = 25 * century + four + 1 := by omega
  omega

theorem leapDays (h : InEra day century four year dayOfYear) :
    (100 * century + 4 * four + year) / 4 = 25 * century + four ∧
      (100 * century + 4 * four + year) / 100 = century := by
  obtain ⟨_, _, _, _, _, _⟩ := h
  omega

theorem dayOfYear_eq (h : InEra day century four year dayOfYear) :
    day - (365 * (100 * century + 4 * four + year) + (100 * century + 4 * four + year) / 4 -
      (100 * century + 4 * four + year) / 100) = dayOfYear := by
  have isDay := h.day_eq
  rw [h.leapDays.1, h.leapDays.2]
  omega

end InEra

/-- The date of a day of a year, both counted from March. -/
def ofMarch (yearFromMarch dayOfYear : Int) : Date :=
  let monthFromMarch := (5 * dayOfYear + 2) / 153
  let month := if monthFromMarch < 10 then monthFromMarch + 3 else monthFromMarch - 9
  { year := if month ≤ 2 then yearFromMarch + 1 else yearFromMarch
    month := month.toNat
    dayOfMonth := (dayOfYear - (153 * monthFromMarch + 2) / 5 + 1).toNat }

theorem ofDays_eq_ofMarch {days : Int}
    (h : InEra ((days + 719468) % 146097) century four year dayOfYear) :
    ofDays days = ofMarch (100 * century + 4 * four + year + (days + 719468) / 146097 * 400)
      dayOfYear := by
  simp only [ofDays, h.year_eq, h.dayOfYear_eq, ofMarch]

theorem toDays_ofMarch (isDay : 0 ≤ dayOfYear ∧ dayOfYear ≤ 365) :
    toDays (ofMarch yearFromMarch dayOfYear) =
      yearFromMarch / 400 * 146097 + (yearFromMarch % 400 * 365 + yearFromMarch % 400 / 4 -
        yearFromMarch % 400 / 100 + dayOfYear) - 719468 := by
  obtain ⟨month, isMonth⟩ : ∃ m, m = (5 * dayOfYear + 2) / 153 := ⟨_, rfl⟩
  have months : 0 ≤ month ∧ month ≤ 11 := by omega
  have dayOfMonth : ((dayOfYear - (153 * month + 2) / 5 + 1).toNat : Int) =
      dayOfYear - (153 * month + 2) / 5 + 1 := Int.toNat_of_nonneg (by omega)
  simp only [toDays, ofMarch, ← isMonth, dayOfMonth]
  by_cases inYear : month < 10
  · have after : ¬ month + 3 ≤ 2 := by omega
    have after' : ¬ (month + 3).toNat ≤ 2 := by omega
    have fromMarch : (((month + 3).toNat + 9) % 12 : Nat) = month := by omega
    rw [if_pos inYear, if_neg after, if_neg after', fromMarch]
    omega
  · have before : month - 9 ≤ 2 := by omega
    have before' : (month - 9).toNat ≤ 2 := by omega
    have fromMarch : (((month - 9).toNat + 9) % 12 : Nat) = month := by omega
    rw [if_neg inYear, if_pos before, if_pos before', fromMarch, Int.add_sub_cancel]
    omega

/-- A number of days is found again from its date. -/
@[simp] theorem toDays_ofDays (days : Int) : toDays (ofDays days) = days := by
  obtain ⟨century, four, year, dayOfYear, h⟩ := @exists_inEra
    ((days + 719468) % 146097) (by omega)
  rw [ofDays_eq_ofMarch h, toDays_ofMarch h.day_bounds]
  generalize isEra : (days + 719468) / 146097 = era
  have leapDays := h.leapDays
  obtain ⟨_, _, _, _, _, isDay⟩ := h
  have era_eq : (100 * century + 4 * four + year + era * 400) / 400 = era := by omega
  have year_eq : (100 * century + 4 * four + year + era * 400) % 400 =
      100 * century + 4 * four + year := by omega
  rw [era_eq, year_eq, leapDays.1, leapDays.2]
  omega

theorem isValid_ofMarch (isDay : 0 ≤ dayOfYear ∧ dayOfYear ≤ 365)
    (leap : dayOfYear = 365 → isLeapYear (yearFromMarch + 1) = true) :
    (ofMarch yearFromMarch dayOfYear).isValid = true := by
  obtain ⟨month, isMonth⟩ : ∃ m, m = (5 * dayOfYear + 2) / 153 := ⟨_, rfl⟩
  have fromMarch : 0 ≤ month := by omega
  have toFebruary : month ≤ 11 := by omega
  simp only [isValid, ofMarch, ← isMonth, Bool.and_eq_true, decide_eq_true_eq]
  interval_cases month
  -- The last month is February, which has a day more in a leap year.
  case «11» =>
    by_cases last : dayOfYear = 365
    · simp [daysInMonth, leap last, last]
    · cases isLeap : isLeapYear (yearFromMarch + 1)
      all_goals
        simp [daysInMonth, isLeap]
        omega
  all_goals
    simp [daysInMonth]
    omega

theorem daysInMonth_le (year : Int) (month : Nat) : daysInMonth year month ≤ 31 := by
  simp only [daysInMonth]
  split
  case h_1 => split <;> decide
  all_goals decide

/-- Months and days of a month have at most two digits. -/
theorem lt_of_isValid {date : Date} (isValid : date.isValid = true) :
    date.month < 10 ^ 2 ∧ date.dayOfMonth < 10 ^ 2 := by
  simp only [Date.isValid, Bool.and_eq_true, decide_eq_true_eq] at isValid
  obtain ⟨⟨⟨_, isMonth⟩, _⟩, isDay⟩ := isValid
  have := daysInMonth_le date.year date.month
  omega

/-- A date that is taken from a number of days exists. -/
theorem isValid_ofDays (days : Int) : (ofDays days).isValid = true := by
  obtain ⟨century, four, year, dayOfYear, h⟩ := @exists_inEra
    ((days + 719468) % 146097) (by omega)
  rw [ofDays_eq_ofMarch h]
  refine isValid_ofMarch h.day_bounds fun last => ?_
  obtain ⟨_, _, _, _, isLeap, _⟩ := h
  have ends := isLeap last
  simp only [isLeapYear, Bool.and_eq_true, Bool.or_eq_true, beq_iff_eq, bne_iff_ne]
  omega

end AdMonitor.Date
