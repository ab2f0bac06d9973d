import CashLedger.Calendar
import Mathlib

/-!
# Days and dates

A date that was found for a number of days is a day of the calendar, and that number of days leads
to it.  Years are counted from their March, so that only the last day of a year depends on whether
it is a leap year; of such years 400 come to 146097 days.
-/

namespace CashLedger.Date

theorem daysInMonth_le (year : Int) (month : Nat) : daysInMonth year month ≤ 31 := by
  unfold daysInMonth
  split
  · split <;> decide
  all_goals decide

theorem month_le_of_isValid {date : Date} (hvalid : date.isValid = true) : date.month ≤ 12 := by
  simp only [isValid, Bool.and_eq_true, decide_eq_true_eq] at hvalid
  exact hvalid.1.1.2

theorem day_le_of_isValid {date : Date} (hvalid : date.isValid = true) : date.day ≤ 31 := by
  simp only [isValid, Bool.and_eq_true, decide_eq_true_eq] at hvalid
  exact hvalid.2.trans (daysInMonth_le date.year date.month)

/-- A day of 400 years: its century, the four years of it and the year of these that it lies in,
and its number within this year.  Only the last of four years may have a day more, and of four
centuries only the last ends with one. -/
structure DayOfEra (day century four year rest : Int) : Prop where
  day_eq : day = 36524 * century + 1461 * four + 365 * year + rest
  century_mem : 0 ≤ century ∧ century ≤ 3
  four_mem : 0 ≤ four ∧ four ≤ 24
  year_mem : 0 ≤ year ∧ year ≤ 3
  rest_mem : 0 ≤ rest ∧ rest ≤ 365
  last_day : rest = 365 → year = 3 ∧ (four < 24 ∨ century = 3)

theorem exists_dayOfEra {day : Int} (hlow : 0 ≤ day) (hhigh : day < 146097) :
    ∃ century four year rest, DayOfEra day century four year rest := by
  obtain ⟨century, hcentury, inCentury, hinCentury⟩ :
      ∃ century, (0 ≤ century ∧ century ≤ 3) ∧ ∃ inCentury,
        day = 36524 * century + inCentury ∧ 0 ≤ inCentury ∧ inCentury ≤ 36524 ∧
          (inCentury = 36524 → century = 3) :=
    ⟨min (day / 36524) 3, by omega, day - 36524 * min (day / 36524) 3, by omega⟩
  obtain ⟨four, hfour, inFour, hinFour⟩ :
      ∃ four, (0 ≤ four ∧ four ≤ 24) ∧ ∃ inFour,
        inCentury = 1461 * four + inFour ∧ 0 ≤ inFour ∧ inFour ≤ 1460 :=
    ⟨inCentury / 1461, by omega, inCentury % 1461, by omega⟩
  obtain ⟨year, hyear, rest, hrest⟩ :
      ∃ year, (0 ≤ year ∧ year ≤ 3) ∧ ∃ rest,
        inFour = 365 * year + rest ∧ 0 ≤ rest ∧ rest ≤ 365 ∧ (rest = 365 → year = 3) :=
    ⟨min (inFour / 365) 3, by omega, inFour - 365 * min (inFour / 365) 3, by omega⟩
  exact ⟨century, four, year, rest, by omega, hcentury, hfour, hyear, by omega, by omega⟩

namespace DayOfEra

variable {day century four year rest : Int}

theorem year_eq (hday : DayOfEra day century four year rest) :
    (day - day / 1460 + day / 36524 - day / 146096) / 365 = 100 * century + 4 * four + year := by
  obtain ⟨hsum, hcentury, hfour, hyear, hrest, hlast⟩ := hday
  have hcenturies : day / 36524 = century ∧ day / 146096 = 0 ∨
      day / 36524 = 4 ∧ day / 146096 = 1 ∧ century = 3 := by
    -- Only the very last day lies past 36524 days of its century.
    have hinCentury : 0 ≤ 1461 * four + 365 * year + rest ∧
        1461 * four + 365 * year + rest ≤ 36523 ∨ day = 146096 ∧ century = 3 := by omega
    omega
  have hdays : day / 1460 = 25 * century + four ∧ rest ≤ 364 ∨
      day / 1460 = 25 * century + four + 1 ∧ 1 ≤ rest := by omega
  omega

theorem before_eq (hday : DayOfEra day century four year rest) :
    365 * (100 * century + 4 * four + year) + (100 * century + 4 * four + year) / 4 -
      (100 * century + 4 * four + year) / 100 = day - rest := by
  obtain ⟨hsum, hcentury, hfour, hyear, hrest, hlast⟩ := hday
  omega

theorem isLeapYear (hday : DayOfEra day century four year rest) (hrest : rest = 365) (era : Int) :
    isLeapYear (100 * century + 4 * four + year + era * 400 + 1) = true := by
  obtain ⟨hyear, hlast⟩ := hday.last_day hrest
  have hfour := hday.four_mem
  simp only [Date.isLeapYear, Bool.and_eq_true, Bool.or_eq_true, decide_eq_true_eq]
  omega

end DayOfEra

/-- The month, counted from March, and the day that a day of a year lies in. -/
def monthOf (rest : Int) : Int := (5 * rest + 2) / 153

def dayOf (rest : Int) : Int := rest - (153 * monthOf rest + 2) / 5 + 1

/-- The number of a month that is counted from March. -/
def civilMonth (month : Int) : Int := if month < 10 then month + 3 else month - 9

/-- The date of a day of a year of an era. -/
def inEra (era year rest : Int) : Date :=
  ⟨if civilMonth (monthOf rest) ≤ 2 then year + era * 400 + 1 else year + era * 400,
    (civilMonth (monthOf rest)).toNat, (dayOf rest).toNat⟩

theorem monthOf_mem {rest : Int} (hlow : 0 ≤ rest) (hhigh : rest ≤ 365) :
    0 ≤ monthOf rest ∧ monthOf rest ≤ 11 := by
  unfold monthOf
  omega

theorem dayOf_mem (rest : Int) : 1 ≤ dayOf rest ∧ dayOf rest ≤ 31 := by
  unfold dayOf monthOf
  omega

theorem exists_ofDays (days : Int) :
    ∃ era century four year rest,
      DayOfEra (days + 719468 - era * 146097) century four year rest ∧
        ofDays days = inEra era (100 * century + 4 * four + year) rest := by
  obtain ⟨century, four, year, rest, hday⟩ :=
    exists_dayOfEra (Int.emod_nonneg (days + 719468) (by decide))
      (Int.emod_lt_of_pos (days + 719468) (by decide))
  have hera : days + 719468 - (days + 719468) / 146097 * 146097 = (days + 719468) % 146097 := by
    omega
  have hrest : (days + 719468) % 146097 - (365 * (100 * century + 4 * four + year) +
      (100 * century + 4 * four + year) / 4 - (100 * century + 4 * four + year) / 100) = rest := by
    rw [hday.before_eq]
    omega
  refine ⟨(days + 719468) / 146097, century, four, year, rest, hera ▸ hday, ?_⟩
  simp only [ofDays, hday.year_eq, hrest]
  rfl

theorem toDays_inEra {era year rest : Int} (hyear : 0 ≤ year ∧ year < 400)
    (hrest : 0 ≤ rest ∧ rest ≤ 365) :
    (inEra era year rest).toDays =
      era * 146097 + (365 * year + year / 4 - year / 100 + rest) - 719468 := by
  have hmonths := monthOf_mem hrest.1 hrest.2
  have hdays := dayOf_mem rest
  have hmarch : ((((inEra era year rest).month + 9) % 12 : Nat) : Int) = monthOf rest := by
    unfold inEra civilMonth
    dsimp only
    omega
  have hday : (153 * monthOf rest + 2) / 5 + ((inEra era year rest).day : Int) - 1 = rest := by
    rw [inEra, Int.toNat_of_nonneg (by omega), dayOf]
    omega
  have hyears : (if (inEra era year rest).month ≤ 2 then (inEra era year rest).year - 1
      else (inEra era year rest).year) = year + era * 400 := by
    unfold inEra civilMonth
    dsimp only
    split <;> split <;> omega
  have hera : (year + era * 400) / 400 = era := by omega
  have hinEra : (year + era * 400) % 400 = year := by omega
  simp only [toDays, hyears, hmarch, hday, hera, hinEra]
  ring

/-- The number of days from which a date was found leads to it. -/
theorem toDays_ofDays (days : Int) : (ofDays days).toDays = days := by
  obtain ⟨era, century, four, year, rest, hday, hdate⟩ := exists_ofDays days
  have hbefore := hday.before_eq
  obtain ⟨-, hcentury, hfour, hyear, hrest, -⟩ := hday
  rw [hdate, toDays_inEra (by omega) hrest]
  omega

theorem dayOf_le_daysInMonth {rest : Int} (hrest : 0 ≤ rest ∧ rest ≤ 365) {year : Int}
    (hleap : rest = 365 → isLeapYear year = true) :
    (dayOf rest).toNat ≤ daysInMonth year (civilMonth (monthOf rest)).toNat := by
  obtain ⟨hlow, hhigh⟩ := monthOf_mem hrest.1 hrest.2
  have hday : rest = dayOf rest + (153 * monthOf rest + 2) / 5 - 1 := by
    unfold dayOf
    omega
  have hnext : 5 * rest + 2 < 153 * (monthOf rest + 1) := by
    unfold monthOf
    omega
  generalize monthOf rest = month at *
  generalize dayOf rest = day at *
  obtain rfl | hother : month = 11 ∨ month ≤ 10 := by omega
  · have hfebruary : daysInMonth year (civilMonth 11).toNat = if isLeapYear year then 29 else 28 :=
      rfl
    rw [hfebruary]
    by_cases hlast : rest = 365
    · rw [if_pos (hleap hlast)]
      omega
    · split <;> omega
  · interval_cases month <;> simp [civilMonth, daysInMonth] <;> omega

/-- A date that was found for a number of days is a day of the calendar. -/
theorem isValid_ofDays (days : Int) : (ofDays days).isValid = true := by
  obtain ⟨era, century, four, year, rest, hday, hdate⟩ := exists_ofDays days
  have hrest := hday.rest_mem
  have hmonths := monthOf_mem hrest.1 hrest.2
  have hdays := dayOf_mem rest
  have hmonth : 1 ≤ (civilMonth (monthOf rest)).toNat ∧
      (civilMonth (monthOf rest)).toNat ≤ 12 := by
    unfold civilMonth
    omega
  have hleap : rest = 365 →
      isLeapYear (inEra era (100 * century + 4 * four + year) rest).year = true := by
    intro hlast
    have hyear : (inEra era (100 * century + 4 * four + year) rest).year =
        100 * century + 4 * four + year + era * 400 + 1 := by
      rw [hlast]
      rfl
    rw [hyear]
    exact hday.isLeapYear hlast era
  rw [hdate]
  simp only [isValid, Bool.and_eq_true, decide_eq_true_eq]
  exact ⟨⟨hmonth, by unfold inEra; dsimp only; omega⟩, dayOf_le_daysInMonth hrest hleap⟩

/-- The years with four digits lie within the calendar. -/
theorem covers_of_year_mem {days : Int} (hlow : 0 ≤ (ofDays days).year)
    (hhigh : (ofDays days).year ≤ 9999) : covers days = true := by
  obtain ⟨era, century, four, year, rest, ⟨hsum, hcentury, hfour, hyear, hrest, -⟩, hdate⟩ :=
    exists_ofDays days
  have hyears : (ofDays days).year = 100 * century + 4 * four + year + era * 400 ∨
      (ofDays days).year = 100 * century + 4 * four + year + era * 400 + 1 := by
    rw [hdate, inEra]
    dsimp only
    split <;> omega
  have hfirst : first.toDays = -96465292 := by decide
  have hlast : last.toDays = 95026236 := by decide
  simp only [covers, Bool.and_eq_true, decide_eq_true_eq]
  omega

end CashLedger.Date
