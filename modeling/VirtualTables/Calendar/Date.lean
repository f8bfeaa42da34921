/-!
Days of the proleptic Gregorian calendar, counted from 1 January 1970, and their year, month and
day.

The count goes by eras of 400 years, centuries, cycles of four years and years that begin on 1
March, so that a leap day is the last day of its year, cycle, century or era. `toDays_ofDays` and
`isValid_ofDays` say that every number of days is that of a day which the calendar has.
-/

namespace VirtualTables

structure Date where
  /-- The astronomical year: the year zero exists. -/
  year : Int
  /-- The month, from one. -/
  month : Nat
  /-- The day of the month, from one. -/
  day : Nat
deriving DecidableEq

namespace Date

def isLeapYear (year : Int) : Bool :=
  year % 4 == 0 && (year % 100 != 0 || year % 400 == 0)

def daysInMonth (year : Int) (month : Nat) : Nat :=
  if month = 2 then (if isLeapYear year then 29 else 28)
  else if month = 4 ∨ month = 6 ∨ month = 9 ∨ month = 11 then 30
  else 31

def isValid (date : Date) : Bool :=
  1 ≤ date.month && date.month ≤ 12 && 1 ≤ date.day && date.day ≤ daysInMonth date.year date.month

/-- The number of days from 1 January 1970 to a day. -/
def toDays (date : Date) : Int :=
  let year := if date.month ≤ 2 then date.year - 1 else date.year
  let era := year / 400
  let yearOfEra := year % 400
  let month : Int := if date.month ≤ 2 then date.month + 9 else date.month - 3
  let dayOfYear := (153 * month + 2) / 5 + date.day - 1
  let dayOfEra := yearOfEra * 365 + yearOfEra / 4 - yearOfEra / 100 + dayOfYear
  era * 146097 + dayOfEra - 719468

def ofDays (days : Int) : Date :=
  let shifted := days + 719468
  let era := shifted / 146097
  let dayOfEra := shifted % 146097
  let century := min (dayOfEra / 36524) 3
  let dayOfCentury := dayOfEra - century * 36524
  let cycle := dayOfCentury / 1461
  let dayOfCycle := dayOfCentury % 1461
  let yearOfCycle := min (dayOfCycle / 365) 3
  let dayOfYear := dayOfCycle - yearOfCycle * 365
  let month := (5 * dayOfYear + 2) / 153
  let day := (dayOfYear - (153 * month + 2) / 5 + 1).toNat
  let month := (if month < 10 then month + 3 else month - 9).toNat
  let year := era * 400 + century * 100 + cycle * 4 + yearOfCycle
  ⟨if month ≤ 2 then year + 1 else year, month, day⟩

/-- How a number of days is counted: by its era, the century, the cycle and the year in that, and the
day of the year and its month. These years begin on 1 March, so that day 365 is a leap day. -/
structure IsCount (days era century cycle yearOfCycle dayOfYear month : Int) : Prop where
  total : days + 719468 =
    era * 146097 + century * 36524 + cycle * 1461 + yearOfCycle * 365 + dayOfYear
  inEra : 0 ≤ century ∧ century ≤ 3
  inCentury : 0 ≤ cycle ∧ cycle ≤ 24
  inCycle : 0 ≤ yearOfCycle ∧ yearOfCycle ≤ 3
  inYear : 0 ≤ dayOfYear ∧ dayOfYear ≤ 365
  leapDay : dayOfYear = 365 → yearOfCycle = 3 ∧ (cycle = 24 → century = 3)
  isMonth : (5 * dayOfYear + 2) / 153 = month

theorem exists_isCount (days : Int) : ∃ era century cycle yearOfCycle dayOfYear month : Int,
    IsCount days era century cycle yearOfCycle dayOfYear month ∧
      let number := (if month < 10 then month + 3 else month - 9).toNat
      let year := era * 400 + century * 100 + cycle * 4 + yearOfCycle
      ofDays days = ⟨if number ≤ 2 then year + 1 else year, number,
        (dayOfYear - (153 * month + 2) / 5 + 1).toNat⟩ := by
  generalize eraIs : (days + 719468) / 146097 = era
  generalize dayOfEraIs : (days + 719468) % 146097 = dayOfEra
  generalize centuryIs : min (dayOfEra / 36524) 3 = century
  generalize dayOfCenturyIs : dayOfEra - century * 36524 = dayOfCentury
  generalize cycleIs : dayOfCentury / 1461 = cycle
  generalize dayOfCycleIs : dayOfCentury % 1461 = dayOfCycle
  generalize yearOfCycleIs : min (dayOfCycle / 365) 3 = yearOfCycle
  generalize dayOfYearIs : dayOfCycle - yearOfCycle * 365 = dayOfYear
  generalize monthIs : (5 * dayOfYear + 2) / 153 = month
  refine ⟨era, century, cycle, yearOfCycle, dayOfYear, month, ?_, ?_⟩
  · constructor <;> omega
  · simp only [ofDays, eraIs, dayOfEraIs, centuryIs, dayOfCenturyIs, cycleIs, dayOfCycleIs,
      yearOfCycleIs, dayOfYearIs, monthIs]

theorem toDays_ofDays (days : Int) : (ofDays days).toDays = days := by
  obtain ⟨era, century, cycle, yearOfCycle, dayOfYear, month, count, found⟩ := exists_isCount days
  obtain ⟨total, inEra, inCentury, inCycle, inYear, -, isMonth⟩ := count
  have inMonths : 0 ≤ month ∧ month ≤ 11 := by omega
  have yearParts :
      (era * 400 + century * 100 + cycle * 4 + yearOfCycle) / 400 = era ∧
      (era * 400 + century * 100 + cycle * 4 + yearOfCycle) % 400 =
        century * 100 + cycle * 4 + yearOfCycle := by omega
  have leapDays : (century * 100 + cycle * 4 + yearOfCycle) / 4 = century * 25 + cycle ∧
      (century * 100 + cycle * 4 + yearOfCycle) / 100 = century := by omega
  have dayParts : ((dayOfYear - (153 * month + 2) / 5 + 1).toNat : Int) =
      dayOfYear - (153 * month + 2) / 5 + 1 := by omega
  rw [found]
  by_cases early : month < 10
  · have monthParts : ((month + 3).toNat : Int) - 3 = month := by omega
    simp only [if_pos early, toDays, if_neg (show ¬ (month + 3).toNat ≤ 2 by omega), yearParts,
      leapDays, monthParts, dayParts]
    omega
  · have monthParts : ((month - 9).toNat : Int) + 9 = month := by omega
    simp only [if_neg early, toDays, if_pos (show (month - 9).toNat ≤ 2 by omega), yearParts,
      leapDays, monthParts, dayParts, Int.add_sub_cancel]
    omega

/-- Every number of days leads to a day that the calendar has. -/
theorem isValid_ofDays (days : Int) : (ofDays days).isValid = true := by
  obtain ⟨era, century, cycle, yearOfCycle, dayOfYear, month, count, found⟩ := exists_isCount days
  obtain ⟨-, inEra, inCentury, inCycle, inYear, leapDay, isMonth⟩ := count
  have inMonths : 0 ≤ month ∧ month ≤ 11 := by omega
  have number : (if month < 10 then month + 3 else month - 9).toNat ≤ 2 ↔ 10 ≤ month := by
    split <;> omega
  rw [found]
  simp only [isValid, Bool.and_eq_true, decide_eq_true_eq, daysInMonth, number]
  refine ⟨⟨⟨?_, ?_⟩, ?_⟩, ?_⟩
  · split <;> omega
  · split <;> omega
  · omega
  · by_cases february : month = 11
    · have late : ¬ month < 10 := by omega
      have latest : 10 ≤ month := by omega
      by_cases last : dayOfYear = 365
      · obtain ⟨lastYear, lastCentury⟩ := leapDay last
        have leap :
            isLeapYear (era * 400 + century * 100 + cycle * 4 + yearOfCycle + 1) = true := by
          simp only [isLeapYear, Bool.and_eq_true, Bool.or_eq_true, beq_iff_eq, bne_iff_ne]
          refine ⟨by omega, ?_⟩
          by_cases full : cycle = 24
          · have := lastCentury full
            exact .inr (by omega)
          · exact .inl (by omega)
        simp only [if_neg late, if_pos latest, if_pos (show (month - 9).toNat = 2 by omega),
          if_pos leap]
        omega
      · simp only [if_neg late, if_pos latest, if_pos (show (month - 9).toNat = 2 by omega)]
        split <;> omega
    · by_cases early : month < 10
      · simp only [if_pos early]
        rw [if_neg (by omega)]
        split <;> omega
      · simp only [if_neg early]
        rw [if_neg (by omega)]
        split <;> omega

end Date

end VirtualTables
