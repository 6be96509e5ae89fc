/-!
# Calendar — days counted and days named

The Gregorian calendar, extended to all years, the year before 1 being 0. Days are counted from
1 January 1970. For counting, years are taken to begin in March, so that the leap day is the last
day of its year: 400 years are always 146097 days, a century is 36524 days and a quarter of a day
more, four years are 1461 days and one year is 365.
-/

namespace ChainParams

/-- A day of the calendar by its name, with `month` and `day` counted from one. -/
structure CivilDate where
  year : Int
  month : Nat
  day : Nat
  deriving DecidableEq, Repr

namespace CivilDate

def isLeapYear (year : Int) : Bool :=
  year % 4 = 0 ∧ (year % 100 ≠ 0 ∨ year % 400 = 0)

def daysInMonth (year : Int) (month : Nat) : Nat :=
  if month = 2 then (if isLeapYear year then 29 else 28)
  else if month = 4 ∨ month = 6 ∨ month = 9 ∨ month = 11 then 30
  else 31

def isValid (d : CivilDate) : Bool :=
  1 ≤ d.month ∧ d.month ≤ 12 ∧ 1 ≤ d.day ∧ d.day ≤ daysInMonth d.year d.month

/-- Days from 1 March of year 0, where March years begin, to 1 January 1970. -/
def epochOffset : Int := 719468

/-- Days of a March year before its month `k`, where March is month zero. -/
def daysBeforeMonth (k : Nat) : Nat :=
  (153 * k + 2) / 5

/-- The date of day `n`, counted from 1 January 1970. -/
def ofDayNumber (n : Int) : CivilDate :=
  let shifted := n + epochOffset
  let era := shifted / 146097
  let dayOfEra := (shifted % 146097).toNat
  -- The leap day at the end of an era or of a cycle belongs to the last of its four parts.
  let century := min (dayOfEra / 36524) 3
  let dayOfCentury := dayOfEra - century * 36524
  let cycle := dayOfCentury / 1461
  let dayOfCycle := dayOfCentury % 1461
  let yearOfCycle := min (dayOfCycle / 365) 3
  let dayOfYear := dayOfCycle - yearOfCycle * 365
  let k := (5 * dayOfYear + 2) / 153
  let month := if k < 10 then k + 3 else k - 9
  let year := 400 * era + Int.ofNat (100 * century + 4 * cycle + yearOfCycle)
  ⟨if month ≤ 2 then year + 1 else year, month, dayOfYear - daysBeforeMonth k + 1⟩

/-- The number of the day `d`, counted from 1 January 1970. -/
def dayNumber (d : CivilDate) : Int :=
  let year := if d.month ≤ 2 then d.year - 1 else d.year
  let era := year / 400
  let yearOfEra := (year % 400).toNat
  let k := if d.month ≤ 2 then d.month + 9 else d.month - 3
  let dayOfYear := daysBeforeMonth k + d.day - 1
  let dayOfEra := yearOfEra * 365 + yearOfEra / 4 - yearOfEra / 100 + dayOfYear
  era * 146097 + Int.ofNat dayOfEra - epochOffset

end CivilDate
end ChainParams
