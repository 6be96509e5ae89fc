import Mathlib.Tactic.IntervalCases
import ChainParams.Time.Timestamp

/-!
# CalendarDays — days and their names, there and back

Counting and naming days are inverse to each other (`dayNumber_ofDayNumber`), and every day has a
name that the calendar knows (`isValid_ofDayNumber`). Both are read off the place of a day in years
that begin in March: its era, its year of the era and its day of the year. From this, a timestamp is
put together again from the parts that its texts show (`Timestamp.timestamp?_civil`).
-/

namespace ChainParams
namespace CivilDate

/-! ## Years that begin in March -/

/-- The `y`-th March year of an era ends on 29 February of a leap year. -/
def EndsOnLeapDay (y : Nat) : Prop :=
  (y + 1) % 4 = 0 ∧ ((y + 1) % 100 ≠ 0 ∨ (y + 1) % 400 = 0)

/-- The March year `y` of an era has a day `t`, both counted from zero. -/
structure IsMarchDay (y t : Nat) : Prop where
  year_lt : y < 400
  day_le : t ≤ 365
  endsOnLeapDay : t = 365 → EndsOnLeapDay y

/-- Days of an era before the `t`-th day of its `y`-th March year. -/
def dayOfEra (y t : Nat) : Nat :=
  y * 365 + y / 4 - y / 100 + t

/-- The month of day `t` of a March year, where March is month zero. -/
def marchMonth (t : Nat) : Nat :=
  (5 * t + 2) / 153

/-- The number in the calendar of month `k` of a March year. -/
def civilMonth (k : Nat) : Nat :=
  if k < 10 then k + 3 else k - 9

/-- The name of the `t`-th day of the `y`-th March year of an era. -/
def ofMarch (era : Int) (y t : Nat) : CivilDate :=
  let k := marchMonth t
  let year := 400 * era + Int.ofNat y
  ⟨if civilMonth k ≤ 2 then year + 1 else year, civilMonth k, t - daysBeforeMonth k + 1⟩

/-! ## The place of a day in its era -/

section Era

-- The number of a day in its era, counted from zero.
variable (x : Nat)

def century : Nat :=
  min (x / 36524) 3

def dayOfCentury : Nat :=
  x - century x * 36524

/-- The cycle of four years that day `x` has in its century. -/
def cycle : Nat :=
  dayOfCentury x / 1461

def dayOfCycle : Nat :=
  dayOfCentury x % 1461

def yearOfCycle : Nat :=
  min (dayOfCycle x / 365) 3

def dayOfYear : Nat :=
  dayOfCycle x - yearOfCycle x * 365

/-- Day `x` of an era as a day of its century. Day 36524 occurs only in century 3. -/
theorem century_spec (hx : x < 146097) :
    x = 36524 * century x + dayOfCentury x ∧ century x ≤ 3 ∧ dayOfCentury x ≤ 36524 ∧
      (dayOfCentury x = 36524 → century x = 3) := by
  rw [dayOfCentury, century]
  omega

/-- A day of a century as a day of its cycle. Cycle 24 has a day 1460 only if the century has a day
36524. -/
theorem cycle_spec (hx : dayOfCentury x ≤ 36524) :
    dayOfCentury x = 1461 * cycle x + dayOfCycle x ∧ cycle x ≤ 24 ∧ dayOfCycle x ≤ 1460 ∧
      (cycle x = 24 → dayOfCycle x = 1460 → dayOfCentury x = 36524) := by
  rw [cycle, dayOfCycle]
  omega

/-- A day of a cycle as a day of its year. Day 365 occurs only in year 3, at the end of the
cycle. -/
theorem yearOfCycle_spec (hx : dayOfCycle x ≤ 1460) :
    dayOfCycle x = 365 * yearOfCycle x + dayOfYear x ∧ yearOfCycle x ≤ 3 ∧ dayOfYear x ≤ 365 ∧
      (dayOfYear x = 365 → yearOfCycle x = 3 ∧ dayOfCycle x = 1460) := by
  rw [dayOfYear, yearOfCycle]
  omega

end Era

theorem dayOfEra_of_parts {c q y : Nat} (t : Nat) (hc : c ≤ 3) (hq : q ≤ 24) (hy : y ≤ 3) :
    dayOfEra (100 * c + 4 * q + y) t = 36524 * c + 1461 * q + 365 * y + t := by
  have hfour : (100 * c + 4 * q + y) / 4 = 25 * c + q := by
    omega
  have hhundred : (100 * c + 4 * q + y) / 100 = c := by
    omega
  rw [dayOfEra, hfour, hhundred]
  omega

/-- Each `x` below 146097 is the `dayOfEra` of the March year and the day that its century, cycle
and year give. -/
theorem isMarchDay_of_lt {x : Nat} (hx : x < 146097) :
    IsMarchDay (100 * century x + 4 * cycle x + yearOfCycle x) (dayOfYear x) ∧
      dayOfEra (100 * century x + 4 * cycle x + yearOfCycle x) (dayOfYear x) = x := by
  rcases century_spec x hx with ⟨hcentury, hc, hcenturyDay, hlastCentury⟩
  rcases cycle_spec x hcenturyDay with ⟨hcycle, hq, hcycleDay, hlastCycle⟩
  rcases yearOfCycle_spec x hcycleDay with ⟨hyear, hy, ht, hlastYear⟩
  constructor
  · refine ⟨by omega, ht, ?_⟩
    intro hlast
    rcases hlastYear hlast with ⟨hlastYear, hlastDay⟩
    -- A year of a century's last cycle has a leap day only where the century has its last day.
    have hleap : cycle x = 24 → century x = 3 := fun h => hlastCentury (hlastCycle h hlastDay)
    rw [EndsOnLeapDay]
    omega
  · rw [dayOfEra_of_parts _ hc hq hy]
    omega

/-- Every day number `n` is that of a `dayOfEra y t` of some era, and `ofDayNumber n` is its name in
`ofMarch`. -/
theorem exists_ofDayNumber (n : Int) :
    ∃ era y t, IsMarchDay y t ∧ n + epochOffset = era * 146097 + Int.ofNat (dayOfEra y t) ∧
      ofDayNumber n = ofMarch era y t := by
  have hlt : ((n + epochOffset) % 146097).toNat < 146097 := by
    omega
  rcases isMarchDay_of_lt hlt with ⟨hday, hnumber⟩
  refine ⟨(n + epochOffset) / 146097, _, _, hday, ?_, rfl⟩
  rw [hnumber, Int.ofNat_eq_natCast]
  omega

/-! ## Months -/

theorem marchMonth_le {t : Nat} (ht : t ≤ 365) : marchMonth t ≤ 11 := by
  rw [marchMonth]
  omega

/-- Day `t` is not before the first day of `marchMonth t`, and before that of the next month. -/
theorem daysBeforeMonth_marchMonth (t : Nat) :
    daysBeforeMonth (marchMonth t) ≤ t ∧ t < daysBeforeMonth (marchMonth t + 1) := by
  rw [daysBeforeMonth, daysBeforeMonth, marchMonth]
  omega

theorem isLeapYear_of_endsOnLeapDay {y : Nat} (era : Int) (h : EndsOnLeapDay y) :
    isLeapYear (400 * era + Int.ofNat y + 1) = true := by
  rcases h with ⟨hfour, hcentury⟩
  simp only [isLeapYear, Int.ofNat_eq_natCast, decide_eq_true_eq]
  omega

theorem civilMonth_bounds {k : Nat} (hk : k ≤ 11) : 1 ≤ civilMonth k ∧ civilMonth k ≤ 12 := by
  rw [civilMonth]
  split <;> omega

theorem civilMonth_le_two_iff {k : Nat} (hk : k ≤ 11) : civilMonth k ≤ 2 ↔ 10 ≤ k := by
  rw [civilMonth]
  split <;> omega

/-- For every month `k` but February, `daysInMonth` is the difference of `daysBeforeMonth` at
`k + 1` and at `k`. -/
theorem daysInMonth_civilMonth (year : Int) {k : Nat} (hk : k < 11) :
    daysInMonth year (civilMonth k) = daysBeforeMonth (k + 1) - daysBeforeMonth k := by
  interval_cases k <;> rfl

/-! ## Names of days -/

theorem daysInMonth_le (year : Int) (month : Nat) : daysInMonth year month ≤ 31 := by
  rw [daysInMonth]
  split
  · split <;> decide
  · split <;> decide

theorem isValid_iff {d : CivilDate} :
    d.isValid = true ↔
      1 ≤ d.month ∧ d.month ≤ 12 ∧ 1 ≤ d.day ∧ d.day ≤ daysInMonth d.year d.month :=
  decide_eq_true_iff

theorem isValid_ofMarch {y t : Nat} (era : Int) (h : IsMarchDay y t) :
    (ofMarch era y t).isValid = true := by
  have hk := marchMonth_le h.day_le
  have hmonth := civilMonth_bounds hk
  rcases daysBeforeMonth_marchMonth t with ⟨hfirst, hlast⟩
  -- Days count from one, so only the end of the month is left to show.
  refine isValid_iff.2 ⟨hmonth.1, hmonth.2, Nat.le_add_left 1 _, ?_⟩
  simp only [ofMarch]
  rcases Nat.lt_or_eq_of_le hk with hk | hk
  · rw [daysInMonth_civilMonth _ hk]
    omega
  · -- February has its 29th day only where the year ends on a leap day.
    have hday := h.day_le
    rw [hk] at hfirst ⊢
    rcases Nat.lt_or_eq_of_le hday with hday | rfl
    · simp only [daysBeforeMonth, civilMonth, daysInMonth] at hfirst ⊢
      norm_num at hfirst ⊢
      split <;> omega
    · have hleap := isLeapYear_of_endsOnLeapDay era (h.endsOnLeapDay rfl)
      rw [Int.ofNat_eq_natCast] at hleap
      simp [daysBeforeMonth, civilMonth, daysInMonth, hleap]

theorem dayNumber_ofMarch {y t : Nat} (era : Int) (h : IsMarchDay y t) :
    (ofMarch era y t).dayNumber = era * 146097 + Int.ofNat (dayOfEra y t) - epochOffset := by
  have hk := marchMonth_le h.day_le
  have hyear := h.year_lt
  have hfirst := (daysBeforeMonth_marchMonth t).1
  have hera : (400 * era + Int.ofNat y) / 400 = era := by
    rw [Int.ofNat_eq_natCast]
    omega
  have hyearOfEra : ((400 * era + Int.ofNat y) % 400).toNat = y := by
    rw [Int.ofNat_eq_natCast]
    omega
  have hday :
      daysBeforeMonth (marchMonth t) + (t - daysBeforeMonth (marchMonth t) + 1) - 1 = t := by
    omega
  -- January and February belong to the March year before.
  rcases Nat.lt_or_ge (marchMonth t) 10 with hearly | hlate
  · have hmonth : ¬ civilMonth (marchMonth t) ≤ 2 := by
      rw [civilMonth_le_two_iff hk]
      omega
    have hback : civilMonth (marchMonth t) - 3 = marchMonth t := by
      rw [civilMonth, if_pos hearly]
      omega
    simp only [ofMarch, dayNumber, if_neg hmonth, hback, hday, hera, hyearOfEra]
    rfl
  · have hmonth : civilMonth (marchMonth t) ≤ 2 := (civilMonth_le_two_iff hk).2 hlate
    have hback : civilMonth (marchMonth t) + 9 = marchMonth t := by
      rw [civilMonth, if_neg (Nat.not_lt_of_le hlate)]
      omega
    simp only [ofMarch, dayNumber, if_pos hmonth, hback, hday, Int.add_sub_cancel, hera,
      hyearOfEra]
    rfl

/-- For every `n`, the date `ofDayNumber n` has the day number `n`. -/
theorem dayNumber_ofDayNumber (n : Int) : (ofDayNumber n).dayNumber = n := by
  rcases exists_ofDayNumber n with ⟨era, y, t, hday, hn, hname⟩
  rw [hname, dayNumber_ofMarch era hday, ← hn]
  exact Int.add_sub_cancel n epochOffset

/-- For every `n`, the date `ofDayNumber n` has a month and a day that the calendar knows. -/
theorem isValid_ofDayNumber (n : Int) : (ofDayNumber n).isValid = true := by
  rcases exists_ofDayNumber n with ⟨era, y, t, hday, _, hname⟩
  rw [hname]
  exact isValid_ofMarch era hday

/-- Day numbers from 1 January of the year -262143 to 31 December of the year 262142 have dates with
a `year` between these two. -/
theorem year_ofDayNumber {n : Int} (hfirst : -96465292 ≤ n) (hlast : n ≤ 95026236) :
    -262143 ≤ (ofDayNumber n).year ∧ (ofDayNumber n).year ≤ 262142 := by
  rcases exists_ofDayNumber n with ⟨era, y, t, hday, hn, hname⟩
  have hk := marchMonth_le hday.day_le
  -- 1 January is day 306 of its March year.
  have hmonth : 10 ≤ marchMonth t ↔ 306 ≤ t := by
    rw [marchMonth]
    omega
  have hyear := hday.year_lt
  have ht := hday.day_le
  simp only [hname, ofMarch, civilMonth_le_two_iff hk, hmonth]
  simp only [epochOffset, dayOfEra, Int.ofNat_eq_natCast] at hn ⊢
  have hera : -656 ≤ era ∧ era ≤ 655 := by
    omega
  -- Only the first and the last era go beyond the range, both in their middle.
  rcases Int.lt_or_eq_of_le hera.1 with hlow | rfl
  · rcases Int.lt_or_eq_of_le hera.2 with hhigh | rfl
    · split <;> omega
    · split <;> omega
  · split <;> omega

end CivilDate

/-! ## Timestamps -/

namespace Timestamp

theorem ofUnix?_self (t : Timestamp) : ofUnix? t.seconds t.nanos = some t := by
  rw [ofUnix?, dif_pos t.seconds_mem, dif_pos t.nanos_mem]

/-- The seconds from midnight to `t`, in universal time. -/
def secondOfDay (t : Timestamp) : Nat :=
  (t.seconds % secondsPerDay).toNat

theorem secondOfDay_lt (t : Timestamp) : t.secondOfDay < 86400 := by
  rw [secondOfDay, secondsPerDay]
  omega

/-- The `nanos` of `t` reach a whole second only in the last second of a minute. -/
theorem leap_cases (t : Timestamp) :
    t.nanos / nanosPerSecond = 0 ∨ (t.nanos / nanosPerSecond = 1 ∧ t.secondOfDay % 60 = 59) := by
  rcases t.nanos_mem with hnanos | ⟨hnanos, hsecond⟩
  · exact Or.inl (Nat.div_eq_of_lt hnanos)
  · rw [secondOfDay, secondsPerDay]
    rw [nanosPerSecond] at hnanos ⊢
    omega

theorem isValid_civil (t : Timestamp) : t.civil.isValid = true := by
  have hdays := t.seconds_mem
  have hfirst : -96465292 ≤ t.seconds / secondsPerDay := by
    rw [secondsPerDay]
    omega
  have hlast : t.seconds / secondsPerDay ≤ 95026236 := by
    rw [secondsPerDay]
    omega
  have hyear := CivilDate.year_ofDayNumber hfirst hlast
  have hleap := t.leap_cases
  have hday := t.secondOfDay_lt
  have hdate := CivilDate.isValid_ofDayNumber (t.seconds / secondsPerDay)
  refine decide_eq_true_iff.2 ⟨decide_eq_true_iff.2 hyear, hdate, ?_, ?_, ?_, ?_⟩
  · change t.secondOfDay / 3600 < 24
    omega
  · exact Nat.mod_lt _ (by decide)
  · change t.secondOfDay % 60 + t.nanos / nanosPerSecond ≤ 60
    omega
  · exact Nat.mod_lt _ (by decide)

/-- For every `t`, `timestamp? 0` takes `t.civil` back to `t`. -/
theorem timestamp?_civil (t : Timestamp) : t.civil.timestamp? 0 = some t := by
  have hleap : (t.secondOfDay % 60 + t.nanos / nanosPerSecond) / 60 = t.nanos / nanosPerSecond := by
    have hcases := t.leap_cases
    omega
  have hclock : t.secondOfDay / 3600 * 3600 + t.secondOfDay / 60 % 60 * 60 +
      (t.secondOfDay % 60 + t.nanos / nanosPerSecond - t.nanos / nanosPerSecond) =
        t.secondOfDay := by
    omega
  have hseconds : t.seconds / secondsPerDay * secondsPerDay + Int.ofNat t.secondOfDay - 0 =
      t.seconds := by
    rw [secondOfDay, secondsPerDay, Int.ofNat_eq_natCast]
    omega
  have hnanos : t.nanos % nanosPerSecond + t.nanos / nanosPerSecond * nanosPerSecond = t.nanos := by
    rw [Nat.mul_comm]
    exact Nat.mod_add_div _ _
  rw [CivilTime.timestamp?, if_pos t.isValid_civil]
  -- What is put together, in terms of the second of the day.
  change ofUnix?
      ((CivilDate.ofDayNumber (t.seconds / secondsPerDay)).dayNumber * secondsPerDay +
        Int.ofNat (t.secondOfDay / 3600 * 3600 + t.secondOfDay / 60 % 60 * 60 +
          (t.secondOfDay % 60 + t.nanos / nanosPerSecond -
            (t.secondOfDay % 60 + t.nanos / nanosPerSecond) / 60)) - 0)
      (t.nanos % nanosPerSecond +
        (t.secondOfDay % 60 + t.nanos / nanosPerSecond) / 60 * nanosPerSecond) = some t
  rw [CivilDate.dayNumber_ofDayNumber, hleap, hclock, hseconds, hnanos, ofUnix?_self]

end Timestamp
end ChainParams
