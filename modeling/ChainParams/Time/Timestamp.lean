import ChainParams.Text.Digit
import ChainParams.Time.Calendar
import ChainParams.Time.Span

/-!
# Timestamp — moments of coordinated universal time

A timestamp counts seconds from the start of 1970, days having 86400 of them, and holds nanoseconds.
A leap second is written as a second whole second inside the last second of a minute: there the
nanoseconds go on to two thousand million. `civil` splits a timestamp into the parts that its texts
show, and `CivilTime.timestamp?` puts them together.
-/

namespace ChainParams

abbrev secondsPerDay : Int := 86400

/-- A moment, from the start of the year -262143 to the end of the year 262142. A leap second has
`nanos` of a second and more. -/
structure Timestamp where
  seconds : Int
  nanos : Nat
  seconds_mem : -8334601228800 ≤ seconds ∧ seconds ≤ 8210266876799
  nanos_mem : nanos < nanosPerSecond ∨ (nanos < 2 * nanosPerSecond ∧ seconds % 60 = 59)
  deriving DecidableEq, Repr

/-- A moment as its texts show it: the date, and the time of day on a clock that counts a leap
second as second 60. -/
structure CivilTime where
  date : CivilDate
  hour : Nat
  minute : Nat
  second : Nat
  fraction : Nat
  deriving DecidableEq, Repr

namespace Timestamp

/-- The moment `seconds` and `nanos` after the start of 1970, if it is a timestamp. -/
def ofUnix? (seconds : Int) (nanos : Nat) : Option Timestamp :=
  if hs : -8334601228800 ≤ seconds ∧ seconds ≤ 8210266876799 then
    if hn : nanos < nanosPerSecond ∨ (nanos < 2 * nanosPerSecond ∧ seconds % 60 = 59) then
      some ⟨seconds, nanos, hs, hn⟩
    else none
  else none

def civil (t : Timestamp) : CivilTime :=
  let secondOfDay := (t.seconds % secondsPerDay).toNat
  { date := CivilDate.ofDayNumber (t.seconds / secondsPerDay)
    hour := secondOfDay / 3600
    minute := secondOfDay / 60 % 60
    second := secondOfDay % 60 + t.nanos / nanosPerSecond
    fraction := t.nanos % nanosPerSecond }

end Timestamp

namespace CivilTime

def isYear (year : Int) : Bool := -262143 ≤ year ∧ year ≤ 262142

/-- Whether the calendar and the clock have the date and the time of day of `t`. -/
def isValid (t : CivilTime) : Bool :=
  isYear t.date.year ∧ t.date.isValid ∧ t.hour < 24 ∧ t.minute < 60 ∧ t.second ≤ 60 ∧
    t.fraction < nanosPerSecond

/-- The moment that a clock `offset` seconds ahead of universal time shows in this way. Both what
the clock shows and the moment have to lie in the years of timestamps. -/
def timestamp? (t : CivilTime) (offset : Int) : Option Timestamp :=
  if t.isValid then
    -- A leap second has no number of its own: it is the second before it with more nanoseconds.
    let leap := t.second / 60
    let clock := t.hour * 3600 + t.minute * 60 + (t.second - leap)
    Timestamp.ofUnix? (t.date.dayNumber * secondsPerDay + Int.ofNat clock - offset)
      (t.fraction + leap * nanosPerSecond)
  else none

/-! ## Texts -/

/-- The number `year` in at least four digits. One that does not have exactly four has its sign in
front. -/
def renderYear (year : Int) : String :=
  let digits := Text.decimalPadded 4 year.natAbs
  if year < 0 then "-" ++ digits
  else if year < 10000 then digits
  else "+" ++ digits

/-- The digits of `nanos` behind `.`: three, six or nine, the fewest that are exact. Whole seconds
have none. -/
def renderFraction (nanos : Nat) : String :=
  if nanos = 0 then ""
  else if nanos % 1000000 = 0 then "." ++ Text.decimalPadded 3 (nanos / 1000000)
  else if nanos % 1000 = 0 then "." ++ Text.decimalPadded 6 (nanos / 1000)
  else "." ++ Text.decimalPadded 9 nanos

/-- The date and the time of day, with `divider` between them. -/
def render (divider : String) (t : CivilTime) : String :=
  renderYear t.date.year ++ "-" ++ Text.decimalPadded 2 t.date.month ++ "-" ++
    Text.decimalPadded 2 t.date.day ++ divider ++ Text.decimalPadded 2 t.hour ++ ":" ++
    Text.decimalPadded 2 t.minute ++ ":" ++ Text.decimalPadded 2 t.second ++
    renderFraction t.fraction

end CivilTime

/-- The moment `t` for a reader, such as `2017-01-01 00:00:00 UTC`. -/
def Timestamp.render (t : Timestamp) : String :=
  t.civil.render " " ++ " UTC"

end ChainParams
