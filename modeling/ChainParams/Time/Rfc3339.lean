import ChainParams.Text.Blank
import ChainParams.Text.Scan
import ChainParams.Time.Timestamp

/-!
# Rfc3339 — the internet's form of a date and time

`render` writes a timestamp as RFC 3339 asks, in universal time. `read?` takes that form, with any
offset, and some forms around it: blanks before the numbers, one digit where two are usual, longer
years under a sign, a blank in the place of the `T`, and `UTC` for the offset.
-/

namespace ChainParams
namespace Rfc3339

open Text

/-- The moment in universal time, such as `2017-01-01T00:00:00Z`. -/
def render (t : Timestamp) : String :=
  t.civil.render "T" ++ "Z"

/-! ## Reading -/

def blanks : Scan Unit := do
  let _ ← Scan.run isBlank

/-- A number of one digit to `width` digits. -/
def number (width : Nat) : Scan Nat := do
  let digits ← Scan.runUpTo width (isDigitOf 10)
  match digits, numeral? 10 digits with
  | _ :: _, some n => return n
  | _, _ => failure

def longNumber : Scan Nat := do
  let digits ← Scan.run (isDigitOf 10)
  match digits, numeral? 10 digits with
  | _ :: _, some n => return n
  | _, _ => failure

/-- A year: at most four digits, or a sign and any number of them. -/
def year : Scan Int := do
  match ← Scan.peek with
  | '-' => do
      Scan.char '-'
      return -Int.ofNat (← longNumber)
  | '+' => do
      Scan.char '+'
      return Int.ofNat (← longNumber)
  | _ => return Int.ofNat (← number 4)

/-- The character `c`, which blanks may come before and after. -/
def divider (c : Char) : Scan Unit := do
  blanks
  Scan.char c
  blanks

/-- The fraction of a second behind `.`, in nanoseconds. -/
def fraction : Scan Nat := do
  match ← Scan.maybe (Scan.char '.') with
  | none => return 0
  | some () =>
      let digits ← Scan.run (isDigitOf 10)
      -- Digits after the ninth are read and left out.
      match digits, numeral? 10 ((digits ++ List.replicate 9 '0').take 9) with
      | _ :: _, some n => return n
      | _, _ => failure

def twoDigits : Scan Nat := do
  let tens ← Scan.satisfy (isDigitOf 10)
  let ones ← Scan.satisfy (isDigitOf 10)
  match numeral? 10 [tens, ones] with
  | some n => return n
  | none => failure

/-- The sign of an offset: `+`, `-` or the minus sign of Unicode. -/
def offsetSign : Scan Int := do
  match ← Scan.satisfy fun c => c == '+' || c == '-' || c == '\u2212' with
  | '+' => return 1
  | _ => return -1

def letter (upper lower : Char) : Scan Unit := do
  let _ ← Scan.satisfy fun c => c == upper || c == lower

/-- The offset of the clock in seconds: `UTC`, `Z`, or hours and minutes after a sign. It stays
below a day. -/
def offset : Scan Int :=
  (do letter 'U' 'u'; letter 'T' 't'; letter 'C' 'c'; return 0) <|>
  (do letter 'Z' 'z'; return 0) <|>
  (do
    let sign ← offsetSign
    let hours ← twoDigits
    let _ ← Scan.run fun c => c == ':' || isBlank c
    let minutes ← twoDigits
    if hours < 24 ∧ minutes < 60 then return sign * Int.ofNat (hours * 3600 + minutes * 60)
    else failure)

/-- A date and a time of day, and the `offset` of the clock that shows them. -/
def civilTime : Scan (CivilTime × Int) := do
  blanks
  let y ← year
  divider '-'
  let month ← number 2
  divider '-'
  let day ← number 2
  let _ ← Scan.satisfy fun c => c == 'T' || c == 't' || c == ' '
  blanks
  let hour ← number 2
  divider ':'
  let minute ← number 2
  divider ':'
  let second ← number 2
  let nanos ← fraction
  blanks
  let east ← offset
  blanks
  return (⟨⟨y, month, day⟩, hour, minute, second, nanos⟩, east)

/-- The moment that `s` names. -/
def read? (s : String) : Option Timestamp := do
  let (t, east) ← Scan.whole? civilTime s.toList
  t.timestamp? east

end Rfc3339
end ChainParams
