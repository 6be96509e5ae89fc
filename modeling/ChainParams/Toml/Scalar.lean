import ChainParams.Datum
import ChainParams.Time.Calendar
import ChainParams.Toml.Text

/-!
# Scalar — numbers, dates and truth values of TOML

Integers fit 64 bits with sign. Numbers with a fraction or an exponent, dates and times are only
checked here, as no record of this library holds one, and are kept as they are written.
-/

namespace ChainParams
namespace Toml

open ChainParams.Text

/-! ## Integers -/

/-- A sign, if there is one; the value is whether it is `-`. -/
def sign : Scan Bool := do
  match ← Scan.maybe (Scan.satisfy fun c => c == '+' || c == '-') with
  | some '-' => return true
  | _ => return false

/-- Digits of `radix`, without the underscores that may stand between two of them. -/
def digits (radix : Nat) : Scan (List Char) := do
  let first ← Scan.satisfy (isDigitOf radix)
  let more ← Scan.many (do
    let _ ← Scan.maybe (Scan.char '_')
    Scan.satisfy (isDigitOf radix))
  return first :: more

/-- The digits of a decimal number before its point: `0` alone, or digits that do not begin with
it. -/
def wholeDigits : Scan (List Char) :=
  (do Scan.char '0'; return ['0']) <|> digits 10

def integerDatum (n : Int) : Scan Datum :=
  if -9223372036854775808 ≤ n ∧ n ≤ 9223372036854775807 then return .integer n else failure

def markedInteger (mark : Char) (radix : Nat) : Scan Datum := do
  Scan.exactly ['0', mark]
  match numeral? radix (← digits radix) with
  | some n => integerDatum (Int.ofNat n)
  | none => failure

def decimalInteger : Scan Datum := do
  let negative ← sign
  match numeral? 10 (← wholeDigits) with
  | some n => integerDatum (if negative then -Int.ofNat n else Int.ofNat n)
  | none => failure

/-- An integer: hexadecimal behind `0x`, octal behind `0o`, binary behind `0b`, or decimal. -/
def integer : Scan Datum :=
  markedInteger 'x' 16 <|> markedInteger 'o' 8 <|> markedInteger 'b' 2 <|> decimalInteger

/-! ## Numbers with a fraction -/

def exponent : Scan Int := do
  let _ ← Scan.satisfy fun c => c == 'e' || c == 'E'
  let negative ← sign
  match numeral? 10 (← digits 10) with
  | some n => return if negative then -Int.ofNat n else Int.ofNat n
  | none => failure

/-- The least number that a double rounds to infinity: the middle between its largest value and the
power of two after it. -/
def overflowBound : Nat := 18014398509481983 <<< 970

/-- Whether a double rounds the number `digits * 10 ^ scale` to infinity. -/
def overflows (digits : List Char) (scale : Int) : Bool :=
  let significant := digits.dropWhile (· == '0')
  -- The number of digits decides this unless it is near the bound.
  let magnitude := Int.ofNat significant.length + scale
  if significant.isEmpty || magnitude < 300 then false
  else if 320 < magnitude then true
  else
    let n := (numeral? 10 significant).getD 0
    overflowBound * Nat.pow 10 (-scale).toNat ≤ n * Nat.pow 10 scale.toNat

/-- A decimal number with a fraction or an exponent. -/
def fractional : Scan Unit := do
  let negative ← sign
  let whole ← wholeDigits
  let fraction ← Scan.maybe (do Scan.char '.'; digits 10)
  let power ← Scan.maybe exponent
  if fraction.isNone ∧ power.isNone then failure
  else
    -- One that is too large for a double is refused, unless it is negative.
    let part := fraction.getD []
    if !negative && overflows (whole ++ part) (power.getD 0 - Int.ofNat part.length) then failure
    else return ()

/-- The texts `inf` and `nan`, with a sign or without. -/
def special : Scan Unit := do
  let _ ← sign
  Scan.exactly ['i', 'n', 'f'] <|> Scan.exactly ['n', 'a', 'n']

/-! ## Dates and times -/

/-- A number of exactly `count` digits, at most `limit`. -/
def fixedNumber (count limit : Nat) : Scan Nat := do
  let ds ← Scan.runUpTo count (isDigitOf 10)
  match ds.length == count, numeral? 10 ds with
  | true, some n => if n ≤ limit then return n else failure
  | _, _ => failure

def date : Scan Unit := do
  let year ← fixedNumber 4 9999
  Scan.char '-'
  let month ← fixedNumber 2 12
  Scan.char '-'
  let day ← fixedNumber 2 31
  if CivilDate.isValid ⟨year, month, day⟩ then return () else failure

def time : Scan Unit := do
  let _ ← fixedNumber 2 23
  Scan.char ':'
  let _ ← fixedNumber 2 59
  Scan.char ':'
  let _ ← fixedNumber 2 60
  let _ ← Scan.maybe (do
    Scan.char '.'
    let _ ← Scan.satisfy (isDigitOf 10)
    Scan.run (isDigitOf 10))

def clockOffset : Scan Unit :=
  (do let _ ← Scan.satisfy fun c => c == 'Z' || c == 'z') <|>
  (do
    let _ ← Scan.satisfy fun c => c == '+' || c == '-'
    let _ ← fixedNumber 2 23
    Scan.char ':'
    let _ ← fixedNumber 2 59)

/-- A date, a time, or both, with the offset of the clock or without. -/
def moment : Scan Unit :=
  (do
    date
    let _ ← Scan.maybe (do
      let _ ← Scan.satisfy fun c => c == 'T' || c == 't' || c == ' '
      time
      Scan.maybe clockOffset)) <|>
  time

/-! ## Scalars -/

def truth : Scan Datum :=
  (do Scan.exactly ['t', 'r', 'u', 'e']; return .bool true) <|>
  (do Scan.exactly ['f', 'a', 'l', 's', 'e']; return .bool false)

def scalar : Scan Datum :=
  (do return .text (← anyText)) <|> truth <|>
  (do return .scalar (← Scan.literal (moment <|> fractional <|> special))) <|> integer

end Toml
end ChainParams
