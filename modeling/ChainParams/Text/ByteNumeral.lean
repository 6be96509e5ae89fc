import ChainParams.Text.Digit
import ChainParams.Text.Quoted

/-!
# ByteNumeral — a byte in decimal, or in hexadecimal after `0x`

A plus sign may stand before the digits. The text is read from left to right, and the first thing
that goes wrong is reported: a character that is no digit, or a number that leaves the range of a
byte.
-/

namespace ChainParams
namespace Text

/-- Why a numeral is not read as a byte. -/
inductive ByteError
  | empty
  | invalidDigit
  | tooLarge
  deriving DecidableEq, Repr

def ByteError.reason : ByteError → String
  | .empty => "cannot parse integer from empty string"
  | .invalidDigit => "invalid digit found in string"
  | .tooLarge => "number too large to fit in target type"

/-- The whole message, which quotes `given` and names the reason. -/
def ByteError.message (e : ByteError) (given : String) : String :=
  "invalid byte " ++ quoted given ++ ": " ++ e.reason

/-- Goes on reading digits of `radix` after those that denote `n`. -/
def readByteDigits (radix n : Nat) : List Char → Except ByteError Nat
  | [] => .ok n
  | c :: cs =>
      match digitValue? radix c with
      | none => .error .invalidDigit
      | some d =>
          if radix * n + d ≤ 255 then readByteDigits radix (radix * n + d) cs
          else .error .tooLarge

/-- Reads a numeral in `radix` with an optional `+`. A sign alone is no digit. -/
def readByte (radix : Nat) : List Char → Except ByteError Nat
  | [] => .error .empty
  | ['+'] => .error .invalidDigit
  | '+' :: cs => readByteDigits radix 0 cs
  | cs => readByteDigits radix 0 cs

def byteOfNumeral (s : String) : Except ByteError UInt8 :=
  (match s.toList with
    | '0' :: 'x' :: cs => readByte 16 cs
    | cs => readByte 10 cs).map UInt8.ofNat

end Text
end ChainParams
