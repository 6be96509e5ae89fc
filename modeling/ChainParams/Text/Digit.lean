/-!
# Digit — numerals in a radix up to sixteen

Every number this library reads from text goes through two steps: each character is given a digit
value, and the digit values are added up by position. `digitValue?` and `positional` are these
steps, `numeral?` is both. Printing uses the digit lists of the core library, padded on the left.
-/

namespace ChainParams
namespace Text

/-! ## Reading -/

def hexValue? (c : Char) : Option Nat :=
  if '0' ≤ c ∧ c ≤ '9' then some (c.toNat - 48)
  else if 'a' ≤ c ∧ c ≤ 'f' then some (c.toNat - 87)
  else if 'A' ≤ c ∧ c ≤ 'F' then some (c.toNat - 55)
  else none

/-- Value of `c` as a digit of `radix`, which is at most sixteen. -/
def digitValue? (radix : Nat) (c : Char) : Option Nat :=
  (hexValue? c).filter (· < radix)

def isDigitOf (radix : Nat) (c : Char) : Bool :=
  (digitValue? radix c).isSome

/-- The number that `digits` denote in `radix`, the most significant digit first. -/
def positional (radix : Nat) (digits : List Nat) : Nat :=
  digits.foldl (fun n d => radix * n + d) 0

/-- The digit values of a text made of digits of `radix` only. -/
def digitValues? (radix : Nat) (cs : List Char) : Option (List Nat) :=
  cs.mapM (digitValue? radix)

/-- The number that a text made of digits of `radix` only denotes. The empty text denotes zero. -/
def numeral? (radix : Nat) (cs : List Char) : Option Nat :=
  (digitValues? radix cs).map (positional radix)

/-! ## Printing -/

/-- The digits of `n` in `radix`, in lower case, with zeros in front up to `width`. -/
def paddedDigits (radix width n : Nat) : List Char :=
  (Nat.toDigits radix n).leftpad width '0'

def decimalPadded (width n : Nat) : String :=
  String.ofList (paddedDigits 10 width n)

/-- `n` in hexadecimal, with zeros in front up to `width` digits. -/
def hexPadded (width n : Nat) : String :=
  String.ofList (paddedDigits 16 width n)

def byteLiteral (b : UInt8) : String :=
  "0x" ++ hexPadded 2 b.toNat

/-- A 32-bit word as `0x` and eight hexadecimal digits. -/
def wordLiteral (w : UInt32) : String :=
  "0x" ++ hexPadded 8 w.toNat

end Text
end ChainParams
