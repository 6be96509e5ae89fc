import ChainParams.Text.Digit

/-!
# Word256 — unsigned words of 256 bits

Targets and hashes are 256-bit words. This module reads them from decimal and hexadecimal numerals,
prints them, and cuts them into the four 64-bit limbs and the 32 bytes of their stored forms.
-/

namespace ChainParams

abbrev Word256 := BitVec 256

/-- Why a numeral is not read as a word. -/
inductive NumeralError
  /-- The text holds something that is not a digit. -/
  | invalidCharacter
  /-- The number, or its text, does not fit. -/
  | invalidLength
  /-- Only radix ten and sixteen are known. -/
  | unsupportedRadix
  deriving DecidableEq, Repr

namespace Word256

open Text

def largest : Nat :=
  0xffffffffffffffffffffffffffffffffffffffffffffffffffffffffffffffff

/-- The number of bits of `w` up to the highest one that is set. -/
def bitLength (w : Word256) : Nat :=
  if w.toNat = 0 then 0 else Nat.log2 w.toNat + 1

/-! ## Numerals -/

/-- Goes on reading decimal digits after those that denote `n`. The first character that is no
digit, or that makes the number too large, decides the error. -/
def readDecimal (n : Nat) : List Char → Except NumeralError Nat
  | [] => .ok n
  | c :: cs =>
      match digitValue? 10 c with
      | none => .error .invalidCharacter
      | some d =>
          if 10 * n + d ≤ largest then readDecimal (10 * n + d) cs else .error .invalidLength

/-- Reads `s` as a decimal numeral. The empty text is zero. -/
def ofDecimal (s : String) : Except NumeralError Word256 :=
  (readDecimal 0 s.toList).map (BitVec.ofNat 256)

/-- Takes one leading `0x` away. -/
def dropMarker : List Char → List Char
  | '0' :: 'x' :: cs => cs
  | cs => cs

/-- The number of octets of `cs` in UTF-8. -/
def octetCount (cs : List Char) : Nat :=
  (cs.flatMap String.utf8EncodeChar).length

/-- Reads `s` as a hexadecimal numeral of at most 64 octets, after one optional `0x`. The empty text
is zero. -/
def ofHex (s : String) : Except NumeralError Word256 :=
  let digits := dropMarker s.toList
  -- The length is looked at before the digits.
  if 64 < octetCount digits then .error .invalidLength
  else
    match numeral? 16 digits with
    | some n => .ok (BitVec.ofNat 256 n)
    | none => .error .invalidCharacter

def ofNumeral (radix : Nat) (s : String) : Except NumeralError Word256 :=
  if radix = 10 then ofDecimal s
  else if radix = 16 then ofHex s
  else .error .unsupportedRadix

def toDecimal (w : Word256) : String :=
  toString w.toNat

/-- The hexadecimal numeral of `w`, after `0x` and without leading zeros. -/
def toHex (w : Word256) : String :=
  "0x" ++ String.ofList (Nat.toDigits 16 w.toNat)

/-! ## Limbs and bytes -/

/-- The four 64-bit limbs of `w`, the lowest first. -/
def limbs (w : Word256) : List UInt64 :=
  (List.range 4).map fun i => UInt64.ofNat (w.toNat >>> (64 * i))

def ofLimbs? : List UInt64 → Option Word256
  | [a, b, c, d] =>
      some (BitVec.ofNat 256
        (a.toNat + UInt64.size * (b.toNat + UInt64.size * (c.toNat + UInt64.size * d.toNat))))
  | _ => none

/-- The 32 bytes of `w`, the lowest first. -/
def bytes (w : Word256) : List UInt8 :=
  (List.range 32).map fun i => UInt8.ofNat (w.toNat >>> (8 * i))

end Word256
end ChainParams
