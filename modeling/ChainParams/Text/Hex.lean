import ChainParams.Text.Digit
import ChainParams.Text.Quoted

/-!
# Hex — byte strings as hexadecimal text

Two digits a byte, the high half first; written in lower case and read in either. Reading works on
the octets of the text, so a character outside ASCII is refused at its first octet.
-/

namespace ChainParams
namespace Text

/-- Why a text is not the hexadecimal form of a byte string. -/
inductive HexError
  | oddLength
  /-- The octet at `index` is not a hexadecimal digit. -/
  | invalidCharacter (octet : UInt8) (index : Nat)
  deriving DecidableEq, Repr

/-- The reason in words; an octet is shown as the character with its number. -/
def HexError.message : HexError → String
  | .oddLength => "Odd number of digits"
  | .invalidCharacter octet index =>
      "Invalid character " ++ quotedSingle (Char.ofNat octet.toNat) ++
        " at position " ++ toString index

def octets (s : String) : List UInt8 :=
  s.toList.flatMap String.utf8EncodeChar

/-- Value of `octet` as a hexadecimal digit, with `index` for the error. -/
def octetValue (octet : UInt8) (index : Nat) : Except HexError Nat :=
  match hexValue? (Char.ofNat octet.toNat) with
  | some v => .ok v
  | none => .error (.invalidCharacter octet index)

/-- Reads digits in pairs, the first of them at `index`. -/
def pairs (index : Nat) : List UInt8 → Except HexError (List UInt8)
  | [] => .ok []
  | [_] => .error .oddLength
  | high :: low :: rest => do
      let h ← octetValue high index
      let l ← octetValue low (index + 1)
      let bytes ← pairs (index + 2) rest
      return UInt8.ofNat (16 * h + l) :: bytes

/-- The byte string with the hexadecimal form `s`. An odd length is reported before any digit. -/
def bytesOfHex (s : String) : Except HexError (List UInt8) :=
  if (octets s).length % 2 = 1 then .error .oddLength else pairs 0 (octets s)

def hexOfBytes (bytes : List UInt8) : String :=
  String.ofList (bytes.flatMap fun b => paddedDigits 16 2 b.toNat)

end Text
end ChainParams
