import ChainParams.Text.Digit
import ChainParams.Text.Printable

/-!
# Quoted — texts and characters between quotes, for messages

A message that repeats a text of the user shows it between quotes, so that its ends and its
invisible characters can be seen. The backslash forms are those of NUL, tab, line feed, carriage
return, the backslash and the quote in use; any other character without a visible form is written
as its code point in braces.
-/

namespace ChainParams
namespace Text

/-- A character inside quotes of the kind `quote`. -/
def quotedChar (quote c : Char) : List Char :=
  if c = quote ∨ c = '\\' then ['\\', c]
  else if c.toNat = 0 then ['\\', '0']
  else if c = '\t' then ['\\', 't']
  else if c = '\n' then ['\\', 'n']
  else if c = '\r' then ['\\', 'r']
  else if isPrintable c then [c]
  else ['\\', 'u', '\x7b'] ++ Nat.toDigits 16 c.toNat ++ ['\x7d']

def quoted (s : String) : String :=
  String.ofList (['\x22'] ++ s.toList.flatMap (quotedChar '\x22') ++ ['\x22'])

/-- The character `c` between single quotes. -/
def quotedSingle (c : Char) : String :=
  String.ofList (['\x27'] ++ quotedChar '\x27' c ++ ['\x27'])

end Text
end ChainParams
