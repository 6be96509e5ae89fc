import ChainParams.Datum
import ChainParams.Toml.Text

/-!
# Writer — records as TOML text

A list of records is written as one section for each of them: a header in double brackets, and
below it a line for each field. A blank line divides two sections.
-/

namespace ChainParams
namespace Toml

open ChainParams.Text

/-- The character `c` inside double quotes. What may not stand there is written as its code
point. -/
def escapeChar (c : Char) : List Char :=
  if c = '\x22' ∨ c = '\\' then ['\\', c]
  else if isPlain c then [c]
  else ['\\', 'u'] ++ paddedDigits 16 4 c.toNat

def writeText (s : String) : String :=
  String.ofList (['\x22'] ++ s.toList.flatMap escapeChar ++ ['\x22'])

def writeField (name value : String) : String :=
  name ++ " = " ++ value ++ "\n"

/-- A section with the header `[[header]]` and a line for each of `fields`. -/
def writeSection (header : String) (fields : List (String × String)) : String :=
  "[[" ++ header ++ "]]\n" ++ String.join (fields.map fun field => writeField field.1 field.2)

end Toml
end ChainParams
