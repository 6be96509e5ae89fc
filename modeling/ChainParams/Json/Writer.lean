import ChainParams.Datum
import ChainParams.Text.Digit

/-!
# Writer — data as JSON text

The text is as short as JSON allows: no blanks, and members in the order of the table. In a text
only quotes, backslashes and control characters are escaped.
-/

namespace ChainParams
namespace Json

/-! ## Texts -/

def escapeChar (c : Char) : List Char :=
  if c = '\x22' ∨ c = '\\' then ['\\', c]
  else if c = '\x08' then ['\\', 'b']
  else if c = '\x0c' then ['\\', 'f']
  else if c = '\n' then ['\\', 'n']
  else if c = '\r' then ['\\', 'r']
  else if c = '\t' then ['\\', 't']
  else if c.toNat < 32 then ['\\', 'u'] ++ Text.paddedDigits 16 4 c.toNat
  else [c]

def writeText (s : String) : List Char :=
  ['\x22'] ++ s.toList.flatMap escapeChar ++ ['\x22']

def writeInteger (n : Int) : List Char :=
  if n < 0 then '-' :: Nat.toDigits 10 n.natAbs else Nat.toDigits 10 n.natAbs

/-! ## Values -/

mutual

/-- Data as JSON text, without spaces. -/
def write : Datum → List Char
  | .null => ['n', 'u', 'l', 'l']
  | .bool true => ['t', 'r', 'u', 'e']
  | .bool false => ['f', 'a', 'l', 's', 'e']
  | .integer n => writeInteger n
  | .scalar literal => literal.toList
  | .text s => writeText s
  | .unpaired => ['\x22', '\\', 'u', 'd', '8', '0', '0', '\x22']
  | .list [] => ['[', ']']
  | .list (x :: xs) => '[' :: write x ++ writeItems xs ++ [']']
  | .table [] => ['\x7b', '\x7d']
  | .table ((k, v) :: ms) =>
      '\x7b' :: writeText k ++ ':' :: write v ++ writeMembers ms ++ ['\x7d']

/-- The items of a list behind its first, each behind a comma. -/
def writeItems : List Datum → List Char
  | [] => []
  | x :: xs => ',' :: write x ++ writeItems xs

def writeMembers : List (String × Datum) → List Char
  | [] => []
  | (k, v) :: ms => ',' :: writeText k ++ ':' :: write v ++ writeMembers ms

end

/-- The data `d` as JSON text. -/
def render (d : Datum) : String :=
  String.ofList (write d)

end Json
end ChainParams
