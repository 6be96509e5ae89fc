import ChainParams.Text.Digit
import ChainParams.Text.Scan

/-!
# Text — blanks, comments, texts and keys of TOML

The four kinds of texts of TOML 1.0: basic ones in double quotes, where a backslash begins an
escape, literal ones in single quotes, where nothing does, and both over several lines in three
quotes. Control characters other than the tab are nowhere allowed, and a carriage return only
before a line feed.
-/

namespace ChainParams
namespace Toml

open ChainParams.Text

/-! ## Blanks and comments -/

/-- Whether `c` divides the parts of a line. -/
def isSpace (c : Char) : Bool := c == ' ' || c == '\t'

def isPlain (c : Char) : Bool :=
  c == '\t' || (0x20 ≤ c.toNat && c.toNat ≠ 0x7f)

def spaces : Scan Unit := do
  let _ ← Scan.run isSpace

/-- The end of a line: a line feed, which a carriage return may come before. -/
def newline : Scan Unit := do
  let _ ← Scan.maybe (Scan.char '\r')
  Scan.char '\n'

def comment : Scan Unit := do
  Scan.char '#'
  let _ ← Scan.run isPlain

/-- Passes over spaces, comments and ends of lines. -/
def gap : Scan Unit := do
  let _ ← Scan.many ((do let _ ← Scan.satisfy isSpace) <|>
    (do let _ ← Scan.maybe comment; newline))

/-! ## Escapes -/

/-- The character with the number that `count` hexadecimal digits denote. Surrogates and numbers
past the last character are refused. -/
def codePoint (count : Nat) : Scan Char := do
  let digits ← Scan.runUpTo count (isDigitOf 16)
  match digits.length == count, numeral? 16 digits with
  | true, some n => if n.isValidChar then return Char.ofNat n else failure
  | _, _ => failure

/-- An escape: `\`, a letter, and for `u` and `U` a number. -/
def escape : Scan Char := do
  Scan.char '\\'
  match ← Scan.satisfy fun _ => true with
  | 'b' => return '\x08'
  | 't' => return '\t'
  | 'n' => return '\n'
  | 'f' => return '\x0c'
  | 'r' => return '\r'
  | '\x22' => return '\x22'
  | '\\' => return '\\'
  | 'u' => codePoint 4
  | 'U' => codePoint 8
  | _ => failure

/-! ## Texts in one line -/

def basicText : Scan (List Char) := do
  Scan.char '\x22'
  let cs ← Scan.many (escape <|>
    Scan.satisfy fun c => isPlain c && c ≠ '\x22' && c ≠ '\\')
  Scan.char '\x22'
  return cs

def literalText : Scan (List Char) := do
  Scan.char '\x27'
  let cs ← Scan.run fun c => isPlain c && c ≠ '\x27'
  Scan.char '\x27'
  return cs

/-! ## Texts over several lines -/

def lineBreak : Scan (List Char) := do
  newline
  return ['\n']

/-- The character `quote`, unless it is the first of three. -/
def loneQuote (quote : Char) : Scan (List Char)
  | a :: b :: c :: rest =>
      if a = quote ∧ ¬(b = quote ∧ c = quote) then some ([a], b :: c :: rest) else none
  | a :: rest => if a = quote then some ([a], rest) else none
  | [] => none

/-- The quotes that close a text: three of `quote`, after at most two that still belong to the
text. -/
def closingQuotes (quote : Char) : Scan (List Char) := do
  let quotes ← Scan.run (· == quote)
  if 3 ≤ quotes.length ∧ quotes.length ≤ 5 then return quotes.drop 3 else failure

/-- A `\` at the end of a line: it and all blanks and line ends after it are left out. -/
def continuation : Scan (List Char) := do
  Scan.char '\\'
  spaces
  newline
  let _ ← Scan.many ((do let _ ← Scan.satisfy isSpace) <|> newline)
  return []

/-- A text between `"""`, with escapes. -/
def basicBlock : Scan (List Char) := do
  Scan.exactly ['\x22', '\x22', '\x22']
  -- A line end right after the opening quotes is left out.
  let _ ← Scan.maybe newline
  let parts ← Scan.many (continuation <|> (do return [← escape]) <|> lineBreak <|>
    loneQuote '\x22' <|>
    (do return [← Scan.satisfy fun c => isPlain c && c ≠ '\x22' && c ≠ '\\']))
  let quotes ← closingQuotes '\x22'
  return parts.flatten ++ quotes

/-- A text between `'''`, without escapes. A line end right after the opening quotes is left out. -/
def literalBlock : Scan (List Char) := do
  Scan.exactly ['\x27', '\x27', '\x27']
  let _ ← Scan.maybe newline
  let parts ← Scan.many (lineBreak <|> loneQuote '\x27' <|>
    (do return [← Scan.satisfy fun c => isPlain c && c ≠ '\x27']))
  let quotes ← closingQuotes '\x27'
  return parts.flatten ++ quotes

def anyText : Scan String := do
  return String.ofList (← basicBlock <|> literalBlock <|> basicText <|> literalText)

/-! ## Keys -/

def isKeyChar (c : Char) : Bool := c.isAlphanum || c == '_' || c == '-'

/-- One part of a key: letters, digits, `-` and `_`, or a text in one line. -/
def keyPart : Scan String := do
  match ← Scan.run isKeyChar with
  | [] => return String.ofList (← basicText <|> literalText)
  | cs => return String.ofList cs

def spacedKeyPart : Scan String := do
  spaces
  let part ← keyPart
  spaces
  return part

/-- The place a key leads to: the `tables` on the way, and the `name` at its end. -/
structure KeyPath where
  tables : List String
  name : String
  deriving Repr

/-- The number of parts that a key stays below. -/
def keyLimit : Nat := 80

def key : Scan KeyPath := do
  let first ← spacedKeyPart
  let more ← Scan.many (do Scan.char '.'; spacedKeyPart)
  if more.length + 1 < keyLimit then
    return ⟨(first :: more).dropLast, (first :: more).getLastD first⟩
  else failure

end Toml
end ChainParams
