import ChainParams.Datum
import ChainParams.Text.Digit

/-!
# Reader — data from JSON text

The grammar is that of RFC 8259, without any of the liberties that readers often take: no comments,
no commas at the end, no leading zeros, no control characters in texts. A number without fraction
and exponent is an integer of any size, but for a zero under a minus sign. Half a surrogate pair is
well-formed; it makes its text, or the table it names a member of, `Datum.unpaired`.

`readValue` takes a bound on the work: it spends one for each level of nesting and one for each
item, and so a text needs no more than its length.
-/

namespace ChainParams
namespace Json

open Text

def isSpace (c : Char) : Bool :=
  c == ' ' || c == '\t' || c == '\n' || c == '\r'

def skipSpaces (cs : List Char) : List Char :=
  cs.dropWhile isSpace

/-! ## Texts -/

/-- A part of a text: a character as it stands or behind a backslash, or a 16-bit unit in four
hexadecimal digits behind `\u`. -/
inductive TextPart
  | char (c : Char)
  | unit (n : Nat)
  deriving DecidableEq, Repr

/-- The character that `c` stands for behind a backslash. -/
def unescape? (c : Char) : Option Char :=
  if c = '\x22' ∨ c = '\\' ∨ c = '/' then some c
  else if c = 'b' then some '\x08'
  else if c = 'f' then some '\x0c'
  else if c = 'n' then some '\n'
  else if c = 'r' then some '\r'
  else if c = 't' then some '\t'
  else none

/-- The parts of a text up to its closing quote, and the characters behind that. -/
def readParts : List Char → Option (List TextPart × List Char)
  | '\\' :: 'u' :: a :: b :: c :: d :: rest =>
      match numeral? 16 [a, b, c, d], readParts rest with
      | some n, some (parts, rest) => some (.unit n :: parts, rest)
      | _, _ => none
  | '\\' :: c :: rest =>
      match unescape? c, readParts rest with
      | some c, some (parts, rest) => some (.char c :: parts, rest)
      | _, _ => none
  | c :: rest =>
      if c = '\x22' then some ([], rest)
      else if c.toNat < 32 ∨ c = '\\' then none
      else
        match readParts rest with
        | some (parts, rest) => some (.char c :: parts, rest)
        | none => none
  | [] => none

/-- Whether the 16-bit unit `n` is the first half of a surrogate pair. -/
def isHighSurrogate (n : Nat) : Bool := 0xd800 ≤ n && n ≤ 0xdbff

def isLowSurrogate (n : Nat) : Bool := 0xdc00 ≤ n && n ≤ 0xdfff

/-- The characters that the parts of a text make up, or `none` if half a surrogate pair is among
them. -/
def joinParts : List TextPart → Option (List Char)
  | [] => some []
  | .char c :: parts => (joinParts parts).map (c :: ·)
  | .unit n :: .unit m :: parts =>
      if isHighSurrogate n && isLowSurrogate m then
        (joinParts parts).map
          (Char.ofNat (0x10000 + (n - 0xd800) * 0x400 + (m - 0xdc00)) :: ·)
      else if isHighSurrogate n || isLowSurrogate n then none
      else (joinParts (.unit m :: parts)).map (Char.ofNat n :: ·)
  | .unit n :: parts =>
      if isHighSurrogate n || isLowSurrogate n then none
      else (joinParts parts).map (Char.ofNat n :: ·)

/-- The text behind an opening quote, and the characters behind its closing quote. It is `none`
inside if `joinParts` fails. -/
def readText (cs : List Char) : Option (Option String × List Char) :=
  match readParts cs with
  | some (parts, rest) => some ((joinParts parts).map String.ofList, rest)
  | none => none

/-! ## Numbers -/

def readDigits (cs : List Char) : List Char × List Char :=
  (cs.takeWhile (isDigitOf 10), cs.dropWhile (isDigitOf 10))

/-- The fraction of a number, with its `.`, or nothing. -/
def readFraction (cs : List Char) : Option (List Char × List Char) :=
  match cs with
  | '.' :: rest =>
      match readDigits rest with
      | ([], _) => none
      | (digits, rest) => some ('.' :: digits, rest)
  | _ => some ([], cs)

def readSign (cs : List Char) : List Char × List Char :=
  match cs with
  | '+' :: rest => (['+'], rest)
  | '-' :: rest => (['-'], rest)
  | _ => ([], cs)

/-- The exponent of a number, with its `e` or `E` and its sign, or nothing. -/
def readExponent (cs : List Char) : Option (List Char × List Char) :=
  match cs with
  | c :: rest =>
      if c = 'e' ∨ c = 'E' then
        match readDigits (readSign rest).2 with
        | ([], _) => none
        | (digits, tail) => some (c :: (readSign rest).1 ++ digits, tail)
      else some ([], cs)
  | [] => some ([], [])

/-- The integer that `digits` denote, negated if `negative`. A `-0` is no integer and kept as it
is. -/
def integerDatum (negative : Bool) (digits : List Char) : Datum :=
  match negative, (numeral? 10 digits).getD 0 with
  | true, 0 => .scalar (String.ofList ('-' :: digits))
  | true, n => .integer (-Int.ofNat n)
  | false, n => .integer (Int.ofNat n)

/-- A number from its first digit on; `negative` says whether a `-` has been read in front of it. -/
def readUnsigned (negative : Bool) (cs : List Char) : Option (Datum × List Char) :=
  match readDigits cs with
  | ([], _) => none
  | ('0' :: _ :: _, _) => none
  | (digits, rest) =>
      match readFraction rest with
      | none => none
      | some (fraction, rest) =>
          match readExponent rest with
          | none => none
          | some (exponent, rest) =>
              if fraction = [] ∧ exponent = [] then some (integerDatum negative digits, rest)
              else
                let sign := if negative then ['-'] else []
                some (.scalar (String.ofList (sign ++ digits ++ fraction ++ exponent)), rest)

def readNumber (cs : List Char) : Option (Datum × List Char) :=
  match cs with
  | '-' :: rest => readUnsigned true rest
  | _ => readUnsigned false cs

/-! ## Values -/

/-- The items of a list that is not empty, each read by `item`, up to the closing bracket. -/
def readItems (item : List Char → Option (Datum × List Char)) :
    Nat → List Char → Option (List Datum × List Char)
  | 0, _ => none
  | bound + 1, cs =>
      match item cs with
      | none => none
      | some (x, rest) =>
          match skipSpaces rest with
          | ',' :: rest =>
              match readItems item bound rest with
              | some (xs, rest) => some (x :: xs, rest)
              | none => none
          | ']' :: rest => some ([x], rest)
          | _ => none

def readMember (item : List Char → Option (Datum × List Char)) (cs : List Char) :
    Option ((Option String × Datum) × List Char) :=
  match skipSpaces cs with
  | '\x22' :: rest =>
      match readText rest with
      | none => none
      | some (key, rest) =>
          match skipSpaces rest with
          | ':' :: rest =>
              match item rest with
              | some (x, rest) => some ((key, x), rest)
              | none => none
          | _ => none
  | _ => none

/-- The members of a table that is not empty, with values read by `item`, up to the closing
brace. -/
def readMembers (item : List Char → Option (Datum × List Char)) :
    Nat → List Char → Option (List (Option String × Datum) × List Char)
  | 0, _ => none
  | bound + 1, cs =>
      match readMember item cs with
      | none => none
      | some (m, rest) =>
          match skipSpaces rest with
          | ',' :: rest =>
              match readMembers item bound rest with
              | some (ms, rest) => some (m :: ms, rest)
              | none => none
          | '\x7d' :: rest => some ([m], rest)
          | _ => none

/-- The table of `members`, or `.unpaired` if one of the names is no sequence of characters. -/
def tableDatum (members : List (Option String × Datum)) : Datum :=
  match members.mapM fun (key, x) => key.map fun k => (k, x) with
  | some ms => .table ms
  | none => .unpaired

def textDatum : Option String → Datum
  | some s => .text s
  | none => .unpaired

/-- A value with spaces in front of it, and the characters behind it. -/
def readValue : Nat → List Char → Option (Datum × List Char)
  | 0, _ => none
  | bound + 1, cs =>
      match skipSpaces cs with
      | 'n' :: 'u' :: 'l' :: 'l' :: rest => some (.null, rest)
      | 't' :: 'r' :: 'u' :: 'e' :: rest => some (.bool true, rest)
      | 'f' :: 'a' :: 'l' :: 's' :: 'e' :: rest => some (.bool false, rest)
      | '\x22' :: rest =>
          match readText rest with
          | some (s, rest) => some (textDatum s, rest)
          | none => none
      | '[' :: rest =>
          match skipSpaces rest with
          | ']' :: rest => some (.list [], rest)
          | rest =>
              match readItems (readValue bound) bound rest with
              | some (xs, rest) => some (.list xs, rest)
              | none => none
      | '\x7b' :: rest =>
          match skipSpaces rest with
          | '\x7d' :: rest => some (.table [], rest)
          | rest =>
              match readMembers (readValue bound) bound rest with
              | some (ms, rest) => some (tableDatum ms, rest)
              | none => none
      | rest => readNumber rest

/-- The value that all of `s` is, with spaces around it. -/
def read? (s : String) : Option Datum :=
  match readValue (s.toList.length + 1) s.toList with
  | some (d, rest) => if skipSpaces rest = [] then some d else none
  | none => none

end Json
end ChainParams
