import ChainParams.Interchange.Basic
import ChainParams.Toml.Scalar
import ChainParams.Toml.Table

/-!
# Document — data from TOML text

A document is read line by line: pairs of a key and a value, and headers, each of which says where
the pairs below it belong. Values nest through lists and inline tables, up to a fixed depth.
-/

namespace ChainParams
namespace Toml

open ChainParams.Text

/-! ## Values -/

/-- The items of a list, each read by `item`, with commas between them. A comma may also follow the
last one. -/
def listItems (item : Scan Datum) : Nat → Scan (List Datum)
  | 0 => failure
  | bound + 1 => do
      gap
      match ← Scan.maybe item with
      | none => return []
      | some x =>
          gap
          match ← Scan.maybe (Scan.char ',') with
          | none => return [x]
          | some () => return x :: (← listItems item bound)

/-- A list between brackets, which may go over several lines. -/
def list (item : Scan Datum) : Scan Datum := do
  Scan.char '['
  let items ← fun cs => listItems item (cs.length + 1) cs
  gap
  Scan.char ']'
  return .list items

def pair (item : Scan Datum) : Scan (KeyPath × Datum) := do
  let k ← key
  Scan.char '='
  spaces
  let d ← item
  spaces
  return (k, d)

/-- A table between braces, in one line. No comma follows its last pair. -/
def inlineTable (item : Scan Datum) : Scan Datum := do
  Scan.char '\x7b'
  let pairs ← (do
    let first ← pair item
    let more ← Scan.many (do Scan.char ','; pair item)
    return first :: more) <|> (do spaces; return [])
  Scan.char '\x7d'
  match Members.insertAll [] pairs with
  | some ms => return .table (membersData ms)
  | none => failure

/-- The number of levels to which the values of a document nest. -/
def depthLimit : Nat := 79

/-- A value with at most `depth` levels of lists and tables in it. -/
def value : Nat → Scan Datum
  | 0 => scalar
  | depth + 1 => list (value depth) <|> inlineTable (value depth) <|> scalar

/-! ## Lines -/

inductive Line
  | blank
  | pair (key : KeyPath) (d : Datum)
  | header (key : KeyPath)
  | item (key : KeyPath)

def line : Scan Line := do
  spaces
  let l ←
    (do
      Scan.exactly ['[', '[']
      let k ← key
      Scan.exactly [']', ']']
      return Line.item k) <|>
    (do
      Scan.char '['
      let k ← key
      Scan.char ']'
      return Line.header k) <|>
    (do
      let (k, d) ← pair (value depthLimit)
      return Line.pair k d) <|>
    (return Line.blank)
  spaces
  let _ ← Scan.maybe comment
  return l

/-- All lines of a document. A byte order mark may come before the first one. -/
def lines : Scan (List Line) := do
  let _ ← Scan.maybe (Scan.char '\ufeff')
  let first ← line
  let more ← Scan.many (do newline; line)
  return first :: more

/-! ## Sections -/

/-- The pairs in front of the first header, and the lines from there. -/
def leadingPairs : List Line → List (KeyPath × Datum) × List Line
  | .pair k d :: rest => ((k, d) :: (leadingPairs rest).1, (leadingPairs rest).2)
  | .blank :: rest => leadingPairs rest
  | rest => ([], rest)

/-- Adds each header among the lines to `ms`, with the pairs below it. Pairs in front of the first
header have been read before. -/
def addSections (ms : Members) : List Line → Option Members
  | [] => some ms
  | .header k :: rest => do addSections (← ms.openTable k (leadingPairs rest).1) rest
  | .item k :: rest => do addSections (← ms.appendTable k (leadingPairs rest).1) rest
  | _ :: rest => addSections ms rest

def tableOfLines (ls : List Line) : Option Members := do
  addSections (← Members.insertAll [] (leadingPairs ls).1) ls

/-- The table that all of `s` is. -/
def read? (s : String) : Option Datum := do
  let ls ← Scan.whole? lines s.toList
  let ms ← tableOfLines ls
  return .table (membersData ms)

/-! ## Records -/

/-- What TOML accepts for records and choices. A record written as a list may go on after its last
field, and "no content" is an empty list or an empty table. -/
def dialect : Dialect where
  surplusItems := true
  isUnit
    | .list [] => true
    | .table [] => true
    | _ => false

def decode? {α : Type} [Interchange α] (s : String) : Option α :=
  (read? s).bind (ofDatum? dialect)

end Toml
end ChainParams
