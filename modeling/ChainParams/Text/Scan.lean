/-!
# Scan — reading a text from left to right

A scan takes characters off the front of a text and gives a value and the rest, or fails. Scans are
state transformers over `Option`, so they are put together with `do`, and `<|>` tries a second scan
on the same text where the first one fails.
-/

namespace ChainParams
namespace Text

/-- A step of reading: the text goes in, and a value of `α` and the unread rest come out. -/
abbrev Scan := StateT (List Char) Option

namespace Scan

def satisfy (p : Char → Bool) : Scan Char
  | c :: cs => if p c then some (c, cs) else none
  | [] => none

def char (c : Char) : Scan Unit := do
  let _ ← satisfy (· == c)

def exactly : List Char → Scan Unit
  | [] => pure ()
  | c :: cs => do
      char c
      exactly cs

/-- Takes the longest run of characters that satisfy `p`, which may be empty. -/
def run (p : Char → Bool) : Scan (List Char) := fun cs =>
  some (cs.takeWhile p, cs.dropWhile p)

/-- Takes the longest run of at most `limit` characters that satisfy `p`. -/
def runUpTo (limit : Nat) (p : Char → Bool) : Scan (List Char) := fun cs =>
  let taken := (cs.take limit).takeWhile p
  some (taken, cs.drop taken.length)

/-- The next character, which stays where it is. -/
def peek : Scan Char
  | c :: cs => some (c, c :: cs)
  | [] => none

/-- What `p` reads, or `none` where it fails. -/
def maybe {α : Type} (p : Scan α) : Scan (Option α) := fun cs =>
  match p cs with
  | some (a, rest) => some (some a, rest)
  | none => some (none, cs)

/-- Repeats `p` until it fails, at most `limit` times. -/
def repeatUpTo {α : Type} (p : Scan α) : Nat → Scan (List α)
  | 0 => pure []
  | limit + 1 => fun cs =>
      match p cs with
      | none => some ([], cs)
      | some (a, rest) =>
          match repeatUpTo p limit rest with
          | none => none
          | some (as, rest) => some (a :: as, rest)

/-- Repeats `p` until it fails. If `p` takes a character each time, it fails at the latest after as
many rounds as the text has characters. -/
def many {α : Type} (p : Scan α) : Scan (List α) := fun cs =>
  repeatUpTo p cs.length cs

/-- The text that `p` takes, as it stands. -/
def literal {α : Type} (p : Scan α) : Scan String := fun cs =>
  match p cs with
  | some (_, rest) => some (String.ofList (cs.take (cs.length - rest.length)), rest)
  | none => none

/-- What `p` reads from `cs`, if it leaves no rest. -/
def whole? {α : Type} (p : Scan α) (cs : List Char) : Option α :=
  match p cs with
  | some (a, []) => some a
  | _ => none

end Scan
end Text
end ChainParams
