/-!
# Argument — how an argument is spelled

An argument that begins with two dashes names an option in full, and one that begins with a single
dash by a letter. Either may carry a value: after an equals sign, or right behind the letter. Two
dashes alone end the options, and a dash alone is a word like any other.
-/

namespace ChainParams

/-- An argument by its spelling, where `attached` is a value that came with the option. -/
inductive Argument
  /-- Two dashes: all arguments after it are words. -/
  | escape
  | long (name : String) (attached : Option String)
  | short (letter : Char) (attached : Option String)
  | word
  deriving DecidableEq, Repr

namespace Argument

def afterEquals : List Char → Option String
  | '=' :: cs => some (String.ofList cs)
  | _ => none

/-- The value right behind a letter, where `=` may come between. -/
def behindLetter : List Char → Option String
  | [] => none
  | '=' :: cs => some (String.ofList cs)
  | cs => some (String.ofList cs)

def ofString (s : String) : Argument :=
  match s.toList with
  | ['-', '-'] => .escape
  | '-' :: '-' :: cs =>
      .long (String.ofList (cs.takeWhile (· != '='))) (afterEquals (cs.dropWhile (· != '=')))
  | '-' :: c :: cs => .short c (behindLetter cs)
  | _ => .word

end Argument
end ChainParams
