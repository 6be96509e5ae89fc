import ChainParams.Error
import ChainParams.Word256

/-!
# Hash256 — block and transaction hashes

A hash is a 256-bit word. Its text is the word in 64 hexadecimal digits, the highest first; its
bytes come in the opposite order, the lowest first. Hashes are ordered as numbers, which is the
order of their texts.
-/

namespace ChainParams

structure Hash256 where
  word : Word256
  deriving DecidableEq, Repr

namespace Hash256

/-- The hash with all bits clear, which stands for no block. -/
def zero : Hash256 := ⟨0⟩

instance : Inhabited Hash256 := ⟨zero⟩

def isZero (h : Hash256) : Bool :=
  h.word == 0

instance : LE Hash256 := ⟨fun a b => a.word ≤ b.word⟩
instance : LT Hash256 := ⟨fun a b => a.word < b.word⟩
instance (a b : Hash256) : Decidable (a ≤ b) := inferInstanceAs (Decidable (a.word ≤ b.word))
instance (a b : Hash256) : Decidable (a < b) := inferInstanceAs (Decidable (a.word < b.word))

/-- The word of `h` in 64 hexadecimal digits, the highest first, in lower case. -/
def render (h : Hash256) : String :=
  Text.hexPadded 64 h.word.toNat

/-- Reads a hash from exactly 64 hexadecimal digits of either case; any other text is
`.invalidHash`. -/
def ofHex (s : String) : Except ParamsError Hash256 :=
  match Text.digitValues? 16 s.toList with
  | some digits =>
      if digits.length = 64 then .ok ⟨BitVec.ofNat 256 (Text.positional 16 digits)⟩
      else .error .invalidHash
  | none => .error .invalidHash

/-- The 32 bytes of `h.word`, the lowest first. -/
def bytes (h : Hash256) : List UInt8 :=
  h.word.bytes

/-! ## Sorting -/

/-- Drops each element that repeats the one before it, so that a sorted list has no repeats left. -/
def dropRepeats : List Hash256 → List Hash256
  | a :: b :: rest => if a = b then dropRepeats (b :: rest) else a :: dropRepeats (b :: rest)
  | short => short

def sorted (hs : List Hash256) : List Hash256 :=
  dropRepeats (hs.mergeSort fun a b => decide (a ≤ b))

end Hash256
end ChainParams
