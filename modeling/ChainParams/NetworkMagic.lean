import ChainParams.Text.Digit

/-!
# NetworkMagic — the word that marks a network's messages
-/

namespace ChainParams

/-- The 32-bit word that opens every message of a network and so tells networks apart. -/
structure NetworkMagic where
  word : UInt32
  deriving DecidableEq, Repr, Hashable, Inhabited

namespace NetworkMagic

def render (m : NetworkMagic) : String :=
  Text.wordLiteral m.word

/-- The four bytes of `m.word` as they are sent, the lowest first. -/
def wireBytes (m : NetworkMagic) : List UInt8 :=
  (List.range 4).map fun i => UInt8.ofNat (m.word.toNat >>> (8 * i))

end NetworkMagic
end ChainParams
