import ChainParams.CompactTarget
import ChainParams.Hash256
import ChainParams.Time.Timestamp

/-!
# GenesisBlock — the first block of a chain
-/

namespace ChainParams

/-- The header of a chain's first block. -/
structure GenesisBlock where
  version : Int32
  previous : Hash256
  merkleRoot : Hash256
  time : Timestamp
  bits : CompactTarget
  nonce : UInt32
  deriving DecidableEq, Repr

/-- The header of a block with `Hash256.zero` in the place of the block before it. -/
def GenesisBlock.first (version : Int32) (merkleRoot : Hash256) (time : Timestamp)
    (bits : CompactTarget) (nonce : UInt32) : GenesisBlock :=
  ⟨version, Hash256.zero, merkleRoot, time, bits, nonce⟩

end ChainParams
