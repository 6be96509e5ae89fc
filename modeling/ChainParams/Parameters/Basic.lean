import ChainParams.Dampening
import ChainParams.ExtendedKeyId
import ChainParams.GenesisBlock

/-!
# Parameters — everything that tells one network from another

The constants of consensus, the bytes in front of addresses and keys, and the setup of the
difficulty adjustment. A set of parameters is a plain record: which sets are usable is said in
`ChainParams.Parameters.Validity`.
-/

namespace ChainParams

/-- A block of the chain that is known to be good. -/
structure Checkpoint where
  height : UInt32
  hash : Hash256
  deriving DecidableEq, Repr

structure Parameters where
  name : String
  networkMagic : NetworkMagic
  defaultPort : UInt16
  dnsSeeds : List String

  genesisBlock : GenesisBlock
  genesisHash : Hash256
  /-- The keys that may make blocks while the chain names no validator, in their order. -/
  initialValidatorKeys : List (List UInt8)

  powLimit : Word256
  powLimitCompact : CompactTarget
  coinbaseMaturity : UInt16
  subsidyReductionInterval : UInt32
  targetTimespan : Span
  targetBlockTime : Span
  /-- Whether the least difficulty is allowed when no block came for `minDiffReductionTime`. -/
  reduceMinDifficulty : Bool
  minDiffReductionTime : Span
  generateSupported : Bool

  checkpoints : List Checkpoint

  /-- Blocks of a new version from which its rules are enforced. -/
  blockVersionEnforceThreshold : UInt64
  /-- Blocks of a new version from which older ones are rejected. -/
  blockVersionRejectThreshold : UInt64
  /-- Blocks that are looked at for these thresholds. -/
  blockVersionSampleSize : UInt64

  relayNonstandardTxs : Bool

  pubkeyHashPrefix : UInt8
  scriptHashPrefix : UInt8
  /-- The first byte of an Aztec address, or `0` for a network without them. -/
  aztecPrefix : UInt8
  privateKeyPrefix : UInt8

  hdPrivateId : ExtendedKeyId
  hdPublicId : ExtendedKeyId
  /-- The network's number among coins of hierarchical wallets. -/
  hdCoinType : UInt32

  averagingWindow : UInt32
  maxAdjustDownPct : UInt32
  maxAdjustUpPct : UInt32

  /-- Blocks in a row that one key may sign. -/
  trailingSignerLimit : UInt32
  /-- The share of the window that one key may sign, in percent. -/
  windowShareLimitPct : UInt32
  deriving DecidableEq, Repr

namespace Parameters

def dampening (p : Parameters) : DampeningWindow :=
  { blocks := p.averagingWindow
    blockTime := p.targetBlockTime
    maxDownPct := p.maxAdjustDownPct
    maxUpPct := p.maxAdjustUpPct }

def windowTimespan (p : Parameters) : Span := p.dampening.timespan

def maxTimespan (p : Parameters) : Span := p.dampening.maxTimespan

def minTimespan (p : Parameters) : Span := p.dampening.minTimespan

end Parameters
end ChainParams
