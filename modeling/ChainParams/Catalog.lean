import ChainParams.Network
import ChainParams.Parameters.Basic

/-!
# Catalog — the parameters of the built-in networks

Each built-in network has one record. All of them begin with the same transaction at the same time
and start from the same four validator keys.
-/

namespace ChainParams
namespace Catalog

/-! ## What the built-in networks share -/

/-- The keys that may make the first blocks, compressed points of the curve, in the order in which
they take turns. -/
def validatorKeys : List (List UInt8) :=
  [ [ 0x03, 0x5f, 0x51, 0x03, 0x85, 0x2b, 0xd7, 0xd9, 0xc9, 0xc2, 0x8e,
      0x44, 0xca, 0xf1, 0xf7, 0x18, 0x89, 0x41, 0xe1, 0x62, 0x95, 0x06,
      0x2c, 0xa4, 0xc8, 0x99, 0x28, 0xa8, 0xcc, 0xff, 0x99, 0x3c, 0xd3 ],
    [ 0x02, 0x65, 0xde, 0x49, 0x39, 0x9e, 0x78, 0x02, 0x00, 0x26, 0x21,
      0x94, 0x92, 0xe2, 0xa6, 0xe1, 0xa4, 0x1e, 0x93, 0x59, 0x1b, 0x87,
      0x22, 0x0a, 0xe8, 0xa2, 0xf3, 0xeb, 0xf3, 0x47, 0x3d, 0xbe, 0xef ],
    [ 0x03, 0x9c, 0xb9, 0x4c, 0x99, 0xc4, 0x70, 0x09, 0x18, 0x25, 0x0c,
      0x40, 0xfa, 0x35, 0xb7, 0xfa, 0x0a, 0x75, 0xa9, 0x67, 0xc9, 0x36,
      0x6a, 0xa1, 0x9b, 0x8f, 0xc3, 0x54, 0x37, 0x33, 0x68, 0xbe, 0xef ],
    [ 0x03, 0x13, 0x37, 0xab, 0x09, 0x07, 0x02, 0x54, 0x63, 0x80, 0x75,
      0xc7, 0xb5, 0x96, 0x43, 0xdc, 0xe2, 0xd6, 0x0c, 0x52, 0x60, 0xbf,
      0x58, 0x41, 0xd2, 0xf8, 0xcc, 0x6f, 0x75, 0xf6, 0x79, 0x0d, 0x4e ] ]

def genesisTime : Timestamp :=
  ⟨1483228800, 0, by decide, by decide⟩

/-- The Merkle root of the one transaction in the first block. -/
def genesisMerkleRoot : Hash256 :=
  ⟨0x4a5e1e4baab89f3a32518a88c31bc87f618f76673e2cc77ab2127b7afdeda33b⟩

/-- The first block of a built-in network, with `bits` for its target and the `nonce` that meets
it. -/
def genesis (bits : CompactTarget) (nonce : UInt32) : GenesisBlock :=
  GenesisBlock.first 1 genesisMerkleRoot genesisTime bits nonce

/-! ## The records -/

def mainnet : Parameters :=
  { name := Network.mainnet.name
    networkMagic := ⟨0xd9b4bef9⟩
    defaultPort := 7979
    dnsSeeds := []
    genesisBlock := genesis ⟨0x1f07ffff⟩ 0x2f5a
    genesisHash :=
      ⟨0x00003ebbd23b7cca0929441e6672e0c1023d9e30c96aae7cd458cec3508dbfb6⟩
    initialValidatorKeys := validatorKeys
    powLimit := 0x7ffffffffffffffffffffffffffffffffffffffffffffffffffffffffffff
    powLimitCompact := ⟨0x1f07ffff⟩
    coinbaseMaturity := 100
    subsidyReductionInterval := 210000
    targetTimespan := .ofSeconds 1209600
    targetBlockTime := .ofSeconds 60
    reduceMinDifficulty := false
    minDiffReductionTime := .zero
    generateSupported := false
    checkpoints := []
    blockVersionEnforceThreshold := 750
    blockVersionRejectThreshold := 950
    blockVersionSampleSize := 1000
    relayNonstandardTxs := false
    pubkeyHashPrefix := 0x00
    scriptHashPrefix := 0x05
    aztecPrefix := 0x33
    privateKeyPrefix := 0x80
    hdPrivateId := ⟨0x04, 0x88, 0xad, 0xe4⟩
    hdPublicId := ⟨0x04, 0x88, 0xb2, 0x1e⟩
    hdCoinType := 0
    averagingWindow := 17
    maxAdjustDownPct := 32
    maxAdjustUpPct := 16
    trailingSignerLimit := 2
    windowShareLimitPct := 25 }

def regtest : Parameters :=
  { name := Network.regtest.name
    networkMagic := ⟨0xdab5bffa⟩
    defaultPort := 18444
    dnsSeeds := []
    genesisBlock := genesis ⟨0x200f0f0f⟩ 2
    genesisHash :=
      ⟨0x0000de6916636afed81f8cfc8e3485a7fe9a7137089980a638903bdf72825d66⟩
    initialValidatorKeys := validatorKeys
    powLimit := 0x0f0f0f0f0f0f0f0f0f0f0f0f0f0f0f0f0f0f0f0f0f0f0f0f0f0f0f0f0f0f0f0f
    powLimitCompact := ⟨0x200f0f0f⟩
    coinbaseMaturity := 100
    subsidyReductionInterval := 150
    targetTimespan := .ofSeconds 1209600
    targetBlockTime := .ofSeconds 60
    reduceMinDifficulty := true
    minDiffReductionTime := .ofSeconds 1200
    generateSupported := true
    checkpoints := []
    blockVersionEnforceThreshold := 750
    blockVersionRejectThreshold := 950
    blockVersionSampleSize := 1000
    relayNonstandardTxs := true
    pubkeyHashPrefix := 0x6f
    scriptHashPrefix := 0xc4
    aztecPrefix := 0x58
    privateKeyPrefix := 0xef
    hdPrivateId := ⟨0x04, 0x35, 0x83, 0x94⟩
    hdPublicId := ⟨0x04, 0x35, 0x87, 0xcf⟩
    hdCoinType := 1
    averagingWindow := 17
    maxAdjustDownPct := 32
    maxAdjustUpPct := 16
    trailingSignerLimit := 0
    windowShareLimitPct := 0 }

/-- The public test network, the third of its kind. -/
def testnet3 : Parameters :=
  { name := Network.testnet3.name
    networkMagic := ⟨0x0709110b⟩
    defaultPort := 17979
    dnsSeeds := []
    genesisBlock := genesis ⟨0x2007ffff⟩ 0x18aea41a
    genesisHash :=
      ⟨0x0000cfe4502338e8ebc2a343448c3578dd4a4658c449255c2dcd34920625fbea⟩
    initialValidatorKeys := validatorKeys
    powLimit := 0x07ffffffffffffffffffffffffffffffffffffffffffffffffffffffffffffff
    powLimitCompact := ⟨0x2007ffff⟩
    coinbaseMaturity := 100
    subsidyReductionInterval := 210000
    targetTimespan := .ofSeconds 1209600
    targetBlockTime := .ofSeconds 60
    reduceMinDifficulty := true
    minDiffReductionTime := .ofSeconds 1200
    generateSupported := false
    checkpoints := []
    blockVersionEnforceThreshold := 51
    blockVersionRejectThreshold := 75
    blockVersionSampleSize := 100
    relayNonstandardTxs := true
    pubkeyHashPrefix := 0x6f
    scriptHashPrefix := 0xc4
    aztecPrefix := 0x58
    privateKeyPrefix := 0xef
    hdPrivateId := ⟨0x04, 0x35, 0x83, 0x94⟩
    hdPublicId := ⟨0x04, 0x35, 0x87, 0xcf⟩
    hdCoinType := 1
    averagingWindow := 17
    maxAdjustDownPct := 64
    maxAdjustUpPct := 64
    trailingSignerLimit := 45
    windowShareLimitPct := 50 }

/-- The network for simulations among a few nodes. It has no `dnsSeeds`, as it would be public with
them. -/
def simnet : Parameters :=
  { name := Network.simnet.name
    networkMagic := ⟨0x12141c16⟩
    defaultPort := 18555
    dnsSeeds := []
    genesisBlock := genesis ⟨0x207fffff⟩ 0
    genesisHash :=
      ⟨0x00001d10c305f0fa2e556eb4d02f8c596c6f21aa588832e40f1d795323b336ab⟩
    initialValidatorKeys := validatorKeys
    powLimit := 0x7fffffffffffffffffffffffffffffffffffffffffffffffffffffffffffffff
    powLimitCompact := ⟨0x207fffff⟩
    coinbaseMaturity := 100
    subsidyReductionInterval := 210000
    targetTimespan := .ofSeconds 1209600
    targetBlockTime := .ofSeconds 60
    reduceMinDifficulty := true
    minDiffReductionTime := .ofSeconds 1200
    generateSupported := true
    checkpoints := []
    blockVersionEnforceThreshold := 51
    blockVersionRejectThreshold := 75
    blockVersionSampleSize := 100
    relayNonstandardTxs := true
    pubkeyHashPrefix := 0x3f
    scriptHashPrefix := 0x7b
    aztecPrefix := 0x00
    privateKeyPrefix := 0x64
    hdPrivateId := ⟨0x04, 0x20, 0xb9, 0x00⟩
    hdPublicId := ⟨0x04, 0x20, 0xbd, 0x3a⟩
    hdCoinType := 115
    averagingWindow := 17
    maxAdjustDownPct := 32
    maxAdjustUpPct := 16
    trailingSignerLimit := 2
    windowShareLimitPct := 25 }

end Catalog

def Network.parameters : Network → Parameters
  | .mainnet => Catalog.mainnet
  | .regtest => Catalog.regtest
  | .testnet3 => Catalog.testnet3
  | .simnet => Catalog.simnet

/-- The parameters of `Network.all`, in the order in which they are registered. -/
def catalog : List Parameters :=
  Network.all.map Network.parameters

end ChainParams
