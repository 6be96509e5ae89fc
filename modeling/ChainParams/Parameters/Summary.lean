import ChainParams.Parameters.Basic

/-!
# Summary — parameters in words, for people

One line for each group of parameters: a label, and the values from the 23rd column on.
-/

namespace ChainParams
namespace Parameters

/-- A number and the unit `s`: the whole seconds of a span. -/
def secondsText (d : Span) : String :=
  toString d.seconds.toNat ++ "s"

def summaryLines (p : Parameters) : List String :=
  [ "name:                 " ++ p.name
  , "magic:                " ++ p.networkMagic.render
  , "default port:         " ++ toString p.defaultPort.toNat
  , "genesis hash:         " ++ p.genesisHash.render
  , "genesis time:         " ++ p.genesisBlock.time.render
  , "validator keys:       " ++ toString p.initialValidatorKeys.length
  , "pow limit:            " ++ p.powLimit.toHex
  , "pow limit (compact):  " ++ p.powLimitCompact.render
  , "coinbase maturity:    " ++ toString p.coinbaseMaturity.toNat
  , "target block time:    " ++ secondsText p.targetBlockTime
  , "reduce min diff:      " ++ (if p.reduceMinDifficulty then "true" else "false")
  , "upgrade thresholds:   " ++ toString p.blockVersionEnforceThreshold.toNat ++ "/" ++
      toString p.blockVersionRejectThreshold.toNat ++ "/" ++
      toString p.blockVersionSampleSize.toNat
  , "prefixes:             p2pkh=" ++ Text.byteLiteral p.pubkeyHashPrefix ++
      " p2sh=" ++ Text.byteLiteral p.scriptHashPrefix ++
      " aztec=" ++ Text.byteLiteral p.aztecPrefix ++
      " wif=" ++ Text.byteLiteral p.privateKeyPrefix
  , "hd magics:            prv=" ++ p.hdPrivateId.toHex ++ " pub=" ++ p.hdPublicId.toHex ++
      " coin type=" ++ toString p.hdCoinType.toNat
  , "averaging window:     " ++ toString p.averagingWindow.toNat ++ " blocks (" ++
      secondsText p.windowTimespan ++ ")"
  , "actual timespan:      " ++ secondsText p.minTimespan ++ "..=" ++
      secondsText p.maxTimespan ++ " (up " ++ toString p.maxAdjustUpPct.toNat ++
      "%, down " ++ toString p.maxAdjustDownPct.toNat ++ "%)"
  , "signer limits:        trailing=" ++ toString p.trailingSignerLimit.toNat ++
      " window share=" ++ toString p.windowShareLimitPct.toNat ++ "%" ]

/-- The `summaryLines` of `p`, without a line break at the end. -/
def summary (p : Parameters) : String :=
  String.intercalate "\n" p.summaryLines

end Parameters
end ChainParams
