import ChainParams.Parameters.Basic

/-!
# Validity — the rules that a usable set of parameters keeps

The rules are tried in a fixed order, and the first one that is broken is reported. Registration
does not ask for them; the built-in networks and those of a configuration are held to them.
-/

namespace ChainParams

/-- A rule of `validate` that parameters can break. -/
inductive Violation
  | noValidatorKeys
  | emptyValidatorKey
  | coinbaseMaturity
  | subsidyReductionInterval
  | checkpointOrder
  | versionThresholds
  | compactLimitTooHigh
  | compactLimitMalformed
  | averagingWindow
  | blockTimeZero
  | blockTimeFraction
  | adjustmentPercentages
  deriving DecidableEq, Repr

def Violation.reason : Violation → String
  | .noValidatorKeys => "no initial validator keys"
  | .emptyValidatorKey => "empty initial validator key"
  | .coinbaseMaturity => "coinbase maturity must be positive"
  | .subsidyReductionInterval => "subsidy reduction interval must be positive"
  | .checkpointOrder => "checkpoints must strictly increase in height"
  | .versionThresholds =>
      "block version thresholds must satisfy enforce <= reject <= sample size"
  | .compactLimitTooHigh => "compact pow limit exceeds pow limit"
  | .compactLimitMalformed => "malformed compact pow limit"
  | .averagingWindow => "averaging window must be positive"
  | .blockTimeZero => "target block time must be positive"
  | .blockTimeFraction => "target block time must be whole seconds"
  | .adjustmentPercentages => "adjustment percentages must be within 0..=100"

namespace Parameters

def heightsAscend : List Checkpoint → Bool
  | a :: b :: rest => a.height < b.height && heightsAscend (b :: rest)
  | _ => true

/-- What is wrong with the word `compact` where it is to stand for at most `limit`. -/
def limitViolation? (compact : CompactTarget) (limit : Word256) : Option Violation :=
  match compact.toTarget? with
  | some target => if target ≤ limit then none else some .compactLimitTooHigh
  | none => some .compactLimitMalformed

def violation? (p : Parameters) : Option Violation :=
  if p.initialValidatorKeys = [] then some .noValidatorKeys
  else if p.initialValidatorKeys.any List.isEmpty then some .emptyValidatorKey
  else if p.coinbaseMaturity = 0 then some .coinbaseMaturity
  else if p.subsidyReductionInterval = 0 then some .subsidyReductionInterval
  else if !heightsAscend p.checkpoints then some .checkpointOrder
  else if p.blockVersionRejectThreshold < p.blockVersionEnforceThreshold ∨
      p.blockVersionSampleSize < p.blockVersionRejectThreshold then some .versionThresholds
  else
    match limitViolation? p.powLimitCompact p.powLimit with
    | some v => some v
    | none =>
        if p.averagingWindow = 0 then some .averagingWindow
        else if p.targetBlockTime.isZero then some .blockTimeZero
        else if p.targetBlockTime.nanos.val ≠ 0 then some .blockTimeFraction
        else if 100 < p.maxAdjustDownPct ∨ 100 < p.maxAdjustUpPct then
          some .adjustmentPercentages
        else none

/-- Accepts `p` if no rule is broken, and otherwise gives the reason of `violation?`. -/
def validate (p : Parameters) : Except ParamsError Unit :=
  match p.violation? with
  | some v => .error (.invalidParameters v.reason)
  | none => .ok ()

end Parameters
end ChainParams
