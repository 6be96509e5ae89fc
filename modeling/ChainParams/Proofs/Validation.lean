import ChainParams.Config.Basic
import ChainParams.Parameters.Validity

/-!
# Validation — what the rules ask of a set of parameters

A set passes if it keeps every rule (`violation?_eq_none_iff`). No rule looks at what identifies a
network, so two sets that differ in that alone are valid or not for the same reason
(`validate_congr`). Custom networks differ from their base in nothing else.
-/

namespace ChainParams
namespace Parameters

variable {p q : Parameters}

/-! ## Keeping every rule -/

theorem rule_eq_none_iff {c : Prop} [Decidable c] {v : Violation} {rest : Option Violation} :
    (if c then some v else rest) = none ↔ ¬ c ∧ rest = none := by
  by_cases hc : c
  · simp [hc]
  · simp [hc]

theorem validate_eq_ok_iff : p.validate = .ok () ↔ p.violation? = none := by
  rw [validate]
  cases p.violation? with
  | none =>
      simp
  | some v =>
      simp

theorem violation?_eq_none_iff :
    p.violation? = none ↔
      p.initialValidatorKeys ≠ [] ∧ ¬ p.initialValidatorKeys.any List.isEmpty = true ∧
      p.coinbaseMaturity ≠ 0 ∧ p.subsidyReductionInterval ≠ 0 ∧
      heightsAscend p.checkpoints = true ∧
      ¬ (p.blockVersionRejectThreshold < p.blockVersionEnforceThreshold ∨
        p.blockVersionSampleSize < p.blockVersionRejectThreshold) ∧
      limitViolation? p.powLimitCompact p.powLimit = none ∧
      p.averagingWindow ≠ 0 ∧ ¬ p.targetBlockTime.isZero = true ∧
      p.targetBlockTime.nanos.val = 0 ∧
      ¬ (100 < p.maxAdjustDownPct ∨ 100 < p.maxAdjustUpPct) := by
  unfold violation?
  cases limitViolation? p.powLimitCompact p.powLimit with
  | none =>
      simp only [rule_eq_none_iff, Bool.not_eq_true', Bool.not_eq_false, ne_eq, Decidable.not_not,
        true_and, and_true]
  | some v =>
      simp only [rule_eq_none_iff, reduceCtorEq, false_and, and_false]

/-! ## What no rule looks at -/

/-- The parameters `p` with the fields of `q` that identify a network: its name, magic, port,
address and key prefixes, key identifiers and coin type. -/
def withIdentity (p q : Parameters) : Parameters :=
  { p with
    name := q.name
    networkMagic := q.networkMagic
    defaultPort := q.defaultPort
    pubkeyHashPrefix := q.pubkeyHashPrefix
    scriptHashPrefix := q.scriptHashPrefix
    aztecPrefix := q.aztecPrefix
    privateKeyPrefix := q.privateKeyPrefix
    hdPrivateId := q.hdPrivateId
    hdPublicId := q.hdPublicId
    hdCoinType := q.hdCoinType }

/-- The parameters `p` and `q` agree in all fields but those that `withIdentity` takes over. -/
def SameUpToIdentity (p q : Parameters) : Prop :=
  p.withIdentity q = q

theorem violation?_withIdentity : (p.withIdentity q).violation? = p.violation? := rfl

theorem validate_congr (h : p.SameUpToIdentity q) : p.validate = q.validate := by
  have hviolation : p.violation? = q.violation? := by
    calc
      p.violation? = (p.withIdentity q).violation? := violation?_withIdentity.symm
      _ = q.violation? := by rw [h]
  simp [validate, hviolation]

end Parameters

/-! ## Custom networks -/

theorem Network.violation?_parameters (n : Network) : n.parameters.violation? = none := by
  cases n <;> decide +kernel

namespace CustomNetwork

theorem sameUpToIdentity_base (c : CustomNetwork) :
    c.base.parameters.SameUpToIdentity c.parameters := rfl

/-- Every custom network passes `validate`, since its base does. -/
theorem validate_parameters (c : CustomNetwork) : c.parameters.validate = .ok () := by
  have hbase : c.base.parameters.validate = .ok () :=
    Parameters.validate_eq_ok_iff.2 (Network.violation?_parameters c.base)
  rw [← Parameters.validate_congr c.sameUpToIdentity_base]
  exact hbase

end CustomNetwork
end ChainParams
