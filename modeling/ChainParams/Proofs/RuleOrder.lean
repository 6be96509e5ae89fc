import ChainParams.Proofs.CompactExact
import ChainParams.Proofs.Validation

/-!
# RuleOrder — usable parameters, and the first rule that others break

Each rule is stated here by what it asks for: of the checkpoints, that heights increase from any one
to any later one; of the compact limit, that the exact number it denotes is not above the limit. The
chain of checks then amounts to a search for the first rule that is not kept
(`violation?_eq_firstBroken?`). Main statement: `validate_reports_first_broken`.
-/

namespace ChainParams

/-- All violations, in the order in which `validate` looks for them. -/
def Violation.order : List Violation :=
  [.noValidatorKeys, .emptyValidatorKey, .coinbaseMaturity, .subsidyReductionInterval,
    .checkpointOrder, .versionThresholds, .compactLimitMalformed, .compactLimitTooHigh,
    .averagingWindow, .blockTimeZero, .blockTimeFraction, .adjustmentPercentages]

theorem Violation.mem_order (v : Violation) : v ∈ Violation.order := by
  cases v <;> decide

theorem Span.isZero_iff {d : Span} : d.isZero = true ↔ ¬ 0 < d.toNanos := by
  have hseconds : d.seconds = 0 ↔ d.seconds.toNat = 0 := UInt64.toNat_inj.symm
  have hnanos : d.nanos = 0 ↔ d.nanos.val = 0 := Fin.ext_iff
  simp only [isZero, Bool.and_eq_true, beq_iff_eq, hseconds, hnanos, toNanos, nanosPerSecond]
  omega

namespace Parameters

variable {p : Parameters}

/-- What `p` has to satisfy in order that `validate` does not report this violation. -/
def Keeps (p : Parameters) : Violation → Prop
  | .noValidatorKeys => p.initialValidatorKeys ≠ []
  | .emptyValidatorKey => ∀ key ∈ p.initialValidatorKeys, key ≠ []
  | .coinbaseMaturity => 0 < p.coinbaseMaturity
  | .subsidyReductionInterval => 0 < p.subsidyReductionInterval
  | .checkpointOrder => p.checkpoints.Pairwise fun a b => a.height < b.height
  | .versionThresholds =>
      p.blockVersionEnforceThreshold ≤ p.blockVersionRejectThreshold ∧
        p.blockVersionRejectThreshold ≤ p.blockVersionSampleSize
  | .compactLimitMalformed => ¬ p.powLimitCompact.Refused
  | .compactLimitTooHigh => ⌊p.powLimitCompact.exactValue⌋₊ ≤ p.powLimit.toNat
  | .averagingWindow => 0 < p.averagingWindow
  | .blockTimeZero => 0 < p.targetBlockTime.toNanos
  | .blockTimeFraction => p.targetBlockTime.nanos.val = 0
  | .adjustmentPercentages => p.maxAdjustDownPct ≤ 100 ∧ p.maxAdjustUpPct ≤ 100

instance (p : Parameters) : DecidablePred p.Keeps
  | .noValidatorKeys => inferInstanceAs (Decidable (_ ≠ _))
  | .emptyValidatorKey => inferInstanceAs (Decidable (∀ key ∈ p.initialValidatorKeys, key ≠ []))
  | .coinbaseMaturity => inferInstanceAs (Decidable (0 < p.coinbaseMaturity))
  | .subsidyReductionInterval => inferInstanceAs (Decidable (0 < p.subsidyReductionInterval))
  | .checkpointOrder => inferInstanceAs (Decidable (p.checkpoints.Pairwise _))
  | .versionThresholds => inferInstanceAs (Decidable (_ ∧ _))
  | .compactLimitMalformed => inferInstanceAs (Decidable (¬ p.powLimitCompact.Refused))
  | .compactLimitTooHigh => inferInstanceAs (Decidable (_ ≤ p.powLimit.toNat))
  | .averagingWindow => inferInstanceAs (Decidable (0 < p.averagingWindow))
  | .blockTimeZero => inferInstanceAs (Decidable (0 < p.targetBlockTime.toNanos))
  | .blockTimeFraction => inferInstanceAs (Decidable (p.targetBlockTime.nanos.val = 0))
  | .adjustmentPercentages => inferInstanceAs (Decidable (_ ∧ _))

/-! ## Single rules -/

theorem heightsAscend_iff_isChain (cs : List Checkpoint) :
    heightsAscend cs = true ↔ cs.IsChain fun a b => a.height < b.height := by
  induction cs with
  | nil =>
      simp [heightsAscend]
  | cons a rest ih =>
      cases rest with
      | nil =>
          simp [heightsAscend]
      | cons b rest =>
          rw [heightsAscend, List.isChain_cons_cons, ← ih, Bool.and_eq_true, decide_eq_true_iff]

/-- The test `heightsAscend` compares neighbours only, but `<` is transitive, so it holds just if
all pairs ascend. -/
theorem heightsAscend_iff_pairwise (cs : List Checkpoint) :
    heightsAscend cs = true ↔ cs.Pairwise fun a b => a.height < b.height := by
  have : Trans (fun a b : Checkpoint => a.height < b.height)
      (fun a b : Checkpoint => a.height < b.height)
      (fun a b : Checkpoint => a.height < b.height) :=
    ⟨fun hab hbc => UInt32.lt_trans hab hbc⟩
  rw [heightsAscend_iff_isChain, List.isChain_iff_pairwise]

/-- The check `limitViolation?` in terms of `Refused` and `exactValue`, without `toTarget?`. -/
theorem limitViolation?_eq (c : CompactTarget) (limit : Word256) :
    limitViolation? c limit =
      if c.Refused then some .compactLimitMalformed
      else if ⌊c.exactValue⌋₊ ≤ limit.toNat then none
      else some .compactLimitTooHigh := by
  by_cases hrefused : c.Refused
  · simp only [limitViolation?, (CompactTarget.toTarget?_eq_none_iff c).2 hrefused, hrefused,
      if_true]
  · rcases CompactTarget.exists_toTarget?_of_not_refused hrefused with ⟨t, ht⟩
    have hvalue : t.toNat = ⌊c.exactValue⌋₊ :=
      (CompactTarget.toNat_of_toTarget? ht).trans (CompactTarget.magnitude_eq_floor c)
    simp only [limitViolation?, ht, hrefused, if_false, BitVec.le_def, hvalue]

/-! ## The search for a broken rule -/

/-- The first of `rules` that `p` does not keep. -/
def firstBroken? (p : Parameters) (rules : List Violation) : Option Violation :=
  rules.find? fun v => ¬ p.Keeps v

variable {v : Violation} {rules : List Violation} {rest : Option Violation}

theorem firstBroken?_cons :
    p.firstBroken? (v :: rules) = if p.Keeps v then p.firstBroken? rules else some v := by
  by_cases hv : p.Keeps v
  · simp [firstBroken?, hv]
  · simp [firstBroken?, hv]

theorem rule_eq_firstBroken? {c : Prop} [Decidable c] (hc : c ↔ ¬ p.Keeps v)
    (hrest : rest = p.firstBroken? rules) :
    (if c then some v else rest) = p.firstBroken? (v :: rules) := by
  rw [firstBroken?_cons, hrest]
  simp only [hc, ite_not]

/-- The one check `limitViolation?` covers the two rules `.compactLimitMalformed` and
`.compactLimitTooHigh`. -/
theorem limit_eq_firstBroken? (hrest : rest = p.firstBroken? rules) :
    (match limitViolation? p.powLimitCompact p.powLimit with
      | some v => some v
      | none => rest) =
      p.firstBroken? (.compactLimitMalformed :: .compactLimitTooHigh :: rules) := by
  rw [firstBroken?_cons, firstBroken?_cons, limitViolation?_eq, hrest]
  simp only [Keeps]
  by_cases hrefused : p.powLimitCompact.Refused
  · simp only [hrefused, if_true, not_true, if_false]
  · by_cases hlimit : ⌊p.powLimitCompact.exactValue⌋₊ ≤ p.powLimit.toNat
    · simp only [hrefused, hlimit, if_true, not_false_eq_true, if_false]
    · simp only [hrefused, hlimit, if_true, not_false_eq_true, if_false]

theorem violation?_eq_firstBroken? (p : Parameters) :
    p.violation? = p.firstBroken? Violation.order := by
  have hcheckpoints : (!heightsAscend p.checkpoints) = true ↔ ¬ p.Keeps .checkpointOrder := by
    rw [Bool.not_eq_true', ← Bool.not_eq_true, heightsAscend_iff_pairwise, Keeps]
  have hthresholds : (p.blockVersionRejectThreshold < p.blockVersionEnforceThreshold ∨
      p.blockVersionSampleSize < p.blockVersionRejectThreshold) ↔
        ¬ p.Keeps .versionThresholds := by
    rw [Keeps, not_and_or, UInt64.not_le, UInt64.not_le]
  have hpercentages : (100 < p.maxAdjustDownPct ∨ 100 < p.maxAdjustUpPct) ↔
      ¬ p.Keeps .adjustmentPercentages := by
    rw [Keeps, not_and_or, UInt32.not_le, UInt32.not_le]
  -- One step for each rule in order. Each time the check has to find that the rule is not kept.
  rw [violation?]
  refine rule_eq_firstBroken? (v := .noValidatorKeys) (by simp [Keeps]) ?_
  refine rule_eq_firstBroken? (v := .emptyValidatorKey) (by simp [Keeps]) ?_
  refine rule_eq_firstBroken? (v := .coinbaseMaturity) (by simp [Keeps]) ?_
  refine rule_eq_firstBroken? (v := .subsidyReductionInterval) (by simp [Keeps]) ?_
  refine rule_eq_firstBroken? hcheckpoints ?_
  refine rule_eq_firstBroken? hthresholds ?_
  refine limit_eq_firstBroken? ?_
  refine rule_eq_firstBroken? (v := .averagingWindow) (by simp [Keeps]) ?_
  refine rule_eq_firstBroken? (v := .blockTimeZero) Span.isZero_iff ?_
  refine rule_eq_firstBroken? (v := .blockTimeFraction) Iff.rfl ?_
  exact rule_eq_firstBroken? hpercentages rfl

theorem violation?_eq_none_iff_forall : p.violation? = none ↔ ∀ v, p.Keeps v := by
  rw [violation?_eq_firstBroken?, firstBroken?, List.find?_eq_none]
  constructor
  · intro h v
    simpa using h v v.mem_order
  · intro h v _
    simpa using h v

theorem violation?_eq_some_iff_first : p.violation? = some v ↔
    ∃ before after, Violation.order = before ++ v :: after ∧
      (∀ u ∈ before, p.Keeps u) ∧ ¬ p.Keeps v := by
  rw [violation?_eq_firstBroken?, firstBroken?, List.find?_eq_some_iff_append]
  constructor
  · rintro ⟨hbroken, before, after, horder, hkept⟩
    exact ⟨before, after, horder, by simpa using hkept, by simpa using hbroken⟩
  · rintro ⟨before, after, horder, hkept, hbroken⟩
    exact ⟨by simpa using hbroken, before, after, horder, by simpa using hkept⟩

theorem validate_eq_error_iff_exists {e : ParamsError} :
    p.validate = .error e ↔ ∃ v, p.violation? = some v ∧ e = .invalidParameters v.reason := by
  rw [validate]
  cases p.violation? with
  | none =>
      simp
  | some w =>
      simp [eq_comm]

theorem nodup_heights (h : p.Keeps .checkpointOrder) :
    (p.checkpoints.map Checkpoint.height).Nodup := by
  refine List.pairwise_map.2 (List.Pairwise.imp ?_ h)
  intro a b hlt
  exact UInt32.ne_of_lt hlt

/-! ## Main statement -/

/-- The parameters `p` are accepted just if `p.Keeps v` for all violations `v`. Otherwise the error
is the reason of the first `v` in `Violation.order` that `p` does not keep. If `p` is accepted, no
two checkpoints have the same height. -/
theorem validate_reports_first_broken (p : Parameters) :
    (p.validate = .ok () ↔ ∀ v, p.Keeps v) ∧
    (∀ e, p.validate = .error e ↔
      ∃ before v after, Violation.order = before ++ v :: after ∧
        (∀ u ∈ before, p.Keeps u) ∧ ¬ p.Keeps v ∧ e = .invalidParameters v.reason) ∧
    (p.validate = .ok () → (p.checkpoints.map Checkpoint.height).Nodup) := by
  have haccepted : p.validate = .ok () ↔ ∀ v, p.Keeps v :=
    validate_eq_ok_iff.trans violation?_eq_none_iff_forall
  refine ⟨haccepted, fun e => ?_, fun h => nodup_heights (haccepted.1 h _)⟩
  rw [validate_eq_error_iff_exists]
  constructor
  · rintro ⟨v, hv, he⟩
    rcases violation?_eq_some_iff_first.1 hv with ⟨before, after, horder, hkept, hbroken⟩
    exact ⟨before, v, after, horder, hkept, hbroken, he⟩
  · rintro ⟨before, v, after, horder, hkept, hbroken, he⟩
    exact ⟨v, violation?_eq_some_iff_first.2 ⟨before, after, horder, hkept, hbroken⟩, he⟩

/-- The regression test network with checkpoints at `heights` and an averaging window of
`blocks`. -/
def checkpointedRegtest (heights : List UInt32) (blocks : UInt32) : Parameters :=
  { Catalog.regtest with
    checkpoints := heights.map fun height => ⟨height, .zero⟩
    averagingWindow := blocks }

/-- Checkpoints at 10, 15 and 20 are accepted. At 10, 20 and 15 their order is reported, and not
that the window is empty as well. -/
theorem first_broken_of_two :
    ((checkpointedRegtest [10, 15, 20] 17).validate = .ok () ∧
      ((checkpointedRegtest [10, 15, 20] 17).checkpoints.map Checkpoint.height).Nodup) ∧
    (∀ u ∈ [.noValidatorKeys, .emptyValidatorKey, .coinbaseMaturity, .subsidyReductionInterval],
      (checkpointedRegtest [10, 20, 15] 0).Keeps u) ∧
    ¬ (checkpointedRegtest [10, 20, 15] 0).Keeps .checkpointOrder ∧
    ¬ (checkpointedRegtest [10, 20, 15] 0).Keeps .averagingWindow ∧
    (checkpointedRegtest [10, 20, 15] 0).validate =
      .error (.invalidParameters "checkpoints must strictly increase in height") := by
  have hvalid : (checkpointedRegtest [10, 15, 20] 17).validate = .ok () := by
    decide +kernel
  have hkept : ∀ u ∈ [.noValidatorKeys, .emptyValidatorKey, .coinbaseMaturity,
      .subsidyReductionInterval], (checkpointedRegtest [10, 20, 15] 0).Keeps u := by
    decide +kernel
  have hbroken : ¬ (checkpointedRegtest [10, 20, 15] 0).Keeps .checkpointOrder := by
    decide +kernel
  rcases validate_reports_first_broken (checkpointedRegtest [10, 15, 20] 17) with ⟨_, _, hnodup⟩
  rcases validate_reports_first_broken (checkpointedRegtest [10, 20, 15] 0) with ⟨_, herror, _⟩
  exact ⟨⟨hvalid, hnodup hvalid⟩, hkept, hbroken, by decide +kernel,
    (herror _).2 ⟨_, .checkpointOrder, _, rfl, hkept, hbroken, rfl⟩⟩

end Parameters
end ChainParams
