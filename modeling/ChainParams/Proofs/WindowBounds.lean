import Mathlib.Algebra.Group.Nat.Defs
import Mathlib.Order.MinMax
import ChainParams.Proofs.Validation

/-!
# WindowBounds — the bounds on a window against its length on schedule

Products of time stop at the longest span, and a percentage of a window at the largest word before
it is divided. Both rules are stated here on plain numbers. Main statement:
`window_on_schedule_undampened_iff`, by which a window that took as long as it should is left alone
exactly as long as a hundred times its seconds fit 64 bits.
-/

namespace ChainParams

/-! ## Spans by their length -/

namespace Span

theorem toNanos_eq (d : Span) : d.toNanos = d.seconds.toNat * 1000000000 + d.nanos.val := rfl

theorem nanos_lt (d : Span) : d.nanos.val < 1000000000 := d.nanos.isLt

theorem toNanos_injective : Function.Injective toNanos := by
  intro a b h
  have ha := a.nanos_lt
  have hb := b.nanos_lt
  rw [toNanos_eq, toNanos_eq] at h
  have hseconds : a.seconds = b.seconds := by
    apply UInt64.toNat.inj
    omega
  have hnanos : a.nanos = b.nanos := by
    apply Fin.ext
    omega
  cases a
  cases b
  simp only [mk.injEq]
  exact ⟨hseconds, hnanos⟩

theorem le_iff_toNanos_le {a b : Span} : a ≤ b ↔ a.toNanos ≤ b.toNanos := Iff.rfl

instance : LinearOrder Span where
  le_refl a := Nat.le_refl a.toNanos
  le_trans a b c hab hbc := Nat.le_trans (le_iff_toNanos_le.1 hab) (le_iff_toNanos_le.1 hbc)
  lt_iff_le_not_ge a b := Nat.lt_iff_le_and_not_ge (m := a.toNanos) (n := b.toNanos)
  le_antisymm a b hab hba := toNanos_injective (Nat.le_antisymm hab hba)
  le_total a b := Nat.le_total a.toNanos b.toNanos
  toDecidableLE := inferInstance
  toDecidableEq := inferInstance
  toDecidableLT := inferInstance

theorem seconds_eq_div (d : Span) : d.seconds.toNat = d.toNanos / 1000000000 := by
  have hnanos := d.nanos_lt
  rw [toNanos_eq]
  omega

theorem nanos_eq_mod (d : Span) : d.nanos.val = d.toNanos % 1000000000 := by
  have hnanos := d.nanos_lt
  rw [toNanos_eq]
  omega

theorem toNanos_ofSeconds (s : UInt64) : (ofSeconds s).toNanos = s.toNat * 1000000000 := by
  simp [toNanos_eq, ofSeconds]

theorem toNanos_longest : longest.toNanos = 2 ^ 64 * 1000000000 - 1 := rfl

/-- The span `d.times k` is `k` times as long as `d`, or `longest` where the product is longer. -/
theorem toNanos_times (d : Span) (k : UInt32) :
    (d.times k).toNanos = min (d.toNanos * k.toNat) longest.toNanos := by
  have hproduct : d.toNanos * k.toNat =
      d.seconds.toNat * k.toNat * 1000000000 + d.nanos.val * k.toNat := by
    rw [toNanos_eq, Nat.add_mul, Nat.mul_right_comm]
  have hlimit : UInt64.size = 2 ^ 64 := rfl
  rw [toNanos_longest, hproduct]
  -- Both products are atoms from here on: the carry is what the division leaves of the second one.
  by_cases hfits :
      d.seconds.toNat * k.toNat + d.nanos.val * k.toNat / 1000000000 < UInt64.size
  · have hseconds : (UInt64.ofNat
        (d.seconds.toNat * k.toNat + d.nanos.val * k.toNat / 1000000000)).toNat =
        d.seconds.toNat * k.toNat + d.nanos.val * k.toNat / 1000000000 :=
      UInt64.toNat_ofNat_of_lt' hfits
    rw [Nat.min_eq_left (by omega)]
    simp only [times, nanosPerSecond, hfits, if_true, toNanos_eq]
    rw [hseconds]
    omega
  · rw [Nat.min_eq_right (by omega)]
    simp only [times, nanosPerSecond, hfits, if_false, toNanos_longest]

end Span

/-! ## Windows -/

namespace DampeningWindow

variable {w : DampeningWindow}

/-- The exact product of `w.blocks` and the nanoseconds of `w.blockTime`. -/
def scheduledNanos (w : DampeningWindow) : Nat :=
  w.blocks.toNat * (w.blockTime.seconds.toNat * 1000000000 + w.blockTime.nanos.val)

/-- The exact product of `w.blocks` and the whole seconds of `w.blockTime`. -/
def scheduledSeconds (w : DampeningWindow) : Nat :=
  w.blockTime.seconds.toNat * w.blocks.toNat

theorem toNanos_timespan_eq_min (w : DampeningWindow) :
    w.timespan.toNanos = min w.scheduledNanos Span.longest.toNanos := by
  rw [timespan, Span.toNanos_times, Nat.mul_comm, Span.toNanos_eq w.blockTime, scheduledNanos]

theorem timespan_of_large (h : 2 ^ 64 - 1 < w.scheduledNanos / 1000000000) :
    w.timespan = Span.longest := by
  apply Span.toNanos_injective
  rw [toNanos_timespan_eq_min]
  apply Nat.min_eq_right
  rw [Span.toNanos_longest]
  omega

theorem toNanos_share (w : DampeningWindow) (percent : Nat) :
    (w.share percent).toNanos =
      min (w.timespan.seconds.toNat * percent) (2 ^ 64 - 1) / 100 * 1000000000 := by
  have hlimit : UInt64.size - 1 = 2 ^ 64 - 1 := rfl
  have hfits : min (w.timespan.seconds.toNat * percent) (2 ^ 64 - 1) / 100 < UInt64.size := by
    have hword : min (w.timespan.seconds.toNat * percent) (2 ^ 64 - 1) ≤ 2 ^ 64 - 1 :=
      Nat.min_le_right _ _
    omega
  rw [share, Span.toNanos_ofSeconds, hlimit, UInt64.toNat_ofNat_of_lt' hfits]

/-- The lower bound is a share of `100 - maxUpPct` percent of `w.timespan`, and so no longer than
it. -/
theorem minTimespan_le_timespan (w : DampeningWindow) : w.minTimespan ≤ w.timespan := by
  have hshare : w.timespan.seconds.toNat * (100 - w.maxUpPct.toNat) ≤
      w.timespan.seconds.toNat * 100 := Nat.mul_le_mul_left _ (Nat.sub_le _ _)
  have hsaturated : min (w.timespan.seconds.toNat * (100 - w.maxUpPct.toNat)) (2 ^ 64 - 1) ≤
      w.timespan.seconds.toNat * (100 - w.maxUpPct.toNat) := Nat.min_le_left _ _
  have hlength := w.timespan.toNanos_eq
  rw [Span.le_iff_toNanos_le, minTimespan, toNanos_share]
  omega

theorem clamp_eq_self_iff {x : Span} (hmin : w.minTimespan ≤ x) :
    w.clamp x = x ↔ x ≤ w.maxTimespan := by
  rw [clamp, max_eq_left hmin, min_eq_left_iff]

/-! ### Blocks of whole seconds -/

theorem scheduledNanos_eq (h : w.blockTime.nanos.val = 0) :
    w.scheduledNanos = w.scheduledSeconds * 1000000000 := by
  rw [scheduledNanos, h, Nat.add_zero, scheduledSeconds, Nat.mul_comm, Nat.mul_right_comm]

theorem toNanos_timespan (h : w.blockTime.nanos.val = 0) :
    w.timespan.toNanos = min (w.scheduledSeconds * 1000000000) (2 ^ 64 * 1000000000 - 1) := by
  rw [toNanos_timespan_eq_min, scheduledNanos_eq h, Span.toNanos_longest]

theorem seconds_timespan (h : w.blockTime.nanos.val = 0) :
    w.timespan.seconds.toNat = min w.scheduledSeconds (2 ^ 64 - 1) := by
  rw [Span.seconds_eq_div, toNanos_timespan h]
  omega

/-- A `timespan` of `2 ^ 64` seconds and more is cut off to `Span.longest`, which is no whole number
of seconds. -/
theorem nanos_timespan_eq_zero_iff (h : w.blockTime.nanos.val = 0) :
    w.timespan.nanos.val = 0 ↔ w.scheduledSeconds < 2 ^ 64 := by
  rw [Span.nanos_eq_mod, toNanos_timespan h]
  omega

/-- Where `scheduledSeconds` reaches `2 ^ 64`, the `timespan` is `Span.longest`. -/
theorem timespan_eq_longest (h : w.blockTime.nanos.val = 0) (hlong : 2 ^ 64 ≤ w.scheduledSeconds) :
    w.timespan = Span.longest := by
  apply timespan_of_large
  rw [scheduledNanos_eq h, Nat.mul_div_cancel _ (by decide)]
  omega

theorem timespan_le_maxTimespan_iff (h : w.blockTime.nanos.val = 0) :
    w.timespan ≤ w.maxTimespan ↔ 100 * w.scheduledSeconds < 2 ^ 64 := by
  have hraised : w.timespan.seconds.toNat * 100 ≤
      w.timespan.seconds.toNat * (100 + w.maxDownPct.toNat) :=
    Nat.mul_le_mul_left _ (Nat.le_add_right _ _)
  have hseconds := seconds_timespan h
  rw [Span.le_iff_toNanos_le, maxTimespan, toNanos_share, toNanos_timespan h]
  constructor
  · -- Whatever the percentage, the bound is at most the largest word over one hundred.
    intro hbelow
    have hlimit := Nat.min_le_right
      (w.timespan.seconds.toNat * (100 + w.maxDownPct.toNat)) (2 ^ 64 - 1)
    omega
  · intro hfits
    have hproduct : 100 * w.scheduledSeconds ≤
        min (w.timespan.seconds.toNat * (100 + w.maxDownPct.toNat)) (2 ^ 64 - 1) :=
      Nat.le_min.2 ⟨by omega, by omega⟩
    omega

end DampeningWindow

/-! ## Main statement -/

namespace Parameters

/-- For valid parameters `minTimespan` never exceeds `windowTimespan`. Let `S` be the exact product
of the seconds of `targetBlockTime` and `averagingWindow`. The window is whole seconds just when
`S < 2 ^ 64`, and it is `Span.longest` otherwise. It is at most `maxTimespan`, and `clamp` leaves it
as it is, just when `100 * S < 2 ^ 64`. Past that the product behind `maxTimespan` is cut off, and
the upper bound falls below the window. -/
theorem window_on_schedule_undampened_iff (p : Parameters) (h : p.validate = .ok ()) :
    p.minTimespan ≤ p.windowTimespan ∧
    (p.windowTimespan.nanos.val = 0 ↔
      p.targetBlockTime.seconds.toNat * p.averagingWindow.toNat < 2 ^ 64) ∧
    (2 ^ 64 ≤ p.targetBlockTime.seconds.toNat * p.averagingWindow.toNat →
      p.windowTimespan = Span.longest) ∧
    (p.windowTimespan ≤ p.maxTimespan ↔
      100 * (p.targetBlockTime.seconds.toNat * p.averagingWindow.toNat) < 2 ^ 64) ∧
    (p.dampening.clamp p.windowTimespan = p.windowTimespan ↔
      100 * (p.targetBlockTime.seconds.toNat * p.averagingWindow.toNat) < 2 ^ 64) := by
  rcases violation?_eq_none_iff.1 (validate_eq_ok_iff.1 h) with
    ⟨_, _, _, _, _, _, _, _, _, hwhole, _⟩
  have hblock : p.dampening.blockTime.nanos.val = 0 := hwhole
  have hmin : p.minTimespan ≤ p.windowTimespan := p.dampening.minTimespan_le_timespan
  have hmax := DampeningWindow.timespan_le_maxTimespan_iff hblock
  refine ⟨hmin, DampeningWindow.nanos_timespan_eq_zero_iff hblock,
    DampeningWindow.timespan_eq_longest hblock, hmax, ?_⟩
  exact (DampeningWindow.clamp_eq_self_iff hmin).trans hmax

/-- The regression test network with a window of `blocks` blocks that take `seconds` each, and
percentages of zero. -/
def unadjustedRegtest (blocks : UInt32) (seconds : UInt64) : Parameters :=
  { Catalog.regtest with
    averagingWindow := blocks
    targetBlockTime := .ofSeconds seconds
    maxAdjustDownPct := 0
    maxAdjustUpPct := 0 }

/-- A window of one block of `2 ^ 64 / 100` seconds, rounded down, is left as it is by `clamp`. -/
theorem longest_undampened_block :
    (unadjustedRegtest 1 184467440737095516).validate = .ok () ∧
      (unadjustedRegtest 1 184467440737095516).dampening.clamp (.ofSeconds 184467440737095516) =
        .ofSeconds 184467440737095516 := by
  have hvalid : (unadjustedRegtest 1 184467440737095516).validate = .ok () := by
    decide +kernel
  rcases window_on_schedule_undampened_iff _ hvalid with ⟨_, _, _, _, hclamp⟩
  exact ⟨hvalid, hclamp.2 (by decide)⟩

/-- Parameters with a block of `2 ^ 64 - 1` seconds are valid, and have a `windowTimespan` above
their `maxTimespan`. With two such blocks it is cut off in the middle of a second. -/
theorem longest_blocks_dampened :
    ((unadjustedRegtest 1 18446744073709551615).validate = .ok () ∧
      ¬ (unadjustedRegtest 1 18446744073709551615).windowTimespan ≤
        (unadjustedRegtest 1 18446744073709551615).maxTimespan ∧
      (unadjustedRegtest 1 18446744073709551615).dampening.clamp
          (unadjustedRegtest 1 18446744073709551615).windowTimespan =
        .ofSeconds 184467440737095516 ∧
      (unadjustedRegtest 1 18446744073709551615).windowTimespan =
        .ofSeconds 18446744073709551615) ∧
    ((unadjustedRegtest 2 18446744073709551615).validate = .ok () ∧
      (unadjustedRegtest 2 18446744073709551615).windowTimespan.nanos.val = 999999999) := by
  decide +kernel

end Parameters
end ChainParams
