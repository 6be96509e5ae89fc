import Mathlib.Order.Interval.Set.ProjIcc
import ChainParams.Proofs.WindowBounds

/-!
# Clamping — measured time projected onto the bounds of a window

The bounds are shares of one span, and a larger percentage is never less time, however far the
products are cut off. So the lower bound is not above the upper one in any window, valid or not, and
holding a measured time between them is the projection onto an interval. Main statement:
`clamping_projects_onto_bounds`.
-/

namespace ChainParams
namespace DampeningWindow

variable (w : DampeningWindow)

/-! ## The interval -/

theorem share_mono {percent percent' : Nat} (h : percent ≤ percent') :
    w.share percent ≤ w.share percent' := by
  have hproduct : w.timespan.seconds.toNat * percent ≤ w.timespan.seconds.toNat * percent' :=
    Nat.mul_le_mul_left _ h
  rw [Span.le_iff_toNanos_le, toNanos_share, toNanos_share]
  -- Cutting off, dividing and counting in nanoseconds each keep the order of the products.
  exact Nat.mul_le_mul_right _ (Nat.div_le_div_right (min_le_min_right _ hproduct))

theorem minTimespan_le_maxTimespan : w.minTimespan ≤ w.maxTimespan := by
  have hpercent : 100 - w.maxUpPct.toNat ≤ 100 + w.maxDownPct.toNat := by
    omega
  exact w.share_mono hpercent

/-! ## The projection -/

theorem clamp_eq_max_min (x : Span) : w.clamp x = max (min x w.maxTimespan) w.minTimespan := by
  rw [clamp, max_min_distrib_right, max_eq_left w.minTimespan_le_maxTimespan]

theorem clamp_eq_projIcc (x : Span) :
    w.clamp x = Set.projIcc w.minTimespan w.maxTimespan w.minTimespan_le_maxTimespan x := by
  rw [Set.coe_projIcc, clamp_eq_max_min, max_comm, min_comm]

theorem clamp_mem (x : Span) : w.clamp x ∈ Set.Icc w.minTimespan w.maxTimespan := by
  rw [clamp_eq_projIcc]
  exact Subtype.property _

variable {x y : Span}

theorem clamp_of_mem (h : x ∈ Set.Icc w.minTimespan w.maxTimespan) : w.clamp x = x := by
  rw [clamp_eq_projIcc, Set.projIcc_of_mem _ h]

theorem clamp_of_le_min (h : x ≤ w.minTimespan) : w.clamp x = w.minTimespan := by
  rw [clamp_eq_projIcc, Set.projIcc_of_le_left _ h]

theorem clamp_of_max_le (h : w.maxTimespan ≤ x) : w.clamp x = w.maxTimespan := by
  rw [clamp_eq_projIcc, Set.projIcc_of_right_le _ h]

theorem clamp_mono (h : x ≤ y) : w.clamp x ≤ w.clamp y := by
  rw [clamp_eq_projIcc, clamp_eq_projIcc]
  exact Set.monotone_projIcc _ h

/-! ## Main statement -/

/-- For every `w`, `minTimespan ≤ maxTimespan`, and `clamp` is the projection onto the spans between
them: it fixes just these, gives the bound that any other span is beyond, is idempotent and
monotone, and is the same with `min` taken before `max`. -/
theorem clamping_projects_onto_bounds (w : DampeningWindow) :
    w.minTimespan ≤ w.maxTimespan ∧
    ∀ a b : Span,
      (w.minTimespan ≤ w.clamp a ∧ w.clamp a ≤ w.maxTimespan) ∧
      (w.clamp a = a ↔ w.minTimespan ≤ a ∧ a ≤ w.maxTimespan) ∧
      (a < w.minTimespan → w.clamp a = w.minTimespan) ∧
      (w.maxTimespan < a → w.clamp a = w.maxTimespan) ∧
      w.clamp (w.clamp a) = w.clamp a ∧
      (a ≤ b → w.clamp a ≤ w.clamp b) ∧
      w.clamp a = max (min a w.maxTimespan) w.minTimespan := by
  refine ⟨w.minTimespan_le_maxTimespan, fun a b => ⟨w.clamp_mem a, ⟨?_, w.clamp_of_mem⟩, ?_, ?_,
    w.clamp_of_mem (w.clamp_mem a), w.clamp_mono, w.clamp_eq_max_min a⟩⟩
  · intro hsame
    rw [← hsame]
    exact w.clamp_mem a
  · intro hbelow
    exact w.clamp_of_le_min (le_of_lt hbelow)
  · intro habove
    exact w.clamp_of_max_le (le_of_lt habove)

/-- A window of 17 blocks of a minute, with percentages of 32 down and 16 up. -/
def minuteBlocks : DampeningWindow :=
  ⟨17, .ofSeconds 60, 32, 16⟩

/-- A window of two blocks of `Span.longest`, with percentages of 250 down and none up. -/
def longestBlocks : DampeningWindow :=
  ⟨2, .longest, 250, 0⟩

/-- In `minuteBlocks` a measured time is held between 856 and 1346 seconds. In `longestBlocks` the
products are cut off, and the two bounds are equal. -/
theorem clamping_of_short_and_long :
    (.ofSeconds 100 < minuteBlocks.minTimespan ∧
      minuteBlocks.clamp (.ofSeconds 100) = .ofSeconds 856) ∧
    (minuteBlocks.maxTimespan < .ofSeconds 5000 ∧
      minuteBlocks.clamp (.ofSeconds 5000) = .ofSeconds 1346) ∧
    longestBlocks.clamp .zero ≤ longestBlocks.clamp .longest ∧
    longestBlocks.minTimespan = longestBlocks.maxTimespan := by
  have hshort : .ofSeconds 100 < minuteBlocks.minTimespan := by
    decide
  have hlong : minuteBlocks.maxTimespan < .ofSeconds 5000 := by
    decide
  rcases clamping_projects_onto_bounds minuteBlocks with ⟨_, hclamp⟩
  rcases hclamp (.ofSeconds 100) .zero with ⟨_, _, hmin, _⟩
  rcases hclamp (.ofSeconds 5000) .zero with ⟨_, _, _, hmax, _⟩
  rcases clamping_projects_onto_bounds longestBlocks with ⟨_, hclamp'⟩
  rcases hclamp' .zero .longest with ⟨_, _, _, _, _, hmono, _⟩
  exact ⟨⟨hshort, (hmin hshort).trans (by decide)⟩, ⟨hlong, (hmax hlong).trans (by decide)⟩,
    hmono (by decide), by decide⟩

end DampeningWindow
end ChainParams
