import ChainParams.Proofs.WindowBounds

/-!
# WindowArithmetic — a window and its bounds in exact arithmetic

The length of a window and its bounds are products of whole numbers, cut off where they exceed the
words that hold them. They can be computed in words of 64 bits as well: of the steps that have to
fit none fails, and nothing is divided by zero. Main statement: `bounds_are_exact_arithmetic`.
-/

namespace ChainParams

/-! ## Steps on words -/

namespace Word64

/-- The number `n` as a word, if it fits. -/
def ofNat? (n : Nat) : Option UInt64 :=
  if n < UInt64.size then some (.ofNat n) else none

/-- Quotient and remainder of `a` by `b`, unless `b` is zero. -/
def divide? (a b : UInt64) : Option (UInt64 × UInt64) :=
  if b = 0 then none else some (a / b, a % b)

/-- The product of `a` and `b`, or the largest word where it does not fit. -/
def saturatedProduct (a b : UInt64) : UInt64 :=
  (ofNat? (a.toNat * b.toNat)).getD 18446744073709551615

theorem ofNat?_of_lt {n : Nat} (h : n < UInt64.size) : ofNat? n = some (.ofNat n) :=
  if_pos h

theorem ofNat?_of_ge {n : Nat} (h : UInt64.size ≤ n) : ofNat? n = none :=
  if_neg (Nat.not_lt.2 h)

/-- A first summand `a` that does not fit cannot fit with `b` added to it, so testing both sums is
testing the second. -/
theorem ofNat?_bind_add (a b : Nat) :
    ((ofNat? a).bind fun s => ofNat? (s.toNat + b)) = ofNat? (a + b) := by
  rcases Nat.lt_or_ge a UInt64.size with hfits | hlarge
  · rw [ofNat?_of_lt hfits, Option.bind_some, UInt64.toNat_ofNat_of_lt' hfits]
  · rw [ofNat?_of_ge hlarge, Option.bind_none, ofNat?_of_ge (Nat.le_add_right_of_le hlarge)]

theorem divide?_ofNat {n k : Nat} (hn : n < UInt64.size) (hk : k < UInt64.size) (hpos : 0 < k) :
    divide? (.ofNat n) (.ofNat k) = some (.ofNat (n / k), .ofNat (n % k)) := by
  have hdivisor : UInt64.ofNat k ≠ 0 := by
    intro hzero
    have hnat := congrArg UInt64.toNat hzero
    rw [UInt64.toNat_ofNat_of_lt' hk] at hnat
    exact Nat.ne_of_gt hpos hnat
  rw [divide?, if_neg hdivisor, UInt64.ofNat_div hn hk, UInt64.ofNat_mod hn hk]

theorem saturatedProduct_eq (a b : UInt64) :
    saturatedProduct a b = .ofNat (min (a.toNat * b.toNat) (UInt64.size - 1)) := by
  have hsize : UInt64.size = 2 ^ 64 := rfl
  rcases Nat.lt_or_ge (a.toNat * b.toNat) UInt64.size with hfits | hlarge
  · rw [saturatedProduct, ofNat?_of_lt hfits, Option.getD_some, Nat.min_eq_left (by omega)]
  · rw [saturatedProduct, ofNat?_of_ge hlarge, Option.getD_none, Nat.min_eq_right (by omega)]
    rfl

end Word64

/-! ## Spans -/

namespace Span

/-- The number `n` as nanoseconds of a `Span`, unless it is a second or more. -/
def nanos? (n : UInt64) : Option (Fin nanosPerSecond) :=
  if h : n.toNat < nanosPerSecond then some ⟨n.toNat, h⟩ else none

/-- The span `d` taken `k` times, in steps on words. Only the seconds may become too large, and then
the longest span is taken. -/
def timesInWords? (d : Span) (k : UInt32) : Option Span := do
  -- These two steps have to succeed; a sum of seconds that does not fit is no failure.
  let product ← Word64.ofNat? (d.nanos.val * k.toNat)
  let parts ← Word64.divide? product 1000000000
  match (Word64.ofNat? (d.seconds.toNat * k.toNat)).bind fun s =>
      Word64.ofNat? (s.toNat + parts.1.toNat) with
  | none => some longest
  | some seconds => (nanos? parts.2).map (Span.mk seconds)

theorem nanos?_of_lt {n : Nat} (h : n < nanosPerSecond) :
    nanos? (.ofNat n) = some ⟨n, h⟩ := by
  have hfits : n < UInt64.size := Nat.lt_trans h (by decide)
  simp only [nanos?, UInt64.toNat_ofNat_of_lt' hfits, h, dite_true]

/-- No step of `timesInWords?` fails: `d.nanos * k` fits a word, and its remainder is below a
second. -/
theorem timesInWords?_eq (d : Span) (k : UInt32) : d.timesInWords? k = some (d.times k) := by
  have hproduct : d.nanos.val * k.toNat < UInt64.size := by
    calc
      d.nanos.val * k.toNat ≤ 1000000000 * 2 ^ 32 :=
          Nat.mul_le_mul (Nat.le_of_lt d.nanos_lt) (Nat.le_of_lt k.toNat_lt)
      _ < UInt64.size := by decide
  have hparts : Word64.divide? (.ofNat (d.nanos.val * k.toNat)) 1000000000 =
      some (.ofNat (d.nanos.val * k.toNat / 1000000000),
        .ofNat (d.nanos.val * k.toNat % 1000000000)) :=
    Word64.divide?_ofNat hproduct (by decide) (by decide)
  have hcarry : d.nanos.val * k.toNat / 1000000000 < UInt64.size :=
    Nat.lt_of_le_of_lt (Nat.div_le_self _ _) hproduct
  have hrest := nanos?_of_lt (Nat.mod_lt (d.nanos.val * k.toNat) (by decide : 0 < nanosPerSecond))
  -- What is left to see is that the seconds with the carry fit in both ways or in neither.
  simp only [timesInWords?, Word64.ofNat?_of_lt hproduct, hparts, Option.bind_eq_bind,
    Option.bind_some, UInt64.toNat_ofNat_of_lt' hcarry, Word64.ofNat?_bind_add, hrest,
    Option.map_some, times]
  by_cases hfits : d.seconds.toNat * k.toNat + d.nanos.val * k.toNat / 1000000000 < UInt64.size
  · simp only [Word64.ofNat?_of_lt hfits, hfits, if_true]
  · simp only [Word64.ofNat?_of_ge (Nat.not_lt.1 hfits), hfits, if_false]

/-- The span `d` is `percent` percent of `seconds`, rounded down to a whole second. A product that
does not fit a word counts as the largest word. -/
def IsShare (d : Span) (seconds percent : Nat) : Prop :=
  d.nanos.val = 0 ∧
    (seconds * percent < 2 ^ 64 → d.seconds.toNat = seconds * percent / 100) ∧
    (2 ^ 64 ≤ seconds * percent → d.seconds.toNat = (2 ^ 64 - 1) / 100)

end Span

/-! ## Windows -/

namespace DampeningWindow

variable (w : DampeningWindow)

variable {w} in
theorem toNanos_timespan_of_fits (h : w.scheduledNanos / 1000000000 ≤ 2 ^ 64 - 1) :
    w.timespan.toNanos = w.scheduledNanos := by
  rw [toNanos_timespan_eq_min, Span.toNanos_longest]
  omega

theorem isShare_share (percent : Nat) :
    (w.share percent).IsShare w.timespan.seconds.toNat percent := by
  have hlength := w.toNanos_share percent
  refine ⟨?_, ?_, ?_⟩
  · -- A whole number of seconds leaves no nanoseconds.
    rw [Span.nanos_eq_mod, hlength]
    exact Nat.mul_mod_left _ _
  · intro hfits
    rw [Span.seconds_eq_div, hlength, Nat.min_eq_left (by omega)]
    exact Nat.mul_div_cancel _ (by decide)
  · intro hlarge
    rw [Span.seconds_eq_div, hlength, Nat.min_eq_right (by omega)]
    rfl

/-! ### In steps on words -/

/-- The span of `w.share percent`, in steps on words. -/
def shareInWords? (percent : UInt64) : Option Span := do
  let timespan ← w.blockTime.timesInWords? w.blocks
  let parts ← Word64.divide? (Word64.saturatedProduct timespan.seconds percent) 100
  some (Span.ofSeconds parts.1)

def maxInWords? : Option Span := do
  let percent ← Word64.ofNat? (100 + w.maxDownPct.toNat)
  w.shareInWords? percent

def minInWords? : Option Span :=
  -- The difference stops at zero.
  w.shareInWords? (if w.maxUpPct.toUInt64 < 100 then 100 - w.maxUpPct.toUInt64 else 0)

theorem timespanInWords?_eq : w.blockTime.timesInWords? w.blocks = some w.timespan :=
  Span.timesInWords?_eq _ _

theorem shareInWords?_eq (percent : UInt64) :
    w.shareInWords? percent = some (w.share percent.toNat) := by
  have hword : min (w.timespan.seconds.toNat * percent.toNat) (UInt64.size - 1) < UInt64.size :=
    Nat.lt_of_le_of_lt (Nat.min_le_right _ _) (by decide)
  have hparts : Word64.divide? (Word64.saturatedProduct w.timespan.seconds percent) 100 =
      some (.ofNat (min (w.timespan.seconds.toNat * percent.toNat) (UInt64.size - 1) / 100),
        .ofNat (min (w.timespan.seconds.toNat * percent.toNat) (UInt64.size - 1) % 100)) := by
    rw [Word64.saturatedProduct_eq]
    exact Word64.divide?_ofNat hword (by decide) (by decide)
  simp only [shareInWords?, timespanInWords?_eq, hparts, Option.bind_eq_bind, Option.bind_some,
    share]

theorem maxInWords?_eq : w.maxInWords? = some w.maxTimespan := by
  have hpercent : 100 + w.maxDownPct.toNat < UInt64.size := by
    calc
      100 + w.maxDownPct.toNat < 100 + 2 ^ 32 := Nat.add_lt_add_left w.maxDownPct.toNat_lt _
      _ ≤ UInt64.size := by decide
  rw [maxInWords?, Word64.ofNat?_of_lt hpercent, Option.bind_eq_bind, Option.bind_some,
    shareInWords?_eq, UInt64.toNat_ofNat_of_lt' hpercent, maxTimespan]

theorem minInWords?_eq : w.minInWords? = some w.minTimespan := by
  have hpercent :
      (if w.maxUpPct.toUInt64 < 100 then 100 - w.maxUpPct.toUInt64 else 0).toNat =
        100 - w.maxUpPct.toNat := by
    split
    · rename_i hbelow
      rw [UInt64.toNat_sub_of_le _ _ (UInt64.le_of_lt hbelow), UInt32.toNat_toUInt64]
      rfl
    · rename_i habove
      have hhundred : 100 ≤ w.maxUpPct.toNat := by
        rw [UInt64.not_lt, UInt64.le_iff_toNat_le, UInt32.toNat_toUInt64] at habove
        exact habove
      exact (Nat.sub_eq_zero_of_le hhundred).symm
  rw [minInWords?, shareInWords?_eq, hpercent, minTimespan]

/-! ## Main statement -/

/-- The `timespan` of `w` is exactly `scheduledNanos` long, or `Span.longest` where these are more
seconds than a word can count. Its bounds are shares of its whole seconds: `maxTimespan` of
`100 + maxDownPct` percent and `minTimespan` of `100 - maxUpPct`, which is zero from 100 on. The
computations on words find the same three spans, and none of their steps overflows or divides by
zero. -/
theorem bounds_are_exact_arithmetic (w : DampeningWindow) :
    (w.scheduledNanos / 1000000000 ≤ 2 ^ 64 - 1 → w.timespan.toNanos = w.scheduledNanos) ∧
    (2 ^ 64 - 1 < w.scheduledNanos / 1000000000 → w.timespan = Span.longest) ∧
    w.maxTimespan.IsShare w.timespan.seconds.toNat (100 + w.maxDownPct.toNat) ∧
    w.minTimespan.IsShare w.timespan.seconds.toNat (100 - w.maxUpPct.toNat) ∧
    w.blockTime.timesInWords? w.blocks = some w.timespan ∧
    w.maxInWords? = some w.maxTimespan ∧ w.minInWords? = some w.minTimespan :=
  ⟨toNanos_timespan_of_fits, timespan_of_large, w.isShare_share _, w.isShare_share _,
    w.timespanInWords?_eq, w.maxInWords?_eq, w.minInWords?_eq⟩

/-- A window of 17 blocks of 60.5 seconds. -/
def halfSecondBlocks : DampeningWindow :=
  ⟨17, ⟨60, ⟨500000000, by decide⟩⟩, 32, 16⟩

/-- The most blocks that a window can have, each of them as long as `Span.longest`. -/
def countlessBlocks : DampeningWindow :=
  ⟨4294967295, .longest, 0, 130⟩

/-- In `halfSecondBlocks` the half seconds count in the `timespan`, and the bounds are rounded down
to whole seconds. The `timespan` of `countlessBlocks` is `Span.longest`, and its `maxTimespan` is
cut off far below that. -/
theorem exact_bounds_of_extremes :
    (halfSecondBlocks.timespan.toNanos = 1028500000000 ∧
      halfSecondBlocks.maxTimespan.seconds.toNat = 1356 ∧
      halfSecondBlocks.minTimespan.seconds.toNat = 863) ∧
    (countlessBlocks.timespan = .longest ∧
      countlessBlocks.maxTimespan.seconds.toNat = 184467440737095516 ∧
      countlessBlocks.minTimespan.seconds.toNat = 0) := by
  rcases bounds_are_exact_arithmetic halfSecondBlocks with ⟨hwindow, _, hmax, hmin, _⟩
  rcases bounds_are_exact_arithmetic countlessBlocks with ⟨_, hlongest, hmax', hmin', _⟩
  exact ⟨⟨hwindow (by decide), hmax.2.1 (by decide), hmin.2.1 (by decide)⟩,
    ⟨hlongest (by decide), hmax'.2.2 (by decide), hmin'.2.1 (by decide)⟩⟩

end DampeningWindow
end ChainParams
