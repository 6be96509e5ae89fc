import ChainParams.Time.Span

/-!
# Dampening — bounds on the measured length of an averaging window

Difficulty is adjusted by how long the last blocks took. Before it is used, the measured time is
held between two bounds around the time that the blocks should have taken, so that one window can
move the difficulty by a limited share only. The bounds are whole seconds; the percentage is
applied before the division by one hundred, which rounds down.
-/

namespace ChainParams

/-- A window of `blocks` that are to take `blockTime` each, and how far it may move the
difficulty. -/
structure DampeningWindow where
  blocks : UInt32
  blockTime : Span
  /-- Largest downward adjustment, in percent. -/
  maxDownPct : UInt32
  maxUpPct : UInt32
  deriving DecidableEq, Repr

namespace DampeningWindow

/-- The time that `w` takes when every block comes on schedule. -/
def timespan (w : DampeningWindow) : Span :=
  w.blockTime.times w.blocks

/-- The given percentage of the whole seconds of `w.timespan`, rounded down. -/
def share (w : DampeningWindow) (percent : Nat) : Span :=
  -- A product that does not fit 64 bits stops at the largest word before it is divided.
  let product := w.timespan.seconds.toNat * percent
  Span.ofSeconds (UInt64.ofNat (min product (UInt64.size - 1) / 100))

def maxTimespan (w : DampeningWindow) : Span :=
  w.share (100 + w.maxDownPct.toNat)

def minTimespan (w : DampeningWindow) : Span :=
  -- An adjustment above one hundred percent leaves no time at all.
  w.share (100 - w.maxUpPct.toNat)

/-- The measured time, held between `minTimespan` and `maxTimespan`. -/
def clamp (w : DampeningWindow) (measured : Span) : Span :=
  min (max measured w.minTimespan) w.maxTimespan

end DampeningWindow
end ChainParams
