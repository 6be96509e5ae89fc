/-!
# Span — lengths of time

A span is a number of whole seconds that fits 64 bits, and nanoseconds below a second. `toNanos` is
its length as one number; the order of spans is the order of their lengths. A product that is too
long stops at the longest span.
-/

namespace ChainParams

abbrev nanosPerSecond : Nat := 1000000000

structure Span where
  seconds : UInt64
  nanos : Fin nanosPerSecond
  deriving DecidableEq, Repr

namespace Span

def ofSeconds (s : UInt64) : Span := ⟨s, 0⟩

def zero : Span := ofSeconds 0

instance : Inhabited Span := ⟨zero⟩

def longest : Span := ⟨18446744073709551615, 999999999⟩

def toNanos (d : Span) : Nat :=
  d.seconds.toNat * nanosPerSecond + d.nanos.val

def isZero (d : Span) : Bool :=
  d.seconds == 0 && d.nanos == 0

instance : LE Span := ⟨fun a b => a.toNanos ≤ b.toNanos⟩
instance : LT Span := ⟨fun a b => a.toNanos < b.toNanos⟩
instance (a b : Span) : Decidable (a ≤ b) := inferInstanceAs (Decidable (a.toNanos ≤ b.toNanos))
instance (a b : Span) : Decidable (a < b) := inferInstanceAs (Decidable (a.toNanos < b.toNanos))
instance : Max Span := maxOfLe
instance : Min Span := minOfLe

/-- The span `d` taken `k` times, or `longest` where the product is longer. -/
def times (d : Span) (k : UInt32) : Span :=
  -- The nanoseconds are multiplied on their own and carry into the seconds.
  let nanos := d.nanos.val * k.toNat
  let seconds := d.seconds.toNat * k.toNat + nanos / nanosPerSecond
  if seconds < UInt64.size then
    ⟨UInt64.ofNat seconds, ⟨nanos % nanosPerSecond, Nat.mod_lt _ (by decide)⟩⟩
  else longest

end Span
end ChainParams
