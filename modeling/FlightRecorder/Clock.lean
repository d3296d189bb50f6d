/-!
# The sequence clock

Every recorded event is stamped with a number from one clock, so that events of
different sites have a common order. The numbers are 64-bit words, and the clock
wraps around after the last of them.
-/

namespace FlightRecorder

/-- A source of consecutive sequence numbers. -/
structure Clock where
  /-- The number the next tick returns. -/
  next : UInt64
  deriving DecidableEq, Repr, Inhabited

namespace Clock

/-- A clock whose first tick returns `first`. -/
def startingAt (first : UInt64) : Clock :=
  ⟨first⟩

/-- Advance the clock past the number it shows. -/
def tick (c : Clock) : Clock :=
  ⟨c.next + 1⟩

/-- The numbers of the next `n` ticks, and the clock after them. -/
def ticks (c : Clock) : Nat → List UInt64 × Clock
  | 0 => ([], c)
  | n + 1 =>
    let (later, last) := c.tick.ticks n
    (c.next :: later, last)

end Clock

end FlightRecorder
