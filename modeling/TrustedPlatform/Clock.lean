/-!
# The clock

Milliseconds since the last reset, and the number of resets. The reading wraps at `2 ^ 64`, the
number of resets at `2 ^ 32`.
-/

namespace TrustedPlatform

/-- A clock reading. -/
structure Clock where
  /-- Milliseconds since the last reset. -/
  now : UInt64
  /-- The number of resets. -/
  resetCount : UInt32
  deriving DecidableEq, Repr

namespace Clock

/-- A clock that was never reset and reads zero. -/
def initial : Clock := ⟨0, 0⟩

/-- The clock, reading `millis`. -/
def set (clock : Clock) (millis : UInt64) : Clock := { clock with now := millis }

/-- The clock, `millis` later. -/
def advance (clock : Clock) (millis : UInt64) : Clock := { clock with now := clock.now + millis }

/-- The clock after a reset, reading zero. -/
def reset (clock : Clock) : Clock := ⟨0, clock.resetCount + 1⟩

end Clock

end TrustedPlatform
