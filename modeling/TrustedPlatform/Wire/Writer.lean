import TrustedPlatform.Bytes
import TrustedPlatform.Fault

/-!
# Writers

A writer appends octets to its output. A field whose value is known only later is reserved as
zeros and patched in place; a patch that would reach past the end of the output is a `Breach`,
since writers only patch what they reserved.
-/

namespace TrustedPlatform

/-- A computation that appends octets to its output. -/
abbrev Writer := EStateM Stop Bytes

/-- The 16-bit length of `b`, modulo `2 ^ 16`, and all of `b`. -/
def sizedBytes (b : Bytes) : Bytes := be16 (UInt16.ofNat b.length) ++ b

namespace Writer

/-- Appends `b`. -/
def put (b : Bytes) : Writer Unit := fun out => .ok () (out ++ b)

/-- The number of octets written so far. -/
def length : Writer Nat := fun out => .ok out.length out

/-- Appends a zero word and returns its position. -/
def reserve32 : Writer Nat := do
  let position ← length
  put (be32 0)
  return position

/-- Overwrites what stands at `position` with `word`. -/
def patch (position : Nat) (word : Bytes) : Writer Unit := fun out =>
  if position + word.length ≤ out.length then
    .ok () (out.take position ++ word ++ out.drop (position + word.length))
  else .error (.breach .patchPastEnd) out

/-- Overwrites a 16-bit word. -/
def patch16 (position : Nat) (v : UInt16) : Writer Unit := patch position (be16 v)

/-- Overwrites a 32-bit word. -/
def patch32 (position : Nat) (v : UInt32) : Writer Unit := patch position (be32 v)

/-- Drops everything after the first `length` octets. -/
def truncate (length : Nat) : Writer Unit := modify (·.take length)

end Writer

end TrustedPlatform
