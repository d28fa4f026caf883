import TrustedPlatform.Bytes
import TrustedPlatform.Fault

/-!
# Readers

A reader takes octets off the front of its input. Its state is the input not yet read, which it
keeps also when it fails: what earlier pieces consumed stays consumed, and the piece that did not
fit is left where it was. A reader never looks past the end of its input; a piece that is too
short is a `Cause.size`.
-/

namespace TrustedPlatform

/-- A computation that takes octets off the front of its input. -/
abbrev Reader := EStateM Cause Bytes

namespace Reader

/-- The next `n` octets. -/
def take (n : Nat) : Reader Bytes := fun unread =>
  if unread.length < n then .error .size unread else .ok (unread.take n) (unread.drop n)

/-- The next `width` octets as a number. -/
def number (width : Nat) : Reader Nat := do
  return (← take width).toNat

/-- The next octet. -/
def octet : Reader UInt8 := do return UInt8.ofNat (← number 1)

/-- The next 16-bit word. -/
def word16 : Reader UInt16 := do return UInt16.ofNat (← number 2)

/-- The next 32-bit word. -/
def word32 : Reader UInt32 := do return UInt32.ofNat (← number 4)

/-- The next 64-bit word. -/
def word64 : Reader UInt64 := do return UInt64.ofNat (← number 8)

/-- The next 32-bit word, as a signed number. -/
def int32 : Reader Int32 := do return (← word32).toInt32

/-- A 16-bit length, which may not exceed `max`, and that many octets. -/
def sized (max : Nat) : Reader Bytes := do
  let length ← word16
  if length.toNat > max then throw .size
  take length.toNat

/-- Everything not yet read. -/
def rest : Reader Bytes := fun unread => .ok unread []

/-- Fails if anything is left to read. -/
def finish : Reader Unit := fun unread =>
  if unread.isEmpty then .ok () unread else .error .size unread

/-- `count` items, one after the other. -/
def repeated {α : Type} (item : Reader α) : (count : Nat) → Reader (List α)
  | 0 => return []
  | count + 1 => do
    let first ← item
    let others ← repeated item count
    return first :: others

/-- Items up to the end of the input, at most `limit` of them; input beyond those is a
`Cause.size`. -/
def untilEnd {α : Type} (item : Reader α) : (limit : Nat) → Reader (List α)
  | 0 => do
    finish
    return []
  | limit + 1 => do
    if (← get).isEmpty then return []
    let first ← item
    let others ← untilEnd item limit
    return first :: others

/-- What the reader makes of the whole of `input`; leftover input is a `Cause.size`. -/
def exact {α : Type} (reader : Reader α) (input : Bytes) : Except Cause α :=
  match (do let value ← reader; finish; return value : Reader α) input with
  | .ok value _ => .ok value
  | .error cause _ => .error cause

end Reader

end TrustedPlatform
