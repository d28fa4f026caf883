import TrustedPlatform.Authorization
import TrustedPlatform.StructureTag

/-!
# Request envelopes

    [tag:2][size:4][commandCode:4][handles:4*n]
    ([authSize:4][authorization entries] if the tag is sessions)
    [parameters]

The header is checked on its own, because only the command code in it tells how many handles
follow; `Request.split` then cuts the rest into its areas. The parameters are left as octets.
-/

namespace TrustedPlatform

/-- Octets of an envelope's header: tag, size, and command or response code. -/
def headerSize : Nat := 10

/-- The header of a request. -/
structure RequestHeader where
  tag : StructureTag
  size : UInt32
  commandCode : UInt32
  deriving DecidableEq, Repr

/-- The tag a number stands for, if a request may have it. -/
def StructureTag.ofRequestCode? (code : UInt16) : Option StructureTag :=
  match StructureTag.ofCode? code with
  | some .noSessions => some .noSessions
  | some .sessions => some .sessions
  | _ => none

namespace RequestHeader

/-- Reads a header off an envelope of `total` octets. -/
def reader (total : Nat) : Reader RequestHeader := do
  match StructureTag.ofRequestCode? (← Reader.word16) with
  | none => throw .badTag
  | some tag =>
    let size ← Reader.word32
    if size.toNat ≠ total then throw .commandSize
    return ⟨tag, size, ← Reader.word32⟩

/-- The header of the envelope `command`, if it is one a request may have. -/
def parse (command : Bytes) : Except Cause RequestHeader :=
  if command.length < headerSize then .error .size
  else
    match reader command.length command with
    | .ok header _ => .ok header
    | .error cause _ => .error cause

end RequestHeader

/-- A request, cut into its areas. -/
structure Request where
  header : RequestHeader
  handles : List UInt32
  sessions : List AuthCommand
  parameters : Bytes
  deriving DecidableEq, Repr

namespace Request

/-- Reads `count` handles, the first of which is handle `index`; one that is missing is reported
with its position. -/
def readHandles : (index : UInt8) → (count : Nat) → EStateM Fault Bytes (List UInt32)
  | _, 0 => return []
  | index, count + 1 => fun unread =>
    match Reader.word32 unread with
    | .error cause rest => .error (cause.atHandle index) rest
    | .ok handle rest =>
      (do return handle :: (← readHandles (index + 1) count) : EStateM Fault Bytes _) rest

/-- The entries that make up `area`, of which the first is authorization `index` and there may be
at most `room`. -/
def parseSessions : (index : UInt8) → (room : Nat) → (area : Bytes) →
    Except Fault (List AuthCommand)
  | _, _, [] => .ok []
  | _, 0, _ :: _ => .error Cause.authSize.unattributed
  | index, room + 1, area =>
    match (Wire.read : Reader AuthCommand) area with
    | .error _ _ => .error (Cause.authSize.atSession index)
    | .ok entry rest => do return entry :: (← parseSessions (index + 1) room rest)

/-- Reads an authorization area: its size, and one to three entries that fill it exactly. -/
def readSessions : EStateM Fault Bytes (List AuthCommand) := fun unread =>
  match (do Reader.take (← Reader.word32).toNat : Reader Bytes) unread with
  | .error _ rest => .error Cause.authSize.unattributed rest
  | .ok area rest =>
    match parseSessions 1 maxSessions area with
    | .error fault => .error fault rest
    | .ok [] => .error Cause.authSize.unattributed rest
    | .ok sessions => .ok sessions rest

/-- Reads what follows the header of a request with `handleCount` handles. -/
def reader (header : RequestHeader) (handleCount : Nat) : EStateM Fault Bytes Request := do
  let handles ← readHandles 1 handleCount
  let sessions ← if header.tag = .sessions then readSessions else pure []
  let parameters ← get
  set ([] : Bytes)
  return ⟨header, handles, sessions, parameters⟩

/-- Cuts the envelope `command`, whose header is `header`, into its areas. -/
def split (header : RequestHeader) (command : Bytes) (handleCount : Nat) : Except Fault Request :=
  match reader header handleCount (command.drop headerSize) with
  | .ok request _ => .ok request
  | .error fault _ => .error fault

end Request

/-- The command code of an envelope that may be malformed, 0 if it is too short to hold one. -/
def claimedCommandCode (command : Bytes) : UInt32 :=
  if command.length < headerSize then 0
  else UInt32.ofNat (Bytes.toNat ((command.drop 6).take 4))

end TrustedPlatform
