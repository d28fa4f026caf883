import TrustedPlatform.Layout
import TrustedPlatform.Envelope.Request

/-!
# Response envelopes

    [tag:2][size:4][responseCode:4][handles]
    ([parameterSize:4] if the tag is sessions)[parameters]
    ([authorization entries] if the tag is sessions)

A response is written in three steps: room for the header, then the handles and parameters of the
command's answer, then the authorization entries and the header itself. Sizes are patched in once
they are known. The parameter size counts the parameters only, and is there even if there are
none. Each of the last two steps refuses to let the response grow beyond a limit.
-/

namespace TrustedPlatform.Response

/-- The end of a computation whose response does not fit. -/
def tooLong : Stop := .ofCause (.exhausted .responseBuffer)

/-- Appends the handles and parameters of `answer` and returns the number of octets written; if the
output would grow beyond `limit`, takes them back and fails. -/
def append {α : Type} [Layout α] (tag : StructureTag) (answer : α) (limit : Nat) :
    Writer Nat := do
  let start ← Writer.length
  Writer.put (Layout.handleArea answer)
  if tag = .sessions then
    let position ← Writer.reserve32
    Writer.put (Layout.parameterArea answer)
    let written ← Writer.length
    Writer.patch32 position (UInt32.ofNat (written - position - 4))
  else
    Writer.put (Layout.parameterArea answer)
  let written ← Writer.length
  if written > limit then
    Writer.truncate start
    throw tooLong
  return written - start

/-- Leaves nothing but room for the header. -/
def begin : Writer Unit := set (Bytes.zeros headerSize)

/-- Appends the authorization entries and fills in the header; fails if the response is longer than
`limit`. -/
def finish (tag : StructureTag) (entries : List AuthResponse) (limit : Nat) : Writer Unit := do
  if tag = .sessions then
    Writer.put (entries.flatMap Wire.write)
  let written ← Writer.length
  if written > limit then throw tooLong
  if written < headerSize then throw (.ofCause .failure)
  Writer.patch16 0 tag.code
  Writer.patch32 2 (UInt32.ofNat written)
  Writer.patch32 6 ResponseCode.success

/-- The bare envelope that reports a refused command. -/
def refusal (responseCode : UInt32) : Bytes :=
  be16 StructureTag.noSessions.code ++ be32 (UInt32.ofNat headerSize) ++ be32 responseCode

end TrustedPlatform.Response
