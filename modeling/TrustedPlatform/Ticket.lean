import TrustedPlatform.Sized
import TrustedPlatform.StructureTag
import TrustedPlatform.Handle

/-!
# Tickets

A ticket is the engine's own word, given to a caller and later shown back, that it checked
something: its digest is keyed with a secret of the hierarchy it belongs to. A ticket of the null
hierarchy attests nothing.
-/

namespace TrustedPlatform

/-- A ticket. -/
structure Ticket where
  tag : StructureTag
  hierarchy : UInt32
  digest : Digest
  deriving DecidableEq, Repr

namespace Ticket

/-- The ticket of its kind that attests nothing. -/
def null (tag : StructureTag) : Ticket := ⟨tag, Handle.null, .empty⟩

/-- Whether the ticket attests nothing. -/
def isNull (ticket : Ticket) : Bool := ticket.hierarchy = Handle.null

instance : Wire Ticket where
  write ticket :=
    Wire.write ticket.tag ++ be32 ticket.hierarchy ++ Wire.write ticket.digest
  read := do
    let tag ← (Wire.read : Reader StructureTag)
    let hierarchy ← Reader.word32
    let digest ← (Wire.read : Reader Digest)
    return ⟨tag, hierarchy, digest⟩

end Ticket

end TrustedPlatform
