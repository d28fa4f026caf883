import TrustedPlatform.Wire.Reader
import TrustedPlatform.Wire.Writer

/-!
# Wire types

A wire type has one written form and one reader. `Wire.write` is total: it writes values outside
the type's limits too, with their lengths cut to the width of the length field. `Wire.read`
enforces the limits.
-/

namespace TrustedPlatform

/-- A type with a form on the wire. -/
class Wire (α : Type) where
  /-- The octets of a value. -/
  write : α → Bytes
  /-- The value at the front of the input. -/
  read : Reader α

namespace Wire

instance : Wire UInt8 := ⟨fun v => [v], Reader.octet⟩

instance : Wire UInt16 := ⟨be16, Reader.word16⟩

instance : Wire UInt32 := ⟨be32, Reader.word32⟩

instance : Wire UInt64 := ⟨be64, Reader.word64⟩

instance : Wire Int32 := ⟨fun v => be32 v.toUInt32, Reader.int32⟩

/-- The value that makes up the whole of `input`. -/
def ofBytes (α : Type) [Wire α] (input : Bytes) : Except Cause α :=
  (read : Reader α).exact input

end Wire

end TrustedPlatform
