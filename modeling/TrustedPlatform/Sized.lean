import TrustedPlatform.Algorithm

/-!
# Sized octet strings

Most variable parts of a command are a 16-bit length and that many octets, with a limit on the
length that depends on what the octets are. The limit binds readers only: a value may be longer,
and is then written with its length modulo `2 ^ 16`.

A `Timeout` is such a string too, but only the lengths 0 (never expires) and 12 (an instant and a
reset count) are read.
-/

namespace TrustedPlatform

/-- An octet string that readers limit to `max` octets. -/
structure Sized (max : Nat) where
  bytes : Bytes
  deriving DecidableEq, Repr

namespace Sized

variable {max : Nat}

/-- No octets. -/
def empty : Sized max := ⟨[]⟩

/-- Whether there are no octets. -/
def isEmpty (s : Sized max) : Bool := s.bytes.isEmpty

/-- The number of octets. -/
def length (s : Sized max) : Nat := s.bytes.length

instance : Wire (Sized max) where
  write s := sizedBytes s.bytes
  read := do return ⟨← Reader.sized max⟩

end Sized

/-! ## Limits -/

/-- Octets of the longest digest. -/
def maxDigestSize : Nat := 64

/-- Octets of the longest name: an algorithm and a digest. -/
def maxNameSize : Nat := 2 + maxDigestSize

/-- Octets of the longest encrypted secret. -/
def maxSecretSize : Nat := 512

/-- Octets of the longest signature component. -/
def maxSignatureSize : Nat := 512

/-- Octets of a timeout that expires: an instant and a reset count. -/
def timeoutSize : Nat := 12

/-! ## Kinds of octet strings -/

/-- A digest. -/
abbrev Digest := Sized maxDigestSize

/-- A nonce. -/
abbrev Nonce := Sized maxDigestSize

/-- An authorization value or a session's HMAC. -/
abbrev AuthValue := Sized maxDigestSize

/-- A coordinate of a point, or a component of a signature on a curve. -/
abbrev EccParameter := Sized maxDigestSize

/-- The name of an entity: for a key, its name algorithm and the digest of its public area. -/
abbrev Name := Sized maxNameSize

/-- The encrypted salt of a session. -/
abbrev EncryptedSecret := Sized maxSecretSize

/-- An RSA signature or modulus. -/
abbrev RsaValue := Sized maxSignatureSize

/-- The algorithm a name starts with, if its first two octets are one. -/
def Name.algorithm? (name : Name) : Option AlgId :=
  match name.bytes with
  | high :: low :: _ => AlgId.ofCode? (UInt16.ofNat (Bytes.toNat [high, low]))
  | _ => none

/-! ## Timeouts -/

/-- When an authorization expires. -/
structure Timeout where
  bytes : Bytes
  deriving DecidableEq, Repr

namespace Timeout

/-- Never. -/
def empty : Timeout := ⟨[]⟩

/-- At clock reading `expiresAt`, or as soon as the reset count is no longer `resetCount`. -/
def ofExpiration (expiresAt : UInt64) (resetCount : UInt32) : Timeout :=
  ⟨be64 expiresAt ++ be32 resetCount⟩

/-- Whether the timeout is empty. -/
def isEmpty (t : Timeout) : Bool := t.bytes.isEmpty

/-- The instant and the reset count of a timeout that expires. -/
def expiration? (t : Timeout) : Option (UInt64 × UInt32) :=
  if t.bytes.length = timeoutSize then
    some (UInt64.ofNat (Bytes.toNat (t.bytes.take 8)), UInt32.ofNat (Bytes.toNat (t.bytes.drop 8)))
  else none

instance : Wire Timeout where
  write t := sizedBytes t.bytes
  read := do
    let bytes ← Reader.sized timeoutSize
    if bytes.isEmpty ∨ bytes.length = timeoutSize then return ⟨bytes⟩ else throw .size

end Timeout

end TrustedPlatform
