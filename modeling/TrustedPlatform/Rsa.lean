import TrustedPlatform.Number.Modular
import TrustedPlatform.Hash.Hmac

/-!
# RSA signatures, PKCS #1 version 1.5

A signature is a number whose power to the public exponent, written over the length of the
modulus, must be exactly: `00 01`, octets `FF`, `00`, the identifier of the hash, the digest.
-/

namespace TrustedPlatform.Rsa

/-- The exponent that stands for an exponent of 0. -/
def defaultExponent : Nat := 65537

/-- Bits of the longest modulus. -/
def maxModulusBits : Nat := 4096

/-- A usable public key: an odd modulus of at most `maxModulusBits` bits and an odd exponent
between 2 and the modulus. -/
structure Key where
  modulus : Nat
  exponent : Nat
  deriving DecidableEq, Repr

/-- The key with this modulus and exponent, if it is usable. -/
def Key.ofParts? (modulus : Bytes) (exponent : UInt32) : Option Key :=
  let m := modulus.toNat
  let e := if exponent = 0 then defaultExponent else exponent.toNat
  if m < 1 <<< maxModulusBits ∧ e < m ∧ m % 2 = 1 ∧ e % 2 = 1 ∧ 2 ≤ e then some ⟨m, e⟩ else none

/-- The octets that identify a hash in front of its digest. -/
def digestInfo : HashId → Bytes
  | .sha256 => [0x30, 0x31, 0x30, 0x0d, 0x06, 0x09, 0x60, 0x86, 0x48, 0x01, 0x65, 0x03, 0x04, 0x02,
      0x01, 0x05, 0x00, 0x04, 0x20]
  | .sha384 => [0x30, 0x41, 0x30, 0x0d, 0x06, 0x09, 0x60, 0x86, 0x48, 0x01, 0x65, 0x03, 0x04, 0x02,
      0x02, 0x05, 0x00, 0x04, 0x30]
  | .sha512 => [0x30, 0x51, 0x30, 0x0d, 0x06, 0x09, 0x60, 0x86, 0x48, 0x01, 0x65, 0x03, 0x04, 0x02,
      0x03, 0x05, 0x00, 0x04, 0x40]

/-- Octets of a number, without leading zeros; at least one. -/
def octets (m : Nat) : Nat := m.log2 / 8 + 1

/-- The padded digest over `size` octets, if they are enough. -/
def encoded? (hash : HashId) (digest : Bytes) (size : Nat) : Option Bytes :=
  let tail := digestInfo hash ++ digest
  if size < tail.length + 11 then none
  else some ([0x00, 0x01] ++ List.replicate (size - tail.length - 3) 0xFF ++ [0x00] ++ tail)

/-- Whether `signature` signs `digest`, a digest of `hash`, under `key`. -/
def verify (key : Key) (hash : HashId) (digest signature : Bytes) : Bool :=
  let size := octets key.modulus
  digest.length == hash.digestSize && signature.length == size && signature.toNat < key.modulus
    && match encoded? hash digest size with
      | some expected =>
        Bytes.ofNat size (Modular.pow key.modulus signature.toNat key.exponent) == expected
      | none => false

end TrustedPlatform.Rsa
