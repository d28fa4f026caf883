import TrustedPlatform.Algorithm
import TrustedPlatform.Hash.Sha2

/-!
# Hashes and keyed hashes

`HashId.digest` is the hash function of an identifier and `HashId.hmac` its keyed form.
-/

namespace TrustedPlatform.HashId

/-- Octets of a block of the hash. -/
def blockSize : HashId → Nat
  | sha256 => 64
  | sha384 => 128
  | sha512 => 128

/-- The hash of a message. -/
def digest : HashId → Bytes → Bytes
  | sha256 => Sha2.sha256
  | sha384 => Sha2.sha384
  | sha512 => Sha2.sha512

/-- The key as one block: hashed if it is longer, filled up with zeros if it is shorter. -/
def keyBlock (hash : HashId) (key : Bytes) : Bytes :=
  let short := if key.length > hash.blockSize then hash.digest key else key
  short ++ Bytes.zeros (hash.blockSize - short.length)

/-- The keyed hash of a message. -/
def hmac (hash : HashId) (key message : Bytes) : Bytes :=
  let block := hash.keyBlock key
  let inner := hash.digest (block.map (· ^^^ 0x36) ++ message)
  hash.digest (block.map (· ^^^ 0x5C) ++ inner)

end TrustedPlatform.HashId
