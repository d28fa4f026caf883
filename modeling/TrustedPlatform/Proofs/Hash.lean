import TrustedPlatform.Crypto

/-!
# Lengths of hashes

A hash has the number of octets that its identifier states, whatever the message, and so has a keyed
hash, whatever the key.
-/

namespace TrustedPlatform

namespace Sha2

variable {W : Type} [Word W]

/-- The working words make up eight words of octets, from which the hash takes the first ones. -/
theorem State.length_bytes (s : State W) : s.bytes.length = 8 * Word.size W := by
  simp only [State.bytes, List.flatMap_cons, List.flatMap_nil, List.length_append,
    Bytes.length_ofNat, List.length_nil]
  omega

theorem length_digest (p : Parameters W) (initial : State W) {size : Nat} (message : Bytes)
    (h : size ≤ 8 * Word.size W) : (digest p initial size message).length = size := by
  rw [digest, List.length_take, State.length_bytes]
  exact Nat.min_eq_left h

end Sha2

namespace HashId

@[simp] theorem length_digest (hash : HashId) (message : Bytes) :
    (hash.digest message).length = hash.digestSize := by
  cases hash <;> exact Sha2.length_digest _ _ message (by decide)

@[simp] theorem length_hmac (hash : HashId) (key message : Bytes) :
    (hash.hmac key message).length = hash.digestSize :=
  length_digest hash _

@[simp] theorem digestSize_alg (hash : HashId) : hash.alg.digestSize = hash.digestSize := by
  cases hash <;> rfl

end HashId

namespace Crypto

/-- What the cryptography hashes, with a key or without, is as long as the identifier states. -/
structure FixedLength (crypto : Crypto) : Prop where
  length_hash : ∀ hash message, (crypto.hash hash message).length = hash.digestSize
  length_hmac : ∀ hash key message, (crypto.hmac hash key message).length = hash.digestSize

theorem fixedLength_standard (random : Nat → Nat → Bytes) : (standard random).FixedLength where
  length_hash := HashId.length_digest
  length_hmac := HashId.length_hmac

end Crypto

end TrustedPlatform
