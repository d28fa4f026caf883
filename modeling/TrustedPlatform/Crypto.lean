import TrustedPlatform.Signature
import TrustedPlatform.Curve.Ecdsa
import TrustedPlatform.Rsa

/-!
# The cryptography the engine uses

`Crypto` is what the engine asks of its cryptography: hashes, keyed hashes, signature checks, and
random octets by the number of the draw. Statements about the engine hold of any `Crypto` unless
they say otherwise. `Crypto.standard` is the one it runs with: SHA-2, HMAC, ECDSA on P-256 and RSA.
-/

namespace TrustedPlatform

/-- The public part of a signing key. -/
inductive PublicKey
  /-- A modulus and an exponent; the exponent 0 stands for the default one. -/
  | rsa (modulus : Bytes) (exponent : UInt32)
  /-- The coordinates of a point of P-256. -/
  | ecc (x y : Bytes)
  deriving DecidableEq, Repr

namespace PublicKey

/-- The identifier of the curve of `ecc` keys. -/
def curveId : UInt16 := 0x0003

/-- The identifier of no curve. -/
def noCurveId : UInt16 := 0x0000

/-- The public area of a key, as its name hashes it. -/
def area : PublicKey → Bytes
  | rsa modulus exponent => be16 AlgId.rsa.code ++ be32 exponent ++ sizedBytes modulus
  | ecc x y => be16 AlgId.ecc.code ++ be16 curveId ++ sizedBytes x ++ sizedBytes y

end PublicKey

/-- What the engine asks of its cryptography. -/
structure Crypto where
  /-- The hash of a message. -/
  hash : HashId → (message : Bytes) → Bytes
  /-- The keyed hash of a message. -/
  hmac : HashId → (key message : Bytes) → Bytes
  /-- Whether a signature over a digest verifies; fails on a key that is none. -/
  verify : PublicKey → (digest : Bytes) → Signature → Except Cause Bool
  /-- The octets of a draw, given the number of draws before it and the number of octets. -/
  random : (draw : Nat) → (size : Nat) → Bytes

namespace Crypto

/-- The hash of a message with the hash of an identifier; a `Cause.value` if it is not
implemented. -/
def hashWith (crypto : Crypto) (alg : AlgId) (message : Bytes) : Except Cause Bytes :=
  match alg.hash? with
  | some hash => .ok (crypto.hash hash message)
  | none => .error .value

/-- The keyed hash of a message with the hash of an identifier; a `Cause.value` if it is not
implemented. -/
def hmacWith (crypto : Crypto) (alg : AlgId) (key message : Bytes) : Except Cause Bytes :=
  match alg.hash? with
  | some hash => .ok (crypto.hmac hash key message)
  | none => .error .value

/-- Whether an ECDSA signature over a digest verifies. -/
def verifyEcdsa (x y digest r s : Bytes) : Except Cause Bool :=
  match P256.scalar? x, P256.scalar? y with
  | some x, some y =>
    if P256.onCurve x y then
      match Ecdsa.digestField? digest, P256.scalar? r, P256.scalar? s with
      | some field, some r, some s => .ok (Ecdsa.verify (.affine x y) field r s)
      | _, _, _ => .ok false
    else .error .value
  | _, _ => .error .value

/-- Whether an RSA signature over a digest verifies. -/
def verifyRsa (modulus : Bytes) (exponent : UInt32) (hash : AlgId) (digest sig : Bytes) :
    Except Cause Bool :=
  match Rsa.Key.ofParts? modulus exponent with
  | some key =>
    match hash.hash? with
    | some hash => .ok (Rsa.verify key hash digest sig)
    | none => .ok false
  | none => .error .value

/-- Whether a signature over a digest verifies; a scheme that is not the key's never does. -/
def verifySignature : PublicKey → Bytes → Signature → Except Cause Bool
  | .ecc x y, digest, .ecdsa _ r s => verifyEcdsa x y digest r.bytes s.bytes
  | .rsa modulus exponent, digest, .rsaSsa hash sig =>
    verifyRsa modulus exponent hash digest sig.bytes
  | _, _, _ => .ok false

/-- The cryptography the engine runs with, for a source of random octets. -/
def standard (random : Nat → Nat → Bytes) : Crypto where
  hash := HashId.digest
  hmac := HashId.hmac
  verify := verifySignature
  random := random

/-- The public key of a secret scalar, if the scalar is in range. -/
def publicKey? (secret : Bytes) : Option PublicKey := do
  let d ← P256.scalar? secret
  if Ecdsa.inRange d then
    match P256.base.scale d with
    | .affine x y => some (.ecc (Bytes.ofNat P256.size x) (Bytes.ofNat P256.size y))
    | .infinity => none
  else none

/-- The ECDSA signature of a digest with a secret scalar; a `Cause.value` if the digest is too
short. -/
def sign (secret digest : Bytes) : Except Cause Signature :=
  match (do Ecdsa.sign secret.toNat (← Ecdsa.digestField? digest) : Option (Nat × Nat)) with
  | some (r, s) =>
    .ok (.ecdsa .sha256 ⟨Bytes.ofNat P256.size r⟩ ⟨Bytes.ofNat P256.size s⟩)
  | none => .error .value

end Crypto

end TrustedPlatform
