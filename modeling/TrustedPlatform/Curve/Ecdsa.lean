import TrustedPlatform.Curve.P256
import TrustedPlatform.Hash.Hmac

/-!
# ECDSA on P-256

Signatures are pairs of scalars over a digest. The digest enters as a field of 32 octets: longer
digests are cut, shorter ones filled up with zeros on the left, and digests of less than half that
length are refused. `Ecdsa.sign` is deterministic: the secret scalar of the signature comes from
an HMAC generator seeded with the key and the digest field.
-/

namespace TrustedPlatform.Ecdsa

/-- The digest as a field of 32 octets, unless it is too short. -/
def digestField? (digest : Bytes) : Option Bytes :=
  if digest.length < P256.size / 2 then none
  else some (Bytes.zeros (P256.size - digest.length) ++ digest.take P256.size)

/-- Whether `v` may be a component of a signature. -/
def inRange (v : Nat) : Bool :=
  0 < v && v < P256.n

/-- Whether `(r, s)` signs the digest field under the point `key`. -/
def verify (key : P256.Point) (field : Bytes) (r s : Nat) : Bool :=
  if inRange r && inRange s then
    let w := Modular.inverse P256.n s
    let u₁ := field.toNat * w % P256.n
    let u₂ := r * w % P256.n
    match ((P256.base.scale u₁).add (key.scale u₂)).x? with
    | some x => x % P256.n == r
    | none => false
  else false

/-- The state of the generator of secret scalars: a key and a value. -/
structure Generator where
  key : Bytes
  value : Bytes

namespace Generator

/-- Mixes `input` into the key and steps the value; `mark` tells mixing steps apart. -/
def mix (g : Generator) (mark : UInt8) (input : Bytes) : Generator :=
  let key := HashId.sha256.hmac g.key (g.value ++ [mark] ++ input)
  ⟨key, HashId.sha256.hmac key g.value⟩

/-- The generator seeded with `seed`. -/
def start (seed : Bytes) : Generator :=
  let g : Generator := ⟨Bytes.zeros P256.size, List.replicate P256.size 0x01⟩
  (g.mix 0x00 seed).mix 0x01 seed

/-- The first value in range among the next `tries`. -/
def next? : (tries : Nat) → Generator → Option Nat
  | 0, _ => none
  | tries + 1, g =>
    let value := HashId.sha256.hmac g.key g.value
    if inRange value.toNat then some value.toNat
    else next? tries (Generator.mix ⟨g.key, value⟩ 0x00 [])

end Generator

/-- Values of the generator that signing tries; one is out of range once in `2 ^ 32` times. -/
def maxTries : Nat := 64

/-- The signature of the digest field with the secret scalar `secret`. -/
def sign (secret : Nat) (field : Bytes) : Option (Nat × Nat) := do
  let seed := Bytes.ofNat P256.size secret ++ field
  let k ← (Generator.start seed).next? maxTries
  let x ← (P256.base.scale k).x?
  let r := x % P256.n
  let s := Modular.inverse P256.n k * (field.toNat + r * secret) % P256.n
  if r = 0 ∨ s = 0 then none else return (r, s)

end TrustedPlatform.Ecdsa
