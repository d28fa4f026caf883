import TrustedPlatform.Wire

/-!
# Algorithms

`AlgId` lists the algorithm identifiers the engine knows. Four of them name hashes; three of
those are implemented and form the type `HashId`. `HashName` is an identifier in a place where
only a hash may stand: it can hold any identifier, but is read only if it names a hash.
-/

namespace TrustedPlatform

/-- An algorithm identifier. -/
inductive AlgId
  | null
  | sha1
  | sha256
  | sha384
  | sha512
  | rsa
  | ecc
  | aes
  | xor
  | cfb
  | rsaSsa
  | ecdsa
  deriving DecidableEq, Repr

/-- A hash the engine implements. -/
inductive HashId
  | sha256
  | sha384
  | sha512
  deriving DecidableEq, Repr

namespace HashId

/-- Octets of a digest. -/
def digestSize : HashId → Nat
  | sha256 => 32
  | sha384 => 48
  | sha512 => 64

/-- The identifier of a hash. -/
def alg : HashId → AlgId
  | sha256 => .sha256
  | sha384 => .sha384
  | sha512 => .sha512

end HashId

namespace AlgId

/-- Every identifier. -/
def all : List AlgId :=
  [null, sha1, sha256, sha384, sha512, rsa, ecc, aes, xor, cfb, rsaSsa, ecdsa]

/-- The number of an algorithm. -/
def code : AlgId → UInt16
  | null => 0x0010
  | sha1 => 0x0004
  | sha256 => 0x000B
  | sha384 => 0x000C
  | sha512 => 0x000D
  | rsa => 0x0001
  | ecc => 0x0023
  | aes => 0x0006
  | xor => 0x000A
  | cfb => 0x0043
  | rsaSsa => 0x0014
  | ecdsa => 0x0018

/-- The name of an algorithm. -/
def name : AlgId → String
  | null => "Null"
  | sha1 => "Sha1"
  | sha256 => "Sha256"
  | sha384 => "Sha384"
  | sha512 => "Sha512"
  | rsa => "Rsa"
  | ecc => "Ecc"
  | aes => "Aes"
  | xor => "Xor"
  | cfb => "Cfb"
  | rsaSsa => "RsaSsa"
  | ecdsa => "EcDsa"

/-- The algorithm a number stands for. -/
def ofCode? (code : UInt16) : Option AlgId :=
  all.find? (·.code = code)

/-- Octets of a digest, 0 for what is not a hash. -/
def digestSize : AlgId → Nat
  | sha1 => 20
  | sha256 => 32
  | sha384 => 48
  | sha512 => 64
  | _ => 0

/-- Whether the algorithm is a hash. -/
def isHash (alg : AlgId) : Bool :=
  alg.digestSize ≠ 0

/-- The implemented hash of this identifier. -/
def hash? : AlgId → Option HashId
  | sha256 => some .sha256
  | sha384 => some .sha384
  | sha512 => some .sha512
  | _ => none

theorem ofCode?_code (alg : AlgId) : ofCode? alg.code = some alg := by
  cases alg <;> decide

theorem code_of_ofCode? {c : UInt16} {alg : AlgId} (h : ofCode? c = some alg) : alg.code = c := by
  simpa using List.find?_some h

theorem hash?_eq_some_iff {alg : AlgId} {h : HashId} : alg.hash? = some h ↔ alg = h.alg := by
  cases alg <;> cases h <;> decide

instance : Wire AlgId where
  write alg := be16 alg.code
  read := do
    match ofCode? (← Reader.word16) with
    | some alg => return alg
    | none => throw .value

end AlgId

/-- An identifier that is to name a hash. -/
structure HashName where
  alg : AlgId
  deriving DecidableEq, Repr

instance : Wire HashName where
  write name := Wire.write name.alg
  read := do
    let alg ← (Wire.read : Reader AlgId)
    if alg.isHash then return ⟨alg⟩ else throw .value

end TrustedPlatform
