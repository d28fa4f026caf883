import TrustedPlatform.Algorithm

/-!
# Symmetric definitions

The parameter encryption a session asks for. The null algorithm has no further fields; XOR
obfuscation has a hash, which travels where other algorithms have their key size, and no mode.
-/

namespace TrustedPlatform

/-- A symmetric algorithm, its key size and its mode. -/
structure SymmetricDefinition where
  algorithm : AlgId
  keyBits : UInt16
  mode : AlgId
  deriving DecidableEq, Repr

namespace SymmetricDefinition

/-- No encryption. -/
def null : SymmetricDefinition := ⟨.null, 0, .null⟩

instance : Wire SymmetricDefinition where
  write d :=
    be16 d.algorithm.code ++
      match d.algorithm with
      | .null => []
      | .xor => be16 d.keyBits
      | _ => be16 d.keyBits ++ be16 d.mode.code
  read := do
    match ← (Wire.read : Reader AlgId) with
    | .null => return null
    | .xor =>
      let hash ← (Wire.read : Reader HashName)
      return ⟨.xor, hash.alg.code, .null⟩
    | .aes =>
      let keyBits ← Reader.word16
      let mode ← (Wire.read : Reader AlgId)
      return ⟨.aes, keyBits, mode⟩
    | _ => throw .value

end SymmetricDefinition

end TrustedPlatform
