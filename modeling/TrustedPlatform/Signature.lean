import TrustedPlatform.Sized

/-!
# Signatures

A signature starts with its scheme, and a scheme other than the null one names a hash.
-/

namespace TrustedPlatform

/-- A signature, by scheme. -/
inductive Signature
  | null
  | rsaSsa (hash : AlgId) (sig : RsaValue)
  | ecdsa (hash : AlgId) (r s : EccParameter)
  deriving DecidableEq, Repr

namespace Signature

/-- The algorithm of the scheme. -/
def scheme : Signature → AlgId
  | null => .null
  | rsaSsa .. => .rsaSsa
  | ecdsa .. => .ecdsa

/-- The hash the signature names. -/
def hash? : Signature → Option AlgId
  | null => none
  | rsaSsa hash _ => some hash
  | ecdsa hash _ _ => some hash

instance : Wire Signature where
  write
    | .null => be16 AlgId.null.code
    | .rsaSsa hash sig => be16 AlgId.rsaSsa.code ++ be16 hash.code ++ Wire.write sig
    | .ecdsa hash r s =>
      be16 AlgId.ecdsa.code ++ be16 hash.code ++ Wire.write r ++ Wire.write s
  read := do
    match ← (Wire.read : Reader AlgId) with
    | .null => return .null
    | .rsaSsa =>
      let hash ← (Wire.read : Reader HashName)
      let sig ← (Wire.read : Reader RsaValue)
      return .rsaSsa hash.alg sig
    | .ecdsa =>
      let hash ← (Wire.read : Reader HashName)
      let r ← (Wire.read : Reader EccParameter)
      let s ← (Wire.read : Reader EccParameter)
      return .ecdsa hash.alg r s
    | _ => throw .value

end Signature

end TrustedPlatform
