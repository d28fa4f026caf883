import TrustedPlatform.Layout
import TrustedPlatform.Ticket
import TrustedPlatform.Signature

/-!
# Layouts of VerifySignature
-/

namespace TrustedPlatform

/-- Asks whether a key signed a digest. -/
structure VerifySignatureRequest where
  keyHandle : UInt32
  digest : Digest
  signature : Signature
  deriving DecidableEq, Repr

instance : Layout VerifySignatureRequest where
  Fields := Digest × Signature × Unit
  fieldList := inferInstance
  handleCount := 1
  handles r := [r.keyHandle]
  fields r := (r.digest, r.signature, ())
  ofParts?
    | [keyHandle], (digest, signature, ()) => some { keyHandle, digest, signature }
    | _, _ => none

/-- The ticket that says so. -/
structure VerifySignatureResponse where
  validation : Ticket
  deriving DecidableEq, Repr

instance : Layout VerifySignatureResponse where
  Fields := Ticket × Unit
  fieldList := inferInstance
  handleCount := 0
  handles _ := []
  fields r := (r.validation, ())
  ofParts?
    | [], (validation, ()) => some { validation }
    | _, _ => none

end TrustedPlatform
