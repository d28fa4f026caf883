import TrustedPlatform.Layout
import TrustedPlatform.PcrSelection
import TrustedPlatform.Ticket
import TrustedPlatform.Signature

/-!
# Layouts of the policy commands

The seven assertions and PolicyGetDigest. The policy session is the last handle of each.
-/

namespace TrustedPlatform

/-- Requires the authorization value of the object. -/
structure PolicyAuthValueRequest where
  policySession : UInt32
  deriving DecidableEq, Repr

instance : Layout PolicyAuthValueRequest where
  Fields := Unit
  fieldList := inferInstance
  handleCount := 1
  handles r := [r.policySession]
  fields _ := ()
  ofParts?
    | [policySession], () => some { policySession }
    | _, _ => none

/-- Requires the authorization value of the object, in the clear. -/
structure PolicyPasswordRequest where
  policySession : UInt32
  deriving DecidableEq, Repr

instance : Layout PolicyPasswordRequest where
  Fields := Unit
  fieldList := inferInstance
  handleCount := 1
  handles r := [r.policySession]
  fields _ := ()
  ofParts?
    | [policySession], () => some { policySession }
    | _, _ => none

/-- Restricts the policy to one command. -/
structure PolicyCommandCodeRequest where
  policySession : UInt32
  code : UInt32
  deriving DecidableEq, Repr

instance : Layout PolicyCommandCodeRequest where
  Fields := UInt32 × Unit
  fieldList := inferInstance
  handleCount := 1
  handles r := [r.policySession]
  fields r := (r.code, ())
  ofParts?
    | [policySession], (code, ()) => some { policySession, code }
    | _, _ => none

/-- Requires PCR values. -/
structure PolicyPcrRequest where
  policySession : UInt32
  pcrDigest : Digest
  pcrs : PcrSelections
  deriving DecidableEq, Repr

instance : Layout PolicyPcrRequest where
  Fields := Digest × PcrSelections × Unit
  fieldList := inferInstance
  handleCount := 1
  handles r := [r.policySession]
  fields r := (r.pcrDigest, r.pcrs, ())
  ofParts?
    | [policySession], (pcrDigest, pcrs, ()) => some { policySession, pcrDigest, pcrs }
    | _, _ => none

/-- Replaces an approved policy by the key that approved it. -/
structure PolicyAuthorizeRequest where
  policySession : UInt32
  approvedPolicy : Digest
  policyRef : Nonce
  keySign : Name
  checkTicket : Ticket
  deriving DecidableEq, Repr

instance : Layout PolicyAuthorizeRequest where
  Fields := Digest × Nonce × Name × Ticket × Unit
  fieldList := inferInstance
  handleCount := 1
  handles r := [r.policySession]
  fields r := (r.approvedPolicy, r.policyRef, r.keySign, r.checkTicket, ())
  ofParts?
    | [policySession], (approvedPolicy, policyRef, keySign, checkTicket, ()) =>
      some { policySession, approvedPolicy, policyRef, keySign, checkTicket }
    | _, _ => none

/-- Repeats a signed authorization by its ticket. -/
structure PolicyTicketRequest where
  policySession : UInt32
  timeout : Timeout
  cpHashA : Digest
  policyRef : Nonce
  authName : Name
  ticket : Ticket
  deriving DecidableEq, Repr

instance : Layout PolicyTicketRequest where
  Fields := Timeout × Digest × Nonce × Name × Ticket × Unit
  fieldList := inferInstance
  handleCount := 1
  handles r := [r.policySession]
  fields r := (r.timeout, r.cpHashA, r.policyRef, r.authName, r.ticket, ())
  ofParts?
    | [policySession], (timeout, cpHashA, policyRef, authName, ticket, ()) =>
      some { policySession, timeout, cpHashA, policyRef, authName, ticket }
    | _, _ => none

/-- Requires an authorization signed by a key. -/
structure PolicySignedRequest where
  authObject : UInt32
  policySession : UInt32
  nonceTpm : Nonce
  cpHashA : Digest
  policyRef : Nonce
  expiration : Int32
  auth : Signature
  deriving DecidableEq

instance : Layout PolicySignedRequest where
  Fields := Nonce × Digest × Nonce × Int32 × Signature × Unit
  fieldList := inferInstance
  handleCount := 2
  handles r := [r.authObject, r.policySession]
  fields r := (r.nonceTpm, r.cpHashA, r.policyRef, r.expiration, r.auth, ())
  ofParts?
    | [authObject, policySession], (nonceTpm, cpHashA, policyRef, expiration, auth, ()) =>
      some { authObject, policySession, nonceTpm, cpHashA, policyRef, expiration, auth }
    | _, _ => none

/-- The ticket that repeats a signed authorization, and when it expires. -/
structure PolicySignedResponse where
  timeout : Timeout
  policyTicket : Ticket
  deriving DecidableEq, Repr

instance : Layout PolicySignedResponse where
  Fields := Timeout × Ticket × Unit
  fieldList := inferInstance
  handleCount := 0
  handles _ := []
  fields r := (r.timeout, r.policyTicket, ())
  ofParts?
    | [], (timeout, policyTicket, ()) => some { timeout, policyTicket }
    | _, _ => none

/-- Asks for a session's policy digest. -/
structure PolicyGetDigestRequest where
  policySession : UInt32
  deriving DecidableEq, Repr

instance : Layout PolicyGetDigestRequest where
  Fields := Unit
  fieldList := inferInstance
  handleCount := 1
  handles r := [r.policySession]
  fields _ := ()
  ofParts?
    | [policySession], () => some { policySession }
    | _, _ => none

/-- A session's policy digest. -/
structure PolicyGetDigestResponse where
  policyDigest : Digest
  deriving DecidableEq, Repr

instance : Layout PolicyGetDigestResponse where
  Fields := Digest × Unit
  fieldList := inferInstance
  handleCount := 0
  handles _ := []
  fields r := (r.policyDigest, ())
  ofParts?
    | [], (policyDigest, ()) => some { policyDigest }
    | _, _ => none

end TrustedPlatform
