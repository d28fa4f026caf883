import TrustedPlatform.Layout
import TrustedPlatform.Authorization
import TrustedPlatform.SymmetricDefinition

/-!
# Layouts of the session commands

StartAuthSession and FlushContext, and the empty response that most commands share.
-/

namespace TrustedPlatform

/-- A response without handles or parameters. -/
structure EmptyResponse where
  deriving DecidableEq, Repr

instance : Layout EmptyResponse where
  Fields := Unit
  fieldList := inferInstance
  handleCount := 0
  handles _ := []
  fields _ := ()
  ofParts?
    | [], () => some {}
    | _, () => none

/-- A request to open a session. -/
structure StartAuthSessionRequest where
  tpmKey : UInt32
  bind : UInt32
  nonceCaller : Nonce
  encryptedSalt : EncryptedSecret
  kind : SessionKind
  symmetric : SymmetricDefinition
  authHash : HashName
  deriving DecidableEq, Repr

namespace StartAuthSessionRequest

/-- A request for a session that is neither salted nor bound to an entity. -/
def unbound (kind : SessionKind) (authHash : AlgId) (nonceCaller : Bytes) :
    StartAuthSessionRequest where
  tpmKey := Handle.null
  bind := Handle.null
  nonceCaller := ⟨nonceCaller⟩
  encryptedSalt := .empty
  kind := kind
  symmetric := .null
  authHash := ⟨authHash⟩

instance : Layout StartAuthSessionRequest where
  Fields := Nonce × EncryptedSecret × SessionKind × SymmetricDefinition × HashName × Unit
  fieldList := inferInstance
  handleCount := 2
  handles r := [r.tpmKey, r.bind]
  fields r := (r.nonceCaller, r.encryptedSalt, r.kind, r.symmetric, r.authHash, ())
  ofParts?
    | [tpmKey, bind], (nonceCaller, encryptedSalt, kind, symmetric, authHash, ()) =>
      some { tpmKey, bind, nonceCaller, encryptedSalt, kind, symmetric, authHash }
    | _, _ => none

end StartAuthSessionRequest

/-- The session that was opened. -/
structure StartAuthSessionResponse where
  sessionHandle : UInt32
  nonceTpm : Nonce
  deriving DecidableEq, Repr

instance : Layout StartAuthSessionResponse where
  Fields := Nonce × Unit
  fieldList := inferInstance
  handleCount := 1
  handles r := [r.sessionHandle]
  fields r := (r.nonceTpm, ())
  ofParts?
    | [sessionHandle], (nonceTpm, ()) => some { sessionHandle, nonceTpm }
    | _, _ => none

/-- A request to drop a session; the handle travels among the parameters. -/
structure FlushContextRequest where
  flushHandle : UInt32
  deriving DecidableEq, Repr

instance : Layout FlushContextRequest where
  Fields := UInt32 × Unit
  fieldList := inferInstance
  handleCount := 0
  handles _ := []
  fields r := (r.flushHandle, ())
  ofParts?
    | [], (flushHandle, ()) => some { flushHandle }
    | _, _ => none

end TrustedPlatform
