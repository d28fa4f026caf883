import TrustedPlatform.Sized
import TrustedPlatform.SessionKind
import TrustedPlatform.Handle

/-!
# Authorization entries

A request that uses sessions carries one entry per session in its authorization area; the response
answers each of them with one entry, in order.
-/

namespace TrustedPlatform

/-- Entries an authorization area may hold. -/
def maxSessions : Nat := 3

/-- One entry of a request's authorization area. -/
structure AuthCommand where
  sessionHandle : UInt32
  nonce : Nonce
  attributes : SessionAttributes
  hmac : AuthValue
  deriving DecidableEq, Repr

namespace AuthCommand

/-- Authorization by the empty password. -/
def password : AuthCommand := ⟨Handle.password, .empty, .empty, .empty⟩

/-- Authorization by a policy session that outlives the command. -/
def policy (sessionHandle : UInt32) : AuthCommand :=
  ⟨sessionHandle, .empty, SessionAttributes.empty.withContinue, .empty⟩

instance : Wire AuthCommand where
  write entry :=
    be32 entry.sessionHandle ++ Wire.write entry.nonce ++ Wire.write entry.attributes
      ++ Wire.write entry.hmac
  read := do
    let sessionHandle ← Reader.word32
    let nonce ← (Wire.read : Reader Nonce)
    let attributes ← (Wire.read : Reader SessionAttributes)
    let hmac ← (Wire.read : Reader AuthValue)
    return ⟨sessionHandle, nonce, attributes, hmac⟩

end AuthCommand

/-- One entry of a response's authorization area. -/
structure AuthResponse where
  nonce : Nonce
  attributes : SessionAttributes
  hmac : AuthValue
  deriving DecidableEq, Repr

namespace AuthResponse

instance : Wire AuthResponse where
  write entry :=
    Wire.write entry.nonce ++ Wire.write entry.attributes ++ Wire.write entry.hmac
  read := do
    let nonce ← (Wire.read : Reader Nonce)
    let attributes ← (Wire.read : Reader SessionAttributes)
    let hmac ← (Wire.read : Reader AuthValue)
    return ⟨nonce, attributes, hmac⟩

end AuthResponse

end TrustedPlatform
