import TrustedPlatform.Crypto
import TrustedPlatform.Ticket
import TrustedPlatform.Clock
import TrustedPlatform.Config

/-!
# The ticket authority

Each hierarchy has a proof value that nobody outside knows. A ticket's digest is the HMAC-SHA-256,
keyed with the proof of its hierarchy, of its tag and of what it attests:

* a `verified` ticket attests that a key, given by its name, signed a digest;
* an `authSigned` or `authSecret` ticket attests an authorization, an `AuthClaim`.

A hierarchy that is disabled neither issues nor accepts tickets, and the null hierarchy issues
null tickets only.
-/

namespace TrustedPlatform

/-- A hierarchy that can issue tickets. -/
structure Hierarchy where
  handle : UInt32
  proof : Bytes
  enabled : Bool
  deriving DecidableEq, Repr

/-- The authorization that a ticket attests. -/
structure AuthClaim where
  timeout : Timeout
  cpHash : Bytes
  policyRef : Bytes
  authName : Bytes
  deriving DecidableEq, Repr

/-- The octets of a claim: its parts, one after the other. -/
def AuthClaim.octets (claim : AuthClaim) : Bytes :=
  claim.timeout.bytes ++ claim.cpHash ++ claim.policyRef ++ claim.authName

/-- Fails if the timeout has passed, or if there was a reset since it was set. -/
def Timeout.check (timeout : Timeout) (clock : Clock) : Except Cause Unit :=
  match timeout.expiration? with
  | none => .ok ()
  | some (expiresAt, resetCount) =>
    if resetCount ≠ clock.resetCount ∨ clock.now > expiresAt then
      .error (.policy .ticketExpired)
    else .ok ()

/-- The hierarchies that can issue tickets. -/
structure TicketAuthority where
  hierarchies : List Hierarchy
  deriving DecidableEq, Repr

namespace TicketAuthority

/-- The hash of every ticket. -/
def hash : HashId := .sha256

/-- What the proof values are derived for, in front of the hierarchy's handle. -/
def proofLabel : Bytes := "TPM2 hierarchy proof".toUTF8.data.toList ++ [0]

/-- The proof value of a hierarchy: derived from the seed, or the result of a draw. -/
def proof (crypto : Crypto) (seed : Bytes) (draw : Nat) (handle : UInt32) : Bytes :=
  if seed.isEmpty then crypto.random draw hash.digestSize
  else crypto.hmac hash seed (proofLabel ++ be32 handle)

/-- The authority of a configuration. -/
def ofConfig (crypto : Crypto) (config : Config) : TicketAuthority where
  hierarchies :=
    let proof := proof crypto config.proofSeed
    [⟨Handle.owner, proof 0 Handle.owner, config.hierarchies.owner⟩,
      ⟨Handle.endorsement, proof 1 Handle.endorsement, config.hierarchies.endorsement⟩,
      ⟨Handle.platform, proof 2 Handle.platform, config.hierarchies.platform⟩]

/-- The number of draws that `ofConfig` makes. -/
def drawsOfConfig (config : Config) : Nat :=
  if config.proofSeed.isEmpty then 3 else 0

/-- Whether `hierarchy` issues and accepts tickets. -/
def isEnabled (authority : TicketAuthority) (hierarchy : UInt32) : Bool :=
  authority.hierarchies.any fun h => h.handle = hierarchy && h.enabled

/-- Enables or disables `hierarchy`; nothing happens if there is none of this handle. -/
def setEnabled (authority : TicketAuthority) (hierarchy : UInt32) (enabled : Bool) :
    TicketAuthority where
  hierarchies := authority.hierarchies.map fun h =>
    if h.handle = hierarchy then { h with enabled := enabled } else h

/-- The proof value of an enabled hierarchy. -/
def proofFor (authority : TicketAuthority) (hierarchy : UInt32) : Except Cause Bytes :=
  match authority.hierarchies.find? (·.handle = hierarchy) with
  | none => .error (.policy .ticketInvalid)
  | some h => if h.enabled then .ok h.proof else .error (.policy .hierarchyDisabled)

/-- The digest of a ticket of `hierarchy` over `statement`. -/
def sign (authority : TicketAuthority) (crypto : Crypto) (hierarchy : UInt32)
    (tag : StructureTag) (statement : Bytes) : Except Cause Bytes := do
  let proof ← authority.proofFor hierarchy
  return crypto.hmac hash proof (be16 tag.code ++ statement)

/-- Issues a ticket over `statement`. -/
def issue (authority : TicketAuthority) (crypto : Crypto) (tag : StructureTag)
    (hierarchy : UInt32) (statement : Bytes) : Except Cause Ticket := do
  if hierarchy = Handle.null then return .null tag
  else return ⟨tag, hierarchy, ⟨← authority.sign crypto hierarchy tag statement⟩⟩

/-- Fails unless the ticket was issued over `statement`. -/
def check (authority : TicketAuthority) (crypto : Crypto) (ticket : Ticket)
    (statement : Bytes) : Except Cause Unit := do
  if ticket.isNull then throw (.policy .ticketInvalid)
  let expected ← authority.sign crypto ticket.hierarchy ticket.tag statement
  if expected ≠ ticket.digest.bytes then throw (.policy .ticketInvalid)

/-- The ticket that attests that the key named `keyName` signed `digest`. -/
def issueVerified (authority : TicketAuthority) (crypto : Crypto) (hierarchy : UInt32)
    (digest keyName : Bytes) : Except Cause Ticket :=
  authority.issue crypto .verified hierarchy (digest ++ keyName)

/-- Fails unless the ticket attests that the key named `keyName` signed `digest`. -/
def verifyVerified (authority : TicketAuthority) (crypto : Crypto) (ticket : Ticket)
    (digest keyName : Bytes) : Except Cause Unit := do
  if ticket.tag ≠ .verified then throw (.policy .ticketInvalid)
  authority.check crypto ticket (digest ++ keyName)

/-- The ticket that attests an authorization. -/
def issueAuth (authority : TicketAuthority) (crypto : Crypto) (tag : StructureTag)
    (hierarchy : UInt32) (claim : AuthClaim) : Except Cause Ticket :=
  authority.issue crypto tag hierarchy claim.octets

/-- Fails unless the ticket attests an authorization that has not expired. -/
def verifyAuth (authority : TicketAuthority) (crypto : Crypto) (clock : Clock) (ticket : Ticket)
    (claim : AuthClaim) : Except Cause Unit := do
  if ticket.tag ≠ .authSigned ∧ ticket.tag ≠ .authSecret then throw (.policy .ticketInvalid)
  claim.timeout.check clock
  authority.check crypto ticket claim.octets

end TicketAuthority

end TrustedPlatform
