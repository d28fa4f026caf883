import TrustedPlatform.Layout.Policy
import TrustedPlatform.ObjectTable
import TrustedPlatform.CommandCode

/-!
# Policy assertions

An assertion is one step of a policy: a command's parameters, with its object looked up.
-/

namespace TrustedPlatform

/-- A step of a policy. -/
inductive Assertion
  /-- The object's authorization value is needed. -/
  | authValue
  /-- The object's authorization value is needed in the clear. -/
  | password
  /-- Only this command is authorized. -/
  | commandCode (code : UInt32)
  /-- The PCRs have values of this digest; an empty digest stands for the current one. -/
  | pcr (pcrDigest : Digest) (pcrs : PcrSelections)
  /-- A key approved the policy so far; what follows needs only the key's approval. -/
  | authorize (approvedPolicy : Digest) (policyRef : Nonce) (keySign : Name) (checkTicket : Ticket)
  /-- An authorization given earlier is repeated. -/
  | ticket (timeout : Timeout) (cpHashA : Digest) (policyRef : Nonce) (authName : Name)
      (ticket : Ticket)
  /-- A key signed an authorization. -/
  | signed (authObject : Entity) (nonceTpm : Nonce) (cpHashA : Digest) (policyRef : Nonce)
      (expiration : Int32) (auth : Signature)
  deriving DecidableEq

/-- What an assertion gives back once it holds. -/
inductive PolicyOutcome
  | done
  /-- A ticket that repeats the authorization until the timeout. -/
  | signed (timeout : Timeout) (ticket : Ticket)
  deriving DecidableEq, Repr

namespace Assertion

/-- The command that makes the assertion. -/
def command : Assertion → CommandCode
  | authValue => .policyAuthValue
  | password => .policyPassword
  | commandCode .. => .policyCommandCode
  | pcr .. => .policyPcr
  | authorize .. => .policyAuthorize
  | ticket .. => .policyTicket
  | signed .. => .policySigned

/-- The position of the policy session among the command's handles. -/
def sessionIndex : Assertion → UInt8
  | signed .. => 2
  | _ => 1

end Assertion

/-- The assertion of a request. -/
def PolicyPcrRequest.assertion (r : PolicyPcrRequest) : Assertion :=
  .pcr r.pcrDigest r.pcrs

/-- The assertion of a request. -/
def PolicyAuthorizeRequest.assertion (r : PolicyAuthorizeRequest) : Assertion :=
  .authorize r.approvedPolicy r.policyRef r.keySign r.checkTicket

/-- The assertion of a request. -/
def PolicyTicketRequest.assertion (r : PolicyTicketRequest) : Assertion :=
  .ticket r.timeout r.cpHashA r.policyRef r.authName r.ticket

/-- The assertion of a request whose object is `authObject`. -/
def PolicySignedRequest.assertion (r : PolicySignedRequest) (authObject : Entity) : Assertion :=
  .signed authObject r.nonceTpm r.cpHashA r.policyRef r.expiration r.auth

end TrustedPlatform
