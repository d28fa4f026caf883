import TrustedPlatform.Layout.Session
import TrustedPlatform.Layout.Policy
import TrustedPlatform.Layout.Signature
import TrustedPlatform.CommandCode

/-!
# Commands

The commands the engine can carry out, each with the layouts of its request and its response.
`CommandSet` says which command codes an engine accepts and how many handles their requests have;
the standard set accepts every command that is not disabled.
-/

namespace TrustedPlatform

/-- A command the engine can carry out. -/
inductive Command
  | startAuthSession
  | flushContext
  | policyAuthValue
  | policyPassword
  | policyCommandCode
  | policyPcr
  | policyAuthorize
  | policyTicket
  | policySigned
  | policyGetDigest
  | verifySignature
  deriving DecidableEq, Repr

namespace Command

/-- Every command. -/
def all : List Command :=
  [startAuthSession, flushContext, policyAuthValue, policyPassword, policyCommandCode, policyPcr,
    policyAuthorize, policyTicket, policySigned, policyGetDigest, verifySignature]

/-- The code of a command. -/
def code : Command → CommandCode
  | startAuthSession => .startAuthSession
  | flushContext => .flushContext
  | policyAuthValue => .policyAuthValue
  | policyPassword => .policyPassword
  | policyCommandCode => .policyCommandCode
  | policyPcr => .policyPcr
  | policyAuthorize => .policyAuthorize
  | policyTicket => .policyTicket
  | policySigned => .policySigned
  | policyGetDigest => .policyGetDigest
  | verifySignature => .verifySignature

/-- The command a number stands for. -/
def ofCode? (code : UInt32) : Option Command :=
  all.find? (·.code.code = code)

/-- The request of a command. -/
def Request : Command → Type
  | startAuthSession => StartAuthSessionRequest
  | flushContext => FlushContextRequest
  | policyAuthValue => PolicyAuthValueRequest
  | policyPassword => PolicyPasswordRequest
  | policyCommandCode => PolicyCommandCodeRequest
  | policyPcr => PolicyPcrRequest
  | policyAuthorize => PolicyAuthorizeRequest
  | policyTicket => PolicyTicketRequest
  | policySigned => PolicySignedRequest
  | policyGetDigest => PolicyGetDigestRequest
  | verifySignature => VerifySignatureRequest

/-- The response of a command. -/
def Response : Command → Type
  | startAuthSession => StartAuthSessionResponse
  | policySigned => PolicySignedResponse
  | policyGetDigest => PolicyGetDigestResponse
  | verifySignature => VerifySignatureResponse
  | flushContext | policyAuthValue | policyPassword | policyCommandCode | policyPcr
  | policyAuthorize | policyTicket => EmptyResponse

instance requestLayout : (command : Command) → Layout command.Request
  | startAuthSession => inferInstanceAs (Layout StartAuthSessionRequest)
  | flushContext => inferInstanceAs (Layout FlushContextRequest)
  | policyAuthValue => inferInstanceAs (Layout PolicyAuthValueRequest)
  | policyPassword => inferInstanceAs (Layout PolicyPasswordRequest)
  | policyCommandCode => inferInstanceAs (Layout PolicyCommandCodeRequest)
  | policyPcr => inferInstanceAs (Layout PolicyPcrRequest)
  | policyAuthorize => inferInstanceAs (Layout PolicyAuthorizeRequest)
  | policyTicket => inferInstanceAs (Layout PolicyTicketRequest)
  | policySigned => inferInstanceAs (Layout PolicySignedRequest)
  | policyGetDigest => inferInstanceAs (Layout PolicyGetDigestRequest)
  | verifySignature => inferInstanceAs (Layout VerifySignatureRequest)

instance responseLayout : (command : Command) → Layout command.Response
  | startAuthSession => inferInstanceAs (Layout StartAuthSessionResponse)
  | policySigned => inferInstanceAs (Layout PolicySignedResponse)
  | policyGetDigest => inferInstanceAs (Layout PolicyGetDigestResponse)
  | verifySignature => inferInstanceAs (Layout VerifySignatureResponse)
  | flushContext => inferInstanceAs (Layout EmptyResponse)
  | policyAuthValue => inferInstanceAs (Layout EmptyResponse)
  | policyPassword => inferInstanceAs (Layout EmptyResponse)
  | policyCommandCode => inferInstanceAs (Layout EmptyResponse)
  | policyPcr => inferInstanceAs (Layout EmptyResponse)
  | policyAuthorize => inferInstanceAs (Layout EmptyResponse)
  | policyTicket => inferInstanceAs (Layout EmptyResponse)

/-- The number of handles in the command's request. -/
def handleCount (command : Command) : Nat :=
  Layout.handleCount command.Request

/-- The description of a command, for people. -/
def description (command : Command) : String :=
  let name := command.code.name
  "CommandInfo \x7b code: " ++ name ++ ", name: \"" ++ name ++ "\", handles: "
    ++ toString command.handleCount ++ " \x7d"

theorem ofCode?_code (command : Command) : ofCode? command.code.code = some command := by
  cases command <;> decide

theorem code_of_ofCode? {n : UInt32} {command : Command} (h : ofCode? n = some command) :
    command.code.code = n := by
  simpa using List.find?_some h

end Command

/-- Which command codes an engine accepts. -/
structure CommandSet where
  isImplemented : (code : UInt32) → Bool
  /-- The number of handles in the request of a code. -/
  handleCount : (code : UInt32) → Option Nat

namespace CommandSet

/-- Every command the engine can carry out, but for those disabled. -/
def standard (disabled : List UInt32) : CommandSet where
  isImplemented code := (Command.ofCode? code).isSome && !disabled.contains code
  handleCount code := (Command.ofCode? code).map Command.handleCount

/-- The set with another word on one code. -/
def override (set : CommandSet) (code : UInt32) (implemented : Bool)
    (handleCount : Option Nat) : CommandSet where
  isImplemented c := if c = code then implemented else set.isImplemented c
  handleCount c := if c = code then handleCount else set.handleCount c

end CommandSet

end TrustedPlatform
