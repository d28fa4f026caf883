import TrustedPlatform.ResponseCode
import TrustedPlatform.Text.Hex

/-!
# Faults

A `Cause` says what went wrong, a `Site` which handle, parameter or authorization it concerns,
and a `Fault` is a cause with the site it is attributed to, if any. A `CommandFault` adds the
command that was refused. Each cause has one wording and one base response code, and a fault's
response code is the base code with the site written into it where the code's format has room.

A `Breach` is not a fault: it says that a promise the engine makes to itself was broken. A
computation that may meet either ends in a `Stop`.
-/

namespace TrustedPlatform

/-- Why a policy assertion or a ticket was rejected. -/
inductive PolicyFault
  | pcrMismatch
  | pcrChanged
  | approvedPolicyMismatch
  | ticketInvalid
  | ticketExpired
  | hierarchyDisabled
  | signatureInvalid
  | nonceMismatch
  | cpHashMismatch
  | commandCode
  deriving DecidableEq, Repr

namespace PolicyFault

/-- The wording of a rejection. -/
def message : PolicyFault → String
  | pcrMismatch => "PCR digest mismatch"
  | pcrChanged => "PCRs changed since the session snapshot"
  | approvedPolicyMismatch => "approved policy does not match policy digest"
  | ticketInvalid => "ticket verification failed"
  | ticketExpired => "ticket or authorization expired"
  | hierarchyDisabled => "ticket hierarchy is disabled"
  | signatureInvalid => "signature verification failed"
  | nonceMismatch => "nonce does not match the session"
  | cpHashMismatch => "cpHash conflicts with the session"
  | commandCode => "command code is not implemented"

/-- The response code of a rejection, without a site. -/
def baseCode : PolicyFault → UInt32
  | pcrMismatch => ResponseCode.policyFail
  | pcrChanged => ResponseCode.pcrChanged
  | approvedPolicyMismatch => ResponseCode.value
  | ticketInvalid => ResponseCode.ticket
  | ticketExpired => ResponseCode.expired
  | hierarchyDisabled => ResponseCode.hierarchy
  | signatureInvalid => ResponseCode.signature
  | nonceMismatch => ResponseCode.nonce
  | cpHashMismatch => ResponseCode.cpHash
  | commandCode => ResponseCode.policyCommandCode

end PolicyFault

/-- A resource of fixed capacity. -/
inductive Resource
  | sessionTable
  | responseBuffer
  deriving DecidableEq, Repr

/-- The name a message gives the resource. -/
def Resource.name : Resource → String
  | sessionTable => "SessionTable"
  | responseBuffer => "ResponseBuffer"

/-- What went wrong. -/
inductive Cause
  | size
  | value
  | badTag
  | commandSize
  | authSize
  | commandNotImplemented
  | handleNotFound
  | policy (reason : PolicyFault)
  | sessionStateInvalid
  | exhausted (resource : Resource)
  | failure
  deriving DecidableEq, Repr

namespace Cause

/-- The wording of a cause. -/
def message : Cause → String
  | size => "buffer size error"
  | value => "value out of range"
  | badTag => "bad envelope tag"
  | commandSize => "command size does not match the envelope"
  | authSize => "malformed authorization area"
  | commandNotImplemented => "command not implemented"
  | handleNotFound => "handle not found"
  | policy reason => "policy failure: " ++ reason.message
  | sessionStateInvalid => "session state invalid"
  | exhausted resource => "resource exhausted: " ++ resource.name
  | failure => "internal failure"

/-- The response code of a cause, without a site. -/
def baseCode : Cause → UInt32
  | size => ResponseCode.size
  | value => ResponseCode.value
  | badTag => ResponseCode.badTag
  | commandSize => ResponseCode.commandSize
  | authSize => ResponseCode.authSize
  | commandNotImplemented => ResponseCode.commandCode
  | handleNotFound => ResponseCode.handle
  | policy reason => reason.baseCode
  | sessionStateInvalid => ResponseCode.value
  | exhausted .sessionTable => ResponseCode.sessionMemory
  | exhausted .responseBuffer => ResponseCode.memory
  | failure => ResponseCode.failure

end Cause

/-- The place in a command that a fault concerns, counted from 1. -/
inductive Site
  | handle (index : UInt8)
  | parameter (index : UInt8)
  | session (index : UInt8)
  deriving DecidableEq, Repr

/-- A cause and the site it is attributed to, if any. -/
structure Fault where
  cause : Cause
  site : Option Site
  deriving DecidableEq, Repr

namespace Cause

/-- The cause, attributed to no site. -/
def unattributed (cause : Cause) : Fault := ⟨cause, none⟩

/-- The cause, attributed to handle `index`. -/
def atHandle (cause : Cause) (index : UInt8) : Fault := ⟨cause, some (.handle index)⟩

/-- The cause, attributed to parameter `index`. -/
def atParameter (cause : Cause) (index : UInt8) : Fault := ⟨cause, some (.parameter index)⟩

/-- The cause, attributed to authorization `index`. -/
def atSession (cause : Cause) (index : UInt8) : Fault := ⟨cause, some (.session index)⟩

end Cause

namespace Fault

/-- The fault, attributed to `site` unless it already has one. -/
def orAt (fault : Fault) (site : Site) : Fault :=
  { fault with site := fault.site.or (some site) }

/-- The wording of a fault is that of its cause. -/
def message (fault : Fault) : String := fault.cause.message

/-- The base code of the cause, with the site written in if the code has format one. -/
def responseCode (fault : Fault) : UInt32 :=
  let rc := fault.cause.baseCode
  if ResponseCode.isFormatOne rc then
    match fault.site with
    | some (.handle n) => ResponseCode.withHandle rc n
    | some (.parameter n) => ResponseCode.withParameter rc n
    | some (.session n) => ResponseCode.withSession rc n
    | none => rc
  else rc

end Fault

/-- A command that was refused, and why. -/
structure CommandFault where
  commandCode : UInt32
  fault : Fault
  deriving DecidableEq, Repr

namespace CommandFault

/-- The response code that reports the refusal. -/
def responseCode (refusal : CommandFault) : UInt32 := refusal.fault.responseCode

/-- The wording of a refusal names the command, the fault and the response code. -/
def message (refusal : CommandFault) : String :=
  "command 0x" ++ Hex.number 8 refusal.commandCode.toNat ++ " failed: " ++ refusal.fault.message
    ++ " (rc 0x" ++ Hex.number 3 refusal.responseCode.toNat ++ ")"

end CommandFault

/-- A promise the engine makes to itself and did not keep. -/
inductive Breach
  /-- A patch reached past the end of the output. -/
  | patchPastEnd
  /-- A PCR beyond the last one was read. -/
  | pcrOutOfRange
  /-- A policy digest did not have the length of the session's hash. -/
  | digestLength
  /-- An expiration instant does not fit the clock. -/
  | expirationOverflow
  /-- Every handle of a session range is in use. -/
  | handlesExhausted
  deriving DecidableEq, Repr

/-- Why a computation ended early: a fault to report, or a broken promise. -/
inductive Stop
  | fault (fault : Fault)
  | breach (breach : Breach)
  deriving DecidableEq, Repr

/-- The end of a computation that met `cause` at no particular site. -/
def Stop.ofCause (cause : Cause) : Stop := .fault cause.unattributed

end TrustedPlatform
