import TrustedPlatform.Layout
import TrustedPlatform.Envelope.Response

/-!
# Reading response envelopes

What a client makes of a response: `Reply.parse` checks the header, `Reply.parameters` reads the
typed handles and parameters, `Reply.authEntries` the authorization entries. A `ReplyError` says
why a reply is of no use to the client, in the client's words.
-/

namespace TrustedPlatform

/-- Why a reply is of no use. -/
inductive ReplyError
  /-- The envelope has only `length` octets. -/
  | tooShort (length : Nat)
  /-- The tag is unknown. -/
  | invalidTag (code : UInt16)
  /-- The size field does not say `actual`. -/
  | sizeMismatch (expected actual : Nat)
  /-- The engine refused the command. -/
  | refused (responseCode : UInt32)
  /-- The handles or parameters are not those of the command. -/
  | malformedParameters (fault : Fault)
  /-- An area of the envelope cannot be read. -/
  | malformedArea (cause : Cause)
  deriving DecidableEq, Repr

namespace ReplyError

/-- What the client was about to do when it met the error; none if the error stands alone. -/
def context? : ReplyError → Option String
  | malformedParameters _ => some "malformed response parameters"
  | _ => none

/-- The error itself. -/
def reason : ReplyError → String
  | tooShort length => "TPM response too short: " ++ toString length ++ " bytes"
  | invalidTag code => "invalid response tag: 0x" ++ Hex.number 4 code.toNat
  | sizeMismatch expected actual =>
    "TPM response size mismatch: expected " ++ toString expected ++ ", got " ++ toString actual
  | refused responseCode => "TPM error: 0x" ++ Hex.number 8 responseCode.toNat
  | malformedParameters fault => fault.message
  | malformedArea cause => cause.message

/-- The context, if any, and the error. -/
def message (error : ReplyError) : String :=
  match error.context? with
  | some context => context ++ ": " ++ error.reason
  | none => error.reason

end ReplyError

/-- A response envelope, its body not yet cut into areas. -/
structure Reply where
  tag : StructureTag
  responseCode : UInt32
  body : Bytes
  deriving DecidableEq, Repr

namespace Reply

/-- Checks the header of `response`. -/
def parse (response : Bytes) : Except ReplyError Reply :=
  if response.length < headerSize then .error (.tooShort response.length)
  else
    let tagCode := UInt16.ofNat (Bytes.toNat (response.take 2))
    match StructureTag.ofCode? tagCode with
    | none => .error (.invalidTag tagCode)
    | some tag =>
      let size := Bytes.toNat ((response.drop 2).take 4)
      if response.length ≠ size then .error (.sizeMismatch size response.length)
      else
        let responseCode := UInt32.ofNat (Bytes.toNat ((response.drop 6).take 4))
        .ok ⟨tag, responseCode, response.drop headerSize⟩

/-- Whether the command was carried out. -/
def isSuccess (reply : Reply) : Bool := reply.responseCode = ResponseCode.success

/-- Fails if the command was refused. -/
def ensureSuccess (reply : Reply) : Except ReplyError Unit :=
  if reply.isSuccess then .ok () else .error (.refused reply.responseCode)

/-- Reads the handles and the parameter area; what follows is the authorization area. -/
def areasReader (tag : StructureTag) (handleCount : Nat) : Reader (List UInt32 × Bytes) := do
  let handles ← Reader.repeated Reader.word32 handleCount
  if tag = .sessions then
    return (handles, ← Reader.take (← Reader.word32).toNat)
  else
    return (handles, ← Reader.rest)

/-- The handles, the parameter area and the authorization area. -/
def areas (reply : Reply) (handleCount : Nat) : Except Cause (List UInt32 × Bytes × Bytes) :=
  match areasReader reply.tag handleCount reply.body with
  | .ok (handles, parameters) rest => .ok (handles, parameters, rest)
  | .error cause _ => .error cause

/-- The typed answer to a command; its parameters must fill the parameter area. -/
def parameters (α : Type) [Layout α] (reply : Reply) : Except Fault α :=
  match reply.areas (Layout.handleCount α) with
  | .error cause => .error cause.unattributed
  | .ok (handles, area, _) => Layout.ofAreas α handles area

/-- The typed answer to a command that was carried out. -/
def decode (α : Type) [Layout α] (reply : Reply) : Except ReplyError α := do
  reply.ensureSuccess
  match reply.parameters α with
  | .ok answer => return answer
  | .error fault => throw (.malformedParameters fault)

/-- The authorization entries; `handleCount` is that of the command's response. -/
def authEntries (reply : Reply) (handleCount : Nat) : Except ReplyError (List AuthResponse) :=
  match reply.areas handleCount with
  | .error cause => .error (.malformedArea cause)
  | .ok (_, _, area) =>
    match Reader.untilEnd (Wire.read : Reader AuthResponse) area.length area with
    | .ok entries _ => .ok entries
    | .error cause _ => .error (.malformedArea cause)

end Reply

end TrustedPlatform
