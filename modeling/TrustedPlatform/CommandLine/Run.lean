import TrustedPlatform.CommandLine.Arguments
import TrustedPlatform.Config.Text
import TrustedPlatform.Engine.Basic
import TrustedPlatform.Text.Blank

/-!
# Running a task

A task runs one engine from its start and ends in a line of output or in a `Failure`. All commands
go through their envelopes, and a refused command fails the task.
-/

namespace TrustedPlatform.CommandLine

/-- Why a task failed. -/
inductive Failure
  /-- The configuration cannot be used. -/
  | config (error : ConfigError)
  /-- A trial was asked for without anything to assert. -/
  | nothingToAssert
  /-- The command is not written in hexadecimal digits. -/
  | notHex
  /-- A response is no envelope. -/
  | reply (error : ReplyError)
  /-- A command gave no usable response. -/
  | call (command : CommandCode) (error : ReplyError)
  /-- The task's own cryptography failed. -/
  | crypto (cause : Cause)
  /-- The engine broke a promise. -/
  | breach (breach : Breach)
  deriving DecidableEq, Repr

namespace Failure

/-- What the task was about to do, from the outside in, and last what went wrong. -/
def chain : Failure → List String
  | config error => [error.message]
  | nothingToAssert => ["nothing to assert: pass --auth-value and/or --pcr"]
  | notHex => ["command is not valid hex"]
  | reply error => [error.reason]
  | call command error =>
    [command.name ++ " failed"] ++ error.context?.toList ++ [error.reason]
  | crypto cause => [cause.message]
  | breach _ => [Cause.failure.message]

/-- The first line that reports the failure. -/
def headline (failure : Failure) : String :=
  "Error: " ++ failure.chain.headD ""

/-- The line that names the response code of a refused command. -/
def refusal? : Failure → Option String
  | call _ (.refused responseCode) => some (ReplyError.refused responseCode).reason
  | _ => none

/-- All lines that report the failure. -/
def report (failure : Failure) : List String :=
  match failure.chain.tail with
  | [] => [failure.headline]
  | [reason] => [failure.headline, "", "Caused by:", "    " ++ reason]
  | reasons =>
    [failure.headline, "", "Caused by:"]
      ++ reasons.zipIdx.map fun (reason, i) => "    " ++ toString i ++ ": " ++ reason

end Failure

/-- A computation that drives an engine. -/
abbrev Driving := EStateM Failure Engine

/-- The response envelope to a request envelope. -/
def send (command : Bytes) : Driving Bytes := fun engine =>
  match Engine.execute command engine with
  | .ok response engine => .ok response engine
  | .error breach engine => .error (.breach breach) engine

/-- The header of a response that is an envelope. -/
def received (response : Bytes) : Driving Reply :=
  match Reply.parse response with
  | .ok reply => return reply
  | .error error => throw (.reply error)

/-- The typed response to a typed request without sessions. -/
def call {α : Type} [Layout α] (β : Type) [Layout β] (command : CommandCode) (arguments : α) :
    Driving β := do
  let reply ← received (← send (RequestBuilder.request command arguments []))
  match reply.decode β with
  | .ok answer => return answer
  | .error error => throw (.call command error)

/-- Random octets, drawn from the engine's source. -/
def draw (size : Nat) : Driving Bytes := fun engine =>
  match Engine.Action.draw engine.env.crypto size engine.state with
  | .ok octets state => .ok octets { engine with state := state }
  | .error _ state => .ok [] { engine with state := state }

/-- Starts a session and returns its handle. -/
def startSession (kind : SessionKind) : Driving UInt32 := do
  let nonce ← draw Engine.minNonceSize
  let response ← call StartAuthSessionResponse .startAuthSession
    (StartAuthSessionRequest.unbound kind .sha256 nonce)
  return response.sessionHandle

/-- The policy digest of a session. -/
def policyDigest (session : UInt32) : Driving Bytes := do
  let response ← call PolicyGetDigestResponse .policyGetDigest
    ({ policySession := session } : PolicyGetDigestRequest)
  return response.policyDigest.bytes

/-- The digest of the policy that asserts the authorization value and the current values of PCRs, by
way of a trial session. -/
def trialDigest (authValue : Bool) (pcrs : List UInt32) : Driving Bytes := do
  if !authValue && pcrs.isEmpty then throw .nothingToAssert
  let session ← startSession .trial
  if authValue then
    let _ ← call EmptyResponse .policyAuthValue
      ({ policySession := session } : PolicyAuthValueRequest)
  if !pcrs.isEmpty then
    let _ ← call EmptyResponse .policyPcr
      ({ policySession := session, pcrDigest := .empty, pcrs := .single .sha256 pcrs } :
        PolicyPcrRequest)
  let digest ← policyDigest session
  let _ ← call EmptyResponse .flushContext ({ flushHandle := session } : FlushContextRequest)
  return digest

/-- A new secret scalar. -/
def newSecret : Driving Bytes := do
  let octets ← draw (P256.size + 8)
  return Bytes.ofNat P256.size (octets.toNat % (P256.n - 1) + 1)

/-- Approves the policy of the authorization value with a new key, satisfies it on a policy session
through the approval, and returns the session's policy digest. -/
def authorizedDigest (policyRef : Bytes) : Driving Bytes := do
  let secret ← newSecret
  match Crypto.publicKey? secret with
  | none => throw (.crypto .value)
  | some key =>
    let (signer, engine) := (← get).loadKey key Handle.owner
    set engine
    let approved ← trialDigest true []
    let approval := HashId.sha256.digest (approved ++ policyRef)
    match Crypto.sign secret approval with
    | .error cause => throw (.crypto cause)
    | .ok signature =>
      let verified ← call VerifySignatureResponse .verifySignature
        ({ keyHandle := signer.handle, digest := ⟨approval⟩, signature } : VerifySignatureRequest)
      let session ← startSession .policy
      let _ ← call EmptyResponse .policyAuthValue
        ({ policySession := session } : PolicyAuthValueRequest)
      let _ ← call EmptyResponse .policyAuthorize
        ({ policySession := session, approvedPolicy := ⟨approved⟩, policyRef := ⟨policyRef⟩,
           keySign := signer.name, checkTicket := verified.validation } : PolicyAuthorizeRequest)
      policyDigest session

/-- The response envelope to a request envelope given in hexadecimal digits. -/
def execDigits (digits : String) : Driving Bytes := do
  match Hex.decode? (Text.trimmed digits.toList) with
  | none => throw .notHex
  | some command =>
    let response ← send command
    let _ ← received response
    return response

/-- The octets a task prints. -/
def Task.run : Task → Driving Bytes
  | trial authValue pcrs => trialDigest authValue pcrs
  | authorize policyRef => authorizedDigest policyRef.toUTF8.data.toList
  | exec command => execDigits command

/-- The line a task prints, with the configuration of a file, if there is one. -/
def Task.output (task : Task) (crypto : Crypto) (configFile : Option Bytes) :
    Except Failure String := do
  let config ←
    match configFile with
    | none => pure Config.standard
    | some contents =>
      match Config.ofBytes contents with
      | .ok config => pure config
      | .error error => throw (.config error)
  match task.run (Engine.new crypto config) with
  | .ok octets _ => return Hex.encode octets
  | .error failure _ => throw failure

end TrustedPlatform.CommandLine
