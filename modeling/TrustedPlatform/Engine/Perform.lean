import TrustedPlatform.Engine.State
import TrustedPlatform.Policy.Evaluate

/-!
# Carrying out commands

`Engine.perform` carries out a command: it takes the typed request, changes the state, and gives
the typed response. Faults carry the handle or parameter they concern.
-/

namespace TrustedPlatform.Engine

/-- Octets of the shortest nonce a caller may start a session with. -/
def minNonceSize : Nat := 16

/-! ## Sessions -/

/-- The entity a session is bound to, none for the null handle. -/
def boundEntity (env : Environment) (bind : UInt32) : Action (Option Name) :=
  if bind = Handle.null then return none
  else
    match env.objects.resolve bind with
    | some entity => return some entity.name
    | none => Action.reject (Cause.handleNotFound.atHandle 2)

/-- Opens a session. Salted sessions are not supported. -/
def startAuthSession (env : Environment) (r : StartAuthSessionRequest) :
    Action StartAuthSessionResponse := do
  if r.tpmKey ≠ Handle.null then Action.reject (Cause.value.atHandle 1)
  if !r.encryptedSalt.isEmpty then Action.reject (Cause.value.atParameter 2)
  let boundEntity ← boundEntity env r.bind
  match r.authHash.alg.hash? with
  | none => Action.reject (Cause.value.atParameter 5)
  | some hash =>
    if r.nonceCaller.length < minNonceSize ∨ hash.digestSize < r.nonceCaller.length then
      Action.reject (Cause.size.atParameter 1)
    let nonceTpm ← Action.draw env.crypto hash.digestSize
    let sessionHandle ← Action.onSessions (SessionTable.start {
      kind := r.kind
      hashAlg := r.authHash.alg
      boundEntity := boundEntity
      nonceCaller := r.nonceCaller.bytes
      nonceTpm := nonceTpm
      startTime := env.clock.now })
    return ⟨sessionHandle, ⟨nonceTpm⟩⟩

/-- Drops a session. -/
def flushContext (r : FlushContextRequest) : Action EmptyResponse := do
  match HandleKind.of? r.flushHandle with
  | some .hmacSession | some .policySession =>
    let _ ← Action.onSessionsAt (·.atParameter 1) (SessionTable.flush r.flushHandle)
    return {}
  | _ => Action.reject (Cause.value.atParameter 1)

/-! ## Policy -/

/-- Makes an assertion on the session under `handle`, which is the command's handle `index`. -/
def makeAssertion (env : Environment) (handle : UInt32) (index : UInt8) (assertion : Assertion) :
    Action PolicyOutcome := do
  let session ← Action.onSessionsAt (·.atHandle index) (SessionTable.touch handle)
  let (session, outcome) ← Action.ofExcept (Policy.apply env session assertion)
  modify fun state => { state with sessions := state.sessions.insert handle session }
  return outcome

/-- Makes an assertion that gives nothing back. -/
def makePlainAssertion (env : Environment) (handle : UInt32) (assertion : Assertion) :
    Action EmptyResponse := do
  let _ ← makeAssertion env handle 1 assertion
  return {}

/-- Makes a signed assertion and returns its ticket. -/
def policySigned (env : Environment) (r : PolicySignedRequest) : Action PolicySignedResponse := do
  match env.objects.resolve r.authObject with
  | none => Action.reject (Cause.handleNotFound.atHandle 1)
  | some authObject =>
    match ← makeAssertion env r.policySession 2 (r.assertion authObject) with
    | .signed timeout ticket => return ⟨timeout, ticket⟩
    | .done => Action.reject Cause.failure.unattributed

/-- The policy digest of a session; looking at it is not a use of the session. -/
def policyGetDigest (r : PolicyGetDigestRequest) : Action PolicyGetDigestResponse := do
  match ← Action.session? r.policySession with
  | none => Action.reject (Cause.handleNotFound.atHandle 1)
  | some session =>
    if !session.isPolicy then Action.reject (Cause.sessionStateInvalid.atHandle 1)
    return ⟨⟨session.policy.digest⟩⟩

/-! ## Signatures -/

/-- Verifies a signature and returns the ticket that says so. -/
def verifySignature (env : Environment) (r : VerifySignatureRequest) :
    Action VerifySignatureResponse := do
  match env.objects.resolve r.keyHandle with
  | none => Action.reject (Cause.handleNotFound.atHandle 1)
  | some key =>
    match key.publicKey with
    | none => Action.reject (Cause.value.atHandle 1)
    | some publicKey =>
      if r.signature.hash?.isNone then Action.reject (Cause.value.atParameter 2)
      let valid ← Action.ofExcept
        (Policy.liftAt 2 (env.crypto.verify publicKey r.digest.bytes r.signature))
      if !valid then Action.reject ((Cause.policy .signatureInvalid).atParameter 2)
      let ticket ← Action.ofExcept (Policy.lift
        (env.tickets.issueVerified env.crypto key.hierarchy r.digest.bytes key.name.bytes))
      return ⟨ticket⟩

/-! ## All commands -/

/-- Carries out a command. -/
def perform (env : Environment) : (command : Command) → command.Request → Action command.Response
  | .startAuthSession, r => startAuthSession env r
  | .flushContext, r => flushContext r
  | .policyAuthValue, r =>
    makePlainAssertion env (PolicyAuthValueRequest.policySession r) .authValue
  | .policyPassword, r =>
    makePlainAssertion env (PolicyPasswordRequest.policySession r) .password
  | .policyCommandCode, r =>
    makePlainAssertion env (PolicyCommandCodeRequest.policySession r)
      (.commandCode (PolicyCommandCodeRequest.code r))
  | .policyPcr, r =>
    makePlainAssertion env (PolicyPcrRequest.policySession r) (PolicyPcrRequest.assertion r)
  | .policyAuthorize, r =>
    makePlainAssertion env (PolicyAuthorizeRequest.policySession r)
      (PolicyAuthorizeRequest.assertion r)
  | .policyTicket, r =>
    makePlainAssertion env (PolicyTicketRequest.policySession r) (PolicyTicketRequest.assertion r)
  | .policySigned, r => policySigned env r
  | .policyGetDigest, r => policyGetDigest r
  | .verifySignature, r => verifySignature env r

end TrustedPlatform.Engine
