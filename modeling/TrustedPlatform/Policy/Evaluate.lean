import TrustedPlatform.Environment
import TrustedPlatform.Policy.Assertion
import TrustedPlatform.Session

/-!
# Evaluating policy assertions

`Policy.evaluate` checks an assertion against a session and the environment and computes the whole
change it makes, without touching the session; `Policy.apply` commits that change. An assertion
that fails therefore leaves the session as it was.

A trial session skips the checks of proofs: PCR values, signatures, tickets, nonces and
expirations. It extends the digest all the same, and never skips the comparison of the approved
policy.
-/

namespace TrustedPlatform.Policy

/-- The end of a check that met `cause` at parameter `index`. -/
def atParameter (cause : Cause) (index : UInt8) : Stop := .fault (cause.atParameter index)

/-- The end of a check that met a policy fault at parameter `index`. -/
def rejectAt (reason : PolicyFault) (index : UInt8) : Stop :=
  atParameter (.policy reason) index

/-- The result, or the fault at parameter `index`. -/
def liftAt {α : Type} (index : UInt8) : Except Cause α → Except Stop α
  | .ok value => .ok value
  | .error cause => .error (atParameter cause index)

/-- The result, or the fault at no particular site. -/
def lift {α : Type} : Except Cause α → Except Stop α
  | .ok value => .ok value
  | .error cause => .error (.ofCause cause)

/-! ## Digests -/

/-- The digest extended by one step: the hash of the digest, a marker and what the step adds. -/
def extend (crypto : Crypto) (alg : AlgId) (digest : Bytes) (marker : CommandCode)
    (addition : Bytes) : Except Cause Bytes :=
  crypto.hashWith alg (digest ++ be32 marker.code ++ addition)

/-- The digest extended by a name, and then by a reference without marker. -/
def update (crypto : Crypto) (alg : AlgId) (digest : Bytes) (marker : CommandCode)
    (name policyRef : Bytes) : Except Cause Bytes := do
  let named ← extend crypto alg digest marker name
  crypto.hashWith alg (named ++ policyRef)

/-! ## The assertions one by one -/

/-- The cpHash an assertion binds the session to, none if it is empty; one that differs from the
session's is refused. -/
def boundCpHash (session : Session) (cpHash : Bytes) (index : UInt8) :
    Except Stop (Option Bytes) :=
  if cpHash.isEmpty then .ok none
  else
    match session.policy.cpHash with
    | some bound =>
      if bound = cpHash then .ok (some cpHash) else .error (rejectAt .cpHashMismatch index)
    | none => .ok (some cpHash)

/-- The authorization value is needed, as a password or not. Both assertions have the same
marker. -/
def authValueChange (env : Environment) (session : Session) (password : Bool) :
    Except Stop PolicyChange := do
  let digest ←
    lift (extend env.crypto session.hashAlg session.policy.digest .policyAuthValue [])
  return { PolicyChange.ofDigest digest with
    authValueNeeded := some !password, passwordNeeded := some password }

/-- Only `code` is authorized; it must be implemented and be the only code so far. -/
def commandCodeChange (env : Environment) (session : Session) (code : UInt32) :
    Except Stop PolicyChange := do
  if !env.commands.isImplemented code then throw (rejectAt .commandCode 1)
  if session.policy.commandCode.any (· ≠ code) then throw (atParameter .sessionStateInvalid 1)
  let digest ←
    lift (extend env.crypto session.hashAlg session.policy.digest .policyCommandCode (be32 code))
  return { PolicyChange.ofDigest digest with commandCode := some code }

/-- The digest of the selected PCRs that goes into the policy: the current one, which must be
`pcrDigest` unless that is empty; a trial session takes `pcrDigest` unseen unless it is empty. -/
def pcrValue (env : Environment) (session : Session) (pcrDigest : Digest)
    (pcrs : PcrSelections) : Except Stop Bytes :=
  if session.isTrial && !pcrDigest.isEmpty then .ok pcrDigest.bytes
  else
    match env.pcrs.digest pcrs session.hashAlg with
    | .ok value =>
      if !session.isTrial && !pcrDigest.isEmpty && pcrDigest.bytes ≠ value then
        .error (rejectAt .pcrMismatch 1)
      else .ok value
    | .error (.fault fault) => .error (atParameter fault.cause 2)
    | .error (.breach breach) => .error (.breach breach)

/-- The PCRs have the given values, and have not changed since the session first looked. -/
def pcrChange (env : Environment) (session : Session) (pcrDigest : Digest)
    (pcrs : PcrSelections) : Except Stop PolicyChange := do
  let counter := env.pcrs.updateCounter
  if !session.isTrial && session.policy.pcrSnapshot.any (·.updateCounter ≠ counter) then
    throw (.ofCause (.policy .pcrChanged))
  let value ← pcrValue env session pcrDigest pcrs
  let digest ←
    lift (extend env.crypto session.hashAlg session.policy.digest .policyPcr
      (Wire.write pcrs ++ value))
  return { PolicyChange.ofDigest digest with pcrSnapshot := some ⟨pcrs, counter⟩ }

/-- The hash that a key's name is made with. -/
def nameHash? (name : Name) : Option AlgId :=
  name.algorithm?.filter AlgId.isHash

/-- The policy so far is the one that the key named `keySign` approved; the digest starts anew from
the key's name and the reference. -/
def authorizeChange (env : Environment) (session : Session) (approvedPolicy : Digest)
    (policyRef : Nonce) (keySign : Name) (checkTicket : Ticket) : Except Stop PolicyChange := do
  if approvedPolicy.bytes ≠ session.policy.digest then
    throw (rejectAt .approvedPolicyMismatch 1)
  match nameHash? keySign with
  | none => throw (atParameter .value 3)
  | some nameAlg =>
    if !session.isTrial then
      let approval ←
        liftAt 3 (env.crypto.hashWith nameAlg (approvedPolicy.bytes ++ policyRef.bytes))
      liftAt 4 (env.tickets.verifyVerified env.crypto checkTicket approval keySign.bytes)
    let zero := Bytes.zeros session.hashAlg.digestSize
    let digest ←
      lift (update env.crypto session.hashAlg zero .policyAuthorize keySign.bytes policyRef.bytes)
    return .ofDigest digest

/-- The marker of the assertion that a ticket repeats. -/
def ticketMarker? : StructureTag → Option CommandCode
  | .authSigned => some .policySigned
  | .authSecret => some .policySecret
  | _ => none

/-- The parameter at fault when a ticket is not accepted: the timeout if it has passed, else the
ticket. -/
def ticketSite : Cause → UInt8
  | .policy .ticketExpired => 1
  | _ => 5

/-- An authorization of the entity named `authName` is repeated by its ticket. -/
def ticketChange (env : Environment) (session : Session) (timeout : Timeout) (cpHashA : Digest)
    (policyRef : Nonce) (authName : Name) (ticket : Ticket) : Except Stop PolicyChange := do
  match ticketMarker? ticket.tag with
  | none => throw (rejectAt .ticketInvalid 5)
  | some marker =>
    let cpHash ← boundCpHash session cpHashA.bytes 2
    if !session.isTrial then
      let claim : AuthClaim := ⟨timeout, cpHashA.bytes, policyRef.bytes, authName.bytes⟩
      match env.tickets.verifyAuth env.crypto env.clock ticket claim with
      | .ok () => pure ()
      | .error cause => throw (atParameter cause (ticketSite cause))
    let digest ←
      lift (update env.crypto session.hashAlg session.policy.digest marker authName.bytes
        policyRef.bytes)
    return { PolicyChange.ofDigest digest with cpHash := cpHash }

/-- Milliseconds for which an authorization of this expiration is good. -/
def lifetime (expiration : Int32) : Nat :=
  expiration.toInt.natAbs * 1000

/-- What a signed authorization is a signature of, before hashing. -/
def authorizationOctets (nonceTpm : Nonce) (expiration : Int32) (cpHashA : Digest)
    (policyRef : Nonce) : Bytes :=
  nonceTpm.bytes ++ be32 expiration.toUInt32 ++ cpHashA.bytes ++ policyRef.bytes

/-- Fails unless `auth` signs `octets` under the key `authObject`. -/
def checkAuthorization (crypto : Crypto) (authObject : Entity) (octets : Bytes)
    (auth : Signature) : Except Stop Unit := do
  match authObject.publicKey with
  | none => throw (.fault (Cause.handleNotFound.atHandle 1))
  | some key =>
    match auth.hash? with
    | none => throw (atParameter .value 5)
    | some alg =>
      let digest ← lift (crypto.hashWith alg octets)
      if !(← lift (crypto.verify key digest auth)) then throw (rejectAt .signatureInvalid 5)

/-- A nonce, unless it is empty, must be the session's, and an authorization that expires must still
be good. -/
def checkFreshness (clock : Clock) (session : Session) (nonceTpm : Nonce) (expiration : Int32) :
    Except Stop Unit := do
  if !nonceTpm.isEmpty && nonceTpm.bytes ≠ session.nonceTpm then throw (rejectAt .nonceMismatch 1)
  if expiration ≠ 0 ∧ clock.now.toNat - session.startTime.toNat > lifetime expiration then
    throw (rejectAt .ticketExpired 4)

/-- The entity `authObject` signed an authorization. -/
def signedChange (env : Environment) (session : Session) (authObject : Entity) (nonceTpm : Nonce)
    (cpHashA : Digest) (policyRef : Nonce) (expiration : Int32) (auth : Signature) :
    Except Stop PolicyChange := do
  if !session.isTrial then checkFreshness env.clock session nonceTpm expiration
  let cpHash ← boundCpHash session cpHashA.bytes 2
  if !session.isTrial then
    checkAuthorization env.crypto authObject
      (authorizationOctets nonceTpm expiration cpHashA policyRef) auth
  let digest ←
    lift (update env.crypto session.hashAlg session.policy.digest .policySigned
      authObject.name.bytes policyRef.bytes)
  return { PolicyChange.ofDigest digest with cpHash := cpHash }

/-- The ticket of a signed authorization: one that is bound to the session by its nonce and has a
negative expiration can be repeated until it expires, any other cannot. -/
def signedOutcome (env : Environment) (session : Session) (authObject : Entity)
    (nonceTpm : Nonce) (cpHashA : Digest) (policyRef : Nonce) (expiration : Int32) :
    Except Stop PolicyOutcome := do
  if !session.isTrial && expiration < 0 && !nonceTpm.isEmpty then
    let expiresAt := session.startTime.toNat + lifetime expiration
    if expiresAt ≥ UInt64.size then throw (.breach .expirationOverflow)
    let timeout := Timeout.ofExpiration (UInt64.ofNat expiresAt) env.clock.resetCount
    let claim : AuthClaim := ⟨timeout, cpHashA.bytes, policyRef.bytes, authObject.name.bytes⟩
    let ticket ← lift (env.tickets.issueAuth env.crypto .authSigned authObject.hierarchy claim)
    return .signed timeout ticket
  else
    return .signed .empty (.null .authSigned)

/-! ## All assertions -/

/-- What `assertion` changes and gives back, if it holds. -/
def evaluate (env : Environment) (session : Session) (assertion : Assertion) :
    Except Stop (PolicyChange × PolicyOutcome) := do
  if !session.isPolicy then
    throw (.fault (Cause.sessionStateInvalid.atHandle assertion.sessionIndex))
  match assertion with
  | .authValue => return (← authValueChange env session false, .done)
  | .password => return (← authValueChange env session true, .done)
  | .commandCode code => return (← commandCodeChange env session code, .done)
  | .pcr pcrDigest pcrs => return (← pcrChange env session pcrDigest pcrs, .done)
  | .authorize approvedPolicy policyRef keySign checkTicket =>
    return (← authorizeChange env session approvedPolicy policyRef keySign checkTicket, .done)
  | .ticket timeout cpHashA policyRef authName ticket =>
    return (← ticketChange env session timeout cpHashA policyRef authName ticket, .done)
  | .signed authObject nonceTpm cpHashA policyRef expiration auth =>
    let change ←
      signedChange env session authObject nonceTpm cpHashA policyRef expiration auth
    let outcome ←
      signedOutcome env session authObject nonceTpm cpHashA policyRef expiration
    return (change, outcome)

/-- The session after `assertion`, and what the assertion gives back, if it holds. -/
def apply (env : Environment) (session : Session) (assertion : Assertion) :
    Except Stop (Session × PolicyOutcome) := do
  let (change, outcome) ← evaluate env session assertion
  return (← session.commit change, outcome)

end TrustedPlatform.Policy
