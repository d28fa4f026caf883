import TrustedPlatform.Proofs.Engine.VerifiedTicket
import TrustedPlatform.Proofs.Hash

/-!
# Policies that a key approves

A key approves a policy by signing its digest together with a reference, hashed with the hash of the
key's name. The ticket that VerifySignature gives for the signature lets PolicyAuthorize replace the
approved policy: the digest of the session starts anew from the name and the reference, and nothing
is left in it of how the approved policy was come to. `policyAuthorize_of_approval` says in which
states this succeeds, and for which sessions.
-/

namespace TrustedPlatform

/-- The request that shows, on the session `policySession`, the ticket of the approval by the key
named `keyName`. -/
def VerifySignatureResponse.authorize (answer : VerifySignatureResponse) (keyName : Name)
    (approvedPolicy : Digest) (policyRef : Nonce) (policySession : UInt32) :
    PolicyAuthorizeRequest where
  policySession := policySession
  approvedPolicy := approvedPolicy
  policyRef := policyRef
  keySign := keyName
  checkTicket := answer.validation

/-- A ticket of a verified signature is accepted for what was verified, while its hierarchy is
enabled. -/
theorem TicketAuthority.verifyVerified_of_issue {authority issuing : TicketAuthority}
    {crypto : Crypto} {hierarchy : UInt32} {digest keyName : Bytes} {ticket : Ticket}
    (hseparate : issuing.Separate) (hproofs : authority.proofs = issuing.proofs)
    (hissue : issuing.issueVerified crypto hierarchy digest keyName = .ok ticket)
    (hhierarchy : hierarchy ≠ Handle.null) (henabled : authority.isEnabled hierarchy = true) :
    authority.verifyVerified crypto ticket digest keyName = .ok () := by
  obtain ⟨hnull, _⟩ | ⟨_, signature, _, rfl⟩ := issue_eq_ok_iff.mp hissue
  · exact absurd hnull hhierarchy
  · have hcheck := check_of_issue hseparate hproofs hissue (by simpa [Ticket.isNull] using hhierarchy)
      henabled
    exact verifyVerified_eq_ok_iff.mpr ⟨rfl, hcheck⟩

namespace Policy

/-- The digest of a session after an approval: that of a new session, extended by the name of the
key and the reference. -/
def approvedDigest (crypto : Crypto) (hash : HashId) (keyName : Name) (policyRef : Nonce) : Bytes :=
  crypto.hash hash
    (crypto.hash hash (Bytes.zeros hash.digestSize ++ be32 0x16A ++ keyName.bytes)
      ++ policyRef.bytes)

section

variable {env : Environment} {session : Session} {hash nameHash : HashId} {approvedPolicy : Digest}
  {policyRef : Nonce} {keyName : Name} {ticket : Ticket}

theorem nameHash?_of_algorithm? (h : keyName.algorithm? = some nameHash.alg) :
    nameHash? keyName = some nameHash.alg := by
  rw [nameHash?, h]
  cases nameHash <;> rfl

/-- An approval changes nothing of a session but the digest. -/
theorem apply_authorize (hsized : env.crypto.FixedLength) (hpolicy : session.isPolicy = true)
    (halg : session.hashAlg = hash.alg) (hname : keyName.algorithm? = some nameHash.alg)
    (hverify : env.tickets.verifyVerified env.crypto ticket
      (env.crypto.hash nameHash (approvedPolicy.bytes ++ policyRef.bytes)) keyName.bytes = .ok ())
    (hdigest : session.policy.digest = approvedPolicy.bytes) :
    apply env session (.authorize approvedPolicy policyRef keyName ticket) =
      .ok ({ session with
        policy := { session.policy with
          digest := approvedDigest env.crypto hash keyName policyRef } }, .done) := by
  have happroval : env.crypto.hashWith nameHash.alg (approvedPolicy.bytes ++ policyRef.bytes)
      = .ok (env.crypto.hash nameHash (approvedPolicy.bytes ++ policyRef.bytes)) :=
    Crypto.hashWith_eq_ok_iff.mpr ⟨nameHash, rfl, rfl⟩
  -- the digest that is extended is the zero one, whatever the session had
  have hupdate : update env.crypto session.hashAlg (Bytes.zeros session.hashAlg.digestSize)
      .policyAuthorize keyName.bytes policyRef.bytes
        = .ok (approvedDigest env.crypto hash keyName policyRef) := by
    rw [halg, HashId.digestSize_alg]
    exact update_eq_ok_iff.mpr ⟨hash, rfl, rfl⟩
  have hchange : authorizeChange env session approvedPolicy policyRef keyName ticket
      = .ok (.ofDigest (approvedDigest env.crypto hash keyName policyRef)) :=
    authorizeChange_eq_ok_iff.mpr ⟨hdigest.symm, _, nameHash?_of_algorithm? hname,
      fun _ => ⟨_, happroval, hverify⟩, _, hupdate, rfl⟩
  have hlength : (approvedDigest env.crypto hash keyName policyRef).length
      = session.hashAlg.digestSize := by
    rw [halg, HashId.digestSize_alg]
    exact hsized.length_hash hash _
  refine apply_eq_ok_iff.mpr ⟨hpolicy, _, hchange, rfl, hlength, ?_⟩
  simp [PolicyState.after, PolicyChange.ofDigest]

/-- The comparison with the approved policy comes first, and no session skips it. -/
theorem apply_authorize_of_mismatch (hpolicy : session.isPolicy = true)
    (hdigest : session.policy.digest ≠ approvedPolicy.bytes) :
    apply env session (.authorize approvedPolicy policyRef keyName ticket)
      = .error (rejectAt .approvedPolicyMismatch 1) := by
  refine apply_eq_error_of_changeFor hpolicy ?_
  show authorizeChange env session approvedPolicy policyRef keyName ticket = _
  unfold authorizeChange
  rw [if_pos hdigest.symm]
  rfl

end

end Policy

namespace Engine

/-- A request to authorize is well formed if what it states of the approval is, for a ticket always
is. -/
theorem valid_authorize {env : Environment} {state next : State} {r : VerifySignatureRequest}
    {answer : VerifySignatureResponse} {keyName : Name} {approvedPolicy : Digest}
    {policyRef : Nonce} {handle : UInt32} (hsized : env.crypto.FixedLength)
    (hverified : verifySignature env r state = .ok answer next) (hname : keyName.Valid)
    (hpolicy : approvedPolicy.Valid) (href : policyRef.Valid) :
    Layout.Valid (answer.authorize keyName approvedPolicy policyRef handle) := by
  obtain ⟨_, _, _, _, _, _, hissue, _⟩ := verifySignature_eq_ok_iff.mp hverified
  have hticket : answer.validation.Valid := TicketAuthority.valid_of_issue hsized hissue
  exact ⟨hpolicy, href, hname, hticket, trivial⟩

section

variable {issuer : Engine} {between : List Event} {verifying : Bytes} {r : VerifySignatureRequest}
  {answer : VerifySignatureResponse} {key : Entity}
  (hseparate : issuer.env.tickets.Separate)
  (hverified : completed? issuer verifying = some ⟨.verifySignature, r, answer⟩)
  (hkey : issuer.env.objects.resolve r.keyHandle = some key)
  (hhierarchy : key.hierarchy ≠ Handle.null)
  (henabled : (issuer.afterAll (.command verifying :: between)).env.tickets.isEnabled
    key.hierarchy = true)

include hseparate hverified hkey hhierarchy henabled

/-- In every later state in which the key's hierarchy is enabled, the ticket is accepted for the
digest that was signed and the name of the key. -/
theorem verifyVerified_of_completed? :
    let later := issuer.afterAll (.command verifying :: between)
    later.env.tickets.verifyVerified later.env.crypto answer.validation r.digest.bytes
      key.name.bytes = .ok () := by
  intro later
  obtain ⟨_, _, _, _, _, hperformed, _⟩ := of_completed? hverified
  obtain ⟨_, _, hresolve, _, _, _, hissue, _⟩ := verifySignature_eq_ok_iff.mp hperformed
  cases hkey.symm.trans hresolve
  rw [show later.env.crypto = issuer.env.crypto from crypto_afterAll issuer _]
  exact TicketAuthority.verifyVerified_of_issue hseparate (proofs_afterAll issuer _) hissue
    hhierarchy henabled

/-- The ticket of an approval authorizes exactly the sessions that have come to the approved policy,
be they real or trial sessions, as long as the key's hierarchy is enabled. -/
theorem policyAuthorize_of_approval {nameHash hash : HashId} {approvedPolicy : Digest}
    {policyRef : Nonce} {handle : UInt32} {session : Session}
    (hsized : issuer.env.crypto.FixedLength) (hname : key.name.algorithm? = some nameHash.alg)
    (happroval : r.digest.bytes
      = issuer.env.crypto.hash nameHash (approvedPolicy.bytes ++ policyRef.bytes))
    (hlive : (issuer.afterAll (.command verifying :: between)).state.sessions.get? handle
      = some session)
    (hpolicy : session.isPolicy = true) (halg : session.hashAlg = hash.alg) :
    let later := issuer.afterAll (.command verifying :: between)
    let authorize := answer.authorize key.name approvedPolicy policyRef handle
    ((∃ next, perform later.env .policyAuthorize authorize later.state = .ok {} next) ↔
      session.policy.digest = approvedPolicy.bytes) ∧
    (session.policy.digest = approvedPolicy.bytes →
      ∃ next, perform later.env .policyAuthorize authorize later.state = .ok {} next ∧
        next.sessions.get? handle = some { session with
          lastUsed := later.state.sessions.useClock + 1
          policy := { session.policy with
            digest := Policy.approvedDigest issuer.env.crypto hash key.name policyRef } } ∧
        (key.name.Valid → approvedPolicy.Valid → policyRef.Valid →
          commandFor later.env.commands CommandCode.policyAuthorize.code
            = .ok (.policyAuthorize, 1) →
          headerSize ≤ later.config.maxResponseSize →
          let envelope := plainEnvelope .policyAuthorize authorize
          completed? later envelope = some ⟨.policyAuthorize, authorize, {}⟩ ∧
            later.after (.command envelope) = { later with state := next })) ∧
    (session.policy.digest ≠ approvedPolicy.bytes →
      later.env.tickets.verifyVerified later.env.crypto answer.validation r.digest.bytes
          key.name.bytes = .ok () ∧
        (∃ stopped, perform later.env .policyAuthorize authorize later.state
          = .error (.fault ((Cause.policy .approvedPolicyMismatch).atParameter 1)) stopped) ∧
        ∀ envelope, requested? later envelope = some ⟨.policyAuthorize, authorize⟩ →
          ∃ stopped, executeCommand envelope later
              = .error (.refused ⟨CommandCode.policyAuthorize.code,
                (Cause.policy .approvedPolicyMismatch).atParameter 1⟩) stopped ∧
            stopped.state.sessions = later.state.sessions) := by
  intro later authorize
  have hcrypto : later.env.crypto = issuer.env.crypto := crypto_afterAll issuer _
  have hticket : later.env.tickets.verifyVerified later.env.crypto answer.validation r.digest.bytes
      key.name.bytes = .ok () :=
    verifyVerified_of_completed? hseparate hverified hkey hhierarchy henabled
  have haccept : session.policy.digest = approvedPolicy.bytes →
      ∃ next, perform later.env .policyAuthorize authorize later.state = .ok {} next ∧
        next.sessions.get? handle = some { session with
          lastUsed := later.state.sessions.useClock + 1
          policy := { session.policy with
            digest := Policy.approvedDigest issuer.env.crypto hash key.name policyRef } } := by
    intro hdigest
    rw [happroval, ← hcrypto] at hticket
    rw [← hcrypto] at hsized ⊢
    -- the session is touched before it is compared, which leaves its policy as it is
    exact makePlainAssertion_of_apply hlive
      (Policy.apply_authorize hsized hpolicy halg hname hticket hdigest)
  have hrefuse : session.policy.digest ≠ approvedPolicy.bytes →
      ∃ stopped, perform later.env .policyAuthorize authorize later.state
        = .error (.fault ((Cause.policy .approvedPolicyMismatch).atParameter 1)) stopped := by
    intro hdigest
    exact ⟨_, makePlainAssertion_of_apply_error (touch_of_live hlive)
      (Policy.apply_authorize_of_mismatch hpolicy hdigest)⟩
  refine ⟨⟨fun hok => ?_, fun hdigest => ?_⟩, fun hdigest => ?_, fun hdigest => ?_⟩
  · -- a run of the handler has one result
    by_contra hdigest
    obtain ⟨_, hok⟩ := hok
    obtain ⟨_, herror⟩ := hrefuse hdigest
    cases hok.symm.trans herror
  · obtain ⟨next, hperform, _⟩ := haccept hdigest
    exact ⟨next, hperform⟩
  · obtain ⟨next, hperform, hget⟩ := haccept hdigest
    refine ⟨next, hperform, hget, fun hnameValid hpolicyValid href hcommand hfits => ?_⟩
    obtain ⟨_, _, _, _, _, hperformed, _⟩ := of_completed? hverified
    have hvalid : Layout.Valid authorize :=
      valid_authorize hsized hperformed hnameValid hpolicyValid href
    let call : PlainCall .policyAuthorize := .ofValid authorize hvalid
    exact call.completed?_of_perform later hcommand hperform hfits
  · obtain ⟨stopped, hperform⟩ := hrefuse hdigest
    exact ⟨hticket, ⟨stopped, hperform⟩, fun envelope hrequested =>
      ⟨_, executeCommand_of_perform_error hrequested hperform, rfl⟩⟩

end

/-! ### A policy that the sample key approves -/

def sampleReference : Nonce := ⟨[0x72, 0x65, 0x66]⟩

/-- The key approves the policy of a new session with SHA-384. The hash is that of the key's name,
SHA-256. -/
def sampleApproval : VerifySignatureRequest where
  keyHandle := 0x80000000
  digest := ⟨Bytes.ofNat 32 0xbaf35fbefe58d6c95ed0433348b2a88ca77350a4408f67e0876c867ddc9fc628⟩
  signature := .rsaSsa .sha256
    ⟨Bytes.ofNat 32 0x48470d6cfcc760419e4a0bbe10b4f804042bc7eab199faacddd46231e9f2f46a
      ++ Bytes.ofNat 32 0xb3899fac63fe16aabe6f1e0026dc8b3d1f83395afb8a6d6d97a781cae24247f0
      ++ Bytes.ofNat 32 0x10988a926062711ad571a0e27cfe69dc39e8d82dc8199ca77a2013b591b977d7
      ++ Bytes.ofNat 32 0x4cd0bd92d5d237d7ff1c5ba67583d2b58a076590d398162ee8823920f9b598b4⟩

def sampleApproving : PlainCall .verifySignature where
  arguments := sampleApproval

def sampleApproved : VerifySignatureResponse where
  validation := ⟨.verified, Handle.owner,
    ⟨Bytes.ofNat 32 0x3d3352b627f9fa13704554be9d1982cd3e93337efcdf08fdbb40c3c7377e05a5⟩⟩

/-- The engine with the key loaded and no session. -/
def sampleLoaded : Engine := sampleEngine 0 ⟨.empty 64 false, 0⟩

theorem completed?_sampleApproving :
    completed? sampleLoaded sampleApproving.envelope
        = some ⟨.verifySignature, sampleApproval, sampleApproved⟩ ∧
      sampleLoaded.after (.command sampleApproving.envelope) = sampleLoaded := by
  have hverify : sampleCrypto.verify sampleKey sampleApproval.digest.bytes sampleApproval.signature
      = .ok true := by decide +kernel
  have hhmac : sampleApproved.validation.digest.bytes = sampleCrypto.hmac .sha256 sampleProof
      (be16 StructureTag.verified.code ++ (sampleApproval.digest.bytes ++ sampleName.bytes)) := by
    decide +kernel
  have hperform : verifySignature sampleLoaded.env sampleApproval sampleLoaded.state
      = .ok sampleApproved sampleLoaded.state :=
    verifySignature_sample 0 sampleLoaded.state rfl rfl hverify hhmac
  exact sampleApproving.completed?_of_perform sampleLoaded rfl hperform (by decide)

/-- A policy session with SHA-384 is started after the approval. -/
def sampleStart : Event :=
  .command (RequestBuilder.request .startAuthSession
    (StartAuthSessionRequest.unbound .policy .sha384 (Bytes.zeros 16)) [])

def sampleLongSession : Session :=
  .start 0x03000000 ⟨.policy, .sha384, none, Bytes.zeros 16, sampleRandom 0 48, 0⟩ 1

/-- The engine with the session. -/
def sampleWaiting : Engine :=
  sampleEngine 0 ⟨⟨[(0x03000000, sampleLongSession)], 64, false, 1, 1⟩, 1⟩

theorem sampleLoaded_afterAll :
    sampleLoaded.afterAll [.command sampleApproving.envelope, sampleStart] = sampleWaiting := by
  have hstate : (sampleLoaded.after sampleStart).state = sampleWaiting.state := by decide +kernel
  rw [afterAll, List.foldl_cons, completed?_sampleApproving.2, List.foldl_cons, List.foldl_nil,
    sampleStart, after_command_eq, ← sampleStart, hstate]
  rfl

/-- The session is authorized, and its digest is made of the name and the reference alone. -/
theorem policyAuthorize_of_approval_sample :
    let authorize := sampleApproved.authorize sampleName ⟨Bytes.zeros 48⟩ sampleReference 0x03000000
    ∃ next, completed? sampleWaiting (plainEnvelope .policyAuthorize authorize)
        = some ⟨.policyAuthorize, authorize, {}⟩ ∧
      sampleWaiting.after (.command (plainEnvelope .policyAuthorize authorize))
        = { sampleWaiting with state := next } ∧
      next.sessions.get? 0x03000000 = some { sampleLongSession with
        lastUsed := 2
        policy := { PolicyState.initial 48 with
          digest := Policy.approvedDigest sampleCrypto .sha384 sampleName sampleReference } } := by
  intro authorize
  have hsized : sampleLoaded.env.crypto.FixedLength := Crypto.fixedLength_standard sampleRandom
  have hseparate : sampleLoaded.env.tickets.Separate := by
    show [Handle.owner, Handle.endorsement, Handle.platform].Nodup
    decide
  have hkey : sampleLoaded.env.objects.resolve sampleApproval.keyHandle = some sampleEntity := rfl
  have hname : sampleEntity.name.algorithm? = some HashId.sha256.alg := by decide +kernel
  have hhierarchy : sampleEntity.hierarchy ≠ Handle.null := by decide
  have happroval : sampleApproval.digest.bytes
      = sampleCrypto.hash .sha256 (Bytes.zeros 48 ++ sampleReference.bytes) := by decide +kernel
  have henabled : sampleWaiting.env.tickets.isEnabled sampleEntity.hierarchy = true := by
    decide +kernel
  have hlive : sampleWaiting.state.sessions.get? 0x03000000 = some sampleLongSession := rfl
  have halg : sampleLongSession.hashAlg = HashId.sha384.alg := rfl
  have hcommand : commandFor sampleWaiting.env.commands CommandCode.policyAuthorize.code
      = .ok (.policyAuthorize, 1) := rfl
  have hfits : headerSize ≤ sampleWaiting.config.maxResponseSize := by decide
  have hclock : sampleWaiting.state.sessions.useClock + 1 = 2 := rfl
  rw [← sampleLoaded_afterAll] at henabled hlive hcommand hfits hclock ⊢
  obtain ⟨_, haccept, _⟩ :=
    policyAuthorize_of_approval hseparate completed?_sampleApproving.1 hkey hhierarchy henabled
      hsized hname happroval hlive rfl halg
  obtain ⟨next, _, hget, hcompleted⟩ := haccept rfl
  obtain ⟨hdone, hafter⟩ := hcompleted ⟨by decide, by decide⟩ ⟨by decide, by decide⟩
    ⟨by decide, by decide⟩ hcommand hfits
  rw [hclock] at hget
  exact ⟨next, hdone, hafter, hget⟩

end Engine

end TrustedPlatform
