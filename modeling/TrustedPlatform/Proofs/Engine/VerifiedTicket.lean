import TrustedPlatform.Proofs.Engine.AuthTicket

/-!
# Tickets of verified signatures

A PolicyAuthorize shows the ticket of a VerifySignature, and states the policy that was approved and
the key that approved it. The ticket is over the digest that was signed and the name of the key, one
after the other. If the digest is as long as the hash that PolicyAuthorize computes, the request
states what was verified; if it is not, octets of the digest may stand for a part of the name, or
octets of the name for a part of the hash (`policyAuthorize_of_verified`).
-/

namespace TrustedPlatform.Engine

/-- A PolicyAuthorize that goes through on a real session with the ticket of a VerifySignature
authorizes what was verified, or splits the same octets at another place, or two different messages
have the same keyed hash. -/
theorem policyAuthorize_of_verified {crypto : Crypto} {config : Config}
    {before between : List Event} {verifying authorizing : Bytes} {r : VerifySignatureRequest}
    {answer : VerifySignatureResponse} {key : Entity} {q : PolicyAuthorizeRequest}
    {done : EmptyResponse} {session : Session}
    (hverified : completed? (reached crypto config before) verifying
      = some ⟨.verifySignature, r, answer⟩)
    (hkey : (reached crypto config before).env.objects.resolve r.keyHandle = some key)
    (hauthorized : completed? (reached crypto config (before ++ .command verifying :: between))
      authorizing = some ⟨.policyAuthorize, q, done⟩)
    (hlive : (reached crypto config (before ++ .command verifying :: between)).state.sessions.get?
      q.policySession = some session)
    (hreal : session.isTrial = false) (hticket : q.checkTicket = answer.validation) :
    ∃ alg approval, Policy.nameHash? q.keySign = some alg ∧
      crypto.hashWith alg (q.approvedPolicy.bytes ++ q.policyRef.bytes) = .ok approval ∧
      ((q.keySign = key.name ∧ approval = r.digest.bytes) ∨
        (approval.length ≠ r.digest.bytes.length ∧
          approval ++ q.keySign.bytes = r.digest.bytes ++ key.name.bytes) ∨
        ∃ proof, (key.hierarchy, proof) ∈ (reached crypto config before).env.tickets.proofs ∧
          crypto.Confuses proof
            (be16 StructureTag.verified.code ++ (approval ++ q.keySign.bytes))
            (be16 StructureTag.verified.code ++ (r.digest.bytes ++ key.name.bytes))) := by
  -- the ticket was issued over the digest and the name
  obtain ⟨_, performed, _, _, _, hperform, _⟩ := of_completed? hverified
  obtain ⟨key', _, hresolve, _, _, _, hissue, _⟩ := verifySignature_eq_ok_iff.mp hperform
  cases hkey.symm.trans hresolve
  -- and it was accepted for the approval and the stated name
  obtain ⟨_, _, hlive', happly, _⟩ := apply_of_completed? hauthorized rfl
  cases hlive.symm.trans hlive'
  obtain ⟨_, _, hchange, _, _, _⟩ := Policy.apply_eq_ok_iff.mp happly
  obtain ⟨_, alg, halg, hchecked, _⟩ := Policy.authorizeChange_eq_ok_iff.mp hchange
  obtain ⟨approval, happroval, hverify⟩ := hchecked hreal
  obtain ⟨_, haccept⟩ := TicketAuthority.verifyVerified_eq_ok_iff.mp hverify
  rw [crypto_reached] at hissue happroval haccept
  rw [hticket] at haccept
  refine ⟨alg, approval, halg, happroval, ?_⟩
  rcases TicketAuthority.statement_eq_or_confused (separate_reached crypto config before)
    (proofs_reached crypto config _ _) hissue haccept with hoctets | hconfused
  swap
  · exact .inr (.inr hconfused)
  by_cases hlength : approval.length = r.digest.bytes.length
  · obtain ⟨hsame, hname⟩ := List.append_inj hoctets hlength
    exact .inl ⟨congrArg Sized.mk hname, hsame⟩
  · exact .inr (.inl ⟨hlength, hoctets⟩)

/-! ### A digest that is a part of the name -/

/-- What the sample key signed gets a ticket of the owner hierarchy, and nothing else changes. -/
theorem verifySignature_sample {r : VerifySignatureRequest} {digest : Digest} (millis : UInt64)
    (state : State) (hkey : r.keyHandle = 0x80000000) (hhash : r.signature.hash?.isSome = true)
    (hverify : sampleCrypto.verify sampleKey r.digest.bytes r.signature = .ok true)
    (hdigest : digest.bytes = sampleCrypto.hmac .sha256 sampleProof
      (be16 StructureTag.verified.code ++ (r.digest.bytes ++ sampleName.bytes))) :
    verifySignature (sampleEngine millis state).env r state
      = .ok ⟨⟨.verified, Handle.owner, digest⟩⟩ state := by
  have hresolve : (sampleEngine millis state).env.objects.resolve r.keyHandle
      = some sampleEntity := by
    rw [hkey]
    rfl
  have hsign : (sampleEngine millis state).env.tickets.sign sampleCrypto Handle.owner .verified
      (r.digest.bytes ++ sampleName.bytes) = .ok digest.bytes :=
    TicketAuthority.sign_eq_ok_iff.mpr ⟨sampleProof, rfl, hdigest⟩
  have hissue : (sampleEngine millis state).env.tickets.issueVerified sampleCrypto Handle.owner
      r.digest.bytes sampleName.bytes = .ok ⟨.verified, Handle.owner, digest⟩ :=
    (TicketAuthority.issue_eq_ok_iff_of_not_null rfl).mpr ⟨rfl, rfl, hsign⟩
  exact verifySignature_eq_ok_iff.mpr
    ⟨sampleEntity, sampleKey, hresolve, rfl, hhash, hverify, hissue, rfl⟩

/-- Sixty-four octets that the key signed. The first thirty-two are the hash of the policy that the
session has when it starts. -/
def sampleVerify : VerifySignatureRequest where
  keyHandle := 0x80000000
  digest := ⟨Bytes.ofNat 32 0x66687aadf862bd776c8fc18b8e9f8e20089714856ee233b3902a591d0d5f2925
    ++ (be16 AlgId.sha256.code ++ Bytes.zeros 30)⟩
  signature := .rsaSsa .sha512
    ⟨Bytes.ofNat 32 0x8295de3485a97f145d2842c70fc9d028857d8f917755e5c6f446c8ced2e5521b
      ++ Bytes.ofNat 32 0xc5dded468e9d238274f88e87be27738b4e2f6adb069192fe16906f3fa3e656ab
      ++ Bytes.ofNat 32 0x0b65eaaa3d226e23c0224436af630532aaef6727f92d9902252f2f595a80d30d
      ++ Bytes.ofNat 32 0x843ebadf2bdbf1bad5e58fb96f76ea6dcc85e0d9d52d311341099e512a978a08⟩

def sampleVerifying : PlainCall .verifySignature where
  arguments := sampleVerify

def sampleValidation : VerifySignatureResponse where
  validation := ⟨.verified, Handle.owner,
    ⟨Bytes.ofNat 32 0x5bf5ee298522ec0edcdc818dc384246633e95421c3c1628638aaa5cc1b076ac8⟩⟩

theorem hmac_sampleValidation :
    sampleValidation.validation.digest.bytes = sampleCrypto.hmac .sha256 sampleProof
      (be16 StructureTag.verified.code ++ (sampleVerify.digest.bytes ++ sampleName.bytes)) := by
  decide +kernel

theorem completed?_sampleVerifying :
    completed? sampleStarted sampleVerifying.envelope
        = some ⟨.verifySignature, sampleVerify, sampleValidation⟩ ∧
      sampleStarted.after (.command sampleVerifying.envelope) = sampleStarted := by
  have hverify : sampleCrypto.verify sampleKey sampleVerify.digest.bytes sampleVerify.signature
      = .ok true := by decide +kernel
  have hperform : verifySignature sampleStarted.env sampleVerify sampleStarted.state
      = .ok sampleValidation sampleStarted.state :=
    verifySignature_sample 0 sampleStarted.state rfl rfl hverify hmac_sampleValidation
  exact sampleVerifying.completed?_of_perform sampleStarted rfl hperform (by decide)

/-- The last thirty-two octets of the digest are stated as the beginning of the name. -/
def sampleAuthorize : PolicyAuthorizeRequest where
  policySession := 0x03000000
  approvedPolicy := ⟨Bytes.zeros 32⟩
  policyRef := .empty
  keySign := ⟨(be16 AlgId.sha256.code ++ Bytes.zeros 30) ++ sampleName.bytes⟩
  checkTicket := sampleValidation.validation

def sampleAuthorizing : PlainCall .policyAuthorize where
  arguments := sampleAuthorize

/-- What was approved is the first half of the digest. -/
theorem hash_sampleAuthorize :
    sampleCrypto.hashWith .sha256 (Bytes.zeros 32 ++ [])
      = .ok (sampleVerify.digest.bytes.take 32) := by decide +kernel

theorem octets_sampleAuthorize :
    sampleVerify.digest.bytes.take 32 ++ sampleAuthorize.keySign.bytes
      = sampleVerify.digest.bytes ++ sampleName.bytes := by decide +kernel

theorem completed?_sampleAuthorizing :
    completed? sampleStarted sampleAuthorizing.envelope
      = some ⟨.policyAuthorize, sampleAuthorize, {}⟩ := by
  have hcheck : sampleStarted.env.tickets.check sampleCrypto sampleValidation.validation
      (sampleVerify.digest.bytes.take 32 ++ sampleAuthorize.keySign.bytes) = .ok () := by
    rw [octets_sampleAuthorize]
    exact TicketAuthority.check_eq_ok_iff.mpr ⟨by decide,
      TicketAuthority.sign_eq_ok_iff.mpr ⟨sampleProof, rfl, hmac_sampleValidation⟩⟩
  have hverify : sampleStarted.env.tickets.verifyVerified sampleCrypto sampleValidation.validation
      (sampleVerify.digest.bytes.take 32) sampleAuthorize.keySign.bytes = .ok () :=
    TicketAuthority.verifyVerified_eq_ok_iff.mpr ⟨rfl, hcheck⟩
  obtain ⟨digest, hupdate, hlength⟩ : ∃ digest,
      Policy.update sampleCrypto .sha256 (Bytes.zeros 32) .policyAuthorize
          sampleAuthorize.keySign.bytes [] = .ok digest ∧ digest.length = 32 :=
    ⟨_, Policy.update_eq_ok_iff.mpr ⟨.sha256, rfl, rfl⟩, HashId.length_digest .sha256 _⟩
  have halg : Policy.nameHash? sampleAuthorize.keySign = some .sha256 := by decide +kernel
  have hchange : Policy.authorizeChange sampleStarted.env (sampleSession 0x03000000 0 0 2)
      sampleAuthorize.approvedPolicy sampleAuthorize.policyRef sampleAuthorize.keySign
      sampleValidation.validation = .ok (.ofDigest digest) :=
    Policy.authorizeChange_eq_ok_iff.mpr
      ⟨rfl, .sha256, halg, fun _ => ⟨_, hash_sampleAuthorize, hverify⟩, _, hupdate, rfl⟩
  have happly : Policy.apply sampleStarted.env (sampleSession 0x03000000 0 0 2)
      sampleAuthorize.assertion = .ok (_, .done) :=
    Policy.apply_eq_ok_iff.mpr ⟨rfl, _, hchange, rfl, hlength, rfl⟩
  have hlive : sampleStarted.state.sessions.get? sampleAuthorize.policySession
      = some (sampleSession 0x03000000 0 0 1) := rfl
  obtain ⟨next, hperform, _⟩ := makePlainAssertion_of_apply hlive happly
  exact (sampleAuthorizing.completed?_of_perform sampleStarted rfl hperform (by decide)).1

theorem reached_sampleVerifying :
    reached sampleCrypto sampleConfig (sampleEvents ++ [.command sampleVerifying.envelope])
      = sampleStarted := by
  rw [reached_concat, reached_sampleEvents, completed?_sampleVerifying.2]

/-- The run in which the digest is split. -/
theorem policyAuthorize_of_verified_sample :
    ∃ alg approval, Policy.nameHash? sampleAuthorize.keySign = some alg ∧
      sampleCrypto.hashWith alg (Bytes.zeros 32 ++ []) = .ok approval ∧
      ((sampleAuthorize.keySign = sampleName ∧ approval = sampleVerify.digest.bytes) ∨
        (approval.length ≠ sampleVerify.digest.bytes.length ∧
          approval ++ sampleAuthorize.keySign.bytes
            = sampleVerify.digest.bytes ++ sampleName.bytes) ∨
        ∃ proof, (Handle.owner, proof) ∈ sampleStarted.env.tickets.proofs ∧
          sampleCrypto.Confuses proof
            (be16 StructureTag.verified.code ++ (approval ++ sampleAuthorize.keySign.bytes))
            (be16 StructureTag.verified.code
              ++ (sampleVerify.digest.bytes ++ sampleName.bytes))) := by
  have hverified := completed?_sampleVerifying.1
  have hauthorized := completed?_sampleAuthorizing
  have hkey : sampleStarted.env.objects.resolve sampleVerify.keyHandle = some sampleEntity := rfl
  have hlive : sampleStarted.state.sessions.get? sampleAuthorize.policySession
      = some (sampleSession 0x03000000 0 0 1) := rfl
  rw [← reached_sampleVerifying] at hauthorized hlive
  rw [← reached_sampleEvents] at hverified hkey ⊢
  exact policyAuthorize_of_verified hverified hkey hauthorized hlive rfl rfl

/-- A ticket was accepted for a name that is not the one of the key, and for a digest that is not
the one that was verified, although the message that the keyed hash is taken of is the same. -/
theorem ticket_of_other_digest_is_accepted :
    let issuer := reached sampleCrypto sampleConfig sampleEvents
    let later := reached sampleCrypto sampleConfig
      (sampleEvents ++ [.command sampleVerifying.envelope])
    completed? issuer sampleVerifying.envelope
        = some ⟨.verifySignature, sampleVerify, sampleValidation⟩ ∧
      issuer.env.objects.resolve sampleVerify.keyHandle = some sampleEntity ∧
      sampleEntity.hierarchy ≠ Handle.null ∧
      completed? later sampleAuthorizing.envelope = some ⟨.policyAuthorize, sampleAuthorize, {}⟩ ∧
      (∃ session, later.state.sessions.get? sampleAuthorize.policySession = some session ∧
        session.isTrial = false) ∧
      sampleAuthorize.checkTicket = sampleValidation.validation ∧
      sampleAuthorize.keySign ≠ sampleEntity.name ∧
      ∃ approval, Policy.nameHash? sampleAuthorize.keySign = some .sha256 ∧
        sampleCrypto.hashWith .sha256
            (sampleAuthorize.approvedPolicy.bytes ++ sampleAuthorize.policyRef.bytes)
          = .ok approval ∧
        approval ≠ sampleVerify.digest.bytes ∧
        approval ++ sampleAuthorize.keySign.bytes
          = sampleVerify.digest.bytes ++ sampleEntity.name.bytes := by
  intro issuer later
  have hissuer : issuer = sampleStarted := reached_sampleEvents
  have hlater : later = sampleStarted := reached_sampleVerifying
  have hname : sampleAuthorize.keySign ≠ sampleEntity.name := by decide +kernel
  have halg : Policy.nameHash? sampleAuthorize.keySign = some .sha256 := by decide +kernel
  have hdigest : sampleVerify.digest.bytes.take 32 ≠ sampleVerify.digest.bytes := by decide +kernel
  rw [hissuer, hlater]
  exact ⟨completed?_sampleVerifying.1, rfl, by decide, completed?_sampleAuthorizing, ⟨_, rfl, rfl⟩,
    rfl, hname, _, halg, hash_sampleAuthorize, hdigest, octets_sampleAuthorize⟩

end TrustedPlatform.Engine
