import TrustedPlatform.Proofs.Policy.Evaluate
import TrustedPlatform.Proofs.TicketAuthority

/-!
# Signed authorizations and their tickets

When a signed authorization holds on a session, and which ticket it leaves. Shown on another session
that has come to the same digest, the ticket does there what the signature did, until it expires:
`apply_replay`.
-/

namespace TrustedPlatform

/-- The authorization that the request repeats. -/
def PolicyTicketRequest.claim (r : PolicyTicketRequest) : AuthClaim :=
  ⟨r.timeout, r.cpHashA.bytes, r.policyRef.bytes, r.authName.bytes⟩

/-- The authorization that a ticket for the request attests. -/
def PolicySignedRequest.claim (r : PolicySignedRequest) (timeout : Timeout) (authName : Name) :
    AuthClaim :=
  ⟨timeout, r.cpHashA.bytes, r.policyRef.bytes, authName.bytes⟩

/-- The request that repeats, on the session `policySession`, the authorization by the entity named
`authName` that `answer` was given to. -/
def PolicySignedRequest.replay (r : PolicySignedRequest) (answer : PolicySignedResponse)
    (authName : Name) (policySession : UInt32) : PolicyTicketRequest where
  policySession := policySession
  timeout := answer.timeout
  cpHashA := r.cpHashA
  policyRef := r.policyRef
  authName := authName
  ticket := answer.policyTicket

/-- If two claims whose timeouts are of one length have the same octets, they have the same
timeout. -/
theorem AuthClaim.timeout_eq (claim claim' : AuthClaim)
    (hlength : claim'.timeout.bytes.length = claim.timeout.bytes.length)
    (h : claim'.octets = claim.octets) : claim'.timeout = claim.timeout := by
  unfold AuthClaim.octets at h
  rw [List.append_assoc, List.append_assoc, List.append_assoc, List.append_assoc] at h
  have hbytes := (List.append_inj h hlength).1
  obtain ⟨⟨_⟩, _, _, _⟩ := claim
  obtain ⟨⟨_⟩, _, _, _⟩ := claim'
  rw [Timeout.mk.injEq]
  exact hbytes

namespace Crypto

/-- Two different messages have the same hash. -/
def Collides (crypto : Crypto) (alg : AlgId) (x y : Bytes) : Prop :=
  x ≠ y ∧ ∃ digest, crypto.hashWith alg x = .ok digest ∧ crypto.hashWith alg y = .ok digest

/-- A signature verifies for two different digests. -/
def SignsTwo (crypto : Crypto) (key : PublicKey) (auth : Signature) : Prop :=
  ∃ x y, x ≠ y ∧ crypto.verify key x auth = .ok true ∧ crypto.verify key y auth = .ok true

end Crypto

namespace Rsa

variable {hash : HashId} {x y : Bytes}

/-- Digests of one length are padded in front alike. -/
theorem eq_of_encoded? {size : Nat} {expected : Bytes} (hlength : x.length = y.length)
    (hx : encoded? hash x size = some expected) (hy : encoded? hash y size = some expected) :
    x = y := by
  unfold encoded? at hx hy
  simp only [List.length_append, hlength] at hx hy
  split at hx
  · cases hx
  · rename_i hroom
    rw [if_neg hroom] at hy
    have hpadded := (Option.some.inj hx).trans (Option.some.inj hy).symm
    exact List.append_cancel_left (List.append_cancel_left hpadded)

/-- A signature is good for one digest. -/
theorem eq_of_verify {key : Key} {signature : Bytes} (hx : verify key hash x signature = true)
    (hy : verify key hash y signature = true) : x = y := by
  simp only [verify, Bool.and_eq_true, beq_iff_eq] at hx hy
  obtain ⟨⟨⟨hlength, _⟩, _⟩, hx⟩ := hx
  obtain ⟨⟨⟨hlength', _⟩, _⟩, hy⟩ := hy
  cases hpad : encoded? hash x (octets key.modulus) with
  | none =>
    rw [hpad] at hx
    cases hx
  | some expected =>
    cases hpad' : encoded? hash y (octets key.modulus) with
    | none =>
      rw [hpad'] at hy
      cases hy
    | some expected' =>
      rw [hpad] at hx
      rw [hpad'] at hy
      obtain rfl : expected = expected' := (beq_iff_eq.mp hx).symm.trans (beq_iff_eq.mp hy)
      exact eq_of_encoded? (hlength.trans hlength'.symm) hpad hpad'

end Rsa

/-- No RSA signature verifies for two digests. -/
theorem Crypto.not_signsTwo_rsa (random : Nat → Nat → Bytes) (modulus : Bytes) (exponent : UInt32)
    (auth : Signature) : ¬(Crypto.standard random).SignsTwo (.rsa modulus exponent) auth := by
  rintro ⟨x, y, hdiffer, hx, hy⟩
  cases auth with
  | rsaSsa alg sig =>
    replace hx : Crypto.verifyRsa modulus exponent alg x sig.bytes = .ok true := hx
    replace hy : Crypto.verifyRsa modulus exponent alg y sig.bytes = .ok true := hy
    unfold Crypto.verifyRsa at hx hy
    cases hkey : Rsa.Key.ofParts? modulus exponent with
    | none => simp [hkey] at hx
    | some key =>
      cases halg : alg.hash? with
      | none => simp [hkey, halg] at hx
      | some hash =>
        simp only [hkey, halg, Except.ok.injEq] at hx hy
        exact hdiffer (Rsa.eq_of_verify hx hy)
  | _ => cases hx

namespace Policy

variable {env : Environment} {session next : Session} {nonceTpm policyRef : Nonce}
  {cpHashA : Digest} {expiration : Int32} {authObject : Entity} {auth : Signature}

/-! ## The checks of a signed authorization -/

theorem checkFreshness_eq_ok_iff {clock : Clock} :
    checkFreshness clock session nonceTpm expiration = .ok () ↔
      (nonceTpm.isEmpty = true ∨ nonceTpm.bytes = session.nonceTpm) ∧
        (expiration ≠ 0 →
          clock.now.toNat - session.startTime.toNat ≤ lifetime expiration) := by
  unfold checkFreshness
  by_cases hnonce : nonceTpm.isEmpty = true ∨ nonceTpm.bytes = session.nonceTpm
  · have hpass : ¬((!nonceTpm.isEmpty && decide (nonceTpm.bytes ≠ session.nonceTpm)) = true) := by
      simpa [or_iff_not_imp_left] using hnonce
    rw [if_neg hpass]
    by_cases hlate : expiration ≠ 0 ∧
        clock.now.toNat - session.startTime.toNat > lifetime expiration
    · rw [if_pos hlate, Except.throw_eq_ok_iff]
      simp only [false_iff]
      intro hfresh
      have := hfresh.2 hlate.1
      omega
    · rw [if_neg hlate]
      refine ⟨fun _ => ⟨hnonce, fun hexpires => ?_⟩, fun _ => rfl⟩
      have := not_and.mp hlate hexpires
      omega
  · have hstop : (!nonceTpm.isEmpty && decide (nonceTpm.bytes ≠ session.nonceTpm)) = true := by
      simpa [not_or] using hnonce
    rw [if_pos hstop, Except.bind_eq_ok_iff]
    simp [Except.throw_eq_ok_iff, hnonce]

/-- The signature is one of the octets' hash, with the hash that the signature names. -/
theorem checkAuthorization_eq_ok_iff {crypto : Crypto} {octets : Bytes} :
    checkAuthorization crypto authObject octets auth = .ok () ↔
      ∃ key alg digest, authObject.publicKey = some key ∧ auth.hash? = some alg ∧
        crypto.hashWith alg octets = .ok digest ∧ crypto.verify key digest auth = .ok true := by
  unfold checkAuthorization
  cases hkey : authObject.publicKey with
  | none => simp [Except.throw_eq_ok_iff]
  | some key =>
    cases halg : auth.hash? with
    | none => simp [Except.throw_eq_ok_iff]
    | some alg =>
      dsimp only
      rw [Except.bind_eq_ok_iff]
      constructor
      · rintro ⟨digest, hdigest, hverified⟩
        obtain ⟨valid, hvalid, hcheck⟩ := Except.bind_eq_ok_iff.mp hverified
        cases valid with
        | false => exact (Except.throw_eq_ok_iff.mp hcheck).elim
        | true =>
          exact ⟨key, alg, digest, rfl, rfl, lift_eq_ok_iff.mp hdigest, lift_eq_ok_iff.mp hvalid⟩
      · rintro ⟨_, _, digest, hkey', halg', hdigest, hvalid⟩
        cases hkey'
        cases halg'
        refine ⟨digest, lift_eq_ok_iff.mpr hdigest, ?_⟩
        exact Except.bind_eq_ok_iff.mpr ⟨true, lift_eq_ok_iff.mpr hvalid, rfl⟩

/-- What a key's signature is accepted for, it is accepted for nothing else, unless the hash or the
signature scheme is broken. -/
theorem octets_eq_or_broken {crypto : Crypto} {other : Entity} {octets octets' : Bytes}
    (hkey : other.publicKey = authObject.publicKey)
    (h : checkAuthorization crypto authObject octets auth = .ok ())
    (h' : checkAuthorization crypto other octets' auth = .ok ()) :
    octets' = octets ∨
      (∃ alg, auth.hash? = some alg ∧ crypto.Collides alg octets' octets) ∨
      ∃ key, authObject.publicKey = some key ∧ crypto.SignsTwo key auth := by
  obtain ⟨key, alg, digest, hpublic, halg, hdigest, hverify⟩ := checkAuthorization_eq_ok_iff.mp h
  obtain ⟨_, _, digest', hpublic', halg', hdigest', hverify'⟩ :=
    checkAuthorization_eq_ok_iff.mp h'
  cases hpublic.symm.trans (hkey.symm.trans hpublic')
  cases halg.symm.trans halg'
  by_cases hsame : digest' = digest
  · by_cases hoctets : octets' = octets
    · exact .inl hoctets
    · exact .inr (.inl ⟨alg, halg, hoctets, digest, hsame ▸ hdigest', hdigest⟩)
  · exact .inr (.inr ⟨key, hpublic, digest', digest, hsame, hverify', hverify⟩)

/-! ## The ticket of a signed authorization -/

/-- The timeout of an authorization on a session. -/
def timeoutOf (env : Environment) (session : Session) (expiration : Int32) : Timeout :=
  .ofExpiration (UInt64.ofNat (session.startTime.toNat + lifetime expiration))
    env.clock.resetCount

/-- An authorization that would expire beyond the end of the clock has no timeout. -/
theorem signedOutcome_of_overflow (hreal : session.isTrial = false) (hnegative : expiration < 0)
    (hnonce : nonceTpm.isEmpty = false)
    (hbeyond : UInt64.size ≤ session.startTime.toNat + lifetime expiration) :
    signedOutcome env session authObject nonceTpm cpHashA policyRef expiration
      = .error (.breach .expirationOverflow) := by
  unfold signedOutcome
  rw [if_pos (by simp [hreal, hnegative, hnonce])]
  dsimp only
  rw [if_pos hbeyond]
  rfl

/-- Until when an authorization on a session is good, by the clock. -/
def InTime (env : Environment) (session : Session) (expiration : Int32) (clock : Clock) : Prop :=
  clock.resetCount = env.clock.resetCount ∧
    clock.now.toNat ≤ session.startTime.toNat + lifetime expiration

theorem timeoutOf_check_eq_ok_iff {clock : Clock}
    (hfits : session.startTime.toNat + lifetime expiration < UInt64.size) :
    (timeoutOf env session expiration).check clock = .ok () ↔
      InTime env session expiration clock := by
  have hinstant : (UInt64.ofNat (session.startTime.toNat + lifetime expiration)).toNat
      = session.startTime.toNat + lifetime expiration := UInt64.toNat_ofNat_of_lt' hfits
  rw [Timeout.check_eq_ok_iff, timeoutOf, Timeout.expiration?_ofExpiration, InTime]
  constructor
  · intro h
    obtain ⟨hreset, hnow⟩ := h _ _ rfl
    rw [UInt64.le_iff_toNat_le, hinstant] at hnow
    exact ⟨hreset, hnow⟩
  · rintro ⟨hreset, hnow⟩ _ _ hexpiration
    cases hexpiration
    rw [UInt64.le_iff_toNat_le, hinstant]
    exact ⟨hreset, hnow⟩

/-- A ticket is asked of the key's hierarchy exactly if the session is a real one, the authorization
is bound to it by its nonce, and the expiration is negative. -/
theorem signedOutcome_eq_ok_iff {outcome : PolicyOutcome} :
    signedOutcome env session authObject nonceTpm cpHashA policyRef expiration = .ok outcome ↔
      if session.isTrial = false ∧ expiration < 0 ∧ nonceTpm.isEmpty = false then
        session.startTime.toNat + lifetime expiration < UInt64.size ∧
          ∃ ticket,
            env.tickets.issueAuth env.crypto .authSigned authObject.hierarchy
              ⟨timeoutOf env session expiration, cpHashA.bytes, policyRef.bytes,
                authObject.name.bytes⟩ = .ok ticket ∧
            outcome = .signed (timeoutOf env session expiration) ticket
      else outcome = .signed .empty (.null .authSigned) := by
  unfold signedOutcome
  by_cases htimed : session.isTrial = false ∧ expiration < 0 ∧ nonceTpm.isEmpty = false
  · have hflag : (!session.isTrial && decide (expiration < 0) && !nonceTpm.isEmpty) = true := by
      simp [htimed]
    rw [if_pos hflag, if_pos htimed]
    by_cases hfits : session.startTime.toNat + lifetime expiration < UInt64.size
    · have hno : ¬session.startTime.toNat + lifetime expiration ≥ UInt64.size := by omega
      rw [if_neg hno]
      simp only [Except.bind_eq_ok_iff, lift_eq_ok_iff, Except.pure_eq_ok_iff,
        eq_comm (b := outcome), hfits, true_and]
      rfl
    · have hover : session.startTime.toNat + lifetime expiration ≥ UInt64.size := by omega
      rw [if_pos hover, Except.bind_eq_ok_iff]
      simp [hfits, Except.throw_eq_ok_iff]
  · have hflag : ¬(!session.isTrial && decide (expiration < 0) && !nonceTpm.isEmpty) = true := by
      simpa [and_assoc] using htimed
    rw [if_neg hflag, if_neg htimed, Except.pure_eq_ok_iff]
    exact eq_comm

variable {r : PolicySignedRequest} {answer : PolicySignedResponse}

/-- On a real session, the nonce and the signature were checked. -/
theorem checks_of_apply {outcome : PolicyOutcome}
    (h : apply env session (r.assertion authObject) = .ok (next, outcome))
    (hreal : session.isTrial = false) :
    (r.nonceTpm.isEmpty = true ∨ r.nonceTpm.bytes = session.nonceTpm) ∧
      checkAuthorization env.crypto authObject
        (authorizationOctets r.nonceTpm r.expiration r.cpHashA r.policyRef) r.auth = .ok () := by
  obtain ⟨_, _, hchange, _, _, _⟩ := apply_eq_ok_iff.mp h
  obtain ⟨hfresh, _, _, hauthorized, _⟩ := signedChange_eq_ok_iff.mp hchange
  exact ⟨(checkFreshness_eq_ok_iff.mp (hfresh hreal)).1, hauthorized hreal⟩

/-- A ticket that attests anything was issued by the key's hierarchy, over the claim of its
request. -/
theorem issueAuth_of_apply (hnull : answer.policyTicket.isNull = false)
    (h : apply env session (r.assertion authObject)
      = .ok (next, .signed answer.timeout answer.policyTicket)) :
    session.startTime.toNat + lifetime r.expiration < UInt64.size ∧
      answer.timeout = timeoutOf env session r.expiration ∧
      env.tickets.issueAuth env.crypto .authSigned authObject.hierarchy
        (r.claim answer.timeout authObject.name) = .ok answer.policyTicket := by
  obtain ⟨_, _, _, houtcome, _, _⟩ := apply_eq_ok_iff.mp h
  have hissued := signedOutcome_eq_ok_iff.mp houtcome
  split at hissued
  · obtain ⟨hfits, ticket, hissue, heq⟩ := hissued
    obtain ⟨htimeout, hticket⟩ := PolicyOutcome.signed.inj heq
    rw [PolicySignedRequest.claim, htimeout, hticket]
    exact ⟨hfits, rfl, hissue⟩
  · obtain ⟨_, hticket⟩ := PolicyOutcome.signed.inj hissued
    rw [hticket] at hnull
    cases hnull

/-- A ticket that attests anything is one of a real session, for an authorization that expires and
is bound to the session. -/
theorem timed_of_apply (hnull : answer.policyTicket.isNull = false)
    (h : apply env session (r.assertion authObject)
      = .ok (next, .signed answer.timeout answer.policyTicket)) :
    session.isTrial = false ∧ r.expiration < 0 ∧ r.nonceTpm.isEmpty = false := by
  obtain ⟨_, _, _, houtcome, _, _⟩ := apply_eq_ok_iff.mp h
  have hissued := signedOutcome_eq_ok_iff.mp houtcome
  split at hissued
  · assumption
  · obtain ⟨_, hticket⟩ := PolicyOutcome.signed.inj hissued
    rw [hticket] at hnull
    cases hnull

/-- An authorization that leaves a ticket has not expired when it is given. -/
theorem inTime_of_apply (hnull : answer.policyTicket.isNull = false)
    (h : apply env session (r.assertion authObject)
      = .ok (next, .signed answer.timeout answer.policyTicket)) :
    InTime env session r.expiration env.clock := by
  obtain ⟨htrial, hnegative, _⟩ := timed_of_apply hnull h
  obtain ⟨_, _, hchange, _, _, _⟩ := apply_eq_ok_iff.mp h
  obtain ⟨hfresh, _⟩ := signedChange_eq_ok_iff.mp hchange
  have hexpires : r.expiration ≠ 0 := by
    rintro hzero
    rw [hzero] at hnegative
    exact absurd hnegative (by decide)
  have helapsed := (checkFreshness_eq_ok_iff.mp (hfresh htrial)).2 hexpires
  exact ⟨rfl, by omega⟩

/-! ## Repeating a signed authorization -/

/-- The cause for which a ticket is refused, at the parameter that it concerns. -/
theorem ticketChange_eq_error_of_verifyAuth {timeout : Timeout} {authName : Name}
    {ticket : Ticket} {marker : CommandCode} {bound : Option Bytes} {cause : Cause}
    (hmarker : ticketMarker? ticket.tag = some marker)
    (hbound : boundCpHash session cpHashA.bytes 2 = .ok bound) (htrial : session.isTrial = false)
    (hverify : env.tickets.verifyAuth env.crypto env.clock ticket
      ⟨timeout, cpHashA.bytes, policyRef.bytes, authName.bytes⟩ = .error cause) :
    ticketChange env session timeout cpHashA policyRef authName ticket
      = .error (atParameter cause (ticketSite cause)) := by
  unfold ticketChange
  simp only [hmarker, hbound, htrial, hverify, Bool.not_false, if_true]
  rfl

section

variable (later : Environment) (other : Session) (handle : UInt32)
  (hnull : answer.policyTicket.isNull = false)
  (hsigned : apply env session (r.assertion authObject)
    = .ok (next, .signed answer.timeout answer.policyTicket))

include hnull hsigned

/-- Until it expires, the ticket extends the digest as the signature did, and binds the cpHash that
was signed. -/
theorem apply_replay (hseparate : env.tickets.Separate)
    (hproofs : later.tickets.proofs = env.tickets.proofs) (hcrypto : later.crypto = env.crypto)
    (henabled : later.tickets.isEnabled authObject.hierarchy = true)
    (hkind : other.kind = .policy) (halg : other.hashAlg = session.hashAlg)
    (hdigest : other.policy.digest = session.policy.digest)
    (hcpHash : ∀ own ∈ other.policy.cpHash, r.cpHashA.isEmpty = true ∨ own = r.cpHashA.bytes)
    (hintime : InTime env session r.expiration later.clock) :
    ∃ replayed,
      apply later other (r.replay answer authObject.name handle).assertion
          = .ok (replayed, .done) ∧
        replayed.policy.digest = next.policy.digest ∧
        (r.cpHashA.isEmpty = false → replayed.policy.cpHash = some r.cpHashA.bytes) := by
  obtain ⟨hfits, htimeout, hissue⟩ := issueAuth_of_apply hnull hsigned
  obtain ⟨_, change, hchange, _, hlength, rfl⟩ := apply_eq_ok_iff.mp hsigned
  obtain ⟨_, _, _, _, digest, hupdate, rfl⟩ := signedChange_eq_ok_iff.mp hchange
  -- the ticket verifies
  have htag := ((TicketAuthority.issue_eq_ok_iff_of_not_null hnull).mp hissue).1
  have hcheck : later.tickets.check later.crypto answer.policyTicket
      (r.claim answer.timeout authObject.name).octets = .ok () := by
    rw [hcrypto]
    exact TicketAuthority.check_of_issue hseparate hproofs hissue hnull henabled
  have hgood : answer.timeout.check later.clock = .ok () := by
    rw [htimeout]
    exact (timeoutOf_check_eq_ok_iff hfits).mpr hintime
  have hverify := TicketAuthority.verifyAuth_eq_ok_iff.mpr ⟨.inl htag, hgood, hcheck⟩
  -- and the digest is extended from where the session was, with the marker of the signature
  rw [← hcrypto, ← halg, ← hdigest] at hupdate
  have hbound : boundCpHash other r.cpHashA.bytes 2 = .ok _ :=
    boundCpHash_eq_ok_iff.mpr ⟨rfl, hcpHash⟩
  have hmarker : ticketMarker? answer.policyTicket.tag = some .policySigned := by
    rw [htag]
    rfl
  have hticket : changeFor later other (r.replay answer authObject.name handle).assertion = .ok _ :=
    ticketChange_eq_ok_iff.mpr
      ⟨_, hmarker, _, hbound, fun _ => hverify, digest, hupdate, rfl⟩
  have hpolicy : other.isPolicy = true := by rw [Session.isPolicy, hkind]; rfl
  rw [← halg] at hlength
  refine ⟨_, apply_eq_ok_iff.mpr ⟨hpolicy, _, hticket, rfl, hlength, rfl⟩, rfl, fun hsome => ?_⟩
  -- a session that is bound already is bound to the same cpHash
  show other.policy.cpHash.or _ = _
  cases hown : other.policy.cpHash with
  | none =>
    rw [Option.none_or, if_neg]
    simpa [Sized.isEmpty] using hsome
  | some own =>
    rcases hcpHash own hown with hempty | heq
    · rw [hsome] at hempty
      cases hempty
    · rw [heq]
      rfl

/-- From then on, the ticket is refused as expired. -/
theorem apply_replay_late (hkind : other.kind = .policy)
    (hcpHash : ∀ own ∈ other.policy.cpHash, r.cpHashA.isEmpty = true ∨ own = r.cpHashA.bytes)
    (hlate : ¬InTime env session r.expiration later.clock) :
    apply later other (r.replay answer authObject.name handle).assertion
      = .error (rejectAt .ticketExpired 1) := by
  obtain ⟨hfits, htimeout, hissue⟩ := issueAuth_of_apply hnull hsigned
  have htag := ((TicketAuthority.issue_eq_ok_iff_of_not_null hnull).mp hissue).1
  have hexpired : answer.timeout.check later.clock ≠ .ok () := by
    rw [htimeout]
    exact mt (timeoutOf_check_eq_ok_iff hfits).mp hlate
  have hverify : later.tickets.verifyAuth later.crypto later.clock answer.policyTicket
      (r.claim answer.timeout authObject.name) = .error (.policy .ticketExpired) :=
    TicketAuthority.verifyAuth_eq_error_of_expired (.inl htag) hexpired
  have hbound : boundCpHash other r.cpHashA.bytes 2 = .ok _ :=
    boundCpHash_eq_ok_iff.mpr ⟨rfl, hcpHash⟩
  have hmarker : ticketMarker? answer.policyTicket.tag = some .policySigned := by
    rw [htag]
    rfl
  have htrial : other.isTrial = false := by simp [Session.isTrial, hkind]
  have hpolicy : other.isPolicy = true := by rw [Session.isPolicy, hkind]; rfl
  exact apply_eq_error_of_changeFor hpolicy
    (ticketChange_eq_error_of_verifyAuth hmarker hbound htrial hverify)

end

end Policy

end TrustedPlatform
