import TrustedPlatform.Proofs.Engine.AuthTicket
import TrustedPlatform.Proofs.Engine.LiveSessions

/-!
# One signature, two sessions

What a key signs for a session begins with the nonce of the session, and a PolicySigned that states
a nonce must state the one of its session. Still the signature may do for a session with another
nonce: the parts that are signed stand one after the other without a mark between them, so that a
request that states no nonce can show the octets of the first session's nonce as part of what
follows. Between sessions with different hashes it is enough that one nonce begins with the other.
There is no other way, unless cryptography is broken: `policySigned_of_other_session`.
-/

namespace TrustedPlatform.Engine

/-- If one signature is accepted for real sessions with different nonces, for the first of them by
its nonce, then the other request shows the same octets, without a nonce or for a session with
another hash; or the hash or the signature scheme is broken. -/
theorem policySigned_of_other_session {crypto : Crypto} {config : Config}
    {before before' : List Event} {signing signing' : Bytes} {r r' : PolicySignedRequest}
    {answer answer' : PolicySignedResponse} {key key' : Entity} {a b : Session}
    (hrandom : ∀ draw size, (crypto.random draw size).length = size)
    (hsigned : completed? (reached crypto config before) signing
      = some ⟨.policySigned, r, answer⟩)
    (hkey : (reached crypto config before).env.objects.resolve r.authObject = some key)
    (ha : (reached crypto config before).state.sessions.get? r.policySession = some a)
    (hreal : a.isTrial = false) (hnonce : r.nonceTpm.isEmpty = false)
    (hsigned' : completed? (reached crypto config before') signing'
      = some ⟨.policySigned, r', answer'⟩)
    (hkey' : (reached crypto config before').env.objects.resolve r'.authObject = some key')
    (hb : (reached crypto config before').state.sessions.get? r'.policySession = some b)
    (hreal' : b.isTrial = false)
    (hobject : key'.publicKey = key.publicKey) (hauth : r'.auth = r.auth)
    (hpolicyRef : r'.policyRef = r.policyRef) (hother : b.nonceTpm ≠ a.nonceTpm) :
    (r'.nonceTpm.bytes ++ be32 r'.expiration.toUInt32 ++ r'.cpHashA.bytes
        = a.nonceTpm ++ be32 r.expiration.toUInt32 ++ r.cpHashA.bytes ∧
      (r'.nonceTpm.isEmpty = true ∨ b.hashAlg ≠ a.hashAlg)) ∨
    (∃ alg, r.auth.hash? = some alg ∧ crypto.Collides alg
      (Policy.authorizationOctets r'.nonceTpm r'.expiration r'.cpHashA r'.policyRef)
      (Policy.authorizationOctets r.nonceTpm r.expiration r.cpHashA r.policyRef)) ∨
    ∃ publicKey, key.publicKey = some publicKey ∧ crypto.SignsTwo publicKey r.auth := by
  obtain ⟨_, _, hlive, happly, _⟩ := apply_of_policySigned hsigned hkey
  obtain ⟨_, _, hlive', happly', _⟩ := apply_of_policySigned hsigned' hkey'
  cases ha.symm.trans hlive
  cases hb.symm.trans hlive'
  obtain ⟨hfirst, hauthorized⟩ := Policy.checks_of_apply happly hreal
  obtain ⟨hsecond, hauthorized'⟩ := Policy.checks_of_apply happly' hreal'
  have hown : r.nonceTpm.bytes = a.nonceTpm := hfirst.resolve_left (by simp [hnonce])
  rw [crypto_reached] at hauthorized hauthorized'
  rw [hauth] at hauthorized'
  rcases Policy.octets_eq_or_broken hobject hauthorized hauthorized' with hoctets | hbroken
  swap
  · exact .inr hbroken
  left
  unfold Policy.authorizationOctets at hoctets
  rw [hpolicyRef, hown] at hoctets
  have hsame := List.append_cancel_right hoctets
  refine ⟨hsame, ?_⟩
  by_cases hempty : r'.nonceTpm.isEmpty = true
  · exact .inl hempty
  · right
    intro halg
    -- nonces of one length that begin the same octets are the same
    have hlength : b.nonceTpm.length = a.nonceTpm.length := by
      rw [length_nonceTpm hrandom _ _ ha, length_nonceTpm hrandom _ _ hb, halg]
    rw [hsecond.resolve_left hempty, List.append_assoc, List.append_assoc] at hsame
    exact hother (List.append_inj hsame hlength).1

/-! ### A signature that is moved -/

/-- The octets that were signed for the first session, without a nonce: the first four octets of the
nonce are shown as the expiration, all that follows as the cpHash. -/
def sampleMoved : PolicySignedRequest where
  authObject := 0x80000000
  policySession := 0x03000001
  nonceTpm := .empty
  cpHashA := ⟨(sampleRandom 0 32).drop 4 ++ be32 0xffffffff⟩
  policyRef := .empty
  expiration := 0x01080f16
  auth := sampleSignature

def sampleMoving : PlainCall .policySigned where
  arguments := sampleMoved

theorem octets_sampleMoved :
    Policy.authorizationOctets sampleMoved.nonceTpm sampleMoved.expiration sampleMoved.cpHashA
      .empty = sampleOctets := by decide +kernel

theorem completed?_sampleMoving :
    completed? (sampleLater 1000) sampleMoving.envelope
      = some ⟨.policySigned, sampleMoved, ⟨.empty, .null .authSigned⟩⟩ := by
  have hfresh : Policy.checkFreshness (sampleLater 1000).env.clock
      (sampleSession 0x03000001 1 1000 4) sampleMoved.nonceTpm sampleMoved.expiration
        = .ok () := by decide +kernel
  have hchange := signedChange_sample rfl rfl rfl hfresh octets_sampleMoved
  have houtcome : Policy.signedOutcome (sampleLater 1000).env (sampleSession 0x03000001 1 1000 4)
      sampleEntity .empty sampleMoved.cpHashA .empty sampleMoved.expiration
        = .ok (.signed .empty (.null .authSigned)) :=
    Policy.signedOutcome_eq_ok_iff.mpr (by rw [if_neg (by decide)])
  have happly : Policy.apply (sampleLater 1000).env (sampleSession 0x03000001 1 1000 4)
      (sampleMoved.assertion sampleEntity) = .ok (_, .signed .empty (.null .authSigned)) :=
    Policy.apply_eq_ok_iff.mpr ⟨rfl, _, hchange, houtcome, by decide, rfl⟩
  have hlive : (sampleLater 1000).state.sessions.get? sampleMoved.policySession
      = some (sampleSession 0x03000001 1 1000 3) := rfl
  have hkey : (sampleLater 1000).env.objects.resolve sampleMoved.authObject = some sampleEntity :=
    rfl
  obtain ⟨next, hperform, _⟩ :=
    policySigned_of_apply sampleMoved ⟨.empty, .null .authSigned⟩ hkey hlive happly
  exact (sampleMoving.completed?_of_perform (sampleLater 1000) rfl hperform (by decide)).1

/-- The run in which the signature for the first session is shown for the second: the request shows
the same octets, without a nonce. -/
theorem policySigned_of_other_session_sample :
    sampleRandom 1 32 ≠ sampleRandom 0 32 ∧
      sampleMoved.nonceTpm.bytes ++ be32 sampleMoved.expiration.toUInt32
          ++ sampleMoved.cpHashA.bytes
        = sampleRandom 0 32 ++ be32 sampleSigned.expiration.toUInt32
          ++ sampleSigned.cpHashA.bytes ∧
      sampleMoved.nonceTpm.isEmpty = true := by
  have hnonces : sampleRandom 1 32 ≠ sampleRandom 0 32 := by decide +kernel
  have hsigned := completed?_sampleSigning.1
  have hkey : sampleStarted.env.objects.resolve sampleSigned.authObject = some sampleEntity := rfl
  have ha : sampleStarted.state.sessions.get? sampleSigned.policySession
      = some (sampleSession 0x03000000 0 0 1) := rfl
  have hsigned' := completed?_sampleMoving
  have hkey' : (sampleLater 1000).env.objects.resolve sampleMoved.authObject
      = some sampleEntity := rfl
  have hb : (sampleLater 1000).state.sessions.get? sampleMoved.policySession
      = some (sampleSession 0x03000001 1 1000 3) := rfl
  rw [← reached_sampleEvents] at hsigned hkey ha
  rw [← reached_sampleLater (.inl rfl)] at hsigned' hkey' hb
  rcases policySigned_of_other_session length_sampleRandom hsigned hkey ha rfl (by decide) hsigned'
    hkey' hb rfl rfl rfl rfl hnonces with
    ⟨hsame, hempty | halg⟩ | ⟨_, _, hdiffer, _⟩ | ⟨_, hpublic, htwo⟩
  · exact ⟨hnonces, hsame, hempty⟩
  · exact absurd rfl halg
  · exact absurd (by decide +kernel) hdiffer
  · obtain rfl : sampleKey = _ := Option.some.inj hpublic
    exact absurd htwo (Crypto.not_signsTwo_rsa _ _ _ _)

/-! ### A signature for sessions with different hashes -/

/-- The source of random octets is stuck at zero. -/
def zeroCrypto : Crypto := .standard fun _ size => Bytes.zeros size

/-- A signature of sixty-eight zeros. -/
def zeroSignature : Signature :=
  .rsaSsa .sha256
    ⟨Bytes.ofNat 32 0x0e55cd9b50aa692ed2a9fa4e1d056f3e9df75bfedd8441712fa7b6a96f3f3df6
      ++ Bytes.ofNat 32 0xe503e8640c5c795aff681c2d8bca689d41c1e636069e6177cea0d07541e38b2d
      ++ Bytes.ofNat 32 0x2837b0d3b1053c7e4cd5061b9c08d0af317c1a939906d0939dde8bcb96e615b7
      ++ Bytes.ofNat 32 0x979402984b9bd64762ed958b37449efbe15d0bc70cee9c85e2ad2cf81ae7bc82⟩

/-- A session whose nonce is zero. -/
def zeroSession (handle : UInt32) (hash : HashId) (stamp : Nat) : Session :=
  .start handle
    ⟨.policy, hash.alg, none, Bytes.zeros 16, Bytes.zeros hash.digestSize, 0⟩ stamp

/-- An authorization that shows as many zeros as nonce, and as many as cpHash. -/
def zeroSigned (policySession : UInt32) (nonceSize cpHashSize : Nat) : PolicySignedRequest where
  authObject := 0x80000000
  policySession := policySession
  nonceTpm := ⟨Bytes.zeros nonceSize⟩
  cpHashA := ⟨Bytes.zeros cpHashSize⟩
  policyRef := .empty
  expiration := 0
  auth := zeroSignature

def zeroEntity : Entity := ⟨0x80000000, sampleKey.name, Handle.owner, some sampleKey⟩

/-- The digest that the authorization makes of the first one. -/
def zeroDigest (hash : HashId) : Bytes :=
  hash.digest (hash.digest (Bytes.zeros hash.digestSize ++ be32 CommandCode.policySigned.code
    ++ sampleKey.name.bytes) ++ [])

/-- The session after the authorization. -/
def zeroAuthorized (handle : UInt32) (hash : HashId) (stamp cpHashSize : Nat) : Session :=
  { zeroSession handle hash stamp with
    policy := (zeroSession handle hash stamp).policy.after ⟨zeroDigest hash, none, none, none, none,
      if (Bytes.zeros cpHashSize).isEmpty then none else some (Bytes.zeros cpHashSize)⟩ }

/-- The signature is good for every session whose nonce has at most sixty-four zeros. -/
theorem apply_zeroSigned {env : Environment} (handle : UInt32) {hash : HashId} (stamp : Nat)
    {cpHashSize : Nat} (hcrypto : env.crypto = zeroCrypto)
    (hsize : hash.digestSize + cpHashSize = 64) :
    Policy.apply env (zeroSession handle hash stamp)
        ((zeroSigned handle hash.digestSize cpHashSize).assertion zeroEntity)
      = .ok (zeroAuthorized handle hash stamp cpHashSize, .signed .empty (.null .authSigned)) := by
  have hoctets : Policy.authorizationOctets ⟨Bytes.zeros hash.digestSize⟩ 0
      ⟨Bytes.zeros cpHashSize⟩ .empty = Bytes.zeros 68 := by
    have hzero : be32 (0 : Int32).toUInt32 = Bytes.zeros 4 := by decide
    have hsum : hash.digestSize + 4 + cpHashSize = 68 := by omega
    unfold Policy.authorizationOctets Sized.empty
    rw [hzero, List.append_nil]
    unfold Bytes.zeros
    rw [List.replicate_append_replicate, List.replicate_append_replicate, hsum]
  have hverify : zeroCrypto.verify sampleKey (zeroCrypto.hash .sha256 (Bytes.zeros 68))
      zeroSignature = .ok true := by decide +kernel
  have hauthorized : Policy.checkAuthorization env.crypto zeroEntity
      (Policy.authorizationOctets ⟨Bytes.zeros hash.digestSize⟩ 0 ⟨Bytes.zeros cpHashSize⟩ .empty)
      zeroSignature = .ok () := by
    rw [hoctets, hcrypto]
    exact Policy.checkAuthorization_eq_ok_iff.mpr ⟨_, _, _, rfl, rfl, rfl, hverify⟩
  have hfresh : Policy.checkFreshness env.clock (zeroSession handle hash stamp)
      ⟨Bytes.zeros hash.digestSize⟩ 0 = .ok () :=
    Policy.checkFreshness_eq_ok_iff.mpr ⟨.inr rfl, fun hne => absurd rfl hne⟩
  have hbound : Policy.boundCpHash (zeroSession handle hash stamp) (Bytes.zeros cpHashSize) 2
      = .ok _ :=
    Policy.boundCpHash_eq_ok_iff.mpr
      ⟨rfl, by simp [zeroSession, Session.start, PolicyState.initial]⟩
  have hupdate : Policy.update env.crypto hash.alg (Bytes.zeros hash.alg.digestSize) .policySigned
      sampleKey.name.bytes [] = .ok (zeroDigest hash) := by
    rw [hcrypto, HashId.digestSize_alg]
    exact Policy.update_eq_ok_iff.mpr ⟨hash, rfl, rfl⟩
  have hchange := Policy.signedChange_eq_ok_iff.mpr
    ⟨fun _ => hfresh, _, hbound, fun _ => hauthorized, _, hupdate, rfl⟩
  have houtcome : Policy.signedOutcome env (zeroSession handle hash stamp) zeroEntity
      ⟨Bytes.zeros hash.digestSize⟩ ⟨Bytes.zeros cpHashSize⟩ .empty 0
        = .ok (.signed .empty (.null .authSigned)) :=
    Policy.signedOutcome_eq_ok_iff.mpr (by rw [if_neg (by simp)])
  have hlength : (zeroDigest hash).length = hash.alg.digestSize := by
    rw [zeroDigest, HashId.length_digest, HashId.digestSize_alg]
  exact Policy.apply_eq_ok_iff.mpr ⟨rfl, _, hchange, houtcome, hlength, rfl⟩

/-- The authorization of the session with SHA-256. -/
def zeroSigning : PlainCall .policySigned where
  arguments := zeroSigned 0x03000000 32 32

/-- The authorization of the session with SHA-512. -/
def zeroMoving : PlainCall .policySigned where
  arguments := zeroSigned 0x03000001 64 0

/-- The key is loaded, and two sessions with different hashes are started. -/
def zeroEvents : List Event := [.loadKey sampleKey Handle.owner, .command (startRequest []),
  .command (RequestBuilder.request .startAuthSession
    (StartAuthSessionRequest.unbound .policy .sha512 (Bytes.zeros 16)) [])]

/-- The engine with both sessions. -/
def zeroEngine (state : State) : Engine :=
  { reached zeroCrypto .standard zeroEvents with state := state }

/-- The signature is accepted for a session as long as it is new, and the other stays as it is. -/
theorem completed?_of_zeroSigned {state : State} {handle : UInt32} {hash : HashId}
    {stamp cpHashSize : Nat} (call : PlainCall .policySigned)
    (hcall : call.arguments = zeroSigned handle hash.digestSize cpHashSize)
    (hsize : hash.digestSize + cpHashSize = 64)
    (hlive : state.sessions.get? handle = some (zeroSession handle hash stamp)) :
    completed? (zeroEngine state) call.envelope
        = some ⟨.policySigned, call.arguments, ⟨.empty, .null .authSigned⟩⟩ ∧
      ∃ next, (zeroEngine state).after (.command call.envelope) = zeroEngine next ∧
        ∀ other, other ≠ handle → next.sessions.get? other = state.sessions.get? other := by
  have hcrypto : (zeroEngine state).env.crypto = zeroCrypto := crypto_reached _ _ _
  have happly := apply_zeroSigned handle (state.sessions.useClock + 1) hcrypto hsize
  have hkey : (zeroEngine state).env.objects.resolve 0x80000000 = some zeroEntity := rfl
  obtain ⟨next, hperform, hframe⟩ := policySigned_of_apply
    (zeroSigned handle hash.digestSize cpHashSize) ⟨.empty, .null .authSigned⟩ hkey hlive happly
  rw [← hcall] at hperform
  obtain ⟨hdone, hafter⟩ := call.completed?_of_perform (zeroEngine state) rfl hperform (by
    show _ ≤ (reached zeroCrypto .standard zeroEvents).config.maxResponseSize
    decide +kernel)
  exact ⟨hdone, next, hafter, hframe⟩

/-! ### Two ways to move a signature -/

/-- The engine accepts the authorization of the request for a real session. -/
structure Authorizes (engine : Engine) (call : PlainCall .policySigned)
    (answer : PolicySignedResponse) (session : Session) : Prop where
  completed?_eq : completed? engine call.envelope
    = some ⟨.policySigned, call.arguments, answer⟩
  live : engine.state.sessions.get? call.arguments.policySession = some session
  real : session.isTrial = false

/-- The requests show one signature of one key, for one reference and over the same octets. -/
structure SameSignature (r r' : PolicySignedRequest) : Prop where
  auth_eq : r'.auth = r.auth
  authObject_eq : r'.authObject = r.authObject
  policyRef_eq : r'.policyRef = r.policyRef
  octets_eq : Policy.authorizationOctets r'.nonceTpm r'.expiration r'.cpHashA r'.policyRef
    = Policy.authorizationOctets r.nonceTpm r.expiration r.cpHashA r.policyRef

/-- Without a nonce, the signature does for another session with the same hash. -/
theorem moved_without_nonce :
    ∃ a b,
      Authorizes (reached sampleCrypto sampleConfig sampleEvents) sampleSigning sampleAnswer a ∧
      Authorizes (reached sampleCrypto sampleConfig
          (sampleEvents ++ .command sampleSigning.envelope :: sampleBetween 1000))
        sampleMoving ⟨.empty, .null .authSigned⟩ b ∧
      SameSignature sampleSigned sampleMoved ∧ sampleMoved.nonceTpm.isEmpty = true ∧
      a.hashAlg = b.hashAlg ∧ a.nonceTpm = sampleSigned.nonceTpm.bytes ∧
      b.nonceTpm ≠ a.nonceTpm := by
  rw [reached_sampleEvents, reached_sampleLater (.inl rfl)]
  exact ⟨sampleSession 0x03000000 0 0 1, sampleSession 0x03000001 1 1000 3,
    ⟨completed?_sampleSigning.1, rfl, rfl⟩, ⟨completed?_sampleMoving, rfl, rfl⟩,
    ⟨rfl, rfl, rfl, by decide +kernel⟩, rfl, rfl, rfl, by decide +kernel⟩

/-- Between sessions with different hashes, the signature does for the one with the longer nonce, by
its nonce, which begins with the shorter one. -/
theorem moved_to_longer_nonce :
    ∃ a b,
      Authorizes (reached zeroCrypto .standard zeroEvents) zeroSigning
        ⟨.empty, .null .authSigned⟩ a ∧
      Authorizes (reached zeroCrypto .standard (zeroEvents ++ [.command zeroSigning.envelope]))
        zeroMoving ⟨.empty, .null .authSigned⟩ b ∧
      SameSignature (zeroSigned 0x03000000 32 32) (zeroSigned 0x03000001 64 0) ∧
      a.nonceTpm = (zeroSigned 0x03000000 32 32).nonceTpm.bytes ∧
      b.nonceTpm = (zeroSigned 0x03000001 64 0).nonceTpm.bytes ∧ b.nonceTpm ≠ a.nonceTpm := by
  obtain ⟨hlive, hlive'⟩ :
      (reached zeroCrypto .standard zeroEvents).state.sessions.get? 0x03000000
          = some (zeroSession 0x03000000 .sha256 1) ∧
        (reached zeroCrypto .standard zeroEvents).state.sessions.get? 0x03000001
          = some (zeroSession 0x03000001 .sha512 2) := by decide +kernel
  obtain ⟨hdone, next, hafter, hframe⟩ := completed?_of_zeroSigned zeroSigning rfl rfl hlive
  -- the second session is still new
  have hother : next.sessions.get? 0x03000001 = some (zeroSession 0x03000001 .sha512 2) :=
    (hframe _ (by decide)).trans hlive'
  obtain ⟨hdone', _⟩ := completed?_of_zeroSigned zeroMoving rfl rfl hother
  rw [reached_concat]
  have hsecond : (reached zeroCrypto .standard zeroEvents).after (.command zeroSigning.envelope)
      = zeroEngine next := hafter
  rw [hsecond]
  exact ⟨_, _, ⟨hdone, hlive, rfl⟩, ⟨hdone', hother, rfl⟩, ⟨rfl, rfl, rfl, by decide +kernel⟩,
    by decide +kernel, by decide +kernel, by decide +kernel⟩

/-- A signature that was accepted for one session by its nonce was accepted for another with a
different nonce: without a nonce, or because the other session has a longer one that begins with the
first. No two messages were hashed and no two digests verified. -/
theorem signature_is_moved :
    (∃ a b,
      Authorizes (reached sampleCrypto sampleConfig sampleEvents) sampleSigning sampleAnswer a ∧
      Authorizes (reached sampleCrypto sampleConfig
          (sampleEvents ++ .command sampleSigning.envelope :: sampleBetween 1000))
        sampleMoving ⟨.empty, .null .authSigned⟩ b ∧
      SameSignature sampleSigned sampleMoved ∧ sampleMoved.nonceTpm.isEmpty = true ∧
      a.hashAlg = b.hashAlg ∧ a.nonceTpm = sampleSigned.nonceTpm.bytes ∧
      b.nonceTpm ≠ a.nonceTpm) ∧
    ∃ a b,
      Authorizes (reached zeroCrypto .standard zeroEvents) zeroSigning
        ⟨.empty, .null .authSigned⟩ a ∧
      Authorizes (reached zeroCrypto .standard (zeroEvents ++ [.command zeroSigning.envelope]))
        zeroMoving ⟨.empty, .null .authSigned⟩ b ∧
      SameSignature (zeroSigned 0x03000000 32 32) (zeroSigned 0x03000001 64 0) ∧
      a.nonceTpm = (zeroSigned 0x03000000 32 32).nonceTpm.bytes ∧
      b.nonceTpm = (zeroSigned 0x03000001 64 0).nonceTpm.bytes ∧ b.nonceTpm ≠ a.nonceTpm :=
  ⟨moved_without_nonce, moved_to_longer_nonce⟩

end TrustedPlatform.Engine
