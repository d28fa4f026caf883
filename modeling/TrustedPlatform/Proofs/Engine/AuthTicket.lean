import TrustedPlatform.Proofs.Engine.Completed
import TrustedPlatform.Proofs.Policy.Authorization
import TrustedPlatform.Proofs.Wire.Layouts

/-!
# Tickets of signed authorizations

What PolicyTicket makes of a ticket that PolicySigned gave, in any later state of the run. Shown
with the parameters it was given for, the ticket repeats the authorization up to its expiration and
is refused from then on: `policyTicket_replays`. Shown with others, it is still accepted if these
make up the same octets, and the timeout is a part of the octets like the others: without a timeout
of its own, a request can show it in the place of the cpHash, and nothing expires
(`policyTicket_of_expired`).
-/

namespace TrustedPlatform.Engine

/-- The key of a PolicySigned that was carried out was loaded. -/
theorem key_of_policySigned {engine : Engine} {signing : Bytes} {r : PolicySignedRequest}
    {answer : PolicySignedResponse}
    (hsigned : completed? engine signing = some ⟨.policySigned, r, answer⟩) :
    ∃ key, engine.env.objects.resolve r.authObject = some key := by
  obtain ⟨_, _, _, _, _, hperform, _⟩ := of_completed? hsigned
  obtain ⟨key, hkey, _⟩ := policySigned_eq_ok_iff.mp hperform
  exact ⟨key, hkey⟩

/-- The assertion of a PolicySigned that was carried out. -/
theorem apply_of_policySigned {engine : Engine} {signing : Bytes} {r : PolicySignedRequest}
    {answer : PolicySignedResponse} {key : Entity}
    (hsigned : completed? engine signing = some ⟨.policySigned, r, answer⟩)
    (hkey : engine.env.objects.resolve r.authObject = some key) :
    ∃ session applied,
      engine.state.sessions.get? r.policySession = some session ∧
        Policy.apply engine.env
            { session with lastUsed := engine.state.sessions.useClock + 1 } (r.assertion key)
          = .ok (applied, .signed answer.timeout answer.policyTicket) ∧
        (∃ performed, perform engine.env .policySigned r engine.state = .ok answer performed ∧
          performed.sessions.get? r.policySession = some applied) ∧
        ∀ left, (engine.after (.command signing)).state.sessions.get? r.policySession
          = some left → left.policy = applied.policy := by
  have hasserted : (⟨.policySigned, r, answer⟩ : Completed).asserted? engine.env
      = some (r.policySession, r.assertion key) := by
    show Option.map _ (engine.env.objects.resolve r.authObject) = _
    rw [hkey]
    rfl
  exact apply_of_completed? hsigned hasserted

/-- The ticket of a PolicyTicket that goes through on a real session was verified. -/
theorem verifyAuth_of_policyTicket {engine : Engine} {replaying : Bytes} {q : PolicyTicketRequest}
    {done : EmptyResponse} {session : Session}
    (hreplayed : completed? engine replaying = some ⟨.policyTicket, q, done⟩)
    (hlive : engine.state.sessions.get? q.policySession = some session)
    (hreal : session.isTrial = false) :
    engine.env.tickets.verifyAuth engine.env.crypto engine.env.clock q.ticket q.claim
      = .ok () := by
  obtain ⟨_, _, hlive', happly, _⟩ := apply_of_completed? hreplayed rfl
  cases hlive.symm.trans hlive'
  obtain ⟨_, _, hchange, _, _, _⟩ := Policy.apply_eq_ok_iff.mp happly
  obtain ⟨_, _, _, _, hverified, _⟩ := Policy.ticketChange_eq_ok_iff.mp hchange
  exact hverified hreal

section

variable {crypto : Crypto} {config : Config} {before between : List Event} {signing : Bytes}
  {r : PolicySignedRequest} {answer : PolicySignedResponse} {key : Entity}
  (hsigned : completed? (reached crypto config before) signing = some ⟨.policySigned, r, answer⟩)
  (hkey : (reached crypto config before).env.objects.resolve r.authObject = some key)

include hsigned hkey

/-- The ticket that a signed authorization leaves does on another session what the signature did, up
to the instant at which the authorization expires and as long as there was no reset. The digest is
that of the session which the handler left, whether or not this session outlived its command. -/
theorem policyTicket_replays {a b : Session} {handle : UInt32}
    (hnull : answer.policyTicket.isNull = false)
    (hsession : (reached crypto config before).state.sessions.get? r.policySession = some a)
    (henabled : (reached crypto config
      (before ++ .command signing :: between)).env.tickets.isEnabled key.hierarchy = true)
    (hother : (reached crypto config (before ++ .command signing :: between)).state.sessions.get?
      handle = some b)
    (hkind : b.kind = .policy) (halg : b.hashAlg = a.hashAlg)
    (hdigest : b.policy.digest = a.policy.digest)
    (hcpHash : ∀ own ∈ b.policy.cpHash, r.cpHashA.isEmpty = true ∨ own = r.cpHashA.bytes) :
    let issuer := reached crypto config before
    let later := reached crypto config (before ++ .command signing :: between)
    let replay := r.replay answer key.name handle
    ∃ performed authorized,
      perform issuer.env .policySigned r issuer.state = .ok answer performed ∧
      performed.sessions.get? r.policySession = some authorized ∧
      (∀ left, (issuer.after (.command signing)).state.sessions.get? r.policySession = some left →
        left.policy = authorized.policy) ∧
      Policy.InTime issuer.env a r.expiration issuer.env.clock ∧
      (Policy.InTime issuer.env a r.expiration later.env.clock →
        ∃ next replayed, perform later.env .policyTicket replay later.state = .ok {} next ∧
          next.sessions.get? handle = some replayed ∧
          replayed.policy.digest = authorized.policy.digest ∧
          (r.cpHashA.isEmpty = false → replayed.policy.cpHash = some r.cpHashA.bytes)) ∧
      (¬Policy.InTime issuer.env a r.expiration later.env.clock →
        (∃ stopped, perform later.env .policyTicket replay later.state
          = .error (.fault ((Cause.policy .ticketExpired).atParameter 1)) stopped) ∧
        ∀ envelope, requested? later envelope = some ⟨.policyTicket, replay⟩ →
          ∃ stopped, executeCommand envelope later
              = .error (.refused ⟨CommandCode.policyTicket.code,
                (Cause.policy .ticketExpired).atParameter 1⟩) stopped ∧
            stopped.state.sessions = later.state.sessions) := by
  intro issuer later replay
  obtain ⟨session, applied, hlive, happly, ⟨performed, hperformed, hauthorized⟩, hleft⟩ :=
    apply_of_policySigned hsigned hkey
  cases hsession.symm.trans hlive
  have hfresh := Policy.inTime_of_apply hnull happly
  refine ⟨performed, applied, hperformed, hauthorized, hleft, hfresh, fun hintime => ?_,
    fun hlate => ?_⟩
  · obtain ⟨replayed, hreplay, hsame, hbound⟩ :=
      Policy.apply_replay later.env
        { b with lastUsed := later.state.sessions.useClock + 1 } handle hnull happly
        (separate_reached crypto config before) (proofs_reached crypto config _ _)
        ((crypto_reached crypto config _).trans (crypto_reached crypto config _).symm)
        henabled hkind halg hdigest hcpHash hintime
    obtain ⟨next, hperform, hget⟩ := makePlainAssertion_of_apply hother hreplay
    exact ⟨next, replayed, hperform, hget, hsame, hbound⟩
  · have hreplay := Policy.apply_replay_late later.env
      { b with lastUsed := later.state.sessions.useClock + 1 } handle hnull happly hkind hcpHash
      hlate
    have hperform : perform later.env .policyTicket replay later.state = .error _ _ :=
      makePlainAssertion_of_apply_error (touch_of_live hother) hreplay
    exact ⟨⟨_, hperform⟩, fun envelope hrequested =>
      ⟨_, executeCommand_of_perform_error hrequested hperform, rfl⟩⟩

end

/-! ### A run with a ticket -/

/-- A key whose exponent is 3. -/
def sampleKey : PublicKey :=
  .rsa (Bytes.ofNat 32 0xb8ae3a7f440325106218610671500e0d8132c414b1fcea4b80e12c29d16e0017
    ++ Bytes.ofNat 32 0x0d0adf1010eea1c24e56cd371d25faefd4446dc6cf2b0a548b171ed4f1c6d7af
    ++ Bytes.ofNat 32 0xc7b6dffea3b6d28f54ea80ca4b66d6edb680f594e286d202c38e01cd50c66e5d
    ++ Bytes.ofNat 32 0xa17b7355263e7d98184ba59539515ead0e6ce84966d11f4e30b89ddaa6fa030b) 3

/-- The name of the key. -/
def sampleName : Name :=
  ⟨be16 AlgId.sha256.code
    ++ Bytes.ofNat 32 0x066e7108830a74c21ed372eab036585b6b6f6eb1ebd6b8e4f9160e1a47f20de6⟩

/-- The key, loaded into the owner hierarchy. -/
def sampleEntity : Entity := ⟨0x80000000, sampleName, Handle.owner, some sampleKey⟩

/-- Octets that follow from the number of the draw. -/
def sampleRandom (draw size : Nat) : Bytes :=
  (List.range size).map fun i => UInt8.ofNat (81 * draw + 7 * i + 1)

theorem length_sampleRandom (draw size : Nat) : (sampleRandom draw size).length = size := by
  rw [sampleRandom, List.length_map, List.length_range]

def sampleCrypto : Crypto := .standard sampleRandom

def sampleConfig : Config := { Config.standard with proofSeed := [0x2A] }

/-- The proof value of the owner hierarchy. -/
def sampleProof : Bytes :=
  Bytes.ofNat 32 0xc5174d299c68215b75f7e12686dde33371fdcbb50d60a21cb1b982a1b6577a1c

/-- The engine with the key loaded, at a clock reading and in a state. -/
def sampleEngine (millis : UInt64) (state : State) : Engine where
  config := sampleConfig
  env := {
    crypto := sampleCrypto
    commands := .standard []
    tickets := ⟨[⟨Handle.owner, sampleProof, true⟩,
      ⟨Handle.endorsement, TicketAuthority.proof sampleCrypto [0x2A] 1 Handle.endorsement, true⟩,
      ⟨Handle.platform, TicketAuthority.proof sampleCrypto [0x2A] 2 Handle.platform, true⟩]⟩
    objects := ⟨[(0x80000000, sampleEntity)], 1⟩
    pcrs := .initial
    clock := ⟨millis, 0⟩ }
  state := state

theorem reached_loadKey_sample :
    reached sampleCrypto sampleConfig [.loadKey sampleKey Handle.owner]
      = sampleEngine 0 ⟨.empty 64 false, 0⟩ := by
  have hname : sampleKey.name = sampleName := by decide +kernel
  have hproof : TicketAuthority.proof sampleCrypto [0x2A] 0 Handle.owner = sampleProof := by
    decide +kernel
  unfold sampleEngine
  rw [← hproof, sampleEntity, ← hname]
  rfl

/-- A policy session with SHA-256 and nothing done with it yet. -/
def sampleSession (handle : UInt32) (draw : Nat) (startTime : UInt64) (stamp : Nat) : Session :=
  .start handle ⟨.policy, .sha256, none, Bytes.zeros 16, sampleRandom draw 32, startTime⟩ stamp

/-- The key is loaded and a session started. -/
def sampleEvents : List Event :=
  [.loadKey sampleKey Handle.owner] ++ [.command (startRequest [])]

def sampleStarted : Engine :=
  sampleEngine 0 ⟨⟨[(0x03000000, sampleSession 0x03000000 0 0 1)], 64, false, 1, 1⟩, 1⟩

theorem reached_sampleEvents : reached sampleCrypto sampleConfig sampleEvents = sampleStarted := by
  have hstate : ((sampleEngine 0 ⟨.empty 64 false, 0⟩).after (.command (startRequest []))).state
      = sampleStarted.state := by decide +kernel
  rw [sampleEvents, reached_append, reached_loadKey_sample, afterAll, List.foldl_cons,
    after_command_eq, hstate]
  rfl

/-- What the key signed: the nonce of the session, and that the authorization expires a second after
the session started. -/
def sampleOctets : Bytes := sampleRandom 0 32 ++ be32 0xffffffff

def sampleSignature : Signature :=
  .rsaSsa .sha256
    ⟨Bytes.ofNat 32 0x189cec62fddb3050b3037d0fd3b37a0d5585a89274b40fcb96f8c637cca9a364
      ++ Bytes.ofNat 32 0xd3315621c6cdc59c0fe2ee8d7a1cbf84cc7cdfcf2f4dd88dd286726b63fe148a
      ++ Bytes.ofNat 32 0x9912adcb9f49d9c4b2dd8d75cf3b9b5ccd131e673c3a5744cf2c58dd43358db6
      ++ Bytes.ofNat 32 0x588e51e86a15de2e25648042085c966270b580008df45795bf91742881c9705a⟩

theorem checkAuthorization_sample :
    Policy.checkAuthorization sampleCrypto sampleEntity sampleOctets sampleSignature = .ok () := by
  have hverify : sampleCrypto.verify sampleKey (sampleCrypto.hash .sha256 sampleOctets)
      sampleSignature = .ok true := by decide +kernel
  exact Policy.checkAuthorization_eq_ok_iff.mpr ⟨_, _, _, rfl, rfl, rfl, hverify⟩

/-- The digest that the authorization makes of the first one. -/
def sampleDigest : Bytes :=
  Bytes.ofNat 32 0x80b476d118bbeb7bfb26bf35f18f012ed63a1ba5ab37250611f8abdbbcce73ca

theorem update_sample :
    Policy.update sampleCrypto .sha256 (Bytes.zeros 32) .policySigned sampleName.bytes []
      = .ok sampleDigest := by decide +kernel

def sampleSigned : PolicySignedRequest where
  authObject := 0x80000000
  policySession := 0x03000000
  nonceTpm := ⟨sampleRandom 0 32⟩
  cpHashA := .empty
  policyRef := .empty
  expiration := -1
  auth := sampleSignature

def sampleAnswer : PolicySignedResponse where
  timeout := .ofExpiration 1000 0
  policyTicket := ⟨.authSigned, Handle.owner,
    ⟨Bytes.ofNat 32 0xde97ada138ab106f52edad3da54467d93d5d1da12bdbf237893ddbb31912889a⟩⟩

theorem sign_sample (millis : UInt64) (state : State) :
    (sampleEngine millis state).env.tickets.sign sampleCrypto Handle.owner .authSigned
      (sampleSigned.claim sampleAnswer.timeout sampleName).octets
      = .ok sampleAnswer.policyTicket.digest.bytes := by
  have hmac : sampleAnswer.policyTicket.digest.bytes = sampleCrypto.hmac .sha256 sampleProof
      (be16 StructureTag.authSigned.code
        ++ (sampleSigned.claim sampleAnswer.timeout sampleName).octets) := by decide +kernel
  exact TicketAuthority.sign_eq_ok_iff.mpr ⟨sampleProof, rfl, hmac⟩

/-- Whatever a session with a new policy shows that has the octets that the key signed. -/
theorem signedChange_sample {env : Environment} {session : Session} {nonceTpm : Nonce}
    {cpHashA : Digest} {expiration : Int32} (hcrypto : env.crypto = sampleCrypto)
    (halg : session.hashAlg = .sha256) (hpolicy : session.policy = .initial 32)
    (hfresh : Policy.checkFreshness env.clock session nonceTpm expiration = .ok ())
    (hoctets : Policy.authorizationOctets nonceTpm expiration cpHashA .empty = sampleOctets) :
    Policy.signedChange env session sampleEntity nonceTpm cpHashA .empty expiration sampleSignature
      = .ok ⟨sampleDigest, none, none, none, none,
        if cpHashA.bytes.isEmpty then none else some cpHashA.bytes⟩ := by
  have hauthorized := checkAuthorization_sample
  rw [← hoctets, ← hcrypto] at hauthorized
  have hupdate : Policy.update env.crypto session.hashAlg session.policy.digest .policySigned
      sampleEntity.name.bytes [] = .ok sampleDigest := by
    rw [hcrypto, halg, hpolicy]
    exact update_sample
  have hbound : Policy.boundCpHash session cpHashA.bytes 2 = .ok _ :=
    Policy.boundCpHash_eq_ok_iff.mpr ⟨rfl, by simp [hpolicy, PolicyState.initial]⟩
  exact Policy.signedChange_eq_ok_iff.mpr
    ⟨fun _ => hfresh, _, hbound, fun _ => hauthorized, _, hupdate, rfl⟩

/-- The authorization on a session with a new policy, in whatever environment its hierarchy issues
the ticket. -/
theorem apply_sampleSigned_of {env : Environment} {session : Session}
    {answer : PolicySignedResponse} (hcrypto : env.crypto = sampleCrypto)
    (hkind : session.kind = .policy) (halg : session.hashAlg = .sha256)
    (hpolicy : session.policy = .initial 32)
    (hfresh : Policy.checkFreshness env.clock session sampleSigned.nonceTpm
      sampleSigned.expiration = .ok ())
    (hfits : session.startTime.toNat + Policy.lifetime sampleSigned.expiration < UInt64.size)
    (htimeout : Policy.timeoutOf env session sampleSigned.expiration = answer.timeout)
    (hissue : env.tickets.issueAuth env.crypto .authSigned Handle.owner
      (sampleSigned.claim answer.timeout sampleName) = .ok answer.policyTicket) :
    Policy.apply env session (sampleSigned.assertion sampleEntity)
      = .ok ({ session with policy := { PolicyState.initial 32 with digest := sampleDigest } },
        .signed answer.timeout answer.policyTicket) := by
  have hoctets : Policy.authorizationOctets sampleSigned.nonceTpm sampleSigned.expiration
      sampleSigned.cpHashA .empty = sampleOctets := by decide +kernel
  have hchange := signedChange_sample hcrypto halg hpolicy hfresh hoctets
  have hreal : session.isTrial = false := by rw [Session.isTrial, hkind]; rfl
  have houtcome : Policy.outcomeFor env session (sampleSigned.assertion sampleEntity)
      = .ok (.signed answer.timeout answer.policyTicket) := by
    refine Policy.signedOutcome_eq_ok_iff.mpr ?_
    rw [if_pos ⟨hreal, by decide, by decide⟩, htimeout]
    exact ⟨hfits, _, hissue, rfl⟩
  have hlength : sampleDigest.length = session.hashAlg.digestSize := by
    rw [halg]
    decide
  refine Policy.apply_eq_ok_iff.mpr
    ⟨by rw [Session.isPolicy, hkind]; rfl, _, hchange, houtcome, hlength, ?_⟩
  rw [hpolicy]
  rfl

/-- The session after the authorization. -/
def sampleAuthorized : Session :=
  { sampleSession 0x03000000 0 0 2 with
    policy := { PolicyState.initial 32 with digest := sampleDigest } }

theorem apply_sampleSigned :
    Policy.apply sampleStarted.env (sampleSession 0x03000000 0 0 2)
        (sampleSigned.assertion sampleEntity)
      = .ok (sampleAuthorized, .signed sampleAnswer.timeout sampleAnswer.policyTicket) := by
  have hfresh : Policy.checkFreshness sampleStarted.env.clock (sampleSession 0x03000000 0 0 2)
      sampleSigned.nonceTpm sampleSigned.expiration = .ok () := by decide +kernel
  have hissue : (sampleEngine 0 sampleStarted.state).env.tickets.issueAuth sampleCrypto .authSigned
      Handle.owner (sampleSigned.claim sampleAnswer.timeout sampleName)
        = .ok sampleAnswer.policyTicket :=
    (TicketAuthority.issue_eq_ok_iff_of_not_null (by decide)).mpr
      ⟨rfl, rfl, sign_sample 0 sampleStarted.state⟩
  exact apply_sampleSigned_of rfl rfl rfl rfl hfresh (by decide) rfl hissue

/-- The key signs an authorization for the session. -/
def sampleSigning : PlainCall .policySigned where
  arguments := sampleSigned

def sampleSignedState : State := ⟨⟨[(0x03000000, sampleAuthorized)], 64, false, 1, 2⟩, 1⟩

theorem completed?_sampleSigning :
    completed? sampleStarted sampleSigning.envelope
        = some ⟨.policySigned, sampleSigned, sampleAnswer⟩ ∧
      sampleStarted.after (.command sampleSigning.envelope) = sampleEngine 0 sampleSignedState := by
  have htouch : SessionTable.touch sampleSigned.policySession sampleStarted.state.sessions
      = .ok (sampleSession 0x03000000 0 0 2)
        ⟨[(0x03000000, sampleSession 0x03000000 0 0 2)], 64, false, 1, 2⟩ := rfl
  have hmake : makeAssertion sampleStarted.env sampleSigned.policySession 2
      (sampleSigned.assertion sampleEntity) sampleStarted.state = .ok _ sampleSignedState :=
    makeAssertion_eq_ok_iff.mpr ⟨_, _, _, htouch, apply_sampleSigned, rfl⟩
  have hperform : policySigned sampleStarted.env sampleSigned sampleStarted.state
      = .ok sampleAnswer sampleSignedState :=
    policySigned_eq_ok_iff.mpr ⟨sampleEntity, rfl, hmake⟩
  exact sampleSigning.completed?_of_perform sampleStarted rfl hperform (by decide)

/-- After the authorization the clock is set, and another session is started. -/
def sampleBetween (millis : UInt64) : List Event :=
  [.setClock millis, .command (startRequest [])]

def sampleLater (millis : UInt64) : Engine :=
  sampleEngine millis ⟨⟨[(0x03000000, sampleAuthorized),
    (0x03000001, sampleSession 0x03000001 1 millis 3)], 64, false, 2, 3⟩, 2⟩

theorem reached_sampleLater {millis : UInt64} (h : millis = 1000 ∨ millis = 1001) :
    reached sampleCrypto sampleConfig
        (sampleEvents ++ .command sampleSigning.envelope :: sampleBetween millis)
      = sampleLater millis := by
  have hstate : ((sampleEngine millis sampleSignedState).after (.command (startRequest []))).state
      = (sampleLater millis).state := by
    rcases h with rfl | rfl <;> decide +kernel
  have hlater : (sampleEngine millis sampleSignedState).after (.command (startRequest []))
      = sampleLater millis := by
    rw [after_command_eq, hstate]
    rfl
  rw [reached_append, reached_sampleEvents, afterAll, List.foldl_cons,
    completed?_sampleSigning.2]
  exact hlater

/-- At the instant at which it expires, the ticket still does for the other session what the key did
for the first. -/
theorem policyTicket_replays_at_expiration :
    ∃ next replayed,
      perform (sampleLater 1000).env .policyTicket
          (sampleSigned.replay sampleAnswer sampleName 0x03000001) (sampleLater 1000).state
        = .ok {} next ∧
        next.sessions.get? 0x03000001 = some replayed ∧
        replayed.policy.digest = sampleDigest := by
  have hlater := reached_sampleLater (.inl rfl)
  have hsigned : completed? (reached sampleCrypto sampleConfig sampleEvents)
      sampleSigning.envelope = some ⟨.policySigned, sampleSigned, sampleAnswer⟩ := by
    rw [reached_sampleEvents]
    exact completed?_sampleSigning.1
  have hkey : (reached sampleCrypto sampleConfig sampleEvents).env.objects.resolve
      sampleSigned.authObject = some sampleEntity := by
    rw [reached_sampleEvents]
    rfl
  have hsession : (reached sampleCrypto sampleConfig sampleEvents).state.sessions.get?
      sampleSigned.policySession = some (sampleSession 0x03000000 0 0 1) := by
    rw [reached_sampleEvents]
    rfl
  have hother : (sampleLater 1000).state.sessions.get? 0x03000001
      = some (sampleSession 0x03000001 1 1000 3) := rfl
  have henabled : (sampleLater 1000).env.tickets.isEnabled Handle.owner = true := rfl
  rw [← hlater] at hother henabled
  obtain ⟨_, authorized, _, _, hleft, _, hreplays, _⟩ := policyTicket_replays hsigned hkey
    (by decide) hsession henabled hother rfl rfl rfl (by decide)
  rw [hlater, reached_sampleEvents] at hreplays
  rw [reached_sampleEvents, completed?_sampleSigning.2] at hleft
  obtain ⟨next, replayed, hperform, hget, hdigest, _⟩ := hreplays ⟨rfl, by decide⟩
  -- the first session outlives its command, with the policy that the key gave it
  have hpolicy : sampleAuthorized.policy = authorized.policy := hleft sampleAuthorized rfl
  rw [← hpolicy] at hdigest
  exact ⟨next, replayed, hperform, hget, hdigest⟩

/-! ## Expired tickets -/

section

variable {crypto : Crypto} {config : Config} {before between : List Event} {signing : Bytes}
  {r : PolicySignedRequest} {answer : PolicySignedResponse} {key : Entity}
  (hsigned : completed? (reached crypto config before) signing = some ⟨.policySigned, r, answer⟩)
  (hkey : (reached crypto config before).env.objects.resolve r.authObject = some key)

include hsigned hkey

/-- A PolicyTicket that goes through on a real session shows what the ticket was issued over, unless
two different messages have the same keyed hash; and its timeout has not passed. -/
theorem octets_of_policyTicket {session : Session} {replaying : Bytes} {q : PolicyTicketRequest}
    {done : EmptyResponse}
    (hreplayed : completed? (reached crypto config (before ++ .command signing :: between))
      replaying = some ⟨.policyTicket, q, done⟩)
    (hlive : (reached crypto config (before ++ .command signing :: between)).state.sessions.get?
      q.policySession = some session)
    (hreal : session.isTrial = false) (hticket : q.ticket = answer.policyTicket) :
    q.timeout.check (reached crypto config (before ++ .command signing :: between)).env.clock
        = .ok () ∧
      answer.policyTicket.isNull = false ∧
      (q.claim.octets = (r.claim answer.timeout key.name).octets ∨
        ∃ proof, (key.hierarchy, proof) ∈ (reached crypto config before).env.tickets.proofs ∧
          crypto.Confuses proof
            (be16 StructureTag.authSigned.code ++ q.claim.octets)
            (be16 StructureTag.authSigned.code ++ (r.claim answer.timeout key.name).octets)) := by
  -- the ticket verified
  have hverified := verifyAuth_of_policyTicket hreplayed hlive hreal
  obtain ⟨_, hcheck, haccept⟩ := TicketAuthority.verifyAuth_eq_ok_iff.mp hverified
  rw [hticket, crypto_reached] at haccept
  have hnull := (TicketAuthority.check_eq_ok_iff.mp haccept).1
  refine ⟨hcheck, hnull, ?_⟩
  -- and it was issued over the claim of the signature
  obtain ⟨session', applied, _, hsigning, _⟩ := apply_of_policySigned hsigned hkey
  obtain ⟨_, _, hissue⟩ := Policy.issueAuth_of_apply hnull hsigning
  rw [crypto_reached] at hissue
  exact TicketAuthority.statement_eq_or_confused (separate_reached crypto config before)
    (proofs_reached crypto config _ _) hissue haccept

/-- A ticket that has expired is accepted from no request that shows a timeout, unless two different
messages have the same keyed hash. A request without a timeout shows the octets of the timeout as
part of what follows. -/
theorem policyTicket_of_expired {expiresAt : UInt64} {resetCount : UInt32} {session : Session}
    {replaying : Bytes} {q : PolicyTicketRequest} {done : EmptyResponse}
    (htimeout : answer.timeout.expiration? = some (expiresAt, resetCount))
    (hexpired :
      expiresAt < (reached crypto config (before ++ .command signing :: between)).env.clock.now ∨
        (reached crypto config (before ++ .command signing :: between)).env.clock.resetCount
          ≠ resetCount)
    (hlive : (reached crypto config (before ++ .command signing :: between)).state.sessions.get?
      q.policySession = some session)
    (hreal : session.isTrial = false) (hticket : q.ticket = answer.policyTicket)
    (hreplayed : completed? (reached crypto config (before ++ .command signing :: between))
      replaying = some ⟨.policyTicket, q, done⟩) :
    (q.timeout = .empty ∧
        q.cpHashA.bytes ++ q.policyRef.bytes ++ q.authName.bytes
          = answer.timeout.bytes ++ r.cpHashA.bytes ++ r.policyRef.bytes ++ key.name.bytes) ∨
      ∃ proof, (key.hierarchy, proof) ∈ (reached crypto config before).env.tickets.proofs ∧
        crypto.Confuses proof
          (be16 StructureTag.authSigned.code ++ q.claim.octets)
          (be16 StructureTag.authSigned.code ++ (r.claim answer.timeout key.name).octets) := by
  obtain ⟨hcheck, _, hoctets | hconfused⟩ :=
    octets_of_policyTicket hsigned hkey hreplayed hlive hreal hticket
  swap
  · exact .inr hconfused
  -- a timeout on the wire is empty or as long as the one that was given
  obtain ⟨hrequested, _⟩ := of_completed? hreplayed
  obtain ⟨_, _, _, _, hareas⟩ := requested?_eq_some_iff.mp hrequested
  rcases PolicyTicketRequest.timeout_of_ofAreas hareas with hempty | hlength
  · refine .inl ⟨hempty, ?_⟩
    rw [AuthClaim.octets, PolicyTicketRequest.claim, hempty] at hoctets
    exact hoctets
  · have hsize : answer.timeout.bytes.length = timeoutSize := by
      unfold Timeout.expiration? at htimeout
      split at htimeout
      · assumption
      · cases htimeout
    -- the same timeout, which has passed
    have hsame : q.timeout = answer.timeout :=
      AuthClaim.timeout_eq (r.claim answer.timeout key.name) q.claim (hlength.trans hsize.symm)
        hoctets
    rw [hsame] at hcheck
    obtain ⟨hreset, hnow⟩ := Timeout.check_eq_ok_iff.mp hcheck _ _ htimeout
    rcases hexpired with hpassed | hother
    · exact absurd hnow (UInt64.not_le.mpr hpassed)
    · exact absurd hreset hother

end

/-- A request that shows the ticket without a timeout, and the octets of the timeout in the place of
the cpHash. -/
def sampleUntimed : PolicyTicketRequest where
  policySession := 0x03000001
  timeout := .empty
  cpHashA := ⟨sampleAnswer.timeout.bytes⟩
  policyRef := .empty
  authName := sampleName
  ticket := sampleAnswer.policyTicket

def sampleReplaying : PlainCall .policyTicket where
  arguments := sampleUntimed

/-- The keyed hash is of one message, not of two. -/
theorem octets_sampleUntimed :
    sampleUntimed.claim.octets = (sampleSigned.claim sampleAnswer.timeout sampleName).octets := by
  decide +kernel

theorem completed?_sampleReplaying :
    completed? (sampleLater 1001) sampleReplaying.envelope
      = some ⟨.policyTicket, sampleUntimed, {}⟩ := by
  have hcheck : (sampleLater 1001).env.tickets.check sampleCrypto sampleAnswer.policyTicket
      sampleUntimed.claim.octets = .ok () := by
    rw [octets_sampleUntimed]
    exact TicketAuthority.check_eq_ok_iff.mpr ⟨by decide, sign_sample 1001 _⟩
  have hverify : (sampleLater 1001).env.tickets.verifyAuth sampleCrypto (sampleLater 1001).env.clock
      sampleAnswer.policyTicket sampleUntimed.claim = .ok () :=
    TicketAuthority.verifyAuth_eq_ok_iff.mpr ⟨.inl rfl, rfl, hcheck⟩
  have hchange : Policy.ticketChange (sampleLater 1001).env (sampleSession 0x03000001 1 1001 4)
      .empty sampleUntimed.cpHashA .empty sampleName sampleAnswer.policyTicket
        = .ok ⟨sampleDigest, none, none, none, none, some sampleAnswer.timeout.bytes⟩ :=
    Policy.ticketChange_eq_ok_iff.mpr
      ⟨.policySigned, rfl, _, rfl, fun _ => hverify, sampleDigest, update_sample, rfl⟩
  have happly : Policy.apply (sampleLater 1001).env (sampleSession 0x03000001 1 1001 4)
      sampleUntimed.assertion = .ok (_, .done) :=
    Policy.apply_eq_ok_iff.mpr ⟨rfl, _, hchange, rfl, by decide, rfl⟩
  have hlive : (sampleLater 1001).state.sessions.get? sampleUntimed.policySession
      = some (sampleSession 0x03000001 1 1001 3) := rfl
  obtain ⟨next, hperform, _⟩ := makePlainAssertion_of_apply hlive happly
  exact (sampleReplaying.completed?_of_perform (sampleLater 1001) rfl hperform (by decide)).1

/-- The run in which the ticket is shown without a timeout, a millisecond after it expired. -/
theorem policyTicket_of_expired_sample :
    1000 < (sampleLater 1001).env.clock.now ∧
      ((sampleUntimed.timeout = .empty ∧
          sampleUntimed.cpHashA.bytes ++ sampleUntimed.policyRef.bytes
              ++ sampleUntimed.authName.bytes
            = sampleAnswer.timeout.bytes ++ sampleSigned.cpHashA.bytes
              ++ sampleSigned.policyRef.bytes ++ sampleName.bytes) ∨
        ∃ proof, (Handle.owner, proof) ∈ sampleStarted.env.tickets.proofs ∧
          sampleCrypto.Confuses proof
            (be16 StructureTag.authSigned.code ++ sampleUntimed.claim.octets)
            (be16 StructureTag.authSigned.code
              ++ (sampleSigned.claim sampleAnswer.timeout sampleName).octets)) := by
  have hlater := reached_sampleLater (.inr rfl)
  have hsigned := completed?_sampleSigning.1
  have hreplayed := completed?_sampleReplaying
  have hkey : sampleStarted.env.objects.resolve sampleSigned.authObject = some sampleEntity := rfl
  have hlive : (sampleLater 1001).state.sessions.get? sampleUntimed.policySession
      = some (sampleSession 0x03000001 1 1001 3) := rfl
  have hexpired : 1000 < (sampleLater 1001).env.clock.now ∨
      (sampleLater 1001).env.clock.resetCount ≠ 0 := .inl (by decide)
  rw [← reached_sampleEvents] at hsigned hkey ⊢
  rw [← hlater] at hlive hexpired hreplayed ⊢
  refine ⟨hexpired.resolve_right (by rw [hlater]; decide), ?_⟩
  exact policyTicket_of_expired hsigned hkey
    (Timeout.expiration?_ofExpiration 1000 0) hexpired hlive rfl rfl hreplayed

/-- An expired ticket was accepted, although the message that the keyed hash is taken of is the one
that the ticket was issued over. -/
theorem expired_ticket_is_accepted :
    let issuer := reached sampleCrypto sampleConfig sampleEvents
    let later := reached sampleCrypto sampleConfig
      (sampleEvents ++ .command sampleSigning.envelope :: sampleBetween 1001)
    completed? issuer sampleSigning.envelope = some ⟨.policySigned, sampleSigned, sampleAnswer⟩ ∧
      sampleAnswer.policyTicket.tag = .authSigned ∧
      sampleAnswer.timeout.expiration? = some (1000, 0) ∧ later.env.clock = ⟨1001, 0⟩ ∧
      completed? later sampleReplaying.envelope = some ⟨.policyTicket, sampleUntimed, {}⟩ ∧
      sampleUntimed.ticket = sampleAnswer.policyTicket ∧
      (∃ session, later.state.sessions.get? sampleUntimed.policySession = some session ∧
        session.isTrial = false) ∧
      sampleUntimed.claim.octets = (sampleSigned.claim sampleAnswer.timeout sampleName).octets := by
  intro issuer later
  have hissuer : issuer = sampleStarted := reached_sampleEvents
  have hlater : later = sampleLater 1001 := reached_sampleLater (.inr rfl)
  rw [hissuer, hlater]
  exact ⟨completed?_sampleSigning.1, rfl, Timeout.expiration?_ofExpiration 1000 0, rfl,
    completed?_sampleReplaying, rfl, ⟨_, rfl, rfl⟩, octets_sampleUntimed⟩

end TrustedPlatform.Engine
