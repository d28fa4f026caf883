import TrustedPlatform.Proofs.Engine.AuthTicket
import TrustedPlatform.Proofs.Engine.HandleAllotment

/-!
# How long a ticket lives

The instant at which a ticket of PolicySigned expires is counted from the start of the session, and
not from the moment at which the ticket is given. If the session started at a reading of the clock
that lies behind, this makes the life of the ticket shorter. But a session outlives a reset of the
clock together with its start, which then lies ahead; the time since the start is taken to be zero,
and the ticket that is given carries the count of the new reset. So it can be shown for longer than
was signed: `ticket_lifetime` says for how long, and that for sessions that were started since the
clock last went back it is no longer than was signed.
-/

namespace TrustedPlatform.Engine

/-! ## Runs in which the clock does not go back -/

/-- Only the events that are about the clock change it. -/
theorem clock_after (engine : Engine) (event : Event) :
    (engine.after event).env.clock =
      match event with
      | .setClock millis => engine.env.clock.set millis
      | .advanceClock millis => engine.env.clock.advance millis
      | .resetClock => engine.env.clock.reset
      | _ => engine.env.clock := by
  cases event with
  | command envelope => rw [after_command_eq]
  | extendPcr index data => rw [after_extendPcr_eq]; rfl
  | _ => rfl

/-- While these events happen, the clock of the engine never goes back. -/
def ClockForward (engine : Engine) : List Event → Prop
  | [] => True
  | event :: events =>
    engine.env.clock.now ≤ (engine.after event).env.clock.now ∧
      ClockForward (engine.after event) events

/-- The milliseconds by which an event moves the clock on. -/
def Event.elapsed : Event → Nat
  | .advanceClock millis => millis.toNat
  | _ => 0

/-- The milliseconds by which events move the clock on. -/
def elapsedIn : List Event → Nat
  | [] => 0
  | event :: events => event.elapsed + elapsedIn events

/-- The event moves the clock on or leaves it. -/
def Event.advances : Event → Bool
  | .setClock _ | .resetClock => false
  | _ => true

theorem toNat_now_after {engine : Engine} {event : Event} (hadvances : event.advances = true)
    (hfits : engine.env.clock.now.toNat + event.elapsed < 2 ^ 64) :
    (engine.after event).env.clock.now.toNat = engine.env.clock.now.toNat + event.elapsed := by
  rw [clock_after]
  cases event with
  | setClock millis => cases hadvances
  | resetClock => cases hadvances
  | advanceClock millis =>
    show (engine.env.clock.now + millis).toNat = _
    rw [UInt64.toNat_add]
    exact Nat.mod_eq_of_lt hfits
  | _ => rfl

/-- A clock that is only advanced does not go back before it has run through its range. -/
theorem clockForward_of_advances {engine : Engine} {events : List Event}
    (hadvances : ∀ event ∈ events, event.advances = true)
    (hfits : engine.env.clock.now.toNat + elapsedIn events < 2 ^ 64) :
    ClockForward engine events := by
  induction events generalizing engine with
  | nil => trivial
  | cons event events ih =>
    obtain ⟨hfirst, hothers⟩ := List.forall_mem_cons.mp hadvances
    rw [elapsedIn, ← Nat.add_assoc] at hfits
    have hnow : (engine.after event).env.clock.now.toNat
        = engine.env.clock.now.toNat + event.elapsed := toNat_now_after hfirst (by omega)
    refine ⟨?_, ih hothers (by omega)⟩
    rw [UInt64.le_iff_toNat_le]
    omega

/-! ## When sessions were started -/

/-- If the session is under one of these handles, it was not started later than `now`. -/
def StartedBy (handles : List UInt32) (now : UInt64) (handle : UInt32) (session : Session) : Prop :=
  handle ∈ handles → session.startTime ≤ now

/-- Nothing moves the start of a session. -/
theorem startedBy_stable (crypto : Crypto) (handles : List UInt32) (now : UInt64) :
    SessionStable crypto (StartedBy handles now) where
  apply {env handle session next assertion outcome} _ h happly hmem := by
    rw [Policy.apply_frame happly]
    exact h hmem
  touch _ h := h
  use _ _ h := h

variable {engine : Engine} {handles : List UInt32} {handle : UInt32} {session : Session}

/-- After a command, the sessions are those of before and possibly one that starts now. -/
theorem startedBy_command {envelope response : Bytes}
    (h : Holds (StartedBy handles engine.env.clock.now) engine.state.sessions)
    (hexecute : executeCommand envelope engine
      = .ok response (engine.after (.command envelope))) :
    Holds (StartedBy (handles ++ (startedBy? engine (.command envelope)).toList)
      engine.env.clock.now) (engine.after (.command envelope)).state.sessions := by
  have hstable := startedBy_stable engine.env.crypto
    (handles ++ (startedBy? engine (.command envelope)).toList) engine.env.clock.now
  obtain ⟨done, performed, hdone, hperform, hafter⟩ := hstable.after_command rfl hexecute
  -- the use of the entries keeps what the handler left
  apply hafter
  rw [startedBy?_of_completed? hdone] at hstable ⊢
  cases hstarted : done.started? with
  | none =>
    rw [Option.toList_none, List.append_nil]
    exact (startedBy_stable engine.env.crypto _ _).perform rfl h hperform hstarted
  | some new =>
    cases Completed.effect_of_perform hperform with
    | started hsome _ _ _ hstart htime =>
      cases hstarted.symm.trans hsome
      -- a session that was there is under one of the handles from before
      have hothers : Holds (fun other session => other ≠ new →
          StartedBy (handles ++ [new]) engine.env.clock.now other session)
          engine.state.sessions := by
        intro other session hlive hother hmem
        apply h other session hlive
        simpa [hother] using hmem
      apply Holds.start hothers hstart
      intro stamp _
      show _ ≤ engine.env.clock.now
      exact UInt64.le_of_eq htime
    | dropped hnone => cases hstarted.symm.trans hnone
    | asserted hnone => cases hstarted.symm.trans hnone
    | kept hnone => cases hstarted.symm.trans hnone

theorem startedBy_after (h : Holds (StartedBy handles engine.env.clock.now) engine.state.sessions)
    (event : Event) (hforward : engine.env.clock.now ≤ (engine.after event).env.clock.now) :
    Holds (StartedBy (handles ++ (startedBy? engine event).toList)
      (engine.after event).env.clock.now) (engine.after event).state.sessions := by
  have hnow : Holds (StartedBy (handles ++ (startedBy? engine event).toList) engine.env.clock.now)
      (engine.after event).state.sessions := by
    rcases after_cases engine event with ⟨envelope, response, rfl, hexecute⟩ | ⟨hsessions, hnone⟩
    · exact startedBy_command h hexecute
    · rw [hsessions, startedBy?_eq_none hnone, Option.toList_none, List.append_nil]
      exact h
  intro handle session hlive hmem
  exact UInt64.le_trans (hnow handle session hlive hmem) hforward

theorem startedBy_afterAll
    (h : Holds (StartedBy handles engine.env.clock.now) engine.state.sessions)
    (events : List Event) (hforward : ClockForward engine events) :
    Holds (StartedBy (handles ++ startedIn engine events)
      (engine.afterAll events).env.clock.now) (engine.afterAll events).state.sessions := by
  -- on the events, with the handles of those that have happened already
  induction events generalizing engine handles with
  | nil =>
    rw [startedIn, List.append_nil]
    exact h
  | cons event events ih =>
    rw [startedIn, ← List.append_assoc]
    exact ih (startedBy_after h event hforward.1) hforward.2

/-- Unless the clock goes back, no session that is started lies ahead of it. -/
theorem startTime_le {events : List Event} (hforward : ClockForward engine events)
    (hstarted : handle ∈ startedIn engine events)
    (hlive : (engine.afterAll events).state.sessions.get? handle = some session) :
    session.startTime ≤ (engine.afterAll events).env.clock.now := by
  have hnone : Holds (StartedBy [] engine.env.clock.now) engine.state.sessions := by
    intro _ _ _ hmem
    cases hmem
  exact startedBy_afterAll hnone events hforward handle session hlive hstarted

/-! ## The theorem -/

/-- What a ticket of PolicySigned says of its life. -/
theorem expiration_of_policySigned {signing : Bytes} {r : PolicySignedRequest}
    {answer : PolicySignedResponse}
    (hsigned : completed? engine signing = some ⟨.policySigned, r, answer⟩)
    (hnull : answer.policyTicket.isNull = false) :
    ∃ session expiresAt,
      engine.state.sessions.get? r.policySession = some session ∧ r.expiration < 0 ∧
      answer.timeout.expiration? = some (expiresAt, engine.env.clock.resetCount) ∧
      expiresAt.toNat = session.startTime.toNat + Policy.lifetime r.expiration := by
  obtain ⟨key, hkey⟩ := key_of_policySigned hsigned
  obtain ⟨session, applied, hlive, happly, _⟩ := apply_of_policySigned hsigned hkey
  obtain ⟨_, hnegative, _⟩ := Policy.timed_of_apply hnull happly
  obtain ⟨hfits, htimeout, _⟩ := Policy.issueAuth_of_apply hnull happly
  refine ⟨session, UInt64.ofNat (session.startTime.toNat + Policy.lifetime r.expiration), hlive,
    hnegative, ?_, ?_⟩
  · rw [htimeout]
    exact Timeout.expiration?_ofExpiration _ _
  · -- a ticket is given only if the instant fits
    exact UInt64.toNat_ofNat_of_lt' hfits

/-- A ticket is given with the count of the present reset, and expires when the time that was signed
has passed since the start of the session. That is no later than the time that was signed from now
exactly if the start does not lie ahead of the clock, as it does not if the session was started
since the clock last went back. Whoever shows the ticket with its timeout does so before it
expires. -/
theorem ticket_lifetime {crypto : Crypto} {config : Config} {before : List Event} {signing : Bytes}
    {r : PolicySignedRequest} {answer : PolicySignedResponse}
    (hsigned : completed? (reached crypto config before) signing = some ⟨.policySigned, r, answer⟩)
    (hnull : answer.policyTicket.isNull = false) :
    let issuer := reached crypto config before
    ∃ session expiresAt,
      issuer.state.sessions.get? r.policySession = some session ∧ r.expiration < 0 ∧
      answer.timeout.expiration? = some (expiresAt, issuer.env.clock.resetCount) ∧
      expiresAt.toNat = session.startTime.toNat + Policy.lifetime r.expiration ∧
      (expiresAt.toNat ≤ issuer.env.clock.now.toNat + Policy.lifetime r.expiration ↔
        session.startTime ≤ issuer.env.clock.now) ∧
      (∀ earlier recent, before = earlier ++ recent →
        ClockForward (reached crypto config earlier) recent →
        r.policySession ∈ startedIn (reached crypto config earlier) recent →
        expiresAt.toNat ≤ issuer.env.clock.now.toNat + Policy.lifetime r.expiration) ∧
      ∀ between replaying q done other,
        let later := reached crypto config (before ++ .command signing :: between)
        completed? later replaying = some ⟨.policyTicket, q, done⟩ →
        later.state.sessions.get? (PolicyTicketRequest.policySession q) = some other →
        other.isTrial = false → q.timeout = answer.timeout →
        later.env.clock.resetCount = issuer.env.clock.resetCount ∧
          later.env.clock.now ≤ expiresAt := by
  intro issuer
  obtain ⟨session, expiresAt, hlive, hnegative, hexpiration, hexpiresAt⟩ :=
    expiration_of_policySigned hsigned hnull
  have hbound : expiresAt.toNat ≤ issuer.env.clock.now.toNat + Policy.lifetime r.expiration ↔
      session.startTime ≤ issuer.env.clock.now := by
    rw [hexpiresAt, Nat.add_le_add_iff_right]
    exact UInt64.le_iff_toNat_le.symm
  refine ⟨session, expiresAt, hlive, hnegative, hexpiration, hexpiresAt, hbound, ?_, ?_⟩
  · intro earlier recent hsplit hforward hstarted
    apply hbound.mpr
    show session.startTime ≤ (reached crypto config before).env.clock.now
    rw [hsplit, reached_append] at hlive ⊢
    exact startTime_le hforward hstarted hlive
  · intro between replaying q done other later hreplayed hother hreal hsame
    have hverified := verifyAuth_of_policyTicket hreplayed hother hreal
    obtain ⟨_, hcheck, _⟩ := TicketAuthority.verifyAuth_eq_ok_iff.mp hverified
    -- the timeout that was checked is the one of the ticket
    have htimely : answer.timeout.check later.env.clock = .ok () := by
      rw [← hsame]
      exact hcheck
    exact Timeout.check_eq_ok_iff.mp htimely _ _ hexpiration

/-- The clock does not move before the key signs, and the ticket lives for a second from then. -/
theorem ticket_lifetime_sample :
    completed? sampleStarted sampleSigning.envelope
        = some ⟨.policySigned, sampleSigned, sampleAnswer⟩ ∧
      sampleAnswer.policyTicket.isNull = false ∧
      ∃ expiresAt, sampleAnswer.timeout.expiration? = some (expiresAt, 0) ∧
        expiresAt.toNat ≤ 1000 := by
  have hsigned := completed?_sampleSigning.1
  have hnull : sampleAnswer.policyTicket.isNull = false := by decide
  have hforward : ClockForward (reached sampleCrypto sampleConfig []) sampleEvents :=
    clockForward_of_advances (by decide) (by decide)
  have hstarted : sampleSigned.policySession
      ∈ startedIn (reached sampleCrypto sampleConfig []) sampleEvents := by
    -- it is live, and there was no session before
    have hlive : (reached sampleCrypto sampleConfig sampleEvents).state.sessions.contains
        sampleSigned.policySession = true := by
      rw [reached_sampleEvents]
      rfl
    exact (contains_afterAll hlive).resolve_left (by decide)
  refine ⟨hsigned, hnull, ?_⟩
  rw [← reached_sampleEvents] at hsigned
  obtain ⟨_, expiresAt, _, _, hexpiration, _, _, hbound, _⟩ := ticket_lifetime hsigned hnull
  have hlifetime := hbound [] sampleEvents rfl hforward hstarted
  rw [reached_sampleEvents] at hexpiration hlifetime
  exact ⟨expiresAt, hexpiration, hlifetime⟩

/-! ### A session that outlives a reset -/

/-- The clock reads five seconds when the session is started, and is reset then. -/
def staleEvents : List Event :=
  [.loadKey sampleKey Handle.owner]
    ++ [.advanceClock 5000, .command (startRequest []), .resetClock]

/-- The clock starts again, and the session lies five seconds ahead of it. -/
def staleEngine : Engine :=
  (sampleEngine 5000
    ⟨⟨[(0x03000000, sampleSession 0x03000000 0 5000 1)], 64, false, 1, 1⟩, 1⟩).withClock Clock.reset

theorem reached_staleEvents : reached sampleCrypto sampleConfig staleEvents = staleEngine := by
  have hstate : ((sampleEngine 5000 ⟨.empty 64 false, 0⟩).after (.command (startRequest []))).state
      = staleEngine.state := by decide +kernel
  rw [staleEvents, reached_append, reached_loadKey_sample]
  show (((sampleEngine 5000 ⟨.empty 64 false, 0⟩).after (.command (startRequest []))).after
    .resetClock) = _
  rw [after_command_eq, hstate]
  rfl

/-- The authorization is for a second, and the ticket expires after six. -/
def staleAnswer : PolicySignedResponse where
  timeout := .ofExpiration 6000 1
  policyTicket := ⟨.authSigned, Handle.owner,
    ⟨Bytes.ofNat 32 0x8578b9368f6f2e54636fd0945b9dac099c092c4d00bf69eb4b31e787c608072c⟩⟩

theorem sign_stale :
    staleEngine.env.tickets.sign sampleCrypto Handle.owner .authSigned
      (sampleSigned.claim staleAnswer.timeout sampleName).octets
      = .ok staleAnswer.policyTicket.digest.bytes := by
  have hmac : staleAnswer.policyTicket.digest.bytes = sampleCrypto.hmac .sha256 sampleProof
      (be16 StructureTag.authSigned.code
        ++ (sampleSigned.claim staleAnswer.timeout sampleName).octets) := by decide +kernel
  exact TicketAuthority.sign_eq_ok_iff.mpr ⟨sampleProof, rfl, hmac⟩

theorem completed?_stale :
    completed? staleEngine sampleSigning.envelope
      = some ⟨.policySigned, sampleSigned, staleAnswer⟩ := by
  have hlive : staleEngine.state.sessions.get? sampleSigned.policySession
      = some (sampleSession 0x03000000 0 5000 1) := rfl
  -- no time has passed since a start that lies ahead
  have hfresh : Policy.checkFreshness staleEngine.env.clock (sampleSession 0x03000000 0 5000 2)
      sampleSigned.nonceTpm sampleSigned.expiration = .ok () := by decide +kernel
  have hissue : staleEngine.env.tickets.issueAuth sampleCrypto .authSigned Handle.owner
      (sampleSigned.claim staleAnswer.timeout sampleName) = .ok staleAnswer.policyTicket :=
    (TicketAuthority.issue_eq_ok_iff_of_not_null (by decide)).mpr ⟨rfl, rfl, sign_stale⟩
  have happly : Policy.apply staleEngine.env (sampleSession 0x03000000 0 5000 2)
      (sampleSigned.assertion sampleEntity)
        = .ok (_, .signed staleAnswer.timeout staleAnswer.policyTicket) :=
    apply_sampleSigned_of rfl rfl rfl rfl hfresh (by decide) rfl hissue
  obtain ⟨next, hperform, _⟩ := policySigned_of_apply sampleSigned staleAnswer
    (show staleEngine.env.objects.resolve sampleSigned.authObject = some sampleEntity from rfl)
    hlive happly
  exact (sampleSigning.completed?_of_perform staleEngine rfl hperform (by decide)).1

/-- A ticket of an authorization for one second is good for six seconds. -/
theorem ticket_outlives_authorization :
    let issuer := reached sampleCrypto sampleConfig staleEvents
    completed? issuer sampleSigning.envelope = some ⟨.policySigned, sampleSigned, staleAnswer⟩ ∧
      staleAnswer.policyTicket.isNull = false ∧ issuer.env.clock = ⟨0, 1⟩ ∧
      Policy.lifetime sampleSigned.expiration = 1000 ∧
      staleAnswer.timeout.expiration? = some (6000, 1) ∧
      ¬(6000 : UInt64).toNat
        ≤ issuer.env.clock.now.toNat + Policy.lifetime sampleSigned.expiration := by
  intro issuer
  have hissuer : issuer = staleEngine := reached_staleEvents
  rw [hissuer]
  exact ⟨completed?_stale, by decide, rfl, rfl, Timeout.expiration?_ofExpiration 6000 1, by decide⟩

end TrustedPlatform.Engine
