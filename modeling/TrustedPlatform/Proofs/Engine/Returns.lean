import TrustedPlatform.Proofs.Engine.AuthTicket
import TrustedPlatform.Proofs.Engine.Promises
import TrustedPlatform.Proofs.Engine.SessionUse
import TrustedPlatform.Proofs.Engine.Unanswered
import TrustedPlatform.Proofs.Wire.Confined

/-!
# An engine returns

Whatever octets are sent to an engine, and whatever happened to it before, it returns a response:
no patch of a response reaches past its end, no PCR beyond the last is looked at, no digest has a
length that its session does not expect, and what is read of the octets lies within them. The use
clock of the sessions is at most four times the number of events.

One thing remains. The search for a free handle goes on forever if there is none, which takes a
table with room for more sessions than a range has handles, all of them in use.
-/

namespace TrustedPlatform

open Reader (Confined)

/-! ## Reading -/

/-- All that is read of the envelopes of a command is read within them, by the engine and by the
client. -/
structure Command.ReadWithin (command : Command) : Prop where
  requestHeader : ∀ total, Confined (RequestHeader.reader total)
  requestAreas : ∀ header handleCount, Confined (Request.reader header handleCount)
  requestEntry : Confined (Wire.read : Reader AuthCommand)
  request : ∀ handles, Confined (Layout.read command.Request handles)
  responseAreas : ∀ tag handleCount, Confined (Reply.areasReader tag handleCount)
  response : ∀ handles, Confined (Layout.read command.Response handles)
  responseEntries : ∀ limit,
    Confined (Reader.untilEnd (Wire.read : Reader AuthResponse) limit)

theorem Command.readWithin (command : Command) : command.ReadWithin where
  requestHeader := RequestHeader.confined_reader
  requestAreas := Request.confined_reader
  requestEntry := Wire.confined_read
  request := Layout.Confined.read
  responseAreas := Reply.confined_areasReader
  response := Layout.Confined.read
  responseEntries := .untilEnd Wire.confined_read

/-- The fields of the header of a response are there if the response is looked at. -/
theorem Reply.headerSize_le_of_parse {response : Bytes} {reply : Reply}
    (h : Reply.parse response = .ok reply) :
    headerSize ≤ response.length ∧ reply.body = response.drop headerSize := by
  unfold Reply.parse at h
  split at h
  · cases h
  · rename_i hlong
    dsimp only at h
    split at h
    · cases h
    · split at h
      · cases h
      · cases h
        exact ⟨Nat.le_of_not_lt hlong, rfl⟩

theorem P256.length_le_of_scalar? {octets : Bytes} {scalar : Nat}
    (h : P256.scalar? octets = some scalar) : octets.length ≤ P256.size := by
  unfold P256.scalar? at h
  split at h
  · assumption
  · cases h

namespace Engine

variable {env : Environment} {state next : State} {engine : Engine}

/-! ## The use clock -/

theorem useClock_of_touch {table touched : SessionTable} {handle : UInt32} {session : Session}
    (h : SessionTable.touch handle table = .ok session touched) :
    touched.useClock = table.useClock + 1 := by
  obtain ⟨_, _, _, rfl⟩ := SessionTable.touch_eq_ok_iff.mp h
  exact SessionTable.useClock_insert ..

theorem useClock_useSession (table : SessionTable) (entry : AuthCommand) (answer : AuthResponse) :
    (useSession table entry answer).useClock = table.useClock + 1 := by
  rcases useSession_cases table entry answer with hnone | ⟨session, touched, htouch, hput | hdrop⟩
  · rw [hnone]
  · rw [hput, SessionTable.useClock_insert, useClock_of_touch htouch]
  · rw [hdrop]
    show touched.useClock = _
    exact useClock_of_touch htouch

/-- Every entry is one use. -/
theorem useClock_uses {table : SessionTable} (uses : List (AuthCommand × AuthResponse)) :
    (uses.foldl (fun table use => useSession table use.1 use.2) table).useClock
      = table.useClock + uses.length := by
  induction uses generalizing table with
  | nil => rfl
  | cons use uses ih =>
    rw [List.foldl_cons, ih, useClock_useSession, List.length_cons, Nat.add_assoc, Nat.add_comm 1]

/-- A handler uses a session at most once. -/
theorem useClock_perform_le {done : Completed}
    (h : perform env done.command done.request state = .ok done.answer next) :
    next.sessions.useClock ≤ state.sessions.useClock + 1 := by
  cases Completed.effect_of_perform h with
  | started _ _ _ _ hstart =>
    obtain ⟨roomy, _, hroom, _, hnext⟩ := SessionTable.start_eq_ok_iff.mp hstart
    apply Nat.le_of_eq
    rw [hnext, SessionTable.useClock_insert, ← SessionTable.useClock_of_makeRoom hroom]
  | dropped _ _ hnext =>
    rw [hnext]
    exact Nat.le_succ _
  | asserted _ _ hmake =>
    obtain ⟨_, touched, _, htouch, _, rfl⟩ := makeAssertion_eq_ok_iff.mp hmake
    apply Nat.le_of_eq
    rw [SessionTable.useClock_insert, useClock_of_touch htouch]
  | kept _ _ hnext =>
    rw [hnext]
    exact Nat.le_succ _

/-- An event is at most four uses: one by the handler, and one by each of up to three entries. -/
theorem useClock_after_le (engine : Engine) (event : Event) :
    (engine.after event).state.sessions.useClock ≤ engine.state.sessions.useClock + 4 := by
  rcases after_cases engine event with ⟨envelope, response, rfl, hexecute⟩ | ⟨hsessions, _⟩
  · obtain ⟨e, _, hnext, _⟩ := Execution.exists_of_executeCommand hexecute
    obtain ⟨hlength, hmax, _⟩ := e.answers_cases
    let done : Completed := ⟨e.command, e.arguments, e.answer⟩
    have hdone : perform engine.env done.command done.request engine.state
        = .ok done.answer e.performed := e.perform_eq
    have hperform := useClock_perform_le hdone
    -- a request has up to three entries
    have huses : e.uses.length ≤ 3 := by
      rw [Execution.uses, List.length_zip, ← hlength, Nat.min_self]
      exact hmax
    rw [hnext, e.sessions_next, useClock_uses]
    omega
  · rw [hsessions]
    exact Nat.le_add_right _ 4

theorem useClock_afterAll_le (engine : Engine) (events : List Event) :
    (engine.afterAll events).state.sessions.useClock
      ≤ engine.state.sessions.useClock + 4 * events.length := by
  induction events generalizing engine with
  | nil => exact Nat.le_refl _
  | cons event events ih =>
    have hlater := ih (engine.after event)
    have hfirst := useClock_after_le engine event
    show ((engine.after event).afterAll events).state.sessions.useClock ≤ _
    rw [List.length_cons]
    omega

theorem useClock_reached_le (crypto : Crypto) (config : Config) (events : List Event) :
    (reached crypto config events).state.sessions.useClock ≤ 4 * events.length := by
  have hclock := useClock_afterAll_le (Engine.new crypto config) events
  have hnew : (Engine.new crypto config).state.sessions.useClock = 0 := rfl
  rw [hnew, Nat.zero_add] at hclock
  exact hclock

/-! ## Every envelope -/

/-- The envelope asks for a session for which the table has room, in a range of which every handle
is in use. -/
def WantsUsedUp (engine : Engine) (envelope : Bytes) : Prop :=
  ∃ r roomy, requested? engine envelope = some ⟨.startAuthSession, r⟩ ∧
    engine.state.sessions.makeRoom = .ok roomy ∧
    2 ^ 24 ≤ (roomy.liveIn (SessionTable.handleKind (StartAuthSessionRequest.kind r))).length

/-- A command that is not answered is refused by an envelope of its own, unless it ends in a
breach. -/
theorem execute_cases (engine : Engine) (envelope : Bytes) :
    (∃ response next, execute envelope engine = .ok response next) ∨
      ∃ breach stopped, execute envelope engine = .error breach stopped ∧
        executeCommand envelope engine = .error (.breach breach) stopped := by
  unfold execute
  cases executeCommand envelope engine with
  | ok response next => exact .inl ⟨response, next, rfl⟩
  | error stop stopped =>
    cases stop with
    | refused refusal => exact .inl ⟨_, stopped, rfl⟩
    | breach breach => exact .inr ⟨breach, stopped, rfl, rfl⟩

/-- A sound engine returns a response to every envelope, if a signed authorization that it asks for
does not expire beyond the end of the clock; only the search for a free handle may have no end. -/
theorem execute_of_sound (hsound : engine.Sound) {envelope : Bytes}
    (hexpires : ∀ r session, requested? engine envelope = some ⟨.policySigned, r⟩ →
      engine.state.sessions.get? (PolicySignedRequest.policySession r) = some session →
      session.startTime.toNat + Policy.lifetime (PolicySignedRequest.expiration r)
        < UInt64.size) :
    (∃ response next, execute envelope engine = .ok response next) ∨
      ∃ stopped, execute envelope engine = .error .handlesExhausted stopped ∧
        WantsUsedUp engine envelope := by
  rcases execute_cases engine envelope with hreturns | ⟨breach, stopped, hexecute, hcommand⟩
  · exact .inl hreturns
  · obtain ⟨command, r, _, hrequested, hvalid, hperform⟩ := perform_of_breach hcommand
    by_cases hstart : command = .startAuthSession
    · subst hstart
      obtain ⟨rfl, roomy, hroom, hused⟩ := startAuthSession_breaks _ _ _ hperform
      exact .inr ⟨stopped, hexecute, r, roomy, hrequested, hroom, hused⟩
    · -- the limits of the other commands are those of the clock
      have hlimits : WithinLimits engine.state.sessions command r := by
        cases command with
        | startAuthSession => exact absurd rfl hstart
        | policySigned => exact fun session hlive _ _ _ => hexpires r session hrequested hlive
        | _ => trivial
      exact (perform_keepsPromises hsound.env hvalid hlimits _ _ hperform).elim

/-- Whatever octets are sent to an engine with the standard cryptography, and whatever was sent to
it and happened to it before, it returns a response, if a signed authorization that they ask for
does not expire beyond the end of the clock. The use clock is far from its end; a piece that is read
is there in full, and readers get no further than to the end of the octets, also those of a client.
If the table has room for more sessions than a range has handles, and all of these are in use, the
search for another one has no end. -/
theorem execute_returns {random : Nat → Nat → Bytes} {config : Config} {events : List Event}
    {envelope : Bytes} (hrandom : ∀ draw size, (random draw size).length = size)
    (hexpires : ∀ r session,
      requested? (reached (.standard random) config events) envelope = some ⟨.policySigned, r⟩ →
      (reached (.standard random) config events).state.sessions.get?
        (PolicySignedRequest.policySession r) = some session →
      session.startTime.toNat + Policy.lifetime (PolicySignedRequest.expiration r)
        < UInt64.size) :
    let engine := reached (.standard random) config events
    ((∃ response next, execute envelope engine = .ok response next) ∨
      ∃ stopped, execute envelope engine = .error .handlesExhausted stopped ∧
        WantsUsedUp engine envelope ∧ 2 ^ 24 < config.maxSessions) ∧
      engine.state.sessions.useClock ≤ 4 * events.length ∧
      (∀ n input piece rest, Reader.take n input = .ok piece rest →
        piece.length = n ∧ input = piece ++ rest) ∧
      (∀ command : Command, command.ReadWithin) ∧
      (∀ response reply, Reply.parse response = .ok reply →
        headerSize ≤ response.length ∧ reply.body = response.drop headerSize) ∧
      ∀ octets scalar, P256.scalar? octets = some scalar → octets.length ≤ P256.size := by
  intro engine
  refine ⟨?_, useClock_reached_le _ config events,
    fun _ _ _ _ => Reader.take_eq_ok_iff.mp, Command.readWithin,
    fun _ _ => Reply.headerSize_le_of_parse, fun _ _ => P256.length_le_of_scalar?⟩
  have hsound : engine.Sound := sound_reached (Crypto.fixedLength_standard random) hrandom
  rcases execute_of_sound hsound hexpires with hreturns | ⟨stopped, hexecute, hwants⟩
  · exact .inl hreturns
  · obtain ⟨r, roomy, hrequested, hroom, hused⟩ := hwants
    obtain ⟨hcoherent, hcapacity⟩ := coherent_reached (.standard random) config events
    -- what is in use is in the table, and there is room for one more
    have hlive := SessionTable.length_liveIn_le roomy
      (SessionTable.handleKind (StartAuthSessionRequest.kind r))
    obtain ⟨_, hlt⟩ := SessionTable.of_makeRoom hcoherent.size_le hroom
    rw [hcapacity] at hlt
    exact .inr ⟨stopped, hexecute, ⟨r, roomy, hrequested, hroom, hused⟩, by omega⟩

/-- The authorization that the key signs for the session ends a second after the session started. -/
theorem execute_returns_sample :
    (∀ draw size, (sampleRandom draw size).length = size) ∧
      requested? (reached (.standard sampleRandom) sampleConfig sampleEvents)
        sampleSigning.envelope = some ⟨.policySigned, sampleSigned⟩ ∧
      ∃ response next, execute sampleSigning.envelope
        (reached (.standard sampleRandom) sampleConfig sampleEvents) = .ok response next := by
  have hreached : reached (.standard sampleRandom) sampleConfig sampleEvents = sampleStarted :=
    reached_sampleEvents
  have hrequested : requested? (reached (.standard sampleRandom) sampleConfig sampleEvents)
      sampleSigning.envelope = some ⟨.policySigned, sampleSigned⟩ := by
    rw [hreached]
    exact (of_completed? completed?_sampleSigning.1).1
  have hexpires : ∀ r session,
      requested? (reached (.standard sampleRandom) sampleConfig sampleEvents)
        sampleSigning.envelope = some ⟨.policySigned, r⟩ →
      (reached (.standard sampleRandom) sampleConfig sampleEvents).state.sessions.get?
        (PolicySignedRequest.policySession r) = some session →
      session.startTime.toNat + Policy.lifetime (PolicySignedRequest.expiration r)
        < UInt64.size := by
    intro r session hr hlive
    cases hrequested.symm.trans hr
    rw [hreached] at hlive
    cases hlive
    decide
  obtain ⟨hreturns | ⟨_, _, _, hroom⟩, _⟩ := execute_returns length_sampleRandom hexpires
  · exact ⟨length_sampleRandom, hrequested, hreturns⟩
  · exact absurd hroom (by decide)

/-- If every handle of a range is in use and there is room for one more session, the search for its
handle has no end, and the engine does not return. No authorization is asked for, and the use clock
is far from its end. -/
theorem search_has_no_end :
    let engine := reached (.standard sampleRandom) wideConfig (startEvents (2 ^ 24))
    (∀ draw size, (sampleRandom draw size).length = size) ∧
      requested? engine (startRequest [])
        = some ⟨.startAuthSession, .unbound .policy .sha256 (Bytes.zeros 16)⟩ ∧
      engine.state.sessions.useClock < 2 ^ 64 ∧
      (∀ index turns handle nextIndex,
        ¬engine.state.sessions.Searches .policySession index turns handle nextIndex) ∧
      ¬∃ response next, execute (startRequest []) engine = .ok response next := by
  -- the run is too long to be looked at
  obtain ⟨n, hn⟩ : ∃ n, n = 2 ^ 24 := ⟨_, rfl⟩
  rw [← hn]
  intro engine
  have hcommand : commandFor engine.env.commands CommandCode.startAuthSession.code
      = .ok (.startAuthSession, Command.startAuthSession.handleCount) := by
    rw [commands_reached]
    rfl
  have hclock : engine.state.sessions.useClock ≤ 4 * n := by
    have hle := useClock_reached_le (.standard sampleRandom) wideConfig (startEvents n)
    rw [startEvents, List.length_replicate] at hle
    exact hle
  obtain ⟨hfilled, halted, hexecute⟩ := execute_startRequest_wide hn
  refine ⟨length_sampleRandom, startCall.requested?_eq hcommand, by omega,
    fun _ _ _ _ => hfilled.not_searches, ?_⟩
  rintro ⟨response, next, hreturns⟩
  cases hexecute.symm.trans hreturns

end Engine

end TrustedPlatform
