import TrustedPlatform.Proofs.Engine.SessionInvariant
import TrustedPlatform.Proofs.Policy.Trial
import TrustedPlatform.Proofs.SessionTable.Operation

/-!
# The live sessions of an engine

What is true of the session table in every state that an engine can get to: it is not overfull, its
stamps tell its sessions apart, and each session stands under its own handle, which shows its kind,
with a digest and a nonce as long as the digests of its hash.
-/

namespace TrustedPlatform

/-- What is true of a live session under a handle. -/
structure Session.Sound (handle : UInt32) (session : Session) : Prop where
  handle_eq : session.handle = handle
  /-- The most significant octet of the handle shows the kind. -/
  octet_eq : (handle >>> 24).toUInt8 =
    match session.kind with
    | .hmac => 0x02
    | .policy | .trial => 0x03
  /-- The hash is implemented, and the digest and the nonce are as long as its digests. -/
  lengths : ∃ hash : HashId, session.hashAlg = hash.alg ∧
    session.policy.digest.length = hash.digestSize ∧ session.nonceTpm.length = hash.digestSize

/-- What is true of the table of the live sessions, of which there may be `maxSessions`. -/
structure SessionTable.Sound (maxSessions : Nat) (table : SessionTable) : Prop where
  size_le : table.size ≤ maxSessions
  nodup_handles : table.handles.Nodup
  each : ∀ entry ∈ table.entries, entry.2.Sound entry.1
  nodup_stamps : (table.entries.map (·.2.lastUsed)).Nodup
  stamp_le : ∀ entry ∈ table.entries, entry.2.lastUsed ≤ table.useClock

namespace Engine

open SessionTable (Operation Reaches Coherent)

/-! ## What commands do to the table -/

variable {env : Environment} {state next : State}

theorem makeAssertion_reaches {handle : UInt32} {index : UInt8} {assertion : Assertion}
    {outcome : PolicyOutcome}
    (h : makeAssertion env handle index assertion state = .ok outcome next) :
    Reaches state.sessions next.sessions := by
  obtain ⟨session, touched, applied, htouch, happly, rfl⟩ := makeAssertion_eq_ok_iff.mp h
  have hlive := SessionTable.get?_of_touch htouch
  have hstamp : applied.lastUsed = session.lastUsed := by rw [Policy.apply_frame happly]
  exact .tail (.single (.touch htouch)) (.replace hlive hstamp)

theorem perform_reaches {done : Completed}
    (h : perform env done.command done.request state = .ok done.answer next) :
    Reaches state.sessions next.sessions := by
  cases Completed.effect_of_perform h with
  | started _ _ _ _ hstart => exact .single (.start hstart)
  | dropped _ _ hnext =>
    rw [hnext]
    exact .single (.erase _ _)
  | asserted _ _ hmake => exact makeAssertion_reaches hmake
  | kept _ _ hnext =>
    rw [hnext]

theorem useSession_reaches (table : SessionTable) (entry : AuthCommand) (answer : AuthResponse) :
    Reaches table (useSession table entry answer) := by
  rcases useSession_cases table entry answer with hnone | ⟨session, touched, htouch, hput | hdrop⟩
  · rw [hnone]
    exact .single (.tick table)
  · rw [hput]
    exact .tail (.single (.touch htouch)) (.replace (SessionTable.get?_of_touch htouch) rfl)
  · rw [hdrop]
    exact .tail (.single (.touch htouch)) (.erase touched _)

theorem useSessions_reaches (table : SessionTable) (entries : List AuthCommand)
    (answers : List AuthResponse) : Reaches table (useSessions table entries answers) := by
  unfold useSessions
  induction entries.zip answers generalizing table with
  | nil => exact .refl
  | cons use uses ih => exact (useSession_reaches table use.1 use.2).trans (ih _)

/-! ## Runs -/

theorem after_reaches (engine : Engine) (event : Event) :
    Reaches engine.state.sessions (engine.after event).state.sessions := by
  rcases after_cases engine event with ⟨envelope, response, rfl, hexecute⟩ | ⟨hsessions, _⟩
  · obtain ⟨_, performed, entries, answers, _, _, hperform, hafter⟩ :=
      completed_of_executeCommand hexecute
    rw [hafter]
    exact (perform_reaches hperform).trans (useSessions_reaches performed.sessions entries answers)
  · rw [hsessions]

theorem afterAll_reaches (engine : Engine) (events : List Event) :
    Reaches engine.state.sessions (engine.afterAll events).state.sessions := by
  refine afterAll_induct (Reaches engine.state.sessions ·.state.sessions)
    (fun other event h => ?_) .refl events
  exact h.trans (after_reaches other event)

theorem coherent_reached (crypto : Crypto) (config : Config) (events : List Event) :
    Coherent (reached crypto config events).state.sessions ∧
      (reached crypto config events).state.sessions.capacity = config.maxSessions := by
  have hnew : Coherent (Engine.new crypto config).state.sessions := .empty _ _
  exact hnew.reaches (afterAll_reaches (Engine.new crypto config) events)

/-! ## What is true of the sessions -/

/-- A coherent table is sound if each of its sessions is. -/
theorem sound_of_coherent {table : SessionTable} (hcoherent : Coherent table)
    (hsound : Holds Session.Sound table) : table.Sound table.capacity := by
  have hlive : ∀ entry ∈ table.entries, table.get? entry.1 = some entry.2 := fun _ hmem =>
    (SessionTable.get?_eq_some_iff_mem hcoherent.nodup_handles).mpr hmem
  refine ⟨hcoherent.size_le, hcoherent.nodup_handles, ?_, ?_, ?_⟩
  · intro entry hmem
    exact hsound entry.1 entry.2 (hlive entry hmem)
  · refine List.Nodup.map_on ?_ (.of_map _ hcoherent.nodup_handles)
    intro first hfirst second hsecond heq
    have hhandle := hcoherent.stamp_injective (hlive first hfirst) (hlive second hsecond) heq
    have hsession := (hlive first hfirst).symm.trans (hhandle ▸ hlive second hsecond)
    exact Prod.ext hhandle (Option.some.inj hsession)
  · intro entry hmem
    exact hcoherent.stamp_le (hlive entry hmem)

variable {crypto : Crypto}

/-- A session is sound from its start on, if draws are as long as they are asked to be. -/
theorem sound_invariant (hrandom : ∀ draw size, (crypto.random draw size).length = size) :
    SessionInvariant crypto Session.Sound where
  start {parameters table next handle hash draw} stamp hstart halg hnonce := by
    obtain ⟨roomy, nextIndex, _, hfree, _⟩ := SessionTable.start_eq_ok_iff.mp hstart
    obtain ⟨⟨i, rfl⟩, _⟩ := SessionTable.of_freeHandle? hfree
    refine ⟨rfl, ?_, hash, halg, ?_, ?_⟩
    · rw [HandleKind.octet_handle]
      show _ = match parameters.kind with | .hmac => _ | .policy | .trial => _
      cases parameters.kind <;> rfl
    · show (Bytes.zeros parameters.hashAlg.digestSize).length = _
      rw [Bytes.length_zeros, halg, HashId.digestSize_alg]
    · show parameters.nonceTpm.length = _
      rw [hnonce, hrandom]
  apply {env handle session next assertion outcome} _ h happly := by
    obtain ⟨_, change, _, _, hlength, rfl⟩ := Policy.apply_eq_ok_iff.mp happly
    obtain ⟨hash, halg, _, hnonce⟩ := h.lengths
    rw [halg, HashId.digestSize_alg] at hlength
    exact ⟨h.handle_eq, h.octet_eq, hash, halg, hlength, hnonce⟩
  touch _ h := ⟨h.handle_eq, h.octet_eq, h.lengths⟩
  use {handle session draw} _ _ h := by
    obtain ⟨hash, halg, hdigest, _⟩ := h.lengths
    refine ⟨h.handle_eq, h.octet_eq, hash, halg, hdigest, ?_⟩
    show (crypto.random draw session.hashAlg.digestSize).length = _
    rw [hrandom, halg, HashId.digestSize_alg]

/-- Whatever was sent to an engine and happened to it, its session table is sound. -/
theorem sessions_sound {config : Config} {events : List Event}
    (hrandom : ∀ draw size, (crypto.random draw size).length = size) :
    (reached crypto config events).state.sessions.Sound config.maxSessions := by
  obtain ⟨hcoherent, hcapacity⟩ := coherent_reached crypto config events
  rw [← hcapacity]
  exact sound_of_coherent hcoherent ((sound_invariant hrandom).reached config events)

/-- The nonce that the engine gave a session is as long as the digests of the session's hash, if
draws are as long as they are asked to be. -/
theorem length_nonceTpm {config : Config} {events : List Event}
    (hrandom : ∀ draw size, (crypto.random draw size).length = size) :
    Holds (fun _ session => session.nonceTpm.length = session.hashAlg.digestSize)
      (reached crypto config events).state.sessions := by
  intro handle session hlive
  have hsound := (sound_invariant hrandom).reached config events handle session hlive
  obtain ⟨hash, halg, _, hnonce⟩ := hsound.lengths
  rw [hnonce, halg, HashId.digestSize_alg]

/-- An engine with room for two sessions, which drops one when a third is started. -/
def crowdedConfig : Config where
  maxSessions := 2
  maxResponseSize := 4096
  evictWhenFull := true
  hierarchies := .standard
  proofSeed := []
  disabledCommands := []

/-- An assertion is made on a policy session, and an HMAC session is used with it. The trial session
that is started then takes the place of the policy session. -/
def crowdedEvents : List Event := [
  .command (startRequest []),
  .command (RequestBuilder.request .startAuthSession
    (StartAuthSessionRequest.unbound .hmac .sha384 (Bytes.zeros 16)) []),
  .command (RequestBuilder.request .policyPassword (⟨0x03000000⟩ : PolicyPasswordRequest)
    [.policy 0x02000001]),
  .command (RequestBuilder.request .startAuthSession
    (StartAuthSessionRequest.unbound .trial .sha512 (Bytes.zeros 16)) [])]

theorem sessions_sound_crowded :
    let crypto : Crypto := .standard fun _ size => Bytes.zeros size
    let table := (reached crypto crowdedConfig crowdedEvents).state.sessions
    (∀ draw size, (crypto.random draw size).length = size) ∧
      table.entries.map (fun entry => (entry.1, entry.2.lastUsed)) =
        [(0x02000001, 4), (0x03000002, 5)] ∧
      table.Sound crowdedConfig.maxSessions := by
  intro crypto table
  have hrandom : ∀ draw size, (crypto.random draw size).length = size := fun _ size =>
    Bytes.length_zeros size
  exact ⟨hrandom, by decide +kernel, sessions_sound hrandom⟩

end Engine

end TrustedPlatform
