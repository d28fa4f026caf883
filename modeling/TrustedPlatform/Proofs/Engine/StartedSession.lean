import TrustedPlatform.Proofs.Engine.HandleAllotment
import TrustedPlatform.Proofs.Engine.SessionUse
import TrustedPlatform.Proofs.SessionTable.Recency

/-!
# Sessions that were just started

Whoever starts a session finds it under the handle of the answer, as it was asked for. Between its
start and the end of the command only the sessions of the authorization entries are used. These were
live before, and the handle of the new session was free; but a full table drops a session to make
room, and if the index of the next handle has come round to the handle of just this session, then an
entry that names it is taken for one of the new session. `session_of_start` says that nothing else
can come in between, and `session_is_there` that this takes `2 ^ 24` sessions.
-/

namespace TrustedPlatform

namespace Engine

variable {engine : Engine} {envelope : Bytes} {r : StartAuthSessionRequest}
  {answer : StartAuthSessionResponse}

/-- What the session of a request is made of. -/
def sessionParameters (env : Environment) (r : StartAuthSessionRequest)
    (answer : StartAuthSessionResponse) : SessionParameters where
  kind := r.kind
  hashAlg := r.authHash.alg
  boundEntity :=
    if r.bind = Handle.null then none else (env.objects.resolve r.bind).map (·.name)
  nonceCaller := r.nonceCaller.bytes
  nonceTpm := answer.nonceTpm.bytes
  startTime := env.clock.now

/-- The session of an entry was live when the command was accepted. -/
theorem Execution.contains_of_entry (e : Execution engine envelope) {entry : AuthCommand}
    (hentry : entry ∈ e.request.sessions) (hpassword : entry.sessionHandle ≠ Handle.password) :
    engine.state.sessions.contains entry.sessionHandle = true ∧
      Names engine envelope entry.sessionHandle := by
  obtain ⟨⟨command, count⟩, hcommand, hcut⟩ := Except.bind_eq_ok_iff.mp e.accept_eq
  obtain ⟨request, hsplit, hlive⟩ := Except.bind_eq_ok_iff.mp hcut
  obtain ⟨_, hrequire, hpure⟩ := Except.bind_eq_ok_iff.mp hlive
  obtain ⟨_, hrequest⟩ := Prod.mk.inj (Except.pure_eq_ok_iff.mp hpure)
  rw [hrequest] at hsplit hrequire
  refine ⟨?_, .entry e.parse_eq hcommand hsplit hentry rfl⟩
  by_contra hdead
  obtain ⟨fault, hfault, _⟩ :=
    requireLive_of_mem hentry hpassword (Bool.eq_false_iff.mpr hdead) 1
  cases hfault.symm.trans hrequire

/-- After a session was started, the handle of the answer names exactly the session that was asked
for; or the command itself named it by that handle, as a session that was then dropped from the full
table for the new one. -/
theorem session_of_start
    (h : completed? engine envelope = some ⟨.startAuthSession, r, answer⟩) :
    (∃ stamp, (engine.after (.command envelope)).state.sessions.get? answer.sessionHandle
      = some (.start answer.sessionHandle (sessionParameters engine.env r answer) stamp)) ∨
    engine.state.sessions.capacity ≤ engine.state.sessions.size ∧
      engine.state.sessions.leastRecent? = some answer.sessionHandle ∧
      Names engine envelope answer.sessionHandle := by
  obtain ⟨e, _, hperform, hafter⟩ := Execution.exists_of_completed? h
  obtain ⟨_, _, _, _, _, _, _, _, hstart, _⟩ := startAuthSession_eq_ok_iff.mp hperform
  obtain ⟨roomy, _, _, hsearch, hperformed⟩ := SessionTable.start_eq_ok_iff.mp hstart
  by_cases hunnamed : ∀ entry ∈ e.request.sessions, entry.sessionHandle ≠ answer.sessionHandle
  · -- no entry touches the new session
    refine .inl ⟨roomy.useClock + 1, ?_⟩
    rw [hafter, e.sessions_next, get?_uses_of_unnamed (e.forall_uses_iff.mpr hunnamed), hperformed]
    exact SessionTable.get?_insert_self _ _ _
  · -- the session that an entry names was live when the new one was started
    simp only [not_forall, not_not] at hunnamed
    obtain ⟨entry, hmem, hsame⟩ := hunnamed
    have hpassword : entry.sessionHandle ≠ Handle.password := by
      intro hpass
      obtain ⟨⟨i, hi⟩, _⟩ := SessionTable.of_freeHandle? hsearch
      have hkind := HandleKind.of?_handle (SessionTable.handleKind r.kind) i
      rw [← hi, ← hsame, hpass] at hkind
      cases hr : r.kind <;> rw [hr] at hkind <;> exact absurd hkind (by decide)
    obtain ⟨hlive, hnames⟩ := e.contains_of_entry hmem hpassword
    rw [hsame] at hlive hnames
    obtain ⟨hfull, hleast⟩ := SessionTable.leastRecent?_of_start hstart hlive
    exact .inr ⟨hfull, hleast, hnames⟩

/-- As long as fewer than `2 ^ 24` sessions were started, the handle of the answer names exactly the
session that was asked for, whatever entries came with the request. -/
theorem session_is_there {crypto : Crypto} {config : Config} {events : List Event}
    (h : completed? (reached crypto config events) envelope
      = some ⟨.startAuthSession, r, answer⟩)
    (hrange : (started crypto config events).length < 2 ^ 24) :
    ∃ stamp, (reached crypto config (events ++ [.command envelope])).state.sessions.get?
        answer.sessionHandle
      = some (.start answer.sessionHandle
        (sessionParameters (reached crypto config events).env r answer) stamp) := by
  rw [reached_concat]
  refine (session_of_start h).resolve_right ?_
  rintro ⟨_, hleast, _⟩
  have hstarted : startedBy? (reached crypto config events) (.command envelope)
      = some answer.sessionHandle := startedBy?_of_completed? h
  -- the handle was given to a session that is live, and is given again
  have hbefore := allotted_reached (Nat.le_of_lt hrange)
  have hmem : answer.sessionHandle ∈ started crypto config events :=
    hbefore.mem_of_contains _ (SessionTable.contains_of_leastRecent? hleast)
  have hallotted := allotted_after hbefore hrange (.command envelope)
  rw [hstarted, Option.toList_some] at hallotted
  have hdisjoint := List.disjoint_of_nodup_append hallotted.nodup
  exact hdisjoint hmem (List.mem_singleton_self _)

/-- An engine with room for one session, which drops it when another one is started. -/
def narrowConfig : Config := { crowdedConfig with maxSessions := 1 }

/-- The index of the next handle has come round to the one of the session. -/
def wrappedEngine : Engine :=
  let engine := reached (.standard fun draw size => List.replicate size (UInt8.ofNat draw))
    narrowConfig [.command (startRequest [])]
  { engine with state.sessions.nextIndex := 0x01000000 }

/-- The nonce of the answer, and the one that its session then has. -/
def wrappedNonces? : Option (Bytes × Bytes) :=
  match completed? wrappedEngine (startRequest [.policy 0x03000000]) with
  | some ⟨.startAuthSession, _, answer⟩ =>
    ((wrappedEngine.after (.command (startRequest [.policy 0x03000000]))).state.sessions.get?
      (StartAuthSessionResponse.sessionHandle answer)).map fun session =>
        ((StartAuthSessionResponse.nonceTpm answer).bytes, session.nonceTpm)
  | _ => none

/-- A new session may be taken for the one that was dropped for it, and then has another nonce than
the client was told. -/
theorem wrapped_session_disagrees :
    wrappedEngine.state.sessions.Sound 1 ∧
      ∃ r answer session,
        completed? wrappedEngine (startRequest [.policy 0x03000000])
          = some ⟨.startAuthSession, r, answer⟩ ∧
        (wrappedEngine.after (.command (startRequest [.policy 0x03000000]))).state.sessions.get?
          (StartAuthSessionResponse.sessionHandle answer) = some session ∧
        session.nonceTpm ≠ (StartAuthSessionResponse.nonceTpm answer).bytes := by
  refine ⟨?_, ?_⟩
  · -- the index has no part in what is true of the table
    obtain ⟨hcoherent, hcapacity⟩ := coherent_reached
      (.standard fun draw size => List.replicate size (UInt8.ofNat draw)) narrowConfig
      [.command (startRequest [])]
    have hsound := sound_of_coherent hcoherent
      ((sound_invariant fun _ _ => List.length_replicate).reached narrowConfig _)
    rw [hcapacity] at hsound
    exact ⟨hsound.size_le, hsound.nodup_handles, hsound.each, hsound.nodup_stamps, hsound.stamp_le⟩
  · have hnonces : wrappedNonces? = some (List.replicate 32 4, List.replicate 32 5) := by
      decide +kernel
    unfold wrappedNonces? at hnonces
    split at hnonces
    · rename_i r answer hdone
      obtain ⟨session, hlive, hpair⟩ := Option.map_eq_some_iff.mp hnonces
      obtain ⟨hdrawn, hnonce⟩ := Prod.mk.inj hpair
      refine ⟨r, answer, session, hdone, hlive, ?_⟩
      rw [hdrawn, hnonce]
      decide
    · cases hnonces

end Engine

end TrustedPlatform
