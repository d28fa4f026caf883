import TrustedPlatform.Proofs.Engine.StartedSession

/-!
# Which session makes room

When a session is started in a full table, the one that was used last at the earliest time makes
room for it. `used` lists the uses of a run: a session is used by the handler that starts it or
makes an assertion on it, and then by every authorization entry that names it. A command that is
refused uses no session, and neither does looking at a policy digest.
-/

namespace TrustedPlatform.Engine

open SessionTable (Coherent Follows IsLeastRecent SameSessions)

variable {env : Environment} {state next : State} {engine : Engine} {envelope : Bytes}
  {uses : List UInt32}

/-! ## The uses of a run -/

/-- The handle of the session that the handler used: the one that it started, or the one that it
made an assertion on. -/
def Completed.used? (done : Completed) (env : Environment) : Option UInt32 :=
  done.started?.or ((done.asserted? env).map (·.1))

/-- The handles of the authorization entries of an envelope, in order. -/
def entryHandles (engine : Engine) (envelope : Bytes) : List UInt32 :=
  let request? := do
    let header ← (RequestHeader.parse envelope).toOption
    let (_, request) ← (accept engine.env engine.state.sessions header envelope).toOption
    return request
  (request?.map fun request => request.sessions.map (·.sessionHandle)).getD []

/-- The handles of the sessions that an event uses: first the one that the handler used, then those
of the entries. -/
def usedBy (engine : Engine) : Event → List UInt32
  | .command envelope =>
    match completed? engine envelope with
    | some done => (done.used? engine.env).toList ++ entryHandles engine envelope
    | none => []
  | _ => []

/-- The handles of the sessions that the events use, in the order of the uses. -/
def usedIn (engine : Engine) : List Event → List UInt32
  | [] => []
  | event :: events => usedBy engine event ++ usedIn (engine.after event) events

/-- The handles of the sessions that were used since the engine was new, in the order of the
uses. -/
def used (crypto : Crypto) (config : Config) (events : List Event) : List UInt32 :=
  usedIn (Engine.new crypto config) events

theorem Execution.entryHandles_eq (e : Execution engine envelope) :
    entryHandles engine envelope = e.request.sessions.map (·.sessionHandle) := by
  unfold entryHandles
  rw [e.parse_eq]
  simp [Except.toOption, e.accept_eq]

theorem usedBy_eq_nil {event : Event}
    (h : ∀ envelope, event = .command envelope → completed? engine envelope = none) :
    usedBy engine event = [] := by
  cases event with
  | command envelope => rw [usedBy, h envelope rfl]
  | _ => rfl

/-! ## The stamps follow the uses -/

theorem follows_perform {done : Completed} (h : Follows uses state.sessions)
    (hcoherent : Coherent state.sessions)
    (hperform : perform env done.command done.request state = .ok done.answer next) :
    Follows (uses ++ (done.used? env).toList) next.sessions := by
  unfold Completed.used?
  cases Completed.effect_of_perform hperform with
  | @started _ handle _ hstarted _ _ _ hstart =>
    obtain ⟨roomy, nextIndex, hroom, _, hnext⟩ := SessionTable.start_eq_ok_iff.mp hstart
    rw [hstarted]
    refine h.use hcoherent handle (fun other found hother hlive => ?_) (fun session hlive => ?_)
    · rw [hnext, SessionTable.get?_insert, if_neg hother] at hlive
      exact SessionTable.get?_of_makeRoom hroom hlive
    · rw [hnext, SessionTable.get?_insert_self] at hlive
      cases hlive
      show _ < roomy.useClock + 1
      rw [SessionTable.useClock_of_makeRoom hroom]
      exact Nat.lt_succ_self _
  | dropped hstarted hasserted hnext =>
    rw [hstarted, hasserted, hnext]
    simp only [Option.map_none, Option.or_none, Option.toList_none, List.append_nil]
    exact h.drop fun _ _ => SessionTable.get?_of_get?_erase
  | @asserted handle _ _ hstarted hasserted hmake =>
    obtain ⟨session, touched, applied, htouch, happly, rfl⟩ := makeAssertion_eq_ok_iff.mp hmake
    obtain ⟨old, _, rfl, rfl⟩ := SessionTable.touch_eq_ok_iff.mp htouch
    rw [hstarted, hasserted]
    refine h.use hcoherent handle (fun other found hother hlive => ?_) (fun session hlive => ?_)
    · rw [SessionTable.get?_insert, if_neg hother, SessionTable.get?_insert, if_neg hother] at hlive
      exact hlive
    · rw [SessionTable.get?_insert_self] at hlive
      cases hlive
      -- an assertion changes nothing but the policy of the session
      rw [Policy.apply_frame happly]
      exact Nat.lt_succ_self _
  | kept hstarted hasserted hnext =>
    rw [hstarted, hasserted, hnext]
    simp only [Option.map_none, Option.or_none, Option.toList_none, List.append_nil]
    exact h

theorem follows_useSession {table : SessionTable} (h : Follows uses table)
    (hcoherent : Coherent table) (entry : AuthCommand) (answer : AuthResponse) :
    Follows (uses ++ [entry.sessionHandle]) (useSession table entry answer) := by
  refine h.use hcoherent _ (fun other found hother hlive => ?_) (fun session hlive => ?_)
  · rw [get?_useSession, if_neg hother] at hlive
    exact hlive
  · rw [get?_useSession, if_pos rfl] at hlive
    split at hlive
    · obtain ⟨old, _, rfl⟩ := Option.map_eq_some_iff.mp hlive
      exact Nat.lt_succ_self _
    · cases hlive

theorem follows_uses {table : SessionTable} (h : Follows uses table) (hcoherent : Coherent table)
    (pairs : List (AuthCommand × AuthResponse)) :
    Follows (uses ++ pairs.map (·.1.sessionHandle))
      (pairs.foldl (fun table use => useSession table use.1 use.2) table) := by
  induction pairs generalizing uses table with
  | nil =>
    rw [List.map_nil, List.append_nil]
    exact h
  | cons pair pairs ih =>
    have hnext := (hcoherent.reaches (useSession_reaches table pair.1 pair.2)).1
    have hothers := ih (follows_useSession h hcoherent pair.1 pair.2) hnext
    rw [List.append_assoc] at hothers
    exact hothers

theorem follows_after (h : Follows uses engine.state.sessions)
    (hcoherent : Coherent engine.state.sessions) (event : Event) :
    Follows (uses ++ usedBy engine event) (engine.after event).state.sessions := by
  rcases after_cases engine event with ⟨envelope, response, rfl, hexecute⟩ | ⟨hsessions, hnone⟩
  · obtain ⟨e, _, hnext, _⟩ := Execution.exists_of_executeCommand hexecute
    have hperformed := follows_perform h hcoherent e.perform_done
    have hmiddle := (hcoherent.reaches (perform_reaches e.perform_done)).1
    -- first the handler, then the entries
    have hused := follows_uses hperformed hmiddle e.uses
    have hentries : e.uses.map (·.1.sessionHandle) = entryHandles engine envelope := by
      rw [e.entryHandles_eq, ← e.map_fst_uses, List.map_map]
      rfl
    rw [usedBy, e.completed?_eq hexecute, hnext, e.sessions_next, ← List.append_assoc, ← hentries]
    exact hused
  · rw [usedBy_eq_nil hnone, List.append_nil, hsessions]
    exact h

theorem follows_afterAll (h : Follows uses engine.state.sessions)
    (hcoherent : Coherent engine.state.sessions) (events : List Event) :
    Follows (uses ++ usedIn engine events) (engine.afterAll events).state.sessions := by
  induction events generalizing uses engine with
  | nil =>
    rw [usedIn, List.append_nil]
    exact h
  | cons event events ih =>
    have hnext := (hcoherent.reaches (after_reaches engine event)).1
    rw [usedIn, ← List.append_assoc]
    exact ih (follows_after h hcoherent event) hnext

theorem follows_reached (crypto : Crypto) (config : Config) (events : List Event) :
    Follows (used crypto config events) (reached crypto config events).state.sessions := by
  have hnew : Follows [] (Engine.new crypto config).state.sessions := .empty _ _
  exact follows_afterAll hnew (.empty _ _) events

/-! ## The theorem -/

/-- A session that is started takes the same place in whatever order the table lists the others. -/
theorem startAuthSession_of_sameSessions {r : StartAuthSessionRequest}
    {answer : StartAuthSessionResponse} {table : SessionTable}
    (hcoherent : Coherent state.sessions) (hsame : state.sessions.SameSessions table)
    (h : perform env .startAuthSession r state = .ok answer next) :
    ∃ table', perform env .startAuthSession r { state with sessions := table }
        = .ok answer { next with sessions := table' } ∧
      next.sessions.SameSessions table' := by
  obtain ⟨hkey, hsalt, hbind, hash, halg, hmin, hmax, hnonce, hstart, hdraws⟩ :=
    startAuthSession_eq_ok_iff.mp h
  obtain ⟨table', hstart', hsame'⟩ := hsame.start hcoherent hstart
  exact ⟨table', startAuthSession_eq_ok_iff.mpr
    ⟨hkey, hsalt, hbind, hash, halg, hmin, hmax, hnonce, hstart', hdraws⟩, hsame'⟩

/-- When a session is started in a full table, exactly one session makes room for it: of the live
ones the one whose last use was the earliest. Every other session is found by the entries as it was,
and outlives the command unless one of them drops it. The order in which the table lists its
sessions has no part in it. -/
theorem start_evicts_least_recent {crypto : Crypto} {config : Config} {events : List Event}
    {r : StartAuthSessionRequest} {answer : StartAuthSessionResponse}
    (h : completed? (reached crypto config events) envelope
      = some ⟨.startAuthSession, r, answer⟩)
    (hfull : config.maxSessions ≤ (reached crypto config events).state.sessions.size) :
    let engine := reached crypto config events
    let table := engine.state.sessions
    ∃ (e : Execution engine envelope) (victim : UInt32),
      perform engine.env .startAuthSession r engine.state = .ok answer e.performed ∧
      engine.after (.command envelope) = e.next ∧
      IsLeastRecent (used crypto config events) table victim ∧
      (table.contains answer.sessionHandle = true → answer.sessionHandle = victim) ∧
      (∀ other, other ≠ answer.sessionHandle →
        e.performed.sessions.get? other = if other = victim then none else table.get? other) ∧
      (∀ other, other ≠ answer.sessionHandle →
        (e.next.state.sessions.contains other = true ↔
          table.contains other = true ∧ other ≠ victim ∧
            ∀ entry ∈ e.request.sessions, entry.sessionHandle = other →
              entry.attributes.continues = true)) ∧
      ∀ listed, table.SameSessions listed →
        listed.leastRecent? = some victim ∧
        ∃ listed', perform engine.env .startAuthSession r { engine.state with sessions := listed }
            = .ok answer { e.performed with sessions := listed' } ∧
          e.performed.sessions.SameSessions listed' := by
  intro engine table
  obtain ⟨hcoherent, hcapacity⟩ := coherent_reached crypto config events
  obtain ⟨e, _, hperform, hafter⟩ := Execution.exists_of_completed? h
  obtain ⟨_, _, _, _, _, _, _, _, hstart, _⟩ := startAuthSession_eq_ok_iff.mp hperform
  rw [← hcapacity] at hfull
  obtain ⟨victim, hleast, _, hfree, hothers⟩ := SessionTable.start_of_full hstart hfull
  refine ⟨e, victim, hperform, hafter,
    (follows_reached crypto config events).isLeastRecent hcoherent hleast, hfree, hothers,
    fun other hother => ?_, fun listed hsame => ?_⟩
  · have hall := e.forall_uses_iff
      (p := fun entry => entry.sessionHandle = other → entry.attributes.continues = true)
    have hperformed : e.performed.sessions.contains other = true ↔
        table.contains other = true ∧ other ≠ victim := by
      rw [SessionTable.contains, hothers other hother]
      by_cases hvictim : other = victim <;> simp [hvictim, SessionTable.contains, table, engine]
    rw [e.sessions_next, contains_uses, hall, hperformed, and_assoc]
  · exact ⟨(hsame.leastRecent?_eq hcoherent).trans hleast,
      startAuthSession_of_sameSessions hcoherent hsame hperform⟩

/-- An assertion is made on the older of two sessions. The command on the younger one is refused
then, and its policy digest is looked at. -/
def unusedEvents : List Event := [
  .command (startRequest []),
  .command (startRequest []),
  .command (RequestBuilder.request .policyPassword (⟨0x03000000⟩ : PolicyPasswordRequest) []),
  .command (RequestBuilder.request .policyCommandCode
    (⟨0x03000001, 0xFFFFFFFF⟩ : PolicyCommandCodeRequest) []),
  .command (RequestBuilder.request .policyGetDigest (⟨0x03000001⟩ : PolicyGetDigestRequest) [])]

/-- The engine after them. -/
def unusedEngine : Engine :=
  reached (.standard fun _ size => Bytes.zeros size) crowdedConfig unusedEvents

/-- The younger session makes room for a third one, although it was started later. -/
theorem start_evicts_least_recent_unused :
    let uses := used (.standard fun _ size => Bytes.zeros size) crowdedConfig unusedEvents
    let table := unusedEngine.state.sessions
    uses = [0x03000000, 0x03000001, 0x03000000] ∧ crowdedConfig.maxSessions ≤ table.size ∧
      ∃ r answer,
        completed? unusedEngine (startRequest [.policy 0x03000000])
          = some ⟨.startAuthSession, r, answer⟩ ∧
        StartAuthSessionResponse.sessionHandle answer = 0x03000002 ∧
        ∃ e : Execution unusedEngine (startRequest [.policy 0x03000000]),
          IsLeastRecent uses table 0x03000001 ∧
          e.performed.sessions.get? 0x03000001 = none ∧
          e.performed.sessions.get? 0x03000000 = table.get? 0x03000000 := by
  have hused : used (.standard fun _ size => Bytes.zeros size) crowdedConfig unusedEvents
      = [0x03000000, 0x03000001, 0x03000000] := by decide +kernel
  have hfull : crowdedConfig.maxSessions ≤ unusedEngine.state.sessions.size := by decide +kernel
  have hleast : unusedEngine.state.sessions.leastRecent? = some 0x03000001 := by decide +kernel
  have hstarted : (completed? unusedEngine (startRequest [.policy 0x03000000])).bind
      Completed.started? = some 0x03000002 := by decide +kernel
  obtain ⟨done, hdone, hhandle⟩ := Option.bind_eq_some_iff.mp hstarted
  obtain ⟨command, r, answer⟩ := done
  cases command with
  | startAuthSession =>
    obtain ⟨e, victim, _, _, hvictim, _, hothers, _, hlisted⟩ :=
      start_evicts_least_recent hdone hfull
    have hfirst := (hlisted _ (.refl _)).1
    obtain rfl := Option.some.inj (hfirst.symm.trans hleast)
    have hnew : StartAuthSessionResponse.sessionHandle answer = 0x03000002 :=
      Option.some.inj hhandle
    rw [hnew] at hothers
    refine ⟨hused, hfull, r, answer, hdone, hnew, e, hvictim, ?_, ?_⟩
    · rw [hothers _ (by decide), if_pos rfl]
    · rw [hothers _ (by decide), if_neg (by decide)]
      rfl
  | _ => cases hhandle

end TrustedPlatform.Engine
