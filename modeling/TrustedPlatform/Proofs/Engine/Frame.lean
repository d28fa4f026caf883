import TrustedPlatform.Proofs.Engine.Eviction

/-!
# What a command leaves alone

A command that is carried out touches the session that its request names, the sessions of its
authorization entries and, if it starts a session in a full table, the one that makes room. All
other sessions are afterwards what they were, stamps included, and no session is live that was not
live before, but the one that the command started.

Every entry moves the use clock on, also one for a password, which uses no session.
-/

namespace TrustedPlatform.Engine

variable {env : Environment} {state next : State} {engine : Engine} {envelope : Bytes}
  {handle : UInt32} {session : Session}

/-! ## Handlers -/

/-- A handler leaves a live session alone, unless the request names it or it makes room for another
one. -/
theorem get?_of_perform {command : Command} {r : command.Request} {answer : command.Response}
    (h : perform env command r state = .ok answer next)
    (hlive : state.sessions.get? handle = some session)
    (hnamed : sessionOf? command r ≠ some handle)
    (hkept : command = .startAuthSession → state.sessions.capacity ≤ state.sessions.size →
      state.sessions.leastRecent? ≠ some handle) :
    next.sessions.get? handle = some session := by
  cases command with
  | startAuthSession =>
    obtain ⟨_, _, _, _, _, _, _, _, hstart, _⟩ := startAuthSession_eq_ok_iff.mp h
    exact SessionTable.get?_of_start hstart hlive (hkept rfl)
  | flushContext =>
    obtain ⟨_, _, hflush, _⟩ := flushContext_eq_ok_iff.mp h
    have hother : handle ≠ FlushContextRequest.flushHandle r := by
      rintro rfl
      exact hnamed rfl
    rw [(SessionTable.flush_eq_ok_iff.mp hflush).2, SessionTable.get?_erase, if_neg hother, hlive]
  | verifySignature =>
    obtain ⟨_, _, _, _, _, _, _, rfl⟩ := verifySignature_eq_ok_iff.mp h
    exact hlive
  | _ =>
    have hother : handle ≠ _ := fun heq => hnamed (congrArg some heq.symm)
    -- the command concerns the session that it works on, and no other
    exact ((perform_local (by decide) rfl).frame h handle hother).trans hlive

/-- Commands that look at sessions at most leave the state as it is. -/
theorem perform_looks {command : Command} {r : command.Request} {answer : command.Response}
    (h : perform env command r state = .ok answer next)
    (hlooks : command = .policyGetDigest ∨ command = .verifySignature) : next = state := by
  rcases hlooks with rfl | rfl
  · obtain ⟨_, _, _, _, hnext⟩ := policyGetDigest_eq_ok_iff.mp h
    exact hnext
  · obtain ⟨_, _, _, _, _, _, _, hnext⟩ := verifySignature_eq_ok_iff.mp h
    exact hnext

/-! ## Entries without a session -/

theorem useSession_of_none {table : SessionTable} {entry : AuthCommand}
    (hnone : table.get? entry.sessionHandle = none) (answer : AuthResponse) :
    useSession table entry answer = { table with useClock := table.useClock + 1 } := by
  unfold useSession
  rw [SessionTable.touch_eq_error_iff.mpr ⟨hnone, rfl, rfl⟩]

/-- Entries that use no session do nothing but move the use clock on. -/
theorem uses_of_none {table : SessionTable} {uses : List (AuthCommand × AuthResponse)}
    (hnone : ∀ use ∈ uses, table.get? use.1.sessionHandle = none) :
    uses.foldl (fun table use => useSession table use.1 use.2) table
      = { table with useClock := table.useClock + uses.length } := by
  induction uses generalizing table with
  | nil => rfl
  | cons use uses ih =>
    obtain ⟨hfirst, hothers⟩ := List.forall_mem_cons.mp hnone
    rw [List.foldl_cons, useSession_of_none hfirst, List.length_cons, Nat.add_comm uses.length,
      ← Nat.add_assoc]
    exact ih hothers

/-! ## Commands -/

namespace Execution

variable (e : Execution engine envelope)

/-- The session under the handle makes room for the one that the command starts. -/
def Evicts (handle : UInt32) : Prop :=
  e.command = .startAuthSession ∧
    engine.state.sessions.capacity ≤ engine.state.sessions.size ∧
    engine.state.sessions.leastRecent? = some handle

/-- The session under the handle is none of those that the command touches. -/
structure Spares (handle : UInt32) : Prop where
  not_named : sessionOf? e.command e.arguments ≠ some handle
  not_used : ∀ entry ∈ e.request.sessions, entry.sessionHandle ≠ handle
  not_evicted : ¬e.Evicts handle

theorem get?_of_spares (hspared : e.Spares handle)
    (hlive : engine.state.sessions.get? handle = some session) :
    e.next.state.sessions.get? handle = some session := by
  have hperformed := get?_of_perform e.perform_eq hlive hspared.not_named
    fun hcommand hfull hleast => hspared.not_evicted ⟨hcommand, hfull, hleast⟩
  rw [e.sessions_next, get?_uses_of_unnamed (e.forall_uses_iff.mpr hspared.not_used), hperformed]

/-- A session that is live after a command was live before, unless the command started it. -/
theorem contains_of_next (hlive : e.next.state.sessions.contains handle = true) :
    engine.state.sessions.contains handle = true ∨ e.done.started? = some handle := by
  rw [e.sessions_next] at hlive
  obtain ⟨hperformed, _⟩ := contains_uses.mp hlive
  rcases perform_allots e.perform_done with ⟨_, hkept⟩ | ⟨_, started, hstarted, hstart⟩
  · exact .inl (hkept.contains_of handle hperformed)
  · rcases SessionTable.contains_of_start hstart hperformed with rfl | hold
    · exact .inr hstarted
    · exact .inl hold

/-- A command that only looks at the state moves the use clock on by its entries, if none of them
uses a session. -/
theorem sessions_of_looks
    (hlooks : e.command = .policyGetDigest ∨ e.command = .verifySignature)
    (hunused : ∀ entry ∈ e.request.sessions,
      engine.state.sessions.contains entry.sessionHandle = false) :
    e.next.state.sessions = { engine.state.sessions with
      useClock := engine.state.sessions.useClock + e.request.sessions.length } := by
  have hlength : e.uses.length = e.request.sessions.length := by
    rw [← e.map_fst_uses, List.length_map]
  have hnone : ∀ entry ∈ e.request.sessions,
      e.performed.sessions.get? entry.sessionHandle = none := by
    intro entry hentry
    rw [perform_looks e.perform_eq hlooks]
    exact Option.isNone_iff_eq_none.mp (Option.isSome_eq_false_iff.mp (hunused entry hentry))
  rw [e.sessions_next, uses_of_none (e.forall_uses_iff.mpr hnone), hlength,
    perform_looks e.perform_eq hlooks]

end Execution

/-- A command that is carried out leaves every live session alone that it does not touch, and starts
at most the session whose handle it answers. A command that only looks at the state leaves the whole
table as it was, but for the use clock, which every authorization entry moves on. -/
theorem executeCommand_frame {next : Engine} {response : Bytes}
    (h : executeCommand envelope engine = .ok response next) :
    ∃ e : Execution engine envelope, response = e.response ∧
      (∀ handle session, e.Spares handle →
        engine.state.sessions.get? handle = some session →
        next.state.sessions.get? handle = some session) ∧
      (∀ handle, next.state.sessions.contains handle = true →
        engine.state.sessions.contains handle = true ∨ e.done.started? = some handle) ∧
      (e.command = .policyGetDigest ∨ e.command = .verifySignature →
        (∀ entry ∈ e.request.sessions,
          engine.state.sessions.contains entry.sessionHandle = false) →
        next.state.sessions = { engine.state.sessions with
          useClock := engine.state.sessions.useClock + e.request.sessions.length }) := by
  obtain ⟨e, hresponse, rfl, _⟩ := Execution.exists_of_executeCommand h
  exact ⟨e, hresponse, fun _ _ => e.get?_of_spares, fun _ => e.contains_of_next,
    e.sessions_of_looks⟩

/-- The digest of the policy of a session, asked for with a password. -/
def passwordEnvelope : Bytes :=
  RequestBuilder.request .policyGetDigest (⟨0x03000000⟩ : PolicyGetDigestRequest) [.password]

/-- A password uses no session, but the table is not what it was: the use clock has moved on. -/
theorem password_moves_use_clock :
    ∃ e : Execution numberedEngine passwordEnvelope,
      executeCommand passwordEnvelope numberedEngine = .ok e.response e.next ∧
      e.command = .policyGetDigest ∧
      (∀ entry ∈ e.request.sessions,
        numberedEngine.state.sessions.contains entry.sessionHandle = false) ∧
      e.next.state.sessions ≠ numberedEngine.state.sessions := by
  have hcommand : (completed? numberedEngine passwordEnvelope).map (·.command)
      = some .policyGetDigest := by decide +kernel
  have hhandles : entryHandles numberedEngine passwordEnvelope = [Handle.password] := by
    decide +kernel
  have hpassword : numberedEngine.state.sessions.contains Handle.password = false := by
    decide +kernel
  obtain ⟨done, hdone, hdigest⟩ := Option.map_eq_some_iff.mp hcommand
  obtain ⟨response, next, hexecute⟩ := completed?_isSome_iff.mp (Option.isSome_of_eq_some hdone)
  obtain ⟨e, rfl, rfl, _⟩ := Execution.exists_of_executeCommand hexecute
  obtain rfl := Option.some.inj ((e.completed?_eq hexecute).symm.trans hdone)
  rw [e.entryHandles_eq] at hhandles
  have hunused : ∀ entry ∈ e.request.sessions,
      numberedEngine.state.sessions.contains entry.sessionHandle = false := by
    intro entry hentry
    have hmem := List.mem_map_of_mem (f := AuthCommand.sessionHandle) hentry
    rw [hhandles, List.mem_singleton] at hmem
    rw [hmem, hpassword]
  refine ⟨e, hexecute, hdigest, hunused, fun hsame => ?_⟩
  have hclock := congrArg SessionTable.useClock hsame
  have hentries : e.request.sessions.length = 1 := by
    simpa using congrArg List.length hhandles
  rw [e.sessions_of_looks (.inl hdigest) hunused, hentries] at hclock
  exact Nat.succ_ne_self _ hclock

end TrustedPlatform.Engine
