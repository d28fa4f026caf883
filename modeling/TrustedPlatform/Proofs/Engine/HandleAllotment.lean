import TrustedPlatform.Proofs.Engine.LiveSessions
import TrustedPlatform.Proofs.Engine.Locality
import TrustedPlatform.Proofs.Engine.SessionUse
import TrustedPlatform.Proofs.SessionTable.Allotment
import TrustedPlatform.Proofs.SessionTable.Recency

/-!
# Handles that do not come back

The handles that an engine gives to the sessions that are started are all different, until a range
of handles has been gone through. Whoever kept the handle of a session that was dropped is told that
there is no such session, and never gets at another one by mistake.
-/

namespace TrustedPlatform.Engine

open SessionTable (Allotted AllotsNone)

variable {env : Environment} {state next : State} {engine : Engine} {handle : UInt32}

/-! ## What an event does to the handles -/

theorem useSession_allotsNone (table : SessionTable) (entry : AuthCommand)
    (answer : AuthResponse) : table.AllotsNone (useSession table entry answer) := by
  rcases useSession_cases table entry answer with hnone | ⟨session, touched, htouch, hput | hdrop⟩
  · rw [hnone]
    exact .tick table _
  · have hlive : touched.contains entry.sessionHandle = true :=
      Option.isSome_iff_exists.mpr ⟨session, SessionTable.get?_of_touch htouch⟩
    rw [hput]
    exact (AllotsNone.touch htouch).trans (.insert hlive _)
  · rw [hdrop]
    exact (AllotsNone.touch htouch).trans (.erase touched _)

theorem useSessions_allotsNone (table : SessionTable) (entries : List AuthCommand)
    (answers : List AuthResponse) : table.AllotsNone (useSessions table entries answers) := by
  unfold useSessions
  induction entries.zip answers generalizing table with
  | nil => exact .refl table
  | cons use uses ih => exact (useSession_allotsNone table use.1 use.2).trans (ih _)

theorem makeAssertion_allotsNone {index : UInt8} {assertion : Assertion} {outcome : PolicyOutcome}
    (h : makeAssertion env handle index assertion state = .ok outcome next) :
    state.sessions.AllotsNone next.sessions := by
  obtain ⟨session, touched, applied, htouch, _, rfl⟩ := makeAssertion_eq_ok_iff.mp h
  have hlive : touched.contains handle = true :=
    Option.isSome_iff_exists.mpr ⟨session, SessionTable.get?_of_touch htouch⟩
  exact (AllotsNone.touch htouch).trans (.insert hlive applied)

/-- A handler starts one session, or it allots no handle. -/
theorem perform_allots {done : Completed}
    (h : perform env done.command done.request state = .ok done.answer next) :
    (done.started? = none ∧ state.sessions.AllotsNone next.sessions) ∨
    ∃ parameters handle, done.started? = some handle ∧
      SessionTable.start parameters state.sessions = .ok handle next.sessions := by
  cases Completed.effect_of_perform h with
  | started hstarted _ _ _ hstart => exact .inr ⟨_, _, hstarted, hstart⟩
  | dropped hstarted _ hnext =>
    rw [hnext]
    exact .inl ⟨hstarted, .erase _ _⟩
  | asserted hstarted _ hmake => exact .inl ⟨hstarted, makeAssertion_allotsNone hmake⟩
  | kept hstarted _ hnext =>
    rw [hnext]
    exact .inl ⟨hstarted, .refl _⟩

/-- The handle of the session that an event starts. -/
def startedBy? (engine : Engine) : Event → Option UInt32
  | .command envelope => (completed? engine envelope).bind Completed.started?
  | _ => none

theorem startedBy?_of_completed? {envelope : Bytes} {done : Completed}
    (h : completed? engine envelope = some done) :
    startedBy? engine (.command envelope) = done.started? := by
  rw [startedBy?, h]
  rfl

theorem startedBy?_eq_none {event : Event}
    (h : ∀ envelope, event = .command envelope → completed? engine envelope = none) :
    startedBy? engine event = none := by
  cases event with
  | command envelope =>
    rw [startedBy?, h envelope rfl]
    rfl
  | _ => rfl

/-- An event starts one session, before it uses others, or it allots no handle. -/
theorem after_allots (engine : Engine) (event : Event) :
    (startedBy? engine event = none ∧
      engine.state.sessions.AllotsNone (engine.after event).state.sessions) ∨
    ∃ parameters handle started, startedBy? engine event = some handle ∧
      SessionTable.start parameters engine.state.sessions = .ok handle started ∧
      started.AllotsNone (engine.after event).state.sessions := by
  rcases after_cases engine event with ⟨envelope, response, rfl, hexecute⟩ | ⟨hsessions, hnone⟩
  · obtain ⟨done, performed, entries, answers, _, hdone, hperform, hafter⟩ :=
      completed_of_executeCommand hexecute
    have hused := useSessions_allotsNone performed.sessions entries answers
    rw [startedBy?_of_completed? hdone, hafter]
    rcases perform_allots hperform with ⟨hnone, hkept⟩ | ⟨_, _, hsome, hstart⟩
    · exact .inl ⟨hnone, hkept.trans hused⟩
    · exact .inr ⟨_, _, _, hsome, hstart, hused⟩
  · exact .inl ⟨startedBy?_eq_none hnone, by rw [hsessions]; exact .refl _⟩

/-! ## Runs -/

/-- The handles of the sessions that the events start, in the order of the events. -/
def startedIn (engine : Engine) : List Event → List UInt32
  | [] => []
  | event :: events => (startedBy? engine event).toList ++ startedIn (engine.after event) events

theorem startedIn_append (engine : Engine) (events others : List Event) :
    startedIn engine (events ++ others)
      = startedIn engine events ++ startedIn (engine.afterAll events) others := by
  induction events generalizing engine with
  | nil => rfl
  | cons event events ih =>
    rw [List.cons_append, startedIn, startedIn, ih, List.append_assoc]
    rfl

variable {given : List UInt32}

theorem allotted_after (h : Allotted given engine.state.sessions) (hrange : given.length < 2 ^ 24)
    (event : Event) :
    Allotted (given ++ (startedBy? engine event).toList) (engine.after event).state.sessions := by
  rcases after_allots engine event with ⟨hnone, hkept⟩ | ⟨_, handle, _, hsome, hstart, hkept⟩
  · rw [hnone, Option.toList_none, List.append_nil]
    exact h.allotsNone hkept
  · rw [hsome, Option.toList_some]
    exact (h.start hrange hstart).allotsNone hkept

theorem allotted_afterAll (h : Allotted given engine.state.sessions) (events : List Event)
    (hrange : (given ++ startedIn engine events).length ≤ 2 ^ 24) :
    Allotted (given ++ startedIn engine events) (engine.afterAll events).state.sessions := by
  induction events generalizing engine given with
  | nil =>
    rw [startedIn, List.append_nil]
    exact h
  | cons event events ih =>
    rcases after_allots engine event with ⟨hnone, hkept⟩ | ⟨_, handle, _, hsome, hstart, hkept⟩
    · rw [startedIn, hnone, Option.toList_none, List.nil_append] at hrange ⊢
      exact ih (h.allotsNone hkept) hrange
    · rw [startedIn, hsome, Option.toList_some, ← List.append_assoc] at hrange ⊢
      have hlt : given.length < 2 ^ 24 := by
        simp only [List.length_append, List.length_singleton] at hrange
        omega
      exact ih ((h.start hlt hstart).allotsNone hkept) hrange

/-- Until a range has been gone through, every handle that is given is a new one. -/
theorem nodup_take_startedIn (h : Allotted given engine.state.sessions) (events : List Event) :
    ((given ++ startedIn engine events).take (2 ^ 24)).Nodup := by
  -- on the events, until the handles that were given fill the range
  induction events generalizing engine given with
  | nil =>
    rw [startedIn, List.append_nil]
    exact h.nodup.sublist (List.take_sublist _ _)
  | cons event events ih =>
    by_cases hrange : given.length < 2 ^ 24
    · rw [startedIn, ← List.append_assoc]
      exact ih (allotted_after h hrange event)
    · -- what comes later is cut off
      rw [List.take_append_of_le_length (Nat.le_of_not_lt hrange)]
      exact h.nodup.sublist (List.take_sublist _ _)

/-- A handle that is in use after the events was in use before them, or one of them gave it to a
session. -/
theorem contains_afterAll {events : List Event}
    (hlive : (engine.afterAll events).state.sessions.contains handle = true) :
    engine.state.sessions.contains handle = true ∨ handle ∈ startedIn engine events := by
  induction events generalizing engine with
  | nil => exact .inl hlive
  | cons event events ih =>
    rw [startedIn, List.mem_append]
    rcases ih hlive with hnext | hlater
    · rcases after_allots engine event with ⟨_, hkept⟩ | ⟨_, _, _, hsome, hstart, hkept⟩
      · exact .inl (hkept.contains_of handle hnext)
      · rcases SessionTable.contains_of_start hstart (hkept.contains_of handle hnext) with
          rfl | hold
        · exact .inr (.inl (by rw [hsome]; exact List.mem_singleton_self _))
        · exact .inl hold
    · exact .inr (.inr hlater)

/-! ## Sessions that are not started again -/

namespace SessionStable

variable {crypto : Crypto} {P : UInt32 → Session → Prop} (hP : SessionStable crypto P)

include hP

/-- A property that nothing takes away stays, if it is void for the session that is started. -/
theorem after (hcrypto : engine.env.crypto = crypto) (h : Holds P engine.state.sessions)
    (event : Event) (hnew : ∀ handle ∈ startedBy? engine event, ∀ session, P handle session) :
    Holds P (engine.after event).state.sessions := by
  rcases after_cases engine event with ⟨envelope, response, rfl, hexecute⟩ | ⟨hsessions, _⟩
  · obtain ⟨done, performed, hdone, hperform, hafter⟩ := hP.after_command hcrypto hexecute
    rw [startedBy?_of_completed? hdone] at hnew
    apply hafter
    rcases perform_allots hperform with ⟨hnone, _⟩ | ⟨_, _, hstarted, hstart⟩
    · exact hP.perform hcrypto h hperform hnone
    · exact Holds.start (fun other session hlive _ => h other session hlive) hstart fun _ =>
        hnew _ hstarted _
  · rw [hsessions]
    exact h

theorem afterAll (hcrypto : engine.env.crypto = crypto) (h : Holds P engine.state.sessions)
    (events : List Event) (hnew : ∀ handle ∈ startedIn engine events, ∀ session, P handle session) :
    Holds P (engine.afterAll events).state.sessions := by
  induction events generalizing engine with
  | nil => exact h
  | cons event events ih =>
    refine ih ((crypto_after engine event).trans hcrypto) (hP.after hcrypto h event ?_) ?_
    · intro handle hstarted
      exact hnew handle (List.mem_append_left _ (Option.mem_toList.mpr hstarted))
    · intro handle hstarted
      exact hnew handle (List.mem_append_right _ hstarted)

end SessionStable

/-! ## Requests that name a session -/

/-- The session that a request names by one of its handles, or to flush it. -/
def sessionOf? : (command : Command) → command.Request → Option UInt32
  | .startAuthSession, _ => none
  | .flushContext, r => some (FlushContextRequest.flushHandle r)
  | .policyAuthValue, r => some (PolicyAuthValueRequest.policySession r)
  | .policyPassword, r => some (PolicyPasswordRequest.policySession r)
  | .policyCommandCode, r => some (PolicyCommandCodeRequest.policySession r)
  | .policyPcr, r => some (PolicyPcrRequest.policySession r)
  | .policyAuthorize, r => some (PolicyAuthorizeRequest.policySession r)
  | .policyTicket, r => some (PolicyTicketRequest.policySession r)
  | .policySigned, r => some (PolicySignedRequest.policySession r)
  | .policyGetDigest, r => some (PolicyGetDigestRequest.policySession r)
  | .verifySignature, _ => none

/-- The envelope holds a request for the engine that names the session of the handle, by itself or
by an authorization entry. -/
inductive Names (engine : Engine) (envelope : Bytes) (handle : UInt32) : Prop
  | request {command : Command} {r : command.Request}
      (hrequested : requested? engine envelope = some ⟨command, r⟩)
      (hnamed : sessionOf? command r = some handle)
  | entry {header : RequestHeader} {command : Command} {count : Nat} {request : Request}
      {entry : AuthCommand} (hparse : RequestHeader.parse envelope = .ok header)
      (hcommand : commandFor engine.env.commands header.commandCode = .ok (command, count))
      (hsplit : Request.split header envelope count = .ok request)
      (hentry : entry ∈ request.sessions) (hnamed : entry.sessionHandle = handle)

/-- A handler that is to work on a session that is not there finds no session. -/
theorem perform_of_none {command : Command} {r : command.Request} {kind : SessionKind}
    (hnamed : sessionOf? command r = some handle)
    (hkind : HandleKind.of? handle = some (SessionTable.handleKind kind))
    (hnone : state.sessions.get? handle = none) :
    ∃ fault stopped, perform env command r state = .error (.fault fault) stopped ∧
      fault.cause = .handleNotFound := by
  have plain : ∀ assertion, ∃ fault stopped,
      makePlainAssertion env handle assertion state = .error (.fault fault) stopped ∧
        fault.cause = .handleNotFound := by
    intro assertion
    obtain ⟨stopped, hmake⟩ := makeAssertion_of_none env 1 assertion hnone
    exact ⟨_, stopped, EStateM.bind_of_error hmake, rfl⟩
  cases command with
  | startAuthSession => cases hnamed
  | verifySignature => cases hnamed
  | flushContext =>
    obtain rfl := Option.some.inj hnamed
    have hflush : Action.onSessionsAt (·.atParameter 1)
        (SessionTable.flush (FlushContextRequest.flushHandle r)) state
        = .error (.fault (Cause.handleNotFound.atParameter 1)) state := by
      unfold Action.onSessionsAt SessionTable.flush
      rw [hnone]
    refine ⟨Cause.handleNotFound.atParameter 1, state, ?_, rfl⟩
    show flushContext r state = _
    unfold flushContext
    rw [hkind]
    cases kind <;> exact EStateM.bind_of_error hflush
  | policySigned =>
    obtain rfl := Option.some.inj hnamed
    -- the key is looked for first
    cases hkey : env.objects.resolve (PolicySignedRequest.authObject r) with
    | none =>
      refine ⟨Cause.handleNotFound.atHandle 1, state, ?_, rfl⟩
      show policySigned env r state = _
      unfold policySigned
      rw [hkey]
      rfl
    | some key =>
      obtain ⟨stopped, hmake⟩ :=
        makeAssertion_of_none env 2 (PolicySignedRequest.assertion r key) hnone
      refine ⟨Cause.handleNotFound.atHandle 2, stopped, ?_, rfl⟩
      show policySigned env r state = _
      unfold policySigned
      rw [hkey]
      exact EStateM.bind_of_error hmake
  | policyGetDigest =>
    obtain rfl := Option.some.inj hnamed
    refine ⟨Cause.handleNotFound.atHandle 1, state, (policyGetDigest_eq r state).trans ?_, rfl⟩
    rw [hnone]
    rfl
  | _ =>
    obtain rfl := Option.some.inj hnamed
    exact plain _

/-- Entries are refused at the first one whose session is not there. -/
theorem requireLive_of_mem {table : SessionTable} {entries : List AuthCommand} {entry : AuthCommand}
    (hentry : entry ∈ entries) (hpassword : entry.sessionHandle ≠ Handle.password)
    (hdead : table.contains entry.sessionHandle = false) (index : UInt8) :
    ∃ fault, requireLive table index entries = .error fault ∧ fault.cause = .handleNotFound := by
  induction entries generalizing index with
  | nil => cases hentry
  | cons first others ih =>
    rw [requireLive]
    by_cases hfirst : first.sessionHandle = Handle.password ∨
        table.contains first.sessionHandle = true
    · rw [if_pos hfirst]
      rcases List.mem_cons.mp hentry with rfl | hmem
      · rcases hfirst with hpass | hlive
        · exact absurd hpass hpassword
        · exact absurd (hdead.symm.trans hlive) (by decide)
      · exact ih hmem (index + 1)
    · rw [if_neg hfirst]
      exact ⟨_, rfl, rfl⟩

theorem executeCommand_of_accept_error {envelope : Bytes} {header : RequestHeader} {fault : Fault}
    (hparse : RequestHeader.parse envelope = .ok header)
    (haccept : accept engine.env engine.state.sessions header envelope = .error fault) :
    executeCommand envelope engine = .error (.refused ⟨header.commandCode, fault⟩) engine := by
  unfold executeCommand process
  rw [hparse]
  simp only [haccept]

/-- The engine answers the envelope with the fault that there is no such session. -/
def NotFound (engine : Engine) (envelope : Bytes) : Prop :=
  ∃ refusal stopped, executeCommand envelope engine = .error (.refused refusal) stopped ∧
    refusal.fault.cause = .handleNotFound

/-- A request that names a session that is not there is refused for that reason. -/
theorem notFound_of_names {envelope : Bytes} {kind : SessionKind}
    (hnames : Names engine envelope handle)
    (hkind : HandleKind.of? handle = some (SessionTable.handleKind kind))
    (hdead : engine.state.sessions.contains handle = false) : NotFound engine envelope := by
  cases hnames with
  | request hrequested hnamed =>
    have hnone : engine.state.sessions.get? handle = none :=
      Option.not_isSome_iff_eq_none.mp (by rw [← SessionTable.contains, hdead]; decide)
    obtain ⟨fault, stopped, hperform, hcause⟩ := perform_of_none hnamed hkind hnone
    exact ⟨_, _, executeCommand_of_perform_error hrequested hperform, hcause⟩
  | @entry header command count request entry hparse hcommand hsplit hentry hnamed =>
    subst hnamed
    have hpassword : entry.sessionHandle ≠ Handle.password := by
      intro hpass
      rw [hpass] at hkind
      cases kind <;> exact absurd hkind (by decide)
    obtain ⟨fault, hlive, hcause⟩ := requireLive_of_mem hentry hpassword hdead 1
    have haccept : accept engine.env engine.state.sessions header envelope = .error fault := by
      unfold accept
      rw [hcommand]
      show (Request.split header envelope count >>= _) = _
      rw [hsplit]
      show (requireLive _ 1 request.sessions >>= _) = _
      rw [hlive]
      rfl
    exact ⟨_, _, executeCommand_of_accept_error hparse haccept, hcause⟩

/-! ## Sessions that end -/

/-- The command ends the session of the handle: it flushes it, or an entry for it does not continue
it, or a session that gets another handle takes its place in a full table. -/
inductive Ends (engine : Engine) (envelope : Bytes) (handle : UInt32) : Prop
  | flushed {r : FlushContextRequest} {answer : EmptyResponse}
      (hdone : completed? engine envelope = some ⟨.flushContext, r, answer⟩)
      (hnamed : r.flushHandle = handle)
  | discontinued (e : Execution engine envelope) {entry : AuthCommand}
      (hafter : engine.after (.command envelope) = e.next)
      (hentry : entry ∈ e.request.sessions) (hnamed : entry.sessionHandle = handle)
      (hends : entry.attributes.continues = false)
  | evicted {r : StartAuthSessionRequest} {answer : StartAuthSessionResponse}
      (hdone : completed? engine envelope = some ⟨.startAuthSession, r, answer⟩)
      (hfull : engine.state.sessions.capacity ≤ engine.state.sessions.size)
      (hleast : engine.state.sessions.leastRecent? = some handle)
      (hother : answer.sessionHandle ≠ handle)

/-- No entry brings back what the handler left without a session. -/
theorem Execution.contains_next_eq_false {envelope : Bytes} (e : Execution engine envelope)
    (h : e.performed.sessions.get? handle = none) :
    e.next.state.sessions.contains handle = false := by
  rw [Bool.eq_false_iff, e.sessions_next]
  intro hlive
  obtain ⟨hbefore, _⟩ := contains_uses.mp hlive
  rw [SessionTable.contains, h] at hbefore
  cases hbefore

/-- A handle whose session was ended by a command has no session after it. -/
theorem contains_after_of_ends {envelope : Bytes} (h : Ends engine envelope handle) :
    (engine.after (.command envelope)).state.sessions.contains handle = false := by
  cases h with
  | flushed hdone hnamed =>
    obtain ⟨e, _, hperform, hafter⟩ := Execution.exists_of_completed? hdone
    obtain ⟨_, _, hflush, _⟩ := flushContext_eq_ok_iff.mp hperform
    obtain ⟨_, herased⟩ := SessionTable.flush_eq_ok_iff.mp hflush
    rw [hafter]
    apply e.contains_next_eq_false
    rw [herased, hnamed, SessionTable.get?_erase, if_pos rfl]
  | discontinued e hafter hentry hnamed hends =>
    rw [hafter, Bool.eq_false_iff, e.sessions_next]
    intro hlive
    -- every entry for a session that is left continues it
    have hall := (e.forall_uses_iff (p := fun entry => entry.sessionHandle = handle →
      entry.attributes.continues = true)).mp (contains_uses.mp hlive).2
    cases hends.symm.trans (hall _ hentry hnamed)
  | evicted hdone hfull hleast hother =>
    obtain ⟨e, _, hperform, hafter⟩ := Execution.exists_of_completed? hdone
    obtain ⟨_, _, _, _, _, _, _, _, hstart, _⟩ := startAuthSession_eq_ok_iff.mp hperform
    obtain ⟨victim, hvictim, _, _, hothers⟩ := SessionTable.start_of_full hstart hfull
    cases hleast.symm.trans hvictim
    rw [hafter]
    apply e.contains_next_eq_false
    rw [hothers _ hother.symm, if_pos rfl]

/-! ## The theorem -/

/-- The handles of the sessions that were started since the engine was new, oldest first. -/
def started (crypto : Crypto) (config : Config) (events : List Event) : List UInt32 :=
  startedIn (Engine.new crypto config) events

theorem allotted_new (crypto : Crypto) (config : Config) :
    Allotted [] (Engine.new crypto config).state.sessions := .empty _ _

theorem allotted_reached {crypto : Crypto} {config : Config} {events : List Event}
    (hrange : (started crypto config events).length ≤ 2 ^ 24) :
    Allotted (started crypto config events) (reached crypto config events).state.sessions :=
  allotted_afterAll (allotted_new crypto config) events hrange

/-- The first `2 ^ 24` sessions that are started get different handles, and as long as there were no
more, a handle whose session was dropped stays without one: every request that names it is told that
there is no such session. -/
theorem handles_do_not_come_back (crypto : Crypto) (config : Config) :
    (∀ events, ((started crypto config events).take (2 ^ 24)).Nodup) ∧
      ∀ earlier later : List Event, (started crypto config (earlier ++ later)).length ≤ 2 ^ 24 →
        ∀ handle ∈ started crypto config earlier,
          (reached crypto config earlier).state.sessions.contains handle = false →
          (reached crypto config (earlier ++ later)).state.sessions.contains handle = false ∧
            ∀ envelope, Names (reached crypto config (earlier ++ later)) envelope handle →
              NotFound (reached crypto config (earlier ++ later)) envelope := by
  refine ⟨fun events => ?_, fun earlier later hrange handle hstarted hdropped => ?_⟩
  · exact nodup_take_startedIn (allotted_new crypto config) events
  · have hallotted := allotted_reached hrange
    have hsplit : started crypto config (earlier ++ later)
        = started crypto config earlier ++ startedIn (reached crypto config earlier) later :=
      startedIn_append (Engine.new crypto config) earlier later
    have hdead : (reached crypto config (earlier ++ later)).state.sessions.contains handle
        = false := by
      -- if it were in use again, it would have been given twice
      by_contra hlive
      rw [reached_append, Bool.not_eq_false] at hlive
      rcases contains_afterAll hlive with hbefore | hagain
      · rw [hdropped] at hbefore
        cases hbefore
      · have hnodup := hallotted.nodup
        rw [hsplit] at hnodup
        exact (List.disjoint_of_nodup_append hnodup) hstarted hagain
    obtain ⟨kind, hkind⟩ := hallotted.kind_of handle
      (by rw [hsplit]; exact List.mem_append_left _ hstarted)
    exact ⟨hdead, fun envelope hnames => notFound_of_names hnames hkind hdead⟩

/-- The crowded engine drops its first session for the third one. Then an HMAC session is started,
in the place of the second one, and the client of the first session asks for its digest. -/
theorem handles_do_not_come_back_crowded :
    let crypto : Crypto := .standard fun _ size => Bytes.zeros size
    let later : List Event := [.command (RequestBuilder.request .startAuthSession
      (StartAuthSessionRequest.unbound .hmac .sha256 (Bytes.zeros 16)) [])]
    let asking := plainEnvelope .policyGetDigest (⟨0x03000000⟩ : PolicyGetDigestRequest)
    started crypto crowdedConfig (crowdedEvents ++ later)
        = [0x03000000, 0x02000001, 0x03000002, 0x02000003] ∧
      (started crypto crowdedConfig (crowdedEvents ++ later)).length ≤ 2 ^ 24 ∧
      0x03000000 ∈ started crypto crowdedConfig crowdedEvents ∧
      (reached crypto crowdedConfig crowdedEvents).state.sessions.contains 0x03000000 = false ∧
      Names (reached crypto crowdedConfig (crowdedEvents ++ later)) asking 0x03000000 ∧
      NotFound (reached crypto crowdedConfig (crowdedEvents ++ later)) asking := by
  intro crypto later asking
  have hstarted : started crypto crowdedConfig (crowdedEvents ++ later)
      = [0x03000000, 0x02000001, 0x03000002, 0x02000003] := by decide +kernel
  have hrange : (started crypto crowdedConfig (crowdedEvents ++ later)).length ≤ 2 ^ 24 := by
    rw [hstarted]
    decide
  have hmem : 0x03000000 ∈ started crypto crowdedConfig crowdedEvents := by decide +kernel
  have hdropped : (reached crypto crowdedConfig crowdedEvents).state.sessions.contains 0x03000000
      = false := by decide +kernel
  have hrequested : requested? (reached crypto crowdedConfig (crowdedEvents ++ later)) asking
      = some ⟨.policyGetDigest, (⟨0x03000000⟩ : PolicyGetDigestRequest)⟩ := by decide +kernel
  have hnames : Names (reached crypto crowdedConfig (crowdedEvents ++ later)) asking 0x03000000 :=
    .request hrequested rfl
  have hnotFound := ((handles_do_not_come_back crypto crowdedConfig).2 crowdedEvents later hrange
    0x03000000 hmem hdropped).2 asking hnames
  exact ⟨hstarted, hrange, hmem, hdropped, hnames, hnotFound⟩

end TrustedPlatform.Engine
