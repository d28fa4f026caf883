import Mathlib.Logic.Function.Basic
import TrustedPlatform.Proofs.Engine.Atomicity
import TrustedPlatform.Proofs.Engine.Process
import TrustedPlatform.Proofs.Policy.Effect
import TrustedPlatform.Proofs.TicketAuthority

/-!
# The policies of the sessions of an engine

In every state that an engine can get to, the policy of a live session is what the assertions that
were carried out on it since its start make of a new session: commands that fail, commands on other
sessions, nonces that are replaced and sessions that are dropped leave no trace in it.

`Pasts` holds these assertions for every handle. It is kept up to date event by event, beside the
engine, and `Recorded` is the invariant that ties the two.
-/

namespace TrustedPlatform

/-! ## Tables with the same policies -/

namespace SessionTable

variable {table middle next : SessionTable}

/-- Every session of `next` is one of `table`, with the same kind, hash and policy. -/
def KeepsPolicies (table next : SessionTable) : Prop :=
  ∀ handle session, next.get? handle = some session →
    ∃ old, table.get? handle = some old ∧ session.kind = old.kind ∧
      session.hashAlg = old.hashAlg ∧ session.policy = old.policy

namespace KeepsPolicies

theorem refl (table : SessionTable) : table.KeepsPolicies table := by
  intro handle session hlive
  exact ⟨session, hlive, rfl, rfl, rfl⟩

theorem trans (h : table.KeepsPolicies middle) (h' : middle.KeepsPolicies next) :
    table.KeepsPolicies next := by
  intro handle session hlive
  obtain ⟨between, hbetween, hkind', halg', hpolicy'⟩ := h' handle session hlive
  obtain ⟨old, hold, hkind, halg, hpolicy⟩ := h handle between hbetween
  exact ⟨old, hold, hkind'.trans hkind, halg'.trans halg, hpolicy'.trans hpolicy⟩

theorem erase (table : SessionTable) (handle : UInt32) :
    table.KeepsPolicies (table.erase handle) := by
  intro other session hlive
  exact ⟨session, get?_of_get?_erase hlive, rfl, rfl, rfl⟩

/-- A session may be replaced by one with the same kind, hash and policy. -/
theorem insert {handle : UInt32} {old session : Session} (hold : table.get? handle = some old)
    (hkind : session.kind = old.kind) (halg : session.hashAlg = old.hashAlg)
    (hpolicy : session.policy = old.policy) :
    table.KeepsPolicies (table.insert handle session) := by
  intro other found hlive
  rw [get?_insert] at hlive
  split at hlive
  · rename_i hother
    cases hlive
    exact ⟨old, hother ▸ hold, hkind, halg, hpolicy⟩
  · exact ⟨found, hlive, rfl, rfl, rfl⟩

/-- The clocks and limits of a table have no part in its policies. -/
theorem of_entries_eq (h : next.entries = table.entries) : table.KeepsPolicies next := by
  intro handle session hlive
  refine ⟨session, ?_, rfl, rfl, rfl⟩
  rw [get?, ← h]
  exact hlive

theorem touch {handle : UInt32} {session : Session}
    (h : touch handle table = .ok session next) : table.KeepsPolicies next := by
  obtain ⟨old, hold, rfl, rfl⟩ := touch_eq_ok_iff.mp h
  have hclock : table.KeepsPolicies { table with useClock := table.useClock + 1 } :=
    .of_entries_eq rfl
  exact hclock.trans (.insert hold rfl rfl rfl)

end KeepsPolicies

end SessionTable

namespace Engine

open SessionTable (KeepsPolicies)

/-- If the session of an entry is live, it is touched, and then it gets new nonces and attributes
or is dropped; if not, only the clock of the table goes on. -/
theorem useSession_cases (table : SessionTable) (entry : AuthCommand) (answer : AuthResponse) :
    useSession table entry answer = { table with useClock := table.useClock + 1 } ∨
      ∃ session touched,
        SessionTable.touch entry.sessionHandle table = .ok session touched ∧
          (useSession table entry answer = touched.insert entry.sessionHandle { session with
              nonceCaller := entry.nonce.bytes
              nonceTpm := answer.nonce.bytes
              attributes := entry.attributes } ∨
            useSession table entry answer = touched.erase entry.sessionHandle) := by
  unfold useSession
  cases htouch : SessionTable.touch entry.sessionHandle table with
  | error cause stamped =>
    obtain ⟨_, _, rfl⟩ := SessionTable.touch_eq_error_iff.mp htouch
    exact .inl rfl
  | ok session touched =>
    refine .inr ⟨session, touched, rfl, ?_⟩
    cases entry.attributes.continues with
    | true => exact .inl rfl
    | false => exact .inr rfl

/-- The use of a session after a command leaves the policies as they are. -/
theorem useSession_keepsPolicies (table : SessionTable) (entry : AuthCommand)
    (answer : AuthResponse) : table.KeepsPolicies (useSession table entry answer) := by
  rcases useSession_cases table entry answer with hnone | ⟨session, touched, htouch, hput | hdrop⟩
  · rw [hnone]
    exact .of_entries_eq rfl
  · rw [hput]
    exact (KeepsPolicies.touch htouch).trans
      (.insert (SessionTable.get?_of_touch htouch) rfl rfl rfl)
  · rw [hdrop]
    exact (KeepsPolicies.touch htouch).trans (.erase touched _)

theorem useSessions_keepsPolicies (table : SessionTable) (entries : List AuthCommand)
    (answers : List AuthResponse) : table.KeepsPolicies (useSessions table entries answers) := by
  unfold useSessions
  induction entries.zip answers generalizing table with
  | nil => exact .refl table
  | cons use uses ih =>
    exact (useSession_keepsPolicies table use.1 use.2).trans (ih _)

/-! ## Events -/

/-- A command changes nothing of an engine but its state. -/
theorem after_command_eq (engine : Engine) (envelope : Bytes) :
    engine.after (.command envelope)
      = { engine with state := (engine.after (.command envelope)).state } := by
  rw [Engine.after]
  cases hexecute : executeCommand envelope engine with
  | ok response next =>
    obtain ⟨_, _, rfl⟩ := executeCommand_eq_ok_iff.mp hexecute
    rfl
  | error stop stopped =>
    obtain ⟨_, rfl, _⟩ := of_executeCommand_error hexecute
    rfl

/-- An extended PCR changes nothing of an engine but its PCRs. -/
theorem after_extendPcr_eq (engine : Engine) (index : Nat) (data : Bytes) :
    engine.after (.extendPcr index data)
      = engine.withEnv ({ · with
        pcrs := (engine.after (.extendPcr index data)).env.pcrs }) := by
  rw [Engine.after]
  cases hextend : engine.extendPcr index data with
  | error cause => rfl
  | ok next =>
    obtain ⟨pcrs, _, hnext⟩ := Except.bind_eq_ok_iff.mp hextend
    cases Except.pure_eq_ok_iff.mp hnext
    rfl

/-- What no event changes: the configuration, the cryptography, the set of commands and the proof
values of the hierarchies. -/
structure SameMake (engine next : Engine) : Prop where
  config : next.config = engine.config
  crypto : next.env.crypto = engine.env.crypto
  commands : next.env.commands = engine.env.commands
  proofs : next.env.tickets.proofs = engine.env.tickets.proofs

theorem sameMake_after (engine : Engine) (event : Event) :
    SameMake engine (engine.after event) := by
  cases event with
  | command envelope =>
    rw [after_command_eq]
    exact ⟨rfl, rfl, rfl, rfl⟩
  | extendPcr index data =>
    rw [after_extendPcr_eq]
    exact ⟨rfl, rfl, rfl, rfl⟩
  | setHierarchyEnabled hierarchy enabled =>
    exact ⟨rfl, rfl, rfl, TicketAuthority.proofs_setEnabled engine.env.tickets hierarchy enabled⟩
  | _ => exact ⟨rfl, rfl, rfl, rfl⟩

/-- Whatever happens to an engine, its cryptography stays. -/
theorem crypto_after (engine : Engine) (event : Event) :
    (engine.after event).env.crypto = engine.env.crypto :=
  (sameMake_after engine event).crypto

/-- Either an event is a command that is answered, or it leaves the sessions alone and nothing is
carried out. -/
theorem after_cases (engine : Engine) (event : Event) :
    (∃ envelope response, event = .command envelope ∧
      executeCommand envelope engine = .ok response (engine.after event)) ∨
    (engine.after event).state.sessions = engine.state.sessions ∧
      ∀ envelope, event = .command envelope → completed? engine envelope = none := by
  cases event with
  | command envelope =>
    rw [Engine.after]
    cases hexecute : executeCommand envelope engine with
    | ok response next => exact .inl ⟨envelope, response, rfl, hexecute⟩
    | error stop stopped =>
      -- nothing was carried out, and the table is the one before
      obtain ⟨_, rfl, hsessions, _⟩ := of_executeCommand_error hexecute
      refine .inr ⟨hsessions, fun other hother => ?_⟩
      cases hother
      rw [completed?, hexecute]
  | extendPcr index data =>
    rw [after_extendPcr_eq]
    exact .inr ⟨rfl, fun _ hother => nomatch hother⟩
  | _ => exact .inr ⟨rfl, fun _ hother => nomatch hother⟩

/-- What every event keeps, a run keeps. -/
theorem afterAll_induct (P : Engine → Prop) {engine : Engine}
    (hafter : ∀ (engine : Engine) (event : Event), P engine → P (engine.after event))
    (h : P engine) (events : List Event) : P (engine.afterAll events) :=
  List.foldlRecOn events Engine.after h fun engine hengine event _ => hafter engine event hengine

/-- A counter that every event of a kind moves on by one counts these events. -/
theorem counter_afterAll (counter : Engine → UInt32) (counts : Event → Bool)
    (hafter : ∀ (engine : Engine) (event : Event), counter (engine.after event)
      = if counts event then counter engine + 1 else counter engine)
    (engine : Engine) (events : List Event) :
    counter (engine.afterAll events) = counter engine + UInt32.ofNat (events.countP counts) := by
  induction events generalizing engine with
  | nil => exact (UInt32.add_zero _).symm
  | cons event events ih =>
    show counter ((engine.after event).afterAll events) = _
    rw [ih, hafter, List.countP_cons]
    split
    · exact add_one_add_ofNat ..
    · rfl

theorem sameMake_afterAll (engine : Engine) (events : List Event) :
    SameMake engine (engine.afterAll events) := by
  refine afterAll_induct (SameMake engine) (fun other event h => ?_) ⟨rfl, rfl, rfl, rfl⟩ events
  have hafter := sameMake_after other event
  exact ⟨hafter.config.trans h.config, hafter.crypto.trans h.crypto,
    hafter.commands.trans h.commands, hafter.proofs.trans h.proofs⟩

/-! ## What has been asserted -/

/-- The assertions that were carried out on the session of a handle since it started, oldest first,
each with the environment that it was made in. -/
abbrev Pasts := UInt32 → List PolicyStep

/-- The pasts after a command: a session that it started has none, and an assertion that it made
comes at the end. -/
def Completed.past (done : Completed) (env : Environment) (pasts : Pasts) : Pasts :=
  match done.started?, done.asserted? env with
  | some handle, _ => Function.update pasts handle []
  | none, some (handle, assertion) =>
    Function.update pasts handle (pasts handle ++ [⟨env, assertion⟩])
  | none, none => pasts

/-- The pasts after an event. -/
def pastsAfter (engine : Engine) (pasts : Pasts) : Event → Pasts
  | .command envelope =>
    match completed? engine envelope with
    | some done => done.past engine.env pasts
    | none => pasts
  | _ => pasts

/-- The pasts after events, for an engine of the given pasts. -/
def pastsAfterAll (engine : Engine) (pasts : Pasts) : List Event → Pasts
  | [] => pasts
  | event :: events => pastsAfterAll (engine.after event) (pastsAfter engine pasts event) events

/-- The policy of every session records the past of its handle. -/
def Recorded (pasts : Pasts) (table : SessionTable) : Prop :=
  ∀ handle session, table.get? handle = some session →
    ∃ hash : HashId, session.hashAlg = hash.alg ∧
      session.policy.Records session.isTrial hash (pasts handle)

namespace Recorded

variable {pasts : Pasts} {table next : SessionTable} {env : Environment} {state final : State}

theorem empty (capacity : Nat) (evicts : Bool) :
    Recorded pasts (.empty capacity evicts) := by
  intro handle session hlive
  cases hlive

theorem keepsPolicies (h : Recorded pasts table) (hkept : table.KeepsPolicies next) :
    Recorded pasts next := by
  intro handle session hlive
  obtain ⟨old, hold, hkind, halg, hpolicy⟩ := hkept handle session hlive
  obtain ⟨hash, hhash, hrecords⟩ := h handle old hold
  refine ⟨hash, halg.trans hhash, ?_⟩
  rw [hpolicy, Session.isTrial, hkind]
  exact hrecords

/-- A session that starts has the policy of a new session, and no past. -/
theorem start {parameters : SessionParameters} {handle : UInt32} {hash : HashId}
    (h : Recorded pasts table) (halg : parameters.hashAlg = hash.alg)
    (hstart : SessionTable.start parameters table = .ok handle next) :
    Recorded (Function.update pasts handle []) next := by
  obtain ⟨roomy, nextIndex, hroom, _, rfl⟩ := SessionTable.start_eq_ok_iff.mp hstart
  intro other session hlive
  rw [SessionTable.get?_insert] at hlive
  by_cases hother : other = handle
  · rw [if_pos hother] at hlive
    cases hlive
    rw [hother, Function.update_self]
    refine ⟨hash, halg, ?_⟩
    -- the zero digest has the length that the identifier of the hash states
    have hinitial := PolicyState.Records.initial (decide (parameters.kind = .trial)) hash
    rw [← HashId.digestSize_alg, ← halg] at hinitial
    exact hinitial
  · rw [if_neg hother] at hlive
    rw [Function.update_of_ne hother]
    exact h other session (SessionTable.get?_of_makeRoom hroom hlive)

/-- An assertion on a session comes at the end of its past, and of no other. -/
theorem makeAssertion {handle : UInt32} {index : UInt8} {assertion : Assertion}
    {outcome : PolicyOutcome} (h : Recorded pasts state.sessions)
    (hmake : Engine.makeAssertion env handle index assertion state = .ok outcome final) :
    Recorded (Function.update pasts handle (pasts handle ++ [⟨env, assertion⟩]))
      final.sessions := by
  obtain ⟨session, touched, applied, htouch, happly, rfl⟩ := makeAssertion_eq_ok_iff.mp hmake
  have htouched := h.keepsPolicies (.touch htouch)
  intro other found hlive
  rw [SessionTable.get?_insert] at hlive
  by_cases hother : other = handle
  · rw [if_pos hother] at hlive
    cases hlive
    rw [hother, Function.update_self]
    -- the assertion was applied to the session as it was touched, whose past is known
    have hsession := SessionTable.get?_of_touch htouch
    obtain ⟨hash, hhash, hrecords⟩ := htouched handle session hsession
    obtain ⟨_, change, hchange, _, _, rfl⟩ := Policy.apply_eq_ok_iff.mp happly
    exact ⟨hash, hhash, hrecords.after hhash hchange⟩
  · rw [if_neg hother] at hlive
    rw [Function.update_of_ne hother]
    exact htouched other found hlive

/-- A command that succeeds leaves the policies as its past says. -/
theorem perform {done : Completed} (h : Recorded pasts state.sessions)
    (hperform : Engine.perform env done.command done.request state = .ok done.answer final) :
    Recorded (done.past env pasts) final.sessions := by
  unfold Completed.past
  cases Completed.effect_of_perform hperform with
  | started hstarted _ halg _ hstart =>
    rw [hstarted]
    exact h.start halg hstart
  | dropped hstarted hasserted hnext =>
    rw [hstarted, hasserted, hnext]
    exact h.keepsPolicies (.erase _ _)
  | asserted hstarted hasserted hmake =>
    rw [hstarted, hasserted]
    exact h.makeAssertion hmake
  | kept hstarted hasserted hnext =>
    rw [hstarted, hasserted, hnext]
    exact h

/-! ## Events -/

variable {engine : Engine}

theorem after (h : Recorded pasts engine.state.sessions) (event : Event) :
    Recorded (pastsAfter engine pasts event) (engine.after event).state.sessions := by
  rcases after_cases engine event with ⟨envelope, response, rfl, hexecute⟩ | ⟨hsessions, hnone⟩
  · obtain ⟨done, performed, entries, answers, draws, hdone, hperform, hafter⟩ :=
      completed_of_executeCommand hexecute
    rw [pastsAfter, hdone, hafter]
    -- first the handler, then the use of the sessions of the entries
    exact (h.perform hperform).keepsPolicies (useSessions_keepsPolicies _ _ _)
  · have hpasts : pastsAfter engine pasts event = pasts := by
      cases event with
      | command envelope => rw [pastsAfter, hnone envelope rfl]
      | _ => rfl
    rw [hsessions, hpasts]
    exact h

theorem afterAll (h : Recorded pasts engine.state.sessions) (events : List Event) :
    Recorded (pastsAfterAll engine pasts events) (engine.afterAll events).state.sessions := by
  induction events generalizing engine pasts with
  | nil => exact h
  | cons event events ih => exact ih (h.after event)

end Recorded

/-! ## The theorem -/

/-- A command adds to a past at most the assertion that it made itself. -/
theorem mem_of_mem_past {done : Completed} {env : Environment} {pasts : Pasts} {handle : UInt32}
    {step : PolicyStep} (h : step ∈ done.past env pasts handle) :
    step ∈ pasts handle ∨ step.env = env := by
  have updated : ∀ {other : UInt32} {past : List PolicyStep},
      (∀ new ∈ past, new ∈ pasts other ∨ new.env = env) →
      step ∈ Function.update pasts other past handle → step ∈ pasts handle ∨ step.env = env := by
    intro other past hpast hstep
    by_cases hhandle : handle = other
    · subst hhandle
      rw [Function.update_self] at hstep
      exact hpast step hstep
    · rw [Function.update_of_ne hhandle] at hstep
      exact .inl hstep
  unfold Completed.past at h
  cases hstarted : done.started? with
  | some started =>
    rw [hstarted] at h
    exact updated (by simp) h
  | none =>
    rw [hstarted] at h
    cases hasserted : done.asserted? env with
    | none =>
      rw [hasserted] at h
      exact .inl h
    | some made =>
      rw [hasserted] at h
      refine updated (fun new hnew => ?_) h
      rcases List.mem_append.mp hnew with hearlier | hlast
      · exact .inl hearlier
      · rw [List.mem_singleton.mp hlast]
        exact .inr rfl

theorem crypto_pastsAfterAll {engine : Engine} {pasts : Pasts} {crypto : Crypto}
    (hcrypto : engine.env.crypto = crypto)
    (h : ∀ handle, ∀ step ∈ pasts handle, step.env.crypto = crypto) (events : List Event) :
    ∀ handle, ∀ step ∈ pastsAfterAll engine pasts events handle, step.env.crypto = crypto := by
  induction events generalizing engine pasts with
  | nil => exact h
  | cons event events ih =>
    refine ih ((crypto_after engine event).trans hcrypto) ?_
    intro handle step hstep
    cases event with
    | command envelope =>
      rw [pastsAfter] at hstep
      cases hdone : completed? engine envelope with
      | none =>
        rw [hdone] at hstep
        exact h handle step hstep
      | some done =>
        rw [hdone] at hstep
        rcases mem_of_mem_past hstep with hearlier | henv
        · exact h handle step hearlier
        · rw [henv]
          exact hcrypto
    | _ => exact h handle step hstep

/-- The assertions that were carried out on the session of a handle since it started, in an engine
that is new before the events. -/
def policyPast (crypto : Crypto) (config : Config) (events : List Event) : Pasts :=
  pastsAfterAll (Engine.new crypto config) (fun _ => []) events

/-- However an engine got to where it is, the policy of each of its sessions is what the assertions
that were carried out on the session make of the policy of a new one. -/
theorem policy_records_past {crypto : Crypto} {config : Config} {events : List Event}
    {handle : UInt32} {session : Session}
    (hlive : ((Engine.new crypto config).afterAll events).state.sessions.get? handle
      = some session) :
    ∃ hash : HashId, session.hashAlg = hash.alg ∧
      session.policy.Records session.isTrial hash (policyPast crypto config events handle) ∧
      ∀ step ∈ policyPast crypto config events handle, step.env.crypto = crypto := by
  have hnew : Recorded (fun _ => []) (Engine.new crypto config).state.sessions := .empty _ _
  obtain ⟨hash, hhash, hrecords⟩ := hnew.afterAll events handle session hlive
  have hempty : ∀ other, ∀ step ∈ (fun _ => [] : Pasts) other, step.env.crypto = crypto := by
    intro other step hstep
    cases hstep
  exact ⟨hash, hhash, hrecords, crypto_pastsAfterAll rfl hempty events handle⟩

/-- A session is started and four assertions are made on it, the second of which is refused: it
wants to restrict the session to another command than the first. A PCR is extended in between. -/
def restrictedEvents : List Event := [
  .command (startRequest []),
  .command (RequestBuilder.request .policyCommandCode
    (⟨0x03000000, CommandCode.flushContext.code⟩ : PolicyCommandCodeRequest) []),
  .command (RequestBuilder.request .policyCommandCode
    (⟨0x03000000, CommandCode.policySigned.code⟩ : PolicyCommandCodeRequest) []),
  .extendPcr 7 [1],
  .command (RequestBuilder.request .policyPcr
    (⟨0x03000000, .empty, .single .sha256 [7]⟩ : PolicyPcrRequest) []),
  .command (RequestBuilder.request .policyPassword (⟨0x03000000⟩ : PolicyPasswordRequest) [])]

theorem policy_records_past_restricted :
    let crypto : Crypto := .standard fun _ size => Bytes.zeros size
    let past := policyPast crypto .standard restrictedEvents 0x03000000
    past.map (·.assertion) =
        [.commandCode CommandCode.flushContext.code, .pcr .empty (.single .sha256 [7]),
          .password] ∧
      ∃ session hash,
        ((Engine.new crypto .standard).afterAll restrictedEvents).state.sessions.get? 0x03000000
            = some session ∧
          session.hashAlg = HashId.alg hash ∧
          session.policy.Records session.isTrial hash past ∧
          ∀ step ∈ past, step.env.crypto = crypto := by
  intro crypto past
  have hlive : (((Engine.new crypto .standard).afterAll restrictedEvents).state.sessions.get?
      0x03000000).isSome = true := by decide +kernel
  obtain ⟨session, hsession⟩ := Option.isSome_iff_exists.mp hlive
  obtain ⟨hash, hhash, hrecords, hcrypto⟩ := policy_records_past hsession
  exact ⟨by decide +kernel, session, hash, hsession, hhash, hrecords, hcrypto⟩

end Engine

end TrustedPlatform
