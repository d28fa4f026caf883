import TrustedPlatform.Proofs.Engine.Completed

/-!
# What is true of every session

A property of sessions holds of every live session in every state that an engine can get to, if new
sessions have it and if no assertion, touch or use takes it away from a session. That is
`SessionInvariant.reached`; the four conditions are the fields of `SessionInvariant`, and those of
`SessionStable` are the three that tell of sessions that are live already.
-/

namespace TrustedPlatform.Engine

open SessionTable (KeepsPolicies)

/-- A property of sessions, each under its handle, that nothing takes away from a live session. -/
structure SessionStable (crypto : Crypto) (P : UInt32 → Session → Prop) : Prop where
  apply : ∀ {env : Environment} {handle : UInt32} {session next : Session} {assertion : Assertion}
    {outcome : PolicyOutcome}, env.crypto = crypto → P handle session →
    Policy.apply env session assertion = .ok (next, outcome) → P handle next
  touch : ∀ {handle : UInt32} {session : Session} (stamp : Nat), P handle session →
    P handle { session with lastUsed := stamp }
  use : ∀ {handle : UInt32} {session : Session} {draw : Nat} (nonceCaller : Bytes)
    (attributes : SessionAttributes), P handle session →
    P handle { session with
      nonceCaller := nonceCaller
      nonceTpm := crypto.random draw session.hashAlg.digestSize
      attributes := attributes }

/-- A property of sessions that new ones have and nothing takes away. -/
structure SessionInvariant (crypto : Crypto) (P : UInt32 → Session → Prop) : Prop
    extends SessionStable crypto P where
  start : ∀ {parameters : SessionParameters} {table next : SessionTable} {handle : UInt32}
    {hash : HashId} {draw : Nat} (stamp : Nat),
    SessionTable.start parameters table = .ok handle next → parameters.hashAlg = hash.alg →
    parameters.nonceTpm = crypto.random draw hash.digestSize →
    P handle (.start handle parameters stamp)

/-- Every live session has the property. -/
def Holds (P : UInt32 → Session → Prop) (table : SessionTable) : Prop :=
  ∀ handle session, table.get? handle = some session → P handle session

/-! ## Tables -/

namespace Holds

variable {P : UInt32 → Session → Prop} {table next : SessionTable} {handle : UInt32}
  {session : Session}

theorem insert (h : Holds P table) (hsession : P handle session) :
    Holds P (table.insert handle session) := by
  intro other found hlive
  rw [SessionTable.get?_insert] at hlive
  split at hlive
  · rename_i hother
    cases hlive
    rw [hother]
    exact hsession
  · exact h other found hlive

theorem erase (h : Holds P table) (handle : UInt32) : Holds P (table.erase handle) := by
  intro other found hlive
  exact h other found (SessionTable.get?_of_get?_erase hlive)

theorem of_entries_eq (h : Holds P table) (hentries : next.entries = table.entries) :
    Holds P next := by
  intro other found hlive
  rw [SessionTable.get?, hentries] at hlive
  exact h other found hlive

/-- A session that is started takes the place of whatever was under its handle. -/
theorem start {parameters : SessionParameters}
    (h : Holds (fun other session => other ≠ handle → P other session) table)
    (hstart : SessionTable.start parameters table = .ok handle next)
    (hnew : ∀ stamp, P handle (.start handle parameters stamp)) : Holds P next := by
  obtain ⟨roomy, nextIndex, hroom, _, rfl⟩ := SessionTable.start_eq_ok_iff.mp hstart
  intro other found hlive
  rw [SessionTable.get?_insert] at hlive
  split at hlive
  · rename_i hother
    cases hlive
    rw [hother]
    exact hnew _
  · rename_i hother
    exact h other found (SessionTable.get?_of_makeRoom hroom hlive) hother

end Holds

/-! ## The nonces of a response -/

/-- If the session of the entry is live, the nonce that answers it was drawn for the session. -/
def Drawn (crypto : Crypto) (table : SessionTable) (entry : AuthCommand) (answer : AuthResponse) :
    Prop :=
  ∀ session, table.get? entry.sessionHandle = some session →
    ∃ draw, answer.nonce.bytes = crypto.random draw session.hashAlg.digestSize

section

variable {env : Environment} {state next : State}

theorem drawn_of_answerEntry {entry : AuthCommand} {answer : AuthResponse}
    (h : answerEntry env entry state = .ok answer next) :
    Drawn env.crypto state.sessions entry answer ∧ next.sessions = state.sessions := by
  obtain ⟨found, _, hfound, hanswer⟩ := EStateM.bind_eq_ok_iff.mp h
  obtain ⟨hget, rfl⟩ := Action.session?_eq_ok_iff.mp hfound
  cases found with
  | none =>
    obtain ⟨_, rfl⟩ := EStateM.pure_eq_ok_iff.mp hanswer
    refine ⟨fun session hlive => ?_, rfl⟩
    cases hget.symm.trans hlive
  | some live =>
    obtain ⟨nonce, _, hdraw, hpure⟩ := EStateM.bind_eq_ok_iff.mp hanswer
    obtain ⟨rfl, rfl⟩ := Action.draw_eq_ok_iff.mp hdraw
    obtain ⟨rfl, rfl⟩ := EStateM.pure_eq_ok_iff.mp hpure
    refine ⟨fun session hlive => ?_, rfl⟩
    cases hget.symm.trans hlive
    exact ⟨_, rfl⟩

theorem drawn_of_answerEntries {entries : List AuthCommand} {answers : List AuthResponse}
    (h : entries.mapM (answerEntry env) state = .ok answers next) :
    ∀ use ∈ entries.zip answers, Drawn env.crypto state.sessions use.1 use.2 := by
  induction entries generalizing state answers with
  | nil => simp
  | cons entry entries ih =>
    rw [List.mapM_cons] at h
    obtain ⟨answer, middle, hfirst, hothers⟩ := EStateM.bind_eq_ok_iff.mp h
    obtain ⟨others, _, hrest, hpure⟩ := EStateM.bind_eq_ok_iff.mp hothers
    obtain ⟨rfl, rfl⟩ := EStateM.pure_eq_ok_iff.mp hpure
    obtain ⟨hdrawn, hsame⟩ := drawn_of_answerEntry hfirst
    intro use hmem
    rcases List.mem_cons.mp hmem with rfl | hmem
    · exact hdrawn
    · rw [← hsame]
      exact ih hrest use hmem

end

/-! ## Runs -/

section

variable {crypto : Crypto} {P : UInt32 → Session → Prop} {table : SessionTable}
  {env : Environment} {state next : State} {engine : Engine}

namespace SessionStable

variable (hP : SessionStable crypto P)

include hP

theorem of_touch {handle : UInt32} {session : Session} {touched : SessionTable}
    (h : Holds P table) (htouch : SessionTable.touch handle table = .ok session touched) :
    P handle session ∧ Holds P touched := by
  obtain ⟨old, hold, rfl, rfl⟩ := SessionTable.touch_eq_ok_iff.mp htouch
  have hstamped : P handle { old with lastUsed := table.useClock + 1 } :=
    hP.touch _ (h handle old hold)
  have hclock : Holds P { table with useClock := table.useClock + 1 } := h.of_entries_eq rfl
  exact ⟨hstamped, hclock.insert hstamped⟩

theorem makeAssertion {handle : UInt32} {index : UInt8} {assertion : Assertion}
    {outcome : PolicyOutcome} (hcrypto : env.crypto = crypto) (h : Holds P state.sessions)
    (hmake : Engine.makeAssertion env handle index assertion state = .ok outcome next) :
    Holds P next.sessions := by
  obtain ⟨session, touched, applied, htouch, happly, rfl⟩ := makeAssertion_eq_ok_iff.mp hmake
  obtain ⟨hsession, htouched⟩ := hP.of_touch h htouch
  exact htouched.insert (hP.apply hcrypto hsession happly)

/-- A command that starts no session leaves the property to the live ones. -/
theorem perform {done : Completed} (hcrypto : env.crypto = crypto) (h : Holds P state.sessions)
    (hperform : Engine.perform env done.command done.request state = .ok done.answer next)
    (hnone : done.started? = none) : Holds P next.sessions := by
  cases Completed.effect_of_perform hperform with
  | started hstarted => cases hnone.symm.trans hstarted
  | dropped _ _ hnext =>
    rw [hnext]
    exact h.erase _
  | asserted _ _ hmake => exact hP.makeAssertion hcrypto h hmake
  | kept _ _ hnext =>
    rw [hnext]
    exact h

theorem useSession {entry : AuthCommand} {answer : AuthResponse} {before : SessionTable}
    (h : Holds P table) (hkept : before.KeepsPolicies table)
    (hdrawn : Drawn crypto before entry answer) : Holds P (useSession table entry answer) := by
  rcases useSession_cases table entry answer with hnone | ⟨session, touched, htouch, huse⟩
  · rw [hnone]
    exact h.of_entries_eq rfl
  · obtain ⟨hsession, htouched⟩ := hP.of_touch h htouch
    -- the session that the nonce was drawn for has the hash of the one that gets it
    obtain ⟨old, hold, _, halg, _⟩ :=
      (hkept.trans (.touch htouch)) _ _ (SessionTable.get?_of_touch htouch)
    obtain ⟨draw, hnonce⟩ := hdrawn old hold
    rw [← halg] at hnonce
    rcases huse with hput | hdrop
    · rw [hput, hnonce]
      exact htouched.insert (hP.use _ _ hsession)
    · rw [hdrop]
      exact htouched.erase _

theorem useSessions {before : SessionTable} {entries : List AuthCommand}
    {answers : List AuthResponse} (h : Holds P before)
    (hdrawn : ∀ use ∈ entries.zip answers, Drawn crypto before use.1 use.2) :
    Holds P (useSessions before entries answers) := by
  have kept : ∀ (uses : List (AuthCommand × AuthResponse)) (table : SessionTable),
      (∀ use ∈ uses, Drawn crypto before use.1 use.2) → Holds P table →
      before.KeepsPolicies table →
      Holds P (uses.foldl (fun table use => Engine.useSession table use.1 use.2) table) := by
    intro uses
    induction uses with
    | nil =>
      intro table _ htable _
      exact htable
    | cons use uses ih =>
      intro table huses htable hkept
      have hfirst := hP.useSession htable hkept (huses use List.mem_cons_self)
      exact ih _ (fun other hmem => huses other (List.mem_cons_of_mem use hmem)) hfirst
        (hkept.trans (useSession_keepsPolicies table use.1 use.2))
  exact kept _ before hdrawn h (.refl before)

/-- What the handler of a command leaves to all sessions, the use of the sessions of the entries
leaves to them as well. -/
theorem after_command (hcrypto : engine.env.crypto = crypto) {envelope response : Bytes}
    (hexecute : executeCommand envelope engine
      = .ok response (engine.after (.command envelope))) :
    ∃ done performed, completed? engine envelope = some done ∧
      Engine.perform engine.env done.command done.request engine.state
        = .ok done.answer performed ∧
      (Holds P performed.sessions →
        Holds P (engine.after (.command envelope)).state.sessions) := by
  obtain ⟨done, performed, entries, answers, answered, hdone, hperform, hanswers, hafter⟩ :=
    answered_of_executeCommand hexecute
  have hdrawn := drawn_of_answerEntries hanswers
  rw [hcrypto] at hdrawn
  refine ⟨done, performed, hdone, hperform, fun h => ?_⟩
  rw [hafter]
  exact hP.useSessions h hdrawn

end SessionStable

namespace SessionInvariant

variable (hP : SessionInvariant crypto P)

include hP

theorem perform {done : Completed} (hcrypto : env.crypto = crypto) (h : Holds P state.sessions)
    (hperform : Engine.perform env done.command done.request state = .ok done.answer next) :
    Holds P next.sessions := by
  cases Completed.effect_of_perform hperform with
  | started _ _ halg hnonce hstart =>
    exact Holds.start (fun other session hlive _ => h other session hlive) hstart fun stamp =>
      hP.start stamp hstart halg (by rw [hnonce, hcrypto])
  | dropped hnone => exact hP.toSessionStable.perform hcrypto h hperform hnone
  | asserted hnone => exact hP.toSessionStable.perform hcrypto h hperform hnone
  | kept hnone => exact hP.toSessionStable.perform hcrypto h hperform hnone

theorem after (hcrypto : engine.env.crypto = crypto) (h : Holds P engine.state.sessions)
    (event : Event) : Holds P (engine.after event).state.sessions := by
  rcases after_cases engine event with ⟨envelope, response, rfl, hexecute⟩ | ⟨hsessions, _⟩
  · obtain ⟨_, _, _, hperform, hafter⟩ := hP.after_command hcrypto hexecute
    exact hafter (hP.perform hcrypto h hperform)
  · rw [hsessions]
    exact h

/-- An invariant holds of every session in every state of every run. -/
theorem reached (config : Config) (events : List Event) :
    Holds P (Engine.reached crypto config events).state.sessions := by
  have hnew : Holds P (Engine.new crypto config).state.sessions := by
    intro handle session hlive
    cases hlive
  -- the cryptography is the same all along
  have hrun := afterAll_induct
    (fun engine => engine.env.crypto = crypto ∧ Holds P engine.state.sessions)
    (fun engine event h => ⟨(crypto_after engine event).trans h.1, hP.after h.1 h.2 event⟩)
    ⟨rfl, hnew⟩ events
  exact hrun.2

end SessionInvariant

end

end TrustedPlatform.Engine
