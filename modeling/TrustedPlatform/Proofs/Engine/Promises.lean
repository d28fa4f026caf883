import TrustedPlatform.Proofs.Engine.LiveSessions
import TrustedPlatform.Proofs.Policy.Authorization
import TrustedPlatform.Proofs.Policy.Promises
import TrustedPlatform.Proofs.SessionTable.FreeHandle

/-!
# An engine keeps its promises

A command ends in a response or a refusal, not in a breach, and the answer of its handler and the
answers to its authorization entries have a form on the wire. This rests on what is true of every
engine that can be reached with collaborators that keep to the lengths they state: `Engine.Sound`.
Two things can still go wrong: a range of session handles may be used up, and an authorization may
expire beyond the end of the clock.
-/

namespace TrustedPlatform

/-- What an environment is relied on for: digests and draws are as long as they are asked to be, and
each bank has a value for every PCR. -/
structure Environment.Sound (env : Environment) : Prop where
  sized : env.crypto.FixedLength
  random : ∀ draw size, (env.crypto.random draw size).length = size
  pcrs : env.pcrs.Full

namespace Engine

/-- What the promises of an engine rest on. -/
structure Sound (engine : Engine) : Prop where
  env : engine.env.Sound
  sessions : Holds Session.Sound engine.state.sessions

/-! ## Engines that can be reached -/

theorem pcrs_after {engine : Engine} (h : engine.env.pcrs.Full) (event : Event) :
    (engine.after event).env.pcrs.Full := by
  cases event with
  | command envelope =>
    rw [after_command_eq]
    exact h
  | extendPcr index data =>
    rw [Engine.after]
    cases hextend : engine.extendPcr index data with
    | error cause => exact h
    | ok next =>
      obtain ⟨pcrs, hpcrs, hnext⟩ := Except.bind_eq_ok_iff.mp hextend
      cases Except.pure_eq_ok_iff.mp hnext
      exact h.extend hpcrs
  | _ => exact h

/-- Whatever was sent to an engine and happened to it, it is sound. -/
theorem sound_reached {crypto : Crypto} {config : Config} {events : List Event}
    (hsized : crypto.FixedLength)
    (hrandom : ∀ draw size, (crypto.random draw size).length = size) :
    (reached crypto config events).Sound := by
  have hlengths : (reached crypto config events).env.crypto.FixedLength := by
    rw [crypto_reached]
    exact hsized
  have hdraws : ∀ draw size,
      ((reached crypto config events).env.crypto.random draw size).length = size := by
    rw [crypto_reached]
    exact hrandom
  have hpcrs : (reached crypto config events).env.pcrs.Full :=
    afterAll_induct (·.env.pcrs.Full) (fun _ event h => pcrs_after h event) PcrBanks.full_initial
      events
  exact ⟨⟨hlengths, hdraws, hpcrs⟩, (sound_invariant hrandom).reached config events⟩

/-! ## Actions that do not end in a breach -/

/-- If the action, carried out in the state, ends in a breach, then the breach is an allowed one. -/
def Action.Breaks {α : Type} (allowed : Breach → Prop) (action : Action α) (state : State) :
    Prop :=
  ∀ breach stopped, action state = .error (.breach breach) stopped → allowed breach

/-- The action, carried out in the state, does not end in a breach. -/
def Action.KeepsPromises {α : Type} (action : Action α) (state : State) : Prop :=
  ∀ breach stopped, action state ≠ .error (.breach breach) stopped

namespace Action.Breaks

variable {α β : Type} {allowed : Breach → Prop} {action : Action α} {state : State}

theorem of_keepsPromises (h : action.KeepsPromises state) : Breaks allowed action state :=
  fun breach stopped heq => absurd heq (h breach stopped)

theorem bind {next : α → Action β} (h : Breaks allowed action state)
    (hnext : ∀ value middle, action state = .ok value middle →
      Breaks allowed (next value) middle) : Breaks allowed (action >>= next) state := by
  cases haction : action state with
  | ok value middle =>
    intro breach stopped
    rw [EStateM.bind_of_ok haction]
    exact hnext value middle haction breach stopped
  | error stop stopped =>
    intro breach stopped'
    rw [EStateM.bind_of_error haction]
    intro heq
    cases heq
    exact h breach _ haction

/-- A check that rejects, or goes on. -/
theorem rejectIf {check : Prop} [Decidable check] {fault : Fault}
    (h : Breaks allowed action state) :
    Breaks allowed
      (if check then do (Action.reject fault : Action PUnit); action else action) state := by
  split
  · refine bind (fun breach stopped heq => ?_) fun _ _ hok => (Action.reject_eq_ok_iff.mp hok).elim
    cases heq
  · exact h

end Action.Breaks

namespace Action.KeepsPromises

variable {α β : Type} {state : State}

theorem pure (value : α) : KeepsPromises (Pure.pure value : Action α) state := by
  intro breach stopped h
  cases h

theorem reject (fault : Fault) : KeepsPromises (Action.reject fault : Action α) state := by
  intro breach stopped h
  cases h

theorem ofExcept {result : Except Stop α} (h : result.KeepsPromises) :
    KeepsPromises (Action.ofExcept result) state := by
  cases result with
  | ok value => exact pure value
  | error stop =>
    intro breach stopped heq
    cases heq
    exact h breach rfl

theorem session? (handle : UInt32) : KeepsPromises (Action.session? handle) state := by
  intro breach stopped h
  cases h

theorem draw (crypto : Crypto) (size : Nat) : KeepsPromises (Action.draw crypto size) state := by
  intro breach stopped h
  cases h

theorem update (change : State → State) :
    KeepsPromises (modify change : Action PUnit) state := by
  intro breach stopped h
  cases h

theorem onSessionsAt (site : Cause → Fault) (step : EStateM Cause SessionTable α) :
    KeepsPromises (Action.onSessionsAt site step) state := by
  intro breach stopped h
  unfold Action.onSessionsAt at h
  split at h
  · cases h
  · cases h

theorem bind {action : Action α} {next : α → Action β} (h : action.KeepsPromises state)
    (hnext : ∀ value middle, action state = .ok value middle →
      (next value).KeepsPromises middle) : KeepsPromises (action >>= next) state :=
  (Breaks.bind h hnext : Breaks (fun _ => False) (action >>= next) state)

/-- A check that rejects, or goes on. -/
theorem rejectIf {check : Prop} [Decidable check] {fault : Fault} {rest : Action α}
    (h : rest.KeepsPromises state) :
    KeepsPromises (if check then do (Action.reject fault : Action PUnit); rest else rest)
      state :=
  (Breaks.rejectIf h : Breaks (fun _ => False) _ state)

end Action.KeepsPromises

/-! ## Handlers -/

open TrustedPlatform.Engine.Action (Breaks KeepsPromises)

variable {env : Environment} {state next : State}

/-- The breach is that a range has no free handle: there is room for a session, and every handle of
the range is in use. -/
def UsedUp (table : SessionTable) (kind : SessionKind) (breach : Breach) : Prop :=
  breach = .handlesExhausted ∧ ∃ roomy, table.makeRoom = .ok roomy ∧
    2 ^ 24 ≤ (roomy.liveIn (SessionTable.handleKind kind)).length

theorem start_breaks (parameters : SessionParameters) :
    Breaks (UsedUp state.sessions parameters.kind)
      (Action.onSessions (SessionTable.start parameters)) state := by
  intro breach stopped h
  unfold Action.onSessions SessionTable.start at h
  cases hroom : state.sessions.makeRoom with
  | error stop =>
    -- a full table that may not evict is a fault, and no breach
    obtain ⟨_, _, rfl⟩ := SessionTable.makeRoom_eq_error_iff.mp hroom
    simp only [hroom] at h
    cases h
  | ok roomy =>
    cases hfound : roomy.freeHandle? (SessionTable.handleKind parameters.kind) (roomy.size + 1)
        roomy.nextIndex with
    | some found =>
      simp only [hroom, hfound] at h
      cases h
    | none =>
      simp only [hroom, hfound] at h
      cases h
      refine ⟨rfl, roomy, hroom, ?_⟩
      -- the search tried one handle more than there are sessions
      by_contra hfree
      have hsize := SessionTable.length_liveIn_le roomy (SessionTable.handleKind parameters.kind)
      have hsome : (roomy.freeHandle? (SessionTable.handleKind parameters.kind) (roomy.size + 1)
          roomy.nextIndex).isSome :=
        SessionTable.freeHandle?_isSome (Nat.lt_of_not_le hfree) (Nat.lt_succ_of_le hsize)
      rw [hfound] at hsome
      cases hsome

theorem startAuthSession_breaks (r : StartAuthSessionRequest) :
    Breaks (UsedUp state.sessions r.kind) (startAuthSession env r) state := by
  unfold startAuthSession
  refine .rejectIf (.rejectIf (.bind (.of_keepsPromises ?_) fun bound middle hbound => ?_))
  · unfold boundEntity
    split
    · exact .pure none
    · split
      · exact .pure _
      · exact .reject _
  · obtain ⟨_, _, rfl⟩ := boundEntity_eq_ok_iff.mp hbound
    split
    · exact .of_keepsPromises (.reject _)
    · refine .rejectIf (.bind (.of_keepsPromises (.draw _ _)) fun nonceTpm drawn hdraw => ?_)
      obtain ⟨_, rfl⟩ := Action.draw_eq_ok_iff.mp hdraw
      exact .bind (start_breaks _) fun _ _ _ => .of_keepsPromises (.pure _)

theorem startAuthSession_keepsPromises {r : StartAuthSessionRequest}
    (hfree : ∀ roomy, state.sessions.makeRoom = .ok roomy →
      (roomy.liveIn (SessionTable.handleKind r.kind)).length < 2 ^ 24) :
    KeepsPromises (startAuthSession env r) state := by
  intro breach stopped h
  obtain ⟨_, roomy, hroom, hused⟩ := startAuthSession_breaks r breach stopped h
  exact absurd (hfree roomy hroom) (Nat.not_lt.mpr hused)

theorem flushContext_keepsPromises (r : FlushContextRequest) :
    KeepsPromises (flushContext r) state := by
  unfold flushContext
  split
  · exact .bind (.onSessionsAt _ _) fun _ _ _ => .pure _
  · exact .bind (.onSessionsAt _ _) fun _ _ _ => .pure _
  · exact .reject _

theorem makeAssertion_keepsPromises {handle : UInt32} {index : UInt8} {assertion : Assertion}
    (henv : env.Sound)
    (hrange : ∀ session, state.sessions.get? handle = some session →
      Policy.InRange session assertion) :
    KeepsPromises (makeAssertion env handle index assertion) state := by
  refine .bind (.onSessionsAt _ _) fun session middle hsession => ?_
  obtain ⟨htouch, _⟩ := Action.onSessionsAt_eq_ok_iff.mp hsession
  obtain ⟨old, hold, rfl, _⟩ := SessionTable.touch_eq_ok_iff.mp htouch
  -- the stamp has no part in the range
  have hstamped : Policy.InRange { old with lastUsed := state.sessions.useClock + 1 }
      assertion := by
    have h := hrange old hold
    cases assertion <;> exact h
  refine .bind (.ofExcept (Policy.apply_keepsPromises henv.sized henv.pcrs hstamped))
    fun applied _ _ => ?_
  exact .bind (.update _) fun _ _ _ => .pure _

theorem makePlainAssertion_keepsPromises {handle : UInt32} {assertion : Assertion}
    (henv : env.Sound)
    (hrange : ∀ session, state.sessions.get? handle = some session →
      Policy.InRange session assertion) :
    KeepsPromises (makePlainAssertion env handle assertion) state :=
  .bind (makeAssertion_keepsPromises henv hrange) fun _ _ _ => .pure _

theorem policySigned_keepsPromises {r : PolicySignedRequest} (henv : env.Sound)
    (hexpires : ∀ session, state.sessions.get? r.policySession = some session →
      Policy.FitsClock session r.nonceTpm r.expiration) :
    KeepsPromises (policySigned env r) state := by
  unfold policySigned
  split
  · exact .reject _
  · refine .bind (makeAssertion_keepsPromises henv hexpires) fun outcome _ _ => ?_
    cases outcome with
    | done => exact .reject _
    | signed timeout ticket => exact .pure _

theorem policyGetDigest_keepsPromises (r : PolicyGetDigestRequest) :
    KeepsPromises (policyGetDigest r) state := by
  unfold policyGetDigest
  refine .bind (.session? _) fun session _ _ => ?_
  cases session with
  | none => exact .reject _
  | some session => exact .rejectIf (.pure _)

theorem verifySignature_keepsPromises (r : VerifySignatureRequest) :
    KeepsPromises (verifySignature env r) state := by
  unfold verifySignature
  split
  · exact .reject _
  · split
    · exact .reject _
    · refine .rejectIf (.bind (.ofExcept (Policy.liftAt_keepsPromises 2 _)) fun valid _ _ => ?_)
      refine .rejectIf (.bind (.ofExcept (Policy.lift_keepsPromises _)) fun ticket _ _ => ?_)
      exact .pure _

/-- The request does not go beyond what the engine can count: if there is room for the session to be
started, not all handles for it are in use, and the ticket of the signed authorization does not
expire beyond the end of the clock. -/
def WithinLimits (table : SessionTable) : (command : Command) → command.Request → Prop
  | .startAuthSession, r => ∀ roomy, table.makeRoom = .ok roomy →
    (roomy.liveIn (SessionTable.handleKind (StartAuthSessionRequest.kind r))).length < 2 ^ 24
  | .policySigned, r => ∀ session,
    table.get? (PolicySignedRequest.policySession r) = some session →
      Policy.FitsClock session (PolicySignedRequest.nonceTpm r) (PolicySignedRequest.expiration r)
  | _, _ => True

theorem perform_keepsPromises {command : Command} {r : command.Request} (henv : env.Sound)
    (hvalid : Layout.Valid r) (hlimits : WithinLimits state.sessions command r) :
    KeepsPromises (perform env command r) state := by
  cases command with
  | startAuthSession => exact startAuthSession_keepsPromises hlimits
  | flushContext => exact flushContext_keepsPromises r
  | policyPcr =>
    -- the selections of a request that was read are those of PCRs
    have hpcrs : (PolicyPcrRequest.pcrs r).Valid := hvalid.2.1
    exact makePlainAssertion_keepsPromises henv fun _ _ => hpcrs
  | policySigned => exact policySigned_keepsPromises henv hlimits
  | policyGetDigest => exact policyGetDigest_keepsPromises r
  | verifySignature => exact verifySignature_keepsPromises r
  | _ => exact makePlainAssertion_keepsPromises henv fun _ _ => trivial

/-! ## Answers -/

theorem length_random_le (henv : env.Sound) (draw : Nat) (alg : AlgId) :
    (env.crypto.random draw alg.digestSize).length ≤ maxDigestSize := by
  rw [henv.random]
  cases alg <;> decide

theorem valid_of_length_le {digest : Digest} (h : digest.bytes.length ≤ maxDigestSize) :
    digest.Valid :=
  ⟨h, Nat.lt_of_le_of_lt h (by decide)⟩

/-- What a signed authorization gives back has a form on the wire. -/
theorem valid_of_policySigned {r : PolicySignedRequest} {answer : PolicySignedResponse}
    (henv : env.Sound) (h : policySigned env r state = .ok answer next) :
    Layout.Valid answer := by
  obtain ⟨_, _, hmake⟩ := policySigned_eq_ok_iff.mp h
  obtain ⟨session, _, _, _, happly, _⟩ := makeAssertion_eq_ok_iff.mp hmake
  obtain ⟨_, _, _, houtcome, _, _⟩ := Policy.apply_eq_ok_iff.mp happly
  have hissued := Policy.signedOutcome_eq_ok_iff.mp houtcome
  split at hissued
  · obtain ⟨_, ticket, hissue, heq⟩ := hissued
    obtain ⟨htimeout, hticket⟩ := PolicyOutcome.signed.inj heq
    have hvalid : answer.policyTicket.Valid :=
      TicketAuthority.valid_of_issue henv.sized (hticket ▸ hissue)
    have hlength : answer.timeout.bytes.length = timeoutSize := by
      rw [htimeout]
      show (be64 _ ++ be32 _).length = 12
      rw [List.length_append, length_be64, length_be32]
    exact ⟨.inr hlength, hvalid, trivial⟩
  · obtain ⟨htimeout, hticket⟩ := PolicyOutcome.signed.inj hissued
    have hvalid : answer.policyTicket.Valid := by
      rw [hticket]
      exact ⟨by decide, by decide⟩
    exact ⟨.inl htimeout, hvalid, trivial⟩

/-- The answer of a handler has a form on the wire. -/
theorem valid_of_perform {command : Command} {r : command.Request} {answer : command.Response}
    (henv : env.Sound) (hsessions : Holds Session.Sound state.sessions)
    (h : perform env command r state = .ok answer next) : Layout.Valid answer := by
  cases command with
  | startAuthSession =>
    obtain ⟨_, _, _, hash, _, _, _, hnonce, _, _⟩ := startAuthSession_eq_ok_iff.mp h
    have hlength : (StartAuthSessionResponse.nonceTpm answer).bytes.length ≤ maxDigestSize := by
      rw [hnonce, ← HashId.digestSize_alg]
      exact length_random_le henv _ _
    exact ⟨valid_of_length_le hlength, trivial⟩
  | policySigned => exact valid_of_policySigned henv h
  | policyGetDigest =>
    obtain ⟨session, hlive, _, rfl, _⟩ := policyGetDigest_eq_ok_iff.mp h
    obtain ⟨hash, _, hdigest, _⟩ := (hsessions _ _ hlive).lengths
    have hlength : session.policy.digest.length ≤ maxDigestSize := by
      rw [hdigest]
      cases hash <;> decide
    exact ⟨valid_of_length_le hlength, trivial⟩
  | verifySignature =>
    obtain ⟨_, _, _, _, _, _, hissue, _⟩ := verifySignature_eq_ok_iff.mp h
    exact ⟨TicketAuthority.valid_of_issue henv.sized hissue, trivial⟩
  | _ => exact trivial

theorem valid_of_answerEntry {entry : AuthCommand} {answer : AuthResponse} (henv : env.Sound)
    (h : answerEntry env entry state = .ok answer next) : answer.Valid := by
  have hempty : (Sized.empty : Sized maxDigestSize).Valid := ⟨by decide, by decide⟩
  obtain ⟨found, _, _, hanswer⟩ := EStateM.bind_eq_ok_iff.mp h
  cases found with
  | none =>
    obtain ⟨rfl, _⟩ := EStateM.pure_eq_ok_iff.mp hanswer
    exact ⟨hempty, hempty⟩
  | some session =>
    obtain ⟨nonce, _, hdraw, hpure⟩ := EStateM.bind_eq_ok_iff.mp hanswer
    obtain ⟨rfl, _⟩ := Action.draw_eq_ok_iff.mp hdraw
    obtain ⟨rfl, _⟩ := EStateM.pure_eq_ok_iff.mp hpure
    exact ⟨valid_of_length_le (length_random_le henv _ _), hempty⟩

/-- The answers to the entries have a form on the wire. -/
theorem valid_of_answerEntries {entries : List AuthCommand} {answers : List AuthResponse}
    (henv : env.Sound) (h : entries.mapM (answerEntry env) state = .ok answers next) :
    ∀ answer ∈ answers, answer.Valid := by
  induction entries generalizing state answers with
  | nil =>
    obtain ⟨rfl, _⟩ := EStateM.pure_eq_ok_iff.mp h
    exact List.forall_mem_nil _
  | cons entry entries ih =>
    rw [List.mapM_cons] at h
    obtain ⟨answer, _, hfirst, hrest⟩ := EStateM.bind_eq_ok_iff.mp h
    obtain ⟨others, _, hothers, hpure⟩ := EStateM.bind_eq_ok_iff.mp hrest
    obtain ⟨rfl, rfl⟩ := EStateM.pure_eq_ok_iff.mp hpure
    exact List.forall_mem_cons.mpr ⟨valid_of_answerEntry henv hfirst, ih hothers⟩

/-! ## Whole commands -/

/-- A response is put together without a breach: if there is one, it is the handler's. -/
theorem respond_breaks (limit : Nat) (command : Command) (request : Request) :
    Breaks
      (fun breach => ∃ arguments stopped,
        Layout.ofAreas command.Request request.handles request.parameters = .ok arguments ∧
          perform env command arguments state = .error (.breach breach) stopped)
      (respond env limit command request) state := by
  intro breach halted h
  cases course env command request state with
  | malformed hareas =>
    rw [respond_of_malformed hareas] at h
    cases h
  | stopped hareas hperform =>
    rw [respond_of_stopped hareas hperform] at h
    cases h
    exact ⟨_, _, hareas, hperform⟩
  | performed hareas hperform hanswers =>
    rw [respond_of_performed hareas hperform hanswers] at h
    split at h
    · cases h
    · cases h

/-- A command that ends in a breach is one whose handler does. -/
theorem perform_of_breach {engine stopped : Engine} {envelope : Bytes} {breach : Breach}
    (h : executeCommand envelope engine = .error (.breach breach) stopped) :
    ∃ command r stopped, requested? engine envelope = some ⟨command, r⟩ ∧ Layout.Valid r ∧
      perform engine.env command r engine.state = .error (.breach breach) stopped := by
  unfold executeCommand process at h
  cases hparse : RequestHeader.parse envelope with
  | error cause =>
    simp only [hparse] at h
    cases h
  | ok header =>
    cases haccept : accept engine.env engine.state.sessions header envelope with
    | error fault =>
      simp only [hparse, haccept] at h
      cases h
    | ok accepted =>
      obtain ⟨command, request⟩ := accepted
      cases hrespond : respond engine.env engine.config.maxResponseSize command request
          engine.state with
      | ok response next =>
        simp only [hparse, haccept, hrespond] at h
        cases h
      | error stop stopped =>
        simp only [hparse, haccept, hrespond] at h
        cases stop with
        | fault fault => cases h
        | breach other =>
          cases h
          obtain ⟨r, stopped', hareas, hperform⟩ := respond_breaks _ _ _ _ _ hrespond
          exact ⟨command, r, stopped',
            requested?_eq_some_iff.mpr ⟨header, request, hparse, haccept, hareas⟩,
            (Layout.ofAreas_eq_ok_iff.mp hareas).1, hperform⟩

/-- A command that reaches a sound engine is answered or refused. -/
theorem executeCommand_keepsPromises {engine stopped : Engine} {envelope : Bytes}
    {breach : Breach} (hsound : engine.Sound)
    (hlimits : ∀ command r, requested? engine envelope = some ⟨command, r⟩ →
      WithinLimits engine.state.sessions command r) :
    executeCommand envelope engine ≠ .error (.breach breach) stopped := by
  intro h
  obtain ⟨command, r, stopped', hrequested, hvalid, hperform⟩ := perform_of_breach h
  exact perform_keepsPromises hsound.env hvalid (hlimits command r hrequested) breach stopped'
    hperform

end Engine

end TrustedPlatform
