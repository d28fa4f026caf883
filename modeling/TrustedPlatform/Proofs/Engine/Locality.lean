import TrustedPlatform.Proofs.Engine.Exchange

/-!
# Commands that concern one session

A command that makes an assertion on a session, or gives its policy digest, looks at no other
session and changes none. What it does depends on the session alone, and not on when the session was
last used, although all sessions share the clock that says so.
-/

namespace TrustedPlatform

/-- The commands that make an assertion, and the one that gives the digest of a policy. -/
def Command.policy : List Command :=
  [policyAuthValue, policyPassword, policyCommandCode, policyPcr, policyAuthorize, policyTicket,
    policySigned, policyGetDigest]

/-! ## Sessions without their stamps -/

/-- The session, whenever it was last used. -/
def Session.unstamped (session : Session) : Session := { session with lastUsed := 0 }

/-- The same session is live under the handle in both tables, or none in either. -/
def SessionTable.SameUnder (handle : UInt32) (table other : SessionTable) : Prop :=
  (table.get? handle).map Session.unstamped = (other.get? handle).map Session.unstamped

theorem Session.commit_stamped (session : Session) (stamp : Nat) (change : PolicyChange) :
    Session.commit { session with lastUsed := stamp } change
      = (session.unstamped.commit change).map fun committed =>
          { committed with lastUsed := stamp } := by
  show (if change.digest.length = session.hashAlg.digestSize then _ else _)
    = Except.map _ (if change.digest.length = session.hashAlg.digestSize then _ else _)
  by_cases hlength : change.digest.length = session.hashAlg.digestSize
  · rw [if_pos hlength, if_pos hlength]
    rfl
  · rw [if_neg hlength, if_neg hlength]
    rfl

/-- When a session was last used has no part in its policy. -/
theorem Policy.apply_stamped (env : Environment) (session : Session) (stamp : Nat)
    (assertion : Assertion) :
    Policy.apply env { session with lastUsed := stamp } assertion
      = (Policy.apply env session.unstamped assertion).map fun applied =>
          ({ applied.1 with lastUsed := stamp }, applied.2) := by
  have hevaluate : evaluate env { session with lastUsed := stamp } assertion
      = evaluate env session.unstamped assertion := rfl
  unfold Policy.apply
  rw [hevaluate]
  cases evaluate env session.unstamped assertion with
  | error stop => rfl
  | ok evaluated =>
    show Session.commit { session with lastUsed := stamp } evaluated.1 >>= _
      = Except.map _ (session.unstamped.commit evaluated.1 >>= _)
    rw [Session.commit_stamped]
    cases session.unstamped.commit evaluated.1 <;> rfl

namespace Engine

/-! ## Actions that concern one session -/

variable {handle : UInt32} {env : Environment}

/-- Two ends that no client of the session can tell apart: the same value and the same session, or
the same stop. -/
inductive SameEnd {ε α : Type} (handle : UInt32) :
    EStateM.Result ε State α → EStateM.Result ε State α → Prop
  | ok {next next' : State} (value : α) (h : next.sessions.SameUnder handle next'.sessions) :
    SameEnd handle (.ok value next) (.ok value next')
  | error {stopped stopped' : State} (stop : ε) :
    SameEnd handle (.error stop stopped) (.error stop stopped')

/-- What the action does depends on the session under the handle only, and if it gives a value, it
leaves the other sessions alone. -/
structure Action.Local {α : Type} (handle : UInt32) (action : Action α) : Prop where
  same : ∀ {state other : State}, state.sessions.SameUnder handle other.sessions →
    SameEnd handle (action state) (action other)
  frame : ∀ {state next : State} {value : α}, action state = .ok value next →
    ∀ other, other ≠ handle → next.sessions.get? other = state.sessions.get? other

namespace Action.Local

variable {α β : Type}

/-- An action that neither looks at the state nor changes it. -/
theorem ofExcept (result : Except Stop α) : Local handle (Action.ofExcept result) where
  same h := by
    cases result with
    | ok value => exact .ok value h
    | error stop => exact .error stop
  frame h other _ := by
    obtain ⟨_, rfl⟩ := Action.ofExcept_eq_ok_iff.mp h
    rfl

theorem pure (value : α) : Local handle (Pure.pure value : Action α) := ofExcept (.ok value)

theorem reject (fault : Fault) : Local handle (Action.reject fault : Action α) :=
  ofExcept (.error (.fault fault))

theorem ofFault (result : Except Fault α) : Local handle (Action.ofFault result) := by
  cases result with
  | ok value => exact pure value
  | error fault => exact reject fault

theorem written (writer : Writer α) (out : Bytes) : Local handle (Engine.written writer out) := by
  unfold Engine.written
  cases writer out with
  | ok _ out => exact pure out
  | error stop _ => exact ofExcept (.error stop)

theorem bind {action : Action α} {next : α → Action β} (h : action.Local handle)
    (hnext : ∀ {state middle : State} {value : α}, action state = .ok value middle →
      (next value).Local handle) : Local handle (action >>= next) where
  same {state other} hsame := by
    have hfirst := h.same hsame
    generalize hstate : action state = first, hother : action other = first' at hfirst
    cases hfirst with
    | ok value hmiddle =>
      rw [EStateM.bind_of_ok hstate, EStateM.bind_of_ok hother]
      exact (hnext hstate).same hmiddle
    | error stop =>
      rw [EStateM.bind_of_error hstate, EStateM.bind_of_error hother]
      exact .error stop
  frame hok other hother := by
    obtain ⟨value, middle, hfirst, hsecond⟩ := EStateM.bind_eq_ok_iff.mp hok
    exact ((hnext hfirst).frame hsecond other hother).trans (h.frame hfirst other hother)

end Action.Local

/-! ## Handlers -/

open TrustedPlatform.Engine.Action (Local)

theorem makeAssertion_of_none (env : Environment) (index : UInt8) (assertion : Assertion)
    {state : State} (hnone : state.sessions.get? handle = none) :
    ∃ stopped, makeAssertion env handle index assertion state
      = .error (.fault (Cause.handleNotFound.atHandle index)) stopped := by
  have hsite : Action.onSessionsAt (·.atHandle index) (SessionTable.touch handle) state
      = .error (.fault (Cause.handleNotFound.atHandle index))
        { state with sessions :=
          { state.sessions with useClock := state.sessions.useClock + 1 } } := by
    unfold Action.onSessionsAt
    rw [SessionTable.touch_eq_error_iff.mpr ⟨hnone, rfl, rfl⟩]
  exact ⟨_, EStateM.bind_of_error hsite⟩

/-- An assertion on a live session ends as it does when it is applied to the session, and the
session is stamped. -/
theorem makeAssertion_of_live (env : Environment) (index : UInt8) (assertion : Assertion)
    {state : State} {session : Session} (hlive : state.sessions.get? handle = some session) :
    ∃ touched, makeAssertion env handle index assertion state =
      match Policy.apply env session.unstamped assertion with
      | .ok (applied, outcome) =>
        .ok outcome { state with
          sessions := touched.insert handle
            { applied with lastUsed := state.sessions.useClock + 1 } }
      | .error stop => .error stop { state with sessions := touched } := by
  obtain ⟨touched, htouch⟩ : ∃ touched, SessionTable.touch handle state.sessions
      = .ok { session with lastUsed := state.sessions.useClock + 1 } touched :=
    ⟨_, touch_of_live hlive⟩
  have hsite : Action.onSessionsAt (·.atHandle index) (SessionTable.touch handle) state
      = .ok { session with lastUsed := state.sessions.useClock + 1 }
        { state with sessions := touched } :=
    Action.onSessionsAt_eq_ok_iff.mpr ⟨htouch, rfl⟩
  refine ⟨touched, (EStateM.bind_of_ok hsite).trans ?_⟩
  rw [Policy.apply_stamped]
  cases Policy.apply env session.unstamped assertion <;> rfl

theorem makeAssertion_local (index : UInt8) (assertion : Assertion) :
    Local handle (makeAssertion env handle index assertion) where
  same {state other} hsame := by
    unfold SessionTable.SameUnder at hsame
    cases hlive : state.sessions.get? handle with
    | none =>
      rw [hlive] at hsame
      have hnone : other.sessions.get? handle = none := Option.map_eq_none_iff.mp hsame.symm
      obtain ⟨stopped, hmake⟩ := makeAssertion_of_none env index assertion hlive
      obtain ⟨stopped', hmake'⟩ := makeAssertion_of_none env index assertion hnone
      rw [hmake, hmake']
      exact .error _
    | some session =>
      rw [hlive] at hsame
      obtain ⟨session', hlive', hunstamped⟩ := Option.map_eq_some_iff.mp hsame.symm
      obtain ⟨touched, hmake⟩ := makeAssertion_of_live env index assertion hlive
      obtain ⟨touched', hmake'⟩ := makeAssertion_of_live env index assertion hlive'
      rw [hmake, hmake', hunstamped]
      cases Policy.apply env session.unstamped assertion with
      | error stop => exact .error stop
      | ok applied =>
        refine .ok applied.2 ?_
        show Option.map _ (SessionTable.get? _ _) = Option.map _ (SessionTable.get? _ _)
        rw [SessionTable.get?_insert_self, SessionTable.get?_insert_self]
        rfl
  frame h other hother := by
    obtain ⟨_, _, _, htouch, _, rfl⟩ := makeAssertion_eq_ok_iff.mp h
    obtain ⟨_, _, _, rfl⟩ := SessionTable.touch_eq_ok_iff.mp htouch
    rw [SessionTable.get?_insert, if_neg hother, SessionTable.get?_insert, if_neg hother]
    rfl

theorem makePlainAssertion_local (assertion : Assertion) :
    Local handle (makePlainAssertion env handle assertion) :=
  .bind (makeAssertion_local 1 assertion) fun _ => .pure _

theorem policySigned_local {r : PolicySignedRequest} (h : r.policySession = handle) :
    Local handle (policySigned env r) := by
  subst h
  unfold policySigned
  split
  · exact .reject _
  · refine .bind (makeAssertion_local 2 _) fun {_ _ outcome} _ => ?_
    cases outcome with
    | done => exact .reject _
    | signed timeout ticket => exact .pure _

/-- The policy digest of a session, if there is a session and it has a policy. -/
def digestOf : Option Session → Except Stop PolicyGetDigestResponse
  | none => .error (.fault (Cause.handleNotFound.atHandle 1))
  | some session =>
    if session.isPolicy then .ok ⟨⟨session.policy.digest⟩⟩
    else .error (.fault (Cause.sessionStateInvalid.atHandle 1))

/-- The digest of a session does not tell when the session was last used. -/
theorem policyGetDigest_eq (r : PolicyGetDigestRequest) (state : State) :
    policyGetDigest r state
      = Action.ofExcept
        (digestOf ((state.sessions.get? r.policySession).map Session.unstamped)) state := by
  unfold policyGetDigest
  refine (EStateM.bind_of_ok (show Action.session? _ state = .ok _ state from rfl)).trans ?_
  cases state.sessions.get? r.policySession with
  | none => rfl
  | some session =>
    show _ = Action.ofExcept (if session.isPolicy then _ else _) state
    cases hpolicy : session.isPolicy <;>
    · simp only [hpolicy]
      rfl

theorem policyGetDigest_local {r : PolicyGetDigestRequest} (h : r.policySession = handle) :
    Local handle (policyGetDigest r) where
  same {state other} hsame := by
    subst h
    have hsession : (state.sessions.get? r.policySession).map Session.unstamped
        = (other.sessions.get? r.policySession).map Session.unstamped := hsame
    rw [policyGetDigest_eq, policyGetDigest_eq, hsession]
    exact (Local.ofExcept _).same hsame
  frame hok other _ := by
    obtain ⟨_, _, _, _, rfl⟩ := policyGetDigest_eq_ok_iff.mp hok
    rfl

/-- A command on the policy of the session that its last handle names concerns this session only. -/
theorem perform_local {command : Command} {r : command.Request}
    (hpolicy : command ∈ Command.policy) (hhandle : (Layout.handles r).getLast? = some handle) :
    Local handle (perform env command r) := by
  cases command with
  | startAuthSession => exact absurd hpolicy (by decide)
  | flushContext => exact absurd hpolicy (by decide)
  | verifySignature => exact absurd hpolicy (by decide)
  | policySigned => exact policySigned_local (Option.some.inj hhandle)
  | policyGetDigest => exact policyGetDigest_local (Option.some.inj hhandle)
  | _ =>
    obtain rfl := Option.some.inj hhandle
    exact makePlainAssertion_local _

/-! ## Requests without authorization entries -/

/-- Such a request concerns the session that its command concerns. -/
theorem respond_local {limit : Nat} {command : Command} {request : Request}
    (hsessions : request.sessions = [])
    (hperform : ∀ arguments,
      Layout.ofAreas command.Request request.handles request.parameters = .ok arguments →
      Local handle (perform env command arguments)) :
    Local handle (respond env limit command request) := by
  have hmodify : ∀ answers, Local handle
      (modify fun state => { state with sessions := useSessions state.sessions [] answers } :
        Action PUnit) := fun _ =>
    { same := .ok _
      frame := fun hok _ _ => by
        cases hok
        rfl }
  unfold respond
  rw [hsessions]
  refine .bind (.ofFault _) fun harguments => ?_
  refine .bind (hperform _ (Action.ofFault_eq_ok_iff.mp harguments).1) fun _ => ?_
  refine .bind (.written _ _) fun _ => ?_
  refine .bind (.pure []) fun _ => ?_
  refine .bind (.written _ _) fun _ => ?_
  exact .bind (hmodify _) fun _ => .pure _

theorem sessions_of_split {header : RequestHeader} {envelope : Bytes} {count : Nat}
    {request : Request} (htag : header.tag = .noSessions)
    (h : Request.split header envelope count = .ok request) : request.sessions = [] := by
  obtain ⟨_, _, _, areas, _, hsessions⟩ :=
    Request.reader_eq_ok_iff.mp (Request.split_eq_ok_iff.mp h)
  rw [htag, if_neg (by decide)] at hsessions
  exact (EStateM.pure_eq_ok_iff.mp hsessions).1.symm

/-- Such a request is accepted whichever sessions are live. -/
theorem accept_congr {header : RequestHeader} {envelope : Bytes}
    (htag : header.tag = .noSessions) (table other : SessionTable) :
    accept env table header envelope = accept env other header envelope := by
  unfold accept
  cases commandFor env.commands header.commandCode with
  | error fault => rfl
  | ok found =>
    show Request.split header envelope found.2 >>= _
      = Request.split header envelope found.2 >>= _
    cases hsplit : Request.split header envelope found.2 with
    | error fault => rfl
    | ok request =>
      show requireLive table 1 request.sessions >>= _
        = requireLive other 1 request.sessions >>= _
      rw [sessions_of_split htag hsplit]
      rfl

end Engine

end TrustedPlatform
