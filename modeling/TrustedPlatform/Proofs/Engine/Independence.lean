import TrustedPlatform.Proofs.Engine.Locality

/-!
# Clients that do not interfere

Each client sends requests that concern the policy of its own session. However the requests of
several clients are interleaved, and whether or not they succeed, each client gets the answers that
it gets when it is alone, and finds its session as it does then: a request is answered by its
session alone (`PolicyRequest.same_step`) and leaves the other sessions as they are
(`PolicyRequest.same_other`).
-/

namespace TrustedPlatform

/-! ## Requests that concern one session -/

/-- A request without authorization entries that concerns the policy of one session: octets with the
header and the handles of such a request, and whatever follows. -/
structure PolicyRequest where
  command : Command
  concerns_policy : command ∈ Command.policy
  /-- The size that the header states, right or wrong. -/
  size : UInt32
  /-- The handles in front of that of the session. -/
  others : List UInt32
  /-- The handle of the session. -/
  handle : UInt32
  length_others : others.length + 1 = command.handleCount
  parameters : Bytes

namespace PolicyRequest

def header (r : PolicyRequest) : RequestHeader := ⟨.noSessions, r.size, r.command.code.code⟩

def envelope (r : PolicyRequest) : Bytes :=
  r.header.write ++ ((r.others ++ [r.handle]).flatMap be32 ++ r.parameters)

open Engine

variable (r : PolicyRequest) {env : Environment} {table : SessionTable} {command : Command}
  {request : Request} {engine other : Engine}

theorem header_of_parse {header : RequestHeader} (h : RequestHeader.parse r.envelope = .ok header) :
    header = r.header := by
  obtain ⟨_, _, body, hbody⟩ := RequestHeader.parse_eq_ok_iff.mp h
  have hlength : r.header.write.length = header.write.length := by
    rw [RequestHeader.length_write, RequestHeader.length_write]
  exact (RequestHeader.write_injective (List.append_inj hbody hlength).1).symm

/-- The request is read as its command, without entries, and with its handles if it can be read to
the end. -/
theorem of_accept (h : accept env table r.header r.envelope = .ok (command, request)) :
    command = r.command ∧ request.sessions = [] ∧
      ∀ arguments,
        Layout.ofAreas command.Request request.handles request.parameters = .ok arguments →
        Layout.handles arguments = r.others ++ [r.handle] := by
  have hcode : r.command.code.code = command.code.code := commandCode_of_accept h
  have hcommand : command = r.command := by
    have hsame := Command.ofCode?_code r.command
    rw [hcode, Command.ofCode?_code] at hsame
    exact Option.some.inj hsame
  subst hcommand
  obtain ⟨⟨kind, count⟩, hkind, hcut⟩ := Except.bind_eq_ok_iff.mp h
  obtain ⟨split, hsplit, hlive⟩ := Except.bind_eq_ok_iff.mp hcut
  obtain ⟨_, _, hpure⟩ := Except.bind_eq_ok_iff.mp hlive
  cases Except.pure_eq_ok_iff.mp hpure
  refine ⟨rfl, sessions_of_split rfl hsplit, fun arguments hareas => ?_⟩
  obtain ⟨_, hhandles, _⟩ := Layout.ofAreas_eq_ok_iff.mp hareas
  obtain ⟨_, _, _, areas, hbody, _⟩ :=
    Request.reader_eq_ok_iff.mp (Request.split_eq_ok_iff.mp hsplit)
  have hdrop : r.envelope.drop headerSize
      = (r.others ++ [r.handle]).flatMap be32 ++ r.parameters :=
    List.drop_left' (RequestHeader.length_write _)
  -- as many handles are read in both ways
  have hread : Request.readHandles 1 r.command.handleCount (r.envelope.drop headerSize)
      = .ok (r.others ++ [r.handle]) r.parameters :=
    Request.readHandles_eq_ok_iff.mpr ⟨by simp [r.length_others], hdrop⟩
  have hread' : Request.readHandles 1 r.command.handleCount (r.envelope.drop headerSize)
      = .ok request.handles areas :=
    Request.readHandles_eq_ok_iff.mpr
      ⟨by rw [hhandles]; exact Layout.Shows.length_handles arguments, hbody⟩
  obtain ⟨hsame, _⟩ := EStateM.Result.ok.inj (hread.symm.trans hread')
  exact hhandles.symm.trans hsame.symm

/-- The request concerns the session that it names. -/
theorem respond_local {limit : Nat}
    (h : accept env table r.header r.envelope = .ok (command, request)) :
    Action.Local r.handle (respond env limit command request) := by
  obtain ⟨rfl, hsessions, hhandles⟩ := r.of_accept h
  refine Engine.respond_local hsessions fun arguments hareas => ?_
  refine perform_local r.concerns_policy ?_
  rw [hhandles arguments hareas, List.getLast?_append]
  rfl

/-- Where the same session is under the handle, the request is answered alike or stops alike. -/
theorem process_same {limit : Nat} {state other : State}
    (hsame : state.sessions.SameUnder r.handle other.sessions) :
    SameEnd r.handle (process env limit r.envelope state) (process env limit r.envelope other) := by
  unfold process
  cases hparse : RequestHeader.parse r.envelope with
  | error cause => exact .error _
  | ok header =>
    obtain rfl := r.header_of_parse hparse
    dsimp only
    rw [accept_congr rfl other.sessions state.sessions]
    cases haccept : accept env state.sessions r.header r.envelope with
    | error fault => exact .error _
    | ok accepted =>
      have hend : SameEnd r.handle (respond env limit accepted.1 accepted.2 state)
          (respond env limit accepted.1 accepted.2 other) := (r.respond_local haccept).same hsame
      dsimp only
      generalize respond env limit accepted.1 accepted.2 state = first,
        respond env limit accepted.1 accepted.2 other = second at hend
      cases hend with
      | ok response hsession => exact .ok response hsession
      | error stop => exact .error _

end PolicyRequest

namespace Engine

/-! ## Engines -/

variable {handle : UInt32}

/-- What a client gets back for an envelope. -/
def responseTo (engine : Engine) (envelope : Bytes) : Except Breach Bytes :=
  match execute envelope engine with
  | .ok response _ => .ok response
  | .error breach _ => .error breach

/-- The engines have the same configuration and environment, and the same session under the
handle. -/
structure SameFor (handle : UInt32) (engine other : Engine) : Prop where
  config : engine.config = other.config
  env : engine.env = other.env
  session : engine.state.sessions.SameUnder handle other.state.sessions

theorem SameFor.refl (handle : UInt32) (engine : Engine) : SameFor handle engine engine :=
  ⟨rfl, rfl, rfl⟩

theorem SameFor.trans {engine other third : Engine} (h : SameFor handle engine other)
    (h' : SameFor handle other third) : SameFor handle engine third :=
  ⟨h.config.trans h'.config, h.env.trans h'.env, h.session.trans h'.session⟩

end Engine

namespace PolicyRequest

open Engine

variable (r : PolicyRequest) {engine other : Engine}

/-- That the request arrives. -/
def event : Event := .command r.envelope

/-- A client of the session sees the same engine after the request, if it saw the same before. -/
theorem same_step (h : SameFor r.handle engine other) :
    engine.responseTo r.envelope = other.responseTo r.envelope ∧
      SameFor r.handle (engine.after r.event) (other.after r.event) := by
  obtain ⟨config, env, state⟩ := engine
  obtain ⟨config', env', state'⟩ := other
  obtain rfl : config = config' := h.config
  obtain rfl : env = env' := h.env
  have hend : SameEnd r.handle (process env config.maxResponseSize r.envelope state)
      (process env config.maxResponseSize r.envelope state') := r.process_same h.session
  unfold responseTo execute event Engine.after executeCommand
  dsimp only
  generalize hfirst : process env config.maxResponseSize r.envelope state = first,
    hsecond : process env config.maxResponseSize r.envelope state' = second at hend
  cases hend with
  | ok response hsession => exact ⟨rfl, rfl, rfl, hsession⟩
  | error stop =>
    -- both tables are put back
    have hsession := h.session
    rw [← (process_error hfirst).1, ← (process_error hsecond).1] at hsession
    cases stop with
    | refused refusal => exact ⟨rfl, rfl, rfl, hsession⟩
    | breach breach => exact ⟨rfl, rfl, rfl, hsession⟩

/-- The request leaves the sessions of other clients alone. -/
theorem same_other {handle : UInt32} (hne : r.handle ≠ handle) :
    SameFor handle (engine.after r.event) engine := by
  have hcommand : engine.after r.event
      = { engine with state := (engine.after r.event).state } := after_command_eq engine r.envelope
  refine ⟨by rw [hcommand], by rw [hcommand], ?_⟩
  have hframe : (engine.after r.event).state.sessions.get? handle
      = engine.state.sessions.get? handle := by
    rcases after_cases engine r.event with ⟨envelope, response, heq, hexecute⟩ | ⟨hsessions, _⟩
    · cases heq
      obtain ⟨final, hprocess, hafter⟩ := executeCommand_eq_ok_iff.mp hexecute
      obtain ⟨header, command, request, hparse, haccept, hrespond⟩ :=
        process_eq_ok_iff.mp hprocess
      obtain rfl := r.header_of_parse hparse
      rw [hafter]
      exact (r.respond_local haccept).frame hrespond handle hne.symm
    · rw [hsessions]
  exact congrArg (Option.map Session.unstamped) hframe

end PolicyRequest

namespace Engine

/-! ## Schedules -/

/-- The requests of a schedule, each with what its client gets back for it. -/
def transcript (engine : Engine) : List PolicyRequest → List (PolicyRequest × Except Breach Bytes)
  | [] => []
  | r :: schedule =>
    (r, engine.responseTo r.envelope) :: (engine.after r.event).transcript schedule

/-- The engine after a schedule. -/
def afterSchedule (engine : Engine) (schedule : List PolicyRequest) : Engine :=
  engine.afterAll (schedule.map PolicyRequest.event)

/-- The requests that concern a session are answered as if there were no others, and they leave the
session as if there were no others. -/
theorem transcript_filter {engine other : Engine} (h : SameFor handle engine other)
    (schedule : List PolicyRequest) :
    (engine.transcript schedule).filter (·.1.handle = handle)
        = other.transcript (schedule.filter (·.handle = handle)) ∧
      SameFor handle (engine.afterSchedule schedule)
        (other.afterSchedule (schedule.filter (·.handle = handle))) := by
  induction schedule generalizing engine other with
  | nil => exact ⟨rfl, h⟩
  | cons r schedule ih =>
    rw [transcript]
    by_cases hhandle : r.handle = handle
    · subst hhandle
      obtain ⟨hresponse, hafter⟩ := r.same_step h
      obtain ⟨htranscript, hfinal⟩ := ih hafter
      rw [List.filter_cons_of_pos (by simp), List.filter_cons_of_pos (by simp), transcript,
        hresponse, htranscript]
      exact ⟨rfl, hfinal⟩
    · obtain ⟨htranscript, hfinal⟩ := ih ((r.same_other hhandle).trans h)
      rw [List.filter_cons_of_neg (by simpa using hhandle),
        List.filter_cons_of_neg (by simpa using hhandle)]
      exact ⟨htranscript, hfinal⟩

end Engine

/-- The third list is put together out of the first two, each of which keeps its order. -/
inductive Interleaving {α : Type} : List α → List α → List α → Prop
  | nil : Interleaving [] [] []
  | left {x : α} {first second schedule : List α} (h : Interleaving first second schedule) :
    Interleaving (x :: first) second (x :: schedule)
  | right {x : α} {first second schedule : List α} (h : Interleaving first second schedule) :
    Interleaving first (x :: second) (x :: schedule)

namespace Interleaving

variable {α : Type} {first second schedule : List α}

theorem symm (h : Interleaving first second schedule) : Interleaving second first schedule := by
  induction h with
  | nil => exact .nil
  | left _ ih => exact .right ih
  | right _ ih => exact .left ih

theorem filter_eq_left {p : α → Bool} (h : Interleaving first second schedule)
    (hfirst : ∀ x ∈ first, p x) (hsecond : ∀ x ∈ second, ¬p x) : schedule.filter p = first := by
  induction h with
  | nil => rfl
  | left _ ih =>
    obtain ⟨hx, hothers⟩ := List.forall_mem_cons.mp hfirst
    rw [List.filter_cons_of_pos hx, ih hothers hsecond]
  | right _ ih =>
    obtain ⟨hx, hothers⟩ := List.forall_mem_cons.mp hsecond
    rw [List.filter_cons_of_neg hx, ih hfirst hothers]

end Interleaving

namespace Engine

/-- Two clients with different sessions do not notice each other, however their requests are
interleaved: each gets the answers that it gets when it is alone, and its session is the one that it
has when it is alone, whenever it was last used. -/
theorem clients_do_not_interfere {engine : Engine} {a b : UInt32}
    {first second schedule : List PolicyRequest} (hne : a ≠ b) (hfirst : ∀ r ∈ first, r.handle = a)
    (hsecond : ∀ r ∈ second, r.handle = b) (hschedule : Interleaving first second schedule) :
    (engine.transcript schedule).filter (·.1.handle = a) = engine.transcript first ∧
      ((engine.afterSchedule schedule).state.sessions.get? a).map Session.unstamped
        = ((engine.afterSchedule first).state.sessions.get? a).map Session.unstamped ∧
      (engine.transcript schedule).filter (·.1.handle = b) = engine.transcript second ∧
      ((engine.afterSchedule schedule).state.sessions.get? b).map Session.unstamped
        = ((engine.afterSchedule second).state.sessions.get? b).map Session.unstamped := by
  have hmine : schedule.filter (·.handle = a) = first :=
    hschedule.filter_eq_left (by simpa using hfirst)
      (by simpa using fun r hmem heq => hne (heq.symm.trans (hsecond r hmem)))
  have hyours : schedule.filter (·.handle = b) = second :=
    hschedule.symm.filter_eq_left (by simpa using hsecond)
      (by simpa using fun r hmem heq => hne ((hfirst r hmem).symm.trans heq))
  obtain ⟨htranscript, hsame⟩ := transcript_filter (.refl a engine) schedule
  obtain ⟨htranscript', hsame'⟩ := transcript_filter (.refl b engine) schedule
  rw [hmine] at htranscript hsame
  rw [hyours] at htranscript' hsame'
  exact ⟨htranscript, hsame.session, htranscript', hsame'.session⟩

def passwordRequest (handle : UInt32) : PolicyRequest :=
  ⟨.policyPassword, by decide, 14, [], handle, rfl, []⟩

def commandCodeRequest (handle code : UInt32) : PolicyRequest :=
  ⟨.policyCommandCode, by decide, 18, [], handle, rfl, be32 code⟩

def digestRequest (handle : UInt32) : PolicyRequest :=
  ⟨.policyGetDigest, by decide, 14, [], handle, rfl, []⟩

/-- The first client makes an assertion and asks for the digest; in between, one assertion of the
second client is refused and one is made. -/
theorem clients_do_not_interfere_alternating :
    let a : UInt32 := 0x03000000
    let b : UInt32 := 0x03000001
    let first := [passwordRequest a, digestRequest a]
    let second := [commandCodeRequest b 0, passwordRequest b]
    let schedule := [passwordRequest a, commandCodeRequest b 0, passwordRequest b, digestRequest a]
    a ≠ b ∧ (∀ r ∈ first, r.handle = a) ∧ (∀ r ∈ second, r.handle = b) ∧
      Interleaving first second schedule ∧
      (fullEngine.responseTo (commandCodeRequest b 0).envelope).toOption
        = some (Response.refusal 0x1e4) ∧
      (fullEngine.transcript schedule).filter (·.1.handle = a) = fullEngine.transcript first ∧
      (fullEngine.transcript schedule).filter (·.1.handle = b) = fullEngine.transcript second := by
  intro a b first second schedule
  have hne : a ≠ b := by decide
  have hfirst : ∀ r ∈ first, r.handle = a := by decide
  have hsecond : ∀ r ∈ second, r.handle = b := by decide
  have hschedule : Interleaving first second schedule := .left (.right (.right (.left .nil)))
  obtain ⟨hmine, _, hyours, _⟩ :=
    @clients_do_not_interfere fullEngine a b first second schedule hne hfirst hsecond hschedule
  exact ⟨hne, hfirst, hsecond, hschedule, by decide +kernel, hmine, hyours⟩

end Engine

end TrustedPlatform
