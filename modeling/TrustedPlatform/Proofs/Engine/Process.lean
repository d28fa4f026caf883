import TrustedPlatform.Engine.History
import TrustedPlatform.Proofs.Engine.Action
import TrustedPlatform.Proofs.Engine.Perform
import TrustedPlatform.Proofs.Envelope.Response

/-!
# Commands that were carried out

A request envelope that is answered was read as a command with its request, the command was
performed, a response was written, and the sessions of its entries were used. `Completed` is the
command with its request and its answer, `completed?` finds it for an engine and an envelope.
-/

namespace TrustedPlatform.Engine

variable {env : Environment} {limit : Nat} {state next : State} {engine engine' : Engine}
  {envelope response : Bytes}

section

variable {α : Type} [Layout α]

/-- The areas of an answer are written after room for the header, if there is room for both. -/
theorem written_append_eq (tag : StructureTag) (answer : α) (limit : Nat) (state : State) :
    written (do Response.begin; Response.append tag answer limit) [] state
      = if headerSize + (Response.areas tag answer).length ≤ limit then
          .ok (Bytes.zeros headerSize ++ Response.areas tag answer) state
        else .error Response.tooLong state := by
  have hlength : (Bytes.zeros headerSize ++ Response.areas tag answer).length
      = headerSize + (Response.areas tag answer).length := by
    rw [List.length_append, Bytes.length_zeros]
  have happend := Response.append_eq tag answer limit (Bytes.zeros headerSize)
  rw [hlength] at happend
  have hwriter : (do Response.begin; Response.append tag answer limit : Writer Nat) [] = _ :=
    (EStateM.bind_of_ok rfl).trans happend
  unfold written
  rw [hwriter]
  split <;> rfl

/-- The entries and the header complete the envelope, if there is room for it. -/
theorem written_finish_eq (tag : StructureTag) (answer : α) (entries : List AuthResponse)
    (limit : Nat) (state : State) :
    written (Response.finish tag entries limit)
        (Bytes.zeros headerSize ++ Response.areas tag answer) state
      = if (Response.envelope tag answer entries).length ≤ limit then
          .ok (Response.envelope tag answer entries) state
        else .error Response.tooLong state := by
  have hlength : (Response.envelope tag answer entries).length
      = headerSize + (Response.areas tag answer ++ Response.entryArea tag entries).length := by
    rw [Response.length_envelope, List.length_append, Nat.add_assoc]
  unfold written
  rw [Response.finish_eq tag entries limit (Bytes.length_zeros headerSize), hlength]
  split <;> rfl

end

/-! ## Responses -/

/-- Whatever session an entry names, it is answered. -/
theorem answerEntry_returns (entry : AuthCommand) (state : State) :
    ∃ answer answered, answerEntry env entry state = .ok answer answered := by
  cases hlive : state.sessions.get? entry.sessionHandle with
  | none => exact ⟨_, state, EStateM.bind_of_ok (Action.session?_eq_ok_iff.mpr ⟨hlive, rfl⟩)⟩
  | some session =>
    exact ⟨_, _, (EStateM.bind_of_ok (Action.session?_eq_ok_iff.mpr ⟨hlive, rfl⟩)).trans rfl⟩

/-- How an accepted request fares: its areas are not those of the command, or the handler stops, or
it is performed, and then each of its entries is answered. -/
inductive Course (env : Environment) (command : Command) (request : Request) (state : State) : Prop
  | malformed {fault : Fault}
      (hareas : Layout.ofAreas command.Request request.handles request.parameters = .error fault)
  | stopped {arguments : command.Request} {stop : Stop} {stopped : State}
      (hareas : Layout.ofAreas command.Request request.handles request.parameters = .ok arguments)
      (hperform : perform env command arguments state = .error stop stopped)
  | performed {arguments : command.Request} {answer : command.Response}
      {performed answered : State} {answers : List AuthResponse}
      (hareas : Layout.ofAreas command.Request request.handles request.parameters = .ok arguments)
      (hperform : perform env command arguments state = .ok answer performed)
      (hanswers : request.sessions.mapM (answerEntry env) performed = .ok answers answered)

theorem course (env : Environment) (command : Command) (request : Request) (state : State) :
    Course env command request state := by
  cases hareas : Layout.ofAreas command.Request request.handles request.parameters with
  | error fault => exact .malformed hareas
  | ok arguments =>
    cases hperform : perform env command arguments state with
    | error stop stopped => exact .stopped hareas hperform
    | ok answer performed =>
      obtain ⟨answers, answered, hanswers⟩ :=
        EStateM.exists_mapM_eq_ok answerEntry_returns request.sessions performed
      exact .performed hareas hperform hanswers

section

variable {command : Command} {request : Request} {arguments : command.Request}

theorem respond_of_malformed {fault : Fault}
    (hareas : Layout.ofAreas command.Request request.handles request.parameters = .error fault)
    (limit : Nat) : respond env limit command request state = .error (.fault fault) state := by
  unfold respond
  rw [hareas]
  rfl

theorem respond_of_stopped {stop : Stop} {stopped : State}
    (hareas : Layout.ofAreas command.Request request.handles request.parameters = .ok arguments)
    (hperform : perform env command arguments state = .error stop stopped) (limit : Nat) :
    respond env limit command request state = .error stop stopped := by
  unfold respond
  rw [EStateM.bind_of_ok (Action.ofFault_eq_ok_iff.mpr ⟨hareas, rfl⟩)]
  exact EStateM.bind_of_error hperform

/-- A command that was performed is answered if there is room for the whole response. The room is
looked at twice, but if there is none for the answer, there is none for it with the entries. -/
theorem respond_of_performed {answer : command.Response} {performed answered : State}
    {answers : List AuthResponse}
    (hareas : Layout.ofAreas command.Request request.handles request.parameters = .ok arguments)
    (hperform : perform env command arguments state = .ok answer performed)
    (hanswers : request.sessions.mapM (answerEntry env) performed = .ok answers answered)
    (limit : Nat) :
    respond env limit command request state =
      if (Response.envelope request.header.tag answer answers).length ≤ limit then
        .ok (Response.envelope request.header.tag answer answers)
          { answered with
            sessions := useSessions answered.sessions request.sessions answers }
      else
        .error Response.tooLong
          (if headerSize + (Response.areas request.header.tag answer).length ≤ limit then answered
            else performed) := by
  have happend := written_append_eq request.header.tag answer limit performed
  have hfinish := written_finish_eq request.header.tag answer answers limit answered
  unfold respond
  rw [EStateM.bind_of_ok (Action.ofFault_eq_ok_iff.mpr ⟨hareas, rfl⟩), EStateM.bind_of_ok hperform]
  by_cases hroom : headerSize + (Response.areas request.header.tag answer).length ≤ limit
  · rw [if_pos hroom] at happend ⊢
    refine (EStateM.bind_of_ok happend).trans ((EStateM.bind_of_ok hanswers).trans ?_)
    by_cases hfits : (Response.envelope request.header.tag answer answers).length ≤ limit
    · rw [if_pos hfits] at hfinish ⊢
      exact EStateM.bind_of_ok hfinish
    · rw [if_neg hfits] at hfinish ⊢
      exact EStateM.bind_of_error hfinish
  · have hlong : ¬(Response.envelope request.header.tag answer answers).length ≤ limit := by
      rw [Response.length_envelope]
      omega
    rw [if_neg hroom] at happend ⊢
    rw [if_neg hlong]
    exact EStateM.bind_of_error happend

/-- The command is performed, and then the sessions of the entries are used; the response holds the
answer and the answers to the entries, for all of which there is room. -/
theorem respond_eq_ok_iff :
    respond env limit command request state = .ok response next ↔
      ∃ arguments answer performed answers answered,
        Layout.ofAreas command.Request request.handles request.parameters = .ok arguments ∧
        perform env command arguments state = .ok answer performed ∧
        request.sessions.mapM (answerEntry env) performed = .ok answers answered ∧
        response = Response.envelope request.header.tag answer answers ∧
        response.length ≤ limit ∧
        next = { answered with
          sessions := useSessions answered.sessions request.sessions answers } := by
  constructor
  · intro h
    cases course env command request state with
    | malformed hareas =>
      rw [respond_of_malformed hareas] at h
      cases h
    | stopped hareas hperform =>
      rw [respond_of_stopped hareas hperform] at h
      cases h
    | performed hareas hperform hanswers =>
      rw [respond_of_performed hareas hperform hanswers] at h
      obtain ⟨hfits, hsame⟩ | ⟨_, hstop⟩ := ite_eq_iff.mp h
      · cases hsame
        exact ⟨_, _, _, _, _, hareas, hperform, hanswers, rfl, hfits, rfl⟩
      · cases hstop
  · intro hconds
    obtain ⟨arguments, answer, performed, answers, answered, hareas, hperform, hanswers, rfl,
      hfits, rfl⟩ := hconds
    rw [respond_of_performed hareas hperform hanswers, if_pos hfits]

end

theorem process_eq_ok_iff :
    process env limit envelope state = .ok response next ↔
      ∃ header command request, RequestHeader.parse envelope = .ok header ∧
        accept env state.sessions header envelope = .ok (command, request) ∧
        respond env limit command request state = .ok response next := by
  unfold process
  constructor
  · intro h
    cases hparse : RequestHeader.parse envelope with
    | error cause =>
      rw [hparse] at h
      cases h
    | ok header =>
      rw [hparse] at h
      cases haccept : accept env state.sessions header envelope with
      | error fault =>
        simp only [haccept] at h
        cases h
      | ok accepted =>
        obtain ⟨command, request⟩ := accepted
        simp only [haccept] at h
        cases hrespond : respond env limit command request state with
        | error stop stopped =>
          rw [hrespond] at h
          cases h
        | ok out final =>
          rw [hrespond] at h
          cases h
          exact ⟨header, command, request, rfl, haccept, hrespond⟩
  · intro hconds
    obtain ⟨header, command, request, hparse, haccept, hrespond⟩ := hconds
    rw [hparse]
    simp only [haccept, hrespond]

theorem executeCommand_eq_ok_iff :
    executeCommand envelope engine = .ok response engine' ↔
      ∃ next, process engine.env engine.config.maxResponseSize envelope engine.state
          = .ok response next ∧ engine' = { engine with state := next } := by
  unfold executeCommand
  cases process engine.env engine.config.maxResponseSize envelope engine.state with
  | error stop stopped => simp
  | ok out final =>
    constructor
    · intro h
      cases h
      exact ⟨final, rfl, rfl⟩
    · intro hconds
      obtain ⟨next, hnext, rfl⟩ := hconds
      cases hnext
      rfl

/-! ## The command of an envelope -/

/-- A command that was carried out, with its request and its answer. -/
structure Completed where
  command : Command
  request : command.Request
  answer : command.Response

/-- The command that `envelope` makes the engine carry out, if it is answered. -/
def completed? (engine : Engine) (envelope : Bytes) : Option Completed :=
  match executeCommand envelope engine with
  | .error _ _ => none
  | .ok _ _ => do
    let header ← (RequestHeader.parse envelope).toOption
    let (command, request) ← (accept engine.env engine.state.sessions header envelope).toOption
    let arguments ←
      (Layout.ofAreas command.Request request.handles request.parameters).toOption
    match perform engine.env command arguments engine.state with
    | .ok answer _ => some ⟨command, arguments, answer⟩
    | .error _ _ => none

/-- An envelope that is answered is one of a command that was carried out; after that its entries
were answered and their sessions used, and nothing else of the engine has changed but the number of
draws. -/
theorem answered_of_executeCommand
    (h : executeCommand envelope engine = .ok response engine') :
    ∃ done performed entries answers answered, completed? engine envelope = some done ∧
      perform engine.env done.command done.request engine.state = .ok done.answer performed ∧
      entries.mapM (answerEntry engine.env) performed = .ok answers answered ∧
      engine' = { engine with
        state := ⟨useSessions performed.sessions entries answers, answered.draws⟩ } := by
  obtain ⟨final, hprocess, rfl⟩ := executeCommand_eq_ok_iff.mp h
  obtain ⟨header, command, request, hparse, haccept, hrespond⟩ := process_eq_ok_iff.mp hprocess
  obtain ⟨arguments, answer, performed, answers, answered, hareas, hperform, hanswers, _, _,
    rfl⟩ := respond_eq_ok_iff.mp hrespond
  -- between the handler and the use of the sessions only nonces are drawn
  have hkept := (answerEntries_keepsSessions engine.env request.sessions).ok hanswers
  refine ⟨⟨command, arguments, answer⟩, performed, request.sessions, answers, answered,
    ?_, hperform, hanswers, ?_⟩
  · unfold completed?
    rw [h, hparse]
    simp [Except.toOption, haccept, hareas, hperform]
  · rw [hkept.1]

theorem completed_of_executeCommand
    (h : executeCommand envelope engine = .ok response engine') :
    ∃ done performed entries answers draws, completed? engine envelope = some done ∧
      perform engine.env done.command done.request engine.state = .ok done.answer performed ∧
      engine' = { engine with
        state := ⟨useSessions performed.sessions entries answers, draws⟩ } := by
  obtain ⟨done, performed, entries, answers, answered, hdone, hperform, _, hnext⟩ :=
    answered_of_executeCommand h
  exact ⟨done, performed, entries, answers, answered.draws, hdone, hperform, hnext⟩

theorem completed?_isSome_iff :
    (completed? engine envelope).isSome ↔
      ∃ response engine', executeCommand envelope engine = .ok response engine' := by
  constructor
  · intro h
    unfold completed? at h
    cases hexecute : executeCommand envelope engine with
    | ok response engine' => exact ⟨response, engine', rfl⟩
    | error stop stopped =>
      rw [hexecute] at h
      cases h
  · intro hconds
    obtain ⟨response, engine', h⟩ := hconds
    obtain ⟨done, _, _, _, _, hdone, _⟩ := completed_of_executeCommand h
    rw [hdone]
    rfl

namespace Completed

/-- The handle of the session that the command started. -/
def started? : Completed → Option UInt32
  | ⟨.startAuthSession, _, answer⟩ => some (StartAuthSessionResponse.sessionHandle answer)
  | _ => none

/-- The assertion that the command made, and the handle of the session it was made on. -/
def asserted? (env : Environment) : Completed → Option (UInt32 × Assertion)
  | ⟨.policyAuthValue, r, _⟩ => some (PolicyAuthValueRequest.policySession r, .authValue)
  | ⟨.policyPassword, r, _⟩ => some (PolicyPasswordRequest.policySession r, .password)
  | ⟨.policyCommandCode, r, _⟩ =>
    some (PolicyCommandCodeRequest.policySession r,
      .commandCode (PolicyCommandCodeRequest.code r))
  | ⟨.policyPcr, r, _⟩ =>
    some (PolicyPcrRequest.policySession r, PolicyPcrRequest.assertion r)
  | ⟨.policyAuthorize, r, _⟩ =>
    some (PolicyAuthorizeRequest.policySession r, PolicyAuthorizeRequest.assertion r)
  | ⟨.policyTicket, r, _⟩ =>
    some (PolicyTicketRequest.policySession r, PolicyTicketRequest.assertion r)
  | ⟨.policySigned, r, _⟩ =>
    (env.objects.resolve (PolicySignedRequest.authObject r)).map fun authObject =>
      (PolicySignedRequest.policySession r, PolicySignedRequest.assertion r authObject)
  | _ => none

/-- What the assertion of the command gave back. -/
def outcome : Completed → PolicyOutcome
  | ⟨.policySigned, _, answer⟩ =>
    .signed (PolicySignedResponse.timeout answer) (PolicySignedResponse.policyTicket answer)
  | _ => .done

/-- What a command did to the sessions: it started one, dropped one, made an assertion on one, or
left them all alone. -/
inductive Effect (env : Environment) (state next : State) (done : Completed) : Prop
  | started {parameters : SessionParameters} {handle : UInt32} {hash : HashId}
      (hstarted : done.started? = some handle) (hasserted : done.asserted? env = none)
      (halg : parameters.hashAlg = hash.alg)
      (hnonce : parameters.nonceTpm = env.crypto.random state.draws hash.digestSize)
      (hstart : SessionTable.start parameters state.sessions = .ok handle next.sessions)
      (htime : parameters.startTime = env.clock.now)
  | dropped {handle : UInt32} (hstarted : done.started? = none)
      (hasserted : done.asserted? env = none)
      (hnext : next.sessions = state.sessions.erase handle)
  | asserted {handle : UInt32} {index : UInt8} {assertion : Assertion}
      (hstarted : done.started? = none) (hasserted : done.asserted? env = some (handle, assertion))
      (hmake : makeAssertion env handle index assertion state = .ok done.outcome next)
  | kept (hstarted : done.started? = none) (hasserted : done.asserted? env = none)
      (hnext : next = state)

/-- An assertion that gives no ticket gives nothing back. -/
theorem done_of_makePlainAssertion {handle : UInt32} {assertion : Assertion}
    {answer : EmptyResponse}
    (hplain : ∀ session outcome, Policy.outcomeFor env session assertion = .ok outcome →
      outcome = .done)
    (h : makePlainAssertion env handle assertion state = .ok answer next) :
    makeAssertion env handle 1 assertion state = .ok .done next := by
  obtain ⟨outcome, hmake⟩ := makePlainAssertion_eq_ok_iff.mp h
  obtain ⟨session, _, _, _, happly, _⟩ := makeAssertion_eq_ok_iff.mp hmake
  obtain ⟨_, _, _, houtcome, _, _⟩ := Policy.apply_eq_ok_iff.mp happly
  rw [hplain session outcome houtcome] at hmake
  exact hmake

theorem effect_of_perform {done : Completed}
    (h : perform env done.command done.request state = .ok done.answer next) :
    done.Effect env state next := by
  obtain ⟨command, r, answer⟩ := done
  cases command with
  | startAuthSession =>
    obtain ⟨_, _, _, hash, halg, _, _, hnonce, hstart, _⟩ := startAuthSession_eq_ok_iff.mp h
    exact .started rfl rfl halg (congrArg Sized.bytes hnonce) hstart rfl
  | flushContext =>
    obtain ⟨_, _, hflush, _⟩ := flushContext_eq_ok_iff.mp h
    exact .dropped rfl rfl (SessionTable.flush_eq_ok_iff.mp hflush).2
  | policySigned =>
    obtain ⟨authObject, hobject, hmake⟩ := policySigned_eq_ok_iff.mp h
    refine .asserted rfl ?_ hmake
    rw [asserted?, hobject]
    rfl
  | policyGetDigest =>
    obtain ⟨_, _, _, _, hnext⟩ := policyGetDigest_eq_ok_iff.mp h
    exact .kept rfl rfl hnext
  | verifySignature =>
    obtain ⟨_, _, _, _, _, _, _, hnext⟩ := verifySignature_eq_ok_iff.mp h
    exact .kept rfl rfl hnext
  | _ =>
    exact .asserted rfl rfl
      (done_of_makePlainAssertion (fun _ _ houtcome => (Except.ok.inj houtcome).symm) h)

end Completed

end TrustedPlatform.Engine
