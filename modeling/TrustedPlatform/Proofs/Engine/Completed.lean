import TrustedPlatform.Proofs.Engine.PolicyHistory
import TrustedPlatform.Proofs.Envelope.Request
import TrustedPlatform.Proofs.TicketAuthority
import TrustedPlatform.Proofs.Wire.Layouts

/-!
# What a command did, and what it leaves to later ones

From an envelope that was answered to the handler that answered it, and from the handler's assertion
to the live session that it was made on. Between two commands of a run anything may happen; the
cryptography and the proof values of the hierarchies are the same in both.
-/

namespace TrustedPlatform.Engine

/-! ## What a run leaves as it was -/

theorem crypto_afterAll (engine : Engine) (events : List Event) :
    (engine.afterAll events).env.crypto = engine.env.crypto :=
  (sameMake_afterAll engine events).crypto

/-- Whatever happens to an engine, its hierarchies keep their proof values. -/
theorem proofs_afterAll (engine : Engine) (events : List Event) :
    (engine.afterAll events).env.tickets.proofs = engine.env.tickets.proofs :=
  (sameMake_afterAll engine events).proofs

/-- The engine of a configuration, after events. -/
abbrev reached (crypto : Crypto) (config : Config) (events : List Event) : Engine :=
  (Engine.new crypto config).afterAll events

theorem reached_append (crypto : Crypto) (config : Config) (events others : List Event) :
    reached crypto config (events ++ others) = (reached crypto config events).afterAll others :=
  List.foldl_append

theorem reached_concat (crypto : Crypto) (config : Config) (events : List Event) (event : Event) :
    reached crypto config (events ++ [event]) = (reached crypto config events).after event := by
  rw [reached_append]
  rfl

theorem crypto_reached (crypto : Crypto) (config : Config) (events : List Event) :
    (reached crypto config events).env.crypto = crypto :=
  crypto_afterAll _ events

theorem config_reached (crypto : Crypto) (config : Config) (events : List Event) :
    (reached crypto config events).config = config :=
  (sameMake_afterAll _ events).config

theorem commands_reached (crypto : Crypto) (config : Config) (events : List Event) :
    (reached crypto config events).env.commands = .standard config.disabledCommands :=
  (sameMake_afterAll _ events).commands

theorem proofs_reached (crypto : Crypto) (config : Config) (events others : List Event) :
    (reached crypto config events).env.tickets.proofs
      = (reached crypto config others).env.tickets.proofs :=
  (proofs_afterAll _ events).trans (proofs_afterAll _ others).symm

theorem separate_reached (crypto : Crypto) (config : Config) (events : List Event) :
    (reached crypto config events).env.tickets.Separate :=
  (TicketAuthority.separate_ofConfig crypto config).of_proofs_eq (proofs_afterAll _ events)

/-! ## From envelopes to handlers -/

variable {engine : Engine}

section

variable {envelope : Bytes}

/-- The command and the request that `envelope` is read as, whether it is then carried out or
not. -/
def requested? (engine : Engine) (envelope : Bytes) :
    Option (Σ command : Command, command.Request) := do
  let header ← (RequestHeader.parse envelope).toOption
  let (command, request) ← (accept engine.env engine.state.sessions header envelope).toOption
  let arguments ← (Layout.ofAreas command.Request request.handles request.parameters).toOption
  return ⟨command, arguments⟩

theorem toOption_eq_some_iff {ε α : Type} {x : Except ε α} {a : α} :
    x.toOption = some a ↔ x = .ok a := by
  cases x <;> simp [Except.toOption]

theorem requested?_eq_some_iff {command : Command} {r : command.Request} :
    requested? engine envelope = some ⟨command, r⟩ ↔
      ∃ header request, RequestHeader.parse envelope = .ok header ∧
        accept engine.env engine.state.sessions header envelope = .ok (command, request) ∧
        Layout.ofAreas command.Request request.handles request.parameters = .ok r := by
  unfold requested?
  constructor
  · intro h
    obtain ⟨header, hparse, h⟩ := Option.bind_eq_some_iff.mp h
    obtain ⟨⟨accepted, request⟩, haccept, h⟩ := Option.bind_eq_some_iff.mp h
    obtain ⟨arguments, hareas, h⟩ := Option.bind_eq_some_iff.mp h
    cases h
    exact ⟨header, request, toOption_eq_some_iff.mp hparse, toOption_eq_some_iff.mp haccept,
      toOption_eq_some_iff.mp hareas⟩
  · rintro ⟨header, request, hparse, haccept, hareas⟩
    simp [hparse, haccept, hareas, Except.toOption]

/-- A command was carried out as the request that its envelope is read as. After it the sessions of
the entries were used, and nothing else of the engine has changed but the number of draws. -/
theorem of_completed? {done : Completed} (h : completed? engine envelope = some done) :
    requested? engine envelope = some ⟨done.command, done.request⟩ ∧
      ∃ performed entries answers draws,
        perform engine.env done.command done.request engine.state = .ok done.answer performed ∧
          engine.after (.command envelope) = { engine with
            state := ⟨useSessions performed.sessions entries answers, draws⟩ } := by
  have hsome : (completed? engine envelope).isSome := by rw [h]; rfl
  obtain ⟨response, next, hexecute⟩ := completed?_isSome_iff.mp hsome
  obtain ⟨done', performed, entries, answers, draws, hdone', hperform, hnext⟩ :=
    completed_of_executeCommand hexecute
  obtain rfl : done' = done := Option.some.inj (hdone'.symm.trans h)
  refine ⟨?_, performed, entries, answers, draws, hperform, ?_⟩
  · unfold completed? at h
    rw [hexecute] at h
    obtain ⟨header, hparse, h⟩ := Option.bind_eq_some_iff.mp h
    obtain ⟨⟨command, request⟩, haccept, h⟩ := Option.bind_eq_some_iff.mp h
    obtain ⟨arguments, hareas, h⟩ := Option.bind_eq_some_iff.mp h
    split at h
    · cases h
      exact requested?_eq_some_iff.mpr ⟨header, request, toOption_eq_some_iff.mp hparse,
        toOption_eq_some_iff.mp haccept, toOption_eq_some_iff.mp hareas⟩
    · cases h
  · rw [Engine.after, hexecute]
    exact hnext

/-- The command of an accepted request is the one whose code the header has. -/
theorem commandCode_of_accept {env : Environment} {table : SessionTable} {header : RequestHeader}
    {command : Command} {request : Request}
    (h : accept env table header envelope = .ok (command, request)) :
    header.commandCode = command.code.code := by
  obtain ⟨⟨kind, count⟩, hkind, h⟩ := Except.bind_eq_ok_iff.mp h
  obtain ⟨_, _, h⟩ := Except.bind_eq_ok_iff.mp h
  obtain ⟨_, _, h⟩ := Except.bind_eq_ok_iff.mp h
  cases Except.pure_eq_ok_iff.mp h
  unfold commandFor at hkind
  split at hkind
  · rename_i hcode _
    split at hkind
    · cases hkind
      exact (Command.code_of_ofCode? hcode).symm
    · cases hkind
  · cases hkind

/-- What stops the handler stops the command, and the sessions are put back. -/
theorem executeCommand_of_perform_error {command : Command} {r : command.Request} {stop : Stop}
    {stopped : State} (hrequested : requested? engine envelope = some ⟨command, r⟩)
    (hperform : perform engine.env command r engine.state = .error stop stopped) :
    executeCommand envelope engine = .error (stop.inCommand command.code.code)
      { engine with state := { stopped with sessions := engine.state.sessions } } := by
  obtain ⟨header, request, hparse, haccept, hareas⟩ := requested?_eq_some_iff.mp hrequested
  have hrespond : respond engine.env engine.config.maxResponseSize command request engine.state
      = .error stop stopped := respond_of_stopped hareas hperform _
  unfold executeCommand process
  rw [hparse]
  simp only [haccept, hrespond, commandCode_of_accept haccept]

end

/-! ## Requests without authorization entries -/

instance requestDecidableEq : (command : Command) → DecidableEq command.Request
  | .startAuthSession => inferInstanceAs (DecidableEq StartAuthSessionRequest)
  | .flushContext => inferInstanceAs (DecidableEq FlushContextRequest)
  | .policyAuthValue => inferInstanceAs (DecidableEq PolicyAuthValueRequest)
  | .policyPassword => inferInstanceAs (DecidableEq PolicyPasswordRequest)
  | .policyCommandCode => inferInstanceAs (DecidableEq PolicyCommandCodeRequest)
  | .policyPcr => inferInstanceAs (DecidableEq PolicyPcrRequest)
  | .policyAuthorize => inferInstanceAs (DecidableEq PolicyAuthorizeRequest)
  | .policyTicket => inferInstanceAs (DecidableEq PolicyTicketRequest)
  | .policySigned => inferInstanceAs (DecidableEq PolicySignedRequest)
  | .policyGetDigest => inferInstanceAs (DecidableEq PolicyGetDigestRequest)
  | .verifySignature => inferInstanceAs (DecidableEq VerifySignatureRequest)

/-- The envelope of a request without entries. -/
def plainEnvelope (command : Command) (arguments : command.Request) : Bytes :=
  RequestBuilder.request command.code arguments []

/-- The areas of a request without entries. -/
def plainRequest (command : Command) (arguments : command.Request) : Request :=
  ⟨⟨.noSessions, UInt32.ofNat (plainEnvelope command arguments).length, command.code.code⟩,
    Layout.handles arguments, [], Layout.parameterArea arguments⟩

/-- A request without entries that its envelope is read back as. -/
structure PlainCall (command : Command) where
  arguments : command.Request
  parse_eq : RequestHeader.parse (plainEnvelope command arguments)
    = .ok (plainRequest command arguments).header := by decide +kernel
  split_eq : Request.split (plainRequest command arguments).header
      (plainEnvelope command arguments) command.handleCount
    = .ok (plainRequest command arguments) := by decide +kernel
  ofAreas_eq : Layout.ofAreas command.Request (Layout.handles arguments)
    (Layout.parameterArea arguments) = .ok arguments := by decide +kernel

section

variable {command : Command} (arguments : command.Request)

theorem plainEnvelope_eq :
    plainEnvelope command arguments = (plainRequest command arguments).header.write
      ++ (Layout.handleArea arguments ++ Layout.parameterArea arguments) := by
  have hlength : headerSize + (Layout.handleArea arguments ++ Layout.parameterArea arguments).length
      = (plainEnvelope command arguments).length := by
    simp only [plainEnvelope, RequestBuilder.request, RequestBuilder.envelope, RequestBuilder.add,
      RequestBuilder.start, List.isEmpty_nil, if_true, List.length_append, length_be16, length_be32,
      List.nil_append]
    rfl
  unfold plainRequest RequestHeader.write
  rw [← hlength]
  rfl

/-- The length of an envelope without entries can be told in its header. -/
theorem toNat_size_plainRequest (hvalid : Layout.Valid arguments) :
    (plainRequest command arguments).header.size.toNat
      = (plainEnvelope command arguments).length := by
  have hhandles : (Layout.handleArea arguments).length ≤ 8 := by
    have hcount : Layout.handleCount command.Request ≤ 2 := by cases command <;> decide
    have hlength := Layout.length_handleArea arguments
    omega
  have hparameters : (Layout.parameterArea arguments).length < 2 ^ 16 := by
    have hmax : (Layout.fieldLaws command.Request).maxLength < 2 ^ 16 := by
      cases command <;> decide
    exact Nat.lt_of_le_of_lt ((Layout.fieldLaws command.Request).length_write_le hvalid) hmax
  have hlength := congrArg List.length (plainEnvelope_eq arguments)
  rw [List.length_append, List.length_append, RequestHeader.length_write, headerSize] at hlength
  exact UInt32.toNat_ofNat_of_lt' (by unfold UInt32.size; omega)

end

namespace PlainCall

variable {command : Command}

/-- A request whose parameters are in the domains of their types. -/
def ofValid (arguments : command.Request) (hvalid : Layout.Valid arguments) :
    PlainCall command where
  arguments := arguments
  parse_eq := RequestHeader.parse_eq_ok_iff.mpr
    ⟨.inl rfl, toNat_size_plainRequest arguments hvalid, _, plainEnvelope_eq arguments⟩
  split_eq := by
    refine Request.split_eq_ok_iff.mpr ?_
    rw [plainEnvelope_eq, List.drop_left' (RequestHeader.length_write _)]
    exact Request.reader_eq_ok_iff.mpr
      ⟨rfl, rfl, Layout.Shows.length_handles arguments, _, rfl, rfl⟩
  ofAreas_eq := Layout.ofAreas_eq_ok_iff.mpr ⟨hvalid, rfl, rfl⟩

/-- The envelope of the request. -/
def envelope (call : PlainCall command) : Bytes := plainEnvelope command call.arguments

/-- A request without entries is accepted whichever sessions are live. -/
theorem accept_eq (call : PlainCall command) {env : Environment} (table : SessionTable)
    (hcommand : commandFor env.commands command.code.code = .ok (command, command.handleCount)) :
    accept env table (plainRequest command call.arguments).header call.envelope
      = .ok (command, plainRequest command call.arguments) :=
  Except.bind_eq_ok_iff.mpr ⟨_, hcommand, Except.bind_eq_ok_iff.mpr ⟨_, call.split_eq,
    Except.bind_eq_ok_iff.mpr ⟨(), rfl, rfl⟩⟩⟩

/-- A request without entries is answered by its handler, and the answer is written if there is room
for it. -/
theorem respond_eq (call : PlainCall command) (env : Environment) (limit : Nat) (state : State) :
    respond env limit command (plainRequest command call.arguments) state =
      match perform env command call.arguments state with
      | .ok answer performed =>
        if (Response.envelope .noSessions answer []).length ≤ limit then
          .ok (Response.envelope .noSessions answer []) performed
        else .error Response.tooLong performed
      | .error stop stopped => .error stop stopped := by
  have hareas : Layout.ofAreas command.Request (plainRequest command call.arguments).handles
      (plainRequest command call.arguments).parameters = .ok call.arguments := call.ofAreas_eq
  cases hperform : perform env command call.arguments state with
  | error stop stopped => exact respond_of_stopped hareas hperform limit
  | ok answer performed =>
    have hanswers : (plainRequest command call.arguments).sessions.mapM (answerEntry env) performed
        = .ok [] performed := rfl
    -- no entry is answered after the handler
    have hrespond := respond_of_performed hareas hperform hanswers limit
    rw [ite_self] at hrespond
    exact hrespond

/-- An engine that knows the command answers the request by its handler. If there is no answer, or
no room for it, then the sessions are put back. -/
theorem executeCommand_eq (call : PlainCall command) (engine : Engine)
    (hcommand : commandFor engine.env.commands command.code.code
      = .ok (command, command.handleCount)) :
    executeCommand call.envelope engine =
      match perform engine.env command call.arguments engine.state with
      | .ok answer performed =>
        if (Response.envelope .noSessions answer []).length ≤ engine.config.maxResponseSize then
          .ok (Response.envelope .noSessions answer []) { engine with state := performed }
        else
          .error (Response.tooLong.inCommand command.code.code)
            { engine with state := { performed with sessions := engine.state.sessions } }
      | .error stop stopped =>
        .error (stop.inCommand command.code.code)
          { engine with state := { stopped with sessions := engine.state.sessions } } := by
  have hparse : RequestHeader.parse call.envelope = .ok _ := call.parse_eq
  have haccept := call.accept_eq engine.state.sessions hcommand
  have hrespond := call.respond_eq engine.env engine.config.maxResponseSize engine.state
  unfold executeCommand process
  rw [hparse]
  simp only [haccept, hrespond]
  cases perform engine.env command call.arguments engine.state with
  | error stop stopped => rfl
  | ok answer performed =>
    dsimp only
    by_cases hfits : (Response.envelope .noSessions answer []).length
        ≤ engine.config.maxResponseSize
    · rw [if_pos hfits, if_pos hfits]
    · rw [if_neg hfits, if_neg hfits]
      rfl

/-- The request is carried out if its handler succeeds and there is room for the response, and
nothing happens after the handler. -/
theorem completed?_of_perform (call : PlainCall command) (engine : Engine)
    {answer : command.Response} {performed : State}
    (hcommand : commandFor engine.env.commands command.code.code
      = .ok (command, command.handleCount))
    (hperform : perform engine.env command call.arguments engine.state = .ok answer performed)
    (hfits : headerSize + (Layout.handleArea answer).length
      + (Layout.parameterArea answer).length ≤ engine.config.maxResponseSize) :
    completed? engine call.envelope = some ⟨command, call.arguments, answer⟩ ∧
      engine.after (.command call.envelope) = { engine with state := performed } := by
  have hlength : (Response.envelope .noSessions answer []).length
      ≤ engine.config.maxResponseSize := by
    rw [Response.length_envelope_noSessions]
    exact hfits
  have hexecute := call.executeCommand_eq engine hcommand
  rw [hperform] at hexecute
  dsimp only at hexecute
  rw [if_pos hlength] at hexecute
  constructor
  · have hparse : RequestHeader.parse call.envelope = .ok _ := call.parse_eq
    have haccept := call.accept_eq engine.state.sessions hcommand
    have hareas : Layout.ofAreas command.Request
        (plainRequest command call.arguments).handles
        (plainRequest command call.arguments).parameters = .ok call.arguments := call.ofAreas_eq
    unfold completed?
    rw [hexecute]
    simp [hparse, haccept, hareas, hperform, Except.toOption]
  · rw [Engine.after, hexecute]

end PlainCall

/-! ## From assertions to sessions -/

variable {env : Environment} {state next : State} {handle : UInt32} {index : UInt8}
  {assertion : Assertion} {session : Session}

theorem touch_of_live {table : SessionTable} (hlive : table.get? handle = some session) :
    SessionTable.touch handle table = .ok { session with lastUsed := table.useClock + 1 }
      ({ table with useClock := table.useClock + 1 }.insert handle
        { session with lastUsed := table.useClock + 1 }) :=
  SessionTable.touch_eq_ok_iff.mpr ⟨session, hlive, rfl, rfl⟩

/-- An assertion is applied to the live session, stamped as used, and what comes of it is the live
session then. -/
theorem makeAssertion_of_ok {outcome : PolicyOutcome}
    (h : makeAssertion env handle index assertion state = .ok outcome next) :
    ∃ session applied, state.sessions.get? handle = some session ∧
      Policy.apply env { session with lastUsed := state.sessions.useClock + 1 } assertion
        = .ok (applied, outcome) ∧
      next.sessions.get? handle = some applied := by
  obtain ⟨_, _, applied, htouch, happly, rfl⟩ := makeAssertion_eq_ok_iff.mp h
  obtain ⟨session, hlive, rfl, rfl⟩ := SessionTable.touch_eq_ok_iff.mp htouch
  exact ⟨session, applied, hlive, happly, SessionTable.get?_insert_self _ _ _⟩

theorem makePlainAssertion_of_apply {applied : Session} {outcome : PolicyOutcome}
    (hlive : state.sessions.get? handle = some session)
    (happly : Policy.apply env { session with lastUsed := state.sessions.useClock + 1 } assertion
      = .ok (applied, outcome)) :
    ∃ next, makePlainAssertion env handle assertion state = .ok {} next ∧
      next.sessions.get? handle = some applied :=
  ⟨_, makePlainAssertion_eq_ok_iff.mpr ⟨outcome, makeAssertion_eq_ok_iff.mpr
      ⟨_, _, applied, touch_of_live hlive, happly, rfl⟩⟩, SessionTable.get?_insert_self _ _ _⟩

/-- A signed assertion that holds is made, and the other sessions stay as they are. -/
theorem policySigned_of_apply (r : PolicySignedRequest) (answer : PolicySignedResponse)
    {key : Entity} {applied : Session}
    (hkey : env.objects.resolve r.authObject = some key)
    (hlive : state.sessions.get? r.policySession = some session)
    (happly : Policy.apply env { session with lastUsed := state.sessions.useClock + 1 }
      (r.assertion key) = .ok (applied, .signed answer.timeout answer.policyTicket)) :
    ∃ next, policySigned env r state = .ok answer next ∧
      ∀ other, other ≠ r.policySession →
        next.sessions.get? other = state.sessions.get? other := by
  refine ⟨_, policySigned_eq_ok_iff.mpr ⟨key, hkey, makeAssertion_eq_ok_iff.mpr
    ⟨_, _, applied, touch_of_live hlive, happly, rfl⟩⟩, fun other hother => ?_⟩
  rw [SessionTable.get?_insert, if_neg hother, SessionTable.get?_insert, if_neg hother]
  rfl

theorem makeAssertion_of_apply_error {stop : Stop} {touched : SessionTable}
    (htouch : SessionTable.touch handle state.sessions = .ok session touched)
    (happly : Policy.apply env session assertion = .error stop) :
    makeAssertion env handle index assertion state
      = .error stop { state with sessions := touched } := by
  have hsite : Action.onSessionsAt (·.atHandle index) (SessionTable.touch handle) state
      = .ok session { state with sessions := touched } :=
    Action.onSessionsAt_eq_ok_iff.mpr ⟨htouch, rfl⟩
  refine (EStateM.bind_of_ok hsite).trans ?_
  rw [happly]
  rfl

theorem makePlainAssertion_of_apply_error {stop : Stop} {touched : SessionTable}
    (htouch : SessionTable.touch handle state.sessions = .ok session touched)
    (happly : Policy.apply env session assertion = .error stop) :
    makePlainAssertion env handle assertion state
      = .error stop { state with sessions := touched } :=
  EStateM.bind_of_error (makeAssertion_of_apply_error htouch happly)

/-- The assertion of a command that was carried out was applied to a live session, and its handler
left the session that came of it; if this session outlived the command, its policy is still that. -/
theorem apply_of_completed? {envelope : Bytes} {done : Completed}
    (h : completed? engine envelope = some done)
    (hasserted : done.asserted? engine.env = some (handle, assertion)) :
    ∃ session applied, engine.state.sessions.get? handle = some session ∧
      Policy.apply engine.env
          { session with lastUsed := engine.state.sessions.useClock + 1 } assertion
        = .ok (applied, done.outcome) ∧
      (∃ performed,
        perform engine.env done.command done.request engine.state = .ok done.answer performed ∧
          performed.sessions.get? handle = some applied) ∧
      ∀ left, (engine.after (.command envelope)).state.sessions.get? handle = some left →
        left.policy = applied.policy := by
  obtain ⟨_, performed, entries, answers, draws, hperform, hafter⟩ := of_completed? h
  obtain ⟨index, hmake⟩ : ∃ index,
      makeAssertion engine.env handle index assertion engine.state
        = .ok done.outcome performed := by
    cases Completed.effect_of_perform hperform with
    | asserted _ hmade hmake =>
      cases hasserted.symm.trans hmade
      exact ⟨_, hmake⟩
    | started _ hnone => cases hasserted.symm.trans hnone
    | dropped _ hnone => cases hasserted.symm.trans hnone
    | kept _ hnone => cases hasserted.symm.trans hnone
  obtain ⟨session, applied, hlive, happly, hput⟩ := makeAssertion_of_ok hmake
  refine ⟨session, applied, hlive, happly, ⟨performed, hperform, hput⟩, fun left hleft => ?_⟩
  -- between the assertion and the end of the command, sessions were only used
  rw [hafter] at hleft
  obtain ⟨old, hold, _, _, hpolicy⟩ :=
    useSessions_keepsPolicies performed.sessions entries answers handle left hleft
  cases hput.symm.trans hold
  exact hpolicy

end TrustedPlatform.Engine
