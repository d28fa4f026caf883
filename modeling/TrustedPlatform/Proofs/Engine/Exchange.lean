import TrustedPlatform.Proofs.Engine.Promises
import TrustedPlatform.Proofs.Engine.Unanswered

/-!
# What the engine sends and what a client makes of it

`Engine.Execution` is everything about a command that was carried out: what the envelope was read
as, what the handler returned, and how the authorization entries were answered. The response is a
function of it, from which a client reads the same answer and the same entries back; a command that
is refused is answered by ten octets with a code that is not that of success. Requests that go
beyond what the engine can count are the only ones without a response.
-/

namespace TrustedPlatform

/-! ## Refusals -/

theorem Cause.baseCode_ne_zero (cause : Cause) : cause.baseCode ≠ 0 := by
  cases cause with
  | policy reason => cases reason <;> decide
  | exhausted resource => cases resource <;> decide
  | _ => decide

/-- The code of a fault is never that of success: a site only adds bits to it. -/
theorem Fault.responseCode_ne_zero (fault : Fault) : fault.responseCode ≠ 0 := by
  have hbase := fault.cause.baseCode_ne_zero
  have hor : ∀ bits, fault.cause.baseCode ||| bits ≠ 0 := fun bits h =>
    hbase (UInt32.or_eq_zero_iff.mp h).1
  unfold Fault.responseCode
  dsimp only
  split
  · split
    · exact hor _
    · unfold ResponseCode.withParameter
      rw [UInt32.or_assoc]
      exact hor _
    · unfold ResponseCode.withSession
      rw [UInt32.or_assoc]
      exact hor _
    · exact hbase
  · exact hbase

/-- A client finds the code of a refusal, and nothing else. -/
theorem Reply.parse_refusal (responseCode : UInt32) :
    Reply.parse (Response.refusal responseCode) = .ok ⟨.noSessions, responseCode, []⟩ := by
  have h := Reply.parse_eq .noSessions responseCode [] (by decide)
  rw [List.append_nil, List.length_nil] at h
  have hheader : Response.header .noSessions 0 responseCode = Response.refusal responseCode := by
    unfold Response.header Response.refusal
    rfl
  rw [← hheader]
  exact h

/-- A response that can be read tells its length. -/
theorem Reply.length_of_parse {response : Bytes} {reply : Reply}
    (h : Reply.parse response = .ok reply) :
    Bytes.toNat ((response.drop 2).take 4) = response.length := by
  unfold Reply.parse at h
  split at h
  · cases h
  · dsimp only at h
    split at h
    · cases h
    · split at h
      · cases h
      · rename_i hsize
        exact (not_not.mp hsize).symm

namespace Engine

/-! ## Commands that were carried out -/

/-- How the engine carried out the command of an envelope. -/
structure Execution (engine : Engine) (envelope : Bytes) where
  command : Command
  /-- The areas of the envelope. -/
  request : Request
  arguments : command.Request
  /-- What the handler returned, and the state that it left. -/
  answer : command.Response
  performed : State
  /-- The answers to the authorization entries, and the state in which they were drawn up. -/
  answers : List AuthResponse
  answered : State
  parse_eq : RequestHeader.parse envelope = .ok request.header
  accept_eq : accept engine.env engine.state.sessions request.header envelope
    = .ok (command, request)
  ofAreas_eq : Layout.ofAreas command.Request request.handles request.parameters = .ok arguments
  perform_eq : perform engine.env command arguments engine.state = .ok answer performed
  answers_eq : request.sessions.mapM (answerEntry engine.env) performed = .ok answers answered

/-- The header of an accepted request is the one that was parsed, and there are authorization
entries, up to three, exactly if its tag says so. -/
theorem of_accept {env : Environment} {table : SessionTable} {header : RequestHeader}
    {envelope : Bytes} {command : Command} {request : Request}
    (hparse : RequestHeader.parse envelope = .ok header)
    (haccept : accept env table header envelope = .ok (command, request)) :
    request.header = header ∧
      (request.header.tag = .noSessions ∧ request.sessions = [] ∨
        request.header.tag = .sessions ∧ request.sessions.length ≤ maxSessions) := by
  obtain ⟨⟨kind, count⟩, _, hcut⟩ := Except.bind_eq_ok_iff.mp haccept
  obtain ⟨split, hsplit, hlive⟩ := Except.bind_eq_ok_iff.mp hcut
  obtain ⟨_, _, hpure⟩ := Except.bind_eq_ok_iff.mp hlive
  cases Except.pure_eq_ok_iff.mp hpure
  have hheader := (Request.reader_eq_ok_iff.mp (Request.split_eq_ok_iff.mp hsplit)).1
  refine ⟨hheader, ?_⟩
  cases Request.parse_split_iff_makes.mp ⟨header, hparse, hsplit⟩ with
  | noSessions => exact .inl ⟨rfl, rfl⟩
  | sessions _ _ _ hmax => exact .inr ⟨rfl, hmax⟩

namespace Execution

variable {engine : Engine} {envelope : Bytes} (e : Execution engine envelope)

/-- The response. -/
def response : Bytes := Response.envelope e.request.header.tag e.answer e.answers

/-- The engine after the command: the sessions of the entries were used. -/
def next : Engine :=
  { engine with state := { e.answered with
      sessions := useSessions e.answered.sessions e.request.sessions e.answers } }

/-- An envelope that is answered was carried out, and the response fits. -/
theorem exists_of_executeCommand {response : Bytes} {next : Engine}
    (h : executeCommand envelope engine = .ok response next) :
    ∃ e : Execution engine envelope, response = e.response ∧ next = e.next ∧
      response.length ≤ engine.config.maxResponseSize := by
  obtain ⟨final, hprocess, rfl⟩ := executeCommand_eq_ok_iff.mp h
  obtain ⟨header, command, request, hparse, haccept, hrespond⟩ := process_eq_ok_iff.mp hprocess
  obtain ⟨arguments, answer, performed, answers, answered, hareas, hperform, hanswers, hresponse,
    hfits, rfl⟩ := respond_eq_ok_iff.mp hrespond
  obtain ⟨rfl, _⟩ := of_accept hparse haccept
  exact ⟨⟨command, request, arguments, answer, performed, answers, answered, hparse, haccept,
    hareas, hperform, hanswers⟩, hresponse, rfl, hfits⟩

/-- The command that was carried out. -/
def done : Completed := ⟨e.command, e.arguments, e.answer⟩

theorem perform_done :
    perform engine.env e.done.command e.done.request engine.state
      = .ok e.done.answer e.performed := e.perform_eq

theorem completed?_eq {response : Bytes} {next : Engine}
    (hexecute : executeCommand envelope engine = .ok response next) :
    completed? engine envelope = some e.done := by
  unfold completed?
  rw [hexecute, e.parse_eq]
  simp [Except.toOption, e.accept_eq, e.ofAreas_eq, e.perform_eq, done]

theorem exists_of_completed? {done : Completed}
    (h : completed? engine envelope = some done) :
    ∃ e : Execution engine envelope, e.done = done ∧
      perform engine.env done.command done.request engine.state = .ok done.answer e.performed ∧
      engine.after (.command envelope) = e.next := by
  obtain ⟨response, next, hexecute⟩ := completed?_isSome_iff.mp (Option.isSome_of_eq_some h)
  obtain ⟨e, _, rfl, _⟩ := exists_of_executeCommand hexecute
  obtain rfl := Option.some.inj ((e.completed?_eq hexecute).symm.trans h)
  exact ⟨e, rfl, e.perform_done, by rw [Engine.after, hexecute]⟩

/-- Every entry is answered, and there are entries only if the tag says so. -/
theorem answers_cases :
    e.answers.length = e.request.sessions.length ∧ e.answers.length ≤ maxSessions ∧
      (e.request.header.tag = .sessions ∨ e.answers = []) := by
  have hlength := EStateM.length_of_mapM_eq_ok e.answers_eq
  refine ⟨hlength, ?_⟩
  obtain ⟨_, ⟨_, hnone⟩ | ⟨htag, hmax⟩⟩ := of_accept e.parse_eq e.accept_eq
  · rw [hnone, List.length_nil] at hlength
    have hempty := List.length_eq_zero_iff.mp hlength
    refine ⟨?_, .inr hempty⟩
    rw [hempty]
    exact Nat.zero_le _
  · exact ⟨hlength ▸ hmax, .inl htag⟩

end Execution

/-! ## What a client reads -/

theorem length_parameterArea_lt {command : Command} {answer : command.Response}
    (hvalid : Layout.Valid answer) : (Layout.parameterArea answer).length < 2 ^ 16 := by
  have hmax : (Layout.fieldLaws command.Response).maxLength < 2 ^ 16 := by
    cases command <;> decide
  exact Nat.lt_of_le_of_lt ((Layout.fieldLaws command.Response).length_write_le hvalid) hmax

theorem length_handleArea_le (command : Command) (answer : command.Response) :
    (Layout.handleArea answer).length ≤ 4 := by
  have hcount : Layout.handleCount command.Response ≤ 1 := by cases command <;> decide
  have hlength := Layout.length_handleArea answer
  omega

/-- The entries of a response are short. -/
theorem length_entryArea_le {entries : List AuthResponse} (tag : StructureTag)
    (hvalid : ∀ entry ∈ entries, entry.Valid) :
    (Response.entryArea tag entries).length ≤ entries.length * 133 := by
  unfold Response.entryArea
  split
  · induction entries with
    | nil => exact Nat.zero_le _
    | cons entry entries ih =>
      obtain ⟨hentry, hentries⟩ := List.forall_mem_cons.mp hvalid
      have hnonce : entry.nonce.bytes.length ≤ 64 := hentry.nonce.le_max
      have hhmac : entry.hmac.bytes.length ≤ 64 := hentry.hmac.le_max
      have hfirst : (Wire.write entry).length
          = 2 + entry.nonce.bytes.length + 1 + (2 + entry.hmac.bytes.length) := by
        simp only [Wire.write, List.length_append, length_sizedBytes, List.length_singleton]
      have hothers := ih hentries
      rw [List.flatMap_cons, List.length_append, List.length_cons]
      omega
  · exact Nat.zero_le _

/-- A response is short enough that its header can tell its length. -/
theorem length_body_lt {command : Command} {answer : command.Response}
    {entries : List AuthResponse} (tag : StructureTag) (hvalid : Layout.Valid answer)
    (hcount : entries.length ≤ maxSessions) (hentries : ∀ entry ∈ entries, entry.Valid) :
    headerSize + (Response.body tag answer entries).length < 2 ^ 32 := by
  have hparameters := length_parameterArea_lt hvalid
  have hhandles := length_handleArea_le command answer
  have harea := length_entryArea_le tag hentries
  have hareas : (Response.areas tag answer).length ≤ 8 + 2 ^ 16 := by
    unfold Response.areas
    split <;> simp only [List.length_append, length_be32, List.length_nil] <;> omega
  unfold maxSessions at hcount
  rw [Response.body, List.length_append, headerSize]
  omega

namespace Execution

variable {engine : Engine} {envelope : Bytes} (e : Execution engine envelope)

/-- A client reads the answer and the entries back as they were given. -/
theorem reply_of_sound (hsound : engine.Sound) :
    ∃ reply, Reply.parse e.response = .ok reply ∧ reply.tag = e.request.header.tag ∧
      reply.responseCode = ResponseCode.success ∧
      reply.parameters e.command.Response = .ok e.answer ∧
      reply.authEntries (Layout.handleCount e.command.Response) = .ok e.answers := by
  have hvalid := valid_of_perform hsound.env hsound.sessions e.perform_eq
  have hentries := valid_of_answerEntries hsound.env e.answers_eq
  obtain ⟨_, hmax, htag⟩ := e.answers_cases
  have hparameters := length_parameterArea_lt hvalid
  have hlength := length_body_lt e.request.header.tag hvalid hmax hentries
  exact ⟨_, Reply.parse_eq _ ResponseCode.success _ hlength, rfl, rfl,
    Reply.parameters_eq _ hvalid (by omega),
    Reply.authEntries_eq _ (by omega) htag hentries⟩

end Execution

/-- Whatever is sent to an engine that was reached, it is answered by an envelope that the client
can read, and the client reads what the engine did. A refusal is answered by a bare header with the
response code of the fault. A command that was carried out is answered, within the limit, under the
tag of the request, by what its handler returned and by one entry for each authorization entry. Only
a request that goes beyond what the engine can count is not answered at all: if there is room for
its session but every handle for it is in use, or if the ticket of its authorization expires beyond
the end of the clock. -/
theorem client_reads_response {crypto : Crypto} {config : Config} {events : List Event}
    {envelope : Bytes} (hsized : crypto.FixedLength)
    (hrandom : ∀ draw size, (crypto.random draw size).length = size) :
    let engine := reached crypto config events
    (∃ breach stopped command r, execute envelope engine = .error breach stopped ∧
        requested? engine envelope = some ⟨command, r⟩ ∧
        ¬WithinLimits engine.state.sessions command r) ∨
      ∃ response next reply,
        execute envelope engine = .ok response next ∧
        Reply.parse response = .ok reply ∧
        Bytes.toNat ((response.drop 2).take 4) = response.length ∧
        ((∃ refusal,
            executeCommand envelope engine = .error (.refused refusal) next ∧
            response = be16 0x8001 ++ be32 10 ++ be32 refusal.responseCode ∧
            refusal.responseCode ≠ 0) ∨
          ∃ e : Execution engine envelope,
            executeCommand envelope engine = .ok response next ∧
            response = e.response ∧ next = e.next ∧
            response.length ≤ config.maxResponseSize ∧
            reply.tag = e.request.header.tag ∧
            reply.responseCode = 0 ∧
            reply.parameters e.command.Response = .ok e.answer ∧
            reply.authEntries (Layout.handleCount e.command.Response) = .ok e.answers ∧
            e.answers.length = e.request.sessions.length ∧
            (e.request.header.tag = .noSessions → e.answers = [])) := by
  intro engine
  have hsound : engine.Sound := sound_reached hsized hrandom
  cases hexecute : executeCommand envelope engine with
  | error stop stopped =>
    cases stop with
    | breach breach =>
      have hbreach : execute envelope engine = .error breach stopped := by
        unfold execute
        rw [hexecute]
      by_cases hlimits : ∀ command r, requested? engine envelope = some ⟨command, r⟩ →
          WithinLimits engine.state.sessions command r
      · exact (executeCommand_keepsPromises hsound hlimits hexecute).elim
      · push Not at hlimits
        obtain ⟨command, r, hrequested, hbeyond⟩ := hlimits
        exact .inl ⟨breach, stopped, command, r, hbreach, hrequested, hbeyond⟩
    | refused refusal =>
      have hresponse : execute envelope engine
          = .ok (Response.refusal refusal.responseCode) stopped := by
        unfold execute
        rw [hexecute]
      have hparse := Reply.parse_refusal refusal.responseCode
      exact .inr ⟨_, stopped, _, hresponse, hparse, Reply.length_of_parse hparse,
        .inl ⟨refusal, rfl, rfl, refusal.fault.responseCode_ne_zero⟩⟩
  | ok response next =>
    have hresponse : execute envelope engine = .ok response next := by
      unfold execute
      rw [hexecute]
    obtain ⟨e, rfl, hnext, hfits⟩ := Execution.exists_of_executeCommand hexecute
    obtain ⟨reply, hparse, htag, hcode, hparameters, hentries⟩ := e.reply_of_sound hsound
    obtain ⟨hcount, _, hnone⟩ := e.answers_cases
    have hlimit : e.response.length ≤ config.maxResponseSize := by
      rw [config_reached] at hfits
      exact hfits
    have hempty : e.request.header.tag = .noSessions → e.answers = [] := by
      intro htag
      rcases hnone with hsessions | hempty
      · rw [htag] at hsessions
        cases hsessions
      · exact hempty
    exact .inr ⟨_, next, reply, hresponse, hparse, Reply.length_of_parse hparse,
      .inr ⟨e, rfl, rfl, hnext, hlimit, htag, hcode, hparameters, hentries, hcount, hempty⟩⟩

/-- An assertion on the trial session of the crowded engine, with the HMAC session that is live
there. -/
def accompaniedEnvelope : Bytes :=
  RequestBuilder.request .policyPassword (⟨0x03000002⟩ : PolicyPasswordRequest)
    [.policy 0x02000001]

theorem client_reads_response_accompanied :
    let crypto : Crypto := .standard fun _ size => Bytes.zeros size
    let engine := reached crypto crowdedConfig crowdedEvents
    crypto.FixedLength ∧ (∀ draw size, (crypto.random draw size).length = size) ∧
      ∃ e : Execution engine accompaniedEnvelope, ∃ reply,
        execute accompaniedEnvelope engine = .ok e.response e.next ∧
        Reply.parse e.response = .ok reply ∧ reply.tag = .sessions ∧
        reply.parameters e.command.Response = .ok e.answer ∧
        reply.authEntries (Layout.handleCount e.command.Response) = .ok e.answers := by
  intro crypto engine
  have hsized : crypto.FixedLength := Crypto.fixedLength_standard _
  have hrandom : ∀ draw size, (crypto.random draw size).length = size := fun _ size =>
    Bytes.length_zeros size
  refine ⟨hsized, hrandom, ?_⟩
  obtain ⟨response, next, hexecute⟩ : ∃ response next,
      executeCommand accompaniedEnvelope engine = .ok response next :=
    completed?_isSome_iff.mp (by decide +kernel)
  have hanswered : execute accompaniedEnvelope engine = .ok response next := by
    unfold execute
    rw [hexecute]
  rcases @client_reads_response crypto crowdedConfig crowdedEvents accompaniedEnvelope hsized
      hrandom with
    ⟨_, _, _, _, hbreach, _⟩ | ⟨_, _, reply, hresponse, hparse, _, hrefused | hcarried⟩
  · cases hanswered.symm.trans hbreach
  · obtain ⟨_, hrefused, _⟩ := hrefused
    cases hexecute.symm.trans hrefused
  · obtain ⟨e, _, rfl, rfl, _, htag, _, hparameters, hentries, _⟩ := hcarried
    have hheader : RequestHeader.parse accompaniedEnvelope
        = .ok ⟨.sessions, 27, CommandCode.policyPassword.code⟩ := by decide +kernel
    have hsessions : reply.tag = .sessions := by
      rw [htag]
      exact congrArg RequestHeader.tag (Except.ok.inj (e.parse_eq.symm.trans hheader))
    exact ⟨e, reply, hresponse, hparse, hsessions, hparameters, hentries⟩

/-- An authorization for a second that is signed at the last reading of the clock gets no response,
nor does a request for a session when every handle for it is in use. -/
theorem beyond_count_is_not_answered :
    sampleCrypto.FixedLength ∧
      (∀ draw size, (sampleCrypto.random draw size).length = size) ∧
      (¬∃ response next, execute sampleSigning.envelope
        (reached sampleCrypto sampleConfig lastEvents) = .ok response next) ∧
      ¬∃ response next, execute (startRequest [])
        (reached sampleCrypto wideConfig (startEvents (2 ^ 24))) = .ok response next := by
  refine ⟨Crypto.fixedLength_standard _, length_sampleRandom, ?_, ?_⟩
  · rintro ⟨response, next, hresponse⟩
    obtain ⟨halted, hexecute⟩ := execute_sampleSigning_last
    cases hexecute.symm.trans hresponse
  · -- the run is too long to be looked at
    obtain ⟨n, hn⟩ : ∃ n, n = 2 ^ 24 := ⟨_, rfl⟩
    rw [← hn]
    rintro ⟨response, next, hresponse⟩
    obtain ⟨_, halted, hexecute⟩ := execute_startRequest_wide hn
    cases hexecute.symm.trans hresponse

end Engine

end TrustedPlatform
