import TrustedPlatform.Proofs.Engine.Exchange

/-!
# Calls by way of envelopes

`Engine.run` writes a typed request as an envelope, has the engine answer it, and reads the typed
answer off the response. Without authorization entries this is the same as calling the handler: the
same answer and the same state come of it, as long as the answer fits into a response; the same
fault comes of it otherwise, and then the sessions are put back.
-/

namespace TrustedPlatform.Engine

namespace PlainCall

variable {command : Command} (call : PlainCall command)

/-- What comes of a request that is sent to a sound engine by way of an envelope. -/
theorem run_eq {engine : Engine} (hsound : engine.Sound)
    (hcommand : commandFor engine.env.commands command.code.code
      = .ok (command, command.handleCount)) :
    run command.Response command.code call.arguments [] engine =
      match perform engine.env command call.arguments engine.state with
      | .ok answer performed =>
        if headerSize + 4 * Layout.handleCount command.Response
            + (Layout.parameterArea answer).length ≤ engine.config.maxResponseSize then
          .ok answer { engine with state := performed }
        else
          .error (Response.tooLong.inCommand command.code.code)
            { engine with state := { performed with sessions := engine.state.sessions } }
      | .error stop stopped =>
        .error (stop.inCommand command.code.code)
          { engine with state := { stopped with sessions := engine.state.sessions } } := by
  have hexecute := call.executeCommand_eq engine hcommand
  cases hperform : perform engine.env command call.arguments engine.state with
  | error stop stopped =>
    rw [hperform] at hexecute
    exact EStateM.bind_of_error hexecute
  | ok answer performed =>
    rw [hperform] at hexecute
    dsimp only at hexecute ⊢
    rw [← Layout.length_handleArea answer, ← Response.length_envelope_noSessions answer []]
    by_cases hfits : (Response.envelope .noSessions answer []).length
        ≤ engine.config.maxResponseSize
    · rw [if_pos hfits] at hexecute ⊢
      -- what was written is read back, because the answer has a form on the wire
      have hvalid := valid_of_perform hsound.env hsound.sessions hperform
      have hshort := length_parameterArea_lt hvalid
      have hlength : headerSize + (Response.body .noSessions answer []).length < 2 ^ 32 :=
        length_body_lt .noSessions hvalid (Nat.zero_le _) (List.forall_mem_nil _)
      have hparse : Reply.parse (Response.envelope .noSessions answer []) = .ok _ :=
        Reply.parse_eq .noSessions ResponseCode.success _ hlength
      have hread : Reply.parameters command.Response
          ⟨.noSessions, ResponseCode.success, Response.body .noSessions answer []⟩ = .ok answer :=
        Reply.parameters_eq ResponseCode.success hvalid (by omega)
      refine (EStateM.bind_of_ok hexecute).trans ?_
      rw [hparse]
      dsimp only
      rw [hread]
      rfl
    · rw [if_neg hfits] at hexecute ⊢
      exact EStateM.bind_of_error hexecute

end PlainCall

/-- The standard set knows every command that is not disabled. -/
theorem commandFor_standard {command : Command} {disabled : List UInt32}
    (henabled : command.code.code ∉ disabled) :
    commandFor (.standard disabled) command.code.code = .ok (command, command.handleCount) := by
  have himplemented : (CommandSet.standard disabled).isImplemented command.code.code = true := by
    simp [CommandSet.standard, Command.ofCode?_code, henabled]
  have hcount : (CommandSet.standard disabled).handleCount command.code.code
      = some command.handleCount := by
    simp [CommandSet.standard, Command.ofCode?_code]
  unfold commandFor
  simp only [Command.ofCode?_code, hcount, himplemented, if_true]

/-- The way through the envelopes adds nothing to a call of the handler and takes nothing away: in
every state that an engine can get to, a request of the domain that is sent without authorization
entries gives the answer and the state that the handler gives, if the answer fits into a response.
If it does not fit, the engine has no room for the response; if the handler fails, its fault is
reported as that of the command; in both cases the sessions are what they were. -/
theorem run_eq_perform {crypto : Crypto} {config : Config} {events : List Event}
    {command : Command} {arguments : command.Request} (hsized : crypto.FixedLength)
    (hrandom : ∀ draw size, (crypto.random draw size).length = size)
    (henabled : command.code.code ∉ config.disabledCommands) (hvalid : Layout.Valid arguments) :
    let engine := reached crypto config events
    run command.Response command.code arguments [] engine =
      match perform engine.env command arguments engine.state with
      | .ok answer performed =>
        if 10 + 4 * Layout.handleCount command.Response + (Layout.parameterArea answer).length
            ≤ config.maxResponseSize then
          .ok answer { engine with state := performed }
        else
          .error (.refused ⟨command.code.code, (Cause.exhausted .responseBuffer).unattributed⟩)
            { engine with state := { performed with sessions := engine.state.sessions } }
      | .error (.fault fault) stopped =>
        .error (.refused ⟨command.code.code, fault⟩)
          { engine with state := { stopped with sessions := engine.state.sessions } }
      | .error (.breach breach) stopped =>
        .error (.breach breach)
          { engine with state := { stopped with sessions := engine.state.sessions } } := by
  intro engine
  have hcommand : commandFor engine.env.commands command.code.code
      = .ok (command, command.handleCount) := by
    rw [commands_reached]
    exact commandFor_standard henabled
  have hrun := (PlainCall.ofValid arguments hvalid).run_eq (sound_reached hsized hrandom) hcommand
  have hlimit : engine.config.maxResponseSize = config.maxResponseSize :=
    congrArg Config.maxResponseSize (config_reached crypto config events)
  rw [hlimit] at hrun
  refine hrun.trans ?_
  show (match perform engine.env command arguments engine.state with
    | .ok _ _ => _
    | .error _ _ => _) = _
  cases perform engine.env command arguments engine.state with
  | ok answer performed => rfl
  | error stop stopped => cases stop <;> rfl

/-- A session is started by way of envelopes as it is by its handler: it takes the place of the HMAC
session of the crowded engine. -/
theorem run_eq_perform_crowded :
    let crypto : Crypto := .standard fun _ size => Bytes.zeros size
    let engine := reached crypto crowdedConfig crowdedEvents
    let r := StartAuthSessionRequest.unbound .hmac .sha256 (Bytes.zeros 16)
    crypto.FixedLength ∧ (∀ draw size, (crypto.random draw size).length = size) ∧
      Command.startAuthSession.code.code ∉ crowdedConfig.disabledCommands ∧ Layout.Valid r ∧
      ∃ performed,
        startAuthSession engine.env r engine.state = .ok ⟨0x02000003, ⟨Bytes.zeros 32⟩⟩ performed ∧
        performed.sessions.handles = [0x03000002, 0x02000003] ∧
        run StartAuthSessionResponse .startAuthSession r [] engine
          = .ok ⟨0x02000003, ⟨Bytes.zeros 32⟩⟩ { engine with state := performed } := by
  intro crypto engine r
  have hsized : crypto.FixedLength := Crypto.fixedLength_standard _
  have hrandom : ∀ draw size, (crypto.random draw size).length = size := fun _ size =>
    Bytes.length_zeros size
  have hareas : Layout.ofAreas StartAuthSessionRequest (Layout.handles r) (Layout.parameterArea r)
      = .ok r := by decide +kernel
  have hvalid : Layout.Valid r := (Layout.ofAreas_eq_ok_iff.mp hareas).1
  have hstarted : (match startAuthSession engine.env r engine.state with
      | .ok answer performed => some (answer, performed.sessions.handles)
      | .error _ _ => none)
      = some (⟨0x02000003, ⟨Bytes.zeros 32⟩⟩, [0x03000002, 0x02000003]) := by decide +kernel
  have hrun := @run_eq_perform crypto crowdedConfig crowdedEvents .startAuthSession r hsized
    hrandom (by decide) hvalid
  dsimp only at hrun
  rw [show reached crypto crowdedConfig crowdedEvents = engine from rfl] at hrun
  refine ⟨hsized, hrandom, by decide, hvalid, ?_⟩
  -- from here on the engine is any engine in which the handler gives this
  clear_value engine
  cases hperform : startAuthSession engine.env r engine.state with
  | error stop stopped =>
    rw [hperform] at hstarted
    cases hstarted
  | ok answer performed =>
    rw [hperform] at hstarted
    obtain ⟨rfl, hhandles⟩ := Prod.mk.inj (Option.some.inj hstarted)
    rw [show perform engine.env .startAuthSession r engine.state = _ from hperform] at hrun
    exact ⟨performed, rfl, hhandles, hrun⟩

end TrustedPlatform.Engine
