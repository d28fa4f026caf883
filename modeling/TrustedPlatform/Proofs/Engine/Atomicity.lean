import TrustedPlatform.Engine.History
import TrustedPlatform.Proofs.Engine.Action

/-!
# A command that stops

A command can stop at any stage, also after its handler started, changed or dropped sessions and
after nonces were drawn for its response. Nothing of this is left but the draws.
-/

namespace TrustedPlatform.Engine

/-- Wherever a command stops, the sessions are those it found. Up to the handler nothing was
touched; from then on draws may have been made, and the table is put back. -/
theorem process_error {env : Environment} {limit : Nat} {envelope : Bytes} {state stopped : State}
    {stop : CommandStop} (h : process env limit envelope state = .error stop stopped) :
    stopped.sessions = state.sessions ∧ state.Advances stopped := by
  unfold process at h
  split at h
  · cases h
    exact ⟨rfl, Nat.le_refl _⟩
  · split at h
    · cases h
      exact ⟨rfl, Nat.le_refl _⟩
    · split at h
      · cases h
      · rename_i hrespond
        -- what the response had drawn by then stays drawn
        have hdraws := (respond_advances env limit _ _).error hrespond
        cases h
        exact ⟨rfl, hdraws⟩

theorem of_executeCommand_error {engine stopped : Engine} {envelope : Bytes} {stop : CommandStop}
    (h : executeCommand envelope engine = .error stop stopped) :
    ∃ state, stopped = { engine with state := state } ∧
      state.sessions = engine.state.sessions ∧ engine.state.Advances state := by
  unfold executeCommand at h
  split at h
  · cases h
  · rename_i hprocess
    cases h
    exact ⟨_, rfl, process_error hprocess⟩

/-- If a command gives no response, then the session table, the environment with its hierarchies and
the configuration are what they were, and of the draws none was taken back. -/
theorem executeCommand_atomic {engine stopped : Engine} {envelope : Bytes} {stop : CommandStop}
    (h : executeCommand envelope engine = .error stop stopped) :
    stopped.state.sessions = engine.state.sessions ∧ stopped.env = engine.env ∧
      stopped.config = engine.config ∧ engine.state.Advances stopped.state := by
  obtain ⟨state, rfl, hsessions, hdraws⟩ := of_executeCommand_error h
  exact ⟨hsessions, rfl, rfl, hdraws⟩

/-- A request to start a session. -/
def startRequest (entries : List AuthCommand) : Bytes :=
  RequestBuilder.request .startAuthSession
    (StartAuthSessionRequest.unbound .policy .sha256 (Bytes.zeros 16)) entries

/-- An engine that drops the older of its two sessions when a third is started, and whose responses
have no room for the nonce of a second session. -/
def fullEngine : Engine :=
  (Engine.new (.standard fun _ size => Bytes.zeros size) {
    maxSessions := 2
    maxResponseSize := 80
    evictWhenFull := true
    hierarchies := .standard
    proofSeed := []
    disabledCommands := [] }).afterAll [.command (startRequest []), .command (startRequest [])]

/-- The older session was dropped and two nonces were drawn before it was known that the response
does not fit; both sessions are there all the same. -/
theorem executeCommand_atomic_full :
    ∃ stop stopped,
      executeCommand (startRequest [.policy 0x03000001]) fullEngine = .error stop stopped ∧
      fullEngine.state.sessions.handles = [0x03000000, 0x03000001] ∧
      stopped.state.draws = fullEngine.state.draws + 2 ∧
      stopped.state.sessions = fullEngine.state.sessions ∧ stopped.env = fullEngine.env ∧
      stopped.config = fullEngine.config ∧ fullEngine.state.Advances stopped.state := by
  obtain ⟨stop, stopped, h, hdraws⟩ : ∃ stop stopped,
      executeCommand (startRequest [.policy 0x03000001]) fullEngine = .error stop stopped ∧
        stopped.state.draws = fullEngine.state.draws + 2 := ⟨_, _, rfl, rfl⟩
  exact ⟨stop, stopped, h, by decide, hdraws, executeCommand_atomic h⟩

end TrustedPlatform.Engine
