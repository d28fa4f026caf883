import TrustedPlatform.Engine.Process
import TrustedPlatform.Envelope.Builder
import TrustedPlatform.Envelope.Reply

/-!
# The engine

An engine is its configuration, the environment its commands consult, and the state they change.
`Engine.execute` answers a request envelope with a response envelope, `Engine.executeCommand` keeps
the fault of a refused command, and `Engine.run` takes a typed request and gives the typed response
by way of both envelopes. What happens to an engine other than commands (keys loaded, PCRs
extended, the clock, hierarchies switched) is an update of the environment.
-/

namespace TrustedPlatform

/-- An engine. -/
structure Engine where
  config : Config
  env : Environment
  state : Engine.State

namespace Engine

/-- The engine of a configuration, with no keys loaded, PCRs at zero and the clock at zero. -/
def new (crypto : Crypto) (config : Config) : Engine where
  config := config
  env := {
    crypto := crypto
    commands := .standard config.disabledCommands
    tickets := .ofConfig crypto config
    objects := .empty
    pcrs := .initial
    clock := .initial }
  state := {
    sessions := .empty config.maxSessions config.evictWhenFull
    draws := TicketAuthority.drawsOfConfig config }

/-! ## Commands -/

/-- The response envelope to a request envelope, or why there is none. -/
def executeCommand (command : Bytes) : EStateM CommandStop Engine Bytes := fun engine =>
  match process engine.env engine.config.maxResponseSize command engine.state with
  | .ok response state => .ok response { engine with state := state }
  | .error stop state => .error stop { engine with state := state }

/-- The response envelope to a request envelope; a refusal is a response too. -/
def execute (command : Bytes) : EStateM Breach Engine Bytes := fun engine =>
  match executeCommand command engine with
  | .ok response engine => .ok response engine
  | .error (.refused refusal) engine => .ok (Response.refusal refusal.responseCode) engine
  | .error (.breach breach) engine => .error breach engine

/-- The typed response to a typed request. -/
def run {α : Type} [Layout α] (β : Type) [Layout β] (command : CommandCode) (arguments : α)
    (sessions : List AuthCommand) : EStateM CommandStop Engine β := do
  let response ← executeCommand (RequestBuilder.request command arguments sessions)
  match Reply.parse response with
  | .error _ => throw (.refused ⟨command.code, Cause.failure.unattributed⟩)
  | .ok reply =>
    match reply.parameters β with
    | .error fault => throw (.refused ⟨command.code, fault⟩)
    | .ok answer => return answer

/-! ## Everything else that happens to an engine -/

/-- The engine whose environment is updated by `update`. -/
def withEnv (engine : Engine) (update : Environment → Environment) : Engine :=
  { engine with env := update engine.env }

/-- Loads a key into a hierarchy. -/
def loadKey (engine : Engine) (key : PublicKey) (hierarchy : UInt32) : Entity × Engine :=
  let (entity, objects) := engine.env.objects.load key hierarchy
  (entity, engine.withEnv ({ · with objects := objects }))

/-- Removes a key. -/
def unloadKey (engine : Engine) (handle : UInt32) : Option Entity × Engine :=
  let (entity, objects) := engine.env.objects.unload handle
  (entity, engine.withEnv ({ · with objects := objects }))

/-- Extends a PCR in every bank. -/
def extendPcr (engine : Engine) (index : Nat) (data : Bytes) : Except Cause Engine := do
  let pcrs ← engine.env.pcrs.extend index data
  return engine.withEnv ({ · with pcrs := pcrs })

/-- Changes the clock. -/
def withClock (engine : Engine) (update : Clock → Clock) : Engine :=
  engine.withEnv fun env => { env with clock := update env.clock }

/-- Enables or disables a hierarchy. -/
def setHierarchyEnabled (engine : Engine) (hierarchy : UInt32) (enabled : Bool) : Engine :=
  engine.withEnv fun env => { env with tickets := env.tickets.setEnabled hierarchy enabled }

/-- Replaces the set of commands. -/
def withCommands (engine : Engine) (commands : CommandSet) : Engine :=
  engine.withEnv ({ · with commands := commands })

end Engine

end TrustedPlatform
