import TrustedPlatform.Engine.Perform
import TrustedPlatform.Envelope.Response

/-!
# From request envelopes to response envelopes

`Engine.process` takes a request envelope through its stages: header, command, areas, live
sessions, handler, response, sessions used. A command either runs to its end or leaves the session
table as it was: the handler works on the table before it is known whether the response fits, and
the table as it was before is put back if anything stops the command. Draws are not taken back.
-/

namespace TrustedPlatform

/-- Why a command gave no response. -/
inductive CommandStop
  | refused (refusal : CommandFault)
  | breach (breach : Breach)
  deriving DecidableEq, Repr

/-- The stop of the command with this code. -/
def Stop.inCommand (commandCode : UInt32) : Stop → CommandStop
  | .fault f => .refused ⟨commandCode, f⟩
  | .breach b => .breach b

namespace Engine

/-! ## Before the handler -/

/-- The command of a code and the number of handles its request has, if the engine knows and accepts
the code. -/
def commandFor (commands : CommandSet) (code : UInt32) : Except Fault (Command × Nat) :=
  match Command.ofCode? code, commands.handleCount code with
  | some command, some count =>
    if commands.isImplemented code then .ok (command, count)
    else .error Cause.commandNotImplemented.unattributed
  | _, _ => .error Cause.commandNotImplemented.unattributed

/-- Fails unless the sessions of all entries, the first of which is authorization `index`, are live
or stand for a password. -/
def requireLive (table : SessionTable) : (index : UInt8) → List AuthCommand → Except Fault Unit
  | _, [] => .ok ()
  | index, entry :: entries =>
    if entry.sessionHandle = Handle.password ∨ table.contains entry.sessionHandle then
      requireLive table (index + 1) entries
    else .error (Cause.handleNotFound.atSession index)

/-- The command, and its request cut into areas. -/
def accept (env : Environment) (table : SessionTable) (header : RequestHeader) (command : Bytes) :
    Except Fault (Command × Request) := do
  let (kind, handleCount) ← commandFor env.commands header.commandCode
  let request ← Request.split header command handleCount
  requireLive table 1 request.sessions
  return (kind, request)

/-! ## After the handler -/

/-- The response to an authorization entry. A live session gets a new nonce; for a password, or a
session the command itself dropped, there is none. -/
def answerEntry (env : Environment) (entry : AuthCommand) : Action AuthResponse := do
  match ← Action.session? entry.sessionHandle with
  | some session =>
    let nonce ← Action.draw env.crypto session.hashAlg.digestSize
    return ⟨⟨nonce⟩, entry.attributes, .empty⟩
  | none => return ⟨.empty, SessionAttributes.empty.withContinue, .empty⟩

/-- The table after the use of one session: its nonces and attributes are those of the entry and its
response, and it is dropped unless it is to outlive the command. -/
def useSession (table : SessionTable) (entry : AuthCommand) (answer : AuthResponse) :
    SessionTable :=
  match SessionTable.touch entry.sessionHandle table with
  | .error _ table => table
  | .ok session table =>
    if entry.attributes.continues then
      table.insert entry.sessionHandle
        { session with
          nonceCaller := entry.nonce.bytes
          nonceTpm := answer.nonce.bytes
          attributes := entry.attributes }
    else table.erase entry.sessionHandle

/-- The table after the use of the sessions of all entries, in order. -/
def useSessions (table : SessionTable) (entries : List AuthCommand)
    (answers : List AuthResponse) : SessionTable :=
  (entries.zip answers).foldl (fun table use => useSession table use.1 use.2) table

/-- What a writer makes of an output. -/
def written {α : Type} (writer : Writer α) (out : Bytes) : Action Bytes :=
  match writer out with
  | .ok _ out => return out
  | .error stop _ => throw stop

/-- Carries out an accepted request and returns the response envelope, of at most `limit` octets. -/
def respond (env : Environment) (limit : Nat) (command : Command) (request : Request) :
    Action Bytes := do
  let arguments ← Action.ofFault
    (Layout.ofAreas command.Request request.handles request.parameters)
  let answer ← perform env command arguments
  let out ← written (do Response.begin; Response.append request.header.tag answer limit) []
  let answers ← request.sessions.mapM (answerEntry env)
  let out ← written (Response.finish request.header.tag answers limit) out
  modify fun state =>
    { state with sessions := useSessions state.sessions request.sessions answers }
  return out

/-! ## Whole commands -/

/-- Carries out the request envelope `command`. If it stops, the session table is what it was. -/
def process (env : Environment) (limit : Nat) (command : Bytes) :
    EStateM CommandStop State Bytes := fun state =>
  match RequestHeader.parse command with
  | .error cause => .error (.refused ⟨claimedCommandCode command, cause.unattributed⟩) state
  | .ok header =>
    match accept env state.sessions header command with
    | .error fault => .error (.refused ⟨header.commandCode, fault⟩) state
    | .ok (kind, request) =>
      match respond env limit kind request state with
      | .ok response state => .ok response state
      | .error stop stopped =>
        .error (stop.inCommand header.commandCode) { stopped with sessions := state.sessions }

end Engine

end TrustedPlatform
